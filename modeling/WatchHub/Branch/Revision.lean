import WatchHub.Branch.Reference
import WatchHub.Branch.Revision.Moment

/-!
# Revisions

A revision is the name of a reference, perhaps followed by steps from the commit that it stands for:
to an ancestor, to what is behind an object, or back in its history; two revisions make a range. It
is read from left to right. Here only the references of a repository are known and none of its
objects, so that a step can be made only where it leads nowhere else.

An observer does not read revisions by itself but leaves them to a library of repositories. What
follows, with the moments and the faults, stands in for that library and was modelled on what it
answers; no law of the observers rests on it, as they know a clone only by the answers of `Clone.tip`.
-/

namespace WatchHub.Revision

/-! ## Names -/

/-- Whether a character always ends the name in front of it. -/
def isMark (c : Char) : Bool :=
  c = '~' || c = '^' || c = ':'

/-- Cuts a revision behind its name: at a mark, at two points, or at the sign that opens the history.
That sign ends a name also where it stands alone, at the beginning or behind a point. -/
def cut : (alone : Bool) → List Char → List Char × List Char
  | _, [] => ([], [])
  | _, '.' :: '.' :: rest => ([], '.' :: '.' :: rest)
  | alone, c :: rest =>
    if isMark c || (c = '@' && (rest.head? = some '{' || (alone && rest.isEmpty))) then
      ([], c :: rest)
    else
      let (name, after) := cut (c = '.') rest
      (c :: name, after)

/-- A hexadecimal digit of either case. -/
def isHexDigit (c : Char) : Bool :=
  (Numeral.digitValue? 16 c).isSome

/-- A part of a name that describes an object: the letter g and hexadecimal digits. -/
def describes : List Char → Bool
  | 'g' :: digits => digits.all isHexDigit
  | _ => false

/-- The digits of the last part that describes an object, with something in front of it. -/
def longDigits? (name : List Char) : Option (List Char) :=
  match (Segments.cut '-' name).reverse.dropWhile fun part => !describes part with
  | (_ :: digits) :: before => if before.any (!·.isEmpty) then some digits else none
  | _ => none

/-- The digits of a name that has one more part, which says that something was changed. -/
def shortDigits? (name : List Char) : Option (List Char) :=
  match Segments.cut '-' name with
  | [digits, _] => if digits.all isHexDigit then some digits else none
  | _ => none

/-- The fault of digits that could begin the identifier of an object. -/
def missingPrefix? (digits : List Char) : Option RevisionFault :=
  if digits.all isHexDigit ∧ 4 ≤ digits.length ∧ digits.length ≤ RefTarget.idLength then
    some (.noSuchPrefix (String.ofList (digits.map Char.toLower)))
  else none

/-- The fault of a name that could also mean an object; it matters only if something else fails. -/
def doubt? (name : List Char) : Option RevisionFault :=
  missingPrefix? name <|> ((longDigits? name <|> shortDigits? name) >>= missingPrefix?)

/-! ## Steps -/

/-- How the steps of a revision end. -/
inductive Closing where
  | plain
  /-- The commit without what its parents lead to. -/
  | alone
  /-- Only what the parents lead to. -/
  | parents
deriving DecidableEq, Inhabited, Repr

/-- Reads up to the brace that closes an opened one. A backslash in front of a brace or a backslash
keeps it from counting and is left out. -/
def braced : (depth : Nat) → List Char → Option (List Char × List Char)
  | _, [] => none
  | depth, '\\' :: c :: rest =>
    let escaped := if ['{', '}', '\\'].contains c then [c] else ['\\', c]
    (braced depth rest).map fun p => (escaped ++ p.1, p.2)
  | depth, '{' :: rest => (braced (depth + 1) rest).map fun p => ('{' :: p.1, p.2)
  | 0, '}' :: rest => some ([], rest)
  | depth + 1, '}' :: rest => (braced depth rest).map fun p => ('}' :: p.1, p.2)
  | depth, c :: rest => (braced depth rest).map fun p => (c :: p.1, p.2)

/-- The fault of looking for an object that a reference stands for. -/
def missingObject : RefTarget → RevisionFault
  | .commit id => .noSuchObject id
  | .symbolic => .malformed

/-- The fault of going back to an ancestor. -/
def missingAncestor (number : Nat) : RefTarget → RevisionFault
  | .commit id => .noAncestor id number
  | .symbolic => .malformed

/-- The names of what can be behind an object; nothing stands for whatever a tag is about. -/
def kinds : List String :=
  ["commit", "tag", "tree", "blob", "object", ""]

/-- The fault of the braces behind a step to what is behind an object. -/
def peelFault (doubt : Option RevisionFault) (target : RefTarget) (rest : List Char) :
    RevisionFault :=
  match braced 0 rest with
  | none => .unclosed (String.ofList ('{' :: rest))
  | some (kind, _) =>
    let kind := String.ofList kind
    if kinds.contains kind || kind.toList.head? = some '/' then
      doubt.getD (missingObject target)
    else .unknownKind kind

/-- The fault of a numbered step to a parent, whose digits may have dashes among them. -/
def parentFault (doubt : Option RevisionFault) (target : RefTarget) (digits : List Char) :
    RevisionFault :=
  if digits = ['-'] then doubt.getD (missingObject target)
  else
    match Numeral.readSigned? digits with
    | none => .badNumber (String.ofList digits)
    | some n =>
      if n = 0 && digits.head? = some '-' then .negativeZero (String.ofList digits)
      else doubt.getD (missingObject target)

/-- The number of a step back, one if there is none, and the rest behind it. -/
def stepsBack (rest : List Char) : Except RevisionFault (Nat × List Char) :=
  let digits := rest.takeWhile Char.isDigit
  if rest.head? = some '-' || rest.head? = some '+' then .error (.signed (String.ofList rest))
  else if digits.isEmpty then .ok (1, rest)
  else
    match Numeral.readWord? 10 digits with
    | some n => .ok (n, rest.drop digits.length)
    | none => .error (.badNumber (String.ofList digits))

/-- Makes the steps behind a name, as far as they can be made; each takes something away, so that
their number is bounded by the length of the text. -/
def walk (doubt : Option RevisionFault) (target : RefTarget) :
    Nat → List Char → Except RevisionFault (Closing × List Char)
  | 0, rest => .ok (.plain, rest)
  | fuel + 1, rest =>
    match rest with
    | '~' :: rest =>
      match stepsBack rest with
      | .error fault => .error fault
      | .ok (0, rest) => walk doubt target fuel rest
      | .ok (n, _) => .error (doubt.getD (missingAncestor n target))
    | '^' :: '{' :: '/' :: '}' :: rest => walk doubt target fuel rest
    | '^' :: '{' :: rest => .error (peelFault doubt target rest)
    | '^' :: '!' :: rest => .ok (.alone, rest)
    | '^' :: '@' :: rest => .ok (.parents, rest)
    | '^' :: '+' :: rest => .error (.signed (String.ofList ('+' :: rest)))
    | '^' :: rest =>
      let digits := rest.takeWhile fun c => c.isDigit || c = '-'
      .error (if digits.isEmpty then doubt.getD (missingObject target)
        else parentFault doubt target digits)
    | ':' :: _ => .error (doubt.getD (missingObject target))
    | rest => .ok (.plain, rest)

/-- The words for the branch that a branch follows. -/
def followed : List String := ["u", "up" ++ "stream"]

/-- The fault of going back in the history of a reference, which none has. -/
def historyFault (doubt : Option RevisionFault) (name : String) (entry : List Char) :
    RevisionFault :=
  let text := String.ofList entry
  let word := String.ofList (entry.map Char.toLower)
  match Numeral.readSigned? entry with
  | some n =>
    if n = 0 && entry.head? = some '-' then .negativeZero text
    else if n < 0 then .negativeEntry text
    else doubt.getD (.noHistory name false)
  | none =>
    if followed.contains word then doubt.getD (.noSibling name false)
    else if word = "push" then doubt.getD (.noSibling name true)
    else if Moment.isMoment entry then doubt.getD (.noHistory name true)
    else .badTime text

/-! ## Reading -/

/-- What was read of one side of a revision. -/
structure Side where
  target : RefTarget
  closing : Closing
  rest : List Char
  doubt : Option RevisionFault
deriving DecidableEq, Repr

/-- Reads one side of a revision; a doubt from before comes first. -/
def side (files : RefFiles) (doubt : Option RevisionFault) (text : List Char) :
    Except RevisionFault Side :=
  let (name, rest) := cut true text
  let doubt := doubt <|> doubt? name
  match Reference.find files (String.ofList name) with
  | .error fault => .error (doubt.getD fault)
  | .ok ref =>
    match rest with
    | '@' :: '{' :: rest =>
      match braced 0 rest with
      | none => .error (.unclosed (String.ofList ('{' :: rest)))
      | some (entry, _) => .error (historyFault doubt ref.name entry)
    | rest =>
      match walk doubt ref.target rest.length rest with
      | .ok (closing, rest) => .ok ⟨ref.target, closing, rest, doubt⟩
      | .error fault => .error fault

/-- The reference that a side without a name means. -/
def head : List Char := "HEAD".toList

/-- Reads the other side of a range, after the first. -/
def otherSide (files : RefFiles) (first : Side) (text : List Char) : Except RevisionFault Side :=
  side files first.doubt (if text = [] ∨ text = ['@'] then head else text)

/-- The fault of a range, of which both sides were read. -/
def rangeFault (text : String) (first other : Side) : RevisionFault :=
  match other.rest, first.target, other.target with
  | [], .commit _, .commit _ => .notSingle text
  | [], _, _ => .malformed
  | rest, _, _ => .unread (String.ofList rest)

/-- The commit that a revision tells. -/
def resolve (files : RefFiles) (text : String) : Except RevisionFault String := do
  let first ← side files none text.toList
  match first.closing, first.rest with
  | .plain, '.' :: '.' :: rest =>
    let other ← otherSide files first (if rest.head? = some '.' then rest.drop 1 else rest)
    .error (rangeFault text first other)
  | closing, [] =>
    match closing, first.target with
    | .parents, .commit _ => .error (.notSingle text)
    | _, .commit id => .ok id
    | _, .symbolic => .error .malformed
  | _, rest => .error (.unread (String.ofList rest))

end WatchHub.Revision
