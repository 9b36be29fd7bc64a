import WatchHub.Branch.RefName
import WatchHub.Branch.Revision.Fault
import WatchHub.Failure.System
import WatchHub.Text.Numeral

/-!
# References

What the file of a reference holds, and how a reference is found by its name. The file holds the
identifier of a commit or the name of another reference; a name that is not whole is looked for in
several places.
-/

namespace WatchHub

/-- What a reference stands for: a commit, or another reference. -/
inductive RefTarget where
  | commit (id : String)
  | symbolic
deriving DecidableEq, Inhabited, Repr

namespace RefTarget

/-- A digit of an identifier. -/
def isIdDigit (c : Char) : Bool :=
  (0x30 ≤ c.toNat && c.toNat ≤ 0x39) || (0x61 ≤ c.toNat && c.toNat ≤ 0x66)

/-- How many digits an identifier has. -/
def idLength : Nat := 40

/-- What precedes the name of another reference. -/
def arrow : List Char := "ref: ".toList

/-- Reads the content of a file: the name of another reference up to the end of its line, or an
identifier, whatever follows it. -/
def ofContent? (bytes : List UInt8) : Option RefTarget :=
  let content := bytes.map fun b => Char.ofNat b.toNat
  if arrow.isPrefixOf content then
    let name := ((content.drop arrow.length).dropWhile (· = ' ')).takeWhile fun c =>
      c ≠ '\r' && c ≠ '\n'
    if RefName.isWhole name then some .symbolic else none
  else
    let id := content.take idLength
    if id.length = idLength ∧ id.all isIdDigit then some (.commit (String.ofList id)) else none

end RefTarget

/-- A reference that was found, under its whole name. -/
structure Reference where
  name : String
  target : RefTarget
deriving DecidableEq, Inhabited, Repr

/-- The files of a repository: the content under a whole name, if there is such a file. -/
abbrev RefFiles := String → Except SystemFault (Option (List UInt8))

namespace Reference

/-- Looks for a reference in one place after the other. -/
def findIn (files : RefFiles) : List String → Except RevisionFault (Option Reference)
  | [] => .ok none
  | place :: places =>
    match files place with
    | .error _ => .error .lookupFailed
    | .ok none => findIn files places
    | .ok (some bytes) =>
      match RefTarget.ofContent? bytes with
      | some target => .ok (some ⟨place, target⟩)
      | none => .error .lookupFailed

/-- Finds a reference by a name. -/
def find (files : RefFiles) (name : String) : Except RevisionFault Reference :=
  if RefName.isValid name.toList then
    match findIn files (RefName.places name) with
    | .ok (some ref) => .ok ref
    | .ok none => .error (.noSuchRef name)
    | .error fault => .error fault
  else .error .lookupFailed

end Reference

end WatchHub
