import WatchHub.Text.Segments
import WatchHub.Text.Quoted

/-!
# Resource keys

The identity of one watched resource: five segments, written with slashes between them. Every text
with exactly four slashes is the text of one key; a segment that itself holds a slash makes a text
that cannot be read back.
-/

namespace WatchHub

/-- The identity of one watched resource. -/
structure Key where
  group : String
  version : String
  resource : String
  scope : String
  name : String
deriving DecidableEq, Inhabited, Repr

namespace Key

/-- The five segments in order. -/
def segments (k : Key) : List String :=
  [k.group, k.version, k.resource, k.scope, k.name]

/-- The key of five segments, which may hold anything. -/
def ofSegments? : List String → Option Key
  | [group, version, resource, scope, name] => some ⟨group, version, resource, scope, name⟩
  | _ => none

/-- The segments joined by slashes. -/
def text (k : Key) : String :=
  String.ofList (Segments.joined '/' (k.segments.map String.toList))

/-- A text that is not a key. -/
structure Malformed where
  text : String
deriving DecidableEq, Inhabited, Repr

/-- What is wrong with the text. -/
def Malformed.message (m : Malformed) : String :=
  "malformed resource key " ++ Quoted.quote m.text ++
    ": expected group/version/resource/namespace/name"

/-- Reads a key from its text: exactly five segments, any of them possibly empty. -/
def read (s : String) : Except Malformed Key :=
  match ofSegments? ((Segments.cut '/' s.toList).map String.ofList) with
  | some k => .ok k
  | none => .error ⟨s⟩

/-- The key that a text tells, if it tells one. -/
def parse? (s : String) : Option Key :=
  (read s).toOption

/-- Why a text is not a key. -/
def malformed (s : String) : String :=
  Malformed.message ⟨s⟩

/-- The key field by field. -/
def describe (k : Key) : String :=
  Quoted.record "ResourceKey"
    [("group", Quoted.quote k.group), ("version", Quoted.quote k.version),
      ("resource", Quoted.quote k.resource), ("namespace", Quoted.quote k.scope),
      ("name", Quoted.quote k.name)]

/-- Keys are ordered segment by segment, each segment by its code points. -/
instance : Ord Key where
  compare a b := compare a.segments b.segments

/-- Whether the first key is not after the second one. -/
def le (a b : Key) : Bool :=
  (compare a b).isLE

/-- Keys in ascending order, equal ones kept. -/
def sort (keys : List Key) : List Key :=
  keys.mergeSort le

end Key

end WatchHub
