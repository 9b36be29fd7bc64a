import WatchHub.Text.Segments
import WatchHub.Text.Quoted

/-!
# Versions

The place of one event in the log of its key. The epoch is drawn when a log is opened and tells logs
apart; the sequence number counts the events of that log from one. A version is written as sixteen
hexadecimal digits, a dash and a decimal number.
-/

namespace WatchHub

/-- The place of one event in the log of its key. -/
structure Version where
  epoch : UInt64
  seq : Nat
deriving DecidableEq, Inhabited, Repr

namespace Version

/-- The text that a consumer keeps and hands back. -/
def text (v : Version) : String :=
  String.ofList (Numeral.hex 16 v.epoch.toNat ++ '-' :: Numeral.digits 10 v.seq)

/-- A text that is not a version. -/
structure Malformed where
  text : String
deriving DecidableEq, Inhabited, Repr

/-- What is wrong with the text. -/
def Malformed.message (m : Malformed) : String :=
  "malformed resource version " ++ Quoted.quote m.text

/-- Reads a version: cut at the first dash, a hexadecimal word before it and a decimal one after. -/
def read (s : String) : Except Malformed Version :=
  match Segments.cutOnce? '-' s.toList with
  | none => .error ⟨s⟩
  | some (epoch, seq) =>
    match Numeral.readWord? 16 epoch, Numeral.readWord? 10 seq with
    | some epoch, some seq => .ok ⟨epoch.toUInt64, seq⟩
    | _, _ => .error ⟨s⟩

/-- The version that a text tells, if it tells one. -/
def parse? (s : String) : Option Version :=
  (read s).toOption

/-- Why a text is not a version. -/
def malformed (s : String) : String :=
  Malformed.message ⟨s⟩

/-- The version field by field. -/
def describe (v : Version) : String :=
  Quoted.record "ResourceVersion"
    [("epoch", Numeral.decimal v.epoch.toNat), ("seq", Numeral.decimal v.seq)]

/-- Versions are ordered by epoch and then by sequence number. -/
instance : Ord Version where
  compare a b := (compare a.epoch b.epoch).then (compare a.seq b.seq)

/-- Versions in ascending order, equal ones kept. -/
def sort (versions : List Version) : List Version :=
  versions.mergeSort fun a b => (compare a b).isLE

end Version

end WatchHub
