/-!
# Reading UTF-8

Bytes as text. What is not well formed becomes replacement characters: one for each longest run of
bytes that begins a character and cannot be completed.
-/

namespace WatchHub.Utf8

/-- The character that stands for malformed bytes. -/
def replacement : Char := Char.ofNat 0xfffd

/-- A character of which some bytes were read. -/
structure Part where
  code : Nat
  /-- How many bytes are missing. -/
  missing : Nat
  /-- The bounds of the next byte. -/
  low : Nat
  high : Nat
deriving DecidableEq, Inhabited, Repr

/-- What a byte begins: a whole character, a part of one, or nothing. -/
inductive Begin where
  | whole (c : Char)
  | part (p : Part)
  | malformed
deriving DecidableEq, Inhabited, Repr

/-- What a byte begins. -/
def begins (b : Nat) : Begin :=
  if b < 0x80 then .whole (Char.ofNat b)
  else if b < 0xc2 then .malformed
  else if b < 0xe0 then .part ⟨b - 0xc0, 1, 0x80, 0xbf⟩
  else if b < 0xf0 then
    .part ⟨b - 0xe0, 2, if b = 0xe0 then 0xa0 else 0x80, if b = 0xed then 0x9f else 0xbf⟩
  else if b < 0xf5 then
    .part ⟨b - 0xf0, 3, if b = 0xf0 then 0x90 else 0x80, if b = 0xf4 then 0x8f else 0xbf⟩
  else .malformed

/-- The characters that a byte completes when nothing was begun, and what it begins. -/
def startWith (b : Nat) : List Char × Option Part :=
  match begins b with
  | .whole c => ([c], none)
  | .part p => ([], some p)
  | .malformed => ([replacement], none)

/-- The characters that a byte completes, and what remains begun. -/
def step (begun : Option Part) (b : Nat) : List Char × Option Part :=
  match begun with
  | none => startWith b
  | some p =>
    if p.low ≤ b ∧ b ≤ p.high then
      let code := p.code * 64 + (b - 0x80)
      if p.missing ≤ 1 then ([Char.ofNat code], none)
      else ([], some ⟨code, p.missing - 1, 0x80, 0xbf⟩)
    else
      let (cs, begun) := startWith b
      (replacement :: cs, begun)

/-- Reads bytes behind a character that was begun. -/
def readFrom (begun : Option Part) : List UInt8 → List Char
  | [] => if begun.isSome then [replacement] else []
  | b :: bs =>
    let (cs, begun) := step begun b.toNat
    cs ++ readFrom begun bs

/-- Reads bytes as text. -/
def read (bytes : List UInt8) : List Char :=
  readFrom none bytes

end WatchHub.Utf8
