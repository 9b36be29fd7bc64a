import WatchHub.Text.Numeral

/-!
# BLAKE3

The BLAKE3 digest of a list of bytes: chunks of 1024 bytes, each a chain of compressed blocks of 64,
joined by a binary tree whose left branches are complete and as large as possible.
-/

namespace WatchHub.Blake3

/-- Eight words: a chaining value. -/
abbrev Chain := Vector UInt32 8

/-- Sixteen words: a block, or the state of a compression. -/
abbrev Block := Vector UInt32 16

/-- The initial chaining value. -/
def initial : Chain :=
  #v[0x6a09e667, 0xbb67ae85, 0x3c6ef372, 0xa54ff53a, 0x510e527f, 0x9b05688c, 0x1f83d9ab, 0x5be0cd19]

/-- The order in which the words of a block enter the next round. -/
def schedule : Vector (Fin 16) 16 :=
  #v[2, 6, 3, 10, 7, 0, 4, 13, 1, 11, 12, 5, 9, 14, 15, 8]

/-- A word rotated to the right. -/
def rotate (x n : UInt32) : UInt32 :=
  (x >>> n) ||| (x <<< (32 - n))

/-- Stirs two words of a block into four words of the state. -/
def mix (v : Block) (a b c d : Fin 16) (x y : UInt32) : Block :=
  let v := v.set a (v[a] + v[b] + x)
  let v := v.set d (rotate (v[d] ^^^ v[a]) 16)
  let v := v.set c (v[c] + v[d])
  let v := v.set b (rotate (v[b] ^^^ v[c]) 12)
  let v := v.set a (v[a] + v[b] + y)
  let v := v.set d (rotate (v[d] ^^^ v[a]) 8)
  let v := v.set c (v[c] + v[d])
  v.set b (rotate (v[b] ^^^ v[c]) 7)

/-- One round: the columns of the state and then its diagonals. -/
def round (v m : Block) : Block :=
  let v := mix v 0 4 8 12 m[0] m[1]
  let v := mix v 1 5 9 13 m[2] m[3]
  let v := mix v 2 6 10 14 m[4] m[5]
  let v := mix v 3 7 11 15 m[6] m[7]
  let v := mix v 0 5 10 15 m[8] m[9]
  let v := mix v 1 6 11 12 m[10] m[11]
  let v := mix v 2 7 8 13 m[12] m[13]
  mix v 3 4 9 14 m[14] m[15]

/-- A number of rounds, the block reordered before each further one. -/
def rounds : Nat → Block → Block → Block
  | 0, v, _ => v
  | n + 1, v, m => rounds n (round v m) (schedule.map fun i => m[i])

/-- A compression about to be made. -/
structure Job where
  chain : Chain
  block : Block
  /-- The number of the chunk. -/
  counter : Nat
  /-- How many bytes of the block are data. -/
  length : Nat
  flags : UInt32

/-- The flag of the first block of a chunk. -/
def chunkStart : UInt32 := 1

/-- The flag of the last block of a chunk. -/
def chunkEnd : UInt32 := 2

/-- The flag of a node that joins two others. -/
def parentFlag : UInt32 := 4

/-- The flag of the last compression of all. -/
def rootFlag : UInt32 := 8

/-- Compresses; the first half of the state carries on. -/
def Job.run (j : Job) : Chain :=
  let tail : Chain :=
    #v[initial[0], initial[1], initial[2], initial[3], j.counter.toUInt32,
      (j.counter / UInt32.size).toUInt32, j.length.toUInt32, j.flags]
  let v := rounds 7 (j.chain ++ tail) j.block
  Vector.ofFn fun (i : Fin 8) => v[i.val] ^^^ v[i.val + 8]

/-- The number of four bytes, the lowest first. -/
def word : List UInt8 → UInt32
  | [] => 0
  | b :: bs => b.toUInt32 ||| (word bs <<< 8)

/-- At most 64 bytes as a block, zeros behind them. -/
def blockOf (bytes : List UInt8) : Block :=
  Vector.ofFn fun i => word ((bytes.drop (4 * i.val)).take 4)

/-- Lists of a fixed length that make up a list; only the last may be shorter, the first empty. -/
def pieces {α : Type} (size : Nat) (xs : List α) : List (List α) :=
  (List.range (Nat.max ((xs.length + size - 1) / size) 1)).map fun i =>
    (xs.drop (i * size)).take size

/-- The last job of a chunk, the blocks before it already compressed. -/
def chunkJob (counter : Nat) (chain : Chain) (first : Bool) : List (List UInt8) → Job
  | [] => ⟨chain, blockOf [], counter, 0, chunkEnd⟩
  | [bytes] =>
    ⟨chain, blockOf bytes, counter, bytes.length, (if first then chunkStart else 0) ||| chunkEnd⟩
  | bytes :: rest =>
    let job : Job := ⟨chain, blockOf bytes, counter, bytes.length, if first then chunkStart else 0⟩
    chunkJob counter job.run false rest

/-- The job that joins two nodes of the tree. -/
def parentJob (left right : Job) : Job :=
  ⟨initial, left.run ++ right.run, 0, 64, parentFlag⟩

/-- The largest power of two below a number that is at least two. -/
def leftSize (n : Nat) : Nat :=
  Nat.pow 2 (n - 1).log2

/-- The last job of a tree over chunks; the fuel bounds its height. -/
def treeJob : Nat → List Job → Job
  | _, [] => chunkJob 0 initial true []
  | _, [job] => job
  | 0, job :: _ => job
  | fuel + 1, jobs =>
    let n := leftSize jobs.length
    parentJob (treeJob fuel (jobs.take n)) (treeJob fuel (jobs.drop n))

/-- The digest of a list of bytes, as eight words. -/
def digest (bytes : List UInt8) : Chain :=
  let jobs := (pieces 1024 bytes).zipIdx.map fun (chunk, i) =>
    chunkJob i initial true (pieces 64 chunk)
  let job := treeJob jobs.length jobs
  { job with flags := job.flags ||| rootFlag }.run

/-- One byte as two hexadecimal digits. -/
def byteText (n : Nat) : List Char :=
  Numeral.hex 2 n

/-- A word byte by byte, the lowest first. -/
def wordText (w : UInt32) : List Char :=
  ([0, 8, 16, 24] : List UInt32).flatMap fun i => byteText ((w >>> i).toNat % 256)

/-- The digest of a list of bytes in hexadecimal digits. -/
def hexDigest (bytes : List UInt8) : String :=
  String.ofList ((digest bytes).toList.flatMap wordText)

end WatchHub.Blake3
