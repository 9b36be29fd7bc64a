import WatchHub.Digest.Blake3
import WatchHub.Failure
import WatchHub.Tree.Disk
import WatchHub.Tree.Observer

/-!
# Scans

The state of every file below a root, in the order of their paths. A scan is made from what a walk
through the tree comes upon, in whatever order; the first fault ends it.
-/

namespace WatchHub

/-- A moment as a file system tells it. -/
structure FileTime where
  /-- The seconds since the start of 1970; negative before it. -/
  seconds : Int
  nanos : Nat
deriving DecidableEq, Inhabited, Repr

/-- The state of one file. -/
structure FileState where
  path : TreePath
  size : Nat
  /-- When the file was last changed, if the platform tells. -/
  modified? : Option FileTime
  /-- The digest of the first bytes of the content. -/
  checksum : String
deriving DecidableEq, Inhabited, Repr

namespace FileState

/-- How many bytes of the content enter the checksum. -/
def checkedBytes : Nat := 8192

/-- The state of a file with a given content. -/
def of (path : TreePath) (size : Nat) (modified? : Option FileTime) (bytes : List UInt8) :
    FileState :=
  ⟨path, size, modified?, Blake3.hexDigest (bytes.take checkedBytes)⟩

/-- The time of the last change as it is shown, in seconds and nanoseconds since the start of 1970. -/
def modified (f : FileState) : Nat × Nat :=
  match f.modified? with
  | some t => (t.seconds.toNat, t.nanos)
  | none => (0, 0)

/-- Whether two states of one file differ. -/
def differs (a b : FileState) : Bool :=
  a.size ≠ b.size || a.modified? ≠ b.modified? || a.checksum ≠ b.checksum

end FileState

/-- The states of files in the order of their paths, one for each path. -/
structure Scan where
  files : List FileState
deriving DecidableEq, Inhabited, Repr

namespace Scan

/-- No files. -/
def empty : Scan := ⟨[]⟩

/-- Whether one path comes before another. -/
def before (p q : TreePath) : Bool :=
  p.parts < q.parts

/-- The state of the file at a path. -/
def get? (s : Scan) (p : TreePath) : Option FileState :=
  s.files.find? fun f => f.path = p

/-- Puts a state at its place in a list in the order of paths. -/
def place (f : FileState) : List FileState → List FileState
  | [] => [f]
  | g :: rest =>
    if g.path = f.path then f :: rest
    else if before f.path g.path then f :: g :: rest
    else g :: place f rest

/-- Sets the state of a file. -/
def insert (s : Scan) (f : FileState) : Scan :=
  ⟨place f s.files⟩

/-- Forgets a file. -/
def erase (s : Scan) (p : TreePath) : Scan :=
  ⟨s.files.filter fun f => f.path ≠ p⟩

end Scan

/-- What a walk through a tree comes upon. -/
inductive Visit where
  /-- A regular file, whose content may turn out unreadable. -/
  | file (path : TreePath) (size : Nat) (modified? : Option FileTime)
      (content : Except SystemFault (List UInt8))
  /-- A directory or a symbolic link. -/
  | other (path : TreePath)
  /-- The walk failed at a path. -/
  | fault (path : String) (fault : SystemFault)
deriving Repr

namespace Scan

/-- The fault of a walk, as it reports itself. -/
def walkFault (path : String) (fault : SystemFault) : SystemFault :=
  .custom ("IO error for operation on " ++ path ++ ": " ++ fault.text)

/-- The scan with one more thing that a walk came upon. -/
def visit (s : Scan) : Visit → Except ObserverFailure Scan
  | .other _ => .ok s
  | .fault path fault => .error (.io path (walkFault path fault))
  | .file path size modified? (.ok bytes) => .ok (s.insert (.of path size modified? bytes))
  | .file path _ _ (.error fault) => .error (.io path.text fault)

/-- The scan of everything that a walk came upon, or its first fault. -/
def ofVisits (visits : List Visit) : Except ObserverFailure Scan :=
  visits.foldlM visit empty

end Scan

/-- When a file was last changed; a disk always tells it. -/
def FileData.time? (data : FileData) : Option FileTime :=
  some ⟨data.modified.1, data.modified.2⟩

namespace Disk

mutual

/-- What a walk comes upon at a node and below it; links are not followed. A directory or a file
whose path has grown too long cannot be opened. -/
def visitsOf (d : Disk) (path : TreePath) : Node → List Visit
  | .file n =>
    let data := d.fileAt n
    if isTooLong path.text then [.fault path.text .nameTooLong]
    else [.file path data.bytes.length data.time? (.ok data.bytes)]
  | .dir entries =>
    if isTooLong path.text then [.fault path.text .nameTooLong]
    else .other path :: visitsIn d path entries
  | .link _ => [.other path]

/-- What a walk comes upon in a directory. -/
def visitsIn (d : Disk) (path : TreePath) : List (String × Node) → List Visit
  | [] => []
  | (name, node) :: rest =>
    visitsOf d { path with below := path.below ++ [name] } node ++ visitsIn d path rest

end

/-- What a walk comes upon from a root on. A root that is a link is followed to a directory. -/
def visits (d : Disk) (root : String) : List Visit :=
  let path : TreePath := ⟨root, []⟩
  match d.locate false root with
  | .error fault => [.fault root fault]
  | .ok ⟨_, none⟩ => [.fault root .missing]
  | .ok ⟨_, some (.link _)⟩ =>
    match d.locate true root with
    | .error fault => [.fault root fault]
    | .ok ⟨_, none⟩ => [.fault root .missing]
    | .ok ⟨_, some (.dir entries)⟩ => .other path :: d.visitsIn path entries
    | .ok ⟨_, some _⟩ => [.other path]
  | .ok ⟨_, some node⟩ => d.visitsOf path node

/-- The scan of everything below a root. -/
def scan (d : Disk) (root : String) : Except ObserverFailure Scan :=
  Scan.ofVisits (d.visits root)

end Disk

namespace TreeObserver

/-- The files below the root of an observer, in the order of their paths. -/
def list (o : TreeObserver) (d : Disk) : Except ObserverFailure (List FileState) :=
  match d.scan o.root with
  | .ok scan => .ok scan.files
  | .error failure => .error (.list name failure.message)

end TreeObserver

end WatchHub
