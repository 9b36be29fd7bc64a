import WatchHub.Failure.System
import WatchHub.Table
import WatchHub.Tree.Path

/-!
# Disks

A tree of directories, files and symbolic links. Files are numbered, so that several names can stand
for one file. A path is followed name by name through directories and links.
-/

namespace WatchHub

/-- What one name stands for. -/
inductive Node where
  | file (number : Nat)
  | dir (entries : List (String × Node))
  | link (target : String)
deriving Inhabited, Repr

namespace Node

/-- What a name in a directory stands for. -/
def child? (name : String) : Node → Option Node
  | dir entries => Table.find? name entries
  | _ => none

/-- What is found under names one below the other; no link is followed. -/
def at? (n : Node) (names : List String) : Option Node :=
  names.foldlM (fun n name => n.child? name) n

/-- Replaces what is found under names one below the other, adds it, or with nothing removes it. -/
def put (new : Option Node) : List String → Node → Node
  | [], n => new.getD n
  | [name], dir entries =>
    dir (match new with
      | some m => Table.putRow name m entries
      | none => entries.filter fun e => e.1 ≠ name)
  | name :: rest, dir entries =>
    dir (entries.map fun e => if e.1 = name then (e.1, put new rest e.2) else e)
  | _, n => n

end Node

/-- The content of a file and the time of its last change, in seconds and nanoseconds. -/
structure FileData where
  bytes : List UInt8
  modified : Nat × Nat
deriving DecidableEq, Inhabited, Repr

/-- A tree of names and the files that they stand for. -/
structure Disk where
  top : Node
  files : List FileData
deriving Repr

/-- Where a path leads: the names from the top, and what is there, if anything. -/
structure Spot where
  names : List String
  node : Option Node
deriving Inhabited, Repr

namespace Disk

/-- The directory in which relative paths start. Its name has a slash, so that no path can name it:
whoever leaves it does not find back. -/
def work : String := "/"

/-- A disk with nothing but the directory in which relative paths start. -/
def empty : Disk :=
  ⟨.dir [(work, .dir [])], []⟩

instance : Inhabited Disk := ⟨empty⟩

/-- How many links one path may lead through. -/
def linkLimit : Nat := 40

/-- How many bytes a name may have. -/
def nameLimit : Nat := 255

/-- How many bytes a path may have. -/
def pathLimit : Nat := 4095

/-- Whether a path has too many bytes. -/
def isTooLong (path : String) : Bool :=
  pathLimit < path.utf8ByteSize

/-- Follows names from a place; the last one may stand for nothing yet. -/
def resolve (top : Node) (follow : Bool) (links : Nat) (here : List String) :
    List String → Except SystemFault Spot
  | [] => .ok ⟨here, top.at? here⟩
  | name :: rest =>
    match top.at? here with
    | some (.dir entries) =>
      if name = "." then resolve top follow links here rest
      else if name = ".." then resolve top follow links here.dropLast rest
      else if nameLimit < name.utf8ByteSize then .error .nameTooLong
      else
        match Table.find? name entries with
        | none => if rest.isEmpty then .ok ⟨here ++ [name], none⟩ else .error .missing
        | some (.link target) =>
          if rest.isEmpty && !follow then .ok ⟨here ++ [name], some (.link target)⟩
          else
            match links with
            | 0 => .error .linkLoop
            | links + 1 =>
              resolve top follow links (if PathText.isAbsolute target then [] else here)
                (PathText.names target ++ rest)
        | some node =>
          if rest.isEmpty then .ok ⟨here ++ [name], some node⟩
          else resolve top follow links (here ++ [name]) rest
    | _ => .error .notDirectory
termination_by names => (links, names.length)

/-- Where a path leads; a link at its end is followed on demand. -/
def locate (d : Disk) (follow : Bool) (path : String) : Except SystemFault Spot :=
  if path.toList.contains (Char.ofNat 0) then .error .nullInPath
  else if path = "" then .error .missing
  else if isTooLong path then .error .nameTooLong
  else
    resolve d.top follow linkLimit (if PathText.isAbsolute path then [] else [work])
      (PathText.names path)

/-- The content of a numbered file. -/
def fileAt (d : Disk) (number : Nat) : FileData :=
  d.files.getD number default

/-- Puts something at a place, or with nothing removes what is there. -/
def putNode (d : Disk) (names : List String) (new : Option Node) : Disk :=
  { d with top := Node.put new names d.top }

end Disk

/-- A change of a disk; one that cannot be made changes nothing. -/
inductive Mutation where
  /-- Replaces the content of a file, which is made if it does not exist. -/
  | write (path : String) (bytes : List UInt8) (modified : Nat × Nat)
  | touch (path : String) (modified : Nat × Nat)
  /-- Makes a directory and those above it. -/
  | makeDir (path : String)
  | symlink (path target : String)
  | rename (path target : String)
  /-- Gives a file another name. -/
  | hardLink (path target : String)
  /-- Removes a file, a link, or a directory with everything below it. -/
  | remove (path : String)
deriving DecidableEq, Inhabited, Repr

namespace Disk

/-- Writes a file. -/
def write (d : Disk) (path : String) (data : FileData) : Disk :=
  match d.locate true path with
  | .ok ⟨_, some (.file n)⟩ => { d with files := d.files.set n data }
  | .ok ⟨names, none⟩ =>
    { d with files := d.files ++ [data] }.putNode names (some (.file d.files.length))
  | _ => d

/-- Changes the time of a file. -/
def touch (d : Disk) (path : String) (modified : Nat × Nat) : Disk :=
  match d.locate true path with
  | .ok ⟨_, some (.file n)⟩ =>
    { d with files := d.files.modify n fun data => { data with modified := modified } }
  | _ => d

/-- Makes one directory, unless there is something. -/
def makeOne (d : Disk) (path : String) : Disk :=
  match d.locate false path with
  | .ok ⟨names, none⟩ => d.putNode names (some (.dir []))
  | _ => d

/-- Makes a directory and those above it. -/
def makeDir (d : Disk) (path : String) : Disk :=
  let names := (PathText.names path).filter (· ≠ ".")
  let base := if PathText.isAbsolute path then "/" else ""
  if isTooLong path then d
  else
    ((List.range names.length).map fun i =>
      base ++ String.intercalate "/" (names.take (i + 1))).foldl makeOne d

/-- Makes a symbolic link, unless there is something. -/
def symlink (d : Disk) (path target : String) : Disk :=
  match d.locate false path with
  | .ok ⟨names, none⟩ =>
    if target = "" || isTooLong target then d else d.putNode names (some (.link target))
  | _ => d

/-- Whether one thing may take the place of another. -/
def mayReplace : Node → Option Node → Bool
  | _, none => true
  | .dir _, some (.dir entries) => entries.isEmpty
  | .dir _, some _ => false
  | .file n, some (.file m) => n ≠ m
  | _, some (.dir _) => false
  | _, some _ => true

/-- Whether something is a directory. -/
def isDir : Node → Bool
  | .dir _ => true
  | _ => false

/-- Where the entry is that a path names by its last name, which may have slashes behind it. -/
def locateEntry (d : Disk) (path : String) : Except SystemFault Spot :=
  if isTooLong path then .error .nameTooLong
  else
    let bare := PathText.dropSlashes path
    if (PathText.names bare).getLast?.all fun name => name = "." || name = ".." then
      .error .busy
    else d.locate false bare

/-- Moves something to another place; only a directory may have a slash behind either name. -/
def rename (d : Disk) (path target : String) : Disk :=
  match d.locateEntry path, d.locateEntry target with
  | .ok ⟨source, some node⟩, .ok ⟨goal, there⟩ =>
    if source.isPrefixOf goal || goal.isPrefixOf source || !mayReplace node there
        || (!isDir node && (PathText.hasSlashes path || PathText.hasSlashes target)) then d
    else (d.putNode source none).putNode goal (some node)
  | _, _ => d

/-- Gives a file another name, unless there is something. -/
def hardLink (d : Disk) (path target : String) : Disk :=
  match d.locate false path, d.locate false target with
  | .ok ⟨_, some (.file n)⟩, .ok ⟨names, none⟩ => d.putNode names (some (.file n))
  | .ok ⟨_, some (.link t)⟩, .ok ⟨names, none⟩ => d.putNode names (some (.link t))
  | _, _ => d

/-- Removes what a path stands for. -/
def remove (d : Disk) (path : String) : Disk :=
  match d.locate false path with
  | .ok ⟨names, some _⟩ => d.putNode names none
  | _ => d

/-- The disk after a change. -/
def mutate (d : Disk) : Mutation → Disk
  | .write path bytes modified => d.write path ⟨bytes, modified⟩
  | .touch path modified => d.touch path modified
  | .makeDir path => d.makeDir path
  | .symlink path target => d.symlink path target
  | .rename path target => d.rename path target
  | .hardLink path target => d.hardLink path target
  | .remove path => d.remove path

/-- The disk after changes one after the other. -/
def mutateAll (d : Disk) (changes : List Mutation) : Disk :=
  changes.foldl mutate d

end Disk

end WatchHub
