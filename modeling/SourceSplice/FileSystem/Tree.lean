import SourceSplice.FileSystem
/-!
# A tree of files

Directories, files, a few devices and links, as a process with a working directory sees them. A
path is followed one component at a time: every component but the last must lead to a directory,
and so must the last one if a slash follows it. The fault that a lookup gives is the first one met
on the way.
-/

namespace SourceSplice

-- which instance is found for contents would else depend on what is imported
instance decidableEqContent : DecidableEq ByteArray := ByteArray.decEq

/-- What stands at a place in a tree. -/
inductive Entry where
  | file (content : ByteArray)
  | directory
  /-- A device that takes everything and holds nothing. -/
  | nullDevice
  /-- A device that has no room for a single byte. -/
  | fullDevice
  | standardOutput
  | standardError
  /-- The terminal of a process that has none: it is there but does not open. -/
  | noTerminal
  /-- A link to a place at which no link stands. -/
  | link (target : List String)
  /-- A link to the working directory. -/
  | workingLink
  deriving DecidableEq

/-- A place in a tree: the names on the way from its root. -/
abbrev Place := List String

/-- A tree of files and the directory that relative paths start from. -/
structure FileTree where
  /-- What stands where, apart from the root, which is a directory. -/
  entries : List (Place × Entry)
  working : Place
  deriving DecidableEq

namespace FileTree

def entry? (t : FileTree) (place : Place) : Option Entry :=
  if place = [] then some .directory else t.entries.lookup place

def remove (t : FileTree) (place : Place) : FileTree :=
  { t with entries := t.entries.filter (·.1 != place) }

/-- Puts an entry at a place, instead of any former one. -/
def put (t : FileTree) (place : Place) (entry : Entry) : FileTree :=
  let others := t.remove place
  { others with entries := (place, entry) :: others.entries }

/-- The directories on the way to a place, and the place itself. -/
def placesDownTo (place : Place) : List Place :=
  (List.range place.length).map fun n => place.take (n + 1)

/-- Makes sure that there are directories all the way to a place. -/
def makeDirectories (t : FileTree) (place : Place) : FileTree :=
  (placesDownTo place).foldl
    (fun t above => if (t.entry? above).isSome then t else t.put above .directory) t

/-- The directories that every tree has. -/
def systemDirectories : List Place :=
  ["bin", "boot", "dev", "etc", "home", "lib", "lib64", "media", "mnt", "opt", "proc", "root", "run",
    "sbin", "srv", "sys", "tmp", "usr", "var"].map ([·]) ++
    [["dev", "pts"], ["dev", "shm"], ["proc", "self"], ["proc", "self", "fd"]]

/-- The place at which a process finds what it holds open under a number. -/
def descriptor (number : Nat) : Place :=
  ["proc", "self", "fd", toString number]

/-- What a process finds in every tree beside directories: devices, links, and its three streams.
Its standard input is empty, so it is a null device. -/
def devices : List (Place × Entry) :=
  [(["dev", "null"], .nullDevice), (["dev", "full"], .fullDevice), (["dev", "tty"], .noTerminal),
    (["dev", "fd"], .link ["proc", "self", "fd"]), (["dev", "stdin"], .link (descriptor 0)),
    (["dev", "stdout"], .link (descriptor 1)), (["dev", "stderr"], .link (descriptor 2)),
    (["proc", "self", "cwd"], .workingLink), (["proc", "self", "root"], .link []),
    (descriptor 0, .nullDevice), (descriptor 1, .standardOutput), (descriptor 2, .standardError)]

/-- The surroundings of a process in every tree. -/
def surroundings : List (Place × Entry) :=
  systemDirectories.map (fun place => (place, .directory)) ++ devices

/-- A tree with an empty working directory and the surroundings of a process. -/
def inDirectory (working : Place) : FileTree :=
  makeDirectories { entries := surroundings, working } working

/-- A name that no path spells, because it holds a slash. -/
def privateName (name : String) : String :=
  "/" ++ name

/-- A tree with an empty working directory in a place of its own, which no path from the root leads
to. -/
def empty : FileTree :=
  inDirectory ["tmp", privateName ""]

/-- What a place leads to: a link leads elsewhere, everything else to itself. -/
def resolve (t : FileTree) (place : Place) : Option (Place × Entry) :=
  match t.entry? place with
  | some (.link target) => (t.entry? target).map fun entry => (target, entry)
  | some .workingLink => some (t.working, .directory)
  | some entry => some (place, entry)
  | none => none

def maxName : Nat := 255

/-- The bytes that a whole path must stay below. -/
def pathLimit : Nat := 4096

/-- Follows names from a place. -/
def walk (t : FileTree) : List String → Place → Entry → Except SystemFault (Place × Entry)
  | [], place, entry => .ok (place, entry)
  | name :: names, place, entry =>
    if entry ≠ .directory then .error .notADirectory
    else if name = "" ∨ name = "." then walk t names place entry
    else if name = ".." then walk t names place.dropLast .directory
    else if maxName < name.utf8ByteSize then .error .nameTooLong
    else
      match t.resolve (place ++ [name]) with
      | some (place, entry) => walk t names place entry
      | none => .error .noSuchEntry

/-- Where a path starts: at the root if a slash is its first character. -/
def origin (t : FileTree) (path : String) : Place :=
  if path.startsWith "/" then [] else t.working

/-- The names of a path that can be passed on to the system. -/
def names (path : String) : Except Fault (List String) :=
  if path.toList.contains '\x00' then .error .nullInPath
  else if pathLimit ≤ path.utf8ByteSize then .error (.system .nameTooLong)
  else if path = "" then .error (.system .noSuchEntry)
  else .ok (path.splitOn "/")

/-- What a path leads to. -/
def find (t : FileTree) (path : String) : Except Fault (Place × Entry) :=
  match names path with
  | .error fault => .error fault
  | .ok names => (t.walk names (t.origin path) .directory).mapError .system

/-- Whether a place is in the system's own part of the tree, in which no file can be made. -/
def isSystemPlace (place : Place) : Bool :=
  place.head? == some "proc"

/-- Where a file can be written under a path, and what stands there. A directory cannot be written
over, and a path that ends in a slash names no file. -/
def target (t : FileTree) (path : String) : Except Fault (Place × Option Entry) :=
  match names path with
  | .error fault => .error fault
  | .ok names =>
    let isBlank (name : String) : Bool := name == ""
    let trailing := (names.reverse.takeWhile isBlank).length
    match names.reverse.dropWhile isBlank with
    | [] => .error (.system .isADirectory)
    | last :: before =>
      match t.walk (before.reverse ++ [""]) (t.origin path) .directory with
      | .error fault => .error (.system fault)
      | .ok (place, _) =>
        if last = "." ∨ last = ".." ∨ 0 < trailing then .error (.system .isADirectory)
        else if maxName < last.utf8ByteSize then .error (.system .nameTooLong)
        else
          match t.resolve (place ++ [last]) with
          | some (_, .directory) => .error (.system .isADirectory)
          | some (_, .noTerminal) => .error (.system .noSuchDevice)
          | some (place, entry) => .ok (place, some entry)
          | none =>
            if isSystemPlace place then .error (.system .noSuchEntry)
            else .ok (place ++ [last], none)

/-- The places that following a path may come through, the first one first. -/
def placesToward (t : FileTree) (path : String) : List Place :=
  let step (place : Place) (name : String) : Place :=
    if name = "" ∨ name = "." then place
    else if name = ".." then place.dropLast
    else ((t.resolve (place ++ [name])).map (·.1)).getD (place ++ [name])
  let visit (visited : Place × List Place) (name : String) : Place × List Place :=
    (step visited.1 name, visited.2 ++ [step visited.1 name])
  placesDownTo (t.origin path)
    ++ ((path.splitOn "/").foldl visit (t.origin path, [])).2

/-- The lowest number under which the process holds nothing open. -/
def freeNumber (t : FileTree) : Nat :=
  let isFree (number : Nat) : Bool := (t.entry? (descriptor number)).isNone
  ((List.range (t.entries.length + 1)).find? isFree).getD 0

/-- Notes that the process holds open what stands at a place, under some number. -/
def hold (t : FileTree) (number : Nat) (place : Place) : FileTree :=
  t.put (descriptor number) (.link place)

/-- Closes what the process has opened since an earlier tree. -/
def closeSince (t before : FileTree) : FileTree :=
  let stays (e : Place × Entry) : Bool :=
    e.1.dropLast != (descriptor 0).dropLast || (before.entry? e.1).isSome
  { t with entries := t.entries.filter stays }

def contains (t : FileTree) (path : String) : Bool :=
  (t.find path).isOk

def isFile (t : FileTree) (path : String) : Bool :=
  match t.find path with
  | .ok (_, .file _) => true
  | _ => false

/-- What a path that opens for reading leads to. -/
def findOpened (t : FileTree) (path : String) : Except Fault (Place × Entry) :=
  match t.find path with
  | .ok (_, .noTerminal) => .error (.system .noSuchDevice)
  | found => found

/-- Opens a path for reading. A directory opens, but reading it fails; a device has nothing to
read. -/
def openFile (t : FileTree) (path : String) : Except Fault Reader :=
  (t.findOpened path).map fun r =>
    match r.2 with
    | .file content => Reader.ofBytes content.data.toList
    | .directory => { deliveries := [], fault := some (.system .isADirectory) }
    | _ => Reader.finished

def fileSystem (t : FileTree) : FileSystem where
  isFile := t.isFile
  openFile := t.openFile

def fileContent (t : FileTree) (path : String) : Except Fault ByteArray :=
  match t.findOpened path with
  | .error fault => .error fault
  | .ok (_, .file content) => .ok content
  | .ok (_, .directory) => .error (.system .isADirectory)
  | .ok (_, _) => .ok .empty

/-- Changes the content of the file at a place. A place without a file takes everything and holds
nothing. -/
def revise (t : FileTree) (place : Place) (change : ByteArray → ByteArray) : FileTree :=
  match t.entry? place with
  | some (.file content) =>
    (t.remove place).put place (.file (change content))
  | _ => t

/-- Writes bytes into the file at a place, from a position on. A gap before that position is filled
with null bytes. -/
def writeAt (t : FileTree) (place : Place) (position : Nat) (bytes : ByteArray) : FileTree :=
  t.revise place fun content =>
    let gap := ByteArray.mk (Array.replicate (position - content.size) 0)
    bytes.copySlice 0 (content ++ gap) position bytes.size

/-- Writes bytes after the end of the file at a place. -/
def append (t : FileTree) (place : Place) (bytes : ByteArray) : FileTree :=
  t.revise place (· ++ bytes)

/-- Follows names from a place and makes the directories that are missing on the way: the tree
with them, and where the names lead. -/
def makeWay (t : FileTree) : List String → Place → FileTree × Place
  | [], place => (t, place)
  | name :: names, place =>
    if name = "" ∨ name = "." then makeWay t names place
    else if name = ".." then makeWay t names place.dropLast
    else
      match t.resolve (place ++ [name]) with
      | some (place, _) => makeWay t names place
      | none => makeWay (t.put (place ++ [name]) .directory) names (place ++ [name])

/-- Makes the directories of a path. -/
def addDirectory (t : FileTree) (path : String) : FileTree :=
  (t.makeWay (path.splitOn "/") (t.origin path)).1

/-- Adds a file under a path, with the directories on the way to it. -/
def addFile (t : FileTree) (path : String) (content : ByteArray) : FileTree :=
  let names := (path.splitOn "/").filter (· != "")
  let (t, place) := t.makeWay names.dropLast (t.origin path)
  t.put (place ++ names.getLast?.toList) (.file content)

end FileTree

end SourceSplice
