import Cyclomatic.Error
import Cyclomatic.Path
import Cyclomatic.Text.Utf8

/-!
# Files

The part of a file system that the library sees: a directory tree with a working directory and a
home directory in it. Everything above the tree is a directory without known entries.
-/

namespace Cyclomatic

/-- What a path may lead to. -/
inductive Entry where
  | file (content : ByteArray)
  /-- A file that may be neither read nor written, with its size in bytes. -/
  | locked (size : Nat)
  | directory
  /-- A directory that may be neither listed nor searched. -/
  | closed
  /-- Something that is neither a file nor a directory. -/
  | pipe

/-- The size of a file in bytes. -/
def Entry.size? : Entry → Option Nat
  | .file content => some content.size
  | .locked size => some size
  | .directory | .closed | .pipe => none

/-- Names from the top of a tree downwards. -/
abbrev Names := List String

/-- A directory tree. -/
structure FileTree where
  /-- The path of the top directory as it is shown. If it is empty, the tree is a whole file
  system. -/
  top : String
  entries : OrderedMap Names Entry
  workDirectory : Names
  homeDirectory : Names

/-- Why a path leads nowhere, or cannot be used. -/
inductive PathRefusal where
  | notFound
  | notDirectory
  | isDirectory
  /-- The way leads through a directory that may not be searched, or what it leads to may not be
  used. -/
  | forbidden
  | nameTooLong
  /-- The path holds a character that no path may hold. -/
  | unusable
deriving DecidableEq, Repr

/-- The fault of a refused path. -/
def PathRefusal.fault (refusal : PathRefusal) (shown : String) : Fault :=
  let quoted := Text.quoted shown
  match refusal with
  | .notFound => ⟨.io .notFound, s!"[Errno 2] No such file or directory: {quoted}"⟩
  | .notDirectory => ⟨.io .notDirectory, s!"[Errno 20] Not a directory: {quoted}"⟩
  | .isDirectory => ⟨.io .isDirectory, s!"[Errno 21] Is a directory: {quoted}"⟩
  | .forbidden => ⟨.io (.named "PermissionError"), s!"[Errno 13] Permission denied: {quoted}"⟩
  | .nameTooLong => ⟨.io .general, s!"[Errno 36] File name too long: {quoted}"⟩
  | .unusable => ⟨.invalidValue, "embedded null byte"⟩

/-- A place in or above a tree. -/
inductive Spot where
  | inside (names : Names)
  | above
deriving DecidableEq, Repr

namespace FileTree

/-! ## Making trees -/

/-- Adds the directories that lead to an entry, unless they are there. -/
def addDirectories (tree : FileTree) (names : Names) : FileTree :=
  (List.range names.length).foldl
    (fun tree count =>
      let parent := names.take count
      if tree.entries.contains parent then tree
      else { tree with entries := tree.entries.insert parent .directory })
    tree

/-- Adds an entry and the directories that lead to it. -/
def add (tree : FileTree) (names : Names) (entry : Entry) : FileTree :=
  let tree := tree.addDirectories names
  { tree with entries := tree.entries.insert names entry }

/-- A tree with nothing but its working directory and its home directory. -/
def bare (top : String) (workDirectory homeDirectory : Names) : FileTree :=
  let tree : FileTree := ⟨top, .empty, workDirectory, homeDirectory⟩
  (tree.add workDirectory .directory).add homeDirectory .directory

/-- How a place in a tree is shown. -/
def shown (tree : FileTree) (names : Names) : String :=
  "/".intercalate (tree.top :: names)

/-! ## Following paths -/

/-- The greatest number of bytes in a name. -/
def maxNameLength : Nat := 255

/-- The greatest number of bytes in a path. -/
def maxPathLength : Nat := 4095

/-- What stands at a place. -/
def entryAt? (tree : FileTree) : Spot → Option Entry
  | .inside names => tree.entries.get? names
  | .above => some .directory

/-- Where absolute paths start. -/
def absoluteStart (tree : FileTree) : Spot :=
  if tree.top == "" then .inside [] else .above

/-- Goes from a directory to what a name in it stands for. -/
def enter (tree : FileTree) (spot : Spot) (name : String) : Except PathRefusal Spot :=
  match tree.entryAt? spot with
  | none => .error .notFound
  | some .directory =>
      if maxNameLength < name.utf8ByteSize then .error .nameTooLong
      else
        match spot with
        | .above => if name == ".." then .ok .above else .error .notFound
        | .inside names =>
            if name == ".." then
              .ok (if names.isEmpty then tree.absoluteStart else .inside names.dropLast)
            else if tree.entries.contains (names ++ [name]) then .ok (.inside (names ++ [name]))
            else .error .notFound
  | some .closed => .error .forbidden
  | some _ => .error .notDirectory

/-- Follows names from a place on. -/
def follow (tree : FileTree) : Spot → Names → Except PathRefusal Spot
  | spot, [] => .ok spot
  | spot, name :: names =>
      match tree.enter spot name with
      | .ok next => tree.follow next names
      | .error refusal => .error refusal

/-- Whether a name cannot occur. -/
def isUnusable (names : Names) : Bool :=
  names.any fun name => name.toList.contains '\x00'

/-- What the names lead to from a place on. -/
def find (tree : FileTree) (start : Spot) (names : Names) : Except PathRefusal Entry :=
  if isUnusable names then .error .unusable
  else
    match tree.follow start names with
    | .error refusal => .error refusal
    | .ok spot =>
        match tree.entryAt? spot with
        | some entry => .ok entry
        | none => .error .notFound

/-- What a path leads to. A relative path starts in the working directory. -/
def lookup (tree : FileTree) (path : Path) : Except PathRefusal Entry :=
  if maxPathLength < path.text.utf8ByteSize && !isUnusable path.names then .error .nameTooLong
  else
    tree.find (if path.root == "" then .inside tree.workDirectory else tree.absoluteStart)
      path.names

/-! ## Using paths -/

/-- Whether a search found something. A name that is too long is a fault, and so is a directory that
may not be searched. -/
def found (shown : String) : Except PathRefusal Entry → Except Fault Bool
  | .ok _ => .ok true
  | .error .nameTooLong => .error (PathRefusal.nameTooLong.fault shown)
  | .error .forbidden => .error (PathRefusal.forbidden.fault shown)
  | .error _ => .ok false

/-- Whether a path leads to anything. -/
def pathExists (tree : FileTree) (path : Path) : Except Fault Bool :=
  found path.text (tree.lookup path)

/-- The bytes that a search found. Nothing is read from a pipe. -/
def contentOf (shown : String) : Except PathRefusal Entry → Except Fault ByteArray
  | .ok (.file content) => .ok content
  | .ok (.locked _) | .ok .closed => .error (PathRefusal.forbidden.fault shown)
  | .ok .directory => .error (PathRefusal.isDirectory.fault shown)
  | .ok .pipe => .ok .empty
  | .error refusal => .error (refusal.fault shown)

/-- The bytes of the file that a path leads to. -/
def read (tree : FileTree) (path : Path) : Except Fault ByteArray :=
  contentOf path.text (tree.lookup path)

/-! ## Writing at the end of files -/

/-- Adds names to others by their text alone: a double dot takes back the name before it. -/
def collapse : Names → Names → Names
  | done, [] => done
  | done, name :: rest =>
      if name == ".." then collapse done.dropLast rest else collapse (done ++ [name]) rest

/-- The file that names lead to from a place on, and the tree in which it is there. A missing file
is made if the directory that would hold it is there. -/
def openNames (tree : FileTree) (start : Spot) (names : Names) :
    Except PathRefusal (Names × FileTree) :=
  if isUnusable names then .error .unusable
  else
    match tree.follow start names with
    | .ok (.inside place) =>
        match tree.entryAt? (.inside place) with
        | some .directory | some .closed => .error .isDirectory
        | some (.locked _) => .error .forbidden
        | _ => .ok (place, tree)
    | .ok .above => .error .isDirectory
    | .error .notFound =>
        match tree.follow start names.dropLast, names.getLast? with
        | .ok (.inside parent), some name =>
            let place := parent ++ [name]
            .ok (place, { tree with entries := tree.entries.insert place (.file .empty) })
        | _, _ => .error .notFound
    | .error refusal => .error refusal

/-- The file that a path leads to, ready to be written at its end. The path is made absolute
first, by its text alone. -/
def openForAppend (tree : FileTree) (path : Path) : Except Fault (Names × FileTree) :=
  if path.root == "" then
    let names := collapse tree.workDirectory path.names
    (tree.openNames (.inside []) names).mapError fun refusal => refusal.fault (tree.shown names)
  else
    let names := collapse [] path.names
    let shown := (⟨path.root, names⟩ : Path).text
    (tree.openNames tree.absoluteStart names).mapError fun refusal => refusal.fault shown

/-- Writes bytes at the end of a file. -/
def append (tree : FileTree) (names : Names) (bytes : ByteArray) : FileTree :=
  match tree.entries.get? names with
  | some (.file content) =>
      { tree with entries := tree.entries.insert names (.file (content ++ bytes)) }
  | _ => tree

end FileTree

end Cyclomatic
