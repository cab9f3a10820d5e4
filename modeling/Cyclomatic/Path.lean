/-!
# Paths

A path is a root and a list of names. Empty names and single dots drop out when a path is read;
double dots stay, for what they mean depends on the file system.
-/

namespace Cyclomatic

/-- A path. The root is empty for a relative path, one slash for an absolute one, and two slashes
if exactly two were given. -/
structure Path where
  root : String
  names : List String
deriving DecidableEq, Repr

namespace Path

/-- The root of a written path. -/
def rootOf (cs : List Char) : String :=
  match (cs.takeWhile (· == '/')).length with
  | 0 => ""
  | 2 => "//"
  | _ => "/"

/-- Splits at slashes. `name` is the unfinished name in reverse order. -/
def splitNames (name : List Char) : List Char → List String
  | [] => [String.ofList name.reverse]
  | '/' :: rest => String.ofList name.reverse :: splitNames [] rest
  | c :: rest => splitNames (c :: name) rest

/-- Reads a path. -/
def ofString (s : String) : Path :=
  ⟨rootOf s.toList, (splitNames [] s.toList).filter fun name => name != "" && name != "."⟩

/-- Writes a path. -/
def text (path : Path) : String :=
  let body := path.root ++ "/".intercalate path.names
  if body == "" then "." else body

/-- The last name, empty if there is none. -/
def name (path : Path) : String :=
  path.names.getLast?.getD ""

/-- The last name from its last dot on. A dot that begins or ends the name does not count. -/
def suffix (path : Path) : String :=
  let cs := path.name.toList
  let tail := (cs.reverse.takeWhile (· != '.')).reverse
  if tail.isEmpty || tail.length + 1 ≥ cs.length then "" else String.ofList ('.' :: tail)

end Path

end Cyclomatic
