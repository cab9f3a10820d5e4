import Cyclomatic.CommandLine.Run
import Cyclomatic.Java.Grammar
import Cyclomatic.Render.Terminal

/-!
# The program

Collects what a run may look at, runs the command line with the components that are here and writes
what the run has to say.
-/

namespace Cyclomatic.Program

open CommandLine

/-- The names of a directory of the whole file system. -/
def directoryNames (directory : String) : Names := (Path.ofString directory).names

/-- What an action yields, if it does not fail. -/
def ifAllowed {α : Type} (action : IO α) : IO (Option α) := do
  try return some (← action) catch _ => return none

/-- What a path of the whole file system leads to, if anything. Only files are read. -/
def entryOf (names : Names) : IO (Option Entry) := do
  let path := (← IO.currentDir) / ("/" ++ "/".intercalate names)
  match ← ifAllowed path.metadata with
  | none => return none
  | some found =>
      match found.type with
      | .dir =>
          let within ← ifAllowed (path / ".").metadata
          return some (if within.isSome then .directory else .closed)
      | .file =>
          let content ← ifAllowed (IO.FS.readBinFile path)
          return some ((content.map Entry.file).getD (.locked found.byteSize.toNat))
      | _ => return some .pipe

/-- Adds what names lead to from a place on, with all directories on the way. -/
def addNames (tree : FileTree) (done : Names) : Names → IO FileTree
  | [] => return tree
  | name :: rest =>
      if name == ".." then addNames tree done.dropLast rest
      else do
        let place := done ++ [name]
        match ← entryOf place with
        | some entry => addNames (tree.add place entry) place rest
        | none => return tree

/-- Adds what a path leads to. -/
def addPath (tree : FileTree) (path : Path) : IO FileTree :=
  addNames tree (if path.root == "" then tree.workDirectory else []) path.names

/-- The paths that a command looks at. -/
def pathsOf : Except Refusal Command → List Path
  | .ok (.analyze options paths) => options.config.toList ++ paths
  | .ok (.code options) => options.config.toList
  | _ => []

/-- The files that a command looks at. -/
def filesFor (paths : List Path) : IO FileTree := do
  let work := directoryNames (← IO.currentDir).toString
  let home := directoryNames ((← IO.getEnv "HOME").getD "/")
  let tree := FileTree.bare "" work home
  let tree ← addNames tree work [settingsFileName]
  let tree ← addNames tree home ["." ++ settingsFileName]
  paths.foldlM addPath tree

/-- The environment variables that give settings their values. -/
def settingVariables : List Setting → IO (List (String × String))
  | [] => return []
  | setting :: rest => do
      let more ← settingVariables rest
      match ← IO.getEnv setting.variable with
      | some value => return (setting.variable, value) :: more
      | none => return more

/-- Standard input, for the one command that reads it. -/
def inputFor (command : Except Refusal Command) : IO (List Char) := do
  match command with
  | .ok (.code _) => return Text.decode (← (← IO.getStdin).readBinToEnd).toList
  | _ => return []

/-- The components that are here: the grammar of Java and a screen without colours. -/
def components : Components := ⟨Java.parse (some Java.recognize), .plain⟩

/-- The calls for which the stack has room when a settings file is read. -/
def stackRoom : Nat := 960

end Cyclomatic.Program

open Cyclomatic Cyclomatic.Program in
/-- Runs the command line and returns its exit code. -/
def main (words : List String) : IO UInt32 := do
  let command := CommandLine.Command.read words
  let files ← filesFor (pathsOf command)
  let environment ← settingVariables Setting.all
  let run := CommandLine.run components ⟨files, environment, stackRoom⟩ words (← inputFor command)
  for event in run.events do
    IO.print event.stdout
    IO.eprint (event.stderr components.screen (run.verbosity.getD .normal))
  match run.ending with
  | .fault fault => IO.eprintln fault.message
  | _ => pure ()
  return UInt32.ofNat run.exitCode
