import Cyclomatic.Number.Reading
import Cyclomatic.Settings
import Cyclomatic.Toml.Document
import Cyclomatic.Validation

/-!
# Layers of settings

Settings are put together from layers, of which a later one wins over an earlier one: the file in
the home directory, the file in the working directory, a file that the caller names, the
environment and what the caller gives directly.
-/

namespace Cyclomatic

/-- Where settings come from: files and environment variables. -/
structure Surroundings where
  files : FileTree
  environment : List (String × String)
  /-- For how many calls the stack has room when a settings file is read. -/
  stack : Nat

/-- Settings files have this name; in the home directory a point precedes it. -/
def settingsFileName : String := "complexity-insight.toml"

/-- The table of a settings file that holds the settings, if they are not at the top. -/
def settingsTable : String := "complexity-insight"

/-- The start of the names of environment variables. -/
def variableStart : String := "COMPLEXITY_INSIGHT_"

/-- Values merged from several layers. -/
structure Merged where
  values : OrderedMap String Value
  /-- Whether something that is no text was given a value. -/
  foreignKeys : Bool := false

namespace Merged

/-- Before the first layer. -/
def empty : Merged := { values := .empty }

/-- Takes over the values of a layer. -/
def insertAll (merged : Merged) (entries : List (String × Value)) : Merged :=
  { merged with values := merged.values.insertAll entries }

/-! ## Layers that are no table

A list of pairs serves as a layer, too: its items are pairs of a key and a value, and anything with
two parts counts as a pair. -/

/-- The parts of an item. -/
def parts? : Value → Option (List Value)
  | .list items => some items
  | .table entries => some (entries.map fun entry => .text entry.1)
  | .text s => some (s.toList.map fun c => .text (String.singleton c))
  | _ => none

/-- Gives a key that may be of any type its value. -/
def insertPair (merged : Merged) (key value : Value) : Except Fault Merged :=
  match key with
  | .text name => .ok { merged with values := merged.values.insert name value }
  | .list _ | .table _ => .error ⟨.typeMismatch, s!"unhashable type: '{key.typeName}'"⟩
  | _ => .ok { merged with foreignKeys := true }

/-- Takes over one item of a list, which has number `index`. -/
def insertItem (merged : Merged) (index : Nat) (item : Value) : Except Fault Merged :=
  match parts? item with
  | none =>
      .error ⟨.typeMismatch,
        s!"cannot convert dictionary update sequence element #{index} to a sequence"⟩
  | some [key, value] => merged.insertPair key value
  | some parts =>
      .error ⟨.invalidValue,
        s!"dictionary update sequence element #{index} has length {parts.length}; 2 is required"⟩

/-- Takes over the items of a list, of which the first has number `index`. -/
def insertItems (merged : Merged) (index : Nat) : List Value → Except Fault Merged
  | [] => .ok merged
  | item :: items =>
      match merged.insertItem index item with
      | .ok next => next.insertItems (index + 1) items
      | .error fault => .error fault

/-- Takes over a layer. -/
def update (merged : Merged) (layer : Value) : Except Fault Merged :=
  match layer with
  | .table entries => .ok (merged.insertAll entries)
  | _ =>
      match parts? layer with
      | some items => merged.insertItems 0 items
      | none => .error ⟨.typeMismatch, s!"'{layer.typeName}' object is not iterable"⟩

end Merged

/-! ## Settings files -/

/-- The fault of bytes that are no text. -/
def undecodable (error : Text.Utf8Error) : Fault :=
  let reason :=
    match error.fault with
    | .badStart => "invalid start byte"
    | .badContinuation => "invalid continuation byte"
    | .cutOff => "unexpected end of data"
  let hex := String.ofList (Text.hexDigits 2 error.byte.toNat)
  let place :=
    if error.count == 1 then s!"byte 0x{hex} in position {error.start}"
    else s!"bytes in position {error.start}-{error.start + error.count - 1}"
  ⟨.undecodable, s!"'utf-8' codec can't decode {place}: {reason}"⟩

/-- The error of a settings file that cannot be used. -/
def invalidFile (shown reason : String) (cause : FaultKind) : Failure :=
  .error (.configuration s!"Invalid config file '{shown}': {reason}" .empty) (some cause)

/-- The fault of a settings file whose values stand too deeply inside each other. -/
def stackOverflow : Fault := ⟨.named "RecursionError", "maximum recursion depth exceeded"⟩

/-- The layer that a settings file holds. -/
def layerOfBytes (stack : Nat) (shown : String) (content : ByteArray) : Except Failure Value :=
  match Text.decodeStrict content.toList with
  | .error error => .error (.fault (undecodable error))
  | .ok text =>
      match Toml.parse stack text with
      | .error .malformed => .error (invalidFile shown "<toml>" .document)
      | .error (.tooManyDigits count) =>
          .error (.fault ⟨.invalidValue, (Number.Refusal.tooManyDigits count).message⟩)
      | .error .tooDeep => .error (.fault stackOverflow)
      | .ok table => .ok ((table.lookup settingsTable).getD (.table table))

/-- Takes over the settings file that was found, which is shown as `shown`. -/
def addFile (stack : Nat) (merged : Merged) (shown : String) (found : Except PathRefusal Entry) :
    Except Failure Merged := do
  match FileTree.contentOf shown found with
  | .error fault =>
      if fault.isIo then .error (invalidFile shown fault.message fault.kind)
      else .error (.fault fault)
  | .ok content =>
      let layer ← layerOfBytes stack shown content
      (merged.update layer).mapError Failure.fault

/-- Takes over a settings file of the library's choice, if there is one. -/
def addOwnFile (surroundings : Surroundings) (directory : Names) (name : String)
    (merged : Merged) : Except Failure Merged := do
  let shown := surroundings.files.shown (directory ++ [name])
  let found := surroundings.files.find (.inside directory) [name]
  let present ← (FileTree.found shown found).mapError Failure.fault
  if present then addFile surroundings.stack merged shown found else .ok merged

/-- Takes over the settings file that the caller names. It has to be there. -/
def addNamedFile (surroundings : Surroundings) (path : Option Path) (merged : Merged) :
    Except Failure Merged := do
  match path with
  | none => .ok merged
  | some path =>
      let files := surroundings.files
      let present ← (files.pathExists path).mapError Failure.fault
      if present then addFile surroundings.stack merged path.text (files.lookup path)
      else .error (.ofError (.configuration s!"Config file not found: {path.text}" .empty))

/-! ## The environment -/

/-- The environment variable of a setting. -/
def Setting.variable (setting : Setting) : String :=
  variableStart ++ setting.key.toUpper

/-- The value that an environment variable gives a setting. -/
def Setting.read (setting : Setting) (text : String) : Except Number.Refusal Value :=
  match setting with
  | .warningThreshold | .maxSourceLength => (Number.readInt text).map Value.int
  | .maxFileSizeMb => (Number.readFloat text).map Value.float
  | .defaultFileName | .verbosity | .outputFormat =>
      .ok (.text (String.ofList (Text.trim text.toList)))

/-- The values that environment variables give some settings. -/
def readVariables (environment : List (String × String)) :
    List Setting → Except Failure (List (String × Value))
  | [] => .ok []
  | setting :: rest =>
      match environment.lookup setting.variable with
      | none => readVariables environment rest
      | some text =>
          match setting.read text with
          | .error refusal =>
              .error (.error
                (.configuration s!"Invalid {setting.variable}: {refusal.message}" .empty)
                (some .invalidValue))
          | .ok value =>
              (readVariables environment rest).map fun more => (setting.key, value) :: more

/-! ## What the caller gives -/

/-- A switch that stands for a verbosity is replaced by it. -/
def applySwitch (switch : String) (verbosity : Verbosity) (given : OrderedMap String Value) :
    OrderedMap String Value :=
  let rest := given.erase switch
  if ((given.get? switch).getD (.bool false)).isSet then
    rest.insert Setting.verbosity.key (.text verbosity.word)
  else rest

/-- Whether a value is given at all. -/
def Value.isGiven : Value → Bool
  | .null => false
  | _ => true

/-- The layer of what the caller gives directly. Switches come last, and what has no value is left
out. -/
def directLayer (given : OrderedMap String Value) : List (String × Value) :=
  let switched := applySwitch "quiet" .quiet (applySwitch "verbose" .verbose given)
  switched.entries.filter fun entry => entry.2.isGiven

/-! ## All layers -/

/-- The merged values of all layers. -/
def mergeLayers (surroundings : Surroundings) (file : Option Path)
    (given : OrderedMap String Value) : Except Failure Merged := do
  let files := surroundings.files
  let merged ← addOwnFile surroundings files.homeDirectory ("." ++ settingsFileName) .empty
  let merged ← addOwnFile surroundings files.workDirectory settingsFileName merged
  let merged ← addNamedFile surroundings file merged
  let parsed ← readVariables surroundings.environment Setting.all
  .ok ((merged.insertAll parsed).insertAll (directLayer given))

/-- The settings of merged values. -/
def Merged.settings (merged : Merged) : Except Fault Settings :=
  if merged.foreignKeys then .error ⟨.typeMismatch, "keywords must be strings"⟩
  else Settings.ofNamed merged.values

/-- Loads the settings. Values that do not fit are reported as an error, unless they lack an
operation. -/
def loadSettings (surroundings : Surroundings) (file : Option Path)
    (given : OrderedMap String Value) : Except Failure Settings := do
  let merged ← mergeLayers surroundings file given
  match merged.settings with
  | .ok settings => .ok settings
  | .error fault =>
      match fault.kind with
      | .typeMismatch | .invalidValue =>
          .error (.error (.configuration s!"Invalid configuration: {fault.message}" .empty)
            (some fault.kind))
      | _ => .error (.fault fault)

end Cyclomatic
