import Cyclomatic.Settings.Layers
import Cyclomatic.Proofs.OrderedMap

/-! # Reading settings files

The files in the home directory, in the working directory and at the path that the caller names are
read one after the other, and the layer of each is taken over before the next is read. Only what is
read matters, not where it was found. -/

namespace Cyclomatic

/-- Where settings files stand. -/
inductive Place where
  | home
  | work
  | named
deriving DecidableEq, Repr

/-- The places in the order in which they are read; a later one wins. -/
def Place.all : List Place := [.home, .work, .named]

/-! ## What is read -/

/-- The layer of a file that was found. -/
def foundLayer (stack : Nat) (shown : String) (found : Except PathRefusal Entry) :
    Except Failure Value :=
  match FileTree.contentOf shown found with
  | .error fault =>
      if fault.isIo then .error (invalidFile shown fault.message fault.kind)
      else .error (.fault fault)
  | .ok content => layerOfBytes stack shown content

/-- The layer of a file of the library's choice, if there is one. -/
def ownLayer? (surroundings : Surroundings) (directory : Names) (name : String) :
    Except Failure (Option Value) := do
  let shown := surroundings.files.shown (directory ++ [name])
  let found := surroundings.files.find (.inside directory) [name]
  let present ← (FileTree.found shown found).mapError Failure.fault
  if present then (foundLayer surroundings.stack shown found).map some else .ok none

/-- The layer of the file that the caller names, if one is named. -/
def namedLayer? (surroundings : Surroundings) (path : Option Path) :
    Except Failure (Option Value) := do
  match path with
  | none => .ok none
  | some path =>
      let files := surroundings.files
      let present ← (files.pathExists path).mapError Failure.fault
      if present then (foundLayer surroundings.stack path.text (files.lookup path)).map some
      else .error (.ofError (.configuration s!"Config file not found: {path.text}" .empty))

/-- The layer that the settings file of a place holds, if there is one. -/
def Surroundings.layer? (surroundings : Surroundings) (file : Option Path) :
    Place → Except Failure (Option Value)
  | .home => ownLayer? surroundings surroundings.files.homeDirectory ("." ++ settingsFileName)
  | .work => ownLayer? surroundings surroundings.files.workDirectory settingsFileName
  | .named => namedLayer? surroundings file

/-! ## Taking layers over -/

namespace Merged

/-- Takes over a layer, if there is one. -/
def take (merged : Merged) : Option Value → Except Failure Merged
  | none => .ok merged
  | some layer => (merged.update layer).mapError Failure.fault

/-- Takes over the layers of some places. -/
def takeAll (layer? : Place → Except Failure (Option Value)) :
    List Place → Merged → Except Failure Merged
  | [], merged => .ok merged
  | place :: rest, merged => do takeAll layer? rest (← merged.take (← layer? place))

end Merged

theorem addFile_eq (stack : Nat) (merged : Merged) (shown : String)
    (found : Except PathRefusal Entry) :
    addFile stack merged shown found =
      (foundLayer stack shown found).map some >>= merged.take := by
  unfold addFile foundLayer
  cases FileTree.contentOf shown found with
  | error fault => by_cases h : fault.isIo = true <;> simp [h, Except.map, bind, Except.bind]
  | ok content =>
      cases h : layerOfBytes stack shown content <;>
        simp [h, Except.map, bind, Except.bind, Merged.take]

/-- A file is read and taken over if it is present. -/
theorem addPresent_eq (stack : Nat) (merged : Merged) (shown : String)
    (found : Except PathRefusal Entry) (present : Except Fault Bool)
    (absent : Except Failure (Option Value)) :
    (do
      let present ← present.mapError Failure.fault
      if present then addFile stack merged shown found else absent >>= merged.take) =
      (do
        let present ← present.mapError Failure.fault
        if present then (foundLayer stack shown found).map some else absent) >>= merged.take := by
  cases present with
  | error fault => rfl
  | ok present =>
      cases present with
      | false => rfl
      | true => exact addFile_eq stack merged shown found

theorem addOwnFile_eq (surroundings : Surroundings) (directory : Names) (name : String)
    (merged : Merged) :
    addOwnFile surroundings directory name merged =
      ownLayer? surroundings directory name >>= merged.take :=
  addPresent_eq _ merged _ _ _ (.ok none)

theorem addNamedFile_eq (surroundings : Surroundings) (file : Option Path) (merged : Merged) :
    addNamedFile surroundings file merged = namedLayer? surroundings file >>= merged.take := by
  cases file with
  | none => rfl
  | some path => exact addPresent_eq _ merged _ _ _ (.error _)

/-- The outcome depends on the file system through the layers of the settings files alone. -/
theorem mergeLayers_eq (surroundings : Surroundings) (file : Option Path)
    (given : OrderedMap String Value) :
    mergeLayers surroundings file given = (do
      let merged ← Merged.takeAll (surroundings.layer? file) Place.all .empty
      let parsed ← readVariables surroundings.environment Setting.all
      .ok ((merged.insertAll parsed).insertAll (directLayer given))) := by
  simp only [mergeLayers, addOwnFile_eq, addNamedFile_eq, Place.all, Merged.takeAll,
    Surroundings.layer?, bind_assoc]
  rfl

/-! ## Settings of what was taken over -/

theorem bind_eq_ok_iff {ε α β : Type} {x : Except ε α} {f : α → Except ε β} {b : β} :
    x >>= f = .ok b ↔ ∃ a, x = .ok a ∧ f a = .ok b := by
  cases x <;> simp [bind, Except.bind]

theorem map_eq_ok_iff {ε α β : Type} {x : Except ε α} {f : α → β} {b : β} :
    x.map f = .ok b ↔ ∃ a, x = .ok a ∧ f a = b := by
  cases x <;> simp [Except.map]

theorem map_eq_error_iff {ε α β : Type} {x : Except ε α} {f : α → β} {e : ε} :
    x.map f = .error e ↔ x = .error e := by
  cases x <;> simp [Except.map]

theorem toOption_eq_some_iff {ε α : Type} {x : Except ε α} {a : α} :
    x.toOption = some a ↔ x = .ok a := by
  cases x <;> simp [Except.toOption]

/-- The value that a setting gets from merged values. -/
def Merged.value (merged : Merged) (setting : Setting) : Value :=
  (merged.values.get? setting.key).getD setting.default

theorem Settings.refuseKey?_eq_none_iff (key : String) :
    refuseKey? key = none ↔ (Setting.ofKey? key).isSome = true := by
  unfold refuseKey?
  split
  · simp_all
  · split <;> simp_all

/-- Only settings are given values, and the values fit. -/
theorem Merged.settings_eq_ok_iff {merged : Merged} {settings : Settings} :
    merged.settings = .ok settings ↔
      merged.foreignKeys = false ∧
      (∀ key ∈ merged.values.keys, (Setting.ofKey? key).isSome = true) ∧
      Settings.ofValues merged.value = .ok settings := by
  have hknown : merged.values.keys.findSome? Settings.refuseKey? = none ↔
      ∀ key ∈ merged.values.keys, (Setting.ofKey? key).isSome = true := by
    simp only [List.findSome?_eq_none_iff, Settings.refuseKey?_eq_none_iff]
  unfold Merged.settings Settings.ofNamed
  cases hf : merged.foreignKeys with
  | true => simp
  | false =>
      cases hk : merged.values.keys.findSome? Settings.refuseKey? with
      | some fault =>
          have hnot : ¬ ∀ key ∈ merged.values.keys, (Setting.ofKey? key).isSome = true := by
            rw [← hknown, hk]
            exact Option.some_ne_none fault
          simp [hnot]
      | none =>
          have hall := hknown.mp hk
          exact ⟨fun h => ⟨rfl, hall, h⟩, fun h => h.2.2⟩

theorem loadSettings_eq_ok_iff {surroundings : Surroundings} {file : Option Path}
    {given : OrderedMap String Value} {settings : Settings} :
    loadSettings surroundings file given = .ok settings ↔
      ∃ merged, mergeLayers surroundings file given = .ok merged ∧
        merged.settings = .ok settings := by
  refine bind_eq_ok_iff.trans (exists_congr fun merged => and_congr_right fun _ => ?_)
  split
  · rename_i loaded hloaded
    simp [hloaded]
  · rename_i fault hfault
    split <;> simp [hfault]

theorem lessThan_of_atLeastOne {setting : Setting} {value : Value} {number : Number}
    (h : Settings.atLeastOne setting value = .ok number) : number.lessThan 1 = false := by
  obtain ⟨checked, -, hcheck⟩ := bind_eq_ok_iff.mp h
  split at hcheck
  · cases hcheck
  · rename_i hlow
    obtain rfl := Except.ok.inj hcheck
    exact (Bool.not_eq_true _).mp hlow

/-- The threshold of settings is not less than one. -/
theorem warningThreshold_of_loadSettings {surroundings : Surroundings} {file : Option Path}
    {given : OrderedMap String Value} {settings : Settings}
    (h : loadSettings surroundings file given = .ok settings) :
    settings.warningThreshold.lessThan 1 = false := by
  obtain ⟨merged, -, hsettings⟩ := loadSettings_eq_ok_iff.mp h
  obtain ⟨-, -, hvalues⟩ := Merged.settings_eq_ok_iff.mp hsettings
  obtain ⟨threshold, hthreshold, hvalues⟩ := bind_eq_ok_iff.mp hvalues
  obtain ⟨maxFileSizeMb, -, hvalues⟩ := bind_eq_ok_iff.mp hvalues
  obtain ⟨maxSourceLength, -, hvalues⟩ := bind_eq_ok_iff.mp hvalues
  obtain ⟨defaultFileName, -, hvalues⟩ := bind_eq_ok_iff.mp hvalues
  obtain ⟨verbosity, -, hvalues⟩ := bind_eq_ok_iff.mp hvalues
  obtain ⟨outputFormat, -, hvalues⟩ := bind_eq_ok_iff.mp hvalues
  obtain rfl := Except.ok.inj hvalues
  exact lessThan_of_atLeastOne hthreshold

/-! ## A single settings file -/

theorem layerOfBytes_of_parse {stack : Nat} {content : ByteArray} {text : List Char}
    {table : Toml.Table} (hd : Text.decodeStrict content.toList = .ok text)
    (hp : Toml.parse stack text = .ok table) (shown : String) :
    layerOfBytes stack shown content = .ok ((table.lookup settingsTable).getD (.table table)) := by
  simp only [layerOfBytes, hd, hp]

theorem layerOfBytes_of_tooManyDigits {stack : Nat} {content : ByteArray} {text : List Char}
    {count : Nat} (hd : Text.decodeStrict content.toList = .ok text)
    (hp : Toml.parse stack text = .error (.tooManyDigits count)) (shown : String) :
    layerOfBytes stack shown content =
      .error (.fault ⟨.invalidValue, (Number.Refusal.tooManyDigits count).message⟩) := by
  simp only [layerOfBytes, hd, hp]

theorem layerOfBytes_of_tooDeep {stack : Nat} {content : ByteArray} {text : List Char}
    (hd : Text.decodeStrict content.toList = .ok text)
    (hp : Toml.parse stack text = .error .tooDeep) (shown : String) :
    layerOfBytes stack shown content = .error (.fault stackOverflow) := by
  simp only [layerOfBytes, hd, hp]

/-- Surroundings with one settings file, which is in the working directory. -/
def Surroundings.ofWorkFile (stack : Nat) (content : ByteArray) : Surroundings where
  files := (FileTree.bare "" ["work"] ["home"]).add ["work", settingsFileName] (.file content)
  environment := []
  stack

theorem layer?_ofWorkFile (stack : Nat) (content : ByteArray) (place : Place) :
    (Surroundings.ofWorkFile stack content).layer? none place =
      match place with
      | .work => (layerOfBytes stack "/work/complexity-insight.toml" content).map some
      | _ => .ok none := by
  cases place with
  | home => rfl
  | work => rfl
  | named => rfl

theorem mergeLayers_ofWorkFile (stack : Nat) (content : ByteArray) :
    mergeLayers (.ofWorkFile stack content) none .empty =
      (layerOfBytes stack "/work/complexity-insight.toml" content).map some >>=
        Merged.empty.take := by
  rw [mergeLayers_eq]
  simp only [Place.all, Merged.takeAll, layer?_ofWorkFile]
  cases layerOfBytes stack "/work/complexity-insight.toml" content with
  | error failure => rfl
  | ok layer =>
      have hnone (merged : Merged) : merged.take none = .ok merged := rfl
      cases hl : Merged.empty.take (some layer) with
      | error failure => simp [bind, Except.bind, Except.map, hnone, hl]
      | ok merged =>
          simp only [bind, Except.bind, Except.map, hnone, hl]
          rfl

end Cyclomatic
