import Cyclomatic.Proofs.Settings.Variables
import Cyclomatic.Proofs.Text.Utf8
import Mathlib

/-! # Precedence of settings

Where the settings files hold tables, every setting has the value of the highest layer that sets it:
what the caller gives, the environment, the named file, the file in the working directory, the file
in the home directory, and the default. A value below that is never looked at. -/

namespace Cyclomatic

/-! ## The value of a setting in each layer

A settings file is missing, cannot be used, or holds a table. -/

variable (tables : Place → Except Failure (Option Toml.Table))

/-- The entries of a settings file, if there is one and it can be used. -/
def entriesIn (held : Except Failure (Option Toml.Table)) : Toml.Table :=
  match held with
  | .ok (some entries) => entries
  | _ => []

/-- The value that a settings file gives a key. -/
def valueIn? (held : Except Failure (Option Toml.Table)) (key : String) : Option Value :=
  (OrderedMap.ofList (entriesIn held)).get? key

/-- The value that the settings files give a key. -/
def inFiles? (key : String) : Option Value :=
  (valueIn? (tables .named) key).or
    ((valueIn? (tables .work) key).or (valueIn? (tables .home) key))

namespace Setting

/-- Whether the caller sets a switch. -/
def isOn (given : OrderedMap String Value) (switch : String) : Bool :=
  (given.get? switch).any Value.isSet

/-- The value that the caller gives a setting. The switches for the verbosity win over a verbosity,
and the one for less over the one for more. -/
def given? (given : OrderedMap String Value) (setting : Setting) : Option Value :=
  if setting = .verbosity ∧ isOn given "quiet" = true then some (.text Verbosity.quiet.word)
  else if setting = .verbosity ∧ isOn given "verbose" = true then
    some (.text Verbosity.verbose.word)
  else (given.get? setting.key).filter Value.isGiven

/-- The value of a setting: what the caller gives it, else what its environment variable stands for,
else what the highest settings file gives it that gives it anything, else its usual value. -/
inductive HasValue (environment : List (String × String)) (given : OrderedMap String Value)
    (setting : Setting) : Value → Prop where
  | given {value} (h : setting.given? given = some value) : HasValue environment given setting value
  | environment {text value} (hg : setting.given? given = none)
      (hv : environment.lookup setting.variable = some text) (h : setting.Parses text value) :
      HasValue environment given setting value
  | file {value} (hg : setting.given? given = none)
      (hv : environment.lookup setting.variable = none)
      (h : inFiles? tables setting.key = some value) : HasValue environment given setting value
  | usual (hg : setting.given? given = none) (hv : environment.lookup setting.variable = none)
      (h : inFiles? tables setting.key = none) :
      HasValue environment given setting setting.default

theorem isSome_inEnvironment? {environment : List (String × String)} {setting : Setting}
    (hl : Legible environment all)
    (h : (environment.lookup setting.variable).isSome = true) :
    (setting.inEnvironment? environment).isSome = true := by
  obtain ⟨text, hv⟩ := Option.isSome_iff_exists.mp h
  obtain ⟨value, hparses⟩ := hl setting setting.mem_all text hv
  rw [inEnvironment?_of_parses hv hparses]
  rfl

theorem hasValue_iff_of_legible {environment : List (String × String)}
    {given : OrderedMap String Value} (hl : Legible environment all) {setting : Setting}
    {value : Value} :
    setting.HasValue tables environment given value ↔
      ((setting.given? given).or ((setting.inEnvironment? environment).or
        (inFiles? tables setting.key))).getD setting.default = value := by
  constructor
  · intro h
    cases h with
    | given h => simp [h]
    | environment hg hv h => simp [hg, inEnvironment?_of_parses hv h]
    | file hg hv h => simp [hg, inEnvironment?, hv, h]
    | usual hg hv h => simp [hg, inEnvironment?, hv, h]
  · rintro rfl
    cases hg : setting.given? given with
    | some value => exact .given hg
    | none =>
        cases hv : environment.lookup setting.variable with
        | some text =>
            obtain ⟨value, hparses⟩ := hl setting setting.mem_all text hv
            simp only [inEnvironment?_of_parses hv hparses]
            exact .environment hg hv hparses
        | none =>
            have hnone : setting.inEnvironment? environment = none := by simp [inEnvironment?, hv]
            rw [hnone]
            cases hf : inFiles? tables setting.key with
            | some value => exact .file hg hv hf
            | none => exact .usual hg hv hf

end Setting

/-! ## The settings files -/

/-- What the settings files hold. -/
def Surroundings.Hold (surroundings : Surroundings) (file : Option Path) : Prop :=
  ∀ place, surroundings.layer? file place = (tables place).map (Option.map Value.table)

def failureIn? (held : Except Failure (Option Toml.Table)) : Option Failure :=
  match held with
  | .error failure => some failure
  | .ok _ => none

theorem takeAll_of_tables {layer? : Place → Except Failure (Option Value)}
    (h : ∀ place, layer? place = (tables place).map (Option.map Value.table))
    (places : List Place) (merged : Merged) :
    Merged.takeAll layer? places merged =
      match places.findSome? fun place => failureIn? (tables place) with
      | some failure => .error failure
      | none => .ok (merged.insertAll (places.flatMap fun place => entriesIn (tables place))) := by
  induction places generalizing merged with
  | nil => rfl
  | cons place rest ih =>
      rw [Merged.takeAll, h place, List.findSome?_cons, List.flatMap_cons]
      cases hp : tables place with
      | error failure => rfl
      | ok held =>
          cases held with
          | none => exact ih merged
          | some entries =>
              have hstep : Merged.takeAll layer? rest (merged.insertAll entries) = _ :=
                ih (merged.insertAll entries)
              have happend : ∀ back, (merged.insertAll entries).insertAll back =
                  merged.insertAll (entries ++ back) := by
                intro back
                simp only [Merged.insertAll, OrderedMap.insertAll_append]
              simp only [happend] at hstep
              exact hstep

/-- The entries of all settings files, in the order in which they are taken over. -/
def fileEntries : Toml.Table :=
  Place.all.flatMap fun place => entriesIn (tables place)

theorem mergeLayers_of_hold {surroundings : Surroundings} {file : Option Path}
    (h : surroundings.Hold tables file) (given : OrderedMap String Value) :
    mergeLayers surroundings file given =
      match Place.all.findSome? fun place => failureIn? (tables place) with
      | some failure => .error failure
      | none => (readVariables surroundings.environment Setting.all).map fun parsed =>
          ⟨.ofList (fileEntries tables ++ parsed ++ directLayer given), false⟩ := by
  rw [mergeLayers_eq, takeAll_of_tables tables h]
  cases Place.all.findSome? fun place => failureIn? (tables place) with
  | some failure => rfl
  | none =>
      cases readVariables surroundings.environment Setting.all with
      | error failure => rfl
      | ok parsed =>
          simp only [OrderedMap.ofList, OrderedMap.insertAll_append]
          rfl

theorem get?_fileEntries (key : String) :
    (OrderedMap.ofList (fileEntries tables)).get? key = inFiles? tables key := by
  have h : fileEntries tables = entriesIn (tables .home) ++ entriesIn (tables .work) ++
      entriesIn (tables .named) := by
    simp [fileEntries, Place.all]
  rw [h, OrderedMap.get?_ofList_append, OrderedMap.get?_ofList_append]
  rfl

/-! ## What the caller gives -/

theorem nodup_keys_applySwitch {given : OrderedMap String Value} (h : given.keys.Nodup)
    (switch : String) (verbosity : Verbosity) :
    (applySwitch switch verbosity given).keys.Nodup := by
  have herase : (given.erase switch).keys.Nodup := OrderedMap.nodup_keys_erase h switch
  unfold applySwitch
  split
  · exact OrderedMap.nodup_keys_insert herase _ _
  · exact herase

theorem get?_applySwitch {given : OrderedMap String Value} (h : given.keys.Nodup)
    (switch : String) (verbosity : Verbosity) (key : String) :
    (applySwitch switch verbosity given).get? key =
      if key = Setting.verbosity.key ∧ Setting.isOn given switch = true then
        some (.text verbosity.word)
      else if key = switch then none else given.get? key := by
  have hon : ((given.get? switch).getD (.bool false)).isSet = Setting.isOn given switch := by
    unfold Setting.isOn
    cases given.get? switch <;> rfl
  simp only [applySwitch, hon]
  cases Setting.isOn given switch with
  | true => by_cases hk : key = Setting.verbosity.key <;> simp [hk, OrderedMap.get?_erase h]
  | false => simp [OrderedMap.get?_erase h]

theorem get?_directLayer {given : OrderedMap String Value} (h : given.keys.Nodup)
    (setting : Setting) :
    (OrderedMap.ofList (directLayer given)).get? setting.key = setting.given? given := by
  have hverbose := nodup_keys_applySwitch h "verbose" .verbose
  have hquiet := nodup_keys_applySwitch hverbose "quiet" .quiet
  have hfiltered : ((directLayer given).map (·.1)).Nodup :=
    hquiet.sublist (List.filter_sublist.map _)
  -- The switch that is applied first leaves the other one as it was given.
  have hon : Setting.isOn (applySwitch "verbose" .verbose given) "quiet" =
      Setting.isOn given "quiet" := by
    have hne : "quiet" ≠ Setting.verbosity.key := by decide
    simp [Setting.isOn, get?_applySwitch h, hne]
  have hswitch : setting.key ≠ "quiet" ∧ setting.key ≠ "verbose" := by
    cases setting <;> decide
  have hkey : setting.key = Setting.verbosity.key ↔ setting = .verbosity :=
    Setting.key_injective.eq_iff
  rw [OrderedMap.get?_ofList_of_nodup hfiltered, directLayer,
    OrderedMap.lookupEntry_filter hquiet]
  change ((applySwitch "quiet" .quiet (applySwitch "verbose" .verbose given)).get?
    setting.key).filter _ = _
  simp only [get?_applySwitch hverbose, get?_applySwitch h, hon, hkey, hswitch, ite_false,
    Setting.given?]
  split
  · rfl
  · split <;> rfl

/-! ## The merged values -/

/-- In the merged values a setting has the value of the highest layer that sets it. -/
theorem get?_mergeLayers {environment : List (String × String)} {given : OrderedMap String Value}
    {parsed : List (String × Value)} (hg : given.keys.Nodup)
    (hp : readVariables environment Setting.all = .ok parsed) (setting : Setting) :
    (OrderedMap.ofList (fileEntries tables ++ parsed ++ directLayer given)).get? setting.key =
      (setting.given? given).or
        ((setting.inEnvironment? environment).or (inFiles? tables setting.key)) := by
  rw [OrderedMap.get?_ofList_append, OrderedMap.get?_ofList_append, get?_directLayer hg,
    get?_readVariables hp, get?_fileEntries]

/-! ## The values of settings -/

/-- A number as the value of a setting. -/
def Number.value : Number → Value
  | .int n => .int n
  | .bool b => .bool b
  | .float x => .float x

/-- A name as the value of a setting. -/
def FileName.value : FileName → Value
  | .text s => .text s
  | .bytes content => .bytes content

/-- The value of a setting, in the form in which it is given. -/
def Settings.value (settings : Settings) : Setting → Value
  | .warningThreshold => settings.warningThreshold.value
  | .maxFileSizeMb => settings.maxFileSizeMb.value
  | .maxSourceLength => settings.maxSourceLength.value
  | .defaultFileName => settings.defaultFileName.value
  | .verbosity => .text settings.verbosity.word
  | .outputFormat => .text settings.outputFormat.word

namespace Settings

theorem comparable_eq_ok {operator : String} {value : Value} {number : Number}
    (h : comparable operator value = .ok number) : number.value = value := by
  cases value with
  | bool b => obtain rfl := Except.ok.inj h; rfl
  | int n => obtain rfl := Except.ok.inj h; rfl
  | float x => obtain rfl := Except.ok.inj h; rfl
  | _ => cases h

theorem check_eq_ok {α : Type} {x : Except Fault α} {c : α → Bool} {text : String} {a : α}
    (h : (x >>= fun a => if c a then .error (invalid text) else .ok a) = .ok a) : x = .ok a := by
  obtain ⟨checked, hx, hc⟩ := bind_eq_ok_iff.mp h
  split at hc
  · cases hc
  · obtain rfl := Except.ok.inj hc
    exact hx

theorem notBlank_eq_ok {setting : Setting} {value : Value} {name : FileName}
    (h : notBlank setting value = .ok name) : name.value = value := by
  have htrim : trimmable value = .ok name := check_eq_ok h
  cases value with
  | text s => obtain rfl := Except.ok.inj htrim; rfl
  | bytes content => obtain rfl := Except.ok.inj htrim; rfl
  | _ => cases htrim

theorem choice_eq_ok {α : Type} (all : List α) (word : α → String) {setting : Setting}
    {words : List String} {value : Value} {chosen : α}
    (h : choice setting words (fun text => all.find? (word · == text)) value = .ok chosen) :
    .text (word chosen) = value := by
  unfold choice at h
  split at h
  · rename_i found hf
    obtain rfl := Except.ok.inj h
    obtain ⟨text, ht, hfound⟩ := Option.bind_eq_some_iff.mp hf
    have hword : word found = text := by simpa using List.find?_some hfound
    cases value with
    | text s =>
        obtain rfl := Option.some.inj ht
        rw [hword]
    | _ => cases ht
  · cases h

/-- Settings keep the values from which they are made. -/
theorem value_of_ofValues {value : Setting → Value} {settings : Settings}
    (h : ofValues value = .ok settings) (setting : Setting) :
    settings.value setting = value setting := by
  obtain ⟨warningThreshold, hwarning, h⟩ := bind_eq_ok_iff.mp h
  obtain ⟨maxFileSizeMb, hsize, h⟩ := bind_eq_ok_iff.mp h
  obtain ⟨maxSourceLength, hlength, h⟩ := bind_eq_ok_iff.mp h
  obtain ⟨defaultFileName, hname, h⟩ := bind_eq_ok_iff.mp h
  obtain ⟨verbosity, hverbosity, h⟩ := bind_eq_ok_iff.mp h
  obtain ⟨outputFormat, hformat, h⟩ := bind_eq_ok_iff.mp h
  obtain rfl := Except.ok.inj h
  cases setting with
  | warningThreshold => exact comparable_eq_ok (check_eq_ok hwarning)
  | maxFileSizeMb => exact comparable_eq_ok (check_eq_ok hsize)
  | maxSourceLength => exact comparable_eq_ok (check_eq_ok hlength)
  | defaultFileName => exact notBlank_eq_ok hname
  | verbosity => exact choice_eq_ok Verbosity.all Verbosity.word hverbosity
  | outputFormat => exact choice_eq_ok OutputFormat.all OutputFormat.word hformat

end Settings

/-! ## Values that do not count -/

/-- What the settings files hold if the value of a key in one of them is replaced. -/
def replaceAt (place : Place) (key : String) (value : Value) (other : Place) :
    Except Failure (Option Toml.Table) :=
  if other = place then (tables other).map (Option.map (Toml.replace key value))
  else tables other

theorem failureIn?_replaceAt (place : Place) (key : String) (value : Value) (other : Place) :
    failureIn? (replaceAt tables place key value other) = failureIn? (tables other) := by
  unfold replaceAt
  split
  · cases tables other <;> rfl
  · rfl

theorem entriesIn_replaceAt (place : Place) (key : String) (value : Value) (other : Place) :
    entriesIn (replaceAt tables place key value other) =
      if other = place then Toml.replace key value (entriesIn (tables other))
      else entriesIn (tables other) := by
  unfold replaceAt
  split
  · rcases tables other with failure | _ | entries <;> rfl
  · rfl

theorem keys_replace (key : String) (value : Value) (table : Toml.Table) :
    (Toml.replace key value table).map (·.1) = table.map (·.1) := by
  rw [Toml.replace, List.map_map]
  apply List.map_congr_left
  intro entry _
  by_cases h : entry.1 = key <;> simp [h]

theorem get?_replace_of_ne {key k : String} (h : k ≠ key) (value : Value) (table : Toml.Table) :
    (OrderedMap.ofList (Toml.replace key value table)).get? k =
      (OrderedMap.ofList table).get? k := by
  induction table with
  | nil => rfl
  | cons entry rest ih =>
      obtain ⟨first, old⟩ := entry
      have hcons : Toml.replace key value ((first, old) :: rest) =
          (if first = key then (first, value) else (first, old)) ::
            Toml.replace key value rest := rfl
      rw [hcons]
      by_cases hf : first = key
      · subst hf
        rw [if_pos rfl, OrderedMap.get?_ofList_cons, OrderedMap.get?_ofList_cons, if_neg h,
          if_neg h, ih]
      · rw [if_neg hf, OrderedMap.get?_ofList_cons, OrderedMap.get?_ofList_cons, ih]

theorem keys_fileEntries_replaceAt (place : Place) (key : String) (value : Value) :
    (fileEntries (replaceAt tables place key value)).map (·.1) =
      (fileEntries tables).map (·.1) := by
  unfold fileEntries
  rw [List.map_flatMap, List.map_flatMap]
  congr 1
  funext other
  rw [entriesIn_replaceAt]
  split
  · exact keys_replace key value _
  · rfl

theorem valueIn?_replaceAt {place : Place} {key : String} {other : Place} {k : String}
    (h : other ≠ place ∨ k ≠ key) (value : Value) :
    valueIn? (replaceAt tables place key value other) k = valueIn? (tables other) k := by
  unfold valueIn?
  rw [entriesIn_replaceAt]
  split
  · rename_i ho
    exact get?_replace_of_ne (h.resolve_left (not_not_intro ho)) value _
  · rfl

/-- The places that win over a place. -/
def Place.above : Place → List Place
  | .home => [.work, .named]
  | .work => [.named]
  | .named => []

/-- Whether a layer above a settings file sets what the file sets. -/
def SetAbove (environment : List (String × String)) (given : OrderedMap String Value)
    (place : Place) (setting : Setting) : Prop :=
  (∃ higher ∈ place.above, (valueIn? (tables higher) setting.key).isSome = true) ∨
    (environment.lookup setting.variable).isSome = true ∨
    (setting.given? given).isSome = true

theorem inFiles?_replaceAt {place : Place} {key : String}
    (h : ∃ higher ∈ place.above, (valueIn? (tables higher) key).isSome = true) (value : Value) :
    inFiles? (replaceAt tables place key value) key = inFiles? tables key := by
  obtain ⟨higher, hm, hset⟩ := h
  have hkeep (other : Place) (ho : other ≠ place) :
      valueIn? (replaceAt tables place key value other) key = valueIn? (tables other) key :=
    valueIn?_replaceAt tables (Or.inl ho) value
  unfold inFiles?
  cases place with
  | home =>
      rw [hkeep .named (by decide), hkeep .work (by decide)]
      rcases List.mem_pair.mp hm with rfl | rfl
      · rw [Option.or_of_isSome hset, Option.or_of_isSome hset]
      · rw [Option.or_of_isSome hset, Option.or_of_isSome hset]
  | work =>
      obtain rfl := List.mem_singleton.mp hm
      rw [hkeep .named (by decide), Option.or_of_isSome hset, Option.or_of_isSome hset]
  | named => cases hm

/-- Where a layer above it sets the same setting, a value in a file does not change what is
merged. -/
theorem ofList_replaceAt {environment : List (String × String)} {given : OrderedMap String Value}
    {parsed : List (String × Value)} {place : Place} {setting : Setting}
    (hg : given.keys.Nodup) (hp : readVariables environment Setting.all = .ok parsed)
    (h : SetAbove tables environment given place setting) (value : Value) :
    OrderedMap.ofList (fileEntries (replaceAt tables place setting.key value) ++ parsed ++
        directLayer given) =
      OrderedMap.ofList (fileEntries tables ++ parsed ++ directLayer given) := by
  -- The keys stay in their places, so the order of the merged values cannot change either.
  apply OrderedMap.ofList_eq_of_get?
  · simp only [List.map_append, keys_fileEntries_replaceAt]
  · intro key
    by_cases hk : key = setting.key
    · subst hk
      rw [get?_mergeLayers _ hg hp, get?_mergeLayers _ hg hp]
      rcases h with hfile | hvariable | hgiven
      · rw [inFiles?_replaceAt tables hfile]
      · have hread := Setting.isSome_inEnvironment? (readVariables_eq_ok_iff.mp hp).1 hvariable
        rw [Option.or_of_isSome hread, Option.or_of_isSome hread]
      · rw [Option.or_of_isSome hgiven, Option.or_of_isSome hgiven]
    · have hfiles : inFiles? (replaceAt tables place setting.key value) key =
          inFiles? tables key := by
        simp only [inFiles?, valueIn?_replaceAt tables (Or.inr hk) value]
      simp only [OrderedMap.get?_ofList_append, get?_fileEntries, hfiles]

/-! ## Loading settings -/

/-- What is needed before the values of settings are looked at. Every file can be used, every
variable can be read, and only settings are given values. -/
structure Admissible (environment : List (String × String)) (given : OrderedMap String Value) :
    Prop where
  files : ∀ place, failureIn? (tables place) = none
  environment : Legible environment Setting.all
  names : ∀ key ∈ (fileEntries tables ++ directLayer given).map (·.1),
    (Setting.ofKey? key).isSome = true

theorem mergeLayers_eq_ok_iff {surroundings : Surroundings} {file : Option Path}
    (ht : surroundings.Hold tables file) {given : OrderedMap String Value} {merged : Merged} :
    mergeLayers surroundings file given = .ok merged ↔
      (∀ place, failureIn? (tables place) = none) ∧
      ∃ parsed, readVariables surroundings.environment Setting.all = .ok parsed ∧
        merged = ⟨.ofList (fileEntries tables ++ parsed ++ directLayer given), false⟩ := by
  have hplaces : (Place.all.findSome? fun place => failureIn? (tables place)) = none ↔
      ∀ place, failureIn? (tables place) = none := by
    rw [List.findSome?_eq_none_iff]
    exact ⟨fun h place => h place (by cases place <;> decide), fun h place _ => h place⟩
  rw [mergeLayers_of_hold tables ht, ← hplaces]
  cases Place.all.findSome? fun place => failureIn? (tables place) with
  | some failure => simp
  | none =>
      cases readVariables surroundings.environment Setting.all with
      | error failure => simp [Except.map]
      | ok parsed => simp [Except.map, eq_comm]

/-- The merged values are those of the highest layers, and no others are. -/
theorem hasValue_iff {environment : List (String × String)} {given : OrderedMap String Value}
    {parsed : List (String × Value)} (hg : given.keys.Nodup)
    (hp : readVariables environment Setting.all = .ok parsed) {setting : Setting} {value : Value} :
    setting.HasValue tables environment given value ↔
      Merged.value ⟨.ofList (fileEntries tables ++ parsed ++ directLayer given), false⟩ setting =
        value := by
  rw [Merged.value, get?_mergeLayers tables hg hp]
  exact Setting.hasValue_iff_of_legible tables (readVariables_eq_ok_iff.mp hp).1

/-- Settings are loaded exactly if the value that the highest layer gives each setting fits. -/
theorem loadSettings_of_hold {surroundings : Surroundings} {file : Option Path}
    {given : OrderedMap String Value} (hg : given.keys.Nodup)
    (ht : surroundings.Hold tables file) (settings : Settings) :
    loadSettings surroundings file given = .ok settings ↔
      Admissible tables surroundings.environment given ∧
        ∃ value : Setting → Value,
          (∀ setting : Setting,
            setting.HasValue tables surroundings.environment given (value setting)) ∧
          Settings.ofValues value = .ok settings := by
  rw [loadSettings_eq_ok_iff]
  constructor
  · rintro ⟨merged, hmerged, hsettings⟩
    obtain ⟨hfiles, parsed, hp, rfl⟩ := (mergeLayers_eq_ok_iff tables ht).mp hmerged
    obtain ⟨-, hknown, hvalues⟩ := Merged.settings_eq_ok_iff.mp hsettings
    refine ⟨⟨hfiles, (readVariables_eq_ok_iff.mp hp).1, ?_⟩, _,
      fun setting => (hasValue_iff tables hg hp).mpr rfl, hvalues⟩
    intro key hk
    apply hknown
    rw [OrderedMap.mem_keys_ofList]
    simp only [List.map_append, List.mem_append] at hk ⊢
    tauto
  · rintro ⟨⟨hfiles, hlegible, hnames⟩, value, hvalue, hvalues⟩
    have hp := readVariables_eq_ok_iff.mpr ⟨hlegible, rfl⟩
    refine ⟨_, (mergeLayers_eq_ok_iff tables ht).mpr ⟨hfiles, _, hp, rfl⟩, ?_⟩
    refine Merged.settings_eq_ok_iff.mpr ⟨rfl, ?_, ?_⟩
    · intro key hk
      rw [OrderedMap.mem_keys_ofList] at hk
      simp only [List.map_append, List.mem_append] at hk hnames
      rcases hk with (hk | hk) | hk
      · exact hnames key (Or.inl hk)
      · exact isSome_ofKey?_of_readVariables hp hk
      · exact hnames key (Or.inr hk)
    · have hsame : Merged.value _ = value :=
        funext fun setting => (hasValue_iff tables hg hp).mp (hvalue setting)
      rw [hsame, hvalues]

theorem mergeLayers_replaceAt {surroundings changed : Surroundings} {file : Option Path}
    {given : OrderedMap String Value} {place : Place} {setting : Setting} {value : Value}
    (hg : given.keys.Nodup) (ht : surroundings.Hold tables file)
    (he : changed.environment = surroundings.environment)
    (hc : changed.Hold (replaceAt tables place setting.key value) file)
    (h : SetAbove tables surroundings.environment given place setting) :
    mergeLayers changed file given = mergeLayers surroundings file given := by
  rw [mergeLayers_of_hold tables ht, mergeLayers_of_hold _ hc, he]
  simp only [failureIn?_replaceAt]
  split
  · rfl
  · cases hp : readVariables surroundings.environment Setting.all with
    | error failure => rfl
    | ok parsed =>
        simp only [Except.map]
        rw [ofList_replaceAt tables hg hp h]

theorem hold_ofWorkFile {content : ByteArray} {table : Toml.Table}
    {stack : Nat} (h : layerOfBytes stack "/work/complexity-insight.toml" content =
      .ok (.table table)) :
    (Surroundings.ofWorkFile stack content).Hold
      (fun place => .ok (if place = .work then some table else none)) none := by
  intro place
  rw [layer?_ofWorkFile]
  cases place with
  | home => rfl
  | work => rw [h]; rfl
  | named => rfl

/-- Settings are loaded if what the highest layers set fits, and then every setting has the value of
the highest layer that sets it. The outcome, settings or failure, does not change when a settings
file gives another value to a setting that a layer above it sets, whether the value fits or not. -/
theorem loadSettings_precedence (surroundings : Surroundings) (file : Option Path)
    (given : OrderedMap String Value) (hg : given.keys.Nodup)
    (ht : surroundings.Hold tables file) :
    (∀ settings, loadSettings surroundings file given = .ok settings →
      ∀ setting : Setting,
        setting.HasValue tables surroundings.environment given (settings.value setting)) ∧
    (∀ settings, loadSettings surroundings file given = .ok settings ↔
      Admissible tables surroundings.environment given ∧
        ∃ value : Setting → Value,
          (∀ setting : Setting,
            setting.HasValue tables surroundings.environment given (value setting)) ∧
          Settings.ofValues value = .ok settings) ∧
    (∀ (place : Place) (setting : Setting) (value : Value) (changed : Surroundings),
      changed.environment = surroundings.environment →
      changed.Hold (replaceAt tables place setting.key value) file →
      SetAbove tables surroundings.environment given place setting →
      loadSettings changed file given = loadSettings surroundings file given) := by
  have hloads := loadSettings_of_hold tables hg ht
  refine ⟨?_, hloads, ?_⟩
  · intro settings h setting
    obtain ⟨-, value, hvalue, hvalues⟩ := (hloads settings).mp h
    rw [Settings.value_of_ofValues hvalues]
    exact hvalue setting
  · intro place setting value changed he hc habove
    rw [loadSettings, loadSettings, mergeLayers_replaceAt tables hg ht he hc habove]

/-- The file asks for less and the switch for more, of which the switch wins; so the file may hold a
number instead. -/
theorem loadSettings_of_switch :
    let tables (place : Place) : Except Failure (Option Toml.Table) :=
      .ok (if place = .work then some [("verbosity", .text "quiet")] else none)
    let given : OrderedMap String Value := .ofList [("verbose", .bool true)]
    let surroundings : Surroundings := .ofWorkFile 960 "verbosity='quiet'".toUTF8
    surroundings.Hold tables none ∧
      (∃ settings, loadSettings surroundings none given = .ok settings ∧
        Setting.HasValue tables [] given .verbosity (settings.value .verbosity) ∧
        settings.value .verbosity = .text "verbose") ∧
      loadSettings (.ofWorkFile 960 "verbosity=1".toUTF8) none given =
        loadSettings surroundings none given := by
  intro tables given surroundings
  have hquiet : layerOfBytes 960 "/work/complexity-insight.toml" "verbosity='quiet'".toUTF8 =
      .ok (.table [("verbosity", .text "quiet")]) := by
    have htext : "verbosity='quiet'".toList =
        ['v', 'e', 'r', 'b', 'o', 's', 'i', 't', 'y', '=', '\'', 'q', 'u', 'i', 'e', 't',
          '\''] := rfl
    exact layerOfBytes_of_parse (htext ▸ Text.decodeStrict_toUTF8 "verbosity='quiet'") rfl _
  have hone : layerOfBytes 960 "/work/complexity-insight.toml" "verbosity=1".toUTF8 =
      .ok (.table [("verbosity", .int 1)]) := by
    have htext : "verbosity=1".toList =
        ['v', 'e', 'r', 'b', 'o', 's', 'i', 't', 'y', '=', '1'] := rfl
    exact layerOfBytes_of_parse (htext ▸ Text.decodeStrict_toUTF8 "verbosity=1") rfl _
  have hhold : surroundings.Hold tables none := hold_ofWorkFile hquiet
  obtain ⟨hvalue, hloads, hsame⟩ := loadSettings_precedence tables surroundings none given
    (OrderedMap.nodup_keys_ofList _) hhold
  have hverbose (setting : Setting) : setting.HasValue tables [] given
      (if setting = .verbosity then .text "verbose" else setting.default) := by
    cases setting with
    | verbosity => exact .given rfl
    | _ => exact .usual rfl rfl rfl
  have hlegible : Legible [] Setting.all := by
    intro setting _ text htext
    cases htext
  have hloaded := (hloads { verbosity := .verbose }).mpr
    ⟨⟨fun place => rfl, hlegible, by decide⟩, _, hverbose, rfl⟩
  refine ⟨hhold, ⟨_, hloaded, hvalue _ hloaded .verbosity, rfl⟩, ?_⟩
  refine hsame .work .verbosity (.int 1) _ rfl ?_ (Or.inr (Or.inr rfl))
  intro place
  rw [hold_ofWorkFile hone place]
  cases place <;> rfl

theorem loadSettings_of_unreadable {stack : Nat} {content : ByteArray} {failure : Failure}
    (h : layerOfBytes stack "/work/complexity-insight.toml" content = .error failure)
    (given : OrderedMap String Value) :
    loadSettings (.ofWorkFile stack content) none given = .error failure := by
  have hhold : (Surroundings.ofWorkFile stack content).Hold
      (fun place => if place = .work then .error failure else .ok none) none := by
    intro place
    rw [layer?_ofWorkFile, h]
    cases place <;> rfl
  rw [loadSettings, mergeLayers_of_hold _ hhold]
  rfl

/-- The text of a settings file that gives the threshold an integer of one digit too many. -/
def longThreshold : List Char :=
  "warning_threshold=".toList ++ List.replicate (Number.maxDigits + 1) '9'

/-- The text of a settings file that gives the threshold a thousand lists inside each other. -/
def deepThreshold : List Char :=
  "warning_threshold=".toList ++ List.replicate 1000 '[' ++ List.replicate 1000 ']'

theorem parse_longThreshold :
    Toml.parse 960 longThreshold = .error (.tooManyDigits (Number.maxDigits + 1)) := by
  rw [← map_eq_error_iff (f := fun _ => ())]
  decide +kernel

theorem parse_deepThreshold : Toml.parse 960 deepThreshold = .error .tooDeep := by
  rw [← map_eq_error_iff (f := fun _ => ())]
  decide +kernel

/-- A threshold in a file does not count below one that the caller gives, but an integer with too
many digits, or lists too deeply inside each other, keep the file from being read. -/
theorem loadSettings_of_unreadable_value :
    let given : OrderedMap String Value := .ofList [("warning_threshold", .int 7)]
    loadSettings (.ofWorkFile 960 "warning_threshold=5".toUTF8) none given =
        .ok { warningThreshold := .int 7 } ∧
      loadSettings (.ofWorkFile 960 (String.ofList longThreshold).toUTF8) none given =
        .error (.fault ⟨.invalidValue,
          (Number.Refusal.tooManyDigits (Number.maxDigits + 1)).message⟩) ∧
      loadSettings (.ofWorkFile 960 (String.ofList deepThreshold).toUTF8) none given =
        .error (.fault stackOverflow) := by
  intro given
  have htext (cs : List Char) : Text.decodeStrict (String.ofList cs).toUTF8.toList = .ok cs := by
    rw [Text.decodeStrict_toUTF8, String.toList_ofList]
  have hlong := layerOfBytes_of_tooManyDigits (htext _) parse_longThreshold
  have hdeep := layerOfBytes_of_tooDeep (htext _) parse_deepThreshold
  refine ⟨?_, loadSettings_of_unreadable (hlong _) given,
    loadSettings_of_unreadable (hdeep _) given⟩
  have hchars : "warning_threshold=5".toList =
      ['w', 'a', 'r', 'n', 'i', 'n', 'g', '_', 't', 'h', 'r', 'e', 's', 'h', 'o', 'l', 'd', '=',
        '5'] := rfl
  have hshort : layerOfBytes 960 "/work/complexity-insight.toml" "warning_threshold=5".toUTF8 =
      .ok (.table [("warning_threshold", .int 5)]) :=
    layerOfBytes_of_parse (hchars ▸ Text.decodeStrict_toUTF8 _) rfl _
  rw [loadSettings, mergeLayers_of_hold _ (hold_ofWorkFile hshort)]
  rfl

end Cyclomatic
