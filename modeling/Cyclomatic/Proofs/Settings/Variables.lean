import Cyclomatic.Proofs.Number.Reading
import Cyclomatic.Proofs.Settings.Files

/-! # Environment variables

Each setting has a variable of its own, whose text stands for a number or is taken without the
blanks around it. Either every variable that is set stands for something, or no settings are
loaded. -/

namespace Cyclomatic

namespace Setting

/-! ## One variable -/

theorem key_injective : Function.Injective key := by
  intro first second h
  cases first <;> cases second <;> first | rfl | exact absurd h (by decide)

theorem mem_all (setting : Setting) : setting ∈ all := by
  cases setting <;> decide

/-- What the text of an environment variable stands for: an integer or a floating point number as
they are written, or the text without the blanks around it. -/
inductive Parses : Setting → String → Value → Prop where
  | threshold {text n} (h : Number.WritesInt text.toList n) :
      Parses .warningThreshold text (.int n)
  | fileSize {text x} (h : Number.WritesFloat text.toList x) :
      Parses .maxFileSizeMb text (.float x)
  | length {text n} (h : Number.WritesInt text.toList n) :
      Parses .maxSourceLength text (.int n)
  | word {setting text kept} (hs : setting ∈ [.defaultFileName, .verbosity, .outputFormat])
      (h : Text.Trimmed text.toList kept) : Parses setting text (.text (String.ofList kept))

theorem read_eq_ok_iff {setting : Setting} {text : String} {value : Value} :
    setting.read text = .ok value ↔ setting.Parses text value := by
  constructor
  · intro h
    cases setting with
    | warningThreshold =>
        obtain ⟨n, hn, rfl⟩ := map_eq_ok_iff.mp h
        exact .threshold (Number.readInt_eq_ok_iff.mp hn)
    | maxFileSizeMb =>
        obtain ⟨x, hx, rfl⟩ := map_eq_ok_iff.mp h
        exact .fileSize (Number.readFloat_eq_ok_iff.mp hx)
    | maxSourceLength =>
        obtain ⟨n, hn, rfl⟩ := map_eq_ok_iff.mp h
        exact .length (Number.readInt_eq_ok_iff.mp hn)
    | defaultFileName | verbosity | outputFormat =>
        obtain rfl := Except.ok.inj h
        exact .word (by decide) (Text.trimmed_trim text.toList)
  · intro h
    cases h with
    | threshold h => exact map_eq_ok_iff.mpr ⟨_, Number.readInt_eq_ok_iff.mpr h, rfl⟩
    | fileSize h => exact map_eq_ok_iff.mpr ⟨_, Number.readFloat_eq_ok_iff.mpr h, rfl⟩
    | length h => exact map_eq_ok_iff.mpr ⟨_, Number.readInt_eq_ok_iff.mpr h, rfl⟩
    | word hs h =>
        rw [← h.trim_eq]
        simp only [List.mem_cons, List.not_mem_nil, or_false] at hs
        rcases hs with rfl | rfl | rfl
        · rfl
        · rfl
        · rfl

/-- The value that the environment gives a setting. -/
def inEnvironment? (environment : List (String × String)) (setting : Setting) : Option Value :=
  (environment.lookup setting.variable).bind fun text => (setting.read text).toOption

theorem inEnvironment?_of_parses {environment : List (String × String)} {setting : Setting}
    {text : String} {value : Value} (hv : environment.lookup setting.variable = some text)
    (h : setting.Parses text value) : setting.inEnvironment? environment = some value := by
  rw [inEnvironment?, hv, Option.bind_some, read_eq_ok_iff.mpr h]
  rfl

end Setting

/-! ## All variables -/

/-- Whether every variable of some settings that is set stands for a value. -/
def Legible (environment : List (String × String)) (settings : List Setting) : Prop :=
  ∀ setting ∈ settings, ∀ text, environment.lookup setting.variable = some text →
    ∃ value, setting.Parses text value

/-- The values that the environment gives some settings. -/
def valuesIn (environment : List (String × String)) (settings : List Setting) :
    List (String × Value) :=
  settings.filterMap fun setting =>
    (setting.inEnvironment? environment).map fun value => (setting.key, value)

theorem legible_cons {environment : List (String × String)} {setting : Setting}
    {rest : List Setting} :
    Legible environment (setting :: rest) ↔
      (∀ text, environment.lookup setting.variable = some text →
        ∃ value, setting.Parses text value) ∧ Legible environment rest :=
  List.forall_mem_cons

/-- The environment is read as a whole or not at all. -/
theorem readVariables_eq_ok_iff {environment : List (String × String)} {settings : List Setting}
    {parsed : List (String × Value)} :
    readVariables environment settings = .ok parsed ↔
      Legible environment settings ∧ valuesIn environment settings = parsed := by
  induction settings generalizing parsed with
  | nil => simp [readVariables, Legible, valuesIn]
  | cons setting rest ih =>
      rw [readVariables, legible_cons, valuesIn, List.filterMap_cons]
      cases hv : environment.lookup setting.variable with
      | none =>
          have hnone : setting.inEnvironment? environment = none := by
            simp [Setting.inEnvironment?, hv]
          simp only [hnone, Option.map_none]
          exact ih.trans (by simp [valuesIn])
      | some text =>
          cases hr : setting.read text with
          | error refusal =>
              refine iff_of_false (by simp [hr]) ?_
              rintro ⟨⟨hparses, -⟩, -⟩
              obtain ⟨value, hvalue⟩ := hparses text rfl
              cases hr.symm.trans (Setting.read_eq_ok_iff.mpr hvalue)
          | ok value =>
              have hparses := Setting.read_eq_ok_iff.mp hr
              simp only [Setting.inEnvironment?_of_parses hv hparses, Option.map_some, hr]
              rw [map_eq_ok_iff]
              simp only [ih]
              constructor
              · rintro ⟨more, ⟨hrest, rfl⟩, rfl⟩
                refine ⟨⟨?_, hrest⟩, rfl⟩
                rintro other ⟨⟩
                exact ⟨value, hparses⟩
              · rintro ⟨⟨-, hrest⟩, rfl⟩
                exact ⟨_, ⟨hrest, rfl⟩, rfl⟩

theorem get?_filterMap_key (value? : Setting → Option Value) (settings : List Setting)
    (setting : Setting) :
    (OrderedMap.ofList (settings.filterMap fun other =>
      (value? other).map fun value => (other.key, value))).get? setting.key =
      if setting ∈ settings then value? setting else none := by
  induction settings with
  | nil => rfl
  | cons other rest ih =>
      have hkey : setting.key = other.key ↔ setting = other := Setting.key_injective.eq_iff
      rw [List.filterMap_cons]
      cases hv : value? other with
      | none =>
          by_cases hs : setting = other
          · subst hs
            simp [hv, ih]
          · simp [ih, hs]
      | some value =>
          simp only [Option.map_some, OrderedMap.get?_ofList_cons, ih, hkey, List.mem_cons]
          by_cases hs : setting = other
          · subst hs
            by_cases hm : setting ∈ rest <;> simp [hv, hm]
          · simp [hs]

theorem get?_readVariables {environment : List (String × String)} {parsed : List (String × Value)}
    (h : readVariables environment Setting.all = .ok parsed) (setting : Setting) :
    (OrderedMap.ofList parsed).get? setting.key = setting.inEnvironment? environment := by
  rw [← (readVariables_eq_ok_iff.mp h).2, valuesIn, get?_filterMap_key]
  simp [Setting.mem_all]

theorem isSome_ofKey?_of_readVariables {environment : List (String × String)}
    {parsed : List (String × Value)} (h : readVariables environment Setting.all = .ok parsed)
    {key : String} (hk : key ∈ parsed.map (·.1)) : (Setting.ofKey? key).isSome = true := by
  obtain ⟨entry, hentry, rfl⟩ := List.mem_map.mp hk
  rw [← (readVariables_eq_ok_iff.mp h).2] at hentry
  obtain ⟨setting, -, hs⟩ := List.mem_filterMap.mp hentry
  obtain ⟨value, -, rfl⟩ := Option.map_eq_some_iff.mp hs
  change (Setting.ofKey? setting.key).isSome = true
  cases setting <;> decide

end Cyclomatic
