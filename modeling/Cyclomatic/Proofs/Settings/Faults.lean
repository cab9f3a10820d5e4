import Cyclomatic.Proofs.Settings.Files
import Cyclomatic.Proofs.Text.Utf8
import Mathlib

/-! # Faults while settings are loaded

Most of what can go wrong while settings are loaded is reported as an error of the configuration.
The rest comes out as a fault: a settings file that is no text, that holds an integer with too many
digits or values too deeply inside each other, whose settings are no table and no list of pairs, or
that gives a file name that is neither a text nor bytes; and a directory that may not be
searched. -/

namespace Cyclomatic

/-! ## Failures of some kind -/

/-- Whether an outcome is a failure with a property. -/
def failsWith {ε α : Type} (p : ε → Bool) : Except ε α → Bool
  | .error failure => p failure
  | .ok _ => false

section

variable {ε α β : Type} {p : ε → Bool}

theorem failsWith_bind {x : Except ε α} {f : α → Except ε β} :
    failsWith p (x >>= f) = true ↔
      failsWith p x = true ∨ ∃ a, x = .ok a ∧ failsWith p (f a) = true := by
  cases x with
  | error failure => simp [failsWith, bind, Except.bind]
  | ok a => simp [failsWith, bind, Except.bind]

theorem failsWith_bind_of_never {x : Except ε α} {f : α → Except ε β}
    (hf : ∀ a, failsWith p (f a) = false) : failsWith p (x >>= f) = failsWith p x := by
  cases x with
  | error failure => rfl
  | ok a => exact hf a

theorem failsWith_bind_of_passed {x : Except ε α} {f : α → Except ε β} {q : Prop}
    (hx : failsWith p x = false) (hf : ∀ a, failsWith p (f a) = true ↔ q) :
    failsWith p (x >>= f) = true ↔ x.isOk = true ∧ q := by
  cases x with
  | error failure =>
      have hp : p failure = false := hx
      simp [failsWith, bind, Except.bind, Except.isOk, Except.toBool, hp]
  | ok a => exact (hf a).trans (and_iff_right rfl).symm

theorem failsWith_map {x : Except ε α} {f : α → β} :
    failsWith p (x.map f) = failsWith p x := by
  cases x <;> rfl

end

def Failure.isConfiguration : Failure → Bool
  | .error reported _ => reported.kind == .configuration
  | .fault _ => false

/-- Whether an outcome is a failure that is no error of the configuration. -/
def escapes {α : Type} (outcome : Except Failure α) : Bool :=
  failsWith (fun failure => !failure.isConfiguration) outcome

/-! ## Reading a file -/

/-- Whether the bytes of a settings file are no text, hold an integer with too many digits, or hold
values too deeply inside each other for the stack. -/
def FaultyBytes (stack : Nat) (content : ByteArray) : Prop :=
  (∃ error, Text.decodeStrict content.toList = .error error) ∨
    ∃ text, Text.decodeStrict content.toList = .ok text ∧
      ((∃ count, Toml.parse stack text = .error (.tooManyDigits count)) ∨
        Toml.parse stack text = .error .tooDeep)

theorem escapes_layerOfBytes (stack : Nat) (shown : String) (content : ByteArray) :
    escapes (layerOfBytes stack shown content) = true ↔ FaultyBytes stack content := by
  unfold layerOfBytes FaultyBytes
  cases Text.decodeStrict content.toList with
  | error error => simp [escapes, failsWith, Failure.isConfiguration]
  | ok text =>
      cases hp : Toml.parse stack text with
      | error refusal =>
          cases refusal <;>
            simp [hp, escapes, failsWith, invalidFile, Failure.isConfiguration, Error.kind]
      | ok table => simp [hp, escapes, failsWith]

/-- Whether what was found causes a fault. A path that is too long does, and so does one through a
directory that may not be searched, and a file may. -/
def FaultyFind (stack : Nat) (found : Except PathRefusal Entry) : Prop :=
  found = .error .nameTooLong ∨ found = .error .forbidden ∨
    ∃ content, found = .ok (.file content) ∧ FaultyBytes stack content

theorem not_faultyBytes_empty (stack : Nat) : ¬ FaultyBytes stack .empty := by
  have hd : Text.decodeStrict ByteArray.empty.toList = .ok [] := by cbv
  have hp : Toml.parse stack [] = .ok [] := rfl
  rintro (⟨error, h⟩ | ⟨text, ht, h⟩)
  · cases hd.symm.trans h
  · obtain rfl := Except.ok.inj (hd.symm.trans ht)
    simp [hp] at h

/-- What may not be read is reported. -/
theorem escapes_foundLayer (stack : Nat) (shown : String) (entry : Entry) :
    escapes (foundLayer stack shown (.ok entry)) = true ↔ FaultyFind stack (.ok entry) := by
  cases entry with
  | file content =>
      have hlayer : foundLayer stack shown (.ok (.file content)) =
          layerOfBytes stack shown content := rfl
      rw [hlayer, escapes_layerOfBytes]
      simp [FaultyFind]
  | locked size =>
      have hreported : escapes (foundLayer stack shown (.ok (.locked size))) = false := rfl
      simp [hreported, FaultyFind]
  | directory =>
      have hreported : escapes (foundLayer stack shown (.ok .directory)) = false := rfl
      simp [hreported, FaultyFind]
  | closed =>
      have hreported : escapes (foundLayer stack shown (.ok .closed)) = false := rfl
      simp [hreported, FaultyFind]
  | pipe =>
      have hlayer : foundLayer stack shown (.ok .pipe) = layerOfBytes stack shown .empty := rfl
      rw [hlayer, escapes_layerOfBytes]
      simp [not_faultyBytes_empty, FaultyFind]

/-- A file that is looked for and read if it is present. -/
theorem escapes_present (stack : Nat) (shown : String) (found : Except PathRefusal Entry)
    {absent : Except Failure (Option Value)} (h : escapes absent = false) :
    escapes (do
      let present ← (FileTree.found shown found).mapError Failure.fault
      if present then (foundLayer stack shown found).map some else absent) = true ↔
      FaultyFind stack found := by
  cases found with
  | error refusal =>
      cases refusal with
      | nameTooLong => exact ⟨fun _ => Or.inl rfl, fun _ => rfl⟩
      | forbidden => exact ⟨fun _ => Or.inr (Or.inl rfl), fun _ => rfl⟩
      | _ =>
          refine ⟨fun hesc => absurd (hesc.symm.trans h) (by decide), ?_⟩
          rintro (hr | hr | ⟨content, hr, _⟩) <;> cases hr
  | ok entry =>
      rw [← escapes_foundLayer stack shown entry]
      exact Bool.eq_iff_iff.mp failsWith_map

/-- What is found where a settings file may stand, if a file is looked for there. -/
def Surroundings.found? (surroundings : Surroundings) (file : Option Path) :
    Place → Option (Except PathRefusal Entry)
  | .home =>
      let files := surroundings.files
      some (files.find (.inside files.homeDirectory) ["." ++ settingsFileName])
  | .work =>
      let files := surroundings.files
      some (files.find (.inside files.workDirectory) [settingsFileName])
  | .named => file.map surroundings.files.lookup

theorem escapes_layer? (surroundings : Surroundings) (file : Option Path) (place : Place) :
    escapes (surroundings.layer? file place) = true ↔
      ∃ found, surroundings.found? file place = some found ∧
        FaultyFind surroundings.stack found := by
  have hone (found : Except PathRefusal Entry) :
      (∃ other, some found = some other ∧ FaultyFind surroundings.stack other) ↔
        FaultyFind surroundings.stack found := by
    simp
  cases place with
  | home => exact (escapes_present _ _ _ rfl).trans (hone _).symm
  | work => exact (escapes_present _ _ _ rfl).trans (hone _).symm
  | named =>
      cases file with
      | none => simp [Surroundings.layer?, namedLayer?, Surroundings.found?, escapes, failsWith]
      | some path => exact (escapes_present _ _ _ rfl).trans (hone _).symm

/-! ## Taking layers over -/

namespace Value

/-- Whether a value can be a key at all. -/
def isKey : Value → Bool
  | .list _ | .table _ => false
  | _ => true

/-- Whether a value serves as a pair of a key and a value. -/
def isPair (item : Value) : Bool :=
  match Merged.parts? item with
  | some [key, _] => key.isKey
  | _ => false

/-- Whether a value serves as a layer: a table or a sequence of pairs. -/
def isLayer : Value → Bool
  | .table _ => true
  | layer => (Merged.parts? layer).any fun items => items.all isPair

end Value

namespace Merged

theorem insertItem_isOk (merged : Merged) (index : Nat) (item : Value) :
    (merged.insertItem index item).isOk = item.isPair := by
  unfold insertItem Value.isPair
  rcases parts? item with _ | ⟨_ | ⟨key, _ | ⟨value, _ | ⟨third, rest⟩⟩⟩⟩
  · rfl
  · rfl
  · rfl
  · cases key <;> rfl
  · rfl

theorem insertItems_isOk (merged : Merged) (index : Nat) (items : List Value) :
    (merged.insertItems index items).isOk = items.all Value.isPair := by
  induction items generalizing merged index with
  | nil => rfl
  | cons item rest ih =>
      rw [insertItems, List.all_cons, ← insertItem_isOk merged index item]
      cases merged.insertItem index item with
      | error fault => rfl
      | ok next => exact ih next (index + 1)

theorem update_isOk (merged : Merged) (layer : Value) :
    (merged.update layer).isOk = layer.isLayer := by
  cases layer with
  | table entries => rfl
  | list items => exact insertItems_isOk merged 0 items
  | text s => exact insertItems_isOk merged 0 _
  | _ => rfl

theorem take_isOk (merged : Merged) (layer : Option Value) :
    (merged.take layer).isOk = layer.all Value.isLayer := by
  cases layer with
  | none => rfl
  | some value =>
      rw [Option.all_some, ← update_isOk merged value, take]
      cases merged.update value <;> rfl

/-- A layer that cannot be taken over is a fault. -/
theorem escapes_take (merged : Merged) (layer : Option Value) :
    escapes (merged.take layer) = !(merged.take layer).isOk := by
  cases layer with
  | none => rfl
  | some value =>
      rw [take]
      cases merged.update value <;> rfl

end Merged

/-- The places that are read before a place. -/
def Place.below : Place → List Place
  | .home => []
  | .work => [.home]
  | .named => [.home, .work]

/-- Whether what a place holds can be taken over. -/
def isUsable : Except Failure (Option Value) → Bool
  | .ok layer => layer.all Value.isLayer
  | .error _ => false

/-- Whether what a place holds causes a fault. -/
def isFaulty (held : Except Failure (Option Value)) : Bool :=
  escapes held || held.toOption.any fun layer => !layer.all Value.isLayer

/-- Whether a fault is met before anything else goes wrong. -/
def meetsFault (layer? : Place → Except Failure (Option Value)) : List Place → Bool
  | [] => false
  | place :: rest => isFaulty (layer? place) || (isUsable (layer? place) && meetsFault layer? rest)

theorem escapes_takeAll (layer? : Place → Except Failure (Option Value)) (places : List Place)
    (merged : Merged) :
    escapes (Merged.takeAll layer? places merged) = meetsFault layer? places := by
  induction places generalizing merged with
  | nil => rfl
  | cons place rest ih =>
      rw [Merged.takeAll, meetsFault]
      cases layer? place with
      | error failure =>
          have hfaulty : isFaulty (.error failure) = !failure.isConfiguration := Bool.or_false _
          rw [hfaulty]
          exact (Bool.or_false _).symm
      | ok layer =>
          have hok := Merged.take_isOk merged layer
          have hesc := Merged.escapes_take merged layer
          have hfaulty : isFaulty (.ok layer) = !layer.all Value.isLayer := Bool.false_or _
          have husable : isUsable (.ok layer) = layer.all Value.isLayer := rfl
          rw [hfaulty, husable, ← hok]
          -- What was merged before has no say in whether a layer is taken over.
          cases htake : merged.take layer with
          | error failure =>
              rw [htake] at hesc
              simpa [bind, Except.bind, htake, Except.isOk, Except.toBool] using hesc
          | ok next =>
              simpa [bind, Except.bind, htake, Except.isOk, Except.toBool] using ih next

theorem meetsFault_all (layer? : Place → Except Failure (Option Value)) :
    meetsFault layer? Place.all = true ↔
      ∃ place, (∀ earlier ∈ Place.below place, isUsable (layer? earlier) = true) ∧
        isFaulty (layer? place) = true := by
  simp only [Place.all, meetsFault, Bool.or_eq_true, Bool.and_eq_true]
  constructor
  · rintro (hhome | ⟨hh, hwork | ⟨hw, hnamed | ⟨_, hend⟩⟩⟩)
    · exact ⟨.home, by simp [Place.below], hhome⟩
    · exact ⟨.work, by simp [Place.below, hh], hwork⟩
    · exact ⟨.named, by simp [Place.below, hh, hw], hnamed⟩
    · cases hend
  · rintro ⟨place, husable, hfaulty⟩
    cases place with
    | home => exact Or.inl hfaulty
    | work => exact Or.inr ⟨husable .home (by decide), Or.inl hfaulty⟩
    | named =>
        exact Or.inr ⟨husable .home (by decide),
          Or.inr ⟨husable .work (by decide), Or.inl hfaulty⟩⟩

/-! ## The environment -/

theorem escapes_readVariables (environment : List (String × String)) (settings : List Setting) :
    escapes (readVariables environment settings) = false := by
  induction settings with
  | nil => rfl
  | cons setting rest ih =>
      rw [readVariables]
      split
      · exact ih
      · split
        · rfl
        · exact failsWith_map.trans ih

theorem escapes_mergeLayers (surroundings : Surroundings) (file : Option Path)
    (given : OrderedMap String Value) :
    escapes (mergeLayers surroundings file given) =
      meetsFault (surroundings.layer? file) Place.all := by
  rw [← escapes_takeAll _ _ .empty, mergeLayers_eq]
  apply failsWith_bind_of_never
  intro merged
  rw [failsWith_bind_of_never fun _ => rfl]
  exact escapes_readVariables surroundings.environment Setting.all

/-! ## Making settings -/

/-- Whether a fault of the values is reported as an error. -/
def Fault.isReported (fault : Fault) : Bool :=
  fault.kind == .typeMismatch || fault.kind == .invalidValue

/-- Whether blanks can be taken off a value. -/
def Value.isTrimmable : Value → Bool
  | .text _ | .bytes _ => true
  | _ => false

namespace Settings

/-- Whether an outcome is a fault that is not reported. -/
def faults {α : Type} (outcome : Except Fault α) : Bool :=
  failsWith (fun fault => !fault.isReported) outcome

theorem faults_comparable (operator : String) (value : Value) :
    faults (comparable operator value) = false := by
  cases value <;> rfl

/-- A check that a value does not pass is reported. -/
theorem faults_check {α : Type} {x : Except Fault α} {c : α → Bool} {text : String} :
    faults (x >>= fun a => if c a then .error (invalid text) else .ok a) = faults x := by
  apply failsWith_bind_of_never
  intro a
  split <;> rfl

theorem faults_atLeastOne (setting : Setting) (value : Value) :
    faults (atLeastOne setting value) = false :=
  faults_check.trans (faults_comparable "<" value)

theorem faults_positive (setting : Setting) (value : Value) :
    faults (positive setting value) = false :=
  faults_check.trans (faults_comparable "<=" value)

theorem faults_notBlank (setting : Setting) (value : Value) :
    faults (notBlank setting value) = !value.isTrimmable := by
  have htrim : faults (trimmable value) = !value.isTrimmable := by
    cases value <;> rfl
  exact faults_check.trans htrim

theorem faults_choice {α : Type} (setting : Setting) (words : List String)
    (ofWord? : String → Option α) (value : Value) :
    faults (choice setting words ofWord? value) = false := by
  unfold choice
  split <;> rfl

/-- The values are checked in order, and the fourth one has to be a text or bytes. -/
theorem faults_ofValues (value : Setting → Value) :
    faults (ofValues value) = true ↔
      (atLeastOne .warningThreshold (value .warningThreshold)).isOk = true ∧
      (positive .maxFileSizeMb (value .maxFileSizeMb)).isOk = true ∧
      (atLeastOne .maxSourceLength (value .maxSourceLength)).isOk = true ∧
      (value .defaultFileName).isTrimmable = false := by
  refine failsWith_bind_of_passed (faults_atLeastOne _ _) fun _ => ?_
  refine failsWith_bind_of_passed (faults_positive _ _) fun _ => ?_
  refine failsWith_bind_of_passed (faults_atLeastOne _ _) fun _ => ?_
  -- Nothing after the file name can be a fault.
  rw [failsWith_bind_of_never, ← Bool.not_eq_true']
  · exact Bool.eq_iff_iff.mp (faults_notBlank _ _)
  · intro defaultFileName
    rw [failsWith_bind_of_never]
    · exact faults_choice _ _ _ _
    · intro verbosity
      rw [failsWith_bind_of_never fun _ => rfl]
      exact faults_choice _ _ _ _

theorem isReported_of_refuseKey? {key : String} {fault : Fault}
    (h : refuseKey? key = some fault) : fault.isReported = true := by
  unfold refuseKey? at h
  split at h
  · cases h
  · split at h <;> obtain rfl := Option.some.inj h <;> rfl

end Settings

/-- Merged values in which everything that is looked at earlier fits, and the file name is neither a
text nor bytes. -/
structure Merged.LacksFileName (merged : Merged) : Prop where
  textKeys : merged.foreignKeys = false
  knownKeys : ∀ key ∈ merged.values.keys, (Setting.ofKey? key).isSome = true
  threshold : (Settings.atLeastOne .warningThreshold (merged.value .warningThreshold)).isOk = true
  fileSize : (Settings.positive .maxFileSizeMb (merged.value .maxFileSizeMb)).isOk = true
  length : (Settings.atLeastOne .maxSourceLength (merged.value .maxSourceLength)).isOk = true
  fileName : (merged.value .defaultFileName).isTrimmable = false

theorem Merged.faults_settings (merged : Merged) :
    Settings.faults merged.settings = true ↔ merged.LacksFileName := by
  unfold Merged.settings Settings.ofNamed
  split
  · rename_i hforeign
    exact ⟨fun h => Bool.noConfusion h, fun h => Bool.noConfusion (hforeign.symm.trans h.textKeys)⟩
  · rename_i htext
    split
    · rename_i fault hfault
      obtain ⟨key, hk, hrefused⟩ := List.exists_of_findSome?_eq_some hfault
      constructor
      · intro h
        have hnot : (!fault.isReported) = true := h
        simp [Settings.isReported_of_refuseKey? hrefused] at hnot
      · intro h
        have hknown := (Settings.refuseKey?_eq_none_iff key).mpr (h.knownKeys key hk)
        cases hknown.symm.trans hrefused
    · rename_i hnone
      have hknown : ∀ key ∈ merged.values.keys, (Setting.ofKey? key).isSome = true := by
        intro key hk
        exact (Settings.refuseKey?_eq_none_iff key).mp (List.findSome?_eq_none_iff.mp hnone key hk)
      refine (Settings.faults_ofValues merged.value).trans ⟨?_, ?_⟩
      · rintro ⟨hthreshold, hsize, hlength, hname⟩
        exact ⟨Bool.not_eq_true _ ▸ htext, hknown, hthreshold, hsize, hlength, hname⟩
      · intro h
        exact ⟨h.threshold, h.fileSize, h.length, h.fileName⟩

/-! ## Loading settings -/

theorem isFaulty_layer?_iff (surroundings : Surroundings) (file : Option Path) (place : Place) :
    isFaulty (surroundings.layer? file place) = true ↔
      (∃ found, surroundings.found? file place = some found ∧
        FaultyFind surroundings.stack found) ∨
        ∃ layer, surroundings.layer? file place = .ok (some layer) ∧ layer.isLayer = false := by
  rw [isFaulty, Bool.or_eq_true, escapes_layer?]
  apply or_congr_right
  rcases surroundings.layer? file place with failure | _ | layer <;> simp [Except.toOption]

/-- Merged values that do not fit are reported, unless the fault is of a kind that is not. -/
theorem escapes_loadSettings (surroundings : Surroundings) (file : Option Path)
    (given : OrderedMap String Value) :
    escapes (loadSettings surroundings file given) = true ↔
      escapes (mergeLayers surroundings file given) = true ∨
        ∃ merged, mergeLayers surroundings file given = .ok merged ∧
          Settings.faults merged.settings = true := by
  refine failsWith_bind.trans (or_congr_right (exists_congr fun merged => ?_))
  apply and_congr_right
  intro _
  cases merged.settings with
  | ok settings => rfl
  | error fault =>
      obtain ⟨kind, text⟩ := fault
      cases kind <;> rfl

/-- Loading settings fails with something else than an error of the configuration in these cases
only. Either a file is met that causes a fault, and those read before it can be used; or the merged
values fit up to the file name, which is neither a text nor bytes. -/
theorem loadSettings_escapes_iff (surroundings : Surroundings) (file : Option Path)
    (given : OrderedMap String Value) :
    escapes (loadSettings surroundings file given) = true ↔
      (∃ place,
        (∀ earlier ∈ Place.below place, isUsable (surroundings.layer? file earlier) = true) ∧
        ((∃ found, surroundings.found? file place = some found ∧
          FaultyFind surroundings.stack found) ∨
          ∃ layer, surroundings.layer? file place = .ok (some layer) ∧ layer.isLayer = false)) ∨
      ∃ merged, mergeLayers surroundings file given = .ok merged ∧ merged.LacksFileName := by
  rw [escapes_loadSettings, escapes_mergeLayers, meetsFault_all]
  simp only [isFaulty_layer?_iff, Merged.faults_settings]

theorem loadSettings_faults_of_work_file :
    loadSettings (.ofWorkFile 960 "default_file_name=5".toUTF8) none .empty =
      .error (.fault ⟨.missingOperation, "'int' object has no attribute 'strip'"⟩) ∧
    loadSettings (.ofWorkFile 960 "complexity-insight=5".toUTF8) none .empty =
      .error (.fault ⟨.typeMismatch, "'int' object is not iterable"⟩) ∧
    loadSettings (.ofWorkFile 960 ⟨#[0xff]⟩) none .empty =
      .error (.fault ⟨.undecodable,
        "'utf-8' codec can't decode byte 0xff in position 0: invalid start byte"⟩) := by
  have hname : "default_file_name=5".toList =
      ['d', 'e', 'f', 'a', 'u', 'l', 't', '_', 'f', 'i', 'l', 'e', '_', 'n', 'a', 'm', 'e', '=',
        '5'] := rfl
  have htable : "complexity-insight=5".toList =
      ['c', 'o', 'm', 'p', 'l', 'e', 'x', 'i', 't', 'y', '-', 'i', 'n', 's', 'i', 'g', 'h', 't',
        '=', '5'] := rfl
  have hbytes : Text.decodeStrict (⟨#[0xff]⟩ : ByteArray).toList =
      .error ⟨0xff, 0, 1, .badStart⟩ := by
    cbv
  refine ⟨?_, ?_, ?_⟩
  · rw [loadSettings, mergeLayers_ofWorkFile,
      layerOfBytes_of_parse (hname ▸ Text.decodeStrict_toUTF8 _) rfl]
    rfl
  · rw [loadSettings, mergeLayers_ofWorkFile,
      layerOfBytes_of_parse (htable ▸ Text.decodeStrict_toUTF8 _) rfl]
    rfl
  · rw [loadSettings, mergeLayers_ofWorkFile, layerOfBytes, hbytes]
    rfl

end Cyclomatic
