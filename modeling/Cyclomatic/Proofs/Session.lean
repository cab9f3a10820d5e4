import Cyclomatic.Proofs.Analysis.Outcome
import Cyclomatic.Proofs.OrderedMap
import Cyclomatic.Session

/-! # Sessions with one registry

Calls reach the cache in one way only: they take the calculator of a language, and it is made if it
is missing. So the cache grows by whole entries at its end, its languages are those that were taken,
and no result depends on what was called before. -/

namespace Cyclomatic

/-! ## The registry -/

namespace Registry

theorem cached?_eq_none_iff (registry : Registry) (language : Language) :
    registry.cached? language = none ↔ language ∉ registry.languages := by
  simp [cached?, languages]

theorem cached_get (registry : Registry) (language : Language) :
    (registry.get language).2.cached =
      if language ∈ registry.languages then registry.cached
      else registry.cached ++ [⟨language, registry.made⟩] := by
  unfold get
  cases hfound : registry.cached? language with
  | none =>
      rw [if_neg ((registry.cached?_eq_none_iff language).mp hfound)]
      rfl
  | some calculator =>
      have hmem : language ∈ registry.languages := by
        by_contra hnot
        cases hfound.symm.trans ((registry.cached?_eq_none_iff language).mpr hnot)
      rw [if_pos hmem]

theorem languages_get (registry : Registry) (language : Language) :
    (registry.get language).2.languages =
      if language ∈ registry.languages then registry.languages
      else registry.languages ++ [language] := by
  rw [languages, cached_get]
  split <;> simp [languages]

theorem cached_prefix_get (registry : Registry) (language : Language) :
    registry.cached <+: (registry.get language).2.cached := by
  rw [cached_get]
  split
  · exact List.prefix_refl _
  · exact List.prefix_append _ _

/-- The calculator that is handed out is the one that is cached from then on. -/
theorem cached?_get (registry : Registry) (language : Language) :
    (registry.get language).2.cached? language = some (registry.get language).1 := by
  unfold get
  cases hfound : registry.cached? language with
  | none =>
      have hnone : registry.cached.find? (·.language == language) = none := hfound
      simp [create, cached?, hnone]
  | some calculator => exact hfound

/-- A cached calculator stays cached while the cache grows. -/
theorem cached?_of_prefix {registry next : Registry} (h : registry.cached <+: next.cached)
    {language : Language} {calculator : Calculator}
    (hc : registry.cached? language = some calculator) :
    next.cached? language = some calculator :=
  h.find?_eq_some hc

/-- Every cached calculator is one of those that have been made. -/
def Numbered (registry : Registry) : Prop :=
  ∀ calculator ∈ registry.cached, calculator.serial < registry.made

theorem numbered_empty : empty.Numbered := by
  simp [Numbered, empty]

theorem made_le_get (registry : Registry) (language : Language) :
    registry.made ≤ (registry.get language).2.made := by
  unfold get
  cases registry.cached? language with
  | none => exact Nat.le_succ _
  | some calculator => exact Nat.le_refl _

theorem Numbered.get {registry : Registry} (h : registry.Numbered) (language : Language) :
    (registry.get language).2.Numbered ∧
      (registry.get language).1.serial < (registry.get language).2.made := by
  unfold Registry.get
  cases hfound : registry.cached? language with
  | none =>
      refine ⟨?_, Nat.lt_succ_self _⟩
      intro calculator hc
      rcases List.mem_append.mp hc with hc | hc
      · exact Nat.lt_succ_of_lt (h calculator hc)
      · obtain rfl := List.mem_singleton.mp hc
        exact Nat.lt_succ_self _
  | some calculator => exact ⟨h, h calculator (List.mem_of_find?_eq_some hfound)⟩

end Registry

/-! ## One call -/

/-- The language whose calculator a call takes from the cache. An analysis takes one as soon as its
source has been validated and its language found out, even if it fails later. -/
def Call.taken? : Call → Option Language
  | .get (.language language) => some language
  | .analyze settings source language fileName =>
      match validateSource source settings.maxSourceLength "source_code",
        Registry.resolve language (givenName fileName) with
      | .ok _, .ok found => some found
      | _, _ => none
  | _ => none

theorem analyzeSource_registry (parser : Java.Parser) (registry : Registry) (settings : Settings)
    (source : Source) (language fileName : Option String) :
    (analyzeSource parser registry settings source language fileName).registry =
      match (Call.analyze settings source language fileName).taken? with
      | some found => (registry.get found).2
      | none => registry := by
  simp only [analyzeSource, Call.taken?]
  cases validateSource source settings.maxSourceLength "source_code" with
  | error failure => rfl
  | ok text =>
      cases Registry.resolve language (givenName fileName) with
      | error error => rfl
      | ok found => exact Outcome.ofCalculation_registry _ _ _

section

variable (parser : Java.Parser)

namespace Call

/-- What a call does to the registry: it takes a calculator from the cache, or makes one besides it,
or leaves the registry as it is. -/
theorem perform_registry (registry : Registry) (call : Call) :
    (∃ language, call.taken? = some language ∧
      (call.perform parser registry).2 = (registry.get language).2) ∨
    (∃ language, call = .create (.language language) ∧ call.taken? = none ∧
      (call.perform parser registry).2 = (registry.create language).2) ∨
    (call.taken? = none ∧ (call.perform parser registry).2 = registry) := by
  cases call with
  | get wanted =>
      cases wanted with
      | language language => exact Or.inl ⟨language, rfl, rfl⟩
      | other shown => exact Or.inr (Or.inr ⟨rfl, rfl⟩)
  | create wanted =>
      cases wanted with
      | language language => exact Or.inr (Or.inl ⟨language, rfl, rfl, rfl⟩)
      | other shown => exact Or.inr (Or.inr ⟨rfl, rfl⟩)
  | resolve key path => exact Or.inr (Or.inr ⟨rfl, rfl⟩)
  | analyze settings source language fileName =>
      have hregistry := analyzeSource_registry parser registry settings source language fileName
      cases htaken : (Call.analyze settings source language fileName).taken? with
      | none =>
          rw [htaken] at hregistry
          exact Or.inr (Or.inr ⟨rfl, hregistry⟩)
      | some found =>
          rw [htaken] at hregistry
          exact Or.inl ⟨found, rfl, hregistry⟩

theorem cached_prefix_perform (registry : Registry) (call : Call) :
    registry.cached <+: (call.perform parser registry).2.cached := by
  obtain ⟨language, -, h⟩ | ⟨language, -, -, h⟩ | ⟨-, h⟩ :=
    perform_registry parser registry call
  · rw [h]
    exact registry.cached_prefix_get language
  · rw [h]
    exact List.prefix_refl _
  · simp only [h, List.prefix_refl]

theorem cached_perform_of_not_taken {call : Call} (hc : call.taken? = none)
    (registry : Registry) : (call.perform parser registry).2.cached = registry.cached := by
  obtain ⟨language, htaken, -⟩ | ⟨language, -, -, h⟩ | ⟨-, h⟩ :=
    perform_registry parser registry call
  · cases hc.symm.trans htaken
  · rw [h]
    rfl
  · rw [h]

theorem made_le_perform (registry : Registry) (call : Call) :
    registry.made ≤ (call.perform parser registry).2.made := by
  obtain ⟨language, -, h⟩ | ⟨language, -, -, h⟩ | ⟨-, h⟩ :=
    perform_registry parser registry call
  · rw [h]
    exact registry.made_le_get language
  · rw [h]
    exact Nat.le_succ _
  · simp only [h, Nat.le_refl]

theorem numbered_perform {registry : Registry} (hr : registry.Numbered) (call : Call) :
    (call.perform parser registry).2.Numbered := by
  obtain ⟨language, -, h⟩ | ⟨language, -, -, h⟩ | ⟨-, h⟩ :=
    perform_registry parser registry call
  · rw [h]
    exact (hr.get language).1
  · rw [h]
    exact fun calculator hc => Nat.lt_succ_of_lt (hr calculator hc)
  · rw [h]
    exact hr

/-- A calculator that a call hands out is one of those that have been made by then. -/
theorem serial_lt_of_perform {parser : Java.Parser} {registry : Registry}
    (hr : registry.Numbered) {call : Call} {calculator : Calculator}
    (h : (call.perform parser registry).1 = .calculator (.ok calculator)) :
    calculator.serial < (call.perform parser registry).2.made := by
  cases call with
  | get wanted =>
      cases wanted with
      | language language =>
          obtain rfl := Except.ok.inj (Answer.calculator.inj h)
          exact (hr.get language).2
      | other shown => cases h
  | create wanted =>
      cases wanted with
      | language language =>
          obtain rfl := Except.ok.inj (Answer.calculator.inj h)
          exact Nat.lt_succ_self _
      | other shown => cases h
  | resolve key path => cases h
  | analyze settings source language fileName => cases h

end Call

/-! ## Many calls -/

variable (registry : Registry)

theorem performAll_append (front back : List Call) :
    performAll parser registry (front ++ back) =
      ((performAll parser registry front).1 ++
          (performAll parser (performAll parser registry front).2 back).1,
        (performAll parser (performAll parser registry front).2 back).2) := by
  induction front generalizing registry with
  | nil => rfl
  | cons call front ih => simp only [List.cons_append, performAll, ih]

/-- The answer to a call is given with the registry that the calls before it left. -/
theorem getElem?_performAll (calls : List Call) (i : Nat) :
    (performAll parser registry calls).1[i]? =
      calls[i]?.map fun call =>
        (call.perform parser (performAll parser registry (calls.take i)).2).1 := by
  induction calls generalizing registry i with
  | nil => rfl
  | cons call rest ih =>
      cases i with
      | zero => rfl
      | succ i => simp only [performAll, List.getElem?_cons_succ, List.take_succ_cons, ih]

theorem cached_prefix_performAll (calls : List Call) :
    registry.cached <+: (performAll parser registry calls).2.cached := by
  induction calls generalizing registry with
  | nil => exact List.prefix_refl _
  | cons call rest ih => exact (call.cached_prefix_perform parser registry).trans (ih _)

theorem made_le_performAll (calls : List Call) :
    registry.made ≤ (performAll parser registry calls).2.made := by
  induction calls generalizing registry with
  | nil => exact Nat.le_refl _
  | cons call rest ih => exact Nat.le_trans (call.made_le_perform parser registry) (ih _)

theorem numbered_performAll {registry : Registry} (hr : registry.Numbered) (calls : List Call) :
    (performAll parser registry calls).2.Numbered := by
  induction calls generalizing registry with
  | nil => exact hr
  | cons call rest ih => exact ih (call.numbered_perform parser hr)

end

/-! ## Sessions -/

section

variable {parser : Java.Parser}

/-- The registry after calls on a fresh one. -/
def registryAfter (parser : Java.Parser) (calls : List Call) : Registry :=
  (performAll parser .empty calls).2

/-- The answers to calls on a fresh registry. -/
def answersTo (parser : Java.Parser) (calls : List Call) : List Answer :=
  (performAll parser .empty calls).1

theorem registryAfter_take_succ {calls : List Call} {i : Nat} {call : Call}
    (h : calls[i]? = some call) :
    registryAfter parser (calls.take (i + 1)) =
      (call.perform parser (registryAfter parser (calls.take i))).2 := by
  rw [registryAfter, List.take_add_one, h, performAll_append]
  rfl

/-- After any number of calls the others go on with the registry that these left. -/
theorem registryAfter_split (calls : List Call) (i : Nat) :
    registryAfter parser calls =
      (performAll parser (registryAfter parser (calls.take i)) (calls.drop i)).2 := by
  conv_lhs => rw [registryAfter, ← List.take_append_drop i calls, performAll_append]
  rfl

theorem answersTo_getElem? {calls : List Call} {i : Nat} {call : Call}
    (h : calls[i]? = some call) :
    (answersTo parser calls)[i]? =
      some (call.perform parser (registryAfter parser (calls.take i))).1 := by
  rw [answersTo, getElem?_performAll, h]
  rfl

theorem cached_prefix_registryAfter (parser : Java.Parser) (calls : List Call) (i : Nat) :
    (registryAfter parser (calls.take i)).cached <+: (registryAfter parser calls).cached := by
  rw [registryAfter_split calls i]
  exact cached_prefix_performAll _ _ _

theorem made_le_registryAfter (parser : Java.Parser) (calls : List Call) (i : Nat) :
    (registryAfter parser (calls.take i)).made ≤ (registryAfter parser calls).made := by
  rw [registryAfter_split calls i]
  exact made_le_performAll _ _ _

theorem numbered_registryAfter (calls : List Call) : (registryAfter parser calls).Numbered :=
  numbered_performAll parser Registry.numbered_empty calls

theorem languages_registryAfter (calls : List Call) :
    (registryAfter parser calls).languages = (calls.filterMap Call.taken?).eraseDups := by
  induction calls using List.reverseRecOn with
  | nil => rfl
  | append_singleton calls call ih =>
      have hlast : registryAfter parser (calls ++ [call]) =
          (call.perform parser (registryAfter parser calls)).2 := by
        rw [registryAfter, performAll_append]
        rfl
      rw [hlast, List.filterMap_append]
      cases htaken : call.taken? with
      | none =>
          have hsame := Call.cached_perform_of_not_taken parser htaken (registryAfter parser calls)
          rw [Registry.languages, hsame, List.filterMap_cons_none htaken, List.filterMap_nil,
            List.append_nil, ← ih]
          rfl
      | some language =>
          obtain ⟨found, hfound, hnext⟩ | ⟨_, _, hnone, _⟩ | ⟨hnone, _⟩ :=
            call.perform_registry parser (registryAfter parser calls)
          · obtain rfl := Option.some.inj (htaken.symm.trans hfound)
            rw [hnext, Registry.languages_get, List.filterMap_cons_some htaken,
              List.filterMap_nil, OrderedMap.eraseDups_concat, ih]
            simp only [List.mem_eraseDups]
          · cases htaken.symm.trans hnone
          · cases htaken.symm.trans hnone

/-- What holds of every session with a fresh registry. -/
structure SessionSpec (parser : Java.Parser) (calls : List Call) : Prop where
  /-- The cache only grows, and no entry is replaced. -/
  grows : ∀ early late, early ≤ late →
    (registryAfter parser (calls.take early)).cached <+:
      (registryAfter parser (calls.take late)).cached
  /-- Whoever asks for the calculator of a language gets the one that is cached in the end. -/
  shared : ∀ (i : Nat) language, calls[i]? = some (.get (.language language)) →
    ∃ calculator, (registryAfter parser calls).cached? language = some calculator ∧
      (answersTo parser calls)[i]? = some (.calculator (.ok calculator))
  /-- Whoever asks for a new calculator gets one that nobody got before and that is not cached. -/
  fresh : ∀ (i : Nat) language, calls[i]? = some (.create (.language language)) →
    ∃ calculator, (answersTo parser calls)[i]? = some (.calculator (.ok calculator)) ∧
      calculator.language = language ∧
      (∀ (j : Nat) earlier, j < i →
        (answersTo parser calls)[j]? = some (.calculator (.ok earlier)) →
          earlier.serial ≠ calculator.serial) ∧
      ∀ other ∈ (registryAfter parser (calls.take i)).cached, other.serial ≠ calculator.serial
  /-- The cached languages are those that were taken, in the order in which they first were. -/
  languages : (registryAfter parser calls).languages = (calls.filterMap Call.taken?).eraseDups
  /-- Other calls leave the cache as it is. -/
  unchanged : ∀ (i : Nat) call, calls[i]? = some call → call.taken? = none →
    (registryAfter parser (calls.take (i + 1))).cached =
      (registryAfter parser (calls.take i)).cached
  /-- An analysis has the result that it would have with a fresh registry. -/
  independent : ∀ (i : Nat) settings source language fileName,
    calls[i]? = some (.analyze settings source language fileName) →
    (answersTo parser calls)[i]? =
      some (.report (analyzeSource parser .empty settings source language fileName).result)

/-- The numbers of earlier calculators lie below the number of the next one. -/
theorem serial_lt_made {calls : List Call} {i j : Nat} {earlier : Calculator} (hj : j < i)
    (h : (answersTo parser calls)[j]? = some (.calculator (.ok earlier))) :
    earlier.serial < (registryAfter parser (calls.take i)).made := by
  rw [answersTo, getElem?_performAll] at h
  obtain ⟨call, hcall, hanswer⟩ := Option.map_eq_some_iff.mp h
  have hserial := Call.serial_lt_of_perform (numbered_registryAfter (calls.take j)) hanswer
  have hmade := made_le_registryAfter parser (calls.take i) (j + 1)
  rw [List.take_take, Nat.min_eq_left hj, registryAfter_take_succ hcall] at hmade
  exact Nat.lt_of_lt_of_le hserial hmade

theorem shared_calculator {calls : List Call} {i : Nat} {language : Language}
    (h : calls[i]? = some (.get (.language language))) :
    ∃ calculator, (registryAfter parser calls).cached? language = some calculator ∧
      (answersTo parser calls)[i]? = some (.calculator (.ok calculator)) := by
  refine ⟨_, ?_, answersTo_getElem? h⟩
  have hcached := cached_prefix_registryAfter parser calls (i + 1)
  rw [registryAfter_take_succ h] at hcached
  exact Registry.cached?_of_prefix hcached (Registry.cached?_get _ _)

theorem fresh_calculator {calls : List Call} {i : Nat} {language : Language}
    (h : calls[i]? = some (.create (.language language))) :
    ∃ calculator, (answersTo parser calls)[i]? = some (.calculator (.ok calculator)) ∧
      calculator.language = language ∧
      (∀ (j : Nat) earlier, j < i →
        (answersTo parser calls)[j]? = some (.calculator (.ok earlier)) →
          earlier.serial ≠ calculator.serial) ∧
      ∀ other ∈ (registryAfter parser (calls.take i)).cached, other.serial ≠ calculator.serial := by
  refine ⟨_, answersTo_getElem? h, rfl, ?_, ?_⟩
  · intro j earlier hj hanswer
    exact Nat.ne_of_lt (serial_lt_made hj hanswer)
  · intro other hother
    exact Nat.ne_of_lt (numbered_registryAfter (calls.take i) other hother)

end

/-- Whatever calls are made on a fresh registry, in whatever order, the cache only grows, in the
order in which languages are first taken, every language has one shared calculator, and the results
are those of fresh registries. -/
theorem session_spec (parser : Java.Parser) (calls : List Call) : SessionSpec parser calls where
  grows early late h := by
    have hcached := cached_prefix_registryAfter parser (calls.take late) early
    rwa [List.take_take, Nat.min_eq_left h] at hcached
  shared _ _ h := shared_calculator h
  fresh _ _ h := fresh_calculator h
  languages := languages_registryAfter calls
  unchanged i call h hnone := by
    rw [registryAfter_take_succ h]
    exact Call.cached_perform_of_not_taken parser hnone _
  independent i settings source language fileName h := by
    rw [answersTo_getElem? h, Call.perform]
    simp only [analyzeSource_result]

end Cyclomatic
