import Cyclomatic.OrderedMap
import Mathlib.Data.List.Induction
import Mathlib.Data.List.Nodup
import Mathlib.Data.List.Perm.Subperm

/-! # Insertion and update of ordered maps

An insertion changes one value and keeps the order of the keys. Updating a map with the entries of
another map is the same as repeating the insertions that made the other one. -/

namespace Cyclomatic.OrderedMap

variable {α β : Type} [DecidableEq α]

/-! ## Lookup -/

theorem lookupEntry_insertEntry (key k : α) (value : β) (entries : List (α × β)) :
    lookupEntry k (insertEntry key value entries) =
      if k = key then some value else lookupEntry k entries := by
  induction entries with
  | nil => simp only [insertEntry, lookupEntry, eq_comm]
  | cons entry rest ih =>
      obtain ⟨first, old⟩ := entry
      by_cases hf : first = key
      · subst first
        by_cases hk : key = k <;> simp [insertEntry, lookupEntry, hk, eq_comm]
      · by_cases hk : first = k
        · subst first
          simp [insertEntry, lookupEntry, hf]
        · simp [insertEntry, lookupEntry, hf, hk, ih]

@[simp] theorem get?_insert (map : OrderedMap α β) (key k : α) (value : β) :
    (map.insert key value).get? k = if k = key then some value else map.get? k :=
  lookupEntry_insertEntry key k value map.entries

theorem lookupEntry_eq_none_iff (key : α) (entries : List (α × β)) :
    lookupEntry key entries = none ↔ key ∉ entries.map (·.1) := by
  induction entries with
  | nil => simp [lookupEntry]
  | cons entry rest ih =>
      by_cases h : entry.1 = key
      · simp [lookupEntry, h]
      · simp only [lookupEntry, h, ite_false, ih, List.map_cons, List.mem_cons, not_or]
        exact ⟨fun hr => ⟨Ne.symm h, hr⟩, And.right⟩

theorem lookupEntry_of_mem {entries : List (α × β)} (hn : (entries.map (·.1)).Nodup)
    {entry : α × β} (h : entry ∈ entries) : lookupEntry entry.1 entries = some entry.2 := by
  induction entries with
  | nil => cases h
  | cons first rest ih =>
      obtain ⟨hnot, hrest⟩ := List.nodup_cons.mp hn
      rcases List.mem_cons.mp h with rfl | h
      · simp [lookupEntry]
      · have hne : first.1 ≠ entry.1 := fun he => hnot (List.mem_map.mpr ⟨entry, h, he.symm⟩)
        rw [lookupEntry, if_neg hne, ih hrest h]

theorem mem_of_lookupEntry {entries : List (α × β)} {key : α} {value : β}
    (h : lookupEntry key entries = some value) : (key, value) ∈ entries := by
  induction entries with
  | nil => cases h
  | cons entry rest ih =>
      by_cases hk : entry.1 = key
      · rw [lookupEntry, if_pos hk, Option.some.injEq] at h
        rw [← hk, ← h]
        exact List.mem_cons_self
      · rw [lookupEntry, if_neg hk] at h
        exact List.mem_cons_of_mem entry (ih h)

/-! ## Keys -/

theorem insertEntry_of_notMem {key : α} {entries : List (α × β)}
    (h : key ∉ entries.map (·.1)) (value : β) :
    insertEntry key value entries = entries ++ [(key, value)] := by
  induction entries with
  | nil => rfl
  | cons entry rest ih =>
      simp only [List.map_cons, List.mem_cons, not_or] at h
      have hf : entry.1 ≠ key := Ne.symm h.1
      simp [insertEntry, hf, ih h.2]

theorem keys_insertEntry_of_mem {key : α} {entries : List (α × β)}
    (h : key ∈ entries.map (·.1)) (value : β) :
    (insertEntry key value entries).map (·.1) = entries.map (·.1) := by
  induction entries with
  | nil => simp at h
  | cons entry rest ih =>
      by_cases hf : entry.1 = key
      · simp [insertEntry, hf]
      · have hr : key ∈ rest.map (·.1) := List.mem_of_ne_of_mem (Ne.symm hf) h
        simp only [insertEntry, hf, ite_false, List.map_cons, ih hr]

theorem mem_insertEntry {key : α} {value : β} {entries : List (α × β)} {entry : α × β}
    (h : entry ∈ insertEntry key value entries) : entry.2 = value ∨ entry ∈ entries := by
  induction entries with
  | nil =>
      rw [insertEntry, List.mem_singleton] at h
      exact Or.inl (congrArg Prod.snd h)
  | cons first rest ih =>
      by_cases hf : first.1 = key
      · simp only [insertEntry, hf, ite_true, List.mem_cons] at h
        rcases h with rfl | h
        · exact Or.inl rfl
        · exact Or.inr (List.mem_cons_of_mem first h)
      · simp only [insertEntry, hf, ite_false, List.mem_cons] at h
        rcases h with rfl | h
        · exact Or.inr List.mem_cons_self
        · exact (ih h).imp id (List.mem_cons_of_mem first)

/-- A key that is there keeps its place, and a new one comes last. -/
theorem keys_insert (map : OrderedMap α β) (key : α) (value : β) :
    (map.insert key value).keys =
      if key ∈ map.keys then map.keys else map.keys ++ [key] := by
  unfold keys insert
  split
  · rename_i h
    exact keys_insertEntry_of_mem h value
  · rename_i h
    rw [insertEntry_of_notMem h]
    simp

theorem mem_keys_insert (map : OrderedMap α β) (key k : α) (value : β) :
    k ∈ (map.insert key value).keys ↔ k = key ∨ k ∈ map.keys := by
  rw [keys_insert]
  split
  · rename_i h
    exact ⟨Or.inr, fun hk => hk.elim (fun he => he ▸ h) id⟩
  · rw [List.mem_append, List.mem_singleton, or_comm]

theorem nodup_keys_insert {map : OrderedMap α β} (h : map.keys.Nodup) (key : α) (value : β) :
    (map.insert key value).keys.Nodup := by
  rw [keys_insert]
  split
  · exact h
  · rename_i hk
    rw [List.nodup_append]
    refine ⟨h, by simp, ?_⟩
    intro a ha b hb
    rw [List.mem_singleton.mp hb]
    exact fun he => hk (he ▸ ha)

/-! ## Repeated insertion -/

@[simp] theorem insertAll_nil (map : OrderedMap α β) : map.insertAll [] = map := rfl

@[simp] theorem insertAll_cons (map : OrderedMap α β) (entry : α × β) (rest : List (α × β)) :
    map.insertAll (entry :: rest) = (map.insert entry.1 entry.2).insertAll rest := rfl

theorem insertAll_append (map : OrderedMap α β) (front back : List (α × β)) :
    map.insertAll (front ++ back) = (map.insertAll front).insertAll back :=
  List.foldl_append

theorem nodup_keys_insertAll {map : OrderedMap α β} (h : map.keys.Nodup)
    (entries : List (α × β)) : (map.insertAll entries).keys.Nodup := by
  induction entries generalizing map with
  | nil => exact h
  | cons entry rest ih => exact ih (nodup_keys_insert h entry.1 entry.2)

theorem nodup_keys_ofList (entries : List (α × β)) : (ofList entries).keys.Nodup := by
  have h : (empty : OrderedMap α β).keys.Nodup := List.nodup_nil
  exact nodup_keys_insertAll h entries

theorem mem_keys_insertAll (map : OrderedMap α β) (entries : List (α × β)) (key : α) :
    key ∈ (map.insertAll entries).keys ↔ key ∈ map.keys ∨ key ∈ entries.map (·.1) := by
  induction entries generalizing map with
  | nil => simp
  | cons entry rest ih =>
      rw [insertAll_cons, ih, mem_keys_insert, List.map_cons, List.mem_cons]
      tauto

theorem mem_keys_ofList (entries : List (α × β)) (key : α) :
    key ∈ (ofList entries).keys ↔ key ∈ entries.map (·.1) := by
  have hnot : key ∉ (empty : OrderedMap α β).keys := List.not_mem_nil
  rw [ofList, mem_keys_insertAll, or_iff_right hnot]

theorem entries_ofList_eq_nil_iff (entries : List (α × β)) :
    (ofList entries).entries = [] ↔ entries = [] := by
  cases entries with
  | nil => exact iff_of_true rfl rfl
  | cons entry rest =>
      have hkey : entry.1 ∈ (ofList (entry :: rest)).keys :=
        (mem_keys_ofList (entry :: rest) entry.1).mpr List.mem_cons_self
      refine iff_of_false ?_ (List.cons_ne_nil entry rest)
      intro hnil
      rw [keys, hnil] at hkey
      cases hkey

/-- The later of two values of one key counts. -/
theorem insert_insert (map : OrderedMap α β) (key : α) (old value : β) :
    (map.insert key old).insert key value = map.insert key value := by
  have h (entries : List (α × β)) :
      insertEntry key value (insertEntry key old entries) = insertEntry key value entries := by
    induction entries with
    | nil => simp [insertEntry]
    | cons entry rest ih => by_cases hf : entry.1 = key <;> simp [insertEntry, hf, ih]
  exact congrArg OrderedMap.mk (h map.entries)

/-- Insertions at different keys commute once the later key has its place. -/
theorem insert_comm {map : OrderedMap α β} {key other : α} (h : key ∈ map.keys)
    (hne : other ≠ key) (value : β) (new : β) :
    (map.insert other new).insert key value = (map.insert key value).insert other new := by
  have step (entries : List (α × β)) (hm : key ∈ entries.map (·.1)) :
      insertEntry key value (insertEntry other new entries) =
        insertEntry other new (insertEntry key value entries) := by
    induction entries with
    | nil => simp at hm
    | cons entry rest ih =>
        obtain ⟨first, old⟩ := entry
        by_cases hk : first = key
        · subst first
          simp [insertEntry, hne.symm]
        · have hr : key ∈ rest.map (·.1) := List.mem_of_ne_of_mem (Ne.symm hk) hm
          by_cases ho : first = other
          · simp [insertEntry, ho, hne]
          · simp [insertEntry, hk, ho, ih hr]
  exact congrArg OrderedMap.mk (step map.entries h)

theorem insertAll_insert_comm {map : OrderedMap α β} {key : α} {entries : List (α × β)}
    (h : key ∈ map.keys) (hk : key ∉ entries.map (·.1)) (value : β) :
    (map.insertAll entries).insert key value = (map.insert key value).insertAll entries := by
  induction entries generalizing map with
  | nil => rfl
  | cons entry rest ih =>
      simp only [List.map_cons, List.mem_cons, not_or] at hk
      have hm : key ∈ (map.insert entry.1 entry.2).keys :=
        (mem_keys_insert map entry.1 key entry.2).mpr (Or.inr h)
      rw [insertAll_cons, insertAll_cons, ih hm hk.2, insert_comm h (Ne.symm hk.1)]

/-! ## Update -/

theorem insertAll_insertEntry (map : OrderedMap α β) (key : α) (value : β)
    (entries : List (α × β)) (h : (entries.map (·.1)).Nodup) :
    map.insertAll (insertEntry key value entries) = (map.insertAll entries).insert key value := by
  induction entries generalizing map with
  | nil => rfl
  | cons entry rest ih =>
      obtain ⟨first, old⟩ := entry
      obtain ⟨hn, hr⟩ := List.nodup_cons.mp h
      by_cases hf : first = key
      · subst first
        have hm : key ∈ (map.insert key old).keys :=
          (mem_keys_insert map key key old).mpr (Or.inl rfl)
        simp only [insertEntry, ite_true, insertAll_cons]
        rw [insertAll_insert_comm hm hn, insert_insert]
      · simp only [insertEntry, hf, ite_false, insertAll_cons]
        exact ih (map.insert first old) hr

theorem insertAll_entries_insertAll (map base : OrderedMap α β) (h : base.keys.Nodup)
    (entries : List (α × β)) :
    map.insertAll (base.insertAll entries).entries =
      (map.insertAll base.entries).insertAll entries := by
  induction entries generalizing base with
  | nil => rfl
  | cons entry rest ih =>
      rw [insertAll_cons, ih _ (nodup_keys_insert h entry.1 entry.2), insertAll_cons]
      exact congrArg (insertAll · rest) (insertAll_insertEntry map entry.1 entry.2 base.entries h)

/-- To update with the entries of a map is to repeat the insertions that made it. -/
theorem insertAll_entries_ofList (map : OrderedMap α β) (entries : List (α × β)) :
    map.insertAll (ofList entries).entries = map.insertAll entries :=
  insertAll_entries_insertAll map empty List.nodup_nil entries

/-- An update keeps the keys in their places and adds the new ones in the order in which they
come. -/
theorem keys_insertAll (map : OrderedMap α β) (entries : List (α × β))
    (h : (entries.map (·.1)).Nodup) :
    (map.insertAll entries).keys =
      map.keys ++ (entries.map (·.1)).filter fun key => key ∉ map.keys := by
  induction entries generalizing map with
  | nil => simp
  | cons entry rest ih =>
      obtain ⟨hn, hr⟩ := List.nodup_cons.mp h
      have hrest : (rest.map (·.1)).filter (fun key => key ∉ (map.insert entry.1 entry.2).keys) =
          (rest.map (·.1)).filter fun key => key ∉ map.keys := by
        apply List.filter_congr
        intro key hk
        have hne : key ≠ entry.1 := by
          rintro rfl
          exact hn hk
        simp [mem_keys_insert, hne]
      rw [insertAll_cons, ih _ hr, hrest, keys_insert]
      by_cases hm : entry.1 ∈ map.keys <;> simp [hm]

/-- After an update a key has the new value, or the old one if it has no new one. -/
theorem get?_insertAll (map : OrderedMap α β) (entries : List (α × β)) (key : α)
    (h : (entries.map (·.1)).Nodup) :
    (map.insertAll entries).get? key = (lookupEntry key entries).or (map.get? key) := by
  induction entries generalizing map with
  | nil => rfl
  | cons entry rest ih =>
      obtain ⟨hn, hr⟩ := List.nodup_cons.mp h
      rw [insertAll_cons, ih _ hr, get?_insert, lookupEntry]
      by_cases hk : entry.1 = key
      · subst key
        have hnone : lookupEntry entry.1 rest = none :=
          (lookupEntry_eq_none_iff entry.1 rest).mpr hn
        simp [hnone]
      · simp [hk, Ne.symm hk]

/-! ## Lists of insertions

A list of insertions may give a key more than one value; the last one counts. -/

theorem get?_insertAll_or (map : OrderedMap α β) (entries : List (α × β)) (key : α) :
    (map.insertAll entries).get? key = ((ofList entries).get? key).or (map.get? key) := by
  induction entries generalizing map with
  | nil => rfl
  | cons entry rest ih =>
      have hempty : (empty : OrderedMap α β).get? key = none := rfl
      have hfirst : ofList (entry :: rest) = (empty.insert entry.1 entry.2).insertAll rest := rfl
      rw [insertAll_cons, ih, hfirst, ih (empty.insert entry.1 entry.2), get?_insert,
        get?_insert, hempty, Option.or_assoc]
      by_cases hk : key = entry.1 <;> simp [hk]

theorem get?_ofList_append (front back : List (α × β)) (key : α) :
    (ofList (front ++ back)).get? key = ((ofList back).get? key).or ((ofList front).get? key) := by
  rw [ofList, insertAll_append, get?_insertAll_or]
  rfl

theorem get?_ofList_cons (entry : α × β) (rest : List (α × β)) (key : α) :
    (ofList (entry :: rest)).get? key =
      ((ofList rest).get? key).or (if key = entry.1 then some entry.2 else none) := by
  have hfirst : ofList (entry :: rest) = (empty.insert entry.1 entry.2).insertAll rest := rfl
  rw [hfirst, get?_insertAll_or, get?_insert]
  rfl

theorem get?_ofList_of_nodup {entries : List (α × β)} (h : (entries.map (·.1)).Nodup) (key : α) :
    (ofList entries).get? key = lookupEntry key entries := by
  rw [ofList, get?_insertAll empty entries key h]
  exact Option.or_none

theorem keys_insertAll_congr {map other : OrderedMap α β} {entries changed : List (α × β)}
    (hm : map.keys = other.keys) (he : entries.map (·.1) = changed.map (·.1)) :
    (map.insertAll entries).keys = (other.insertAll changed).keys := by
  induction entries generalizing map other changed with
  | nil =>
      obtain rfl : changed = [] := List.map_eq_nil_iff.mp he.symm
      exact hm
  | cons entry rest ih =>
      cases changed with
      | nil => simp at he
      | cons entry' rest' =>
          obtain ⟨hkey, hrest⟩ := List.cons.inj he
          have hkey' : entry.1 = entry'.1 := hkey
          rw [insertAll_cons, insertAll_cons]
          apply ih _ hrest
          rw [keys_insert, keys_insert, hm, hkey']

theorem eq_of_lookupEntry {entries changed : List (α × β)} (hn : (entries.map (·.1)).Nodup)
    (hk : entries.map (·.1) = changed.map (·.1))
    (hv : ∀ key, lookupEntry key entries = lookupEntry key changed) : entries = changed := by
  induction entries generalizing changed with
  | nil => exact (List.map_eq_nil_iff.mp hk.symm).symm
  | cons entry rest ih =>
      cases changed with
      | nil => simp at hk
      | cons entry' rest' =>
          obtain ⟨key, value⟩ := entry
          obtain ⟨key', value'⟩ := entry'
          obtain ⟨hfirst, hrest⟩ := List.cons.inj hk
          obtain rfl : key = key' := hfirst
          obtain ⟨hnot, hnodup⟩ := List.nodup_cons.mp hn
          have hvalue : value = value' := by simpa [lookupEntry] using hv key
          have htail : rest = rest' := by
            apply ih hnodup hrest
            intro k
            by_cases he : key = k
            · subst he
              rw [(lookupEntry_eq_none_iff key rest).mpr hnot,
                (lookupEntry_eq_none_iff key rest').mpr (hrest ▸ hnot)]
            · simpa [lookupEntry, he] using hv k
          rw [hvalue, htail]

/-- A map in which no key occurs twice is known by its keys, in order, and their values. -/
theorem ext_of_nodup {map other : OrderedMap α β} (hn : map.keys.Nodup)
    (hk : map.keys = other.keys) (hv : ∀ key, map.get? key = other.get? key) : map = other :=
  congrArg OrderedMap.mk (eq_of_lookupEntry hn hk hv)

/-- Insertions that lead to the same keys and values lead to the same map. -/
theorem ofList_eq_of_get? {entries changed : List (α × β)}
    (he : entries.map (·.1) = changed.map (·.1))
    (hv : ∀ key, (ofList entries).get? key = (ofList changed).get? key) :
    ofList entries = ofList changed :=
  ext_of_nodup (nodup_keys_ofList entries) (keys_insertAll_congr rfl he) hv

/-! ## Removal -/

theorem lookupEntry_filter {p : α × β → Bool} {entries : List (α × β)}
    (h : (entries.map (·.1)).Nodup) (key : α) :
    lookupEntry key (entries.filter p) =
      (lookupEntry key entries).filter fun value => p (key, value) := by
  induction entries with
  | nil => rfl
  | cons entry rest ih =>
      obtain ⟨first, value⟩ := entry
      obtain ⟨hnot, hrest⟩ := List.nodup_cons.mp h
      by_cases hk : first = key
      · subst hk
        have hnone : lookupEntry first rest = none := (lookupEntry_eq_none_iff first rest).mpr hnot
        cases hp : p (first, value) with
        | true => simp [hp, lookupEntry, Option.filter_some]
        | false => simp [hp, lookupEntry, ih hrest, hnone, Option.filter_some]
      · cases hp : p (first, value) <;> simp [hp, lookupEntry, hk, ih hrest]

theorem nodup_keys_erase {map : OrderedMap α β} (h : map.keys.Nodup) (key : α) :
    (map.erase key).keys.Nodup :=
  h.sublist ((List.filter_sublist).map _)

theorem get?_erase {map : OrderedMap α β} (h : map.keys.Nodup) (key k : α) :
    (map.erase key).get? k = if k = key then none else map.get? k := by
  have hfilter := lookupEntry_filter (p := fun entry => decide (entry.1 ≠ key)) h k
  unfold get? erase
  rw [hfilter]
  by_cases hk : k = key <;> cases lookupEntry k map.entries <;> simp [hk]

/-! ## First and last occurrences

The keys stand in the order of their first insertions, and each has the value of its last one. -/

theorem eraseDups_concat (keys : List α) (key : α) :
    (keys ++ [key]).eraseDups =
      if key ∈ keys then keys.eraseDups else keys.eraseDups ++ [key] := by
  rw [List.eraseDups_append]
  by_cases h : key ∈ keys <;> simp [List.removeAll, List.eraseDups_cons, h]

theorem ofList_concat (entries : List (α × β)) (entry : α × β) :
    ofList (entries ++ [entry]) = (ofList entries).insert entry.1 entry.2 :=
  insertAll_append empty entries [entry]

theorem keys_ofList (entries : List (α × β)) :
    (ofList entries).keys = (entries.map (·.1)).eraseDups := by
  induction entries using List.reverseRecOn with
  | nil => rfl
  | append_singleton entries entry ih =>
      rw [ofList_concat, keys_insert, ih, List.map_append, List.map_cons, List.map_nil,
        eraseDups_concat]
      simp only [List.mem_eraseDups]

theorem get?_ofList (entries : List (α × β)) (key : α) :
    (ofList entries).get? key = ((entries.filter (·.1 = key)).getLast?).map (·.2) := by
  induction entries using List.reverseRecOn with
  | nil => rfl
  | append_singleton entries entry ih =>
      rw [ofList_concat, get?_insert, ih, List.filter_append]
      by_cases h : entry.1 = key
      · simp [h]
      · simp [h, Ne.symm h]

theorem pairwise_idxOf_eraseDups (keys : List α) :
    keys.eraseDups.Pairwise fun a b => keys.idxOf a < keys.idxOf b := by
  induction keys using List.reverseRecOn with
  | nil => exact List.Pairwise.nil
  | append_singleton keys key ih =>
      have hkeep : keys.eraseDups.Pairwise
          fun a b => (keys ++ [key]).idxOf a < (keys ++ [key]).idxOf b := by
        refine ih.imp_of_mem ?_
        intro a b ha hb hlt
        rw [List.mem_eraseDups] at ha hb
        rwa [List.idxOf_append_of_mem ha, List.idxOf_append_of_mem hb]
      rw [eraseDups_concat]
      by_cases hkey : key ∈ keys
      · rwa [if_pos hkey]
      · rw [if_neg hkey, List.pairwise_append]
        refine ⟨hkeep, List.pairwise_singleton _ _, ?_⟩
        intro a ha b hb
        rw [List.mem_eraseDups] at ha
        rw [List.mem_singleton.mp hb, List.idxOf_append_of_mem ha,
          List.idxOf_append_of_notMem hkey]
        exact Nat.lt_of_lt_of_le (List.idxOf_lt_length_of_mem ha) (Nat.le_add_right _ _)

theorem pairwise_keys_ofList (entries : List (α × β)) :
    (ofList entries).keys.Pairwise fun a b =>
      (entries.map (·.1)).idxOf a < (entries.map (·.1)).idxOf b := by
  rw [keys_ofList]
  exact pairwise_idxOf_eraseDups _

/-- An entry of a list that no later one of the same key follows. -/
def IsLast (entries : List (α × β)) (entry : α × β) : Prop :=
  ∃ front back, entries = front ++ entry :: back ∧ entry.1 ∉ back.map (·.1)

omit [DecidableEq α] in
theorem isLast_cons (first : α × β) (rest : List (α × β)) (entry : α × β) :
    IsLast (first :: rest) entry ↔
      IsLast rest entry ∨ first = entry ∧ entry.1 ∉ rest.map (·.1) := by
  constructor
  · rintro ⟨front, back, hsplit, hlast⟩
    cases front with
    | nil =>
        obtain ⟨rfl, rfl⟩ := List.cons.inj hsplit
        exact Or.inr ⟨rfl, hlast⟩
    | cons _ front => exact Or.inl ⟨front, back, (List.cons.inj hsplit).2, hlast⟩
  · rintro (⟨front, back, rfl, hlast⟩ | ⟨rfl, hlast⟩)
    · exact ⟨first :: front, back, rfl, hlast⟩
    · exact ⟨[], rest, rfl, hlast⟩

theorem get?_ofList_eq_some_iff (entries : List (α × β)) (key : α) (value : β) :
    (ofList entries).get? key = some value ↔ IsLast entries (key, value) := by
  induction entries with
  | nil => simp [ofList, empty, get?, lookupEntry, IsLast]
  | cons first rest ih =>
      obtain ⟨k, v⟩ := first
      have hnone : (ofList rest).get? key = none ↔ key ∉ rest.map (·.1) := by
        rw [← mem_keys_ofList]
        exact lookupEntry_eq_none_iff key _
      rw [get?_ofList_cons, Option.or_eq_some_iff, ih, isLast_cons, hnone]
      apply or_congr_right
      by_cases hk : key = k
      · simp [hk, and_comm]
      · simp [hk, Ne.symm hk]

theorem mem_entries_ofList (entries : List (α × β)) (entry : α × β) :
    entry ∈ (ofList entries).entries ↔ IsLast entries entry := by
  rw [← get?_ofList_eq_some_iff entries entry.1 entry.2]
  exact ⟨lookupEntry_of_mem (nodup_keys_ofList entries), mem_of_lookupEntry⟩

/-- Every insertion has an entry of its own exactly if no key is inserted twice. -/
theorem size_ofList_eq_length_iff (entries : List (α × β)) :
    (ofList entries).size = entries.length ↔ (entries.map (·.1)).Nodup := by
  have hsize : (ofList entries).size = (ofList entries).keys.length := (List.length_map _).symm
  have hnodup := nodup_keys_ofList entries
  have hsub : (ofList entries).keys ⊆ entries.map (·.1) :=
    fun key hk => (mem_keys_ofList entries key).mp hk
  have hsuper : entries.map (·.1) ⊆ (ofList entries).keys :=
    fun key hk => (mem_keys_ofList entries key).mpr hk
  have hlength : entries.length = (entries.map (·.1)).length := (List.length_map _).symm
  rw [hsize, hlength]
  constructor
  · intro heq
    have hperm := (List.subperm_of_subset hnodup hsub).perm_of_length_le (Nat.le_of_eq heq.symm)
    exact hperm.nodup_iff.mp hnodup
  · intro hn
    exact ((List.perm_ext_iff_of_nodup hnodup hn).mpr fun key => ⟨@hsub key, @hsuper key⟩).length_eq

end Cyclomatic.OrderedMap
