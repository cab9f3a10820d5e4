import Cyclomatic.FileTree
import Cyclomatic.Proofs.OrderedMap

/-! # Files that are written at their end

The text of a path alone determines the place that it opens. Opening changes the content of no file,
though it makes a file that is missing, and writing at the end of one file changes no other. -/

namespace Cyclomatic.FileTree

/-- The top directory is there, and the working directory is given by plain names. -/
structure WellFormed (tree : FileTree) : Prop where
  rooted : tree.entries.contains [] = true
  plain : ".." ∉ tree.workDirectory

/-- The place that a path opens. -/
def placeOf (tree : FileTree) (path : Path) : Names :=
  collapse (if path.root == "" then tree.workDirectory else []) path.names

/-- The content of a file. A missing file is as good as an empty one; what is no file that may be
read has no content. -/
def contentAt? (tree : FileTree) (place : Names) : Option ByteArray :=
  match tree.entries.get? place with
  | some (.file content) => some content
  | some _ => none
  | none => some .empty

theorem contains_insert (entries : OrderedMap Names Entry) (place other : Names) (entry : Entry) :
    (entries.insert place entry).contains other =
      (decide (other = place) || entries.contains other) := by
  simp only [OrderedMap.contains, OrderedMap.get?_insert]
  by_cases h : other = place
  · simp [h]
  · simp [h]

/-! ## Making trees -/

/-- Adds one directory, unless something is there. -/
def addDirectory (tree : FileTree) (place : Names) : FileTree :=
  if tree.entries.contains place then tree
  else { tree with entries := tree.entries.insert place .directory }

theorem addDirectories_eq_foldl (tree : FileTree) (names : Names) :
    tree.addDirectories names =
      ((List.range names.length).map names.take).foldl addDirectory tree := by
  rw [List.foldl_map]
  rfl

theorem contains_addDirectory (tree : FileTree) (place other : Names) :
    (tree.addDirectory place).entries.contains other =
      (decide (other = place) || tree.entries.contains other) := by
  unfold addDirectory
  split
  · rename_i hthere
    by_cases hother : other = place
    · simp [hother, hthere]
    · simp [hother]
  · exact contains_insert _ _ _ _

theorem contains_foldl_addDirectory (places : List Names) (tree : FileTree) (place : Names)
    (h : place ∈ places ∨ tree.entries.contains place = true) :
    (places.foldl addDirectory tree).entries.contains place = true := by
  induction places generalizing tree with
  | nil => simpa using h
  | cons first places ih =>
      apply ih
      rw [contains_addDirectory, Bool.or_eq_true, decide_eq_true_eq]
      rcases h with hmem | hthere
      · rcases List.mem_cons.mp hmem with rfl | hlater
        · exact .inr (.inl rfl)
        · exact .inl hlater
      · exact .inr (.inr hthere)

theorem workDirectory_foldl_addDirectory (places : List Names) (tree : FileTree) :
    (places.foldl addDirectory tree).workDirectory = tree.workDirectory := by
  induction places generalizing tree with
  | nil => rfl
  | cons first places ih =>
      rw [List.foldl_cons, ih]
      unfold addDirectory
      split <;> rfl

/-- The top directory of a tree is there as soon as anything was added to it. -/
theorem wellFormed_add {tree : FileTree} (h : ".." ∉ tree.workDirectory) (names : Names)
    (entry : Entry) : (tree.add names entry).WellFormed where
  rooted := by
    simp only [add, contains_insert, Bool.or_eq_true, decide_eq_true_eq]
    cases names with
    | nil => exact .inl rfl
    | cons name names =>
        right
        rw [addDirectories_eq_foldl]
        apply contains_foldl_addDirectory
        exact .inl (List.mem_map.mpr ⟨0, by simp, rfl⟩)
  plain := by
    simp only [add, addDirectories_eq_foldl, workDirectory_foldl_addDirectory]
    exact h

/-! ## Following plain names -/

theorem collapse_plain (names : Names) {done : Names} (h : ".." ∉ done) :
    ".." ∉ collapse done names := by
  induction names generalizing done with
  | nil => exact h
  | cons name names ih =>
      unfold collapse
      split
      · exact ih fun hmem => h (List.dropLast_subset done hmem)
      · rename_i hname
        apply ih
        simp only [beq_iff_eq] at hname
        simp [h, Ne.symm hname]

theorem enter_inside {tree : FileTree} {place : Names} {name : String} {spot : Spot}
    (hname : name ≠ "..") (h : tree.enter (.inside place) name = .ok spot) :
    spot = .inside (place ++ [name]) ∧ tree.entries.contains (place ++ [name]) = true := by
  simp only [enter, hname, beq_iff_eq, if_false] at h
  split at h
  · cases h
  · split at h
    · cases h
    · split at h
      · rename_i hthere
        cases h
        exact ⟨rfl, hthere⟩
      · cases h
  · cases h
  · cases h

theorem follow_inside {tree : FileTree} {names place : Names} {spot : Spot}
    (hplain : ".." ∉ names) (hthere : tree.entries.contains place = true)
    (h : tree.follow (.inside place) names = .ok spot) :
    spot = .inside (place ++ names) ∧ tree.entries.contains (place ++ names) = true := by
  induction names generalizing place with
  | nil =>
      cases h
      simp [hthere]
  | cons name names ih =>
      simp only [List.mem_cons, not_or] at hplain
      rw [follow] at h
      split at h
      · rename_i next hnext
        obtain ⟨rfl, hentered⟩ := enter_inside (Ne.symm hplain.1) hnext
        simpa using ih hplain.2 hentered h
      · cases h

theorem follow_above {tree : FileTree} {names : Names} {spot : Spot} (hplain : ".." ∉ names)
    (h : tree.follow .above names = .ok spot) : spot = .above := by
  cases names with
  | nil =>
      cases h
      rfl
  | cons name names =>
      simp only [List.mem_cons, not_or] at hplain
      simp only [follow, enter, entryAt?, beq_iff_eq, Ne.symm hplain.1, if_false] at h
      split at h
      · rename_i hnext
        split at hnext <;> cases hnext
      · cases h

theorem follow_append (tree : FileTree) (start : Spot) (front back : Names) :
    tree.follow start (front ++ back) =
      match tree.follow start front with
      | .ok spot => tree.follow spot back
      | .error refusal => .error refusal := by
  induction front generalizing start with
  | nil => rfl
  | cons name front ih =>
      simp only [List.cons_append, follow]
      cases tree.enter start name with
      | ok next => exact ih next
      | error refusal => rfl

/-! ## Opening -/

theorem get?_of_contains {tree : FileTree} {place : Names}
    (h : tree.entries.contains place = true) : ∃ entry, tree.entries.get? place = some entry :=
  Option.isSome_iff_exists.mp h

theorem get?_eq_none_of_enter {tree : FileTree} {place : Names} {name : String}
    (hthere : tree.entries.contains place = true) (hname : name ≠ "..")
    (h : tree.enter (.inside place) name = .error .notFound) :
    tree.entries.get? (place ++ [name]) = none := by
  obtain ⟨entry, hentry⟩ := get?_of_contains hthere
  simp only [enter, entryAt?, hentry, beq_iff_eq, hname, if_false] at h
  cases entry with
  | file content => cases h
  | locked size => cases h
  | closed => cases h
  | pipe => cases h
  | directory =>
      simp only at h
      split at h
      · cases h
      · split at h
        · cases h
        · rename_i hmissing
          simpa [OrderedMap.contains] using hmissing

theorem follow_singleton {tree : FileTree} {spot : Spot} {name : String} {refusal : PathRefusal}
    (h : tree.follow spot [name] = .error refusal) : tree.enter spot name = .error refusal := by
  simp only [follow] at h
  split at h
  · cases h
  · rename_i hrefused
    cases h
    exact hrefused

/-- What opening gives: the file that is there, or a new one. -/
theorem openNames_cases {tree next : FileTree} {start : Spot} {names place : Names}
    (htree : tree.WellFormed) (hstart : start = .inside [] ∨ start = .above)
    (hplain : ".." ∉ names) (h : tree.openNames start names = .ok (place, next)) :
    place = names ∧
      (tree.entries.contains place = true ∧ next = tree ∨
        tree.entries.get? place = none ∧
          next = { tree with entries := tree.entries.insert place (.file .empty) }) := by
  have hfollow : ∀ {front found : Names}, ".." ∉ front →
      tree.follow start front = .ok (.inside found) →
        found = front ∧ tree.entries.contains front = true := by
    intro front found hfront hfound
    rcases hstart with rfl | rfl
    · obtain ⟨hspot, hthere⟩ := follow_inside hfront htree.rooted hfound
      cases hspot
      exact ⟨rfl, hthere⟩
    · cases follow_above hfront hfound
  unfold openNames at h
  split at h
  · cases h
  · split at h
    · rename_i found hfound
      obtain ⟨rfl, hthere⟩ := hfollow hplain hfound
      split at h
      · cases h
      · cases h
      · cases h
      · cases h
        exact ⟨rfl, .inl ⟨hthere, rfl⟩⟩
    · cases h
    · rename_i hmissing
      split at h
      · rename_i parent name hparent hname
        obtain ⟨front, rfl⟩ := List.getLast?_eq_some_iff.mp hname
        simp only [List.mem_append, List.mem_singleton, not_or] at hplain
        rw [List.dropLast_concat] at hparent
        obtain ⟨rfl, hthere⟩ := hfollow hplain.1 hparent
        rw [follow_append, hparent] at hmissing
        have hnew := get?_eq_none_of_enter hthere (Ne.symm hplain.2) (follow_singleton hmissing)
        cases h
        exact ⟨rfl, .inr ⟨hnew, rfl⟩⟩
      · cases h
    · cases h

theorem openForAppend_cases {tree next : FileTree} {path : Path} {place : Names}
    (htree : tree.WellFormed) (h : tree.openForAppend path = .ok (place, next)) :
    place = tree.placeOf path ∧
      (tree.entries.contains place = true ∧ next = tree ∨
        tree.entries.get? place = none ∧
          next = { tree with entries := tree.entries.insert place (.file .empty) }) := by
  have hopen : ∀ {start : Spot} {names : Names} {shown : PathRefusal → Fault},
      (tree.openNames start names).mapError shown = .ok (place, next) →
        tree.openNames start names = .ok (place, next) := by
    intro start names shown hok
    cases hresult : tree.openNames start names with
    | ok result =>
        rw [hresult] at hok
        cases hok
        rfl
    | error refusal =>
        rw [hresult] at hok
        cases hok
  unfold openForAppend at h
  unfold placeOf
  split at h
  · rename_i hroot
    rw [if_pos hroot]
    exact openNames_cases htree (.inl rfl) (collapse_plain _ htree.plain) (hopen h)
  · rename_i hroot
    rw [if_neg hroot]
    refine openNames_cases htree ?_ (collapse_plain _ List.not_mem_nil) (hopen h)
    unfold absoluteStart
    split
    · exact .inl rfl
    · exact .inr rfl

/-- Opening a file keeps all contents and leaves the file there. -/
structure Opened (tree next : FileTree) (place : Names) : Prop where
  wellFormed : next.WellFormed
  workDirectory : next.workDirectory = tree.workDirectory
  present : next.entries.contains place = true
  content (other : Names) : next.contentAt? other = tree.contentAt? other

theorem opened_of_openForAppend {tree next : FileTree} {path : Path} {place : Names}
    (htree : tree.WellFormed) (h : tree.openForAppend path = .ok (place, next)) :
    place = tree.placeOf path ∧ Opened tree next place := by
  obtain ⟨hplace, ⟨hthere, rfl⟩ | ⟨hnew, rfl⟩⟩ := openForAppend_cases htree h
  · exact ⟨hplace, htree, rfl, hthere, fun _ => rfl⟩
  · refine ⟨hplace, ⟨?_, htree.plain⟩, rfl, ?_, ?_⟩
    · simp [contains_insert, htree.rooted]
    · simp [contains_insert]
    · intro other
      by_cases hother : other = place
      · subst hother
        simp [contentAt?, hnew]
      · simp [contentAt?, hother]

/-! ## Writing -/

theorem contains_append (tree : FileTree) (place other : Names) (bytes : ByteArray) :
    (tree.append place bytes).entries.contains other = tree.entries.contains other := by
  unfold append
  split
  · rename_i content hcontent
    rw [contains_insert]
    by_cases hother : other = place
    · simp [hother, OrderedMap.contains, hcontent]
    · simp [hother]
  · rfl

@[simp] theorem workDirectory_append (tree : FileTree) (place : Names) (bytes : ByteArray) :
    (tree.append place bytes).workDirectory = tree.workDirectory := by
  unfold append
  split <;> rfl

theorem WellFormed.append {tree : FileTree} (h : tree.WellFormed) (place : Names)
    (bytes : ByteArray) : (tree.append place bytes).WellFormed where
  rooted := by rw [contains_append, h.rooted]
  plain := by rw [workDirectory_append]; exact h.plain

theorem contentAt?_append {tree : FileTree} {place : Names}
    (hthere : tree.entries.contains place = true) (bytes : ByteArray) (other : Names) :
    (tree.append place bytes).contentAt? other =
      if other = place then (tree.contentAt? other).map (· ++ bytes)
      else tree.contentAt? other := by
  obtain ⟨entry, hentry⟩ := get?_of_contains hthere
  by_cases hother : other = place
  · subst hother
    cases entry <;> simp [append, contentAt?, hentry]
  · rw [if_neg hother]
    cases entry <;> simp [append, contentAt?, hentry, hother]

end Cyclomatic.FileTree
