import Cyclomatic.Proofs.Analysis.Source

/-! # Extensions that are reported as unsupported

The language of a path is found by the end of its text, while an error shows the extension of the
last name. Both look at the same characters unless the path ends in a slash, or in a slash and a
dot: such an end hides the extension from the search and drops out when the path is read. -/

namespace Cyclomatic

open Text

/-! ## The end of a text in lower case -/

namespace Text

theorem lowerOnto_eq (done left cs : List Char) :
    lowerOnto done left cs = done.reverse ++ lowerOnto [] left cs := by
  induction cs generalizing done left with
  | nil => simp [lowerOnto]
  | cons c rest ih =>
      simp only [lowerOnto]
      split
      · rw [ih, ih [_]]
        simp
      · rw [ih, ih ((lowerChar c).reverse ++ [])]
        simp

/-- What follows a part of a text is lowered on its own, though with that part to its left. -/
theorem lowerOnto_append (left front back : List Char) :
    ∃ lowered, lowerOnto [] left (front ++ back) =
      lowered ++ lowerOnto [] (front.reverse ++ left) back := by
  induction front generalizing left with
  | nil => exact ⟨[], rfl⟩
  | cons c front ih =>
      obtain ⟨lowered, hlowered⟩ := ih (c :: left)
      rw [List.reverse_cons, List.append_assoc, List.singleton_append, List.cons_append, lowerOnto]
      split
      · rw [lowerOnto_eq, hlowered, ← List.append_assoc]
        exact ⟨_, rfl⟩
      · rw [lowerOnto_eq, hlowered, ← List.append_assoc]
        exact ⟨_, rfl⟩

/-- Only a capital sigma depends on what stands to its left. -/
theorem lowerOnto_of_notMem {cs : List Char} (h : 'Σ' ∉ cs) (left : List Char) :
    lowerOnto [] left cs = cs.flatMap lowerChar := by
  induction cs generalizing left with
  | nil => rfl
  | cons c rest ih =>
      obtain ⟨hc, hrest⟩ := List.ne_and_not_mem_of_not_mem_cons h
      rw [lowerOnto, if_neg (Ne.symm hc), lowerOnto_eq, ih hrest]
      simp

theorem notMem_of_lowerOnto {left cs : List Char} (hsigma : 'σ' ∉ lowerOnto [] left cs)
    (hfinal : 'ς' ∉ lowerOnto [] left cs) : 'Σ' ∉ cs := by
  induction cs generalizing left with
  | nil => exact List.not_mem_nil
  | cons c rest ih =>
      rw [lowerOnto] at hsigma hfinal
      split at hsigma
      · rename_i hc
        rw [if_pos hc, lowerOnto_eq] at hfinal
        rw [lowerOnto_eq] at hsigma
        cases hends : endsWord left rest with
        | true => simp [hends] at hfinal
        | false => simp [hends] at hsigma
      · rename_i hc
        rw [if_neg hc, lowerOnto_eq] at hfinal
        rw [lowerOnto_eq] at hsigma
        simp only [List.mem_append, not_or] at hsigma hfinal
        exact List.not_mem_cons_of_ne_of_not_mem (Ne.symm hc) (ih hsigma.2 hfinal.2)

/-- A text ends like its last part, also in lower case. -/
theorem lower_suffix {part cs : List Char} (h : part <:+ cs) (hs : 'Σ' ∉ part) :
    lower part <:+ lower cs := by
  obtain ⟨front, rfl⟩ := h
  obtain ⟨lowered, hlowered⟩ := lowerOnto_append [] front part
  refine ⟨lowered, ?_⟩
  rw [lower, lower, hlowered, lowerOnto_of_notMem hs, lowerOnto_of_notMem hs]

end Text

/-! ## The last name of a path -/

namespace Path

theorem splitNames_append (name front back : List Char) :
    splitNames name (front ++ '/' :: back) = splitNames name front ++ splitNames [] back := by
  fun_induction splitNames name front with
  | case1 name => rw [List.nil_append, splitNames, List.singleton_append]
  | case2 name rest ih => rw [List.cons_append, splitNames, ih, List.cons_append]
  | case3 name c rest hc ih =>
      rw [List.cons_append, splitNames, ih]
      exact hc

theorem splitNames_of_notMem {cs : List Char} (h : '/' ∉ cs) (name : List Char) :
    splitNames name cs = [String.ofList (name.reverse ++ cs)] := by
  induction cs generalizing name with
  | nil => simp [splitNames]
  | cons c rest ih =>
      obtain ⟨hc, hrest⟩ := List.ne_and_not_mem_of_not_mem_cons h
      rw [splitNames, ih hrest]
      · simp
      · exact Ne.symm hc

/-- A path is read as the names before its last slash and one name after it. -/
theorem exists_last_name (cs : List Char) :
    ∃ front last names, cs = front ++ last ∧ (front = [] ∨ ∃ init, front = init ++ ['/']) ∧
      splitNames [] cs = names ++ [String.ofList last] := by
  by_cases hslash : '/' ∈ cs
  · obtain ⟨last, front, hcs, hlast⟩ := List.eq_append_cons_of_mem (List.mem_reverse.mpr hslash)
    have hsplit : cs = front.reverse ++ '/' :: last.reverse := by
      rw [← List.reverse_reverse cs, hcs]
      simp
    refine ⟨front.reverse ++ ['/'], last.reverse, splitNames [] front.reverse, ?_, ?_, ?_⟩
    · simp [hsplit]
    · exact .inr ⟨_, rfl⟩
    · have hname : '/' ∉ last.reverse := by simpa using hlast
      rw [hsplit, splitNames_append, splitNames_of_notMem hname]
      rfl
  · exact ⟨[], cs, [], rfl, .inl rfl, splitNames_of_notMem hslash []⟩

/-- A path whose last name drops out when it is read. -/
def EndsInDirectory (cs : List Char) : Prop :=
  ∃ front, cs = front ++ ['/'] ∨ cs = front ++ ['/', '.']

/-- The extension of a path stands at the end of its last name. -/
theorem suffix_name (path : Path) : path.suffix.toList <:+ path.name.toList := by
  unfold suffix
  generalize path.name.toList = cs
  simp only
  split
  · exact List.nil_suffix
  · rename_i hlong
    simp only [Bool.or_eq_true, decide_eq_true_eq, not_or, List.length_reverse] at hlong
    have hparts := List.takeWhile_append_dropWhile (p := (· != '.')) (l := cs.reverse)
    cases hdrop : cs.reverse.dropWhile (· != '.') with
    | nil =>
        have hlength := congrArg List.length hparts
        rw [hdrop, List.append_nil, List.length_reverse] at hlength
        omega
    | cons c rest =>
        have hc := List.head?_dropWhile_not (· != '.') cs.reverse
        rw [hdrop] at hc hparts
        have hdot : c = '.' := by simpa using hc
        have hcs := congrArg List.reverse hparts
        rw [hdot, List.reverse_append, List.reverse_reverse, List.reverse_cons,
          List.append_assoc] at hcs
        exact ⟨rest.reverse, by rw [String.toList_ofList]; exact hcs⟩

/-- The extension stands at the end of the path itself unless the last name drops out. -/
theorem suffix_ofString {text : String} (h : ¬ EndsInDirectory text.toList) :
    (ofString text).suffix.toList <:+ text.toList := by
  obtain ⟨front, last, names, htext, hfront, hnames⟩ := exists_last_name text.toList
  by_cases hlast : last = [] ∨ last = ['.']
  · -- Without a slash before it, such a name is the whole path, which has no extension.
    rcases hfront with rfl | ⟨init, rfl⟩
    · rw [List.nil_append] at htext
      have hnone : (ofString text).suffix = "" := by
        rcases hlast with rfl | rfl
        · rw [ofString, htext]; rfl
        · rw [ofString, htext]; rfl
      rw [hnone]
      exact List.nil_suffix
    · refine absurd ⟨init, ?_⟩ h
      rcases hlast with rfl | rfl
      · exact .inl (by simpa using htext)
      · exact .inr (by simpa using htext)
  · have hname : (ofString text).name = String.ofList last := by
      obtain ⟨hempty, hdot⟩ := not_or.mp hlast
      simp [ofString, name, hnames, List.filter_append, hempty, String.ext_iff, hdot]
    have hsuffix := suffix_name (ofString text)
    rw [hname, String.toList_ofList] at hsuffix
    exact hsuffix.trans ⟨front, htext.symm⟩

end Path

/-! ## The error -/

/-- An extension that is, in lower case, one of a language. -/
def IsSupported (shown : String) : Prop :=
  ∃ language : Language, ∃ extension ∈ language.extensions,
    extension.toList = lower shown.toList

/-- Extensions are made of plain characters and end with none that ends a directory. -/
theorem extension_plain {language : Language} {extension : String}
    (h : extension ∈ language.extensions) :
    extension.toList ≠ [] ∧ 'σ' ∉ extension.toList ∧ 'ς' ∉ extension.toList ∧
      extension.toList.getLast? ≠ some '/' ∧ extension.toList.getLast? ≠ some '.' := by
  have hplain : ∀ language ∈ Language.all, ∀ extension ∈ language.extensions,
      extension.toList ≠ [] ∧ 'σ' ∉ extension.toList ∧ 'ς' ∉ extension.toList ∧
        extension.toList.getLast? ≠ some '/' ∧ extension.toList.getLast? ≠ some '.' := by
    decide
  exact hplain language language.mem_all extension h

/-- A path that ends like the files of a language is not refused. -/
theorem ofPath?_isSome {text : String} {part : List Char} (hends : part <:+ text.toList)
    (hsupported : IsSupported (String.ofList part)) : (Language.ofPath? text).isSome := by
  obtain ⟨language, extension, hextension, hlower⟩ := hsupported
  rw [String.toList_ofList] at hlower
  obtain ⟨-, hsigma, hfinal, -⟩ := extension_plain hextension
  rw [hlower] at hsigma hfinal
  have hpart : 'Σ' ∉ part := notMem_of_lowerOnto hsigma hfinal
  cases hfound : Language.ofPath? text with
  | some found => rfl
  | none =>
      have hnone := Language.ofPath?_eq_none hfound language hextension
      exact absurd (hlower ▸ lower_suffix hends hpart) hnone

theorem ofPath?_of_endsInDirectory {text : String} (h : Path.EndsInDirectory text.toList) :
    Language.ofPath? text = none := by
  cases hfound : Language.ofPath? text with
  | none => rfl
  | some language =>
      obtain ⟨extension, hextension, hends⟩ := Language.ofPath?_eq_some hfound
      obtain ⟨hne, -, -, hslash, hdot⟩ := extension_plain hextension
      have hlast : (lower text.toList).getLast? = extension.toList.getLast? := by
        obtain ⟨front, hfront⟩ := hends
        rw [← hfront, List.getLast?_append_of_ne_nil _ hne]
      -- A slash and a dot are their own lower case forms.
      have hmark {c : Char} (hc : [c] <:+ text.toList) (hplain : lower [c] = [c])
          (hsigma : 'Σ' ∉ [c]) : extension.toList.getLast? = some c := by
        obtain ⟨front, hfront⟩ := lower_suffix hc hsigma
        rw [← hlast, ← hfront, hplain, List.getLast?_append_of_ne_nil _ (by simp)]
        rfl
      obtain ⟨front, hfront | hfront⟩ := h
      · exact absurd (hmark ⟨front, hfront.symm⟩ rfl (by decide)) hslash
      · exact absurd (hmark ⟨front ++ ['/'], by simp [hfront]⟩ rfl (by decide)) hdot

/-- The text of the error determines the extension that is shown. -/
theorem shown_inj {shown other : String}
    (h : Registry.unsupported s!"file with extension '{shown}'" =
      Registry.unsupported s!"file with extension '{other}'") : shown = other := by
  simpa [Registry.unsupported, String.ext_iff, toString] using h

theorem not_isSupported_of_none : ¬ IsSupported "<no extension>" := by
  rintro ⟨language, extension, hextension, hlower⟩
  have hnone : ∀ language ∈ Language.all, ∀ extension ∈ language.extensions,
      extension.toList ≠ lower "<no extension>".toList := by decide
  exact hnone language language.mem_all extension hextension hlower

theorem not_isSupported_empty : ¬ IsSupported "" := by
  rintro ⟨language, extension, hextension, hlower⟩
  exact (extension_plain hextension).1 hlower

/-- The extension that an error shows. -/
theorem resolve_eq_error_iff {path shown : String} :
    Registry.resolve none (some path) =
        .error (Registry.unsupported s!"file with extension '{shown}'") ↔
      path ≠ "" ∧ Language.ofPath? path = none ∧
        shown = if (Path.ofString path).suffix = "" then "<no extension>"
          else (Path.ofString path).suffix := by
  simp only [Registry.resolve, Registry.resolvePath, beq_iff_eq]
  by_cases hempty : path = ""
  · simp only [hempty, if_true, ne_eq, not_true, false_and, iff_false]
    intro h
    simp [Registry.unsupported, String.ext_iff, toString] at h
  · simp only [hempty, if_false, ne_eq, not_false_eq_true, true_and]
    cases Language.ofPath? path with
    | some language => simp
    | none =>
        simp only [true_and]
        constructor
        · intro h
          exact (shown_inj (Except.error.inj h)).symm
        · intro h
          rw [h]

/-- A path is refused for an extension that is supported exactly if it ends in a slash, or in a
slash and a dot, and its last name before that has the extension. -/
theorem supported_refused_iff (path shown : String) :
    (Registry.resolve none (some path) =
        .error (Registry.unsupported s!"file with extension '{shown}'") ∧ IsSupported shown) ↔
      Path.EndsInDirectory path.toList ∧ (Path.ofString path).suffix = shown ∧
        IsSupported shown := by
  rw [resolve_eq_error_iff]
  constructor
  · rintro ⟨⟨hempty, hnone, hshown⟩, hsupported⟩
    have hsuffix : (Path.ofString path).suffix = shown := by
      split at hshown
      · exact absurd (hshown ▸ hsupported) not_isSupported_of_none
      · exact hshown.symm
    refine ⟨?_, hsuffix, hsupported⟩
    by_contra hends
    have hend := Path.suffix_ofString hends
    rw [hsuffix] at hend
    have hsome := ofPath?_isSome hend (by rwa [String.ofList_toList])
    rw [hnone] at hsome
    cases hsome
  · rintro ⟨hends, hsuffix, hsupported⟩
    refine ⟨⟨?_, ofPath?_of_endsInDirectory hends, ?_⟩, hsupported⟩
    · rintro rfl
      obtain ⟨front, hfront | hfront⟩ := hends
      · simp at hfront
      · simp at hfront
    · rw [hsuffix, if_neg]
      rintro rfl
      exact not_isSupported_empty hsupported

/-- A directory that is named like a Java file. -/
theorem supported_refused_of_slash :
    Registry.resolve none (some "Main.java/") =
        .error (Registry.unsupported "file with extension '.java'") ∧
      IsSupported ".java" := by
  refine ⟨by decide, .java, ".java", by decide, by decide⟩

end Cyclomatic
