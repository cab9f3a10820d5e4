import Cyclomatic.Proofs.Syntax.Walk
import Cyclomatic.Proofs.Text.Blank
import Cyclomatic.Proofs.Text.Utf8

/-! # Descriptions of syntax errors

A tree is described by the first node of its traversal that marks a syntax error: by the place of
the node, and by the start of its text unless the text is blank. Every line boundary is blank, so a
text that was trimmed does not start with one, and what is shown of it is never empty. -/

namespace Cyclomatic

namespace Text

theorem isBlank_of_isLineBoundary {c : Char} (h : isLineBoundary c = true) : isBlank c = true := by
  simp only [isLineBoundary, isBlank, Bool.or_eq_true, Bool.and_eq_true, decide_eq_true_eq,
    beq_iff_eq] at h ⊢
  omega

/-- The longest start of a trimmed text that lies within one line and has at most 40 characters. -/
structure Snippet (trimmed snippet : List Char) : Prop where
  nonempty : snippet ≠ []
  isPrefix : snippet <+: trimmed
  short : snippet.length ≤ 40
  oneLine : ∀ c ∈ snippet, isLineBoundary c = false
  longest : ∀ longer, longer <+: trimmed → longer.length ≤ 40 →
    (∀ c ∈ longer, isLineBoundary c = false) → longer.length ≤ snippet.length

theorem Snippet.unique {trimmed snippet other : List Char} (h : Snippet trimmed snippet)
    (ho : Snippet trimmed other) : snippet = other := by
  have hle := ho.longest snippet h.isPrefix h.short h.oneLine
  have hge := h.longest other ho.isPrefix ho.short ho.oneLine
  exact (List.prefix_of_prefix_length_le h.isPrefix ho.isPrefix hle).eq_of_length_le hge

theorem isPrefix_takeWhile {p : Char → Bool} {front text : List Char} (h : front <+: text)
    (hp : ∀ c ∈ front, p c = true) : front <+: text.takeWhile p := by
  obtain ⟨back, rfl⟩ := h
  rw [List.takeWhile_append_of_pos hp]
  exact List.prefix_append front _

theorem snippet_firstLine {text trimmed : List Char} (h : Trimmed text trimmed)
    (hne : trimmed ≠ []) : Snippet trimmed ((firstLine trimmed).take 40) := by
  have hstart : (firstLine trimmed).take 40 <+: firstLine trimmed := List.take_prefix 40 _
  constructor
  · obtain ⟨c, rest, rfl⟩ := List.exists_cons_of_ne_nil hne
    have hc : isLineBoundary c = false := by
      rw [Bool.eq_false_iff]
      intro hboundary
      cases (h.head c rfl).symm.trans (isBlank_of_isLineBoundary hboundary)
    simp [firstLine, hc]
  · exact hstart.trans (List.takeWhile_prefix _)
  · exact List.length_take_le 40 _
  · intro c hc
    simpa using List.mem_takeWhile_imp (hstart.mem hc)
  · intro longer hlonger hshort hone
    have hline : longer <+: firstLine trimmed :=
      isPrefix_takeWhile hlonger fun c hc => by simp [hone c hc]
    rw [List.length_take]
    exact Nat.le_min.mpr ⟨hshort, hline.length_le⟩

end Text

namespace Node

open Text

/-! ## The first error -/

/-- A node that stands for a syntax error. -/
def MarksError (node : Node) : Prop :=
  node.kind = "ERROR" ∨ node.missing = true

theorem isFaulty_iff {node : Node} : node.isFaulty = true ↔ node.MarksError := by
  simp [isFaulty, MarksError]

/-- The first node of the traversal that stands for a syntax error. -/
structure FirstError (root node : Node) : Prop where
  marks : node.MarksError
  first : ∃ front back, root.preorder = front ++ node :: back ∧
    ∀ other ∈ front, ¬ other.MarksError

theorem find?_isFaulty_eq_some_iff {root node : Node} :
    root.walk.find? isFaulty = some node ↔ FirstError root node := by
  rw [walk_eq_preorder, List.find?_eq_some_iff_append, isFaulty_iff]
  simp only [Bool.not_eq_true', ← Bool.not_eq_true, isFaulty_iff]
  exact ⟨fun h => ⟨h.1, h.2⟩, fun h => ⟨h.marks, h.first⟩⟩

theorem find?_isFaulty_eq_none_iff {root : Node} :
    root.walk.find? isFaulty = none ↔ ∀ node ∈ root.preorder, ¬ node.MarksError := by
  simp only [walk_eq_preorder, List.find?_eq_none, isFaulty_iff]

/-! ## Descriptions -/

/-- Where a node stands, with lines and columns counted from one. -/
def placeText (node : Node) : String :=
  s!"syntax error at line {node.row + 1}, column {node.column + 1}"

/-- A snippet as it follows the place. -/
def nearText (snippet : List Char) : String :=
  s!" near '{String.ofList snippet}'"

/-- What may be said of a tree with syntax errors. -/
inductive Describes (root : Node) : String → Prop where
  | bare (h : ∀ node ∈ root.preorder, ¬ node.MarksError) : Describes root "syntax error"
  | place {node} (h : FirstError root node) (hblank : ∀ c ∈ node.text, isBlank c = true) :
      Describes root node.placeText
  | near {node trimmed snippet} (h : FirstError root node) (ht : Trimmed node.text trimmed)
      (hs : Snippet trimmed snippet) : Describes root (node.placeText ++ nearText snippet)

theorem describeFault_eq (node : Node) :
    node.describeFault = node.placeText ++
      if (trim node.text).isEmpty then "" else nearText node.snippet := rfl

theorem describeFault_of_blank {node : Node} (h : ∀ c ∈ node.text, isBlank c = true) :
    node.describeFault = node.placeText := by
  rw [describeFault_eq, (trim_eq_nil_iff _).mpr h, List.isEmpty_nil, if_pos rfl,
    String.append_empty]

theorem describeFault_of_snippet {node : Node} {trimmed snippet : List Char}
    (ht : Trimmed node.text trimmed) (hs : Snippet trimmed snippet) :
    node.describeFault = node.placeText ++ nearText snippet := by
  have hne : trimmed ≠ [] := by
    rintro rfl
    exact hs.nonempty (List.prefix_nil.mp hs.isPrefix)
  have hsnippet : node.snippet = snippet := by
    rw [Node.snippet, ht.trim_eq]
    exact (snippet_firstLine ht hne).unique hs
  rw [describeFault_eq, ht.trim_eq, hsnippet, if_neg (by simpa using hne)]

theorem describeError_of_first {root node : Node} (h : FirstError root node) :
    root.describeError = node.describeFault := by
  rw [describeError, find?_isFaulty_eq_some_iff.mpr h]

theorem describes_iff {root : Node} {text : String} :
    Describes root text ↔ root.describeError = text := by
  constructor
  · rintro (h | ⟨h, hblank⟩ | ⟨h, ht, hs⟩)
    · rw [describeError, find?_isFaulty_eq_none_iff.mpr h]
    · rw [describeError_of_first h, describeFault_of_blank hblank]
    · rw [describeError_of_first h, describeFault_of_snippet ht hs]
  · rintro rfl
    cases hfind : root.walk.find? isFaulty with
    | none =>
        rw [describeError, hfind]
        exact .bare (find?_isFaulty_eq_none_iff.mp hfind)
    | some node =>
        have hfirst := find?_isFaulty_eq_some_iff.mp hfind
        have ht := trimmed_trim node.text
        rw [describeError_of_first hfirst]
        by_cases hblank : ∀ c ∈ node.text, isBlank c = true
        · rw [describeFault_of_blank hblank]
          exact .place hfirst hblank
        · have hs := snippet_firstLine ht (mt (trim_eq_nil_iff _).mp hblank)
          rw [describeFault_of_snippet ht hs]
          exact .near hfirst ht hs

/-! ## What a description tells -/

theorem length_placeText (node : Node) : 12 < node.placeText.length := by
  change 12 < ("syntax error at line " ++ toString (node.row + 1) ++ ", column " ++
    toString (node.column + 1)).length
  have hstart : "syntax error at line ".length = 21 := rfl
  rw [String.length_append, String.length_append, String.length_append]
  omega

theorem length_nearText (snippet : List Char) : 0 < (nearText snippet).length := by
  change 0 < (" near '" ++ String.ofList snippet ++ "'").length
  have hend : "'".length = 1 := rfl
  rw [String.length_append]
  omega

theorem describes_bare_iff {root : Node} :
    Describes root "syntax error" ↔ ∀ node ∈ root.preorder, ¬ node.MarksError := by
  refine ⟨fun h => ?_, .bare⟩
  generalize htext : "syntax error" = text at h
  have hlength : text.length = 12 := htext ▸ rfl
  cases h with
  | bare h => exact h
  | @place node _ _ =>
      have hlong := length_placeText node
      omega
  | @near node _ _ _ _ _ =>
      have hlong := length_placeText node
      rw [String.length_append] at hlength
      omega

theorem exists_near_iff {root node : Node} (h : FirstError root node) :
    (∃ snippet, root.describeError = node.placeText ++ nearText snippet) ↔
      ¬ ∀ c ∈ node.text, isBlank c = true := by
  constructor
  · rintro ⟨snippet, hnear⟩ hblank
    rw [describeError_of_first h, describeFault_of_blank hblank] at hnear
    have hlength := congrArg String.length hnear
    have hlong := length_nearText snippet
    rw [String.length_append] at hlength
    omega
  · intro hblank
    have ht := trimmed_trim node.text
    have hs := snippet_firstLine ht (mt (trim_eq_nil_iff _).mp hblank)
    exact ⟨_, (describeError_of_first h).trans (describeFault_of_snippet ht hs)⟩

/-- The description of a tree is the one that the rules give. It is the bare text exactly if no node
stands for a syntax error, and a snippet follows the place of the first such node exactly if the
text of the node is not blank. -/
theorem describeError_describes_first (root : Node) :
    (∀ text, Describes root text ↔ root.describeError = text) ∧
      (root.describeError = "syntax error" ↔ ∀ node ∈ root.preorder, ¬ node.MarksError) ∧
      ∀ node, FirstError root node →
        ((∃ snippet, root.describeError = node.placeText ++ nearText snippet) ↔
          ¬ ∀ c ∈ node.text, isBlank c = true) := by
  refine ⟨fun text => describes_iff, ?_, fun node => exists_near_iff⟩
  rw [← describes_iff, describes_bare_iff]

/-- Blanks before the text, a line boundary inside it, and a missing node further on. -/
theorem describeError_describes_first_of_lines :
    let fault : Node :=
      { kind := "ERROR", bytes := some "\u2003= ;\u0085x\n".toUTF8, row := 1, column := 4 }
    let root : Node :=
      { kind := "program"
        children := [{ kind := "line_comment" }, fault, { kind := ";", missing := true }] }
    (∃ snippet, root.describeError = fault.placeText ++ nearText snippet) ∧
      root.describeError = fault.placeText ++ nearText "= ;".toList := by
  intro fault root
  have htext : fault.text = "\u2003= ;\u0085x\n".toList := decode_toUTF8 _
  have hfirst : FirstError root fault := by
    refine ⟨Or.inl rfl, [root, { kind := "line_comment" }], [{ kind := ";", missing := true }],
      ?_, ?_⟩
    · simp [root, fault, preorder, preorderAll]
    · simp [root, MarksError]
  have ht : Trimmed fault.text "= ;\u0085x".toList := by
    rw [trimmed_iff, htext]
    decide
  have hs : Snippet "= ;\u0085x".toList "= ;".toList := snippet_firstLine ht (by decide)
  obtain ⟨hrules, -, hnear⟩ := describeError_describes_first root
  refine ⟨(hnear fault hfirst).mpr fun hblank => ?_, (hrules _).mp (.near hfirst ht hs)⟩
  have hmem : '=' ∈ fault.text := by simp [htext]
  cases hblank '=' hmem

end Node

end Cyclomatic
