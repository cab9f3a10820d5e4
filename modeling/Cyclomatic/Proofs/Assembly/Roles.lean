import Cyclomatic.Proofs.Assembly.Accounting

/-! # The roles of a line

A line opens a unit, closes one, confirms a label, returns, is a label or is a decision. Where it is
only one of these, the order in which the patterns are tried does not matter. Two kinds of lines are
two at once: an x86 directive whose name is an opcode that decides, and the 6502 label `RTS:`. There
the pattern that is tried first decides. -/

namespace Cyclomatic.Assembly

open Text

/-! ## Roles -/

inductive Role where
  | opens
  | closes
  | confirms
  | returns
  | labels
  | decides
deriving DecidableEq, Repr

namespace Role

/-- The roles in the order in which they are tried. -/
def precedence : List Role := [.opens, .closes, .confirms, .returns, .labels, .decides]

theorem mem_precedence (role : Role) : role ∈ precedence := by
  cases role <;> decide

end Role

namespace Dialect

def closes : Dialect → List Char → Bool
  | .x86 => x86Close
  | .mos6502 => mos6502Close

/-- Whether a line has a role. Only 6502 source has lines that confirm a label or return. -/
def plays (dialect : Dialect) (line : List Char) : Role → Bool
  | .opens => (dialect.opens? line).isSome
  | .closes => dialect.closes line
  | .confirms => dialect == .mos6502 && mos6502Subroutine line
  | .returns => dialect == .mos6502 && mos6502Return line
  | .labels => (label? line).isSome
  | .decides => dialect.points line != 0

/-- What a line does in a role: the next state and the unit closed. -/
def act (dialect : Dialect) (line : List Char) (state : UnitState) :
    Role → UnitState × Option ClosedUnit
  | .opens => (.opened ((dialect.opens? line).getD "") 1, state.unit?)
  | .closes =>
      match dialect, state with
      | .mos6502, .candidate _ _ => (state, none)
      | _, _ => (.idle, state.unit?)
  | .confirms =>
      match state with
      | .candidate name score => (.opened name score, none)
      | _ => (state, none)
  | .returns =>
      match state with
      | .candidate name score => (.idle, some ⟨name, score⟩)
      | _ => (.idle, state.unit?)
  | .labels =>
      match dialect, state with
      | _, .opened _ _ => (state, none)
      | .x86, _ => (.opened ((label? line).getD "") 1, none)
      | .mos6502, _ => (.candidate ((label? line).getD "") 1, none)
  | .decides =>
      match dialect, state with
      | .x86, .candidate _ _ => (state, none)
      | _, _ => (state.accrue 1, none)

/-- What a line does if the roles are tried in some order. -/
def actBy (dialect : Dialect) (order : List Role) (state : UnitState) (line : List Char) :
    UnitState × Option ClosedUnit :=
  match order.find? (dialect.plays line) with
  | some role => dialect.act line state role
  | none => (state, none)

/-- A line that has two roles. -/
def ambiguous (dialect : Dialect) (line : List Char) : Bool :=
  match dialect with
  | .x86 =>
      [['p', 'r', 'o', 'c'], ['e', 'n', 'd', 'p']].any fun keyword =>
        (namedDirective? keyword line).any fun name => Dialect.x86.points name.toList != 0
  | .mos6502 =>
      (label? line).any fun name => name.toList.map Char.toLower == ['r', 't', 's']

end Dialect

/-! ## Directives of x86 source -/

theorem isBlank_of_isFoldedLetter {c : Char} (h : isFoldedLetter c = true) :
    isBlank c = false := by
  simp only [isFoldedLetter, Bool.or_eq_true, beq_iff_eq] at h
  rcases h with (((h | rfl) | rfl) | rfl) | rfl
  · exact isBlank_of_isAlpha h
  all_goals decide

theorem firstWord_append_blank {word : List Char} (hne : word ≠ [])
    (hw : ∀ c ∈ word, isBlank c = false) (rest : List Char)
    (hr : ∀ c ∈ rest.head?, isBlank c = true) : (firstWord (word ++ rest)).1 = word := by
  have hfront : ∀ c ∈ word, (!isBlank c) = true := by
    intro c hc
    simp [hw c hc]
  obtain ⟨c, tail, rfl⟩ := List.exists_cons_of_ne_nil hne
  have hdrop : (c :: tail ++ rest).dropWhile isBlank = c :: tail ++ rest := by
    simp [hw c List.mem_cons_self]
  rw [firstWord, hdrop, List.span_eq_takeWhile_dropWhile, List.takeWhile_append_of_pos hfront]
  cases rest with
  | nil => simp
  | cons b rest => simp [hr b rfl]

theorem namedDirective?_eq_some {keyword line : List Char} {name : String}
    (h : namedDirective? keyword line = some name) :
    ∃ rest after, takeName? isFoldedLetter line = some (name, rest) ∧
      skipBlanks? rest = some after ∧ (skipKeyword? keyword after).isSome = true := by
  simp only [namedDirective?, Option.bind_eq_bind, Option.bind_eq_some_iff] at h
  obtain ⟨⟨found, rest⟩, hread, after, hafter, last, hlast, hend⟩ := h
  split at hend
  · obtain rfl := Option.some.inj hend
    exact ⟨rest, after, hread, hafter, Option.isSome_of_eq_some hlast⟩
  · cases hend

/-- The opcode of a directive is its name, so the directive is a decision if its name is one. -/
theorem points_of_namedDirective? {keyword line : List Char} {name : String}
    (h : namedDirective? keyword line = some name) (dialect : Dialect) :
    dialect.points line = dialect.points name.toList := by
  obtain ⟨rest, after, hread, hafter, _⟩ := namedDirective?_eq_some h
  obtain ⟨rfl, hne, hchars, _⟩ := takeName?_eq_some hread
  have hword : ∀ c ∈ name.toList, isBlank c = false := by
    intro c hc
    rcases hchars c hc with hl | hd | rfl
    · exact isBlank_of_isFoldedLetter hl
    · exact isBlank_of_isDigit hd
    · decide
  have hrest : ∀ c ∈ rest.head?, isBlank c = true := by
    intro c hc
    obtain ⟨tail, rfl⟩ := List.head?_eq_some_iff.mp hc
    simp only [skipBlanks?, Option.ite_none_right_eq_some] at hafter
    exact hafter.1
  have hline := firstWord_append_blank hne hword rest hrest
  have halone := firstWord_append_blank hne hword [] (by simp)
  rw [List.append_nil] at halone
  simp only [Dialect.points, opcode, hline, halone]

/-- Of the keywords of two directives on one line, one starts with the other. -/
theorem isPrefix_of_namedDirective? {keyword other line : List Char} {name name' : String}
    (h : namedDirective? keyword line = some name) (h' : namedDirective? other line = some name') :
    keyword <+: other ∨ other <+: keyword := by
  obtain ⟨rest, after, hread, hafter, hkey⟩ := namedDirective?_eq_some h
  obtain ⟨rest', after', hread', hafter', hkey'⟩ := namedDirective?_eq_some h'
  rw [hread] at hread'
  obtain ⟨-, rfl⟩ := Prod.mk.inj (Option.some.inj hread')
  rw [hafter] at hafter'
  obtain rfl := Option.some.inj hafter'
  exact isPrefix_of_skipKeyword? hkey hkey'

/-! ## Labels of 6502 source -/

theorem foldChar_of_name {c : Char} (h : c.isAlpha = true ∨ c.isDigit = true ∨ c = '_') :
    foldChar c = c.toLower := by
  have hne (d : Char) (hd : ¬ (d.isAlpha = true ∨ d.isDigit = true ∨ d = '_')) : c ≠ d := by
    rintro rfl
    exact hd h
  have hs := hne '\u017F' (by decide)
  have hk := hne '\u212A' (by decide)
  have hi := hne '\u0130' (by decide)
  have hj := hne '\u0131' (by decide)
  simp [foldChar, hs, hk, hi, hj]

theorem isWordChar_of_name {c : Char} (h : c.isAlpha = true ∨ c.isDigit = true ∨ c = '_') :
    isWordChar c = true := by
  have hascii : c.toNat < 128 := by
    rcases h with h | h | rfl
    · have hb := toNat_bounds_of_isAlpha h
      omega
    · have hb := Char.isDigit_iff_toNat.mp h
      simp only [Char.reduceToNat] at hb
      omega
    · decide
  rcases h with h | h | rfl <;> simp [isWordChar, isAsciiWordChar, Char.isAlphanum, *]

/-- A keyword without a colon that a line with a label starts with is part of the label. -/
theorem skipKeyword?_of_label {keyword line rest : List Char} {name : String}
    (h : skipKeyword? keyword line = some rest) (hl : label? line = some name)
    (hk : ':' ∉ keyword) :
    ∃ front back tail, name.toList = front ++ back ∧ front.map foldChar = keyword ∧
      rest = back ++ ':' :: tail := by
  obtain ⟨front, rfl, rfl⟩ := skipKeyword?_eq_some_iff.mp h
  obtain ⟨tail, hline, _⟩ := label?_eq_some hl
  have hcolon : ':' ∉ front := by
    intro hm
    exact hk (List.mem_map.mpr ⟨':', hm, by decide⟩)
  rcases List.append_eq_append_iff.mp hline with ⟨back, hname, hrest⟩ | ⟨more, hfront, hmore⟩
  · exact ⟨front, back, tail, hname, rfl, hrest⟩
  · -- The keyword cannot reach beyond the name, for the colon comes there.
    cases more with
    | nil => exact ⟨front, [], tail, by simpa using hfront.symm, rfl, by simpa using hmore.symm⟩
    | cons c more =>
        obtain ⟨rfl, _⟩ := List.cons.inj hmore
        exact absurd (by simp [hfront]) hcolon

theorem toLower_ne_dot_of_name {c : Char} (h : c.isAlpha = true ∨ c.isDigit = true ∨ c = '_') :
    c.toLower ≠ '.' := by
  intro hdot
  rcases h with ha | hd | rfl
  · have hl : c.toLower.isAlpha = true := by simpa using ha
    rw [hdot] at hl
    exact absurd hl (by decide)
  · have hu : ¬ c.isUpper = true := by
      intro hu
      have hb := toNat_bounds_of_isAlpha (by simp [Char.isAlpha, hu] : c.isAlpha = true)
      have hn := Char.isDigit_iff_toNat.mp hd
      simp only [Char.reduceToNat] at hn
      omega
    rw [Char.toLower_eq_of_not_isUpper hu] at hdot
    subst hdot
    exact absurd hd (by decide)
  · exact absurd hdot (by decide)

/-- No directive with a point is a label. -/
theorem skipKeyword?_dot_of_label {keyword line : List Char} {name : String}
    (hl : label? line = some name) (hk : ':' ∉ keyword) :
    skipKeyword? ('.' :: keyword) line = none := by
  cases h : skipKeyword? ('.' :: keyword) line with
  | none => rfl
  | some rest =>
      obtain ⟨front, back, tail, hname, hf, -⟩ := skipKeyword?_of_label h hl (by simpa using hk)
      obtain ⟨_, _, hchars⟩ := label?_eq_some hl
      cases front with
      | nil => simp at hf
      | cons c front =>
          have hc := hchars c (by simp [hname])
          have hdot : foldChar c = '.' := (List.cons.inj hf).1
          rw [foldChar_of_name hc] at hdot
          exact absurd hdot (toLower_ne_dot_of_name hc)

theorem mos6502Subroutine_of_label {line : List Char} {name : String}
    (hl : label? line = some name) : mos6502Subroutine line = false := by
  unfold mos6502Subroutine
  cases h : skipKeyword? ['s', 'u', 'b', 'r', 'o', 'u', 't', 'i', 'n', 'e'] line with
  | none => rfl
  | some rest =>
      obtain ⟨front, back, tail, hname, -, rfl⟩ := skipKeyword?_of_label h hl (by decide)
      obtain ⟨_, _, hchars⟩ := label?_eq_some hl
      have hcolon : isBlank ':' = false := by decide
      cases back with
      | nil => simp [hcolon]
      | cons c back => simp [isBlank_of_name (hchars c (by simp [hname]))]

/-- A label is a return exactly if it is the word for one. -/
theorem mos6502Return_of_label {line : List Char} {name : String}
    (hl : label? line = some name) :
    mos6502Return line = (name.toList.map Char.toLower == ['r', 't', 's']) := by
  obtain ⟨tail, hline, hchars⟩ := label?_eq_some hl
  have hfold : name.toList.map foldChar = name.toList.map Char.toLower :=
    List.map_congr_left fun c hc => foldChar_of_name (hchars c hc)
  have hcolon : isWordChar ':' = false := by decide
  rw [← hfold, Bool.eq_iff_iff, beq_iff_eq, mos6502Return, Option.any_eq_true]
  constructor
  · rintro ⟨rest, hskip, hend⟩
    obtain ⟨front, back, after, hname, hf, rfl⟩ := skipKeyword?_of_label hskip hl (by decide)
    cases back with
    | nil => rw [hname, List.append_nil, hf]
    | cons c back =>
        have hword := isWordChar_of_name (hchars c (by simp [hname]))
        simp [atWordEnd, hword] at hend
  · intro hname
    exact ⟨':' :: tail, skipKeyword?_eq_some_iff.mpr ⟨name.toList, hline, hname⟩,
      by simp [atWordEnd, hcolon]⟩

/-! ## Two roles at once -/

theorem x86Open?_and_close {line : List Char} (h : (x86Open? line).isSome = true) :
    x86Close line = false := by
  obtain ⟨name, hname⟩ := Option.isSome_iff_exists.mp h
  unfold x86Close
  cases hc : namedDirective? ['e', 'n', 'd', 'p'] line with
  | none => rfl
  | some other => exact absurd (isPrefix_of_namedDirective? hname hc) (by decide)

theorem x86_ambiguous_iff (line : List Char) :
    Dialect.x86.ambiguous line = true ↔
      (Dialect.x86.plays line .opens = true ∨ Dialect.x86.plays line .closes = true) ∧
        Dialect.x86.plays line .decides = true := by
  have hpart (keyword : List Char) :
      ((namedDirective? keyword line).any fun name => Dialect.x86.points name.toList != 0) =
        ((namedDirective? keyword line).isSome && Dialect.x86.points line != 0) := by
    cases hd : namedDirective? keyword line with
    | none => rfl
    | some name => simp [points_of_namedDirective? hd]
  simp only [Dialect.ambiguous, List.any_cons, List.any_nil, Bool.or_false, hpart,
    Dialect.plays, Dialect.opens?, Dialect.closes, x86Open?, x86Close]
  grind

theorem x86_roles {line : List Char} {first second : Role}
    (hf : Dialect.x86.plays line first = true) (hs : Dialect.x86.plays line second = true)
    (hne : first ≠ second) : Dialect.x86.ambiguous line = true := by
  have hlabel (h : Dialect.x86.plays line .labels = true) :
      Dialect.x86.plays line .opens = false ∧ Dialect.x86.plays line .closes = false ∧
        Dialect.x86.plays line .decides = false := by
    obtain ⟨name, hname⟩ := Option.isSome_iff_exists.mp h
    simp [Dialect.plays, Dialect.opens?, Dialect.closes, x86Open?, x86Close,
      namedDirective?_of_label hname, points_of_label .x86 hname]
  have hopen (h : Dialect.x86.plays line .opens = true) :
      Dialect.x86.plays line .closes = false := x86Open?_and_close h
  have hconfirms : Dialect.x86.plays line .confirms = false := rfl
  have hreturns : Dialect.x86.plays line .returns = false := rfl
  rw [x86_ambiguous_iff]
  cases first <;> cases second <;> simp_all

/-- The keyword that a line of 6502 source starts with if it is a directive or a return. -/
def Role.keyword? : Role → Option (List Char)
  | .opens => some ['.', 'p', 'r', 'o', 'c']
  | .closes => some ['.', 'e', 'n', 'd', 'p', 'r', 'o', 'c']
  | .confirms => some ['s', 'u', 'b', 'r', 'o', 'u', 't', 'i', 'n', 'e']
  | .returns => some ['r', 't', 's']
  | .labels | .decides => none

theorem skipKeyword?_of_plays {line keyword : List Char} {role : Role}
    (h : Dialect.mos6502.plays line role = true) (hk : role.keyword? = some keyword) :
    (skipKeyword? keyword line).isSome = true := by
  cases role with
  | opens =>
      obtain rfl := Option.some.inj hk
      obtain ⟨name, hname⟩ := Option.isSome_iff_exists.mp h
      obtain ⟨rest, hrest, _⟩ := Option.bind_eq_some_iff.mp hname
      exact Option.isSome_of_eq_some hrest
  | closes =>
      obtain rfl := Option.some.inj hk
      exact Option.isSome_of_any h
  | confirms =>
      obtain rfl := Option.some.inj hk
      have hs : mos6502Subroutine line = true := h
      exact Option.isSome_of_any hs
  | returns =>
      obtain rfl := Option.some.inj hk
      have hr : mos6502Return line = true := h
      exact Option.isSome_of_any hr
  | labels => cases hk
  | decides => cases hk

theorem Role.eq_of_keyword? {line keyword other : List Char} {first second : Role}
    (hf : Dialect.mos6502.plays line first = true) (hk : first.keyword? = some keyword)
    (hs : Dialect.mos6502.plays line second = true) (ho : second.keyword? = some other) :
    first = second := by
  have hword := isPrefix_of_skipKeyword? (skipKeyword?_of_plays hf hk) (skipKeyword?_of_plays hs ho)
  cases first <;> cases hk <;> cases second <;> cases ho <;>
    first | rfl | exact absurd hword (by decide)

theorem points_of_keyword? {line keyword : List Char} {role : Role}
    (h : Dialect.mos6502.plays line role = true) (hk : role.keyword? = some keyword) :
    Dialect.mos6502.points line = 0 := by
  have hskip := skipKeyword?_of_plays h hk
  cases role <;> cases hk <;> exact points_mos6502_of_keyword hskip (by simp)

theorem mos6502_label_roles {line : List Char} {name : String} (h : label? line = some name) :
    Dialect.mos6502.plays line .opens = false ∧ Dialect.mos6502.plays line .closes = false ∧
      Dialect.mos6502.plays line .confirms = false ∧
      Dialect.mos6502.plays line .returns = Dialect.mos6502.ambiguous line := by
  refine ⟨?_, ?_, ?_, ?_⟩
  · simp [Dialect.plays, Dialect.opens?, mos6502Open?, skipKeyword?_dot_of_label h]
  · simp [Dialect.plays, Dialect.closes, mos6502Close, skipKeyword?_dot_of_label h]
  · simp [Dialect.plays, mos6502Subroutine_of_label h]
  · simp [Dialect.plays, Dialect.ambiguous, mos6502Return_of_label h, h]

theorem mos6502_ambiguous_iff (line : List Char) :
    Dialect.mos6502.ambiguous line = true ↔
      Dialect.mos6502.plays line .returns = true ∧ Dialect.mos6502.plays line .labels = true := by
  cases h : label? line with
  | none => simp [Dialect.ambiguous, Dialect.plays, h]
  | some name =>
      have hlabel : Dialect.mos6502.plays line .labels = true := by simp [Dialect.plays, h]
      obtain ⟨-, -, -, hreturns⟩ := mos6502_label_roles h
      rw [hreturns, hlabel]
      simp

/-- Beside a keyword a line of 6502 source is at most a label, and then the keyword returns. -/
theorem mos6502_ambiguous_of_keyword? {line keyword : List Char} {role other : Role}
    (h : Dialect.mos6502.plays line role = true) (hk : role.keyword? = some keyword)
    (ho : Dialect.mos6502.plays line other = true) (hn : other.keyword? = none) :
    Dialect.mos6502.ambiguous line = true := by
  cases other with
  | decides => simp [Dialect.plays, points_of_keyword? h hk] at ho
  | labels =>
      obtain ⟨name, hname⟩ := Option.isSome_iff_exists.mp ho
      obtain ⟨hopens, hcloses, hconfirms, hreturns⟩ := mos6502_label_roles hname
      cases role <;> simp_all [Role.keyword?]
  | _ => cases hn

theorem mos6502_roles {line : List Char} {first second : Role}
    (hf : Dialect.mos6502.plays line first = true)
    (hs : Dialect.mos6502.plays line second = true) (hne : first ≠ second) :
    Dialect.mos6502.ambiguous line = true := by
  cases hk : first.keyword? with
  | some keyword =>
      cases ho : second.keyword? with
      | some other => exact absurd (Role.eq_of_keyword? hf hk hs ho) hne
      | none => exact mos6502_ambiguous_of_keyword? hf hk hs ho
  | none =>
      cases ho : second.keyword? with
      | some other => exact mos6502_ambiguous_of_keyword? hs ho hf hk
      | none =>
          -- Only a label and a decision are left, and no label is a decision.
          have hlabel (h : Dialect.mos6502.plays line .labels = true) :
              Dialect.mos6502.plays line .decides = false := by
            obtain ⟨name, hname⟩ := Option.isSome_iff_exists.mp h
            simp [Dialect.plays, points_of_label .mos6502 hname]
          cases first <;> cases hk <;> cases second <;> cases ho <;> simp_all

/-- Exactly the ambiguous lines have two roles. -/
theorem ambiguous_iff (dialect : Dialect) (line : List Char) :
    dialect.ambiguous line = true ↔
      ∃ first second, first ≠ second ∧ dialect.plays line first = true ∧
        dialect.plays line second = true := by
  constructor
  · intro h
    cases dialect with
    | x86 =>
        obtain ⟨hopens | hcloses, hdecides⟩ := (x86_ambiguous_iff line).mp h
        · exact ⟨.opens, .decides, by decide, hopens, hdecides⟩
        · exact ⟨.closes, .decides, by decide, hcloses, hdecides⟩
    | mos6502 =>
        obtain ⟨hreturns, hlabels⟩ := (mos6502_ambiguous_iff line).mp h
        exact ⟨.returns, .labels, by decide, hreturns, hlabels⟩
  · rintro ⟨first, second, hne, hf, hs⟩
    cases dialect with
    | x86 => exact x86_roles hf hs hne
    | mos6502 => exact mos6502_roles hf hs hne

/-! ## Transitions by role -/

/-- The part of a transition's outcome that later transitions and the table depend on. -/
def Step.effect (step : Step) : UnitState × Option ClosedUnit :=
  (step.state, step.closed)

theorem points_of_decides {dialect : Dialect} {line : List Char}
    (h : dialect.plays line .decides = true) : dialect.points line = 1 := by
  have hle := points_le_one dialect line
  have hne : dialect.points line ≠ 0 := by simpa [Dialect.plays] using h
  omega

theorem points_of_not_decides {dialect : Dialect} {line : List Char}
    (h : dialect.plays line .decides = false) : dialect.points line = 0 := by
  simpa [Dialect.plays] using h

theorem UnitState.accrue_zero (state : UnitState) : state.accrue 0 = state := by
  cases state <;> simp [UnitState.accrue]

/-- The first role that a line has in an order decides what it does. -/
theorem Dialect.actBy_cons (dialect : Dialect) (role : Role) (order : List Role)
    (state : UnitState) (line : List Char) :
    dialect.actBy (role :: order) state line =
      if dialect.plays line role then dialect.act line state role
      else dialect.actBy order state line := by
  unfold Dialect.actBy
  cases h : dialect.plays line role <;> simp [h]

theorem Dialect.actBy_nil (dialect : Dialect) (state : UnitState) (line : List Char) :
    dialect.actBy [] state line = (state, none) := rfl

theorem x86_step_by_precedence (state : UnitState) (line : List Char) :
    (Dialect.x86.step state line).effect = Dialect.x86.actBy Role.precedence state line := by
  simp only [Role.precedence, Dialect.actBy_cons, Dialect.actBy_nil]
  cases ho : x86Open? line with
  | some name =>
      simp [X86.step_of_open ho, Step.effect, Dialect.plays, Dialect.opens?, Dialect.act, ho]
  | none =>
      cases hc : x86Close line with
      | true =>
          simp [X86.step_of_close ho hc, Step.effect, Dialect.plays, Dialect.opens?,
            Dialect.closes, Dialect.act, ho, hc]
      | false =>
          have hopens : Dialect.x86.plays line .opens = false := by
            simp [Dialect.plays, Dialect.opens?, ho]
          have hcloses : Dialect.x86.plays line .closes = false := hc
          have hconfirms : Dialect.x86.plays line .confirms = false := rfl
          have hreturns : Dialect.x86.plays line .returns = false := rfl
          simp only [hopens, hcloses, hconfirms, hreturns, Bool.false_eq_true, ite_false,
            Dialect.step, x86Step, ho, hc]
          cases hl : label? line with
          | some name =>
              have hlabels : Dialect.x86.plays line .labels = true := by simp [Dialect.plays, hl]
              simp only [hlabels, ite_true]
              cases state <;>
                simp [Step.effect, Dialect.act, hl, points_of_label .x86 hl, UnitState.accrue]
          | none =>
              have hlabels : Dialect.x86.plays line .labels = false := by simp [Dialect.plays, hl]
              simp only [hlabels, Bool.false_eq_true, ite_false]
              cases hd : Dialect.x86.plays line .decides with
              | true =>
                  cases state <;>
                    simp [Step.effect, Dialect.act, points_of_decides hd, UnitState.accrue]
              | false =>
                  cases state <;>
                    simp [Step.effect, points_of_not_decides hd, UnitState.accrue]

theorem mos6502_step_by_precedence (state : UnitState) (line : List Char) :
    (Dialect.mos6502.step state line).effect =
      Dialect.mos6502.actBy Role.precedence state line := by
  have hstep : (Dialect.mos6502.step state line).effect =
      Mos6502.transition (Dialect.mos6502.points line) (Mos6502.lineKind line) state :=
    Mos6502.step_eq_transition state line
  rw [hstep]
  simp only [Role.precedence, Dialect.actBy_cons, Dialect.actBy_nil, Mos6502.lineKind]
  cases ho : mos6502Open? line with
  | some name =>
      simp [Dialect.plays, Dialect.opens?, Dialect.act, Mos6502.transition, ho]
  | none =>
      have hopens : Dialect.mos6502.plays line .opens = false := by
        simp [Dialect.plays, Dialect.opens?, ho]
      have hcloses : Dialect.mos6502.plays line .closes = mos6502Close line := rfl
      have hconfirms : Dialect.mos6502.plays line .confirms = mos6502Subroutine line := rfl
      have hreturns : Dialect.mos6502.plays line .returns = mos6502Return line := rfl
      have hlabels : Dialect.mos6502.plays line .labels = (label? line).isSome := rfl
      simp only [hopens, hcloses, hconfirms, hreturns, hlabels, Bool.false_eq_true, ite_false]
      cases mos6502Close line with
      | true => cases state <;> simp [Dialect.act, Mos6502.transition, UnitState.unit?]
      | false =>
          cases mos6502Subroutine line with
          | true => cases state <;> simp [Dialect.act, Mos6502.transition]
          | false =>
              cases mos6502Return line with
              | true => cases state <;> simp [Dialect.act, Mos6502.transition, UnitState.unit?]
              | false =>
                  cases hl : label? line with
                  | some name =>
                      cases state <;>
                        simp [Dialect.act, Mos6502.transition, hl, points_of_label .mos6502 hl]
                  | none =>
                      cases hd : Dialect.mos6502.plays line .decides with
                      | true => simp [Dialect.act, Mos6502.transition, points_of_decides hd]
                      | false =>
                          simp [Mos6502.transition, points_of_not_decides hd,
                            UnitState.accrue_zero]

theorem step_by_precedence (dialect : Dialect) (state : UnitState) (line : List Char) :
    (dialect.step state line).effect = dialect.actBy Role.precedence state line := by
  cases dialect with
  | x86 => exact x86_step_by_precedence state line
  | mos6502 => exact mos6502_step_by_precedence state line

/-! ## Lines with one role -/

theorem eq_of_plays {dialect : Dialect} {line : List Char} (h : dialect.ambiguous line = false)
    {first second : Role} (hf : dialect.plays line first = true)
    (hs : dialect.plays line second = true) : first = second := by
  by_contra hne
  have htwo := (ambiguous_iff dialect line).mpr ⟨first, second, hne, hf, hs⟩
  simp [h] at htwo

theorem find?_plays {dialect : Dialect} {line : List Char} (h : dialect.ambiguous line = false)
    {role : Role} (hp : dialect.plays line role = true) {order : List Role}
    (hm : role ∈ order) : order.find? (dialect.plays line) = some role := by
  cases hfind : order.find? (dialect.plays line) with
  | none => exact absurd hp (List.find?_eq_none.mp hfind role hm)
  | some other => rw [eq_of_plays h hp (List.find?_some hfind)]

/-- Any order of the roles will do if a line has no more than one of them. -/
theorem actBy_eq_of_complete {dialect : Dialect} {line : List Char}
    (h : dialect.ambiguous line = false) {order other : List Role} (ho : ∀ role, role ∈ order)
    (ho' : ∀ role, role ∈ other) (state : UnitState) :
    dialect.actBy order state line = dialect.actBy other state line := by
  have hfind : order.find? (dialect.plays line) = other.find? (dialect.plays line) := by
    by_cases hp : ∃ role, dialect.plays line role = true
    · obtain ⟨role, hrole⟩ := hp
      rw [find?_plays h hrole (ho role), find?_plays h hrole (ho' role)]
    · have hnone : ∀ role, ¬ dialect.plays line role = true := not_exists.mp hp
      rw [List.find?_eq_none.mpr fun role _ => hnone role,
        List.find?_eq_none.mpr fun role _ => hnone role]
  unfold Dialect.actBy
  rw [hfind]

/-- A line has at most one role. So it does not matter in which order the roles are tried, and a
decision inside a unit adds one point to it and does nothing else. -/
structure OneRole (dialect : Dialect) (line : List Char) : Prop where
  unique : ∀ first second, dialect.plays line first = true → dialect.plays line second = true →
    first = second
  any_order : ∀ order : List Role, (∀ role, role ∈ order) → ∀ state,
    (dialect.step state line).effect = dialect.actBy order state line
  one_point : dialect.points line ≠ 0 → ∀ name score,
    (dialect.step (.opened name score) line).effect = (.opened name (score + 1), none)

theorem oneRole_of_not_ambiguous {dialect : Dialect} {line : List Char}
    (h : dialect.ambiguous line = false) : OneRole dialect line where
  unique _ _ := eq_of_plays h
  any_order order ho state := by
    rw [step_by_precedence, actBy_eq_of_complete h Role.mem_precedence ho]
  one_point hp name score := by
    have hd : dialect.plays line .decides = true := by simpa [Dialect.plays] using hp
    have hfirst : ∀ role, role ∈ Role.decides :: Role.precedence :=
      fun role => List.mem_cons_of_mem _ role.mem_precedence
    rw [step_by_precedence, actBy_eq_of_complete h Role.mem_precedence hfirst,
      Dialect.actBy_cons, if_pos hd]
    cases dialect <;> rfl

/-- Every line but the ambiguous ones has at most one role, with what follows from it. On every line
the role that comes first in the order of precedence decides. -/
theorem oneRole_iff_not_ambiguous (dialect : Dialect) (line : List Char) :
    (OneRole dialect line ↔ dialect.ambiguous line = false) ∧
      ∀ state, (dialect.step state line).effect =
        dialect.actBy Role.precedence state line := by
  refine ⟨⟨?_, oneRole_of_not_ambiguous⟩, fun state => step_by_precedence dialect state line⟩
  intro h
  rw [Bool.eq_false_iff]
  intro ha
  obtain ⟨first, second, hne, hf, hs⟩ := (ambiguous_iff dialect line).mp ha
  exact hne (h.unique first second hf hs)

/-- A jump to a place called `PROC` is a directive as well: instead of adding a point to the open
unit it closes the unit and opens another. A label called `RTS` is a return as well. -/
theorem not_oneRole_of_clean_line :
    (cleanLine? "JE PROC".toList = some "JE PROC".toList ∧
      Dialect.x86.points "JE PROC".toList = 1 ∧
      (Dialect.x86.step (.opened "f" 1) "JE PROC".toList).effect =
        (.opened "JE" 1, some ⟨"f", 1⟩) ∧
      ¬ OneRole .x86 "JE PROC".toList) ∧
    cleanLine? "RTS:".toList = some "RTS:".toList ∧ ¬ OneRole .mos6502 "RTS:".toList := by
  refine ⟨⟨by decide, by decide, by decide, ?_⟩, by decide, ?_⟩
  · intro h
    have heq := h.unique .opens .decides (by decide) (by decide)
    cases heq
  · intro h
    have heq := h.unique .returns .labels (by decide) (by decide)
    cases heq

end Cyclomatic.Assembly
