import Cyclomatic.Number.Reading
import Cyclomatic.Proofs.Text.Blank
import Mathlib

/-! # How numbers are written

The texts that are read as a number, and the number that each of them stands for, without any
mention of how they are read: digits of any script with single underscores between them, a sign
before them, blanks around them, and for floating point numbers a point, an exponent or a word. -/

namespace Cyclomatic.Number

open Text

/-! ## The grammar -/

/-- Nothing but blanks that may surround a number. -/
def OnlyPadding (cs : List Char) : Prop :=
  ∀ c ∈ cs, isPadding c = true

/-- A sign, and whether it is a minus sign. -/
inductive WritesSign : List Char → Bool → Prop where
  | none : WritesSign [] false
  | plus : WritesSign ['+'] false
  | minus : WritesSign ['-'] true

/-- What may be written after a digit: further digits, of which each may have an underscore before
it. -/
inductive WritesMore : List Char → List Nat → Prop where
  | nil : WritesMore [] []
  | digit {c d cs ds} (hc : digitValue? c = some d) (h : WritesMore cs ds) :
      WritesMore (c :: cs) (d :: ds)
  | underscore {c d cs ds} (hc : digitValue? c = some d) (h : WritesMore cs ds) :
      WritesMore ('_' :: c :: cs) (d :: ds)

/-- Digits, the most significant one first. -/
inductive WritesDigits : List Char → List Nat → Prop where
  | intro {c d cs ds} (hc : digitValue? c = some d) (h : WritesMore cs ds) :
      WritesDigits (c :: cs) (d :: ds)

/-- The value of digits, of which the most significant one comes first. -/
def valueOfDigits (digits : List Nat) : Nat :=
  Nat.ofDigits 10 digits.reverse

/-- A number with its sign. -/
def signed (negative : Bool) (n : Nat) : Int :=
  if negative then -n else n

/-- The integers as they are written. -/
inductive WritesInt : List Char → Int → Prop where
  | intro {front sign body back negative digits} (hfront : OnlyPadding front)
      (hsign : WritesSign sign negative) (hbody : WritesDigits body digits)
      (hfew : digits.length ≤ maxDigits) (hback : OnlyPadding back) :
      WritesInt (front ++ (sign ++ body) ++ back) (signed negative (valueOfDigits digits))

/-- The digits of a floating point number, and how many of them stand after the point. -/
inductive WritesPlain : List Char → List Nat → Nat → Prop where
  | whole {cs ds} (h : WritesDigits cs ds) : WritesPlain cs ds 0
  | point {cs ds} (h : WritesDigits cs ds) : WritesPlain (cs ++ ['.']) ds 0
  | fraction {cs ds} (h : WritesDigits cs ds) : WritesPlain ('.' :: cs) ds ds.length
  | both {cs ds more after} (h : WritesDigits cs ds) (hafter : WritesDigits more after) :
      WritesPlain (cs ++ '.' :: more) (ds ++ after) after.length

/-- The exponent of a floating point number; if there is none, it is zero. -/
inductive WritesExponent : List Char → Int → Prop where
  | none : WritesExponent [] 0
  | some {mark sign body negative digits} (hmark : mark = 'e' ∨ mark = 'E')
      (hsign : WritesSign sign negative) (hbody : WritesDigits body digits) :
      WritesExponent (mark :: (sign ++ body)) (signed negative (valueOfDigits digits))

/-- A floating point number without its sign, given whether there is a minus sign: a word in small
or capital letters, or digits with an exponent. -/
inductive WritesSize (negative : Bool) : List Char → Float → Prop where
  | infinity {word} (h : word.map Char.toLower = "inf".toList ∨
      word.map Char.toLower = "infinity".toList) :
      WritesSize negative word (if negative then -(1.0 / 0.0) else 1.0 / 0.0)
  | undefined {word} (h : word.map Char.toLower = "nan".toList) :
      WritesSize negative word (0.0 / 0.0)
  | decimal {cs digits places power exponent} (h : WritesPlain cs digits places)
      (hpower : WritesExponent power exponent) :
      WritesSize negative (cs ++ power)
        (floatOfDecimal negative (valueOfDigits digits) (exponent - places))

/-- The floating point numbers as they are written. -/
inductive WritesFloat : List Char → Float → Prop where
  | intro {front sign body back negative x} (hfront : OnlyPadding front)
      (hsign : WritesSign sign negative) (hbody : WritesSize negative body x)
      (hback : OnlyPadding back) :
      WritesFloat (front ++ (sign ++ body) ++ back) x

/-! ## Characters -/

/-- The places of the blank characters. -/
def blankPlaces : List Nat := [
  9, 10, 11, 12, 13, 28, 29, 30, 31, 32, 0x85, 0xA0, 0x1680, 0x2000, 0x2001, 0x2002, 0x2003,
  0x2004, 0x2005, 0x2006, 0x2007, 0x2008, 0x2009, 0x200A, 0x2028, 0x2029, 0x202F, 0x205F, 0x3000]

theorem digitValue?_of_isBlank {c : Char} (h : isBlank c = true) : digitValue? c = none := by
  have hplace : c.toNat ∈ blankPlaces := by
    simp only [isBlank, Bool.or_eq_true, Bool.and_eq_true, decide_eq_true_eq, beq_iff_eq] at h
    simp only [blankPlaces, List.mem_cons, List.not_mem_nil, or_false]
    omega
  have hnone : blankPlaces.all (fun n => digitValue? (Char.ofNat n) == none) = true := by decide
  have hc := beq_iff_eq.mp (List.all_eq_true.mp hnone c.toNat hplace)
  rwa [Char.ofNat_toNat] at hc

theorem isPadding_of_digit {c : Char} {d : Nat} (h : digitValue? c = some d) :
    isPadding c = false := by
  cases hblank : isBlank c with
  | true => cases (digitValue?_of_isBlank hblank).symm.trans h
  | false => simp [isPadding, hblank]

theorem isPadding_of_isAlpha {c : Char} (h : c.isAlpha = true) : isPadding c = false := by
  simp [isPadding, isBlank_of_isAlpha h]

theorem digit_ne {c : Char} {d : Nat} (h : digitValue? c = some d) :
    c ≠ '+' ∧ c ≠ '-' ∧ c ≠ '_' ∧ c ≠ '.' := by
  have hne {mark : Char} (hmark : digitValue? mark = none) : c ≠ mark := by
    rintro rfl
    cases hmark.symm.trans h
  exact ⟨hne (by decide), hne (by decide), hne (by decide), hne (by decide)⟩

/-! ## Padding and signs -/

theorem exists_padding (text : List Char) :
    ∃ front back, text = front ++ trimPadding text ++ back ∧ OnlyPadding front ∧
      OnlyPadding back :=
  exists_removed isPadding text

/-- The sign of a text, if it has one, and what follows it. -/
theorem exists_sign (cs : List Char) :
    ∃ sign, WritesSign sign (takeSign cs).1 ∧ cs = sign ++ (takeSign cs).2 := by
  unfold takeSign
  split
  · exact ⟨['+'], .plus, rfl⟩
  · exact ⟨['-'], .minus, rfl⟩
  · exact ⟨[], .none, rfl⟩

theorem takeSign_append {sign body : List Char} {negative : Bool} (h : WritesSign sign negative)
    (hbody : ∀ c ∈ body.head?, c ≠ '+' ∧ c ≠ '-') : takeSign (sign ++ body) = (negative, body) := by
  cases h with
  | plus => rfl
  | minus => rfl
  | none =>
      cases body with
      | nil => rfl
      | cons c rest =>
          obtain ⟨hplus, hminus⟩ := hbody c rfl
          simp [takeSign, hplus, hminus]

/-! ## Digits -/

theorem ofDigits_eq (digits : List Nat) : ofDigits digits = valueOfDigits digits := by
  rw [ofDigits, valueOfDigits, Nat.ofDigits_eq_foldr, List.foldr_reverse]
  congr 1
  funext n d
  simp [Nat.mul_comm, Nat.add_comm]

theorem takeDigitsOnto_spec (done : List Nat) (cs : List Char) (h : done ≠ []) :
    ∃ body ds, WritesMore body ds ∧ cs = body ++ (takeDigitsOnto done cs).2 ∧
      (takeDigitsOnto done cs).1 = done.reverse ++ ds := by
  fun_induction takeDigitsOnto done cs with
  | case1 done => exact ⟨[], [], .nil, rfl, by simp⟩
  | case2 c rest d first others hd ih =>
      obtain ⟨body, ds, hbody, hrest, hds⟩ := ih (by simp)
      refine ⟨'_' :: c :: body, d :: ds, .underscore hd hbody, ?_, ?_⟩
      · simpa using hrest
      · simpa using hds
  | case3 done c rest hnone => exact ⟨[], [], .nil, rfl, by simp⟩
  | case4 done c rest hne d hd ih =>
      obtain ⟨body, ds, hbody, hrest, hds⟩ := ih (by simp)
      refine ⟨c :: body, d :: ds, .digit hd hbody, ?_, ?_⟩
      · simpa using hrest
      · simpa using hds
  | case5 done c rest hne hd => exact ⟨[], [], .nil, rfl, by simp⟩

/-- Digits end before a character that is neither a digit nor an underscore. -/
def EndsDigits (rest : List Char) : Prop :=
  ∀ c ∈ rest.head?, digitValue? c = none ∧ c ≠ '_'

theorem takeDigitsOnto_of_endsDigits {rest : List Char} (h : EndsDigits rest) (done : List Nat) :
    takeDigitsOnto done rest = (done.reverse, rest) := by
  cases rest with
  | nil => rfl
  | cons c rest =>
      obtain ⟨hnone, hne⟩ := h c rfl
      rw [takeDigitsOnto]
      · rw [hnone]
      · exact fun _ _ hc _ => hne hc

theorem takeDigitsOnto_append {body rest : List Char} {ds : List Nat} (h : WritesMore body ds)
    (hrest : EndsDigits rest) {done : List Nat} (hdone : done ≠ []) :
    takeDigitsOnto done (body ++ rest) = (done.reverse ++ ds, rest) := by
  induction h generalizing done with
  | nil => simpa using takeDigitsOnto_of_endsDigits hrest done
  | @digit c d cs ds hc _ ih =>
      have hnext := ih (List.cons_ne_nil d done)
      rw [List.cons_append, takeDigitsOnto]
      · simp only [hc, hnext]
        simp
      · exact fun _ _ hmark _ => (digit_ne hc).2.2.1 hmark
  | @underscore c d cs ds hc _ ih =>
      obtain ⟨first, others, rfl⟩ := List.exists_cons_of_ne_nil hdone
      have hnext := ih (List.cons_ne_nil d (first :: others))
      simp [takeDigitsOnto, hc, hnext]

theorem takeDigits_of_digit {c : Char} {d : Nat} (hc : digitValue? c = some d)
    (rest : List Char) : takeDigits (c :: rest) = takeDigitsOnto [d] rest := by
  rw [takeDigits, takeDigitsOnto]
  · rw [hc]
  · exact fun _ _ hmark _ => (digit_ne hc).2.2.1 hmark

theorem takeDigits_of_not_digit {c : Char} (hc : digitValue? c = none) (rest : List Char) :
    takeDigits (c :: rest) = ([], c :: rest) := by
  by_cases hmark : c = '_'
  · subst hmark
    cases rest with
    | nil => rfl
    | cons next rest => simp [takeDigits, takeDigitsOnto]
  · refine takeDigitsOnto_of_endsDigits ?_ []
    intro first hfirst
    obtain rfl := Option.some.inj hfirst
    exact ⟨hc, hmark⟩

theorem takeDigits_append {body rest : List Char} {ds : List Nat} (h : WritesDigits body ds)
    (hrest : EndsDigits rest) : takeDigits (body ++ rest) = (ds, rest) := by
  obtain ⟨hc, hmore⟩ := h
  rw [List.cons_append, takeDigits_of_digit hc,
    takeDigitsOnto_append hmore hrest (List.cons_ne_nil _ _)]
  rfl

theorem takeDigits_of_writesDigits {body : List Char} {ds : List Nat} (h : WritesDigits body ds) :
    takeDigits body = (ds, []) := by
  have hends : EndsDigits [] := by simp [EndsDigits]
  simpa using takeDigits_append h hends

/-- The digits at the front of a text, if there are any. -/
theorem takeDigits_cases (cs : List Char) :
    takeDigits cs = ([], cs) ∨
      ∃ body, WritesDigits body (takeDigits cs).1 ∧ cs = body ++ (takeDigits cs).2 := by
  cases cs with
  | nil => exact Or.inl rfl
  | cons c rest =>
      cases hc : digitValue? c with
      | none => exact Or.inl (takeDigits_of_not_digit hc rest)
      | some d =>
          rw [takeDigits_of_digit hc]
          obtain ⟨body, ds, hbody, hrest, hds⟩ :=
            takeDigitsOnto_spec [d] rest (List.cons_ne_nil d [])
          refine Or.inr ⟨c :: body, ?_, by rw [List.cons_append, ← hrest]⟩
          rw [hds]
          exact .intro hc hbody

/-! ## The edges of digits -/

theorem WritesDigits.ne_nil {body : List Char} {ds : List Nat} (h : WritesDigits body ds) :
    ds ≠ [] := by
  cases h
  exact List.cons_ne_nil _ _

theorem WritesDigits.body_ne_nil {body : List Char} {ds : List Nat} (h : WritesDigits body ds) :
    body ≠ [] := by
  cases h
  exact List.cons_ne_nil _ _

/-- Digits start with a digit. -/
theorem WritesDigits.head {body : List Char} {ds : List Nat} (h : WritesDigits body ds) :
    ∀ c ∈ body.head?, (digitValue? c).isSome = true := by
  obtain ⟨hc, -⟩ := h
  intro first hfirst
  obtain rfl := Option.some.inj hfirst
  rw [hc]
  rfl

theorem WritesDigits.no_sign {body : List Char} {ds : List Nat} (h : WritesDigits body ds) :
    ∀ c ∈ body.head?, c ≠ '+' ∧ c ≠ '-' := by
  intro c hc
  obtain ⟨d, hd⟩ := Option.isSome_iff_exists.mp (h.head c hc)
  exact ⟨(digit_ne hd).1, (digit_ne hd).2.1⟩

theorem WritesMore.last {body : List Char} {ds : List Nat} (h : WritesMore body ds) :
    ∀ c ∈ body.getLast?, (digitValue? c).isSome = true := by
  induction h with
  | nil => exact nofun
  | @digit c d cs ds hc _ ih =>
      intro last hlast
      cases cs with
      | nil =>
          obtain rfl : c = last := by simpa using hlast
          rw [hc]
          rfl
      | cons next rest => exact ih last (by simpa using hlast)
  | @underscore c d cs ds hc _ ih =>
      intro last hlast
      cases cs with
      | nil =>
          obtain rfl : c = last := by simpa using hlast
          rw [hc]
          rfl
      | cons next rest => exact ih last (by simpa using hlast)

/-- Digits end with a digit. -/
theorem WritesDigits.last {body : List Char} {ds : List Nat} (h : WritesDigits body ds) :
    ∀ c ∈ body.getLast?, (digitValue? c).isSome = true := by
  obtain ⟨hc, hmore⟩ := h
  exact (WritesMore.digit hc hmore).last

theorem isPadding_of_isSome {c : Char} (h : (digitValue? c).isSome = true) :
    isPadding c = false := by
  obtain ⟨d, hd⟩ := Option.isSome_iff_exists.mp h
  exact isPadding_of_digit hd

/-! ## Texts with a sign and padding -/

/-- A text that can stand between a sign and padding: neither a sign nor padding is at its edges. -/
structure Edged (body : List Char) : Prop where
  ne_nil : body ≠ []
  head : ∀ c ∈ body.head?, isPadding c = false ∧ c ≠ '+' ∧ c ≠ '-'
  last : ∀ c ∈ body.getLast?, isPadding c = false

theorem WritesDigits.edged {body : List Char} {ds : List Nat} (h : WritesDigits body ds) :
    Edged body where
  ne_nil := h.body_ne_nil
  head c hc := ⟨isPadding_of_isSome (h.head c hc), h.no_sign c hc⟩
  last c hc := isPadding_of_isSome (h.last c hc)

theorem Edged.takeSign_trimPadding {front sign body back : List Char} {negative : Bool}
    (h : Edged body) (hfront : OnlyPadding front) (hback : OnlyPadding back)
    (hsign : WritesSign sign negative) :
    takeSign (trimPadding (front ++ (sign ++ body) ++ back)) = (negative, body) := by
  have htrim : trimPadding (front ++ (sign ++ body) ++ back) = sign ++ body := by
    refine dropWhileEnd_dropWhile_append hfront hback ?_ ?_
    · cases hsign with
      | none => exact fun c hc => (h.head c hc).1
      | plus =>
          intro c hc
          obtain rfl := Option.some.inj hc
          decide
      | minus =>
          intro c hc
          obtain rfl := Option.some.inj hc
          decide
    · rw [List.getLast?_append_of_ne_nil _ h.ne_nil]
      exact h.last
  rw [htrim, takeSign_append hsign fun c hc => (h.head c hc).2]

/-! ## Integers -/

theorem writesInt_of_readInt {text : String} {n : Int} (h : readInt text = .ok n) :
    WritesInt text.toList n := by
  obtain ⟨front, back, htext, hfront, hback⟩ := exists_padding text.toList
  obtain ⟨sign, hsign, hsigned⟩ := exists_sign (trimPadding text.toList)
  unfold readInt at h
  rw [htext, hsigned]
  generalize takeSign (trimPadding text.toList) = unsigned at h hsign
  obtain ⟨negative, body⟩ := unsigned
  rcases takeDigits_cases body with hnone | ⟨digits, hdigits, hrest⟩
  · simp [hnone] at h
  · dsimp only at h
    split at h
    · cases h
    · split at h
      · cases h
      · rename_i hfew
        split at h
        · cases h
        · rename_i hempty
          obtain rfl := Except.ok.inj h
          have hend : (takeDigits body).2 = [] := by simpa using hempty
          rw [hend, List.append_nil] at hrest
          rw [ofDigits_eq]
          subst hrest
          exact .intro hfront hsign hdigits (Nat.not_lt.mp hfew) hback

theorem readInt_of_writesInt {text : String} {n : Int} (h : WritesInt text.toList n) :
    readInt text = .ok n := by
  generalize htext : text.toList = cs at h
  obtain ⟨hfront, hsign, hbody, hfew, hback⟩ := h
  rename_i front sign body back negative digits
  have hsigned := hbody.edged.takeSign_trimPadding hfront hback hsign
  have hdigits := takeDigits_of_writesDigits hbody
  have hnonempty : digits.isEmpty = false := by simpa using hbody.ne_nil
  simp only [readInt, htext, hsigned, hdigits, hnonempty, ofDigits_eq]
  rw [if_neg (by simp), if_neg (Nat.not_lt.mpr hfew), if_neg (by simp)]
  rfl

/-- The integers that are read are those that are written. -/
theorem readInt_eq_ok_iff {text : String} {n : Int} :
    readInt text = .ok n ↔ WritesInt text.toList n :=
  ⟨writesInt_of_readInt, readInt_of_writesInt⟩

/-! ## Exponents -/

theorem takeExponent?_eq_some_iff {cs : List Char} {exponent : Int} :
    takeExponent? cs = some (exponent, []) ↔ WritesExponent cs exponent := by
  constructor
  · intro h
    cases cs with
    | nil =>
        obtain rfl := (Prod.mk.inj (Option.some.inj h)).1
        exact .none
    | cons c rest =>
        rw [takeExponent?] at h
        split at h
        · rename_i hmark
          obtain ⟨sign, hsign, hsigned⟩ := exists_sign rest
          rw [hsigned]
          generalize takeSign rest = unsigned at h hsign
          obtain ⟨negative, body⟩ := unsigned
          rcases takeDigits_cases body with hnone | ⟨digits, hdigits, hrest⟩
          · simp [hnone] at h
          · dsimp only at h
            split at h
            · cases h
            · rename_i ds after _ htake
              obtain ⟨hvalue, rfl⟩ := Prod.mk.inj (Option.some.inj h)
              rw [htake] at hdigits hrest
              rw [← hvalue, ofDigits_eq, hrest, List.append_nil]
              exact .some (by simpa using hmark) hsign hdigits
        · cases h
  · intro h
    cases h with
    | none => rfl
    | some hmark hsign hbody =>
        have hdigits := takeDigits_of_writesDigits hbody
        obtain ⟨d, ds, rfl⟩ := List.exists_cons_of_ne_nil hbody.ne_nil
        rw [takeExponent?, if_pos (by simpa using hmark), takeSign_append hsign hbody.no_sign]
        simp only [hdigits, ofDigits_eq]
        rfl

/-- An exponent starts with its mark. -/
theorem WritesExponent.head {power : List Char} {exponent : Int}
    (h : WritesExponent power exponent) : ∀ c ∈ power.head?, c = 'e' ∨ c = 'E' := by
  cases h with
  | none => exact nofun
  | some hmark =>
      intro c hc
      obtain rfl := Option.some.inj hc
      exact hmark

theorem WritesExponent.endsDigits {power : List Char} {exponent : Int}
    (h : WritesExponent power exponent) : EndsDigits power := by
  intro c hc
  rcases h.head c hc with rfl | rfl <;> exact ⟨by decide, by decide⟩

theorem WritesExponent.last {power : List Char} {exponent : Int}
    (h : WritesExponent power exponent) :
    ∀ c ∈ power.getLast?, (digitValue? c).isSome = true := by
  cases h with
  | none => exact nofun
  | @some mark sign body _ _ _ _ hbody =>
      intro c hc
      rw [← List.cons_append, List.getLast?_append_of_ne_nil _ hbody.body_ne_nil] at hc
      exact hbody.last c hc

/-! ## Digits with a point -/

theorem takePlain_cases (cs : List Char) :
    ((takePlain cs).1 = [] ∧ (takePlain cs).2.1 = []) ∨
      ∃ front, WritesPlain front ((takePlain cs).1 ++ (takePlain cs).2.1)
        (takePlain cs).2.1.length ∧ cs = front ++ (takePlain cs).2.2 := by
  unfold takePlain
  rcases takeDigits_cases cs with hnone | ⟨body, hbody, hrest⟩
  · rw [hnone]
    dsimp only
    split
    · rename_i after
      rcases takeDigits_cases after with hempty | ⟨more, hmore, hafter⟩
      · rw [hempty]
        exact Or.inl ⟨rfl, rfl⟩
      · refine Or.inr ⟨'.' :: more, .fraction hmore, ?_⟩
        rw [List.cons_append, ← hafter]
    · exact Or.inl ⟨rfl, rfl⟩
  · generalize takeDigits cs = taken at hbody hrest
    obtain ⟨ds, rest⟩ := taken
    subst hrest
    dsimp only
    split
    · rename_i after
      rcases takeDigits_cases after with hempty | ⟨more, hmore, hafter⟩
      · rw [hempty]
        refine Or.inr ⟨body ++ ['.'], ?_, by simp⟩
        rw [List.append_nil]
        exact .point hbody
      · refine Or.inr ⟨body ++ '.' :: more, .both hbody hmore, ?_⟩
        rw [List.append_assoc, List.cons_append, ← hafter]
    · refine Or.inr ⟨body, ?_, rfl⟩
      rw [List.append_nil]
      exact .whole hbody

theorem endsDigits_point (rest : List Char) : EndsDigits ('.' :: rest) := by
  intro c hc
  obtain rfl := Option.some.inj hc
  exact ⟨by decide, by decide⟩

theorem takePlain_append {front power : List Char} {digits : List Nat} {places : Nat}
    {exponent : Int} (h : WritesPlain front digits places)
    (hpower : WritesExponent power exponent) :
    ∃ whole fraction, takePlain (front ++ power) = (whole, fraction, power) ∧
      whole ++ fraction = digits ∧ fraction.length = places := by
  have hends := hpower.endsDigits
  have hpoint : ∀ after, power ≠ '.' :: after := by
    rintro after rfl
    rcases hpower.head '.' rfl with hmark | hmark <;> exact absurd hmark (by decide)
  have hnone : takeDigits power = ([], power) := by
    cases power with
    | nil => rfl
    | cons c rest => exact takeDigits_of_not_digit (hends c rfl).1 rest
  unfold takePlain
  cases h with
  | whole h =>
      refine ⟨digits, [], ?_, List.append_nil _, rfl⟩
      rw [takeDigits_append h hends]
      dsimp only
      split
      · exact absurd rfl (hpoint _)
      · rfl
  | @point cs _ h =>
      refine ⟨digits, [], ?_, List.append_nil _, rfl⟩
      rw [List.append_assoc, List.singleton_append, takeDigits_append h (endsDigits_point power)]
      simp only [hnone]
  | fraction h =>
      refine ⟨[], digits, ?_, rfl, rfl⟩
      rw [List.cons_append, takeDigits_of_not_digit (by decide)]
      simp only [takeDigits_append h hends]
  | @both cs ds more after h hafter =>
      refine ⟨ds, after, ?_, rfl, rfl⟩
      rw [List.append_assoc, List.cons_append, takeDigits_append h (endsDigits_point _)]
      simp only [takeDigits_append hafter hends]

/-! ## Words -/

theorem isAlpha_of_digit {c : Char} {d : Nat} (h : digitValue? c = some d) :
    c.isAlpha = false := by
  rw [Bool.eq_false_iff]
  intro halpha
  have hbounds := toNat_bounds_of_isAlpha halpha
  have hdigit : c.isDigit = false := by
    rw [Bool.eq_false_iff, Ne, Char.isDigit_iff_toNat]
    simp only [Char.reduceToNat]
    omega
  have hascii : c.toNat < 128 := by omega
  simp [digitValue?, hascii, hdigit] at h

/-- The words consist of letters. -/
theorem isAlpha_of_word {word other : List Char} (h : word.map Char.toLower = other)
    (hother : other.all Char.isAlpha = true) : ∀ c ∈ word, c.isAlpha = true := by
  intro c hc
  rw [← Char.isAlpha_toLower_eq_isAlpha]
  exact List.all_eq_true.mp hother c.toLower (h ▸ List.mem_map_of_mem hc)

theorem specialFloat?_eq_some_iff {negative : Bool} {word : List Char} {x : Float} :
    specialFloat? negative word = some x ↔
      (word.map Char.toLower = "inf".toList ∨ word.map Char.toLower = "infinity".toList) ∧
          x = (if negative then -(1.0 / 0.0) else 1.0 / 0.0) ∨
        word.map Char.toLower = "nan".toList ∧ x = 0.0 / 0.0 := by
  have hiff (s : String) : String.ofList (word.map Char.toLower) = s ↔
      word.map Char.toLower = s.toList := by
    rw [← String.toList_inj, String.toList_ofList]
  unfold specialFloat?
  simp only [← hiff]
  split
  · rename_i hword
    simp [hword, eq_comm]
  · rename_i hword
    simp [hword, eq_comm]
  · rename_i hword
    simp [hword, eq_comm]
  · rename_i hinf hinfinity hnan
    refine iff_of_false (by simp) ?_
    rintro (⟨hword | hword, -⟩ | ⟨hword, -⟩)
    · exact hinf hword
    · exact hinfinity hword
    · exact hnan hword

/-! ## Floating point numbers -/

/-- A character of digits with a point. -/
def IsPlain (c : Char) : Prop :=
  (digitValue? c).isSome = true ∨ c = '.'

theorem IsPlain.isPadding_eq {c : Char} (h : IsPlain c) : isPadding c = false := by
  rcases h with h | rfl
  · exact isPadding_of_isSome h
  · decide

theorem IsPlain.isAlpha_eq {c : Char} (h : IsPlain c) : c.isAlpha = false := by
  rcases h with h | rfl
  · obtain ⟨d, hd⟩ := Option.isSome_iff_exists.mp h
    exact isAlpha_of_digit hd
  · decide

theorem IsPlain.no_sign {c : Char} (h : IsPlain c) : c ≠ '+' ∧ c ≠ '-' := by
  rcases h with h | rfl
  · obtain ⟨d, hd⟩ := Option.isSome_iff_exists.mp h
    exact ⟨(digit_ne hd).1, (digit_ne hd).2.1⟩
  · decide

/-- Digits with a point start with one of them. -/
theorem WritesPlain.head {cs : List Char} {digits : List Nat} {places : Nat}
    (h : WritesPlain cs digits places) : ∃ c rest, cs = c :: rest ∧ IsPlain c := by
  cases h with
  | whole h =>
      obtain ⟨hc, -⟩ := h
      exact ⟨_, _, rfl, Or.inl (by rw [hc]; rfl)⟩
  | point h =>
      obtain ⟨hc, -⟩ := h
      exact ⟨_, _, rfl, Or.inl (by rw [hc]; rfl)⟩
  | fraction => exact ⟨_, _, rfl, Or.inr rfl⟩
  | both h =>
      obtain ⟨hc, -⟩ := h
      exact ⟨_, _, rfl, Or.inl (by rw [hc]; rfl)⟩

theorem WritesPlain.ne_nil {cs : List Char} {digits : List Nat} {places : Nat}
    (h : WritesPlain cs digits places) : digits ≠ [] := by
  cases h with
  | whole h => exact h.ne_nil
  | point h => exact h.ne_nil
  | fraction h => exact h.ne_nil
  | both h => exact List.append_ne_nil_of_left_ne_nil h.ne_nil _

/-- Digits with a point end with one of them. -/
theorem WritesPlain.last {cs : List Char} {digits : List Nat} {places : Nat}
    (h : WritesPlain cs digits places) : ∀ c ∈ cs.getLast?, IsPlain c := by
  intro c hc
  cases h with
  | whole h => exact Or.inl (h.last c hc)
  | point h =>
      rw [List.getLast?_concat] at hc
      exact Or.inr (Option.some.inj hc).symm
  | @fraction more _ h =>
      rw [← List.singleton_append, List.getLast?_append_of_ne_nil _ h.body_ne_nil] at hc
      exact Or.inl (h.last c hc)
  | @both front _ more _ _ h =>
      rw [← List.singleton_append, ← List.append_assoc,
        List.getLast?_append_of_ne_nil _ h.body_ne_nil] at hc
      exact Or.inl (h.last c hc)

theorem edged_of_isAlpha {word : List Char} (hne : word ≠ [])
    (h : ∀ c ∈ word, c.isAlpha = true) : Edged word where
  ne_nil := hne
  head c hc := by
    have halpha := h c (List.mem_of_mem_head? hc)
    refine ⟨isPadding_of_isAlpha halpha, ?_, ?_⟩
    · rintro rfl
      cases halpha
    · rintro rfl
      cases halpha
  last c hc := isPadding_of_isAlpha (h c (List.mem_of_getLast? hc))

theorem edged_of_word {word other : List Char} (h : word.map Char.toLower = other)
    (hne : other ≠ []) (hother : other.all Char.isAlpha = true) : Edged word := by
  refine edged_of_isAlpha ?_ (isAlpha_of_word h hother)
  rintro rfl
  exact hne h.symm

theorem WritesSize.edged {negative : Bool} {body : List Char} {x : Float}
    (h : WritesSize negative body x) : Edged body := by
  cases h with
  | infinity h =>
      rcases h with h | h
      · exact edged_of_word h (by decide) (by decide)
      · exact edged_of_word h (by decide) (by decide)
  | undefined h => exact edged_of_word h (by decide) (by decide)
  | @decimal cs digits places power exponent h hpower =>
      obtain ⟨c, rest, rfl, hc⟩ := h.head
      refine ⟨List.cons_ne_nil _ _, ?_, ?_⟩
      · intro first hfirst
        obtain rfl := Option.some.inj hfirst
        exact ⟨hc.isPadding_eq, hc.no_sign⟩
      · intro last hlast
        rw [List.getLast?_append] at hlast
        rcases Option.or_eq_some_iff.mp hlast with hlast | ⟨-, hlast⟩
        · exact isPadding_of_isSome (hpower.last last hlast)
        · exact (h.last last hlast).isPadding_eq

theorem writesFloat_of_readFloat {text : String} {x : Float} (h : readFloat text = .ok x) :
    WritesFloat text.toList x := by
  obtain ⟨front, back, htext, hfront, hback⟩ := exists_padding text.toList
  obtain ⟨sign, hsign, hsigned⟩ := exists_sign (trimPadding text.toList)
  unfold readFloat at h
  rw [htext, hsigned]
  generalize takeSign (trimPadding text.toList) = unsigned at h hsign
  obtain ⟨negative, body⟩ := unsigned
  refine .intro hfront hsign ?_ hback
  dsimp only at h
  split at h
  · rename_i value hspecial
    obtain rfl := Except.ok.inj h
    rcases specialFloat?_eq_some_iff.mp hspecial with ⟨hword, rfl⟩ | ⟨hword, rfl⟩
    · exact .infinity hword
    · exact .undefined hword
  · have hcases := takePlain_cases body
    generalize takePlain body = parts at h hcases
    obtain ⟨whole, fraction, rest⟩ := parts
    dsimp only at h hcases
    split at h
    · rename_i exponent hexponent
      split at h
      · cases h
      · rename_i hdigits
        obtain rfl := Except.ok.inj h
        rcases hcases with ⟨rfl, rfl⟩ | ⟨plain, hplain, rfl⟩
        · exact absurd rfl hdigits
        · rw [ofDigits_eq]
          exact .decimal hplain (takeExponent?_eq_some_iff.mp hexponent)
    · cases h

theorem specialFloat?_decimal {negative : Bool} {cs power : List Char} {digits : List Nat}
    {places : Nat} (h : WritesPlain cs digits places) :
    specialFloat? negative (cs ++ power) = none := by
  obtain ⟨c, rest, rfl, hc⟩ := h.head
  have hno {other : List Char} (hother : other.all Char.isAlpha = true) :
      (c :: rest ++ power).map Char.toLower ≠ other := by
    intro hword
    cases hc.isAlpha_eq.symm.trans (isAlpha_of_word hword hother c (by simp))
  cases hspecial : specialFloat? negative (c :: rest ++ power) with
  | none => rfl
  | some x =>
      rcases specialFloat?_eq_some_iff.mp hspecial with ⟨hword | hword, -⟩ | ⟨hword, -⟩
      · exact absurd hword (hno (by decide))
      · exact absurd hword (hno (by decide))
      · exact absurd hword (hno (by decide))

theorem readFloat_of_writesFloat {text : String} {x : Float} (h : WritesFloat text.toList x) :
    readFloat text = .ok x := by
  generalize htext : text.toList = cs at h
  obtain ⟨hfront, hsign, hbody, hback⟩ := h
  have hsigned := hbody.edged.takeSign_trimPadding hfront hback hsign
  simp only [readFloat, htext, hsigned]
  cases hbody with
  | infinity h => rw [specialFloat?_eq_some_iff.mpr (Or.inl ⟨h, rfl⟩)]
  | undefined h => rw [specialFloat?_eq_some_iff.mpr (Or.inr ⟨h, rfl⟩)]
  | decimal h hpower =>
      obtain ⟨whole, fraction, hplain, rfl, rfl⟩ := takePlain_append h hpower
      have hdigits : (whole.isEmpty && fraction.isEmpty) = false := by
        have hne := h.ne_nil
        cases whole <;> simp_all
      rw [specialFloat?_decimal h]
      simp only [hplain, takeExponent?_eq_some_iff.mpr hpower, hdigits, ofDigits_eq]
      rfl

/-- The floating point numbers that are read are those that are written. -/
theorem readFloat_eq_ok_iff {text : String} {x : Float} :
    readFloat text = .ok x ↔ WritesFloat text.toList x :=
  ⟨writesFloat_of_readFloat, readFloat_of_writesFloat⟩

end Cyclomatic.Number
