import Cyclomatic.Proofs.Text.Utf8
import Mathlib.Data.List.Infix

/-! # Bytes that are no text

Where bytes start with no character, the longest part with which a character could start is read as
one replacement character, and a byte with which none starts is read as one by itself. These rules
leave no choice, and decoding follows them. -/

namespace Cyclomatic.Text

/-! ## Parts of characters -/

/-- Bytes with which the encoding of a character starts. -/
def StartsChar (part : List UInt8) : Prop :=
  ∃ c, part <+: String.utf8EncodeChar c

/-- A part of ill-formed bytes that is as long as possible: no character stands at the front of the
bytes, and the part is the longest one with which a character could start, or else one byte. -/
structure MaximalPart (part rest : List UInt8) : Prop where
  illFormed : ∀ c, ¬ String.utf8EncodeChar c <+: part ++ rest
  nonempty : part ≠ []
  starts : StartsChar part ∨ part.length = 1
  longest : ∀ longer, longer <+: part ++ rest → StartsChar longer → longer.length ≤ part.length

/-- Bytes and the text that is read from them, with one replacement character for each maximal
ill-formed part. -/
inductive Decodes : List UInt8 → List Char → Prop where
  | nil : Decodes [] []
  | char (c) {rest text} (h : Decodes rest text) :
      Decodes (String.utf8EncodeChar c ++ rest) (c :: text)
  | illFormed {part rest text} (hpart : MaximalPart part rest) (h : Decodes rest text) :
      Decodes (part ++ rest) (replacementChar :: text)

/-- Bytes that may follow the first byte of a character that has `more` further bytes, of which the
first lies between `least` and `greatest`. -/
def Fits (least greatest : Nat) : Nat → List UInt8 → Prop
  | _, [] => True
  | 0, _ :: _ => False
  | more + 1, b :: part => (least ≤ b.toNat ∧ b.toNat ≤ greatest) ∧ Fits 0x80 0xBF more part

theorem Fits.nil (least greatest more : Nat) : Fits least greatest more [] := by
  cases more <;> trivial

theorem Fits.of_isPrefix {least greatest more : Nat} {part longer : List UInt8}
    (h : Fits least greatest more longer) (hp : part <+: longer) :
    Fits least greatest more part := by
  induction longer generalizing least greatest more part with
  | nil =>
      obtain rfl := List.prefix_nil.mp hp
      exact h
  | cons b longer ih =>
      cases part with
      | nil => exact .nil least greatest more
      | cons d part =>
          obtain ⟨rfl, htail⟩ := List.cons_prefix_cons.mp hp
          cases more with
          | zero => exact h
          | succ more => exact ⟨h.1, ih h.2 htail⟩

/-- What fits can be completed. -/
theorem Fits.exists_append {least greatest more : Nat} {part : List UInt8}
    (h : Fits least greatest more part) (hle : least ≤ greatest) (hg : greatest < 256) :
    ∃ tail, Fits least greatest more (part ++ tail) ∧ (part ++ tail).length = more := by
  induction more generalizing least greatest part with
  | zero =>
      cases part with
      | nil => exact ⟨[], trivial, rfl⟩
      | cons b part => exact h.elim
  | succ more ih =>
      cases part with
      | nil =>
          obtain ⟨tail, hfits, hlength⟩ := ih (.nil 0x80 0xBF more) (by decide) (by decide)
          refine ⟨UInt8.ofNat least :: tail, ⟨?_, hfits⟩, by simpa using hlength⟩
          rw [toNat_ofNat_byte (by omega)]
          exact ⟨Nat.le_refl _, hle⟩
      | cons b part =>
          obtain ⟨tail, hfits, hlength⟩ := ih h.2 (by decide) (by decide)
          exact ⟨tail, ⟨h.1, hfits⟩, by simpa using hlength⟩

/-- As many bytes are read as fit. The part is ill-formed unless they are all that is missing. -/
theorem readTail_takes (count bits least greatest more : Nat) (rest : List UInt8) :
    ∃ tail, rest = tail ++ (readTail count bits least greatest more rest).2.2 ∧
      Fits least greatest more tail ∧
      (∀ longer, longer <+: rest → Fits least greatest more longer →
        longer.length ≤ tail.length) ∧
      (tail.length = more ∨
        ∃ fault, (readTail count bits least greatest more rest).1 = .invalid fault) := by
  induction rest generalizing count bits least greatest more with
  | nil =>
      refine ⟨[], ?_, ?_, ?_, ?_⟩ <;> cases more <;> simp [readTail, Fits]
  | cons b rest ih =>
      cases more with
      | zero =>
          refine ⟨[], rfl, trivial, ?_, Or.inl rfl⟩
          rintro (_ | ⟨d, longer⟩) - hfits
          · exact Nat.le_refl _
          · exact hfits.elim
      | succ more =>
          by_cases hb : least ≤ b.toNat ∧ b.toNat ≤ greatest
          · obtain ⟨tail, hrest, hfits, hlongest, hend⟩ :=
              ih (count + 1) (bits * 64 + (b.toNat - 0x80)) 0x80 0xBF more
            rw [readTail, if_pos (by simpa using hb)]
            refine ⟨b :: tail, by rw [List.cons_append, ← hrest], ⟨hb, hfits⟩, ?_, ?_⟩
            · rintro (_ | ⟨d, longer⟩) hp hl
              · simp
              · obtain ⟨rfl, htail⟩ := List.cons_prefix_cons.mp hp
                exact Nat.succ_le_succ (hlongest longer htail hl.2)
            · exact hend.imp (congrArg (· + 1)) id
          · rw [readTail, if_neg (by simpa using hb)]
            refine ⟨[], rfl, trivial, ?_, Or.inr ⟨_, rfl⟩⟩
            rintro (_ | ⟨d, longer⟩) hp hl
            · exact Nat.le_refl _
            · obtain ⟨rfl, -⟩ := List.cons_prefix_cons.mp hp
              exact absurd hl.1 hb

/-! ## First bytes -/

/-- What a first byte says: how many bytes follow, and where the second lies. Four of the first
bytes have tighter bounds. -/
theorem Lead.ofByte?_cases {b : Nat} {lead : Lead} (h : Lead.ofByte? b = some lead) :
    (0x80 ≤ lead.least ∧ lead.least ≤ lead.greatest ∧ lead.greatest ≤ 0xBF) ∧
      (lead.more = 1 ∧ 0xC2 ≤ b ∧ b ≤ 0xDF ∨
        lead.more = 2 ∧ 0xE0 ≤ b ∧ b ≤ 0xEF ∧ (b = 0xE0 → 0xA0 ≤ lead.least) ∧
          (b = 0xED → lead.greatest ≤ 0x9F) ∨
        lead.more = 3 ∧ 0xF0 ≤ b ∧ b ≤ 0xF4 ∧ (b = 0xF0 → 0x90 ≤ lead.least) ∧
          (b = 0xF4 → lead.greatest ≤ 0x8F)) := by
  unfold Lead.ofByte? at h
  simp only [Bool.and_eq_true, decide_eq_true_eq, beq_iff_eq] at h
  split_ifs at h <;> cases h <;> simp <;> omega

theorem ofNat_eq_byte {n : Nat} {b : UInt8} (h : n = b.toNat) : UInt8.ofNat n = b := by
  rw [h, UInt8.ofNat_toNat]

theorem exists_char_of_isValidChar {n : Nat} (h : n.isValidChar) : ∃ c : Char, c.val.toNat = n :=
  ⟨Char.ofNatAux n h, rfl⟩

/-- An ASCII character is one byte. -/
theorem utf8EncodeChar_ascii {b : UInt8} (hb : b.toNat < 0x80) :
    String.utf8EncodeChar (Char.ofNat b.toNat) = [b] := by
  obtain ⟨c, hc⟩ := exists_char_of_isValidChar (n := b.toNat) (Or.inl (by omega))
  have hsame : Char.ofNat b.toNat = c := hc ▸ Char.ofNat_toNat c
  rw [hsame, String.utf8EncodeChar, hc]
  simp [show b.toNat ≤ 127 by omega]

/-- All that is missing of a character makes it up. -/
theorem exists_char_of_fits {b : UInt8} {lead : Lead} {tail : List UInt8}
    (hlead : Lead.ofByte? b.toNat = some lead)
    (hfits : Fits lead.least lead.greatest lead.more tail) (hlength : tail.length = lead.more) :
    ∃ c, String.utf8EncodeChar c = b :: tail := by
  obtain ⟨hbounds, ⟨hmore, hb⟩ | ⟨hmore, hb⟩ | ⟨hmore, hb⟩⟩ := Lead.ofByte?_cases hlead
  · rw [hmore] at hfits hlength
    obtain ⟨x, rfl⟩ := List.length_eq_one_iff.mp hlength
    obtain ⟨hx, -⟩ := hfits
    obtain ⟨c, hc⟩ := exists_char_of_isValidChar (n := (b.toNat - 0xC0) * 64 + (x.toNat - 0x80))
      (by unfold Nat.isValidChar; omega)
    refine ⟨c, ?_⟩
    rw [String.utf8EncodeChar, hc]
    rw [if_neg (by omega), if_pos (by omega), ofNat_eq_byte (b := b) (by omega),
      ofNat_eq_byte (b := x) (by omega)]
  · rw [hmore] at hfits hlength
    obtain ⟨x, y, rfl⟩ := List.length_eq_two.mp hlength
    obtain ⟨hx, hy, -⟩ := hfits
    obtain ⟨c, hc⟩ := exists_char_of_isValidChar
      (n := ((b.toNat - 0xE0) * 64 + (x.toNat - 0x80)) * 64 + (y.toNat - 0x80))
      (by unfold Nat.isValidChar; omega)
    refine ⟨c, ?_⟩
    rw [String.utf8EncodeChar, hc]
    rw [if_neg (by omega), if_neg (by omega), if_pos (by omega), ofNat_eq_byte (b := b) (by omega),
      ofNat_eq_byte (b := x) (by omega), ofNat_eq_byte (b := y) (by omega)]
  · rw [hmore] at hfits hlength
    obtain ⟨x, y, z, rfl⟩ := List.length_eq_three.mp hlength
    obtain ⟨hx, hy, hz, -⟩ := hfits
    obtain ⟨c, hc⟩ := exists_char_of_isValidChar
      (n := (((b.toNat - 0xF0) * 64 + (x.toNat - 0x80)) * 64 + (y.toNat - 0x80)) * 64 +
        (z.toNat - 0x80))
      (by unfold Nat.isValidChar; omega)
    refine ⟨c, ?_⟩
    rw [String.utf8EncodeChar, hc]
    rw [if_neg (by omega), if_neg (by omega), if_neg (by omega), ofNat_eq_byte (b := b) (by omega),
      ofNat_eq_byte (b := x) (by omega), ofNat_eq_byte (b := y) (by omega),
      ofNat_eq_byte (b := z) (by omega)]

/-- A character has one byte, or a first byte and as many further ones as it says. -/
theorem utf8EncodeChar_cases {c : Char} {b : UInt8} {tail : List UInt8}
    (h : String.utf8EncodeChar c = b :: tail) :
    (b.toNat < 0x80 ∧ tail = []) ∨
      ∃ lead, Lead.ofByte? b.toNat = some lead ∧
        Fits lead.least lead.greatest lead.more tail ∧ tail.length = lead.more := by
  have hvalid : c.val.toNat < 0xD800 ∨ 0xDFFF < c.val.toNat ∧ c.val.toNat < 0x110000 := c.valid
  have hinner (n : Nat) : 0x80 ≤ (UInt8.ofNat (n % 64 + 128)).toNat ∧
      (UInt8.ofNat (n % 64 + 128)).toNat ≤ 0xBF := by
    rw [toNat_ofNat_byte (by omega)]
    omega
  unfold String.utf8EncodeChar at h
  generalize c.val.toNat = n at hvalid h
  by_cases h1 : n ≤ 127
  · simp only [h1, if_true, List.cons.injEq] at h
    obtain ⟨rfl, rfl⟩ := h
    rw [toNat_ofNat_byte (by omega)]
    exact Or.inl ⟨by omega, rfl⟩
  · refine Or.inr ?_
    by_cases h2 : n ≤ 2047
    · simp only [h1, h2, if_true, if_false, List.cons.injEq] at h
      obtain ⟨rfl, rfl⟩ := h
      rw [toNat_ofNat_byte (by omega)]
      exact ⟨_, Lead.ofByte?_two (by omega) h2, ⟨hinner n, trivial⟩, rfl⟩
    · by_cases h3 : n ≤ 65535
      · simp only [h1, h2, h3, if_true, if_false, List.cons.injEq] at h
        obtain ⟨rfl, rfl⟩ := h
        rw [toNat_ofNat_byte (by omega)]
        obtain ⟨least, greatest, hlead, hbounds⟩ :=
          Lead.ofByte?_three (by omega) h3 (by omega : n < 0xD800 ∨ 0xDFFF < n)
        refine ⟨_, hlead, ⟨?_, hinner n, trivial⟩, rfl⟩
        rwa [toNat_ofNat_byte (by omega)]
      · simp only [h1, h2, h3, if_false, List.cons.injEq] at h
        obtain ⟨rfl, rfl⟩ := h
        rw [toNat_ofNat_byte (by omega)]
        obtain ⟨least, greatest, hlead, hbounds⟩ :=
          Lead.ofByte?_four (by omega : 65535 < n) (by omega)
        refine ⟨_, hlead, ⟨?_, hinner (n / 64), hinner n, trivial⟩, rfl⟩
        rwa [toNat_ofNat_byte (by omega)]

/-! ## Reading one part -/

theorem startsChar_cons_iff {b : UInt8} {lead : Lead} (hlead : Lead.ofByte? b.toNat = some lead)
    (tail : List UInt8) :
    StartsChar (b :: tail) ↔ Fits lead.least lead.greatest lead.more tail := by
  constructor
  · rintro ⟨c, hc⟩
    obtain ⟨full, hfull, hp⟩ := List.cons_prefix_iff.mp hc
    rcases utf8EncodeChar_cases hfull with ⟨hb, -⟩ | ⟨other, hother, hfits, -⟩
    · have hcases := (Lead.ofByte?_cases hlead).2
      omega
    · obtain rfl : lead = other := Option.some.inj (hlead.symm.trans hother)
      exact hfits.of_isPrefix hp
  · intro hfits
    obtain ⟨⟨-, hle, hg⟩, -⟩ := Lead.ofByte?_cases hlead
    obtain ⟨more, hfull, hlength⟩ := hfits.exists_append hle (by omega)
    obtain ⟨c, hc⟩ := exists_char_of_fits hlead hfull hlength
    exact ⟨c, hc ▸ List.prefix_append (b :: tail) more⟩

theorem not_startsChar_cons {b : UInt8} (hb : 0x80 ≤ b.toNat)
    (hlead : Lead.ofByte? b.toNat = none) (tail : List UInt8) : ¬ StartsChar (b :: tail) := by
  rintro ⟨c, hc⟩
  obtain ⟨full, hfull, -⟩ := List.cons_prefix_iff.mp hc
  rcases utf8EncodeChar_cases hfull with ⟨hlt, -⟩ | ⟨lead, hsome, -⟩
  · omega
  · cases hlead.symm.trans hsome

/-- Where no character stands, a maximal ill-formed part is read. -/
theorem readPiece_illFormed {b : UInt8} {rest : List UInt8}
    (h : ∀ c, ¬ String.utf8EncodeChar c <+: b :: rest) :
    ∃ part fault, b :: rest = part ++ (readPiece b rest).2.2 ∧
      (readPiece b rest).1 = .invalid fault ∧ MaximalPart part (readPiece b rest).2.2 := by
  have hb : ¬ b.toNat < 0x80 := by
    intro hlt
    refine h (Char.ofNat b.toNat) ?_
    rw [utf8EncodeChar_ascii hlt]
    exact List.prefix_append [b] rest
  unfold readPiece
  rw [if_neg hb]
  cases hlead : Lead.ofByte? b.toNat with
  | none =>
      refine ⟨[b], .badStart, rfl, rfl, h, by simp, Or.inr rfl, ?_⟩
      rintro (_ | ⟨d, longer⟩) hp hstarts
      · simp
      · obtain ⟨rfl, -⟩ := List.cons_prefix_cons.mp hp
        exact absurd hstarts (not_startsChar_cons (by omega) hlead longer)
  | some lead =>
      obtain ⟨tail, hrest, hfits, hlongest, hend⟩ :=
        readTail_takes 1 lead.bits lead.least lead.greatest lead.more rest
      have hsplit : b :: rest =
          (b :: tail) ++ (readTail 1 lead.bits lead.least lead.greatest lead.more rest).2.2 := by
        rw [List.cons_append, ← hrest]
      obtain hfull | ⟨fault, hfault⟩ := hend
      · obtain ⟨c, hc⟩ := exists_char_of_fits hlead hfits hfull
        refine absurd ?_ (h c)
        rw [hc, hsplit]
        exact List.prefix_append _ _
      · refine ⟨b :: tail, fault, hsplit, hfault, hsplit ▸ h, by simp,
          Or.inl ((startsChar_cons_iff hlead tail).mpr hfits), ?_⟩
        rw [← hsplit]
        rintro (_ | ⟨d, longer⟩) hp hstarts
        · simp
        · obtain ⟨rfl, htail⟩ := List.cons_prefix_cons.mp hp
          have hlonger := (startsChar_cons_iff hlead longer).mp hstarts
          exact Nat.succ_le_succ (hlongest longer htail hlonger)

/-! ## The text -/

theorem decodeOnto_append (done more : List Char) (bytes : List UInt8) :
    decodeOnto (done ++ more) bytes = more.reverse ++ decodeOnto done bytes := by
  fun_induction decodeOnto done bytes with
  | case1 done => rw [decodeOnto, List.reverse_append]
  | case2 done b rest piece c hc ih =>
      simp only [piece] at hc
      rw [decodeOnto]
      simp only [hc]
      exact ih
  | case3 done b rest piece fault hfault ih =>
      simp only [piece] at hfault
      rw [decodeOnto]
      simp only [hfault]
      exact ih

theorem decodeOnto_nil (done : List Char) (bytes : List UInt8) :
    decodeOnto done bytes = done.reverse ++ decode bytes :=
  decodeOnto_append [] done bytes

theorem decode_nil : decode [] = [] := by
  rw [decode, decodeOnto, List.reverse_nil]

theorem decode_char (c : Char) (rest : List UInt8) :
    decode (String.utf8EncodeChar c ++ rest) = c :: decode rest := by
  rw [decode, decodeOnto_utf8EncodeChar, decodeOnto_nil]
  rfl

theorem MaximalPart.unique {part other rest back : List UInt8} (h : MaximalPart part rest)
    (ho : MaximalPart other back) (heq : part ++ rest = other ++ back) :
    part = other ∧ rest = back := by
  -- Each is as long as the other unless it is a single byte, and neither is empty.
  have hle {front others front' others' : List UInt8} (hf : MaximalPart front others)
      (hf' : MaximalPart front' others') (hsame : front ++ others = front' ++ others') :
      front.length ≤ front'.length := by
    rcases hf.starts with hs | hone
    · exact hf'.longest front (hsame ▸ List.prefix_append front others) hs
    · have hpos := List.length_pos_iff.mpr hf'.nonempty
      omega
  exact List.append_inj heq (Nat.le_antisymm (hle h ho heq) (hle ho h heq.symm))

theorem decode_maximalPart {part rest : List UInt8} (h : MaximalPart part rest) :
    decode (part ++ rest) = replacementChar :: decode rest := by
  obtain ⟨b, tail, rfl⟩ := List.exists_cons_of_ne_nil h.nonempty
  have hnone : ∀ c, ¬ String.utf8EncodeChar c <+: b :: (tail ++ rest) := h.illFormed
  obtain ⟨other, fault, hsplit, hfault, hother⟩ := readPiece_illFormed hnone
  obtain ⟨-, hrest⟩ := h.unique hother hsplit
  rw [decode, List.cons_append, decodeOnto]
  simp only [hfault]
  rw [← hrest, decodeOnto_nil]
  rfl

/-- Decoding gives the text that its rules give, and no other. -/
theorem decodes_iff {bytes : List UInt8} {text : List Char} :
    Decodes bytes text ↔ decode bytes = text := by
  constructor
  · intro h
    induction h with
    | nil => exact decode_nil
    | char c _ ih => rw [decode_char, ih]
    | illFormed hpart _ ih => rw [decode_maximalPart hpart, ih]
  · rintro rfl
    -- What is left after one character or one part is shorter.
    induction hn : bytes.length using Nat.strongRecOn generalizing bytes with
    | ind n ih =>
        cases bytes with
        | nil =>
            rw [decode_nil]
            exact .nil
        | cons b rest =>
            by_cases h : ∃ c, String.utf8EncodeChar c <+: b :: rest
            · obtain ⟨c, back, hback⟩ := h
              rw [← hback, decode_char]
              refine .char c (ih back.length ?_ rfl)
              have hpos := Char.utf8Size_pos c
              rw [← hn, ← hback, List.length_append, String.length_utf8EncodeChar]
              omega
            · obtain ⟨part, fault, hsplit, -, hpart⟩ := readPiece_illFormed (not_exists.mp h)
              rw [hsplit, decode_maximalPart hpart]
              refine .illFormed hpart (ih _ ?_ rfl)
              rw [← hn]
              exact readPiece_length_lt b rest

end Cyclomatic.Text
