import Cyclomatic.Proofs.Text.Lines
import Cyclomatic.Proofs.Text.Replacement

/-! # Lines of bytes

A byte of an ASCII character belongs to no other character and to no ill-formed part that starts
before it. So the bytes may be cut into lines before they are decoded, and whatever is broken in a
line stays in this line. -/

namespace Cyclomatic.Text

/-! ## Bytes of ASCII characters -/

theorem Fits.le_of_mem {least greatest more : Nat} {part : List UInt8}
    (h : Fits least greatest more part) (hl : 0x80 ≤ least) {b : UInt8} (hb : b ∈ part) :
    0x80 ≤ b.toNat := by
  induction part generalizing least greatest more with
  | nil => cases hb
  | cons d part ih =>
      cases more with
      | zero => exact h.elim
      | succ more =>
          rcases List.mem_cons.mp hb with rfl | hb
          · exact Nat.le_trans hl h.1.1
          · exact ih h.2 (Nat.le_refl _) hb

/-- No byte of an ASCII character goes on with another character. -/
theorem eq_nil_of_startsChar_append {front back : List UInt8} {b : UInt8} (hb : b.toNat < 0x80)
    (h : StartsChar (front ++ b :: back)) : front = [] := by
  obtain ⟨c, hc⟩ := h
  cases front with
  | nil => rfl
  | cons d front =>
      obtain ⟨full, hfull, hp⟩ := List.cons_prefix_iff.mp hc
      have hmem : b ∈ full := hp.mem (by simp)
      rcases utf8EncodeChar_cases hfull with ⟨-, rfl⟩ | ⟨lead, hlead, hfits, -⟩
      · cases hmem
      · have hle := hfits.le_of_mem (Lead.ofByte?_cases hlead).1.1 hmem
        omega

/-- A part of a character ends before the first ASCII byte, unless it starts with it. -/
theorem StartsChar.isPrefix {part front back : List UInt8} {b : UInt8} (h : StartsChar part)
    (hb : b.toNat < 0x80) (hfront : front ≠ []) (hp : part <+: front ++ b :: back) :
    part <+: front := by
  rcases List.prefix_or_prefix_of_prefix hp (List.prefix_append front _) with hp' | ⟨more, rfl⟩
  · exact hp'
  · rw [List.prefix_append_right_inj] at hp
    cases more with
    | nil => simp
    | cons d more =>
        obtain ⟨rfl, -⟩ := List.cons_prefix_cons.mp hp
        exact absurd (eq_nil_of_startsChar_append hb h) hfront

theorem MaximalPart.append_ascii {part rest : List UInt8} (h : MaximalPart part rest) {b : UInt8}
    (hb : b.toNat < 0x80) (back : List UInt8) : MaximalPart part (rest ++ b :: back) := by
  have hfront : part ++ rest ≠ [] := by simp [h.nonempty]
  constructor
  · intro c hc
    rw [← List.append_assoc] at hc
    exact h.illFormed c (StartsChar.isPrefix ⟨c, List.prefix_rfl⟩ hb hfront hc)
  · exact h.nonempty
  · exact h.starts
  · intro longer hp hstarts
    rw [← List.append_assoc] at hp
    exact h.longest longer (hstarts.isPrefix hb hfront hp) hstarts

theorem Decodes.append_ascii {front back : List UInt8} {text more : List Char}
    (h : Decodes front text) {b : UInt8} (hb : b.toNat < 0x80) (hback : Decodes back more) :
    Decodes (front ++ b :: back) (text ++ Char.ofNat b.toNat :: more) := by
  induction h with
  | nil =>
      have hchar := Decodes.char (Char.ofNat b.toNat) hback
      rwa [utf8EncodeChar_ascii hb] at hchar
  | char c _ ih =>
      rw [List.append_assoc]
      exact .char c ih
  | illFormed hpart _ ih =>
      rw [List.append_assoc]
      exact .illFormed (hpart.append_ascii hb back) ih

/-- A byte of an ASCII character is read as this character, whatever stands around it. -/
theorem decode_append_ascii {b : UInt8} (hb : b.toNat < 0x80) (front back : List UInt8) :
    decode (front ++ b :: back) = decode front ++ Char.ofNat b.toNat :: decode back :=
  decodes_iff.mp ((decodes_iff.mpr rfl).append_ascii hb (decodes_iff.mpr rfl))

theorem decode_cons_ascii {b : UInt8} (hb : b.toNat < 0x80) (back : List UInt8) :
    decode (b :: back) = Char.ofNat b.toNat :: decode back := by
  have h := decode_append_ascii hb [] back
  rwa [decode_nil] at h

/-- An ASCII character is read from its own byte only. -/
theorem Decodes.mem_of_ascii {bytes : List UInt8} {text : List Char} (h : Decodes bytes text)
    {b : UInt8} (hb : b.toNat < 0x80) (hmem : Char.ofNat b.toNat ∈ text) : b ∈ bytes := by
  induction h with
  | nil => cases hmem
  | char c _ ih =>
      rw [List.mem_append]
      rcases List.mem_cons.mp hmem with rfl | hmem
      · rw [utf8EncodeChar_ascii hb]
        exact Or.inl List.mem_cons_self
      · exact Or.inr (ih hmem)
  | illFormed _ _ ih =>
      rw [List.mem_append]
      rcases List.mem_cons.mp hmem with heq | hmem
      · have hencoding := utf8EncodeChar_ascii hb
        rw [heq] at hencoding
        cases hencoding
      · exact Or.inr (ih hmem)

/-! ## Lines of bytes -/

/-- The lines of bytes that follow the unfinished line `line`, which is in reverse order. -/
def byteLinesOnto (line : List UInt8) : List UInt8 → List (List UInt8)
  | [] => if line.isEmpty then [] else [line.reverse]
  | 0x0D :: 0x0A :: rest => line.reverse :: byteLinesOnto [] rest
  | b :: rest =>
      if b = 0x0A ∨ b = 0x0D then line.reverse :: byteLinesOnto [] rest
      else byteLinesOnto (b :: line) rest

/-- The lines of bytes without their terminators: a line feed, a carriage return, or both in this
order. A terminator at the very end starts no further line. -/
def byteLines (bytes : List UInt8) : List (List UInt8) :=
  byteLinesOnto [] bytes

/-- Bytes without line terminators. -/
def UnbrokenBytes (bytes : List UInt8) : Prop :=
  ∀ b ∈ bytes, ¬ (b = 0x0A ∨ b = 0x0D)

instance (bytes : List UInt8) : Decidable (UnbrokenBytes bytes) :=
  List.decidableBAll (fun b => ¬ (b = 0x0A ∨ b = 0x0D)) bytes

theorem unbrokenBytes_nil : UnbrokenBytes [] := by
  simp [UnbrokenBytes]

theorem unbroken_decode {bytes : List UInt8} (h : UnbrokenBytes bytes) :
    Unbroken (decode bytes) := by
  have hread : Decodes bytes (decode bytes) := decodes_iff.mpr rfl
  rintro c hc (rfl | rfl)
  · exact h 0x0A (hread.mem_of_ascii (by decide) hc) (Or.inl rfl)
  · exact h 0x0D (hread.mem_of_ascii (by decide) hc) (Or.inr rfl)

theorem decode_eq_nil_iff {bytes : List UInt8} : decode bytes = [] ↔ bytes = [] := by
  refine ⟨fun h => ?_, fun h => h ▸ decode_nil⟩
  cases decodes_iff.mpr h
  rfl

theorem head?_decode_iff {bytes : List UInt8} {b : UInt8} (hb : b.toNat < 0x80) :
    (decode bytes).head? = some (Char.ofNat b.toNat) ↔ bytes.head? = some b := by
  constructor
  · intro h
    obtain ⟨text, htext⟩ := List.head?_eq_some_iff.mp h
    generalize hc : Char.ofNat b.toNat = c at htext
    have hencoding := utf8EncodeChar_ascii hb
    rw [hc] at hencoding
    cases decodes_iff.mpr htext with
    | char _ _ =>
        rw [hencoding]
        rfl
    | illFormed _ _ => cases hencoding
  · intro h
    obtain ⟨rest, rfl⟩ := List.head?_eq_some_iff.mp h
    rw [decode_cons_ascii hb]
    rfl

/-- The unfinished line is decoded with the bytes that end it. -/
theorem sourceLines_decode_append {line : List UInt8} (hline : UnbrokenBytes line)
    (bytes : List UInt8) :
    sourceLines (decode (line.reverse ++ bytes)) = (byteLinesOnto line bytes).map decode := by
  have hunbroken {line : List UInt8} (h : UnbrokenBytes line) : Unbroken (decode line.reverse) :=
    unbroken_decode fun b hb => h b (List.mem_reverse.mp hb)
  fun_induction byteLinesOnto line bytes with
  | case1 line hempty =>
      obtain rfl := List.isEmpty_iff.mp hempty
      rw [List.reverse_nil, List.append_nil, decode_nil]
      rfl
  | case2 line hfull =>
      have hne : (decode line.reverse).isEmpty = false := by
        simpa [decode_eq_nil_iff] using hfull
      rw [List.append_nil, sourceLines_last (hunbroken hline), hne]
      rfl
  | case3 line rest ih =>
      rw [decode_append_ascii (by decide), decode_cons_ascii (by decide)]
      refine (sourceLines_crlf (hunbroken hline) _).trans ?_
      rw [List.map_cons, ← ih unbrokenBytes_nil]
      rfl
  | case4 line b rest hpair hb ih =>
      have hascii : b.toNat < 0x80 := by rcases hb with rfl | rfl <;> decide
      rw [decode_append_ascii hascii]
      rw [sourceLines_next (hunbroken hline), List.map_cons, ← ih unbrokenBytes_nil]
      · rfl
      · rcases hb with rfl | rfl
        · exact Or.inl rfl
        · exact Or.inr rfl
      · rintro ⟨hr, hhead⟩
        have hfeed : (decode rest).head? = some (Char.ofNat (0x0A : UInt8).toNat) := hhead
        rw [head?_decode_iff (by decide)] at hfeed
        obtain ⟨tail, rfl⟩ := List.head?_eq_some_iff.mp hfeed
        rcases hb with rfl | rfl
        · cases hr
        · exact hpair tail rfl rfl
  | case5 line b rest hpair hb ih =>
      rw [← ih (List.forall_mem_cons.mpr ⟨hb, hline⟩), List.reverse_cons, List.append_assoc,
        List.singleton_append]

/-- The lines of decoded bytes are the lines of the bytes, each decoded by itself. -/
theorem sourceLines_decode (bytes : List UInt8) :
    sourceLines (decode bytes) = (byteLines bytes).map decode :=
  sourceLines_decode_append unbrokenBytes_nil bytes

end Cyclomatic.Text
