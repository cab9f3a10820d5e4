import Cyclomatic.Proofs.Render.Reading
import Cyclomatic.Proofs.Report
import Cyclomatic.Proofs.Text.Digits
import Cyclomatic.Proofs.Text.Separated
import Cyclomatic.Render
import Cyclomatic.Render.Terminal
import Mathlib.Tactic.SplitIfs

/-! # JSON reports are read back

What is written for a value is read back as that value, whatever its strings hold and however its
lists and objects nest, and it is written in ASCII alone. So a JSON report gives back the figures of
the report, its units in their order and the units above the threshold. There is one exactly if the
figures have few enough digits. -/

namespace Cyclomatic.Json

/-! ## Characters -/

theorem hexValue?_digitChar {d : Nat} (h : d < 16) : hexValue? d.digitChar = some d := by
  revert d
  decide

theorem readUnit_hexDigits {n : Nat} (h : n < 0x10000) (rest : List Char) :
    readUnit (Text.hexDigits 4 n ++ rest) = some (n, rest) := by
  have h₁ : n / 16 / 16 / 16 < 16 := by omega
  have h₂ : n / 16 / 16 % 16 < 16 := by omega
  have h₃ : n / 16 % 16 < 16 := by omega
  have h₄ : n % 16 < 16 := by omega
  have hsum :
      ((n / 16 / 16 / 16 * 16 + n / 16 / 16 % 16) * 16 + n / 16 % 16) * 16 + n % 16 = n := by
    omega
  rw [Text.hexDigits_four h]
  simp [readUnit, hexValue?_digitChar h₁, hexValue?_digitChar h₂, hexValue?_digitChar h₃,
    hexValue?_digitChar h₄, hsum]

theorem toNat_valid (c : Char) :
    c.toNat < 0xD800 ∨ 0xDFFF < c.toNat ∧ c.toNat < 0x110000 :=
  c.valid

theorem readCode_single {n : Nat} (hn : n < 0x10000) (hplane : n < 0xD800 ∨ 0xE000 ≤ n)
    (rest : List Char) :
    readCode (Text.hexDigits 4 n ++ rest) = some (Char.ofNat n, rest) := by
  rw [readCode, readUnit_hexDigits hn]
  simp only [Option.bind_eq_bind, Option.bind_some]
  rw [if_pos hplane]

theorem readLowUnit_escapeUnit {low : Nat} (hlow : 0xDC00 ≤ low ∧ low < 0xE000)
    (rest : List Char) :
    readLowUnit (escapeUnit low ++ rest) = some (low, rest) := by
  rw [escapeUnit, List.cons_append, List.cons_append, readLowUnit, readUnit_hexDigits (by omega)]
  simp only [Option.bind_eq_bind, Option.bind_some]
  rw [if_pos hlow]

theorem readCode_pair {high low : Nat} (hhigh : 0xD800 ≤ high ∧ high < 0xDC00)
    (hlow : 0xDC00 ≤ low ∧ low < 0xE000) (rest : List Char) :
    readCode (Text.hexDigits 4 high ++ (escapeUnit low ++ rest)) =
      some (Char.ofNat (0x10000 + (high - 0xD800) * 0x400 + (low - 0xDC00)), rest) := by
  rw [readCode, readUnit_hexDigits (by omega)]
  simp only [Option.bind_eq_bind, Option.bind_some]
  rw [if_neg (by omega), if_pos hhigh.2, readLowUnit_escapeUnit hlow]
  rfl

theorem readChar_escapeUnit (n : Nat) (rest : List Char) :
    readChar (escapeUnit n ++ rest) = readCode (Text.hexDigits 4 n ++ rest) := by
  rw [escapeUnit, List.cons_append, List.cons_append, readChar]

theorem readChar_escapeCode (c : Char) (rest : List Char) :
    readChar (escapeCode c.toNat ++ rest) = some (c, rest) := by
  have hvalid := toNat_valid c
  unfold escapeCode
  split
  · rename_i hplane
    rw [readChar_escapeUnit, readCode_single hplane (by omega), Char.ofNat_toNat]
  · rename_i hplane
    have hcode : 0x10000 + (0xD800 + (c.toNat - 0x10000) / 0x400 - 0xD800) * 0x400 +
        (0xDC00 + (c.toNat - 0x10000) % 0x400 - 0xDC00) = c.toNat := by omega
    rw [List.append_assoc, readChar_escapeUnit, readCode_pair (by omega) (by omega), hcode,
      Char.ofNat_toNat]

theorem readChar_plain {c : Char} (hquote : c ≠ '"') (hslash : c ≠ '\\') (hc : 32 ≤ c.toNat)
    (rest : List Char) : readChar (c :: rest) = some (c, rest) := by
  have hlow : ¬ c.toNat < 32 := by omega
  unfold readChar
  split <;> simp_all

/-- The three ways to write a character. -/
theorem escapeChar_cases (c : Char) :
    (∃ d, d ≠ 'u' ∧ d.toNat < 128 ∧ shortEscape? d = some c ∧ escapeChar c = ['\\', d]) ∨
      (c ≠ '"' ∧ c ≠ '\\' ∧ 32 ≤ c.toNat ∧ c.toNat < 127 ∧ escapeChar c = [c]) ∨
        escapeChar c = escapeCode c.toNat := by
  unfold escapeChar
  split_ifs with hquote hslash hfeed hreturn htab hpage hback hplain
  · exact .inl ⟨'"', by decide, by decide, by rw [hquote]; rfl, rfl⟩
  · exact .inl ⟨'\\', by decide, by decide, by rw [hslash]; rfl, rfl⟩
  · exact .inl ⟨'n', by decide, by decide, by rw [hfeed]; rfl, rfl⟩
  · exact .inl ⟨'r', by decide, by decide, by rw [hreturn]; rfl, rfl⟩
  · exact .inl ⟨'t', by decide, by decide, by rw [htab]; rfl, rfl⟩
  · exact .inl ⟨'f', by decide, by decide, by rw [hpage]; rfl, rfl⟩
  · exact .inl ⟨'b', by decide, by decide, by rw [hback]; rfl, rfl⟩
  · simp only [Bool.and_eq_true, decide_eq_true_eq] at hplain
    exact .inr (.inl ⟨hquote, hslash, hplain.1, hplain.2, rfl⟩)
  · exact .inr (.inr rfl)

theorem readChar_escapeChar (c : Char) (rest : List Char) :
    readChar (escapeChar c ++ rest) = some (c, rest) := by
  obtain ⟨d, hd, -, hshort, hc⟩ | ⟨hquote, hslash, hlow, -, hc⟩ | hc := escapeChar_cases c
  · rw [hc, List.cons_append, List.cons_append, List.nil_append, readChar, hshort]
    · rfl
    · exact hd
  · rw [hc]
    exact readChar_plain hquote hslash hlow rest
  · rw [hc]
    exact readChar_escapeCode c rest

/-! ## Strings -/

theorem escapeCode_head (n : Nat) : ∃ ds, escapeCode n = '\\' :: ds := by
  unfold escapeCode
  split
  · exact ⟨_, rfl⟩
  · exact ⟨_, rfl⟩

theorem escapeChar_head (c : Char) : ∃ d ds, escapeChar c = d :: ds ∧ d ≠ '"' := by
  obtain ⟨d, -, -, -, hc⟩ | ⟨hquote, -, -, -, hc⟩ | hc := escapeChar_cases c
  · exact ⟨'\\', [d], hc, by decide⟩
  · exact ⟨c, [], hc, hquote⟩
  · obtain ⟨ds, hcode⟩ := escapeCode_head c.toNat
    exact ⟨'\\', ds, hc.trans hcode, by decide⟩

theorem readChars_flatMap (cs rest : List Char) {rounds : Nat} (hrounds : cs.length < rounds) :
    readChars rounds (cs.flatMap escapeChar ++ '"' :: rest) = some (cs, rest) := by
  induction cs generalizing rounds with
  | nil =>
      obtain ⟨rounds, rfl⟩ := Nat.exists_eq_succ_of_ne_zero (Nat.ne_of_gt hrounds)
      rfl
  | cons c cs ih =>
      obtain ⟨rounds, rfl⟩ := Nat.exists_eq_succ_of_ne_zero (Nat.ne_zero_of_lt hrounds)
      obtain ⟨d, ds, hhead, hd⟩ := escapeChar_head c
      have hread := readChar_escapeChar c (cs.flatMap escapeChar ++ '"' :: rest)
      have hmore := ih (Nat.lt_of_succ_lt_succ hrounds)
      rw [List.flatMap_cons, List.append_assoc]
      rw [hhead, List.cons_append] at hread ⊢
      simp [readChars, hd, hread, hmore]

theorem length_le_flatMap (cs : List Char) : cs.length ≤ (cs.flatMap escapeChar).length := by
  induction cs with
  | nil => exact Nat.le_refl _
  | cons c cs ih =>
      obtain ⟨d, ds, hhead, -⟩ := escapeChar_head c
      rw [List.flatMap_cons, hhead]
      simp only [List.length_append, List.length_cons]
      omega

theorem readText_quoted (s : String) (rest : List Char) :
    readText (s.toList.flatMap escapeChar ++ '"' :: rest) = some (s, rest) := by
  have hlength := length_le_flatMap s.toList
  unfold readText
  rw [readChars_flatMap s.toList rest (by rw [List.length_append, List.length_cons]; omega)]
  simp

/-! ## Numbers -/

/-- What may stand after a number. -/
def NoDigit (rest : List Char) : Prop :=
  ∀ c ∈ rest.head?, c.isDigit = false

theorem takeWhile_decimal (n : Nat) {rest : List Char} (hrest : NoDigit rest) :
    (Nat.toDigits 10 n ++ rest).takeWhile Char.isDigit = Nat.toDigits 10 n := by
  rw [List.takeWhile_append_of_pos fun c hc => Text.isDigit_of_mem_decimal hc]
  cases rest with
  | nil => simp
  | cons c rest => simp [hrest c rfl]

theorem dropWhile_decimal (n : Nat) {rest : List Char} (hrest : NoDigit rest) :
    (Nat.toDigits 10 n ++ rest).dropWhile Char.isDigit = rest := by
  rw [List.dropWhile_append_of_pos fun c hc => Text.isDigit_of_mem_decimal hc]
  cases rest with
  | nil => rfl
  | cons c rest => simp [hrest c rfl]

theorem readNat_decimal (n : Nat) {rest : List Char} (hrest : NoDigit rest) :
    readNat (Nat.toDigits 10 n ++ rest) = some (n, rest) := by
  have hvalue : Nat.ofDigitChars 10 (Nat.toDigits 10 n) 0 = n := Nat.ofDigitChars_ten_toDigits
  unfold readNat
  rw [takeWhile_decimal n hrest, dropWhile_decimal n hrest]
  split
  · rename_i hnil
    exact absurd hnil Nat.toDigits_ne_nil
  · rename_i hzero
    rcases Nat.eq_zero_or_pos n with rfl | hpos
    · simp at hzero
    · exact absurd (by rw [hzero]; rfl) (Text.head_decimal_ne_zero hpos)
  · rw [hvalue]

theorem decimal_head (n : Nat) : ∃ c cs, Nat.toDigits 10 n = c :: cs ∧ c.isDigit = true := by
  cases hdigits : Nat.toDigits 10 n with
  | nil => exact absurd hdigits Nat.toDigits_ne_nil
  | cons c cs => exact ⟨c, cs, rfl, Text.isDigit_of_mem_decimal (n := n) (by simp [hdigits])⟩

theorem readInt_toString (n : Int) {rest : List Char} (hrest : NoDigit rest) :
    readInt ((toString n).toList ++ rest) = some (n, rest) := by
  have hread := readNat_decimal n.natAbs hrest
  rw [Text.toList_toString_int]
  split
  · rename_i hneg
    have hvalue : -(n.natAbs : Int) = n := by omega
    rw [List.cons_append, readInt, hread]
    simp only [Option.map_some, hvalue]
  · rename_i hneg
    obtain ⟨c, cs, hdigits, hc⟩ := decimal_head n.natAbs
    have hminus : c ≠ '-' := by
      rintro rfl
      exact absurd hc (by decide)
    rw [hdigits, List.cons_append] at hread ⊢
    have hvalue : (n.natAbs : Int) = n := by omega
    rw [readInt, hread]
    · simp only [Option.map_some, hvalue]
    · simpa using hminus

/-! ## Values -/

/-- Values by cases, where the items of a list and the values of an object's members may be used. -/
theorem induction {motive : Json → Prop} (int : ∀ n, motive (.int n)) (text : ∀ s, motive (.text s))
    (list : ∀ items, (∀ item ∈ items, motive item) → motive (.list items))
    (object : ∀ entries, (∀ entry ∈ entries, motive entry.2) → motive (.object entries)) :
    ∀ json, motive json
  | .int n => int n
  | .text s => text s
  | .list items =>
      list items fun item hmem =>
        have := List.sizeOf_lt_of_mem hmem
        induction int text list object item
  | .object entries =>
      object entries fun (key, value) hmem =>
        have := List.sizeOf_lt_of_mem hmem
        induction int text list object value
termination_by json => sizeOf json
decreasing_by all_goals (simp at *; omega)

theorem writeItems_eq_map (level : Nat) (items : List Json) :
    writeItems level items = items.map (write level) := by
  induction items with
  | nil => rfl
  | cons item items ih => rw [writeItems, ih, List.map_cons]

def writeEntry (level : Nat) (entry : String × Json) : List Char :=
  quote entry.1 ++ [':', ' '] ++ write level entry.2

theorem writeEntries_eq_map (level : Nat) (entries : List (String × Json)) :
    writeEntries level entries = entries.map (writeEntry level) := by
  induction entries with
  | nil => rfl
  | cons entry entries ih => rw [writeEntries, ih, List.map_cons, writeEntry]

/-! ## Layout -/

theorem skipLayout_newLine (level : Nat) (cs : List Char) :
    skipLayout (newLine level ++ cs) = skipLayout cs := by
  have hlayout : ∀ c ∈ newLine level, isLayout c = true := by
    intro c hc
    rcases List.mem_cons.mp hc with rfl | hspace
    · decide
    · rw [List.eq_of_mem_replicate hspace]
      decide
  exact List.dropWhile_append_of_pos hlayout

theorem skipLayout_cons {c : Char} (h : isLayout c = false) (cs : List Char) :
    skipLayout (c :: cs) = c :: cs := by
  simp [skipLayout, h]

theorem readEntry_newLine (readPart : List Char → Option (Json × List Char)) (level : Nat)
    (cs : List Char) :
    readEntry readPart (newLine level ++ cs) = readEntry readPart cs := by
  simp only [readEntry, skipLayout_newLine]

theorem readValue_newLine (rounds level : Nat) (cs : List Char) :
    readValue rounds (newLine level ++ cs) = readValue rounds cs := by
  cases rounds with
  | zero => simp only [readValue]
  | succ rounds => simp only [readValue, skipLayout_newLine]

theorem noDigit_newLine (level : Nat) (cs : List Char) : NoDigit (newLine level ++ cs) := by
  rintro c ⟨⟩
  decide

theorem noDigit_comma (cs : List Char) : NoDigit (',' :: cs) := by
  rintro c ⟨⟩
  decide

/-! ## Blocks -/

/-- What stands after the first part of a block: the other parts, each on a line of its own, the
closing bracket and what follows it. -/
def blockTail (closing : Char) (level : Nat) (parts : List (List Char)) (rest : List Char) :
    List Char :=
  parts.flatMap ((',' :: newLine (level + 1)) ++ ·) ++ (newLine level ++ closing :: rest)

theorem enclose_cons (opening closing : Char) (level : Nat) (part : List Char)
    (parts : List (List Char)) (rest : List Char) :
    enclose opening closing level (part :: parts) ++ rest =
      opening :: (newLine (level + 1) ++ (part ++ blockTail closing level parts rest)) := by
  simp only [enclose, List.isEmpty_cons, Bool.false_eq_true, if_false,
    Text.intercalate_cons_eq_flatMap, blockTail]
  simp

theorem length_le_blockTail (closing : Char) (level : Nat) (parts : List (List Char))
    (rest : List Char) : parts.length < (blockTail closing level parts rest).length := by
  induction parts with
  | nil =>
      simp only [blockTail, List.flatMap_nil, List.nil_append, List.length_append,
        List.length_cons, List.length_nil]
      omega
  | cons part parts ih =>
      simp only [blockTail, List.flatMap_cons, List.length_append, List.length_cons] at ih ⊢
      omega

/-- How the parts of a block are read back: `readPart` skips layout and undoes `writePart`, and no
part can be taken for layout or for the closing bracket. -/
structure ReadsParts {α : Type} (closing : Char) (readPart : List Char → Option (α × List Char))
    (writePart : α → List Char) (parts : List α) : Prop where
  newLine (level : Nat) (cs : List Char) : readPart (newLine level ++ cs) = readPart cs
  back : ∀ part ∈ parts, ∀ rest, NoDigit rest →
    readPart (writePart part ++ rest) = some (part, rest)
  head : ∀ part ∈ parts, ∃ c cs, writePart part = c :: cs ∧ isLayout c = false ∧ c ≠ closing

section

variable {α : Type} {closing : Char} {readPart : List Char → Option (α × List Char)}
  {writePart : α → List Char} {part : α} {parts : List α}

theorem ReadsParts.tail (h : ReadsParts closing readPart writePart (part :: parts)) :
    ReadsParts closing readPart writePart parts where
  newLine := h.newLine
  back other hmem := h.back other (List.mem_cons_of_mem part hmem)
  head other hmem := h.head other (List.mem_cons_of_mem part hmem)

theorem ReadsParts.readParts_newLine (h : ReadsParts closing readPart writePart parts)
    (rounds level : Nat) (cs : List Char) :
    readParts closing readPart rounds (Json.newLine level ++ cs) =
      readParts closing readPart rounds cs := by
  cases rounds with
  | zero => rfl
  | succ rounds => simp only [readParts, h.newLine]

theorem ReadsParts.readParts_blockTail (h : ReadsParts closing readPart writePart (part :: parts))
    (hclosing : isLayout closing = false) (hcomma : ',' ≠ closing) (level : Nat)
    (rest : List Char) (rounds : Nat) (hrounds : parts.length < rounds) :
    readParts closing readPart rounds
        (writePart part ++ blockTail closing level (parts.map writePart) rest) =
      some (part :: parts, rest) := by
  obtain ⟨rounds, rfl⟩ := Nat.exists_eq_succ_of_ne_zero (Nat.ne_zero_of_lt hrounds)
  have hback := h.back part (by simp)
  induction parts generalizing part rounds with
  | nil =>
      have hpart := hback (Json.newLine level ++ closing :: rest) (noDigit_newLine _ _)
      simp [readParts, blockTail, hpart, skipLayout_newLine, skipLayout_cons hclosing]
  | cons next parts ih =>
      obtain ⟨rounds, rfl⟩ := Nat.exists_eq_succ_of_ne_zero (Nat.ne_zero_of_lt
        (Nat.lt_of_succ_lt_succ hrounds))
      have hmore := ih h.tail rounds (Nat.lt_of_succ_lt_succ hrounds) (h.tail.back next (by simp))
      have htail : blockTail closing level ((next :: parts).map writePart) rest =
          ',' :: (Json.newLine (level + 1) ++
            (writePart next ++ blockTail closing level (parts.map writePart) rest)) := by
        simp [blockTail]
      rw [htail, readParts, hback _ (noDigit_comma _)]
      simp only [Option.bind_eq_bind, Option.bind_some, skipLayout_cons (c := ',') rfl]
      rw [if_neg hcomma, h.tail.readParts_newLine, hmore]
      rfl

/-- A block is read back after its opening bracket. -/
theorem ReadsParts.readBlock_enclose (h : ReadsParts closing readPart writePart parts)
    (hclosing : isLayout closing = false) (hcomma : ',' ≠ closing) (opening : Char) (level : Nat)
    (rest : List Char) :
    ∃ cs, enclose opening closing level (parts.map writePart) ++ rest = opening :: cs ∧
      readBlock closing readPart cs = some (parts, rest) := by
  cases parts with
  | nil =>
      refine ⟨closing :: rest, rfl, ?_⟩
      simp [readBlock, skipLayout_cons hclosing]
  | cons part parts =>
      obtain ⟨c, cs, hhead, hlayout, hc⟩ := h.head part (by simp)
      refine ⟨_, enclose_cons opening closing level _ _ rest, ?_⟩
      have hlength := length_le_blockTail closing level (parts.map writePart) rest
      unfold readBlock
      rw [h.readParts_newLine, h.readParts_blockTail hclosing hcomma, skipLayout_newLine, hhead,
        List.cons_append, skipLayout_cons hlayout]
      · simp only [if_neg hc]
      · simp only [List.length_map, List.length_append] at hlength ⊢
        omega

end

/-! ## Reading values back -/

/-- The first character of a number. -/
def OpensNumber (c : Char) : Prop :=
  c = '-' ∨ c.isDigit = true

theorem OpensNumber.ne {c d : Char} (h : OpensNumber c) (hminus : '-' ≠ d)
    (hdigit : d.isDigit = false) : c ≠ d := by
  rintro rfl
  rcases h with rfl | hc
  · exact hminus rfl
  · rw [hc] at hdigit
    exact absurd hdigit (by decide)

theorem OpensNumber.isLayout {c : Char} (h : OpensNumber c) : isLayout c = false := by
  simp [Json.isLayout, h.ne (d := ' ') (by decide) rfl, h.ne (d := '\t') (by decide) rfl,
    h.ne (d := '\n') (by decide) rfl, h.ne (d := '\r') (by decide) rfl]

theorem toString_head (n : Int) : ∃ c cs, (toString n).toList = c :: cs ∧ OpensNumber c := by
  rw [Text.toList_toString_int]
  split
  · exact ⟨'-', _, rfl, .inl rfl⟩
  · obtain ⟨c, cs, hdigits, hc⟩ := decimal_head n.natAbs
    exact ⟨c, cs, hdigits, .inr hc⟩

theorem enclose_head (opening closing : Char) (level : Nat) (parts : List (List Char)) :
    ∃ cs, enclose opening closing level parts = opening :: cs := by
  cases parts with
  | nil => exact ⟨[closing], rfl⟩
  | cons part parts => exact ⟨_, rfl⟩

theorem write_head (level : Nat) (json : Json) :
    ∃ c cs, write level json = c :: cs ∧ isLayout c = false ∧ c ≠ ']' := by
  cases json with
  | int n =>
      obtain ⟨c, cs, hhead, hc⟩ := toString_head n
      exact ⟨c, cs, by rw [write, hhead], hc.isLayout, hc.ne (by decide) rfl⟩
  | text s => exact ⟨'"', _, by rw [write, quote, List.cons_append], by decide, by decide⟩
  | list items =>
      obtain ⟨cs, hhead⟩ := enclose_head '[' ']' level (writeItems (level + 1) items)
      exact ⟨'[', cs, by rw [write, hhead], by decide, by decide⟩
  | object entries =>
      obtain ⟨cs, hhead⟩ := enclose_head '{' '}' level (writeEntries (level + 1) entries)
      exact ⟨'{', cs, by rw [write, hhead], by decide, by decide⟩

theorem writeEntry_head (level : Nat) (entry : String × Json) :
    ∃ cs, writeEntry level entry = '"' :: cs :=
  ⟨_, by rw [writeEntry, quote, List.cons_append, List.cons_append, List.cons_append]⟩

theorem exists_rounds {json : Json} {level rounds : Nat}
    (h : (write level json).length ≤ rounds) : ∃ fewer, rounds = fewer + 1 := by
  obtain ⟨c, cs, hhead, -⟩ := write_head level json
  rw [hhead, List.length_cons] at h
  exact ⟨rounds - 1, by omega⟩

theorem length_lt_enclose (opening closing : Char) (level : Nat) {part : List Char}
    {parts : List (List Char)} (h : part ∈ parts) :
    part.length < (enclose opening closing level parts).length := by
  cases parts with
  | nil => exact absurd h List.not_mem_nil
  | cons first parts =>
      have henclose := congrArg List.length (enclose_cons opening closing level first parts [])
      simp only [List.append_nil, List.length_cons, List.length_append, blockTail] at henclose
      rcases List.mem_cons.mp h with rfl | hmem
      · omega
      · obtain ⟨front, back, rfl⟩ := List.append_of_mem hmem
        simp only [List.flatMap_append, List.flatMap_cons, List.length_append,
          List.length_cons] at henclose
        omega

theorem length_item_lt {items : List Json} {item : Json} (level : Nat) (h : item ∈ items) :
    (write (level + 1) item).length < (write level (.list items)).length := by
  rw [write, writeItems_eq_map]
  exact length_lt_enclose _ _ _ (List.mem_map_of_mem h)

theorem length_entry_lt {entries : List (String × Json)} {entry : String × Json} (level : Nat)
    (h : entry ∈ entries) :
    (write (level + 1) entry.2).length < (write level (.object entries)).length := by
  have hentry : (write (level + 1) entry.2).length ≤ (writeEntry (level + 1) entry).length := by
    rw [writeEntry, List.length_append]
    omega
  rw [write, writeEntries_eq_map]
  exact Nat.lt_of_le_of_lt hentry (length_lt_enclose _ _ _ (List.mem_map_of_mem h))

theorem readValue_number (n : Int) (rounds : Nat) {rest : List Char} (hrest : NoDigit rest) :
    readValue (rounds + 1) ((toString n).toList ++ rest) = some (.int n, rest) := by
  have hread := readInt_toString n hrest
  obtain ⟨c, cs, hhead, hc⟩ := toString_head n
  rw [hhead, List.cons_append] at hread ⊢
  rw [readValue, skipLayout_cons hc.isLayout]
  simp [hread, hc.ne (d := '"') (by decide) rfl, hc.ne (d := '[') (by decide) rfl,
    hc.ne (d := '\x7b') (by decide) rfl]

theorem readValue_quote (s : String) (rounds : Nat) (rest : List Char) :
    readValue (rounds + 1) (quote s ++ rest) = some (.text s, rest) := by
  rw [quote, List.append_assoc, List.cons_append, readValue, skipLayout_cons rfl]
  simp [readText_quoted]

theorem readValue_space (rounds : Nat) (cs : List Char) :
    readValue rounds (' ' :: cs) = readValue rounds cs := by
  have hspace : skipLayout (' ' :: cs) = skipLayout cs := rfl
  cases rounds with
  | zero => simp only [readValue]
  | succ rounds => simp only [readValue, hspace]

theorem readEntry_writeEntry (level rounds : Nat) (entry : String × Json) {rest : List Char}
    (h : readValue rounds (write level entry.2 ++ rest) = some (entry.2, rest)) :
    readEntry (readValue rounds) (writeEntry level entry ++ rest) = some (entry, rest) := by
  rw [writeEntry, quote]
  simp only [List.append_assoc, List.cons_append, List.nil_append]
  rw [readEntry, skipLayout_cons rfl]
  simp only [readText_quoted, Option.bind_eq_bind, Option.bind_some]
  rw [skipLayout_cons rfl]
  simp only [readValue_space, h, Option.bind_some]

theorem readValue_list {items : List Json} {level rounds : Nat}
    (h : ∀ item ∈ items, ∀ rest, NoDigit rest →
      readValue rounds (write (level + 1) item ++ rest) = some (item, rest)) (rest : List Char) :
    readValue (rounds + 1) (write level (.list items) ++ rest) = some (.list items, rest) := by
  have hparts : ReadsParts ']' (readValue rounds) (write (level + 1)) items :=
    ⟨readValue_newLine rounds, h, fun item _ => write_head (level + 1) item⟩
  obtain ⟨cs, henclose, hread⟩ := hparts.readBlock_enclose rfl (by decide) '[' level rest
  rw [write, writeItems_eq_map, henclose, readValue, skipLayout_cons rfl]
  simp [hread]

theorem readValue_object {entries : List (String × Json)} {level rounds : Nat}
    (h : ∀ entry ∈ entries, ∀ rest, NoDigit rest →
      readValue rounds (write (level + 1) entry.2 ++ rest) = some (entry.2, rest))
    (rest : List Char) :
    readValue (rounds + 1) (write level (.object entries) ++ rest) =
      some (.object entries, rest) := by
  have hparts : ReadsParts '}' (readEntry (readValue rounds)) (writeEntry (level + 1)) entries := by
    refine ⟨readEntry_newLine (readValue rounds), ?_, ?_⟩
    · intro entry hmem rest hrest
      exact readEntry_writeEntry (level + 1) rounds entry (h entry hmem rest hrest)
    · intro entry _
      obtain ⟨cs, hhead⟩ := writeEntry_head (level + 1) entry
      exact ⟨'"', cs, hhead, by decide, by decide⟩
  obtain ⟨cs, henclose, hread⟩ := hparts.readBlock_enclose rfl (by decide) '{' level rest
  rw [write, writeEntries_eq_map, henclose, readValue, skipLayout_cons rfl]
  simp [hread]

/-- A value is read back in as many rounds as it has characters, whatever stands after it. -/
theorem readValue_write (json : Json) (level rounds : Nat) (rest : List Char)
    (hrounds : (write level json).length ≤ rounds) (hrest : NoDigit rest) :
    readValue rounds (write level json ++ rest) = some (json, rest) := by
  induction json using Json.induction generalizing level rounds rest with
  | int n =>
      obtain ⟨rounds, rfl⟩ := exists_rounds hrounds
      exact readValue_number n rounds hrest
  | text s =>
      obtain ⟨rounds, rfl⟩ := exists_rounds hrounds
      exact readValue_quote s rounds rest
  | list items ih =>
      obtain ⟨rounds, rfl⟩ := exists_rounds hrounds
      apply readValue_list
      intro item hmem rest hrest
      have hitem := length_item_lt level hmem
      exact ih item hmem (level + 1) rounds rest (by omega) hrest
  | object entries ih =>
      obtain ⟨rounds, rfl⟩ := exists_rounds hrounds
      apply readValue_object
      intro entry hmem rest hrest
      have hentry := length_entry_lt level hmem
      exact ih entry hmem (level + 1) rounds rest (by omega) hrest

theorem read?_write (json : Json) : read? (String.ofList (write 0 json)) = some json := by
  have hread := readValue_write json 0 (write 0 json).length [] (Nat.le_refl _) (by rintro c ⟨⟩)
  rw [List.append_nil] at hread
  rw [read?, String.length_ofList, String.toList_ofList, hread]
  rfl

example : read? "[ -10,\t\"\\uD83D\\uDE00\" ]" = some (.list [.int (-10), .text "😀"]) := rfl

example : read? "[1,]" = none ∧ read? "[01]" = none ∧ read? "\"\\uD83D\"" = none := ⟨rfl, rfl, rfl⟩

/-! ## ASCII -/

def IsAscii (cs : List Char) : Prop :=
  ∀ c ∈ cs, c.toNat < 128

instance (cs : List Char) : Decidable (IsAscii cs) :=
  List.decidableBAll (fun c : Char => c.toNat < 128) cs

theorem IsAscii.append {as bs : List Char} (ha : IsAscii as) (hb : IsAscii bs) :
    IsAscii (as ++ bs) := by
  intro c hc
  rcases List.mem_append.mp hc with hmem | hmem
  · exact ha c hmem
  · exact hb c hmem

theorem IsAscii.cons {c : Char} {cs : List Char} (hc : c.toNat < 128) (hcs : IsAscii cs) :
    IsAscii (c :: cs) := by
  intro d hd
  rcases List.mem_cons.mp hd with rfl | hmem
  · exact hc
  · exact hcs d hmem

theorem isAscii_decimal (n : Nat) : IsAscii (Nat.toDigits 10 n) := by
  intro c hc
  have hdigit := Text.isDigit_of_mem_decimal hc
  simp only [Char.isDigit, Bool.and_eq_true, decide_eq_true_eq] at hdigit
  have hle : c.toNat ≤ 57 := hdigit.2
  omega

theorem digitChar_lt {d : Nat} (h : d < 16) : d.digitChar.toNat < 128 := by
  revert d
  decide

theorem isAscii_escapeUnit {n : Nat} (h : n < 0x10000) : IsAscii (escapeUnit n) := by
  rw [escapeUnit, Text.hexDigits_four h]
  refine .cons (by decide) (.cons (by decide) ?_)
  intro c hc
  simp only [List.mem_cons, List.not_mem_nil, or_false] at hc
  rcases hc with rfl | rfl | rfl | rfl <;> exact digitChar_lt (by omega)

theorem isAscii_escapeCode (c : Char) : IsAscii (escapeCode c.toNat) := by
  have hvalid := toNat_valid c
  unfold escapeCode
  split
  · rename_i hplane
    exact isAscii_escapeUnit hplane
  · exact (isAscii_escapeUnit (by omega)).append (isAscii_escapeUnit (by omega))

theorem isAscii_escapeChar (c : Char) : IsAscii (escapeChar c) := by
  obtain ⟨d, -, hd, -, hc⟩ | ⟨-, -, -, hhigh, hc⟩ | hc := escapeChar_cases c
  · rw [hc]
    exact .cons (by decide) (.cons hd (by decide))
  · rw [hc]
    exact .cons (by omega) (by decide)
  · rw [hc]
    exact isAscii_escapeCode c

theorem isAscii_quote (s : String) : IsAscii (quote s) := by
  refine .append (.cons (by decide) ?_) (by decide)
  intro c hc
  obtain ⟨d, -, hd⟩ := List.mem_flatMap.mp hc
  exact isAscii_escapeChar d c hd

theorem isAscii_newLine (level : Nat) : IsAscii (newLine level) := by
  refine .cons (by decide) ?_
  intro c hc
  rw [List.eq_of_mem_replicate hc]
  decide

theorem isAscii_blockTail {closing : Char} (hclosing : closing.toNat < 128) (level : Nat)
    {parts : List (List Char)} (h : ∀ part ∈ parts, IsAscii part) :
    IsAscii (blockTail closing level parts []) := by
  refine .append ?_ ((isAscii_newLine level).append (.cons hclosing (by decide)))
  intro c hc
  obtain ⟨part, hmem, hpart⟩ := List.mem_flatMap.mp hc
  exact (IsAscii.cons (by decide) (isAscii_newLine _)).append (h part hmem) c hpart

theorem isAscii_enclose {opening closing : Char} (hopening : opening.toNat < 128)
    (hclosing : closing.toNat < 128) (level : Nat) {parts : List (List Char)}
    (h : ∀ part ∈ parts, IsAscii part) : IsAscii (enclose opening closing level parts) := by
  cases parts with
  | nil => exact .cons hopening (.cons hclosing (by decide))
  | cons part parts =>
      rw [← List.append_nil (enclose _ _ _ _), enclose_cons]
      have htail := isAscii_blockTail hclosing level fun other hmem =>
        h other (List.mem_cons_of_mem part hmem)
      exact .cons hopening ((isAscii_newLine _).append ((h part (by simp)).append htail))

theorem isAscii_write (json : Json) (level : Nat) : IsAscii (write level json) := by
  induction json using Json.induction generalizing level with
  | int n =>
      rw [write, Text.toList_toString_int]
      split
      · exact .cons (by decide) (isAscii_decimal _)
      · exact isAscii_decimal _
  | text s =>
      rw [write]
      exact isAscii_quote s
  | list items ih =>
      rw [write, writeItems_eq_map]
      apply isAscii_enclose (by decide) (by decide)
      intro part hmem
      obtain ⟨item, hitem, rfl⟩ := List.mem_map.mp hmem
      exact ih item hitem (level + 1)
  | object entries ih =>
      rw [write, writeEntries_eq_map]
      apply isAscii_enclose (by decide) (by decide)
      intro part hmem
      obtain ⟨entry, hentry, rfl⟩ := List.mem_map.mp hmem
      exact ((isAscii_quote entry.1).append (by decide)).append (ih entry hentry (level + 1))

/-! ## Figures -/

theorem integersOfItems_text (names : List String) : integersOfItems (names.map .text) = [] := by
  induction names with
  | nil => rfl
  | cons name names ih => exact ih

theorem integersOfEntries_int (entries : List (String × Int)) :
    integersOfEntries (entries.map fun entry => (entry.1, .int entry.2)) = entries.map (·.2) := by
  induction entries with
  | nil => rfl
  | cons entry entries ih =>
      rw [List.map_cons, List.map_cons, ← ih]
      rfl

theorem render_of_fewDigits {json : Json} (h : ∀ n ∈ json.integers, FewDigits n) :
    json.render = .ok (String.ofList (write 0 json)) :=
  withFigures_of_fewDigits h

end Cyclomatic.Json

/-! ## Reports -/

namespace Cyclomatic.Report

variable (fileName language : String) (units : UnitTable) (threshold : Number)

/-- The JSON report of units. -/
def jsonObject : Json :=
  let report : Report := ⟨fileName, language, units⟩
  .object [
    ("file_name", .text fileName),
    ("language", .text language),
    ("unit_count", .int report.unitCount),
    ("total_complexity", .int report.totalComplexity),
    ("max_complexity", .int report.maxComplexity),
    ("most_complex_unit", .text report.mostComplexUnit),
    ("units", .object (units.entries.map fun entry => (entry.1, .int entry.2))),
    ("over_threshold", .list ((report.unitsAbove threshold).map .text))]

theorem integers_jsonObject :
    (jsonObject fileName language units threshold).integers =
      (⟨fileName, language, units⟩ : Report).figures := by
  simp only [jsonObject, Json.integers, Json.integersOfEntries, Json.integersOfEntries_int,
    Json.integersOfItems_text]
  simp [figures]

theorem json_eq :
    (⟨fileName, language, units⟩ : Report).json threshold =
      (jsonObject fileName language units threshold).render := rfl

theorem json_of_writable (h : (⟨fileName, language, units⟩ : Report).Writable) :
    (⟨fileName, language, units⟩ : Report).json threshold =
      .ok (String.ofList (Json.write 0 (jsonObject fileName language units threshold))) := by
  rw [json_eq, Json.render_of_fewDigits]
  rw [integers_jsonObject]
  exact fewDigits_figures_iff.mpr h

theorem json_of_not_writable (h : ¬ (⟨fileName, language, units⟩ : Report).Writable) :
    (⟨fileName, language, units⟩ : Report).json threshold = .error tooLong := by
  rw [json_eq, Json.render, withFigures_of_not]
  rwa [integers_jsonObject, fewDigits_figures_iff]

/-- If its figures can be written, the text of a JSON report is ASCII and stands for the members of
the report, in this order. If they cannot, there is no text. -/
theorem json_round_trip (screen : Screen) (threshold : Int) :
    let report : Report := ⟨fileName, language, units⟩
    (report.Writable → ∃ text, report.format screen (.int threshold) .json = .ok text ∧
      (∀ c ∈ text.toList, c.toNat < 128) ∧
      Json.read? text = some (.object [
        ("file_name", .text fileName),
        ("language", .text language),
        ("unit_count", .int report.unitCount),
        ("total_complexity", .int report.totalComplexity),
        ("max_complexity", .int report.maxComplexity),
        ("most_complex_unit", .text report.mostComplexUnit),
        ("units", .object (units.entries.map fun entry => (entry.1, .int entry.2))),
        ("over_threshold", .list ((report.unitsAbove (.int threshold)).map .text))])) ∧
    (¬ report.Writable → report.format screen (.int threshold) .json = .error tooLong) := by
  intro report
  refine ⟨fun h => ?_, fun h => json_of_not_writable fileName language units _ h⟩
  refine ⟨_, json_of_writable fileName language units _ h, ?_, Json.read?_write _⟩
  rw [String.toList_ofList]
  exact Json.isAscii_write _ 0

/-- A file name that is not ASCII, and a unit that is no more complex than the threshold. -/
theorem json_round_trip_of_unit :
    let units : UnitTable := ⟨[("f", 2)]⟩
    let report : Report := ⟨"ü.asm", "Assembler", units⟩
    report.Writable ∧ ∃ text, report.format .plain (.int 2) .json = .ok text ∧
      (∀ c ∈ text.toList, c.toNat < 128) ∧ ∃ members, Json.read? text = some (.object members) ∧
        members.lookup "file_name" = some (.text "ü.asm") ∧
        members.lookup "over_threshold" = some (.list []) := by
  intro units report
  have hfew {n : Int} (h : isWritable n = true) : FewDigits n := isWritable_iff.mp h
  have h : report.Writable :=
    ⟨hfew (by decide), hfew (by decide), fun entry hentry => by
      obtain rfl := List.mem_singleton.mp hentry
      exact hfew (by decide)⟩
  obtain ⟨text, htext, hascii, hread⟩ :=
    (json_round_trip "ü.asm" "Assembler" units .plain 2).1 h
  have habove : report.unitsAbove (.int 2) = [] := by
    have hranked : report.ranked = [("f", 2)] := List.mergeSort_singleton _
    rw [unitsAbove, hranked]
    rfl
  refine ⟨h, text, htext, hascii, _, hread, rfl, ?_⟩
  change some (Json.list ((report.unitsAbove (.int 2)).map .text)) = some (Json.list [])
  rw [habove]
  rfl

/-- The scores are short enough to be written, but their sum is not. -/
theorem no_json_of_long_total :
    twoLongScores.format .plain (.int 10) .json = .error tooLong :=
  json_of_not_writable _ _ _ _ not_writable_twoLongScores

end Cyclomatic.Report
