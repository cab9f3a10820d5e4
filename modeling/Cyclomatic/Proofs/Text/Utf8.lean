import Cyclomatic.Text.Utf8
import Mathlib.Tactic.Common

/-! # Decoding encoded text

Every character is read back from its bytes, whatever bytes follow, so decoding the bytes of a text
gives the text. -/

namespace Cyclomatic.Text

/-! ## Bytes of one character -/

theorem toNat_ofNat_byte {n : Nat} (h : n < 256) : (UInt8.ofNat n).toNat = n :=
  UInt8.toNat_ofNat_of_lt h

theorem readTail_continuation {least greatest n : Nat} (hl : least ≤ n % 64 + 128)
    (hg : n % 64 + 128 ≤ greatest) (count bits more : Nat) (rest : List UInt8) :
    readTail count bits least greatest (more + 1) (UInt8.ofNat (n % 64 + 128) :: rest) =
      readTail (count + 1) (bits * 64 + n % 64) 0x80 0xBF more rest := by
  rw [readTail, toNat_ofNat_byte (by omega)]
  simp [hl, hg]

/-- A continuation byte after the second one may be any. -/
theorem readTail_inner (n count bits more : Nat) (rest : List UInt8) :
    readTail count bits 0x80 0xBF (more + 1) (UInt8.ofNat (n % 64 + 128) :: rest) =
      readTail (count + 1) (bits * 64 + n % 64) 0x80 0xBF more rest :=
  readTail_continuation (by omega) (by omega) count bits more rest

theorem readPiece_lead {n : Nat} {lead : Lead} (hn : n < 256) (h : Lead.ofByte? n = some lead)
    (ha : 128 ≤ n) (rest : List UInt8) :
    readPiece (UInt8.ofNat n) rest =
      readTail 1 lead.bits lead.least lead.greatest lead.more rest := by
  rw [readPiece, toNat_ofNat_byte hn, if_neg (by omega), h]

theorem Lead.ofByte?_two {n : Nat} (hl : 127 < n) (hg : n ≤ 2047) :
    Lead.ofByte? (n / 64 % 32 + 192) = some ⟨1, n / 64, 0x80, 0xBF⟩ := by
  have hbits : n / 64 % 32 + 192 - 0xC0 = n / 64 := by omega
  rw [Lead.ofByte?, if_pos (by simp; omega), hbits]

/-- The bounds of the second byte exclude what has fewer bytes and the surrogates. -/
theorem Lead.ofByte?_three {n : Nat} (hl : 2047 < n) (hg : n ≤ 65535)
    (hv : n < 0xD800 ∨ 0xDFFF < n) :
    ∃ least greatest, Lead.ofByte? (n / 4096 % 16 + 224) = some ⟨2, n / 4096, least, greatest⟩ ∧
      least ≤ n / 64 % 64 + 128 ∧ n / 64 % 64 + 128 ≤ greatest := by
  have hmod : n / 4096 % 16 = n / 4096 := by omega
  rw [hmod]
  by_cases h0 : n / 4096 = 0
  · exact ⟨0xA0, 0xBF, by rw [h0]; rfl, by omega, by omega⟩
  · by_cases hd : n / 4096 = 0xD
    · exact ⟨0x80, 0x9F, by rw [hd]; rfl, by omega, by omega⟩
    · refine ⟨0x80, 0xBF, ?_, by omega, by omega⟩
      have hbits : n / 4096 + 224 - 0xE0 = n / 4096 := by omega
      rw [Lead.ofByte?, if_neg (by simp), if_neg (by simpa using h0),
        if_neg (by simpa using hd), if_pos (by simp; omega), hbits]

theorem Lead.ofByte?_four {n : Nat} (hl : 65535 < n) (hg : n < 0x110000) :
    ∃ least greatest, Lead.ofByte? (n / 262144 % 8 + 240) = some ⟨3, n / 262144, least, greatest⟩ ∧
      least ≤ n / 4096 % 64 + 128 ∧ n / 4096 % 64 + 128 ≤ greatest := by
  have hmod : n / 262144 % 8 = n / 262144 := by omega
  rw [hmod]
  by_cases h0 : n / 262144 = 0
  · exact ⟨0x90, 0xBF, by rw [h0]; rfl, by omega, by omega⟩
  · by_cases h4 : n / 262144 = 4
    · exact ⟨0x80, 0x8F, by rw [h4]; rfl, by omega, by omega⟩
    · refine ⟨0x80, 0xBF, ?_, by omega, by omega⟩
      have hbits : n / 262144 + 240 - 0xF0 = n / 262144 := by omega
      rw [Lead.ofByte?, if_neg (by simp), if_neg (by simp), if_neg (by simp), if_neg (by simp),
        if_neg (by simpa using h0), if_neg (by simpa using h4),
        if_pos (by simp; omega), hbits]

theorem readPiece_one {n : Nat} (h : n ≤ 127) (rest : List UInt8) :
    readPiece (UInt8.ofNat n) rest = (.char (Char.ofNat n), 1, rest) := by
  rw [readPiece, toNat_ofNat_byte (by omega), if_pos (by omega)]

theorem readPiece_two {n : Nat} (hl : 127 < n) (hg : n ≤ 2047) (rest : List UInt8) :
    readPiece (UInt8.ofNat (n / 64 % 32 + 192)) (UInt8.ofNat (n % 64 + 128) :: rest) =
      (.char (Char.ofNat n), 2, rest) := by
  have hsum : n / 64 * 64 + n % 64 = n := by omega
  rw [readPiece_lead (by omega) (Lead.ofByte?_two hl hg) (by omega), readTail_inner, readTail,
    hsum]

theorem readPiece_three {n : Nat} (hl : 2047 < n) (hg : n ≤ 65535)
    (hv : n < 0xD800 ∨ 0xDFFF < n) (rest : List UInt8) :
    readPiece (UInt8.ofNat (n / 4096 % 16 + 224))
        (UInt8.ofNat (n / 64 % 64 + 128) :: UInt8.ofNat (n % 64 + 128) :: rest) =
      (.char (Char.ofNat n), 3, rest) := by
  obtain ⟨least, greatest, hlead, hleast, hgreatest⟩ := Lead.ofByte?_three hl hg hv
  have hsum : (n / 4096 * 64 + n / 64 % 64) * 64 + n % 64 = n := by omega
  rw [readPiece_lead (by omega) hlead (by omega), readTail_continuation hleast hgreatest,
    readTail_inner, readTail, hsum]

theorem readPiece_four {n : Nat} (hl : 65535 < n) (hg : n < 0x110000) (rest : List UInt8) :
    readPiece (UInt8.ofNat (n / 262144 % 8 + 240))
        (UInt8.ofNat (n / 4096 % 64 + 128) :: UInt8.ofNat (n / 64 % 64 + 128) ::
          UInt8.ofNat (n % 64 + 128) :: rest) =
      (.char (Char.ofNat n), 4, rest) := by
  obtain ⟨least, greatest, hlead, hleast, hgreatest⟩ := Lead.ofByte?_four hl hg
  have hsum : ((n / 262144 * 64 + n / 4096 % 64) * 64 + n / 64 % 64) * 64 + n % 64 = n := by
    omega
  rw [readPiece_lead (by omega) hlead (by omega), readTail_continuation hleast hgreatest,
    readTail_inner, readTail_inner, readTail, hsum]

/-- A character stands at the front of its bytes and whatever follows them. -/
theorem readPiece_utf8EncodeChar (c : Char) (rest : List UInt8) :
    ∃ b tail count, String.utf8EncodeChar c ++ rest = b :: tail ∧
      readPiece b tail = (.char c, count, rest) := by
  have hvalid : c.val.toNat < 0xD800 ∨ 0xDFFF < c.val.toNat ∧ c.val.toNat < 0x110000 := c.valid
  have hc : Char.ofNat c.val.toNat = c := Char.ofNat_toNat c
  unfold String.utf8EncodeChar
  generalize c.val.toNat = n at hvalid hc ⊢
  subst hc
  by_cases h1 : n ≤ 127
  · simp only [h1, if_true]
    exact ⟨_, _, _, rfl, readPiece_one h1 rest⟩
  · by_cases h2 : n ≤ 2047
    · simp only [h1, h2, if_true, if_false]
      exact ⟨_, _, _, rfl, readPiece_two (by omega) h2 rest⟩
    · by_cases h3 : n ≤ 65535
      · simp only [h1, h2, h3, if_true, if_false]
        exact ⟨_, _, _, rfl, readPiece_three (by omega) h3 (by omega) rest⟩
      · simp only [h1, h2, h3, if_false]
        exact ⟨_, _, _, rfl, readPiece_four (by omega) (by omega) rest⟩

/-! ## Bytes of a text -/

theorem decodeOnto_utf8EncodeChar (done : List Char) (c : Char) (rest : List UInt8) :
    decodeOnto done (String.utf8EncodeChar c ++ rest) = decodeOnto (c :: done) rest := by
  obtain ⟨b, tail, count, hbytes, hpiece⟩ := readPiece_utf8EncodeChar c rest
  rw [hbytes, decodeOnto]
  simp only [hpiece]

theorem decodeOnto_flatMap (done cs : List Char) :
    decodeOnto done (cs.flatMap String.utf8EncodeChar) = done.reverse ++ cs := by
  induction cs generalizing done with
  | nil => rw [List.flatMap_nil, decodeOnto, List.append_nil]
  | cons c cs ih =>
      rw [List.flatMap_cons, decodeOnto_utf8EncodeChar, ih, List.reverse_cons, List.append_assoc,
        List.singleton_append]

theorem decodeStrictOnto_flatMap (start : Nat) (done cs : List Char) :
    decodeStrictOnto start done (cs.flatMap String.utf8EncodeChar) = .ok (done.reverse ++ cs) := by
  induction cs generalizing start done with
  | nil => rw [List.flatMap_nil, decodeStrictOnto, List.append_nil]
  | cons c cs ih =>
      obtain ⟨b, tail, count, hbytes, hpiece⟩ :=
        readPiece_utf8EncodeChar c (cs.flatMap String.utf8EncodeChar)
      rw [List.flatMap_cons, hbytes, decodeStrictOnto]
      simp only [hpiece]
      rw [ih, List.reverse_cons, List.append_assoc, List.singleton_append]

theorem toList_loop (bytes : ByteArray) (i : Nat) (done : List UInt8) :
    ByteArray.toList.loop bytes i done = done.reverse ++ bytes.data.toList.drop i := by
  fun_induction ByteArray.toList.loop bytes i done with
  | case1 i done h ih =>
      have hi : i < bytes.data.toList.length := by simpa using h
      rw [ih, List.drop_eq_getElem_cons hi]
      simp [ByteArray.get!, h]
  | case2 i done h =>
      have hi : bytes.data.toList.length ≤ i := by simpa using h
      simp [List.drop_eq_nil_of_le hi]

theorem toList_toUTF8 (text : String) :
    text.toUTF8.toList = text.toList.flatMap String.utf8EncodeChar := by
  have hbytes : text.toUTF8 = (text.toList.flatMap String.utf8EncodeChar).toByteArray := by
    conv_lhs => rw [← String.ofList_toList (s := text), String.toUTF8_eq_toByteArray]
    exact String.toByteArray_ofList
  rw [hbytes, ByteArray.toList, toList_loop]
  simp

/-- Decoding undoes encoding. -/
theorem decode_toUTF8 (text : String) : decode text.toUTF8.toList = text.toList := by
  rw [toList_toUTF8, decode, decodeOnto_flatMap, List.reverse_nil, List.nil_append]

/-- The encoding of a text is valid. -/
theorem decodeStrict_toUTF8 (text : String) :
    decodeStrict text.toUTF8.toList = .ok text.toList := by
  rw [toList_toUTF8, decodeStrict, decodeStrictOnto_flatMap, List.reverse_nil, List.nil_append]

end Cyclomatic.Text
