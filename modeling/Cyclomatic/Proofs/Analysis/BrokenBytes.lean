import Cyclomatic.Proofs.Analysis.Agreement
import Cyclomatic.Proofs.Assembly.Comments
import Cyclomatic.Proofs.Text.ByteLines

/-! # Broken bytes stay inside their line

A file may hold bytes that are no text. They are replaced where they stand and take no terminator,
no semicolon and no other ASCII character with them, so the lines of a file can be decoded one by
one, and the bytes of a comment have no influence on the report, whatever they are. -/

namespace Cyclomatic

open Text

/-! ## Lines of a file -/

theorem sourceLines_sourceOfBytes (content : ByteArray) :
    sourceLines (sourceOfBytes content) = (byteLines content.toList).map decode := by
  rw [← sourceLines_decode]
  exact sourceLinesOnto_normalizeNewlines [] [] _

theorem forall₂_decodes_iff {pieces : List (List UInt8)} {lines : List (List Char)} :
    List.Forall₂ Decodes pieces lines ↔ pieces.map decode = lines := by
  have hsame : Decodes = fun piece line => decode piece = line := by
    funext piece line
    exact propext decodes_iff
  rw [hsame, ← List.forall₂_map_left_iff, List.forall₂_eq_eq_eq]

theorem toList_eq_data (bytes : ByteArray) : bytes.toList = bytes.data.toList := by
  rw [ByteArray.toList, toList_loop]
  rfl

theorem size_eq_zero_iff (bytes : ByteArray) : bytes.size = 0 ↔ bytes.toList = [] := by
  rw [toList_eq_data]
  simp [← ByteArray.size_data]

namespace Assembly

/-! ## Bytes of comments -/

/-- Bytes at their end or at a line terminator. -/
def AtLineEndBytes (bytes : List UInt8) : Prop :=
  ∀ b ∈ bytes.head?, b = 0x0A ∨ b = 0x0D

/-- Two files that differ only in the bytes of their comments, which may be any bytes but those of
the line terminators. -/
inductive SameButCommentBytes : List UInt8 → List UInt8 → Prop where
  | nil : SameButCommentBytes [] []
  /-- Outside comments the bytes agree. -/
  | byte {b content other} (hb : b ≠ 0x3B) (h : SameButCommentBytes content other) :
      SameButCommentBytes (b :: content) (b :: other)
  /-- Both have a semicolon here, and a comment that extends to the end of the line. -/
  | comment {text text' content other} (ht : UnbrokenBytes text) (ht' : UnbrokenBytes text')
      (hc : AtLineEndBytes content) (ho : AtLineEndBytes other)
      (h : SameButCommentBytes content other) :
      SameButCommentBytes (0x3B :: (text ++ content)) (0x3B :: (text' ++ other))

theorem atLineEnd_decode {bytes : List UInt8} (h : AtLineEndBytes bytes) :
    AtLineEnd (decode bytes) := by
  cases bytes with
  | nil => simp [AtLineEnd, decode_nil]
  | cons b rest =>
      rcases h b rfl with rfl | rfl
      · rw [decode_cons_ascii (by decide)]
        exact fun c hc => Or.inl (Option.some.inj hc).symm
      · rw [decode_cons_ascii (by decide)]
        exact fun c hc => Or.inr (Option.some.inj hc).symm

/-- Bytes may be cut wherever a line ends. -/
theorem decode_append_of_atLineEnd (front : List UInt8) {back : List UInt8}
    (h : AtLineEndBytes back) : decode (front ++ back) = decode front ++ decode back := by
  cases back with
  | nil => rw [decode_nil, List.append_nil, List.append_nil]
  | cons b rest =>
      have hascii : b.toNat < 0x80 := by rcases h b rfl with rfl | rfl <;> decide
      rw [decode_append_ascii hascii, decode_cons_ascii hascii]

theorem semicolon_notMem_decode {bytes : List UInt8} (h : 0x3B ∉ bytes) : ';' ∉ decode bytes :=
  fun hmem => h ((decodes_iff.mpr rfl).mem_of_ascii (by decide) hmem)

/-- The texts differ only in the text of their comments. -/
theorem SameButCommentBytes.decode_append {content other : List UInt8}
    (h : SameButCommentBytes content other) {front : List UInt8} (hf : 0x3B ∉ front) :
    SameButComments (decode (front ++ content)) (decode (front ++ other)) := by
  -- The bytes `front` of the unfinished line can only be decoded together with those after them.
  induction h generalizing front with
  | nil =>
      have hnil := SameButComments.append_left (semicolon_notMem_decode hf) .nil
      rwa [List.append_nil] at hnil ⊢
  | @byte b content other hb _ ih =>
      have hmore : 0x3B ∉ front ++ [b] := by simp [hf, hb.symm]
      simpa using ih hmore
  | comment ht ht' hc ho _ ih =>
      rw [decode_append_ascii (by decide), decode_append_ascii (by decide),
        decode_append_of_atLineEnd _ hc, decode_append_of_atLineEnd _ ho]
      exact .append_left (semicolon_notMem_decode hf) (.comment (unbroken_decode ht)
        (unbroken_decode ht') (atLineEnd_decode hc) (atLineEnd_decode ho) (ih List.not_mem_nil))

theorem cleanLines_of_sameButCommentBytes {content other : ByteArray}
    (h : SameButCommentBytes content.toList other.toList) :
    cleanLines (sourceOfBytes content) = cleanLines (sourceOfBytes other) := by
  rw [sourceOfBytes, sourceOfBytes, cleanLines_normalizeNewlines, cleanLines_normalizeNewlines]
  exact (h.decode_append List.not_mem_nil).cleanLines_eq

theorem SameButCommentBytes.ne_nil {content other : List UInt8}
    (h : SameButCommentBytes content other) (hc : content ≠ []) : other ≠ [] := by
  cases h with
  | nil => exact hc
  | byte _ _ => exact List.cons_ne_nil _ _
  | comment _ _ _ _ _ => exact List.cons_ne_nil _ _

end Assembly

/-! ## What is read and reported -/

open Assembly in
/-- The lines of a file's text are its lines of bytes, each decoded by itself, and every byte of an
ASCII character is read as this character. In both dialects the bytes of comments may be replaced by
others without any change to the report, if neither file is too large. -/
theorem brokenBytes_stay_inLine (parser : Java.Parser) (files : FileTree) (path : Path)
    (content : ByteArray) (hfile : files.lookup path = .ok (.file content)) :
    (∃ text, readSource files path = .ok text ∧
      ∀ lines, List.Forall₂ Decodes (byteLines content.toList) lines ↔ sourceLines text = lines) ∧
    (∀ (front back : List UInt8) (b : UInt8), b.toNat < 0x80 →
      decode (front ++ b :: back) = decode front ++ Char.ofNat b.toNat :: decode back) ∧
    ∀ (dialect : Dialect) (key : Option String) (settings : Settings) (limit : Int)
      (others : FileTree) (other : ByteArray) (given : Value) (registry later : Registry),
      SameButCommentBytes content.toList other.toList →
      others.lookup path = .ok (.file other) →
      isBlankPath given = false → pathOf given = .ok path →
      Registry.resolve key (some path.text) = .ok dialect.language →
      settings.maxFileSizeBytes = .ok limit → content.size ≠ 0 →
      content.size ≤ limit → other.size ≤ limit →
      ∃ report, (analyzeFile parser registry settings files given key).result = .ok report ∧
        (analyzeFile parser later settings others given key).result = .ok report := by
  refine ⟨⟨_, readSource_of_file hfile, fun lines => ?_⟩, ?_, ?_⟩
  · rw [forall₂_decodes_iff, sourceLines_sourceOfBytes]
  · intro front back b hb
    exact decode_append_ascii hb front back
  · intro dialect key settings limit others other given registry later hsame hother hgiven hpath
      hresolve hlimit hfull hsize hsize'
    have hfull' : other.size ≠ 0 := by
      rw [Ne, size_eq_zero_iff] at hfull ⊢
      exact hsame.ne_nil hfull
    have hscore := (SameOutcome.of_cleanLines (cleanLines_of_sameButCommentBytes hsame) parser
      dialect (shownPath given)).report
    rw [analyzeFile_of_resolve hresolve hlimit hsize hfull hgiven hpath hfile,
      analyzeFile_of_resolve hresolve hlimit hsize' hfull' hgiven hpath hother,
      ← hscore, calculate_eq]
    exact ⟨_, rfl, rfl⟩

open Assembly in
/-- A character that is cut off by a carriage return, replaced by a byte that starts none and a
second semicolon. -/
theorem brokenBytes_stay_inLine_of_cut_off :
    let content : ByteArray := ⟨#[0x66, 0x3A, 0x3B, 0xE2, 0x82, 0x0D, 0x0A, 0x4A, 0x45]⟩
    let other : ByteArray := ⟨#[0x66, 0x3A, 0x3B, 0xFF, 0x3B, 0x0D, 0x0A, 0x4A, 0x45]⟩
    let bare := FileTree.bare "" ["work"] ["home"]
    let files := bare.add ["work", "a.asm"] (.file content)
    let others := bare.add ["work", "a.asm"] (.file other)
    let settings : Settings := { maxFileSizeMb := .int 1 }
    let parser := Java.parse none
    (∃ text, readSource files (Path.ofString "a.asm") = .ok text) ∧
      decode ([0xE2, 0x82] ++ 0x0D :: [0x0A]) = decode [0xE2, 0x82] ++ '\r' :: decode [0x0A] ∧
      ∃ report,
        (analyzeFile parser .empty settings files (.text "a.asm") none).result = .ok report ∧
        (analyzeFile parser .empty settings others (.text "a.asm") none).result = .ok report := by
  intro content other bare files others settings parser
  obtain ⟨⟨text, hread, -⟩, hascii, hreport⟩ :=
    brokenBytes_stay_inLine parser files (Path.ofString "a.asm") content rfl
  refine ⟨⟨text, hread⟩, hascii [0xE2, 0x82] [0x0A] 0x0D (by decide), ?_⟩
  refine hreport .x86 none settings 1048576 others other (.text "a.asm") .empty .empty ?_ rfl
    (by decide) rfl (by decide) rfl (by decide) (by decide) (by decide)
  have hcode : SameButCommentBytes [0x0D, 0x0A, 0x4A, 0x45] [0x0D, 0x0A, 0x4A, 0x45] :=
    .byte (by decide) (.byte (by decide) (.byte (by decide) (.byte (by decide) .nil)))
  have hcomment : SameButCommentBytes ([0x3B, 0xE2, 0x82] ++ [0x0D, 0x0A, 0x4A, 0x45])
      ([0x3B, 0xFF, 0x3B] ++ [0x0D, 0x0A, 0x4A, 0x45]) :=
    .comment (by decide) (by decide) (by simp [AtLineEndBytes]) (by simp [AtLineEndBytes]) hcode
  rw [toList_eq_data, toList_eq_data]
  exact .byte (by decide) (.byte (by decide) hcomment)

end Cyclomatic
