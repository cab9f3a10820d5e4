import Cyclomatic.Proofs.Java.Grammar
import Cyclomatic.Proofs.Java.LongLexemes

/-! # Places of a text and of the rewritten text

Rewriting the line terminators of a text moves what stands after them. Two scanners, one of the text
and one of the rewritten text, are at the same point if the same is left to read for both. They make
tokens in corresponding places, and they go on to the same point again. -/

namespace Cyclomatic.Java

open Text

/-! ## Corresponding places -/

/-- A place before the part `rest` of a text, and the corresponding place of the rewritten text. -/
def At (text rest : List Char) (p q : Nat) : Prop :=
  ∃ front, text = front ++ rest ∧ CleanCut front rest ∧ p = byteSize front ∧
    q = byteSize (normalizeNewlines front)

/-- A place between the two characters of one line terminator, where a line comment ends. -/
def Inside (text rest : List Char) (p q : Nat) : Prop :=
  ∃ more start, rest = '\n' :: more ∧ p = start + 1 ∧ At text ('\r' :: rest) start q

theorem At.advance {text front rest : List Char} {p q : Nat} (h : At text (front ++ rest) p q)
    (hcut : CleanCut front rest) :
    At text rest (p + byteSize front) (q + byteSize (normalizeNewlines front)) := by
  obtain ⟨start, htext, hstart, rfl, rfl⟩ := h
  have hboth : CleanCut start front := hstart.of_append
  refine ⟨start ++ front, ?_, hstart.append hcut, (byteSize_append _ _).symm, ?_⟩
  · rw [htext, List.append_assoc]
  · rw [normalizeNewlines_append hboth, byteSize_append]

/-- What follows the carriage return ends at a place that corresponds again. -/
theorem Inside.advance {text front rest : List Char} {p q : Nat}
    (h : Inside text (front ++ rest) p q) (hfront : front ≠ []) (hcut : CleanCut front rest) :
    At text rest (p + byteSize front) (q + byteSize (normalizeNewlines front)) := by
  obtain ⟨more, start, hmore, rfl, hstart⟩ := h
  obtain ⟨c, front, rfl⟩ := List.exists_cons_of_ne_nil hfront
  obtain rfl : c = '\n' := (List.cons.inj hmore).1
  have hboth : CleanCut ('\r' :: '\n' :: front) rest := by
    rintro ⟨hlast, hhead⟩
    exact hcut ⟨by simpa using hlast, hhead⟩
  have hmoved : At text (('\r' :: '\n' :: front) ++ rest) start q := hstart
  have hend := hmoved.advance hboth
  rw [normalizeNewlines_crlf, byteSize_cons] at hend
  rwa [normalizeNewlines_cons_of_ne (by decide), Nat.add_assoc]

/-- The place after the carriage return at the end of a line. -/
theorem At.inside_after {text line rest : List Char} {p q : Nat}
    (h : At text (line ++ '\r' :: '\n' :: rest) p q) (hline : Unbroken line) :
    Inside text ('\n' :: rest) (p + byteSize (line ++ ['\r'])) (q + byteSize line) := by
  have hend := h.advance (cleanCut_of_unbroken hline _)
  rw [normalizeNewlines_eq_self hline] at hend
  refine ⟨rest, p + byteSize line, rfl, ?_, hend⟩
  rw [byteSize_append, ← Nat.add_assoc]
  rfl

/-- Of two places one comes first. -/
theorem At.compare {text rest more : List Char} {p q p' q' : Nat} (h : At text rest p q)
    (h' : At text more p' q') :
    (∃ front middle, text = front ++ (middle ++ more) ∧ CleanCut front (middle ++ more) ∧
        CleanCut (front ++ middle) more ∧
        p = byteSize front ∧ p' = byteSize front + byteSize middle ∧
        q = byteSize (normalizeNewlines front) ∧
        q' = byteSize (normalizeNewlines front) + byteSize (normalizeNewlines middle)) ∨
      p' < p ∧ q' ≤ q := by
  obtain ⟨front, htext, hcut, rfl, rfl⟩ := h
  obtain ⟨other, hother, hcut', rfl, rfl⟩ := h'
  rcases List.append_eq_append_iff.mp (htext.symm.trans hother) with
    ⟨middle, rfl, rfl⟩ | ⟨middle, rfl, rfl⟩
  · refine Or.inl ⟨front, middle, htext, hcut, hcut', rfl, byteSize_append _ _, rfl, ?_⟩
    rw [normalizeNewlines_append hcut.of_append, byteSize_append]
  · by_cases hnil : middle = []
    · subst hnil
      exact Or.inl ⟨other, [], hother, hcut', by simpa using hcut, by simp, rfl, by simp, rfl⟩
    · have hpos : byteSize middle ≠ 0 := fun h => hnil ((byteSize_eq_zero_iff middle).mp h)
      rw [normalizeNewlines_append hcut'.of_append, byteSize_append, byteSize_append]
      exact Or.inr ⟨by omega, by omega⟩

/-- The texts between corresponding places. -/
theorem textBetween_eq {text front middle more : List Char}
    (htext : text = front ++ (middle ++ more)) (hfront : CleanCut front (middle ++ more))
    (hmiddle : CleanCut (front ++ middle) more) :
    textBetween (String.ofList text).toUTF8 (byteSize front) (byteSize front + byteSize middle) =
        middle ∧
      textBetween (String.ofList (normalizeNewlines text)).toUTF8
        (byteSize (normalizeNewlines front))
        (byteSize (normalizeNewlines front) + byteSize (normalizeNewlines middle)) =
          normalizeNewlines middle := by
  subst htext
  have hrewritten : normalizeNewlines (front ++ (middle ++ more)) =
      normalizeNewlines front ++ (normalizeNewlines middle ++ normalizeNewlines more) := by
    rw [← List.append_assoc, normalizeNewlines_append hmiddle,
      normalizeNewlines_append hfront.of_append, List.append_assoc]
  rw [hrewritten]
  exact ⟨decode_extract_toUTF8 _ _ _, decode_extract_toUTF8 _ _ _⟩

theorem textBetween_of_le (source : ByteArray) {start stop : Nat} (h : stop ≤ start) :
    textBetween source start stop = [] := by
  rw [textBetween, extract_of_le source h, decode, decodeOnto, List.reverse_nil]

theorem At.eq_iff {text rest more : List Char} {p q p' q' : Nat} (h : At text rest p q)
    (h' : At text more p' q') : p = p' ↔ q = q' := by
  have hempty (middle : List Char) :
      byteSize middle = 0 ↔ byteSize (normalizeNewlines middle) = 0 := by
    rw [byteSize_eq_zero_iff, byteSize_eq_zero_iff, normalizeNewlines_eq_nil_iff]
  rcases h.compare h' with ⟨front, middle, -, -, -, rfl, rfl, rfl, rfl⟩ | ⟨hlt, -⟩
  · have := hempty middle
    omega
  · rcases h'.compare h with ⟨front, middle, -, -, -, rfl, rfl, rfl, rfl⟩ | ⟨hlt', -⟩
    · have := hempty middle
      omega
    · omega

theorem At.words_eq {text rest more : List Char} {p q p' q' : Nat} (h : At text rest p q)
    (h' : At text more p' q') :
    words (textBetween (String.ofList text).toUTF8 p p') =
      words (textBetween (String.ofList (normalizeNewlines text)).toUTF8 q q') := by
  rcases h.compare h' with
    ⟨front, middle, htext, hfront, hmiddle, rfl, rfl, rfl, rfl⟩ | ⟨hlt, hle⟩
  · obtain ⟨hsource, hother⟩ := textBetween_eq htext hfront hmiddle
    rw [hsource, hother, words_normalizeNewlines]
  · rw [textBetween_of_le _ (Nat.le_of_lt hlt), textBetween_of_le _ hle]

/-- A carriage return at the end of a line comment belongs to no word. -/
theorem Inside.words_eq {text rest more : List Char} {p q p' q' : Nat} (h : At text rest p q)
    (h' : Inside text more p' q') :
    words (textBetween (String.ofList text).toUTF8 p p') =
      words (textBetween (String.ofList (normalizeNewlines text)).toUTF8 q q') := by
  obtain ⟨tail, start, rfl, rfl, hstart⟩ := h'
  rcases h.compare hstart with
    ⟨front, middle, htext, hfront, hmiddle, rfl, rfl, rfl, rfl⟩ | ⟨hlt, hle⟩
  · obtain ⟨-, hother⟩ := textBetween_eq htext hfront hmiddle
    have hsource : textBetween (String.ofList text).toUTF8 (byteSize front)
        (byteSize front + byteSize middle + 1) = middle ++ ['\r'] := by
      have hsize : byteSize front + byteSize middle + 1 =
          byteSize front + byteSize (middle ++ ['\r']) := by
        rw [byteSize_append, ← Nat.add_assoc]
        rfl
      rw [hsize, htext, List.append_cons middle]
      exact decode_extract_toUTF8 _ _ _
    rw [hsource, hother, words_normalizeNewlines, words_append_blank (by decide)]
  · rw [textBetween_of_le _ hlt, textBetween_of_le _ hle]

/-- Where tokens of a text and of the rewritten text correspond. -/
def newlinePlaces (text : List Char) : Correspondence (String.ofList text).toUTF8
    (String.ofList (normalizeNewlines text)).toUTF8 where
  same p q := ∃ rest, At text rest p q
  ends p q := (∃ rest, At text rest p q) ∨ ∃ rest, Inside text rest p q
  ends_of_same := Or.inl
  eq_iff := fun ⟨_, h⟩ ⟨_, h'⟩ => h.eq_iff h'
  words_eq := by
    rintro p q p' q' ⟨rest, h⟩ (⟨more, h'⟩ | ⟨more, h'⟩)
    · exact h.words_eq h'
    · exact h'.words_eq h
  words_whole := by
    rw [decode_toUTF8, decode_toUTF8, String.toList_ofList, String.toList_ofList,
      words_normalizeNewlines]

/-! ## Scanners side by side -/

/-- Two scanners that are at the same point of a text and of the rewritten text. -/
structure Scanners (text : List Char) (scanner partner : Scanner) : Prop where
  rest : partner.rest = normalizeNewlines scanner.rest
  strings : partner.strings = scanner.strings
  comments : List.Forall₂ (newlinePlaces text).Comments scanner.comments partner.comments
  tokens : List.Forall₂ (newlinePlaces text).Tokens scanner.tokens partner.tokens

/-- Two scanners whose places correspond. -/
def Aligned (text : List Char) (scanner partner : Scanner) : Prop :=
  Scanners text scanner partner ∧
    At text scanner.rest scanner.place.offset partner.place.offset

/-- Two scanners of which the first may also be inside of a line terminator. -/
def Follows (text : List Char) (scanner partner : Scanner) : Prop :=
  Scanners text scanner partner ∧
    (At text scanner.rest scanner.place.offset partner.place.offset ∨
      Inside text scanner.rest scanner.place.offset partner.place.offset)

theorem Aligned.follows {text : List Char} {scanner partner : Scanner}
    (h : Aligned text scanner partner) : Follows text scanner partner :=
  ⟨h.1, Or.inl h.2⟩

theorem skip_append (front rest : List Char) (place : Place) :
    (Scanner.skip front.length (front ++ rest) place).1 = rest ∧
      (Scanner.skip front.length (front ++ rest) place).2.offset =
        place.offset + byteSize front := by
  induction front generalizing place with
  | nil => exact ⟨rfl, rfl⟩
  | cons c front ih =>
      obtain ⟨hrest, hoffset⟩ := ih (place.after c)
      have hafter : (place.after c).offset = place.offset + c.utf8Size := by
        unfold Place.after
        split <;> rfl
      rw [List.length_cons, List.cons_append, Scanner.skip]
      refine ⟨hrest, ?_⟩
      rw [hoffset, hafter, byteSize_cons, Nat.add_assoc]

/-- Both scanners move on to the same point. -/
theorem skip_reached {text cs rest : List Char} {n n' : Nat} (h : Reached cs 0 0 n n' rest)
    {place partner : Place}
    (hat : At text cs place.offset partner.offset ∨
      Inside text cs place.offset partner.offset ∧ 0 < n) :
    (Scanner.skip n cs place).1 = rest ∧
      (Scanner.skip n' (normalizeNewlines cs) partner).1 = normalizeNewlines rest ∧
      At text rest (Scanner.skip n cs place).2.offset
        (Scanner.skip n' (normalizeNewlines cs) partner).2.offset := by
  obtain ⟨front, rfl, hcut, rfl, rfl⟩ := h
  rw [Nat.zero_add] at hat ⊢
  rw [Nat.zero_add, normalizeNewlines_append hcut]
  obtain ⟨hrest, hoffset⟩ := skip_append front rest place
  obtain ⟨hrest', hoffset'⟩ :=
    skip_append (normalizeNewlines front) (normalizeNewlines rest) partner
  rw [hoffset, hoffset']
  refine ⟨hrest, hrest', ?_⟩
  rcases hat with hat | ⟨hinside, hpos⟩
  · exact hat.advance hcut
  · exact hinside.advance (List.length_pos_iff.mp hpos) hcut

/-- The text of a lexeme on one line is the same in both texts. -/
theorem At.text_eq {text line rest : List Char} {p q : Nat} (h : At text (line ++ rest) p q)
    (hline : Unbroken line) :
    textBetween (String.ofList text).toUTF8 p (p + byteSize line) =
      textBetween (String.ofList (normalizeNewlines text)).toUTF8 q (q + byteSize line) := by
  obtain ⟨front, htext, hcut, rfl, rfl⟩ := h
  obtain ⟨hsource, hother⟩ :=
    textBetween_eq htext hcut (hcut.append (cleanCut_of_unbroken hline rest))
  rw [normalizeNewlines_eq_self hline] at hother
  rw [hsource, hother]

section

variable {text rest : List Char} {scanner partner : Scanner} {n n' : Nat}

theorem Follows.aligned (h : Follows text scanner partner)
    (hhead : scanner.rest.head? ≠ some '\n') : Aligned text scanner partner := by
  refine ⟨h.1, h.2.resolve_right ?_⟩
  rintro ⟨more, start, hrest, -⟩
  exact hhead (by rw [hrest, List.head?_cons])

theorem Follows.ignore (h : Follows text scanner partner)
    (hr : Reached scanner.rest 0 0 n n' rest) (hn : 0 < n) :
    Aligned text (scanner.ignore n) (partner.ignore n') ∧ (scanner.ignore n).rest = rest := by
  obtain ⟨hrest, hrest', hat⟩ := skip_reached hr (h.2.imp_right fun hinside => ⟨hinside, hn⟩)
  rw [← h.1.rest] at hrest' hat
  rw [← hrest] at hat
  refine ⟨⟨{ h.1 with rest := ?_ }, hat⟩, hrest⟩
  exact hrest'.trans (congrArg normalizeNewlines hrest.symm)

theorem Aligned.text_eq (h : Aligned text scanner partner) (hn : Agrees scanner.rest n n') :
    textBetween (String.ofList text).toUTF8 scanner.place.offset
        (Scanner.skip n scanner.rest scanner.place).2.offset =
      textBetween (String.ofList (normalizeNewlines text)).toUTF8 partner.place.offset
        (Scanner.skip n' partner.rest partner.place).2.offset := by
  obtain ⟨rfl, line, more, hline, rfl, hunbroken⟩ := hn
  have hat := h.2
  rw [h.1.rest, hline, normalizeNewlines_unbroken hunbroken] at *
  rw [(skip_append line more _).2, (skip_append line (normalizeNewlines more) _).2]
  exact hat.text_eq hunbroken

theorem Aligned.emit (h : Aligned text scanner partner) (hr : Reached scanner.rest 0 0 n n' rest)
    (kind : TokenKind) (hword : ∀ word, kind = .word word → Agrees scanner.rest n n') :
    Aligned text (scanner.emit kind n) (partner.emit kind n') ∧
      (scanner.emit kind n).rest = rest := by
  obtain ⟨hrest, hrest', hat⟩ := skip_reached hr (Or.inl h.2)
  rw [← h.1.rest] at hrest' hat
  rw [← hrest] at hat
  refine ⟨⟨⟨?_, h.1.strings, .nil, .cons ?_ h.1.tokens⟩, hat⟩, hrest⟩
  · exact hrest'.trans (congrArg normalizeNewlines hrest.symm)
  · exact ⟨rfl, ⟨_, h.2⟩, ⟨_, hat⟩, List.rel_reverse h.1.comments,
      fun word hkind => h.text_eq (hword word hkind)⟩

theorem Aligned.comment (h : Aligned text scanner partner) (toLineEnd : Bool)
    (hr : Reached scanner.rest 0 0 n n' rest) :
    Aligned text (scanner.comment toLineEnd n) (partner.comment toLineEnd n') ∧
      (scanner.comment toLineEnd n).rest = rest := by
  obtain ⟨hrest, hrest', hat⟩ := skip_reached hr (Or.inl h.2)
  rw [← h.1.rest] at hrest' hat
  rw [← hrest] at hat
  refine ⟨⟨{ h.1 with rest := ?_, comments := .cons ?_ h.1.comments }, hat⟩, hrest⟩
  · exact hrest'.trans (congrArg normalizeNewlines hrest.symm)
  · exact ⟨⟨⟨_, h.2⟩, Or.inl ⟨_, hat⟩⟩, rfl⟩

/-- A line comment that takes in the carriage return before the line feed. -/
theorem Aligned.comment_return (h : Aligned text scanner partner) {line : List Char}
    (hline : Unbroken line) (hrest : scanner.rest = line ++ '\r' :: '\n' :: rest) :
    Follows text (scanner.comment true (line.length + 1)) (partner.comment true line.length) ∧
      (scanner.comment true (line.length + 1)).rest = '\n' :: rest := by
  have hother : partner.rest = line ++ normalizeNewlines ('\n' :: rest) := by
    rw [h.1.rest, hrest, normalizeNewlines_unbroken hline, normalizeNewlines_crlf,
      normalizeNewlines_cons_of_ne (by decide)]
  obtain ⟨hskip, hoffset⟩ := skip_append (line ++ ['\r']) ('\n' :: rest) scanner.place
  obtain ⟨hskip', hoffset'⟩ :=
    skip_append line (normalizeNewlines ('\n' :: rest)) partner.place
  rw [List.append_assoc, List.singleton_append, List.length_append, List.length_singleton,
    ← hrest] at hskip hoffset
  rw [← hother] at hskip' hoffset'
  have hinside := (hrest ▸ h.2).inside_after hline
  rw [← hoffset, ← hoffset', ← hskip] at hinside
  refine ⟨⟨{ h.1 with rest := ?_, comments := .cons ?_ h.1.comments }, Or.inr hinside⟩, hskip⟩
  · exact hskip'.trans (congrArg normalizeNewlines hskip.symm)
  · exact ⟨⟨⟨_, h.2⟩, Or.inr ⟨_, hinside⟩⟩, rfl⟩

end

end Cyclomatic.Java
