import Cyclomatic.Proofs.Java.Places

/-! # Line endings of Java source

A source text and the text with its line terminators rewritten are cut into tokens side by side.
As long as no carriage return stands where only a line feed would end a comment or a character, the
tokens correspond, and so do the trees. -/

namespace Cyclomatic.Java

open Text

/-! ## One step -/

/-- Both scanners have gone on, the first from before `cs` and the other from before `ds`. -/
structure Next (text cs ds : List Char) (scanner partner : Scanner) : Prop where
  follows : Follows text scanner partner
  shorter : scanner.rest.length < cs.length
  shorterPartner : partner.rest.length < ds.length

section

variable {text rest : List Char} {scanner partner : Scanner} {n n' : Nat}

theorem Scanners.next (h : Scanners text scanner partner) (hr : Reached scanner.rest 0 0 n n' rest)
    (hn : 0 < n) {next nextPartner : Scanner}
    (hnext : Aligned text next nextPartner ∧ next.rest = rest) :
    Next text scanner.rest partner.rest next nextPartner := by
  obtain ⟨haligned, rfl⟩ := hnext
  obtain ⟨hlength, hlength'⟩ := hr.shorter hn
  rw [← h.rest, ← haligned.1.rest] at hlength'
  exact ⟨haligned.follows, hlength, hlength'⟩

theorem Next.trans {cs ds : List Char} {last lastPartner : Scanner}
    (h : Next text cs ds scanner partner)
    (h' : Next text scanner.rest partner.rest last lastPartner) :
    Next text cs ds last lastPartner :=
  ⟨h'.follows, h'.shorter.trans h.shorter, h'.shorterPartner.trans h.shorterPartner⟩

theorem Aligned.next_emit (h : Aligned text scanner partner) (hn : Agrees scanner.rest n n')
    (hpos : 0 < n) (kind : TokenKind) :
    Next text scanner.rest partner.rest (scanner.emit kind n) (partner.emit kind n') :=
  h.1.next hn.reached hpos (h.emit hn.reached kind fun _ _ => hn)

theorem Aligned.withStrings (h : Aligned text scanner partner) (strings : List OpenString) :
    Aligned text { scanner with strings } { partner with strings } :=
  ⟨{ h.1 with strings := rfl }, h.2⟩

/-- A part of a string and what ends it. -/
theorem Aligned.string? (h : Aligned text scanner partner) (kind : TokenKind)
    (hkind : ∀ word, kind ≠ .word word) (isBlock : Bool) {opening : Nat}
    (hopening : Clear opening scanner.rest) (hpos : 0 < opening) :
    Option.Rel (Next text scanner.rest partner.rest) (scanner.string? kind isBlock opening)
      (partner.string? kind isBlock opening) := by
  have hpart := readAlike isBlock (scanner.rest.drop opening) 0 0
  rw [← hopening.drop_normalizeNewlines, ← h.1.rest] at hpart
  unfold Scanner.string?
  rcases rel_cases hpart with ⟨hn, hn'⟩ | ⟨⟨n, ending⟩, ⟨n', ending'⟩, hn, hn', hsame⟩
  · rw [stringFrom] at hn hn'
    simp only [hn, hn', Option.bind_eq_bind, Option.bind_none]
    exact .none
  · obtain ⟨rfl, rest, hclear, hreached⟩ := hsame
    have hstart := hreached.after hopening
    have hstarted := h.emit hstart kind fun word hword => absurd hword (hkind word)
    have hnext := h.1.next hstart (by omega) hstarted
    obtain ⟨haligned, rfl⟩ := hstarted
    rw [stringFrom] at hn hn'
    simp only [hn, hn', Option.bind_eq_bind, Option.bind_some]
    cases ending with
    | closed =>
        have hpos := StringEnding.closed.length_pos isBlock
        exact .some (hnext.trans (haligned.next_emit ⟨rfl, hclear⟩ hpos .stringEnd))
    | hole =>
        have hend : Agrees (scanner.emit kind (opening + n)).rest 2 2 := ⟨rfl, hclear⟩
        have hopened := haligned.withStrings (⟨isBlock, 0⟩ :: scanner.strings)
        rw [haligned.1.strings]
        exact .some (hnext.trans (hopened.next_emit hend (by decide) .holeStart))

theorem Aligned.brace? (h : Aligned text scanner partner) (hn : Clear 1 scanner.rest)
    (symbol : String) :
    Option.Rel (Next text scanner.rest partner.rest) (scanner.brace? symbol)
      (partner.brace? symbol) := by
  have hemit (strings : List OpenString) :
      Next text scanner.rest partner.rest ({ scanner with strings }.emit (.symbol symbol) 1)
        ({ partner with strings }.emit (.symbol symbol) 1) :=
    (h.withStrings strings).next_emit ⟨rfl, hn⟩ (by decide) _
  unfold Scanner.brace?
  rw [h.1.strings]
  match scanner.strings with
  | [] => exact .some (h.next_emit ⟨rfl, hn⟩ (by decide) _)
  | ⟨isBlock, braces⟩ :: outer =>
      dsimp only
      split
      · exact .some (hemit _)
      · cases braces with
        | zero => exact (h.withStrings outer).string? .holeEnd nofun isBlock hn (by decide)
        | succ braces => exact .some (hemit _)

end

/-! ## Which lexeme comes next -/

/-- The operator or punctuation that comes next. -/
def Scanner.symbol? (scanner : Scanner) : Option Scanner :=
  match symbolAt? scanner.rest with
  | some symbol =>
      if symbol == openBrace || symbol == closeBrace then scanner.brace? symbol
      else some (scanner.emit (.symbol symbol) symbol.length)
  | none => none

theorem isPrefixOf_eq_false {front cs : List Char} (h : ∀ tail, cs ≠ front ++ tail) :
    front.isPrefixOf cs = false := by
  refine Bool.eq_false_iff.mpr fun hstarts => ?_
  obtain ⟨tail, htail⟩ := List.isPrefixOf_iff_prefix.mp hstarts
  exact h tail htail.symm

/-- The lexeme that comes next, told by its first characters. -/
theorem Scanner.step?_eq (scanner : Scanner) :
    scanner.step? =
      if ['/', '/'].isPrefixOf scanner.rest then
        some (scanner.comment true (run (· != '\n') scanner.rest))
      else if ['/', '*'].isPrefixOf scanner.rest then
        if blockCommentTail 2 (scanner.rest.drop 2) = 0 then none
        else some (scanner.comment false (blockCommentTail 2 (scanner.rest.drop 2)))
      else if ['"', '"', '"'].isPrefixOf scanner.rest then scanner.string? .stringStart true 3
      else if ['"'].isPrefixOf scanner.rest then scanner.string? .stringStart false 1
      else if scanner.rest.head?.any isSpace then some (scanner.ignore (run isSpace scanner.rest))
      else if scanner.rest.head?.any isWordStart then
        some (scanner.emit (.word (String.ofList (scanner.rest.take (wordLength scanner.rest))))
          (wordLength scanner.rest))
      else if ['\''].isPrefixOf scanner.rest then
        if characterLength scanner.rest = 0 then none
        else some (scanner.emit .character (characterLength scanner.rest))
      else if numberLength scanner.rest = 0 then scanner.symbol?
      else some (scanner.emit .number (numberLength scanner.rest)) := by
  obtain ⟨cs, place, strings, comments, tokens⟩ := scanner
  unfold Scanner.step?
  dsimp only
  split
  · rfl
  · next rest =>
      rw [run_cons (by decide), run_cons (by decide), ← Nat.add_assoc]
      rfl
  · next rest => cases hend : blockCommentTail 2 rest <;> simp [hend]
  · rfl
  · next rest hblock =>
      have hplain : ['"', '"', '"'].isPrefixOf ('"' :: rest) = false :=
        isPrefixOf_eq_false (by simpa using hblock)
      rw [hplain]
      rfl
  · next c rest hline hblock htext hstring =>
      have hquote : ['\''].isPrefixOf (c :: rest) = (c == '\'') := by
        rw [List.isPrefixOf, List.isPrefixOf, Bool.and_true, Bool.beq_comm]
      rw [isPrefixOf_eq_false (by simpa using hline), isPrefixOf_eq_false (by simpa using hblock),
        isPrefixOf_eq_false (by simpa using htext), isPrefixOf_eq_false (by simpa using hstring),
        hquote]
      simp only [Bool.false_eq_true, if_false, List.head?_cons, Option.any_some]
      refine ite_congr rfl (fun hspace => ?_) fun _ => ite_congr rfl (fun _ => rfl) fun _ =>
        ite_congr rfl (fun _ => ?_) fun _ => ?_
      · rw [run_cons hspace]
      · cases characterLength (c :: rest) <;> simp
      · cases numberLength (c :: rest) <;> rfl

/-- No carriage return at the front of a text makes a difference to where the next lexeme ends. -/
def returnsHarmlessNext : List Char → Bool
  | '/' :: '/' :: rest => returnsEndLine rest
  | '\'' :: rest => returnsOutsideQuotes rest
  | _ => true

section

variable {text : List Char} {scanner partner : Scanner}

theorem Aligned.comment_line (h : Aligned text scanner partner)
    (hhead : scanner.rest.head? = some '/') (hreturns : returnsEndLine scanner.rest = true) :
    Next text scanner.rest partner.rest
      (scanner.comment true (run (· != '\n') scanner.rest))
      (partner.comment true (run (· != '\n') partner.rest)) := by
  -- Either no carriage return is in the line, or the comment takes it in and only the other
  -- scanner stops before the whole terminator.
  rcases lineComment_cases hreturns with
    ⟨line, rest, hrest, hline, hstop⟩ | ⟨line, rest, hrest, hline⟩
  · have hagrees := run_agrees hline hstop
    rw [← hrest, ← h.1.rest] at hagrees
    have hpos : 0 < run (· != '\n') scanner.rest := run_pos (by rw [hhead]; rfl)
    exact h.1.next hagrees.reached hpos (h.comment true hagrees.reached)
  · obtain ⟨hlength, hlength'⟩ := run_return hline rest
    obtain ⟨hfollows, hleft⟩ := h.comment_return hline hrest
    rw [← hrest] at hlength hlength'
    rw [← h.1.rest] at hlength'
    rw [hlength, hlength']
    have hnonempty : 0 < line.length := by
      refine List.length_pos_iff.mpr ?_
      rintro rfl
      rw [hrest] at hhead
      cases hhead
    refine ⟨hfollows, ?_, ?_⟩
    · rw [hleft, hrest, List.length_append, List.length_cons, List.length_cons, List.length_cons]
      omega
    · rw [hfollows.1.rest, hleft, h.1.rest, hrest, normalizeNewlines_unbroken hline,
        normalizeNewlines_crlf, normalizeNewlines_cons_of_ne (by decide), List.length_append]
      omega

theorem Aligned.word (h : Aligned text scanner partner)
    (hstart : scanner.rest.head?.any isWordStart = true) :
    Next text scanner.rest partner.rest
      (scanner.emit (.word (String.ofList (scanner.rest.take (wordLength scanner.rest))))
        (wordLength scanner.rest))
      (partner.emit (.word (String.ofList (partner.rest.take (wordLength partner.rest))))
        (wordLength partner.rest)) := by
  have hagrees := onOneLine_wordLength scanner.rest
  have hpos : 0 < wordLength scanner.rest := by
    cases hrest : scanner.rest with
    | nil =>
        rw [hrest] at hstart
        cases hstart
    | cons c rest =>
        rw [hrest, List.head?_cons, Option.any_some] at hstart
        rw [wordLength, if_pos hstart]
        omega
  have htake := hagrees.take
  rw [← h.1.rest] at hagrees htake
  rw [htake]
  exact h.next_emit hagrees hpos _

theorem Aligned.symbol? (h : Aligned text scanner partner) :
    Option.Rel (Next text scanner.rest partner.rest) scanner.symbol? partner.symbol? := by
  have hsame : symbolAt? partner.rest = symbolAt? scanner.rest := by
    rw [h.1.rest, symbolAt?_normalizeNewlines]
  unfold Scanner.symbol?
  rw [hsame]
  cases hsymbol : symbolAt? scanner.rest with
  | none => exact .none
  | some symbol =>
      have hclear := clear_of_symbolAt? hsymbol
      have hpos := length_pos_of_mem_symbols symbol (List.mem_of_find?_eq_some hsymbol)
      exact rel_ite rfl (fun _ => h.brace? (hclear.mono hpos) symbol)
        fun _ => .some (h.next_emit ⟨rfl, hclear⟩ hpos _)

theorem Aligned.comment_block (h : Aligned text scanner partner) {rest : List Char}
    (hrest : scanner.rest = '/' :: '*' :: rest) :
    Option.Rel (Next text scanner.rest partner.rest)
      (if blockCommentTail 2 (scanner.rest.drop 2) = 0 then none
        else some (scanner.comment false (blockCommentTail 2 (scanner.rest.drop 2))))
      (if blockCommentTail 2 (partner.rest.drop 2) = 0 then none
        else some (partner.comment false (blockCommentTail 2 (partner.rest.drop 2)))) := by
  have hsource : scanner.rest.drop 2 = rest := by
    rw [hrest]
    rfl
  have hother : partner.rest.drop 2 = normalizeNewlines rest := by
    rw [h.1.rest, hrest, normalizeNewlines_cons_of_ne (by decide),
      normalizeNewlines_cons_of_ne (by decide)]
    rfl
  rw [hsource, hother]
  refine Reached.rel ?_ fun tail hr hn =>
    h.1.next hr hn (h.comment false hr)
  rw [hrest]
  refine (blockCommentTail_reached rest 2 2).imp_right fun ⟨tail, hr⟩ => ⟨tail, ?_⟩
  exact hr.prepend ['/', '*'] (cleanCut_of_getLast? (by decide))

theorem Aligned.character (h : Aligned text scanner partner) {rest : List Char}
    (hrest : scanner.rest = '\'' :: rest) (hreturns : returnsOutsideQuotes rest = true) :
    Option.Rel (Next text scanner.rest partner.rest)
      (if characterLength scanner.rest = 0 then none
        else some (scanner.emit .character (characterLength scanner.rest)))
      (if characterLength partner.rest = 0 then none
        else some (partner.emit .character (characterLength partner.rest))) := by
  refine Reached.rel ?_ fun tail hr hn =>
    h.1.next hr hn (h.emit hr .character nofun)
  rw [h.1.rest, hrest, normalizeNewlines_cons_of_ne (by decide)]
  exact characterLength_reached hreturns

theorem Aligned.number (h : Aligned text scanner partner) :
    Option.Rel (Next text scanner.rest partner.rest)
      (if numberLength scanner.rest = 0 then scanner.symbol?
        else some (scanner.emit .number (numberLength scanner.rest)))
      (if numberLength partner.rest = 0 then partner.symbol?
        else some (partner.emit .number (numberLength partner.rest))) := by
  have hagrees := onOneLine_numberLength scanner.rest
  rw [← h.1.rest] at hagrees
  by_cases hzero : numberLength scanner.rest = 0
  · rw [if_pos hzero, if_pos (hagrees.1.trans hzero)]
    exact h.symbol?
  · rw [if_neg hzero, if_neg fun hzero' => hzero (hagrees.1.symm.trans hzero')]
    exact .some (h.next_emit hagrees (Nat.pos_of_ne_zero hzero) .number)

/-- Scanners that follow each other find the same lexeme, unless a carriage return stands in its
way. -/
theorem Follows.step? (h : Follows text scanner partner)
    (hharmless : returnsHarmlessNext scanner.rest = true) :
    Option.Rel (Next text scanner.rest partner.rest) scanner.step? partner.step? := by
  have hsame {front : List Char} (hfront : Unbroken front) :
      front.isPrefixOf partner.rest = front.isPrefixOf scanner.rest := by
    rw [h.1.rest, isPrefixOf_normalizeNewlines hfront]
  have hfirst {p : Char → Bool} (hp : p '\r' = p '\n') :
      partner.rest.head?.any p = scanner.rest.head?.any p := by
    rw [h.1.rest, any_head?_normalizeNewlines hp]
  -- Only before a line feed may the first scanner be inside of a terminator.
  have haligned {c : Char} {front : List Char} (hc : c ≠ '\n')
      (hstarts : (c :: front).isPrefixOf scanner.rest = true) : Aligned text scanner partner := by
    obtain ⟨tail, htail⟩ := List.isPrefixOf_iff_prefix.mp hstarts
    refine h.aligned ?_
    rw [← htail, List.cons_append, List.head?_cons]
    exact fun heq => hc (Option.some.inj heq)
  have hnoSpace (hspace : scanner.rest.head?.any isSpace = false) :
      Aligned text scanner partner := by
    refine h.aligned fun hhead => ?_
    rw [hhead] at hspace
    cases hspace
  rw [Scanner.step?_eq, Scanner.step?_eq]
  refine rel_ite (hsame (by decide)) (fun hline => ?_) fun _ =>
    rel_ite (hsame (by decide)) (fun hblock => ?_) fun _ =>
    rel_ite (hsame (by decide)) (fun htext => ?_) fun _ =>
    rel_ite (hsame (by decide)) (fun hstring => ?_) fun _ =>
    rel_ite (hfirst (by decide)) (fun hspace => ?_) fun hspace =>
    rel_ite (hfirst (by decide)) (fun hword => ?_) fun _ =>
    rel_ite (hsame (by decide)) (fun hquote => ?_) fun _ => ?_
  · obtain ⟨rest, hrest⟩ := List.isPrefixOf_iff_prefix.mp hline
    rw [← hrest] at hharmless
    have hhead : scanner.rest.head? = some '/' := by
      rw [← hrest]
      rfl
    exact .some ((haligned (by decide) hline).comment_line hhead (hrest ▸ hharmless))
  · obtain ⟨rest, hrest⟩ := List.isPrefixOf_iff_prefix.mp hblock
    exact (haligned (by decide) hblock).comment_block hrest.symm
  · obtain ⟨rest, hrest⟩ := List.isPrefixOf_iff_prefix.mp htext
    have hopening : Clear 3 scanner.rest := ⟨_, rest, hrest.symm, rfl, by decide⟩
    exact (haligned (by decide) htext).string? .stringStart nofun true hopening (by decide)
  · obtain ⟨rest, hrest⟩ := List.isPrefixOf_iff_prefix.mp hstring
    have hopening : Clear 1 scanner.rest := ⟨_, rest, hrest.symm, rfl, by decide⟩
    exact (haligned (by decide) hstring).string? .stringStart nofun false hopening (by decide)
  · have hr := reached_run_isSpace scanner.rest
    rw [← h.1.rest] at hr
    have hpos := run_pos hspace
    exact .some (h.1.next hr hpos (h.ignore hr hpos))
  · exact .some ((hnoSpace hspace).word hword)
  · obtain ⟨rest, hrest⟩ := List.isPrefixOf_iff_prefix.mp hquote
    rw [← hrest] at hharmless
    exact (haligned (by decide) hquote).character hrest.symm hharmless
  · exact (hnoSpace hspace).number

end

/-! ## The whole text -/

/-- No carriage return makes a difference to the next lexemes. -/
def returnsHarmlessWithin : Nat → Scanner → Bool
  | 0, _ => true
  | rounds + 1, scanner =>
      returnsHarmlessNext scanner.rest &&
        match scanner.step? with
        | some next => returnsHarmlessWithin rounds next
        | none => true

/-- No carriage return makes a difference to where a lexeme of a source text ends: in line comments
each one is followed by the line feed, and between single quotes none is a character of its own, nor
is one escaped that is followed by the line feed. -/
def returnsHarmless (source : List Char) : Bool :=
  returnsHarmlessWithin (Scanner.start source).rest.length (Scanner.start source)

theorem Scanner.runWithin_nil (rounds : Nat) {scanner : Scanner} (h : scanner.rest = []) :
    Scanner.runWithin rounds scanner = some scanner := by
  cases rounds <;> rw [Scanner.runWithin, h] <;> rfl

theorem Scanner.runWithin_succ (rounds : Nat) {scanner : Scanner} (h : scanner.rest ≠ []) :
    Scanner.runWithin (rounds + 1) scanner =
      scanner.step?.bind (Scanner.runWithin rounds) := by
  rw [Scanner.runWithin, if_neg (by simpa using h)]
  cases scanner.step? <;> rfl

/-- Scanners that follow each other end together. -/
theorem Follows.runWithin {text : List Char} {scanner partner : Scanner} {rounds rounds' : Nat}
    (h : Follows text scanner partner) (hr : scanner.rest.length ≤ rounds)
    (hr' : partner.rest.length ≤ rounds')
    (hharmless : returnsHarmlessWithin rounds scanner = true) :
    Option.Rel (Aligned text) (Scanner.runWithin rounds scanner)
      (Scanner.runWithin rounds' partner) := by
  induction rounds generalizing scanner partner rounds' with
  | zero =>
      have hrest := List.length_eq_zero_iff.mp (Nat.le_zero.mp hr)
      have hrest' : partner.rest = [] := by rw [h.1.rest, hrest, normalizeNewlines_nil]
      rw [Scanner.runWithin_nil 0 hrest, Scanner.runWithin_nil rounds' hrest']
      exact .some (h.aligned (by simp [hrest]))
  | succ rounds ih =>
      by_cases hrest : scanner.rest = []
      · have hrest' : partner.rest = [] := by rw [h.1.rest, hrest, normalizeNewlines_nil]
        rw [Scanner.runWithin_nil _ hrest, Scanner.runWithin_nil rounds' hrest']
        exact .some (h.aligned (by simp [hrest]))
      · have hrest' : partner.rest ≠ [] := by
          rwa [h.1.rest, ne_eq, normalizeNewlines_eq_nil_iff]
        obtain ⟨rounds', rfl⟩ : ∃ k, rounds' = k + 1 := by
          have := List.length_pos_iff.mpr hrest'
          exact ⟨rounds' - 1, by omega⟩
        obtain ⟨hnext, hlater⟩ := Bool.and_eq_true_iff.mp hharmless
        rw [Scanner.runWithin_succ rounds hrest, Scanner.runWithin_succ rounds' hrest']
        rcases rel_cases (h.step? hnext) with ⟨hs, hp⟩ | ⟨next, nextPartner, hs, hp, hboth⟩
        · rw [hs, hp]
          exact .none
        · rw [hs] at hlater
          rw [hs, hp, Option.bind_some, Option.bind_some]
          have hshorter := hboth.shorter
          have hshorter' := hboth.shorterPartner
          exact ih hboth.follows (by omega) (by omega) hlater

theorem aligned_start (text : List Char) :
    Aligned text (Scanner.start text) (Scanner.start (normalizeNewlines text)) := by
  have hstart : Aligned text ⟨text, {}, [], [], []⟩ ⟨normalizeNewlines text, {}, [], [], []⟩ :=
    ⟨⟨rfl, rfl, .nil, .nil⟩, [], rfl, cleanCut_nil text, rfl, rfl⟩
  unfold Scanner.start
  rw [head?_beq_some, head?_beq_some, any_head?_normalizeNewlines (by decide)]
  cases hmark : text.head?.any (· == '\uFEFF') with
  | false => exact hstart
  | true =>
      have hone : Agrees text 1 1 :=
        ⟨rfl, clear_one (p := (· == '\uFEFF')) (by decide) (by decide) hmark⟩
      exact (hstart.follows.ignore hone.reached (by decide)).1

theorem tokenize_rel {text : List Char} (h : returnsHarmless text = true) :
    Option.Rel (List.Forall₂ (newlinePlaces text).Tokens) (tokenize text)
      (tokenize (normalizeNewlines text)) := by
  have hrun := (aligned_start text).follows.runWithin (Nat.le_refl _) (Nat.le_refl _) h
  unfold tokenize
  dsimp only
  rcases rel_cases hrun with ⟨hs, hp⟩ | ⟨last, partner, hs, hp, hlast⟩
  · rw [hs, hp]
    exact .none
  · rw [hs, hp]
    have hfinish := hlast.emit (Agrees.zero _).reached .finish nofun
    exact rel_ite (by rw [hlast.1.strings])
      (fun _ => .some (List.rel_reverse hfinish.1.1.tokens)) fun _ => .none

/-- A source text has a syntax tree exactly if the rewritten text has one, and the two trees are
reported alike. -/
theorem parse?_rel {text : List Char} (h : returnsHarmless text = true) :
    Option.Rel Alike (parse? text) (parse? (normalizeNewlines text)) := by
  rw [Correspondence.parse?_eq, Correspondence.parse?_eq]
  rcases rel_cases (tokenize_rel h) with ⟨hs, hp⟩ | ⟨tokens, partners, hs, hp, htokens⟩
  · rw [hs, hp]
    exact .none
  · rw [hs, hp]
    exact (newlinePlaces text).treeOf_rel htokens

end Cyclomatic.Java
