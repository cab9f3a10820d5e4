import Cyclomatic.Java.Cursor
import Cyclomatic.Proofs.Java.Alike
import Mathlib.Data.List.TakeDrop

/-! # Two readings side by side

A rule of the grammar looks at the kinds of tokens and at whether tokens adjoin. The places of the
tokens and the bytes between them only go into the nodes that it makes. So if the tokens of two
source texts correspond, the rules succeed on both or on none, and the nodes correspond too. -/

namespace Cyclomatic.Java

open Text

/-- The text between two places of a source. -/
def textBetween (source : ByteArray) (start stop : Nat) : List Char :=
  decode (source.extract start stop).toList

/-- Which places of two source texts correspond: those where tokens and comments may start, and
those where comments may end, too. -/
structure Correspondence (source other : ByteArray) where
  same : Nat → Nat → Prop
  ends : Nat → Nat → Prop
  ends_of_same : ∀ {p q}, same p q → ends p q
  eq_iff : ∀ {p q p' q'}, same p q → same p' q' → (p = p' ↔ q = q')
  words_eq : ∀ {p q p' q'}, same p q → ends p' q' →
    words (textBetween source p p') = words (textBetween other q q')
  words_whole : words (decode source.toList) = words (decode other.toList)

namespace Correspondence

variable {source other : ByteArray} (places : Correspondence source other)

/-! ## What corresponds -/

/-- Parts of the two texts that start and end at corresponding places. -/
structure Extents (extent partner : Extent) : Prop where
  start : places.same extent.start.offset partner.start.offset
  stop : places.ends extent.stop.offset partner.stop.offset

/-- Comments in corresponding places. -/
structure Comments (comment partner : Comment) : Prop where
  extent : places.Extents comment.extent partner.extent
  toLineEnd : comment.toLineEnd = partner.toLineEnd

/-- Tokens of one kind in corresponding places, and words with the same text. -/
structure Tokens (token partner : Token) : Prop where
  kind : token.kind = partner.kind
  start : places.same token.extent.start.offset partner.extent.start.offset
  stop : places.same token.extent.stop.offset partner.extent.stop.offset
  comments : List.Forall₂ places.Comments token.comments partner.comments
  text : ∀ word, token.kind = .word word →
    textBetween source token.extent.start.offset token.extent.stop.offset =
      textBetween other partner.extent.start.offset partner.extent.stop.offset

/-- Collected nodes that correspond. If they are `exact`, what stands in the field `name` has the
same text. -/
structure Children (exact : Bool) (child partner : Child) : Prop where
  field : child.field = partner.field
  isComment : child.isComment = partner.isComment
  extent : places.Extents child.extent partner.extent
  node : Alike child.node partner.node
  name : exact = true → child.field = some "name" → child.node.text = partner.node.text
  comment : child.isComment = true → child.field = none

/-- States of the two readings that correspond. -/
structure Cursors (exact : Bool) (cursor partner : Cursor) : Prop where
  ofSource : cursor.source = source
  ofOther : partner.source = other
  rest : List.Forall₂ places.Tokens cursor.rest partner.rest
  children : List.Forall₂ (places.Children exact) cursor.children partner.children

/-- A rule succeeds on both readings or on none, and corresponding states stay so. -/
def Maps (before after : Bool) (rule : Rule) : Prop :=
  ∀ ⦃cursor partner⦄, places.Cursors before cursor partner →
    Option.Rel (places.Cursors after) (rule cursor) (rule partner)

/-- A rule keeps readings exact. -/
class Respects (rule : Rule) : Prop where
  maps : places.Maps true true rule

variable {places}

theorem Tokens.extents {first last partner lastPartner : Token}
    (hf : places.Tokens first partner) (hl : places.Tokens last lastPartner) :
    places.Extents ⟨first.extent.start, last.extent.stop⟩
      ⟨partner.extent.start, lastPartner.extent.stop⟩ :=
  ⟨hf.start, places.ends_of_same hl.stop⟩

theorem Tokens.adjoins_eq {first second partner secondPartner : Token}
    (hf : places.Tokens first partner) (hs : places.Tokens second secondPartner) :
    first.adjoins second = partner.adjoins secondPartner := by
  have hiff := places.eq_iff hf.stop hs.start
  simp only [Token.adjoins, Bool.beq_eq_decide_eq, decide_eq_decide]
  exact hiff

/-! ## Leaves -/

section Leaves

variable {exact : Bool} {cursor partner : Cursor}

theorem Cursors.text_leaf (h : places.Cursors exact cursor partner) (kind : String)
    (named : Bool) (extent : Extent) :
    (cursor.leaf kind named extent).text =
      textBetween source extent.start.offset extent.stop.offset := by
  rw [← h.ofSource]
  rfl

theorem Cursors.text_leaf_partner (h : places.Cursors exact cursor partner) (kind : String)
    (named : Bool) (extent : Extent) :
    (partner.leaf kind named extent).text =
      textBetween other extent.start.offset extent.stop.offset := by
  rw [← h.ofOther]
  rfl

theorem Cursors.words_leaf (h : places.Cursors exact cursor partner) (kind : String)
    (named : Bool) {extent extentPartner : Extent}
    (hextent : places.Extents extent extentPartner) :
    words (cursor.leaf kind named extent).text =
      words (partner.leaf kind named extentPartner).text := by
  rw [h.text_leaf, h.text_leaf_partner]
  exact places.words_eq hextent.start hextent.stop

theorem Cursors.leaf (h : places.Cursors exact cursor partner) (kind : String) (named : Bool)
    {extent extentPartner : Extent} (hextent : places.Extents extent extentPartner) :
    Alike (cursor.leaf kind named extent) (partner.leaf kind named extentPartner) :=
  .intro rfl rfl rfl (h.words_leaf kind named hextent) (fun _ => rfl) .nil

theorem Cursors.pushComment (h : places.Cursors exact cursor partner)
    {comment commentPartner : Comment} (hc : places.Comments comment commentPartner) :
    places.Cursors exact (cursor.pushComment comment) (partner.pushComment commentPartner) := by
  have hleaf :=
    h.leaf (if comment.toLineEnd then "line_comment" else "block_comment") true hc.extent
  unfold Cursor.pushComment
  rw [← hc.toLineEnd]
  exact { h with children := .cons ⟨rfl, rfl, hc.extent, hleaf, nofun, fun _ => rfl⟩ h.children }

theorem Cursors.pushComments (h : places.Cursors exact cursor partner)
    {comments partners : List Comment} (hc : List.Forall₂ places.Comments comments partners) :
    places.Cursors exact (comments.foldl Cursor.pushComment cursor)
      (partners.foldl Cursor.pushComment partner) := by
  induction hc generalizing cursor partner with
  | nil => exact h
  | cons hfirst _ ih => exact ih (h.pushComment hfirst)

theorem Cursors.pushLeaf (h : places.Cursors exact cursor partner) (kind : String) (named : Bool)
    {first last firstPartner lastPartner : Token} {rest restPartner : List Token}
    (hf : places.Tokens first firstPartner) (hl : places.Tokens last lastPartner)
    (hr : List.Forall₂ places.Tokens rest restPartner) :
    places.Cursors exact (cursor.pushLeaf kind named first last rest)
      (partner.pushLeaf kind named firstPartner lastPartner restPartner) := by
  have hnoted := h.pushComments hf.comments
  have hextent := hf.extents hl
  exact { hnoted with
    rest := hr
    children := .cons ⟨rfl, rfl, hextent, hnoted.leaf kind named hextent, nofun, nofun⟩
      hnoted.children }

end Leaves

/-! ## Rules put together -/

section Combinators

variable {before after last : Bool} {rule next : Rule} {cursor partner : Cursor}

theorem Maps.nothing : places.Maps before before Rule.nothing :=
  fun _ _ h => .some h

theorem Maps.andThen (hr : places.Maps before after rule) (hn : places.Maps after last next) :
    places.Maps before last (rule >=> next) := by
  intro cursor partner h
  change Option.Rel _ ((rule cursor).bind next) ((rule partner).bind next)
  rcases rel_cases (hr h) with ⟨hc, hp⟩ | ⟨middle, middlePartner, hc, hp, hmiddle⟩
  · rw [hc, hp]
    exact .none
  · rw [hc, hp]
    exact hn hmiddle

theorem Maps.oneOf_nil : places.Maps before after (Rule.oneOf []) :=
  fun _ _ _ => .none

theorem Maps.oneOf_append {rules more : List Rule}
    (hr : places.Maps before after (Rule.oneOf rules))
    (hm : places.Maps before after (Rule.oneOf more)) :
    places.Maps before after (Rule.oneOf (rules ++ more)) := by
  intro cursor partner h
  have hrules := hr h
  have hmore := hm h
  simp only [Rule.oneOf, List.findSome?_append] at hrules hmore ⊢
  rcases rel_cases hrules with ⟨hc, hp⟩ | ⟨next, nextPartner, hc, hp, hnext⟩
  · rw [hc, hp]
    exact hmore
  · rw [hc, hp]
    exact .some hnext

theorem Maps.oneOf_cons {rules : List Rule} (hr : places.Maps before after rule)
    (hm : places.Maps before after (Rule.oneOf rules)) :
    places.Maps before after (Rule.oneOf (rule :: rules)) := by
  have hone : Rule.oneOf [rule] = rule := by
    funext cursor
    simp [Rule.oneOf]
  rw [← hone] at hr
  exact hr.oneOf_append hm

theorem Maps.oneOf {rules : List Rule} (h : ∀ rule ∈ rules, places.Maps before after rule) :
    places.Maps before after (Rule.oneOf rules) := by
  induction rules with
  | nil => exact Maps.oneOf_nil
  | cons rule rules ih =>
      obtain ⟨hfirst, hrest⟩ := List.forall_mem_cons.mp h
      exact Maps.oneOf_cons hfirst (ih hrest)

theorem Maps.maybe (hr : places.Maps before before rule) :
    places.Maps before before (Rule.maybe rule) := by
  intro cursor partner h
  unfold Rule.maybe
  rcases rel_cases (hr h) with ⟨hc, hp⟩ | ⟨next, nextPartner, hc, hp, hnext⟩
  · rw [hc, hp]
    exact .some h
  · rw [hc, hp]
    exact .some hnext

/-- Both readings have as many tokens ahead, so the repetition is bounded alike. -/
theorem Maps.manyWithin (hr : places.Maps before before rule) {bound partnerBound : List Token}
    (hb : bound.length = partnerBound.length) :
    ∀ ⦃cursor partner⦄, places.Cursors before cursor partner →
      Option.Rel (places.Cursors before) (Rule.manyWithin rule bound cursor)
        (Rule.manyWithin rule partnerBound partner) := by
  induction bound generalizing partnerBound with
  | nil =>
      intro cursor partner h
      obtain rfl := List.length_eq_zero_iff.mp hb.symm
      exact .some h
  | cons token bound ih =>
      intro cursor partner h
      cases partnerBound with
      | nil => cases hb
      | cons tokenPartner partnerBound =>
          rw [Rule.manyWithin, Rule.manyWithin]
          rcases rel_cases (hr h) with ⟨hc, hp⟩ | ⟨next, nextPartner, hc, hp, hnext⟩
          · rw [hc, hp]
            exact .some h
          · rw [hc, hp]
            exact ih (Nat.succ.inj hb) hnext

theorem Maps.many (hr : places.Maps before before rule) :
    places.Maps before before (Rule.many rule) :=
  fun _ _ h => hr.manyWithin h.rest.length_eq h

theorem Maps.isSome_eq (hr : places.Maps before after rule) {cursor partner : Cursor}
    (h : places.Cursors before cursor partner) :
    (rule cursor).isSome = (rule partner).isSome := by
  rcases rel_cases (hr h) with ⟨hc, hp⟩ | ⟨next, nextPartner, hc, hp, -⟩
  · rw [hc, hp]
  · rw [hc, hp]
    rfl

theorem Maps.ahead (hr : places.Maps before after rule) :
    places.Maps before before (Rule.ahead rule) := by
  intro cursor partner h
  rw [Rule.ahead, Rule.ahead, hr.isSome_eq h]
  cases (rule partner).isSome with
  | true => exact .some h
  | false => exact .none

theorem Maps.notAhead (hr : places.Maps before after rule) :
    places.Maps before before (Rule.notAhead rule) := by
  intro cursor partner h
  rw [Rule.notAhead, Rule.notAhead, hr.isSome_eq h]
  cases (rule partner).isSome with
  | true => exact .none
  | false => exact .some h

/-! ## Nodes put together -/

theorem Cursors.empty (h : places.Cursors before cursor partner) :
    places.Cursors true { cursor with children := [] } { partner with children := [] } :=
  { h with children := .nil }

/-- A frame starts with an empty collection, whatever was collected before. -/
theorem Cursors.frame (h : places.Cursors before cursor partner) (rule : Rule)
    (hr : Option.Rel (places.Cursors after) (rule { cursor with children := [] })
      (rule { partner with children := [] })) :
    Option.Rel (places.Cursors (before && after)) (Rule.frame rule cursor)
      (Rule.frame rule partner) := by
  unfold Rule.frame
  rcases rel_cases hr with ⟨hc, hp⟩ | ⟨inner, innerPartner, hc, hp, hinner⟩
  · rw [hc, hp]
    exact .none
  · rw [hc, hp]
    refine .some { hinner with children := List.rel_append ?_ ?_ }
    · refine hinner.children.imp fun child childPartner hchild => { hchild with name := ?_ }
      intro hexact
      exact hchild.name (Bool.and_eq_true_iff.mp hexact).2
    · refine h.children.imp fun child childPartner hchild => { hchild with name := ?_ }
      intro hexact
      exact hchild.name (Bool.and_eq_true_iff.mp hexact).1

theorem Maps.frame (hr : places.Maps true after rule) :
    places.Maps before (before && after) (Rule.frame rule) :=
  fun _ _ h => h.frame rule (hr h.empty)

theorem Maps.tag {field : String} (h : after = true → before = true ∧ field ≠ "name") :
    places.Maps before after (Rule.tag field) := by
  intro cursor partner hc
  refine .some { hc with children := List.rel_map ?_ hc.children }
  intro child childPartner hchild
  dsimp only
  by_cases hcomment : child.isComment = true
  · rw [if_pos hcomment, if_pos (hchild.isComment ▸ hcomment)]
    exact { hchild with name := fun hexact => hchild.name (h hexact).1 }
  · rw [if_neg hcomment, if_neg (hchild.isComment ▸ hcomment)]
    refine { hchild with field := rfl, name := ?_, comment := fun h => absurd h hcomment }
    intro hexact hname
    exact absurd (Option.some.inj hname) (h hexact).2

/-- Comments have no field, so they are exact in any case. -/
theorem forall₂_span {exact : Bool} {children partners : List Child}
    (h : List.Forall₂ (places.Children exact) children partners) :
    List.Forall₂ (places.Children true) (children.span (·.isComment)).1
        (partners.span (·.isComment)).1 ∧
      List.Forall₂ (places.Children exact) (children.span (·.isComment)).2
        (partners.span (·.isComment)).2 := by
  simp only [List.span_eq_takeWhile_dropWhile]
  induction h with
  | nil => exact ⟨.nil, .nil⟩
  | @cons child partner children partners hfirst hrest ih =>
      rw [List.takeWhile_cons, List.takeWhile_cons, List.dropWhile_cons, List.dropWhile_cons,
        ← hfirst.isComment]
      cases hcomment : child.isComment with
      | true =>
          refine ⟨.cons { hfirst with name := fun _ hname => ?_ } ih.1, ih.2⟩
          rw [hfirst.comment hcomment] at hname
          cases hname
      | false => exact ⟨.nil, .cons hfirst hrest⟩

theorem fieldsFrom_eq {exact : Bool} {children partners : List Child}
    (h : List.Forall₂ (places.Children exact) children partners) (index : Nat) :
    Rule.fieldsFrom index children = Rule.fieldsFrom index partners := by
  induction h generalizing index with
  | nil => rfl
  | cons hfirst _ ih => rw [Rule.fieldsFrom, Rule.fieldsFrom, hfirst.field, ih]

theorem field_of_lookup {children : List Child} {index found : Nat} {field : String}
    (h : (Rule.fieldsFrom index children).lookup field = some found) :
    ∃ i child, found = index + i ∧ children[i]? = some child ∧ child.field = some field := by
  induction children generalizing index with
  | nil => cases h
  | cons child children ih =>
      have hnext : (Rule.fieldsFrom (index + 1) children).lookup field = some found →
          ∃ i child', found = index + i ∧ (child :: children)[i]? = some child' ∧
            child'.field = some field := by
        intro hlater
        obtain ⟨i, child', hfound, hchild, hfield⟩ := ih hlater
        exact ⟨i + 1, child', by omega, hchild, hfield⟩
      rw [Rule.fieldsFrom] at h
      cases hfield : child.field with
      | none =>
          rw [hfield] at h
          exact hnext h
      | some own =>
          rw [hfield] at h
          by_cases hown : field = own
          · subst hown
            simp only [List.lookup_cons_self, Option.some.injEq] at h
            exact ⟨0, child, h.symm, rfl, hfield⟩
          · rw [List.lookup_cons, beq_eq_false_iff_ne.mpr hown] at h
            exact hnext h

/-- The name of a node made of exact children has one text. -/
theorem textOf_name {children partners : List Child}
    (h : List.Forall₂ (places.Children true) children partners) {node partner : Node}
    (hc : node.children = children.map (·.node)) (hp : partner.children = partners.map (·.node))
    (hf : node.fields = Rule.fieldsFrom 0 children) (hpf : partner.fields = node.fields) :
    textOf (node.child? "name") = textOf (partner.child? "name") := by
  rw [Node.child?, Node.child?, hpf, hc, hp]
  cases hlookup : node.fields.lookup "name" with
  | none => rfl
  | some found =>
      rw [hf] at hlookup
      obtain ⟨i, child, hfound, hchild, hname⟩ := field_of_lookup hlookup
      have hrel := rel_getElem? h i
      rw [Nat.zero_add] at hfound
      subst hfound
      rw [hchild] at hrel
      simp only [Option.bind_some, List.getElem?_map, hchild]
      generalize partners[found]? = found' at hrel ⊢
      cases hrel with
      | some hrelated => exact hrelated.name rfl hname

theorem rel_getLast? {α β : Type} {R : α → β → Prop} {xs : List α} {ys : List β}
    (h : List.Forall₂ R xs ys) : Option.Rel R xs.getLast? ys.getLast? := by
  rw [List.getLast?_eq_head?_reverse, List.getLast?_eq_head?_reverse]
  have hreverse := List.rel_reverse h
  generalize xs.reverse = front at hreverse ⊢
  generalize ys.reverse = back at hreverse ⊢
  cases hreverse with
  | nil => exact .none
  | cons hfirst _ => exact .some hfirst

/-- A unit is made of exact children only. -/
theorem Maps.close {kind : String} (h : before = true ∨ kind ∉ unitKinds) :
    places.Maps before true (Rule.close kind) := by
  intro cursor partner hc
  obtain ⟨hcomments, hbody⟩ := forall₂_span (List.rel_reverse hc.children)
  unfold Rule.close
  generalize cursor.children.reverse.span (·.isComment) = parts at hcomments hbody ⊢
  generalize partner.children.reverse.span (·.isComment) = partnerParts at hcomments hbody ⊢
  obtain ⟨comments, body⟩ := parts
  obtain ⟨partnerComments, partnerBody⟩ := partnerParts
  dsimp only at hcomments hbody ⊢
  cases hbody with
  | nil => exact .none
  | @cons first firstPartner body partnerBody hfirst hbody =>
      have hall := List.Forall₂.cons hfirst hbody
      rcases rel_cases (rel_getLast? hall) with
        ⟨hnone, -⟩ | ⟨last, lastPartner, hlast, hlastPartner, hrelated⟩
      · cases List.getLast?_eq_none_iff.mp hnone
      · have hextent : places.Extents ⟨first.extent.start, last.extent.stop⟩
            ⟨firstPartner.extent.start, lastPartner.extent.stop⟩ :=
          ⟨hfirst.extent.start, hrelated.extent.stop⟩
        rw [hlast, hlastPartner]
        refine .some { hc with
          children := .cons ⟨rfl, rfl, hextent, ?_, nofun, nofun⟩ (List.rel_reverse hcomments) }
        refine .intro rfl rfl (fieldsFrom_eq hall 0) (hc.words_leaf kind true hextent) ?_
          (List.rel_map (fun _ _ hchild => hchild.node) hall)
        intro hunit
        rcases h with rfl | hkind
        · exact textOf_name hall rfl rfl rfl (fieldsFrom_eq hall 0).symm
        · exact absurd (List.contains_iff_mem.mp hunit) hkind

end Combinators

/-! ## Single tokens -/

section Single

variable {exact : Bool} {cursor partner : Cursor}

theorem Cursors.rest_cases (h : places.Cursors exact cursor partner) :
    (cursor.rest = [] ∧ partner.rest = []) ∨
      ∃ first rest firstPartner restPartner,
        cursor.rest = first :: rest ∧ partner.rest = firstPartner :: restPartner ∧
        places.Tokens first firstPartner ∧ List.Forall₂ places.Tokens rest restPartner := by
  have hrest := h.rest
  cases hc : cursor.rest with
  | nil =>
      rw [hc] at hrest
      exact Or.inl ⟨rfl, List.forall₂_nil_left_iff.mp hrest⟩
  | cons first rest =>
      rw [hc] at hrest
      obtain ⟨firstPartner, restPartner, hfirst, hmore, hp⟩ :=
        List.forall₂_cons_left_iff.mp hrest
      exact Or.inr ⟨first, rest, firstPartner, restPartner, rfl, hp, hfirst, hmore⟩

/-- A rule that looks at the kind of the next token and makes a leaf of it. -/
theorem Maps.ofFirst {rule : Rule} (passes : TokenKind → Bool) (kind : String) (named : Bool)
    (hnil : ∀ cursor : Cursor, cursor.rest = [] → rule cursor = none)
    (hcons : ∀ (cursor : Cursor) first rest, cursor.rest = first :: rest →
      rule cursor = if passes first.kind then some (cursor.pushLeaf kind named first first rest)
        else none) :
    places.Maps exact exact rule := by
  intro cursor partner h
  rcases h.rest_cases with ⟨hc, hp⟩ | ⟨first, rest, firstPartner, restPartner, hc, hp, hf, hr⟩
  · rw [hnil cursor hc, hnil partner hp]
    exact .none
  · rw [hcons cursor first rest hc, hcons partner firstPartner restPartner hp, ← hf.kind]
    exact rel_ite rfl (fun _ => .some (h.pushLeaf kind named hf hf hr)) fun _ => .none

theorem Maps.token (kind : TokenKind) (name : String) :
    places.Maps exact exact (Rule.token kind name) := by
  refine Maps.ofFirst (· = kind) name true (fun cursor hc => ?_) fun cursor first rest hc => ?_
  · simp only [Rule.token, hc]
  · simp only [Rule.token, hc, decide_eq_true_eq]

theorem Maps.keyword (word : String) : places.Maps exact exact (Rule.keyword word) := by
  refine Maps.ofFirst (· = .word word) word false (fun cursor hc => ?_)
    fun cursor first rest hc => ?_
  · simp only [Rule.keyword, hc]
  · simp only [Rule.keyword, hc, decide_eq_true_eq]

/-- A word that is accepted. -/
def isWord (accepts : String → Bool) : TokenKind → Bool
  | .word word => accepts word
  | _ => false

theorem Maps.keywordAs (kind : String) (words : List String) :
    places.Maps exact exact (Rule.keywordAs kind words) := by
  refine Maps.ofFirst (isWord fun word => words.contains word) kind true
    (fun cursor hc => ?_) fun cursor first rest hc => ?_
  · simp only [Rule.keywordAs, hc]
  · simp only [Rule.keywordAs, hc]
    cases first.kind <;> rfl

theorem Maps.nameAs (kind : String) (reserved : List String) :
    places.Maps exact exact (Rule.nameAs kind reserved) := by
  refine Maps.ofFirst (isWord fun word => !reserved.contains word) kind true
    (fun cursor hc => ?_) fun cursor first rest hc => ?_
  · simp only [Rule.nameAs, hc]
  · simp only [Rule.nameAs, hc]
    cases first.kind with
    | word word => by_cases hword : word ∈ reserved <;> simp [isWord, hword]
    | _ => rfl

theorem Tokens.joined? {last partner : Token} (hl : places.Tokens last partner)
    (texts : List String) {rest restPartner : List Token}
    (hr : List.Forall₂ places.Tokens rest restPartner) :
    Option.Rel (fun a b => places.Tokens a.1 b.1 ∧ List.Forall₂ places.Tokens a.2 b.2)
      (Rule.joined? last texts rest) (Rule.joined? partner texts restPartner) := by
  induction texts generalizing last partner rest restPartner with
  | nil => exact .some ⟨hl, hr⟩
  | cons text texts ih =>
      cases hr with
      | nil => exact .none
      | cons hnext hmore =>
          rw [Rule.joined?, Rule.joined?, ← hnext.kind, ← hl.adjoins_eq hnext]
          split
          · exact ih hnext hmore
          · exact .none

theorem Maps.joined (text : String) (more : List String) (kind : String) :
    places.Maps exact exact (Rule.joined text more kind) := by
  intro cursor partner h
  rcases h.rest_cases with ⟨hc, hp⟩ | ⟨first, rest, firstPartner, restPartner, hc, hp, hf, hr⟩
  · simp only [Rule.joined, hc, hp]
    exact .none
  · simp only [Rule.joined, hc, hp, ← hf.kind]
    split
    · rcases rel_cases (hf.joined? more hr) with
        ⟨hn, hpn⟩ | ⟨⟨last, after⟩, ⟨lp, ap⟩, hn, hpn, hl, ha⟩
      · rw [hn, hpn]
        exact .none
      · rw [hn, hpn]
        exact .some (h.pushLeaf kind false hf hl ha)
    · exact .none

theorem Maps.madeOf (kinds : List String) : places.Maps exact exact (Rule.madeOf kinds) := by
  intro cursor partner h
  have hchildren := h.children
  unfold Rule.madeOf
  cases hc : cursor.children with
  | nil =>
      rw [hc] at hchildren
      rw [List.forall₂_nil_left_iff.mp hchildren]
      exact .none
  | cons child children =>
      rw [hc] at hchildren
      obtain ⟨childPartner, partners, hchild, -, hp⟩ := List.forall₂_cons_left_iff.mp hchildren
      rw [hp]
      dsimp only
      rw [← hchild.node.kind_eq]
      split
      · exact .some h
      · exact .none

theorem isComment_of_mem_pushComments {comments : List Comment} {cursor : Cursor} {child : Child}
    (h : child ∈ (comments.foldl Cursor.pushComment cursor).children) :
    child ∈ cursor.children ∨ child.isComment = true := by
  induction comments generalizing cursor with
  | nil => exact Or.inl h
  | cons comment comments ih =>
      rcases ih h with hmem | hcomment
      · rcases List.mem_cons.mp hmem with rfl | hmem
        · exact Or.inr rfl
        · exact Or.inl hmem
      · exact Or.inr hcomment

/-- After a single token there is one node that is no comment. -/
theorem tag_pushLeaf (field kind : String) (named : Bool) (first last : Token)
    (rest : List Token) {cursor : Cursor} (h : cursor.children = []) :
    Rule.tag field (cursor.pushLeaf kind named first last rest) =
      some { cursor.pushLeaf kind named first last rest with
        children :=
          ⟨some field, ⟨first.extent.start, last.extent.stop⟩, false,
            (first.comments.foldl Cursor.pushComment cursor).leaf kind named
              ⟨first.extent.start, last.extent.stop⟩⟩ ::
            (first.comments.foldl Cursor.pushComment cursor).children } := by
  have hcomments : (first.comments.foldl Cursor.pushComment cursor).children.map
      (fun child => if child.isComment then child else { child with field := some field }) =
        (first.comments.foldl Cursor.pushComment cursor).children := by
    refine (List.map_congr_left fun child hmem => ?_).trans (List.map_id _)
    rcases isComment_of_mem_pushComments hmem with hold | hcomment
    · rw [h] at hold
      cases hold
    · exact if_pos hcomment
  simp only [Rule.tag, Cursor.pushLeaf, List.map_cons, hcomments]
  rfl

theorem Cursors.nameAs_tag (h : places.Cursors true cursor partner)
    (hc : cursor.children = []) (hp : partner.children = []) (kind : String)
    (reserved : List String) :
    Option.Rel (places.Cursors true)
      ((Rule.nameAs kind reserved cursor).bind (Rule.tag "name"))
      ((Rule.nameAs kind reserved partner).bind (Rule.tag "name")) := by
  unfold Rule.nameAs
  rcases h.rest_cases with ⟨hr, hrp⟩ | ⟨first, rest, firstPartner, restPartner, hr, hrp, hf, hm⟩
  · rw [hr, hrp]
    exact .none
  · rw [hr, hrp]
    dsimp only
    rw [← hf.kind]
    cases hkind : first.kind with
    | word word =>
        dsimp only
        split
        · exact .none
        · have hnoted := h.pushComments hf.comments
          have hextent := hf.extents hf
          rw [Option.bind_some, Option.bind_some, tag_pushLeaf _ _ _ _ _ _ hc,
            tag_pushLeaf _ _ _ _ _ _ hp]
          refine .some { hnoted with
            rest := hm
            children := .cons ⟨rfl, rfl, hextent, hnoted.leaf kind true hextent, ?_, nofun⟩
              hnoted.children }
          intro _ _
          rw [hnoted.text_leaf, hnoted.text_leaf_partner]
          exact hf.text word hkind
    | _ => exact .none

/-- A name that is a single word has the same text in both readings. -/
theorem Maps.name (kind : String) (reserved : List String) :
    places.Maps exact exact (Rule.field "name" (Rule.nameAs kind reserved)) := by
  intro cursor partner h
  have hframe := h.frame (Rule.nameAs kind reserved >=> Rule.tag "name")
    (h.empty.nameAs_tag rfl rfl kind reserved)
  rwa [Bool.and_true] at hframe

end Single

/-! ## Rules that keep readings exact -/

/-- A text is in a list. -/
class Among (text : String) (texts : List String) : Prop where
  mem : text ∈ texts

instance (text : String) (texts : List String) : Among text (text :: texts) :=
  ⟨List.mem_cons_self⟩

instance (text first : String) (texts : List String) [Among text texts] :
    Among text (first :: texts) :=
  ⟨List.mem_cons_of_mem first Among.mem⟩

/-- The fields of the grammar that are not the name of anything. -/
abbrev otherFields : List String := [
  "body", "type", "value", "arguments", "object", "type_arguments", "field", "array", "index",
  "template_processor", "template_argument", "dimensions", "condition", "consequence",
  "alternative", "parameters", "type_parameters", "left", "operator", "right", "operand",
  "pattern", "scope", "key", "element", "declarator", "constructor", "init", "update",
  "resources", "superclass", "interfaces", "permits"]

theorem ne_name_of_among {field : String} [Among field otherFields] : field ≠ "name" := by
  have hall : ∀ other ∈ otherFields, other ≠ "name" := by decide
  exact hall field Among.mem

section Instances

variable {rule next : Rule} {rules more : List Rule}

instance [places.Respects rule] [places.Respects next] : places.Respects (rule >=> next) :=
  ⟨Maps.andThen Respects.maps Respects.maps⟩

instance : places.Respects (Rule.oneOf []) := ⟨Maps.oneOf_nil⟩

instance [places.Respects rule] [places.Respects (Rule.oneOf rules)] :
    places.Respects (Rule.oneOf (rule :: rules)) :=
  ⟨Maps.oneOf_cons Respects.maps Respects.maps⟩

instance [places.Respects (Rule.oneOf rules)] [places.Respects (Rule.oneOf more)] :
    places.Respects (Rule.oneOf (rules ++ more)) :=
  ⟨Maps.oneOf_append Respects.maps Respects.maps⟩

instance {α : Type} (make : α → Rule) (values : List α) [∀ value, places.Respects (make value)] :
    places.Respects (Rule.oneOf (values.map make)) := by
  refine ⟨Maps.oneOf fun rule hmem => ?_⟩
  obtain ⟨value, -, rfl⟩ := List.mem_map.mp hmem
  exact Respects.maps

instance (condition : Prop) [Decidable condition] [places.Respects rule]
    [places.Respects next] : places.Respects (if condition then rule else next) := by
  split <;> infer_instance

instance (condition : Prop) [Decidable condition] [places.Respects (Rule.oneOf rules)]
    [places.Respects (Rule.oneOf more)] :
    places.Respects (Rule.oneOf (if condition then rules else more)) := by
  split <;> infer_instance

instance [places.Respects rule] : places.Respects (Rule.maybe rule) :=
  ⟨Maps.maybe Respects.maps⟩

instance [places.Respects rule] : places.Respects (Rule.many rule) :=
  ⟨Maps.many Respects.maps⟩

instance [places.Respects rule] : places.Respects (Rule.some1 rule) :=
  inferInstanceAs (places.Respects (rule >=> Rule.many rule))

instance : places.Respects (Rule.all []) := ⟨Maps.nothing⟩

instance [places.Respects rule] [places.Respects (Rule.all rules)] :
    places.Respects (Rule.all (rule :: rules)) :=
  inferInstanceAs (places.Respects (rule >=> Rule.all rules))

instance [places.Respects rule] : places.Respects (Rule.ahead rule) :=
  ⟨Maps.ahead (Respects.maps : places.Maps true true rule)⟩

instance [places.Respects rule] : places.Respects (Rule.notAhead rule) :=
  ⟨Maps.notAhead (Respects.maps : places.Maps true true rule)⟩

instance [places.Respects rule] : places.Respects (Rule.frame rule) :=
  ⟨Maps.frame Respects.maps⟩

instance (field : String) [Among field otherFields] : places.Respects (Rule.tag field) :=
  ⟨Maps.tag fun _ => ⟨rfl, ne_name_of_among⟩⟩

instance (kind : String) : places.Respects (Rule.close kind) :=
  ⟨Maps.close (Or.inl rfl)⟩

instance (kind : String) [places.Respects (Rule.all rules)] :
    places.Respects (Rule.node kind rules) :=
  inferInstanceAs (places.Respects (Rule.frame (Rule.all rules >=> Rule.close kind)))

instance (field : String) [Among field otherFields] [places.Respects rule] :
    places.Respects (Rule.field field rule) :=
  inferInstanceAs (places.Respects (Rule.frame (rule >=> Rule.tag field)))

instance (kinds : List String) : places.Respects (Rule.madeOf kinds) := ⟨Maps.madeOf kinds⟩

instance (kind : TokenKind) (name : String) : places.Respects (Rule.token kind name) :=
  ⟨Maps.token kind name⟩

instance (word : String) : places.Respects (Rule.keyword word) := ⟨Maps.keyword word⟩

instance (kind : String) (words : List String) : places.Respects (Rule.keywordAs kind words) :=
  ⟨Maps.keywordAs kind words⟩

instance (kind : String) (reserved : List String) :
    places.Respects (Rule.nameAs kind reserved) :=
  ⟨Maps.nameAs kind reserved⟩

instance (reserved : List String) : places.Respects (Rule.name reserved) :=
  inferInstanceAs (places.Respects (Rule.nameAs "identifier" reserved))

instance (reserved : List String) : places.Respects (Rule.field "name" (Rule.name reserved)) :=
  ⟨Maps.name "identifier" reserved⟩

instance (text : String) (texts : List String) (kind : String) :
    places.Respects (Rule.joined text texts kind) :=
  ⟨Maps.joined text texts kind⟩

instance (text : String) : places.Respects (Rule.symbol text) :=
  inferInstanceAs (places.Respects (Rule.joined text [] text))

instance (texts : List String) : places.Respects (Rule.symbolOf texts) :=
  inferInstanceAs (places.Respects (Rule.oneOf (texts.map Rule.symbol)))

instance (separator : String) [places.Respects rule] :
    places.Respects (Rule.separated separator rule) :=
  inferInstanceAs (places.Respects (rule >=> Rule.many (Rule.symbol separator >=> rule)))

instance [places.Respects rule] : places.Respects (Rule.commas rule) :=
  inferInstanceAs (places.Respects (Rule.maybe (Rule.separated "," rule)))

end Instances

end Correspondence

end Cyclomatic.Java
