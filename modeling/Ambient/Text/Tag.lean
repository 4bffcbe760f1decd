/-
  Ambient/Text/Tag.lean
  =====================
  **Markup in documentation texts.**

  A tag is a `<`, then at least one code point other than `>`, then a `>`.  Documentation
  descriptions are written with such tags and with backticks around code; both are dropped before
  a description is read or written out.  One pass from left to right is enough: what it leaves
  holds no tag, because a `<` is kept only where no tag begins.
-/
import Ambient.Text.Basic

namespace Ambient.Text

def isTagInner (c : CodePoint) : Bool := c ≠ '>'

/-- What follows the tag that a `<` opens, given what follows the `<`; nothing if that `<`
    opens no tag. -/
def afterTag? (rest : Text) : Option Text :=
  match rest with
  | [] => none
  | c :: more =>
    if isTagInner c then (more.dropWhile isTagInner).tail?
    else none

theorem isTagInner_eq_false_iff {c : CodePoint} : isTagInner c = false ↔ c = '>' := by
  simp [isTagInner]

theorem notMem_cons_of_isTagInner {c : CodePoint} {inner : Text} (hc : isTagInner c = true)
    (h : .scalar '>' ∉ inner) : .scalar '>' ∉ c :: inner := by
  rw [List.mem_cons, not_or]
  exact ⟨fun heq => absurd (heq ▸ hc) (by decide), h⟩

/-- Where a text holds a `>`, the inside of a tag ends at the first one. -/
theorem exists_inner_of_tail? {t after : Text}
    (h : (t.dropWhile isTagInner).tail? = some after) :
    ∃ inner, .scalar '>' ∉ inner ∧ t = inner ++ .scalar '>' :: after := by
  induction t with
  | nil => cases h
  | cons c t ih =>
    by_cases hc : isTagInner c = true
    · rw [List.dropWhile_cons_of_pos hc] at h
      obtain ⟨inner, hend, rfl⟩ := ih h
      exact ⟨c :: inner, notMem_cons_of_isTagInner hc hend, rfl⟩
    · rw [List.dropWhile_cons_of_neg hc] at h
      obtain rfl := isTagInner_eq_false_iff.1 (Bool.eq_false_iff.2 hc)
      cases h
      exact ⟨[], List.not_mem_nil, rfl⟩

/-- A `<` opens a tag exactly if what follows it is the inside of one, the `>`, and the rest. -/
theorem afterTag?_eq_some_iff {rest after : Text} :
    afterTag? rest = some after ↔
      ∃ inner, inner ≠ [] ∧ .scalar '>' ∉ inner ∧ rest = inner ++ .scalar '>' :: after := by
  constructor
  · intro h
    cases rest with
    | nil => cases h
    | cons c more =>
      by_cases hc : isTagInner c = true
      · rw [afterTag?, if_pos hc] at h
        obtain ⟨inner, hend, rfl⟩ := exists_inner_of_tail? h
        exact ⟨c :: inner, List.cons_ne_nil c inner, notMem_cons_of_isTagInner hc hend, rfl⟩
      · rw [afterTag?, if_neg hc] at h
        cases h
  · rintro ⟨inner, hne, hend, rfl⟩
    have hinner : ∀ c ∈ inner, isTagInner c = true := fun c hc =>
      decide_eq_true fun heq => hend (heq ▸ hc)
    cases inner with
    | nil => exact absurd rfl hne
    | cons c more =>
      rw [List.forall_mem_cons] at hinner
      rw [List.cons_append, afterTag?, if_pos hinner.1, List.dropWhile_append_of_pos hinner.2]
      rfl

theorem length_lt_of_afterTag? {rest after : Text} (h : afterTag? rest = some after) :
    after.length < rest.length := by
  obtain ⟨inner, -, -, rfl⟩ := afterTag?_eq_some_iff.1 h
  rw [List.length_append, List.length_cons]
  omega

def stripTags (t : Text) : Text :=
  match t with
  | [] => []
  | c :: rest =>
    if c = '<' then
      match h : afterTag? rest with
      | some after =>
        have := length_lt_of_afterTag? h
        stripTags after
      | none => c :: stripTags rest
    else c :: stripTags rest
termination_by t.length
decreasing_by all_goals simp_wf <;> omega

theorem stripTags_cons_of_ne {c : CodePoint} (hc : c ≠ '<') (rest : Text) :
    stripTags (c :: rest) = c :: stripTags rest := by
  rw [stripTags, if_neg hc]

theorem stripTags_cons_of_afterTag? {rest after : Text} (h : afterTag? rest = some after) :
    stripTags (.scalar '<' :: rest) = stripTags after := by
  rw [stripTags, if_pos rfl]
  split
  · next hsome =>
    obtain rfl := Option.some.inj (h.symm.trans hsome)
    rfl
  · next hnone => exact nomatch h.symm.trans hnone

/-- A text that opens no tag stays in front. -/
theorem stripTags_append_of_notMem {t : Text} (h : .scalar '<' ∉ t) (rest : Text) :
    stripTags (t ++ rest) = t ++ stripTags rest := by
  induction t with
  | nil => rfl
  | cons c t ih =>
    rw [List.mem_cons, not_or] at h
    rw [List.cons_append, stripTags_cons_of_ne (Ne.symm h.1), ih h.2, List.cons_append]

/-- A tag in front is dropped. -/
theorem stripTags_tag_append {inner : Text} (hne : inner ≠ []) (h : .scalar '>' ∉ inner)
    (rest : Text) :
    stripTags (.scalar '<' :: (inner ++ .scalar '>' :: rest)) = stripTags rest :=
  stripTags_cons_of_afterTag? (afterTag?_eq_some_iff.2 ⟨inner, hne, h, rfl⟩)

def stripMarkup (t : Text) : Text := (stripTags t).filter fun c => c != '\x60'

theorem stripMarkup_append_of_notMem {t : Text} (htag : .scalar '<' ∉ t)
    (htick : .scalar '\x60' ∉ t) (rest : Text) :
    stripMarkup (t ++ rest) = t ++ stripMarkup rest := by
  have hkept : t.filter (fun c : CodePoint => c != '\x60') = t := by
    rw [List.filter_eq_self]
    intro c hc
    rw [bne_iff_ne]
    rintro rfl
    exact htick hc
  rw [stripMarkup, stripTags_append_of_notMem htag, List.filter_append, hkept]
  rfl

theorem stripMarkup_tag_append {inner : Text} (hne : inner ≠ []) (h : .scalar '>' ∉ inner)
    (rest : Text) :
    stripMarkup (.scalar '<' :: (inner ++ .scalar '>' :: rest)) = stripMarkup rest := by
  rw [stripMarkup, stripTags_tag_append hne h, stripMarkup]

theorem stripMarkup_tick_cons (rest : Text) :
    stripMarkup (.scalar '\x60' :: rest) = stripMarkup rest := by
  rw [stripMarkup, stripTags_cons_of_ne (by decide), List.filter_cons_of_neg (by decide),
    stripMarkup]

end Ambient.Text
