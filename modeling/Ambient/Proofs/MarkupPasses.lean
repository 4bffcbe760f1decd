/-
  Ambient/Proofs/MarkupPasses.lean
  ================================
  **One pass leaves no markup.**

  A pass over a text goes from place to place.  A part that is to be dropped and begins at the place
  is dropped, and the pass goes on behind it; where no such part begins, one code point is kept
  (`Pass.Step`).  Dropping a part brings what stands on its two sides together, and the question
  is whether a new part can come about there, which the pass would not see.

  For tags and backticks it cannot.  A `<` begins a tag exactly if some `>` follows it, other than
  right behind it (`beginsWith_isTag_cons_iff`).  What is dropped does not begin with a `>`, so if
  a `<` in front of it begins a tag once it is out, it did so before
  (`beginsWith_isTag_insert`), and was not kept.  Every step therefore leaves it true that no part
  begins in what has been kept (`Pass.Step.settled`), and at the end there is nothing else
  (`Strips.complete`).
-/
import Ambient.Proofs.ConstantPhrases
import Mathlib.Logic.Relation

namespace Ambient

def IsTag (t : Text) : Prop := ∃ tag : Tag, tag.text = t

def IsMarkup (t : Text) : Prop := IsTag t ∨ t = [.scalar '\x60']

namespace Text

/-! ### Passes -/

def BeginsWith (parts : Text → Prop) (t : Text) : Prop := ∃ part, parts part ∧ part <+: t

def IsFreeOf (parts : Text → Prop) (t : Text) : Prop := ∀ part, parts part → ¬ part <:+: t

/-- What a pass over a text has kept of it, and what it has not come to yet. -/
structure Pass where
  kept : Text
  rest : Text

namespace Pass

inductive Step (parts : Text → Prop) : Pass → Pass → Prop
  | drop (kept : Text) {part : Text} (rest : Text) (h : parts part) :
      Step parts ⟨kept, part ++ rest⟩ ⟨kept, rest⟩
  | keep (kept : Text) {c : CodePoint} {rest : Text} (h : ¬ BeginsWith parts (c :: rest)) :
      Step parts ⟨kept, c :: rest⟩ ⟨kept ++ [c], rest⟩

def Runs (parts : Text → Prop) : Pass → Pass → Prop := Relation.ReflTransGen (Step parts)

/-- No part begins in what has been kept, read on into what is left. -/
def Settled (parts : Text → Prop) (p : Pass) : Prop :=
  ∀ before front, p.kept = before ++ front → front ≠ [] → ¬ BeginsWith parts (front ++ p.rest)

end Pass

/-- Parts that can be taken out of a text without others coming about: what begins in front of the
    place began there before. -/
structure Droppable (parts : Text → Prop) : Prop where
  ne_nil : ∀ {part}, parts part → part ≠ []
  seam : ∀ {front part rest}, front ≠ [] → parts part → BeginsWith parts (front ++ rest) →
    BeginsWith parts (front ++ (part ++ rest))

namespace Pass

variable {parts : Text → Prop} (hparts : Droppable parts) {p q : Pass}

include hparts

/-- A step leaves no part in what has been kept. -/
theorem Step.settled (hstep : Step parts p q) (h : p.Settled parts) : q.Settled parts := by
  intro before front hcut hne hbegins
  cases hstep with
  | drop kept rest hpart => exact h before front hcut hne (hparts.seam hne hpart hbegins)
  | @keep kept c rest hnone =>
    obtain ⟨init, d, rfl⟩ := (List.eq_nil_or_concat front).resolve_left hne
    rw [List.concat_eq_append] at hcut hbegins
    obtain ⟨hkept, hlast⟩ := List.append_inj' (hcut.trans (List.append_assoc _ _ _).symm) rfl
    obtain rfl := (List.cons.inj hlast).1
    rw [List.append_assoc, List.singleton_append] at hbegins
    cases init with
    | nil => exact hnone hbegins
    | cons e init => exact h before (e :: init) hkept (List.cons_ne_nil e init) hbegins

theorem Runs.settled (hrun : Runs parts p q) (h : p.Settled parts) : q.Settled parts := by
  induction hrun with
  | refl => exact h
  | tail _ hstep ih => exact hstep.settled hparts ih

end Pass

theorem Pass.settled_start (parts : Text → Prop) (t : Text) : Pass.Settled parts ⟨[], t⟩ := by
  intro before front hcut hne
  exact absurd (List.append_eq_nil_iff.1 hcut.symm).2 hne

/-! ### What a pass leaves -/

structure Strips (parts : Text → Prop) (strip : Text → Text) : Prop where
  nil : strip [] = []
  drop : ∀ {part} (rest), parts part → strip (part ++ rest) = strip rest
  keep : ∀ {c rest}, ¬ BeginsWith parts (c :: rest) → strip (c :: rest) = c :: strip rest

/-- One pass over a text is enough to drop certain parts of it. -/
structure CompletePass (parts : Text → Prop) (strip : Text → Text) (t : Text) : Prop where
  /-- The pass leaves one text. -/
  outcome : ∀ u, Pass.Runs parts ⟨[], t⟩ ⟨u, []⟩ ↔ u = strip t
  /-- At no point of the pass has a new part come about around a dropped one. -/
  settled : ∀ p, Pass.Runs parts ⟨[], t⟩ p → p.Settled parts
  /-- No part is left. -/
  free : IsFreeOf parts (strip t)
  /-- A second pass finds nothing to drop. -/
  again : strip (strip t) = strip t

namespace Strips

variable {parts : Text → Prop} {strip : Text → Text} (h : Strips parts strip)

include h

theorem result_of_step {p q : Pass} (hstep : Pass.Step parts p q) :
    p.kept ++ strip p.rest = q.kept ++ strip q.rest := by
  cases hstep with
  | drop kept rest hpart => rw [h.drop rest hpart]
  | keep kept hnone => rw [h.keep hnone, List.append_assoc, List.singleton_append]

theorem result_of_runs {p q : Pass} (hrun : Pass.Runs parts p q) :
    p.kept ++ strip p.rest = q.kept ++ strip q.rest := by
  induction hrun with
  | refl => rfl
  | tail _ hstep ih => exact ih.trans (h.result_of_step hstep)

theorem eq_self_of_isFreeOf {t : Text} (ht : IsFreeOf parts t) : strip t = t := by
  induction t with
  | nil => exact h.nil
  | cons c rest ih =>
    have hnone : ¬ BeginsWith parts (c :: rest) := fun ⟨part, hpart, hbegin⟩ =>
      ht part hpart hbegin.isInfix
    have hrest : IsFreeOf parts rest := fun part hpart hwithin =>
      ht part hpart (hwithin.trans (List.suffix_cons c rest).isInfix)
    rw [h.keep hnone, ih hrest]

variable (hparts : Droppable parts)

include hparts

/-- Every pass comes to the end of its text. -/
theorem runs (kept rest : Text) : Pass.Runs parts ⟨kept, rest⟩ ⟨kept ++ strip rest, []⟩ := by
  by_cases hbegins : BeginsWith parts rest
  · obtain ⟨part, hpart, after, hcut⟩ := hbegins
    have hpos := List.length_pos_iff.2 (hparts.ne_nil hpart)
    have hshorter : after.length < rest.length := by
      rw [← hcut, List.length_append]
      omega
    rw [← hcut, h.drop after hpart]
    exact .head (.drop kept after hpart) (runs kept after)
  · cases rest with
    | nil =>
      rw [h.nil, List.append_nil]
      exact .refl
    | cons c rest =>
      have hrest := runs (kept ++ [c]) rest
      rw [h.keep hbegins]
      rw [List.append_assoc, List.singleton_append] at hrest
      exact .head (.keep kept hbegins) hrest
termination_by rest.length

/-- **One pass is enough** for parts that can be taken out without others coming about. -/
theorem complete (t : Text) : CompletePass parts strip t := by
  have hrun := h.runs hparts [] t
  rw [List.nil_append] at hrun
  have hfree : IsFreeOf parts (strip t) := by
    rintro part hpart ⟨before, after, hcut⟩
    rw [List.append_assoc] at hcut
    have hne := List.append_ne_nil_of_left_ne_nil (hparts.ne_nil hpart) after
    refine hrun.settled hparts (Pass.settled_start parts t) before _ hcut.symm hne ⟨part, hpart, ?_⟩
    rw [List.append_nil]
    exact List.prefix_append part after
  refine ⟨fun u => ⟨fun hu => ?_, ?_⟩, fun p hp => hp.settled hparts (Pass.settled_start parts t), hfree,
    h.eq_self_of_isFreeOf hfree⟩
  · have hresult := h.result_of_runs hu
    rw [List.nil_append, h.nil, List.append_nil] at hresult
    exact hresult.symm
  · rintro rfl
    exact hrun

end Strips

/-! ### Tags and backticks -/

/-- A sign begins a tag exactly if it is a `<` that some `>` follows, other than right behind it. -/
theorem beginsWith_isTag_cons_iff {c : CodePoint} {rest : Text} :
    BeginsWith IsTag (c :: rest) ↔
      c = '<' ∧ rest.head? ≠ some (.scalar '>') ∧ .scalar '>' ∈ rest := by
  constructor
  · rintro ⟨_, ⟨tag, rfl⟩, after, hcut⟩
    obtain ⟨d, inner, hinner⟩ := List.exists_cons_of_ne_nil tag.ne_nil
    have hfirst := tag.notMem
    rw [Tag.text, hinner] at hcut
    rw [hinner, List.mem_cons, not_or] at hfirst
    obtain ⟨rfl, rfl⟩ := List.cons.inj hcut
    refine ⟨rfl, ?_, by simp⟩
    exact fun hhead => hfirst.1 (Option.some.inj hhead).symm
  · rintro ⟨rfl, hhead, hmem⟩
    obtain ⟨inner, after, rfl, hinner⟩ := List.eq_append_cons_of_mem hmem
    have hne : inner ≠ [] := by
      rintro rfl
      exact hhead rfl
    exact ⟨_, ⟨⟨inner, hne, hinner⟩, rfl⟩, after, by simp [Tag.text]⟩

theorem beginsWith_isMarkup_cons_iff {c : CodePoint} {rest : Text} :
    BeginsWith IsMarkup (c :: rest) ↔ BeginsWith IsTag (c :: rest) ∨ c = '\x60' := by
  constructor
  · rintro ⟨part, htag | rfl, hbegin⟩
    · exact .inl ⟨part, htag, hbegin⟩
    · exact .inr (List.cons_prefix_cons.1 hbegin).1.symm
  · rintro (⟨part, htag, hbegin⟩ | rfl)
    · exact ⟨part, .inl htag, hbegin⟩
    · exact ⟨_, .inr rfl, List.cons_prefix_cons.2 ⟨rfl, List.nil_prefix⟩⟩

theorem exists_cons_of_isMarkup {part : Text} (h : IsMarkup part) :
    ∃ c rest, part = c :: rest ∧ c ≠ '>' := by
  obtain ⟨tag, rfl⟩ | rfl := h
  · exact ⟨'<', _, rfl, by decide⟩
  · exact ⟨'\x60', [], rfl, by decide⟩

/-- A tag that begins in front of a part once it is out began there before. -/
theorem beginsWith_isTag_insert {front part rest : Text} (hne : front ≠ []) (hpart : IsMarkup part)
    (h : BeginsWith IsTag (front ++ rest)) : BeginsWith IsTag (front ++ (part ++ rest)) := by
  obtain ⟨c, front, rfl⟩ := List.exists_cons_of_ne_nil hne
  obtain ⟨d, inner, rfl, hd⟩ := exists_cons_of_isMarkup hpart
  rw [List.cons_append, beginsWith_isTag_cons_iff] at h ⊢
  obtain ⟨hc, hhead, hmem⟩ := h
  refine ⟨hc, ?_, ?_⟩
  · cases front with
    | nil => exact fun hfirst => hd (Option.some.inj hfirst)
    | cons e front => exact hhead
  · rcases List.mem_append.1 hmem with hfront | hrest
    · exact List.mem_append_left _ hfront
    · exact List.mem_append_right _ (List.mem_append_right _ hrest)

theorem droppable_isTag : Droppable IsTag where
  ne_nil := by
    rintro _ ⟨tag, rfl⟩
    exact List.cons_ne_nil _ _
  seam hne hpart h := beginsWith_isTag_insert hne (.inl hpart) h

theorem droppable_isMarkup : Droppable IsMarkup where
  ne_nil h := by
    obtain ⟨c, rest, rfl, -⟩ := exists_cons_of_isMarkup h
    exact List.cons_ne_nil c rest
  seam hne hpart h := by
    obtain ⟨c, front, rfl⟩ := List.exists_cons_of_ne_nil hne
    rw [List.cons_append, beginsWith_isMarkup_cons_iff] at h ⊢
    exact h.imp_left (beginsWith_isTag_insert hne hpart)

/-! ### Dropping them -/

theorem stripTags_cons_of_not_beginsWith {c : CodePoint} {rest : Text}
    (h : ¬ BeginsWith IsTag (c :: rest)) : stripTags (c :: rest) = c :: stripTags rest := by
  by_cases hc : c = '<'
  · subst hc
    rw [stripTags, if_pos rfl]
    split
    · next after hafter =>
      obtain ⟨inner, hne, hend, rfl⟩ := afterTag?_eq_some_iff.1 hafter
      exact absurd ⟨_, ⟨⟨inner, hne, hend⟩, rfl⟩, after, by simp [Tag.text]⟩ h
    · rfl
  · exact stripTags_cons_of_ne hc rest

theorem strips_stripTags : Strips IsTag stripTags where
  nil := by rw [stripTags]
  drop rest h := by
    obtain ⟨tag, rfl⟩ := h
    rw [Tag.text, List.cons_append, List.append_assoc]
    exact stripTags_tag_append tag.ne_nil tag.notMem rest
  keep h := stripTags_cons_of_not_beginsWith h

theorem strips_stripMarkup : Strips IsMarkup stripMarkup where
  nil := by rw [stripMarkup, stripTags]; rfl
  drop rest h := by
    obtain ⟨tag, rfl⟩ | rfl := h
    · exact tag.stripMarkup_append rest
    · exact stripMarkup_tick_cons rest
  keep {c rest} h := by
    rw [beginsWith_isMarkup_cons_iff, not_or] at h
    rw [stripMarkup, stripTags_cons_of_not_beginsWith h.1, List.filter_cons_of_pos]
    · rfl
    · exact bne_iff_ne.2 h.2

end Text

/-- **One pass leaves no markup.**  Dropping the tags of a text, and likewise its tags and its
    backticks, is one pass over it; nothing that stands around a dropped part is a new one, none is
    left, and a second pass changes nothing. -/
theorem stripping_complete (t : Text) :
    Text.CompletePass IsTag Text.stripTags t ∧ Text.CompletePass IsMarkup Text.stripMarkup t :=
  ⟨Text.strips_stripTags.complete Text.droppable_isTag t,
    Text.strips_stripMarkup.complete Text.droppable_isMarkup t⟩

/-- A backtick inside a tag goes with it; a `<` with nothing inside, or with nothing that closes it,
    stays. -/
example : Text.stripMarkup "a <<b>> \x60<\x60i>c\x60 <> < d" = ("a > c <> < d" : Text) := by
  decide +kernel

end Ambient
