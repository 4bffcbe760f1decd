/-
  Ambient/Proofs/TopLevelParts.lean
  =================================
  **What a text is cut into at its top level.**

  A text is cut at the separators that stand at depth zero, and nowhere else.  The depth of a place
  is the one behind the text in front of it (`depthBehind`), and `topCount` tells how many
  separators stand at depth zero; there is one part more than that (`length_splitAtDepth`).

  A part read on its own begins at depth zero, and so it does in the text, since it begins there
  or behind a separator at depth zero.  Each separator in a part is therefore as deep as it is in
  the text, and a part is not cut again (`topCount_of_mem_splitTop`).  A text that begins deeper is
  as deep or deeper at every place, whatever it closes, and so it is cut at fewer places
  (`topCount_le_of_le`).  From this it follows that no other texts than the parts are as many, are
  not cut again, and give the text back when they are joined (`splitTop_eq_iff`).
-/
import Ambient.DocType.Split
import Mathlib.Data.List.Basic

namespace Ambient

/-! ### Depths -/

/-- The depth of parentheses behind a text that begins at some depth. -/
def depthBehind (depth : Nat) (t : Text) : Nat :=
  t.foldl (fun depth (c : CodePoint) =>
    if c = '(' then depth + 1 else if c = ')' then depth - 1 else depth) depth

theorem depthBehind_append (depth : Nat) (a b : Text) :
    depthBehind depth (a ++ b) = depthBehind (depthBehind depth a) b :=
  List.foldl_append

theorem depthBehind_le_of_le {depth depth' : Nat} (h : depth ≤ depth') (t : Text) :
    depthBehind depth t ≤ depthBehind depth' t := by
  induction t generalizing depth depth' with
  | nil => exact h
  | cons c rest ih =>
    have hfirst : depthBehind depth [c] ≤ depthBehind depth' [c] := by
      simp only [depthBehind, List.foldl_cons, List.foldl_nil]
      split
      · exact Nat.succ_le_succ h
      · split
        · exact Nat.sub_le_sub_right h 1
        · exact h
    exact ih hfirst

/-! ### Separators at the top level -/

/-- How many separators of a text stand at depth zero, if the text begins at some depth. -/
def topCount (sep : CodePoint) (depth : Nat) (t : Text) : Nat :=
  (List.range t.length).countP fun i => t[i]? = some sep ∧ depthBehind depth (t.take i) = 0

section Count

variable {sep : CodePoint}

theorem topCount_cons (depth : Nat) (c : CodePoint) (rest : Text) :
    topCount sep depth (c :: rest) =
      (if c = sep ∧ depth = 0 then 1 else 0) + topCount sep (depthBehind depth [c]) rest := by
  have hfirst : depthBehind depth [] = depth := rfl
  have hrest : ∀ i, depthBehind depth (c :: rest.take i) =
      depthBehind (depthBehind depth [c]) (rest.take i) := fun i =>
    depthBehind_append depth [c] (rest.take i)
  rw [topCount, topCount, List.length_cons, List.range_succ_eq_map, List.countP_cons,
    List.countP_map, Nat.add_comm]
  simp [Function.comp_def, hfirst, hrest]

theorem topCount_append (depth : Nat) (a b : Text) :
    topCount sep depth (a ++ b) = topCount sep depth a + topCount sep (depthBehind depth a) b := by
  induction a generalizing depth with
  | nil => exact (Nat.zero_add _).symm
  | cons c a ih =>
    have hbehind : depthBehind depth (c :: a) = depthBehind (depthBehind depth [c]) a := rfl
    rw [List.cons_append, topCount_cons, ih, topCount_cons, hbehind, Nat.add_assoc]

theorem topCount_sep (depth : Nat) : topCount sep depth [sep] = if depth = 0 then 1 else 0 := by
  rw [topCount_cons]
  simp [topCount]

/-- The text up to the first separator at depth zero. -/
theorem exists_first_top {depth : Nat} {t : Text} (h : topCount sep depth t ≠ 0) :
    ∃ before after, t = before ++ sep :: after ∧ depthBehind depth before = 0 ∧
      topCount sep depth before = 0 := by
  induction t generalizing depth with
  | nil => exact absurd rfl h
  | cons c rest ih =>
    by_cases hcut : c = sep ∧ depth = 0
    · obtain ⟨rfl, rfl⟩ := hcut
      exact ⟨[], rest, rfl, rfl, rfl⟩
    · rw [topCount_cons, if_neg hcut, Nat.zero_add] at h
      obtain ⟨before, after, rfl, hzero, hnone⟩ := ih h
      refine ⟨c :: before, after, rfl, hzero, ?_⟩
      rw [topCount_cons, if_neg hcut, hnone]

theorem topCount_eq_zero_iff {depth : Nat} {t : Text} :
    topCount sep depth t = 0 ↔
      ∀ before after, t = before ++ sep :: after → depthBehind depth before ≠ 0 := by
  constructor
  · rintro h before after rfl hzero
    rw [topCount_append, hzero, topCount_cons, if_pos ⟨rfl, rfl⟩] at h
    omega
  · intro h
    by_contra hsome
    obtain ⟨before, after, hcut, hzero, -⟩ := exists_first_top hsome
    exact h before after hcut hzero

variable (sep) in
/-- The deeper a text begins, the fewer separators stand at depth zero. -/
theorem topCount_le_of_le {depth depth' : Nat} (h : depth ≤ depth') (t : Text) :
    topCount sep depth' t ≤ topCount sep depth t := by
  apply List.countP_mono_left
  intro i _ hi
  rw [decide_eq_true_eq] at hi ⊢
  have hle := depthBehind_le_of_le h (t.take i)
  exact ⟨hi.1, by omega⟩

/-- Texts that are not cut on their own are cut at their joints at most. -/
theorem topCount_join_le (depth : Nat) {parts : List Text}
    (h : ∀ part ∈ parts, topCount sep 0 part = 0) :
    topCount sep depth (Text.join [sep] parts) ≤ parts.length - 1 := by
  fun_induction Text.join [sep] parts generalizing depth with
  | case1 => exact Nat.le_refl 0
  | case2 part =>
    have hle := topCount_le_of_le sep (Nat.zero_le depth) part
    rw [h part (List.mem_singleton_self part)] at hle
    exact hle
  | case3 first second rest ih =>
    rw [List.forall_mem_cons] at h
    have hfirst := topCount_le_of_le sep (Nat.zero_le depth) first
    have hrest := ih (depthBehind depth (first ++ [sep])) h.2
    have hjoint : topCount sep (depthBehind depth first) [sep] ≤ 1 := by
      rw [topCount_sep]
      split <;> omega
    rw [topCount_append, topCount_append]
    simp only [List.length_cons] at hrest ⊢
    omega

end Count

/-! ### Parts -/

theorem length_prependToFirst (c : CodePoint) {parts : List Text} (h : parts ≠ []) :
    (Text.prependToFirst c parts).length = parts.length := by
  obtain ⟨first, more, rfl⟩ := List.exists_cons_of_ne_nil h
  rfl

theorem splitAtDepth_cons {sep c : CodePoint} {depth : Nat} (rest : Text)
    (hcut : ¬ (c = sep ∧ depth = 0)) :
    splitAtDepth sep depth (c :: rest) =
      Text.prependToFirst c (splitAtDepth sep (depthBehind depth [c]) rest) := by
  by_cases hopen : c = .scalar '('
  · simp [splitAtDepth, depthBehind, hopen]
  · by_cases hclose : c = .scalar ')'
    · simp [splitAtDepth, depthBehind, hclose]
    · simp [splitAtDepth, depthBehind, hopen, hclose, hcut]

section Parts

variable {sep : CodePoint} (hopen : sep ≠ '(') (hclose : sep ≠ ')')

include hopen hclose

theorem depthBehind_sep (depth : Nat) : depthBehind depth [sep] = depth := by
  simp [depthBehind, hopen, hclose]

theorem splitAtDepth_sep_cons (rest : Text) :
    splitAtDepth sep 0 (sep :: rest) = [] :: splitAtDepth sep 0 rest := by
  simp [splitAtDepth, hopen, hclose]

/-- There is one part more than there are separators at depth zero. -/
theorem length_splitAtDepth (depth : Nat) (t : Text) :
    (splitAtDepth sep depth t).length = topCount sep depth t + 1 := by
  induction t generalizing depth with
  | nil => rfl
  | cons c rest ih =>
    rw [topCount_cons]
    by_cases hcut : c = sep ∧ depth = 0
    · obtain ⟨rfl, rfl⟩ := hcut
      rw [splitAtDepth_sep_cons hopen hclose, List.length_cons, ih, if_pos ⟨rfl, rfl⟩,
        depthBehind_sep hopen hclose]
      omega
    · rw [splitAtDepth_cons rest hcut, length_prependToFirst c (splitAtDepth_ne_nil sep _ rest), ih,
        if_neg hcut, Nat.zero_add]

/-- A text has several parts exactly if a separator stands in it at depth zero. -/
theorem two_le_length_splitTop_iff (t : Text) :
    2 ≤ (splitTop sep t).length ↔
      ∃ before after, t = before ++ sep :: after ∧ depthBehind 0 before = 0 := by
  have hcount : 2 ≤ (splitTop sep t).length ↔ topCount sep 0 t ≠ 0 := by
    rw [splitTop, length_splitAtDepth hopen hclose]
    omega
  rw [hcount, Ne, topCount_eq_zero_iff]
  simp

theorem splitTop_eq_singleton_iff {t : Text} : splitTop sep t = [t] ↔ topCount sep 0 t = 0 := by
  have hlength : (splitTop sep t).length = topCount sep 0 t + 1 :=
    length_splitAtDepth hopen hclose 0 t
  constructor
  · intro h
    rw [h] at hlength
    exact (Nat.succ.inj hlength).symm
  · intro h
    rw [h] at hlength
    obtain ⟨part, hpart⟩ := List.length_eq_one_iff.1 hlength
    have hjoin := join_splitTop sep t
    rw [hpart] at hjoin ⊢
    exact congrArg (fun part => [part]) hjoin

/-- A text without a separator at depth zero is the first part of what it begins, if a separator
    at depth zero follows it. -/
theorem splitAtDepth_append_sep {depth : Nat} {before : Text} (after : Text)
    (hzero : depthBehind depth before = 0) (hnone : topCount sep depth before = 0) :
    splitAtDepth sep depth (before ++ sep :: after) = before :: splitAtDepth sep 0 after := by
  induction before generalizing depth with
  | nil =>
    obtain rfl : depth = 0 := hzero
    exact splitAtDepth_sep_cons hopen hclose after
  | cons c before ih =>
    rw [topCount_cons] at hnone
    have hcut : ¬ (c = sep ∧ depth = 0) := by
      intro hcut
      rw [if_pos hcut] at hnone
      omega
    have hrest : splitAtDepth sep (depthBehind depth [c]) (before ++ sep :: after) =
        before :: splitAtDepth sep 0 after := ih hzero (by omega)
    rw [List.cons_append, splitAtDepth_cons _ hcut, hrest]
    rfl

/-- A part is not cut again. -/
theorem topCount_of_mem_splitTop {t part : Text} (h : part ∈ splitTop sep t) :
    topCount sep 0 part = 0 := by
  by_cases hnone : topCount sep 0 t = 0
  · rw [(splitTop_eq_singleton_iff hopen hclose).2 hnone, List.mem_singleton] at h
    rw [h]
    exact hnone
  · obtain ⟨before, after, rfl, hzero, hbefore⟩ := exists_first_top hnone
    rw [splitTop, splitAtDepth_append_sep hopen hclose after hzero hbefore] at h
    rcases List.mem_cons.1 h with rfl | hrest
    · exact hbefore
    · exact topCount_of_mem_splitTop hrest
termination_by t.length

/-! ### Other texts that join to the same one -/

/-- Texts that are not cut on their own are the parts of the text that they join to, if it has as
    many. -/
theorem splitTop_join_of_length {parts : List Text} (hne : parts ≠ [])
    (hnone : ∀ part ∈ parts, topCount sep 0 part = 0)
    (hlength : parts.length = topCount sep 0 (Text.join [sep] parts) + 1) :
    splitTop sep (Text.join [sep] parts) = parts := by
  fun_induction Text.join [sep] parts with
  | case1 => exact absurd rfl hne
  | case2 part =>
    exact (splitTop_eq_singleton_iff hopen hclose).2 (hnone part (List.mem_singleton_self part))
  | case3 first second rest ih =>
    rw [List.forall_mem_cons] at hnone
    -- a joint below the top level would leave fewer places to cut at than joints
    have hle := topCount_join_le (depthBehind 0 first) hnone.2
    rw [topCount_append, topCount_append, topCount_sep, hnone.1, depthBehind_append,
      depthBehind_sep hopen hclose] at hlength
    simp only [List.length_cons] at hlength hle
    have hzero : depthBehind 0 first = 0 := by
      by_contra hdeep
      rw [if_neg hdeep] at hlength
      omega
    rw [if_pos hzero, hzero] at hlength
    have hrest := ih (List.cons_ne_nil second rest) hnone.2 (by simp only [List.length_cons]; omega)
    rw [List.append_assoc, List.singleton_append, splitTop,
      splitAtDepth_append_sep hopen hclose _ hzero hnone.1]
    exact congrArg (first :: ·) hrest

/-- **The parts of a text.**  Joined with the separator they give the text back, none of them is
    cut again, and there is one more of them than there are separators at depth zero.  No other
    texts are such. -/
theorem splitTop_eq_iff (t : Text) (parts : List Text) :
    splitTop sep t = parts ↔
      Text.join [sep] parts = t ∧ (∀ part ∈ parts, splitTop sep part = [part]) ∧
        parts.length = topCount sep 0 t + 1 := by
  constructor
  · rintro rfl
    refine ⟨join_splitTop sep t, fun part hpart => ?_, length_splitAtDepth hopen hclose 0 t⟩
    rw [splitTop_eq_singleton_iff hopen hclose]
    exact topCount_of_mem_splitTop hopen hclose hpart
  · rintro ⟨rfl, hwhole, hlength⟩
    have hne : parts ≠ [] := List.ne_nil_of_length_eq_add_one hlength
    apply splitTop_join_of_length hopen hclose hne _ hlength
    intro part hpart
    exact (splitTop_eq_singleton_iff hopen hclose).1 (hwhole part hpart)

end Parts

/-- A text that closes more than it opens, and opens more than it closes at its end. -/
theorem splitTop_eq_iff_stray :
    ((.scalar '|' : CodePoint) ≠ '(' ∧ (.scalar '|' : CodePoint) ≠ ')') ∧
    topCount '|' 0 ")(a|b)|c)|(d|e" = 2 ∧
    Text.join [.scalar '|'] [(")(a|b)" : Text), "c)", "(d|e"] = ")(a|b)|c)|(d|e" ∧
    ∀ part ∈ [(")(a|b)" : Text), "c)", "(d|e"], splitTop '|' part = [part] := by
  have hopen : (.scalar '|' : CodePoint) ≠ '(' := by decide
  have hclose : (.scalar '|' : CodePoint) ≠ ')' := by decide
  have hsplit : splitTop '|' ")(a|b)|c)|(d|e" = [(")(a|b)" : Text), "c)", "(d|e"] := by decide
  obtain ⟨hjoin, hwhole, hlength⟩ := (splitTop_eq_iff hopen hclose _ _).1 hsplit
  exact ⟨⟨hopen, hclose⟩, (Nat.succ.inj hlength).symm, hjoin, hwhole⟩

end Ambient
