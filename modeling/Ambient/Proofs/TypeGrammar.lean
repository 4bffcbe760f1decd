/-
  Ambient/Proofs/TypeGrammar.lean
  ===============================
  **The grammar of types, and the bars in a text of it.**

  A type is written with words, arrays, unions, parentheses and functions.  `IsType` has one rule
  for each of these, over any set of words.  The element of an array and the member of a union
  are operands: a function, or a word with an arrow in it, is an operand only in parentheses.

  Each bar of a type parts two members, so what stands before it can end a type and what stands
  behind it can begin one.  This shows in neighbouring code points alone, and it can be read off
  any text (`Whole`): a text of the grammar is whole if its words are (`IsType.whole`).  The other
  way round, no bar inside a whole text is bare, so no member of a union in it is missing
  (`Paired.middle`, `Paired.eq_nil_of_bars`).
-/
import Ambient.DocType.Translate
import Ambient.Proofs.TypeNotation
import Mathlib.Data.List.Chain

namespace Ambient

namespace DocType

/-! ### The grammar -/

/-- Where a type stands: free, or as the operand of an array or a union. -/
inductive Place where
  | free
  | operand
deriving DecidableEq, Repr

/-- The parameters of a function with these types: `p1`, `p2` and so on. -/
def parameterList (types : List Text) : Text :=
  Text.join ", " (types.mapIdx fun i type => "p" ++ Text.ofNat (i + 1) ++ ": " ++ type)

/-- The texts of types over some words. -/
inductive IsType (words : Text → Prop) : Place → Text → Prop where
  | word {w : Text} : words w → IsType words .free w
  | plainWord {w : Text} : words w → Text.mentions arrow w = false → IsType words .operand w
  | array {t : Text} : IsType words .operand t → IsType words .operand (t ++ "[]")
  | union {t u : Text} :
      IsType words .operand t → IsType words .operand u → IsType words .operand (t ++ "|" ++ u)
  | parentheses {t : Text} : IsType words .free t → IsType words .operand ("(" ++ t ++ ")")
  | operand {t : Text} : IsType words .operand t → IsType words .free t
  | function {params : List Text} : (∀ p ∈ params, IsType words .free p) →
      IsType words .free ("(" ++ parameterList params ++ ") => any")

theorem IsType.mono {words more : Text → Prop} (hwords : ∀ w, words w → more w) {place : Place}
    {t : Text} (h : IsType words place t) : IsType more place t := by
  induction h with
  | word hw => exact .word (hwords _ hw)
  | plainWord hw harrow => exact .plainWord (hwords _ hw) harrow
  | array _ ih => exact .array ih
  | union _ _ iht ihu => exact .union iht ihu
  | parentheses _ ih => exact .parentheses ih
  | operand _ ih => exact .operand ih
  | function _ ih => exact .function ih

theorem mentions_arrow_function (params : List Text) :
    Text.mentions arrow ("(" ++ parameterList params ++ ") => any") = true := by
  rw [Text.mentions_iff]
  refine ⟨"(" ++ parameterList params ++ ") ", " any", ?_⟩
  have htail : Text.ofString ") => any" =
      Text.ofString ") " ++ (arrow ++ Text.ofString " any") := rfl
  simp only [htail, List.append_assoc]

/-- A type without an arrow is an operand as it is. -/
theorem IsType.operand_of_not_mentions {words : Text → Prop} {t : Text}
    (h : IsType words .free t) (harrow : Text.mentions arrow t = false) :
    IsType words .operand t := by
  cases h with
  | word hw => exact .plainWord hw harrow
  | operand ht => exact ht
  | function hparams =>
    rw [mentions_arrow_function] at harrow
    exact nomatch harrow

/-- What is put in parentheses for its arrow is an operand, and so is everything else. -/
theorem IsType.guarded {words : Text → Prop} {t : Text} (h : IsType words .free t) :
    IsType words .operand (guarded t) := by
  unfold DocType.guarded
  split
  · exact .parentheses h
  · next harrow => exact h.operand_of_not_mentions (by simpa using harrow)

/-- Operands with bars between them are an operand. -/
theorem IsType.join {words : Text → Prop} {parts : List Text} (hne : parts ≠ [])
    (h : ∀ part ∈ parts, IsType words .operand part) :
    IsType words .operand (Text.join "|" parts) := by
  match parts, hne with
  | [part], _ => exact h part List.mem_cons_self
  | first :: second :: rest, _ =>
    rw [List.forall_mem_cons] at h
    exact .union h.1 (IsType.join (List.cons_ne_nil second rest) h.2)

theorem numberedParams_eq (n : Nat) (types : List Text) :
    numberedParams n types =
      types.mapIdx fun i type => "p" ++ Text.ofNat (n + i) ++ ": " ++ type := by
  induction types generalizing n with
  | nil => rfl
  | cons type rest ih =>
    rw [numberedParams, ih, List.mapIdx_cons]
    simp only [Nat.add_zero, Nat.add_assoc, Nat.add_comm 1]

theorem functionText_eq (types : List Text) :
    functionText types = "(" ++ parameterList types ++ ") => any" := by
  simp only [functionText, parameterList, numberedParams_eq, Nat.add_comm 1]

/-! ### Bars and their neighbours -/

def beginsType (c : CodePoint) : Bool := c ≠ '|' && c ≠ ')' && c ≠ '[' && c ≠ ','

def endsType (c : CodePoint) : Bool := c ≠ '|' && c ≠ '(' && c ≠ ' '

/-- Two neighbours in a text of which neither is a bar that lacks a member. -/
def Adjoin (c d : CodePoint) : Prop :=
  (c = '|' → beginsType d = true) ∧ (d = '|' → endsType c = true)

instance : DecidableRel Adjoin := fun c d =>
  inferInstanceAs (Decidable ((c = '|' → beginsType d = true) ∧ (d = '|' → endsType c = true)))

/-- A text in which every bar has its members: it does not begin or end with one, and no bar has a
    neighbour that is no part of a member. -/
structure Paired (t : Text) : Prop where
  begin_ne : t.head? ≠ some (.scalar '|')
  end_ne : t.getLast? ≠ some (.scalar '|')
  adjoin : t.IsChain Adjoin

structure Whole (t : Text) : Prop where
  begins : ∃ c, t.head? = some c ∧ beginsType c = true
  ends : ∃ c, t.getLast? = some c ∧ endsType c = true
  adjoin : t.IsChain Adjoin

theorem Whole.paired {t : Text} (h : Whole t) : Paired t := by
  obtain ⟨c, hc, hbegin⟩ := h.begins
  obtain ⟨d, hd, hend⟩ := h.ends
  refine ⟨?_, ?_, h.adjoin⟩
  · rintro hbar
    rw [hc, Option.some.injEq] at hbar
    subst hbar
    exact nomatch hbegin
  · rintro hbar
    rw [hd, Option.some.injEq] at hbar
    subst hbar
    exact nomatch hend

theorem Whole.ne_nil {t : Text} (h : Whole t) : t ≠ [] := by
  rintro rfl
  obtain ⟨c, hc, -⟩ := h.begins
  exact nomatch hc

theorem adjoin_of_ne {c d : CodePoint} (hc : c ≠ '|') (hd : d ≠ '|') : Adjoin c d :=
  ⟨fun h => absurd h hc, fun h => absurd h hd⟩

theorem ne_bar_of_beginsType {c : CodePoint} (h : beginsType c = true) : c ≠ '|' := by
  rintro rfl
  exact nomatch h

theorem ne_bar_of_endsType {c : CodePoint} (h : endsType c = true) : c ≠ '|' := by
  rintro rfl
  exact nomatch h

theorem isChain_adjoin_of_notMem {t : Text} (h : CodePoint.scalar '|' ∉ t) :
    t.IsChain Adjoin := by
  induction t with
  | nil => exact .nil
  | cons c t ih =>
    rw [List.mem_cons, not_or] at h
    cases t with
    | nil => exact .singleton c
    | cons d t =>
      have hd : d ≠ '|' := fun hbar => h.2 (hbar ▸ List.mem_cons_self)
      exact .cons_cons (adjoin_of_ne (Ne.symm h.1) hd) (ih h.2)

/-! ### Whole texts -/

/-- Two whole texts with something between them that may stand between types. -/
theorem Whole.append {t joint u : Text} (ht : Whole t) (hu : Whole u) (hne : joint ≠ [])
    (hjoint : joint.IsChain Adjoin)
    (hleft : ∀ c, endsType c = true → ∀ d, joint.head? = some d → Adjoin c d)
    (hright : ∀ c, joint.getLast? = some c → ∀ d, beginsType d = true → Adjoin c d) :
    Whole (t ++ joint ++ u) := by
  obtain ⟨first, hfirst, hbegin⟩ := ht.begins
  obtain ⟨last, hlast, hend⟩ := ht.ends
  obtain ⟨first', hfirst', hbegin'⟩ := hu.begins
  obtain ⟨last', hlast', hend'⟩ := hu.ends
  refine ⟨⟨first, by simp [hfirst], hbegin⟩, ⟨last', by simp [hlast'], hend'⟩, ?_⟩
  rw [List.isChain_append, List.isChain_append]
  refine ⟨⟨ht.adjoin, hjoint, ?_⟩, hu.adjoin, ?_⟩
  · intro c hc d hd
    rw [hlast] at hc
    cases hc
    exact hleft last hend d hd
  · intro c hc d hd
    rw [hfirst'] at hd
    cases hd
    rw [List.getLast?_append_of_ne_nil t hne] at hc
    exact hright c hc first' hbegin'

theorem Whole.bar {t u : Text} (ht : Whole t) (hu : Whole u) : Whole (t ++ "|" ++ u) := by
  apply ht.append hu
  · decide
  · decide
  · rintro c hc d ⟨⟩
    exact ⟨fun hbar => absurd hbar (ne_bar_of_endsType hc), fun _ => hc⟩
  · rintro c ⟨⟩ d hd
    exact ⟨fun _ => hd, fun hbar => absurd hbar (ne_bar_of_beginsType hd)⟩

theorem Whole.comma {t u : Text} (ht : Whole t) (hu : Whole u) : Whole (t ++ ", " ++ u) := by
  apply ht.append hu
  · decide
  · decide
  · rintro c hc d ⟨⟩
    exact adjoin_of_ne (ne_bar_of_endsType hc) (by decide)
  · rintro c ⟨⟩ d hd
    exact adjoin_of_ne (by decide) (ne_bar_of_beginsType hd)

/-- A whole text with something on either side that has no bar of its own. -/
theorem Whole.wrap {a t b : Text} (h : Whole t) (ha : CodePoint.scalar '|' ∉ a)
    (hb : CodePoint.scalar '|' ∉ b)
    (hbegin : ∀ c, a.head? = some c → beginsType c = true)
    (hend : ∀ c, b.getLast? = some c → endsType c = true) :
    Whole (a ++ t ++ b) := by
  obtain ⟨first, hfirst, hbegins⟩ := h.begins
  obtain ⟨last, hlast, hends⟩ := h.ends
  refine ⟨?_, ?_, ?_⟩
  · cases a with
    | nil => exact ⟨first, by simp [hfirst], hbegins⟩
    | cons c rest => exact ⟨c, rfl, hbegin c rfl⟩
  · cases hd : b.getLast? with
    | none =>
      obtain rfl := List.getLast?_eq_none_iff.1 hd
      exact ⟨last, by simp [hlast], hends⟩
    | some d => exact ⟨d, by simp [hd], hend d hd⟩
  · -- at both seams neither neighbour is a bar
    rw [List.isChain_append, List.isChain_append]
    refine ⟨⟨isChain_adjoin_of_notMem ha, h.adjoin, ?_⟩,
      isChain_adjoin_of_notMem hb, ?_⟩
    · intro c hc d hd
      rw [hfirst] at hd
      cases hd
      refine adjoin_of_ne ?_ (ne_bar_of_beginsType hbegins)
      rintro rfl
      exact ha (List.mem_of_getLast? hc)
    · intro c hc d hd
      rw [List.getLast?_append_of_ne_nil a h.ne_nil, hlast] at hc
      cases hc
      refine adjoin_of_ne (ne_bar_of_endsType hends) ?_
      rintro rfl
      exact hb (List.mem_of_head? hd)

theorem Whole.parameter {type : Text} (h : Whole type) (n : Nat) :
    Whole ("p" ++ Text.ofNat n ++ ": " ++ type) := by
  have hlabel : CodePoint.scalar '|' ∉ ("p" ++ Text.ofNat n ++ ": " : Text) := by
    simp only [List.mem_append, not_or]
    exact ⟨⟨by decide, Text.notMem_ofNat rfl n⟩, by decide⟩
  have hwrap := h.wrap (b := []) hlabel List.not_mem_nil
    (by rintro c ⟨⟩; decide) (by rintro c ⟨⟩)
  rwa [List.append_nil] at hwrap

theorem whole_join_comma {parts : List Text} (hne : parts ≠ []) (h : ∀ part ∈ parts, Whole part) :
    Whole (Text.join ", " parts) := by
  match parts, hne with
  | [part], _ => exact h part List.mem_cons_self
  | first :: second :: rest, _ =>
    rw [List.forall_mem_cons] at h
    exact h.1.comma (whole_join_comma (List.cons_ne_nil second rest) h.2)

theorem whole_function {params : List Text} (h : ∀ p ∈ params, Whole p) :
    Whole ("(" ++ parameterList params ++ ") => any") := by
  cases params with
  | nil => exact ⟨⟨'(', rfl, rfl⟩, ⟨'y', rfl, rfl⟩, by decide⟩
  | cons first rest =>
    have hparams : Whole (parameterList (first :: rest)) := by
      apply whole_join_comma
      · rw [List.mapIdx_cons]
        exact List.cons_ne_nil _ _
      · intro part hpart
        obtain ⟨i, hi, rfl⟩ := List.mem_mapIdx.1 hpart
        exact (h _ (List.getElem_mem hi)).parameter (i + 1)
    exact hparams.wrap (by decide) (by decide) (by rintro c ⟨⟩; decide) (by rintro c ⟨⟩; decide)

/-- **The texts of the grammar are whole**, if the words are. -/
theorem IsType.whole {words : Text → Prop} (hwords : ∀ w, words w → Whole w) {place : Place}
    {t : Text} (h : IsType words place t) : Whole t := by
  induction h with
  | word hw => exact hwords _ hw
  | plainWord hw _ => exact hwords _ hw
  | array _ ih =>
    exact ih.wrap (a := []) List.not_mem_nil (by decide) (by rintro c ⟨⟩)
      (by rintro c ⟨⟩; decide)
  | union _ _ iht ihu => exact iht.bar ihu
  | parentheses _ ih =>
    exact ih.wrap (by decide) (by decide) (by rintro c ⟨⟩; decide) (by rintro c ⟨⟩; decide)
  | operand _ ih => exact ih
  | function _ ih => exact whole_function ih

/-! ### What stands inside a text whose bars have their members -/

/-- What stands between two ends that are no part of a member. -/
theorem Paired.middle {a t b : Text} (h : Paired (a ++ t ++ b))
    (ha : ∀ c, a.getLast? = some c → endsType c = false)
    (hb : ∀ c, b.head? = some c → beginsType c = false) : Paired t := by
  have hchain := h.adjoin
  rw [List.isChain_append, List.isChain_append] at hchain
  obtain ⟨⟨-, ht, hleft⟩, -, hright⟩ := hchain
  refine ⟨?_, ?_, ht⟩
  · intro hbar
    -- a bar that `t` begins with begins the whole too, or it has the end of `a` in front
    cases hlast : a.getLast? with
    | none =>
      obtain rfl := List.getLast?_eq_none_iff.1 hlast
      exact h.begin_ne (by simp [hbar])
    | some c =>
      have hc := (hleft c hlast _ hbar).2 rfl
      exact nomatch hc.symm.trans (ha c hlast)
  · intro hbar
    have hne : t ≠ [] := by
      rintro rfl
      exact nomatch hbar
    cases hhead : b.head? with
    | none =>
      obtain rfl := List.head?_eq_none_iff.1 hhead
      exact h.end_ne (by simp [hbar])
    | some d =>
      have hlast : (a ++ t).getLast? = some (.scalar '|') := by
        rw [List.getLast?_append_of_ne_nil a hne, hbar]
      have hd := (hright _ hlast d hhead).1 rfl
      exact nomatch hd.symm.trans (hb d hhead)

/-- Between two bars, or between a bar and an end, something stands. -/
theorem Paired.eq_nil_of_bars {a b : Text} (h : Paired (a ++ b))
    (ha : ∀ c, a.getLast? = some c → c = '|')
    (hb : ∀ c, b.head? = some c → c = '|') : a = [] ∧ b = [] := by
  cases hlast : a.getLast? with
  | none =>
    obtain rfl := List.getLast?_eq_none_iff.1 hlast
    refine ⟨rfl, ?_⟩
    cases hhead : b.head? with
    | none => exact List.head?_eq_none_iff.1 hhead
    | some d =>
      obtain rfl := hb d hhead
      exact absurd hhead h.begin_ne
  | some c =>
    obtain rfl := ha c hlast
    cases hhead : b.head? with
    | none =>
      obtain rfl := List.head?_eq_none_iff.1 hhead
      rw [List.append_nil] at h
      exact absurd hlast h.end_ne
    | some d =>
      obtain rfl := hb d hhead
      have hchain := h.adjoin
      rw [List.isChain_append] at hchain
      have hbegins := (hchain.2.2 _ hlast _ hhead).1 rfl
      exact nomatch hbegins

end DocType

end Ambient
