/-
  Ambient/Proofs/ReadingLimits.lean
  =================================
  **Which texts the JSON reader takes to its limits.**

  Besides complaints about places the reader has two faults of its own limits: an integer with too
  many digits, and a container inside too many others.  A token carries a fault of the first kind
  only where the text has so long a row of digits (`tokens_within`).  Each step of the reader opens
  at most one container, and only at an opening bracket (`Stage.depth_of_next`), so a run comes too
  deep only over more of them than may be open (`Stage.fault_of_finish`).  How many may be open is
  the number for a document that is read on its own (`Stage.mostNested`).
-/
import Ambient.Json.Reader
import Mathlib.Data.List.TakeWhile

namespace Ambient

namespace Json

/-- Whether a text has a row of more digits than an integer may have. -/
def HasLongRow (t : Text) : Prop :=
  ∃ row, row <:+: t ∧ (∀ c ∈ row, c.isAsciiDigit = true) ∧ mostDigits < row.length

def isOpening (c : CodePoint) : Bool := c = '\x7b' || c = '['

/-- Whether a text is read without a fault of the reader's limits. -/
def WithinLimits (t : Text) : Prop :=
  ∀ fault, read t = .error fault → ∃ complaint remaining, fault = .malformed complaint remaining

theorem HasLongRow.of_suffix {t u : Text} (h : HasLongRow u) (hu : u <:+ t) : HasLongRow t := by
  obtain ⟨row, hrow, hdigits, hlong⟩ := h
  exact ⟨row, hrow.trans hu.isInfix, hdigits, hlong⟩

namespace Token

def opens : Token → Bool
  | openBrace | openBracket => true
  | _ => false

/-- What a fault in a token says about the text that the token is in. -/
structure Within (token : Token) (t : Text) : Prop where
  broken : ∀ fault, token = .brokenText fault →
    ∃ complaint remaining, fault = .malformed complaint remaining
  huge : ∀ n, token = .hugeInteger n → HasLongRow t

/-- A token that carries no fault. -/
theorem within_scalar (v : Json) (t : Text) : (scalar v).Within t :=
  ⟨by rintro _ ⟨⟩, by rintro _ ⟨⟩⟩

theorem Within.of_suffix {token : Token} {t u : Text} (h : token.Within u) (hu : u <:+ t) :
    token.Within t :=
  ⟨h.broken, fun n hn => (h.huge n hn).of_suffix hu⟩

end Token

/-! ### What a number takes of a text -/

theorem wholePart?_eq_some {t whole rest : Text} (h : wholePart? t = some (whole, rest)) :
    t = whole ++ rest ∧ ∀ c ∈ whole, c.isAsciiDigit = true := by
  rcases t with _ | ⟨c, t⟩
  · cases h
  · simp only [wholePart?] at h
    split at h
    · next hc =>
      cases h
      refine ⟨rfl, ?_⟩
      intro d hd
      rw [List.mem_singleton.1 hd, hc]
      rfl
    · split at h
      · next hc =>
        cases h
        refine ⟨by simp, ?_⟩
        rw [List.forall_mem_cons]
        refine ⟨hc, ?_⟩
        intro d hd
        exact List.mem_takeWhile_imp hd
      · cases h

theorem fractionPart_suffix (t : Text) : (fractionPart t).2 <:+ t := by
  unfold fractionPart
  split
  · next c rest =>
    split
    · exact (List.dropWhile_suffix _).trans ((List.suffix_cons _ _).trans (List.suffix_cons _ _))
    · exact List.suffix_rfl
  · exact List.suffix_rfl

theorem exponentSign_suffix (t : Text) : (exponentSign t).2 <:+ t := by
  unfold exponentSign
  split
  · exact List.suffix_cons _ _
  · exact List.suffix_cons _ _
  · exact List.suffix_rfl

theorem exponentPart?_suffix {t rest : Text} {e : Int} (h : exponentPart? t = some (e, rest)) :
    rest <:+ t := by
  rcases t with _ | ⟨c, t⟩
  · cases h
  · simp only [exponentPart?] at h
    split at h
    · split at h
      · cases h
      · cases h
        exact ((List.dropWhile_suffix _).trans (exponentSign_suffix t)).trans (List.suffix_cons _ _)
    · cases h

/-- A number leaves a rest of the text; if it has too many digits, the text has the row. -/
theorem unsigned?_within {negative : Bool} {t rest : Text} {token : Token}
    (h : unsigned? negative t = some (token, rest)) :
    rest <:+ t ∧ token.Within t ∧ token.opens = false := by
  simp only [unsigned?, Option.bind_eq_bind, Option.bind_eq_some_iff, Prod.exists] at h
  obtain ⟨whole, behind, hwhole, h⟩ := h
  obtain ⟨rfl, hdigits⟩ := wholePart?_eq_some hwhole
  have hfraction : (fractionPart behind).2 <:+ whole ++ behind :=
    (fractionPart_suffix behind).trans (List.suffix_append _ _)
  split at h
  · next e _ hexponent =>
    cases h
    exact ⟨(exponentPart?_suffix hexponent).trans hfraction, Token.within_scalar _ _, rfl⟩
  · split at h
    · split at h
      · next hlong =>
        cases h
        refine ⟨hfraction, ⟨?_, ?_⟩, rfl⟩
        · rintro _ ⟨⟩
        · intro _ _
          exact ⟨whole, (List.prefix_append _ _).isInfix, hdigits, hlong⟩
      · cases h
        exact ⟨hfraction, Token.within_scalar _ _, rfl⟩
    · cases h
      exact ⟨hfraction, Token.within_scalar _ _, rfl⟩

theorem number?_within {t rest : Text} {token : Token} (h : number? t = some (token, rest)) :
    rest <:+ t ∧ token.Within t ∧ token.opens = false := by
  unfold number? at h
  split at h
  · obtain ⟨hrest, hwithin, hopens⟩ := unsigned?_within h
    exact ⟨hrest.trans (List.suffix_cons _ _), hwithin.of_suffix (List.suffix_cons _ _), hopens⟩
  · exact unsigned?_within h

theorem word?_within {t rest : Text} {token : Token} (h : word? t = some (token, rest)) :
    rest <:+ t ∧ token.Within t ∧ token.opens = false := by
  obtain ⟨⟨word, v⟩, -, h⟩ := List.exists_of_findSome?_eq_some h
  obtain ⟨behind, hbehind, h⟩ := Option.map_eq_some_iff.1 h
  cases h
  obtain rfl := Text.dropStart?_eq_some_iff.1 hbehind
  exact ⟨List.suffix_append _ _, Token.within_scalar _ _, rfl⟩

/-! ### What a text literal takes -/

theorem textFrom_suffix {start : Text} {high : Option Nat} {done t r rest : Text}
    (h : textFrom start high done t = .ok (r, rest)) : rest <:+ t := by
  fun_induction textFrom start high done t
  case case2 =>
    cases h
    exact List.suffix_cons _ _
  case case5 | case6 =>
    rename_i ih
    exact (ih h).trans (List.suffix_append [_, _, _, _, _, _] _)
  case case8 =>
    rename_i ih
    exact (ih h).trans (List.suffix_append [_, _] _)
  case case11 =>
    rename_i ih
    exact (ih h).trans (List.suffix_cons _ _)
  all_goals cases h

/-- A fault inside a text literal is a complaint about a place. -/
theorem malformed_of_textFrom {start : Text} {high : Option Nat} {done t : Text} {fault : Fault}
    (h : textFrom start high done t = .error fault) :
    ∃ complaint remaining, fault = .malformed complaint remaining := by
  fun_induction textFrom start high done t
  case case2 => cases h
  case case5 | case6 | case8 | case11 =>
    rename_i ih
    exact ih h
  all_goals
    cases h
    exact ⟨_, _, rfl⟩

/-! ### Tokens -/

theorem Token.within_of_punctuation {c : CodePoint} {token : Token}
    (h : punctuation? c = some token) (t : Text) :
    token.Within t ∧ (token.opens = true → isOpening c = true) := by
  unfold punctuation? at h
  split_ifs at h with hopen _ hbracket
  case pos =>
    cases h
    refine ⟨⟨nofun, nofun⟩, ?_⟩
    intro _
    rw [hopen]
    rfl
  case pos =>
    cases h
    exact ⟨⟨nofun, nofun⟩, nofun⟩
  case pos =>
    cases h
    refine ⟨⟨nofun, nofun⟩, ?_⟩
    intro _
    rw [hbracket]
    rfl
  all_goals
    cases h
    exact ⟨⟨nofun, nofun⟩, nofun⟩

/-- How a token stands at the head of a text, and what is left behind it. -/
structure Token.Heads (token : Token) (behind : Option Text) (c : CodePoint) (t : Text) : Prop where
  within : token.Within (c :: t)
  opening : token.opens = true → isOpening c = true
  suffix : ∀ rest, behind = some rest → rest <:+ t

section

variable {c : CodePoint} {t rest : Text} {token : Token}

theorem Token.heads_of_punctuation (h : punctuation? c = some token) :
    token.Heads (some t) c t := by
  obtain ⟨hwithin, hopening⟩ := within_of_punctuation h (c :: t)
  refine ⟨hwithin, hopening, ?_⟩
  rintro rest ⟨⟩
  exact List.suffix_rfl

/-- A word or a number takes at least the code point that it begins with. -/
theorem Token.heads_of_scan (h : rest <:+ c :: t ∧ token.Within (c :: t) ∧ token.opens = false)
    (hlength : rest.length < (c :: t).length) : token.Heads (some rest) c t := by
  obtain ⟨hrest, hwithin, hopens⟩ := h
  refine ⟨hwithin, fun hopen => absurd hopen (by simp [hopens]), ?_⟩
  rintro rest ⟨⟩
  rcases List.suffix_cons_iff.1 hrest with rfl | hrest
  · exact absurd hlength (Nat.lt_irrefl _)
  · exact hrest

theorem nextToken_heads {behind : Option Text} (h : nextToken c t = (token, behind)) :
    token.Heads behind c t := by
  unfold nextToken at h
  cases hp : punctuation? c with
  | some punctuation =>
    rw [hp] at h
    cases h
    exact Token.heads_of_punctuation hp
  | none =>
    rw [hp] at h
    dsimp only at h
    -- a text literal comes first, then a word, and a number only where no word begins
    split at h
    · cases htext : textFrom (c :: t) none [] t with
      | error fault =>
        rw [htext] at h
        cases h
        refine ⟨⟨?_, nofun⟩, nofun, nofun⟩
        rintro _ ⟨⟩
        exact malformed_of_textFrom htext
      | ok r =>
        rw [htext] at h
        cases h
        refine ⟨⟨nofun, nofun⟩, nofun, ?_⟩
        rintro rest ⟨⟩
        exact textFrom_suffix htext
    · cases hword : word? (c :: t) with
      | some r =>
        rw [hword] at h
        cases h
        exact Token.heads_of_scan (word?_within hword) (length_lt_of_word? hword)
      | none =>
        rw [hword] at h
        dsimp only at h
        cases hnumber : number? (c :: t) with
        | some r =>
          rw [hnumber] at h
          cases h
          exact Token.heads_of_scan (number?_within hnumber) (length_lt_of_number? hnumber)
        | none =>
          rw [hnumber] at h
          cases h
          exact ⟨⟨nofun, nofun⟩, nofun, nofun⟩

end

/-- What the tokens of a text are: none has a fault that the text does not account for, and no
    more of them open a container than code points do. -/
theorem tokens_within (t : Text) :
    (∀ p ∈ tokens t, p.token.Within t) ∧
      (tokens t).countP (fun p => p.token.opens) ≤ t.countP isOpening := by
  -- what one token adds to the one count, its first code point adds to the other
  have hcount : ∀ {c : CodePoint} {token : Token}, (token.opens = true → isOpening c = true) →
      (if token.opens = true then 1 else 0) ≤ if isOpening c = true then 1 else 0 := by
    intro c token hopening
    split
    · next hopens => rw [if_pos (hopening hopens)]
    · exact Nat.zero_le _
  fun_induction tokens t with
  | case1 => exact ⟨by simp, Nat.le_refl _⟩
  | case2 c rest _ ih =>
    obtain ⟨hwithin, hopening⟩ := ih
    refine ⟨?_, ?_⟩
    · intro p hp
      exact (hwithin p hp).of_suffix (List.suffix_cons _ _)
    · exact hopening.trans ((List.sublist_cons_self c rest).countP_le)
  | case3 c rest _ token h =>
    obtain ⟨hwithin, hopening, -⟩ := nextToken_heads h
    refine ⟨?_, ?_⟩
    · rintro p hp
      rw [List.mem_singleton.1 hp]
      exact hwithin
    · rw [List.countP_cons, List.countP_cons]
      exact Nat.add_le_add (Nat.zero_le _) (hcount hopening)
  | case4 c rest _ token behind h _ ih =>
    obtain ⟨hwithin, hopening, hbehind⟩ := nextToken_heads h
    have hsuffix := hbehind behind rfl
    refine ⟨?_, ?_⟩
    · rw [List.forall_mem_cons]
      refine ⟨hwithin, ?_⟩
      intro p hp
      exact (ih.1 p hp).of_suffix (hsuffix.trans (List.suffix_cons _ _))
    · rw [List.countP_cons, List.countP_cons]
      exact Nat.add_le_add (ih.2.trans hsuffix.sublist.countP_le) (hcount hopening)

/-! ### Reading -/

namespace Stage

def depth : Stage → Nat
  | value stack => stack.length
  | firstItem stack => stack.length + 1
  | name stack _ => stack.length + 1
  | firstName stack => stack.length + 1
  | colon stack _ _ => stack.length + 1
  | after stack _ => stack.length

theorem depth_of_enter {stack : List Frame} {container : Container} {inside : Stage}
    {result : Option Stage} (h : enter stack container inside = .ok result) :
    result = some inside := by
  unfold enter at h
  split at h
  · exact nomatch h
  · exact (Except.ok.inj h).symm

theorem depth_of_beginValue {stack : List Frame} {behind : Stage} {token : Token}
    (h : beginValue stack token = .ok (some behind)) :
    behind.depth = stack.length + if token.opens = true then 1 else 0 := by
  cases token with
  | openBrace =>
    cases depth_of_enter h
    rfl
  | openBracket =>
    cases depth_of_enter h
    rfl
  | text t =>
    cases h
    rfl
  | scalar v =>
    cases h
    rfl
  | _ => exact nomatch h

theorem depth_of_beginField {stack : List Frame} {fields : List (Text × Json)} {behind : Stage}
    {token : Token} (h : beginField stack fields token = .ok (some behind)) :
    behind.depth = stack.length + 1 := by
  cases token with
  | text t =>
    cases h
    rfl
  | _ => exact nomatch h

theorem fault_of_beginValue {stack : List Frame} {token : Token} {fault : Fault}
    (h : beginValue stack token = .error fault) :
    token = .brokenText fault ∨ (∃ n, fault = .hugeInteger n ∧ token = .hugeInteger n) ∨
      (∃ container, fault = .tooDeep container) ∧ token.opens = true ∧
        mostNested ≤ stack.length := by
  have henter : ∀ {container : Container} {inside : Stage},
      enter stack container inside = .error fault →
        (∃ container, fault = .tooDeep container) ∧ mostNested ≤ stack.length := by
    intro container inside h
    unfold enter at h
    split at h
    · next hdeep => exact ⟨⟨container, (Except.error.inj h).symm⟩, hdeep⟩
    · exact nomatch h
  cases token with
  | openBrace =>
    obtain ⟨hfault, hdeep⟩ := henter h
    exact .inr (.inr ⟨hfault, rfl, hdeep⟩)
  | openBracket =>
    obtain ⟨hfault, hdeep⟩ := henter h
    exact .inr (.inr ⟨hfault, rfl, hdeep⟩)
  | brokenText fault' =>
    cases h
    exact .inl rfl
  | hugeInteger n =>
    cases h
    exact .inr (.inl ⟨n, rfl, rfl⟩)
  | _ => exact nomatch h

theorem fault_of_beginField {stack : List Frame} {fields : List (Text × Json)} {token : Token}
    {fault : Fault} (h : beginField stack fields token = .error fault) :
    token = .brokenText fault := by
  cases token with
  | brokenText fault' =>
    cases h
    rfl
  | _ => exact nomatch h

section

variable {closing : Closing} {stack : List Frame} {token : Token}

/-- The first item of an array begins as any value inside it does. -/
theorem next_firstItem (h : token ≠ .closeBracket) :
    next closing (firstItem stack) token = beginValue (.array [] :: stack) token := by
  cases token with
  | closeBracket => exact absurd rfl h
  | _ => rfl

theorem next_firstName (h : token ≠ .closeBrace) :
    next closing (firstName stack) token = beginField stack [] token := by
  cases token with
  | closeBrace => exact absurd rfl h
  | _ => rfl

end

/-- One step opens at most one container, and only at a token that opens one. -/
theorem depth_of_next {closing : Closing} {stage behind : Stage} {token : Token}
    (h : stage.next closing token = .ok (some behind)) :
    behind.depth ≤ stage.depth + if token.opens = true then 1 else 0 := by
  cases stage with
  | value stack => exact (depth_of_beginValue h).le
  | firstItem stack =>
    by_cases htoken : token = .closeBracket
    · subst htoken
      cases h
      exact Nat.le_succ _
    · rw [next_firstItem htoken] at h
      exact (depth_of_beginValue h).le
  | firstName stack =>
    by_cases htoken : token = .closeBrace
    · subst htoken
      cases h
      exact Nat.le_succ _
    · rw [next_firstName htoken] at h
      exact (depth_of_beginField h).trans_le (Nat.le_add_right _ _)
  | name stack fields => exact (depth_of_beginField h).trans_le (Nat.le_add_right _ _)
  | colon stack fields n =>
    cases token with
    | colon =>
      cases h
      exact Nat.le_refl _
    | _ => exact nomatch h
  | after stack v =>
    -- behind a value the container around it goes on as it is, or is closed
    rcases stack with _ | ⟨_ | _, stack⟩
    · cases token <;> exact nomatch h
    · cases token with
      | comma =>
        cases h
        exact Nat.le_refl _
      | closeBracket =>
        cases h
        exact Nat.le_succ _
      | _ => exact nomatch h
    · cases token with
      | comma =>
        cases h
        exact Nat.le_refl _
      | closeBrace =>
        cases h
        exact Nat.le_succ _
      | _ => exact nomatch h

/-- What one step may fail of. -/
theorem fault_of_next {closing : Closing} {stage : Stage} {token : Token} {fault : Fault}
    (h : stage.next closing token = .error fault) :
    token = .brokenText fault ∨ (∃ n, fault = .hugeInteger n ∧ token = .hugeInteger n) ∨
      (∃ container, fault = .tooDeep container) ∧ token.opens = true ∧
        mostNested ≤ stage.depth := by
  cases stage with
  | value stack => exact fault_of_beginValue h
  | firstItem stack =>
    by_cases htoken : token = .closeBracket
    · subst htoken
      exact nomatch h
    · rw [next_firstItem htoken] at h
      exact fault_of_beginValue h
  | firstName stack =>
    by_cases htoken : token = .closeBrace
    · subst htoken
      exact nomatch h
    · rw [next_firstName htoken] at h
      exact .inl (fault_of_beginField h)
  | name stack fields => exact .inl (fault_of_beginField h)
  | colon stack fields n => cases token <;> exact nomatch h
  | after stack v =>
    rcases stack with _ | ⟨_ | _, stack⟩
    · cases token <;> exact nomatch h
    · cases token <;> exact nomatch h
    · cases token <;> exact nomatch h

/-- What a run may fail of. -/
theorem fault_of_finish {closing : Closing} {stage : Stage} {ps : List Placed} {fault : Fault}
    (h : stage.finish closing ps = .error fault) :
    (∃ complaint remaining, fault = .malformed complaint remaining) ∨
      (∃ p ∈ ps, p.token = .brokenText fault) ∨
      (∃ n, fault = .hugeInteger n ∧ ∃ p ∈ ps, p.token = .hugeInteger n) ∨
      (∃ container, fault = .tooDeep container) ∧
        mostNested < stage.depth + ps.countP fun p => p.token.opens := by
  -- the stage is general: a step adds to its depth what its token takes from the count
  induction ps generalizing stage with
  | nil =>
    left
    cases stage with
    | after stack v =>
      cases stack with
      | nil => exact nomatch h
      | cons frame stack =>
        cases h
        exact ⟨_, _, rfl⟩
    | _ =>
      cases h
      exact ⟨_, _, rfl⟩
  | cons p ps ih =>
    rw [List.countP_cons]
    simp only [finish] at h
    cases hnext : stage.next closing p.token with
    | error fault' =>
      rw [hnext] at h
      cases h
      rcases fault_of_next hnext with hbroken | ⟨n, hn, hhuge⟩ | ⟨hdeep, hopens, hdepth⟩
      · exact .inr (.inl ⟨p, List.mem_cons_self, hbroken⟩)
      · exact .inr (.inr (.inl ⟨n, hn, p, List.mem_cons_self, hhuge⟩))
      · refine .inr (.inr (.inr ⟨hdeep, ?_⟩))
        rw [if_pos hopens]
        omega
    | ok result =>
      rw [hnext] at h
      cases result with
      | none =>
        cases h
        exact .inl ⟨_, _, rfl⟩
      | some behind =>
        have hdepth := depth_of_next hnext
        rcases ih h with hplace | ⟨q, hq, hbroken⟩ | ⟨n, hn, q, hq, hhuge⟩ | ⟨hdeep, hcount⟩
        · exact .inl hplace
        · exact .inr (.inl ⟨q, List.mem_cons_of_mem _ hq, hbroken⟩)
        · exact .inr (.inr (.inl ⟨n, hn, q, List.mem_cons_of_mem _ hq, hhuge⟩))
        · refine .inr (.inr (.inr ⟨hdeep, ?_⟩))
          omega

end Stage

/-- **A text without a long row of digits and without more brackets than may be open is read
    within the limits.** -/
theorem withinLimits_of_small {t : Text} (hrow : ¬ HasLongRow t)
    (hopening : t.countP isOpening ≤ Stage.mostNested) : WithinLimits t := by
  intro fault h
  unfold read at h
  split at h
  · cases h
    exact ⟨_, _, rfl⟩
  · obtain ⟨hwithin, hcount⟩ := tokens_within t
    rcases Stage.fault_of_finish h with
      hplace | ⟨p, hp, hbroken⟩ | ⟨n, -, p, hp, hhuge⟩ | ⟨-, hdeep⟩
    · exact hplace
    · exact (hwithin p hp).broken fault hbroken
    · exact absurd ((hwithin p hp).huge n hhuge) hrow
    · simp only [Stage.depth, List.length_nil] at hdeep
      omega

end Json

end Ambient
