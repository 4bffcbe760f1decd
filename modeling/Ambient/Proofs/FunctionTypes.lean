/-
  Ambient/Proofs/FunctionTypes.lean
  =================================
  **Function types argument by argument.**

  A text that closes each parenthesis it opens leaves the depth as it found it, and nowhere in it
  is the depth less than at its beginning (`Balanced.depthBehind_eq`, `Balanced.le_depthBehind`).
  Two things follow for a function type whose arguments are such texts.  Behind the parenthesis
  that opens it the depth is one at least, so no bar in an argument parts the whole
  (`no_bar_functionToken`).  And between the arguments the depth is zero, so cutting what stands
  between the parentheses gives the arguments back, as long as no comma stands in one at depth
  zero (`splitTop_join`).

  Each argument that is not blank is then translated on its own, from left to right, with a
  fallback, so that a function type always has a translation.
-/
import Ambient.Proofs.SimpleTypes
import Ambient.Proofs.TypeGrammar
import Mathlib.Data.List.Infix

namespace Ambient

/-! ### Balanced texts -/

namespace Text

/-- A text that closes the parentheses it opens, each behind its opening. -/
structure Balanced (t : Text) : Prop where
  closes_le : ∀ before, before <+: t →
    before.count (.scalar ')') ≤ before.count (.scalar '(')
  closed : t.count (.scalar ')') = t.count (.scalar '(')

instance (t : Text) : Decidable (Balanced t) :=
  decidable_of_iff ((∀ before ∈ t.inits, before.count (.scalar ')') ≤ before.count (.scalar '(')) ∧
    t.count (.scalar ')') = t.count (.scalar '('))
    ⟨fun h => ⟨fun before hbefore => h.1 before ((List.mem_inits _ _).2 hbefore), h.2⟩,
      fun h => ⟨fun before hbefore => h.closes_le before ((List.mem_inits _ _).1 hbefore),
        h.closed⟩⟩

theorem Balanced.append {a b : Text} (ha : Balanced a) (hb : Balanced b) : Balanced (a ++ b) := by
  constructor
  · intro before hbefore
    rcases List.prefix_or_prefix_of_prefix hbefore (List.prefix_append a b) with h | ⟨p, rfl⟩
    · exact ha.closes_le before h
    · have hp := hb.closes_le p ((List.prefix_append_right_inj a).1 hbefore)
      have hclosed := ha.closed
      rw [List.count_append, List.count_append]
      omega
  · rw [List.count_append, List.count_append, ha.closed, hb.closed]

theorem balanced_of_notMem {t : Text} (hopen : .scalar '(' ∉ t) (hclose : .scalar ')' ∉ t) :
    Balanced t := by
  constructor
  · intro before hbefore
    rw [List.count_eq_zero.2 fun h => hclose (hbefore.subset h)]
    exact Nat.zero_le _
  · rw [List.count_eq_zero.2 hclose, List.count_eq_zero.2 hopen]

theorem balanced_join {joint : Text} (hjoint : Balanced joint) {texts : List Text}
    (h : ∀ t ∈ texts, Balanced t) : Balanced (join joint texts) := by
  induction texts with
  | nil => exact balanced_of_notMem (by simp [join]) (by simp [join])
  | cons t rest ih =>
    rw [List.forall_mem_cons] at h
    cases rest with
    | nil => exact h.1
    | cons second rest => exact (h.1.append hjoint).append (ih h.2)

end Text

open Text (Balanced)

theorem depthBehind_single_add_count {depth : Nat} {c : CodePoint}
    (h : [c].count (.scalar ')') ≤ depth + [c].count (.scalar '(')) :
    depthBehind depth [c] + [c].count (.scalar ')') = depth + [c].count (.scalar '(') := by
  revert h
  by_cases hopen : c = .scalar '('
  · simp [depthBehind, hopen]
  · by_cases hclose : c = .scalar ')'
    · simp [depthBehind, hclose]
      omega
    · simp [depthBehind, hopen, hclose]

/-- The depth behind a text that closes nothing too much is what it opened and did not close. -/
theorem depthBehind_add_count (depth : Nat) (t : Text)
    (h : ∀ before, before <+: t →
      before.count (.scalar ')') ≤ depth + before.count (.scalar '(')) :
    depthBehind depth t + t.count (.scalar ')') = depth + t.count (.scalar '(') := by
  induction t generalizing depth with
  | nil => rfl
  | cons c rest ih =>
    have hfirst := depthBehind_single_add_count (h [c] (List.prefix_append [c] rest))
    have hrest : depthBehind (depthBehind depth [c]) rest + rest.count (.scalar ')') =
        depthBehind depth [c] + rest.count (.scalar '(') := by
      apply ih
      intro before hbefore
      have hall := h ([c] ++ before) ((List.prefix_append_right_inj [c]).2 hbefore)
      rw [List.count_append, List.count_append] at hall
      omega
    rw [← List.singleton_append, depthBehind_append, List.count_append, List.count_append]
    omega

theorem Text.Balanced.depthBehind_eq {t : Text} (h : Balanced t) (depth : Nat) :
    depthBehind depth t = depth := by
  have hcount := depthBehind_add_count depth t fun before hbefore =>
    Nat.le_trans (h.closes_le before hbefore) (Nat.le_add_left _ _)
  have hclosed := h.closed
  omega

theorem Text.Balanced.le_depthBehind {t before : Text} (h : Balanced t) (hbefore : before <+: t)
    (depth : Nat) : depth ≤ depthBehind depth before := by
  have hcount := depthBehind_add_count depth before fun p hp =>
    Nat.le_trans (h.closes_le p (hp.trans hbefore)) (Nat.le_add_left _ _)
  have hcloses := h.closes_le before hbefore
  omega

/-! ### Cutting a joined text -/

section Cut

variable {sep : CodePoint} (hopen : sep ≠ '(') (hclose : sep ≠ ')')

include hopen hclose

/-- **Cutting undoes joining** for balanced texts in which no separator stands at depth zero. -/
theorem splitTop_join {texts : List Text} (hne : texts ≠ [])
    (hbalanced : ∀ t ∈ texts, Balanced t)
    (hsep : ∀ t ∈ texts, ∀ before after, t = before ++ sep :: after → depthBehind 0 before ≠ 0) :
    splitTop sep (Text.join [sep] texts) = texts := by
  induction texts with
  | nil => exact absurd rfl hne
  | cons t rest ih =>
    rw [List.forall_mem_cons] at hbalanced hsep
    cases rest with
    | nil => exact (splitTop_eq_singleton_iff hopen hclose).2 (topCount_eq_zero_iff.2 hsep.1)
    | cons second rest =>
      have hrest := ih (List.cons_ne_nil second rest) hbalanced.2 hsep.2
      have hjoin : Text.join [sep] (t :: second :: rest) =
          t ++ sep :: Text.join [sep] (second :: rest) := by
        simp [Text.join]
      rw [hjoin, splitTop, splitAtDepth_append_sep hopen hclose _ (hbalanced.1.depthBehind_eq 0)
        (topCount_eq_zero_iff.2 hsep.1)]
      exact congrArg (t :: ·) hrest

end Cut

/-! ### Function types -/

/-- The types of some texts with a fallback, each in the context that the texts in front of it
    leave. -/
def Context.translateEach (fallback : Text) (ctx : Context) :
    List Text → List (Option Text) × Context
  | [] => ([], ctx)
  | t :: rest =>
    let (type, ctx) := ctx.translate (some fallback) (some t)
    let (types, ctx) := ctx.translateEach fallback rest
    (type :: types, ctx)

namespace DocType

/-- A text that can stand among the arguments of a function: on one line, balanced, and without a
    comma outside its parentheses. -/
structure IsArgument (t : Text) : Prop extends Balanced t where
  noComma : ∀ before : Text, before ++ "," <+: t →
    before.count (.scalar ')') < before.count (.scalar '(')
  oneLine : .scalar '\n' ∉ t

instance (t : Text) : Decidable (IsArgument t) :=
  decidable_of_iff (Balanced t ∧ (∀ before ∈ t.inits, before ++ "," <+: t →
    before.count (.scalar ')') < before.count (.scalar '(')) ∧ .scalar '\n' ∉ t)
    ⟨fun h => ⟨h.1, fun before hcut => h.2.1 before
        ((List.mem_inits _ _).2 ((List.prefix_append before _).trans hcut)) hcut, h.2.2⟩,
      fun h => ⟨h.1, fun before _ hcut => h.noComma before hcut, h.oneLine⟩⟩

def functionToken (texts : List Text) : Text := "Function(" ++ Text.join "," texts ++ ")"

theorem translateAll_parse (fallback : Text) (ctx : Context) (texts : List Text) :
    translateAll (some fallback) ctx (texts.map parse) = ctx.translateEach fallback texts := by
  induction texts generalizing ctx with
  | nil => rfl
  | cons t rest ih =>
    change ((translate (some fallback) ctx (parse t)).1 ::
        (translateAll (some fallback) (translate (some fallback) ctx (parse t)).2
          (rest.map parse)).1,
      (translateAll (some fallback) (translate (some fallback) ctx (parse t)).2
        (rest.map parse)).2) = _
    rw [ih]
    rfl

section Token

variable {texts : List Text} (h : ∀ t ∈ texts, IsArgument t)

include h

theorem balanced_arguments : Balanced (Text.join "," texts) :=
  Text.balanced_join (by decide) fun t ht => (h t ht).toBalanced

/-- The arguments are what is cut between the parentheses, the blank ones apart. -/
theorem argumentsOf_join :
    argumentsOf (Text.join "," texts) = texts.filter fun t => !t.isBlank := by
  by_cases hne : texts = []
  · subst hne
    rfl
  · have hcut : splitTop ',' (Text.join "," texts) = texts := by
      apply splitTop_join (by decide) (by decide) hne fun t ht => (h t ht).toBalanced
      rintro t ht before after rfl
      have hcomma := (h _ ht).noComma before
        (by rw [← List.singleton_append, ← List.append_assoc]; exact List.prefix_append _ _)
      have hcount := depthBehind_add_count 0 before fun p hp => by
        rw [Nat.zero_add]
        exact (h _ ht).closes_le p (hp.trans (List.prefix_append before _))
      omega
    rw [argumentsOf, hcut]

/-- Behind the parenthesis that opens a function type the depth is one at least. -/
theorem no_bar_functionToken (before after : Text)
    (hcut : functionToken texts = before ++ .scalar '|' :: after) : depthBehind 0 before ≠ 0 := by
  rw [functionToken, List.append_assoc] at hcut
  -- the word in front of the parenthesis has no bar, so the bar is behind the parenthesis
  have hbehind : ∀ p, p ++ .scalar '|' :: after = Text.join "," texts ++ ")" →
      before = "Function(" ++ p → depthBehind 0 before ≠ 0 := by
    rintro p hp rfl
    have hprefix : p <+: Text.join "," texts := by
      rcases List.prefix_concat_iff.1 ⟨_, hp⟩ with hwhole | hprefix
      · subst hwhole
        exact nomatch List.append_right_eq_self.1 hp
      · exact hprefix
    have hdepth := (balanced_arguments h).le_depthBehind hprefix 1
    rw [depthBehind_append]
    exact Nat.ne_of_gt hdepth
  rcases List.append_eq_append_iff.1 hcut with ⟨p, hbefore, hp⟩ | ⟨bar, hhead, hbar⟩
  · exact hbehind p hp.symm hbefore
  · cases bar with
    | nil => exact hbehind [] hbar (by rw [hhead, List.append_nil, List.append_nil])
    | cons c bar =>
      obtain ⟨rfl, -⟩ := List.cons.inj hbar
      have hmem : .scalar '|' ∈ Text.ofString "Function(" := by
        rw [hhead]
        simp
      exact absurd hmem (by decide)

theorem parse_functionToken :
    parse (functionToken texts) =
      function ((texts.filter fun t => !t.isBlank).map parse) := by
  have hhead : functionToken texts =
      .scalar 'F' :: ("unction(" ++ Text.join "," texts ++ ")") := rfl
  have hlast : (functionToken texts).getLast? = some (.scalar ')') := List.getLast?_concat
  have htrim : (functionToken texts).trim = functionToken texts := by
    apply Text.trim_eq_self
    · rintro c hc
      obtain rfl := Option.some.inj hc
      decide
    · rintro c hc
      obtain rfl := Option.some.inj (hlast.symm.trans hc)
      decide
  have harray : ¬ isArrayText (functionToken texts) = true := by
    rw [isArrayText_iff]
    rintro ⟨-, front, hfront⟩
    rw [← hfront, List.getLast?_append] at hlast
    exact absurd (Option.some.inj hlast) (by decide)
  have hbar : splitTop '|' (functionToken texts) = [functionToken texts] := by
    rw [splitTop_eq_singleton_iff (by decide) (by decide), topCount_eq_zero_iff]
    exact no_bar_functionToken h
  have hinner : argumentText? (functionToken texts) = some (Text.join "," texts) := by
    have hrest : afterForms? functionHead (functionToken texts) =
        some (Text.join "," texts ++ ")") := rfl
    have hend : (Text.join "," texts ++ ")").getLast? = some (.scalar ')') := List.getLast?_concat
    have hfront : (Text.join "," texts ++ ")").dropLast = Text.join "," texts :=
      List.dropLast_concat
    have hline : .scalar '\n' ∉ Text.join "," texts :=
      Text.notMem_join (by decide) fun t ht => (h t ht).oneLine
    simp [argumentText?, hrest, hend, hfront, hline]
  -- neither blank nor an array nor a union, and the parenthesis at the end closes the first one
  rw [parse_eq, htrim, if_neg (by simp [hhead]), if_neg harray, hbar, if_neg (by simp), hinner]
  simp only [argumentsOf_join h]

end Token

/-- **Function types translate argument by argument.**  Let the arguments of a function be texts
    on one line that close what they open and have no comma outside parentheses.  Whatever the
    fallback is, the type of the function is made of the types of the arguments that are not
    blank, each translated with `any` as its fallback in the context that the ones in front of it
    leave, and they are numbered without a gap. -/
theorem translate_functionToken (ctx : Context) (fallback : Option Text) {texts : List Text}
    (h : ∀ t ∈ texts, IsArgument t) :
    ∃ types : List Text,
      (ctx.translateEach "any" (texts.filter fun t => !t.isBlank)).1 = types.map some ∧
      ctx.translate fallback (some (functionToken texts)) =
        (some ("(" ++ Text.join ", " (types.mapIdx fun i type =>
            "p" ++ Text.ofNat (i + 1) ++ ": " ++ type) ++ ") => any"),
          (ctx.translateEach "any" (texts.filter fun t => !t.isBlank)).2) := by
  have hall := translateAll_parse argumentFallback ctx (texts.filter fun t => !t.isBlank)
  have htypes := translateAll_some argumentFallback ctx
    ((texts.filter fun t => !t.isBlank).map parse)
  refine ⟨_, (congrArg Prod.fst hall).symm.trans htypes, ?_⟩
  rw [hall] at htypes
  change translate fallback ctx (parse (functionToken texts)) = _
  rw [parse_functionToken h]
  change ((allPresent (translateAll (some argumentFallback) ctx _).1).map functionText,
    (translateAll (some argumentFallback) ctx _).2) = _
  rw [hall, htypes, allPresent_eq_some_iff.2 rfl, Option.map_some, functionText_eq]
  rfl

def menuArguments : List Text :=
  ["Number|String[]", " Function(Boolean, Frob)|Object ", " ", "Frob"]

theorem translate_functionToken_menuArguments :
    (∀ t ∈ menuArguments, IsArgument t) ∧
    ∃ types : List Text,
      ((Context.start .standard []).translateEach "any"
        (menuArguments.filter fun t => !t.isBlank)).1 = types.map some ∧
      (Context.start .standard []).translate none (some (functionToken menuArguments)) =
        (some ("(" ++ Text.join ", " (types.mapIdx fun i type =>
            "p" ++ Text.ofNat (i + 1) ++ ": " ++ type) ++ ") => any"),
          ((Context.start .standard []).translateEach "any"
            (menuArguments.filter fun t => !t.isBlank)).2) :=
  ⟨by decide, translate_functionToken (Context.start .standard []) none (by decide)⟩

example :
    ((Context.start .standard []).translate none (some (functionToken menuArguments))).1 =
      some ("(p1: number|string[], p2: ((p1: boolean, p2: any) => any)|any, p3: any) => any" :
        Text) := by
  decide +kernel

end DocType

end Ambient
