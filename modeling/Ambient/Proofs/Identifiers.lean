/-
  Ambient/Proofs/Identifiers.lean
  ===============================
  **Which names are taken for symbols.**

  `isSymbol` is the only test that a documented name has to pass before it is declared.  What it
  lets pass is compared with the grammar of identifiers, which is said here by the numbers of the
  code points (`IsIdentifier`): a letter, a dollar sign or an underscore, and then any number of
  these and of ASCII digits.  The test lets pass all identifiers, and each of them with one line
  feed behind it as well (`isSymbol_iff`).  So the names that the checks of signatures and of
  properties let pass (`IsPassed`) stay on one line, but for those that end in a line feed
  (`isSymbol_exact`).
-/
import Ambient.Declaration.Build
import Ambient.Proofs.CapitalSymbols

namespace Ambient

/-! ### The grammar of identifiers -/

namespace CodePoint

/-- The letters of ASCII, and the four code points beyond ASCII that are another case of one: the
    capital I with a dot, the small i without one, the long s and the Kelvin sign. -/
def IsLetter (c : CodePoint) : Prop :=
  0x41 ≤ c.code ∧ c.code ≤ 0x5A ∨ 0x61 ≤ c.code ∧ c.code ≤ 0x7A ∨
    c.code ∈ [0x130, 0x131, 0x17F, 0x212A]

def BeginsIdentifier (c : CodePoint) : Prop := c = '$' ∨ c = '_' ∨ c.IsLetter

def ContinuesIdentifier (c : CodePoint) : Prop :=
  c.BeginsIdentifier ∨ 0x30 ≤ c.code ∧ c.code ≤ 0x39

theorem not_low_surrogate (k : Fin 2048) {low high : Nat} (h : high < firstSurrogate) :
    ¬ (low ≤ (surrogate k).code ∧ (surrogate k).code ≤ high) := by
  rw [code_surrogate]
  omega

theorem isAsciiUpper_iff {c : CodePoint} :
    c.isAsciiUpper = true ↔ 0x41 ≤ c.code ∧ c.code ≤ 0x5A := by
  cases c with
  | scalar c =>
    change decide ('A'.val ≤ c.val ∧ c.val ≤ 'Z'.val) = true ↔ _
    rw [decide_eq_true_eq]
    exact and_congr UInt32.le_iff_toNat_le UInt32.le_iff_toNat_le
  | surrogate k => exact iff_of_false Bool.false_ne_true (not_low_surrogate k (by decide))

theorem isAsciiLower_iff {c : CodePoint} :
    c.isAsciiLower = true ↔ 0x61 ≤ c.code ∧ c.code ≤ 0x7A := by
  cases c with
  | scalar c =>
    change (decide ('a'.val ≤ c.val) && decide (c.val ≤ 'z'.val)) = true ↔ _
    rw [Bool.and_eq_true, decide_eq_true_eq, decide_eq_true_eq]
    exact and_congr UInt32.le_iff_toNat_le UInt32.le_iff_toNat_le
  | surrogate k => exact iff_of_false Bool.false_ne_true (not_low_surrogate k (by decide))

theorem isAsciiDigit_iff {c : CodePoint} :
    c.isAsciiDigit = true ↔ 0x30 ≤ c.code ∧ c.code ≤ 0x39 := by
  cases c with
  | scalar c => exact Char.isDigit_iff_toNat
  | surrogate k => exact iff_of_false Bool.false_ne_true (not_low_surrogate k (by decide))

theorem isSymbolLetter_iff {c : CodePoint} : c.isSymbolLetter = true ↔ c.IsLetter := by
  rw [isSymbolLetter, Bool.or_eq_true, Bool.or_eq_true, isAsciiUpper_iff, isAsciiLower_iff,
    List.contains_iff_mem, or_assoc]
  rfl

theorem isSymbolStart_iff {c : CodePoint} : c.isSymbolStart = true ↔ c.BeginsIdentifier := by
  rw [isSymbolStart, Bool.or_eq_true, Bool.or_eq_true, decide_eq_true_eq, decide_eq_true_eq,
    isSymbolLetter_iff, BeginsIdentifier, or_assoc, or_comm, or_assoc]

theorem isSymbolPart_iff {c : CodePoint} : c.isSymbolPart = true ↔ c.ContinuesIdentifier := by
  rw [isSymbolPart, Bool.or_eq_true, isSymbolStart_iff, isAsciiDigit_iff]
  rfl

theorem not_continuesIdentifier_feed : ¬ ContinuesIdentifier '\n' := by
  rw [← isSymbolPart_iff]
  decide

end CodePoint

/-- A name that begins with a letter, a dollar sign or an underscore, and goes on with these and
    with digits of ASCII. -/
def IsIdentifier (name : Text) : Prop :=
  ∃ first rest, name = first :: rest ∧ first.BeginsIdentifier ∧
    ∀ c ∈ rest, c.ContinuesIdentifier

def IsFedIdentifier (name : Text) : Prop :=
  ∃ identifier, IsIdentifier identifier ∧ name = identifier ++ [.scalar '\n']

/-- An identifier is on one line. -/
theorem IsIdentifier.notMem_feed {name : Text} (h : IsIdentifier name) : .scalar '\n' ∉ name := by
  obtain ⟨first, rest, rfl, hfirst, hrest⟩ := h
  rw [List.mem_cons, not_or]
  refine ⟨?_, fun hfeed => CodePoint.not_continuesIdentifier_feed (hrest _ hfeed)⟩
  rintro rfl
  exact CodePoint.not_continuesIdentifier_feed (Or.inl hfirst)

theorem IsFedIdentifier.mem_feed {name : Text} (h : IsFedIdentifier name) :
    .scalar '\n' ∈ name := by
  obtain ⟨identifier, -, rfl⟩ := h
  exact List.mem_append_right identifier (List.mem_singleton_self _)

/-! ### The test -/

/-- What is over behind its first part has nothing else, or a line feed. -/
theorem isOver_dropWhile_iff {p : CodePoint → Bool} (hfeed : p '\n' = false) {t : Text} :
    Text.isOver (t.dropWhile p) = true ↔
      (∀ c ∈ t, p c = true) ∨ ∃ part, (∀ c ∈ part, p c = true) ∧ t = part ++ [.scalar '\n'] := by
  rw [Text.isOver_iff, List.dropWhile_eq_nil_iff]
  apply or_congr Iff.rfl
  constructor
  · intro hrest
    refine ⟨t.takeWhile p, List.all_eq_true.1 List.all_takeWhile, ?_⟩
    rw [← hrest, List.takeWhile_append_dropWhile]
  · rintro ⟨part, hpart, rfl⟩
    rw [List.dropWhile_append_of_pos hpart, List.dropWhile_cons_of_neg (by simp [hfeed])]

/-- **The names that are taken for symbols** are the identifiers, and the identifiers with a line
    feed behind them. -/
theorem isSymbol_iff {name : Text} :
    isSymbol name = true ↔ IsIdentifier name ∨ IsFedIdentifier name := by
  cases name with
  | nil =>
    have hnone : ¬ (IsIdentifier [] ∨ IsFedIdentifier []) := by
      rintro (⟨_, _, hcut, -⟩ | ⟨_, -, hcut⟩)
      · cases hcut
      · exact List.append_ne_nil_of_right_ne_nil _ (List.cons_ne_nil _ _) hcut.symm
    exact iff_of_false Bool.false_ne_true hnone
  | cons first rest =>
    rw [isSymbol, Bool.and_eq_true, CodePoint.isSymbolStart_iff,
      isOver_dropWhile_iff (by decide)]
    simp only [CodePoint.isSymbolPart_iff]
    constructor
    · rintro ⟨hfirst, hrest | ⟨part, hpart, rfl⟩⟩
      · exact Or.inl ⟨first, rest, rfl, hfirst, hrest⟩
      · exact Or.inr ⟨first :: part, ⟨first, part, rfl, hfirst, hpart⟩, rfl⟩
    · rintro (⟨first, rest, hcut, hfirst, hrest⟩ | ⟨_, ⟨first, part, rfl, hfirst, hpart⟩, hcut⟩)
      · cases hcut
        exact ⟨hfirst, Or.inl hrest⟩
      · cases hcut
        exact ⟨hfirst, Or.inr ⟨part, hpart, rfl⟩⟩

/-! ### The names that the checks let pass -/

/-- The names that a check lets pass: that of a member which is no constructor and those of
    parameters, if the check of the signature has nothing against them, and that of a valid
    property. -/
inductive IsPassed : Text → Prop
  | method {ctx : Context} {e : Entry} {s : Signature} (hmethod : e.isConstructor = false)
      (h : .memberName e.name ∉ (ctx.objections e s).1) : IsPassed e.name
  | param {ctx : Context} {e : Entry} {s : Signature} {p : Param} (hp : p ∈ s.params)
      (h : .paramName p.name ∉ (ctx.objections e s).1) : IsPassed p.name
  | property {ctx : Context} {item : ItemDoc}
      (h : (ctx.buildProperty item).1.isValid = true) : IsPassed item.name

namespace Context

theorem memberName_mem_objections (ctx : Context) {e : Entry} (s : Signature)
    (hmethod : e.isConstructor = false) (h : isSymbol e.name = false) :
    .memberName e.name ∈ (ctx.objections e s).1 := by
  simp [objections, hmethod, h]

theorem paramName_mem_paramsObjections {p : Param} {params : List Param} (hp : p ∈ params)
    (h : isSymbol p.name = false) (ctx : Context) (names : List Text) (afterOptional : Bool) :
    .paramName p.name ∈ (ctx.paramsObjections names afterOptional params).1 := by
  induction params generalizing ctx names afterOptional with
  | nil => cases hp
  | cons q rest ih =>
    simp only [paramsObjections]
    rcases List.mem_cons.1 hp with rfl | hp
    · refine List.mem_append_left _ ?_
      simp [paramObjections, h]
    · exact List.mem_append_right _ (ih hp _ _ _)

theorem paramName_mem_objections (ctx : Context) (e : Entry) {s : Signature} {p : Param}
    (hp : p ∈ s.params) (h : isSymbol p.name = false) :
    .paramName p.name ∈ (ctx.objections e s).1 := by
  have hparam := paramName_mem_paramsObjections hp h ctx [] false
  exact List.mem_append_left _ (List.mem_append_right _ hparam)

end Context

/-- A check lets a name pass exactly if it is taken for a symbol. -/
theorem isPassed_iff {name : Text} : IsPassed name ↔ isSymbol name = true := by
  constructor
  · intro hpassed
    by_contra hsymbol
    rw [Bool.not_eq_true] at hsymbol
    cases hpassed with
    | method hmethod h => exact h (Context.memberName_mem_objections _ _ hmethod hsymbol)
    | param hp h => exact h (Context.paramName_mem_objections _ _ hp hsymbol)
    | property h => simp [Context.buildProperty, hsymbol] at h
  · intro hsymbol
    have hvalid : ((Context.start .standard []).buildProperty
        ⟨⟨⟨[], none, false, false, none⟩, [], [], false, none, name⟩, [], .property, none, none,
          false⟩).1.isValid = true := by
      simp [Context.buildProperty, hsymbol]
    exact .property hvalid

/-- **How exact the test of names is.**  The names that are taken for symbols are the identifiers
    and, besides, those with a line feed behind them, which are all that keeps the test from being
    exact.  They are also all the names that a check lets pass although they do not stay on one
    line. -/
theorem isSymbol_exact (name : Text) :
    (isSymbol name = true ↔ IsIdentifier name ∨ IsFedIdentifier name) ∧
    ((isSymbol name = true ↔ IsIdentifier name) ↔ ¬ IsFedIdentifier name) ∧
    (IsPassed name ∧ .scalar '\n' ∈ name ↔ IsFedIdentifier name) := by
  have hplain : IsFedIdentifier name → ¬ IsIdentifier name := fun hfed hidentifier =>
    hidentifier.notMem_feed hfed.mem_feed
  refine ⟨isSymbol_iff, ?_, ?_⟩
  · rw [isSymbol_iff]
    constructor
    · intro hexact hfed
      exact hplain hfed (hexact.1 (Or.inr hfed))
    · intro hfed
      exact or_iff_left hfed
  · rw [isPassed_iff, isSymbol_iff]
    constructor
    · rintro ⟨hidentifier | hfed, hfeed⟩
      · exact absurd hfeed hidentifier.notMem_feed
      · exact hfed
    · intro hfed
      exact ⟨Or.inr hfed, hfed.mem_feed⟩

def numberItem (name : Text) : ItemDoc :=
  ⟨⟨⟨[], none, false, false, none⟩, "src/environment.js", [], false, none, name⟩, "p5",
    .property, some "Number", none, false⟩

/-- A name that ends in a line feed is taken for a symbol, and a property is declared with it. -/
theorem isSymbol_lineFeed :
    isSymbol "width\n" = true ∧ ¬ IsIdentifier "width\n" ∧
    ((Context.start .standard []).buildProperty (numberItem "width\n")).1.isValid = true ∧
    ((Context.start .standard []).buildProperty (numberItem "width\n")).1.signature =
      "width\n: number" := by
  refine ⟨by decide, ?_, by decide +kernel, by decide +kernel⟩
  intro h
  exact h.notMem_feed (by decide)

end Ambient
