/-
  Ambient/Proofs/Translation.lean
  ===============================
  **What a translation reads, and what it leaves behind.**

  A translation goes through a documented type from left to right with a context that changes on
  the way.  Two facts take the change out of every argument about it:

    * what the context is afterwards depends on the words of the type only, and not on the
      fallback (`translate_snd`): those that nothing resolves are recorded, in their order;
    * recording a word does not change what any word resolves to (`resolve?_meetAll`), so each
      part of a type is translated as if it stood alone (`translateAll_fst`).

  With a fallback every type has a translation (`translate_some_ne_none`), and a type that
  has one without a fallback has the same one with it (`translate_some_eq`).  Without a fallback a
  type has no translation exactly if an unresolved word stands open in it (`translate_none_iff`):
  under arrays and unions only, since the arguments of a function have a fallback of their own.
-/
import Ambient.DocType.Translate

namespace Ambient

namespace DocType

/-! ### The parts of a type -/

/-- Induction over documented types; the parts of a union or function are in a list. -/
@[elab_as_elim]
theorem induct {motive : DocType → Prop} (blank : motive .blank)
    (word : ∀ name, motive (.word name)) (array : ∀ e, motive e → motive (.array e))
    (union : ∀ members, (∀ m ∈ members, motive m) → motive (.union members))
    (function : ∀ params, (∀ p ∈ params, motive p) → motive (.function params)) :
    ∀ t, motive t
  | .blank => blank
  | .word name => word name
  | .array e => array e (induct blank word array union function e)
  | .union members => union members fun m _ => induct blank word array union function m
  | .function params => function params fun p _ => induct blank word array union function p

mutual

def words : DocType → List Text
  | blank => []
  | word name => [name]
  | array element => words element
  | union members => wordsOfAll members
  | function params => wordsOfAll params

def wordsOfAll : List DocType → List Text
  | [] => []
  | t :: rest => words t ++ wordsOfAll rest

end

/-- A word stands open in a type if arrays and unions lead to it; it does not stand open in the
    arguments of a function. -/
inductive Exposes (name : Text) : DocType → Prop where
  | word : Exposes name (word name)
  | array {element : DocType} : Exposes name element → Exposes name (array element)
  | union {member : DocType} {members : List DocType} :
      member ∈ members → Exposes name member → Exposes name (union members)

theorem exposes_word {name other : Text} : Exposes name (word other) ↔ name = other := by
  constructor
  · rintro ⟨⟩
    rfl
  · rintro rfl
    exact .word

theorem exposes_array {name : Text} {e : DocType} :
    Exposes name (array e) ↔ Exposes name e := by
  constructor
  · rintro ⟨⟩
    assumption
  · exact .array

theorem exposes_union {name : Text} {members : List DocType} :
    Exposes name (union members) ↔ ∃ m ∈ members, Exposes name m := by
  constructor
  · rintro ⟨⟩
    exact ⟨_, ‹_›, ‹_›⟩
  · rintro ⟨m, hm, h⟩
    exact .union hm h

/-! ### All values of a list -/

theorem allPresent_eq_some_iff {α : Type} {l : List (Option α)} {as : List α} :
    allPresent l = some as ↔ l = as.map some := by
  induction l generalizing as with
  | nil => cases as <;> simp [allPresent]
  | cons a rest ih =>
    cases a with
    | none => cases as <;> simp [allPresent]
    | some a =>
      cases as with
      | nil => simp [allPresent]
      | cons b bs =>
        simp only [allPresent, Option.map_eq_some_iff, ih, List.map_cons, List.cons.injEq,
          Option.some.injEq]
        constructor
        · rintro ⟨as, h, rfl, rfl⟩
          exact ⟨rfl, h⟩
        · rintro ⟨rfl, h⟩
          exact ⟨bs, h, rfl, rfl⟩

theorem allPresent_eq_none_iff {α : Type} {l : List (Option α)} :
    allPresent l = none ↔ none ∈ l := by
  induction l with
  | nil => simp [allPresent]
  | cons a rest ih => cases a <;> simp [allPresent, ih]

end DocType

/-! ### Words and contexts -/

namespace Context

/-- The context behind a word, which is recorded if nothing resolves it. -/
def meet (ctx : Context) (name : Text) : Context :=
  if (ctx.resolve? name).isSome then ctx else ctx.recordUnknown name

def meetAll (ctx : Context) (names : List Text) : Context := names.foldl meet ctx

theorem meetAll_append (ctx : Context) (names more : List Text) :
    ctx.meetAll (names ++ more) = (ctx.meetAll names).meetAll more :=
  List.foldl_append

/-- Words change nothing in a context but the types that are recorded as unknown. -/
theorem meetAll_eq (ctx : Context) (names : List Text) :
    ∃ unknown, ctx.meetAll names = { ctx with unknownTypes := unknown } := by
  induction names generalizing ctx with
  | nil => exact ⟨ctx.unknownTypes, rfl⟩
  | cons name rest ih =>
    obtain ⟨unknown, h⟩ := ih (ctx.meet name)
    refine ⟨unknown, ?_⟩
    change (ctx.meet name).meetAll rest = _
    rw [h]
    unfold meet
    split <;> rfl

@[simp] theorem settings_meetAll (ctx : Context) (names : List Text) :
    (ctx.meetAll names).settings = ctx.settings := by
  obtain ⟨unknown, h⟩ := ctx.meetAll_eq names
  rw [h]

@[simp] theorem constants_meetAll (ctx : Context) (names : List Text) :
    (ctx.meetAll names).constants = ctx.constants := by
  obtain ⟨unknown, h⟩ := ctx.meetAll_eq names
  rw [h]

/-- Recording words does not change what any word resolves to. -/
@[simp] theorem resolve?_meetAll (ctx : Context) (names : List Text) :
    (ctx.meetAll names).resolve? = ctx.resolve? := by
  obtain ⟨unknown, h⟩ := ctx.meetAll_eq names
  rw [h]
  rfl

end Context

/-! ### The context behind a type -/

namespace DocType

mutual

/-- The context behind a type is the one behind its words, whatever the fallback is. -/
theorem translate_snd (fallback : Option Text) (ctx : Context) :
    ∀ t : DocType, (translate fallback ctx t).2 = ctx.meetAll t.words
  | .blank => rfl
  | .word name => by
    change _ = ctx.meet name
    simp only [translate, Context.meet]
    cases ctx.resolve? name <;> rfl
  | .array element => translate_snd fallback ctx element
  | .union members => translateAll_snd fallback ctx members
  | .function params => translateAll_snd (some argumentFallback) ctx params

theorem translateAll_snd (fallback : Option Text) (ctx : Context) :
    ∀ ts : List DocType, (translateAll fallback ctx ts).2 = ctx.meetAll (wordsOfAll ts)
  | [] => rfl
  | t :: rest => by
    change (translateAll fallback (translate fallback ctx t).2 rest).2 = _
    rw [translateAll_snd fallback _ rest, translate_snd fallback ctx t]
    exact (ctx.meetAll_append t.words (wordsOfAll rest)).symm

end

/-! ### The type of a type -/

theorem translateAll_cons (fallback : Option Text) (ctx : Context) (t : DocType)
    (rest : List DocType) :
    (translateAll fallback ctx (t :: rest)).1 =
      (translate fallback ctx t).1 :: (translateAll fallback (ctx.meetAll t.words) rest).1 := by
  rw [← translate_snd fallback]
  rfl

mutual

/-- What a type is translated to hangs on what words resolve to, and on nothing else in the
    context. -/
theorem translate_congr (fallback : Option Text) {ctx ctx' : Context}
    (h : ctx'.resolve? = ctx.resolve?) :
    ∀ t : DocType, (translate fallback ctx' t).1 = (translate fallback ctx t).1
  | .blank => rfl
  | .word name => by
    simp only [translate, h]
    cases ctx.resolve? name <;> rfl
  | .array element => congrArg (Option.map arrayText) (translate_congr fallback h element)
  | .union members =>
    congrArg (fun types => (allPresent types).map unionText) (translateAll_congr fallback h members)
  | .function params =>
    congrArg (fun types => (allPresent types).map functionText)
      (translateAll_congr (some argumentFallback) h params)

theorem translateAll_congr (fallback : Option Text) {ctx ctx' : Context}
    (h : ctx'.resolve? = ctx.resolve?) :
    ∀ ts : List DocType, (translateAll fallback ctx' ts).1 = (translateAll fallback ctx ts).1
  | [] => rfl
  | t :: rest => by
    have hrest : (ctx'.meetAll t.words).resolve? = (ctx.meetAll t.words).resolve? := by
      simpa using h
    rw [translateAll_cons, translateAll_cons, translate_congr fallback h t,
      translateAll_congr fallback hrest rest]

end

/-- Each part of a type is translated as if it stood alone. -/
theorem translateAll_fst (fallback : Option Text) (ctx : Context) (ts : List DocType) :
    (translateAll fallback ctx ts).1 = ts.map fun t => (translate fallback ctx t).1 := by
  induction ts with
  | nil => rfl
  | cons t rest ih =>
    have hrest : (ctx.meetAll t.words).resolve? = ctx.resolve? := ctx.resolve?_meetAll t.words
    rw [translateAll_cons, translateAll_congr fallback hrest rest, ih]
    rfl

theorem translate_array (fallback : Option Text) (ctx : Context) (e : DocType) :
    (translate fallback ctx (array e)).1 = (translate fallback ctx e).1.map arrayText := rfl

theorem translate_union (fallback : Option Text) (ctx : Context) (members : List DocType) :
    (translate fallback ctx (union members)).1 =
      (allPresent (members.map fun m => (translate fallback ctx m).1)).map unionText := by
  rw [← translateAll_fst]
  rfl

theorem translate_function (fallback : Option Text) (ctx : Context) (params : List DocType) :
    (translate fallback ctx (function params)).1 =
      (allPresent (params.map fun p => (translate (some argumentFallback) ctx p).1)).map
        functionText := by
  rw [← translateAll_fst]
  rfl

/-- A fallback gives every type a translation. -/
theorem translate_some_ne_none (fallback : Text) (ctx : Context) (t : DocType) :
    (translate (some fallback) ctx t).1 ≠ none := by
  induction t using induct generalizing fallback with
  | blank => simp [translate]
  | word name =>
    simp only [translate]
    cases ctx.resolve? name <;> simp
  | array e ih =>
    rw [translate_array, ne_eq, Option.map_eq_none_iff]
    exact ih fallback
  | union members ih =>
    rw [translate_union, ne_eq, Option.map_eq_none_iff, allPresent_eq_none_iff, List.mem_map]
    rintro ⟨m, hm, h⟩
    exact ih m hm fallback h
  | function params ih =>
    rw [translate_function, ne_eq, Option.map_eq_none_iff, allPresent_eq_none_iff, List.mem_map]
    rintro ⟨p, hp, h⟩
    exact ih p hp argumentFallback h

/-- Without a fallback a type has no translation exactly if an unresolved word stands open in
    it. -/
theorem translate_none_iff (ctx : Context) (t : DocType) :
    (translate none ctx t).1 = none ↔ ∃ name, Exposes name t ∧ ctx.resolve? name = none := by
  induction t using induct with
  | blank =>
    constructor
    · intro h
      exact nomatch h
    · rintro ⟨name, h, -⟩
      exact nomatch h
  | word name =>
    simp only [translate, exposes_word, exists_eq_left]
    cases ctx.resolve? name <;> simp
  | array e ih =>
    simp only [translate_array, Option.map_eq_none_iff, ih, exposes_array]
  | union members ih =>
    simp only [translate_union, Option.map_eq_none_iff, allPresent_eq_none_iff, List.mem_map,
      exposes_union]
    constructor
    · rintro ⟨m, hm, h⟩
      obtain ⟨name, hname, hnone⟩ := (ih m hm).1 h
      exact ⟨name, ⟨m, hm, hname⟩, hnone⟩
    · rintro ⟨name, ⟨m, hm, hname⟩, hnone⟩
      exact ⟨m, hm, (ih m hm).2 ⟨name, hname, hnone⟩⟩
  | function params =>
    constructor
    · -- the arguments have a fallback, so a function always has a translation
      intro h
      rw [translate_function, ← translate_function (some argumentFallback)] at h
      exact absurd h (translate_some_ne_none argumentFallback ctx (.function params))
    · rintro ⟨name, h, -⟩
      exact nomatch h

/-- A type that has a translation without a fallback has the same one with it. -/
theorem translate_some_eq (fallback : Text) {ctx : Context} {t : DocType}
    (h : (translate none ctx t).1 ≠ none) :
    (translate (some fallback) ctx t).1 = (translate none ctx t).1 := by
  induction t using induct with
  | blank => rfl
  | word name =>
    simp only [translate] at h ⊢
    cases hr : ctx.resolve? name with
    | none => simp [hr] at h
    | some type => rfl
  | array e ih =>
    rw [translate_array, ne_eq, Option.map_eq_none_iff] at h
    rw [translate_array, translate_array, ih h]
  | union members ih =>
    rw [translate_union, ne_eq, Option.map_eq_none_iff, allPresent_eq_none_iff] at h
    have hmembers : members.map (fun m => (translate (some fallback) ctx m).1) =
        members.map fun m => (translate none ctx m).1 := by
      apply List.map_congr_left
      intro m hm
      refine ih m hm fun hnone => h ?_
      exact List.mem_map.2 ⟨m, hm, hnone⟩
    rw [translate_union, translate_union, hmembers]
  | function params => rfl

/-! ### Translation with a fallback -/

def typeOf (fallback : Text) (ctx : Context) (t : DocType) : Text :=
  (translate (some fallback) ctx t).1.getD []

theorem translate_some (fallback : Text) (ctx : Context) (t : DocType) :
    (translate (some fallback) ctx t).1 = some (typeOf fallback ctx t) := by
  cases h : (translate (some fallback) ctx t).1 with
  | none => exact absurd h (translate_some_ne_none fallback ctx t)
  | some type => simp [typeOf, h]

theorem translateAll_some (fallback : Text) (ctx : Context) (ts : List DocType) :
    (translateAll (some fallback) ctx ts).1 = (ts.map (typeOf fallback ctx)).map some := by
  simp only [translateAll_fst, translate_some, List.map_map, Function.comp_def]

theorem typeOf_blank (fallback : Text) (ctx : Context) : typeOf fallback ctx blank = [] := rfl

theorem typeOf_array (fallback : Text) (ctx : Context) (e : DocType) :
    typeOf fallback ctx (array e) = arrayText (typeOf fallback ctx e) := by
  apply Option.some.inj
  rw [← translate_some, translate_array, translate_some, Option.map_some]

theorem typeOf_union (fallback : Text) (ctx : Context) (members : List DocType) :
    typeOf fallback ctx (union members) = unionText (members.map (typeOf fallback ctx)) := by
  apply Option.some.inj
  rw [← translate_some, translate_union, ← translateAll_fst, translateAll_some,
    allPresent_eq_some_iff.2 rfl, Option.map_some]

end DocType

end Ambient
