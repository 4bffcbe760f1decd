/-
  Ambient/Proofs/SignatureErrors.lean
  ===================================
  **Which errors a signature has.**

  The check of a signature goes through its parameters once.  It carries the names it has seen and
  whether one of the parameters behind it was optional, and it translates each type in the context
  that the types before it have left.  What it reports can be said of each place on its own: the
  errors of a parameter depend on that parameter, on the ones in front of it, and on what its type
  resolves to in the context that the check began in (`Context.paramErrors`).  The loop invariant
  ties the two together (`paramsObjections_messages`): the names seen are those of the parameters in
  front, the flag is set if one of them is optional, and nothing but unknown types was recorded.
-/
import Ambient.Proofs.SignatureCheck
import Mathlib.Data.List.Basic

namespace Ambient

open Objection (cited citedType)

namespace Context

/-- Whether a documented type has no translation without a fallback, or an empty one. -/
def LacksType (ctx : Context) (type : Option Text) : Prop :=
  (ctx.translate none type).1 = none ∨ (ctx.translate none type).1 = some []

instance (ctx : Context) (type : Option Text) : Decidable (ctx.LacksType type) :=
  inferInstanceAs (Decidable (_ ∨ _))

def nameErrors (e : Entry) : List Text :=
  if e.isConstructor = false ∧ isSymbol e.name = false then
    [cited e.name ++ " is not a valid JS symbol name"]
  else []

/-- The errors of a parameter behind some others, in their order. -/
def paramErrors (ctx : Context) (earlier : List Param) (p : Param) : List Text :=
  (if p.isOptional = false ∧ ∃ q ∈ earlier, q.isOptional = true then
    ["required param " ++ cited p.name ++ " follows an optional param"] else []) ++
  (if ∃ q ∈ earlier, q.name = p.name then
    ["param " ++ cited p.name ++ " is defined multiple times"] else []) ++
  (if isSymbol p.name = false then
    ["param " ++ cited p.name ++ " is not a valid JS symbol name"] else []) ++
  (if ctx.LacksType p.type then
    ["param " ++ cited p.name ++ " has invalid type: " ++ citedType p.type] else [])

def returnErrors (ctx : Context) (returned : Option ReturnDoc) : List Text :=
  match returned with
  | none => []
  | some r =>
    if ctx.LacksType r.type then ["return has invalid type: " ++ citedType r.type] else []

/-! ### Types -/

theorem resolvesType_eq_false_iff {ctx : Context} {type : Option Text} :
    (ctx.resolvesType type).1 = false ↔ ctx.LacksType type := by
  simp only [resolvesType, LacksType]
  cases (ctx.translate none type).1 with
  | none => simp
  | some text => simp

theorem lacksType_meetAll {ctx : Context} {names : List Text} {type : Option Text} :
    (ctx.meetAll names).LacksType type ↔ ctx.LacksType type := by
  simp only [LacksType, translate_fst_meetAll]

theorem paramErrors_meetAll (ctx : Context) (names : List Text) (earlier : List Param)
    (p : Param) : (ctx.meetAll names).paramErrors earlier p = ctx.paramErrors earlier p := by
  simp only [paramErrors, lacksType_meetAll]

theorem returnErrors_meetAll (ctx : Context) (names : List Text) (returned : Option ReturnDoc) :
    (ctx.meetAll names).returnErrors returned = ctx.returnErrors returned := by
  simp only [returnErrors, lacksType_meetAll]

/-! ### The loop over the parameters -/

/-- What the check carries behind some parameters: their names, and whether one is optional. -/
structure Carried (earlier : List Param) (names : List Text) (afterOptional : Bool) : Prop where
  names : ∀ name, name ∈ names ↔ ∃ q ∈ earlier, q.name = name
  optional : afterOptional = true ↔ ∃ q ∈ earlier, q.isOptional = true

theorem carried_nil : Carried [] [] false := ⟨by simp, by simp⟩

theorem Carried.concat {earlier : List Param} {names : List Text} {afterOptional : Bool}
    (h : Carried earlier names afterOptional) (p : Param) :
    Carried (earlier ++ [p]) (p.name :: names) (afterOptional || p.isOptional) := by
  constructor
  · intro name
    simp only [List.mem_cons, h.names, List.mem_append, List.not_mem_nil, or_false]
    constructor
    · rintro (rfl | ⟨q, hq, rfl⟩)
      · exact ⟨p, Or.inr rfl, rfl⟩
      · exact ⟨q, Or.inl hq, rfl⟩
    · rintro ⟨q, hq | rfl, rfl⟩
      · exact Or.inr ⟨q, hq, rfl⟩
      · exact Or.inl rfl
  · simp [h.optional, or_and_right, exists_or]

theorem paramObjections_messages {earlier : List Param} {names : List Text}
    {afterOptional : Bool} (h : Carried earlier names afterOptional) (ctx : Context) (p : Param) :
    (ctx.paramObjections names afterOptional p).1.map Objection.message =
      ctx.paramErrors earlier p := by
  have horder : (!p.isOptional && afterOptional) = true ↔
      p.isOptional = false ∧ ∃ q ∈ earlier, q.isOptional = true := by
    rw [← h.optional]
    simp
  have hrepeated : names.contains p.name = true ↔ ∃ q ∈ earlier, q.name = p.name := by
    rw [List.contains_iff_mem, h.names]
  have hname : (if isSymbol p.name then [] else [Objection.paramName p.name]) =
      if isSymbol p.name = false then [Objection.paramName p.name] else [] := by
    cases isSymbol p.name <;> rfl
  have htype : (if (ctx.resolvesType p.type).1 then [] else [Objection.paramType p.name p.type]) =
      if ctx.LacksType p.type then [Objection.paramType p.name p.type] else [] := by
    simp only [← resolvesType_eq_false_iff]
    cases (ctx.resolvesType p.type).1 <;> rfl
  change ((if !p.isOptional && afterOptional then
      [Objection.requiredAfterOptional p.name] else []) ++
    (if names.contains p.name then [Objection.repeatedParam p.name] else []) ++
    (if isSymbol p.name then [] else [Objection.paramName p.name]) ++
    (if (ctx.resolvesType p.type).1 then [] else [Objection.paramType p.name p.type])).map
      Objection.message = _
  rw [hname, htype]
  simp only [horder, hrepeated, paramErrors, List.map_append, apply_ite (List.map _), List.map_cons,
    List.map_nil]
  rfl

/-- **The loop.**  The errors of parameters behind some others are those of each of them, in their
    order, with the parameters in front of it. -/
theorem paramsObjections_messages {earlier : List Param} {names : List Text}
    {afterOptional : Bool} (h : Carried earlier names afterOptional) (ctx : Context)
    (params : List Param) :
    (ctx.paramsObjections names afterOptional params).1.map Objection.message =
      params.zipIdx.flatMap fun x => ctx.paramErrors (earlier ++ params.take x.2) x.1 := by
  induction params generalizing ctx earlier names afterOptional with
  | nil => rfl
  | cons p rest ih =>
    change ((ctx.paramObjections names afterOptional p).1 ++
      ((ctx.paramObjections names afterOptional p).2.paramsObjections (p.name :: names)
        (afterOptional || p.isOptional) rest).1).map Objection.message = _
    -- behind the first parameter every place is one further on, and the check knows one more name
    rw [List.map_append, paramObjections_messages h, ih (h.concat p), paramObjections_snd,
      List.zipIdx_cons, List.flatMap_cons, List.zipIdx_succ, List.flatMap_map]
    simp [paramErrors_meetAll]

theorem returnObjections_messages (ctx : Context) (returned : Option ReturnDoc) :
    (ctx.returnObjections returned).1.map Objection.message = ctx.returnErrors returned := by
  cases returned with
  | none => rfl
  | some r =>
    change (if (ctx.resolvesType r.type).1 then [] else [Objection.returnType r.type]).map
      Objection.message = _
    simp only [returnErrors, ← resolvesType_eq_false_iff]
    cases (ctx.resolvesType r.type).1 <;> rfl

/-! ### Whole signatures -/

theorem objections_messages (ctx : Context) (e : Entry) (s : Signature) :
    (ctx.objections e s).1.map Objection.message =
      nameErrors e ++
        (s.params.zipIdx.flatMap fun x => ctx.paramErrors (s.params.take x.2) x.1) ++
        ctx.returnErrors s.returned := by
  have hname : (if e.isConstructor || isSymbol e.name then []
      else [Objection.memberName e.name]).map Objection.message = nameErrors e := by
    unfold nameErrors
    cases e.isConstructor <;> cases isSymbol e.name <;> rfl
  have hparams := paramsObjections_messages carried_nil ctx s.params
  change ((if e.isConstructor || isSymbol e.name then [] else [Objection.memberName e.name]) ++
    (ctx.paramsObjections [] false s.params).1 ++
    ((ctx.paramsObjections [] false s.params).2.returnObjections s.returned).1).map
      Objection.message = _
  rw [List.map_append, List.map_append, hname, hparams, returnObjections_messages,
    paramsObjections_snd, returnErrors_meetAll]
  rfl

theorem paramErrors_eq_nil_iff {ctx : Context} {earlier : List Param} {p : Param} :
    ctx.paramErrors earlier p = [] ↔
      (p.isOptional = true ∨ ∀ q ∈ earlier, q.isOptional = false) ∧
      (∀ q ∈ earlier, q.name ≠ p.name) ∧ isSymbol p.name = true ∧ ¬ ctx.LacksType p.type := by
  unfold paramErrors
  simp [or_iff_not_imp_left]

/-- What holds at each place of a list holds wherever the list is cut. -/
theorem forall_mem_zipIdx_iff {α : Type} (P : List α → α → Prop) {l : List α} :
    (∀ x ∈ l.zipIdx, P (l.take x.2) x.1) ↔
      ∀ before a after, l = before ++ a :: after → P before a := by
  constructor
  · rintro h before a after rfl
    have hplace : (a, before.length) ∈ (before ++ a :: after).zipIdx := by
      rw [List.mk_mem_zipIdx_iff_getElem?]
      simp
    have hhere := h _ hplace
    rwa [List.take_left] at hhere
  · rintro h ⟨a, i⟩ hx
    obtain ⟨hi, rfl⟩ := List.getElem?_eq_some_iff.1 (List.mk_mem_zipIdx_iff_getElem?.1 hx)
    apply h (l.take i) l[i] (l.drop (i + 1))
    rw [List.getElem_cons_drop, List.take_append_drop]

theorem nameErrors_eq_nil_iff {e : Entry} :
    nameErrors e = [] ↔ e.isConstructor = true ∨ isSymbol e.name = true := by
  unfold nameErrors
  cases e.isConstructor <;> cases isSymbol e.name <;> simp

theorem returnErrors_eq_nil_iff {ctx : Context} {returned : Option ReturnDoc} :
    ctx.returnErrors returned = [] ↔ ∀ r, returned = some r → ¬ ctx.LacksType r.type := by
  unfold returnErrors
  cases returned with
  | none => simp
  | some r => simp

/-- **The check of a signature is exact.**  Its errors are those of the name of the entry, of each
    parameter at its place, and of the return value, in this order, and there is none exactly if
    nothing of what they tell is the case.  Each type is looked at in the context that the
    parameters in front of it have left, which makes no difference to what it resolves to; the
    context behind the check differs from the one in front of it in the unknown types only. -/
theorem check_exact (ctx : Context) (e : Entry) (s : Signature) :
    (ctx.objections e s).1.map Objection.message =
      nameErrors e ++
        (s.params.zipIdx.flatMap fun x => ctx.paramErrors (s.params.take x.2) x.1) ++
        ctx.returnErrors s.returned ∧
    ((ctx.objections e s).1 = [] ↔
      (e.isConstructor = true ∨ isSymbol e.name = true) ∧
      (∀ before p after, s.params = before ++ p :: after →
        (p.isOptional = true ∨ ∀ q ∈ before, q.isOptional = false) ∧
        (∀ q ∈ before, q.name ≠ p.name) ∧ isSymbol p.name = true ∧ ¬ ctx.LacksType p.type) ∧
      ∀ r, s.returned = some r → ¬ ctx.LacksType r.type) ∧
    (∀ before type, (ctx.paramsObjections [] false before).2.LacksType type ↔
      ctx.LacksType type) ∧
    ∃ unknown, (ctx.objections e s).2 = { ctx with unknownTypes := unknown } := by
  refine ⟨ctx.objections_messages e s, ?_, ?_, ?_⟩
  · have hnil : (ctx.objections e s).1 = [] ↔
        (ctx.objections e s).1.map Objection.message = [] := List.map_eq_nil_iff.symm
    -- a parameter at its place is one with some in front of it and some behind
    have hplaces : (∀ x ∈ s.params.zipIdx, ctx.paramErrors (s.params.take x.2) x.1 = []) ↔
        ∀ before p after, s.params = before ++ p :: after → ctx.paramErrors before p = [] :=
      forall_mem_zipIdx_iff fun before p => ctx.paramErrors before p = []
    rw [hnil, objections_messages, List.append_eq_nil_iff, List.append_eq_nil_iff,
      nameErrors_eq_nil_iff, returnErrors_eq_nil_iff, List.flatMap_eq_nil_iff, and_assoc, hplaces]
    simp only [paramErrors_eq_nil_iff]
  · intro before type
    rw [paramsObjections_snd]
    exact lacksType_meetAll
  · rw [objections_snd]
    exact ctx.meetAll_eq _

/-- A signature whose second parameter has the name of the first, is required behind it, and has a
    type that nothing resolves. -/
def blurSignature : Signature :=
  ⟨[⟨"radius", some "Number", true, []⟩, ⟨"radius", some "Frobnicator", false, []⟩],
    some ⟨some [], []⟩, false, false, none⟩

example :
    ((Context.start .standard []).objections ⟨blurSignature, [], [], false, none, "blur"⟩
      blurSignature).1.map Objection.message =
      ["required param \"radius\" follows an optional param",
        "param \"radius\" is defined multiple times",
        "param \"radius\" has invalid type: Frobnicator",
        "return has invalid type: "] := by
  decide +kernel

end Context

end Ambient
