/-
  Ambient/Proofs/SignatureCheck.lean
  ==================================
  **A signature that passes its check is declared with the types that the check resolved.**

  The types of a signature are translated twice: once without a fallback, to see whether anything
  speaks against the signature, and once with the fallback of the settings, to declare it.  The
  second pass starts in the context that the first one left, and every type in it in the context
  that the types before it left.  None of this shows in the outcome, because a pass only records
  words (`objections_snd`, `translateParams_snd`) and recorded words resolve to the same types as
  before.  So where the check has found a type for everything, the declaration has the same types
  (`twoPass_agreement`).
-/
import Ambient.Declaration.Build
import Ambient.Proofs.Translation

namespace Ambient

/-! ### The words of a signature -/

def DocType.wordsIn : Option Text → List Text
  | none => []
  | some token => (DocType.parse token).words

def Param.wordsOfAll (params : List Param) : List Text :=
  params.flatMap fun p => DocType.wordsIn p.type

def ReturnDoc.wordsIn : Option ReturnDoc → List Text
  | none => []
  | some r => DocType.wordsIn r.type

namespace Context

theorem translate_snd (ctx : Context) (fallback token : Option Text) :
    (ctx.translate fallback token).2 = ctx.meetAll (DocType.wordsIn token) := by
  cases token with
  | none => rfl
  | some token => exact DocType.translate_snd fallback ctx (DocType.parse token)

theorem translate_fst_congr {ctx ctx' : Context} (h : ctx'.resolve? = ctx.resolve?)
    (fallback token : Option Text) :
    (ctx'.translate fallback token).1 = (ctx.translate fallback token).1 := by
  cases token with
  | none => rfl
  | some token => exact DocType.translate_congr fallback h (DocType.parse token)

theorem resolvesType_snd (ctx : Context) (type : Option Text) :
    (ctx.resolvesType type).2 = ctx.meetAll (DocType.wordsIn type) :=
  ctx.translate_snd none type

theorem translateFully_snd (ctx : Context) (token : Option Text) :
    (ctx.translateFully token).2 = ctx.meetAll (DocType.wordsIn token) :=
  ctx.translate_snd (some ctx.settings.fallbackType) token

theorem translateParam_snd (ctx : Context) (p : Param) :
    (ctx.translateParam p).2 = ctx.meetAll (DocType.wordsIn p.type) :=
  ctx.translateFully_snd p.type

theorem translateParams_snd (ctx : Context) (params : List Param) :
    (ctx.translateParams params).2 = ctx.meetAll (Param.wordsOfAll params) := by
  induction params generalizing ctx with
  | nil => rfl
  | cons p rest ih =>
    change ((ctx.translateParam p).2.translateParams rest).2 = _
    rw [ih, translateParam_snd]
    exact (ctx.meetAll_append (DocType.wordsIn p.type) (Param.wordsOfAll rest)).symm

theorem paramObjections_snd (ctx : Context) (before : List Text) (afterOptional : Bool)
    (p : Param) :
    (ctx.paramObjections before afterOptional p).2 = ctx.meetAll (DocType.wordsIn p.type) :=
  ctx.resolvesType_snd p.type

theorem paramsObjections_snd (ctx : Context) (before : List Text) (afterOptional : Bool)
    (params : List Param) :
    (ctx.paramsObjections before afterOptional params).2 =
      ctx.meetAll (Param.wordsOfAll params) := by
  induction params generalizing ctx before afterOptional with
  | nil => rfl
  | cons p rest ih =>
    change ((ctx.paramObjections before afterOptional p).2.paramsObjections _ _ rest).2 = _
    rw [ih, paramObjections_snd]
    exact (ctx.meetAll_append (DocType.wordsIn p.type) (Param.wordsOfAll rest)).symm

theorem returnObjections_snd (ctx : Context) (returned : Option ReturnDoc) :
    (ctx.returnObjections returned).2 = ctx.meetAll (ReturnDoc.wordsIn returned) := by
  cases returned with
  | none => rfl
  | some r => exact ctx.resolvesType_snd r.type

/-- A check records the words of the parameters and of the return value. -/
theorem objections_snd (ctx : Context) (e : Entry) (s : Signature) :
    (ctx.objections e s).2 =
      ctx.meetAll (Param.wordsOfAll s.params ++ ReturnDoc.wordsIn s.returned) := by
  change ((ctx.paramsObjections [] false s.params).2.returnObjections s.returned).2 = _
  rw [returnObjections_snd, paramsObjections_snd, meetAll_append]

/-! ### Declared types -/

/-- A parameter as it is declared with a type. -/
def declaredParam (ctx : Context) (p : Param) (type : Text) : Text :=
  ctx.paramName p.name ++ (if p.isOptional then "?: " else ": ") ++ type

theorem translate_fst_meetAll (ctx : Context) (names : List Text) (fallback token : Option Text) :
    ((ctx.meetAll names).translate fallback token).1 = (ctx.translate fallback token).1 :=
  translate_fst_congr (ctx.resolve?_meetAll names) fallback token

theorem translateFully_fst_meetAll (ctx : Context) (names : List Text) (token : Option Text) :
    ((ctx.meetAll names).translateFully token).1 = (ctx.translateFully token).1 := by
  simp only [translateFully, settings_meetAll, translate_fst_meetAll]

theorem translateParam_fst_meetAll (ctx : Context) (names : List Text) (p : Param) :
    ((ctx.meetAll names).translateParam p).1 = (ctx.translateParam p).1 := by
  simp only [translateParam, paramName, settings_meetAll, translateFully_fst_meetAll]

/-- Each parameter is declared as if it stood alone. -/
theorem translateParams_fst (ctx : Context) (params : List Param) :
    (ctx.translateParams params).1 = params.map fun p => (ctx.translateParam p).1 := by
  induction params generalizing ctx with
  | nil => rfl
  | cons p rest ih =>
    change (ctx.translateParam p).1 :: ((ctx.translateParam p).2.translateParams rest).1 = _
    rw [ih, translateParam_snd]
    simp only [translateParam_fst_meetAll, List.map_cons]

/-- A type that resolves without a fallback is declared as it resolves. -/
theorem translateFully_fst_of_translate {ctx : Context} {token : Option Text} {type : Text}
    (h : (ctx.translate none token).1 = some type) : (ctx.translateFully token).1 = type := by
  cases token with
  | none => exact nomatch h
  | some token =>
    have hne : (ctx.translate none (some token)).1 ≠ none := by simp [h]
    have hsome : (ctx.translate (some ctx.settings.fallbackType) (some token)).1 = some type :=
      (DocType.translate_some_eq ctx.settings.fallbackType hne).trans h
    simp only [translateFully, hsome, Option.getD_some]

/-! ### What a check without objections has resolved -/

theorem exists_type_of_resolvesType {ctx : Context} {token : Option Text}
    (h : (ctx.resolvesType token).1 = true) :
    ∃ type, type ≠ [] ∧ (ctx.translate none token).1 = some type := by
  simp only [resolvesType] at h
  cases ht : (ctx.translate none token).1 with
  | none => simp [ht] at h
  | some type =>
    refine ⟨type, ?_, rfl⟩
    rintro rfl
    simp [ht] at h

theorem exists_type_of_paramsObjections {ctx : Context} {names : List Text}
    {afterOptional : Bool} {params : List Param}
    (h : (ctx.paramsObjections names afterOptional params).1 = []) :
    ∀ p ∈ params, ∃ type, type ≠ [] ∧ (ctx.translate none p.type).1 = some type := by
  induction params generalizing ctx names afterOptional with
  | nil => simp
  | cons q rest ih =>
    obtain ⟨hhere, hrest⟩ : (ctx.paramObjections names afterOptional q).1 = [] ∧
        ((ctx.paramObjections names afterOptional q).2.paramsObjections (q.name :: names)
          (afterOptional || q.isOptional) rest).1 = [] := List.append_eq_nil_iff.1 h
    intro p hp
    rcases List.mem_cons.1 hp with rfl | hp
    · apply exists_type_of_resolvesType
      have hlast : (if (ctx.resolvesType p.type).1 then []
          else [Objection.paramType p.name p.type]) = [] := (List.append_eq_nil_iff.1 hhere).2
      cases hr : (ctx.resolvesType p.type).1 with
      | true => rfl
      | false => simp [hr] at hlast
    · obtain ⟨type, hne, htype⟩ := ih hrest p hp
      refine ⟨type, hne, ?_⟩
      rw [← htype, paramObjections_snd, translate_fst_meetAll]

theorem exists_type_of_returnObjections {ctx : Context} {r : ReturnDoc}
    (h : (ctx.returnObjections (some r)).1 = []) :
    ∃ type, type ≠ [] ∧ (ctx.translate none r.type).1 = some type := by
  apply exists_type_of_resolvesType
  cases hr : (ctx.resolvesType r.type).1 with
  | true => rfl
  | false => simp [returnObjections, hr] at h

theorem objections_eq_nil {ctx : Context} {e : Entry} {s : Signature}
    (h : (ctx.objections e s).1 = []) :
    (ctx.paramsObjections [] false s.params).1 = [] ∧
      ((ctx.paramsObjections [] false s.params).2.returnObjections s.returned).1 = [] := by
  obtain ⟨hparams, hreturned⟩ := List.append_eq_nil_iff.1 h
  exact ⟨(List.append_eq_nil_iff.1 hparams).2, hreturned⟩

/-! ### The two passes over a signature -/

theorem buildSignature_params {ctx inferred : Context} {e : Entry} {owner : Text} {s : Signature}
    {params : List Param} (h : ctx.inferConstants e.name s.params = (params, inferred)) :
    (ctx.buildSignature e owner s).1.params =
      params.map fun p => (inferred.translateParam p).1 := by
  have hparams : (ctx.buildSignature e owner s).1.params =
      ((inferred.objections e { s with params := params }).2.translateParams params).1 := by
    simp only [buildSignature, h]
  rw [hparams, objections_snd, translateParams_fst]
  simp only [translateParam_fst_meetAll]

theorem buildSignature_returnType {ctx inferred : Context} {e : Entry} {owner : Text}
    {s : Signature} {params : List Param} {r : ReturnDoc}
    (h : ctx.inferConstants e.name s.params = (params, inferred)) (hchain : s.isChainable = false)
    (hr : s.returned = some r) :
    (ctx.buildSignature e owner s).1.returnType = (inferred.translateFully r.type).1 := by
  have hreturn : (ctx.buildSignature e owner s).1.returnType =
      (translateFully ((inferred.objections e { s with params := params }).2.translateParams
        params).2 r.type).1 := by
    simp [buildSignature, h, returnType, hchain, hr]
  rw [hreturn, translateParams_snd, translateFully_fst_meetAll, objections_snd,
    translateFully_fst_meetAll]

/-- **The two passes agree.**  With a fallback a token always has a translation; the context
    behind it is the same with and without, and has the same constants as before; a translation
    that is there without a fallback is the one with it; and it is there unless a word that
    nothing resolves stands open in the token.  So a signature without objections is declared
    with the types that its check resolved, parameter by parameter, and with the return type that
    the check resolved unless it returns its owner. -/
theorem twoPass_agreement (ctx : Context) (token fallback : Text) (e : Entry) (owner : Text)
    (s : Signature) :
    (ctx.translate (some fallback) (some token)).1 ≠ none ∧
    (ctx.translate none (some token)).2 = (ctx.translate (some fallback) (some token)).2 ∧
    (ctx.translate none (some token)).2.constants = ctx.constants ∧
    (∀ type, (ctx.translate none (some token)).1 = some type →
      (ctx.translate (some fallback) (some token)).1 = some type) ∧
    ((ctx.translate none (some token)).1 = none ↔
      ∃ name, (DocType.parse token).Exposes name ∧ ctx.resolve? name = none) ∧
    ∀ params inferred, ctx.inferConstants e.name s.params = (params, inferred) →
      (inferred.objections e { s with params := params }).1 = [] →
      (∀ before p after, params = before ++ p :: after →
        ∃ type, type ≠ [] ∧
          ((inferred.paramsObjections [] false before).2.translate none p.type).1 = some type ∧
          (ctx.buildSignature e owner s).1.params[before.length]? =
            some (inferred.declaredParam p type)) ∧
      (s.isChainable = false → ∀ r, s.returned = some r →
        ∃ type, type ≠ [] ∧
          ((inferred.paramsObjections [] false params).2.translate none r.type).1 = some type ∧
          (ctx.buildSignature e owner s).1.returnType = type) := by
  refine ⟨DocType.translate_some_ne_none fallback ctx (DocType.parse token), ?_, ?_, ?_,
    DocType.translate_none_iff ctx (DocType.parse token), ?_⟩
  · rw [translate_snd, translate_snd]
  · rw [translate_snd, constants_meetAll]
  · intro type h
    exact (DocType.translate_some_eq fallback (fun hn => nomatch hn.symm.trans h)).trans h
  · intro params inferred hinfer hnil
    obtain ⟨hparams, hreturned⟩ := objections_eq_nil hnil
    constructor
    · rintro before p after rfl
      -- the check resolved the type, and the words that it met on the way change no translation
      obtain ⟨type, hne, htype⟩ := exists_type_of_paramsObjections hparams p (by simp)
      refine ⟨type, hne, ?_, ?_⟩
      · rw [paramsObjections_snd, translate_fst_meetAll, htype]
      · rw [buildSignature_params hinfer, ← translateFully_fst_of_translate htype]
        simp [translateParam, declaredParam]
    · intro hchain r hr
      simp only [hr] at hreturned
      obtain ⟨type, hne, htype⟩ := exists_type_of_returnObjections hreturned
      refine ⟨type, hne, htype, ?_⟩
      rw [paramsObjections_snd, translate_fst_meetAll] at htype
      rw [buildSignature_returnType hinfer hchain hr, translateFully_fst_of_translate htype]

def tintSignature : Signature :=
  ⟨[⟨"image", some "Image|Number[]", true, []⟩], some ⟨some "Boolean", []⟩, false, false, none⟩

def tintEntry : Entry := ⟨tintSignature, "src/image.js", [], false, none, "tint"⟩

def tintContext : Context := .start .standard ["p5", "p5.Image"]

def tintType : Text := "Image|number[]"

/-- The two passes over a method that takes an image or numbers. -/
theorem twoPass_agreement_tint :
    (tintContext.objections tintEntry tintSignature).1 = [] ∧
    (tintContext.translate none (some "Image|Number[]")).1 = some tintType ∧
    (tintContext.translate (some "unknown") (some "Image|Number[]")).1 = some tintType ∧
    (tintContext.buildSignature tintEntry "p5" tintSignature).1.params[0]? =
      some ("image?: Image|number[]" : Text) ∧
    (tintContext.buildSignature tintEntry "p5" tintSignature).1.returnType = "boolean" := by
  have hchecked : (tintContext.objections tintEntry tintSignature).1 = [] := by decide +kernel
  have htype : (tintContext.translate none (some "Image|Number[]")).1 = some tintType := by
    decide +kernel
  have hreturn : (tintContext.translate none (some "Boolean")).1 = some ("boolean" : Text) := by
    decide +kernel
  obtain ⟨-, -, -, hkept, -, hdeclared⟩ :=
    twoPass_agreement tintContext "Image|Number[]" "unknown" tintEntry "p5" tintSignature
  obtain ⟨hparams, hreturned⟩ := hdeclared tintSignature.params tintContext rfl hchecked
  refine ⟨hchecked, htype, hkept _ htype, ?_, ?_⟩
  · obtain ⟨type, -, hresolved, hparam⟩ := hparams [] _ [] rfl
    obtain rfl : type = tintType := Option.some.inj (hresolved.symm.trans htype)
    rw [List.length_nil] at hparam
    rw [hparam]
    decide +kernel
  · obtain ⟨type, -, hresolved, hreturnType⟩ := hreturned rfl _ rfl
    rw [paramsObjections_snd, translate_fst_meetAll] at hresolved
    rw [hreturnType]
    exact Option.some.inj (hresolved.symm.trans hreturn)

end Context

end Ambient
