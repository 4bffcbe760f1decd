/-
  Ambient/Proofs/ParamNames.lean
  ==============================
  **Which names the parameters of a declared signature have.**

  A signature is checked with the names that its parameters are documented with, and declared with
  the names that the settings put in the place of reserved words.  A signature without objections
  has names that are symbols and differ from each other (`names_of_paramsObjections`).  Renaming
  keeps them symbols if all replacements are, but it can bring two of them together: two reserved
  words may have one replacement, and a replacement may be the name of another parameter that keeps
  it.  Nothing else does (`nodup_paramNames_iff`), and the settings for p5.js do
  (`declared_params_meet`).
-/
import Ambient.Proofs.SignatureCheck
import Mathlib.Data.List.Nodup

namespace Ambient

/-- Whether some names stay apart when the settings replace those that are reserved words: no two
    of them have one replacement, and no replacement is one of them that is not replaced. -/
structure Settings.KeepsApart (s : Settings) (names : List Text) : Prop where
  replacements : ∀ a ∈ names, ∀ b ∈ names,
    ∀ r ∈ s.reservedParamNames.get? a, r ∈ s.reservedParamNames.get? b → a = b
  kept : ∀ a ∈ names, ∀ r ∈ s.reservedParamNames.get? a,
    r ∈ names → s.reservedParamNames.get? r ≠ none

namespace Context

/-! ### Documented names -/

/-- Parameters without objections have symbols for names, and each of them another one, which is
    none of those in front either. -/
theorem names_of_paramsObjections {ctx : Context} {names : List Text} {afterOptional : Bool}
    {params : List Param} (h : (ctx.paramsObjections names afterOptional params).1 = []) :
    (params.map Param.name).Nodup ∧
      ∀ p ∈ params, p.name ∉ names ∧ isSymbol p.name = true := by
  induction params generalizing ctx names afterOptional with
  | nil => simp
  | cons p rest ih =>
    obtain ⟨hhere, hrest⟩ : (ctx.paramObjections names afterOptional p).1 = [] ∧
        ((ctx.paramObjections names afterOptional p).2.paramsObjections (p.name :: names)
          (afterOptional || p.isOptional) rest).1 = [] := List.append_eq_nil_iff.1 h
    -- the check of the rest has this name among those in front
    obtain ⟨hnodup, hnames⟩ := ih hrest
    have hnew : p.name ∉ names ∧ isSymbol p.name = true := by
      simp only [paramObjections, List.append_eq_nil_iff] at hhere
      obtain ⟨⟨⟨-, hrepeated⟩, hsymbol⟩, -⟩ := hhere
      exact ⟨by simpa using hrepeated, by simpa using hsymbol⟩
    refine ⟨?_, ?_⟩
    · rw [List.map_cons, List.nodup_cons]
      refine ⟨?_, hnodup⟩
      intro hmem
      obtain ⟨q, hq, hsame⟩ := List.mem_map.1 hmem
      exact (hnames q hq).1 (hsame ▸ List.mem_cons_self)
    · intro q hq
      rcases List.mem_cons.1 hq with rfl | hq
      · exact hnew
      · obtain ⟨hother, hsymbol⟩ := hnames q hq
        exact ⟨fun hmem => hother (List.mem_cons_of_mem _ hmem), hsymbol⟩

/-! ### Declared names -/

theorem paramName_of_some {ctx : Context} {name replacement : Text}
    (h : ctx.settings.reservedParamNames.get? name = some replacement) :
    ctx.paramName name = replacement := by
  rw [paramName, h, Option.getD_some]

theorem paramName_of_none {ctx : Context} {name : Text}
    (h : ctx.settings.reservedParamNames.get? name = none) : ctx.paramName name = name := by
  rw [paramName, h, Option.getD_none]

theorem isSymbol_paramName {ctx : Context} {name : Text} (h : isSymbol name = true)
    (hreplacement : ∀ replacement ∈ ctx.settings.reservedParamNames.get? name,
      isSymbol replacement = true) : isSymbol (ctx.paramName name) = true := by
  cases hget : ctx.settings.reservedParamNames.get? name with
  | none => rwa [paramName_of_none hget]
  | some replacement =>
    rw [paramName_of_some hget]
    exact hreplacement replacement hget

/-- Names that differ are declared with names that differ exactly if the settings keep them
    apart. -/
theorem nodup_paramNames_iff {ctx : Context} {names : List Text} (h : names.Nodup) :
    (names.map ctx.paramName).Nodup ↔ ctx.settings.KeepsApart names := by
  rw [List.nodup_map_iff_inj_on h]
  constructor
  · intro hinj
    refine ⟨?_, ?_⟩
    · intro a ha b hb r har hbr
      apply hinj a ha b hb
      rw [paramName_of_some har, paramName_of_some hbr]
    · intro a ha r har hr hnone
      have hsame : a = r := by
        apply hinj a ha r hr
        rw [paramName_of_some har, paramName_of_none hnone]
      subst hsame
      exact nomatch hnone.symm.trans har
  · intro hapart a ha b hb hsame
    -- of two names that are declared alike none, one or both may be replaced
    cases hgeta : ctx.settings.reservedParamNames.get? a with
    | none =>
      rw [paramName_of_none hgeta] at hsame
      cases hgetb : ctx.settings.reservedParamNames.get? b with
      | none => rwa [paramName_of_none hgetb] at hsame
      | some r =>
        rw [paramName_of_some hgetb] at hsame
        exact absurd (hsame ▸ hgeta) (hapart.kept b hb r hgetb (hsame ▸ ha))
    | some r =>
      rw [paramName_of_some hgeta] at hsame
      cases hgetb : ctx.settings.reservedParamNames.get? b with
      | none =>
        rw [paramName_of_none hgetb] at hsame
        exact absurd (hsame ▸ hgetb) (hapart.kept a ha r hgeta (hsame ▸ hb))
      | some r' =>
        rw [paramName_of_some hgetb] at hsame
        exact hapart.replacements a ha b hb r hgeta (hsame ▸ hgetb)

/-- **Which names a signature without objections is declared with.**  If all replacements of
    reserved words are symbols, so is the name of each declared parameter, which stands in front of
    its type.  The declared names differ from each other exactly if the settings keep the documented
    ones apart. -/
theorem declared_params_apart_iff {ctx : Context} {e : Entry} {s : Signature}
    (hreplacements : ∀ name, ∀ replacement ∈ ctx.settings.reservedParamNames.get? name,
      isSymbol replacement = true)
    (h : (ctx.objections e s).1 = []) :
    (∀ later : Context, later.settings = ctx.settings → ∀ p ∈ s.params,
      isSymbol (later.paramName p.name) = true ∧
        ∃ type, (later.translateParam p).1 =
          later.paramName p.name ++ (if p.isOptional then "?: " else ": ") ++ type) ∧
    ((s.params.map fun p => ctx.paramName p.name).Nodup ↔
      ctx.settings.KeepsApart (s.params.map Param.name)) := by
  obtain ⟨hnodup, hnames⟩ := names_of_paramsObjections (objections_eq_nil h).1
  refine ⟨?_, ?_⟩
  · intro later hlater p hp
    refine ⟨isSymbol_paramName (hnames p hp).2 ?_, _, rfl⟩
    rw [hlater]
    exact hreplacements p.name
  · have hmap : (s.params.map fun p => ctx.paramName p.name) =
        (s.params.map Param.name).map ctx.paramName := by
      rw [List.map_map]
      rfl
    rw [hmap]
    exact nodup_paramNames_iff hnodup

def styledSignature (other : Text) : Signature :=
  ⟨[⟨"class", some "String", false, []⟩, ⟨other, some "Number", false, []⟩], none, false, false,
    none⟩

def styledEntry (other : Text) : Entry :=
  ⟨styledSignature other, "src/dom.js", [], false, none, "addClass"⟩

theorem isSymbol_replacement_standard (name : Text) :
    ∀ replacement ∈ Settings.standard.reservedParamNames.get? name,
      isSymbol replacement = true := by
  intro replacement h
  have hentries : ∀ e ∈ Settings.standard.reservedParamNames.entries, isSymbol e.2 = true := by
    decide
  exact hentries _ (Table.mem_entries_of_get? h)

theorem declared_params_apart_weight :
    (∀ name, ∀ replacement ∈ Settings.standard.reservedParamNames.get? name,
      isSymbol replacement = true) ∧
    ((Context.start .standard []).objections (styledEntry "weight")
      (styledSignature "weight")).1 = [] ∧
    ((styledSignature "weight").params.map fun p =>
      (Context.start .standard []).paramName p.name).Nodup := by
  have hnone : ((Context.start .standard []).objections (styledEntry "weight")
      (styledSignature "weight")).1 = [] := by decide +kernel
  refine ⟨isSymbol_replacement_standard, hnone, ?_⟩
  refine (declared_params_apart_iff isSymbol_replacement_standard hnone).2.2 ⟨?_, ?_⟩
  · decide
  · decide

/-- The replacement of a reserved word can be the name of another parameter: a signature without
    objections is then declared with one name twice. -/
theorem declared_params_meet :
    (∀ name, ∀ replacement ∈ Settings.standard.reservedParamNames.get? name,
      isSymbol replacement = true) ∧
    ((Context.start .standard []).objections (styledEntry "theClass")
      (styledSignature "theClass")).1 = [] ∧
    ((Context.start .standard []).translateParams (styledSignature "theClass").params).1 =
      ["theClass: string", "theClass: number"] ∧
    ¬ ((styledSignature "theClass").params.map fun p =>
      (Context.start .standard []).paramName p.name).Nodup := by
  refine ⟨isSymbol_replacement_standard, ?_, ?_, ?_⟩
  · decide +kernel
  · decide +kernel
  · decide +kernel

end Context

end Ambient
