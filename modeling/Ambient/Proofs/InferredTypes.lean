/-
  Ambient/Proofs/InferredTypes.lean
  =================================
  **What the name of an inferred constant type is translated to.**

  A parameter that is given a constant type is documented with the name of that type from then on.
  The name is looked up like any other documented type: it is taken apart first, and a word is
  looked for among the built-in types before it can be found among the constant types.  The latter
  only grow, so the name of a constant type is never unknown once it is registered, if it is read
  as one word at all, which names of members and parameters that are symbols see to
  (`isSimple_constantTypeName`).  It stands for itself unless a built-in type has the same name
  (`inferred_type_translates`).

  The name is in capitals and so never the one that marks a parameter as taking constants:
  nothing is inferred for such a parameter again (`constantType?_of_inferred`).
-/
import Ambient.Proofs.DeclaredTypeNames
import Ambient.Proofs.Registries

namespace Ambient

/-! ### Names of constant types -/

theorem Text.mem_of_mem_trim {c : CodePoint} {t : Text} (h : c ∈ trim t) : c ∈ t := by
  obtain ⟨z, -, hcut⟩ := exists_blanks (trimStart t)
  have hstart : c ∈ trimStart t := by
    rw [hcut]
    exact List.mem_append_left z h
  exact (List.dropWhile_sublist CodePoint.isBlank).mem hstart

/-- The name of a constant type is in capitals, and so is no word with small letters. -/
theorem trim_constantTypeName_ne (member param : Text) :
    (constantTypeName member param).trim ≠ "Constant" := by
  intro h
  have hletter : CodePoint.scalar 'o' ∈ (constantTypeName member param).trim := by
    rw [h]
    decide
  exact absurd (Text.isAsciiLower_of_mem_upper (Text.mem_of_mem_trim hletter)) (by decide)

namespace DocType

theorem suffix_of_afterForms? {forms : List (List Char)} {t rest : Text}
    (h : afterForms? forms t = some rest) : rest <:+ t := by
  induction forms generalizing t with
  | nil =>
    obtain rfl := Option.some.inj h
    exact List.suffix_refl t
  | cons first more ih =>
    cases t with
    | nil => cases h
    | cons c t =>
      rw [afterForms?] at h
      split at h
      · exact (ih h).trans (List.suffix_cons c t)
      · cases h

/-- A function type ends with the parenthesis behind its arguments. -/
theorem mem_of_argumentText? {t inner : Text} (h : argumentText? t = some inner) :
    .scalar ')' ∈ t := by
  unfold argumentText? at h
  split at h
  · cases h
  · next rest hrest =>
    split at h
    · next hclosed => exact (suffix_of_afterForms? hrest).mem (List.mem_of_getLast? hclosed.1)
    · cases h

/-- A text of code points that have a place in a symbol is read as one word. -/
theorem isSimple_of_forall_isSymbolPart {t : Text} (hne : t ≠ [])
    (h : ∀ c ∈ t, c.isSymbolPart = true) : IsSimple t := by
  have hnotMem {c : CodePoint} (hc : c.isSymbolPart = false) : c ∉ t := fun hmem =>
    Bool.false_ne_true (hc.symm.trans (h c hmem))
  refine ⟨hne, ?_, ?_, ?_, ?_⟩
  · refine Text.trim_eq_self ?_ ?_
    · intro c hc
      exact CodePoint.isBlank_of_isSymbolPart (h c (List.mem_of_head? hc))
    · intro c hc
      exact CodePoint.isBlank_of_isSymbolPart (h c (List.mem_of_getLast? hc))
  · rintro ⟨-, before, hmark⟩
    have hbracket : .scalar ']' ∉ t := hnotMem (by decide)
    exact hbracket (hmark ▸ List.mem_append_right before (by decide))
  · rintro before after rfl
    exact absurd (List.mem_append_right before List.mem_cons_self) (hnotMem (by decide))
  · cases hinner : argumentText? t with
    | none => rfl
    | some inner => exact absurd (mem_of_argumentText? hinner) (hnotMem (by decide))

end DocType

/-- The type of a parameter is read as one word if the names of the member and the parameter are
    rows of letters that are symbols in capitals. -/
theorem isSimple_constantTypeName {member param : Text} (hmember : member.IsCapitalRow)
    (hparam : param.IsCapitalRow) : DocType.IsSimple (constantTypeName member param) := by
  have hrow := isCapitalRow_typeNameSource hmember hparam
  rw [constantTypeName_eq, Text.upper_lower]
  apply DocType.isSimple_of_forall_isSymbolPart
  · obtain ⟨c, rest, hcut, -⟩ := hrow
    rw [hcut, List.flatMap_cons]
    exact List.append_ne_nil_of_left_ne_nil c.capitals_ne_nil _
  · intro d hd
    obtain ⟨c, hc, hd⟩ := List.mem_flatMap.1 hd
    have hfits := c.fitsCapitals
    rw [CodePoint.FitsCapitals, if_pos (hrow.isCapitalPart c hc)] at hfits
    exact hfits.2 d hd

namespace Context

/-! ### Constant types that are looked up -/

/-- A registered constant type is never unknown; a built-in type of the same name comes first. -/
theorem resolve?_of_mem_constants {ctx : Context} {name : Text} (h : name ∈ ctx.constants.keys) :
    ctx.resolve? name = some ((ctx.settings.typeMap.get? name).getD name) := by
  have hcontains : ctx.constants.contains name = true := Table.contains_iff.2 h
  unfold resolve?
  cases ctx.settings.typeMap.get? name with
  | some type => rfl
  | none => rw [hcontains, Bool.or_true, if_pos rfl, Option.getD_none]

theorem translate_of_isSimple {ctx : Context} {name type : Text} (h : DocType.IsSimple name)
    (hresolve : ctx.resolve? name = some type) (fallback : Option Text) :
    ctx.translate fallback (some name) = (some type, ctx) := by
  have hword : DocType.parse name = .word name := DocType.parse_eq_word_iff.2 ⟨h.trim, h⟩
  simp only [translate, hword, DocType.translate, hresolve]

/-- A parameter that is given a constant type has its name for a type, which is registered. -/
theorem inferConstant_of_some {ctx ctx' : Context} {member : Text} {p q : Param} {name : Text}
    {values : List Text} (htype : ctx.settings.constantType? member p = some (name, values))
    (h : ctx.inferConstant member p = (q, ctx')) :
    q.type = some name ∧ ctx'.settings = ctx.settings ∧ name ∈ ctx'.constants.keys := by
  simp only [inferConstant, htype] at h
  obtain ⟨rfl, rfl⟩ := Prod.mk.inj h
  refine ⟨rfl, rfl, ?_⟩
  change name ∈ (ctx.constants.insert name values).keys
  rw [Table.keys_insert]
  split
  · assumption
  · exact List.mem_append_right _ (List.mem_singleton_self name)

theorem inferConstant_of_none {ctx : Context} {member : Text} {p : Param}
    (h : ctx.settings.constantType? member p = none) : ctx.inferConstant member p = (p, ctx) := by
  simp only [inferConstant, h]

/-- For a parameter that has the name of a constant type for its type, nothing is inferred. -/
theorem constantType?_of_inferred {s : Settings} (htoken : s.constantToken = "Constant")
    {p : Param} {member param : Text} (htype : p.type = some (constantTypeName member param))
    (other : Text) : s.constantType? other p = none := by
  have hno : s.isConstantParam p = false := by
    rw [Settings.isConstantParam, htype, htoken]
    refine decide_eq_false fun h => ?_
    exact trim_constantTypeName_ne member param (Option.some.inj h)
  rw [Settings.constantType?, hno, Bool.false_and]
  rfl

/-- **What the name of an inferred type is translated to.**  Let a parameter be given a constant
    type, and let any operations follow.  The parameter is documented with the name of the type,
    and nothing is inferred for it again.  If the name is empty, or is read as one word and is no
    built-in type, it stands for itself, whatever the fallback, and is not recorded as unknown.  A
    word that is the name of a built-in type too stands for that one.  Names that are made of
    symbols are read as one word. -/
theorem inferred_type_translates {ctx ctx' : Context} {member : Text} {p q : Param} {name : Text}
    {values : List Text} (htoken : ctx.settings.constantToken = "Constant")
    (htype : ctx.settings.constantType? member p = some (name, values))
    (hinferred : ctx.inferConstant member p = (q, ctx')) (ops : List Operation) :
    q.type = some name ∧
    (∀ other, (ctx'.behind ops).inferConstant other q = (q, ctx'.behind ops)) ∧
    (∀ fallback, (name = [] ∨ DocType.IsSimple name ∧ name ∉ ctx.settings.typeMap.keys) →
      (ctx'.behind ops).translate fallback q.type = (some name, ctx'.behind ops)) ∧
    (∀ fallback type, DocType.IsSimple name → ctx.settings.typeMap.get? name = some type →
      (ctx'.behind ops).translate fallback q.type = (some type, ctx'.behind ops)) ∧
    (member.IsCapitalRow → p.name.IsCapitalRow → DocType.IsSimple name) := by
  obtain ⟨hretyped, hsettings, hregistered⟩ := inferConstant_of_some htype hinferred
  obtain rfl : name = constantTypeName member p.name := Settings.fst_of_constantType? htype
  have hsettings : (ctx'.behind ops).settings = ctx.settings :=
    (settings_behind ctx' ops).trans hsettings
  -- a constant type stays registered through all operations
  have hresolve := resolve?_of_mem_constants ((keys_constants_behind ctx' ops).mem hregistered)
  rw [hsettings] at hresolve
  refine ⟨hretyped, ?_, ?_, ?_, fun hmember hparam => isSimple_constantTypeName hmember hparam⟩
  · intro other
    apply inferConstant_of_none
    exact constantType?_of_inferred (hsettings ▸ htoken) hretyped other
  · rw [hretyped]
    rintro fallback (hnil | ⟨hsimple, hnew⟩)
    · rw [hnil]
      have hblank : DocType.parse [] = .blank := DocType.parse_of_trim_eq_nil rfl
      simp only [translate, hblank, DocType.translate]
    · rw [Table.get?_eq_none_iff.2 hnew, Option.getD_none] at hresolve
      exact translate_of_isSimple hsimple hresolve fallback
  · rw [hretyped]
    intro fallback type hsimple hbuiltIn
    rw [hbuiltIn, Option.getD_some] at hresolve
    exact translate_of_isSimple hsimple hresolve fallback

def endShapeMode : Param := ⟨"mode", some "Constant", true, []⟩

def endMode : Text := "END_MODE"

theorem inferred_type_translates_endMode :
    Settings.standard.constantToken = "Constant" ∧
    Settings.standard.constantType? "endShape" endShapeMode =
      some (endMode, [("CLOSE" : Text)]) ∧
    (((Context.start .standard []).inferConstant "endShape" endShapeMode).2.behind
        frobRun).translate (some "any")
        ((Context.start .standard []).inferConstant "endShape" endShapeMode).1.type =
      (some endMode,
        ((Context.start .standard []).inferConstant "endShape" endShapeMode).2.behind frobRun) := by
  have htoken : (Context.start .standard []).settings.constantToken = "Constant" := rfl
  have htype : Settings.standard.constantType? "endShape" endShapeMode =
      some (endMode, [("CLOSE" : Text)]) := rfl
  obtain ⟨-, -, hself, -, hsimple⟩ := inferred_type_translates htoken htype rfl frobRun
  have hname : DocType.IsSimple endMode :=
    hsimple ⟨_, _, rfl, by decide, by decide⟩ ⟨_, _, rfl, by decide, by decide⟩
  exact ⟨htoken, htype, hself (some "any") (Or.inr ⟨hname, by decide⟩)⟩

def splitParam : Param := ⟨"a|b", some "Constant", false, []⟩

/-- Settings with a built-in type that has the name of a constant type, and with a constant for a
    parameter whose name is no symbol. -/
def closedSettings : Settings :=
  { Settings.standard with
    primitiveTypes := Settings.standard.primitiveTypes.insert endMode "string"
    constantOverrides := ⟨"createTable", "a|b", ["CLOSE"]⟩ :: Settings.standard.constantOverrides }

/-- A built-in type comes before a constant type of its name, and a name that is no word is taken
    apart. -/
theorem inferred_type_hidden :
    closedSettings.constantToken = "Constant" ∧
    (((Context.start closedSettings []).inferConstant "endShape" endShapeMode).1.type =
        some endMode ∧
      (((Context.start closedSettings []).inferConstant "endShape" endShapeMode).2.translate
        (some "any")
        ((Context.start closedSettings []).inferConstant "endShape" endShapeMode).1.type).1 =
          some ("string" : Text)) ∧
    (((Context.start closedSettings []).inferConstant "createTable" splitParam).1.type =
        some ("A|B" : Text) ∧
      (((Context.start closedSettings []).inferConstant "createTable" splitParam).2.translate
        (some "any")
        ((Context.start closedSettings []).inferConstant "createTable" splitParam).1.type).1 =
          some ("any|any" : Text)) := by
  decide +kernel

end Context

end Ambient
