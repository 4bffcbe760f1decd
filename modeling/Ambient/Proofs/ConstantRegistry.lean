/-
  Ambient/Proofs/ConstantRegistry.lean
  ====================================
  **Which constants a constant type has in the end.**

  Several parameters may be given the same constant type: the overloads of a method, or methods
  whose names end alike.  Each of them registers the constants that its own description lists, and
  the table keeps one list under one name.  The list it keeps is that of the parameter that a
  build comes to last (`get?_constants_eq_some_iff`).  A parameter that takes other constants than
  this one is declared with a type that does not have them, so nothing is lost exactly where each
  list is a part of the last one under its name (`constants_kept_iff`).
-/
import Ambient.Proofs.BuildWalk

namespace Ambient

/-! ### The last of several entries -/

theorem lookup_reverse_eq_some_iff {α : Type} {entries : List (Text × α)} {key : Text}
    {value : α} :
    entries.reverse.lookup key = some value ↔
      ∃ before after, entries = before ++ (key, value) :: after ∧ ∀ e ∈ after, e.1 ≠ key := by
  constructor
  · intro h
    obtain ⟨front, back, hsplit, hfront⟩ := List.lookup_eq_some_iff.1 h
    refine ⟨back.reverse, front.reverse, ?_, ?_⟩
    · have hreversed := congrArg List.reverse hsplit
      rwa [List.reverse_reverse, List.reverse_append, List.reverse_cons, List.append_assoc]
        at hreversed
    · intro e he
      exact (bne_iff_ne.1 (hfront e (List.mem_reverse.1 he))).symm
  · rintro ⟨before, after, rfl, hafter⟩
    apply List.lookup_eq_some_iff.2
    refine ⟨after.reverse, before.reverse, ?_, ?_⟩
    · rw [List.reverse_append, List.reverse_cons, List.append_assoc, List.singleton_append]
    · intro e he
      exact bne_iff_ne.2 (hafter e (List.mem_reverse.1 he)).symm

namespace Settings

/-- Whether the last of some parameters that is given a constant type takes these constants. -/
def TakesLast (s : Settings) (params : List (Text × Param)) (type : Text)
    (constants : List Text) : Prop :=
  ∃ before member p after, params = before ++ (member, p) :: after ∧
    s.constantType? member p = some (type, constants) ∧
    ∀ q ∈ after, ∀ others, s.constantType? q.1 q.2 ≠ some (type, others)

theorem takesLast_iff {s : Settings} {params : List (Text × Param)} {type : Text}
    {constants : List Text} :
    s.TakesLast params type constants ↔
      (s.registrations params).reverse.lookup type = some constants := by
  rw [lookup_reverse_eq_some_iff]
  constructor
  · rintro ⟨before, member, p, after, rfl, htype, hafter⟩
    refine ⟨s.registrations before, s.registrations after, ?_, ?_⟩
    · simp only [registrations, List.filterMap_append, List.filterMap_cons, htype]
    · rintro ⟨name, others⟩ he rfl
      obtain ⟨q, hq, hothers⟩ := List.mem_filterMap.1 he
      exact hafter q hq others hothers
  · rintro ⟨front, back, hsplit, hback⟩
    obtain ⟨before, rest, rfl, -, hrest⟩ := List.filterMap_eq_append_iff.1 hsplit
    obtain ⟨between, q, after, rfl, -, hq, hafter⟩ := List.filterMap_eq_cons_iff.1 hrest
    refine ⟨before ++ between, q.1, q.2, after, ?_, hq, ?_⟩
    · rw [List.append_assoc]
    · intro r hr others hothers
      apply hback (type, others) _ rfl
      rw [← hafter]
      exact List.mem_filterMap.2 ⟨r, hr, hothers⟩

theorem TakesLast.unique {s : Settings} {params : List (Text × Param)} {type : Text}
    {constants others : List Text} (h : s.TakesLast params type constants)
    (h' : s.TakesLast params type others) : constants = others :=
  Option.some.inj ((takesLast_iff.1 h).symm.trans (takesLast_iff.1 h'))

end Settings

namespace Build

/-- A constant type has the constants of the last parameter that was given it. -/
theorem get?_constants_eq_some_iff {settings : Settings} {schema : Schema} {model : Model}
    (h : (run settings schema).result = .ok model) {type : Text} {constants : List Text} :
    model.constants.get? type = some constants ↔
      settings.TakesLast (schema.builtParams settings) type constants := by
  have hget : model.constants.get? type =
      ((settings.registrations (schema.builtParams settings)).reverse.lookup type).or none := by
    rw [constants_eq h]
    exact Table.get?_insertAll .empty _ type
  rw [hget, Option.or_none, Settings.takesLast_iff]

/-- **Which constants are kept.**  A build gives the parameters that it looks at their constant
    types, and leaves the others as they are.  The model has every constant type that was given;
    the constants of a parameter are all among those of its type exactly if they are among the
    constants of the last parameter that was given this type. -/
theorem constants_kept_iff {settings : Settings} {schema : Schema} {model : Model}
    (h : (run settings schema).result = .ok model) :
    (run settings schema).schema.builtParams settings =
      (schema.builtParams settings).map (fun q => (q.1, settings.retype q.1 q.2)) ∧
    ∀ member p, (member, p) ∈ schema.builtParams settings → ∀ type constants,
      settings.constantType? member p = some (type, constants) →
      (settings.retype member p).type = some type ∧
      ∃ kept, model.constants.get? type = some kept ∧
        ((∀ c ∈ constants, c ∈ kept) ↔
          ∃ last, settings.TakesLast (schema.builtParams settings) type last ∧
            ∀ c ∈ constants, c ∈ last) := by
  refine ⟨builtParams_retyped h, ?_⟩
  intro member p hp type constants htype
  constructor
  · simp only [Settings.retype, htype]
  · -- the parameter itself gives the type, so some parameter is the last to do so
    have hmem : type ∈ model.constants.keys := by
      rw [constants_eq h, Table.mem_keys_ofList]
      exact List.mem_map.2 ⟨_, List.mem_filterMap.2 ⟨_, hp, htype⟩, rfl⟩
    obtain ⟨kept, hkept⟩ := Table.mem_keys_iff.1 hmem
    have hlast := (get?_constants_eq_some_iff h).1 hkept
    refine ⟨kept, hkept, ?_⟩
    constructor
    · intro hall
      exact ⟨kept, hlast, hall⟩
    · rintro ⟨last, hother, hall⟩
      rwa [hlast.unique hother]

/-! ### Two overloads with one constant type -/

def cornerMode : Param := ⟨"mode", some "Constant", false, "either CORNER or CORNERS"⟩

def centerMode : Param := ⟨"mode", some "Constant", false, "either CENTER or RADIUS"⟩

def rectModeItem : ItemDoc where
  params := []
  returned := none
  isStatic := false
  isChainable := false
  line := some 20
  file := "src/attributes.js"
  description := []
  isConstructor := false
  overloads := some [⟨[cornerMode], none, false, false, some 20⟩,
    ⟨[centerMode], none, false, false, some 24⟩]
  name := "rectMode"
  owner := "p5"
  kind := .method
  type := none
  defaultValue := none
  isFinal := false

def rectModeSchema : Schema :=
  ⟨.ofList [("p5", ⟨⟨⟨[], none, false, false, none⟩, [], [], false, none, "p5"⟩, none⟩)],
    [rectModeItem]⟩

def rectModeParams : List (Text × Param) := [("rectMode", cornerMode), ("rectMode", centerMode)]

def cornerType : Text × List Text := ("RECT_MODE", ["CORNER", "CORNERS"])

def centerType : Text × List Text := ("RECT_MODE", ["CENTER", "RADIUS"])

theorem builtParams_rectMode : rectModeSchema.builtParams .standard = rectModeParams := by
  decide +kernel

theorem constantType?_cornerMode :
    Settings.standard.constantType? "rectMode" cornerMode = some cornerType := by decide +kernel

theorem constantType?_centerMode :
    Settings.standard.constantType? "rectMode" centerMode = some centerType := by decide +kernel

theorem build_rectMode :
    ((run .standard rectModeSchema).result.map fun m => m.constants.get? "RECT_MODE").toOption =
      some (some centerType.2) := by decide +kernel

/-- The constants of the second overload are kept, since it is the last one. -/
theorem constants_kept_rectMode :
    ∃ model kept, (run .standard rectModeSchema).result = .ok model ∧
      model.constants.get? "RECT_MODE" = some kept ∧ ∀ c ∈ centerType.2, c ∈ kept := by
  obtain ⟨model, hmodel, -⟩ := exists_ok_of_map build_rectMode
  have hmem : (("rectMode", centerMode) : Text × Param) ∈ rectModeSchema.builtParams .standard := by
    rw [builtParams_rectMode]
    exact List.mem_cons_of_mem _ List.mem_cons_self
  obtain ⟨-, hkept⟩ := constants_kept_iff hmodel
  obtain ⟨-, kept, hget, hiff⟩ := hkept _ _ hmem _ _ constantType?_centerMode
  refine ⟨model, kept, hmodel, hget, hiff.2 ⟨centerType.2, ?_, fun _ hc => hc⟩⟩
  exact ⟨[("rectMode", cornerMode)], "rectMode", centerMode, [], builtParams_rectMode,
    constantType?_centerMode, fun _ hq => nomatch hq⟩

/-- The constants of the first overload are lost, although it is given the same type. -/
theorem constants_lost_rectMode :
    ∃ model, (run .standard rectModeSchema).result = .ok model ∧
      rectModeSchema.builtParams .standard = rectModeParams ∧
      Settings.standard.constantType? "rectMode" cornerMode = some cornerType ∧
      Settings.standard.constantType? "rectMode" centerMode = some centerType ∧
      model.constants.get? "RECT_MODE" = some centerType.2 ∧
      ∀ c ∈ cornerType.2, c ∉ centerType.2 := by
  obtain ⟨model, hmodel, hget⟩ := exists_ok_of_map build_rectMode
  refine ⟨model, hmodel, builtParams_rectMode, constantType?_cornerMode,
    constantType?_centerMode, hget, ?_⟩
  decide +kernel

end Build

end Ambient
