/-
  Ambient/Proofs/KnownClasses.lean
  ================================
  **Which types are known for the name of a class, and which classes are declared.**

  The names of documented classes are judged twice.  Before a build they are parted, and the names
  that the settings have for the root come first; what is left has to be a class of the namespace.
  When a type is translated, its word is known if it is a documented name of the form of a class of
  the namespace, with the root in front or without.  The second judgement does not ask for names of
  the root.  So the known words are the classes of the namespace and those names of the root that
  have their form (`isKnownClass_iff_of_partition`); the two judgements agree exactly when there is
  no such name, and only then does each known word stand for a declared class.
-/
import Ambient.Proofs.Coverage
import Ambient.Proofs.RootMembers

namespace Ambient

open Text (filledLines)
open Sheet (indentation)

/-! ### Names of the namespace -/

namespace Settings

/-- With the root in front, the name of a class of the namespace has a dot behind the root. -/
theorem subclassName?_qualified {s : Settings} {name : Text}
    (h : (s.subclassName? name).isSome = true) : s.subclassName? (s.qualified name) = none := by
  obtain ⟨short, hshort⟩ := Option.isSome_iff_exists.1 h
  obtain ⟨rfl, -, -⟩ := subclassName?_eq_some_iff.1 hshort
  cases hlong : s.subclassName? (s.qualified (s.qualified short)) with
  | none => rfl
  | some long =>
    obtain ⟨heq, -, hdot⟩ := subclassName?_eq_some_iff.1 hlong
    have hlongEq : s.qualified short = long := List.append_cancel_left heq
    rw [← hlongEq] at hdot
    exact absurd (by simp [qualified, Text.ofString]) hdot

end Settings

theorem Context.isKnownClass_iff {ctx : Context} {token : Text} :
    ctx.isKnownClass token = true ↔
      ∃ name ∈ ctx.knownClasses, (ctx.settings.subclassName? name).isSome = true ∧
        (name = token ∨ name = ctx.settings.qualified token) := by
  simp only [isKnownClass, isSubclass, Bool.or_eq_true, Bool.and_eq_true,
    List.contains_iff_mem]
  constructor
  · rintro (⟨hsome, hmem⟩ | ⟨hsome, hmem⟩)
    · exact ⟨token, hmem, hsome, .inl rfl⟩
    · exact ⟨_, hmem, hsome, .inr rfl⟩
  · rintro ⟨name, hmem, hsome, rfl | rfl⟩
    · exact .inl ⟨hsome, hmem⟩
    · exact .inr ⟨hsome, hmem⟩

theorem Context.isKnownClass_iff_of_partition {settings : Settings} {schema : Schema}
    {aliases classes : List Text}
    (h : settings.partition schema.classNames = .ok (aliases, classes)) {ctx : Context}
    (hsettings : ctx.settings = settings) (hknown : ctx.knownClasses = schema.classNames)
    (token : Text) :
    ctx.isKnownClass token = true ↔
      (token ∈ classes ∨ settings.qualified token ∈ classes) ∨
        ∃ other ∈ aliases, (settings.subclassName? other).isSome = true ∧
          (other = token ∨ other = settings.qualified token) := by
  have hclasses := Settings.isSome_of_partition h
  obtain ⟨rfl, rfl⟩ := Settings.partition_eq_ok h
  have hmem : ∀ name, name ∈ schema.classNames.filter (· ∉ settings.aliases) →
      name ∈ schema.classNames := fun _ hname => List.mem_of_mem_filter hname
  rw [isKnownClass_iff, hsettings, hknown]
  constructor
  · rintro ⟨name, hdocumented, hsome, hname⟩
    -- a class that is a further name of the root is known too if it has the form of a subclass
    by_cases halias : name ∈ settings.aliases
    · exact .inr ⟨name, List.mem_filter.2 ⟨hdocumented, decide_eq_true halias⟩, hsome, hname⟩
    · have hclass : name ∈ schema.classNames.filter (· ∉ settings.aliases) :=
        List.mem_filter.2 ⟨hdocumented, decide_eq_true halias⟩
      rcases hname with rfl | rfl
      · exact .inl (.inl hclass)
      · exact .inl (.inr hclass)
  · rintro ((htoken | htoken) | ⟨other, halias, hsome, hname⟩)
    · exact ⟨token, hmem _ htoken, hclasses _ htoken, .inl rfl⟩
    · exact ⟨_, hmem _ htoken, hclasses _ htoken, .inr rfl⟩
    · exact ⟨other, List.mem_of_mem_filter halias, hsome, hname⟩

/-! ### Declared classes -/

/-- The module form can be written on a blank sheet, and has the class in its namespace. -/
def Model.DeclaresInNamespace (m : Model) (c : ClassDecl) : Prop :=
  ∃ s outside before after, m.renderModule .blank = .ok s ∧
    filledLines s.text = outside ++
      filledLines ("declare namespace " ++ m.rootName ++ " \x7b") ++
      (before ++ c.lines ++ after).map (indentation ++ ·) ++ [("\x7d" : Text)]

theorem Model.declaresInNamespace {m : Model} {c : ClassDecl} (h : c ∈ m.classes) :
    m.DeclaresInNamespace c := by
  obtain ⟨s, hrender, hlines⟩ := m.renderModule_blank
  obtain ⟨first, more, hcut⟩ := List.append_of_mem h
  refine ⟨s, filledLines ("declare class " ++ m.rootName ++ " \x7b") ++
    m.rootLines.map (indentation ++ ·) ++ [("\x7d" : Text)],
    first.flatMap ClassDecl.lines, more.flatMap ClassDecl.lines, hrender, ?_⟩
  have hnamespace : m.namespaceLines =
      first.flatMap ClassDecl.lines ++ c.lines ++ more.flatMap ClassDecl.lines := by
    rw [namespaceLines, hcut, List.flatMap_append, List.flatMap_cons, List.append_assoc]
  rw [hlines, hnamespace]

namespace Build

theorem classNames_of_run {settings : Settings} {schema : Schema} {model : Model}
    (h : (run settings schema).result = .ok model) :
    model.classes.map (fun c => (c.className, c.name)) =
      (schema.classNames.filter (· ∉ settings.aliases)).map
        fun name => (name, (settings.subclassName? name).getD name) := by
  apply map_eq_of_forall₂ _ (classOutlines_of_run h)
  intro name c hc
  obtain ⟨info, -, houtline⟩ := Settings.classOutline_eq_some hc
  simp only [ClassDecl.outline, ClassDecl.mk.injEq] at houtline
  rw [houtline.2.1, houtline.1]

/-- A model has the classes of the namespace, each under its short name. -/
theorem mem_classes_iff_of_run {settings : Settings} {schema : Schema} {model : Model}
    {aliases classes : List Text}
    (h : settings.partition schema.classNames = .ok (aliases, classes))
    (hrun : (run settings schema).result = .ok model) {name : Text} :
    name ∈ classes ↔
      ∃ c ∈ model.classes, c.className = name ∧ name = settings.qualified c.name := by
  have hall := classNames_of_run hrun
  have hsome := Settings.isSome_of_partition h
  obtain ⟨rfl, rfl⟩ := Settings.partition_eq_ok h
  constructor
  · intro hname
    -- the walk declares one class for each name that it is to pass, under the short name
    have hpair : (name, (settings.subclassName? name).getD name) ∈
        model.classes.map (fun c => (c.className, c.name)) := by
      rw [hall]
      exact List.mem_map_of_mem hname
    obtain ⟨c, hc, heq⟩ := List.mem_map.1 hpair
    obtain ⟨rfl, hshort⟩ := Prod.mk.inj heq
    obtain ⟨short, hsub⟩ := Option.isSome_iff_exists.1 (hsome _ hname)
    rw [hsub, Option.getD_some] at hshort
    refine ⟨c, hc, rfl, ?_⟩
    rw [hshort]
    exact (Settings.subclassName?_eq_some_iff.1 hsub).1
  · rintro ⟨c, hc, rfl, -⟩
    have hpair := List.mem_map_of_mem (f := fun c : ClassDecl => (c.className, c.name)) hc
    rw [hall] at hpair
    obtain ⟨name, hname, heq⟩ := List.mem_map.1 hpair
    obtain ⟨rfl, -⟩ := Prod.mk.inj heq
    exact hname

end Build

/-- **The known classes are the declared ones exactly if no name of the root has their form.**
    Apart from the classes of the namespace, a context of the build knows the names of the root
    that have the form of one, with the root in front or without.  The words that mean a class of
    the namespace are those that a model declares there. -/
theorem knownClass_iff_declared {settings : Settings} {schema : Schema}
    {aliases classes : List Text}
    (h : settings.partition schema.classNames = .ok (aliases, classes)) {ctx : Context}
    (hsettings : ctx.settings = settings) (hknown : ctx.knownClasses = schema.classNames) :
    ((∀ token, ctx.isKnownClass token = true ↔
        token ∈ classes ∨ settings.qualified token ∈ classes) ↔
      ∀ other ∈ aliases, settings.subclassName? other = none) ∧
    (∀ token, ctx.isKnownClass token = true ↔
      (token ∈ classes ∨ settings.qualified token ∈ classes) ∨
        ∃ other ∈ aliases, (settings.subclassName? other).isSome = true ∧
          (other = token ∨ other = settings.qualified token)) ∧
    ∀ model, (Build.run settings schema).result = .ok model → ∀ token,
      (token ∈ classes ∨ settings.qualified token ∈ classes) ↔
        ∃ c ∈ model.classes, (c.className = token ∨ c.className = settings.qualified token) ∧
          c.className = settings.qualified c.name ∧ model.DeclaresInNamespace c := by
  have hiff := Context.isKnownClass_iff_of_partition h hsettings hknown
  refine ⟨⟨?_, ?_⟩, hiff, ?_⟩
  · intro hall other hother
    cases hsub : settings.subclassName? other with
    | none => rfl
    | some short =>
      -- the name itself is a word that is known and names no class of the namespace
      have hsome : (settings.subclassName? other).isSome = true := by rw [hsub]; rfl
      have hclass := (hall other).1 ((hiff other).2 (.inr ⟨other, hother, hsome, .inl rfl⟩))
      rcases hclass with hclass | hclass
      · exact absurd hother ((Settings.parts_of_partition h).disjoint other hclass)
      · have hlong := Settings.isSome_of_partition h _ hclass
        rw [Settings.subclassName?_qualified hsome] at hlong
        exact nomatch hlong
  · intro hnone token
    rw [hiff]
    constructor
    · rintro (hclass | ⟨other, hother, hsome, -⟩)
      · exact hclass
      · rw [hnone other hother] at hsome
        exact nomatch hsome
    · exact .inl
  · intro model hrun token
    have hmem : ∀ name, name ∈ classes ↔
        ∃ c ∈ model.classes, c.className = name ∧ name = settings.qualified c.name :=
      fun _ => Build.mem_classes_iff_of_run h hrun
    constructor
    · rintro (hclass | hclass)
      · obtain ⟨c, hc, rfl, hname⟩ := (hmem _).1 hclass
        exact ⟨c, hc, .inl rfl, hname, Model.declaresInNamespace hc⟩
      · obtain ⟨c, hc, heq, hname⟩ := (hmem _).1 hclass
        exact ⟨c, hc, .inr heq, heq.trans hname, Model.declaresInNamespace hc⟩
    · rintro ⟨c, hc, rfl | heq, hname, -⟩
      · exact .inl ((hmem _).2 ⟨c, hc, rfl, hname⟩)
      · exact .inr ((hmem _).2 ⟨c, hc, heq, heq ▸ hname⟩)

/-- The classes `p5` and `p5.Shape` are known as they are declared. -/
theorem knownClass_iff_declared_shape :
    Settings.standard.partition Build.coverSchema.classNames = .ok (["p5"], ["p5.Shape"]) ∧
    ∀ token, (Context.start .standard Build.coverSchema.classNames).isKnownClass token = true ↔
      token ∈ [("p5.Shape" : Text)] ∨ Settings.standard.qualified token ∈ [("p5.Shape" : Text)] := by
  have hparts : Settings.standard.partition Build.coverSchema.classNames =
      .ok (["p5"], ["p5.Shape"]) := by decide +kernel
  exact ⟨hparts, (knownClass_iff_declared hparts rfl rfl).1.2 (by decide +kernel)⟩

def domSchema : Schema :=
  ⟨.ofList [
      ("p5", ⟨⟨⟨[], none, false, false, none⟩, [], [], false, none, "p5"⟩, none⟩),
      ("p5.dom", ⟨⟨⟨[], none, false, false, none⟩, [], [], false, none, "p5.dom"⟩, none⟩)], []⟩

theorem build_domSchema :
    ((Build.run .standard domSchema).result.map Model.classes).toOption = some [] := by
  decide +kernel

/-- The name `p5.dom` is one of the root; it is known although no class is declared. -/
theorem knownClass_dom :
    Settings.standard.partition domSchema.classNames = .ok (["p5", "p5.dom"], []) ∧
    (Context.start .standard domSchema.classNames).isKnownClass "p5.dom" = true ∧
    ¬(("p5.dom" : Text) ∈ ([] : List Text) ∨
      Settings.standard.qualified "p5.dom" ∈ ([] : List Text)) ∧
    ∃ model, (Build.run .standard domSchema).result = .ok model ∧ model.classes = [] := by
  refine ⟨by decide +kernel, by decide +kernel, by decide +kernel, ?_⟩
  obtain ⟨model, hmodel, hclasses⟩ := Build.exists_ok_of_map build_domSchema
  exact ⟨model, hmodel, hclasses⟩

end Ambient
