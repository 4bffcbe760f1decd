/-
  Ambient/Proofs/DeclaredTypeNames.lean
  =====================================
  **Which declared type names are symbols.**

  A class of the namespace is declared under what stands behind the root in its documented name, and
  a constant type under pieces of the names of its member and its parameter, joined and in capitals
  (`constantTypeName_eq`).  Neither name is checked, other than the names of methods and of
  properties.  So all declared names are symbols exactly if the documented names are made for it:
  those of the classes behind the root, and, for each parameter that is given a constant type, the
  pieces that are taken from the two names (`Build.declared_names_iff`).

  Where the member and the parameter are themselves rows of letters that are symbols in capitals, so
  is the type (`isSymbol_constantTypeName`).  The member of a constructor has the name of its class
  with the root and a dot in front, which is no such row.
-/
import Ambient.Proofs.BuildFailure
import Ambient.Proofs.CapitalSymbols
import Ambient.Proofs.KnownClasses

namespace Ambient

/-! ### Names and their capitals -/

namespace Text

theorem flatMap_join (f : CodePoint → Text) (joint : Text) (parts : List Text) :
    (join joint parts).flatMap f = join (joint.flatMap f) (parts.map (List.flatMap f)) := by
  fun_induction join joint parts with
  | case1 => rfl
  | case2 part => rfl
  | case3 first second rest ih =>
    rw [List.flatMap_append, List.flatMap_append, ih]
    rfl

theorem mem_join {joint : Text} {parts : List Text} {c : CodePoint} (h : c ∈ join joint parts) :
    c ∈ joint ∨ ∃ part ∈ parts, c ∈ part := by
  fun_induction join joint parts with
  | case1 => cases h
  | case2 part => exact .inr ⟨part, List.mem_singleton_self part, h⟩
  | case3 first second rest ih =>
    rcases List.mem_append.1 h with hhead | hrest
    · rcases List.mem_append.1 hhead with hfirst | hjoint
      · exact .inr ⟨first, List.mem_cons_self, hfirst⟩
      · exact .inl hjoint
    · rcases ih hrest with hjoint | ⟨part, hpart, hc⟩
      · exact .inl hjoint
      · exact .inr ⟨part, List.mem_cons_of_mem first hpart, hc⟩

theorem join_cons_cons (joint : Text) (c : CodePoint) (first : Text) (rest : List Text) :
    ∃ more, join joint ((c :: first) :: rest) = c :: more := by
  cases rest with
  | nil => exact ⟨first, rfl⟩
  | cons second rest => exact ⟨_, rfl⟩

end Text

/-- What the name of a constant type is in capitals: the pieces of the documented names that it
    takes its words from. -/
def typeNameSource (member param : Text) : Text :=
  if 1 < (splitWords param).length ∨ (splitWords member).head? = some makingWord then
    Text.join "_" (camelPieces param)
  else if splitWords member ≠ [] ∧ (splitWords member).getLast? = (splitWords param).getLast? then
    Text.join "_" (camelPieces member)
  else (camelPieces member).head?.getD [] ++ "_" ++ (camelPieces param).getLast?.getD []

theorem constantTypeName_eq (member param : Text) :
    constantTypeName member param = Text.upper (Text.lower (typeNameSource member param)) := by
  have hunderscore : Text.upper "_" = List.flatMap CodePoint.capitals "_" := by decide
  have hjoin : ∀ pieces : List Text, Text.upper (Text.join "_" (pieces.map Text.lower)) =
      Text.upper (Text.lower (Text.join "_" pieces)) := by
    intro pieces
    have hpieces : (pieces.map Text.lower).map (List.flatMap CodePoint.upper) =
        pieces.map (List.flatMap CodePoint.capitals) := by
      rw [List.map_map]
      exact List.map_congr_left fun piece _ => piece.upper_lower
    rw [Text.upper_lower, Text.flatMap_join, ← hunderscore, ← hpieces]
    exact Text.flatMap_join CodePoint.upper "_" _
  have hpair : ∀ first last : Option Text,
      Text.upper ((first.map Text.lower).getD [] ++ "_" ++ (last.map Text.lower).getD []) =
        Text.upper (Text.lower (first.getD [] ++ "_" ++ last.getD [])) := by
    intro first last
    -- a sigma in lower case depends on its surroundings, but its capital does not
    have hword : ∀ word : Option Text, Text.upper ((word.map Text.lower).getD []) =
        (word.getD []).flatMap CodePoint.capitals := by
      rintro (_ | word)
      · rfl
      · exact word.upper_lower
    rw [Text.upper_lower, List.flatMap_append, List.flatMap_append, ← hword first, ← hword last,
      ← hunderscore]
    simp only [Text.upper, List.flatMap_append]
  by_cases hparam : 1 < (splitWords param).length ∨ (splitWords member).head? = some makingWord
  · simp only [constantTypeName, typeNameSource, if_pos hparam]
    exact hjoin _
  · by_cases hmember : splitWords member ≠ [] ∧
        (splitWords member).getLast? = (splitWords param).getLast?
    · simp only [constantTypeName, typeNameSource, if_neg hparam, if_pos hmember]
      exact hjoin _
    · simp only [constantTypeName, typeNameSource, if_neg hparam, if_neg hmember]
      rw [← hpair, splitWords, splitWords, List.head?_map, List.getLast?_map]

/-! ### Names that are made for it -/

/-- A row of code points whose capitals are a symbol. -/
def Text.IsCapitalRow (t : Text) : Prop :=
  ∃ c rest, t = c :: rest ∧ c.isCapitalStart = true ∧ ∀ d ∈ rest, d.isCapitalPart = true

namespace Text.IsCapitalRow

variable {name : Text}

theorem isCapitalPart (h : name.IsCapitalRow) : ∀ c ∈ name, c.isCapitalPart = true := by
  obtain ⟨c, rest, rfl, hstart, hparts⟩ := h
  intro d hd
  rcases List.mem_cons.1 hd with rfl | hd
  · exact (Bool.and_eq_true _ _ ▸ hstart).1
  · exact hparts d hd

theorem isCapitalSymbol (h : name.IsCapitalRow) : name.isCapitalSymbol = true := by
  obtain ⟨c, rest, rfl, hstart, hparts⟩ := h
  rw [Text.isCapitalSymbol, hstart, List.dropWhile_eq_nil_iff.2 hparts]
  rfl

theorem isCapitalPart_of_piece (h : name.IsCapitalRow) {piece : Text}
    (hpiece : piece ∈ camelPieces name) : ∀ c ∈ piece, c.isCapitalPart = true := by
  intro c hc
  apply h.isCapitalPart
  rw [← flatten_camelPieces name]
  exact List.mem_flatten.2 ⟨piece, hpiece, hc⟩

theorem exists_first_piece (h : name.IsCapitalRow) :
    ∃ c piece more, camelPieces name = (c :: piece) :: more ∧ c.isCapitalStart = true := by
  obtain ⟨c, rest, rfl, hstart, -⟩ := h
  obtain ⟨piece, more, hpieces⟩ := camelPieces_cons c rest
  exact ⟨c, piece, more, hpieces, hstart⟩

/-- The pieces of a row that are joined are a row again. -/
theorem join_camelPieces (h : name.IsCapitalRow) :
    (Text.join "_" (camelPieces name)).IsCapitalRow := by
  obtain ⟨c, piece, more, hpieces, hstart⟩ := h.exists_first_piece
  obtain ⟨tail, htail⟩ := Text.join_cons_cons "_" c piece more
  refine ⟨c, tail, hpieces ▸ htail, hstart, ?_⟩
  intro d hd
  have hmem : d ∈ Text.join "_" (camelPieces name) := by
    rw [hpieces, htail]
    exact List.mem_cons_of_mem c hd
  rcases Text.mem_join hmem with hjoint | ⟨part, hpart, hd⟩
  · rw [List.mem_singleton.1 hjoint]
    decide
  · exact h.isCapitalPart_of_piece hpart d hd

/-- The first piece of a row and the last piece of another are a row. -/
theorem first_append_last {other : Text} (h : name.IsCapitalRow) (hother : other.IsCapitalRow) :
    ((camelPieces name).head?.getD [] ++ "_" ++
      (camelPieces other).getLast?.getD []).IsCapitalRow := by
  obtain ⟨c, piece, more, hpieces, hstart⟩ := h.exists_first_piece
  refine ⟨c, piece ++ "_" ++ (camelPieces other).getLast?.getD [], ?_, hstart, ?_⟩
  · rw [hpieces]
    rfl
  · intro d hd
    rcases List.mem_append.1 hd with hhead | hlast
    · rcases List.mem_append.1 hhead with hd | hjoint
      · apply h.isCapitalPart_of_piece (hpieces ▸ List.mem_cons_self) d
        exact List.mem_cons_of_mem c hd
      · rw [List.mem_singleton.1 hjoint]
        decide
    · cases hpiece : (camelPieces other).getLast? with
      | none =>
        rw [hpiece] at hlast
        cases hlast
      | some last =>
        rw [hpiece] at hlast
        exact hother.isCapitalPart_of_piece (List.mem_of_getLast? hpiece) d hlast

end Text.IsCapitalRow

/-- Of two rows of letters that are symbols in capitals, the name of the type is made of a row. -/
theorem isCapitalRow_typeNameSource {member param : Text} (hmember : member.IsCapitalRow)
    (hparam : param.IsCapitalRow) : (typeNameSource member param).IsCapitalRow := by
  unfold typeNameSource
  split
  · exact hparam.join_camelPieces
  · split
    · exact hmember.join_camelPieces
    · exact hmember.first_append_last hparam

/-- The type of a parameter is a symbol if the names of the member and the parameter are made for
    it. -/
theorem isSymbol_constantTypeName {member param : Text} (hmember : member.IsCapitalRow)
    (hparam : param.IsCapitalRow) : isSymbol (constantTypeName member param) = true := by
  rw [constantTypeName_eq, Text.isSymbol_upper_lower]
  exact (isCapitalRow_typeNameSource hmember hparam).isCapitalSymbol

/-- A constant type has the name that is made of its member and its parameter. -/
theorem Settings.fst_of_constantType? {s : Settings} {member : Text} {p : Param}
    {entry : Text × List Text} (h : s.constantType? member p = some entry) :
    entry.1 = constantTypeName member p.name := by
  unfold constantType? at h
  split at h
  · cases h
    rfl
  · cases h

/-! ### Whole builds -/

namespace Build

variable {settings : Settings} {schema : Schema} {model : Model}

theorem mem_constants_keys_iff (h : (run settings schema).result = .ok model) {key : Text} :
    key ∈ model.constants.keys ↔ ∃ q ∈ schema.builtParams settings,
      (settings.constantType? q.1 q.2).isSome = true ∧ key = constantTypeName q.1 q.2.name := by
  rw [constants_eq h, Table.mem_keys_ofList, Settings.registrations, List.mem_map]
  constructor
  · rintro ⟨entry, hentry, rfl⟩
    obtain ⟨q, hq, htype⟩ := List.mem_filterMap.1 hentry
    exact ⟨q, hq, htype ▸ rfl, Settings.fst_of_constantType? htype⟩
  · rintro ⟨q, hq, hsome, rfl⟩
    obtain ⟨entry, hentry⟩ := Option.isSome_iff_exists.1 hsome
    exact ⟨entry, List.mem_filterMap.2 ⟨q, hq, hentry⟩, Settings.fst_of_constantType? hentry⟩

/-- A class is declared under what stands behind the root in its documented name. -/
theorem qualified_of_mem_classes (h : (run settings schema).result = .ok model) {c : ClassDecl}
    (hc : c ∈ model.classes) :
    c.className ∈ schema.classNames ∧ c.className ∉ settings.aliases ∧
      c.className = settings.qualified c.name := by
  obtain ⟨aliases, classes, hparts, -⟩ := run_eq_ok h
  have hpair := List.mem_map_of_mem (f := fun c : ClassDecl => (c.className, c.name)) hc
  rw [classNames_of_run h] at hpair
  obtain ⟨name, hname, heq⟩ := List.mem_map.1 hpair
  obtain ⟨rfl, hshort⟩ := Prod.mk.inj heq
  obtain ⟨hdocumented, halias⟩ := List.mem_filter.1 hname
  refine ⟨hdocumented, of_decide_eq_true halias, ?_⟩
  rw [← (Settings.partition_eq_ok hparts.partition).2] at hname
  obtain ⟨short, hsub⟩ := Option.isSome_iff_exists.1
    (Settings.isSome_of_partition hparts.partition _ hname)
  rw [hsub, Option.getD_some] at hshort
  rw [← hshort]
  exact (Settings.subclassName?_eq_some_iff.1 hsub).1

/-- **Which declared type names are symbols.**  All constant types have symbols for their names
    exactly if, for each parameter that is given one, the pieces of documented names that it takes
    are a symbol in capitals; and all classes do exactly if each documented class that is no further
    name of the root has the root, a dot and a symbol for its name. -/
theorem declared_names_iff (h : (run settings schema).result = .ok model) :
    ((∀ key ∈ model.constants.keys, isSymbol key = true) ↔
      ∀ q ∈ schema.builtParams settings, (settings.constantType? q.1 q.2).isSome = true →
        (typeNameSource q.1 q.2.name).isCapitalSymbol = true) ∧
    ((∀ c ∈ model.classes, isSymbol c.name = true) ↔
      ∀ name ∈ schema.classNames, name ∉ settings.aliases →
        ∃ short, isSymbol short = true ∧ name = settings.qualified short) := by
  constructor
  · constructor
    · intro hall q hq hsome
      rw [← Text.isSymbol_upper_lower, ← constantTypeName_eq]
      exact hall _ ((mem_constants_keys_iff h).2 ⟨q, hq, hsome, rfl⟩)
    · intro hall key hkey
      obtain ⟨q, hq, hsome, rfl⟩ := (mem_constants_keys_iff h).1 hkey
      rw [constantTypeName_eq, Text.isSymbol_upper_lower]
      exact hall q hq hsome
  · constructor
    · intro hall name hname halias
      obtain ⟨aliases, classes, hparts, -⟩ := run_eq_ok h
      have hclass : name ∈ classes := by
        rw [(Settings.partition_eq_ok hparts.partition).2]
        exact List.mem_filter.2 ⟨hname, decide_eq_true halias⟩
      obtain ⟨c, hc, -, hqualified⟩ := (mem_classes_iff_of_run hparts.partition h).1 hclass
      exact ⟨c.name, hall c hc, hqualified⟩
    · intro hall c hc
      obtain ⟨hname, halias, hqualified⟩ := qualified_of_mem_classes h hc
      obtain ⟨short, hsymbol, hshort⟩ := hall c.className hname halias
      have hsame : c.name = short := List.append_cancel_left (hqualified.symm.trans hshort)
      rwa [hsame]

/-! ### Names that are symbols, and names that are not -/

def blendItem : ItemDoc :=
  ⟨⟨⟨[⟨"mode", some "Constant", false, "either ADD or DARKEST"⟩], none, false, false, none⟩,
    "src/color.js", [], false, none, "blendMode"⟩, "p5", .method, none, none, false⟩

def soundSchema (short : Text) (params : List Param) : Schema :=
  ⟨.ofList [("p5", plainClass "p5"), ("p5." ++ short,
    ⟨⟨⟨params, none, false, false, none⟩, "src/sound.js", [], true, none, "p5." ++ short⟩, none⟩)],
    [blendItem]⟩

def reverbSchema : Schema := soundSchema "Reverb" []

/-- A class without a symbol for its name, whose constructor takes constants. -/
def soundFileSchema : Schema :=
  soundSchema "Sound-File" [⟨"mode", some "Constant", false, "either RESTART or SUSTAIN"⟩]

theorem build_soundSchema :
    ((run .standard reverbSchema).result.map fun m =>
        (m.constants.keys, m.classes.map ClassDecl.name)).toOption =
      some ([("BLEND_MODE" : Text)], [("Reverb" : Text)]) ∧
    ((run .standard soundFileSchema).result.map fun m =>
        (m.constants.keys, m.classes.map ClassDecl.name)).toOption =
      some ([("BLEND_MODE" : Text), "P5.SOUND-FILE_MODE"], [("Sound-File" : Text)]) := by decide +kernel

/-- All declared names are symbols, and neither all constant types nor all classes have one. -/
theorem declared_names_sound :
    (∃ model, (run .standard reverbSchema).result = .ok model ∧
      (∀ key ∈ model.constants.keys, isSymbol key = true) ∧
      ∀ c ∈ model.classes, isSymbol c.name = true) ∧
    ∃ model, (run .standard soundFileSchema).result = .ok model ∧
      (¬ ∀ key ∈ model.constants.keys, isSymbol key = true) ∧
      ¬ ∀ c ∈ model.classes, isSymbol c.name = true := by
  constructor
  · obtain ⟨model, hmodel, -⟩ := exists_ok_of_map build_soundSchema.1
    obtain ⟨hconstants, hclasses⟩ := declared_names_iff hmodel
    refine ⟨model, hmodel, hconstants.2 (by decide +kernel), hclasses.2 ?_⟩
    intro name hname halias
    have hnames : reverbSchema.classNames = [("p5" : Text), "p5.Reverb"] := by decide
    rw [hnames] at hname
    rcases List.mem_pair.1 hname with rfl | rfl
    · exact absurd (by decide) halias
    · exact ⟨"Reverb", by decide, by decide⟩
  · obtain ⟨model, hmodel, -⟩ := exists_ok_of_map build_soundSchema.2
    obtain ⟨hconstants, hclasses⟩ := declared_names_iff hmodel
    refine ⟨model, hmodel, ?_, ?_⟩
    · intro hall
      have hsource : ∃ q ∈ soundFileSchema.builtParams .standard,
          (Settings.standard.constantType? q.1 q.2).isSome = true ∧
            (typeNameSource q.1 q.2.name).isCapitalSymbol = false := by decide +kernel
      obtain ⟨q, hq, hsome, hfalse⟩ := hsource
      exact absurd (hconstants.1 hall q hq hsome) (Bool.eq_false_iff.1 hfalse)
    · intro hall
      obtain ⟨short, hsymbol, hname⟩ :=
        hclasses.1 hall "p5.Sound-File" (by decide) (by decide)
      have hfull : Settings.standard.qualified "Sound-File" = "p5.Sound-File" := by decide
      have hshort : "Sound-File" = short := List.append_cancel_left (hfull.trans hname)
      rw [← hshort] at hsymbol
      exact absurd hsymbol (by decide)

/-- A constant type and a class are declared under names that are no symbols. -/
theorem declared_without_symbol :
    isSymbol Settings.standard.rootName = true ∧
      ∃ model, (run .standard soundFileSchema).result = .ok model ∧
        (∃ key ∈ model.constants.keys, isSymbol key = false) ∧
        ∃ c ∈ model.classes, isSymbol c.name = false := by
  refine ⟨by decide, ?_⟩
  obtain ⟨model, hmodel, hnames⟩ := exists_ok_of_map build_soundSchema.2
  obtain ⟨hconstants, hclasses⟩ := Prod.mk.inj hnames
  refine ⟨model, hmodel, ⟨"P5.SOUND-FILE_MODE", ?_, by decide⟩, ?_⟩
  · rw [hconstants]
    exact List.mem_cons_of_mem _ (List.mem_singleton_self _)
  · have hmem : ("Sound-File" : Text) ∈ model.classes.map ClassDecl.name := by
      rw [hclasses]
      exact List.mem_singleton_self _
    obtain ⟨c, hc, hname⟩ := List.mem_map.1 hmem
    refine ⟨c, hc, ?_⟩
    rw [hname]
    decide

end Build

end Ambient
