/-
  Ambient/Proofs/WellFormedTypes.lean
  ===================================
  **Which translations are types of the grammar.**

  A documented type may have gaps: nothing stands between two bars, or between a bar and an end.
  Reading it fills no gap.  The arguments of a function are read without the blank ones, and the
  element of an array is never blank, but a union keeps its blank members (`noted_parse`).  Such a
  member is translated to the empty text, and the union around it to a text with a bare bar.

  That is the only way in which a translation can miss the grammar.  A type in which no union has
  a blank member is translated to a type over the words that the context yields
  (`isType_of_translate`); one with a blank member anywhere is translated to a text in which a bar
  lacks a member (`lacksMember_of_paired`), and that is no type unless a word has such a bar
  already.
-/
import Ambient.Proofs.Translation
import Ambient.Proofs.TypeGrammar
import Mathlib.Data.List.TakeWhile

namespace Ambient

/-! ### The words of a context -/

/-- The words that a type can be made of: what a built-in type stands for, the types of the
    platform, the documented classes, the constant types, the fallback, and the fallback for the
    arguments of a function. -/
inductive Context.Yields (ctx : Context) (fallback : Option Text) : Text → Prop where
  | builtIn {token w : Text} : ctx.settings.typeMap.get? token = some w → Yields ctx fallback w
  | platform {w : Text} : w ∈ ctx.settings.externalTypes → Yields ctx fallback w
  | knownClass {w : Text} : ctx.isKnownClass w = true → Yields ctx fallback w
  | constant {w : Text} : w ∈ ctx.constants.keys → Yields ctx fallback w
  | fallback {w : Text} : fallback = some w → Yields ctx fallback w
  | argument : Yields ctx fallback DocType.argumentFallback

namespace Context

theorem yields_of_resolve? {ctx : Context} {fallback : Option Text} {name type : Text}
    (h : ctx.resolve? name = some type) : ctx.Yields fallback type := by
  unfold resolve? at h
  split at h
  · next built hbuilt =>
    cases h
    exact .builtIn hbuilt
  · split at h
    · next hword =>
      cases h
      rw [Bool.or_eq_true, Bool.or_eq_true, List.contains_iff_mem, Table.contains_iff] at hword
      rcases hword with (hplatform | hclass) | hconstant
      · exact .platform hplatform
      · exact .knownClass hclass
      · exact .constant hconstant
    · cases h

/-- The words of the arguments of a function are words of the whole. -/
theorem Yields.of_argument {ctx : Context} {fallback : Option Text} {w : Text}
    (h : ctx.Yields (some DocType.argumentFallback) w) : ctx.Yields fallback w := by
  cases h with
  | builtIn h => exact .builtIn h
  | platform h => exact .platform h
  | knownClass h => exact .knownClass h
  | constant h => exact .constant h
  | fallback h =>
    cases h
    exact .argument
  | argument => exact .argument

end Context

namespace DocType

/-! ### Gaps in a documented type -/

def isBlank : DocType → Bool
  | blank => true
  | _ => false

mutual

/-- Whether some union in a type has a blank member. -/
def lacksMember : DocType → Bool
  | blank => false
  | word _ => false
  | array element => lacksMember element
  | union members => members.any isBlank || anyLacksMember members
  | function params => anyLacksMember params

def anyLacksMember : List DocType → Bool
  | [] => false
  | t :: rest => lacksMember t || anyLacksMember rest

end

theorem isBlank_eq_false_iff {t : DocType} : t.isBlank = false ↔ t ≠ blank := by
  cases t <;> simp [isBlank]

theorem anyLacksMember_eq_false_iff {ts : List DocType} :
    anyLacksMember ts = false ↔ ∀ t ∈ ts, lacksMember t = false := by
  induction ts with
  | nil => simp [anyLacksMember]
  | cons t rest ih => simp [anyLacksMember, ih]

theorem lacksMember_union_eq_false_iff {members : List DocType} :
    lacksMember (union members) = false ↔
      ∀ m ∈ members, m ≠ blank ∧ lacksMember m = false := by
  rw [lacksMember, Bool.or_eq_false_iff, anyLacksMember_eq_false_iff, List.any_eq_false]
  simp only [Bool.not_eq_true, isBlank_eq_false_iff]
  exact forall₂_and.symm

/-- The types that a text can note: no element of an array and no argument of a function is
    blank, and a union has several members. -/
inductive Noted : DocType → Prop where
  | blank : Noted blank
  | word (name : Text) : Noted (word name)
  | array {element : DocType} : element ≠ blank → Noted element → Noted (array element)
  | union {members : List DocType} :
      2 ≤ members.length → (∀ m ∈ members, Noted m) → Noted (union members)
  | function {params : List DocType} :
      (∀ p ∈ params, p ≠ blank) → (∀ p ∈ params, Noted p) → Noted (function params)

theorem trim_eq_nil_of_parse {t : Text} (h : parse t = blank) : t.trim = [] := by
  rw [parse_eq] at h
  split at h
  · next hempty => exact List.isEmpty_iff.1 hempty
  · split at h
    · cases h
    · split at h
      · cases h
      · split at h <;> cases h

theorem parse_elementText_ne_blank {t : Text} (h : isArrayText t.trim = true) :
    parse (elementText t.trim) ≠ blank := by
  intro hblank
  have hmark := trim_append_mark_of_eq (trim_eq_nil_of_parse hblank)
  rw [← elementText_append_of_isArrayText h, Text.trim_trim] at hmark
  rw [hmark] at h
  exact nomatch h

theorem parse_argument_ne_blank {inner part : Text} (h : part ∈ argumentsOf inner) :
    parse part ≠ blank := by
  intro hblank
  have hstart := Text.trim_eq_nil_iff.1 (trim_eq_nil_of_parse hblank)
  have hall : part.isBlank = true :=
    List.all_eq_true.2 (List.dropWhile_eq_nil_iff.1 hstart)
  have hkept := (List.mem_filter.1 h).2
  rw [hall] at hkept
  exact nomatch hkept

theorem noted_parse (t : Text) : Noted (parse t) := by
  have hlength := Text.length_trim_le t
  -- each part is read from a shorter text, which the recursion is on
  rw [parse_eq]
  split
  · exact .blank
  · split
    · next harray =>
      have hshorter := length_elementText_lt harray
      exact .array (parse_elementText_ne_blank harray) (noted_parse (elementText t.trim))
    · split
      · next hmany =>
        refine .union (by rwa [List.length_map]) ?_
        intro m hm
        obtain ⟨part, hpart, rfl⟩ := List.mem_map.1 hm
        have hshorter := length_lt_of_mem_splitTop hpart hmany
        exact noted_parse part
      · split
        · next inner hinner =>
          have hinside := length_lt_of_argumentText? hinner
          refine .function ?_ ?_
          · intro p hp
            obtain ⟨part, hpart, rfl⟩ := List.mem_map.1 hp
            exact parse_argument_ne_blank hpart
          · intro p hp
            obtain ⟨part, hpart, rfl⟩ := List.mem_map.1 hp
            have hshorter := length_le_of_mem_splitTop (List.mem_filter.1 hpart).1
            exact noted_parse part
        · exact .word t.trim
termination_by t.length

/-! ### Types without gaps -/

/-- The translations of several types, if each of them has one. -/
theorem types_of_allPresent {fallback : Option Text} {ctx : Context} {ts : List DocType}
    {types : List Text}
    (h : allPresent (ts.map fun t => (translate fallback ctx t).1) = some types) :
    types.length = ts.length ∧
      (∀ type ∈ types, ∃ t ∈ ts, (translate fallback ctx t).1 = some type) ∧
      ∀ t ∈ ts, ∃ type ∈ types, (translate fallback ctx t).1 = some type := by
  have hmap := allPresent_eq_some_iff.1 h
  refine ⟨?_, ?_, ?_⟩
  · have hlength := congrArg List.length hmap
    rw [List.length_map, List.length_map] at hlength
    exact hlength.symm
  · intro type htype
    have hmem : some type ∈ ts.map fun t => (translate fallback ctx t).1 := by
      rw [hmap]
      exact List.mem_map_of_mem htype
    exact List.mem_map.1 hmem
  · intro t ht
    have hmem : (translate fallback ctx t).1 ∈ types.map some := by
      rw [← hmap]
      exact List.mem_map_of_mem ht
    obtain ⟨type, htype, heq⟩ := List.mem_map.1 hmem
    exact ⟨type, htype, heq.symm⟩

/-- **A type without a blank member is translated to a type** over the words of the context. -/
theorem isType_of_translate {ctx : Context} {t : DocType} (hnoted : Noted t)
    (hmembers : lacksMember t = false) (hne : t ≠ blank) {fallback : Option Text} {type : Text}
    (h : (translate fallback ctx t).1 = some type) :
    IsType (ctx.Yields fallback) .free type := by
  induction hnoted generalizing fallback type with
  | blank => exact absurd rfl hne
  | word name =>
    simp only [translate] at h
    cases hname : ctx.resolve? name with
    | some resolved =>
      rw [hname] at h
      cases h
      exact .word (Context.yields_of_resolve? hname)
    | none =>
      rw [hname] at h
      exact .word (.fallback h)
  | array helement _ ih =>
    rw [translate_array, Option.map_eq_some_iff] at h
    obtain ⟨inner, hinner, rfl⟩ := h
    exact .operand (.array (ih hmembers helement hinner).guarded)
  | @union members hmany _ ih =>
    rw [translate_union, Option.map_eq_some_iff] at h
    obtain ⟨types, htypes, rfl⟩ := h
    obtain ⟨hlength, heach, -⟩ := types_of_allPresent htypes
    rw [lacksMember_union_eq_false_iff] at hmembers
    have hsome : types.map guarded ≠ [] := by
      intro hnil
      rw [List.map_eq_nil_iff.1 hnil, List.length_nil] at hlength
      omega
    refine .operand (IsType.join hsome ?_)
    intro part hpart
    obtain ⟨one, hone, rfl⟩ := List.mem_map.1 hpart
    obtain ⟨m, hm, htype⟩ := heach one hone
    exact (ih m hm (hmembers m hm).2 (hmembers m hm).1 htype).guarded
  | function hargs _ ih =>
    rw [translate_function, Option.map_eq_some_iff] at h
    obtain ⟨types, htypes, rfl⟩ := h
    obtain ⟨-, heach, -⟩ := types_of_allPresent htypes
    rw [lacksMember, anyLacksMember_eq_false_iff] at hmembers
    rw [functionText_eq]
    refine .function ?_
    intro one hone
    obtain ⟨p, hp, htype⟩ := heach one hone
    -- the arguments are translated with a fallback of their own
    exact (ih p hp (hmembers p hp) (hargs p hp) htype).mono fun w hw => hw.of_argument

/-! ### Gaps show in the translation -/

theorem paired_of_guarded {t : Text} (h : Paired (guarded t)) : Paired t := by
  unfold guarded at h
  split at h
  · exact h.middle (by rintro c ⟨⟩; rfl) (by rintro c ⟨⟩; rfl)
  · exact h

theorem paired_of_arrayText {t : Text} (h : Paired (arrayText t)) : Paired t := by
  apply paired_of_guarded
  exact Paired.middle (a := []) h (by rintro c ⟨⟩) (by rintro c ⟨⟩; rfl)

/-- What stands around a text that is joined with others. -/
theorem exists_around_of_mem_join (joint : Text) {part : Text} {parts : List Text}
    (h : part ∈ parts) :
    ∃ before after, Text.join joint parts = before ++ part ++ after ∧
      (before = [] ∨ ∃ front, before = front ++ joint) ∧
      (after = [] ∨ ∃ back, after = joint ++ back) ∧
      (before = [] → after = [] → parts.length ≤ 1 ∨ joint = []) := by
  match parts with
  | [only] =>
    obtain rfl := List.mem_singleton.1 h
    exact ⟨[], [], by simp [Text.join], .inl rfl, .inl rfl, fun _ _ => .inl (Nat.le_refl 1)⟩
  | first :: second :: rest =>
    rcases List.mem_cons.1 h with rfl | hrest
    · refine ⟨[], joint ++ Text.join joint (second :: rest), ?_, .inl rfl, .inr ⟨_, rfl⟩, ?_⟩
      · rw [Text.join, List.nil_append, List.append_assoc]
      · intro _ hnil
        exact .inr (List.append_eq_nil_iff.1 hnil).1
    · obtain ⟨before, after, hjoin, hbefore, hafter, -⟩ :=
        exists_around_of_mem_join joint hrest
      refine ⟨first ++ joint ++ before, after, ?_, .inr ?_, hafter, ?_⟩
      · simp only [Text.join, hjoin, List.append_assoc]
      · rcases hbefore with rfl | ⟨front, rfl⟩
        · exact ⟨first, List.append_nil _⟩
        · exact ⟨first ++ joint ++ front, (List.append_assoc _ _ _).symm⟩
      · intro hnil _
        rw [List.append_eq_nil_iff, List.append_eq_nil_iff] at hnil
        exact .inr hnil.1.2

theorem eq_of_getLast?_joint {text joint : Text} {c : CodePoint}
    (h : text = [] ∨ ∃ front, text = front ++ joint) (hc : joint.getLast? = some c) :
    ∀ d, text.getLast? = some d → d = c := by
  intro d hd
  rcases h with rfl | ⟨front, rfl⟩
  · exact nomatch hd
  · simp only [List.getLast?_append, hc, Option.some_or, Option.some.injEq] at hd
    exact hd.symm

theorem eq_of_head?_joint {text joint : Text} {c : CodePoint}
    (h : text = [] ∨ ∃ back, text = joint ++ back) (hc : joint.head? = some c) :
    ∀ d, text.head? = some d → d = c := by
  intro d hd
  rcases h with rfl | ⟨back, rfl⟩
  · exact nomatch hd
  · simp only [List.head?_append, hc, Option.some_or, Option.some.injEq] at hd
    exact hd.symm

/-- In a union whose bars have their members, so have those of each member, and none is empty. -/
theorem paired_of_unionText {members : List Text} (h : Paired (unionText members)) {m : Text}
    (hm : m ∈ members) : Paired m ∧ (2 ≤ members.length → m ≠ []) := by
  obtain ⟨before, after, hjoin, hbefore, hafter, hends⟩ :=
    exists_around_of_mem_join "|" (List.mem_map_of_mem (f := guarded) hm)
  rw [unionText, hjoin] at h
  have hleft := eq_of_getLast?_joint (c := '|') hbefore rfl
  have hright := eq_of_head?_joint (c := '|') hafter rfl
  constructor
  · apply paired_of_guarded
    apply h.middle
    · intro c hc
      rw [hleft c hc]
      rfl
    · intro c hc
      rw [hright c hc]
      rfl
  · rintro hmany rfl
    have hgap : Paired (before ++ after) := by
      rwa [show guarded [] = [] from rfl, List.append_nil] at h
    obtain ⟨hnil, hnil'⟩ := hgap.eq_nil_of_bars hleft hright
    rcases hends hnil hnil' with hfew | hjoint
    · rw [List.length_map] at hfew
      omega
    · exact nomatch hjoint

theorem paired_of_functionText {params : List Text} (h : Paired (functionText params)) {p : Text}
    (hp : p ∈ params) : Paired p := by
  obtain ⟨i, hi, rfl⟩ := List.mem_iff_getElem.1 hp
  have hparam : ("p" ++ Text.ofNat (i + 1) ++ ": " ++ params[i] : Text) ∈
      params.mapIdx fun i type => ("p" ++ Text.ofNat (i + 1) ++ ": " ++ type : Text) :=
    List.mem_mapIdx.2 ⟨i, hi, rfl⟩
  obtain ⟨before, after, hjoin, -, hafter, -⟩ := exists_around_of_mem_join ", " hparam
  have hright := eq_of_head?_joint (c := ',') hafter rfl
  rw [functionText_eq, parameterList, hjoin] at h
  -- a blank ends the label in front, and a comma or the parenthesis comes behind
  have haround : Paired (("(" ++ before ++ "p" ++ Text.ofNat (i + 1) ++ ": ") ++ params[i] ++
      (after ++ ") => any")) := by
    simpa only [List.append_assoc] using h
  apply haround.middle
  · intro c hc
    simp only [List.getLast?_append] at hc
    cases hc
    rfl
  · intro c hc
    cases after with
    | nil =>
      cases hc
      rfl
    | cons d rest =>
      have hd := hright d rfl
      cases hc
      rw [hd]
      rfl

/-- **A translation in which every bar has its members** is that of a type without blank ones. -/
theorem lacksMember_of_paired {ctx : Context} {t : DocType} (hnoted : Noted t)
    {fallback : Option Text} {type : Text} (h : (translate fallback ctx t).1 = some type)
    (hpaired : Paired type) : lacksMember t = false := by
  induction hnoted generalizing fallback type with
  | blank => rfl
  | word name => rfl
  | array _ _ ih =>
    rw [translate_array, Option.map_eq_some_iff] at h
    obtain ⟨inner, hinner, rfl⟩ := h
    exact ih hinner (paired_of_arrayText hpaired)
  | union hmany _ ih =>
    rw [translate_union, Option.map_eq_some_iff] at h
    obtain ⟨types, htypes, rfl⟩ := h
    obtain ⟨hlength, -, heach⟩ := types_of_allPresent htypes
    rw [lacksMember_union_eq_false_iff]
    intro m hm
    obtain ⟨one, hone, htype⟩ := heach m hm
    obtain ⟨hpart, hne⟩ := paired_of_unionText hpaired hone
    refine ⟨?_, ih m hm htype hpart⟩
    -- a blank member is translated to the empty text
    rintro rfl
    cases htype
    exact hne (by omega) rfl
  | function _ _ ih =>
    rw [translate_function, Option.map_eq_some_iff] at h
    obtain ⟨types, htypes, rfl⟩ := h
    obtain ⟨-, -, heach⟩ := types_of_allPresent htypes
    rw [lacksMember, anyLacksMember_eq_false_iff]
    intro p hp
    obtain ⟨one, hone, htype⟩ := heach p hp
    exact ih p hp htype (paired_of_functionText hpaired hone)

/-! ### Which translations are types -/

/-- **A translation is a type** over the words of the context if no union in the documented type,
    at any depth, has a blank member.  If every bar in these words has its members, then it is a
    type in no other case. -/
theorem isType_translate (ctx : Context) (fallback : Option Text) (token : Text) {type : Text}
    (h : (ctx.translate fallback (some token)).1 = some type) (hne : type ≠ []) :
    ((parse token).lacksMember = false → IsType (ctx.Yields fallback) .free type) ∧
    ((∀ w, ctx.Yields fallback w → Whole w) → (parse token).lacksMember = true →
      ¬ IsType (ctx.Yields fallback) .free type) := by
  have hnoted := noted_parse token
  constructor
  · intro hmembers
    refine isType_of_translate hnoted hmembers ?_ h
    intro hblank
    rw [Context.translate, hblank] at h
    cases h
    exact hne rfl
  · intro hwords hgap htype
    have hmembers := lacksMember_of_paired hnoted h (htype.whole hwords).paired
    rw [hmembers] at hgap
    exact nomatch hgap

/-! ### Words whose bars have their members -/

instance (t : Text) : Decidable (Whole t) :=
  decidable_of_iff
    ((∃ c ∈ t.head?, beginsType c = true) ∧ (∃ c ∈ t.getLast?, endsType c = true) ∧
      t.IsChain Adjoin)
    ⟨fun h => ⟨h.1, h.2.1, h.2.2⟩, fun h => ⟨h.begins, h.ends, h.adjoin⟩⟩

/-- The words of the settings for p5.js are whole. -/
theorem whole_of_yields_standard {w : Text}
    (h : (Context.start .standard []).Yields (some "any") w) : Whole w := by
  cases h with
  | @builtIn token _ hbuilt =>
    obtain ⟨front, back, hentries, -⟩ := List.lookup_eq_some_iff.1 hbuilt
    have hall : ∀ e ∈ Settings.standard.typeMap.entries, Whole e.2 := by decide +kernel
    exact hall (token, w) (by rw [show Settings.standard.typeMap.entries = _ from hentries]; simp)
  | platform hplatform =>
    have hall : ∀ w ∈ Settings.standard.externalTypes, Whole w := by decide +kernel
    exact hall w hplatform
  | knownClass hclass =>
    simp [Context.isKnownClass, Context.isSubclass, Context.start] at hclass
  | constant hconstant => exact nomatch hconstant
  | fallback hfallback =>
    cases hfallback
    decide
  | argument => decide

/-- An array of functions in a union is a type, and a union with a gap is none. -/
theorem isType_translate_callbacks :
    ((Context.start .standard []).translate (some "any")
        (some "Function(Number|String)[]|Object")).1 =
      some "(((p1: number|string) => any)[])|any" ∧
    IsType ((Context.start .standard []).Yields (some "any")) .free
      "(((p1: number|string) => any)[])|any" ∧
    ((Context.start .standard []).translate (some "any") (some "Function(Number|)")).1 =
      some "(p1: number|) => any" ∧
    ¬ IsType ((Context.start .standard []).Yields (some "any")) .free "(p1: number|) => any" := by
  have hfull : ((Context.start .standard []).translate (some "any")
      (some "Function(Number|String)[]|Object")).1 =
        some "(((p1: number|string) => any)[])|any" := by decide +kernel
  have hgap : ((Context.start .standard []).translate (some "any")
      (some "Function(Number|)")).1 = some "(p1: number|) => any" := by decide +kernel
  refine ⟨hfull, ?_, hgap, ?_⟩
  · exact (isType_translate _ _ _ hfull (by decide)).1 (by decide +kernel)
  · exact (isType_translate _ _ _ hgap (by decide)).2 (fun _ => whole_of_yields_standard)
      (by decide +kernel)

/-- A union with nothing between two bars is no type, although all words are. -/
theorem translate_bare_bar :
    ((Context.start .standard []).translate (some "any") (some "Number||String")).1 =
      some "number||string" ∧
    (∀ w, (Context.start .standard []).Yields (some "any") w →
      w ≠ [] ∧ IsType ((Context.start .standard []).Yields (some "any")) .free w) ∧
    ¬ IsType ((Context.start .standard []).Yields (some "any")) .free "number||string" := by
  refine ⟨by decide +kernel, ?_, ?_⟩
  · intro w hw
    exact ⟨(whole_of_yields_standard hw).ne_nil, .word hw⟩
  · intro h
    have hwhole := h.whole fun _ => whole_of_yields_standard
    exact absurd hwhole.adjoin (by decide)

end DocType

end Ambient
