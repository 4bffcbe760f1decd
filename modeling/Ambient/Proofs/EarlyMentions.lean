/-
  Ambient/Proofs/EarlyMentions.lean
  =================================
  **Constant types that are reported missing.**

  A build passes the documentation once, and on this way it both gives constant types to
  parameters and looks types up.  So a type is looked up among the constant types that were given
  up to there.  One signature is no matter: its parameters are given their types before any of its
  types is looked up (`mem_unresolvedBy_iff`).  But a member that mentions the constant type of a
  later member finds nothing, and the type is recorded as unknown for good, although the model
  declares it in the end.

  These early mentions are the only types that stand in both registries of a model
  (`Build.early_mention_iff`).
-/
import Ambient.Proofs.Attribution

namespace Ambient

/-! ### What a member mentions, and what it gives -/

namespace Origin

def memberParams : Origin → List (Text × Param)
  | signature e _ s => s.memberParams e.name
  | property _ | unsupported _ _ => []

def givenTypes (settings : Settings) (o : Origin) : List Text :=
  (settings.registrations o.memberParams).map Prod.fst

/-- The words of the types that a build looks up for a member, after its parameters were given
    their constant types.  A property whose name cannot be declared is declared without a type. -/
def mentions (settings : Settings) : Origin → List Text
  | signature e _ s =>
    Param.wordsOfAll (settings.retypeSignature e.name s).params ++ ReturnDoc.wordsIn s.returned
  | property item => if isSymbol item.name then DocType.wordsIn item.type else []
  | unsupported _ _ => []

end Origin

namespace Context

/-! ### Which words a run of operations leaves unresolved -/

theorem unresolvedBy_append (ctx : Context) (ops more : List Operation) :
    ctx.unresolvedBy (ops ++ more) = ctx.unresolvedBy ops ++ (ctx.behind ops).unresolvedBy more := by
  induction ops generalizing ctx with
  | nil => rfl
  | cons op rest ih =>
    change ctx.unresolved op.words ++ (ctx.after op).unresolvedBy (rest ++ more) = _
    rw [ih, ← List.append_assoc]
    rfl

theorem unresolvedBy_inferences (ctx : Context) (member : Text) (params : List Param) :
    ctx.unresolvedBy (params.map (.inferConstant member)) = [] := by
  induction params generalizing ctx with
  | nil => rfl
  | cons p rest ih => exact ih (ctx.inferConstant member p).2

/-- Translations change nothing in what resolves, so each of them meets the words of its types as
    if it came first. -/
theorem unresolvedBy_translations (ctx : Context) {ops : List Operation}
    (h : ∀ op ∈ ops, op.isTranslation) :
    ctx.unresolvedBy ops = ctx.unresolved (ops.flatMap Operation.words) := by
  induction ops generalizing ctx with
  | nil => rfl
  | cons op rest ih =>
    obtain ⟨hop, hrest⟩ := List.forall_mem_cons.1 h
    have hafter : (ctx.after op).resolve? = ctx.resolve? := by
      rw [ctx.after_of_isTranslation hop, resolve?_meetAll]
    rw [unresolvedBy, ih _ hrest, List.flatMap_cons]
    simp only [unresolved, hafter, List.filter_append]

theorem resolve?_congr {ctx ctx' : Context} (hsettings : ctx'.settings = ctx.settings)
    (hknown : ctx'.knownClasses = ctx.knownClasses) (hconstants : ctx'.constants = ctx.constants) :
    ctx'.resolve? = ctx.resolve? := by
  obtain ⟨settings, known, constants, unknown, file⟩ := ctx
  obtain ⟨settings', known', constants', unknown', file'⟩ := ctx'
  cases hsettings
  cases hknown
  cases hconstants
  rfl

/-- A simple text resolves to nothing unless it is a constant type, or the settings or the known
    classes resolve it. -/
theorem resolve?_eq_none_iff_of_isSimple {ctx : Context} {name : Text}
    (h : DocType.IsSimple name) :
    ctx.resolve? name = none ↔
      ctx.settings.Unresolvable ctx.knownClasses name ∧ name ∉ ctx.constants.keys := by
  constructor
  · intro hnone
    exact ⟨unresolvable_of_resolve? h hnone, (resolve?_eq_none_iff.1 hnone).2.2.2⟩
  · rintro ⟨hnot, hconstant⟩
    refine resolve?_eq_none_iff.2 ⟨hnot.notBuiltIn, hnot.notExternal, ?_, hconstant⟩
    apply Bool.eq_false_iff.2
    intro hknown
    obtain ⟨other, hother, hsome, heq⟩ := isKnownClass_iff.1 hknown
    obtain ⟨hplain, hqualified⟩ := hnot.notKnown other hother hsome
    exact heq.elim hplain hqualified

/-! ### One member -/

/-- The constant types behind a member are those before it, and those that it gives. -/
theorem constants_behind_operations (ctx : Context) (o : Origin) :
    (ctx.behind (o.operations ctx.settings)).constants =
      ctx.constants.insertAll (ctx.settings.registrations o.memberParams) := by
  cases o with
  | unsupported item label => rfl
  | property item =>
    rw [behind_property]
    exact ((ctx.past_inFile item.file).records (buildProperty_past _ item)).constants
  | signature e owner s =>
    rw [behind_signature]
    exact ((ctx.past_inFile e.file).trans (buildSignature_past _ e owner s)).constants

theorem mem_keys_constants_behind {ctx : Context} {o : Origin} {key : Text} :
    key ∈ (ctx.behind (o.operations ctx.settings)).constants.keys ↔
      key ∈ ctx.constants.keys ∨ key ∈ o.givenTypes ctx.settings := by
  rw [constants_behind_operations, Table.mem_keys_insertAll]
  rfl

theorem isTranslation_of_mem_returnOperations {settings : Settings} {s : Signature}
    {op : Operation} (h : op ∈ Origin.returnOperations settings s) :
    op.isTranslation ∧ ∀ name ∈ op.words, name ∈ ReturnDoc.wordsIn s.returned := by
  unfold Origin.returnOperations at h
  split at h
  · exact nomatch h
  · cases hreturned : s.returned with
    | none =>
      rw [hreturned] at h
      exact nomatch h
    | some r =>
      rw [hreturned] at h
      obtain rfl := List.mem_singleton.1 h
      exact ⟨trivial, fun _ hname => hname⟩

/-- The words of all that is translated for a signature are those that its check goes through. -/
theorem mem_words_translations {settings : Settings} {e : Entry} {s : Signature} {key : Text} :
    key ∈ (.check e (settings.retypeSignature e.name s) ::
        ((settings.retypeSignature e.name s).params.map Operation.translateParam ++
          Origin.returnOperations settings s)).flatMap Operation.words ↔
      key ∈ Param.wordsOfAll (settings.retypeSignature e.name s).params ++
        ReturnDoc.wordsIn s.returned := by
  rw [List.flatMap_cons, List.flatMap_append, List.mem_append]
  constructor
  · rintro (hcheck | hagain)
    · exact hcheck
    · apply List.mem_append.2
      rcases List.mem_append.1 hagain with hparam | hreturn
      · obtain ⟨op, hop, hkey⟩ := List.mem_flatMap.1 hparam
        obtain ⟨p, hp, rfl⟩ := List.mem_map.1 hop
        exact .inl (List.mem_flatMap.2 ⟨p, hp, hkey⟩)
      · obtain ⟨op, hop, hkey⟩ := List.mem_flatMap.1 hreturn
        exact .inr ((isTranslation_of_mem_returnOperations hop).2 key hkey)
  · exact .inl

/-- A member leaves those of the words that it mentions unresolved which resolve to nothing behind
    the constant types that it gives. -/
theorem mem_unresolvedBy_iff {ctx : Context} {o : Origin} {key : Text} :
    key ∈ ctx.unresolvedBy (o.operations ctx.settings) ↔
      key ∈ o.mentions ctx.settings ∧
        (ctx.behind (o.operations ctx.settings)).resolve? key = none := by
  cases o with
  | unsupported item label =>
    constructor
    · intro h
      exact nomatch h
    · rintro ⟨h, -⟩
      exact nomatch h
  | property item =>
    by_cases hname : isSymbol item.name = true
    · have hops : (Origin.property item).operations ctx.settings =
          [.inFile item.file, .translate item.type (some ctx.settings.fallbackType)] := by
        simp only [Origin.operations, if_pos hname]
      have hbehind : (ctx.behind [.inFile item.file,
          .translate item.type (some ctx.settings.fallbackType)]).resolve? = ctx.resolve? := by
        change ((ctx.inFile item.file).translate _ item.type).2.resolve? = _
        rw [translate_snd, resolve?_meetAll]
        rfl
      rw [hops, hbehind, unresolvedBy, unresolvedBy, unresolvedBy, List.append_nil]
      simp only [Origin.mentions, if_pos hname]
      exact mem_unresolved
    · simp [Origin.operations, Origin.mentions, hname, unresolvedBy, Operation.words, unresolved]
  | signature e owner s =>
    -- behind the inferences only words are met, so what resolves there resolves to the end
    let given := ((ctx.inFile e.file).inferConstants e.name s.params).2
    let translations := Operation.check e (ctx.settings.retypeSignature e.name s) ::
      ((ctx.settings.retypeSignature e.name s).params.map .translateParam ++
        Origin.returnOperations ctx.settings s)
    have hops : (Origin.signature e owner s).operations ctx.settings =
        .inFile e.file :: (s.params.map (.inferConstant e.name) ++ translations) := rfl
    have htranslations : ∀ op ∈ translations, op.isTranslation := by
      intro op hop
      rcases List.mem_cons.1 hop with rfl | hop
      · trivial
      · rcases List.mem_append.1 hop with hop | hop
        · obtain ⟨p, -, rfl⟩ := List.mem_map.1 hop
          trivial
        · exact (isTranslation_of_mem_returnOperations hop).1
    have hleft : ctx.unresolvedBy ((Origin.signature e owner s).operations ctx.settings) =
        given.unresolved (translations.flatMap Operation.words) := by
      rw [hops, unresolvedBy]
      change (ctx.inFile e.file).unresolvedBy _ = _
      rw [unresolvedBy_append, unresolvedBy_inferences, behind_inferConstants, List.nil_append,
        unresolvedBy_translations _ htranslations]
    have hresolve : (ctx.behind ((Origin.signature e owner s).operations ctx.settings)).resolve? =
        given.resolve? := by
      apply resolve?_congr
      · rw [settings_behind]
        exact (past_inferConstants (ctx.inFile e.file) e.name s.params).settings.symm
      · rw [knownClasses_behind]
        change _ = ((ctx.inFile e.file).inferConstants e.name s.params).2.knownClasses
        rw [inferConstants_eq]
        rfl
      · rw [constants_behind_operations]
        exact (past_inferConstants (ctx.inFile e.file) e.name s.params).constants.symm
    rw [hleft, hresolve, mem_unresolved, mem_words_translations]
    rfl

theorem isSimple_of_mem_mentions {settings : Settings} {o : Origin} {key : Text}
    (h : key ∈ o.mentions settings) : DocType.IsSimple key := by
  cases o with
  | unsupported => exact nomatch h
  | property item =>
    simp only [Origin.mentions] at h
    split at h
    · exact DocType.isSimple_of_mem_wordsIn h
    · exact nomatch h
  | signature e owner s =>
    have hcheck : key ∈ (Operation.check e (settings.retypeSignature e.name s)).words := h
    exact Operation.isSimple_of_mem_words hcheck

/-! ### Members one after the other -/

theorem mem_keys_constants_beyond {ctx : Context} {origins : List Origin} {key : Text} :
    key ∈ (ctx.beyond origins).constants.keys ↔
      key ∈ ctx.constants.keys ∨ ∃ o ∈ origins, key ∈ o.givenTypes ctx.settings := by
  induction origins generalizing ctx with
  | nil => simp [beyond]
  | cons o rest ih =>
    rw [beyond, ih, mem_keys_constants_behind, settings_behind, List.exists_mem_cons_iff, or_assoc]

/-- A word is left unresolved by the members that mention it up to the first one that gives it. -/
theorem mem_unresolved_constructions_iff {ctx : Context} {origins : List Origin} {key : Text} :
    key ∈ (ctx.constructions origins).flatMap Construction.unresolved ↔
      ctx.settings.Unresolvable ctx.knownClasses key ∧ key ∉ ctx.constants.keys ∧
        ∃ before o after, origins = before ++ o :: after ∧ key ∈ o.mentions ctx.settings ∧
          ∀ other ∈ before ++ [o], key ∉ other.givenTypes ctx.settings := by
  -- the context is general: the first member leaves the types it gives to those behind it
  induction origins generalizing ctx with
  | nil => simp [constructions]
  | cons o rest ih =>
    rw [constructions, List.flatMap_cons, List.mem_append, mem_unresolvedBy_iff, ih,
      mem_keys_constants_behind, settings_behind, knownClasses_behind]
    constructor
    · rintro (⟨hmention, hnone⟩ | ⟨hnot, hconstant, before, later, after, rfl, hmention, hgiven⟩)
      · rw [resolve?_eq_none_iff_of_isSimple (isSimple_of_mem_mentions hmention),
          settings_behind, knownClasses_behind, mem_keys_constants_behind, not_or] at hnone
        refine ⟨hnone.1, hnone.2.1, [], o, rest, rfl, hmention, ?_⟩
        intro other hother
        obtain rfl := List.mem_singleton.1 hother
        exact hnone.2.2
      · rw [not_or] at hconstant
        refine ⟨hnot, hconstant.1, o :: before, later, after, rfl, hmention, ?_⟩
        exact List.forall_mem_cons.2 ⟨hconstant.2, hgiven⟩
    · rintro ⟨hnot, hconstant, before, later, after, heq, hmention, hgiven⟩
      cases before with
      | nil =>
        obtain ⟨rfl, rfl⟩ := List.cons.inj heq
        left
        refine ⟨hmention, ?_⟩
        rw [resolve?_eq_none_iff_of_isSimple (isSimple_of_mem_mentions hmention),
          settings_behind, knownClasses_behind, mem_keys_constants_behind, not_or]
        exact ⟨hnot, hconstant, hgiven o (by simp)⟩
      | cons first before =>
        obtain ⟨rfl, rfl⟩ := List.cons.inj heq
        obtain ⟨hfirst, hmore⟩ := List.forall_mem_cons.1 hgiven
        right
        exact ⟨hnot, not_or.2 ⟨hconstant, hfirst⟩, before, later, after, rfl, hmention, hmore⟩

end Context

/-! ### Whole builds -/

/-- A member mentions a type that nothing resolves when it is looked up, and one behind it is the
    first that gives the type to a parameter. -/
def Schema.MentionsEarly (schema : Schema) (settings : Settings) (key : Text) : Prop :=
  ∃ before o after, schema.origins settings = before ++ o :: after ∧
    key ∈ o.mentions settings ∧ settings.Unresolvable schema.classNames key ∧
    (∀ other ∈ before ++ [o], key ∉ other.givenTypes settings) ∧
    ∃ later ∈ after, key ∈ later.givenTypes settings

namespace Build

variable {settings : Settings} {schema : Schema} {model : Model}

/-- **A constant type is reported missing exactly if it is mentioned too early.**  The members of
    a model are built one after the other.  A type stands in both of its registries exactly if some
    member mentions it before the first one that gives it to a parameter, and neither the settings
    nor the classes resolve it. -/
theorem early_mention_iff (h : (run settings schema).result = .ok model) :
    (∀ before o after, schema.origins settings = before ++ o :: after →
      model.members[before.length]? =
        some (o.member ((Context.start settings schema.classNames).beyond before))) ∧
    ∀ key, key ∈ model.unknownTypes.keys ∧ key ∈ model.constants.keys ↔
      schema.MentionsEarly settings key := by
  obtain ⟨hmembers, hconstants, hunknown⟩ := makes_of_run h
  constructor
  · intro before o after horigins
    rw [← hmembers, Schema.constructions, horigins]
    exact Context.getElem?_constructions _ before after o
  · intro key
    have hkeys : key ∈ model.unknownTypes.keys ↔
        key ∈ (schema.constructions settings).flatMap Construction.unresolved := by
      rw [← hunknown, Context.unknownTypes_beyond, Table.keys_insertNewAll, List.mem_eraseDups,
        Construction.keys_records]
      exact List.mem_append.trans (or_iff_right List.not_mem_nil)
    have hgiven : key ∈ model.constants.keys ↔
        ∃ o ∈ schema.origins settings, key ∈ o.givenTypes settings := by
      rw [← hconstants, Context.mem_keys_constants_beyond]
      exact or_iff_right List.not_mem_nil
    rw [hkeys, hgiven, Schema.constructions, Context.mem_unresolved_constructions_iff]
    constructor
    · rintro ⟨⟨hnot, -, before, o, after, horigins, hmention, hfirst⟩, later, hlater, hlaterGives⟩
      refine ⟨before, o, after, horigins, hmention, hnot, hfirst, later, ?_, hlaterGives⟩
      -- no member up to the mention gives the type, so the one that does comes behind it
      have hcut : later ∈ before ++ [o] ++ after := by
        rwa [List.append_assoc, List.singleton_append, ← horigins]
      rcases List.mem_append.1 hcut with hearly | hafter
      · exact absurd hlaterGives (hfirst later hearly)
      · exact hafter
    · rintro ⟨before, o, after, horigins, hmention, hnot, hfirst, later, hlater, hlaterGives⟩
      refine ⟨⟨hnot, List.not_mem_nil, before, o, after, horigins, hmention, hfirst⟩,
        later, ?_, hlaterGives⟩
      rw [horigins]
      exact List.mem_append_right before (List.mem_cons_of_mem o hlater)

/-! ### A type and its mention, in both orders -/

def modeItem : ItemDoc :=
  ⟨⟨⟨[], none, false, false, none⟩, "src/state.js", [], false, none, "mode"⟩, "p5", .property,
    some "RECT_MODE", none, false⟩

def rectItem : ItemDoc :=
  ⟨⟨⟨[⟨"mode", some "Constant", false, "either CORNER or CENTER"⟩], none, false, false, none⟩,
    "src/attributes.js", [], false, none, "rectMode"⟩, "p5", .method, none, none, false⟩

def modeSchema (items : List ItemDoc) : Schema :=
  ⟨.ofList [("p5", ⟨⟨⟨[], none, false, false, none⟩, [], [], false, none, "p5"⟩, none⟩)], items⟩

def rectMode : Text := "RECT_MODE"

theorem build_modeSchema_early :
    ((run .standard (modeSchema [modeItem, rectItem])).result.map
      fun m => (m.unknownTypes.keys, m.constants.keys)).toOption =
        some ([rectMode], [rectMode]) := by decide +kernel

theorem build_modeSchema_late :
    ((run .standard (modeSchema [rectItem, modeItem])).result.map
      fun m => m.constants.keys).toOption = some [rectMode] := by decide +kernel

/-- Mentioned before it is given, the type is in both registries; mentioned behind, it is not. -/
theorem early_mention_rectMode :
    (∃ model, (run .standard (modeSchema [modeItem, rectItem])).result = .ok model ∧
      rectMode ∈ model.unknownTypes.keys ∧ rectMode ∈ model.constants.keys) ∧
    ∃ model, (run .standard (modeSchema [rectItem, modeItem])).result = .ok model ∧
      rectMode ∈ model.constants.keys ∧ rectMode ∉ model.unknownTypes.keys := by
  have hgiven : rectMode ∈ (Origin.signature rectItem.toEntry "p5" rectItem.toSignature).givenTypes
      .standard := by decide +kernel
  constructor
  · obtain ⟨model, hmodel, -⟩ := exists_ok_of_map build_modeSchema_early
    have hmention : rectMode ∈ (Origin.property modeItem).mentions .standard := by decide +kernel
    have hnone : (Context.start .standard ["p5"]).resolve? rectMode = none := by decide +kernel
    have hnot := Context.unresolvable_of_resolve? (Context.isSimple_of_mem_mentions hmention) hnone
    exact ⟨model, hmodel, ((early_mention_iff hmodel).2 rectMode).2
      ⟨[], .property modeItem, [.signature rectItem.toEntry "p5" rectItem.toSignature], rfl,
        hmention, hnot, by decide +kernel, _, List.mem_singleton_self _, hgiven⟩⟩
  · obtain ⟨model, hmodel, hconstants⟩ := exists_ok_of_map build_modeSchema_late
    have hmem : rectMode ∈ model.constants.keys := by
      rw [hconstants]
      exact List.mem_singleton_self _
    refine ⟨model, hmodel, hmem, ?_⟩
    intro hunknown
    -- the first member gives the type, so no member comes before it
    obtain ⟨before, o, after, horigins, -, -, hfirst, -⟩ :=
      ((early_mention_iff hmodel).2 rectMode).1 ⟨hunknown, hmem⟩
    cases before with
    | nil =>
      obtain ⟨rfl, -⟩ := List.cons.inj horigins
      exact hfirst _ List.mem_cons_self hgiven
    | cons first before =>
      obtain ⟨rfl, -⟩ := List.cons.inj horigins
      exact hfirst _ List.mem_cons_self hgiven

/-- A constant type that the model declares is reported missing. -/
theorem constant_reported_missing :
    ∃ model, (run .standard (modeSchema [modeItem, rectItem])).result = .ok model ∧
      ∃ key ∈ model.unknownTypes.keys, key ∈ model.constants.keys := by
  obtain ⟨model, hmodel, hkeys⟩ := exists_ok_of_map build_modeSchema_early
  obtain ⟨hunknown, hconstants⟩ := Prod.mk.inj hkeys
  refine ⟨model, hmodel, rectMode, ?_, ?_⟩
  · rw [hunknown]
    exact List.mem_singleton_self _
  · rw [hconstants]
    exact List.mem_singleton_self _

end Build

end Ambient
