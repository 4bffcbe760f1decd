/-
  Ambient/Proofs/Attribution.lean
  ===============================
  **Which member an unknown type is attributed to.**

  A build makes one member after the other, and what it does with its context for each of them is
  a short run of operations (`Origin.operations`): it turns to the file of the member, infers the
  constant types of the parameters, checks the signature, and translates its types once more to
  declare them.  Put one after the other, the runs of all members are what the build does with its
  context (`Makes`), although it walks through lists of documentation that change on the way.

  So the table of unknown types behind a build is filled member by member
  (`unknownTypes_beyond`): with the words that nothing resolved when they were translated, under
  the file of the member.  Since a table keeps what came first, each word stays with the first
  member that met it unresolved (`Build.unknownTypes_attributed`).
-/
import Ambient.Proofs.BuildWalk
import Ambient.Proofs.Registries
import Mathlib.Data.List.Induction

namespace Ambient

/-! ### What members are built from -/

/-- What a member is built from: one signature of an entry, with the name that a chainable one
    returns, or an item that is no method. -/
inductive Origin where
  | signature (e : Entry) (owner : Text) (s : Signature)
  | property (item : ItemDoc)
  | unsupported (item : ItemDoc) (label : Text)

namespace Origin

def file : Origin → Text
  | signature e _ _ => e.file
  | property item | unsupported item _ => item.file

def member (ctx : Context) : Origin → Member
  | signature e owner s => .method ((ctx.inFile e.file).buildSignature e owner s).1
  | property item => .property ((ctx.inFile item.file).buildProperty item).1
  | unsupported item label => .unsupported ⟨item.name, label, item.file⟩

theorem file_member (ctx : Context) (o : Origin) : (o.member ctx).file = o.file := by
  cases o with
  | signature | unsupported => rfl
  | property item =>
    simp only [member, Context.buildProperty]
    split <;> rfl

def returnOperations (settings : Settings) (s : Signature) : List Operation :=
  if s.isChainable then []
  else
    match s.returned with
    | some r => [.translate r.type (some settings.fallbackType)]
    | none => []

/-- What a build does with its context for a member.  The check and the declaration of a signature
    are about its parameters with their constant types; a property whose name cannot be declared
    is declared without a type. -/
def operations (settings : Settings) : Origin → List Operation
  | signature e _ s =>
    .inFile e.file :: (s.params.map (.inferConstant e.name) ++
      .check e (settings.retypeSignature e.name s) ::
        ((settings.retypeSignature e.name s).params.map .translateParam ++
          returnOperations settings s))
  | property item =>
    .inFile item.file ::
      if isSymbol item.name then [.translate item.type (some settings.fallbackType)] else []
  | unsupported item _ => [.inFile item.file]

end Origin

def Entry.origins (e : Entry) (owner : Text) : List Origin :=
  e.signatures.map (.signature e owner)

def ItemDoc.origins (owner : Text) (item : ItemDoc) : List Origin :=
  match item.kind with
  | .method => item.toEntry.origins owner
  | .property => [.property item]
  | .other label => [.unsupported item label]

def Schema.classOrigins (className : Text) : Option ClassDoc × List ItemDoc → List Origin
  | (none, _) => []
  | (some info, items) =>
    info.toEntry.origins info.name ++ items.flatMap (ItemDoc.origins className)

def Schema.origins (settings : Settings) (schema : Schema) : List Origin :=
  match settings.partition schema.classNames with
  | .error _ => []
  | .ok (aliases, classes) =>
    (aliases.flatMap fun name =>
        (schema.itemsFor name).flatMap (ItemDoc.origins settings.rootName)) ++
      classes.flatMap fun name => Schema.classOrigins name (schema.about name)

/-- A member as a build makes it, with the words of its types that nothing resolved when they were
    translated. -/
structure Construction where
  member : Member
  unresolved : List Text

namespace Context

/-- The words that some operations meet unresolved, each where it is translated. -/
def unresolvedBy (ctx : Context) : List Operation → List Text
  | [] => []
  | op :: rest => ctx.unresolved op.words ++ (ctx.after op).unresolvedBy rest

def beyond (ctx : Context) : List Origin → Context
  | [] => ctx
  | o :: rest => (ctx.behind (o.operations ctx.settings)).beyond rest

def constructions (ctx : Context) : List Origin → List Construction
  | [] => []
  | o :: rest =>
    ⟨o.member ctx, ctx.unresolvedBy (o.operations ctx.settings)⟩ ::
      (ctx.behind (o.operations ctx.settings)).constructions rest

theorem beyond_append (ctx : Context) (origins more : List Origin) :
    ctx.beyond (origins ++ more) = (ctx.beyond origins).beyond more := by
  induction origins generalizing ctx with
  | nil => rfl
  | cons o rest ih => exact ih _

theorem constructions_append (ctx : Context) (origins more : List Origin) :
    ctx.constructions (origins ++ more) =
      ctx.constructions origins ++ (ctx.beyond origins).constructions more := by
  induction origins generalizing ctx with
  | nil => rfl
  | cons o rest ih =>
    simp only [List.cons_append, constructions, beyond, ih]

theorem beyond_eq_behind (ctx : Context) (origins : List Origin) :
    ctx.beyond origins = ctx.behind (origins.flatMap (Origin.operations ctx.settings)) := by
  induction origins generalizing ctx with
  | nil => rfl
  | cons o rest ih => rw [beyond, ih, List.flatMap_cons, behind_append, settings_behind]

/-- Each member is built in the context behind those before it. -/
theorem getElem?_constructions (ctx : Context) (before after : List Origin) (o : Origin) :
    ((ctx.constructions (before ++ o :: after)).map Construction.member)[before.length]? =
      some (o.member (ctx.beyond before)) := by
  induction before generalizing ctx with
  | nil => rfl
  | cons first rest ih => exact ih _

theorem exists_construction_iff {ctx : Context} {origins : List Origin} {m : Member} :
    m ∈ (ctx.constructions origins).map Construction.member ↔
      ∃ before o after, origins = before ++ o :: after ∧ m = o.member (ctx.beyond before) := by
  induction origins generalizing ctx with
  | nil => simp [constructions]
  | cons first rest ih =>
    rw [constructions, List.map_cons, List.mem_cons, ih]
    constructor
    · rintro (rfl | ⟨before, o, after, rfl, rfl⟩)
      · exact ⟨[], first, rest, rfl, rfl⟩
      · exact ⟨first :: before, o, after, rfl, rfl⟩
    · rintro ⟨before, o, after, heq, rfl⟩
      cases before with
      | nil =>
        obtain ⟨rfl, rfl⟩ := List.cons.inj heq
        exact .inl rfl
      | cons other before =>
        obtain ⟨rfl, rfl⟩ := List.cons.inj heq
        exact .inr ⟨before, o, after, rfl, rfl⟩

theorem settings_beyond (ctx : Context) (origins : List Origin) :
    (ctx.beyond origins).settings = ctx.settings := by
  rw [beyond_eq_behind, settings_behind]

/-! ### The operations of one member -/

theorem behind_inferConstants (ctx : Context) (member : Text) (params : List Param) :
    ctx.behind (params.map (.inferConstant member)) = (ctx.inferConstants member params).2 := by
  induction params generalizing ctx with
  | nil => rfl
  | cons p rest ih => exact ih (ctx.inferConstant member p).2

theorem behind_translateParams (ctx : Context) (params : List Param) :
    ctx.behind (params.map .translateParam) = (ctx.translateParams params).2 := by
  induction params generalizing ctx with
  | nil => rfl
  | cons p rest ih => exact ih (ctx.translateParam p).2

theorem behind_returnOperations {ctx : Context} {settings : Settings}
    (h : ctx.settings = settings) (s : Signature) (owner : Text) :
    ctx.behind (Origin.returnOperations settings s) = (ctx.returnType s owner).2 := by
  subst h
  unfold Origin.returnOperations returnType
  split
  · rfl
  · cases s.returned <;> rfl

/-- What a build does for a signature with the context that it is in, are its operations. -/
theorem behind_signature (ctx : Context) (e : Entry) (owner : Text) (s : Signature) :
    ctx.behind ((Origin.signature e owner s).operations ctx.settings) =
      ((ctx.inFile e.file).buildSignature e owner s).2.2 := by
  -- the context is named behind each pass, so that the next one is seen to begin there
  have hinfer := inferConstants_eq (ctx.inFile e.file) e.name s.params
  generalize hretyped : ctx.settings.retypeSignature e.name s = retyped
  have hparams : (ctx.inFile e.file).inferConstants e.name s.params =
      (retyped.params, ((ctx.inFile e.file).inferConstants e.name s.params).2) := by
    rw [← hretyped, hinfer]
    rfl
  generalize hinferred : ((ctx.inFile e.file).inferConstants e.name s.params).2 = inferred
    at hparams
  have hsame : { s with params := retyped.params } = retyped := by
    rw [← hretyped]
    rfl
  have hsettings : ((inferred.objections e retyped).2.translateParams retyped.params).2.settings =
      ctx.settings := by
    rw [translateParams_snd, settings_meetAll, objections_snd, settings_meetAll, ← hinferred,
      hinfer]
    rfl
  change (ctx.inFile e.file).behind (s.params.map (.inferConstant e.name) ++
    .check e (ctx.settings.retypeSignature e.name s) ::
      ((ctx.settings.retypeSignature e.name s).params.map .translateParam ++
        Origin.returnOperations ctx.settings s)) = _
  rw [behind_append, behind_inferConstants, hretyped, hinferred]
  change (inferred.objections e retyped).2.behind _ = _
  rw [behind_append, behind_translateParams, behind_returnOperations hsettings s owner]
  simp only [buildSignature, hparams, hsame]
  rw [← hretyped]
  rfl

theorem behind_property (ctx : Context) (item : ItemDoc) :
    ctx.behind ((Origin.property item).operations ctx.settings) =
      ((ctx.inFile item.file).buildProperty item).2 := by
  change (ctx.inFile item.file).behind _ = _
  unfold buildProperty
  split <;> rfl

/-! ### The members of a walk -/

/-- Whether a step of a build makes some members, in the order of what they are built from, and
    leaves the context behind them. -/
structure Makes (ctx : Context) (origins : List Origin) (members : List Member)
    (ctx' : Context) : Prop where
  members : (ctx.constructions origins).map Construction.member = members
  context : ctx.beyond origins = ctx'

theorem makes_nil (ctx : Context) : ctx.Makes [] [] ctx := ⟨rfl, rfl⟩

theorem Makes.append {ctx mid ctx' : Context} {origins more : List Origin}
    {members later : List Member} (h : ctx.Makes origins members mid)
    (h' : mid.Makes more later ctx') : ctx.Makes (origins ++ more) (members ++ later) ctx' := by
  constructor
  · rw [constructions_append, List.map_append, h.members, h.context, h'.members]
  · rw [beyond_append, h.context, h'.context]

theorem makes_one {ctx ctx' : Context} {o : Origin}
    (h : ctx.behind (o.operations ctx.settings) = ctx') : ctx.Makes [o] [o.member ctx] ctx' :=
  ⟨rfl, h⟩

/-- A step may turn to the file of its first member beforehand. -/
theorem Makes.turned {ctx ctx' : Context} {o : Origin} {rest : List Origin}
    {members : List Member} (h : (ctx.inFile o.file).Makes (o :: rest) members ctx') :
    ctx.Makes (o :: rest) members ctx' := by
  cases o <;> exact ⟨h.members, h.context⟩

theorem makes_signature (ctx : Context) (e : Entry) (owner : Text) (s : Signature) :
    ctx.Makes [.signature e owner s]
      [.method ((ctx.inFile e.file).buildSignature e owner s).1]
      ((ctx.inFile e.file).buildSignature e owner s).2.2 :=
  makes_one (ctx.behind_signature e owner s)

theorem sourceFile_returnType (ctx : Context) (s : Signature) (owner : Text) :
    (ctx.returnType s owner).2.sourceFile = ctx.sourceFile := by
  unfold returnType
  split
  · rfl
  · cases s.returned with
    | none => rfl
    | some r => rw [translateFully_snd, sourceFile_meetAll]

theorem sourceFile_buildSignature (ctx : Context) (e : Entry) (owner : Text) (s : Signature) :
    (ctx.buildSignature e owner s).2.2.sourceFile = ctx.sourceFile := by
  simp only [buildSignature, inferConstants_eq, sourceFile_returnType, translateParams_snd,
    objections_snd, sourceFile_meetAll]

theorem makes_signatures (ctx : Context) {e : Entry} (h : ctx.sourceFile = e.file) (owner : Text)
    (signatures : List Signature) :
    ctx.Makes (signatures.map (.signature e owner))
      ((ctx.buildSignatures e owner signatures).1.map .method)
      (ctx.buildSignatures e owner signatures).2.2 := by
  induction signatures generalizing ctx with
  | nil => exact ctx.makes_nil
  | cons s rest ih =>
    have hturned : ctx.inFile e.file = ctx := by rw [← h]; rfl
    have hone := ctx.makes_signature e owner s
    rw [hturned] at hone
    exact hone.append (ih _ ((ctx.sourceFile_buildSignature e owner s).trans h))

theorem makes_method (ctx : Context) (e : Entry) (owner : Text) :
    ctx.Makes (e.origins owner) (((ctx.inFile e.file).buildMethod e owner).1.map .method)
      ((ctx.inFile e.file).buildMethod e owner).2.2 := by
  have hturned := (ctx.inFile e.file).makes_signatures rfl owner e.signatures
  obtain ⟨s, rest, hcons⟩ := List.exists_cons_of_ne_nil e.signatures_ne_nil
  unfold Entry.origins buildMethod
  rw [hcons] at hturned ⊢
  exact hturned.turned

theorem makes_item (ctx : Context) (owner : Text) (item : ItemDoc) :
    ctx.Makes (item.origins owner) (ctx.buildItem owner item).1
      (ctx.buildItem owner item).2.2 := by
  unfold ItemDoc.origins buildItem
  cases item.kind with
  | method => exact ctx.makes_method item.toEntry owner
  | property => exact makes_one (ctx.behind_property item)
  | other label => exact makes_one rfl

/-- The items of other classes make no members. -/
theorem makes_items (ctx : Context) (className owner : Text) (items : List ItemDoc) :
    ctx.Makes ((items.filter (Schema.belongs className)).flatMap (ItemDoc.origins owner))
      (ctx.buildItems className owner items).1
      (ctx.buildItems className owner items).2.2 := by
  induction items generalizing ctx with
  | nil => exact ctx.makes_nil
  | cons item rest ih =>
    by_cases h : Schema.belongs className item = true
    · rw [buildItems_cons_pos h, List.filter_cons_of_pos h, List.flatMap_cons]
      exact (ctx.makes_item owner item).append (ih _)
    · rw [buildItems_cons_neg h, List.filter_cons_of_neg h]
      exact ih ctx

end Context

namespace Walk

/-- Whether a walk comes to another by making members, which come behind those it has made. -/
def Passes (w : Walk) (origins : List Origin) (w' : Walk) : Prop :=
  ∃ members, w.context.Makes origins members w'.context ∧
    w'.model.members = w.model.members ++ members

theorem passes_nil (w : Walk) : w.Passes [] w :=
  ⟨[], w.context.makes_nil, (List.append_nil _).symm⟩

theorem Passes.append {w mid w' : Walk} {origins more : List Origin} (h : w.Passes origins mid)
    (h' : mid.Passes more w') : w.Passes (origins ++ more) w' := by
  obtain ⟨members, hmakes, hmodel⟩ := h
  obtain ⟨later, hmakes', hmodel'⟩ := h'
  refine ⟨members ++ later, hmakes.append hmakes', ?_⟩
  rw [hmodel', hmodel, List.append_assoc]

theorem classes_passAlias (w : Walk) (className : Text) :
    (w.passAlias className).classes = w.classes := rfl

theorem passAlias_passes {w : Walk} (h : w.classes = []) (className : Text) :
    w.Passes ((w.schema.itemsFor className).flatMap
      (ItemDoc.origins w.context.settings.rootName)) (w.passAlias className) := by
  refine ⟨_, w.context.makes_items className w.context.settings.rootName w.schema.items, ?_⟩
  simp only [model, Model.members, classes_passAlias, h, List.flatMap_nil, List.append_nil]
  simp only [passAlias, items, List.flatMap_append, List.flatMap_cons, List.flatMap_nil,
    List.append_nil]

theorem passClass_passes {w : Walk} {className : Text} {info : ClassDoc}
    (h : w.schema.classes.get? className = some info) :
    w.Passes (Schema.classOrigins className (w.schema.about className))
      (w.passClass className info) := by
  have hmethod := w.context.makes_method info.toEntry info.name
  have hitems := hmethod.append (Context.makes_items _ className className w.schema.items)
  simp only [Schema.about, h, Schema.classOrigins]
  refine ⟨_, hitems, ?_⟩
  simp only [model, Model.members, passClass, items, List.flatMap_append, List.flatMap_cons,
    List.flatMap_nil, List.append_nil, List.append_assoc]

theorem passAliases_passes {w : Walk} (h : w.classes = []) {names : List Text}
    (hn : names.Nodup) :
    w.Passes (names.flatMap fun name => (w.schema.itemsFor name).flatMap
      (ItemDoc.origins w.context.settings.rootName)) (w.passAliases names) := by
  induction names generalizing w with
  | nil => exact w.passes_nil
  | cons className rest ih =>
    obtain ⟨hnot, hrest⟩ := List.nodup_cons.1 hn
    have hmore := ih (w := w.passAlias className) h hrest
    have hlater : (rest.flatMap fun name => ((w.passAlias className).schema.itemsFor name).flatMap
          (ItemDoc.origins (w.passAlias className).context.settings.rootName)) =
        rest.flatMap fun name => (w.schema.itemsFor name).flatMap
          (ItemDoc.origins w.context.settings.rootName) := by
      apply List.flatMap_congr
      intro name hname
      have hne : name ≠ className := by
        rintro rfl
        exact hnot hname
      have hitems : (w.passAlias className).schema.itemsFor name = w.schema.itemsFor name :=
        congrArg Prod.snd (w.about_passAlias_of_ne hne)
      rw [hitems, (w.passAlias_past className).settings]
    rw [hlater] at hmore
    exact (passAlias_passes h className).append hmore

theorem passClasses_passes {w : Walk} {names : List Text} (hn : names.Nodup)
    (h : (w.passClasses names).1 = none) :
    w.Passes (names.flatMap fun name => Schema.classOrigins name (w.schema.about name))
      (w.passClasses names).2 := by
  induction names generalizing w with
  | nil => exact w.passes_nil
  | cons className rest ih =>
    obtain ⟨hnot, hrest⟩ := List.nodup_cons.1 hn
    cases hinfo : w.schema.classes.get? className with
    | none =>
      have hnil : Schema.classOrigins className (w.schema.about className) = [] := by
        simp only [Schema.about, hinfo, Schema.classOrigins]
      rw [passClasses_cons_none hinfo] at h ⊢
      rw [List.flatMap_cons, hnil, List.nil_append]
      exact ih hrest h
    | some info =>
      have hc := ((passClasses_eq_none_iff w _).1 h) className List.mem_cons_self info hinfo
      have hlater : (rest.flatMap fun name => Schema.classOrigins name
            ((w.passClass className info).schema.about name)) =
          rest.flatMap fun name => Schema.classOrigins name (w.schema.about name) := by
        apply List.flatMap_congr
        intro name hname
        rw [about_passClass_of_ne hinfo]
        rintro rfl
        exact hnot hname
      rw [passClasses_cons_some hinfo hc] at h ⊢
      have hmore := ih hrest h
      rw [hlater] at hmore
      exact (passClass_passes hinfo).append hmore

theorem through_passes {settings : Settings} {schema : Schema} {aliases classes : List Text}
    (hparts : settings.Parts schema aliases classes)
    (hdone : (through settings schema aliases classes).1 = none) :
    (start settings schema).Passes (schema.origins settings)
      (through settings schema aliases classes).2 := by
  have haliases := passAliases_passes (w := start settings schema) rfl hparts.aliases_nodup
  have hclasses := passClasses_passes hparts.classes_nodup hdone
  have hdocumented : (classes.flatMap fun name => Schema.classOrigins name
        (((start settings schema).passAliases aliases).schema.about name)) =
      classes.flatMap fun name => Schema.classOrigins name (schema.about name) := by
    apply List.flatMap_congr
    intro name hname
    rw [about_passAliases_of_notMem _ hparts.aliases_nodup (hparts.disjoint name hname)]
    rfl
  rw [hdocumented] at hclasses
  have hall := haliases.append hclasses
  simp only [Schema.origins, hparts.partition]
  exact hall

end Walk

/-! ### The unknown types of one member -/

def Operation.StaysInFile : Operation → Prop
  | .inFile _ => False
  | .translate _ _ | .translateParam _ | .inferConstant _ _ | .check _ _
  | .registerConstant _ _ => True

/-- A build turns to the file of a member first, and then stays in it. -/
theorem Origin.operations_eq (settings : Settings) (o : Origin) :
    ∃ ops, o.operations settings = .inFile o.file :: ops ∧ ∀ op ∈ ops, op.StaysInFile := by
  cases o with
  | unsupported item label => exact ⟨[], rfl, fun _ h => nomatch h⟩
  | property item =>
    refine ⟨_, rfl, ?_⟩
    intro op hop
    split at hop
    · obtain rfl := List.mem_singleton.1 hop
      trivial
    · exact nomatch hop
  | signature e owner s =>
    refine ⟨_, rfl, ?_⟩
    intro op hop
    -- the inferences, the check, the parameters, and the return type
    rcases List.mem_append.1 hop with hop | hop
    · obtain ⟨p, -, rfl⟩ := List.mem_map.1 hop
      trivial
    rcases List.mem_cons.1 hop with rfl | hop
    · trivial
    rcases List.mem_append.1 hop with hop | hop
    · obtain ⟨p, -, rfl⟩ := List.mem_map.1 hop
      trivial
    · unfold returnOperations at hop
      split at hop
      · exact nomatch hop
      · split at hop
        · obtain rfl := List.mem_singleton.1 hop
          trivial
        · exact nomatch hop

namespace Context

/-- To infer a constant type changes the constant types and nothing else. -/
theorem inferConstant_snd (ctx : Context) (member : Text) (p : Param) :
    ∃ constants, (ctx.inferConstant member p).2 = { ctx with constants := constants } := by
  unfold inferConstant
  split
  · exact ⟨_, rfl⟩
  · exact ⟨ctx.constants, rfl⟩

theorem unknownTypes_after (ctx : Context) (op : Operation) :
    (ctx.after op).unknownTypes = ctx.unknownTypes.insertNewAll
      ((ctx.unresolved op.words).map fun name => (name, ctx.sourceFile)) := by
  have hwords : op.isTranslation → (ctx.after op).unknownTypes = ctx.unknownTypes.insertNewAll
      ((ctx.unresolved op.words).map fun name => (name, ctx.sourceFile)) := by
    intro h
    rw [ctx.after_of_isTranslation h, unknownTypes_meetAll]
  cases op with
  | inFile | registerConstant => rfl
  | translate | translateParam | check => exact hwords trivial
  | inferConstant member p =>
    obtain ⟨constants, h⟩ := ctx.inferConstant_snd member p
    change (ctx.inferConstant member p).2.unknownTypes = ctx.unknownTypes
    rw [h]

theorem sourceFile_after (ctx : Context) {op : Operation} (h : op.StaysInFile) :
    (ctx.after op).sourceFile = ctx.sourceFile := by
  have hwords : op.isTranslation → (ctx.after op).sourceFile = ctx.sourceFile := by
    intro h
    rw [ctx.after_of_isTranslation h, sourceFile_meetAll]
  cases op with
  | inFile => exact h.elim
  | registerConstant => rfl
  | translate | translateParam | check => exact hwords trivial
  | inferConstant member p =>
    obtain ⟨constants, h⟩ := ctx.inferConstant_snd member p
    change (ctx.inferConstant member p).2.sourceFile = ctx.sourceFile
    rw [h]

theorem unknownTypes_behind (ctx : Context) {ops : List Operation}
    (h : ∀ op ∈ ops, op.StaysInFile) :
    (ctx.behind ops).unknownTypes = ctx.unknownTypes.insertNewAll
      ((ctx.unresolvedBy ops).map fun name => (name, ctx.sourceFile)) := by
  induction ops generalizing ctx with
  | nil => rfl
  | cons op rest ih =>
    obtain ⟨hop, hrest⟩ := List.forall_mem_cons.1 h
    change ((ctx.after op).behind rest).unknownTypes = _
    rw [ih _ hrest, unknownTypes_after, ctx.sourceFile_after hop, unresolvedBy, List.map_append,
      Table.insertNewAll_append]

end Context

/-! ### The unknown types of a build -/

def Construction.records (c : Construction) : List (Text × Text) :=
  c.unresolved.map fun name => (name, c.member.file)

namespace Context

/-- Each member records the words that it meets unresolved, under its file. -/
theorem unknownTypes_beyond (ctx : Context) (origins : List Origin) :
    (ctx.beyond origins).unknownTypes = ctx.unknownTypes.insertNewAll
      ((ctx.constructions origins).flatMap Construction.records) := by
  induction origins generalizing ctx with
  | nil => rfl
  | cons o rest ih =>
    obtain ⟨ops, hops, hstay⟩ := o.operations_eq ctx.settings
    have hhere : (ctx.behind (o.operations ctx.settings)).unknownTypes =
        ctx.unknownTypes.insertNewAll
          (Construction.records ⟨o.member ctx, ctx.unresolvedBy (o.operations ctx.settings)⟩) := by
      rw [hops]
      simp only [Construction.records, o.file_member]
      exact (ctx.inFile o.file).unknownTypes_behind hstay
    rw [beyond, ih, hhere, constructions, List.flatMap_cons, Table.insertNewAll_append]

end Context

namespace Construction

/-- Under each word stands the file of the first member that met it unresolved. -/
theorem lookup_records (cs : List Construction) (key : Text) :
    (cs.flatMap records).lookup key =
      (cs.find? fun c => key ∈ c.unresolved).map fun c => c.member.file := by
  induction cs with
  | nil => rfl
  | cons c rest ih =>
    rw [List.flatMap_cons, List.lookup_append, records, lookup_map_entry, ih, List.find?_cons]
    by_cases h : key ∈ c.unresolved <;> simp [h]

theorem keys_records (cs : List Construction) :
    (cs.flatMap records).map Prod.fst = cs.flatMap unresolved := by
  simp only [List.map_flatMap, records, List.map_map, Function.comp_def, List.map_id']

/-- The place of the first member that met a word unresolved. -/
def firstMeeting (cs : List Construction) (key : Text) : Nat :=
  cs.findIdx fun c => key ∈ c.unresolved

theorem firstMeeting_lt_iff {cs : List Construction} {key : Text} :
    firstMeeting cs key < cs.length ↔ key ∈ cs.flatMap unresolved := by
  simp only [firstMeeting, List.findIdx_lt_length, decide_eq_true_eq, List.mem_flatMap]

theorem firstMeeting_concat (cs : List Construction) (c : Construction) (key : Text) :
    firstMeeting (cs ++ [c]) key =
      if key ∈ cs.flatMap unresolved then firstMeeting cs key
      else [c].findIdx (fun c => key ∈ c.unresolved) + cs.length := by
  unfold firstMeeting
  rw [List.findIdx_append]
  exact if_congr firstMeeting_lt_iff rfl rfl

/-- Words come in the order of the members that met them unresolved first. -/
theorem pairwise_firstMeeting (cs : List Construction) :
    (cs.flatMap unresolved).eraseDups.Pairwise fun a b =>
      firstMeeting cs a ≤ firstMeeting cs b := by
  -- from the end: a new member leaves the first meetings of all words that were met before
  induction cs using List.reverseRecOn with
  | nil => exact List.Pairwise.nil
  | append_singleton cs c ih =>
    rw [List.flatMap_append, List.flatMap_cons, List.flatMap_nil, List.append_nil,
      List.eraseDups_append, List.pairwise_append]
    have hlater : ∀ key ∈ (c.unresolved.removeAll (cs.flatMap unresolved)).eraseDups,
        firstMeeting (cs ++ [c]) key = cs.length := by
      intro key hkey
      obtain ⟨hmeets, hnew⟩ : key ∈ c.unresolved ∧ key ∉ cs.flatMap unresolved := by
        simpa [List.removeAll] using hkey
      have hhere : [c].findIdx (fun c => key ∈ c.unresolved) = 0 := by simp [hmeets]
      rw [firstMeeting_concat, if_neg hnew, hhere, Nat.zero_add]
    refine ⟨?_, ?_, ?_⟩
    · refine ih.imp_of_mem ?_
      intro a b ha hb hab
      rw [List.mem_eraseDups] at ha hb
      rwa [firstMeeting_concat, firstMeeting_concat, if_pos ha, if_pos hb]
    · apply List.pairwise_of_forall_mem_list
      intro a ha b hb
      exact Nat.le_of_eq ((hlater a ha).trans (hlater b hb).symm)
    · intro a ha b hb
      rw [List.mem_eraseDups] at ha
      rw [hlater b hb, firstMeeting_concat, if_pos ha]
      exact Nat.le_of_lt (firstMeeting_lt_iff.2 ha)

end Construction

def Schema.constructions (settings : Settings) (schema : Schema) : List Construction :=
  (Context.start settings schema.classNames).constructions (schema.origins settings)

namespace Build

variable {settings : Settings} {schema : Schema} {model : Model}

theorem makes_of_run (h : (run settings schema).result = .ok model) :
    (schema.constructions settings).map Construction.member = model.members ∧
      ((Context.start settings schema.classNames).beyond (schema.origins settings)).constants =
        model.constants ∧
      ((Context.start settings schema.classNames).beyond (schema.origins settings)).unknownTypes =
        model.unknownTypes := by
  obtain ⟨aliases, classes, hparts, hdone, rfl, -⟩ := run_eq_ok h
  obtain ⟨members, hmakes, hmembers⟩ := Walk.through_passes hparts hdone
  refine ⟨hmakes.members.trans hmembers.symm, ?_, ?_⟩
  · exact congrArg Context.constants hmakes.context
  · exact congrArg Context.unknownTypes hmakes.context

/-- The members of a model are those that its documentation makes, each in the context behind those
    before it. -/
theorem mem_members_iff (h : (run settings schema).result = .ok model) {m : Member} :
    m ∈ model.members ↔ ∃ before o after, schema.origins settings = before ++ o :: after ∧
      m = o.member ((Context.start settings schema.classNames).beyond before) := by
  rw [← (makes_of_run h).1]
  exact Context.exists_construction_iff

/-- **An unknown type is attributed to the first member that met it.**  The unknown types of a
    model are the words that its members met unresolved; each has the file of the first member
    that did, and they come in the order of these members. -/
theorem unknownTypes_attributed (h : (run settings schema).result = .ok model) :
    (schema.constructions settings).map Construction.member = model.members ∧
    (∀ key, key ∈ model.unknownTypes.keys ↔
      ∃ c ∈ schema.constructions settings, key ∈ c.unresolved) ∧
    (∀ key, model.unknownTypes.get? key =
      ((schema.constructions settings).find? fun c => key ∈ c.unresolved).map
        fun c => c.member.file) ∧
    model.unknownTypes.keys.Pairwise fun a b =>
      Construction.firstMeeting (schema.constructions settings) a ≤
        Construction.firstMeeting (schema.constructions settings) b := by
  obtain ⟨hmembers, -, hunknown⟩ := makes_of_run h
  rw [Context.unknownTypes_beyond] at hunknown
  -- the table keeps the first file that comes for each word
  change Table.empty.insertNewAll
    ((schema.constructions settings).flatMap Construction.records) = _ at hunknown
  have hkeys : model.unknownTypes.keys =
      ((schema.constructions settings).flatMap Construction.unresolved).eraseDups := by
    rw [← hunknown, Table.keys_insertNewAll, Table.keys_empty, List.nil_append,
      Construction.keys_records]
  refine ⟨hmembers, ?_, ?_, ?_⟩
  · intro key
    rw [hkeys, List.mem_eraseDups, List.mem_flatMap]
  · intro key
    rw [← hunknown, Table.get?_insertNewAll, Table.get?_empty, Option.none_or,
      Construction.lookup_records]
  · rw [hkeys]
    exact Construction.pairwise_firstMeeting _

def shapeClass : ClassDoc :=
  ⟨⟨⟨[⟨"frob", some "Frob", false, []⟩], none, false, false, none⟩, "src/shape.js", [], true, none,
    "p5.Shape"⟩, none⟩

def gizmoItem : ItemDoc :=
  ⟨⟨⟨[], none, false, false, none⟩, "src/color.js", [], false, none, "frobs"⟩, "p5", .property,
    some "Frob[]|Gizmo", none, false⟩

def widgetItem : ItemDoc :=
  ⟨⟨⟨[], some ⟨some "Widget", []⟩, false, false, none⟩, "src/widget.js", [], false, none, "widget"⟩,
    "p5.Shape", .method, none, none, false⟩

/-- A property of the root class that is documented behind a class with the same unknown type. -/
def gizmoSchema : Schema :=
  ⟨.ofList [("p5.Shape", shapeClass),
      ("p5", ⟨⟨⟨[], none, false, false, none⟩, [], [], false, none, "p5"⟩, none⟩)],
    [widgetItem, gizmoItem]⟩

theorem build_gizmoSchema :
    ((run .standard gizmoSchema).result.map fun m => m.unknownTypes.keys).toOption =
      some (["Frob", "Gizmo", "Widget"] : List Text) := by decide +kernel

/-- The member of the root class is the first one. -/
theorem unknownTypes_attributed_gizmo :
    ∃ model, (run .standard gizmoSchema).result = .ok model ∧
      model.members.length = 3 ∧
      model.unknownTypes.keys = ["Frob", "Gizmo", "Widget"] ∧
      model.unknownTypes.get? "Frob" = some "src/color.js" ∧
      model.unknownTypes.get? "Widget" = some "src/widget.js" := by
  obtain ⟨model, hmodel, hkeys⟩ := exists_ok_of_map build_gizmoSchema
  obtain ⟨hmembers, -, hfile, -⟩ := unknownTypes_attributed hmodel
  refine ⟨model, hmodel, ?_, hkeys, ?_, ?_⟩
  · rw [← hmembers]
    decide +kernel
  · rw [hfile]
    decide +kernel
  · rw [hfile]
    decide +kernel

end Build

end Ambient
