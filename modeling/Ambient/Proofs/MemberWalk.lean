/-
  Ambient/Proofs/MemberWalk.lean
  ==============================
  **What a build does on its way past the members of a class.**

  Each step of a build makes declarations, leaves the documentation with its constant types, and
  goes on in another context.  Here are the last two of these, for a signature, an entry, an item
  and the items of a class:

    * the context behind a step has the constant types of the parameters that the step went
      past, in their order, and otherwise only more unknown types (`Past`);
    * the documentation behind a step is what `Settings.retypeItem` makes of each item that the
      class owns, in whatever context the step was made;
    * a step over documentation that has its constant types already does the same as the step
      that gave it these, if all of them register again (`buildItems_again`).
-/
import Ambient.Proofs.Retyping
import Ambient.Proofs.SignatureCheck

namespace Ambient

/-! ### Entries and items with their constant types -/

def Settings.retypeItem (s : Settings) (item : ItemDoc) : ItemDoc :=
  if item.kind = .method then { item with toEntry := s.retypeEntry item.toEntry } else item

def ItemDoc.memberParams (item : ItemDoc) : List (Text × Param) :=
  if item.kind = .method then item.toEntry.memberParams else []

namespace Entry

theorem withSignatures_name (e : Entry) (new : List Signature) :
    (e.withSignatures new).name = e.name := by
  unfold withSignatures
  split <;> rfl

theorem withSignatures_isConstructor (e : Entry) (new : List Signature) :
    (e.withSignatures new).isConstructor = e.isConstructor := by
  unfold withSignatures
  split <;> rfl

theorem withSignatures_file (e : Entry) (new : List Signature) :
    (e.withSignatures new).file = e.file := by
  unfold withSignatures
  split <;> rfl

theorem withSignatures_description (e : Entry) (new : List Signature) :
    (e.withSignatures new).description = e.description := by
  unfold withSignatures
  split <;> rfl

end Entry

namespace Settings

theorem name_retypeEntry (s : Settings) (e : Entry) : (s.retypeEntry e).name = e.name :=
  e.withSignatures_name _

theorem signatures_retypeEntry (s : Settings) (e : Entry) :
    (s.retypeEntry e).signatures = e.signatures.map (s.retypeSignature e.name) :=
  e.signatures_withSignatures (List.length_map _)

theorem memberParams_retypeEntry (s : Settings) (e : Entry) :
    (s.retypeEntry e).memberParams = s.retypeAll e.memberParams := by
  simp only [Entry.memberParams, signatures_retypeEntry, name_retypeEntry, List.flatMap_map,
    memberParams_retypeSignature, retypeAll, List.map_flatMap]

theorem memberParams_retypeItem (s : Settings) (item : ItemDoc) :
    (s.retypeItem item).memberParams = s.retypeAll item.memberParams := by
  unfold retypeItem
  by_cases h : item.kind = .method
  · simp only [h, if_true, ItemDoc.memberParams, memberParams_retypeEntry]
  · simp only [h, if_false, ItemDoc.memberParams, retypeAll, List.map_nil]

theorem belongs_retypeItem (s : Settings) (className : Text) (item : ItemDoc) :
    Schema.belongs className (s.retypeItem item) = Schema.belongs className item := by
  unfold retypeItem
  split
  · simp only [Schema.belongs, name_retypeEntry]
  · rfl

end Settings

namespace Context

/-! ### The context behind a step -/

/-- Whether a context is one in which a build may be behind some parameters: with the same
    settings, and with the constant types of the parameters put into its table one after the
    other. -/
structure Past (ctx : Context) (params : List (Text × Param)) (ctx' : Context) : Prop where
  settings : ctx'.settings = ctx.settings
  constants : ctx'.constants = ctx.constants.insertAll (ctx.settings.registrations params)

theorem past_nil (ctx : Context) : ctx.Past [] ctx := ⟨rfl, rfl⟩

theorem Past.trans {ctx mid ctx' : Context} {params more : List (Text × Param)}
    (h : ctx.Past params mid) (h' : mid.Past more ctx') : ctx.Past (params ++ more) ctx' := by
  constructor
  · exact h'.settings.trans h.settings
  · rw [h'.constants, h.constants, h.settings, Settings.registrations_append,
      Table.insertAll_append]

/-- Recording words puts no parameter behind. -/
theorem Past.records {ctx mid ctx' : Context} {params : List (Text × Param)}
    (h : ctx.Past params mid) (h' : mid.Past [] ctx') : ctx.Past params ctx' := by
  have hall := h.trans h'
  rwa [List.append_nil] at hall

theorem past_meetAll (ctx : Context) (names : List Text) : ctx.Past [] (ctx.meetAll names) :=
  ⟨ctx.settings_meetAll names, ctx.constants_meetAll names⟩

theorem past_inFile (ctx : Context) (file : Text) : ctx.Past [] (ctx.inFile file) := ⟨rfl, rfl⟩

theorem past_inferConstants (ctx : Context) (member : Text) (params : List Param) :
    ctx.Past (params.map (Prod.mk member)) (ctx.inferConstants member params).2 := by
  rw [inferConstants_eq]
  exact ⟨rfl, rfl⟩

theorem past_objections (ctx : Context) (e : Entry) (s : Signature) :
    ctx.Past [] (ctx.objections e s).2 := by
  rw [objections_snd]
  exact ctx.past_meetAll _

theorem past_translateFully (ctx : Context) (token : Option Text) :
    ctx.Past [] (ctx.translateFully token).2 := by
  rw [translateFully_snd]
  exact ctx.past_meetAll _

theorem past_translateParams (ctx : Context) (params : List Param) :
    ctx.Past [] (ctx.translateParams params).2 := by
  rw [translateParams_snd]
  exact ctx.past_meetAll _

theorem past_returnType (ctx : Context) (s : Signature) (owner : Text) :
    ctx.Past [] (ctx.returnType s owner).2 := by
  unfold returnType
  split
  · exact ctx.past_nil
  · split
    · exact ctx.past_translateFully _
    · exact ctx.past_nil

theorem buildSignature_past (ctx : Context) (e : Entry) (owner : Text) (s : Signature) :
    ctx.Past (s.memberParams e.name) (ctx.buildSignature e owner s).2.2 := by
  have hinferred := ctx.past_inferConstants e.name s.params
  -- behind the constants of the parameters only words are recorded
  have hchecked := hinferred.records
    (past_objections _ e { s with params := (ctx.inferConstants e.name s.params).1 })
  have htyped := hchecked.records
    (past_translateParams _ (ctx.inferConstants e.name s.params).1)
  exact htyped.records (past_returnType _ _ owner)

theorem buildSignature_retyped (ctx : Context) (e : Entry) (owner : Text) (s : Signature) :
    (ctx.buildSignature e owner s).2.1 = ctx.settings.retypeSignature e.name s := by
  simp only [buildSignature, inferConstants_eq, Settings.retypeSignature]

theorem buildSignatures_past (ctx : Context) (e : Entry) (owner : Text)
    (signatures : List Signature) :
    ctx.Past (signatures.flatMap (Signature.memberParams e.name))
      (ctx.buildSignatures e owner signatures).2.2 := by
  induction signatures generalizing ctx with
  | nil => exact ctx.past_nil
  | cons s rest ih => exact (ctx.buildSignature_past e owner s).trans (ih _)

theorem buildSignatures_retyped (ctx : Context) (e : Entry) (owner : Text)
    (signatures : List Signature) :
    (ctx.buildSignatures e owner signatures).2.1 =
      signatures.map (ctx.settings.retypeSignature e.name) := by
  induction signatures generalizing ctx with
  | nil => rfl
  | cons s rest ih =>
    change (ctx.buildSignature e owner s).2.1 ::
      ((ctx.buildSignature e owner s).2.2.buildSignatures e owner rest).2.1 = _
    rw [ih, buildSignature_retyped, (ctx.buildSignature_past e owner s).settings, List.map_cons]

theorem buildMethod_past (ctx : Context) (e : Entry) (owner : Text) :
    ctx.Past e.memberParams (ctx.buildMethod e owner).2.2 :=
  ctx.buildSignatures_past e owner e.signatures

theorem buildMethod_retyped (ctx : Context) (e : Entry) (owner : Text) :
    (ctx.buildMethod e owner).2.1 = ctx.settings.retypeEntry e := by
  change e.withSignatures (ctx.buildSignatures e owner e.signatures).2.1 = _
  rw [buildSignatures_retyped]
  rfl

theorem buildProperty_past (ctx : Context) (item : ItemDoc) :
    ctx.Past [] (ctx.buildProperty item).2 := by
  unfold buildProperty
  split
  · exact ctx.past_translateFully item.type
  · exact ctx.past_nil

theorem buildItem_past (ctx : Context) (owner : Text) (item : ItemDoc) :
    ctx.Past item.memberParams (ctx.buildItem owner item).2.2 := by
  have hfile := ctx.past_inFile item.file
  cases hk : item.kind with
  | method =>
    simp only [buildItem, ItemDoc.memberParams, hk, if_true]
    exact hfile.trans (buildMethod_past _ item.toEntry owner)
  | property =>
    simp only [buildItem, ItemDoc.memberParams, hk, reduceCtorEq, if_false]
    exact hfile.trans (buildProperty_past _ item)
  | other label =>
    simp only [buildItem, ItemDoc.memberParams, hk, reduceCtorEq, if_false]
    exact hfile

theorem buildItem_retyped (ctx : Context) (owner : Text) (item : ItemDoc) :
    (ctx.buildItem owner item).2.1 = ctx.settings.retypeItem item := by
  unfold Settings.retypeItem
  cases hk : item.kind with
  | method => simp only [buildItem, hk, if_true, buildMethod_retyped, inFile]
  | property => simp only [buildItem, hk, reduceCtorEq, if_false]
  | other label => simp only [buildItem, hk, reduceCtorEq, if_false]

theorem buildItems_cons_pos {className : Text} {item : ItemDoc}
    (h : Schema.belongs className item = true) (ctx : Context) (owner : Text)
    (rest : List ItemDoc) :
    ctx.buildItems className owner (item :: rest) =
      let (members, item, ctx) := ctx.buildItem owner item
      let (more, rest, ctx) := ctx.buildItems className owner rest
      (members ++ more, item :: rest, ctx) := by
  rw [buildItems, if_pos h]

theorem buildItems_cons_neg {className : Text} {item : ItemDoc}
    (h : ¬ Schema.belongs className item = true) (ctx : Context) (owner : Text)
    (rest : List ItemDoc) :
    ctx.buildItems className owner (item :: rest) =
      let (members, rest, ctx) := ctx.buildItems className owner rest
      (members, item :: rest, ctx) := by
  rw [buildItems, if_neg h]

theorem buildItems_past (ctx : Context) (className owner : Text) (items : List ItemDoc) :
    ctx.Past ((items.filter (Schema.belongs className)).flatMap ItemDoc.memberParams)
      (ctx.buildItems className owner items).2.2 := by
  induction items generalizing ctx with
  | nil => exact ctx.past_nil
  | cons item rest ih =>
    by_cases h : Schema.belongs className item = true
    · rw [buildItems_cons_pos h, List.filter_cons_of_pos h, List.flatMap_cons]
      exact (ctx.buildItem_past owner item).trans (ih _)
    · rw [buildItems_cons_neg h, List.filter_cons_of_neg h]
      exact ih ctx

/-- Behind the items of a class each item that the class owns has its constant types. -/
theorem buildItems_retyped (ctx : Context) (className owner : Text) (items : List ItemDoc) :
    (ctx.buildItems className owner items).2.1 =
      items.map fun item =>
        if Schema.belongs className item then ctx.settings.retypeItem item else item := by
  induction items generalizing ctx with
  | nil => rfl
  | cons item rest ih =>
    by_cases h : Schema.belongs className item = true
    · rw [buildItems_cons_pos h, List.map_cons, if_pos h]
      change (ctx.buildItem owner item).2.1 ::
        ((ctx.buildItem owner item).2.2.buildItems className owner rest).2.1 = _
      rw [ih, buildItem_retyped, (ctx.buildItem_past owner item).settings]
    · rw [buildItems_cons_neg h, List.map_cons, if_neg h]
      change item :: (ctx.buildItems className owner rest).2.1 = _
      rw [ih]

/-! ### Steps over documentation that has its constant types -/

/-- What a step makes, apart from the documentation it leaves. -/
def outcome {α β : Type} (step : α × β × Context) : α × Context := (step.1, step.2.2)

theorem objections_withSignatures (ctx : Context) (e : Entry) (new : List Signature)
    (s : Signature) : ctx.objections (e.withSignatures new) s = ctx.objections e s := by
  simp only [objections, Entry.withSignatures_name, Entry.withSignatures_isConstructor]

theorem buildSignature_again {ctx : Context} {e : Entry} {s : Signature}
    (h : ctx.settings.Recurring (s.memberParams e.name)) (new : List Signature) (owner : Text) :
    ctx.buildSignature (e.withSignatures new) owner (ctx.settings.retypeSignature e.name s) =
      ctx.buildSignature e owner s := by
  have hinferred := ctx.inferConstants_retype e.name h
  simp only [buildSignature, objections_withSignatures, Entry.withSignatures_name,
    Entry.withSignatures_isConstructor, Entry.withSignatures_file,
    Entry.withSignatures_description, hinferred]
  rfl

theorem buildSignatures_again {ctx : Context} {e : Entry} {signatures : List Signature}
    (h : ctx.settings.Recurring (signatures.flatMap (Signature.memberParams e.name)))
    (new : List Signature) (owner : Text) :
    ctx.buildSignatures (e.withSignatures new) owner
        (signatures.map (ctx.settings.retypeSignature e.name)) =
      ctx.buildSignatures e owner signatures := by
  induction signatures generalizing ctx with
  | nil => rfl
  | cons s rest ih =>
    obtain ⟨hs, hrest⟩ := Settings.recurring_append.1 h
    have hsettings := (ctx.buildSignature_past e owner s).settings
    rw [← hsettings] at hrest
    have hmore := ih hrest
    rw [hsettings] at hmore
    simp only [List.map_cons, buildSignatures, buildSignature_again hs, hmore]

theorem buildMethod_again (ctx : Context) {e : Entry}
    (h : ctx.settings.Recurring e.memberParams) (owner : Text) :
    outcome (ctx.buildMethod (ctx.settings.retypeEntry e) owner) =
      outcome (ctx.buildMethod e owner) := by
  have hbuilt : ctx.buildSignatures (ctx.settings.retypeEntry e) owner
      (ctx.settings.retypeEntry e).signatures = ctx.buildSignatures e owner e.signatures := by
    rw [Settings.signatures_retypeEntry]
    exact buildSignatures_again h _ owner
  simp only [outcome, buildMethod, hbuilt]

theorem buildItem_again {ctx : Context} {item : ItemDoc}
    (h : ctx.settings.Recurring item.memberParams) (owner : Text) :
    outcome (ctx.buildItem owner (ctx.settings.retypeItem item)) =
      outcome (ctx.buildItem owner item) := by
  by_cases hk : item.kind = .method
  · have hparams : item.memberParams = item.toEntry.memberParams := by
      simp only [ItemDoc.memberParams, hk, if_true]
    rw [hparams] at h
    have hfile : (ctx.settings.retypeEntry item.toEntry).file = item.file :=
      item.toEntry.withSignatures_file _
    have hmethod := buildMethod_again (ctx.inFile item.file) h owner
    simp only [outcome, Prod.mk.injEq] at hmethod
    obtain ⟨hdecls, hctx⟩ := hmethod
    simp only [outcome, buildItem, Settings.retypeItem, hk, if_true, hfile]
    rw [← hctx, ← hdecls]
    rfl
  · rw [Settings.retypeItem, if_neg hk]

/-- The items of other classes show neither in the members nor in the context. -/
theorem buildItems_filter (ctx : Context) (className owner : Text) (items : List ItemDoc) :
    outcome (ctx.buildItems className owner (items.filter (Schema.belongs className))) =
      outcome (ctx.buildItems className owner items) := by
  induction items generalizing ctx with
  | nil => rfl
  | cons item rest ih =>
    by_cases h : Schema.belongs className item = true
    · have hrest := ih (ctx.buildItem owner item).2.2
      simp only [outcome, Prod.mk.injEq] at hrest
      rw [List.filter_cons_of_pos h]
      simp only [outcome, buildItems_cons_pos h, hrest]
    · rw [List.filter_cons_of_neg h, ih, buildItems_cons_neg h]
      rfl

theorem buildItems_again_of_belongs {ctx : Context} {className : Text} {items : List ItemDoc}
    (hall : ∀ item ∈ items, Schema.belongs className item = true)
    (h : ctx.settings.Recurring (items.flatMap ItemDoc.memberParams)) (owner : Text) :
    outcome (ctx.buildItems className owner (items.map ctx.settings.retypeItem)) =
      outcome (ctx.buildItems className owner items) := by
  induction items generalizing ctx with
  | nil => rfl
  | cons item rest ih =>
    obtain ⟨hitem, hrest⟩ := Settings.recurring_append.1 h
    have hhere := hall item List.mem_cons_self
    have hthere : Schema.belongs className (ctx.settings.retypeItem item) = true := by
      rw [Settings.belongs_retypeItem, hhere]
    have hsettings := (ctx.buildItem_past owner item).settings
    rw [← hsettings] at hrest
    have hmore := ih (fun i hi => hall i (List.mem_cons_of_mem item hi)) hrest
    rw [hsettings] at hmore
    have hfirst := buildItem_again hitem owner
    simp only [outcome, Prod.mk.injEq] at hfirst hmore ⊢
    simp only [List.map_cons, buildItems_cons_pos hhere, buildItems_cons_pos hthere, hfirst,
      hmore, and_self]

/-- Items of a class that have their constant types already declare the members that the items
    without them declare, and lead to the same context, if all of the types recur. -/
theorem buildItems_again {ctx : Context} {className : Text} {items items' : List ItemDoc}
    (hitems : items'.filter (Schema.belongs className) =
      (items.filter (Schema.belongs className)).map ctx.settings.retypeItem)
    (h : ctx.settings.Recurring
      ((items.filter (Schema.belongs className)).flatMap ItemDoc.memberParams)) (owner : Text) :
    outcome (ctx.buildItems className owner items') =
      outcome (ctx.buildItems className owner items) := by
  rw [← buildItems_filter, hitems, ← ctx.buildItems_filter className owner items]
  exact buildItems_again_of_belongs (fun item hi => (List.mem_filter.1 hi).2) h owner

end Context

end Ambient
