/-
  Ambient/Proofs/TypedDeclarations.lean
  =====================================
  **Which declarations carry a type.**

  Where the settings give no type an empty text, the only documented type with an empty translation
  is a blank one (`DocType.translate_eq_nil_iff`): a word is not empty, and an array, a union and a
  function have marks of their own.  The check of a signature objects to a blank type as to one that
  does not resolve, so a method without objections has a type for its return value and for each of
  its parameters.  A property is not checked so.  Its declaration has no type exactly if the type
  that is documented for it is blank (`Build.live_typed_iff`).

  A chainable signature has the name of its owner for a type.  The owners are the root, the classes
  of the namespace, and the names that these give themselves; documentation as it is read has no
  class without a name (`Schema.namesClasses_of_fields`).
-/
import Ambient.Doc.Decode
import Ambient.Proofs.Attribution
import Ambient.Proofs.BuildFailure
import Mathlib.Data.List.Forall2

namespace Ambient

/-! ### Settings that give types, and documentation that names classes -/

/-- No type that the settings put into a declaration is an empty text. -/
structure Settings.GivesTypes (s : Settings) : Prop where
  fallback : s.fallbackType ≠ []
  root : s.rootName ≠ []
  primitive : ∀ type ∈ s.primitiveTypes.values, type ≠ []

/-- Every class has a name, unless its key is the empty text. -/
def Schema.NamesClasses (schema : Schema) : Prop :=
  ∀ e ∈ schema.classes.entries, e.1 ≠ [] → e.2.name ≠ []

theorem ClassDoc.name_named_ne_nil {key : Text} (h : key ≠ []) (c : ClassDoc) :
    (c.named key).name ≠ [] := by
  unfold named
  split
  · exact h
  · next hname =>
    intro hnil
    exact hname (List.isEmpty_iff.2 hnil)

/-- Documentation that is read names its classes. -/
theorem Schema.namesClasses_of_fields {o : Fields} {schema : Schema}
    (h : Schema.ofFields o = .fits schema) : schema.NamesClasses := by
  unfold Schema.ofFields at h
  revert h
  rcases (Decoder.table ClassDoc.decode (containerField "classes" (.object []) o)).within
    (.field "classes") with classes | issues
  · rcases (Decoder.list ItemDoc.decode (containerField "classitems" (.array []) o)).within
      (.field "classitems") with items | issues
    · rintro ⟨⟩ e he hkey
      obtain ⟨entry, -, rfl⟩ := List.mem_map.1 he
      exact entry.2.name_named_ne_nil hkey
    · intro h
      cases h
  · rcases (Decoder.list ItemDoc.decode (containerField "classitems" (.array []) o)).within
      (.field "classitems") with items | more
    · intro h
      cases h
    · intro h
      cases h

/-! ### Translations that are empty -/

namespace Context

variable {ctx : Context}

theorem resolve?_ne_nil (h : ctx.settings.GivesTypes) {name type : Text} (hname : name ≠ [])
    (hr : ctx.resolve? name = some type) : type ≠ [] := by
  unfold resolve? at hr
  split at hr
  · next found htype =>
    cases hr
    rw [Settings.typeMap, Table.get?_insert] at htype
    split at htype
    · cases htype
      exact h.root
    · exact h.primitive _ (List.mem_map_of_mem (Table.mem_entries_of_get? htype))
  · split at hr
    · cases hr
      exact hname
    · cases hr

end Context

theorem Text.join_ne_nil {joint : Text} (hj : joint ≠ []) {parts : List Text}
    (h : 2 ≤ parts.length) : Text.join joint parts ≠ [] := by
  match parts, h with
  | first :: second :: rest, _ => simp [join, hj]

namespace DocType

theorem arrayText_ne_nil (element : Text) : arrayText element ≠ [] := by
  intro h
  exact nomatch (List.append_eq_nil_iff.1 h).2

theorem unionText_ne_nil {members : List Text} (h : 2 ≤ members.length) :
    unionText members ≠ [] :=
  Text.join_ne_nil (by decide) (by rwa [List.length_map])

/-- A documented type is translated to the empty text exactly if it is blank. -/
theorem translate_eq_nil_iff {ctx : Context} (h : ctx.settings.GivesTypes) {fallback : Option Text}
    (hf : fallback ≠ some []) (token : Text) :
    (translate fallback ctx (parse token)).1 = some [] ↔ token.trim = [] := by
  rw [parse_eq]
  split
  · next hblank =>
    exact iff_of_true rfl (List.isEmpty_iff.1 hblank)
  · next hne =>
    have htoken : token.trim ≠ [] := fun hnil => hne (List.isEmpty_iff.2 hnil)
    refine iff_of_false ?_ htoken
    intro hnil
    split at hnil
    · rw [translate_array] at hnil
      obtain ⟨element, -, hempty⟩ := Option.map_eq_some_iff.1 hnil
      exact arrayText_ne_nil element hempty
    · split at hnil
      · next hmany =>
        rw [translate_union] at hnil
        obtain ⟨types, htypes, hempty⟩ := Option.map_eq_some_iff.1 hnil
        have hlength := congrArg List.length (allPresent_eq_some_iff.1 htypes)
        simp only [List.length_map] at hlength
        exact unionText_ne_nil (hlength ▸ hmany) hempty
      · split at hnil
        · rw [translate_function] at hnil
          obtain ⟨types, -, hempty⟩ := Option.map_eq_some_iff.1 hnil
          cases hempty
        · simp only [translate] at hnil
          cases hr : ctx.resolve? token.trim with
          | none =>
            rw [hr] at hnil
            exact hf hnil
          | some type =>
            rw [hr] at hnil
            exact Context.resolve?_ne_nil h htoken hr (Option.some.inj hnil)

end DocType

namespace Context

/-- With the fallback of the settings, only a type that is documented as blank is empty. -/
theorem translateFully_eq_nil_iff {ctx : Context} (h : ctx.settings.GivesTypes)
    (token : Option Text) :
    (ctx.translateFully token).1 = [] ↔ ∃ t, token = some t ∧ t.trim = [] := by
  have hf : some ctx.settings.fallbackType ≠ some [] := fun heq => h.fallback (Option.some.inj heq)
  cases token with
  | none =>
    refine iff_of_false h.fallback ?_
    rintro ⟨t, ht, -⟩
    cases ht
  | some t =>
    have htype := DocType.translate_some ctx.settings.fallbackType ctx (DocType.parse t)
    have hfully : (ctx.translateFully (some t)).1 =
        DocType.typeOf ctx.settings.fallbackType ctx (DocType.parse t) := by
      simp only [translateFully, translate, htype, Option.getD_some]
    rw [hfully, ← Option.some_inj, ← htype, DocType.translate_eq_nil_iff h hf]
    simp

/-! ### Methods -/

theorem declaredParam_retype {ctx ctx' : Context} (h : ctx'.settings = ctx.settings)
    (member : Text) (p : Param) (type : Text) :
    ctx'.declaredParam (ctx.settings.retype member p) type = ctx.declaredParam p type := by
  unfold declaredParam paramName Settings.retype
  rw [h]
  split <;> rfl

section Methods

variable {ctx : Context} {e : Entry} {owner : Text} {s : Signature}

/-- The check of a signature comes behind the constant types of its parameters. -/
theorem exists_inferred (h : (ctx.buildSignature e owner s).1.errors = []) :
    ∃ inferred, inferred.settings = ctx.settings ∧
      ctx.inferConstants e.name s.params =
        (s.params.map (ctx.settings.retype e.name), inferred) ∧
      (inferred.objections e
        { s with params := s.params.map (ctx.settings.retype e.name) }).1 = [] := by
  have hinfer := ctx.inferConstants_eq e.name s.params
  simp only [buildSignature, hinfer] at h
  exact ⟨_, by rfl, hinfer, List.map_eq_nil_iff.1 h⟩

/-- A method without objections has a type for the value that it returns, unless that is an owner
    without a name. -/
theorem returnType_eq_nil_iff (h : (ctx.buildSignature e owner s).1.errors = []) :
    (ctx.buildSignature e owner s).1.returnType = [] ↔ s.isChainable = true ∧ owner = [] := by
  obtain ⟨inferred, -, hinfer, hnone⟩ := exists_inferred h
  by_cases hchain : s.isChainable = true
  · simp [buildSignature, returnType, hchain]
  · refine iff_of_false ?_ fun hempty => hchain hempty.1
    have hchainable := Bool.eq_false_iff.2 hchain
    cases hr : s.returned with
    | none =>
      have hvoid : (ctx.buildSignature e owner s).1.returnType = "void" := by
        simp [buildSignature, returnType, hchainable, hr]
      rw [hvoid]
      exact List.cons_ne_nil _ _
    | some r =>
      have hreturned := (objections_eq_nil hnone).2
      simp only [hr] at hreturned
      obtain ⟨type, hne, htype⟩ := exists_type_of_returnObjections hreturned
      rw [paramsObjections_snd, translate_fst_meetAll] at htype
      rwa [buildSignature_returnType hinfer hchainable hr, translateFully_fst_of_translate htype]

/-- A method without objections has a type for each of its parameters. -/
theorem params_typed (h : (ctx.buildSignature e owner s).1.errors = []) :
    List.Forall₂ (fun p text => ∃ type, type ≠ [] ∧ text = ctx.declaredParam p type)
      s.params (ctx.buildSignature e owner s).1.params := by
  obtain ⟨inferred, hsettings, hinfer, hnone⟩ := exists_inferred h
  rw [buildSignature_params hinfer, List.map_map, List.forall₂_map_right_iff, List.forall₂_same]
  intro p hp
  obtain ⟨type, hne, htype⟩ := exists_type_of_paramsObjections (objections_eq_nil hnone).1 _
    (List.mem_map_of_mem hp)
  refine ⟨type, hne, ?_⟩
  rw [← declaredParam_retype hsettings e.name p type, ← translateFully_fst_of_translate htype]
  rfl

end Methods

/-! ### Properties -/

theorem isValid_buildProperty (ctx : Context) (item : ItemDoc) :
    (ctx.buildProperty item).1.isValid = isSymbol item.name := by
  unfold buildProperty
  split
  · next hsymbol => exact hsymbol.symm
  · next hsymbol => exact (Bool.eq_false_iff.2 hsymbol).symm

/-- A property with a name that can be declared has no type exactly if its documented type is
    blank. -/
theorem type_buildProperty_eq_nil_iff {ctx : Context} (h : ctx.settings.GivesTypes)
    {item : ItemDoc} (hsymbol : isSymbol item.name = true) :
    (ctx.buildProperty item).1.type = [] ↔ ∃ token, item.type = some token ∧ token.trim = [] := by
  simp only [buildProperty, if_pos hsymbol]
  exact translateFully_eq_nil_iff h item.type

end Context

/-! ### Where members are documented -/

namespace ItemDoc

theorem owner_of_mem_origins {item : ItemDoc} {owner : Text} {e : Entry} {other : Text}
    {s : Signature} (h : .signature e other s ∈ item.origins owner) : other = owner := by
  unfold origins at h
  cases hk : item.kind with
  | method =>
    rw [hk] at h
    obtain ⟨_, -, heq⟩ := List.mem_map.1 h
    cases heq
    rfl
  | property =>
    rw [hk] at h
    cases List.mem_singleton.1 h
  | other label =>
    rw [hk] at h
    cases List.mem_singleton.1 h

theorem property_mem_origins_iff {item other : ItemDoc} {owner : Text} :
    .property other ∈ item.origins owner ↔ item.kind = .property ∧ other = item := by
  unfold origins
  cases hk : item.kind <;> simp [Entry.origins]

end ItemDoc

namespace Schema

variable {settings : Settings} {schema : Schema} {aliases classes : List Text}

theorem mem_origins_iff (h : settings.partition schema.classNames = .ok (aliases, classes))
    {o : Origin} :
    o ∈ schema.origins settings ↔
      (∃ name ∈ aliases, ∃ item ∈ schema.itemsFor name, o ∈ item.origins settings.rootName) ∨
        ∃ name ∈ classes, ∃ info, schema.classes.get? name = some info ∧
          (o ∈ info.toEntry.origins info.name ∨
            ∃ item ∈ schema.itemsFor name, o ∈ item.origins name) := by
  have hclass : ∀ name, o ∈ classOrigins name (schema.about name) ↔
      ∃ info, schema.classes.get? name = some info ∧
        (o ∈ info.toEntry.origins info.name ∨
          ∃ item ∈ schema.itemsFor name, o ∈ item.origins name) := by
    intro name
    unfold about
    cases schema.classes.get? name with
    | none => simp [classOrigins]
    | some info => simp [classOrigins]
  simp only [origins, h, List.mem_append, List.mem_flatMap, hclass]

/-- The properties that a build declares are those of documented classes. -/
theorem property_mem_origins_iff
    (h : settings.partition schema.classNames = .ok (aliases, classes)) {item : ItemDoc} :
    .property item ∈ schema.origins settings ↔
      item ∈ schema.items ∧ item.kind = .property ∧ item.name ≠ [] ∧
        item.owner ∈ schema.classNames := by
  have hnames : ∀ name, name ∈ schema.classNames ↔ name ∈ aliases ∨ name ∈ classes := by
    intro name
    obtain ⟨rfl, rfl⟩ := Settings.partition_eq_ok h
    by_cases halias : name ∈ settings.aliases <;> simp [halias]
  have hitem : ∀ name owner, (∃ other ∈ schema.itemsFor name,
      .property item ∈ other.origins owner) ↔
        item ∈ schema.items ∧ item.kind = .property ∧ item.name ≠ [] ∧ item.owner = name := by
    intro name owner
    simp only [ItemDoc.property_mem_origins_iff, itemsFor, List.mem_filter, belongs,
      Bool.and_eq_true, decide_eq_true_eq, Bool.not_eq_true', List.isEmpty_eq_false_iff]
    constructor
    · rintro ⟨other, ⟨hmem, howner, hname⟩, hkind, rfl⟩
      exact ⟨hmem, hkind, hname, howner⟩
    · rintro ⟨hmem, hkind, hname, howner⟩
      exact ⟨item, ⟨hmem, howner, hname⟩, hkind, rfl⟩
  have hnone : ∀ info : ClassDoc, .property item ∉ info.toEntry.origins info.name := by
    intro info hmem
    obtain ⟨_, -, heq⟩ := List.mem_map.1 hmem
    cases heq
  rw [mem_origins_iff h, hnames]
  simp only [hitem, hnone, false_or]
  constructor
  · rintro (⟨name, hname, hmem, hkind, hne, rfl⟩ | ⟨name, hname, info, -, hmem, hkind, hne, rfl⟩)
    · exact ⟨hmem, hkind, hne, .inl hname⟩
    · exact ⟨hmem, hkind, hne, .inr hname⟩
  · rintro ⟨hmem, hkind, hne, halias | hclass⟩
    · exact .inl ⟨item.owner, halias, hmem, hkind, hne, rfl⟩
    · obtain ⟨info, hinfo⟩ := Table.mem_keys_iff.1 ((hnames item.owner).2 (.inr hclass))
      exact .inr ⟨item.owner, hclass, info, hinfo, hmem, hkind, hne, rfl⟩

/-- The owner of a signature, which a chainable one returns, has a name. -/
theorem owner_ne_nil (h : settings.partition schema.classNames = .ok (aliases, classes))
    (hroot : settings.rootName ≠ []) (hnames : schema.NamesClasses) {e : Entry} {owner : Text}
    {s : Signature} (ho : .signature e owner s ∈ schema.origins settings) : owner ≠ [] := by
  have hclassName : ∀ name ∈ classes, name ≠ [] := by
    rintro name hname rfl
    obtain ⟨short, hshort⟩ := Option.isSome_iff_exists.1 (Settings.isSome_of_partition h _ hname)
    have hqualified := (Settings.subclassName?_eq_some_iff.1 hshort).1
    exact hroot (List.append_eq_nil_iff.1 (List.append_eq_nil_iff.1 hqualified.symm).1).1
  rcases (mem_origins_iff h).1 ho with ⟨_, -, item, -, hitem⟩ | ⟨name, hname, info, hinfo, hclass⟩
  · rw [ItemDoc.owner_of_mem_origins hitem]
    exact hroot
  · rcases hclass with hconstructor | ⟨item, -, hitem⟩
    · obtain ⟨_, -, heq⟩ := List.mem_map.1 hconstructor
      cases heq
      exact hnames _ (Table.mem_entries_of_get? hinfo) (hclassName name hname)
    · rw [ItemDoc.owner_of_mem_origins hitem]
      exact hclassName name hname

end Schema

/-! ### Whole builds -/

namespace Build

variable {settings : Settings} {schema : Schema} {model : Model}

/-- **Which declarations carry a type.**  A method without objections has a type for each of its
    documented parameters, and one for the value that it returns unless that is a class without a
    name, which documentation that is read does not have.  The valid properties all have a type
    exactly if no property of a documented class, with a name that can be declared, has a blank
    text for its type. -/
theorem live_typed_iff (h : (run settings schema).result = .ok model)
    (hsettings : settings.GivesTypes) :
    (∀ m, .method m ∈ model.members → m.errors = [] →
      ∃ e owner s, .signature e owner s ∈ schema.origins settings ∧
        (m.returnType = [] ↔ s.isChainable = true ∧ owner = []) ∧
        (schema.NamesClasses → m.returnType ≠ []) ∧
        List.Forall₂ (fun p text => ∃ type, type ≠ [] ∧
          text = (Context.start settings schema.classNames).declaredParam p type)
            s.params m.params) ∧
    ((∀ p, .property p ∈ model.members → p.isValid = true → p.type ≠ []) ↔
      ∀ item ∈ schema.items, item.kind = .property → item.owner ∈ schema.classNames →
        isSymbol item.name = true → ∀ token, item.type = some token → token.trim ≠ []) := by
  obtain ⟨aliases, classes, hparts, -⟩ := run_eq_ok h
  have hmembers : ∀ m, m ∈ model.members ↔ _ := fun m => mem_members_iff h
  have hcontext : ∀ origins,
      ((Context.start settings schema.classNames).beyond origins).settings = settings :=
    fun origins => Context.settings_beyond _ origins
  constructor
  · intro m hm herrors
    -- a member is what it is built from, in the context behind the members in front of it
    obtain ⟨before, o, after, horigins, hmember⟩ := (hmembers _).1 hm
    have ho : o ∈ schema.origins settings :=
      horigins ▸ List.mem_append_right before List.mem_cons_self
    cases o with
    | property | unsupported => cases hmember
    | signature e owner s =>
      cases hmember
      have hreturn := Context.returnType_eq_nil_iff herrors
      refine ⟨e, owner, s, ho, hreturn, ?_, (Context.params_typed herrors).imp ?_⟩
      · intro hnames hempty
        exact Schema.owner_ne_nil hparts.partition hsettings.root hnames ho (hreturn.1 hempty).2
      · rintro p text ⟨type, hne, rfl⟩
        refine ⟨type, hne, ?_⟩
        simp only [Context.declaredParam, Context.paramName, Context.inFile, hcontext]
        rfl
  · have hgives : ∀ before file, (((Context.start settings schema.classNames).beyond
        before).inFile file).settings.GivesTypes := by
      intro before file
      change ((Context.start settings schema.classNames).beyond before).settings.GivesTypes
      rwa [hcontext]
    constructor
    · intro hall item hitem hkind howner hsymbol token htoken hblank
      have hname : item.name ≠ [] := by
        intro hnil
        rw [hnil] at hsymbol
        exact absurd hsymbol Bool.false_ne_true
      obtain ⟨before, after, horigins⟩ := List.append_of_mem
        ((Schema.property_mem_origins_iff hparts.partition).2 ⟨hitem, hkind, hname, howner⟩)
      -- the item is declared at its place, as a valid property without a type
      refine hall _ ((hmembers _).2 ⟨before, _, after, horigins, rfl⟩) ?_ ?_
      · rw [Context.isValid_buildProperty, hsymbol]
      · exact (Context.type_buildProperty_eq_nil_iff (hgives before _) hsymbol).2
          ⟨token, htoken, hblank⟩
    · intro hall p hp hvalid hnil
      obtain ⟨before, o, after, horigins, hmember⟩ := (hmembers _).1 hp
      cases o with
      | signature | unsupported => cases hmember
      | property item =>
        cases hmember
        have ho : .property item ∈ schema.origins settings :=
          horigins ▸ List.mem_append_right before List.mem_cons_self
        obtain ⟨hitem, hkind, -, howner⟩ := (Schema.property_mem_origins_iff hparts.partition).1 ho
        rw [Context.isValid_buildProperty] at hvalid
        obtain ⟨token, htoken, hblank⟩ :=
          (Context.type_buildProperty_eq_nil_iff (hgives before _) hvalid).1 hnil
        exact hall item hitem hkind howner hvalid token htoken hblank

/-! ### A property with a blank type, and a method -/

theorem givesTypes_standard : Settings.standard.GivesTypes :=
  ⟨by decide, by decide, by decide +kernel⟩

def gapItem (type : Text) : ItemDoc :=
  ⟨⟨⟨[], none, false, false, none⟩, "src/layout.js", [], false, none, "gap"⟩, "p5", .property,
    some type, none, false⟩

def spreadItem : ItemDoc :=
  ⟨⟨⟨[⟨"width", some "Number", false, []⟩], none, false, true, none⟩, "src/layout.js", [], false,
    none, "spread"⟩, "p5", .method, none, none, false⟩

def gapSchema (type : Text) : Schema :=
  ⟨.ofList [("p5", plainClass "p5")], [gapItem type, spreadItem]⟩

def gap (type : Text) : PropertyDecl :=
  ⟨"gap", type, none, false, [], "src/layout.js", true⟩

def spread : MethodDecl :=
  ⟨"spread", ["width: number"], "p5", false, false, [], "src/layout.js", none, []⟩

theorem members_gapSchema :
    ((run .standard (gapSchema "Number")).result.map Model.members).toOption =
        some [.property (gap "number"), .method spread] ∧
      ((run .standard (gapSchema " ")).result.map Model.members).toOption =
        some [.property (gap []), .method spread] := by decide +kernel

/-- The method has a type for its value, and each valid property has one unless its documented type
    is blank. -/
theorem live_typed_gap :
    (∃ model, (run .standard (gapSchema "Number")).result = .ok model ∧
      .property (gap "number") ∈ model.members ∧
      ∀ p, .property p ∈ model.members → p.isValid = true → p.type ≠ []) ∧
    ∃ model, (run .standard (gapSchema " ")).result = .ok model ∧
      (.method spread ∈ model.members ∧ spread.errors = [] ∧ spread.returnType ≠ []) ∧
      ¬ ∀ p, .property p ∈ model.members → p.isValid = true → p.type ≠ [] := by
  constructor
  · obtain ⟨model, hmodel, hmembers⟩ := exists_ok_of_map members_gapSchema.1
    refine ⟨model, hmodel, hmembers ▸ List.mem_cons_self, ?_⟩
    apply (live_typed_iff hmodel givesTypes_standard).2.2
    intro item hitem _ _ _ token htoken hblank
    rcases List.mem_pair.1 hitem with rfl | rfl
    · cases htoken
      exact absurd hblank (by decide +kernel)
    · cases htoken
  · obtain ⟨model, hmodel, hmembers⟩ := exists_ok_of_map members_gapSchema.2
    have hspread : .method spread ∈ model.members := by
      rw [hmembers]
      exact List.mem_cons_of_mem _ List.mem_cons_self
    obtain ⟨hmethods, hproperties⟩ := live_typed_iff hmodel givesTypes_standard
    refine ⟨model, hmodel, ⟨hspread, rfl, ?_⟩, ?_⟩
    · obtain ⟨e, owner, s, -, -, htyped, -⟩ := hmethods spread hspread rfl
      apply htyped
      intro entry hentry _
      rw [List.mem_singleton.1 hentry]
      exact List.cons_ne_nil _ _
    · intro hall
      exact hproperties.1 hall (gapItem " ") List.mem_cons_self rfl (by decide +kernel)
        (by decide +kernel) " " rfl (by decide +kernel)

/-- A valid property has no type. -/
theorem property_without_type :
    Settings.standard.GivesTypes ∧
      ∃ model, (run .standard (gapSchema " ")).result = .ok model ∧
        ∃ p, .property p ∈ model.members ∧ p.isValid = true ∧ p.type = [] := by
  obtain ⟨model, hmodel, hmembers⟩ := exists_ok_of_map members_gapSchema.2
  refine ⟨givesTypes_standard, model, hmodel, gap [], ?_, rfl, rfl⟩
  rw [hmembers]
  exact List.mem_cons_self

end Build

end Ambient
