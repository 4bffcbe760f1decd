/-
  Ambient/Proofs/Registries.lean
  ==============================
  **What the registries of a context hold, whatever is done with it.**

  A context can be told of a source file, and it can be asked to translate types, to declare
  parameters, to infer constant types, to check signatures and to register constants, in any
  order.  Each of these operations has one of three effects (`Effect`): the source file changes,
  words are met, or one constant type gets its values.  So whatever holds of a fresh context and
  is kept by the three effects holds in every state that a run of operations reaches.

  This gives the content of both registries (`registries_reached`).  A type that is recorded as
  unknown is a simple text that the settings and the known classes do not resolve.  It stays with
  the source file at the operation that recorded it, and no key of either registry ever leaves its
  place.
-/
import Ambient.Proofs.KnownClasses
import Ambient.Proofs.SimpleTypes

namespace Ambient

namespace Context

/-! ### What words record -/

@[simp] theorem sourceFile_meetAll (ctx : Context) (names : List Text) :
    (ctx.meetAll names).sourceFile = ctx.sourceFile := by
  obtain ⟨unknown, h⟩ := ctx.meetAll_eq names
  rw [h]

@[simp] theorem knownClasses_meetAll (ctx : Context) (names : List Text) :
    (ctx.meetAll names).knownClasses = ctx.knownClasses := by
  obtain ⟨unknown, h⟩ := ctx.meetAll_eq names
  rw [h]

def unresolved (ctx : Context) (names : List Text) : List Text :=
  names.filter fun name => (ctx.resolve? name).isNone

theorem mem_unresolved {ctx : Context} {names : List Text} {name : Text} :
    name ∈ ctx.unresolved names ↔ name ∈ names ∧ ctx.resolve? name = none := by
  simp [unresolved]

/-- Words put those of them that nothing resolves into the table of unknown types, with the
    current source file. -/
theorem unknownTypes_meetAll (ctx : Context) (names : List Text) :
    (ctx.meetAll names).unknownTypes = ctx.unknownTypes.insertNewAll
      ((ctx.unresolved names).map fun name => (name, ctx.sourceFile)) := by
  induction names generalizing ctx with
  | nil => rfl
  | cons name rest ih =>
    change ((ctx.meet name).meetAll rest).unknownTypes = _
    have hresolve : (ctx.meet name).resolve? = ctx.resolve? := ctx.resolve?_meetAll [name]
    have hfile : (ctx.meet name).sourceFile = ctx.sourceFile := ctx.sourceFile_meetAll [name]
    rw [ih, hfile]
    simp only [unresolved, hresolve, List.filter_cons]
    cases h : ctx.resolve? name with
    | some type => simp [meet, h]
    | none => simp [meet, h, recordUnknown, Table.insertNewAll]

theorem get?_unknownTypes_meetAll (ctx : Context) (names : List Text) (key : Text) :
    (ctx.meetAll names).unknownTypes.get? key = (ctx.unknownTypes.get? key).or
      (if key ∈ ctx.unresolved names then some ctx.sourceFile else none) := by
  rw [unknownTypes_meetAll, Table.get?_insertNewAll, lookup_map_entry]

/-- A word resolves to nothing if it is no built-in type, no type of the platform, no documented
    class and no constant type. -/
theorem resolve?_eq_none_iff {ctx : Context} {name : Text} :
    ctx.resolve? name = none ↔
      name ∉ ctx.settings.typeMap.keys ∧ name ∉ ctx.settings.externalTypes ∧
        ctx.isKnownClass name = false ∧ name ∉ ctx.constants.keys := by
  unfold resolve?
  cases h : ctx.settings.typeMap.get? name with
  | some type =>
    have hmem : name ∈ ctx.settings.typeMap.keys := Table.mem_keys_iff.2 ⟨type, h⟩
    simp [hmem]
  | none =>
    have hmem : name ∉ ctx.settings.typeMap.keys := Table.get?_eq_none_iff.1 h
    simp [hmem, Table.contains, and_assoc]

end Context

/-! ### Operations -/

theorem DocType.isSimple_of_mem_wordsIn {token : Option Text} {name : Text}
    (h : name ∈ wordsIn token) : IsSimple name := by
  cases token with
  | none => exact nomatch h
  | some t => exact isSimple_of_mem_words h

/-- What can be done with a context. -/
inductive Operation where
  | inFile (file : Text)
  | translate (token fallback : Option Text)
  | translateParam (p : Param)
  | inferConstant (member : Text) (p : Param)
  | check (e : Entry) (s : Signature)
  | registerConstant (name : Text) (values : List Text)

namespace Operation

def isTranslation : Operation → Prop
  | inFile _ | inferConstant _ _ | registerConstant _ _ => False
  | translate _ _ | translateParam _ | check _ _ => True

def words : Operation → List Text
  | translate token _ => DocType.wordsIn token
  | translateParam p => DocType.wordsIn p.type
  | check _ s => Param.wordsOfAll s.params ++ ReturnDoc.wordsIn s.returned
  | inFile _ | inferConstant _ _ | registerConstant _ _ => []

theorem isSimple_of_mem_words {op : Operation} {name : Text} (h : name ∈ op.words) :
    DocType.IsSimple name := by
  cases op with
  | inFile | inferConstant | registerConstant => exact nomatch h
  | translate token fallback => exact DocType.isSimple_of_mem_wordsIn h
  | translateParam p => exact DocType.isSimple_of_mem_wordsIn h
  | check e s =>
    rcases List.mem_append.1 h with h | h
    · obtain ⟨p, -, hname⟩ := List.mem_flatMap.1 h
      exact DocType.isSimple_of_mem_wordsIn hname
    · cases hr : s.returned with
      | none =>
        rw [hr] at h
        exact nomatch h
      | some r =>
        rw [hr] at h
        exact DocType.isSimple_of_mem_wordsIn h

end Operation

namespace Context

def after (ctx : Context) : Operation → Context
  | .inFile file => ctx.inFile file
  | .translate token fallback => (ctx.translate fallback token).2
  | .translateParam p => (ctx.translateParam p).2
  | .inferConstant member p => (ctx.inferConstant member p).2
  | .check e s => (ctx.objections e s).2
  | .registerConstant name values => ctx.registerConstant name values

def behind (ctx : Context) (ops : List Operation) : Context := ops.foldl after ctx

theorem behind_append (ctx : Context) (ops more : List Operation) :
    ctx.behind (ops ++ more) = (ctx.behind ops).behind more :=
  List.foldl_append

/-- What an operation can do to a context. -/
inductive Effect (ctx : Context) : Context → Prop where
  | turns (file : Text) : Effect ctx (ctx.inFile file)
  | meets {names : List Text} :
      (∀ name ∈ names, DocType.IsSimple name) → Effect ctx (ctx.meetAll names)
  | registers (name : Text) (values : List Text) : Effect ctx (ctx.registerConstant name values)

/-- A translation meets the words of its types. -/
theorem after_of_isTranslation (ctx : Context) {op : Operation} (h : op.isTranslation) :
    ctx.after op = ctx.meetAll op.words := by
  cases op with
  | inFile | inferConstant | registerConstant => exact h.elim
  | translate token fallback => exact ctx.translate_snd fallback token
  | translateParam p => exact ctx.translateParam_snd p
  | check e s => exact ctx.objections_snd e s

theorem effect_self (ctx : Context) : ctx.Effect ctx := by
  have hnone : ctx.Effect (ctx.meetAll []) := .meets fun _ h => nomatch h
  exact hnone

theorem effect_after (ctx : Context) (op : Operation) : ctx.Effect (ctx.after op) := by
  have hwords : op.isTranslation → ctx.Effect (ctx.after op) := by
    intro h
    rw [ctx.after_of_isTranslation h]
    exact .meets fun _ => Operation.isSimple_of_mem_words
  cases op with
  | inFile file => exact .turns file
  | registerConstant name values => exact .registers name values
  | translate | translateParam | check => exact hwords trivial
  | inferConstant member p =>
    change ctx.Effect (ctx.inferConstant member p).2
    unfold inferConstant
    split
    · exact .registers _ _
    · exact ctx.effect_self

/-! ### What every effect keeps -/

namespace Effect

variable {ctx ctx' : Context}

theorem settings (h : ctx.Effect ctx') : ctx'.settings = ctx.settings := by
  cases h <;> simp [inFile, registerConstant]

theorem knownClasses (h : ctx.Effect ctx') : ctx'.knownClasses = ctx.knownClasses := by
  cases h <;> simp [inFile, registerConstant]

theorem keys_unknownTypes (h : ctx.Effect ctx') :
    ctx.unknownTypes.keys <+: ctx'.unknownTypes.keys := by
  cases h with
  | turns | registers => exact List.prefix_refl _
  | meets =>
    rw [unknownTypes_meetAll]
    exact Table.keys_prefix_insertNewAll _ _

theorem keys_constants (h : ctx.Effect ctx') : ctx.constants.keys <+: ctx'.constants.keys := by
  cases h with
  | turns => exact List.prefix_refl _
  | meets => simp only [constants_meetAll, List.prefix_refl]
  | registers name values =>
    change _ <+: (ctx.constants.insert name values).keys
    rw [Table.keys_insert]
    split
    · exact List.prefix_refl _
    · exact List.prefix_append _ _

/-- An unknown type keeps its file, and one that was not there has the current file. -/
theorem get?_unknownTypes (h : ctx.Effect ctx') (key file : Text) :
    ctx'.unknownTypes.get? key = some file ↔
      ctx.unknownTypes.get? key = some file ∨
        key ∉ ctx.unknownTypes.keys ∧ key ∈ ctx'.unknownTypes.keys ∧ file = ctx.sourceFile := by
  have hsame : ctx'.unknownTypes = ctx.unknownTypes →
      (ctx'.unknownTypes.get? key = some file ↔ ctx.unknownTypes.get? key = some file ∨
        key ∉ ctx.unknownTypes.keys ∧ key ∈ ctx'.unknownTypes.keys ∧ file = ctx.sourceFile) := by
    intro heq
    rw [heq]
    exact ⟨.inl, fun h => h.resolve_right fun ⟨hnew, hold, _⟩ => hnew hold⟩
  cases h with
  | turns => exact hsame rfl
  | registers => exact hsame rfl
  | @meets names hsimple =>
    simp only [Table.mem_keys_iff, get?_unknownTypes_meetAll]
    cases ctx.unknownTypes.get? key with
    | some old => simp
    | none => by_cases hkey : key ∈ ctx.unresolved names <;> simp [hkey, eq_comm]

end Effect

/-! ### Runs -/

/-- What holds at first and is kept by every effect holds behind every run. -/
theorem behind_induction {P : Context → Prop} {ctx : Context} (hstart : P ctx)
    (hstep : ∀ c c' : Context, c.Effect c' → P c → P c') (ops : List Operation) :
    P (ctx.behind ops) := by
  induction ops generalizing ctx with
  | nil => exact hstart
  | cons op rest ih => exact ih (hstep ctx _ (ctx.effect_after op) hstart)

theorem settings_behind (ctx : Context) (ops : List Operation) :
    (ctx.behind ops).settings = ctx.settings :=
  behind_induction (P := fun c => c.settings = ctx.settings) rfl
    (fun _ _ h hc => h.settings.trans hc) ops

theorem knownClasses_behind (ctx : Context) (ops : List Operation) :
    (ctx.behind ops).knownClasses = ctx.knownClasses :=
  behind_induction (P := fun c => c.knownClasses = ctx.knownClasses) rfl
    (fun _ _ h hc => h.knownClasses.trans hc) ops

theorem keys_unknownTypes_behind (ctx : Context) (ops : List Operation) :
    ctx.unknownTypes.keys <+: (ctx.behind ops).unknownTypes.keys :=
  behind_induction (P := fun c => ctx.unknownTypes.keys <+: c.unknownTypes.keys)
    (List.prefix_refl _) (fun _ _ h hc => hc.trans h.keys_unknownTypes) ops

theorem keys_constants_behind (ctx : Context) (ops : List Operation) :
    ctx.constants.keys <+: (ctx.behind ops).constants.keys :=
  behind_induction (P := fun c => ctx.constants.keys <+: c.constants.keys)
    (List.prefix_refl _) (fun _ _ h hc => hc.trans h.keys_constants) ops

/-- An unknown type has the file at the first operation behind which it is there. -/
theorem get?_unknownTypes_behind (ctx : Context) (ops : List Operation) (key file : Text) :
    (ctx.behind ops).unknownTypes.get? key = some file ↔
      ctx.unknownTypes.get? key = some file ∨
        ∃ before op more, ops = before ++ op :: more ∧
          key ∉ (ctx.behind before).unknownTypes.keys ∧
          key ∈ (ctx.behind (before ++ [op])).unknownTypes.keys ∧
          file = (ctx.behind before).sourceFile := by
  induction ops generalizing ctx with
  | nil => simp [behind]
  | cons op rest ih =>
    change ((ctx.after op).behind rest).unknownTypes.get? key = some file ↔ _
    rw [ih, (ctx.effect_after op).get?_unknownTypes, or_assoc]
    refine or_congr_right ?_
    constructor
    · rintro (⟨hnew, hkey, rfl⟩ | ⟨before, op', more, rfl, hrecorded⟩)
      · exact ⟨[], op, rest, rfl, hnew, hkey, rfl⟩
      · exact ⟨op :: before, op', more, rfl, hrecorded⟩
    · rintro ⟨before, op', more, heq, hnew, hkey, hfile⟩
      cases before with
      | nil =>
        obtain ⟨rfl, rfl⟩ := List.cons.inj heq
        exact .inl ⟨hnew, hkey, hfile⟩
      | cons first before =>
        obtain ⟨rfl, rfl⟩ := List.cons.inj heq
        exact .inr ⟨before, op', more, rfl, hnew, hkey, hfile⟩

end Context

/-- A text that can be recorded as an unknown type: it is simple, and it is no built-in type, no
    type of the platform and no known class of the namespace, with the root in front or without. -/
structure Settings.Unresolvable (s : Settings) (known : List Text) (key : Text) : Prop where
  simple : DocType.IsSimple key
  notBuiltIn : key ∉ s.typeMap.keys
  notExternal : key ∉ s.externalTypes
  notKnown : ∀ name ∈ known, (s.subclassName? name).isSome = true →
    name ≠ key ∧ name ≠ s.qualified key

namespace Context

theorem unresolvable_of_resolve? {ctx : Context} {key : Text} (hsimple : DocType.IsSimple key)
    (h : ctx.resolve? key = none) : ctx.settings.Unresolvable ctx.knownClasses key := by
  obtain ⟨hbuiltIn, hexternal, hknown, -⟩ := resolve?_eq_none_iff.1 h
  refine ⟨hsimple, hbuiltIn, hexternal, ?_⟩
  intro name hname hsome
  have hnot : ¬ (name = key ∨ name = ctx.settings.qualified key) := by
    intro heq
    exact Bool.false_ne_true (hknown.symm.trans (isKnownClass_iff.2 ⟨name, hname, hsome, heq⟩))
  exact not_or.1 hnot

def Sound (ctx : Context) : Prop :=
  ∀ key ∈ ctx.unknownTypes.keys, ctx.settings.Unresolvable ctx.knownClasses key

theorem Effect.sound {ctx ctx' : Context} (h : ctx.Effect ctx') (hsound : ctx.Sound) :
    ctx'.Sound := by
  cases h with
  | turns | registers => exact hsound
  | @meets names hsimple =>
    intro key hkey
    rw [settings_meetAll, knownClasses_meetAll]
    rw [unknownTypes_meetAll, Table.keys_insertNewAll, List.mem_eraseDups, List.mem_append] at hkey
    rcases hkey with hold | hnew
    · exact hsound key hold
    · simp only [List.map_map, Function.comp_def, List.map_id'] at hnew
      obtain ⟨hname, hnone⟩ := mem_unresolved.1 hnew
      exact unresolvable_of_resolve? (hsimple key hname) hnone

def registered? (settings : Settings) : Operation → Option (Text × List Text)
  | .inferConstant member p => settings.constantType? member p
  | .registerConstant name values => some (name, values)
  | .inFile _ | .translate _ _ | .translateParam _ | .check _ _ => none

theorem constants_after_of_registered {ctx : Context} {op : Operation} {name : Text}
    {values : List Text} (h : registered? ctx.settings op = some (name, values)) :
    (ctx.after op).constants = ctx.constants.insert name values := by
  cases op with
  | inFile | translate | translateParam | check => exact nomatch h
  | registerConstant name' values' =>
    obtain ⟨rfl, rfl⟩ := Prod.mk.inj (Option.some.inj h)
    rfl
  | inferConstant member p =>
    change ctx.settings.constantType? member p = some (name, values) at h
    simp only [after, inferConstant, h]
    rfl

theorem constants_after_of_isTranslation {ctx : Context} {op : Operation}
    (h : op.isTranslation) : (ctx.after op).constants = ctx.constants := by
  rw [ctx.after_of_isTranslation h, constants_meetAll]

/-- The context that a run of operations reaches from a fresh one. -/
def reached (settings : Settings) (known : List Text) (ops : List Operation) : Context :=
  (start settings known).behind ops

theorem reached_concat (settings : Settings) (known : List Text) (ops : List Operation)
    (op : Operation) :
    reached settings known (ops ++ [op]) = (reached settings known ops).after op :=
  behind_append _ ops [op]

theorem sound_reached (settings : Settings) (known : List Text) (ops : List Operation) :
    (reached settings known ops).Sound := by
  have hfresh : (start settings known).Sound := fun _ h => nomatch h
  exact behind_induction hfresh (fun _ _ h hsound => h.sound hsound) ops

/-- **What the registries hold in every state that a run of operations reaches.**  Each unknown
    type is a simple text that the settings and the known classes do not resolve.  It has the
    source file at the operation that recorded it, whatever comes later.  The keys of both
    registries stay, in their order; registering a constant type again replaces its values and
    leaves its place, and translations and checks leave the constant types as they are. -/
theorem registries_reached (settings : Settings) (known : List Text) (ops : List Operation) :
    (∀ key ∈ (reached settings known ops).unknownTypes.keys, settings.Unresolvable known key) ∧
    (∀ key file, (reached settings known ops).unknownTypes.get? key = some file ↔
      ∃ before op more, ops = before ++ op :: more ∧
        key ∉ (reached settings known before).unknownTypes.keys ∧
        key ∈ (reached settings known (before ++ [op])).unknownTypes.keys ∧
        file = (reached settings known before).sourceFile) ∧
    (∀ more,
      (∀ key file, (reached settings known ops).unknownTypes.get? key = some file →
        (reached settings known (ops ++ more)).unknownTypes.get? key = some file) ∧
      (reached settings known ops).unknownTypes.keys <+:
        (reached settings known (ops ++ more)).unknownTypes.keys ∧
      (reached settings known ops).constants.keys <+:
        (reached settings known (ops ++ more)).constants.keys) ∧
    (∀ op name values, registered? settings op = some (name, values) →
      (reached settings known (ops ++ [op])).constants.keys =
        (if name ∈ (reached settings known ops).constants.keys then
          (reached settings known ops).constants.keys
        else (reached settings known ops).constants.keys ++ [name]) ∧
      ∀ key, (reached settings known (ops ++ [op])).constants.get? key =
        if key = name then some values else (reached settings known ops).constants.get? key) ∧
    (∀ op : Operation, op.isTranslation →
      (reached settings known (ops ++ [op])).constants =
        (reached settings known ops).constants) := by
  have hsettings : (reached settings known ops).settings = settings := settings_behind _ ops
  have hknown : (reached settings known ops).knownClasses = known := knownClasses_behind _ ops
  refine ⟨?_, ?_, ?_, ?_, ?_⟩
  · intro key hkey
    have hsound := sound_reached settings known ops key hkey
    rwa [hsettings, hknown] at hsound
  · intro key file
    -- a fresh context has no unknown types, so one of the operations recorded it
    refine (get?_unknownTypes_behind (start settings known) ops key file).trans ?_
    exact or_iff_right fun h => nomatch h
  · intro more
    simp only [reached, behind_append]
    refine ⟨?_, keys_unknownTypes_behind _ more, keys_constants_behind _ more⟩
    intro key file hfile
    exact (get?_unknownTypes_behind _ more key file).2 (.inl hfile)
  · intro op name values h
    rw [← hsettings] at h
    rw [reached_concat, constants_after_of_registered h, Table.keys_insert]
    exact ⟨rfl, fun key => Table.get?_insert _ name key values⟩
  · intro op h
    rw [reached_concat]
    exact constants_after_of_isTranslation h

def frobRun : List Operation :=
  [.inFile "src/image.js", .translate (some "Frob[]|Number") none,
    .registerConstant "TINT_MODE" ["ADD"], .inFile "src/shape.js",
    .translate (some "Widget|Frob") (some "any")]

def blend : Text := "BLEND"

theorem registries_reached_frob :
    Settings.standard.Unresolvable ["p5"] "Frob" ∧
    (reached .standard ["p5"] frobRun).unknownTypes.get? "Frob" = some "src/image.js" ∧
    (reached .standard ["p5"] (frobRun ++ [.registerConstant "TINT_MODE" [blend]])).constants.get?
      "TINT_MODE" = some [blend] ∧
    (reached .standard ["p5"] (frobRun ++ [.translate (some "Gizmo") none])).constants =
      (reached .standard ["p5"] frobRun).constants := by
  have hkey : ("Frob" : Text) ∈ (reached .standard ["p5"] frobRun).unknownTypes.keys := by
    decide +kernel
  obtain ⟨hunknown, hfile, -, hregistered, htranslated⟩ :=
    registries_reached .standard ["p5"] frobRun
  refine ⟨hunknown _ hkey, ?_, ?_, htranslated _ trivial⟩
  · refine (hfile _ _).2 ⟨[.inFile "src/image.js"], _, _, rfl, ?_, ?_, ?_⟩
    · decide +kernel
    · decide +kernel
    · rfl
  · rw [(hregistered (.registerConstant "TINT_MODE" [blend]) _ _ rfl).2, if_pos rfl]

/-- The root class is a known class in name only: its name is recorded as an unknown type. -/
theorem root_class_recorded :
    ∃ key ∈ (["p5"] : List Text),
      key ∈ (reached .standard ["p5"] [.translate (some "p5") (some "any")]).unknownTypes.keys := by
  refine ⟨"p5", ?_, ?_⟩
  · decide
  · decide +kernel

end Context

end Ambient
