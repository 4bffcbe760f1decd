/-
  Ambient/Proofs/ToldFailures.lean
  ================================
  **Which failures of loading are told.**

  A file that cannot be read, whose text is no JSON or whose JSON does not fit fails as
  documentation or as settings, which the command tells in a line before it exits with 1.  Three
  things come in between: a name that no file can have, bytes that are no UTF-8, and for
  documentation a text that takes the JSON reader to its limits.  Each of them fails as itself, and
  then the command has no line and no exit status for it (`loading_told_iff`).
-/
import Ambient.CommandLine.Command
import Ambient.Proofs.Loading
import Ambient.Proofs.ReadingLimits

namespace Ambient

/-- Whether something is loaded, or else a failure of its own kind says why not. -/
def Settles {α φ : Type} (own : φ → Failure) (result : Except Failure α) : Prop :=
  (∃ a, result = .ok a) ∨ ∃ fault, result = .error (own fault)

/-- How a result goes by a condition: under it something is loaded or the failure is of its own
    kind, otherwise there is a failure that is not told. -/
structure ToldBy {α φ : Type} (own : φ → Failure) (result : Except Failure α)
    (condition : Prop) : Prop where
  settles : condition → Settles own result
  untold : ¬ condition → ∃ f, result = .error f ∧ f.isTold = false

namespace ToldBy

variable {α φ : Type} {own : φ → Failure} {result : Except Failure α} {condition : Prop}

theorem settles_iff (h : ToldBy own result condition)
    (hown : ∀ fault, (own fault).isTold = true) : Settles own result ↔ condition := by
  refine ⟨?_, h.settles⟩
  intro hsettles
  by_contra hcondition
  obtain ⟨f, rfl, hf⟩ := h.untold hcondition
  rcases hsettles with ⟨a, ha⟩ | ⟨fault, hfault⟩
  · exact nomatch ha
  · rw [Except.error.inj hfault, hown] at hf
    exact nomatch hf

theorem isTold_iff {f : Failure} (h : ToldBy own (.error f : Except Failure α) condition)
    (hown : ∀ fault, (own fault).isTold = true) : f.isTold = true ↔ condition := by
  constructor
  · intro htold
    by_contra hcondition
    obtain ⟨g, hg, huntold⟩ := h.untold hcondition
    rw [Except.error.inj hg, huntold] at htold
    exact nomatch htold
  · intro hcondition
    rcases h.settles hcondition with ⟨a, ha⟩ | ⟨fault, hfault⟩
    · exact nomatch ha
    · rw [Except.error.inj hfault, hown]

theorem of_settles (h : Settles own result) (hcondition : condition) :
    ToldBy own result condition :=
  ⟨fun _ => h, fun hnot => absurd hcondition hnot⟩

theorem of_untold {f : Failure} (h : f.isTold = false) (hcondition : ¬ condition) :
    ToldBy own (.error f : Except Failure α) condition :=
  ⟨fun hyes => absurd hyes hcondition, fun _ => ⟨f, rfl, h⟩⟩

end ToldBy

/-! ### What the text of a file says -/

theorem Json.withinLimits_unixLines {t : Text} :
    WithinLimits (Text.unixLines t) ↔ WithinLimits t := by
  unfold WithinLimits
  rw [read_unixLines]
  cases read t with
  | ok v => exact ⟨nofun, nofun⟩
  | error fault =>
    cases fault with
    | malformed complaint remaining =>
      constructor
      · rintro _ _ ⟨⟩
        exact ⟨_, _, rfl⟩
      · rintro _ _ ⟨⟩
        exact ⟨_, _, rfl⟩
    | hugeInteger n => exact Iff.rfl
    | tooDeep container => exact Iff.rfl

theorem Schema.toldBy_parse (t : Text) :
    ToldBy Failure.schema (parse t) (Json.WithinLimits t) := by
  have hlimit : ∀ fault, Json.read t = .error fault →
      (∀ complaint remaining, fault ≠ .malformed complaint remaining) → ¬ Json.WithinLimits t := by
    intro fault hread hfault hlimits
    obtain ⟨complaint, remaining, h⟩ := hlimits fault hread
    exact hfault complaint remaining h
  unfold parse
  -- a complaint about a place is told as one of documentation; the two limits fail as themselves
  cases hread : Json.read t with
  | error fault =>
    cases fault with
    | malformed complaint remaining =>
      refine .of_settles (.inr ⟨_, rfl⟩) ?_
      intro fault hfault
      rw [hread] at hfault
      exact ⟨complaint, remaining, (Except.error.inj hfault).symm⟩
    | hugeInteger n => exact .of_untold rfl (hlimit _ hread nofun)
    | tooDeep container => exact .of_untold rfl (hlimit _ hread nofun)
  | ok v =>
    refine .of_settles ?_ ?_
    · cases v with
      | object fields =>
        dsimp only
        cases ofFields fields with
        | fits schema => exact .inl ⟨schema, rfl⟩
        | fails issues => exact .inr ⟨_, rfl⟩
      | _ => exact .inr ⟨_, rfl⟩
    · intro fault hfault
      rw [hread] at hfault
      exact nomatch hfault

theorem Settings.toldBy_parse (source t : Text) :
    ToldBy Failure.settings (parse source t) True := by
  refine .of_settles ?_ trivial
  unfold parse
  cases Json.readStrict t with
  | none => exact .inr ⟨_, rfl⟩
  | some v =>
    dsimp only
    cases decode v with
    | fits settings => exact .inl ⟨settings, rfl⟩
    | fails issues => exact .inr ⟨_, rfl⟩

/-! ### What a file gives -/

namespace World

/-- Whether a file can have a name, and what the file under it holds, if it can be read, is the
    UTF-8 of a text with some property. -/
def HoldsText (world : World) (source : Text) (good : Text → Prop) : Prop :=
  (Path.ofText source).fault? = none ∧
    ∀ bytes, world.files.read (.ofText source) = .ok bytes →
      ∃ t, Utf8.encode t = .ok bytes ∧ good t

/-- Loading from a file goes by its name and its text. -/
theorem toldBy_found {α φ : Type} {own : φ → Failure} {good : Text → Prop}
    {ofFile : Except FileFault (List UInt8) → Except Failure α}
    (hunreadable : ∀ f, ∃ fault, ofFile (.error f) = .error (own fault))
    (hundecodable : ∀ bytes f, Utf8.decode bytes = .error f →
      ofFile (.ok bytes) = .error (.undecodable f))
    (htext : ∀ bytes t, Utf8.decode bytes = .ok t → ToldBy own (ofFile (.ok bytes)) (good t))
    (world : World) (source : Text) :
    ToldBy own (world.found source ofFile) (world.HoldsText source good) := by
  -- the name, the bytes and the text are looked at in this order
  unfold found
  cases hpath : (Path.ofText source).fault? with
  | some f =>
    refine .of_untold rfl ?_
    intro h
    rw [h.1] at hpath
    exact nomatch hpath
  | none =>
    dsimp only
    cases hread : world.files.read (.ofText source) with
    | error f =>
      refine .of_settles (.inr (hunreadable f)) ⟨hpath, ?_⟩
      intro bytes hbytes
      rw [hread] at hbytes
      exact nomatch hbytes
    | ok bytes =>
      have hholds : world.HoldsText source good ↔ ∃ t, Utf8.decode bytes = .ok t ∧ good t := by
        simp only [HoldsText, hpath, hread, true_and, Except.ok.injEq, forall_eq',
          Utf8.decode_eq_ok_iff]
      cases hdecode : Utf8.decode bytes with
      | error f =>
        rw [hundecodable bytes f hdecode]
        refine .of_untold rfl ?_
        rw [hholds, hdecode]
        rintro ⟨t, ht, -⟩
        exact nomatch ht
      | ok t =>
        have hgood : world.HoldsText source good ↔ good t := by
          simp only [hholds, hdecode, Except.ok.injEq, exists_eq_left']
        rw [hgood]
        exact htext bytes t hdecode

theorem toldBy_schema (world : World) (source : Text) :
    ToldBy Failure.schema (world.found source (Schema.ofFile source))
      (world.HoldsText source Json.WithinLimits) := by
  apply toldBy_found
  · intro f
    exact ⟨_, rfl⟩
  · intro bytes f hdecode
    simp only [Schema.ofFile, hdecode]
  · intro bytes t hdecode
    simp only [Schema.ofFile, hdecode]
    rw [← Json.withinLimits_unixLines]
    exact Schema.toldBy_parse _

theorem toldBy_settings (world : World) (source : Text) :
    ToldBy Failure.settings (world.found source (Settings.ofFile source))
      (world.HoldsText source fun _ => True) := by
  apply toldBy_found
  · intro f
    exact ⟨_, rfl⟩
  · intro bytes f hdecode
    simp only [Settings.ofFile, hdecode]
  · intro bytes t hdecode
    simp only [Settings.ofFile, hdecode]
    exact Settings.toldBy_parse source _

/-! ### What the command says -/

theorem settingsOf_world (world : World) (file : Option Path) :
    (host.settingsOf file world).2 = world := by
  cases file with
  | none => rfl
  | some path => exact congrArg Prod.snd (world.loadSettings_eq path.text)

theorem runCommand_of_settings {world : World} {a : Arguments} {f : Failure}
    (hf : (host.settingsOf a.settings world).1 = .error f) :
    (host.runCommand a world).1 = .ofFailure [] f := by
  unfold Host.runCommand
  simp only [bind, StateT.bind]
  revert hf
  rcases host.settingsOf a.settings world with ⟨result, world'⟩
  rintro rfl
  rfl

theorem runCommand_of_schema {world : World} {a : Arguments} {settings : Settings} {f : Failure}
    (hsettings : (host.settingsOf a.settings world).1 = .ok settings)
    (hf : (host.loadSchema true a.schema world).1 = .error f) :
    (host.runCommand a world).1 = .ofFailure [] f := by
  have hstart : host.settingsOf a.settings world = (.ok settings, world) :=
    Prod.ext hsettings (settingsOf_world world a.settings)
  unfold Host.runCommand
  simp only [bind, StateT.bind, hstart]
  revert hf
  rcases host.loadSchema true a.schema world with ⟨result, behind⟩
  rintro rfl
  rfl

end World

theorem Transcript.ofFailure_eq_exit_iff (f : Failure) :
    ofFailure [] f = ⟨.exit 1, [failureLine f]⟩ ↔ f.isTold = true := by
  unfold ofFailure
  cases f.isTold with
  | true => exact iff_of_true rfl rfl
  | false => exact iff_of_false nofun nofun

/-- **Which failures of loading are told.**  Documentation or settings from a file are loaded or
    fail as such exactly if a file can have the name and holds a text in UTF-8, which for
    documentation must be read within the limits of the JSON reader; then, and only then, the
    command tells the failure and exits with 1.  A text without a long row of digits and without
    too many brackets is read within the limits. -/
theorem loading_told_iff (world : World) :
    (∀ source, Settles Failure.schema (World.host.readSchema source world).1 ↔
      world.HoldsText source Json.WithinLimits) ∧
    (∀ source follows, isUrl source = false →
      World.host.loadSchema follows source world = World.host.readSchema source world) ∧
    (∀ source, Settles Failure.settings (World.host.loadSettings source world).1 ↔
      world.HoldsText source fun _ => True) ∧
    (∀ (a : Arguments) path f, a.settings = some path →
      (World.host.loadSettings path.text world).1 = .error f →
      ((World.host.runCommand a world).1 = ⟨.exit 1, [Transcript.failureLine f]⟩ ↔
        world.HoldsText path.text fun _ => True)) ∧
    (∀ (a : Arguments) settings f, (World.host.settingsOf a.settings world).1 = .ok settings →
      isUrl a.schema = false → (World.host.readSchema a.schema world).1 = .error f →
      ((World.host.runCommand a world).1 = ⟨.exit 1, [Transcript.failureLine f]⟩ ↔
        world.HoldsText a.schema Json.WithinLimits)) ∧
    ∀ t, ¬ Json.HasLongRow t → t.countP Json.isOpening ≤ Json.Stage.mostNested →
      Json.WithinLimits t := by
  have hschema : ∀ source, (World.host.readSchema source world).1 =
      world.found source (Schema.ofFile source) := fun source => by rw [world.readSchema_eq]
  have hsettings : ∀ source, (World.host.loadSettings source world).1 =
      world.found source (Settings.ofFile source) := fun source => by rw [world.loadSettings_eq]
  refine ⟨?_, ?_, ?_, ?_, ?_, ?_⟩
  · intro source
    rw [hschema]
    exact (world.toldBy_schema source).settles_iff fun _ => rfl
  · intro source follows hsource
    rw [world.loadSchema_of_file follows hsource, world.readSchema_eq]
  · intro source
    rw [hsettings]
    exact (world.toldBy_settings source).settles_iff fun _ => rfl
  · intro a path f hpath hf
    have htold := world.toldBy_settings path.text
    rw [← hsettings, hf] at htold
    rw [World.runCommand_of_settings (by rw [hpath]; exact hf), Transcript.ofFailure_eq_exit_iff]
    exact htold.isTold_iff fun _ => rfl
  · intro a settings f hok hsource hf
    have htold := world.toldBy_schema a.schema
    rw [← hschema, hf] at htold
    have hload : (World.host.loadSchema true a.schema world).1 = .error f := by
      rw [world.loadSchema_of_file true hsource, ← hf, hschema]
    rw [World.runCommand_of_schema hok hload, Transcript.ofFailure_eq_exit_iff]
    exact htold.isTold_iff fun _ => rfl
  · intro t hrow hopening
    exact Json.withinLimits_of_small hrow hopening

/-! ### A file that is told about, and one that is not -/

def fileArguments : Arguments where
  schema := "data.json"
  rootDirectory := .ofText "src"
  outDirectory := .ofText "out"
  settings := none
  isVerbose := false

def fileWorld (bytes : List UInt8) : World where
  files := ⟨[(⟨.above 0, ["data.json"]⟩, .file bytes)]⟩
  web := []
  workingDirectory := .ofText "/work"

/-- The bytes spell an object that is not closed. -/
theorem loading_told_unclosed :
    Settles Failure.schema (World.host.readSchema "data.json" (fileWorld [0x7B])).1 ∧
      ∃ line, (World.host.runCommand fileArguments (fileWorld [0x7B])).1 = ⟨.exit 1, [line]⟩ := by
  obtain ⟨hschema, -, -, -, hcommand, hlimits⟩ := loading_told_iff (fileWorld [0x7B])
  have hrow : ¬ Json.HasLongRow "\x7b" := by
    rintro ⟨row, hrow, -, hlong⟩
    exact absurd (hlong.trans_le hrow.length_le) (by decide)
  have hbytes : (fileWorld [0x7B]).files.read (.ofText "data.json") = .ok [0x7B] := by
    decide +kernel
  have hholds : (fileWorld [0x7B]).HoldsText "data.json" Json.WithinLimits := by
    refine ⟨by decide +kernel, ?_⟩
    rw [hbytes]
    rintro _ ⟨⟩
    exact ⟨"\x7b", rfl, hlimits _ hrow (by decide)⟩
  have hfails : (World.host.readSchema "data.json" (fileWorld [0x7B])).1.isOk = false := by
    decide +kernel
  refine ⟨(hschema _).2 hholds, ?_⟩
  cases hresult : (World.host.readSchema "data.json" (fileWorld [0x7B])).1 with
  | ok schema =>
    rw [hresult] at hfails
    exact nomatch hfails
  | error f =>
    have hexit := hcommand fileArguments .standard f rfl (by decide) hresult
    exact ⟨_, hexit.2 hholds⟩

/-- A byte that begins no code point is not told about. -/
theorem loading_untold_byte :
    (World.host.readSchema "data.json" (fileWorld [0xFF])).1 =
        .error (.undecodable ⟨0, 1, 0xFF, .badStart⟩) ∧
      ¬ Settles Failure.schema (World.host.readSchema "data.json" (fileWorld [0xFF])).1 ∧
      (World.host.runCommand fileArguments (fileWorld [0xFF])).1 =
        ⟨.failed (.undecodable ⟨0, 1, 0xFF, .badStart⟩), []⟩ := by
  have hpath : (Path.ofText "data.json").fault? = none := by decide +kernel
  have hbytes : (fileWorld [0xFF]).files.read (.ofText "data.json") = .ok [0xFF] := by
    decide +kernel
  have hfails : (World.host.readSchema "data.json" (fileWorld [0xFF])).1 =
      .error (.undecodable ⟨0, 1, 0xFF, .badStart⟩) := by
    rw [World.readSchema_eq]
    simp only [World.found, hpath, hbytes]
    rfl
  have hsettings : (World.host.settingsOf fileArguments.settings (fileWorld [0xFF])).1 =
      .ok .standard := rfl
  have hload : (World.host.loadSchema true fileArguments.schema (fileWorld [0xFF])).1 =
      .error (.undecodable ⟨0, 1, 0xFF, .badStart⟩) := hfails
  refine ⟨hfails, ?_, World.runCommand_of_schema hsettings hload⟩
  rw [hfails]
  rintro (⟨_, h⟩ | ⟨_, h⟩)
  · cases h
  · cases h

end Ambient
