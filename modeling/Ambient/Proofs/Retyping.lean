/-
  Ambient/Proofs/Retyping.lean
  ============================
  **What a build does to the parameters of one member.**

  Two things come of a parameter that takes one of several constants: its documented type is
  replaced (`Settings.retype`), and its constants are registered under the new type
  (`Settings.registrations`).  Neither depends on what was registered before, so a walk over
  parameters is a map over them together with a list of entries that are put into the table of
  the context one after the other (`inferConstants_eq`).

  Replacing types a second time changes nothing (`retype_retype`).  Registering does: a replaced
  type is only taken for constants again if it reads as the token for constants itself, so a
  second walk registers a part of the first one's entries (`registrations_retypeAll`).  That part
  has all entries under a type or none, so the table of one walk is not changed by the next
  (`inferConstants_again`).
-/
import Ambient.Constant.Infer

namespace Ambient

/-! ### Parameters with constant types -/

namespace Settings

/-- The parameter of a member as a build leaves it. -/
def retype (s : Settings) (member : Text) (p : Param) : Param :=
  match s.constantType? member p with
  | some (name, _) => { p with type := some name }
  | none => p

/-- The entries that some parameters, each with the name of its member, make in the table of
    constant types. -/
def registrations (s : Settings) (params : List (Text × Param)) : List (Text × List Text) :=
  params.filterMap fun q => s.constantType? q.1 q.2

theorem registrations_append (s : Settings) (params more : List (Text × Param)) :
    s.registrations (params ++ more) = s.registrations params ++ s.registrations more :=
  List.filterMap_append

def readsAsConstant (s : Settings) (type : Text) : Bool := type.trim = s.constantToken

/-- The constant type of a parameter that was given one is the same, if there still is one. -/
theorem constantType?_retype (s : Settings) (member : Text) (p : Param) :
    s.constantType? member (s.retype member p) =
      (s.constantType? member p).filter fun e => s.readsAsConstant e.1 := by
  cases h : s.constantType? member p with
  | none => simp [retype, h]
  | some e =>
    obtain ⟨name, values⟩ := e
    -- the constants are read from the name and the description, which stay
    have hsame : s.constantsOf member (s.retype member p) = s.constantsOf member p := by
      simp [retype, h, constantsOf]
    have hvalues := h
    simp only [constantType?, Option.ite_none_right_eq_some, Bool.and_eq_true,
      Option.some.injEq, Prod.mk.injEq] at hvalues
    obtain ⟨⟨-, hne⟩, hname, hv⟩ := hvalues
    have hretyped : s.isConstantParam (s.retype member p) = s.readsAsConstant name := by
      simp [retype, h, isConstantParam, readsAsConstant]
    have hkept : (s.retype member p).name = p.name := by simp [retype, h]
    rw [hv] at hne
    simp only [constantType?, hretyped, hsame, hkept, hname, hv, hne, Bool.and_true,
      Option.filter_some]

theorem retype_retype (s : Settings) (member : Text) (p : Param) :
    s.retype member (s.retype member p) = s.retype member p := by
  cases h : s.constantType? member p with
  | none =>
    have hp : s.retype member p = p := by simp [retype, h]
    rw [hp, hp]
  | some e =>
    have hagain := s.constantType?_retype member p
    rw [h, Option.filter_some] at hagain
    generalize hp : s.retype member p = p' at hagain ⊢
    simp only [retype, h] at hp
    unfold retype
    rw [hagain]
    subst hp
    split
    · next he =>
      split at he
      · cases he; rfl
      · exact nomatch he
    · rfl

def retypeAll (s : Settings) (params : List (Text × Param)) : List (Text × Param) :=
  params.map fun q => (q.1, s.retype q.1 q.2)

/-- Of the entries that parameters made, those that parameters with the new types make again. -/
theorem registrations_retypeAll (s : Settings) (params : List (Text × Param)) :
    s.registrations (s.retypeAll params) =
      (s.registrations params).filter fun e => s.readsAsConstant e.1 := by
  simp only [registrations, retypeAll, List.filterMap_map, List.filter_filterMap,
    Function.comp_def, constantType?_retype]

/-- Whether a build of parameters with their new types registers what the first one did. -/
def Recurring (s : Settings) (params : List (Text × Param)) : Prop :=
  ∀ e ∈ s.registrations params, s.readsAsConstant e.1 = true

theorem recurring_append {s : Settings} {params more : List (Text × Param)} :
    s.Recurring (params ++ more) ↔ s.Recurring params ∧ s.Recurring more := by
  simp only [Recurring, registrations_append, List.forall_mem_append]

theorem registrations_of_recurring {s : Settings} {params : List (Text × Param)}
    (h : s.Recurring params) : s.registrations (s.retypeAll params) = s.registrations params := by
  rw [registrations_retypeAll]
  exact List.filter_eq_self.2 h

end Settings

/-! ### Signatures and entries -/

namespace Settings

def retypeSignature (s : Settings) (member : Text) (sig : Signature) : Signature :=
  { sig with params := sig.params.map (s.retype member) }

def retypeEntry (s : Settings) (e : Entry) : Entry :=
  e.withSignatures (e.signatures.map (s.retypeSignature e.name))

end Settings

def Signature.memberParams (member : Text) (sig : Signature) : List (Text × Param) :=
  sig.params.map (Prod.mk member)

def Entry.memberParams (e : Entry) : List (Text × Param) :=
  e.signatures.flatMap (Signature.memberParams e.name)

namespace Settings

theorem memberParams_retypeSignature (s : Settings) (member : Text) (sig : Signature) :
    (s.retypeSignature member sig).memberParams member =
      s.retypeAll (sig.memberParams member) := by
  simp [Signature.memberParams, retypeSignature, retypeAll, Function.comp_def]

end Settings

namespace Context

/-- A walk over parameters gives them their constant types, and registers these. -/
theorem inferConstants_eq (ctx : Context) (member : Text) (params : List Param) :
    ctx.inferConstants member params =
      (params.map (ctx.settings.retype member),
        { ctx with
          constants := ctx.constants.insertAll
            (ctx.settings.registrations (params.map (Prod.mk member))) }) := by
  induction params generalizing ctx with
  | nil => rfl
  | cons p rest ih =>
    simp only [inferConstants, inferConstant, ih, List.map_cons, Settings.retype]
    cases h : ctx.settings.constantType? member p with
    | none => simp [Settings.registrations, h]
    | some e =>
      obtain ⟨name, values⟩ := e
      simp [Settings.registrations, h, registerConstant, Table.insertAll]

/-- A second walk over recurring parameters does what the first one did. -/
theorem inferConstants_retype (ctx : Context) (member : Text) {sig : Signature}
    (h : ctx.settings.Recurring (sig.memberParams member)) :
    ctx.inferConstants member (ctx.settings.retypeSignature member sig).params =
      ctx.inferConstants member sig.params := by
  have hregistered := Settings.registrations_of_recurring h
  rw [← Settings.memberParams_retypeSignature] at hregistered
  simp only [Signature.memberParams] at hregistered
  have hparams : (ctx.settings.retypeSignature member sig).params.map
      (ctx.settings.retype member) = sig.params.map (ctx.settings.retype member) := by
    simp only [Settings.retypeSignature, List.map_map, Function.comp_def, Settings.retype_retype]
  rw [inferConstants_eq, inferConstants_eq, hregistered, hparams]

/-- **Inferring constant types a second time changes nothing.**  The parameters and the context
    stay as the first time left them, whatever token marks a parameter as taking constants, and
    whichever parameters are given the same type.  A second time can only register again what
    the first one did, and all the parameters with one type do so or none of them. -/
theorem inferConstants_again (ctx : Context) (member : Text) (params : List Param) :
    (ctx.inferConstants member params).2.inferConstants member
        (ctx.inferConstants member params).1 = ctx.inferConstants member params := by
  have hretyped : (params.map (ctx.settings.retype member)).map (ctx.settings.retype member) =
      params.map (ctx.settings.retype member) := by
    rw [List.map_map]
    exact List.map_congr_left fun p _ => ctx.settings.retype_retype member p
  have hregistered :
      ctx.settings.registrations
          ((params.map (ctx.settings.retype member)).map (Prod.mk member)) =
        (ctx.settings.registrations (params.map (Prod.mk member))).filter
          fun e => ctx.settings.readsAsConstant e.1 := by
    rw [← Settings.registrations_retypeAll, Settings.retypeAll, List.map_map, List.map_map]
    rfl
  simp only [inferConstants_eq]
  rw [hretyped, hregistered, Table.insertAll_insertAll_filter]

end Context

end Ambient
