/-
  Ambient/Proofs/LiteralTypes.lean
  ================================
  **Which literals are declared as types.**

  A constant is declared with its value in the place of its type if `isLiteral` takes the value
  for a literal.  What a literal may look like in a declaration is said here by a grammar
  (`IsLegalLiteral`), and the values that are taken for one are compared with it, kind by kind.
  `isLiteral` lets pass what the grammar does not: line ends between quotes and a last line feed,
  digits of any script, and zeros in front of other digits (`isLegalLiteral_iff`).  Quoting a
  text keeps the line ends in it, so those are what separates the texts of constants
  (`declared_literal_legal_iff`).
-/
import Ambient.Declaration.Build

namespace Ambient

/-! ### The grammar of literals -/

/-- What may stand between single quotes: a quote or a backslash only behind a backslash that
    escapes it, and no line feed or carriage return. -/
inductive IsQuotedBody : Text → Prop
  | nil : IsQuotedBody []
  | plain {c : CodePoint} {rest : Text} (hquote : c ≠ '\'') (hbackslash : c ≠ '\\')
      (hfeed : c ≠ '\n') (hreturn : c ≠ '\r') (h : IsQuotedBody rest) : IsQuotedBody (c :: rest)
  | escaped {c : CodePoint} {rest : Text} (hfeed : c ≠ '\n') (hreturn : c ≠ '\r')
      (h : IsQuotedBody rest) : IsQuotedBody (.scalar '\\' :: c :: rest)

def AreDigits (isDigit : CodePoint → Bool) (t : Text) : Prop :=
  t ≠ [] ∧ ∀ c ∈ t, isDigit c = true

/-- A minus sign or none, digits of one kind, and perhaps a point with more of them. -/
structure NumeralCut (isDigit : CodePoint → Bool) (sign whole fraction : Text) : Prop where
  sign : sign = [] ∨ sign = [.scalar '-']
  whole : AreDigits isDigit whole
  fraction : fraction = [] ∨ ∃ digits, fraction = .scalar '.' :: digits ∧ AreDigits isDigit digits

/-- The literals that a declaration can have as types: a text in single quotes, a decimal numeral
    with digits of ASCII and without a zero in front of other digits, and the truth values. -/
inductive IsLegalLiteral : Text → Prop
  | quoted {body : Text} (h : IsQuotedBody body) :
      IsLegalLiteral (.scalar '\'' :: body ++ [.scalar '\''])
  | numeral {sign whole fraction : Text}
      (h : NumeralCut CodePoint.isAsciiDigit sign whole fraction)
      (hleading : whole.head? = some (.scalar '0') → whole.length = 1) :
      IsLegalLiteral (sign ++ whole ++ fraction)
  | yes : IsLegalLiteral "true"
  | no : IsLegalLiteral "false"

/-- Digits of ASCII only, and no digit behind a leading zero. -/
structure PlainDigits (t : Text) : Prop where
  ascii : ∀ c ∈ t, c.isDecimalDigit = true → c.isAsciiDigit = true
  leading : ∀ c rest, dropMinus t = .scalar '0' :: c :: rest → c.isDecimalDigit = false

/-! ### Numerals -/

namespace NumeralCut

variable {isDigit : CodePoint → Bool} {sign whole fraction : Text}

/-- A numeral holds digits, a sign and a point, and nothing else. -/
theorem notMem (h : NumeralCut isDigit sign whole fraction) {c : CodePoint}
    (hdigit : isDigit c = false) (hminus : c ≠ '-') (hpoint : c ≠ '.') :
    c ∉ sign ++ whole ++ fraction := by
  have hnone {t : Text} (ht : AreDigits isDigit t) : c ∉ t := fun hc =>
    nomatch hdigit.symm.trans (ht.2 c hc)
  refine Text.notMem_append (Text.notMem_append ?_ (hnone h.whole)) ?_
  · rcases h.sign with rfl | rfl
    · exact List.not_mem_nil
    · exact fun hc => hminus (List.mem_singleton.1 hc)
  · rcases h.fraction with rfl | ⟨digits, rfl, hdigits⟩
    · exact List.not_mem_nil
    · rw [List.mem_cons, not_or]
      exact ⟨hpoint, hnone hdigits⟩

/-- The digits of a numeral may be read as digits of another kind. -/
theorem mono {isDigit' : CodePoint → Bool} (h : NumeralCut isDigit sign whole fraction)
    (himp : ∀ c ∈ sign ++ whole ++ fraction, isDigit c = true → isDigit' c = true) :
    NumeralCut isDigit' sign whole fraction := by
  refine ⟨h.sign, ⟨h.whole.1, ?_⟩, ?_⟩
  · intro c hc
    exact himp c (by simp [hc]) (h.whole.2 c hc)
  · rcases h.fraction with rfl | ⟨digits, rfl, hne, hdigits⟩
    · exact Or.inl rfl
    · exact Or.inr ⟨digits, rfl, hne, fun c hc => himp c (by simp [hc]) (hdigits c hc)⟩

theorem dropMinus_eq (h : NumeralCut isDigit sign whole fraction) (hminus : isDigit '-' = false) :
    dropMinus (sign ++ whole ++ fraction) = whole ++ fraction := by
  rcases h.sign with rfl | rfl
  · obtain ⟨first, digits, rfl⟩ := List.exists_cons_of_ne_nil h.whole.1
    have hfirst : first ≠ .scalar '-' := by
      rintro rfl
      exact nomatch hminus.symm.trans (h.whole.2 _ List.mem_cons_self)
    rw [List.nil_append, List.cons_append, dropMinus]
    exact fun _ hcut => hfirst (List.cons.inj hcut).1
  · rfl

end NumeralCut

theorem exists_digits_of_afterDigits? {t rest : Text} (h : afterDigits? t = some rest) :
    ∃ digits, t = digits ++ rest ∧ AreDigits CodePoint.isDecimalDigit digits := by
  cases t with
  | nil => cases h
  | cons c more =>
    rw [afterDigits?] at h
    split at h
    · next hc =>
      obtain rfl := Option.some.inj h
      refine ⟨c :: more.takeWhile CodePoint.isDecimalDigit, ?_, List.cons_ne_nil _ _, ?_⟩
      · rw [List.cons_append, List.takeWhile_append_dropWhile]
      · rw [List.forall_mem_cons]
        exact ⟨hc, List.all_eq_true.1 List.all_takeWhile⟩
    · cases h

theorem exists_sign (t : Text) :
    ∃ sign, t = sign ++ dropMinus t ∧ (sign = [] ∨ sign = [.scalar '-']) := by
  fun_cases dropMinus t with
  | case1 rest => exact ⟨[.scalar '-'], rfl, Or.inr rfl⟩
  | case2 => exact ⟨[], rfl, Or.inl rfl⟩

/-- A text that is over has nothing but perhaps a line feed. -/
theorem eq_nil_of_isOver {t : Text} (h : Text.isOver t = true) (hfeed : .scalar '\n' ∉ t) :
    t = [] := by
  rw [Text.isOver, Bool.or_eq_true, decide_eq_true_eq, decide_eq_true_eq] at h
  refine h.resolve_right ?_
  rintro rfl
  exact hfeed List.mem_cons_self

theorem exists_cut_of_isNumeral {t : Text} (h : isNumeral t = true) (hfeed : .scalar '\n' ∉ t) :
    ∃ sign whole fraction, t = sign ++ whole ++ fraction ∧
      NumeralCut CodePoint.isDecimalDigit sign whole fraction := by
  obtain ⟨sign, hsign, hminus⟩ := exists_sign t
  rw [isNumeral] at h
  split at h
  · exact nomatch h
  · next rest hwhole =>
    obtain ⟨whole, hcut, hdigits⟩ := exists_digits_of_afterDigits? hwhole
    split at h
    · exact nomatch h
    · next behind hfraction =>
      obtain ⟨digits, rfl, hdigits'⟩ := exists_digits_of_afterDigits? hfraction
      rw [hsign, hcut] at hfeed
      obtain rfl := eq_nil_of_isOver h (by simp_all)
      refine ⟨sign, whole, .scalar '.' :: digits, ?_, hminus, hdigits,
        Or.inr ⟨digits, rfl, hdigits'⟩⟩
      rw [List.append_assoc, hsign, hcut, List.append_nil]
  · next rest hpoint hwhole =>
    obtain ⟨whole, hcut, hdigits⟩ := exists_digits_of_afterDigits? hwhole
    rw [hsign, hcut] at hfeed
    obtain rfl := eq_nil_of_isOver h (by simp_all)
    refine ⟨sign, whole, [], ?_, hminus, hdigits, Or.inl rfl⟩
    rw [List.append_assoc, hsign, hcut, List.append_nil]

/-- A numeral with plain digits is a legal literal. -/
theorem NumeralCut.isLegalLiteral {sign whole fraction : Text}
    (h : NumeralCut CodePoint.isDecimalDigit sign whole fraction)
    (hplain : PlainDigits (sign ++ whole ++ fraction)) :
    IsLegalLiteral (sign ++ whole ++ fraction) := by
  refine .numeral (h.mono hplain.ascii) ?_
  intro hzero
  obtain ⟨first, digits, rfl⟩ := List.exists_cons_of_ne_nil h.whole.1
  obtain rfl : first = .scalar '0' := Option.some.inj hzero
  cases digits with
  | nil => rfl
  | cons c digits =>
    have hnone := hplain.leading c (digits ++ fraction) (h.dropMinus_eq (by decide))
    exact nomatch hnone.symm.trans (h.whole.2 c (by simp))

/-- The digits of a legal numeral are plain. -/
theorem NumeralCut.plainDigits {sign whole fraction : Text}
    (h : NumeralCut CodePoint.isAsciiDigit sign whole fraction)
    (hleading : whole.head? = some (.scalar '0') → whole.length = 1) :
    PlainDigits (sign ++ whole ++ fraction) := by
  refine ⟨?_, ?_⟩
  · intro c hc hdigit
    cases hascii : c.isAsciiDigit with
    | true => rfl
    | false =>
      -- what is no digit of ASCII is the sign or the point, and those are no digits at all
      refine absurd hc (h.notMem hascii ?_ ?_)
      · rintro rfl
        exact absurd hdigit (by decide)
      · rintro rfl
        exact absurd hdigit (by decide)
  · intro c rest hcut
    rw [h.dropMinus_eq (by decide)] at hcut
    obtain ⟨first, digits, rfl⟩ := List.exists_cons_of_ne_nil h.whole.1
    obtain ⟨rfl, hbehind⟩ := List.cons.inj hcut
    obtain rfl : digits = [] := List.length_eq_zero_iff.1 (Nat.succ.inj (hleading rfl))
    rcases h.fraction with rfl | ⟨digits, rfl, -⟩
    · exact nomatch hbehind
    · obtain ⟨rfl, -⟩ := List.cons.inj hbehind
      decide

/-! ### Quoted texts -/

/-- The text up to a closing quote is one that may stand between quotes, if no line ends in it. -/
theorem exists_body_of_afterQuoted? {t behind : Text} (h : afterQuoted? t = some behind)
    (hfeed : .scalar '\n' ∉ t) (hreturn : .scalar '\r' ∉ t) :
    ∃ body, t = body ++ .scalar '\'' :: behind ∧ IsQuotedBody body := by
  fun_induction afterQuoted? t with
  | case1 => exact nomatch h
  | case2 rest =>
    obtain rfl := Option.some.inj h
    exact ⟨[], rfl, .nil⟩
  | case3 => exact nomatch h
  | case4 => exact nomatch h
  | case5 c rest hc ih =>
    simp only [List.mem_cons, not_or] at hfeed hreturn
    obtain ⟨body, rfl, hbody⟩ := ih h hfeed.2.2 hreturn.2.2
    exact ⟨_, rfl, .escaped hc (Ne.symm hreturn.2.1) hbody⟩
  | case6 c rest hquote hlast hmore ih =>
    have hbackslash : c ≠ '\\' := by
      intro hc
      cases hrest : rest with
      | nil => exact hlast hc hrest
      | cons d more => exact hmore d more hc hrest
    rw [List.mem_cons, not_or] at hfeed hreturn
    obtain ⟨body, rfl, hbody⟩ := ih h hfeed.2 hreturn.2
    exact ⟨_, rfl, .plain hquote hbackslash (Ne.symm hfeed.1) (Ne.symm hreturn.1) hbody⟩

theorem IsQuotedBody.notMem {body : Text} (h : IsQuotedBody body) {c : CodePoint}
    (hend : c = '\n' ∨ c = '\r') : c ∉ body := by
  have hbackslash : c ≠ '\\' := by
    rcases hend with rfl | rfl
    · decide
    · decide
  have hne {d : CodePoint} (hfeed : d ≠ '\n') (hreturn : d ≠ '\r') : c ≠ d := by
    rcases hend with rfl | rfl
    · exact Ne.symm hfeed
    · exact Ne.symm hreturn
  induction h with
  | nil => exact List.not_mem_nil
  | plain _ _ hfeed hreturn _ ih =>
    rw [List.mem_cons, not_or]
    exact ⟨hne hfeed hreturn, ih⟩
  | escaped hfeed hreturn _ ih =>
    rw [List.mem_cons, not_or, List.mem_cons, not_or]
    exact ⟨hbackslash, hne hfeed hreturn, ih⟩

theorem isLegalLiteral_of_isQuoted {t : Text} (h : isQuoted t = true)
    (hfeed : .scalar '\n' ∉ t) (hreturn : .scalar '\r' ∉ t) : IsLegalLiteral t := by
  rw [isQuoted.eq_def] at h
  split at h
  · next rest =>
    rw [List.mem_cons, not_or] at hfeed hreturn
    split at h
    · exact nomatch h
    · next behind hafter =>
      obtain ⟨body, rfl, hbody⟩ := exists_body_of_afterQuoted? hafter hfeed.2 hreturn.2
      obtain rfl := eq_nil_of_isOver h fun hmem => hfeed.2 (by simp [hmem])
      exact .quoted hbody
  · exact nomatch h

/-! ### Literals that are legal -/

theorem eq_of_isTruthValue {t : Text} (h : isTruthValue t = true) (hfeed : .scalar '\n' ∉ t) :
    t = "true" ∨ t = "false" := by
  have hover {word rest : Text} (hcut : Text.dropStart? word t = some rest)
      (hrest : Text.isOver rest = true) : t = word := by
    obtain rfl := Text.dropStart?_eq_some_iff.1 hcut
    obtain rfl := eq_nil_of_isOver hrest fun hmem => hfeed (by simp [hmem])
    exact List.append_nil _
  cases hyes : Text.dropStart? "true" t with
  | some rest =>
    rw [isTruthValue, hyes] at h
    exact Or.inl (hover hyes h)
  | none =>
    cases hno : Text.dropStart? "false" t with
    | some rest =>
      rw [isTruthValue, hyes, hno] at h
      exact Or.inr (hover hno h)
    | none =>
      rw [isTruthValue, hyes, hno] at h
      exact nomatch h

theorem IsLegalLiteral.notMem {t : Text} (h : IsLegalLiteral t) {c : CodePoint}
    (hend : c = '\n' ∨ c = '\r') : c ∉ t := by
  have hplain : c.isAsciiDigit = false ∧ c ≠ '-' ∧ c ≠ '.' ∧ c ≠ '\'' ∧
      c ∉ ("true" : Text) ∧ c ∉ ("false" : Text) := by
    rcases hend with rfl | rfl
    · decide
    · decide
  obtain ⟨hdigit, hminus, hpoint, hquote, hyes, hno⟩ := hplain
  cases h with
  | quoted hbody =>
    have hmark : c ∉ [CodePoint.scalar '\''] := fun hc => hquote (List.mem_singleton.1 hc)
    rw [List.cons_append, List.mem_cons, not_or]
    exact ⟨hquote, Text.notMem_append (hbody.notMem hend) hmark⟩
  | numeral hcut _ => exact hcut.notMem hdigit hminus hpoint
  | yes => exact hyes
  | no => exact hno

theorem PlainDigits.of_forall {t : Text} (hminus : dropMinus t = t)
    (h : ∀ c ∈ t, c.isDecimalDigit = false) : PlainDigits t := by
  refine ⟨fun c hc hdigit => absurd (hdigit.symm.trans (h c hc)) (by decide), ?_⟩
  intro c rest hcut
  rw [hminus] at hcut
  exact h c (by simp [hcut])

/-- **The legal ones among the values that are taken for literals.**  No line ends in them, and
    they are texts in quotes or have plain digits. -/
theorem isLegalLiteral_iff {t : Text} (h : isLiteral t = true) :
    IsLegalLiteral t ↔ .scalar '\n' ∉ t ∧ .scalar '\r' ∉ t ∧
      (t.head? = some (.scalar '\'') ∨ PlainDigits t) := by
  constructor
  · intro hlegal
    refine ⟨hlegal.notMem (Or.inl rfl), hlegal.notMem (Or.inr rfl), ?_⟩
    cases hlegal with
    | quoted => exact Or.inl rfl
    | numeral hcut hleading => exact Or.inr (hcut.plainDigits hleading)
    | yes => exact Or.inr (.of_forall rfl (by decide))
    | no => exact Or.inr (.of_forall rfl (by decide))
  · rintro ⟨hfeed, hreturn, hdigits⟩
    rw [isLiteral, Bool.or_eq_true, Bool.or_eq_true] at h
    rcases h with (hquoted | hnumeral) | htruth
    · exact isLegalLiteral_of_isQuoted hquoted hfeed hreturn
    · obtain ⟨sign, whole, fraction, rfl, hcut⟩ := exists_cut_of_isNumeral hnumeral hfeed
      refine hcut.isLegalLiteral (hdigits.resolve_left ?_)
      intro hhead
      -- a numeral holds no quote
      have hquote : CodePoint.scalar '\'' ∉ sign ++ whole ++ fraction :=
        hcut.notMem (by decide) (by decide) (by decide)
      exact hquote (List.mem_of_head? hhead)
    · rcases eq_of_isTruthValue htruth hfeed with rfl | rfl
      · exact .yes
      · exact .no

/-! ### Values of properties -/

/-- The text of which the value of a property is made: its default, or for a constant text without
    one the name in lower case with hyphens. -/
def ItemDoc.valueText (item : ItemDoc) (type : Text) : Text :=
  let documented := item.defaultValue.getD []
  if item.isFinal && documented.isEmpty && type = "string" then
    Text.replace '_' "-" (Text.lower item.name)
  else documented

theorem propertyValue_eq_some {item : ItemDoc} {type value : Text}
    (h : propertyValue item type = some value) :
    value = if type = "string" then quote (item.valueText type) else item.valueText type := by
  have hvalue : propertyValue item type =
      if (item.valueText type).isEmpty then none
      else if type = "string" then some (quote (item.valueText type))
      else some (item.valueText type) := rfl
  rw [hvalue] at h
  split at h
  · exact nomatch h
  · split at h
    · next htype => rw [if_pos htype, Option.some.inj h]
    · next htype => rw [if_neg htype, Option.some.inj h]

/-- Quoting adds quotes and backslashes only. -/
theorem mem_quote_iff {c : CodePoint} (hquote : c ≠ '\'') (hbackslash : c ≠ '\\') (t : Text) :
    c ∈ quote t ↔ c ∈ t := by
  have hmark : c ∉ ("'" : Text) := fun h => hquote (List.mem_singleton.1 h)
  have hpoint (d : CodePoint) : c ∈ escapePoint d ↔ c = d := by
    unfold escapePoint
    split
    · simp [hbackslash]
    · exact List.mem_singleton
  rw [quote, List.mem_append, List.mem_append, List.mem_flatMap]
  simp [hmark, hpoint]

namespace Context

/-- **What a constant is declared as.**  A value that is written in the place of the type is the
    quoted text of the constant if the type is that of texts, and that text as it is otherwise.  It
    is a legal literal exactly if no line ends in the text, and the text is quoted, by one or the
    other, or has plain digits. -/
theorem declared_literal_legal_iff {ctx : Context} {item : ItemDoc} {p : PropertyDecl}
    {value : Text} (hp : (ctx.buildProperty item).1 = p) (h : p.literal? = some value) :
    p.signature = item.name ++ ": " ++ value ∧
    value = (if p.type = "string" then quote (item.valueText p.type)
      else item.valueText p.type) ∧
    (IsLegalLiteral value ↔
      .scalar '\n' ∉ item.valueText p.type ∧ .scalar '\r' ∉ item.valueText p.type ∧
        (p.type = "string" ∨ (item.valueText p.type).head? = some (.scalar '\'') ∨
          PlainDigits (item.valueText p.type))) := by
  obtain ⟨hvalue, hshown⟩ := Option.filter_eq_some_iff.1 h
  have hliteral : isLiteral value = true := (Bool.and_eq_true_iff.1 hshown).2
  -- a property whose name cannot be declared has no value
  obtain ⟨hname, hsome⟩ : p.name = item.name ∧ propertyValue item p.type = some value := by
    subst hp
    simp only [buildProperty] at hvalue ⊢
    split at hvalue
    · next hsymbol =>
      rw [if_pos hsymbol]
      exact ⟨rfl, hvalue⟩
    · exact nomatch hvalue
  have hwritten := propertyValue_eq_some hsome
  refine ⟨?_, hwritten, ?_⟩
  · rw [PropertyDecl.signature, h, hname, Option.getD_some]
  · rw [isLegalLiteral_iff hliteral, hwritten]
    split
    · next htype =>
      have hhead (t : Text) : (quote t).head? = some (.scalar '\'') := rfl
      rw [mem_quote_iff (by decide) (by decide), mem_quote_iff (by decide) (by decide)]
      simp only [hhead, htype, true_or]
    · next htype => simp only [htype, false_or]

def constantText (name : Text) (defaultValue : Option Text) : ItemDoc :=
  ⟨⟨⟨[], none, false, false, none⟩, "src/constants.js", [], false, none, name⟩, "p5", .property,
    some "String", defaultValue, true⟩

def declaredText (name : Text) (defaultValue : Option Text) : PropertyDecl :=
  ((Context.start .standard []).buildProperty (constantText name defaultValue)).1

theorem declared_literal_legal_leftArrow :
    (declaredText "LEFT_ARROW" none).literal? = some "'left-arrow'" ∧
    (declaredText "LEFT_ARROW" none).signature = "LEFT_ARROW: 'left-arrow'" ∧
    IsLegalLiteral "'left-arrow'" := by
  have hshown : (declaredText "LEFT_ARROW" none).literal? = some "'left-arrow'" := by
    decide +kernel
  obtain ⟨hsignature, -, hlegal⟩ := declared_literal_legal_iff
    (show ((Context.start .standard []).buildProperty (constantText "LEFT_ARROW" none)).1 =
      declaredText "LEFT_ARROW" none from rfl) hshown
  have htype : (declaredText "LEFT_ARROW" none).type = "string" := by decide +kernel
  have htext : (constantText "LEFT_ARROW" none).valueText "string" = "left-arrow" := by
    decide +kernel
  rw [htype, htext] at hlegal
  exact ⟨hshown, hsignature, hlegal.2 ⟨by decide, by decide, Or.inl rfl⟩⟩

/-- A line feed in the text of a constant stands in its literal too. -/
theorem declared_literal_broken :
    (declaredText "GREETING" (some "one\ntwo")).literal? = some "'one\ntwo'" ∧
    (declaredText "GREETING" (some "one\ntwo")).signature = "GREETING: 'one\ntwo'" ∧
    ¬ IsLegalLiteral "'one\ntwo'" := by
  refine ⟨by decide +kernel, by decide +kernel, fun h => ?_⟩
  exact absurd (h.notMem (Or.inl rfl)) (by decide)

end Context

end Ambient
