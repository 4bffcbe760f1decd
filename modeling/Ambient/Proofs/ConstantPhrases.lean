/-
  Ambient/Proofs/ConstantPhrases.lean
  ===================================
  **Constants listed in a description are read back.**

  A description lists constants as a `Phrase`: the first one, and the others each behind a
  separator, which is a comma, the word "or", or both.  A constant is written plain, between
  backticks, or between two tags.  In front of the phrase stand the word "either" and a space, and
  before these a text that is no phrase itself (`IsLeadIn`); behind it stands nothing, or a point
  and any text.

  Markup is dropped before the description is read, so all that is left of a phrase are the names
  and separators (`stripMarkup_text_append`).  The search for "either" passes over the text in front
  (`firstListed_lead`), and from there on one constant after the other is read, each up to its
  separator (`listedConstants_name`), until the point or the end (`listedConstants_plainText`).
  What is read are the names of the phrase, each once (`extractConstants_phrase`).
-/
import Ambient.Constant.Phrase
import Ambient.Proofs.CapitalSymbols

namespace Ambient

/-! ### Phrases -/

/-- A name of ASCII capitals, digits and underscores, a capital first. -/
def IsConstantName (name : Text) : Prop :=
  ∃ first rest, name = first :: rest ∧ first.isAsciiUpper = true ∧
    ∀ c ∈ rest, c.isAsciiUpper = true ∨ c.isAsciiDigit = true ∨ c = '_'

structure Tag where
  inner : Text
  ne_nil : inner ≠ []
  notMem : .scalar '>' ∉ inner

def Tag.text (tag : Tag) : Text := .scalar '<' :: (tag.inner ++ [.scalar '>'])

/-- How a constant is set off from the words around it. -/
inductive Markup where
  | plain
  | ticks
  | tags (opening closing : Tag)

def Markup.around (name : Text) : Markup → Text
  | plain => name
  | ticks => .scalar '\x60' :: (name ++ [.scalar '\x60'])
  | tags opening closing => opening.text ++ (name ++ closing.text)

structure Mention where
  name : Text
  isConstantName : IsConstantName name
  markup : Markup

def Mention.text (m : Mention) : Text := m.markup.around m.name

inductive Separator where
  | comma
  | or
  | commaOr

def Separator.text : Separator → Text
  | comma => ", "
  | or => " or "
  | commaOr => ", or "

/-- A list of constants: the first one, and the others each behind a separator. -/
structure Phrase where
  first : Mention
  others : List (Separator × Mention)

namespace Phrase

def text (p : Phrase) : Text :=
  p.first.text ++ p.others.flatMap fun o => o.1.text ++ o.2.text

def plainText (p : Phrase) : Text :=
  p.first.name ++ p.others.flatMap fun o => o.1.text ++ o.2.name

def names (p : Phrase) : List Text := p.first.name :: p.others.map fun o => o.2.name

theorem plainText_cons (first next : Mention) (separator : Separator)
    (others : List (Separator × Mention)) :
    plainText ⟨first, (separator, next) :: others⟩ =
      first.name ++ (separator.text ++ plainText ⟨next, others⟩) := by
  simp [plainText]

theorem text_cons (first next : Mention) (separator : Separator)
    (others : List (Separator × Mention)) :
    text ⟨first, (separator, next) :: others⟩ =
      first.text ++ (separator.text ++ text ⟨next, others⟩) := by
  simp [text]

end Phrase

/-- The texts that may stand in front of "either": empty or with a space at the end, without
    markup, and without the word itself in any spelling of its first letter. -/
structure IsLeadIn (t : Text) : Prop where
  space : t = [] ∨ t.getLast? = some (.scalar ' ')
  noTag : .scalar '<' ∉ t
  noTick : .scalar '\x60' ∉ t
  noWord : Text.mentions "ither" t = false

/-! ### Without markup -/

namespace IsConstantName

variable {name : Text}

theorem notMem (h : IsConstantName name) {c : CodePoint} (hupper : c.isAsciiUpper = false)
    (hdigit : c.isAsciiDigit = false) (hne : c ≠ '_') : c ∉ name := by
  obtain ⟨first, rest, rfl, hfirst, hrest⟩ := h
  rw [List.mem_cons, not_or]
  refine ⟨?_, ?_⟩
  · rintro rfl
    exact Bool.false_ne_true (hupper.symm.trans hfirst)
  · intro hc
    rcases hrest c hc with hletter | hnumber | hline
    · exact Bool.false_ne_true (hupper.symm.trans hletter)
    · exact Bool.false_ne_true (hdigit.symm.trans hnumber)
    · exact hne hline

/-- Dropping markup leaves a name as it is. -/
theorem stripMarkup_append (h : IsConstantName name) (rest : Text) :
    Text.stripMarkup (name ++ rest) = name ++ Text.stripMarkup rest :=
  Text.stripMarkup_append_of_notMem (h.notMem (by decide) (by decide) (by decide))
    (h.notMem (by decide) (by decide) (by decide)) rest

end IsConstantName

theorem Tag.stripMarkup_append (tag : Tag) (rest : Text) :
    Text.stripMarkup (tag.text ++ rest) = Text.stripMarkup rest := by
  have htag : tag.text ++ rest = .scalar '<' :: (tag.inner ++ .scalar '>' :: rest) := by
    simp [text]
  rw [htag, Text.stripMarkup_tag_append tag.ne_nil tag.notMem]

theorem Mention.stripMarkup_append (m : Mention) (rest : Text) :
    Text.stripMarkup (m.text ++ rest) = m.name ++ Text.stripMarkup rest := by
  obtain ⟨name, hname, markup⟩ := m
  unfold text Markup.around
  cases markup with
  | plain => exact hname.stripMarkup_append rest
  | ticks =>
    dsimp only
    rw [List.cons_append, Text.stripMarkup_tick_cons, List.append_assoc,
      hname.stripMarkup_append, List.singleton_append, Text.stripMarkup_tick_cons]
  | tags opening closing =>
    dsimp only
    rw [List.append_assoc, opening.stripMarkup_append, List.append_assoc,
      hname.stripMarkup_append, closing.stripMarkup_append]

theorem Separator.stripMarkup_append (separator : Separator) (rest : Text) :
    Text.stripMarkup (separator.text ++ rest) = separator.text ++ Text.stripMarkup rest := by
  have hplain : .scalar '<' ∉ separator.text ∧ .scalar '\x60' ∉ separator.text := by
    cases separator <;> decide
  exact Text.stripMarkup_append_of_notMem hplain.1 hplain.2 rest

/-- Without markup a phrase is its names and separators. -/
theorem stripMarkup_text_append (p : Phrase) (rest : Text) :
    Text.stripMarkup (p.text ++ rest) = p.plainText ++ Text.stripMarkup rest := by
  obtain ⟨first, others⟩ := p
  induction others generalizing first with
  | nil =>
    have htext : Phrase.text ⟨first, []⟩ = first.text := List.append_nil _
    have hplain : Phrase.plainText ⟨first, []⟩ = first.name := List.append_nil _
    rw [htext, hplain, first.stripMarkup_append]
  | cons o others ih =>
    obtain ⟨separator, next⟩ := o
    rw [Phrase.text_cons, Phrase.plainText_cons, List.append_assoc, List.append_assoc,
      List.append_assoc, List.append_assoc, first.stripMarkup_append,
      separator.stripMarkup_append, ih]

/-! ### Reading a list -/

/-- What may stand behind a constant: nothing, or a code point that belongs to no word. -/
def EndsConstant (rest : Text) : Prop :=
  ∀ c, rest.head? = some c → c.isWord = false ∧ isConstantInner c = false

theorem endsConstant_cons {c : CodePoint} (hword : c.isWord = false)
    (hinner : isConstantInner c = false) (rest : Text) : EndsConstant (c :: rest) := by
  rintro d hd
  obtain rfl := Option.some.inj hd
  exact ⟨hword, hinner⟩

theorem Separator.endsConstant (separator : Separator) (rest : Text) :
    EndsConstant (separator.text ++ rest) := by
  cases separator with
  | comma => exact endsConstant_cons (by decide) (by decide) _
  | or => exact endsConstant_cons (by decide) (by decide) _
  | commaOr => exact endsConstant_cons (by decide) (by decide) _

/-- A constant is read up to its end, and the list goes on behind the separator. -/
theorem listedConstants_name {name rest : Text} (hname : IsConstantName name)
    (hrest : EndsConstant rest) :
    listedConstants (name ++ rest) = name :: listedConstants (afterSeparator rest) := by
  obtain ⟨first, inner, rfl, hfirst, hinner⟩ := hname
  have hall : ∀ c ∈ inner, isConstantInner c = true := by
    intro c hc
    rcases hinner c hc with hletter | hdigit | hline
    · simp [isConstantInner, hletter]
    · simp [isConstantInner, hdigit]
    · simp [isConstantInner, hline]
  have hstop : rest.takeWhile isConstantInner = [] ∧ rest.dropWhile isConstantInner = rest ∧
      Text.startsWord rest = false := by
    cases rest with
    | nil => exact ⟨rfl, rfl, rfl⟩
    | cons c rest =>
      obtain ⟨hword, hc⟩ := hrest c rfl
      exact ⟨List.takeWhile_cons_of_neg (Bool.eq_false_iff.1 hc),
        List.dropWhile_cons_of_neg (Bool.eq_false_iff.1 hc), hword⟩
  obtain ⟨htaken, hdropped, hword⟩ := hstop
  rw [List.cons_append, listedConstants, List.takeWhile_append_of_pos hall,
    List.dropWhile_append_of_pos hall, htaken, hdropped, List.append_nil, hfirst, hword]
  rfl

theorem not_blank_of_isAsciiUpper {c : CodePoint} (h : c.isAsciiUpper = true) :
    c.isBlank = false := by
  apply CodePoint.isBlank_of_isSymbolPart
  simp [CodePoint.isSymbolPart, CodePoint.isSymbolStart, CodePoint.isSymbolLetter, h]

theorem IsConstantName.trimStart_append {name : Text} (h : IsConstantName name) (rest : Text) :
    Text.trimStart (name ++ rest) = name ++ rest := by
  obtain ⟨first, inner, rfl, hfirst, -⟩ := h
  apply Text.trimStart_eq_self
  intro c hc
  obtain rfl := Option.some.inj hc
  exact not_blank_of_isAsciiUpper hfirst

/-- A constant begins with a capital. -/
theorem IsConstantName.append_ne_cons {name : Text} (h : IsConstantName name) {c : CodePoint}
    (hc : c.isAsciiUpper = false) {rest more : Text} : name ++ rest ≠ c :: more := by
  obtain ⟨first, inner, rfl, hfirst, -⟩ := h
  intro hcut
  obtain rfl := (List.cons.inj hcut).1
  exact Bool.false_ne_true (hc.symm.trans hfirst)

/-- A separator is passed over as a whole, up to the next constant. -/
theorem afterSeparator_separator (separator : Separator) {name : Text} (h : IsConstantName name)
    (rest : Text) : afterSeparator (separator.text ++ (name ++ rest)) = name ++ rest := by
  have htrim := h.trimStart_append rest
  have hspace : Text.trimStart (.scalar ' ' :: (name ++ rest)) = name ++ rest :=
    (List.dropWhile_cons_of_pos (by decide)).trans htrim
  have hor : dropOr (name ++ rest) = name ++ rest := by
    rw [dropOr]
    exact fun _ => h.append_ne_cons (by decide)
  have hword (t : Text) :
      Text.trimStart (.scalar ' ' :: .scalar 'o' :: .scalar 'r' :: .scalar ' ' :: t) =
        .scalar 'o' :: .scalar 'r' :: .scalar ' ' :: t := rfl
  have hdropped (t : Text) :
      dropOr (.scalar 'o' :: .scalar 'r' :: .scalar ' ' :: t) = .scalar ' ' :: t := rfl
  unfold afterSeparator
  cases separator with
  | comma =>
    change Text.trimStart (dropOr (Text.trimStart (.scalar ' ' :: (name ++ rest)))) = _
    rw [hspace, hor, htrim]
  | or =>
    change Text.trimStart (dropOr (.scalar 'o' :: .scalar 'r' :: .scalar ' ' :: (name ++ rest))) = _
    rw [hdropped, hspace]
  | commaOr =>
    change Text.trimStart (dropOr (Text.trimStart
      (.scalar ' ' :: .scalar 'o' :: .scalar 'r' :: .scalar ' ' :: (name ++ rest)))) = _
    rw [hword, hdropped, hspace]

def EndsPhrase (rest : Text) : Prop := rest = [] ∨ rest.head? = some (.scalar '.')

theorem EndsPhrase.endsConstant {rest : Text} (h : EndsPhrase rest) : EndsConstant rest := by
  rintro c hc
  rcases h with rfl | hpoint
  · cases hc
  · obtain rfl := Option.some.inj (hc.symm.trans hpoint)
    decide

theorem EndsPhrase.listedConstants_afterSeparator {rest : Text} (h : EndsPhrase rest) :
    listedConstants (afterSeparator rest) = [] := by
  cases rest with
  | nil => rw [show afterSeparator [] = [] from rfl, listedConstants]
  | cons c rest =>
    obtain rfl : c = '.' := by
      rcases h with hnil | hpoint
      · cases hnil
      · exact Option.some.inj hpoint
    have hkept : afterSeparator (.scalar '.' :: rest) = .scalar '.' :: rest := rfl
    have hletter : CodePoint.isAsciiUpper '.' = false := by decide
    rw [hkept, listedConstants, hletter, Bool.false_and]
    rfl

/-- A phrase without markup is read to its end. -/
theorem listedConstants_plainText (p : Phrase) {rest : Text} (hrest : EndsPhrase rest) :
    listedConstants (p.plainText ++ rest) = p.names := by
  obtain ⟨first, others⟩ := p
  induction others generalizing first with
  | nil =>
    have hplain : Phrase.plainText ⟨first, []⟩ = first.name := List.append_nil _
    rw [hplain, listedConstants_name first.isConstantName hrest.endsConstant,
      hrest.listedConstants_afterSeparator]
    rfl
  | cons o others ih =>
    obtain ⟨separator, next⟩ := o
    have hnext : Phrase.plainText ⟨next, others⟩ ++ rest = next.name ++ _ := List.append_assoc _ _ _
    rw [Phrase.plainText_cons, List.append_assoc, List.append_assoc,
      listedConstants_name first.isConstantName (separator.endsConstant _), hnext,
      afterSeparator_separator separator next.isConstantName, ← hnext, ih]
    rfl

/-! ### Finding the phrase -/

theorem firstListed_of_afterEither? {c : CodePoint} {rest : Text}
    (h : afterEither? (c :: rest) = none) (behindWord : Bool) :
    firstListed behindWord (c :: rest) = firstListed c.isWord rest := by
  rw [firstListed, h]
  cases behindWord with
  | true => rfl
  | false => rfl

/-- The search passes over a text without the word, up to the space behind it. -/
theorem firstListed_lead {lead : Text} (h : Text.mentions "ither" lead = false) (rest : Text)
    (behindWord : Bool) :
    firstListed behindWord (lead ++ .scalar ' ' :: rest) = firstListed false rest := by
  induction lead generalizing behindWord with
  | nil => exact firstListed_of_afterEither? rfl behindWord
  | cons c lead ih =>
    rw [Text.mentions, Bool.or_eq_false_iff] at h
    have hspace : CodePoint.scalar ' ' ∉ ("ither" : Text) := by decide
    -- the word does not begin behind the first code point, and no space stands in it
    have hnone : Text.dropStart? "ither" (lead ++ .scalar ' ' :: rest) = none := by
      have hbegins : List.isPrefixOf ("ither" : Text) lead = false := by
        cases hlead : List.isPrefixOf ("ither" : Text) lead with
        | false => rfl
        | true =>
          obtain ⟨after, hcut⟩ := List.isPrefixOf_iff_prefix.1 hlead
          have hmentions := Text.mentions_iff.2 ⟨[], after, hcut.symm⟩
          exact absurd (h.2.symm.trans hmentions) Bool.false_ne_true
      rw [Text.dropStart?, Text.isPrefixOf_append_cons hspace, hbegins]
      rfl
    have hhere : afterEither? (c :: (lead ++ .scalar ' ' :: rest)) = none := by
      rw [afterEither?, hnone]
      split <;> rfl
    rw [List.cons_append, firstListed_of_afterEither? hhere, ih h.2]

/-- A text in front of a phrase is passed over. -/
theorem IsLeadIn.firstListed_append {before : Text} (h : IsLeadIn before) (rest : Text) :
    firstListed false (before ++ rest) = firstListed false rest := by
  rcases h.space with rfl | hlast
  · rfl
  · obtain ⟨lead, rfl⟩ := List.getLast?_eq_some_iff.1 hlast
    have hword := h.noWord
    rw [Text.mentions_append_cons (by decide), Bool.or_eq_false_iff] at hword
    rw [List.append_assoc]
    exact firstListed_lead hword.1 rest false

def IsOpening (t : Text) : Prop := t = "either " ∨ t = "Either "

theorem firstListed_opening {opening list : Text} (h : IsOpening opening)
    (htrim : Text.trimStart list = list) (hne : listedConstants list ≠ []) :
    firstListed false (opening ++ list) = listedConstants list := by
  obtain ⟨c, hc, rfl⟩ : ∃ c : CodePoint, (c = 'E' ∨ c = 'e') ∧ opening = c :: "ither " := by
    rcases h with rfl | rfl
    · exact ⟨'e', Or.inr rfl, rfl⟩
    · exact ⟨'E', Or.inl rfl, rfl⟩
  have hword : Text.dropStart? "ither" ("ither " ++ list) = some (.scalar ' ' :: list) :=
    Text.dropStart?_eq_some_iff.2 rfl
  have hafter : afterEither? (c :: ("ither " ++ list)) = some list := by
    rw [afterEither?, if_pos hc, hword]
    exact congrArg some htrim
  have hcut : (c :: "ither ") ++ list = c :: ("ither " ++ list) := rfl
  rw [hcut, firstListed, hafter]
  simp [hne]

/-- **Constants listed in a description are read back.**  Of a description with a phrase behind
    "either", in which any of the constants may be in markup, the constants of the phrase are
    extracted, each once, in the order in which they first appear. -/
theorem extractConstants_phrase {before opening after : Text} (hbefore : IsLeadIn before)
    (hopening : IsOpening opening) (p : Phrase) (hafter : EndsPhrase after) :
    extractConstants (before ++ opening ++ p.text ++ after) = p.names.eraseDups := by
  have hplain : Text.stripMarkup (before ++ opening ++ p.text ++ after) =
      before ++ (opening ++ (p.plainText ++ Text.stripMarkup after)) := by
    have hword : Text.stripMarkup (opening ++ (p.text ++ after)) =
        opening ++ Text.stripMarkup (p.text ++ after) := by
      rcases hopening with rfl | rfl
      · exact Text.stripMarkup_append_of_notMem (by decide) (by decide) _
      · exact Text.stripMarkup_append_of_notMem (by decide) (by decide) _
    rw [List.append_assoc, List.append_assoc,
      Text.stripMarkup_append_of_notMem hbefore.noTag hbefore.noTick, hword,
      stripMarkup_text_append]
  -- what is no markup stays, so a point still ends the phrase
  have hend : EndsPhrase (Text.stripMarkup after) := by
    rcases hafter with rfl | hpoint
    · exact Or.inl (by rw [Text.stripMarkup, Text.stripTags]; rfl)
    · obtain ⟨more, rfl⟩ := List.head?_eq_some_iff.1 hpoint
      have hkept := Text.stripMarkup_append_of_notMem (t := ".") (by decide) (by decide) more
      exact Or.inr (hkept ▸ rfl)
  have hlist := listedConstants_plainText p hend
  have htrim : Text.trimStart (p.plainText ++ Text.stripMarkup after) =
      p.plainText ++ Text.stripMarkup after := by
    rw [Phrase.plainText, List.append_assoc]
    exact p.first.isConstantName.trimStart_append _
  have hne : listedConstants (p.plainText ++ Text.stripMarkup after) ≠ [] := by
    rw [hlist]
    exact List.cons_ne_nil _ _
  rw [extractConstants, hplain, hbefore.firstListed_append,
    firstListed_opening hopening htrim hne, hlist]

/-- Constants in different markup, one of them twice. -/
def alignPhrase : Phrase where
  first := ⟨"LEFT", ⟨_, _, rfl, by decide, by decide⟩, .plain⟩
  others := [
    (.comma, ⟨"TEXT_2", ⟨_, _, rfl, by decide, by decide⟩,
      .tags ⟨"code", by decide, by decide⟩ ⟨"/code", by decide, by decide⟩⟩),
    (.or, ⟨"LEFT", ⟨_, _, rfl, by decide, by decide⟩, .plain⟩),
    (.commaOr, ⟨"CENTER", ⟨_, _, rfl, by decide, by decide⟩, .ticks⟩)]

theorem extractConstants_phrase_align :
    IsLeadIn "alignment, " ∧ IsOpening "either " ∧ EndsPhrase ". See <b>TOP</b>" ∧
    extractConstants
        "alignment, either LEFT, <code>TEXT_2</code> or LEFT, or `CENTER`. See <b>TOP</b>" =
      [("LEFT" : Text), "TEXT_2", "CENTER"] := by
  have hbefore : IsLeadIn "alignment, " :=
    ⟨Or.inr (by decide), by decide, by decide, by decide⟩
  have hopening : IsOpening "either " := Or.inl rfl
  have hafter : EndsPhrase ". See <b>TOP</b>" := Or.inr (by decide)
  have htext : "alignment, " ++ ("either " : Text) ++ alignPhrase.text ++ ". See <b>TOP</b>" =
      Text.ofString
        "alignment, either LEFT, <code>TEXT_2</code> or LEFT, or `CENTER`. See <b>TOP</b>" := by
    decide +kernel
  have hnames : alignPhrase.names.eraseDups = [("LEFT" : Text), "TEXT_2", "CENTER"] := by decide
  have hread := extractConstants_phrase hbefore hopening alignPhrase hafter
  rw [htext, hnames] at hread
  exact ⟨hbefore, hopening, hafter, hread⟩

end Ambient
