/-
  Ambient/Proofs/QuotedTexts.lean
  ===============================
  **Quoting loses nothing, and a quoted text is a literal.**

  `quote` puts a backslash in front of every backslash and every single quote.  Dropping the
  quotes at the two ends and reading each backslash together with what follows it gives the text
  back (`unescape_escaped`), so two texts are never quoted alike.  Each quote that stands in between
  has an odd number of backslashes in front of it (`odd_trailingBackslashes`): those that the text
  has there come in pairs, and one more escapes the quote.  Reading a literal therefore stops at
  the last quote and nowhere before (`afterQuoted?_escaped_append`).

  So a constant of the type of texts that has a value is always declared with it
  (`quote_lossless`), be it documented or made of the name.
-/
import Ambient.Proofs.CapitalSymbols
import Ambient.Proofs.LiteralTypes
import Mathlib.Data.List.DropRight

namespace Ambient

/-! ### Backslashes -/

namespace Text

/-- A text in which each backslash, from left to right, is replaced together with the code point
    behind it by the latter alone. -/
def unescape : Text → Text
  | [] => []
  | .scalar '\\' :: c :: rest => c :: unescape rest
  | c :: rest => c :: unescape rest

theorem unescape_cons {c : CodePoint} (hc : c ≠ '\\') (rest : Text) :
    unescape (c :: rest) = c :: unescape rest := by
  rw [unescape]
  exact fun _ _ hbackslash => absurd hbackslash hc

def trailingBackslashes (t : Text) : Nat := (t.rtakeWhile fun c : CodePoint => c = '\\').length

theorem trailingBackslashes_concat_backslash (t : Text) :
    trailingBackslashes (t ++ [.scalar '\\']) = trailingBackslashes t + 1 := by
  rw [trailingBackslashes, List.rtakeWhile_concat_pos _ _ _ (by decide), List.length_append]
  rfl

theorem trailingBackslashes_concat_of_ne {c : CodePoint} (hc : c ≠ '\\') (t : Text) :
    trailingBackslashes (t ++ [c]) = 0 := by
  rw [trailingBackslashes, List.rtakeWhile_concat_neg _ _ _ (by simpa using hc)]
  rfl

end Text

open Text (trailingBackslashes)

/-! ### Between the quotes -/

def escaped (t : Text) : Text := t.flatMap escapePoint

theorem escaped_cons (c : CodePoint) (t : Text) :
    escaped (c :: t) = escapePoint c ++ escaped t := rfl

theorem quote_eq (t : Text) : quote t = .scalar '\'' :: (escaped t ++ [.scalar '\'']) := rfl

theorem escapePoint_cases (c : CodePoint) :
    (c = '\\' ∨ c = '\'') ∧ escapePoint c = [.scalar '\\', c] ∨
      (c ≠ '\\' ∧ c ≠ '\'') ∧ escapePoint c = [c] := by
  unfold escapePoint
  by_cases hspecial : c = '\\' ∨ c = '\''
  · rw [if_pos hspecial]
    exact Or.inl ⟨hspecial, rfl⟩
  · rw [if_neg hspecial]
    exact Or.inr ⟨not_or.1 hspecial, rfl⟩

/-- The backslashes are doubled, and then the quotes escaped. -/
theorem escaped_eq_replace (t : Text) :
    escaped t = Text.replace '\'' "\\'" (Text.replace '\\' "\\\\" t) := by
  rw [Text.replace, Text.replace, List.flatMap_assoc, escaped]
  congr 1
  funext c
  rcases escapePoint_cases c with ⟨rfl | rfl, hpoint⟩ | ⟨⟨hbackslash, hquote⟩, hpoint⟩
  · decide
  · decide
  · rw [hpoint, if_neg hbackslash, List.flatMap_singleton, if_neg hquote]

/-- Taking the backslashes away gives the text back. -/
theorem unescape_escaped (t : Text) : Text.unescape (escaped t) = t := by
  induction t with
  | nil => rfl
  | cons c rest ih =>
    rw [escaped_cons]
    rcases escapePoint_cases c with ⟨-, hpoint⟩ | ⟨⟨hbackslash, -⟩, hpoint⟩
    · rw [hpoint]
      exact congrArg (c :: ·) ih
    · rw [hpoint, List.singleton_append, Text.unescape_cons hbackslash, ih]

/-- Two texts that are quoted alike are the same. -/
theorem quote_injective : Function.Injective quote := by
  intro t u h
  rw [quote_eq, quote_eq] at h
  have hescaped : escaped t = escaped u := List.append_cancel_right (List.cons.inj h).2
  rw [← unescape_escaped t, hescaped, unescape_escaped]

/-- A text between quotes ends with an even number of backslashes. -/
theorem even_trailingBackslashes (t : Text) : trailingBackslashes (escaped t) % 2 = 0 := by
  induction t using List.reverseRecOn with
  | nil => rfl
  | append_singleton t c ih =>
    have hcut : escaped (t ++ [c]) = escaped t ++ escapePoint c := by
      unfold escaped
      rw [List.flatMap_append, List.flatMap_singleton]
    rw [hcut]
    rcases escapePoint_cases c with ⟨rfl | rfl, hpoint⟩ | ⟨⟨hbackslash, -⟩, hpoint⟩
    · rw [hpoint, ← List.singleton_append, ← List.append_assoc,
        Text.trailingBackslashes_concat_backslash, Text.trailingBackslashes_concat_backslash]
      omega
    · rw [hpoint, ← List.singleton_append, ← List.append_assoc,
        Text.trailingBackslashes_concat_of_ne (by decide)]
    · rw [hpoint, Text.trailingBackslashes_concat_of_ne hbackslash]

/-- In front of a quote stand a text as it is written between quotes, and one more backslash. -/
theorem exists_escaped_of_cut {t before after : Text}
    (h : escaped t = before ++ .scalar '\'' :: after) :
    ∃ u, before = escaped u ++ [.scalar '\\'] := by
  induction t generalizing before with
  | nil => exact absurd h.symm (List.append_ne_nil_of_right_ne_nil _ (List.cons_ne_nil _ _))
  | cons c rest ih =>
    rw [escaped_cons] at h
    -- the quote is the second half of the first escape, or it lies in what is behind
    rcases escapePoint_cases c with ⟨-, hpoint⟩ | ⟨⟨-, hquote⟩, hpoint⟩
    · rw [hpoint] at h
      match before with
      | [] => exact absurd (List.cons.inj h).1 (by decide)
      | [d] =>
        obtain ⟨rfl, -⟩ := List.cons.inj h
        exact ⟨[], rfl⟩
      | d :: e :: before =>
        obtain ⟨rfl, hbehind⟩ := List.cons.inj h
        obtain ⟨rfl, hrest⟩ := List.cons.inj hbehind
        obtain ⟨u, rfl⟩ := ih hrest
        refine ⟨c :: u, ?_⟩
        rw [escaped_cons, hpoint]
        rfl
    · rw [hpoint] at h
      match before with
      | [] => exact absurd (List.cons.inj h).1 hquote
      | d :: before =>
        obtain ⟨rfl, hrest⟩ := List.cons.inj h
        obtain ⟨u, rfl⟩ := ih hrest
        refine ⟨c :: u, ?_⟩
        rw [escaped_cons, hpoint]
        rfl

/-- Every quote between the quotes is escaped. -/
theorem odd_trailingBackslashes {t before after : Text}
    (h : escaped t = before ++ .scalar '\'' :: after) : trailingBackslashes before % 2 = 1 := by
  obtain ⟨u, rfl⟩ := exists_escaped_of_cut h
  rw [Text.trailingBackslashes_concat_backslash]
  have heven := even_trailingBackslashes u
  omega

/-! ### Reading a quoted text -/

/-- No closing quote is found in what stands between the quotes. -/
theorem afterQuoted?_escaped_append (t rest : Text) :
    afterQuoted? (escaped t ++ rest) = afterQuoted? rest := by
  induction t with
  | nil => rfl
  | cons c more ih =>
    rw [escaped_cons, List.append_assoc, ← ih]
    rcases escapePoint_cases c with ⟨hspecial, hpoint⟩ | ⟨⟨hbackslash, hquote⟩, hpoint⟩
    · have hfeed : c ≠ '\n' := by
        rcases hspecial with rfl | rfl
        · decide
        · decide
      rw [hpoint]
      exact if_neg hfeed
    · rw [hpoint, List.singleton_append, afterQuoted?]
      · exact fun h => hquote h
      · exact fun h _ => hbackslash h
      · exact fun _ _ h _ => hbackslash h

theorem isLiteral_quote (t : Text) : isLiteral (quote t) = true := by
  have hread : afterQuoted? (escaped t ++ [.scalar '\'']) = some [] :=
    afterQuoted?_escaped_append t _
  have hquoted : isQuoted (quote t) = true := by
    rw [quote_eq, isQuoted, hread]
    rfl
  rw [isLiteral, hquoted, Bool.true_or, Bool.true_or]

/-! ### Constants of the type of texts -/

theorem replace_ne_nil {old : CodePoint} {new t : Text} (hnew : new ≠ []) (h : t ≠ []) :
    Text.replace old new t ≠ [] := by
  obtain ⟨c, rest, rfl⟩ := List.exists_cons_of_ne_nil h
  change (if c = old then new else [c]) ++ _ ≠ []
  refine List.append_ne_nil_of_left_ne_nil ?_ _
  split
  · exact hnew
  · exact List.cons_ne_nil _ _

/-- A name in lower case with hyphens in the place of underscores. -/
def kebabName (name : Text) : Text := Text.replace '_' "-" (Text.lower name)

theorem propertyValue_of_no_default {item : ItemDoc} (hname : item.name ≠ [])
    (hfinal : item.isFinal = true) (hdefault : item.defaultValue.getD [] = []) :
    propertyValue item "string" = some (quote (kebabName item.name)) := by
  have hkebab : Text.replace '_' "-" (Text.lower item.name) ≠ [] :=
    replace_ne_nil (by decide) (Text.lower_ne_nil hname)
  simp [propertyValue, hdefault, hfinal, hkebab, kebabName]

namespace Context

/-- What is declared as final is a final item with a symbol for a name. -/
theorem buildProperty_of_isFinal {ctx : Context} {item : ItemDoc}
    (h : (ctx.buildProperty item).1.isFinal = true) :
    isSymbol item.name = true ∧ item.isFinal = true ∧
      (ctx.buildProperty item).1.value =
        propertyValue item (ctx.buildProperty item).1.type := by
  unfold buildProperty at h ⊢
  split at h
  · next hsymbol =>
    rw [if_pos hsymbol]
    exact ⟨hsymbol, h, rfl⟩
  · exact nomatch h

end Context

theorem PropertyDecl.literal?_of_value {p : PropertyDecl} {value : Text}
    (hfinal : p.isFinal = true) (hliteral : isLiteral value = true)
    (hvalue : p.value = some value) : p.literal? = some value := by
  rw [literal?, hvalue]
  simp [hfinal, hliteral]

/-- **Quoting loses nothing, and what is quoted is a literal.**  Quoting doubles the backslashes and
    then puts one in front of each quote.  The quoted text without its first and last code point is
    the text once the escaping backslashes are taken away, so no two texts are quoted alike.  Every
    quote in between is behind an odd number of backslashes.  A literal is read from the first quote
    to the last one, with nothing left.  So a constant of the type of texts that has a value is
    declared with it, and it has one if its default is missing or empty. -/
theorem quote_lossless (t : Text) :
    quote t = "'" ++ Text.replace '\'' "\\'" (Text.replace '\\' "\\\\" t) ++ "'" ∧
    Text.unescape (quote t).tail.dropLast = t ∧
    (∀ u, quote u = quote t → u = t) ∧
    (∀ before after, (quote t).tail.dropLast = before ++ .scalar '\'' :: after →
      trailingBackslashes before % 2 = 1) ∧
    (quote t).head? = some (.scalar '\'') ∧ afterQuoted? (quote t).tail = some [] ∧
    isLiteral (quote t) = true ∧
    ∀ (ctx : Context) (item : ItemDoc) (p : PropertyDecl), (ctx.buildProperty item).1 = p →
      p.isFinal = true → p.type = "string" →
      (∀ value, p.value = some value → p.literal? = some value) ∧
      (item.defaultValue.getD [] = [] → p.literal? = some (quote (kebabName item.name))) := by
  have hinner : (quote t).tail.dropLast = escaped t := List.dropLast_concat
  have hpasses : quote t =
      "'" ++ Text.replace '\'' "\\'" (Text.replace '\\' "\\\\" t) ++ "'" := by
    rw [← escaped_eq_replace]
    rfl
  rw [hinner]
  refine ⟨hpasses, unescape_escaped t, fun u h => quote_injective h,
    fun _ _ => odd_trailingBackslashes, rfl, afterQuoted?_escaped_append t _, isLiteral_quote t,
    ?_⟩
  -- a value is written as the type only if it is a literal, which every quoted text is
  rintro ctx item p rfl hfinal htype
  obtain ⟨hsymbol, hitem, hvalue⟩ := Context.buildProperty_of_isFinal hfinal
  rw [htype] at hvalue
  refine ⟨?_, ?_⟩
  · intro value hsome
    refine PropertyDecl.literal?_of_value hfinal ?_ hsome
    rw [propertyValue_eq_some (hvalue.symm.trans hsome), if_pos rfl]
    exact isLiteral_quote _
  · intro hdefault
    have hname : item.name ≠ [] := by
      rintro hnil
      rw [hnil] at hsymbol
      exact nomatch hsymbol
    rw [propertyValue_of_no_default hname hitem hdefault] at hvalue
    exact PropertyDecl.literal?_of_value hfinal (isLiteral_quote _) hvalue

open Context (constantText declaredText)

theorem quote_lossless_leftArrow :
    ((quote "it's").tail.dropLast = "it\\" ++ .scalar '\'' :: ("s" : Text) ∧
      trailingBackslashes "it\\" % 2 = 1) ∧
    (declaredText "LEFT_ARROW" none).isFinal = true ∧
    (declaredText "LEFT_ARROW" none).type = "string" ∧
    (constantText "LEFT_ARROW" none).defaultValue.getD [] = [] ∧
    (declaredText "LEFT_ARROW" none).literal? = some ("'left-arrow'" : Text) := by
  obtain ⟨-, -, -, hescaped, -, -, -, hdeclared⟩ := quote_lossless "it's"
  have hcut : (quote "it's").tail.dropLast = "it\\" ++ .scalar '\'' :: ("s" : Text) := by decide
  have hfinal : (declaredText "LEFT_ARROW" none).isFinal = true := by decide +kernel
  have htype : (declaredText "LEFT_ARROW" none).type = "string" := by decide +kernel
  have hvalue : quote (kebabName "LEFT_ARROW") = "'left-arrow'" := by decide +kernel
  obtain ⟨-, hderived⟩ := hdeclared (.start .standard []) (constantText "LEFT_ARROW" none)
    (declaredText "LEFT_ARROW" none) rfl hfinal htype
  exact ⟨⟨hcut, hescaped _ _ hcut⟩, hfinal, htype, rfl, (hderived rfl).trans (congrArg some hvalue)⟩

end Ambient
