/-
  Ambient/Text/Blank.lean
  =======================
  **Blanks, and texts without blanks at their ends.**

  A blank is a code point that Unicode has as white space, or one of the four information
  separators U+001C to U+001F.  Trimming drops the blanks at the two ends of a text and nothing
  else: what is left begins and ends with a code point that is no blank (`head?_trim`,
  `getLast?_trim`), and trimming it again changes nothing (`trim_trim`).
-/
import Ambient.Text.Basic
import Ambient.Text.Span

namespace Ambient

/-- The blanks of Unicode 14, with the information separators. -/
def blankSpans : List Span := Span.ofPairs [
  (0x9, 0xD), (0x1C, 0x20), (0x85, 0x85), (0xA0, 0xA0), (0x1680, 0x1680),
  (0x2000, 0x200A), (0x2028, 0x2029), (0x202F, 0x202F), (0x205F, 0x205F), (0x3000, 0x3000)]

def CodePoint.isBlank (c : CodePoint) : Bool := Span.anyHolds blankSpans c.code

namespace Text

def trimStart (t : Text) : Text := t.dropWhile CodePoint.isBlank

def trimEnd (t : Text) : Text := (t.reverse.dropWhile CodePoint.isBlank).reverse

def trim (t : Text) : Text := trimEnd (trimStart t)

def isBlank (t : Text) : Bool := t.all CodePoint.isBlank

/-! ### What trimming leaves -/

theorem length_trimStart_le (t : Text) : (trimStart t).length ≤ t.length := by
  induction t with
  | nil => exact Nat.le_refl _
  | cons c t ih =>
    simp only [trimStart, List.dropWhile_cons] at *
    split
    · exact Nat.le_succ_of_le ih
    · exact Nat.le_refl _

theorem length_trimEnd_le (t : Text) : (trimEnd t).length ≤ t.length := by
  have h := length_trimStart_le t.reverse
  simpa [trimEnd, trimStart] using h

theorem length_trim_le (t : Text) : (trim t).length ≤ t.length :=
  Nat.le_trans (length_trimEnd_le _) (length_trimStart_le _)

/-- A trimmed start is the text itself or begins with no blank. -/
theorem head?_trimStart {t : Text} {c : CodePoint} (h : (trimStart t).head? = some c) :
    c.isBlank = false := by
  induction t with
  | nil => simp [trimStart] at h
  | cons d t ih =>
    simp only [trimStart, List.dropWhile_cons] at h ih
    split at h
    · exact ih h
    · next hd =>
      simp only [List.head?_cons, Option.some.injEq] at h
      subst h
      simpa using hd

/-- A trimmed end leaves a text that ends with no blank. -/
theorem getLast?_trimEnd {t : Text} {c : CodePoint} (h : (trimEnd t).getLast? = some c) :
    c.isBlank = false := by
  apply head?_trimStart (t := t.reverse)
  simpa [trimEnd, trimStart] using h

theorem trimStart_eq_self {t : Text} (h : ∀ c, t.head? = some c → c.isBlank = false) :
    trimStart t = t := by
  cases t with
  | nil => rfl
  | cons c t => simp [trimStart, h c rfl]

theorem trimEnd_eq_self {t : Text} (h : ∀ c, t.getLast? = some c → c.isBlank = false) :
    trimEnd t = t := by
  have : trimStart t.reverse = t.reverse :=
    trimStart_eq_self (fun c hc => h c (by simpa using hc))
  simp only [trimStart] at this
  simp [trimEnd, this]

/-- The end of a text that begins with no blank can be trimmed without touching its start. -/
theorem head?_trimEnd {t : Text} {c : CodePoint} (ht : ∀ d, t.head? = some d → d.isBlank = false)
    (h : (trimEnd t).head? = some c) : c.isBlank = false := by
  apply ht
  have hp : trimEnd t <+: t := by
    have := List.dropWhile_suffix CodePoint.isBlank (l := t.reverse)
    have := List.reverse_prefix.2 this
    simpa [trimEnd] using this
  obtain ⟨r, hr⟩ := hp
  cases hte : trimEnd t with
  | nil => simp [hte] at h
  | cons d ds =>
    rw [hte] at h hr
    rw [← hr]
    simpa using h

theorem head?_trim {t : Text} {c : CodePoint} (h : (trim t).head? = some c) :
    c.isBlank = false :=
  head?_trimEnd (fun _ hd => head?_trimStart hd) h

theorem getLast?_trim {t : Text} {c : CodePoint} (h : (trim t).getLast? = some c) :
    c.isBlank = false :=
  getLast?_trimEnd h

/-- A text with no blank at either end is trimmed already. -/
theorem trim_eq_self {t : Text} (hs : ∀ c, t.head? = some c → c.isBlank = false)
    (he : ∀ c, t.getLast? = some c → c.isBlank = false) : trim t = t := by
  rw [trim, trimStart_eq_self hs, trimEnd_eq_self he]

@[simp] theorem trim_trim (t : Text) : trim (trim t) = trim t :=
  trim_eq_self (fun _ h => head?_trim h) (fun _ h => getLast?_trim h)

end Text

end Ambient
