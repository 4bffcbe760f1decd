/-
  Ambient/DocType/Basic.lean
  ==========================
  **Documented types.**

  Documentation names the types of parameters, return values and properties in a notation of its
  own: `Number|String` is a union, `Number[]` an array, `Function(Number, Object)` a function with
  its argument types, and any other text is a word, which may name a type or not.  `DocType.parse`
  reads every text as such a type; blanks around any part of it do not count, and a text of
  nothing but blanks is `blank`.

  Two brackets at the end belong to the whole of what stands before them, so the text `A|B[]` is
  the array of a union and not a union with an array in it.

  Types may be nested as deep as their notation goes.  Where reading and translating a type are
  calls inside calls, the stack of the host ends them at some depth, which depends on the host and
  on the calls around them.  No such limit is modelled: `parse` and `translate` give a result for
  every text.
-/
import Ambient.DocType.Split
import Ambient.Text.Blank

namespace Ambient

inductive DocType where
  | blank
  | word (name : Text)
  | array (element : DocType)
  | union (members : List DocType)
  | function (params : List DocType)

namespace DocType

def arrayMark : Text := "[]"

def isArrayText (t : Text) : Bool := 2 < t.length && arrayMark.isSuffixOf t

def elementText (t : Text) : Text := t.take (t.length - arrayMark.length)

/-- The forms of each letter in the word that begins a function type, and the parenthesis behind
    it: the two cases of the letter, and for the letter i also the capital with a dot and the
    small letter without one. -/
def functionHead : List (List Char) := [
  ['F', 'f'], ['U', 'u'], ['N', 'n'], ['C', 'c'], ['T', 't'],
  ['I', 'i', Char.ofNat 0x130, Char.ofNat 0x131], ['O', 'o'], ['N', 'n'], ['(']]

/-- What follows a row of letters, each of which may have several forms. -/
def afterForms? : List (List Char) → Text → Option Text
  | [], t => some t
  | _ :: _, [] => none
  | forms :: more, c :: rest =>
    if forms.any (fun f => c = f) then afterForms? more rest else none

/-- The text between the parentheses of a function type, if the text is one; arguments stand on
    one line. -/
def argumentText? (t : Text) : Option Text :=
  match afterForms? functionHead t with
  | none => none
  | some rest =>
    if rest.getLast? = some (.scalar ')') ∧ !rest.dropLast.contains (.scalar '\n') then
      some rest.dropLast
    else none

/-! ### Parts of a type are shorter than the type -/

theorem length_elementText_lt {t : Text} (h : isArrayText t = true) :
    (elementText t).length < t.length := by
  simp only [isArrayText, Bool.and_eq_true, decide_eq_true_eq] at h
  have : arrayMark.length = 2 := rfl
  simp only [elementText, List.length_take]
  omega

theorem length_le_of_afterForms? {forms : List (List Char)} {t rest : Text}
    (h : afterForms? forms t = some rest) : rest.length + forms.length = t.length := by
  induction forms generalizing t with
  | nil => cases h; rfl
  | cons first more ih =>
    cases t with
    | nil => exact nomatch h
    | cons c t =>
      simp only [afterForms?] at h
      split at h
      · have := ih h
        simp only [List.length_cons]; omega
      · exact nomatch h

theorem length_lt_of_argumentText? {t inner : Text} (h : argumentText? t = some inner) :
    inner.length < t.length := by
  unfold argumentText? at h
  split at h
  · exact nomatch h
  · next rest hr =>
    have hl := length_le_of_afterForms? hr
    have : functionHead.length = 9 := rfl
    split at h
    · cases h
      rw [List.length_dropLast]
      omega
    · exact nomatch h

/-- The arguments between the parentheses of a function type, without the blank ones. -/
def argumentsOf (inner : Text) : List Text :=
  (splitTop ',' inner).filter fun part => !part.isBlank

def parse (t : Text) : DocType :=
  if t.trim.isEmpty then blank
  else if isArrayText t.trim then array (parse (elementText t.trim))
  else if 2 ≤ (splitTop '|' t.trim).length then
    union ((splitTop '|' t.trim).attach.map fun part => parse part.1)
  else
    match _h : argumentText? t.trim with
    | some inner => function ((argumentsOf inner).attach.map fun part => parse part.1)
    | none => word t.trim
termination_by t.length
decreasing_by
  · have := length_elementText_lt ‹_›
    have := Text.length_trim_le t
    omega
  · have := length_lt_of_mem_splitTop part.2 ‹_›
    have := Text.length_trim_le t
    omega
  · have := length_le_of_mem_splitTop (List.mem_filter.1 part.2).1
    have := length_lt_of_argumentText? _h
    have := Text.length_trim_le t
    omega

/-- How a text is read: blank, as an array, as a union, as a function, or as a word. -/
theorem parse_eq (t : Text) :
    parse t =
      if t.trim.isEmpty then blank
      else if isArrayText t.trim then array (parse (elementText t.trim))
      else if 2 ≤ (splitTop '|' t.trim).length then union ((splitTop '|' t.trim).map parse)
      else
        match argumentText? t.trim with
        | some inner => function ((argumentsOf inner).map parse)
        | none => word t.trim := by
  rw [parse]
  simp only [List.map_attach_eq_pmap, List.pmap_eq_map]
  split
  · rfl
  · split
    · rfl
    · split
      · rfl
      · split <;> simp_all

end DocType

end Ambient
