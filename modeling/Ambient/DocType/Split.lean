/-
  Ambient/DocType/Split.lean
  ==========================
  **Splitting a documented type at its top level.**

  The members of a union and the arguments of a function are parted by a separator that stands
  outside parentheses.  The depth of a place is counted from the left; a closing parenthesis that
  closes nothing leaves it at zero.  Joining the parts with the separator gives the text back
  (`join_splitTop`), and of several parts each is shorter than the whole
  (`length_lt_of_mem_splitTop`).
-/
import Ambient.Text.Basic

namespace Ambient

/-- The parts of a text between separators outside parentheses, from a place of some depth on. -/
def splitAtDepth (sep : CodePoint) (depth : Nat) : Text → List Text
  | [] => [[]]
  | c :: rest =>
    if c = '(' then Text.prependToFirst c (splitAtDepth sep (depth + 1) rest)
    else if c = ')' then Text.prependToFirst c (splitAtDepth sep (depth - 1) rest)
    else if c = sep ∧ depth = 0 then [] :: splitAtDepth sep depth rest
    else Text.prependToFirst c (splitAtDepth sep depth rest)

def splitTop (sep : CodePoint) (t : Text) : List Text := splitAtDepth sep 0 t

/-! ### Nothing is lost -/

theorem splitAtDepth_ne_nil (sep : CodePoint) (depth : Nat) (t : Text) :
    splitAtDepth sep depth t ≠ [] := by
  cases t with
  | nil => simp [splitAtDepth]
  | cons c rest =>
    simp only [splitAtDepth]
    split
    · exact Text.prependToFirst_ne_nil _ _
    · split
      · exact Text.prependToFirst_ne_nil _ _
      · split
        · simp
        · exact Text.prependToFirst_ne_nil _ _

theorem join_splitAtDepth (sep : CodePoint) (depth : Nat) (t : Text) :
    Text.join [sep] (splitAtDepth sep depth t) = t := by
  induction t generalizing depth with
  | nil => rfl
  | cons c rest ih =>
    have hcons : ∀ d, Text.join [sep] (Text.prependToFirst c (splitAtDepth sep d rest)) =
        c :: rest := fun d => by
      rw [Text.join_prependToFirst _ _ (splitAtDepth_ne_nil sep d rest), ih]
    simp only [splitAtDepth]
    split
    · exact hcons _
    · split
      · exact hcons _
      · split
        · next h =>
          obtain ⟨part, parts, hp⟩ :=
            List.exists_cons_of_ne_nil (splitAtDepth_ne_nil sep depth rest)
          have := ih depth
          rw [hp] at this ⊢
          rw [h.1]
          simp [Text.join, this]
        · exact hcons _

theorem join_splitTop (sep : CodePoint) (t : Text) : Text.join [sep] (splitTop sep t) = t :=
  join_splitAtDepth sep 0 t

/-! ### Parts are shorter -/

theorem length_join_cons (sep : CodePoint) (first second : Text) (rest : List Text) :
    (Text.join [sep] (first :: second :: rest)).length =
      first.length + (1 + (Text.join [sep] (second :: rest)).length) := by
  simp [Text.join, Nat.add_comm 1]

/-- There is at most one more part than the joined text is long. -/
theorem length_le_length_join (sep : CodePoint) (parts : List Text) :
    parts.length ≤ (Text.join [sep] parts).length + 1 := by
  match parts with
  | [] => simp
  | [_] => simp
  | first :: second :: rest =>
    have := length_le_length_join sep (second :: rest)
    rw [length_join_cons, List.length_cons]
    omega

/-- A part and the joints are within the joined text. -/
theorem length_add_le_length_join (sep : CodePoint) {part : Text} {parts : List Text}
    (h : part ∈ parts) : part.length + parts.length ≤ (Text.join [sep] parts).length + 1 := by
  match parts with
  | [only] =>
    rw [List.mem_singleton.1 h]
    simp [Text.join]
  | first :: second :: rest =>
    rw [length_join_cons, List.length_cons]
    rcases List.mem_cons.1 h with rfl | h
    · have := length_le_length_join sep (second :: rest)
      omega
    · have := length_add_le_length_join sep h
      omega

theorem length_le_of_mem_splitTop {sep : CodePoint} {t part : Text} (h : part ∈ splitTop sep t) :
    part.length ≤ t.length := by
  have hl := length_add_le_length_join sep h
  have hp := List.length_pos_of_mem h
  rw [join_splitTop] at hl
  omega

theorem length_lt_of_mem_splitTop {sep : CodePoint} {t part : Text} (h : part ∈ splitTop sep t)
    (hm : 2 ≤ (splitTop sep t).length) : part.length < t.length := by
  have hl := length_add_le_length_join sep h
  rw [join_splitTop] at hl
  omega

end Ambient
