/-
  Ambient/Text/Lines.lean
  =======================
  **Line ends.**

  Two rules about line ends meet in this library.  A documentation text ends a line at any of
  the line and paragraph separators of Unicode, at a vertical tab, a form feed and three of the
  information separators, and a carriage return with the line feed after it is one line end
  (`Text.lines`).  A file that is read from disk first has each carriage return, with the line
  feed after it if there is one, replaced by one line feed (`Text.unixLines`).
-/
import Ambient.Text.Basic

namespace Ambient

def lineEndCodes : List Nat := [0xA, 0xB, 0xC, 0xD, 0x1C, 0x1D, 0x1E, 0x85, 0x2028, 0x2029]

def CodePoint.isLineEnd (c : CodePoint) : Bool := lineEndCodes.contains c.code

namespace Text

/-- The lines of a text, without their ends; a last line end begins no further line. -/
def lines : Text → List Text
  | [] => []
  | .scalar '\r' :: .scalar '\n' :: rest => [] :: lines rest
  | c :: rest => if c.isLineEnd then [] :: lines rest else prependToFirst c (lines rest)

/-- The text with each carriage return, or carriage return and line feed, as one line feed. -/
def unixLines : Text → Text
  | [] => []
  | .scalar '\r' :: .scalar '\n' :: rest => .scalar '\n' :: unixLines rest
  | c :: rest => (if c = '\r' then CodePoint.scalar '\n' else c) :: unixLines rest

/-- Whether a text is at its end, where one last line feed does not count. -/
def isOver (t : Text) : Bool := t = [] || t = [.scalar '\n']

theorem lines_eq_nil_iff {t : Text} : lines t = [] ↔ t = [] := by
  constructor
  · intro h
    fun_cases lines t with
    | case1 => rfl
    | case2 rest => rw [lines] at h; exact nomatch h
    | case3 c rest hne hc => rw [lines, if_pos hc] at h; exact nomatch h; assumption
    | case4 c rest hne hc =>
      rw [lines, if_neg hc] at h
      · exact absurd h (prependToFirst_ne_nil _ _)
      · assumption
  · rintro rfl
    rfl

/-- Behind the first line of a text stands the end of that line, and then the other lines. -/
theorem exists_ending_of_lines {t first : Text} {more : List Text} (h : lines t = first :: more) :
    ∃ ending rest, t = first ++ ending ++ rest ∧ lines rest = more ∧
      (∀ c ∈ ending, c.isLineEnd = true) ∧ (ending = [] → rest = []) := by
  fun_induction lines t generalizing first more with
  | case1 => exact nomatch h
  | case2 rest ih =>
    obtain ⟨rfl, rfl⟩ := List.cons.inj h
    exact ⟨[.scalar '\r', .scalar '\n'], rest, rfl, rfl, by decide, fun h => nomatch h⟩
  | case3 c rest hne hc ih =>
    obtain ⟨rfl, rfl⟩ := List.cons.inj h
    exact ⟨[c], rest, rfl, rfl, by simpa using hc, fun h => nomatch h⟩
  | case4 c rest hne hc ih =>
    cases hrest : lines rest with
    | nil =>
      rw [hrest] at h
      obtain ⟨rfl, rfl⟩ := List.cons.inj h
      obtain rfl := lines_eq_nil_iff.1 hrest
      exact ⟨[], [], rfl, rfl, by simp, fun _ => rfl⟩
    | cons start others =>
      obtain ⟨ending, behind, hcut, hbehind, hending, hlast⟩ := ih hrest
      rw [hrest] at h
      obtain ⟨rfl, rfl⟩ := List.cons.inj h
      exact ⟨ending, behind, by rw [hcut]; rfl, hbehind, hending, hlast⟩

theorem isLineEnd_of_mem_lines {t line : Text} {c : CodePoint} (hl : line ∈ lines t)
    (hc : c ∈ line) : c.isLineEnd = false := by
  fun_induction lines t generalizing line with
  | case1 => simp at hl
  | case2 rest ih =>
    rcases List.mem_cons.1 hl with rfl | hl
    · simp at hc
    · exact ih hl hc
  | case3 d rest hne hd ih =>
    rcases List.mem_cons.1 hl with rfl | hl
    · simp at hc
    · exact ih hl hc
  | case4 d rest hne hd ih =>
    cases hr : lines rest with
    | nil =>
      rw [hr] at hl
      simp only [prependToFirst, List.mem_singleton] at hl
      subst hl
      simp only [List.mem_singleton] at hc
      subst hc
      simpa using hd
    | cons first more =>
      rw [hr] at hl ih
      rcases List.mem_cons.1 hl with rfl | hl
      · rcases List.mem_cons.1 hc with rfl | hc
        · simpa using hd
        · exact ih (by simp) hc
      · exact ih (by simp [hl]) hc

end Text

end Ambient
