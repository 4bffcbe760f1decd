/-
  Ambient/Proofs/UnionTypes.lean
  ==============================
  **When a union is the union of its members.**

  The type of a union is made of the types of its members, and a member that holds the arrow of a
  function is put in parentheses.  A text of several members whose last member is an array is no
  union, though: it is read as the array of the union without its last mark.  Its type still reads
  like the union of its members, since the mark is put behind the last of them, but only as long
  as no arrow makes the array put parentheses around the whole (`arrayTexts_ne_of_mentions_init`,
  `arrayText_ne_of_mentions_last`), and as long as the last member is more than its mark
  (`arrayTexts_blank_iff`).  `unionType_eq_members_iff` says exactly when the two agree.
-/
import Ambient.Proofs.Translation
import Ambient.Proofs.TypeNotation

namespace Ambient

namespace DocType

/-! ### Where an arrow can be -/

theorem arrow_ne_nil : arrow ≠ [] := by decide

theorem mentions_arrow_guarded (x : Text) :
    Text.mentions arrow (guarded x) = Text.mentions arrow x := by
  unfold guarded
  split
  · have hopen : ("(" ++ x ++ ")" : Text) = [] ++ .scalar '(' :: (x ++ .scalar ')' :: []) := rfl
    rw [hopen, Text.mentions_append_cons (by decide), Text.mentions_append_cons (by decide)]
    simp [Text.mentions, arrow, Text.ofString]
  · rfl

theorem mentions_arrow_arrayText (x : Text) :
    Text.mentions arrow (arrayText x) = Text.mentions arrow x := by
  have hmark : arrayText x = guarded x ++ .scalar '[' :: [.scalar ']'] := rfl
  have hrest : Text.mentions arrow [.scalar ']'] = false := by decide
  rw [hmark, Text.mentions_append_cons (by decide), hrest, Bool.or_false,
    mentions_arrow_guarded]

/-- A union holds an arrow exactly if one of its members does. -/
theorem mentions_arrow_unionText (members : List Text) :
    Text.mentions arrow (unionText members) = members.any (Text.mentions arrow) := by
  have hjoin := Text.mentions_join arrow_ne_nil (by decide : CodePoint.scalar '|' ∉ arrow)
  refine (hjoin _).trans ?_
  rw [List.any_map]
  congr 1
  funext m
  exact mentions_arrow_guarded m

/-! ### Types with arrays around them -/

/-- The text of a type with some number of arrays around it. -/
def arrayTexts : Nat → Text → Text
  | 0, x => x
  | k + 1, x => arrayText (arrayTexts k x)

def marks : Nat → Text
  | 0 => []
  | k + 1 => marks k ++ arrayMark

theorem marks_succ (k : Nat) : marks (k + 1) = arrayMark ++ marks k := by
  induction k with
  | zero => rfl
  | succ k ih =>
    calc marks (k + 1 + 1) = marks (k + 1) ++ arrayMark := rfl
      _ = arrayMark ++ marks k ++ arrayMark := by rw [ih]
      _ = arrayMark ++ marks (k + 1) := List.append_assoc _ _ _

theorem typeOf_arrays (fallback : Text) (ctx : Context) (k : Nat) (t : DocType) :
    typeOf fallback ctx (arrays k t) = arrayTexts k (typeOf fallback ctx t) := by
  induction k with
  | zero => rfl
  | succ k ih => exact (typeOf_array fallback ctx (arrays k t)).trans (congrArg arrayText ih)

theorem mentions_arrow_arrayTexts (k : Nat) (x : Text) :
    Text.mentions arrow (arrayTexts k x) = Text.mentions arrow x := by
  induction k with
  | zero => rfl
  | succ k ih => exact (mentions_arrow_arrayText (arrayTexts k x)).trans ih

theorem guarded_of_not_mentions {x : Text} (h : Text.mentions arrow x = false) :
    guarded x = x := by
  simp [guarded, h]

/-- Without an arrow the marks are put behind the type. -/
theorem arrayTexts_of_not_mentions (k : Nat) {x : Text} (h : Text.mentions arrow x = false) :
    arrayTexts k x = x ++ marks k := by
  induction k with
  | zero => exact (List.append_nil x).symm
  | succ k ih =>
    have hk : Text.mentions arrow (arrayTexts k x) = false :=
      (mentions_arrow_arrayTexts k x).trans h
    rw [arrayTexts, arrayText, guarded_of_not_mentions hk, ih, List.append_assoc]
    rfl

/-- With an arrow every array opens a parenthesis in front of the type. -/
theorem arrayTexts_of_mentions (k : Nat) {x : Text} (h : Text.mentions arrow x = true) :
    ∃ rest, arrayTexts k x = List.replicate k (.scalar '(') ++ (x ++ rest) := by
  induction k with
  | zero => exact ⟨[], (List.append_nil x).symm⟩
  | succ k ih =>
    obtain ⟨rest, hrest⟩ := ih
    have hk : Text.mentions arrow (arrayTexts k x) = true :=
      (mentions_arrow_arrayTexts k x).trans h
    refine ⟨rest ++ ")" ++ arrayMark, ?_⟩
    rw [arrayTexts, arrayText, guarded, if_pos hk, hrest, List.replicate_succ]
    simp [Text.ofString]

/-! ### Arrays of a union -/

section Union

variable {init : List Text}

theorem unionText_concat (h : init ≠ []) (last : Text) :
    unionText (init ++ [last]) = Text.join "|" (init.map guarded) ++ "|" ++ guarded last := by
  have hne : init.map guarded ≠ [] := fun hnil => h (List.map_eq_nil_iff.1 hnil)
  rw [unionText, List.map_append]
  exact Text.join_concat "|" hne (guarded last)

theorem any_concat (last : Text) :
    (init ++ [last]).any (Text.mentions arrow) = false ↔
      init.any (Text.mentions arrow) = false ∧ Text.mentions arrow last = false := by
  simp

/-- Without an arrow the arrays of a union read like the union with arrays of its last member. -/
theorem arrayTexts_unionText (h : init ≠ []) (k : Nat) {last : Text}
    (hinit : init.any (Text.mentions arrow) = false) (hlast : Text.mentions arrow last = false) :
    arrayTexts k (unionText (init ++ [last])) = unionText (init ++ [arrayTexts k last]) := by
  have hunion : Text.mentions arrow (unionText (init ++ [last])) = false := by
    rw [mentions_arrow_unionText]
    exact (any_concat last).2 ⟨hinit, hlast⟩
  have hlasts : Text.mentions arrow (arrayTexts k last) = false :=
    (mentions_arrow_arrayTexts k last).trans hlast
  rw [arrayTexts_of_not_mentions k hunion, unionText_concat h, unionText_concat h,
    guarded_of_not_mentions hlast, guarded_of_not_mentions hlasts,
    arrayTexts_of_not_mentions k hlast, List.append_assoc, List.append_assoc]

/-- An array ends in its mark, and a union with a guarded last member in a parenthesis. -/
theorem arrayText_ne_of_mentions_last (h : init ≠ []) (x : Text) {last : Text}
    (hlast : Text.mentions arrow last = true) : arrayText x ≠ unionText (init ++ [last]) := by
  intro heq
  have hleft : (arrayText x).getLast? = some (.scalar ']') := by
    simp [arrayText, arrayMark, Text.ofString]
  have hright : (unionText (init ++ [last])).getLast? = some (.scalar ')') := by
    rw [unionText_concat h, guarded, if_pos hlast, List.getLast?_append, List.getLast?_append]
    rfl
  rw [heq, hright] at hleft
  exact absurd hleft (by decide)

/-- A text that goes on with itself behind some number of one code point has no other. -/
theorem forall_eq_of_replicate_append {c : CodePoint} {k : Nat} {l r s : Text}
    (h : List.replicate (k + 1) c ++ (l ++ r) = l ++ s) : ∀ d ∈ l, d = c := by
  induction l with
  | nil => simp
  | cons d l ih =>
    rw [List.replicate_succ, List.cons_append, List.cons_append, List.cons_append] at h
    obtain ⟨hhead, htail⟩ := List.cons.inj h
    rw [List.forall_mem_cons]
    refine ⟨hhead.symm, ih ?_⟩
    rw [List.replicate_succ', List.append_assoc]
    simpa [hhead] using htail

theorem mentions_arrow_eq_false_of_forall {c : CodePoint} (hc : c ≠ '=') {l : Text}
    (h : ∀ d ∈ l, d = c) : Text.mentions arrow l = false := by
  induction l with
  | nil => rfl
  | cons d l ih =>
    rw [List.forall_mem_cons] at h
    have hhere : arrow.isPrefixOf (d :: l) = false := by
      simp [arrow, Text.ofString, List.isPrefixOf, h.1, hc.symm]
    rw [Text.mentions, hhere, ih h.2, Bool.or_false]

/-- An arrow in front of the last member opens a parenthesis in front of the whole. -/
theorem arrayTexts_ne_of_mentions_init (h : init ≠ []) (k : Nat) (x last : Text)
    (hinit : init.any (Text.mentions arrow) = true) :
    arrayTexts (k + 1) (unionText (init ++ [x])) ≠ unionText (init ++ [last]) := by
  intro heq
  have hunion : Text.mentions arrow (unionText (init ++ [x])) = true := by
    rw [mentions_arrow_unionText, List.any_append, hinit, Bool.true_or]
  obtain ⟨rest, hrest⟩ := arrayTexts_of_mentions (k + 1) hunion
  rw [hrest, unionText_concat h, unionText_concat h] at heq
  simp only [List.append_assoc] at heq
  have hall := forall_eq_of_replicate_append heq
  have hnone := mentions_arrow_eq_false_of_forall (by decide) hall
  have hsome : Text.mentions arrow (unionText init) = true := by
    rw [mentions_arrow_unionText, hinit]
  exact nomatch hnone.symm.trans hsome

/-- A blank last member leaves the bare marks, and they are the type of the last mark alone only
    if this is a mark. -/
theorem arrayTexts_blank_iff (h : init ≠ []) (k : Nat) {w : Text}
    (hinit : init.any (Text.mentions arrow) = false) (hw : Text.mentions arrow w = false) :
    arrayTexts (k + 1) (unionText (init ++ [[]])) = unionText (init ++ [arrayTexts k w]) ↔
      w = arrayMark := by
  have hblank : Text.mentions arrow [] = false := rfl
  have hws : Text.mentions arrow (arrayTexts k w) = false :=
    (mentions_arrow_arrayTexts k w).trans hw
  have hmarks : Text.mentions arrow (arrayTexts (k + 1) []) = false :=
    (mentions_arrow_arrayTexts (k + 1) []).trans hblank
  rw [arrayTexts_unionText h (k + 1) hinit hblank, unionText_concat h, unionText_concat h,
    guarded_of_not_mentions hmarks, guarded_of_not_mentions hws,
    arrayTexts_of_not_mentions _ hblank, arrayTexts_of_not_mentions k hw, List.nil_append,
    marks_succ, List.append_right_inj, List.append_left_inj, eq_comm]

/-- Arrays of a union that read like a union of members hold no arrow. -/
theorem any_mentions_eq_false_of_eq (h : init ≠ []) {k : Nat} {x last : Text}
    (heq : arrayTexts (k + 1) (unionText (init ++ [x])) = unionText (init ++ [last])) :
    (init ++ [last]).any (Text.mentions arrow) = false := by
  rw [any_concat]
  constructor
  · cases hinit : init.any (Text.mentions arrow) with
    | false => rfl
    | true => exact absurd heq (arrayTexts_ne_of_mentions_init h k x last hinit)
  · cases hlast : Text.mentions arrow last with
    | false => rfl
    | true => exact absurd heq (arrayText_ne_of_mentions_last h _ hlast)

theorem arrayTexts_unionText_iff (h : init ≠ []) (k : Nat) (x : Text) :
    arrayTexts (k + 1) (unionText (init ++ [x])) =
        unionText (init ++ [arrayTexts (k + 1) x]) ↔
      (init ++ [arrayTexts (k + 1) x]).any (Text.mentions arrow) = false := by
  constructor
  · exact any_mentions_eq_false_of_eq h
  · intro hnone
    rw [any_concat, mentions_arrow_arrayTexts] at hnone
    exact arrayTexts_unionText h (k + 1) hnone.1 hnone.2

theorem arrayTexts_unionText_blank_iff (h : init ≠ []) (k : Nat) (w : Text) :
    arrayTexts (k + 1) (unionText (init ++ [[]])) = unionText (init ++ [arrayTexts k w]) ↔
      (init ++ [arrayTexts k w]).any (Text.mentions arrow) = false ∧ w = arrayMark := by
  constructor
  · intro heq
    have hnone := any_mentions_eq_false_of_eq h heq
    refine ⟨hnone, ?_⟩
    rw [any_concat, mentions_arrow_arrayTexts] at hnone
    exact (arrayTexts_blank_iff h k hnone.1 hnone.2).1 heq
  · rintro ⟨hnone, hw⟩
    rw [any_concat, mentions_arrow_arrayTexts] at hnone
    exact (arrayTexts_blank_iff h k hnone.1 hnone.2).2 hw

end Union

/-! ### The exact condition -/

theorem forall_not_mentions_iff {types : List Text} :
    (∀ m ∈ types, Text.mentions arrow m = false) ↔
      types.any (Text.mentions arrow) = false := by
  simp

theorem parse_arrayMark : parse arrayMark = word arrayMark :=
  parse_append_mark_of_eq (t := []) rfl

/-- **When a union is the union of its members.**  Let a text have several members.  Its type is
    the union of the types of the members, translated from left to right, exactly if the text
    does not end in the mark of an array, or else no type of a member holds an arrow, and the
    last member is more than marks or the mark alone stands for itself. -/
theorem unionType_eq_members_iff (ctx : Context) (fallback : Text) {t : Text}
    (h : 2 ≤ (splitTop '|' t.trim).length) :
    ∃ members : List Text,
      (translateAll (some fallback) ctx ((splitTop '|' t.trim).map parse)).1 =
        members.map some ∧
      ((ctx.translate (some fallback) (some t)).1 = some (unionText members) ↔
        isArrayText t.trim = false ∨
          (∀ m ∈ members, Text.mentions arrow m = false) ∧
          ∀ last, (splitTop '|' t.trim).getLast? = some last →
            (parse last).innermost = word arrayMark →
            (ctx.translate (some fallback) (some arrayMark)).1 = some arrayMark) := by
  refine ⟨((splitTop '|' t.trim).map parse).map (typeOf fallback ctx),
    translateAll_some fallback ctx _, ?_⟩
  obtain ⟨init, last, hsplit⟩ := (List.eq_nil_or_concat (splitTop '|' t.trim)).resolve_left
    (splitAtDepth_ne_nil '|' 0 t.trim)
  rw [List.concat_eq_append] at hsplit
  have hinit : init ≠ [] := by
    rintro rfl
    rw [hsplit, List.nil_append, List.length_singleton] at h
    exact absurd h (by decide)
  obtain ⟨k, inner, hparse, harray, hlast⟩ := parse_members (Text.trim_trim t) hsplit hinit
  have htypes : init.map (fun part => typeOf fallback ctx (parse part)) ≠ [] :=
    fun hnil => hinit (List.map_eq_nil_iff.1 hnil)
  have hleft : (ctx.translate (some fallback) (some t)).1 = some (arrayTexts k
      (unionText (init.map (fun part => typeOf fallback ctx (parse part)) ++
        [typeOf fallback ctx inner]))) := by
    change (translate (some fallback) ctx (parse t)).1 = _
    rw [← parse_trim, hparse, translate_some, typeOf_arrays, typeOf_union]
    simp only [List.map_append, List.map_map, List.map_cons, List.map_nil, Function.comp_def]
  have hmark : (ctx.translate (some fallback) (some arrayMark)).1 =
      some (typeOf fallback ctx (word arrayMark)) := by
    change (translate (some fallback) ctx (parse arrayMark)).1 = _
    rw [parse_arrayMark, translate_some]
  have hgetLast : (init ++ [last]).getLast? = some last := by simp
  rw [hleft, hmark, hsplit, hgetLast]
  simp only [List.map_append, List.map_map, List.map_cons, List.map_nil, Function.comp_def,
    Option.some.injEq, forall_eq']
  rw [forall_not_mentions_iff]
  generalize hheads : init.map (fun part => typeOf fallback ctx (parse part)) = heads at htypes ⊢
  -- `k` counts the marks that the text ends in: none of them, or some around the whole union
  cases k with
  | zero =>
    rcases hlast with ⟨-, hinner⟩ | ⟨-, -, j, hj, -⟩
    · rw [hinner]
      exact ⟨fun _ => Or.inl (harray.2 rfl), fun _ => rfl⟩
    · exact nomatch hj
  | succ k =>
    have hmarked : isArrayText t.trim ≠ false := fun hfalse => nomatch harray.1 hfalse
    rcases hlast with ⟨hmore, hinner⟩ | ⟨hbare, rfl, j, hj, hinner⟩
    · rw [hinner, typeOf_arrays, arrayTexts_unionText_iff htypes]
      rw [hinner] at hmore
      simp [hmarked, hmore]
    · -- the last member is nothing but marks, so the union ends in a blank one
      obtain rfl : k = j := Nat.succ.inj hj
      rw [hbare, hinner, typeOf_arrays, typeOf_blank, arrayTexts_unionText_blank_iff htypes]
      simp [hmarked]

/-- A union that ends in an array of arrays, and holds no arrow. -/
theorem unionType_eq_members_numbers :
    2 ≤ (splitTop '|' (Text.trim "Number | String[][]")).length ∧
    ((Context.start .standard []).translate (some "any") (some "Number | String[][]")).1 =
      some (unionText ["number", "string[][]"]) := by
  have hmany : 2 ≤ (splitTop '|' (Text.trim "Number | String[][]")).length := by decide
  have hpresent : allPresent (translateAll (some "any") (Context.start .standard [])
      ((splitTop '|' (Text.trim "Number | String[][]")).map parse)).1 =
        some (["number", "string[][]"] : List Text) := by decide +kernel
  have hgetLast : (splitTop '|' (Text.trim "Number | String[][]")).getLast? =
      some (" String[][]" : Text) := by decide +kernel
  have hword : parse (" String" : Text) = word "String" := by
    rw [parse_eq, if_neg (by decide), if_neg (by decide), if_neg (by decide)]
    rfl
  have hmore : (parse (" String[][]" : Text)).innermost = word "String" := by
    change (parse ((" String" : Text) ++ arrayMark ++ arrayMark)).innermost = _
    rw [parse_append_mark_of_ne (by decide), parse_append_mark_of_ne (by decide), hword]
    rfl
  obtain ⟨members, htypes, hiff⟩ :=
    unionType_eq_members_iff (Context.start .standard []) "any" hmany
  obtain rfl : (["number", "string[][]"] : List Text) = members :=
    Option.some.inj (hpresent.symm.trans (allPresent_eq_some_iff.2 htypes))
  refine ⟨hmany, hiff.2 (Or.inr ⟨by decide +kernel, ?_⟩)⟩
  intro last hlast hbare
  obtain rfl : (" String[][]" : Text) = last := Option.some.inj (hgetLast.symm.trans hlast)
  exact absurd (word.inj (hmore.symm.trans hbare)) (by decide)

/-- A union with a function in it that ends in an array is the array of a union. -/
theorem unionType_ne_members_function :
    2 ≤ (splitTop '|' (Text.trim "Function(Number)|String[]")).length ∧
    (translateAll (some "any") (Context.start .standard [])
      ((splitTop '|' (Text.trim "Function(Number)|String[]")).map parse)).1 =
        [some ("(p1: number) => any" : Text), some ("string[]" : Text)] ∧
    unionText ["(p1: number) => any", "string[]"] = ("((p1: number) => any)|string[]" : Text) ∧
    ((Context.start .standard []).translate (some "any") (some "Function(Number)|String[]")).1 =
      some ("(((p1: number) => any)|string)[]" : Text) := by
  refine ⟨?_, ?_, ?_, ?_⟩ <;> decide +kernel

end DocType

end Ambient
