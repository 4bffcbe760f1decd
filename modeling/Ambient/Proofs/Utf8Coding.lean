/-
  Ambient/Proofs/Utf8Coding.lean
  ==============================
  **Texts and their bytes: reading undoes writing, and writing undoes reading.**

  A code point beyond ASCII is written as a first byte and some bytes of six bits each
  (`Utf8.following`).  While it is read it is `Pending`, and a pending code point may still become
  the numbers that agree with its bytes so far and with the range of its next one
  (`Pending.MaySpell`).  A byte in the range leaves a pending code point that may become the same
  numbers, so what is read behind a first byte is exactly what some number is written with
  (`decodeFrom_following`, `exists_following`).  The ranges see to it that the first byte is the
  one of this number, and that the number is that of a character (`Pending.Begins.encodeNumber`).
-/
import Ambient.Text.Utf8

namespace Ambient

/-- A text has bytes in an encoding exactly if each of its code points has. -/
theorem EncodeFault.of?_eq_none_iff {encoding : Encoding} {t : Text} :
    of? encoding t = none ↔ ∀ c ∈ t, encoding.covers c = true := by
  have hrun : ∀ u : Text, (of? encoding u = none) ↔
      (u.drop (u.takeWhile encoding.covers).length).takeWhile (!encoding.covers ·) = [] := by
    intro u
    simp [of?, find?]
  rw [hrun]
  induction t with
  | nil => simp
  | cons c t ih =>
    cases hc : encoding.covers c with
    | true => simp [hc, ih]
    | false => simp [hc]

namespace Utf8

/-- A number without its last groups of six bits. -/
def above : Nat → Nat → Nat
  | 0, n => n
  | k + 1, n => above k n / 64

@[simp] theorem above_zero (n : Nat) : above 0 n = n := rfl

@[simp] theorem above_one (n : Nat) : above 1 n = n / 64 := rfl

@[simp] theorem above_two (n : Nat) : above 2 n = n / 4096 := Nat.div_div_eq_div_mul n 64 64

@[simp] theorem above_three (n : Nat) : above 3 n = n / 262144 := by
  rw [above, above_two, Nat.div_div_eq_div_mul]

def following : Nat → Nat → List UInt8
  | 0, _ => []
  | k + 1, n => .ofNat (0x80 + above k n % 64) :: following k n

namespace Pending

/-! ### First bytes -/

/-- The first bytes of code points of two, three and four bytes.  Behind some of them a longer form
    of a smaller number, a surrogate or a number beyond the last one would follow, if the range of
    the next byte were not narrower. -/
inductive Begins : UInt8 → Pending → Prop
  | two {v : Nat} (hlow : 2 ≤ v) (hhigh : v < 32) :
    Begins (.ofNat (0xC0 + v)) ⟨.ofNat (0xC0 + v), 1, 1, 0x80, 0xBF, v⟩
  | three {v : Nat} (hhigh : v < 16) :
    Begins (.ofNat (0xE0 + v)) ⟨.ofNat (0xE0 + v), 1, 2, if v = 0 then 0xA0 else 0x80,
      if v = 0xD then 0x9F else 0xBF, v⟩
  | four {v : Nat} (hhigh : v < 5) :
    Begins (.ofNat (0xF0 + v)) ⟨.ofNat (0xF0 + v), 1, 3, if v = 0 then 0x90 else 0x80,
      if v = 4 then 0x8F else 0xBF, v⟩

theorem Begins.more {b : UInt8} {p : Pending} (h : Begins b p) : ∃ k, p.more = k + 1 := by
  cases h with
  | two => exact ⟨0, rfl⟩
  | three => exact ⟨1, rfl⟩
  | four => exact ⟨2, rfl⟩

theorem Begins.not_ascii {b : UInt8} {p : Pending} (h : Begins b p) : ¬ b < 0x80 := by
  have hb : 0x80 ≤ b.toNat := by
    cases h with
    | two hlow hhigh => rw [UInt8.toNat_ofNat_of_lt' (by change _ < 256; omega)]; omega
    | three hhigh => rw [UInt8.toNat_ofNat_of_lt' (by change _ < 256; omega)]; omega
    | four hhigh => rw [UInt8.toNat_ofNat_of_lt' (by change _ < 256; omega)]; omega
  rw [UInt8.lt_iff_toNat_lt]
  exact Nat.not_lt.2 hb

theorem ofFirst?_of_begins {b : UInt8} {p : Pending} (h : Begins b p) : ofFirst? b = some p := by
  cases h with
  | two hlow hhigh =>
    rename_i v
    revert hlow
    revert v
    decide
  | three hhigh =>
    rename_i v
    revert v
    decide
  | four hhigh =>
    rename_i v
    revert v
    decide

theorem begins_of_ofFirst? {b : UInt8} {p : Pending} (h : ofFirst? b = some p) : Begins b p := by
  have hrange : ∀ n < 256, (ofFirst? (.ofNat n)).isSome = true →
      0xC2 ≤ n ∧ n < 0xE0 ∨ 0xE0 ≤ n ∧ n < 0xF0 ∨ 0xF0 ≤ n ∧ n < 0xF5 := by
    decide +kernel
  have hb := hrange b.toNat b.toNat_lt
  rw [UInt8.ofNat_toNat, h] at hb
  -- a first byte begins one pending code point only
  have hsame : ∀ {n : Nat} {q : Pending}, b.toNat = n → Begins (.ofNat n) q → Begins b p := by
    intro n q hn hq
    rw [← hn, UInt8.ofNat_toNat] at hq
    have hpq := ofFirst?_of_begins hq
    rw [h] at hpq
    cases hpq
    exact hq
  rcases hb rfl with ⟨hlow, hhigh⟩ | ⟨hlow, hhigh⟩ | ⟨hlow, hhigh⟩
  · exact hsame (by omega) (.two (v := b.toNat - 0xC0) (by omega) (by omega))
  · exact hsame (by omega) (.three (v := b.toNat - 0xE0) (by omega))
  · exact hsame (by omega) (.four (v := b.toNat - 0xF0) (by omega))

/-! ### The numbers that a pending code point may become -/

/-- Whether a pending code point may become a number. -/
structure MaySpell (p : Pending) (n : Nat) : Prop where
  value : above p.more n = p.value
  low : p.low.toNat ≤ 0x80 + above (p.more - 1) n % 64
  high : 0x80 + above (p.more - 1) n % 64 ≤ p.high.toNat

section

variable {c : Prop} [Decidable c] {a b : UInt8} {m : Nat}

theorem toNat_ite_le_iff :
    (if c then a else b).toNat ≤ m ↔ (c → a.toNat ≤ m) ∧ (¬ c → b.toNat ≤ m) := by
  by_cases h : c
  · simp [h]
  · simp [h]

theorem le_toNat_ite_iff :
    m ≤ (if c then a else b).toNat ↔ (c → m ≤ a.toNat) ∧ (¬ c → m ≤ b.toNat) := by
  by_cases h : c
  · simp [h]
  · simp [h]

end

/-- The bytes of a number that a first byte may become are this one and the last ones. -/
theorem Begins.encodeNumber {b : UInt8} {p : Pending} {n : Nat} (h : Begins b p)
    (hn : p.MaySpell n) : encodeNumber n = b :: following p.more n ∧ n.isValidChar := by
  obtain ⟨hvalue, hlow, hhigh⟩ := hn
  cases h with
  | two hge hlt =>
    simp only [above_one] at hvalue
    have hrange : 0x80 ≤ n ∧ n < 0x800 := by omega
    refine ⟨?_, .inl (by omega)⟩
    rw [Utf8.encodeNumber, if_neg (by omega), if_pos hrange.2, hvalue]
    simp [following]
  | three hlt =>
    rename_i v
    -- the range of the second byte keeps out longer forms of smaller numbers, and surrogates
    have hrange : 0x800 ≤ n ∧ n < 0x10000 ∧ n.isValidChar := by
      simp only [above_one, above_two, Nat.reduceSub] at hvalue hlow hhigh
      simp only [toNat_ite_le_iff, UInt8.reduceToNat] at hlow
      simp only [le_toNat_ite_iff, UInt8.reduceToNat] at hhigh
      unfold Nat.isValidChar
      omega
    rw [above_two] at hvalue
    refine ⟨?_, hrange.2.2⟩
    rw [Utf8.encodeNumber, if_neg (by omega), if_neg (by omega), if_pos hrange.2.1, hvalue]
    simp [following]
  | four hlt =>
    rename_i v
    have hrange : 0x10000 ≤ n ∧ n < 0x110000 := by
      simp only [above_two, above_three, Nat.reduceSub] at hvalue hlow hhigh
      simp only [toNat_ite_le_iff, UInt8.reduceToNat] at hlow
      simp only [le_toNat_ite_iff, UInt8.reduceToNat] at hhigh
      omega
    rw [above_three] at hvalue
    refine ⟨?_, .inr ⟨by omega, hrange.2⟩⟩
    rw [Utf8.encodeNumber, if_neg (by omega), if_neg (by omega), if_neg (by omega), hvalue]
    simp [following]

theorem six_bits_le (n : Nat) : 0x80 + n % 64 ≤ 0xBF := by omega

/-- Some first byte may become each number beyond ASCII. -/
theorem exists_begins {n : Nat} (hlow : 0x80 ≤ n) (hn : n.isValidChar) :
    ∃ b p, Begins b p ∧ p.MaySpell n := by
  unfold Nat.isValidChar at hn
  by_cases htwo : n < 0x800
  · exact ⟨_, _, .two (v := n / 64) (by omega) (by omega), above_one n, Nat.le_add_right _ _,
      six_bits_le n⟩
  · by_cases hthree : n < 0x10000
    · refine ⟨_, _, .three (v := n / 4096) (by omega), above_two n, ?low, ?high⟩
      case low =>
        refine toNat_ite_le_iff.2 ⟨fun hzero => ?_, fun _ => Nat.le_add_right _ _⟩
        change 0xA0 ≤ 0x80 + n / 64 % 64
        omega
      case high =>
        refine le_toNat_ite_iff.2 ⟨fun hlast => ?_, fun _ => six_bits_le (n / 64)⟩
        change 0x80 + n / 64 % 64 ≤ 0x9F
        omega
    · refine ⟨_, _, .four (v := n / 262144) (by omega), above_three n, ?low, ?high⟩
      case low =>
        refine toNat_ite_le_iff.2 ⟨fun hzero => ?_, fun _ => Nat.le_add_right _ _⟩
        change 0x90 ≤ 0x80 + n / 64 / 64 % 64
        omega
      case high =>
        refine le_toNat_ite_iff.2 ⟨fun hlast => ?_, fun _ => six_bits_le (n / 64 / 64)⟩
        change 0x80 + n / 64 / 64 % 64 ≤ 0x8F
        omega

def past (p : Pending) (b : UInt8) : Pending :=
  ⟨p.first, p.seen + 1, p.more - 1, 0x80, 0xBF, p.value * 64 + (b.toNat - 0x80)⟩

/-- Whether the next byte is one of six bits. -/
def WantsSixBits (p : Pending) : Prop := 0x80 ≤ p.low.toNat ∧ p.high.toNat ≤ 0xBF

theorem Begins.wantsSixBits {b : UInt8} {p : Pending} (h : Begins b p) : p.WantsSixBits := by
  cases h with
  | two => exact ⟨Nat.le_refl _, Nat.le_refl _⟩
  | three =>
    exact ⟨le_toNat_ite_iff.2 ⟨fun _ => by decide, fun _ => by decide⟩,
      toNat_ite_le_iff.2 ⟨fun _ => by decide, fun _ => by decide⟩⟩
  | four =>
    exact ⟨le_toNat_ite_iff.2 ⟨fun _ => by decide, fun _ => by decide⟩,
      toNat_ite_le_iff.2 ⟨fun _ => by decide, fun _ => by decide⟩⟩

theorem wantsSixBits_past (p : Pending) (b : UInt8) : (p.past b).WantsSixBits :=
  ⟨Nat.le_refl _, Nat.le_refl _⟩

theorem toNat_six (n : Nat) : (UInt8.ofNat (0x80 + n % 64)).toNat = 0x80 + n % 64 :=
  UInt8.toNat_ofNat_of_lt' (by change _ < 256; omega)

variable {p : Pending} {n k : Nat}

/-- The next byte of a number that a pending code point may become. -/
theorem MaySpell.next (h : p.MaySpell n) (hmore : p.more = k + 1) :
    (p.low ≤ .ofNat (0x80 + above k n % 64) ∧ .ofNat (0x80 + above k n % 64) ≤ p.high) ∧
      (p.past (.ofNat (0x80 + above k n % 64))).value = above k n := by
  obtain ⟨hvalue, hlow, hhigh⟩ := h
  rw [hmore, Nat.add_sub_cancel] at hlow hhigh
  rw [hmore, above] at hvalue
  simp only [past, UInt8.le_iff_toNat_le, toNat_six]
  omega

/-- A byte in the range is the next one of all numbers that the code point may become behind it. -/
theorem maySpell_of_next {b : UInt8} (hsix : p.WantsSixBits) (hmore : p.more = k + 1)
    (hlow : p.low ≤ b) (hhigh : b ≤ p.high) (hn : above k n = (p.past b).value) :
    p.MaySpell n ∧ b = .ofNat (0x80 + above k n % 64) := by
  obtain ⟨hge, hle⟩ := hsix
  rw [UInt8.le_iff_toNat_le] at hlow hhigh
  simp only [past] at hn
  have hbits : 0x80 + above k n % 64 = b.toNat := by omega
  refine ⟨⟨?_, ?_, ?_⟩, ?_⟩
  · rw [hmore, above]
    omega
  · rwa [hmore, Nat.add_sub_cancel, hbits]
  · rwa [hmore, Nat.add_sub_cancel, hbits]
  · rw [hbits, UInt8.ofNat_toNat]

theorem MaySpell.past (h : p.MaySpell n) (hmore : p.more = k + 2) :
    (p.past (.ofNat (0x80 + above (k + 1) n % 64))).MaySpell n := by
  obtain ⟨-, hvalue⟩ := h.next hmore
  refine ⟨?_, ?_, ?_⟩
  · rw [hvalue]
    simp only [Pending.past, hmore, Nat.add_one_sub_one]
  · exact Nat.le_add_right _ _
  · simp only [Pending.past, UInt8.reduceToNat]
    omega

end Pending

/-! ### Reading behind a first byte -/

section Reading

variable {p : Pending} {n k : Nat}

theorem decodeFrom_first (position : Nat) (done : Text) {b : UInt8} {rest : List UInt8}
    (hb : Pending.Begins b p) :
    decodeFrom position none done (b :: rest) = decodeFrom (position + 1) (some p) done rest := by
  simp only [decodeFrom, if_neg hb.not_ascii, Pending.ofFirst?_of_begins hb]

theorem decodeFrom_next (position : Nat) (done : Text) {b : UInt8} {rest : List UInt8}
    (hb : p.low ≤ b ∧ b ≤ p.high) (hmore : p.more = k + 2) :
    decodeFrom position (some p) done (b :: rest) =
      decodeFrom (position + 1) (some (p.past b)) done rest := by
  simp only [decodeFrom, if_pos hb]
  rw [if_neg (by omega)]
  rfl

theorem decodeFrom_last (position : Nat) (done : Text) {b : UInt8} {rest : List UInt8}
    (hb : p.low ≤ b ∧ b ≤ p.high) (hmore : p.more = 1) :
    decodeFrom position (some p) done (b :: rest) =
      decodeFrom (position + 1) none (.scalar (Char.ofNat (p.past b).value) :: done) rest := by
  simp only [decodeFrom, if_pos hb, if_pos hmore]
  rfl

/-- The last bytes of a number that a pending code point may become are read as this number. -/
theorem decodeFrom_following (hn : p.MaySpell n) (hmore : p.more = k + 1) (position : Nat)
    (done : Text) (rest : List UInt8) :
    decodeFrom position (some p) done (following (k + 1) n ++ rest) =
      decodeFrom (position + (k + 1)) none (.scalar (Char.ofNat n) :: done) rest := by
  induction k generalizing p position with
  | zero =>
    obtain ⟨hrange, hvalue⟩ := hn.next hmore
    rw [following, List.cons_append, decodeFrom_last position done hrange hmore, hvalue]
    rfl
  | succ k ih =>
    obtain ⟨hrange, -⟩ := hn.next hmore
    rw [following, List.cons_append, decodeFrom_next position done hrange hmore,
      ih (hn.past hmore) (by simp only [Pending.past, hmore, Nat.add_one_sub_one])]
    congr 1
    omega

/-- What is read behind a first byte are the last bytes of a number that it may become. -/
theorem exists_following {bytes : List UInt8} {position : Nat} {done t : Text}
    (hsix : p.WantsSixBits) (hmore : p.more = k + 1)
    (h : decodeFrom position (some p) done bytes = .ok t) :
    ∃ n rest, p.MaySpell n ∧ bytes = following (k + 1) n ++ rest ∧
      decodeFrom (position + (k + 1)) none (.scalar (Char.ofNat n) :: done) rest = .ok t := by
  -- on the number of bytes to come, each of which must lie in the range that is pending
  induction k generalizing p position bytes with
  | zero =>
    rcases bytes with _ | ⟨b, rest⟩
    · exact nomatch h
    · by_cases hrange : p.low ≤ b ∧ b ≤ p.high
      · rw [decodeFrom_last position done hrange hmore] at h
        obtain ⟨hn, hb⟩ := Pending.maySpell_of_next (n := (p.past b).value) hsix hmore hrange.1
          hrange.2 rfl
        refine ⟨(p.past b).value, rest, hn, ?_, h⟩
        rw [following, ← hb]
        rfl
      · simp only [decodeFrom, if_neg hrange] at h
        exact nomatch h
  | succ k ih =>
    rcases bytes with _ | ⟨b, rest⟩
    · exact nomatch h
    · by_cases hrange : p.low ≤ b ∧ b ≤ p.high
      · rw [decodeFrom_next position done hrange hmore] at h
        have hmore' : (p.past b).more = k + 1 := by
          simp only [Pending.past, hmore, Nat.add_one_sub_one]
        obtain ⟨n, rest, hpast, rfl, hrest⟩ := ih (p.wantsSixBits_past b) hmore' h
        have hvalue := hpast.value
        rw [hmore'] at hvalue
        obtain ⟨hn, hb⟩ := Pending.maySpell_of_next hsix hmore hrange.1 hrange.2 hvalue
        refine ⟨n, rest, hn, ?_, ?_⟩
        · rw [hb]
          rfl
        · rwa [Nat.add_right_comm] at hrest
      · simp only [decodeFrom, if_neg hrange] at h
        exact nomatch h

end Reading

/-! ### Whole texts -/

theorem encodeNumber_ne_nil (n : Nat) : encodeNumber n ≠ [] := by
  unfold encodeNumber
  split
  · exact List.cons_ne_nil _ _
  · split
    · exact List.cons_ne_nil _ _
    · split <;> exact List.cons_ne_nil _ _

/-- The texts that UTF-8 has bytes for, and the bytes. -/
theorem encode_eq_ok_iff {t : Text} {bytes : List UInt8} :
    encode t = .ok bytes ↔
      (∀ c ∈ t, c.isSurrogate = false) ∧ bytes = t.flatMap fun c => encodeNumber c.code := by
  have hfault : EncodeFault.of? .utf8 t = none ↔ ∀ c ∈ t, c.isSurrogate = false := by
    simp only [EncodeFault.of?_eq_none_iff, Encoding.covers, Bool.not_eq_true']
  unfold encode
  cases h : EncodeFault.of? .utf8 t with
  | none =>
    constructor
    · intro hbytes
      exact ⟨hfault.1 h, (Except.ok.inj hbytes).symm⟩
    · rintro ⟨-, rfl⟩
      rfl
  | some f =>
    constructor
    · exact nofun
    · rintro ⟨hall, -⟩
      rw [hfault.2 hall] at h
      exact nomatch h

theorem toNat_ofNat {n : Nat} (h : n.isValidChar) : (Char.ofNat n).toNat = n := by
  rw [Char.ofNat, dif_pos h]
  rfl

/-- The bytes of a character are read as it. -/
theorem decodeFrom_encodeNumber (c : Char) (position : Nat) (done : Text) (rest : List UInt8) :
    ∃ behind, decodeFrom position none done (encodeNumber c.toNat ++ rest) =
      decodeFrom behind none (.scalar c :: done) rest := by
  by_cases hascii : c.toNat < 0x80
  · have hb : (UInt8.ofNat c.toNat).toNat = c.toNat :=
      UInt8.toNat_ofNat_of_lt' (by change _ < 256; omega)
    have hlt : UInt8.ofNat c.toNat < 0x80 := by
      rw [UInt8.lt_iff_toNat_lt, hb]
      exact hascii
    refine ⟨position + 1, ?_⟩
    rw [encodeNumber, if_pos hascii, List.singleton_append]
    simp only [decodeFrom, if_pos hlt, hb, Char.ofNat_toNat]
  · obtain ⟨b, p, hbegins, hn⟩ := Pending.exists_begins (Nat.le_of_not_lt hascii) c.valid
    obtain ⟨hbytes, -⟩ := hbegins.encodeNumber hn
    obtain ⟨k, hmore⟩ := hbegins.more
    refine ⟨position + 1 + (k + 1), ?_⟩
    rw [hbytes, List.cons_append, decodeFrom_first position done hbegins, hmore,
      decodeFrom_following hn hmore, Char.ofNat_toNat]

/-- The bytes in front of what is read in the end are those of a character. -/
theorem exists_encodeNumber {b : UInt8} {bytes : List UInt8} {position : Nat} {done t : Text}
    (h : decodeFrom position none done (b :: bytes) = .ok t) :
    ∃ (c : Char) (rest : List UInt8) (behind : Nat),
      b :: bytes = encodeNumber c.toNat ++ rest ∧
        decodeFrom behind none (.scalar c :: done) rest = .ok t := by
  by_cases hascii : b < 0x80
  · simp only [decodeFrom, if_pos hascii] at h
    rw [UInt8.lt_iff_toNat_lt] at hascii
    have hlt : b.toNat < 0x80 := hascii
    refine ⟨Char.ofNat b.toNat, bytes, position + 1, ?_, h⟩
    rw [toNat_ofNat (.inl (by omega)), encodeNumber, if_pos hlt, UInt8.ofNat_toNat]
    rfl
  · cases hfirst : Pending.ofFirst? b with
    | none =>
      simp only [decodeFrom, if_neg hascii, hfirst] at h
      exact nomatch h
    | some p =>
      have hbegins := Pending.begins_of_ofFirst? hfirst
      obtain ⟨k, hmore⟩ := hbegins.more
      rw [decodeFrom_first position done hbegins] at h
      obtain ⟨n, rest, hn, rfl, hrest⟩ := exists_following hbegins.wantsSixBits hmore h
      obtain ⟨hbytes, hvalid⟩ := hbegins.encodeNumber hn
      refine ⟨Char.ofNat n, rest, position + 1 + (k + 1), ?_, hrest⟩
      rw [toNat_ofNat hvalid, hbytes, hmore]
      rfl

theorem decodeFrom_flatMap {t : Text} (h : ∀ c ∈ t, c.isSurrogate = false) (position : Nat)
    (done : Text) :
    decodeFrom position none done (t.flatMap fun c => encodeNumber c.code) =
      .ok (done.reverse ++ t) := by
  induction t generalizing position done with
  | nil => simp [decodeFrom]
  | cons c t ih =>
    rw [List.forall_mem_cons] at h
    rcases c with c | k
    · obtain ⟨behind, hread⟩ := decodeFrom_encodeNumber c position done
        (t.flatMap fun c => encodeNumber c.code)
      rw [List.flatMap_cons, CodePoint.code_scalar, hread, ih h.2]
      simp
    · exact nomatch h.1

theorem exists_flatMap {bytes : List UInt8} {position : Nat} {done t : Text}
    (h : decodeFrom position none done bytes = .ok t) :
    ∃ u : Text, t = done.reverse ++ u ∧ (∀ c ∈ u, c.isSurrogate = false) ∧
      bytes = u.flatMap fun c => encodeNumber c.code := by
  -- each step reads the bytes of one character, which are one or more
  induction hlength : bytes.length using Nat.strongRecOn
    generalizing bytes position done with
  | _ length ih =>
    rcases bytes with _ | ⟨b, bytes⟩
    · cases h
      exact ⟨[], by simp, by simp, rfl⟩
    · obtain ⟨c, rest, behind, hbytes, hrest⟩ := exists_encodeNumber h
      have hshort : rest.length < length := by
        have hpos := List.length_pos_iff.2 (encodeNumber_ne_nil c.toNat)
        rw [← hlength, hbytes, List.length_append]
        omega
      obtain ⟨u, rfl, hu, rfl⟩ := ih _ hshort hrest rfl
      refine ⟨.scalar c :: u, by simp, ?_, hbytes⟩
      rw [List.forall_mem_cons]
      exact ⟨rfl, hu⟩

/-- **Reading and writing undo each other.** -/
theorem decode_eq_ok_iff {bytes : List UInt8} {t : Text} :
    decode bytes = .ok t ↔ encode t = .ok bytes := by
  rw [encode_eq_ok_iff]
  constructor
  · intro h
    obtain ⟨u, rfl, hu, hbytes⟩ := exists_flatMap h
    exact ⟨hu, hbytes⟩
  · rintro ⟨hall, rfl⟩
    exact decodeFrom_flatMap hall 0 []

end Utf8

end Ambient
