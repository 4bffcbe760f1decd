/-
  Ambient/Table.lean
  ==================
  **Tables: values under text keys, in the order in which the keys first came.**

  The order of a documentation file shows in everything that is written from it, so the maps of
  this library keep it.  A `Table` is a list of entries in which no key occurs twice.  Inserting
  under a key that is present replaces its value and leaves its place (`keys_insert`); a new key
  goes to the end.  `insertNew` keeps a value that is there already.

  The view of a table is `keys` and `get?`; each operation has its equation for both.
-/
import Ambient.Text.Basic

namespace Ambient

variable {α β : Type}

/-- The entries with a value put under a key: in the place of the key, or at the end. -/
def insertEntry (key : Text) (value : α) : List (Text × α) → List (Text × α)
  | [] => [(key, value)]
  | (k, v) :: rest => if k = key then (k, value) :: rest else (k, v) :: insertEntry key value rest

theorem keys_insertEntry (key : Text) (value : α) (entries : List (Text × α)) :
    (insertEntry key value entries).map Prod.fst =
      if key ∈ entries.map Prod.fst then entries.map Prod.fst
      else entries.map Prod.fst ++ [key] := by
  induction entries with
  | nil => simp [insertEntry]
  | cons e rest ih =>
    obtain ⟨k, v⟩ := e
    simp only [insertEntry]
    by_cases h : k = key
    · simp [h]
    · have h' : key ≠ k := fun e => h e.symm
      simp only [if_neg h, List.map_cons, ih, List.mem_cons, h', false_or]
      split <;> simp

theorem lookup_cons_entry (key : Text) (e : Text × α) (rest : List (Text × α)) :
    (e :: rest).lookup key = if key = e.1 then some e.2 else rest.lookup key := by
  obtain ⟨k, v⟩ := e
  by_cases h : key = k
  · simp [h]
  · rw [List.lookup_cons, if_neg h, beq_eq_false_iff_ne.2 h]

/-- Some keys with one value under all of them. -/
theorem lookup_map_entry (keys : List Text) (value : α) (key : Text) :
    (keys.map fun k => (k, value)).lookup key = if key ∈ keys then some value else none := by
  induction keys with
  | nil => rfl
  | cons first rest ih =>
    rw [List.map_cons, lookup_cons_entry, ih]
    by_cases h : key = first <;> simp [h]

theorem lookup_insertEntry (key key' : Text) (value : α) (entries : List (Text × α)) :
    (insertEntry key value entries).lookup key' =
      if key' = key then some value else entries.lookup key' := by
  induction entries with
  | nil => simp [insertEntry, lookup_cons_entry]
  | cons e rest ih =>
    obtain ⟨k, v⟩ := e
    by_cases h : k = key
    · subst h
      by_cases h' : key' = k <;> simp [insertEntry, lookup_cons_entry, h']
    · by_cases h' : key' = k
      · have : key' ≠ key := fun e => h (h'.symm.trans e)
        simp [insertEntry, h, h']
      · simp [insertEntry, lookup_cons_entry, h, h', ih]

theorem filter_insertEntry (keep : Text → Bool) (key : Text) (value : α)
    (entries : List (Text × α)) :
    (insertEntry key value entries).filter (fun e => keep e.1) =
      if keep key then insertEntry key value (entries.filter fun e => keep e.1)
      else entries.filter fun e => keep e.1 := by
  induction entries with
  | nil => cases hk : keep key <;> simp [insertEntry, hk]
  | cons e rest ih =>
    obtain ⟨k, v⟩ := e
    by_cases h : k = key
    · subst h
      cases hk : keep k <;> simp [insertEntry, hk]
    · have hcons : insertEntry key value ((k, v) :: rest) = (k, v) :: insertEntry key value rest :=
        if_neg h
      rw [hcons, List.filter_cons, ih]
      cases hk : keep k <;> cases hkey : keep key <;> simp [insertEntry, h, hk]

theorem lookup_filter_entry (keep : Text → Bool) (key : Text) (entries : List (Text × α)) :
    (entries.filter fun e => keep e.1).lookup key =
      if keep key then entries.lookup key else none := by
  induction entries with
  | nil => simp
  | cons e rest ih =>
    rw [List.filter_cons, lookup_cons_entry]
    by_cases hkey : key = e.1
    · subst hkey
      cases hkeep : keep e.1 with
      | true => simp [lookup_cons_entry]
      | false => simp [ih, hkeep]
    · rw [if_neg hkey, ← ih]
      split
      · rw [lookup_cons_entry, if_neg hkey]
      · rfl

theorem insertEntry_of_lookup {key : Text} {value : α} {entries : List (Text × α)}
    (h : entries.lookup key = some value) : insertEntry key value entries = entries := by
  induction entries with
  | nil => exact nomatch h
  | cons e rest ih =>
    obtain ⟨k, v⟩ := e
    rw [lookup_cons_entry] at h
    by_cases hk : key = k
    · rw [if_pos hk] at h
      cases h
      simp [insertEntry, hk]
    · rw [if_neg hk] at h
      rw [insertEntry, if_neg (Ne.symm hk), ih h]

theorem insertEntry_eq_map {key : Text} {value : α} {entries : List (Text × α)}
    (hnodup : (entries.map Prod.fst).Nodup) (h : entries.lookup key = some value) (f : α → α) :
    insertEntry key (f value) entries =
      entries.map fun e => (e.1, if e.1 = key then f e.2 else e.2) := by
  induction entries with
  | nil => exact nomatch h
  | cons e rest ih =>
    obtain ⟨k, v⟩ := e
    obtain ⟨hnew, hrest⟩ := List.nodup_cons.1 hnodup
    rw [lookup_cons_entry] at h
    by_cases hk : key = k
    · rw [if_pos hk] at h
      cases h
      subst hk
      have hothers : rest.map (fun e => (e.1, if e.1 = key then f e.2 else e.2)) = rest.map id := by
        apply List.map_congr_left
        intro other hother
        have hne : other.1 ≠ key := by
          rintro rfl
          exact hnew (List.mem_map.2 ⟨other, hother, rfl⟩)
        rw [if_neg hne, id]
      rw [List.map_id] at hothers
      simp [insertEntry, hothers]
    · rw [if_neg hk] at h
      simp [insertEntry, Ne.symm hk, ih hrest h]

/-- Entries whose keys do not repeat are known by their keys and what is found under each. -/
theorem eq_of_lookup {entries others : List (Text × α)} (hnodup : (entries.map Prod.fst).Nodup)
    (hkeys : entries.map Prod.fst = others.map Prod.fst)
    (hlookup : ∀ key, entries.lookup key = others.lookup key) : entries = others := by
  induction entries generalizing others with
  | nil => exact (List.map_eq_nil_iff.1 hkeys.symm).symm
  | cons e rest ih =>
    obtain ⟨f, others, rfl, hfirst, hrest⟩ := List.map_eq_cons_iff.1 hkeys.symm
    obtain ⟨hnew, hnodup⟩ := List.nodup_cons.1 hnodup
    have hvalue := hlookup e.1
    rw [lookup_cons_entry, lookup_cons_entry, if_pos rfl, if_pos hfirst.symm] at hvalue
    obtain rfl : e = f := Prod.ext hfirst.symm (Option.some.inj hvalue)
    rw [ih hnodup hrest.symm]
    intro key
    by_cases hkey : key = e.1
    · -- the key of the first entry comes in neither rest
      have hnone {more : List (Text × α)} (hmore : e.1 ∉ more.map Prod.fst) :
          more.lookup key = none := by
        rw [List.lookup_eq_none_iff]
        intro other hother
        rw [bne_iff_ne, hkey]
        intro hsame
        exact hmore (List.mem_map.2 ⟨other, hother, hsame.symm⟩)
      rw [hnone hnew, hnone (hrest ▸ hnew)]
    · have hbehind := hlookup key
      rwa [lookup_cons_entry, lookup_cons_entry, if_neg hkey, if_neg hkey] at hbehind

/-- Values under keys, each key once, in the order in which the keys first came. -/
structure Table (α : Type) where
  entries : List (Text × α)
  nodup : (entries.map Prod.fst).Nodup

namespace Table

def empty : Table α := ⟨[], by simp⟩

instance : Inhabited (Table α) := ⟨empty⟩

def keys (t : Table α) : List Text := t.entries.map Prod.fst

def values (t : Table α) : List α := t.entries.map Prod.snd

def get? (t : Table α) (key : Text) : Option α := t.entries.lookup key

def contains (t : Table α) (key : Text) : Bool := t.keys.contains key

def size (t : Table α) : Nat := t.entries.length

def insert (t : Table α) (key : Text) (value : α) : Table α where
  entries := insertEntry key value t.entries
  nodup := by
    rw [keys_insertEntry]
    split
    · exact t.nodup
    · next h =>
      rw [List.nodup_append]
      refine ⟨t.nodup, by simp, fun a ha b hb hab => h ?_⟩
      rwa [hab, List.mem_singleton.1 hb] at ha

/-- The table with a value put under a key that is not present; a key that is keeps its value. -/
def insertNew (t : Table α) (key : Text) (value : α) : Table α :=
  if t.contains key then t else t.insert key value

/-- The table of a list of entries, of which later ones win over earlier ones with their key. -/
def ofList (entries : List (Text × α)) : Table α :=
  entries.foldl (fun t e => t.insert e.1 e.2) empty

def mapEntries (f : Text → α → β) (t : Table α) : Table β where
  entries := t.entries.map fun e => (e.1, f e.1 e.2)
  nodup := by simpa [List.map_map, Function.comp_def] using t.nodup

/-! ### The view of each operation -/

@[simp] theorem keys_empty : (empty : Table α).keys = [] := rfl

@[simp] theorem get?_empty (key : Text) : (empty : Table α).get? key = none := rfl

theorem keys_nodup (t : Table α) : t.keys.Nodup := t.nodup

theorem contains_iff {t : Table α} {key : Text} : t.contains key = true ↔ key ∈ t.keys := by
  simp [contains]

/-- A key that is present keeps its place, and a new one comes last. -/
theorem keys_insert (t : Table α) (key : Text) (value : α) :
    (t.insert key value).keys = if key ∈ t.keys then t.keys else t.keys ++ [key] :=
  keys_insertEntry key value t.entries

theorem get?_insert (t : Table α) (key key' : Text) (value : α) :
    (t.insert key value).get? key' = if key' = key then some value else t.get? key' :=
  lookup_insertEntry key key' value t.entries

theorem keys_insertNew (t : Table α) (key : Text) (value : α) :
    (t.insertNew key value).keys = if key ∈ t.keys then t.keys else t.keys ++ [key] := by
  unfold insertNew
  by_cases h : key ∈ t.keys
  · simp [contains_iff.2 h, h]
  · have hc : t.contains key = false := by
      rw [← Bool.not_eq_true, contains_iff]; exact h
    simp [hc, h, keys_insert]

theorem mem_keys_iff {t : Table α} {key : Text} : key ∈ t.keys ↔ ∃ v, t.get? key = some v := by
  obtain ⟨entries, hn⟩ := t
  simp only [keys, get?]
  clear hn
  induction entries with
  | nil => simp
  | cons e rest ih =>
    by_cases h : key = e.1
    · simp [lookup_cons_entry, h]
    · rw [List.map_cons, List.mem_cons, lookup_cons_entry, if_neg h, ← ih]
      exact ⟨fun hm => hm.resolve_left h, .inr⟩

theorem get?_eq_none_iff {t : Table α} {key : Text} : t.get? key = none ↔ key ∉ t.keys := by
  rw [mem_keys_iff, ← Option.isSome_iff_exists, Option.not_isSome_iff_eq_none]

theorem get?_insertNew (t : Table α) (key key' : Text) (value : α) :
    (t.insertNew key value).get? key' =
      if key' = key then some ((t.get? key).getD value) else t.get? key' := by
  unfold insertNew
  by_cases h : key ∈ t.keys
  · obtain ⟨v, hv⟩ := mem_keys_iff.1 h
    by_cases hk : key' = key <;> simp [contains_iff.2 h, hk, hv]
  · have hc : t.contains key = false := by
      rw [← Bool.not_eq_true, contains_iff]; exact h
    simp [hc, get?_insert, get?_eq_none_iff.2 h]

theorem mem_entries_of_get? {t : Table α} {key : Text} {value : α}
    (h : t.get? key = some value) : (key, value) ∈ t.entries := by
  obtain ⟨before, after, hentries, -⟩ := List.lookup_eq_some_iff.1 h
  rw [hentries]
  exact List.mem_append_right before List.mem_cons_self

theorem ext {t u : Table α} (h : t.entries = u.entries) : t = u := by
  cases t; cases u; cases h; rfl

/-- Two tables with the same keys in one order and the same values under them are the same. -/
theorem ext_of_get? {t u : Table α} (hkeys : t.keys = u.keys)
    (hget : ∀ key, t.get? key = u.get? key) : t = u :=
  ext (eq_of_lookup t.nodup hkeys hget)

theorem insert_of_get? {t : Table α} {key : Text} {value : α}
    (h : t.get? key = some value) : t.insert key value = t :=
  ext (insertEntry_of_lookup h)

theorem mapEntries_mapEntries {γ : Type} (g : Text → β → γ) (f : Text → α → β) (t : Table α) :
    (t.mapEntries f).mapEntries g = t.mapEntries fun k v => g k (f k v) := by
  apply ext
  simp [mapEntries, Function.comp_def]

theorem mapEntries_eq_self {f : Text → α → α} {t : Table α}
    (h : ∀ e ∈ t.entries, f e.1 e.2 = e.2) : t.mapEntries f = t := by
  apply ext
  calc t.entries.map (fun e => (e.1, f e.1 e.2)) = t.entries.map id := by
        apply List.map_congr_left
        intro e he
        rw [h e he, id]
    _ = t.entries := List.map_id _

/-- A new value under a key that is present is a change of one entry. -/
theorem insert_eq_mapEntries {t : Table α} {key : Text} {value : α}
    (h : t.get? key = some value) (f : α → α) :
    t.insert key (f value) = t.mapEntries fun k v => if k = key then f v else v :=
  ext (insertEntry_eq_map t.nodup h f)

/-! ### Tables that are filled entry by entry -/

def insertAll (t : Table α) (entries : List (Text × α)) : Table α :=
  entries.foldl (fun t e => t.insert e.1 e.2) t

theorem insertAll_append (t : Table α) (entries more : List (Text × α)) :
    t.insertAll (entries ++ more) = (t.insertAll entries).insertAll more :=
  List.foldl_append

/-- Under each key stands what was put there last. -/
theorem get?_insertAll (t : Table α) (entries : List (Text × α)) (key : Text) :
    (t.insertAll entries).get? key = (entries.reverse.lookup key).or (t.get? key) := by
  induction entries generalizing t with
  | nil => rfl
  | cons e rest ih =>
    change ((t.insert e.1 e.2).insertAll rest).get? key = _
    rw [ih, get?_insert, List.reverse_cons, List.lookup_append, lookup_cons_entry]
    cases rest.reverse.lookup key with
    | some v => rfl
    | none => by_cases h : key = e.1 <;> simp [h]

theorem mem_keys_insertAll {t : Table α} {entries : List (Text × α)} {key : Text} :
    key ∈ (t.insertAll entries).keys ↔ key ∈ t.keys ∨ key ∈ entries.map Prod.fst := by
  induction entries generalizing t with
  | nil => simp [insertAll]
  | cons e rest ih =>
    have hkey : key ∈ (t.insert e.1 e.2).keys ↔ key ∈ t.keys ∨ key = e.1 := by
      rw [keys_insert]
      split
      · next h =>
        constructor
        · exact .inl
        · rintro (hold | rfl)
          · exact hold
          · exact h
      · simp
    change key ∈ ((t.insert e.1 e.2).insertAll rest).keys ↔ _
    rw [ih, hkey, List.map_cons, List.mem_cons, or_assoc]

theorem keys_insertAll_of_forall_mem {t : Table α} {entries : List (Text × α)}
    (h : ∀ e ∈ entries, e.1 ∈ t.keys) : (t.insertAll entries).keys = t.keys := by
  induction entries generalizing t with
  | nil => rfl
  | cons e rest ih =>
    rw [List.forall_mem_cons] at h
    have hkeys : (t.insert e.1 e.2).keys = t.keys := by rw [keys_insert, if_pos h.1]
    have hrest : ((t.insert e.1 e.2).insertAll rest).keys = (t.insert e.1 e.2).keys := by
      apply ih
      rw [hkeys]
      exact h.2
    exact hrest.trans hkeys

/-- Putting entries into a table again, all of those with some keys, changes nothing. -/
theorem insertAll_insertAll_filter (keep : Text → Bool) (t : Table α)
    (entries : List (Text × α)) :
    (t.insertAll entries).insertAll (entries.filter fun e => keep e.1) = t.insertAll entries := by
  apply ext_of_get?
  · apply keys_insertAll_of_forall_mem
    intro e he
    exact mem_keys_insertAll.2 (.inr (List.mem_map_of_mem (List.mem_filter.1 he).1))
  · intro key
    rw [get?_insertAll, ← List.filter_reverse, lookup_filter_entry]
    split
    · -- what was put there last is put there last again
      rw [get?_insertAll, ← Option.or_assoc, Option.or_self]
    · rfl

theorem mem_keys_ofList {entries : List (Text × α)} {key : Text} :
    key ∈ (ofList entries).keys ↔ key ∈ entries.map Prod.fst := by
  have h : key ∈ (ofList entries).keys ↔ key ∈ (empty : Table α).keys ∨
      key ∈ entries.map Prod.fst := mem_keys_insertAll
  rw [h, keys_empty]
  exact or_iff_right List.not_mem_nil

/-- Leaving out the entries with some keys beforehand leaves them out of the table. -/
theorem entries_insertAll_filter (keep : Text → Bool) (t : Table α)
    (entries : List (Text × α)) {u : Table α}
    (hu : u.entries = t.entries.filter fun e => keep e.1) :
    (u.insertAll (entries.filter fun e => keep e.1)).entries =
      (t.insertAll entries).entries.filter fun e => keep e.1 := by
  induction entries generalizing t u with
  | nil => exact hu
  | cons e rest ih =>
    have hstep := filter_insertEntry keep e.1 e.2 t.entries
    change _ = ((t.insert e.1 e.2).insertAll rest).entries.filter _
    cases hk : keep e.1 with
    | true =>
      rw [List.filter_cons_of_pos (by simp [hk])]
      apply ih (t.insert e.1 e.2)
      rw [if_pos hk, ← hu] at hstep
      exact hstep.symm
    | false =>
      rw [List.filter_cons_of_neg (by simp [hk])]
      apply ih (t.insert e.1 e.2)
      rw [hk, if_neg (by simp), ← hu] at hstep
      exact hstep.symm

/-! ### Tables that keep what came first -/

def insertNewAll (t : Table α) (entries : List (Text × α)) : Table α :=
  entries.foldl (fun t e => t.insertNew e.1 e.2) t

theorem insertNewAll_append (t : Table α) (entries more : List (Text × α)) :
    t.insertNewAll (entries ++ more) = (t.insertNewAll entries).insertNewAll more :=
  List.foldl_append

/-- Under each key stands what was put there first. -/
theorem get?_insertNewAll (t : Table α) (entries : List (Text × α)) (key : Text) :
    (t.insertNewAll entries).get? key = (t.get? key).or (entries.lookup key) := by
  induction entries generalizing t with
  | nil => exact (Option.or_none).symm
  | cons e rest ih =>
    change ((t.insertNew e.1 e.2).insertNewAll rest).get? key = _
    rw [ih, get?_insertNew, lookup_cons_entry]
    by_cases h : key = e.1
    · subst h
      cases t.get? e.1 <;> simp
    · rw [if_neg h, if_neg h]

theorem eraseDups_of_nodup {keys : List Text} (h : keys.Nodup) : keys.eraseDups = keys := by
  induction keys with
  | nil => rfl
  | cons key rest ih =>
    obtain ⟨hnew, hrest⟩ := List.nodup_cons.1 h
    have hfilter : rest.filter (fun k => !k == key) = rest := by
      apply List.filter_eq_self.2
      rintro k hk
      simpa using fun heq : k = key => hnew (heq ▸ hk)
    rw [List.eraseDups_cons, hfilter, ih hrest]

/-- The keys come in the order in which each of them was there first. -/
theorem keys_insertNewAll (t : Table α) (entries : List (Text × α)) :
    (t.insertNewAll entries).keys = (t.keys ++ entries.map Prod.fst).eraseDups := by
  induction entries generalizing t with
  | nil => rw [List.map_nil, List.append_nil, eraseDups_of_nodup t.keys_nodup]; rfl
  | cons e rest ih =>
    change ((t.insertNew e.1 e.2).insertNewAll rest).keys = _
    rw [ih, keys_insertNew, List.map_cons]
    split
    · next h =>
      rw [List.eraseDups_append, List.eraseDups_append, List.cons_removeAll, if_neg (by simpa)]
    · rw [List.append_assoc, List.singleton_append]

/-- The keys that were there keep their places. -/
theorem keys_prefix_insertNewAll (t : Table α) (entries : List (Text × α)) :
    t.keys <+: (t.insertNewAll entries).keys := by
  rw [keys_insertNewAll, List.eraseDups_append, eraseDups_of_nodup t.keys_nodup]
  exact List.prefix_append _ _

end Table

end Ambient
