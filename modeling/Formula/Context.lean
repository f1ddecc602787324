import Formula.Value

/-!
# Contexts

The values of fields by their keys. Each key occurs once; a new key comes last and an old one keeps its place.

* `Context.get?_set_self`, `Context.get?_set_ne`, `Context.get?_erase_self`, `Context.get?_erase_ne` : what a change
  does to the values that are found.
* `Context.get?_foldl_set`, `Context.entries_ofList` : what many changes do, one after another.
-/

namespace Formula

/-- A finite map from keys to values, in the order in which the keys came. -/
structure Context where
  entries : List (String × Value)
  nodup_keys : (entries.map Prod.fst).Nodup

namespace Context

theorem eq_of_entries : ∀ {c c' : Context}, c.entries = c'.entries → c = c'
  | ⟨_, _⟩, ⟨_, _⟩, rfl => rfl

def empty : Context := ⟨[], .nil⟩

/-- The keys in their order. -/
def keys (c : Context) : List String := c.entries.map Prod.fst

def size (c : Context) : Nat := c.entries.length

/-- The value of a key. -/
def get? (c : Context) (key : String) : Option Value := c.entries.lookup key

/-- The entries with a value put under a key. -/
def put (key : String) (value : Value) : List (String × Value) → List (String × Value)
  | [] => [(key, value)]
  | entry :: rest => if entry.1 = key then (key, value) :: rest else entry :: put key value rest

theorem map_fst_put (key : String) (value : Value) (entries : List (String × Value)) :
    (put key value entries).map Prod.fst =
      if key ∈ entries.map Prod.fst then entries.map Prod.fst else entries.map Prod.fst ++ [key] := by
  induction entries with
  | nil => simp [put]
  | cons entry rest ih =>
    by_cases h : entry.1 = key
    · simp [put, h]
    · have h' : key ≠ entry.1 := fun e => h e.symm
      by_cases hm : key ∈ rest.map Prod.fst
      · simp only [put, h, if_false, List.map_cons, ih, hm, if_true, List.mem_cons, or_true]
      · simp only [put, h, if_false, List.map_cons, ih, hm, List.mem_cons, h', or_self, List.cons_append]

theorem nodup_put (key : String) (value : Value) {entries : List (String × Value)}
    (h : (entries.map Prod.fst).Nodup) : ((put key value entries).map Prod.fst).Nodup := by
  rw [map_fst_put]
  split
  · exact h
  · rename_i hm
    rw [List.nodup_append]
    refine ⟨h, List.nodup_cons.2 ⟨List.not_mem_nil, .nil⟩, ?_⟩
    intro a ha b hb hab
    rw [List.mem_singleton] at hb
    exact hm (hb ▸ hab ▸ ha)

/-- The context with a value put under a key, in place of the one that was there. -/
def set (c : Context) (key : String) (value : Value) : Context :=
  ⟨put key value c.entries, nodup_put key value c.nodup_keys⟩

/-- The context without a key. -/
def erase (c : Context) (key : String) : Context :=
  ⟨c.entries.filter (·.1 ≠ key), c.nodup_keys.sublist (List.filter_sublist.map _)⟩

/-- The context of a list of entries, of which the last one of a key counts. -/
def ofList (entries : List (String × Value)) : Context :=
  entries.foldl (fun c entry => c.set entry.1 entry.2) empty

/-! ## What is found -/

theorem lookup_put_self (key : String) (value : Value) (entries : List (String × Value)) :
    (put key value entries).lookup key = some value := by
  induction entries with
  | nil => simp [put]
  | cons entry rest ih =>
    obtain ⟨old, w⟩ := entry
    by_cases h : old = key
    · simp [put, h]
    · have hb : (key == old) = false := by simpa using fun e => h e.symm
      simp [put, h, List.lookup_cons, hb, ih]

theorem lookup_put_ne {key other : String} (value : Value) (entries : List (String × Value)) (h : other ≠ key) :
    (put key value entries).lookup other = entries.lookup other := by
  have hb : (other == key) = false := by simpa using h
  induction entries with
  | nil => simp [put, List.lookup_cons, hb]
  | cons entry rest ih =>
    obtain ⟨old, w⟩ := entry
    by_cases he : old = key
    · simp [put, he, List.lookup_cons, hb]
    · simp only [put, he, if_false, List.lookup_cons, ih]

theorem lookup_filter_self (key : String) (entries : List (String × Value)) :
    (entries.filter (·.1 ≠ key)).lookup key = none := by
  induction entries with
  | nil => rfl
  | cons entry rest ih =>
    obtain ⟨old, w⟩ := entry
    by_cases h : old = key
    · rw [List.filter_cons_of_neg (by simpa using h), ih]
    · have hb : (key == old) = false := by simpa using fun e => h e.symm
      rw [List.filter_cons_of_pos (by simpa using h), List.lookup_cons, hb, ih]

theorem lookup_filter_ne {key other : String} (entries : List (String × Value)) (h : other ≠ key) :
    (entries.filter (·.1 ≠ key)).lookup other = entries.lookup other := by
  induction entries with
  | nil => rfl
  | cons entry rest ih =>
    obtain ⟨old, w⟩ := entry
    by_cases he : old = key
    · have hb : (other == old) = false := by simpa [he] using h
      rw [List.filter_cons_of_neg (by simpa using he), List.lookup_cons, hb, ih]
    · rw [List.filter_cons_of_pos (by simpa using he), List.lookup_cons, List.lookup_cons, ih]

theorem isSome_lookup_iff {key : String} {entries : List (String × Value)} :
    (entries.lookup key).isSome = true ↔ key ∈ entries.map Prod.fst := by
  rw [List.lookup_isSome_iff, List.mem_map]
  refine exists_congr fun entry => and_congr_right fun _ => ?_
  rw [beq_iff_eq, eq_comm]

/-- A key has a value when it is one of the keys. -/
theorem isSome_get?_iff {c : Context} {key : String} : (c.get? key).isSome = true ↔ key ∈ c.keys :=
  isSome_lookup_iff

theorem get?_set_self (c : Context) (key : String) (value : Value) : (c.set key value).get? key = some value :=
  lookup_put_self key value c.entries

theorem get?_set_ne (c : Context) {key other : String} (value : Value) (h : other ≠ key) :
    (c.set key value).get? other = c.get? other :=
  lookup_put_ne value c.entries h

theorem get?_erase_self (c : Context) (key : String) : (c.erase key).get? key = none :=
  lookup_filter_self key c.entries

theorem get?_erase_ne (c : Context) {key other : String} (h : other ≠ key) :
    (c.erase key).get? other = c.get? other :=
  lookup_filter_ne c.entries h

/-! ## Many changes -/

theorem get?_set (c : Context) (key other : String) (value : Value) :
    (c.set key value).get? other = (List.lookup other [(key, value)]).or (c.get? other) := by
  by_cases h : other = key
  · rw [h, get?_set_self, List.lookup_cons_self, Option.some_or]
  · simp only [get?_set_ne c value h, List.lookup_cons, beq_eq_false_iff_ne.2 h, List.lookup_nil, Option.none_or]

/-- **The last change of a key counts**, and a key that is not changed keeps its value. -/
theorem get?_foldl_set : ∀ (entries : List (String × Value)) (c : Context) (key : String),
    (entries.foldl (fun c entry => c.set entry.1 entry.2) c).get? key = (entries.reverse.lookup key).or (c.get? key)
  | [], c, key => by rw [List.foldl_nil, List.reverse_nil, List.lookup_nil, Option.none_or]
  | entry :: rest, c, key => by
    rw [List.foldl_cons, get?_foldl_set rest, get?_set, List.reverse_cons, List.lookup_append, Option.or_assoc]

theorem get?_ofList (entries : List (String × Value)) (key : String) :
    (ofList entries).get? key = entries.reverse.lookup key := by
  rw [ofList, get?_foldl_set]
  exact Option.or_none

theorem put_of_not_mem {key : String} (value : Value) : ∀ {entries : List (String × Value)},
    key ∉ entries.map Prod.fst → put key value entries = entries ++ [(key, value)]
  | [], _ => rfl
  | entry :: rest, h => by
    obtain ⟨hkey, hrest⟩ := List.ne_and_not_mem_of_not_mem_cons h
    rw [put, if_neg (Ne.symm hkey), put_of_not_mem value hrest, List.cons_append]

theorem entries_foldl_set : ∀ {entries : List (String × Value)} {c : Context},
    ((c.entries ++ entries).map Prod.fst).Nodup →
      (entries.foldl (fun c entry => c.set entry.1 entry.2) c).entries = c.entries ++ entries
  | [], c, _ => (List.append_nil c.entries).symm
  | entry :: rest, c, h => by
    rw [List.append_cons] at h ⊢
    have hnot : entry.1 ∉ c.entries.map Prod.fst := by
      rw [List.map_append, List.map_append] at h
      have hdisjoint := (List.nodup_append.1 (List.nodup_append.1 h).1).2.2
      exact fun hmem => hdisjoint _ hmem entry.1 List.mem_cons_self rfl
    have hput : (c.set entry.1 entry.2).entries = c.entries ++ [entry] := put_of_not_mem entry.2 hnot
    rw [← hput] at h ⊢
    exact entries_foldl_set h

/-- Entries of different keys stay as they are. -/
theorem entries_ofList {entries : List (String × Value)} (h : (entries.map Prod.fst).Nodup) :
    (ofList entries).entries = entries :=
  @entries_foldl_set entries empty h

end Context
end Formula
