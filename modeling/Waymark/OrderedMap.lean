/-! # Ordered maps

A finite map whose keys keep the place where they first appeared. Writing to a key that is
already present replaces its value in place; a new key goes to the end. Parameter lists,
keyword vocabularies, route families and the routes of one bucket are all such maps, because
their order is visible in every answer.

The entry list itself is the model of a map: `keys_insert` says what a write does to the order,
`get?_insert` what it does to the contents.
-/

namespace Waymark

universe u v w

/-- A finite map that remembers the order of first insertion. -/
structure OrderedMap (κ : Type u) (ν : Type v) where
  /-- The pairs in order. -/
  entries : List (κ × ν)
  /-- Every key occurs once. -/
  nodup_keys : (entries.map Prod.fst).Nodup
deriving DecidableEq

namespace OrderedMap

variable {κ : Type u} {ν : Type v}

/-- The map without entries. -/
def empty : OrderedMap κ ν := ⟨[], by simp⟩

instance : Inhabited (OrderedMap κ ν) := ⟨empty⟩

/-- The keys in order. -/
def keys (m : OrderedMap κ ν) : List κ := m.entries.map Prod.fst

/-- The values in the order of their keys. -/
def values (m : OrderedMap κ ν) : List ν := m.entries.map Prod.snd

/-- The number of entries. -/
def size (m : OrderedMap κ ν) : Nat := m.entries.length

/-- The entries that satisfy a test, in order. -/
def filter (m : OrderedMap κ ν) (keep : κ → ν → Bool) : OrderedMap κ ν :=
  ⟨m.entries.filter fun entry => keep entry.1 entry.2,
    m.nodup_keys.sublist (List.filter_sublist.map _)⟩

variable [DecidableEq κ]

/-- The value of the first pair with a key. -/
def find? (key : κ) : List (κ × ν) → Option ν
  | [] => none
  | entry :: rest => if entry.1 = key then some entry.2 else find? key rest

/-- The value under a key. -/
def get? (m : OrderedMap κ ν) (key : κ) : Option ν := find? key m.entries

/-- Whether a key is present. -/
def contains (m : OrderedMap κ ν) (key : κ) : Bool := (m.get? key).isSome

/-- Replaces the value of a key where it stands, or appends a new pair. -/
def put (key : κ) (value : ν) : List (κ × ν) → List (κ × ν)
  | [] => [(key, value)]
  | entry :: rest =>
      if entry.1 = key then (key, value) :: rest else entry :: put key value rest

theorem keys_put (key : κ) (value : ν) (entries : List (κ × ν)) :
    (put key value entries).map Prod.fst =
      if key ∈ entries.map Prod.fst then entries.map Prod.fst
      else entries.map Prod.fst ++ [key] := by
  induction entries with
  | nil => simp [put]
  | cons entry rest ih =>
      by_cases heq : entry.1 = key
      · simp [put, heq]
      · have hne : ¬ key = entry.1 := fun h => heq h.symm
        by_cases hmem : key ∈ rest.map Prod.fst
        · simp only [put, heq, if_false, List.map_cons, ih, hmem, if_true, List.mem_cons, hne,
            false_or]
        · simp only [put, heq, if_false, List.map_cons, ih, hmem, List.mem_cons, hne,
            false_or, List.cons_append]

theorem nodup_keys_put (key : κ) (value : ν) {entries : List (κ × ν)}
    (hnodup : (entries.map Prod.fst).Nodup) : ((put key value entries).map Prod.fst).Nodup := by
  rw [keys_put]
  split
  · exact hnodup
  next hmem =>
    rw [List.nodup_append]
    refine ⟨hnodup, by simp, ?_⟩
    intro a ha b hb hab
    rw [List.mem_singleton] at hb
    exact hmem (hb ▸ hab ▸ ha)

/-- Writes a value under a key: in place if the key is present, at the end otherwise. -/
def insert (m : OrderedMap κ ν) (key : κ) (value : ν) : OrderedMap κ ν :=
  ⟨put key value m.entries, nodup_keys_put key value m.nodup_keys⟩

/-- Writes pairs one after another. -/
def insertAll (m : OrderedMap κ ν) (pairs : List (κ × ν)) : OrderedMap κ ν :=
  pairs.foldl (fun acc pair => acc.insert pair.1 pair.2) m

/-- The map made by writing the given pairs in turn: of equal keys the first gives the place
and the last the value. -/
def ofList (pairs : List (κ × ν)) : OrderedMap κ ν := empty.insertAll pairs

/-- Removes a key; the others keep their order. -/
def erase (m : OrderedMap κ ν) (key : κ) : OrderedMap κ ν :=
  m.filter fun other _ => other ≠ key

@[simp]
theorem keys_insert (m : OrderedMap κ ν) (key : κ) (value : ν) :
    (m.insert key value).keys = if key ∈ m.keys then m.keys else m.keys ++ [key] :=
  keys_put key value m.entries

theorem find?_put (key other : κ) (value : ν) (entries : List (κ × ν)) :
    find? other (put key value entries) =
      if key = other then some value else find? other entries := by
  induction entries with
  | nil => simp [put, find?]
  | cons entry rest ih => grind [put, find?]

@[simp]
theorem get?_insert (m : OrderedMap κ ν) (key other : κ) (value : ν) :
    (m.insert key value).get? other = if key = other then some value else m.get? other :=
  find?_put key other value m.entries

theorem find?_isSome_iff {key : κ} {entries : List (κ × ν)} :
    (find? key entries).isSome ↔ key ∈ entries.map Prod.fst := by
  induction entries with
  | nil => simp [find?]
  | cons entry rest ih => grind [find?]

theorem contains_iff {m : OrderedMap κ ν} {key : κ} : m.contains key = true ↔ key ∈ m.keys :=
  find?_isSome_iff

@[simp]
theorem get?_empty (key : κ) : (empty : OrderedMap κ ν).get? key = none := rfl

end OrderedMap

end Waymark
