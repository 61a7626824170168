import Mathlib.Data.List.Induction
import Waymark.OrderedMap

/-! # What an ordered map holds

How the keys and the contents of a map come out of a list of writes: a key stands where it was
first written and has the value that was written last.
-/

namespace Waymark.OrderedMap

universe u v w

variable {κ : Type u} {ν : Type v} {μ : Type w}

/-- Replaces every value; the keys stay where they are. -/
def mapValues (f : ν → μ) (m : OrderedMap κ ν) : OrderedMap κ μ :=
  ⟨m.entries.map fun entry => (entry.1, f entry.2), by
    rw [List.map_map]
    exact m.nodup_keys⟩

@[ext]
theorem ext {m n : OrderedMap κ ν} (h : m.entries = n.entries) : m = n := by
  cases m
  cases n
  cases h
  rfl

@[simp]
theorem keys_mapValues (f : ν → μ) (m : OrderedMap κ ν) : (m.mapValues f).keys = m.keys := by
  simp [keys, mapValues]

theorem length_keys (m : OrderedMap κ ν) : m.keys.length = m.size := List.length_map _

@[simp]
theorem mapValues_empty (f : ν → μ) : (empty : OrderedMap κ ν).mapValues f = empty := rfl

variable [DecidableEq κ]

theorem mem_of_find? {key : κ} {value : ν} {entries : List (κ × ν)}
    (h : find? key entries = some value) : (key, value) ∈ entries := by
  induction entries with
  | nil => cases h
  | cons entry rest ih =>
      unfold find? at h
      split at h
      next heq =>
        cases h
        rw [← heq]
        exact List.mem_cons_self
      next => exact List.mem_cons_of_mem _ (ih h)

theorem mem_of_get? {m : OrderedMap κ ν} {key : κ} {value : ν} (h : m.get? key = some value) :
    (key, value) ∈ m.entries :=
  mem_of_find? h

theorem mem_of_mem_put {key : κ} {value : ν} {entry : κ × ν} {entries : List (κ × ν)}
    (h : entry ∈ put key value entries) : entry = (key, value) ∨ entry ∈ entries := by
  induction entries with
  | nil => exact .inl (List.mem_singleton.mp h)
  | cons first rest ih =>
      unfold put at h
      split at h
      · rcases List.mem_cons.mp h with rfl | h
        · exact .inl rfl
        · exact .inr (List.mem_cons_of_mem _ h)
      · rcases List.mem_cons.mp h with rfl | h
        · exact .inr List.mem_cons_self
        · rcases ih h with rfl | h
          · exact .inl rfl
          · exact .inr (List.mem_cons_of_mem _ h)

/-- A write adds no entry but the one that is written. -/
theorem mem_of_mem_insert {m : OrderedMap κ ν} {key : κ} {value : ν} {entry : κ × ν}
    (h : entry ∈ (m.insert key value).entries) : entry = (key, value) ∨ entry ∈ m.entries :=
  mem_of_mem_put h

/-- What is in a map behind writes was there before or was written. -/
theorem mem_of_mem_insertAll {m : OrderedMap κ ν} {pairs : List (κ × ν)} {entry : κ × ν}
    (h : entry ∈ (m.insertAll pairs).entries) : entry ∈ m.entries ∨ entry ∈ pairs := by
  induction pairs generalizing m with
  | nil => exact .inl h
  | cons pair pairs ih =>
      rcases ih h with hinsert | hpairs
      · rcases mem_of_mem_insert hinsert with rfl | hm
        · exact .inr List.mem_cons_self
        · exact .inl hm
      · exact .inr (List.mem_cons_of_mem pair hpairs)

theorem get?_of_mem {m : OrderedMap κ ν} {key : κ} {value : ν} (h : (key, value) ∈ m.entries) :
    m.get? key = some value := by
  obtain ⟨entries, hnodup⟩ := m
  unfold get?
  dsimp only at h ⊢
  induction entries with
  | nil => cases h
  | cons entry rest ih =>
      obtain ⟨hfirst, hrest⟩ := List.nodup_cons.mp hnodup
      rcases List.mem_cons.mp h with rfl | h
      · exact if_pos rfl
      · -- the key of a later entry is not that of the first one
        have hne : entry.1 ≠ key := by
          rintro rfl
          exact hfirst (List.mem_map.mpr ⟨_, h, rfl⟩)
        exact (if_neg hne).trans (ih hrest h)

theorem get?_eq_some_iff {m : OrderedMap κ ν} {key : κ} {value : ν} :
    m.get? key = some value ↔ (key, value) ∈ m.entries :=
  ⟨mem_of_get?, get?_of_mem⟩

theorem mem_keys_iff {m : OrderedMap κ ν} {key : κ} :
    key ∈ m.keys ↔ ∃ value, m.get? key = some value := by
  rw [← contains_iff, contains, Option.isSome_iff_exists]

theorem get?_eq_none_iff {m : OrderedMap κ ν} {key : κ} : m.get? key = none ↔ key ∉ m.keys := by
  rw [← contains_iff, contains, Option.not_isSome_iff_eq_none]

theorem mem_values_iff {m : OrderedMap κ ν} {value : ν} :
    value ∈ m.values ↔ ∃ key, m.get? key = some value := by
  simp only [values, List.mem_map, Prod.exists, exists_eq_right, get?_eq_some_iff]

/-- The order of the entries has no part in what is found under a key. -/
theorem get?_of_perm {m n : OrderedMap κ ν} (h : m.entries.Perm n.entries) (key : κ) :
    m.get? key = n.get? key := by
  ext value
  rw [get?_eq_some_iff, get?_eq_some_iff, h.mem_iff]

/-- A key stands in at most one entry. -/
theorem filter_key (m : OrderedMap κ ν) (key : κ) :
    m.entries.filter (·.1 = key) = ((m.get? key).map fun value => (key, value)).toList := by
  obtain ⟨entries, hnodup⟩ := m
  unfold get?
  dsimp only
  induction entries with
  | nil => rfl
  | cons entry rest ih =>
      obtain ⟨hfirst, hrest⟩ := List.nodup_cons.mp hnodup
      by_cases heq : entry.1 = key
      · subst heq
        have hnone : rest.filter (·.1 = entry.1) = [] := by
          rw [List.filter_eq_nil_iff]
          intro other hother hkey
          exact hfirst (List.mem_map.mpr ⟨other, hother, of_decide_eq_true hkey⟩)
        simp [find?, hnone]
      · simp only [find?, heq, decide_false, Bool.false_eq_true, not_false_eq_true,
          List.filter_cons_of_neg, if_false]
        exact ih hrest

/-! ### Writing to a key -/

theorem mem_keys_insert {m : OrderedMap κ ν} {key other : κ} {value : ν} :
    other ∈ (m.insert key value).keys ↔ other = key ∨ other ∈ m.keys := by
  rw [keys_insert]
  split
  next hmem =>
    refine ⟨.inr, ?_⟩
    rintro (rfl | hother)
    · exact hmem
    · exact hother
  next => rw [List.mem_append, List.mem_singleton, or_comm]

theorem size_insert (m : OrderedMap κ ν) (key : κ) (value : ν) :
    (m.insert key value).size = if key ∈ m.keys then m.size else m.size + 1 := by
  rw [← length_keys, keys_insert, apply_ite List.length, List.length_append, length_keys]
  rfl

theorem filter_put {keep : κ → Bool} {key : κ} (value : ν) (h : keep key = false)
    (entries : List (κ × ν)) :
    (put key value entries).filter (fun entry => keep entry.1) =
      entries.filter fun entry => keep entry.1 := by
  induction entries with
  | nil => simp [put, h]
  | cons entry rest ih =>
      unfold put
      split
      next heq => simp [h, heq]
      next => rw [List.filter_cons, List.filter_cons, ih]

/-- Entries of other keys do not see what is written to a key. -/
theorem filter_insert (m : OrderedMap κ ν) (keep : κ → Bool) {key : κ} (value : ν)
    (h : keep key = false) :
    (m.insert key value).entries.filter (fun entry => keep entry.1) =
      m.entries.filter fun entry => keep entry.1 :=
  filter_put value h m.entries

/-! ### Replacing the values -/

@[simp]
theorem get?_mapValues (f : ν → μ) (m : OrderedMap κ ν) (key : κ) :
    (m.mapValues f).get? key = (m.get? key).map f := by
  unfold get? mapValues
  dsimp only
  induction m.entries with
  | nil => rfl
  | cons entry rest ih => grind [find?]

theorem mapValues_insert (f : ν → μ) (m : OrderedMap κ ν) (key : κ) (value : ν) :
    (m.insert key value).mapValues f = (m.mapValues f).insert key (f value) := by
  apply ext
  dsimp only [mapValues, insert]
  induction m.entries with
  | nil => rfl
  | cons entry rest ih => grind [put]

theorem mapValues_erase (f : ν → μ) (m : OrderedMap κ ν) (key : κ) :
    (m.erase key).mapValues f = (m.mapValues f).erase key := by
  apply ext
  simp only [mapValues, erase, filter, List.filter_map]
  rfl

/-! ### Erasing a key -/

theorem keys_erase (m : OrderedMap κ ν) (key : κ) :
    (m.erase key).keys = m.keys.filter (· ≠ key) := by
  simp only [keys, erase, filter, List.filter_map]
  rfl

theorem mem_keys_erase {m : OrderedMap κ ν} {key other : κ} :
    other ∈ (m.erase key).keys ↔ other ∈ m.keys ∧ other ≠ key := by
  rw [keys_erase, List.mem_filter, decide_eq_true_iff]

theorem get?_erase_ne {m : OrderedMap κ ν} {key other : κ} (hne : key ≠ other) :
    (m.erase key).get? other = m.get? other := by
  unfold get? erase filter
  dsimp only
  induction m.entries with
  | nil => rfl
  | cons entry rest ih => grind [find?]

theorem get?_erase_self (m : OrderedMap κ ν) (key : κ) : (m.erase key).get? key = none := by
  rw [get?_eq_none_iff, keys_erase]
  simp

/-- Entries of other keys do not see that a key is removed. -/
theorem filter_erase (m : OrderedMap κ ν) (keep : κ → Bool) {key : κ} (h : keep key = false) :
    (m.erase key).entries.filter (fun entry => keep entry.1) =
      m.entries.filter fun entry => keep entry.1 := by
  unfold erase filter
  dsimp only
  rw [List.filter_filter]
  apply List.filter_congr
  intro entry _
  by_cases heq : entry.1 = key
  · simp [heq, h]
  · simp [heq]

/-! ### Many writes -/

theorem eraseDups_of_nodup {keys : List κ} (h : keys.Nodup) : keys.eraseDups = keys := by
  induction keys with
  | nil => rfl
  | cons key keys ih =>
      obtain ⟨hfirst, hrest⟩ := List.nodup_cons.mp h
      have hothers : keys.filter (fun other => !other == key) = keys := by
        rw [List.filter_eq_self]
        intro other hother
        simpa using fun heq : other = key => hfirst (heq ▸ hother)
      rw [List.eraseDups_cons, hothers, ih hrest]

theorem insertAll_append (m : OrderedMap κ ν) (first second : List (κ × ν)) :
    m.insertAll (first ++ second) = (m.insertAll first).insertAll second :=
  List.foldl_append

/-- New keys come behind the ones that are there, in the order of their first occurrence. -/
theorem keys_insertAll (m : OrderedMap κ ν) (pairs : List (κ × ν)) :
    (m.insertAll pairs).keys =
      m.keys ++ ((pairs.map Prod.fst).filter (· ∉ m.keys)).eraseDups := by
  induction pairs generalizing m with
  | nil => simp [insertAll]
  | cons pair pairs ih =>
      have hrun : m.insertAll (pair :: pairs) = (m.insert pair.1 pair.2).insertAll pairs := rfl
      rw [hrun, ih, keys_insert]
      by_cases hmem : pair.1 ∈ m.keys
      · simp [hmem]
      · simp [hmem, List.eraseDups_cons, Bool.and_comm]
        rfl

/-- A key has the last of the values that are written to it. -/
theorem get?_insertAll (m : OrderedMap κ ν) (pairs : List (κ × ν)) (key : κ) :
    (m.insertAll pairs).get? key =
      ((pairs.filter (·.1 = key)).getLast?.map Prod.snd).or (m.get? key) := by
  -- the induction takes the last write off, since it is the one that counts
  induction pairs using List.reverseRecOn with
  | nil => rfl
  | append_singleton pairs pair ih =>
      rw [insertAll_append]
      change (((m.insertAll pairs).insert pair.1 pair.2).get? key) = _
      rw [get?_insert, ih]
      by_cases heq : pair.1 = key
      · simp [heq]
      · simp [heq]

/-- Writes to other keys leave a key as it is. -/
theorem get?_insertAll_of_ne {m : OrderedMap κ ν} {pairs : List (κ × ν)} {key : κ}
    (h : ∀ pair ∈ pairs, pair.1 ≠ key) : (m.insertAll pairs).get? key = m.get? key := by
  have hnone : pairs.filter (·.1 = key) = [] := by
    rw [List.filter_eq_nil_iff]
    intro pair hpair
    simpa using h pair hpair
  rw [get?_insertAll, hnone]
  rfl

/-- What a map has goes before what it is written over. -/
theorem get?_insertAll_entries (m n : OrderedMap κ ν) (key : κ) :
    (m.insertAll n.entries).get? key = (n.get? key).or (m.get? key) := by
  rw [get?_insertAll, filter_key]
  cases n.get? key <;> rfl

/-! ### A map and its entries -/

theorem put_of_not_mem {key : κ} {value : ν} {entries : List (κ × ν)}
    (h : key ∉ entries.map Prod.fst) : put key value entries = entries ++ [(key, value)] := by
  induction entries with
  | nil => rfl
  | cons entry rest ih =>
      obtain ⟨hfirst, hrest⟩ := not_or.mp (List.mem_cons.not.mp h)
      rw [put, if_neg (Ne.symm hfirst), ih hrest]
      rfl

/-- New keys that differ from each other are appended as they come. -/
theorem entries_insertAll_of_new {m : OrderedMap κ ν} {pairs : List (κ × ν)}
    (hnodup : (pairs.map Prod.fst).Nodup) (hnew : ∀ pair ∈ pairs, pair.1 ∉ m.keys) :
    (m.insertAll pairs).entries = m.entries ++ pairs := by
  induction pairs generalizing m with
  | nil => exact (List.append_nil _).symm
  | cons pair pairs ih =>
      obtain ⟨hfirst, hrest⟩ := List.nodup_cons.mp hnodup
      obtain ⟨hpair, hpairs⟩ := List.forall_mem_cons.mp hnew
      have hinsert : (m.insert pair.1 pair.2).entries = m.entries ++ [pair] :=
        put_of_not_mem hpair
      have hstill : ∀ other ∈ pairs, other.1 ∉ (m.insert pair.1 pair.2).keys := by
        intro other hother hmem
        rw [keys_insert, if_neg hpair] at hmem
        rcases List.mem_append.mp hmem with hmem | hmem
        · exact hpairs other hother hmem
        · rw [List.mem_singleton] at hmem
          exact hfirst (hmem ▸ List.mem_map_of_mem hother)
      change ((m.insert pair.1 pair.2).insertAll pairs).entries = _
      rw [ih hrest hstill, hinsert, List.append_assoc]
      rfl

/-- A map is what its own entries make. -/
theorem ofList_entries (m : OrderedMap κ ν) : ofList m.entries = m :=
  ext (entries_insertAll_of_new m.nodup_keys nofun)

theorem ofList_append (first second : List (κ × ν)) :
    ofList (first ++ second) = (ofList first).insertAll second :=
  insertAll_append empty first second

/-- Pairs with different keys are the entries of the map that they make. -/
theorem entries_ofList {pairs : List (κ × ν)} (h : (pairs.map Prod.fst).Nodup) :
    (ofList pairs).entries = pairs :=
  entries_insertAll_of_new h fun _ _ => List.not_mem_nil

/-! ### Pairs that are written over others -/

/-- Pairs with others written over them. A key that is there keeps its place and takes the new
value, and new keys follow in their order. -/
def writeOver (below above : List (κ × ν)) : List (κ × ν) :=
  (below.map fun pair => (pair.1, (find? pair.1 above).getD pair.2)) ++
    above.filter fun pair => pair.1 ∉ below.map Prod.fst

@[simp]
theorem writeOver_nil (below : List (κ × ν)) : writeOver below [] = below := by
  simp [writeOver, find?]

theorem put_of_mem {key : κ} {value : ν} {entries : List (κ × ν)}
    (hnodup : (entries.map Prod.fst).Nodup) (h : key ∈ entries.map Prod.fst) :
    put key value entries =
      entries.map fun entry => (entry.1, if key = entry.1 then value else entry.2) := by
  induction entries with
  | nil => cases h
  | cons entry rest ih =>
      obtain ⟨hfirst, hrest⟩ := List.nodup_cons.mp hnodup
      by_cases heq : entry.1 = key
      · subst heq
        have hothers : ∀ other ∈ rest, (other.1, if entry.1 = other.1 then value else other.2) =
            other := by
          intro other hother
          have hne : entry.1 ≠ other.1 := fun heq => hfirst (heq ▸ List.mem_map_of_mem hother)
          rw [if_neg hne]
        rw [put, if_pos rfl, List.map_cons, if_pos rfl, List.map_congr_left hothers, List.map_id']
      · have hmem : key ∈ rest.map Prod.fst :=
          (List.mem_cons.mp h).resolve_left (Ne.symm heq)
        rw [put, if_neg heq, ih hrest hmem, List.map_cons, if_neg (Ne.symm heq)]

/-- One write and the pairs that are written over it afterwards. -/
theorem writeOver_put {key : κ} {value : ν} {entries pairs : List (κ × ν)}
    (hnodup : (entries.map Prod.fst).Nodup) (hkey : key ∉ pairs.map Prod.fst) :
    writeOver (put key value entries) pairs = writeOver entries ((key, value) :: pairs) := by
  have hnone : find? key pairs = none := by
    rw [← Option.not_isSome_iff_eq_none, find?_isSome_iff]
    exact hkey
  unfold writeOver
  by_cases hmem : key ∈ entries.map Prod.fst
  · -- the key keeps its place, and only its value is another one
    rw [keys_put, if_pos hmem, put_of_mem hnodup hmem, List.map_map,
      List.filter_cons_of_neg (by simpa using hmem)]
    congr 1
    refine List.map_congr_left fun entry _ => ?_
    dsimp only [Function.comp_apply, find?]
    by_cases heq : key = entry.1
    · subst heq
      simp [hnone]
    · simp [heq]
  · -- the key goes to the end, and the pairs that follow are not of that key
    have hothers : ∀ entry ∈ entries, (entry.1, (find? entry.1 ((key, value) :: pairs)).getD
        entry.2) = (entry.1, (find? entry.1 pairs).getD entry.2) := by
      intro entry hentry
      have hne : key ≠ entry.1 := fun heq => hmem (heq ▸ List.mem_map_of_mem hentry)
      rw [find?, if_neg hne]
    have hnew : ∀ pair ∈ pairs, decide (pair.1 ∉ entries.map Prod.fst ++ [key]) =
        decide (pair.1 ∉ entries.map Prod.fst) := by
      intro pair hpair
      have hne : pair.1 ≠ key := fun heq => hkey (heq ▸ List.mem_map_of_mem hpair)
      simp [hne]
    rw [keys_put, if_neg hmem, put_of_not_mem hmem, List.map_append, List.append_assoc,
      List.filter_cons_of_pos (by simpa using hmem), List.map_congr_left hothers,
      List.filter_congr hnew]
    simp [hnone]

/-- Writes to different keys put their pairs over the entries. -/
theorem entries_insertAll {m : OrderedMap κ ν} {pairs : List (κ × ν)}
    (hnodup : (pairs.map Prod.fst).Nodup) :
    (m.insertAll pairs).entries = writeOver m.entries pairs := by
  induction pairs generalizing m with
  | nil => exact (writeOver_nil m.entries).symm
  | cons pair pairs ih =>
      obtain ⟨hfirst, hrest⟩ := List.nodup_cons.mp hnodup
      exact (ih hrest).trans (writeOver_put m.nodup_keys hfirst)

end Waymark.OrderedMap
