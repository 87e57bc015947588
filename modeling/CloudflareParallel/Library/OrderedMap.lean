import CloudflareParallel.Library.KeyedTable
import Mathlib.Data.List.Perm.Subperm

namespace KeyedTables

/-!
# Maps in insertion order

A map is a table of entries keyed by their first component.  Setting a key that
is there replaces its value in place; setting another one appends an entry.
-/

/-- A map whose entries stand in the order in which their keys were added. -/
abbrev OrderedMap (Key Value : Type) :=
  @KeyedTable (Key × Value) Key Prod.fst

namespace OrderedMap

variable {Key Value : Type}

/-- The keys, oldest first. -/
def keys (map : OrderedMap Key Value) : List Key :=
  map.rows.map Prod.fst

/-- The values, in the order of their keys. -/
def values (map : OrderedMap Key Value) : List Value :=
  map.rows.map Prod.snd

/-- The number of entries. -/
def size (map : OrderedMap Key Value) : Nat :=
  map.rows.length

variable [DecidableEq Key]

/-- The value under a key. -/
def lookup
    (map : OrderedMap Key Value)
    (key : Key) : Option Value :=
  (map.get? key).map Prod.snd

/-- Setting the value under a key. -/
def set
    (map : OrderedMap Key Value)
    (key : Key)
    (value : Value) : OrderedMap Key Value :=
  if present : key ∈ map.rows.map Prod.fst then
    map.updateWhere (fun entry => entry.1 = key)
      (fun entry => (entry.1, value)) fun _ => rfl
  else
    map.insert (key, value) present

/-- Removing a key. -/
def delete
    (map : OrderedMap Key Value)
    (key : Key) : OrderedMap Key Value :=
  map.deleteWhere fun entry => entry.1 = key

theorem lookup_set
    (map : OrderedMap Key Value)
    (key : Key)
    (value : Value)
    (other : Key) :
    lookup (set map key value) other =
      if key = other then some value else lookup map other := by
  unfold set lookup
  split
  next present =>
    rw [KeyedTable.get?_updateWhere, Option.map_map]
    cases found : map.get? other with
    | none =>
        have absent := map.get?_eq_none_iff.mp found
        have different : key ≠ other := by
          rintro rfl
          exact absent present
        simp [different]
    | some entry =>
        have sameKey : entry.1 = other := KeyedTable.key_of_get? found
        by_cases same : key = other
        · simp [sameKey, same]
        · simp [sameKey, same, Ne.symm same]
  next absent =>
    rw [KeyedTable.get?_insert]
    split <;> rfl

@[simp]
theorem lookup_set_self
    (map : OrderedMap Key Value)
    (key : Key)
    (value : Value) :
    lookup (set map key value) key = some value := by
  simp [lookup_set]

theorem lookup_delete
    (map : OrderedMap Key Value)
    (key other : Key) :
    lookup (delete map key) other =
      if key = other then none else lookup map other := by
  unfold delete lookup
  rw [KeyedTable.get?_deleteWhere]
  cases found : map.get? other with
  | none =>
      simp
  | some entry =>
      have sameKey : entry.1 = other := KeyedTable.key_of_get? found
      by_cases same : key = other
      · simp [Option.filter, sameKey, same]
      · simp [Option.filter, sameKey, same, Ne.symm same]

/-- A key is there exactly when it has a value. -/
theorem mem_keys_iff
    (map : OrderedMap Key Value)
    (key : Key) :
    key ∈ keys map ↔ (lookup map key).isSome := by
  rw [lookup, Option.isSome_map, ← Option.ne_none_iff_isSome, Ne,
    KeyedTable.get?_eq_none_iff, not_not]
  rfl

/-- An entry is found under its key. -/
theorem lookup_of_mem
    {map : OrderedMap Key Value}
    {key : Key}
    {value : Value}
    (member : (key, value) ∈ map.rows) :
    lookup map key = some value := by
  rw [lookup, map.get?_of_mem member]
  rfl

/-- What is found under a key is an entry. -/
theorem mem_of_lookup
    {map : OrderedMap Key Value}
    {key : Key}
    {value : Value}
    (found : lookup map key = some value) :
    (key, value) ∈ map.rows := by
  obtain ⟨entry, isEntry, rfl⟩ := Option.map_eq_some_iff.mp found
  obtain ⟨member, rfl⟩ := map.get?_eq_some_iff.mp isEntry
  exact member

theorem mem_keys_set
    (map : OrderedMap Key Value)
    (key : Key)
    (value : Value)
    (other : Key) :
    other ∈ keys (set map key value) ↔ other = key ∨ other ∈ keys map := by
  rw [mem_keys_iff, mem_keys_iff, lookup_set]
  by_cases same : key = other
  · simp [same]
  · simp [same, Ne.symm same]

theorem mem_keys_delete
    (map : OrderedMap Key Value)
    (key other : Key) :
    other ∈ keys (delete map key) ↔ other ≠ key ∧ other ∈ keys map := by
  rw [mem_keys_iff, mem_keys_iff, lookup_delete]
  by_cases same : key = other
  · simp [same]
  · simp [same, Ne.symm same]

/-- The map to which entries are set one after the other. -/
def ofList (entries : List (Key × Value)) : OrderedMap Key Value :=
  entries.foldl (fun map entry => set map entry.1 entry.2) .empty

/-! ## Counting entries -/

/-- A key that is not there adds one entry. -/
theorem rows_set_of_absent
    {map : OrderedMap Key Value}
    {key : Key}
    (absent : key ∉ keys map)
    (value : Value) :
    (set map key value).rows = map.rows ++ [(key, value)] := by
  unfold set
  rw [dif_neg (by exact absent)]
  rfl

/-- Setting entries under new keys appends them. -/
theorem rows_foldl_set
    {map : OrderedMap Key Value}
    {entries : List (Key × Value)}
    (distinct : (keys map ++ entries.map Prod.fst).Nodup) :
    (entries.foldl (fun map entry => set map entry.1 entry.2) map).rows =
      map.rows ++ entries := by
  induction entries generalizing map with
  | nil =>
      simp
  | cons entry rest inductionHypothesis =>
      rw [List.map_cons, List.append_cons] at distinct
      have absent : entry.1 ∉ keys map := by
        have parts := (List.nodup_append.mp distinct).1
        exact fun present =>
          (List.nodup_append.mp parts).2.2 _ present _
            (List.mem_singleton_self _) rfl
      have appended := rows_set_of_absent absent entry.2
      have nextDistinct :
          (keys (set map entry.1 entry.2) ++ rest.map Prod.fst).Nodup := by
        rw [keys, appended, List.map_append]
        exact distinct
      rw [List.foldl_cons, inductionHypothesis nextDistinct, appended,
        List.append_assoc]
      rfl

/-- A map of entries with distinct keys has these entries. -/
theorem rows_ofList
    {entries : List (Key × Value)}
    (distinct : (entries.map Prod.fst).Nodup) :
    (ofList entries).rows = entries :=
  @rows_foldl_set _ _ _ .empty entries distinct

/-- A map is made of its entries. -/
@[simp]
theorem ofList_rows (map : OrderedMap Key Value) : ofList map.rows = map :=
  KeyedTable.ext (rows_ofList map.unique)

theorem size_set_of_absent
    {map : OrderedMap Key Value}
    {key : Key}
    (absent : key ∉ keys map)
    (value : Value) :
    size (set map key value) = size map + 1 := by
  rw [size, rows_set_of_absent absent, List.length_append]
  rfl

theorem countP_values_set_of_absent
    {map : OrderedMap Key Value}
    {key : Key}
    (absent : key ∉ keys map)
    (value : Value)
    (counts : Value → Bool) :
    (values (set map key value)).countP counts =
      (values map).countP counts + (counts value).toNat := by
  rw [values, rows_set_of_absent absent, List.map_append,
    List.countP_append]
  cases counted : counts value <;> simp [values, counted]

/-- An entry and the entries under other keys. -/
theorem values_perm_of_lookup
    {map : OrderedMap Key Value}
    {key : Key}
    {value : Value}
    (found : lookup map key = some value) :
    (values map).Perm (value :: values (delete map key)) := by
  have only :
      map.rows.filter (fun entry => entry.1 = key) = [(key, value)] := by
    have nodup := (List.Nodup.of_map _ map.unique).filter fun entry =>
      decide (entry.1 = key)
    refine List.perm_singleton.mp ((List.perm_ext_iff_of_nodup nodup
      (List.nodup_singleton _)).mpr fun entry => ?_)
    rw [List.mem_filter, List.mem_singleton]
    constructor
    · rintro ⟨member, sameKey⟩
      exact map.eq_of_sameKey member (mem_of_lookup found)
        (by simpa using sameKey)
    · rintro rfl
      exact ⟨mem_of_lookup found, by simp⟩
  have split :=
    List.filter_append_perm (fun entry => decide (entry.1 = key)) map.rows
  rw [only] at split
  exact (split.map Prod.snd).symm

/-- A map without a key is not changed by deleting it. -/
theorem delete_of_absent
    {map : OrderedMap Key Value}
    {key : Key}
    (absent : lookup map key = none) :
    delete map key = map := by
  have unmet : key ∉ map.rows.map Prod.fst :=
    map.get?_eq_none_iff.mp (Option.map_eq_none_iff.mp absent)
  refine KeyedTable.ext (List.filter_eq_self.mpr fun entry member => ?_)
  have different : entry.1 ≠ key := by
    rintro rfl
    exact unmet (List.mem_map_of_mem member)
  simpa using different

/-- Deleting a key undoes what was set under it. -/
theorem delete_set
    (map : OrderedMap Key Value)
    (key : Key)
    (value : Value) :
    delete (set map key value) key = delete map key := by
  refine KeyedTable.ext ?_
  unfold set
  split
  next present =>
    change
      (map.rows.map fun entry =>
          if (fun entry : Key × Value => decide (entry.1 = key)) entry then
            (entry.1, value)
          else
            entry).filter (fun entry => !decide (entry.1 = key)) =
        map.rows.filter fun entry => !decide (entry.1 = key)
    induction map.rows with
    | nil =>
        rfl
    | cons entry rest inductionHypothesis =>
        by_cases same : entry.1 = key
        · simpa [same] using inductionHypothesis
        · simpa [same] using inductionHypothesis
  next absent =>
    change (map.rows ++ [(key, value)]).filter _ = map.rows.filter _
    rw [List.filter_append]
    simp

/-- The value that was set and the entries under other keys. -/
theorem values_set_perm
    (map : OrderedMap Key Value)
    (key : Key)
    (value : Value) :
    (values (set map key value)).Perm
      (value :: values (delete map key)) := by
  rw [← delete_set map key value]
  exact values_perm_of_lookup (lookup_set_self map key value)

theorem size_delete_le
    (map : OrderedMap Key Value)
    (key : Key) :
    size (delete map key) ≤ size map :=
  List.length_filter_le _ _

theorem countP_values_delete_le
    (map : OrderedMap Key Value)
    (key : Key)
    (counts : Value → Bool) :
    (values (delete map key)).countP counts ≤
      (values map).countP counts :=
  (List.filter_sublist.map Prod.snd).countP_le

/-- Items with distinct keys that are all in a map are at most its entries. -/
theorem countP_le_of_registered
    {Item : Type}
    {map : OrderedMap Key Value}
    {items : List Item}
    {keyOf : Item → Key}
    {valueOf : Item → Value}
    (distinct : (items.map keyOf).Nodup)
    (registered :
      ∀ item ∈ items, lookup map (keyOf item) = some (valueOf item))
    (counts : Value → Bool) :
    items.countP (fun item => counts (valueOf item)) ≤
      (values map).countP counts := by
  let entryOf (item : Item) : Key × Value := (keyOf item, valueOf item)
  have entriesDistinct : (items.map entryOf).Nodup := by
    refine List.Nodup.of_map Prod.fst ?_
    rw [List.map_map]
    exact distinct
  have isEntry : items.map entryOf ⊆ map.rows := by
    intro entry member
    obtain ⟨item, isItem, rfl⟩ := List.mem_map.mp member
    exact mem_of_lookup (registered item isItem)
  have counted :=
    (entriesDistinct.subperm isEntry).countP_le fun entry => counts entry.2
  rw [List.countP_map] at counted
  rw [values, List.countP_map]
  exact counted

end OrderedMap

end KeyedTables
