import Mathlib.Data.List.Nodup

namespace Transactional

/-!
# Tables keyed by their rows

A table is a list of rows in insertion order whose keys are all different, so
a primary key cannot be violated by construction.  Every operation is described
by the row it leaves under each key; these lookup equations are what later
proofs use, and none of them opens the list again.
-/

/-- Rows that carry their own primary key. -/
class Keyed (Row : Type) (Key : outParam Type) where
  key : Row → Key

export Keyed (key)

/-- Rows in insertion order, no two under one key. -/
structure Table (Row : Type) {Key : Type} [Keyed Row Key] where
  rows : List Row
  distinct : (rows.map (key : Row → Key)).Nodup

namespace Table

variable
  {Row Key : Type}
  [Keyed Row Key]

/-- Tables are determined by their rows. -/
theorem ext_rows
    {first second : Table Row}
    (same : first.rows = second.rows) :
    first = second := by
  cases first
  cases second
  cases same
  rfl

/-- The table without rows. -/
def empty : Table Row where
  rows := []
  distinct := List.nodup_nil

instance : EmptyCollection (Table Row) where
  emptyCollection := empty

/-- The first row with a property, in insertion order. -/
def find? (table : Table Row) (property : Row → Bool) : Option Row :=
  table.rows.find? property

/-- How many rows have a property. -/
def count (table : Table Row) (property : Row → Bool) : Nat :=
  table.rows.countP property

/-- The rows with a property, in insertion order. -/
def select (table : Table Row) (property : Row → Bool) : List Row :=
  table.rows.filter property

variable [DecidableEq Key]

/-- The row stored under a key. -/
def get? (table : Table Row) (query : Key) : Option Row :=
  table.rows.find? fun row => key row = query

/-- Replacing a row by another one under the same key keeps the keys. -/
private theorem map_key_replace
    (rows : List Row)
    (fresh : Row) :
    (rows.map fun row => if key row = key fresh then fresh else row).map
        (key : Row → Key) =
      rows.map key := by
  rw [List.map_map]
  apply List.map_congr_left
  intro row _
  by_cases same : (key row : Key) = key fresh
  · simp [same]
  · simp [same]

/-- Store a row: in place of the one under its key, or at the end. -/
def put (table : Table Row) (fresh : Row) : Table Row :=
  if present : (key fresh : Key) ∈ table.rows.map key then
    { rows :=
        table.rows.map fun row =>
          if key row = key fresh then fresh else row
      distinct := by
        rw [map_key_replace]
        exact table.distinct }
  else
    { rows := table.rows ++ [fresh]
      distinct := by
        rw [List.map_append, List.map_singleton]
        exact table.distinct.append (List.nodup_singleton _)
          (by simpa [List.disjoint_singleton] using present) }

/-- Remove the row under a key. -/
def erase (table : Table Row) (query : Key) : Table Row where
  rows := table.rows.filter fun row => key row ≠ query
  distinct :=
    ((List.filter_sublist).map key).nodup table.distinct

/-- Rewrite every row with a property by a function that keeps keys. -/
def revise
    (table : Table Row)
    (property : Row → Bool)
    (change : Row → Row)
    (keepsKey : ∀ row, (key (change row) : Key) = key row) :
    Table Row where
  rows := table.rows.map fun row => if property row then change row else row
  distinct := by
    have sameKeys :
        (table.rows.map fun row =>
            if property row then change row else row).map
            (key : Row → Key) =
          table.rows.map key := by
      rw [List.map_map]
      apply List.map_congr_left
      intro row _
      by_cases chosen : property row
      · simp [chosen, keepsKey]
      · simp [chosen]
    rw [sameKeys]
    exact table.distinct

/-- Remove every row with a property. -/
def reject (table : Table Row) (property : Row → Bool) : Table Row where
  rows := table.rows.filter fun row => !property row
  distinct :=
    ((List.filter_sublist).map key).nodup table.distinct

/-! ## Lookups -/

/-- In a list without repeated keys, a row is found under its own key. -/
private theorem find?_key_of_mem
    {rows : List Row}
    (distinct : (rows.map (key : Row → Key)).Nodup)
    {row : Row}
    (member : row ∈ rows) :
    rows.find? (fun other => (key other : Key) = key row) = some row := by
  induction rows with
  | nil =>
      simp at member
  | cons head rest inductionHypothesis =>
      have split := List.nodup_cons.mp distinct
      rcases List.mem_cons.mp member with isHead | inRest
      · subst row
        simp
      · have different : (key head : Key) ≠ key row := by
          intro same
          apply split.1
          rw [same]
          exact List.mem_map_of_mem inRest
        simp [different, inductionHypothesis split.2 inRest]

/-- Membership and lookup under the row's own key agree. -/
theorem mem_rows_iff
    {table : Table Row}
    {row : Row} :
    row ∈ table.rows ↔ table.get? (key row) = some row := by
  constructor
  · intro member
    exact find?_key_of_mem table.distinct member
  · intro found
    exact List.mem_of_find?_eq_some found

/-- A row is stored under its own key only. -/
theorem key_of_get?
    {table : Table Row}
    {query : Key}
    {row : Row}
    (found : table.get? query = some row) :
    key row = query := by
  have holds := List.find?_some found
  simpa using holds

/-- A stored row is a member of the table. -/
theorem mem_of_get?
    {table : Table Row}
    {query : Key}
    {row : Row}
    (found : table.get? query = some row) :
    row ∈ table.rows :=
  List.mem_of_find?_eq_some found

@[simp] theorem get?_empty (query : Key) :
    (∅ : Table Row).get? query = none :=
  rfl

/-- A key is absent exactly when no row carries it. -/
theorem get?_eq_none_iff
    {table : Table Row}
    {query : Key} :
    table.get? query = none ↔ ∀ row ∈ table.rows, key row ≠ query := by
  simp [get?]

/-- A key that is present differs from one that is absent. -/
theorem ne_of_get?
    {table : Table Row}
    {query other : Key}
    {row : Row}
    (present : table.get? query = some row)
    (absent : table.get? other = none) :
    query ≠ other := by
  rintro rfl
  rw [absent] at present
  cases present

/-- Lookup in a table whose rows are given as the image of another's. -/
private theorem find?_map_keeping
    (rows : List Row)
    (change : Row → Row)
    (keepsKey : ∀ row ∈ rows, (key (change row) : Key) = key row)
    (query : Key) :
    (rows.map change).find? (fun row => key row = query) =
      (rows.find? fun row => key row = query).map change := by
  induction rows with
  | nil =>
      rfl
  | cons head rest inductionHypothesis =>
      have headKey := keepsKey head (by simp)
      have restKeys :
          ∀ row ∈ rest, (key (change row) : Key) = key row :=
        fun row member => keepsKey row (by simp [member])
      by_cases here : (key head : Key) = query
      · simp [headKey, here]
      · simp [headKey, here, inductionHypothesis restKeys]

/-- Storing a row changes the lookup under its key and no other. -/
theorem get?_put
    (table : Table Row)
    (fresh : Row)
    (query : Key) :
    (table.put fresh).get? query =
      if query = key fresh then some fresh else table.get? query := by
  unfold put
  split
  · rename_i present
    have replaced :
        (table.rows.map fun row =>
            if key row = key fresh then fresh else row).find?
            (fun row => key row = query) =
          (table.rows.find? fun row => key row = query).map
            fun row => if key row = key fresh then fresh else row := by
      apply find?_map_keeping
      intro row _
      by_cases same : (key row : Key) = key fresh
      · simp [same]
      · simp [same]
    change
      (table.rows.map fun row =>
          if key row = key fresh then fresh else row).find?
          (fun row => key row = query) = _
    rw [replaced]
    by_cases isFresh : query = key fresh
    · subst query
      obtain ⟨row, member, rowKey⟩ := List.mem_map.mp present
      have found := find?_key_of_mem table.distinct member
      rw [rowKey] at found
      simp [found, rowKey]
    · cases found : table.rows.find? fun row => key row = query with
      | none =>
          simp [isFresh, get?, found]
      | some row =>
          have rowKey : key row = query := by
            simpa using List.find?_some found
          have different : ¬ (key row : Key) = key fresh := by
            rw [rowKey]
            exact isFresh
          simp [isFresh, get?, found, different]
  · rename_i absent
    change (table.rows ++ [fresh]).find? (fun row => key row = query) = _
    rw [List.find?_append]
    by_cases isFresh : query = key fresh
    · subst query
      have missing :
          table.rows.find? (fun row => (key row : Key) = key fresh) =
            none := by
        rw [List.find?_eq_none]
        intro row member same
        apply absent
        have same : (key row : Key) = key fresh := by simpa using same
        rw [← same]
        exact List.mem_map_of_mem member
      simp [missing]
    · have notFresh : ¬ (key fresh : Key) = query :=
        fun same => isFresh same.symm
      simp [isFresh, notFresh, get?]

@[simp] theorem get?_put_self
    (table : Table Row)
    (fresh : Row) :
    (table.put fresh).get? (key fresh) = some fresh := by
  simp [get?_put]

/-- Storing a row leaves every other key alone. -/
theorem get?_put_of_ne
    (table : Table Row)
    {fresh : Row}
    {query : Key}
    (different : query ≠ key fresh) :
    (table.put fresh).get? query = table.get? query := by
  simp [get?_put, different]

/-- Removing a key empties that key and no other. -/
theorem get?_erase
    (table : Table Row)
    (removed query : Key) :
    (table.erase removed).get? query =
      if query = removed then none else table.get? query := by
  change
    (table.rows.filter fun row => key row ≠ removed).find?
        (fun row => key row = query) = _
  rw [List.find?_filter]
  by_cases isRemoved : query = removed
  · subst query
    simp
  · have same :
        (fun row : Row =>
          decide ((key row : Key) ≠ removed) && decide (key row = query)) =
          fun row => decide (key row = query) := by
      funext row
      by_cases here : (key row : Key) = query
      · simp [here, isRemoved]
      · simp [here]
    simp only [isRemoved, ↓reduceIte, get?]
    rw [← same]
    simp

/-- A bulk change rewrites each row on its own. -/
theorem get?_revise
    (table : Table Row)
    (property : Row → Bool)
    (change : Row → Row)
    (keepsKey : ∀ row, (key (change row) : Key) = key row)
    (query : Key) :
    (table.revise property change keepsKey).get? query =
      (table.get? query).map
        fun row => if property row then change row else row := by
  apply find?_map_keeping
  intro row _
  by_cases chosen : property row
  · simp [chosen, keepsKey]
  · simp [chosen]

/-- A bulk removal keeps exactly the rows without the property. -/
theorem get?_reject_eq_some_iff
    {table : Table Row}
    {property : Row → Bool}
    {query : Key}
    {row : Row} :
    (table.reject property).get? query = some row ↔
      table.get? query = some row ∧ property row = false := by
  have member :
      row ∈ (table.reject property).rows ↔
        row ∈ table.rows ∧ property row = false := by
    simp [reject]
  constructor
  · intro found
    have rowKey := key_of_get? found
    subst query
    rw [← mem_rows_iff] at found ⊢
    exact member.mp found
  · rintro ⟨found, lacks⟩
    have rowKey := key_of_get? found
    subst query
    rw [← mem_rows_iff] at found ⊢
    exact member.mpr ⟨found, lacks⟩

/-- The row found by a property is stored under its key. -/
theorem get?_of_find?
    {table : Table Row}
    {property : Row → Bool}
    {row : Row}
    (found : table.find? property = some row) :
    table.get? (key row) = some row ∧ property row = true :=
  ⟨mem_rows_iff.mp (List.mem_of_find?_eq_some found),
    List.find?_some found⟩

/-- No row is found exactly when no stored row has the property. -/
theorem find?_eq_none_iff
    {table : Table Row}
    {property : Row → Bool} :
    table.find? property = none ↔
      ∀ query row, table.get? query = some row → property row = false := by
  simp only [find?, List.find?_eq_none]
  constructor
  · intro none query row found
    simpa using none row (mem_of_get? found)
  · intro none row member
    simpa using none (key row) row (mem_rows_iff.mp member)

/-- Some row is found exactly when some stored row has the property. -/
theorem isSome_find?_iff
    {table : Table Row}
    {property : Row → Bool} :
    (table.find? property).isSome = true ↔
      ∃ query row, table.get? query = some row ∧ property row = true := by
  rw [find?, List.find?_isSome]
  constructor
  · rintro ⟨row, member, holds⟩
    exact ⟨key row, row, mem_rows_iff.mp member, holds⟩
  · rintro ⟨query, row, found, holds⟩
    exact ⟨row, mem_of_get? found, holds⟩

/-- No row has a key that no row with a property has. -/
theorem get?_eq_none_of_find?
    {table : Table Row}
    {property : Row → Bool}
    {query : Key}
    (free : (table.find? property).isSome = false)
    (holds : ∀ row, key row = query → property row = true) :
    table.get? query = none := by
  cases found : table.get? query with
  | none => rfl
  | some row =>
      have some :=
        isSome_find?_iff.mpr ⟨query, row, found, holds row (key_of_get? found)⟩
      rw [free] at some
      cases some

/-- A row besides a given one has the property when two rows do. -/
theorem exists_other_of_two_le_count
    {table : Table Row}
    {property : Row → Bool}
    (many : 2 ≤ table.count property)
    (query : Key) :
    ∃ row,
      key row ≠ query ∧
        table.get? (key row) = some row ∧
        property row = true := by
  by_contra noOther
  have onlyQuery :
      ∀ row ∈ table.rows.filter property, key row = query := by
    intro row member
    obtain ⟨inTable, holds⟩ := List.mem_filter.mp member
    by_contra different
    exact noOther ⟨row, different, mem_rows_iff.mp inTable, holds⟩
  have keysNodup :
      ((table.rows.filter property).map (key : Row → Key)).Nodup :=
    ((List.filter_sublist).map key).nodup table.distinct
  have keysConstant :
      (table.rows.filter property).map (key : Row → Key) =
        List.replicate (table.rows.filter property).length query := by
    rw [List.eq_replicate_iff]
    refine ⟨by simp, ?_⟩
    intro found member
    obtain ⟨row, rowMember, rfl⟩ := List.mem_map.mp member
    exact onlyQuery row rowMember
  rw [keysConstant] at keysNodup
  have short := List.nodup_replicate.mp keysNodup
  have counted : table.count property = (table.rows.filter property).length :=
    List.countP_eq_length_filter
  omega

/-- The count is positive exactly when some stored row has the property. -/
theorem count_pos_iff
    {table : Table Row}
    {property : Row → Bool} :
    0 < table.count property ↔
      ∃ query row,
        table.get? query = some row ∧ property row = true := by
  rw [count, List.countP_pos_iff]
  constructor
  · rintro ⟨row, member, holds⟩
    exact ⟨key row, row, mem_rows_iff.mp member, holds⟩
  · rintro ⟨query, row, found, holds⟩
    exact ⟨row, mem_of_get? found, holds⟩

/-- A row that is stored under a key nobody has comes last. -/
theorem rows_put_of_absent
    {table : Table Row}
    {fresh : Row}
    (absent : table.get? (key fresh) = none) :
    (table.put fresh).rows = table.rows ++ [fresh] := by
  unfold put
  split
  · rename_i present
    obtain ⟨row, member, rowKey⟩ := List.mem_map.mp present
    exact absurd rowKey (get?_eq_none_iff.mp absent row member)
  · rfl

/-- Replacing a row by one with the same column leaves that column as it is. -/
theorem map_rows_put
    {table : Table Row}
    {fresh row : Row}
    {Column : Type}
    {column : Row → Column}
    (found : table.get? (key fresh) = some row)
    (sameColumn : column fresh = column row) :
    (table.put fresh).rows.map column = table.rows.map column := by
  have present : (key fresh : Key) ∈ table.rows.map key :=
    List.mem_map.mpr ⟨row, mem_of_get? found, key_of_get? found⟩
  unfold put
  rw [dif_pos present, List.map_map]
  refine List.map_congr_left fun other member => ?_
  by_cases same : (key other : Key) = key fresh
  · have isRow : other = row := by
      have stored := mem_rows_iff.mp member
      rw [same, found] at stored
      exact (Option.some.inj stored).symm
    have replaced :
        (if (key other : Key) = key fresh then fresh else other) = fresh :=
      if_pos same
    change column (if (key other : Key) = key fresh then fresh else other) = _
    rw [replaced, sameColumn, isRow]
  · simp [same]

omit [DecidableEq Key] in
/-- A list is searched like the shorter one outside which nothing is found. -/
private theorem filterMap_of_sublist
    {Column : Type}
    {chosen order : List Key}
    {found : Key → Option Column}
    (among : chosen.Sublist order)
    (distinct : order.Nodup)
    (elsewhere : ∀ query ∈ order, query ∉ chosen → found query = none) :
    order.filterMap found = chosen.filterMap found := by
  induction among with
  | slnil => rfl
  | cons query rest inductionHypothesis =>
      obtain ⟨fresh, distinct⟩ := List.nodup_cons.mp distinct
      have nothing : found query = none :=
        elsewhere query List.mem_cons_self fun member =>
          fresh (rest.subset member)
      rw [List.filterMap_cons_none nothing]
      exact inductionHypothesis distinct fun other member =>
        elsewhere other (List.mem_cons_of_mem _ member)
  | cons_cons query rest inductionHypothesis =>
      obtain ⟨fresh, distinct⟩ := List.nodup_cons.mp distinct
      rw [List.filterMap_cons, List.filterMap_cons,
        inductionHypothesis distinct]
      intro other member outside
      refine elsewhere other (List.mem_cons_of_mem _ member) fun inside => ?_
      rcases List.mem_cons.mp inside with rfl | inside
      · exact fresh member
      · exact outside inside

/-- Rows are found in the order of any list of keys that theirs are among. -/
theorem filterMap_get?_of_sublist
    {table : Table Row}
    {order : List Key}
    (among : (table.rows.map (key : Row → Key)).Sublist order)
    (distinct : order.Nodup) :
    order.filterMap table.get? = table.rows := by
  have elsewhere :
      ∀ query ∈ order, query ∉ table.rows.map (key : Row → Key) →
        table.get? query = none := by
    intro query _ outside
    exact get?_eq_none_iff.mpr fun row member isRow =>
      outside (List.mem_map.mpr ⟨row, member, isRow⟩)
  rw [filterMap_of_sublist among distinct elsewhere, List.filterMap_map]
  have found :
      ∀ row ∈ table.rows, (table.get? ∘ key) row = some row :=
    fun row member => mem_rows_iff.mp member
  rw [List.filterMap_congr found, List.filterMap_some]

/-! ## Columns without repeated values -/

/-- No two rows share a value of a column. -/
def Unique {Column : Type} (table : Table Row) (column : Row → Column) : Prop :=
  ∀ first second,
    table.get? (key first) = some first →
    table.get? (key second) = some second →
    column first = column second →
      (key first : Key) = key second

/-- A row that shares its value with no other leaves the values distinct. -/
theorem Unique.put
    {Column : Type}
    {table : Table Row}
    {fresh : Row}
    {column : Row → Column}
    (unique : table.Unique column)
    (free :
      ∀ row,
        table.get? (key row) = some row →
        column row = column fresh →
          (key row : Key) = key fresh) :
    (table.put fresh).Unique column := by
  intro first second foundFirst foundSecond same
  rw [get?_put] at foundFirst foundSecond
  split at foundFirst
  · obtain rfl := Option.some.inj foundFirst
    split at foundSecond
    · obtain rfl := Option.some.inj foundSecond
      rfl
    · exact (free second foundSecond same.symm).symm
  · split at foundSecond
    · obtain rfl := Option.some.inj foundSecond
      exact free first foundFirst same
    · exact unique first second foundFirst foundSecond same

end Table

end Transactional
