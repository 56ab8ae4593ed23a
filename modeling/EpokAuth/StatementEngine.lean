import EpokAuth.KeyedTable
import EpokAuth.Program

namespace Transactional

/-!
# What one statement does to a database

A statement is executed in one of two ways.  A point statement looks at the
database once, needs some locks there, and answers with a list of row writes.
A sweep first decides which rows it will visit, and then visits them one at a
time, looking again at each row when its lock is granted.

Both kinds are described by one value, which is read in two ways: evaluated in
one go on a database that nobody else is using, and executed step by step among
concurrent transactions.
-/

/-- The row-lock strengths that statements take. -/
inductive LockMode where
  | keyShare
  | noKeyUpdate
  | forUpdate
  deriving Repr, DecidableEq

/-- Whether two strengths exclude each other on one row. -/
def LockMode.conflicts : LockMode → LockMode → Bool
  | .keyShare, .keyShare => false
  | .keyShare, .noKeyUpdate => false
  | .noKeyUpdate, .keyShare => false
  | _, _ => true

/-- Strengths that permit writing the row exclude each other. -/
theorem LockMode.conflicts_of_ne_keyShare
    {first second : LockMode}
    (firstWrites : first ≠ .keyShare)
    (secondWrites : second ≠ .keyShare) :
    first.conflicts second = true := by
  cases first <;> cases second <;> simp_all [conflicts]

/-- A lock held, or asked for, on one resource. -/
structure Lock (Resource : Type) where
  resource : Resource
  mode : LockMode
  deriving Repr, DecidableEq

/-- Locks of two transactions exclude each other on one resource only. -/
def Lock.conflicts
    [DecidableEq Resource]
    (first second : Lock Resource) :
    Bool :=
  decide (first.resource = second.resource) &&
    first.mode.conflicts second.mode

/-- Exclusion does not depend on which lock was there first. -/
theorem Lock.conflicts_comm
    [DecidableEq Resource]
    (first second : Lock Resource) :
    first.conflicts second = second.conflicts first := by
  have modes :
      first.mode.conflicts second.mode = second.mode.conflicts first.mode := by
    cases first.mode <;> cases second.mode <;> rfl
  rw [conflicts, conflicts, modes, decide_eq_decide.mpr eq_comm]

/-- How a statement with answers of one type is executed. -/
inductive Execution (σ Write Resource Target Answer : Type) where
  | point :
      (locks : σ → List (Lock Resource)) →
      (effect : σ → Answer × List Write) →
      Execution σ Write Resource Target Answer
  | sweep :
      (targets : σ → List Target) →
      (lock : Target → Lock Resource) →
      (touch : Target → σ → List Write) →
      (answer : Nat → Answer) →
      Execution σ Write Resource Target Answer

/-- A database: its row writes, its statements and its locks. -/
structure Engine
    (σ Write Resource Target Statement : Type)
    (Answer : Statement → Type) where
  apply : Write → σ → σ
  execution :
    (statement : Statement) →
      Execution σ Write Resource Target (Answer statement)
  /-- The resource a row write changes; appending changes none. -/
  guard : Write → Option Resource

/-- Perform row writes in the order they were issued. -/
def applyAll (apply : Write → σ → σ) : List Write → σ → σ
  | [], state => state
  | write :: rest, state => applyAll apply rest (apply write state)

section Writes

variable (apply : Write → σ → σ)

@[simp] theorem applyAll_nil (state : σ) :
    applyAll apply [] state = state :=
  rfl

@[simp] theorem applyAll_cons
    (write : Write)
    (rest : List Write)
    (state : σ) :
    applyAll apply (write :: rest) state =
      applyAll apply rest (apply write state) :=
  rfl

/-- Writes issued later are performed later. -/
theorem applyAll_append
    (first second : List Write)
    (state : σ) :
    applyAll apply (first ++ second) state =
      applyAll apply second (applyAll apply first state) := by
  induction first generalizing state with
  | nil =>
      rfl
  | cons write rest inductionHypothesis =>
      simp [inductionHypothesis]

end Writes

/-- Visit rows one after the other, counting those that were written. -/
def visitAll
    (apply : Write → σ → σ)
    (touch : Target → σ → List Write) :
    List Target → σ → Nat × σ
  | [], state => (0, state)
  | target :: rest, state =>
      let writes := touch target state
      let later := visitAll apply touch rest (applyAll apply writes state)
      ((if writes.isEmpty then 0 else 1) + later.1, later.2)

/-- Execute a statement on a database that nobody else is using. -/
def Execution.perform
    (apply : Write → σ → σ) :
    Execution σ Write Resource Target Answer → σ → Answer × σ
  | .point _ effect, state =>
      ((effect state).1, applyAll apply (effect state).2 state)
  | .sweep targets _ touch answer, state =>
      let visited := visitAll apply touch (targets state) state
      (answer visited.1, visited.2)

/-- The evaluation of statements by a database that nobody else is using. -/
def Engine.evaluate
    {σ Write Resource Target Statement : Type}
    {Answer : Statement → Type}
    (engine : Engine σ Write Resource Target Statement Answer) :
    Prog.Evaluation Statement Answer σ :=
  fun statement state =>
    (engine.execution statement).perform engine.apply state

/-! ## Sweeps over one table -/

namespace Table

variable
  {Row Key : Type}
  [Keyed Row Key]
  [DecidableEq Key]

/-- Visit one key: rewrite the row under it if it still has the property. -/
def visit
    (property : Row → Bool)
    (change : Row → Row)
    (table : Table Row)
    (target : Key) :
    Table Row :=
  match table.get? target with
  | none => table
  | some row => if property row then table.put (change row) else table

/-- Rows after visiting some keys, as a change of each row on its own. -/
private theorem rows_put_of_mem
    {table : Table Row}
    {fresh : Row}
    (present : (key fresh : Key) ∈ table.rows.map key) :
    (table.put fresh).rows =
      table.rows.map fun row =>
        if key row = key fresh then fresh else row := by
  unfold put
  rw [dif_pos present]

private theorem rows_visit
    (property : Row → Bool)
    (change : Row → Row)
    (keepsKey : ∀ row, (key (change row) : Key) = key row)
    (table : Table Row)
    (target : Key) :
    (table.visit property change target).rows =
      table.rows.map fun row =>
        if key row = target ∧ property row = true then
          change row
        else
          row := by
  unfold visit
  cases found : table.get? target with
  | none =>
      symm
      simp only
      rw [get?_eq_none_iff] at found
      conv_rhs => rw [← List.map_id table.rows]
      apply List.map_congr_left
      intro row member
      simp [found row member]
  | some row =>
      have rowKey : key row = target := key_of_get? found
      have member : row ∈ table.rows := mem_of_get? found
      have onlyRow :
          ∀ other ∈ table.rows, (key other : Key) = target → other = row := by
        intro other otherMember otherKey
        exact List.inj_on_of_nodup_map table.distinct otherMember member
          (otherKey.trans rowKey.symm)
      by_cases holds : property row = true
      · have present :
            (key (change row) : Key) ∈ table.rows.map key := by
          rw [keepsKey]
          exact List.mem_map_of_mem member
        simp only [holds, ↓reduceIte]
        rw [rows_put_of_mem present]
        apply List.map_congr_left
        intro other otherMember
        rw [keepsKey, rowKey]
        by_cases here : (key other : Key) = target
        · have isRow := onlyRow other otherMember here
          subst other
          simp [here, holds]
        · simp [here]
      · simp only [holds, Bool.false_eq_true, ↓reduceIte]
        conv_lhs => rw [← List.map_id table.rows]
        apply List.map_congr_left
        intro other otherMember
        by_cases here : (key other : Key) = target
        · have isRow := onlyRow other otherMember here
          subst other
          simp [holds]
        · simp [here]

/-- The order of two visits does not matter. -/
theorem visit_comm
    (property : Row → Bool)
    (change : Row → Row)
    (keepsKey : ∀ row, (key (change row) : Key) = key row)
    (table : Table Row)
    (one another : Key) :
    (table.visit property change one).visit property change another =
      (table.visit property change another).visit property change one := by
  by_cases same : one = another
  · rw [same]
  apply ext_rows
  simp only [rows_visit property change keepsKey, List.map_map]
  apply List.map_congr_left
  intro row _
  by_cases isOne : (key row : Key) = one
  · by_cases holds : property row = true
    · simp [isOne, holds, keepsKey, same]
    · simp [isOne, holds, same]
  · by_cases here : (key row : Key) = another ∧ property row = true
    · simp [here.1, here.2, keepsKey, Ne.symm same]
    · simp [isOne, here]

private theorem rows_foldl_visit
    (property : Row → Bool)
    (change : Row → Row)
    (keepsKey : ∀ row, (key (change row) : Key) = key row)
    (targets : List Key)
    (noRepeats : targets.Nodup)
    (table : Table Row) :
    (targets.foldl (visit property change) table).rows =
      table.rows.map fun row =>
        if key row ∈ targets ∧ property row = true then
          change row
        else
          row := by
  induction targets generalizing table with
  | nil =>
      simp
  | cons target rest inductionHypothesis =>
      obtain ⟨notInRest, restNodup⟩ := List.nodup_cons.mp noRepeats
      simp only [List.foldl_cons]
      rw [inductionHypothesis restNodup,
        rows_visit property change keepsKey, List.map_map]
      apply List.map_congr_left
      intro row _
      by_cases here : (key row : Key) = target
      · by_cases holds : property row = true
        · simp [here, holds, keepsKey, notInRest]
        · simp [here, holds, notInRest]
      · simp [here]

/--
Visiting the rows that had a property, each looked at again, is the bulk change
of the rows with that property.
-/
theorem foldl_visit_eq_revise
    (property : Row → Bool)
    (change : Row → Row)
    (keepsKey : ∀ row, (key (change row) : Key) = key row)
    (table : Table Row) :
    ((table.select property).map key).foldl
        (visit property change) table =
      table.revise property change keepsKey := by
  have noRepeats :
      ((table.select property).map (key : Row → Key)).Nodup :=
    ((List.filter_sublist).map key).nodup table.distinct
  apply ext_rows
  rw [rows_foldl_visit property change keepsKey _ noRepeats]
  apply List.map_congr_left
  intro row member
  by_cases holds : property row = true
  · have chosen : (key row : Key) ∈ (table.select property).map key :=
      List.mem_map_of_mem (List.mem_filter.mpr ⟨member, holds⟩)
    simp [holds, chosen]
  · simp [holds]

/-- Visit one key: remove the row under it if it still has the property. -/
def discard
    (property : Row → Bool)
    (table : Table Row)
    (target : Key) :
    Table Row :=
  match table.get? target with
  | none => table
  | some row => if property row then table.erase target else table

private theorem rows_discard
    (property : Row → Bool)
    (table : Table Row)
    (target : Key) :
    (table.discard property target).rows =
      table.rows.filter fun row =>
        !(decide (key row = target) && property row) := by
  unfold discard
  cases found : table.get? target with
  | none =>
      symm
      rw [get?_eq_none_iff] at found
      rw [List.filter_eq_self]
      intro row member
      simp [found row member]
  | some row =>
      have rowKey : key row = target := key_of_get? found
      have onlyRow :
          ∀ other ∈ table.rows, (key other : Key) = target → other = row := by
        intro other otherMember otherKey
        exact List.inj_on_of_nodup_map table.distinct otherMember
          (mem_of_get? found) (otherKey.trans rowKey.symm)
      by_cases holds : property row = true
      · simp only [holds, ↓reduceIte]
        apply List.filter_congr
        intro other otherMember
        by_cases here : (key other : Key) = target
        · have isRow := onlyRow other otherMember here
          subst other
          simp [here, holds]
        · simp [here]
      · simp only [holds, Bool.false_eq_true, ↓reduceIte]
        symm
        rw [List.filter_eq_self]
        intro other otherMember
        by_cases here : (key other : Key) = target
        · have isRow := onlyRow other otherMember here
          subst other
          simp [holds]
        · simp [here]

/-- The order of two removals does not matter. -/
theorem discard_comm
    (property : Row → Bool)
    (table : Table Row)
    (one another : Key) :
    (table.discard property one).discard property another =
      (table.discard property another).discard property one := by
  apply ext_rows
  simp only [rows_discard, List.filter_filter]
  apply List.filter_congr
  intro row _
  exact Bool.and_comm ..

private theorem rows_foldl_discard
    (property : Row → Bool)
    (targets : List Key)
    (table : Table Row) :
    (targets.foldl (discard property) table).rows =
      table.rows.filter fun row =>
        !(decide (key row ∈ targets) && property row) := by
  induction targets generalizing table with
  | nil =>
      simp
  | cons target rest inductionHypothesis =>
      simp only [List.foldl_cons]
      rw [inductionHypothesis, rows_discard, List.filter_filter]
      apply List.filter_congr
      intro row _
      by_cases here : (key row : Key) = target
      · by_cases holds : property row = true
        · simp [here, holds]
        · simp [here, holds]
      · simp [here]

/--
Visiting the rows that had a property and removing each that still has it is
the removal of all rows with that property.
-/
theorem foldl_discard_eq_reject
    (property : Row → Bool)
    (table : Table Row) :
    ((table.select property).map key).foldl (discard property) table =
      table.reject property := by
  apply ext_rows
  rw [rows_foldl_discard]
  apply List.filter_congr
  intro row member
  by_cases holds : property row = true
  · have chosen : (key row : Key) ∈ (table.select property).map key :=
      List.mem_map_of_mem (List.mem_filter.mpr ⟨member, holds⟩)
    simp [holds, chosen]
  · simp [holds]

end Table

/-! ## Sweeps over one table of a larger database -/

/-- A table inside a database, with the writes that change one row of it. -/
structure TableField
    {σ Write Key : Type}
    (apply : Write → σ → σ)
    (Row : Type)
    [Keyed Row Key]
    [DecidableEq Key] where
  view : σ → Table Row
  set : Table Row → σ → σ
  put : Row → Write
  view_set : ∀ table state, view (set table state) = table
  set_set :
    ∀ first second state, set second (set first state) = set second state
  set_view : ∀ state, set (view state) state = state
  apply_put :
    ∀ row state, apply (put row) state = set ((view state).put row) state

/-- A table from which single rows are also removed. -/
structure ErasableField
    {σ Write Key : Type}
    (apply : Write → σ → σ)
    (Row : Type)
    [Keyed Row Key]
    [DecidableEq Key] extends TableField apply Row where
  erase : Key → Write
  apply_erase :
    ∀ query state,
      apply (erase query) state = set ((view state).erase query) state

namespace TableField

variable
  {σ Write Row Key : Type}
  {apply : Write → σ → σ}
  [Keyed Row Key]
  [DecidableEq Key]
  (field : TableField apply Row)

/-- The rows that a sweep over one property decides to visit. -/
def targets (property : Row → Bool) (state : σ) : List Key :=
  ((field.view state).select property).map key

/-- The visit of an `UPDATE`: rewrite the row if it still has the property. -/
def touchUpdate
    (property : Row → Bool)
    (change : Row → Row)
    (target : Key)
    (state : σ) :
    List Write :=
  match (field.view state).get? target with
  | none => []
  | some row => if property row then [field.put (change row)] else []

private theorem applyAll_touchUpdate
    (property : Row → Bool)
    (change : Row → Row)
    (target : Key)
    (state : σ) :
    applyAll apply (field.touchUpdate property change target state) state =
      field.set ((field.view state).visit property change target) state := by
  unfold touchUpdate Table.visit
  cases (field.view state).get? target with
  | none =>
      simp [field.set_view]
  | some row =>
      by_cases holds : property row = true
      · simp [holds, field.apply_put]
      · simp [holds, field.set_view]

/-- The rows with a property are the targets of its sweep. -/
theorem mem_targets
    {property : Row → Bool}
    {state : σ}
    {query : Key}
    {row : Row}
    (found : (field.view state).get? query = some row)
    (holds : property row = true) :
    query ∈ field.targets property state := by
  have chosen : row ∈ (field.view state).select property :=
    List.mem_filter.mpr ⟨Table.mem_of_get? found, holds⟩
  exact List.mem_map.mpr ⟨row, chosen, Table.key_of_get? found⟩

/-- A visit leaves the other rows alone. -/
theorem get?_touchUpdate_of_ne
    {property : Row → Bool}
    {change : Row → Row}
    {target other : Key}
    {state : σ}
    (keepsKey : ∀ row, (key (change row) : Key) = key row)
    (different : other ≠ target) :
    (field.view
        (applyAll apply (field.touchUpdate property change target state)
          state)).get? other =
      (field.view state).get? other := by
  rw [applyAll_touchUpdate, field.view_set, Table.visit]
  cases found : (field.view state).get? target with
  | none =>
      rfl
  | some row =>
      by_cases holds : property row = true
      · have rowKey := Table.key_of_get? found
        simp only [holds, ↓reduceIte]
        apply Table.get?_put_of_ne
        rw [keepsKey, rowKey]
        exact different
      · simp [holds]

/-- After its visit, a row has the property no more. -/
theorem not_of_touchUpdate
    {property : Row → Bool}
    {change : Row → Row}
    {target : Key}
    {state : σ}
    {row : Row}
    (stored :
      (field.view
          (applyAll apply (field.touchUpdate property change target state)
            state)).get? target =
        some row)
    (keepsKey : ∀ row, (key (change row) : Key) = key row)
    (ends : ∀ row, property row = true → property (change row) = false) :
    property row = false := by
  rw [applyAll_touchUpdate, field.view_set, Table.visit] at stored
  cases found : (field.view state).get? target with
  | none =>
      rw [found] at stored
      dsimp only at stored
      rw [found] at stored
      cases stored
  | some earlier =>
      rw [found] at stored
      dsimp only at stored
      have isTarget : key earlier = target := Table.key_of_get? found
      split at stored
      · rename_i holds
        rw [← isTarget, ← keepsKey, Table.get?_put_self] at stored
        obtain rfl := Option.some.inj stored
        exact ends earlier holds
      · rename_i without
        rw [found] at stored
        obtain rfl := Option.some.inj stored
        exact Bool.eq_false_iff.mpr without

private theorem visitAll_update_state
    (property : Row → Bool)
    (change : Row → Row)
    (targets : List Key)
    (state : σ) :
    (visitAll apply (field.touchUpdate property change) targets state).2 =
      field.set
        (targets.foldl (Table.visit property change) (field.view state))
        state := by
  induction targets generalizing state with
  | nil =>
      simp [visitAll, field.set_view]
  | cons target rest inductionHypothesis =>
      simp only [visitAll, List.foldl_cons]
      rw [inductionHypothesis, field.applyAll_touchUpdate, field.view_set,
        field.set_set]

/-- Evaluated in one go, an `UPDATE` sweep is the bulk change of its table. -/
theorem visitAll_update
    (property : Row → Bool)
    (change : Row → Row)
    (keepsKey : ∀ row, (key (change row) : Key) = key row)
    (state : σ) :
    (visitAll apply (field.touchUpdate property change)
        (field.targets property state) state).2 =
      field.set
        ((field.view state).revise property change keepsKey) state := by
  rw [visitAll_update_state, targets,
    Table.foldl_visit_eq_revise _ _ keepsKey]

/-- The visits of an `UPDATE` may be made in any order. -/
theorem visitAll_update_swap
    (property : Row → Bool)
    (change : Row → Row)
    (keepsKey : ∀ row, (key (change row) : Key) = key row)
    (one another : Key)
    (state : σ) :
    visitAll apply (field.touchUpdate property change) [one, another] state =
      visitAll apply (field.touchUpdate property change) [another, one]
        state := by
  by_cases same : one = another
  · rw [same]
  have unaffected :
      ∀ target other, other ≠ target →
        field.touchUpdate property change other
            (applyAll apply (field.touchUpdate property change target state)
              state) =
          field.touchUpdate property change other state := by
    intro target other different
    rw [touchUpdate, field.get?_touchUpdate_of_ne keepsKey different]
    rfl
  refine Prod.ext ?_ ?_
  · simp only [visitAll, unaffected one another (Ne.symm same),
      unaffected another one same]
    omega
  · rw [visitAll_update_state, visitAll_update_state]
    exact congrArg (field.set · state)
      (Table.visit_comm property change keepsKey _ one another)

/--
Visiting different rows that all have the property writes each of them, as
long as the visit of one leaves the others alone.
-/
private theorem visitAll_count
    (property : Row → Bool)
    (touch : Key → σ → List Write)
    (writes :
      ∀ target state row,
        (field.view state).get? target = some row →
        property row = true →
        touch target state ≠ [])
    (leaves :
      ∀ target other state,
        other ≠ target →
        (field.view
            (applyAll apply (touch target state) state)).get? other =
          (field.view state).get? other)
    (targets : List Key)
    (noRepeats : targets.Nodup)
    (state : σ)
    (present :
      ∀ target ∈ targets,
        ∃ row,
          (field.view state).get? target = some row ∧
            property row = true) :
    (visitAll apply touch targets state).1 = targets.length := by
  induction targets generalizing state with
  | nil =>
      rfl
  | cons target rest inductionHypothesis =>
      obtain ⟨notInRest, restNodup⟩ := List.nodup_cons.mp noRepeats
      obtain ⟨row, found, holds⟩ := present target (by simp)
      have written := writes target state row found holds
      have restPresent :
          ∀ other ∈ rest,
            ∃ row,
              (field.view
                  (applyAll apply (touch target state) state)).get? other =
                some row ∧ property row = true := by
        intro other member
        obtain ⟨otherRow, otherFound, otherHolds⟩ :=
          present other (by simp [member])
        refine ⟨otherRow, ?_, otherHolds⟩
        rw [leaves target other state
          (fun same => notInRest (same ▸ member))]
        exact otherFound
      simp only [visitAll, List.length_cons]
      rw [inductionHypothesis restNodup _ restPresent]
      simp [written, Nat.add_comm]

private theorem targets_present
    (property : Row → Bool)
    (state : σ) :
    ∀ target ∈ field.targets property state,
      ∃ row,
        (field.view state).get? target = some row ∧ property row = true := by
  intro target member
  obtain ⟨row, chosen, rfl⟩ := List.mem_map.mp member
  obtain ⟨inTable, holds⟩ := List.mem_filter.mp chosen
  exact ⟨row, Table.mem_rows_iff.mp inTable, holds⟩

private theorem targets_nodup
    (property : Row → Bool)
    (state : σ) :
    (field.targets property state).Nodup :=
  ((List.filter_sublist).map key).nodup (field.view state).distinct

private theorem length_targets
    (property : Row → Bool)
    (state : σ) :
    (field.targets property state).length =
      (field.view state).count property := by
  simp [targets, Table.select, Table.count, List.countP_eq_length_filter]

/-- An `UPDATE` sweep evaluated in one go counts the rows it changes. -/
theorem visitAll_update_count
    (property : Row → Bool)
    (change : Row → Row)
    (keepsKey : ∀ row, (key (change row) : Key) = key row)
    (state : σ) :
    (visitAll apply (field.touchUpdate property change)
        (field.targets property state) state).1 =
      (field.view state).count property := by
  rw [← field.length_targets]
  refine field.visitAll_count property _ ?_ ?_ _
    (field.targets_nodup property state) state
    (field.targets_present property state)
  · intro target later row found holds
    simp [touchUpdate, found, holds]
  · intro target other later different
    exact field.get?_touchUpdate_of_ne keepsKey different

end TableField

namespace ErasableField

variable
  {σ Write Row Key : Type}
  {apply : Write → σ → σ}
  [Keyed Row Key]
  [DecidableEq Key]
  (field : ErasableField apply Row)

/-- The visit of a `DELETE`: remove the row if it still has the property. -/
def touchDelete
    (property : Row → Bool)
    (target : Key)
    (state : σ) :
    List Write :=
  match (field.view state).get? target with
  | none => []
  | some row => if property row then [field.erase target] else []

private theorem applyAll_touchDelete
    (property : Row → Bool)
    (target : Key)
    (state : σ) :
    applyAll apply (field.touchDelete property target state) state =
      field.set ((field.view state).discard property target) state := by
  unfold touchDelete Table.discard
  cases (field.view state).get? target with
  | none =>
      simp [field.set_view]
  | some row =>
      by_cases holds : property row = true
      · simp [holds, field.apply_erase]
      · simp [holds, field.set_view]

private theorem visitAll_delete_state
    (property : Row → Bool)
    (targets : List Key)
    (state : σ) :
    (visitAll apply (field.touchDelete property) targets state).2 =
      field.set
        (targets.foldl (Table.discard property) (field.view state))
        state := by
  induction targets generalizing state with
  | nil =>
      simp [visitAll, field.set_view]
  | cons target rest inductionHypothesis =>
      simp only [visitAll, List.foldl_cons]
      rw [inductionHypothesis, field.applyAll_touchDelete, field.view_set,
        field.set_set]

/-- Evaluated in one go, a `DELETE` sweep removes the rows of its table. -/
theorem visitAll_delete
    (property : Row → Bool)
    (state : σ) :
    (visitAll apply (field.touchDelete property)
        (field.targets property state) state).2 =
      field.set ((field.view state).reject property) state := by
  rw [visitAll_delete_state, TableField.targets, Table.foldl_discard_eq_reject]

/-- A removal leaves the other rows alone. -/
theorem get?_touchDelete_of_ne
    {property : Row → Bool}
    {target other : Key}
    {state : σ}
    (different : other ≠ target) :
    (field.view
        (applyAll apply (field.touchDelete property target state)
          state)).get? other =
      (field.view state).get? other := by
  rw [applyAll_touchDelete, field.view_set, Table.discard]
  cases (field.view state).get? target with
  | none =>
      rfl
  | some row =>
      by_cases holds : property row = true
      · simp [holds, Table.get?_erase, different]
      · simp [holds]

/-- The visits of a `DELETE` may be made in any order. -/
theorem visitAll_delete_swap
    (property : Row → Bool)
    (one another : Key)
    (state : σ) :
    visitAll apply (field.touchDelete property) [one, another] state =
      visitAll apply (field.touchDelete property) [another, one] state := by
  by_cases same : one = another
  · rw [same]
  have unaffected :
      ∀ target other, other ≠ target →
        field.touchDelete property other
            (applyAll apply (field.touchDelete property target state)
              state) =
          field.touchDelete property other state := by
    intro target other different
    rw [touchDelete, field.get?_touchDelete_of_ne different]
    rfl
  refine Prod.ext ?_ ?_
  · simp only [visitAll, unaffected one another (Ne.symm same),
      unaffected another one same]
    omega
  · rw [visitAll_delete_state, visitAll_delete_state]
    exact congrArg (field.set · state)
      (Table.discard_comm property _ one another)

/-- A `DELETE` sweep evaluated in one go counts the rows it removes. -/
theorem visitAll_delete_count
    (property : Row → Bool)
    (state : σ) :
    (visitAll apply (field.touchDelete property)
        (field.targets property state) state).1 =
      (field.view state).count property := by
  rw [← field.toTableField.length_targets]
  refine field.toTableField.visitAll_count property _ ?_ ?_ _
    (field.toTableField.targets_nodup property state) state
    (field.toTableField.targets_present property state)
  · intro target later row found holds
    simp [touchDelete, found, holds]
  · intro target other later different
    exact field.get?_touchDelete_of_ne different

end ErasableField

end Transactional
