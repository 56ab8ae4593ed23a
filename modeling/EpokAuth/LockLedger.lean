import EpokAuth.StatementEngine
import Mathlib.Logic.Function.Basic

namespace Transactional

/-!
# Uncommitted writes and their locks

Each client of a database has written some rows and holds some locks; its
writes become visible to the others when it commits.  As long as every written
row is locked and no two locks of different clients exclude each other, a
commit leaves the rows that another client locks as they were.
-/

/-- A lock on the resource that excludes other writers is in a list. -/
def Locked (locks : List (Lock Resource)) (resource : Resource) : Prop :=
  ∃ lock ∈ locks, lock.resource = resource ∧ lock.mode ≠ .keyShare

/-- Every row an execution writes is locked by it against other writers. -/
def Execution.Guarded
    {σ Write Resource Target Answer : Type}
    (guard : Write → Option Resource) :
    Execution σ Write Resource Target Answer → Prop
  | .point locks effect =>
      ∀ view, ∀ write ∈ (effect view).2, ∀ resource,
        guard write = some resource → Locked (locks view) resource
  | .sweep _ lock touch _ =>
      ∀ target view, ∀ write ∈ touch target view, ∀ resource,
        guard write = some resource → Locked [lock target] resource

/-- Every row a statement writes is locked by it against other writers. -/
def Engine.Guards
    {σ Write Resource Target Statement : Type}
    {Answer : Statement → Type}
    (engine : Engine σ Write Resource Target Statement Answer) :
    Prop :=
  ∀ statement, (engine.execution statement).Guarded engine.guard

/-- What is committed, and what every client wrote and locked since. -/
structure Ledger (Client σ Write Resource : Type) where
  committed : σ
  writes : Client → List Write
  locks : Client → List (Lock Resource)

section Ledger

variable
  {Client σ Write Resource Target Statement : Type}
  {Answer : Statement → Type}

/-- More locks lock more. -/
theorem Locked.mono
    {fewer more : List (Lock Resource)}
    {resource : Resource}
    (locked : Locked fewer resource)
    (subset : fewer ⊆ more) :
    Locked more resource := by
  rcases locked with ⟨lock, member, same, mode⟩
  exact ⟨lock, subset member, same, mode⟩

namespace Ledger

variable
  (engine : Engine σ Write Resource Target Statement Answer)
  (ledger : Ledger Client σ Write Resource)

/-- What a client sees: the committed rows, with its own writes on top. -/
def view (client : Client) : σ :=
  applyAll engine.apply (ledger.writes client) ledger.committed

variable [DecidableEq Client]

/-- A client writes rows and takes locks. -/
def extend
    (client : Client)
    (locks : List (Lock Resource))
    (writes : List Write) :
    Ledger Client σ Write Resource where
  committed := ledger.committed
  writes :=
    Function.update ledger.writes client (ledger.writes client ++ writes)
  locks :=
    Function.update ledger.locks client (ledger.locks client ++ locks)

/-- A client gives up its writes and its locks. -/
def release (client : Client) : Ledger Client σ Write Resource where
  committed := ledger.committed
  writes := Function.update ledger.writes client []
  locks := Function.update ledger.locks client []

/-- The writes of a client become visible, and its locks are released. -/
def commit (client : Client) : Ledger Client σ Write Resource where
  committed := ledger.view engine client
  writes := Function.update ledger.writes client []
  locks := Function.update ledger.locks client []

section Views

variable
  {engine : Engine σ Write Resource Target Statement Answer}
  {ledger : Ledger Client σ Write Resource}
  {client other : Client}
  {locks : List (Lock Resource)}
  {writes : List Write}

@[simp] theorem committed_extend :
    (ledger.extend client locks writes).committed = ledger.committed :=
  rfl

@[simp] theorem committed_release :
    (ledger.release client).committed = ledger.committed :=
  rfl

@[simp] theorem committed_commit :
    (ledger.commit engine client).committed = ledger.view engine client :=
  rfl

@[simp] theorem writes_extend_self :
    (ledger.extend client locks writes).writes client =
      ledger.writes client ++ writes :=
  Function.update_self ..

@[simp] theorem locks_extend_self :
    (ledger.extend client locks writes).locks client =
      ledger.locks client ++ locks :=
  Function.update_self ..

@[simp] theorem writes_release_self :
    (ledger.release client).writes client = [] :=
  Function.update_self ..

@[simp] theorem locks_release_self :
    (ledger.release client).locks client = [] :=
  Function.update_self ..

@[simp] theorem writes_commit_self :
    (ledger.commit engine client).writes client = [] :=
  Function.update_self ..

@[simp] theorem locks_commit_self :
    (ledger.commit engine client).locks client = [] :=
  Function.update_self ..

theorem writes_extend_of_ne
    (different : other ≠ client) :
    (ledger.extend client locks writes).writes other = ledger.writes other :=
  Function.update_of_ne different ..

theorem locks_extend_of_ne
    (different : other ≠ client) :
    (ledger.extend client locks writes).locks other = ledger.locks other :=
  Function.update_of_ne different ..

theorem writes_release_of_ne
    (different : other ≠ client) :
    (ledger.release client).writes other = ledger.writes other :=
  Function.update_of_ne different ..

theorem locks_release_of_ne
    (different : other ≠ client) :
    (ledger.release client).locks other = ledger.locks other :=
  Function.update_of_ne different ..

theorem writes_commit_of_ne
    (different : other ≠ client) :
    (ledger.commit engine client).writes other = ledger.writes other :=
  Function.update_of_ne different ..

theorem locks_commit_of_ne
    (different : other ≠ client) :
    (ledger.commit engine client).locks other = ledger.locks other :=
  Function.update_of_ne different ..

/-- A client sees what it just wrote. -/
@[simp] theorem view_extend_self :
    (ledger.extend client locks writes).view engine client =
      applyAll engine.apply writes (ledger.view engine client) := by
  rw [view, writes_extend_self, applyAll_append]
  rfl

/-- Nobody else sees it yet. -/
theorem view_extend_of_ne
    (different : other ≠ client) :
    (ledger.extend client locks writes).view engine other =
      ledger.view engine other := by
  rw [view, writes_extend_of_ne different]
  rfl

@[simp] theorem view_release_self :
    (ledger.release client).view engine client = ledger.committed := by
  rw [view, writes_release_self]
  rfl

theorem view_release_of_ne
    (different : other ≠ client) :
    (ledger.release client).view engine other = ledger.view engine other := by
  rw [view, writes_release_of_ne different]
  rfl

@[simp] theorem view_commit_self :
    (ledger.commit engine client).view engine client =
      ledger.view engine client := by
  rw [view, writes_commit_self]
  rfl

/-- The others see the commit under their own writes. -/
theorem view_commit_of_ne
    (different : other ≠ client) :
    (ledger.commit engine client).view engine other =
      applyAll engine.apply (ledger.writes other)
        (ledger.view engine client) := by
  rw [view, writes_commit_of_ne different]
  rfl

end Views

/-! ## Proper ledgers -/

variable [DecidableEq Resource]

/-- The locks may be granted to a client: nobody else's exclude them. -/
def Grants (client : Client) (locks : List (Lock Resource)) : Prop :=
  ∀ other, other ≠ client →
    ∀ held ∈ ledger.locks other, ∀ lock ∈ locks,
      held.conflicts lock = false

/-- Locks of different clients do not exclude, and written rows are locked. -/
structure Proper : Prop where
  exclusive : ∀ client, ledger.Grants client (ledger.locks client)
  guarded :
    ∀ client, ∀ write ∈ ledger.writes client, ∀ resource,
      engine.guard write = some resource →
        Locked (ledger.locks client) resource

/-- Two locks that exclude other writers exclude each other. -/
theorem not_grants_of_locked
    {first second : List (Lock Resource)}
    {resource : Resource}
    (firstLocked : Locked first resource)
    (secondLocked : Locked second resource) :
    ∃ held ∈ first, ∃ lock ∈ second, held.conflicts lock = true := by
  rcases firstLocked with ⟨held, heldMember, heldResource, heldMode⟩
  rcases secondLocked with ⟨lock, lockMember, lockResource, lockMode⟩
  refine ⟨held, heldMember, lock, lockMember, ?_⟩
  rw [Lock.conflicts, heldResource, lockResource,
    LockMode.conflicts_of_ne_keyShare heldMode lockMode]
  simp

namespace Proper

variable
  {engine : Engine σ Write Resource Target Statement Answer}
  {ledger : Ledger Client σ Write Resource}
  {client other : Client}
  {locks : List (Lock Resource)}
  {writes : List Write}
  {resource : Resource}

omit [DecidableEq Client] in
/-- Two clients never lock one resource against other writers. -/
theorem not_both_locked
    (proper : ledger.Proper engine)
    (different : client ≠ other)
    (locked : Locked (ledger.locks client) resource) :
    ¬ Locked (ledger.locks other) resource := by
  intro otherLocked
  rcases not_grants_of_locked locked otherLocked with
    ⟨held, heldMember, lock, lockMember, conflicts⟩
  have granted :=
    proper.exclusive other client different held heldMember lock lockMember
  rw [conflicts] at granted
  cases granted

omit [DecidableEq Client] in
/-- Nobody else wrote a row that a client locks. -/
theorem not_written
    (proper : ledger.Proper engine)
    (different : client ≠ other)
    (locked : Locked (ledger.locks client) resource) :
    ∀ write ∈ ledger.writes other, engine.guard write ≠ some resource :=
  fun write member guarded =>
    proper.not_both_locked different locked
      (proper.guarded other write member resource guarded)

/-- A client may take granted locks and write what they guard. -/
theorem extend
    (proper : ledger.Proper engine)
    (granted : ledger.Grants client locks)
    (guarded :
      ∀ write ∈ writes, ∀ resource, engine.guard write = some resource →
        Locked locks resource) :
    (ledger.extend client locks writes).Proper engine where
  exclusive := by
    intro holder other different held heldMember lock lockMember
    by_cases isClient : holder = client
    · subst isClient
      rw [locks_extend_of_ne different] at heldMember
      rw [locks_extend_self] at lockMember
      rcases List.mem_append.mp lockMember with earlier | new
      · exact proper.exclusive holder other different held heldMember lock
          earlier
      · exact granted other different held heldMember lock new
    · rw [locks_extend_of_ne isClient] at lockMember
      by_cases otherIsClient : other = client
      · subst otherIsClient
        rw [locks_extend_self] at heldMember
        rcases List.mem_append.mp heldMember with earlier | new
        · exact proper.exclusive holder other different held earlier lock
            lockMember
        · have sameTheOtherWay :=
            granted holder isClient lock lockMember held new
          rw [Lock.conflicts_comm]
          exact sameTheOtherWay
      · rw [locks_extend_of_ne otherIsClient] at heldMember
        exact proper.exclusive holder other different held heldMember lock
          lockMember
  guarded := by
    intro holder write member resource guard
    by_cases isClient : holder = client
    · subst isClient
      rw [writes_extend_self] at member
      rw [locks_extend_self]
      rcases List.mem_append.mp member with earlier | new
      · exact (proper.guarded holder write earlier resource guard).mono
          (List.subset_append_left _ _)
      · exact (guarded write new resource guard).mono
          (List.subset_append_right _ _)
    · rw [writes_extend_of_ne isClient] at member
      rw [locks_extend_of_ne isClient]
      exact proper.guarded holder write member resource guard

/-- A client may give up everything. -/
theorem release
    (proper : ledger.Proper engine) :
    (ledger.release client).Proper engine where
  exclusive := by
    intro holder other different held heldMember lock lockMember
    by_cases isClient : holder = client
    · subst isClient
      rw [locks_release_self] at lockMember
      cases lockMember
    · by_cases otherIsClient : other = client
      · subst otherIsClient
        rw [locks_release_self] at heldMember
        cases heldMember
      · rw [locks_release_of_ne isClient] at lockMember
        rw [locks_release_of_ne otherIsClient] at heldMember
        exact proper.exclusive holder other different held heldMember lock
          lockMember
  guarded := by
    intro holder write member resource guard
    by_cases isClient : holder = client
    · subst isClient
      rw [writes_release_self] at member
      cases member
    · rw [writes_release_of_ne isClient] at member
      rw [locks_release_of_ne isClient]
      exact proper.guarded holder write member resource guard

/-- A client may commit; its locks and writes are as if it gave them up. -/
theorem commit
    (proper : ledger.Proper engine) :
    (ledger.commit engine client).Proper engine where
  exclusive := (release proper).exclusive
  guarded := (release proper).guarded

end Proper

end Ledger

/-! ## Observing one resource -/

/-- Something read off one resource: other writes leave it alone. -/
structure Observation
    (engine : Engine σ Write Resource Target Statement Answer)
    (resource : Resource)
    (Seen : Type) where
  observe : σ → Seen
  unguarded :
    ∀ write state, engine.guard write ≠ some resource →
      observe (engine.apply write state) = observe state
  congr :
    ∀ write first second, observe first = observe second →
      observe (engine.apply write first) = observe (engine.apply write second)

namespace Observation

variable
  {engine : Engine σ Write Resource Target Statement Answer}
  {ledger : Ledger Client σ Write Resource}
  {resource : Resource}
  {Seen : Type}
  {client other : Client}
  {writes : List Write}
  (observation : Observation engine resource Seen)

/-- Writes elsewhere leave an observation alone. -/
theorem applyAll_of_unguarded
    (unguarded : ∀ write ∈ writes, engine.guard write ≠ some resource)
    (state : σ) :
    observation.observe (applyAll engine.apply writes state) =
      observation.observe state := by
  induction writes generalizing state with
  | nil =>
      rfl
  | cons write rest inductionHypothesis =>
      rw [applyAll_cons,
        inductionHypothesis
          (fun write member => unguarded write (List.mem_cons_of_mem _ member)),
        observation.unguarded write state
          (unguarded write List.mem_cons_self)]

/-- What is observed after some writes depends on what was observed before. -/
theorem applyAll_congr
    {first second : σ}
    (same : observation.observe first = observation.observe second) :
    observation.observe (applyAll engine.apply writes first) =
      observation.observe (applyAll engine.apply writes second) := by
  induction writes generalizing first second with
  | nil =>
      exact same
  | cons write rest inductionHypothesis =>
      exact inductionHypothesis (observation.congr write first second same)

variable [DecidableEq Client] [DecidableEq Resource]

/-- A locked resource is as it was after anybody else's commit. -/
theorem view_commit_of_locked
    (proper : ledger.Proper engine)
    (different : client ≠ other)
    (locked : Locked (ledger.locks client) resource) :
    observation.observe ((ledger.commit engine other).view engine client) =
        observation.observe (ledger.view engine client) ∧
      observation.observe (ledger.view engine other) =
        observation.observe ledger.committed := by
  have unseen :
      observation.observe (ledger.view engine other) =
        observation.observe ledger.committed :=
    observation.applyAll_of_unguarded
      (proper.not_written different locked) ledger.committed
  rw [Ledger.view_commit_of_ne different]
  exact ⟨observation.applyAll_congr unseen, unseen⟩

/-- A row that a client does not lock is as somebody else committed it. -/
theorem view_commit_of_free
    (proper : ledger.Proper engine)
    (different : client ≠ other)
    (free : ¬ Locked (ledger.locks client) resource) :
    observation.observe (ledger.view engine client) =
        observation.observe ledger.committed ∧
      observation.observe ((ledger.commit engine other).view engine client) =
        observation.observe (ledger.view engine other) := by
  have unwritten :
      ∀ write ∈ ledger.writes client, engine.guard write ≠ some resource :=
    fun write member guard =>
      free (proper.guarded client write member resource guard)
  rw [Ledger.view_commit_of_ne different]
  exact ⟨observation.applyAll_of_unguarded unwritten _,
    observation.applyAll_of_unguarded unwritten _⟩

/--
After a commit, another client observes its own writes as before, or it has
none and observes what was committed.
-/
theorem view_commit_cases
    (proper : ledger.Proper engine)
    (different : client ≠ other) :
    (Locked (ledger.locks client) resource ∧
        observation.observe ((ledger.commit engine other).view engine client) =
          observation.observe (ledger.view engine client) ∧
        observation.observe (ledger.view engine other) =
          observation.observe ledger.committed) ∨
      (observation.observe (ledger.view engine client) =
          observation.observe ledger.committed ∧
        observation.observe ((ledger.commit engine other).view engine client) =
          observation.observe (ledger.view engine other)) := by
  by_cases locked : Locked (ledger.locks client) resource
  · exact .inl ⟨locked, observation.view_commit_of_locked proper different locked⟩
  · exact .inr (observation.view_commit_of_free proper different locked)

end Observation

end Ledger

end Transactional
