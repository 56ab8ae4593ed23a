import EpokAuth.RowHistory

namespace Transactional

/-!
# Locks along a run

A lock that a client holds was taken by a statement of the transaction that is
open, and has been held since.  What is committed of the locked row is what it
was when the lock was taken, in every state on the way; and what the client saw
of the row then is what was committed.
-/

variable
  {Client σ Write Resource Target Statement Failure Call : Type}
  {Answer : Statement → Type}
  {Result : Call → Type}
  {system : System σ Write Resource Target Answer Failure Result}
  [DecidableEq Client]
  [DecidableEq Resource]
  {pool : Client → Call → Prop}
  {start config next before after : Config Client system}
  {client : Client}
  {resource : Resource}
  {event : Event Client system}
  {labels later : List (Event Client system)}

/-- A step with which a client takes a lock that it holds from then on. -/
structure TakesLock
    (pool : Client → Call → Prop)
    (start config : Config Client system)
    (labels : List (Event Client system))
    (client : Client)
    (resource : Resource)
    (before : Config Client system)
    (event : Event Client system)
    (after : Config Client system)
    (later : List (Event Client system)) :
    Prop where
  reached :
    ∃ earlier,
      labels = earlier ++ event :: later ∧ Run (Step pool) start earlier before
  step : Step pool before event after
  goesOn : Run (Step pool) after later config
  isOpen : ∀ other ∈ later, ¬ other.Ends client
  free : ¬ Locked (before.locks client) resource
  locked : Locked (after.locks client) resource

/-- A client whose transaction ends holds no lock. -/
theorem Step.not_locked_of_ends
    (step : Step pool config event next)
    (ends : event.Ends client) :
    ¬ Locked (next.locks client) resource := by
  have none (empty : next.locks client = []) :
      ¬ Locked (next.locks client) resource := by
    rintro ⟨lock, member, _⟩
    rw [empty] at member
    cases member
  rcases ends with rfl | rfl
  · cases step with
    | commit => exact none Ledger.locks_commit_self
  · cases step with
    | rollback => exact none Ledger.locks_release_self

/-- Only a statement of the client takes a lock for it. -/
theorem Step.acts_of_locked
    (step : Step pool config event next)
    (free : ¬ Locked (config.locks client) resource)
    (locked : Locked (next.locks client) resource) :
    event.Acts client := by
  have isOwn : event.client = client := by
    by_contra isOther
    rw [(step.of_other (Ne.symm isOther)).2.2] at locked
    exact free locked
  have isOpen : ¬ event.Ends client := fun ends =>
    step.not_locked_of_ends ends locked
  subst isOwn
  cases step with
  | point => exact .inl ⟨_, rfl⟩
  | visit => exact .inr ⟨_, rfl⟩
  | commit => exact absurd (.inl rfl) isOpen
  | rollback => exact absurd (.inr rfl) isOpen
  | _ => exact absurd locked free

/-- A lock that is held was taken in the open transaction, and held since. -/
theorem exists_takesLock
    (run : Run (Step pool) start labels config)
    (free : ¬ Locked (start.locks client) resource)
    (locked : Locked (config.locks client) resource) :
    ∃ before event after later,
      TakesLock pool start config labels client resource before event after
        later := by
  refine run.accumulates
    (fun earlier state =>
      Locked (state.locks client) resource →
        ∃ before event after later,
          TakesLock pool start state earlier client resource before event
            after later)
    ?_ (fun held => absurd held free) locked
  intro earlier state event next before taking step lockedNow
  by_cases lockedBefore : Locked (state.locks client) resource
  · rcases taking lockedBefore with ⟨taken, taker, after, later, takes⟩
    rcases takes.reached with ⟨first, rfl, run⟩
    refine ⟨taken, taker, after, later ++ [event], ?_⟩
    exact
      { takes with
        reached := ⟨first, by simp, run⟩
        goesOn := takes.goesOn.append (.single step)
        isOpen := by
          intro other member
          rcases List.mem_append.mp member with inLater | isLast
          · exact takes.isOpen other inLater
          · obtain rfl := List.mem_singleton.mp isLast
            exact fun ends => step.not_locked_of_ends ends lockedNow }
  · exact ⟨state, event, next, [],
      { reached := ⟨earlier, rfl, before⟩
        step := step
        goesOn := .nil next
        isOpen := fun _ member => by cases member
        free := lockedBefore
        locked := lockedNow }⟩

namespace TakesLock

variable {Seen : Type}

/-- Taking a lock commits nothing. -/
theorem committed_eq
    (takes :
      TakesLock pool start config labels client resource before event after
        later) :
    after.committed = before.committed := by
  have acts := takes.step.acts_of_locked takes.free takes.locked
  cases takes.step with
  | @commit committer =>
      exact absurd (.inl rfl : Event.Ends committer _) acts.not_ends
  | _ => rfl

/-- What the client sees of the row when it takes the lock is committed. -/
theorem seen
    (takes :
      TakesLock pool start config labels client resource before event after
        later)
    (proper : start.toLedger.Proper system.engine)
    (observation : Observation system.engine resource Seen) :
    observation.observe (before.sees client) =
      observation.observe before.committed := by
  rcases takes.reached with ⟨earlier, _, run⟩
  exact observation.applyAll_of_unguarded
    (fun write member guarded =>
      takes.free
        ((proper_of_run run proper).guarded client write member resource
          guarded))
    before.committed

/-- From then on nobody else commits a change of the row. -/
theorem unchanged
    {first second : List (Event Client system)}
    {middle : Config Client system}
    (takes :
      TakesLock pool start config labels client resource before event after
        later)
    (proper : start.toLedger.Proper system.engine)
    (observation : Observation system.engine resource Seen)
    (splits : later = first ++ second)
    (run : Run (Step pool) after first middle) :
    observation.observe middle.committed =
      observation.observe before.committed := by
  rcases takes.reached with ⟨earlier, _, reached⟩
  have properAfter :=
    takes.step.ledgerChange.proper (proper_of_run reached proper)
  rw [← takes.committed_eq]
  exact (observe_committed_of_run run
    (fun other member =>
      takes.isOpen other (splits ▸ List.mem_append_left second member))
    properAfter takes.locked).2

end TakesLock

end Transactional
