import EpokAuth.ReadCommitted

namespace Transactional

/-!
# While a transaction is open

Until a client commits or rolls back, its locks stay, and what is committed of
the rows that it locks does not change.  Until its call returns or is rolled
back, the writes that precede the call stay what they were.
-/

variable
  {Client σ Write Resource Target Statement Failure Call : Type}
  {Answer : Statement → Type}
  {Result : Call → Type}
  {system : System σ Write Resource Target Answer Failure Result}

/-- The client's transaction ends. -/
def Event.Ends (client : Client) (event : Event Client system) : Prop :=
  event = .commits client ∨ event = .rollsBack client

/-- Whether the client's transaction ends. -/
def Event.ends
    [DecidableEq Client]
    (client : Client) :
    Event Client system → Bool
  | .commits committer => committer = client
  | .rollsBack leaver => leaver = client
  | _ => false

theorem Event.ends_of_Ends
    [DecidableEq Client]
    {client : Client}
    {event : Event Client system}
    (isEnd : event.Ends client) :
    event.ends client = true := by
  rcases isEnd with rfl | rfl <;> exact decide_eq_true rfl

/-- The client that takes a step. -/
def Event.client : Event Client system → Client
  | .calls client _ => client
  | .issues client _ => client
  | .visits client _ => client
  | .finishes client => client
  | .returns client _ _ => client
  | .commits client => client
  | .rollsBack client => client

/-- Only the client itself ends its transaction. -/
theorem Event.client_of_Ends
    {client : Client}
    {event : Event Client system}
    (isEnd : event.Ends client) :
    event.client = client := by
  rcases isEnd with rfl | rfl
  · rfl
  · rfl

/-- The client's call ends. -/
def Event.Leaves (client : Client) (event : Event Client system) : Prop :=
  event = .rollsBack client ∨
    ∃ call answer, event = .returns client call answer

/-- Whether the client's call ends. -/
def Event.leaves
    [DecidableEq Client]
    (client : Client) :
    Event Client system → Bool
  | .rollsBack leaver => leaver = client
  | .returns caller _ _ => caller = client
  | _ => false

theorem Event.leaves_of_Leaves
    [DecidableEq Client]
    {client : Client}
    {event : Event Client system}
    (leaves : event.Leaves client) :
    event.leaves client = true := by
  rcases leaves with rfl | ⟨call, answer, rfl⟩
  · exact decide_eq_true rfl
  · exact decide_eq_true rfl

/-- What the transaction had written when the call in progress began. -/
def Phase.before? : Phase system → Option (List Write)
  | .idle => none
  | .issuing _ before _ => some before
  | .sweeping _ before _ _ _ _ => some before

/-- The call in progress. -/
def Phase.call? : Phase system → Option Call
  | .idle => none
  | .issuing call _ _ => some call
  | .sweeping call _ _ _ _ _ => some call

section Open

variable
  [DecidableEq Client]
  [DecidableEq Resource]
  {pool : Client → Call → Prop}
  {config next later : Config Client system}
  {client other : Client}
  {event : Event Client system}
  {labels : List (Event Client system)}
  {resource : Resource}

/-- Every run keeps the ledger proper. -/
theorem proper_of_run
    (run : Run (Step pool) config labels later)
    (proper : config.toLedger.Proper system.engine) :
    later.toLedger.Proper system.engine :=
  run.preserves (fun state => state.toLedger.Proper system.engine)
    (fun _ _ _ step proper => step.ledgerChange.proper proper) proper

/-- A step leaves what the other clients are doing, wrote and locked. -/
theorem Step.of_other
    (step : Step pool config event next)
    (different : other ≠ event.client) :
    next.phases other = config.phases other ∧
      next.writes other = config.writes other ∧
      next.locks other = config.locks other := by
  cases step with
  | calls => exact ⟨Config.phases_enter_of_ne different, rfl, rfl⟩
  | sweep => exact ⟨Config.phases_enter_of_ne different, rfl, rfl⟩
  | finish => exact ⟨Config.phases_enter_of_ne different, rfl, rfl⟩
  | returned => exact ⟨Config.phases_enter_of_ne different, rfl, rfl⟩
  | raised => exact ⟨Config.phases_enter_of_ne different, rfl, rfl⟩
  | point =>
      exact ⟨Config.phases_advance_of_ne different,
        Ledger.writes_extend_of_ne different,
        Ledger.locks_extend_of_ne different⟩
  | visit =>
      exact ⟨Config.phases_advance_of_ne different,
        Ledger.writes_extend_of_ne different,
        Ledger.locks_extend_of_ne different⟩
  | commit =>
      exact ⟨rfl, Ledger.writes_commit_of_ne different,
        Ledger.locks_commit_of_ne different⟩
  | rollback =>
      exact ⟨Config.phases_abandon_of_ne different,
        Ledger.writes_release_of_ne different,
        Ledger.locks_release_of_ne different⟩

/-- A lock stays while its transaction is open. -/
theorem Step.locked_stays
    (step : Step pool config event next)
    (isOpen : ¬ event.Ends client)
    (locked : Locked (config.locks client) resource) :
    Locked (next.locks client) resource := by
  have extended :
      ∀ {other : Client} {phase : Phase system}
        {locks : List (Lock Resource)} {writes : List Write},
        Locked ((config.advance other phase locks writes).locks client)
          resource := by
    intro other phase locks writes
    by_cases isClient : client = other
    · subst isClient
      rw [Config.locks_advance_self]
      exact locked.mono (List.subset_append_left _ _)
    · have same :
          (config.advance other phase locks writes).locks client =
            config.locks client :=
        Ledger.locks_extend_of_ne isClient
      rw [same]
      exact locked
  cases step with
  | calls => exact locked
  | point => exact extended
  | sweep => exact locked
  | visit => exact extended
  | finish => exact locked
  | returned => exact locked
  | raised => exact locked
  | @commit committer =>
      have isOther : client ≠ committer := fun same =>
        isOpen (.inl (congrArg Event.commits same.symm))
      have same :
          (config.conclude committer).locks client = config.locks client :=
        Ledger.locks_commit_of_ne isOther
      rw [same]
      exact locked
  | @rollback leaver =>
      have isOther : client ≠ leaver := fun same =>
        isOpen (.inr (congrArg Event.rollsBack same.symm))
      have same :
          (config.abandon leaver).locks client = config.locks client :=
        Ledger.locks_release_of_ne isOther
      rw [same]
      exact locked

/-- Nobody else changes what is committed of a locked row. -/
theorem Step.observe_committed_of_locked
    {Seen : Type}
    {observation : Observation system.engine resource Seen}
    (step : Step pool config event next)
    (isOpen : ¬ event.Ends client)
    (proper : config.toLedger.Proper system.engine)
    (locked : Locked (config.locks client) resource) :
    observation.observe next.committed =
      observation.observe config.committed := by
  cases step with
  | @commit committer =>
      have isOther : client ≠ committer := fun same =>
        isOpen (.inl (congrArg Event.commits same.symm))
      exact observation.applyAll_of_unguarded
        (proper.not_written isOther locked) config.committed
  | _ => rfl

/-- While its transaction is open, the rows a client locks stay as committed. -/
theorem observe_committed_of_run
    {Seen : Type}
    {observation : Observation system.engine resource Seen}
    (run : Run (Step pool) config labels later)
    (isOpen : ∀ event ∈ labels, ¬ event.Ends client)
    (proper : config.toLedger.Proper system.engine)
    (locked : Locked (config.locks client) resource) :
    Locked (later.locks client) resource ∧
      observation.observe later.committed =
        observation.observe config.committed := by
  have kept :=
    run.preserves_along
      (fun state =>
        state.toLedger.Proper system.engine ∧
          Locked (state.locks client) resource ∧
          observation.observe state.committed =
            observation.observe config.committed)
      (fun state event next member step held =>
        ⟨step.ledgerChange.proper held.1,
          step.locked_stays (isOpen event member) held.2.1,
          (step.observe_committed_of_locked (isOpen event member) held.1
            held.2.1).trans held.2.2⟩)
      ⟨proper, locked, rfl⟩
  exact kept.2

/-- What precedes a call stays what it was until the call ends. -/
theorem Step.before_kept
    {before : List Write}
    (step : Step pool config event next)
    (stays : ¬ event.Leaves client)
    (isBefore : (config.phases client).before? = some before) :
    (next.phases client).before? = some before := by
  have entered :
      ∀ {other : Client} {phase : Phase system},
        (other = client → phase.before? = some before) →
          ((config.enter other phase).phases client).before? = some before := by
    intro other phase kept
    by_cases isClient : client = other
    · subst isClient
      rw [Config.phases_enter_self]
      exact kept rfl
    · rw [Config.phases_enter_of_ne isClient]
      exact isBefore
  -- The phases of one call share what precedes it.
  have continued :
      ∀ {other : Client} {phase following : Phase system},
        config.phases other = phase → following.before? = phase.before? →
          ((config.enter other following).phases client).before? =
            some before := by
    intro other phase following isPhase same
    refine entered fun isClient => ?_
    rw [same, ← isPhase, isClient]
    exact isBefore
  cases step with
  | calls idle =>
      refine entered fun isClient => ?_
      rw [← isClient, idle] at isBefore
      cases isBefore
  | point issuing => exact continued issuing rfl
  | sweep issuing => exact continued issuing rfl
  | visit sweeping => exact continued sweeping rfl
  | finish sweeping => exact continued sweeping rfl
  | returned =>
      refine entered fun isClient => ?_
      subst isClient
      exact (stays (.inr ⟨_, _, rfl⟩)).elim
  | raised =>
      refine entered fun isClient => ?_
      subst isClient
      exact (stays (.inr ⟨_, _, rfl⟩)).elim
  | commit => exact isBefore
  | @rollback leaver =>
      have isOther : client ≠ leaver := fun same =>
        stays (.inl (congrArg Event.rollsBack same.symm))
      rw [Config.phases_abandon_of_ne isOther]
      exact isBefore

/-- Calls in progress come from the pool. -/
theorem Step.calls_allowed
    (step : Step pool config event next)
    (allowed :
      ∀ client call, (config.phases client).call? = some call →
        pool client call) :
    ∀ client call, (next.phases client).call? = some call →
      pool client call := by
  have entered :
      ∀ {other : Client} {phase : Phase system},
        (∀ call, phase.call? = some call → pool other call) →
          ∀ client call,
            ((config.enter other phase).phases client).call? = some call →
              pool client call := by
    intro other phase permitted client call isCall
    by_cases isClient : client = other
    · subst isClient
      rw [Config.phases_enter_self] at isCall
      exact permitted call isCall
    · rw [Config.phases_enter_of_ne isClient] at isCall
      exact allowed client call isCall
  have continued :
      ∀ {other : Client} {phase following : Phase system},
        config.phases other = phase → following.call? = phase.call? →
          ∀ client call,
            ((config.enter other following).phases client).call? =
                some call →
              pool client call := by
    intro other phase following isPhase same
    refine entered fun call isCall => allowed other call ?_
    rw [isPhase, ← same]
    exact isCall
  cases step with
  | calls idle permitted =>
      refine entered fun call isCall => ?_
      obtain rfl := Option.some.inj isCall
      exact permitted
  | point issuing => exact continued issuing rfl
  | sweep issuing => exact continued issuing rfl
  | visit sweeping => exact continued sweeping rfl
  | finish sweeping => exact continued sweeping rfl
  | returned => exact entered fun _ isCall => nomatch isCall
  | raised => exact entered fun _ isCall => nomatch isCall
  | commit => exact allowed
  | @rollback leaver =>
      intro client call isCall
      by_cases isLeaver : client = leaver
      · subst isLeaver
        rw [Config.phases_abandon_self] at isCall
        cases isCall
      · rw [Config.phases_abandon_of_ne isLeaver] at isCall
        exact allowed client call isCall

theorem before_of_run
    {before : List Write}
    (run : Run (Step pool) config labels later)
    (stays : ∀ event ∈ labels, ¬ event.Leaves client)
    (isBefore : (config.phases client).before? = some before) :
    (later.phases client).before? = some before :=
  run.preserves_along
    (fun state => (state.phases client).before? = some before)
    (fun _ event _ member step kept =>
      step.before_kept (stays event member) kept)
    isBefore

end Open

end Transactional
