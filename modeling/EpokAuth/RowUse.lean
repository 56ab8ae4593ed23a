import EpokAuth.RowHistory

namespace Transactional

/-!
# A row that is used once

Some calls consist of one statement that uses a row: it finds the row unspent,
locks it and leaves it spent.  Whoever used a row holds it until the
transaction ends, and after a commit everybody sees it spent; so nobody uses it
again, unless the transaction was rolled back or somebody renewed the row.
-/

variable
  {Client σ Write Resource Target Statement Failure Call : Type}
  {Answer : Statement → Type}
  {Result : Call → Type}
  {system : System σ Write Resource Target Answer Failure Result}
  {resource : Resource}
  {Seen : Type}

/-- Calls that use one row: what they answer then, and what they used. -/
structure SingleUse
    (observation : Observation system.engine resource Seen) where
  spent : Seen → Prop
  uses : (call : Call) → Result call → Prop
  takes : (call : Call) → Result call → Seen → Prop
  statement :
    ∀ call value, uses call value →
      ∃ statement following locks effect,
        system.body call = .call statement following ∧
          system.engine.execution statement = .point locks effect ∧
          ∀ view, ∃ value,
            following (effect view).1 = .done value ∧
              (uses call value →
                ¬ spent (observation.observe view) ∧
                  takes call value (observation.observe view) ∧
                  spent
                    (observation.observe
                      (applyAll system.engine.apply (effect view).2 view)) ∧
                  Locked (locks view) resource)

/-- The transaction of a client ends, and the first end is a rollback. -/
def RolledBackFirst
    (client : Client)
    (labels : List (Event Client system)) :
    Prop :=
  ∃ opened rest,
    labels = opened ++ .rollsBack client :: rest ∧
      ∀ event ∈ opened, ¬ event.Ends client

theorem RolledBackFirst.extend
    {client : Client}
    {labels : List (Event Client system)}
    (first : RolledBackFirst client labels)
    (event : Event Client system) :
    RolledBackFirst client (labels ++ [event]) := by
  rcases first with ⟨opened, rest, rfl, isOpen⟩
  exact ⟨opened, rest ++ [event], by simp, isOpen⟩

/-- The transaction of a client ends, and the first end is a commit. -/
def CommittedFirst
    (client : Client)
    (labels : List (Event Client system)) :
    Prop :=
  ∃ opened rest,
    labels = opened ++ .commits client :: rest ∧
      ∀ event ∈ opened, ¬ event.Ends client

/-- A transaction that is rolled back first is not committed first. -/
theorem RolledBackFirst.not_committedFirst
    {client : Client}
    {labels : List (Event Client system)}
    (rolledBack : RolledBackFirst client labels)
    (later : List (Event Client system)) :
    ¬ CommittedFirst client (labels ++ later) := by
  rintro ⟨committing, rest, same, committingOpen⟩
  obtain ⟨leaving, left, rfl, leavingOpen⟩ := rolledBack
  rw [List.append_assoc, List.cons_append] at same
  rcases split_cases same with
    ⟨_, sameEvent, _⟩ | ⟨between, rfl, _⟩ | ⟨between, rfl, _⟩
  · cases sameEvent
  · exact committingOpen (.rollsBack client) (by simp) (.inr rfl)
  · exact leavingOpen (.commits client) (by simp) (.inl rfl)

namespace SingleUse

variable
  {observation : Observation system.engine resource Seen}
  (use : SingleUse observation)

/-- Some answers of the call mean that it used the row. -/
def Tries (call : Call) : Prop :=
  ∃ value, use.uses call value

section Configurations

variable
  [DecidableEq Client]
  [DecidableEq Resource]

/-- A client holds the row, and sees it spent. -/
structure SpentFor (config : Config Client system) (client : Client) :
    Prop where
  locked : Locked (config.locks client) resource
  seen : use.spent (observation.observe (config.sees client))

/-- The row is spent for everybody. -/
structure SpentForAll (config : Config Client system) : Prop where
  committed : use.spent (observation.observe config.committed)
  seen : ∀ client, use.spent (observation.observe (config.sees client))

/-- Somebody makes the spent row one that is not spent. -/
def Renews
    (before : Config Client system)
    (event : Event Client system)
    (after : Config Client system) :
    Prop :=
  ∃ client,
    event.Acts client ∧
      use.spent (observation.observe (before.sees client)) ∧
      ¬ use.spent (observation.observe (after.sees client))

/-- A client uses the row in a call that will answer a value. -/
structure UsedBy
    (client : Client)
    (call : Call)
    (value : Result call)
    (before after : Config Client system) :
    Prop where
  unspent : ¬ use.spent (observation.observe (before.sees client))
  takes : use.takes call value (observation.observe (before.sees client))
  free :
    ∀ other, other ≠ client → ¬ Locked (before.locks other) resource
  spent : use.SpentFor after client

/-- The use is no longer in force: it was rolled back, or the row renewed. -/
def Lapsed
    (pool : Client → Call → Prop)
    (start : Config Client system)
    (client : Client)
    (labels : List (Event Client system)) :
    Prop :=
  RolledBackFirst client labels ∨
    TookSince pool start (fun _ => False) use.Renews labels

/-- What became of a use by a client since then. -/
inductive AfterUse
    (pool : Client → Call → Prop)
    (start : Config Client system)
    (client : Client)
    (labels : List (Event Client system))
    (config : Config Client system) :
    Prop where
  | lapsed (lapsed : use.Lapsed pool start client labels)
  | held
      (isOpen : ∀ event ∈ labels, ¬ event.Ends client)
      (spent : use.SpentFor config client)
  | committed (spent : use.SpentForAll config)

/--
A call that tries to use the row is about to issue its statement, or it is
about to return; if it used the row, something is known of its answer.
-/
def Pending (known : (call : Call) → Result call → Prop) :
    Phase system → Prop
  | .idle => True
  | .issuing call _ program =>
      use.Tries call →
        program = system.body call ∨
          ∃ value,
            program = .done value ∧ (use.uses call value → known call value)
  | .sweeping call _ _ _ _ _ => ¬ use.Tries call

section Steps

variable
  {use}
  {pool : Client → Call → Prop}
  {start config next : Config Client system}
  {client other : Client}
  {event : Event Client system}
  {labels : List (Event Client system)}

theorem Lapsed.extend
    (lapsed : use.Lapsed pool start client labels)
    (event : Event Client system) :
    use.Lapsed pool start client (labels ++ [event]) := by
  rcases lapsed with first | renewed
  · exact .inl (first.extend event)
  · exact .inr (renewed.extend not_false)

omit [DecidableEq Resource] in
theorem Pending.mono
    {known wider : (call : Call) → Result call → Prop}
    {phase : Phase system}
    (pending : use.Pending known phase)
    (weakening : ∀ call value, known call value → wider call value) :
    use.Pending wider phase := by
  cases phase with
  | idle => trivial
  | issuing call before program =>
      intro tries
      rcases pending tries with isBody | ⟨value, isDone, isKnown⟩
      · exact .inl isBody
      · exact .inr ⟨value, isDone, fun used => weakening call value (isKnown used)⟩
  | sweeping => exact pending

/-- A spent row that becomes unspent for a client was renewed by it. -/
theorem renews_of_lost
    (step : Step pool config event next)
    (proper : config.toLedger.Proper system.engine)
    (spent : use.SpentForAll config)
    (lost : ¬ use.spent (observation.observe (next.sees client))) :
    use.Renews config event next := by
  cases step.rowStep proper observation client with
  | kept _ seen => exact absurd (seen ▸ spent.seen client) lost
  | acted acts _ => exact ⟨client, acts, spent.seen client, lost⟩
  | taken other _ _ _ _ seen => exact absurd (seen ▸ spent.seen other) lost
  | landed _ _ seen =>
      rw [seen] at lost
      exact absurd (spent.seen client) lost
  | dropped _ _ seen =>
      rw [seen] at lost
      exact absurd spent.committed lost

/-- A row that is spent for everybody stays so, unless it is renewed. -/
theorem SpentForAll.step
    (spent : use.SpentForAll config)
    (step : Step pool config event next)
    (proper : config.toLedger.Proper system.engine) :
    use.SpentForAll next ∨ use.Renews config event next := by
  by_cases kept :
      ∀ client, use.spent (observation.observe (next.sees client))
  · refine .inl ⟨?_, kept⟩
    cases step with
    | commit => exact spent.seen _
    | _ => exact spent.committed
  · obtain ⟨client, lost⟩ := not_forall.mp kept
    exact .inr (renews_of_lost step proper spent lost)

/-- A row that its client holds stays spent while the client does not act. -/
theorem SpentFor.step
    (spent : use.SpentFor config client)
    (step : Step pool config event next)
    (proper : config.toLedger.Proper system.engine)
    (isOpen : ¬ event.Ends client) :
    use.SpentFor next client ∨ use.Renews config event next := by
  have locked := step.locked_stays isOpen spent.locked
  cases step.rowStep proper observation client with
  | kept _ seen => exact .inl ⟨locked, seen ▸ spent.seen⟩
  | acted acts _ =>
      by_cases kept : use.spent (observation.observe (next.sees client))
      · exact .inl ⟨locked, kept⟩
      · exact .inr ⟨client, acts, spent.seen, kept⟩
  | taken _ _ _ free => exact absurd spent.locked free
  | landed isCommit => exact absurd (.inl isCommit) isOpen
  | dropped isRollback => exact absurd (.inr isRollback) isOpen

/-- A row that its client holds stays spent while somebody else goes on. -/
theorem SpentFor.step_of_other
    (spent : use.SpentFor config client)
    (step : Step pool config event next)
    (proper : config.toLedger.Proper system.engine)
    (isOpen : ¬ event.Ends client)
    (passive : ¬ event.Acts client) :
    use.SpentFor next client := by
  have locked := step.locked_stays isOpen spent.locked
  cases step.rowStep proper observation client with
  | kept _ seen => exact ⟨locked, seen ▸ spent.seen⟩
  | acted acts _ => exact absurd acts passive
  | taken _ _ _ free => exact absurd spent.locked free
  | landed isCommit => exact absurd (.inl isCommit) isOpen
  | dropped isRollback => exact absurd (.inr isRollback) isOpen

/-- When its client commits, everybody sees the row spent. -/
theorem SpentFor.commit
    (spent : use.SpentFor config client)
    (proper : config.toLedger.Proper system.engine) :
    use.SpentForAll (config.conclude client) := by
  refine ⟨spent.seen, fun other => ?_⟩
  by_cases isClient : other = client
  · subst isClient
    have same : (config.conclude other).sees other = config.sees other :=
      Ledger.view_commit_self
    rw [same]
    exact spent.seen
  · -- nobody else locks the row, so that everybody sees what is committed
    have free : ¬ Locked (config.locks other) resource :=
      proper.not_both_locked (Ne.symm isClient) spent.locked
    have taken :
        observation.observe ((config.conclude client).sees other) =
          observation.observe (config.sees client) :=
      (observation.view_commit_of_free proper isClient free).2
    rw [taken]
    exact spent.seen

/-- What became of a use after one more step. -/
theorem AfterUse.step
    (after : use.AfterUse pool start client labels config)
    (run : Run (Step pool) start labels config)
    (step : Step pool config event next)
    (proper : config.toLedger.Proper system.engine) :
    use.AfterUse pool start client (labels ++ [event]) next := by
  cases after with
  | lapsed lapsed => exact .lapsed (lapsed.extend event)
  | committed spent =>
      rcases spent.step step proper with stillSpent | renews
      · exact .committed stillSpent
      · exact .lapsed (.inr (.last run step renews))
  | held isOpen spent =>
      by_cases isCommit : event = .commits client
      · subst isCommit
        cases step with
        | commit => exact .committed (spent.commit proper)
      · by_cases isRollback : event = .rollsBack client
        · subst isRollback
          exact .lapsed (.inl ⟨labels, [], rfl, isOpen⟩)
        · have stillOpen : ¬ event.Ends client := by
            rintro (commits | rollsBack)
            · exact isCommit commits
            · exact isRollback rollsBack
          rcases spent.step step proper stillOpen with stillSpent | renews
          · refine .held ?_ stillSpent
            intro earlier member
            rcases List.mem_append.mp member with before | isEvent
            · exact isOpen earlier before
            · exact List.mem_singleton.mp isEvent ▸ stillOpen
          · exact .lapsed (.inr (.last run step renews))

/-- While a use is in force, nobody can use the row. -/
theorem AfterUse.lapsed_of_used
    {call : Call}
    {value : Result call}
    {later : Config Client system}
    (after : use.AfterUse pool start client labels config)
    (used : use.UsedBy other call value config later) :
    use.Lapsed pool start client labels := by
  cases after with
  | lapsed lapsed => exact lapsed
  | committed spent => exact absurd (spent.seen other) used.unspent
  | held _ spent =>
      by_cases isClient : client = other
      · subst isClient
        exact absurd spent.seen used.unspent
      · exact absurd spent.locked (used.free client isClient)

omit [DecidableEq Client] in
/-- A client whose locks are granted finds the row held by nobody else. -/
theorem free_of_grants
    {locks : List (Lock Resource)}
    (granted : config.toLedger.Grants client locks)
    (locked : Locked locks resource) :
    ∀ other, other ≠ client → ¬ Locked (config.locks other) resource := by
  intro other different held
  rcases Ledger.not_grants_of_locked held locked with
    ⟨lock, member, wanted, wantedMember, conflicts⟩
  have free := granted other different lock member wanted wantedMember
  rw [conflicts] at free
  cases free

/-- A call that tries to use the row issues the one statement it consists of. -/
theorem pending_point
    {known later : (call : Call) → Result call → Prop}
    {call : Call}
    {before : List Write}
    {statement : Statement}
    {following :
      Answer statement → Prog Statement Answer Failure (Result call)}
    {locks : σ → List (Lock Resource)}
    {effect : σ → Answer statement × List Write}
    (pending :
      use.Pending known (.issuing call before (.call statement following)))
    (executes : system.engine.execution statement = .point locks effect)
    (granted :
      config.toLedger.Grants client (locks (config.sees client)))
    (used :
      ∀ value,
        use.UsedBy client call value config
            (config.advance client
              (.issuing call before
                (following (effect (config.sees client)).1))
              (locks (config.sees client)) (effect (config.sees client)).2) →
          later call value) :
    use.Pending later
      (.issuing call before (following (effect (config.sees client)).1)) := by
  intro tries
  rcases pending tries with isBody | ⟨_, isDone, _⟩
  · obtain ⟨tried, usesTried⟩ := tries
    obtain ⟨only, rest, wanted, outcome, body, executesOnly, answers⟩ :=
      use.statement call tried usesTried
    obtain ⟨rfl, sameRest⟩ := Prog.call.inj (isBody.trans body)
    obtain rfl := eq_of_heq sameRest
    obtain ⟨rfl, rfl⟩ := Execution.point.inj (executes.symm.trans executesOnly)
    obtain ⟨value, isDone, uses⟩ := answers (config.sees client)
    refine .inr ⟨value, isDone, fun isUsed => used value ?_⟩
    obtain ⟨unspent, takes, spent, locked⟩ := uses isUsed
    refine ⟨unspent, takes, free_of_grants granted locked, ?_, ?_⟩
    · rw [Config.locks_advance_self]
      exact locked.mono (List.subset_append_right _ _)
    · rw [Config.sees_advance_self]
      exact spent
  · cases isDone

omit [DecidableEq Client] [DecidableEq Resource] in
/-- A call that tries to use the row never sweeps. -/
theorem not_tries_of_sweep
    {known : (call : Call) → Result call → Prop}
    {call : Call}
    {before : List Write}
    {statement : Statement}
    {following :
      Answer statement → Prog Statement Answer Failure (Result call)}
    {targets : σ → List Target}
    {lock : Target → Lock Resource}
    {touch : Target → σ → List Write}
    {answer : Nat → Answer statement}
    (pending :
      use.Pending known (.issuing call before (.call statement following)))
    (executes :
      system.engine.execution statement = .sweep targets lock touch answer) :
    ¬ use.Tries call := by
  intro tries
  rcases pending tries with isBody | ⟨_, isDone, _⟩
  · obtain ⟨tried, usesTried⟩ := tries
    obtain ⟨only, rest, wanted, outcome, body, executesOnly, _⟩ :=
      use.statement call tried usesTried
    obtain ⟨rfl, _⟩ := Prog.call.inj (isBody.trans body)
    cases executes.symm.trans executesOnly
  · cases isDone

/-- What is known of the clients about to return, after one more step. -/
theorem pending_step
    {known later : Client → (call : Call) → Result call → Prop}
    (pending : ∀ client, use.Pending (known client) (config.phases client))
    (step : Step pool config event next)
    (kept :
      ∀ client call value, ¬ event.Ends client → ¬ event.Acts client →
        known client call value → later client call value)
    (used :
      ∀ client call value,
        use.UsedBy client call value config next → later client call value)
    (client : Client) :
    use.Pending (later client) (next.phases client) := by
  by_cases isOther : client ≠ event.client
  · rw [(step.of_other isOther).1]
    refine (pending client).mono fun call value => ?_
    exact kept client call value
      (fun isEnd => isOther (Event.client_of_Ends isEnd).symm)
      fun acts => isOther acts.client_eq.symm
  · obtain rfl := not_not.mp isOther
    have stands := pending event.client
    cases step with
    | calls =>
        dsimp only [Event.client]
        rw [Config.phases_enter_self]
        exact fun _ => .inl rfl
    | point issuing executes granted =>
        dsimp only [Event.client] at stands ⊢
        rw [issuing] at stands
        rw [Config.phases_advance_self]
        exact pending_point stands executes granted (used _ _)
    | sweep issuing executes =>
        dsimp only [Event.client] at stands ⊢
        rw [issuing] at stands
        rw [Config.phases_enter_self]
        exact not_tries_of_sweep stands executes
    | visit sweeping =>
        dsimp only [Event.client] at stands ⊢
        rw [sweeping] at stands
        rw [Config.phases_advance_self]
        exact stands
    | finish sweeping =>
        dsimp only [Event.client] at stands ⊢
        rw [sweeping] at stands
        rw [Config.phases_enter_self]
        exact fun tries => absurd tries stands
    | returned =>
        dsimp only [Event.client]
        rw [Config.phases_enter_self]
        trivial
    | raised =>
        dsimp only [Event.client]
        rw [Config.phases_enter_self]
        trivial
    | @commit committer idle =>
        have stillIdle : (config.conclude committer).phases committer = .idle :=
          idle
        dsimp only [Event.client]
        rw [stillIdle]
        trivial
    | rollback =>
        dsimp only [Event.client]
        rw [Config.phases_abandon_self]
        trivial

omit [DecidableEq Resource] in
/-- Who is idle is not about to return. -/
theorem pending_of_idle
    {known : (call : Call) → Result call → Prop}
    {phase : Phase system}
    (idle : phase = .idle) :
    use.Pending known phase := by
  rw [idle]
  trivial

/-- Whoever is about to return from a use holds the row, and sees it spent. -/
theorem spentFor_of_run
    (run : Run (Step pool) start labels config)
    (proper : start.toLedger.Proper system.engine)
    (idle : ∀ client, start.phases client = .idle) :
    ∀ client,
      use.Pending (fun _ _ => use.SpentFor config client)
        (config.phases client) := by
  refine run.accumulates
    (fun _ state =>
      ∀ client,
        use.Pending (fun _ _ => use.SpentFor state client)
          (state.phases client))
    ?_ fun client => pending_of_idle (idle client)
  intro earlier state event after before pending step
  refine pending_step pending step ?_ fun client call value used => used.spent
  intro client call value isOpen passive spent
  exact spent.step_of_other step (proper_of_run before proper) isOpen passive

/-- What became of a use by a client, in a run that starts after it. -/
theorem afterUse_of_run
    (run : Run (Step pool) start labels config)
    (proper : start.toLedger.Proper system.engine)
    (spent : use.SpentFor start client) :
    use.AfterUse pool start client labels config := by
  refine run.accumulates
    (fun earlier state => use.AfterUse pool start client earlier state) ?_
    (.held (by simp) spent)
  intro earlier state event after before known step
  exact known.step before step (proper_of_run before proper)

/-- Whoever is about to return from another use, the first one has lapsed. -/
theorem lapsed_of_run
    (run : Run (Step pool) start labels config)
    (proper : start.toLedger.Proper system.engine)
    (spent : use.SpentFor start client)
    (others :
      ∀ other,
        use.Pending (fun _ _ => use.Lapsed pool start client [])
          (start.phases other)) :
    ∀ other,
      use.Pending (fun _ _ => use.Lapsed pool start client labels)
        (config.phases other) := by
  refine run.accumulates
    (fun earlier state =>
      ∀ other,
        use.Pending (fun _ _ => use.Lapsed pool start client earlier)
          (state.phases other))
    ?_ others
  intro earlier state event after before pending step
  refine pending_step pending step
    (fun other _ _ _ _ lapsed => lapsed.extend event)
    fun other call value used => ?_
  exact
    ((afterUse_of_run before proper spent).lapsed_of_used used).extend event

/-- What is known of a client about to return is known when it returns. -/
theorem known_of_returned
    {known : (call : Call) → Result call → Prop}
    {call : Call}
    {value : Result call}
    (returns : Step pool config (.returns client call (.ok value)) next)
    (pending : use.Pending known (config.phases client))
    (used : use.uses call value) :
    known call value := by
  cases returns with
  | returned issuing =>
      rw [issuing] at pending
      rcases pending ⟨value, used⟩ with isBody | ⟨answered, isDone, isKnown⟩
      · obtain ⟨_, _, _, _, body, _⟩ := use.statement call value used
        cases isBody.trans body
      · cases isDone
        exact isKnown used

omit use in
/-- A return leaves its client idle, and the rest as it was. -/
theorem returned_enter
    {call : Call}
    {value : Result call}
    (returns : Step pool config (.returns client call (.ok value)) next) :
    next = config.enter client .idle := by
  cases returns with
  | returned => rfl

/-- An answer that means that the row was used tells when it was used. -/
theorem used_of_returned
    {call : Call}
    {value : Result call}
    (run : Run (Step pool) start labels config)
    (idle : ∀ client, start.phases client = .idle)
    (returns : Step pool config (.returns client call (.ok value)) next)
    (used : use.uses call value) :
    TookSince pool start (fun _ => False)
      (fun before _ after => use.UsedBy client call value before after)
      labels := by
  have known :
      ∀ client,
        use.Pending
          (fun call value =>
            TookSince pool start (fun _ => False)
              (fun before _ after => use.UsedBy client call value before after)
              labels)
          (config.phases client) := by
    refine run.accumulates
      (fun earlier state =>
        ∀ client,
          use.Pending
            (fun call value =>
              TookSince pool start (fun _ => False)
                (fun before _ after =>
                  use.UsedBy client call value before after)
                earlier)
            (state.phases client))
      ?_ fun client => pending_of_idle (idle client)
    intro earlier state event after before pending step
    exact pending_step pending step
      (fun _ _ _ _ _ took => took.extend not_false)
      fun _ _ _ used => .last before step used
  exact known_of_returned returns (known client) used

/--
Of two answers that mean that the row was used, the first one is void: its
transaction was rolled back, or the row was renewed since.
-/
theorem used_once
    {call again : Call}
    {value : Result call}
    {otherValue : Result again}
    {earlier middle : List (Event Client system)}
    (run :
      Run (Step pool) start
        (earlier ++ .returns client call (.ok value) ::
          (middle ++ [.returns other again (.ok otherValue)]))
        config)
    (proper : start.toLedger.Proper system.engine)
    (idle : ∀ client, start.phases client = .idle)
    (used : use.uses call value)
    (usedAgain : use.uses again otherValue) :
    RolledBackFirst client middle ∨
      ∃ returned,
        Run (Step pool) start
            (earlier ++ [.returns client call (.ok value)]) returned ∧
          TookSince pool returned (fun _ => False) use.Renews middle := by
  obtain ⟨before, returned, runBefore, returns, runLater⟩ := run.exists_step
  obtain ⟨last, _, runMiddle, returnsAgain, _⟩ := runLater.exists_step
  have runReturned := runBefore.append (.single returns)
  have properReturned := proper_of_run runReturned proper
  have spentBefore :=
    known_of_returned returns (spentFor_of_run runBefore proper idle client)
      used
  have same := returned_enter returns
  have spent : use.SpentFor returned client := by
    rw [same]
    exact ⟨spentBefore.locked, spentBefore.seen⟩
  have others :
      ∀ other,
        use.Pending (fun _ _ => use.Lapsed pool returned client [])
          (returned.phases other) := by
    intro other
    by_cases isClient : other = client
    · refine pending_of_idle ?_
      rw [same, isClient]
      exact Config.phases_enter_self
    · refine (spentFor_of_run runReturned proper idle other).mono ?_
      intro _ _ spentToo
      exact absurd spentToo.locked
        (properReturned.not_both_locked (Ne.symm isClient) spent.locked)
  have lapsed :=
    known_of_returned returnsAgain
      (lapsed_of_run runMiddle properReturned spent others other) usedAgain
  rcases lapsed with rolledBack | renewed
  · exact .inl rolledBack
  · exact .inr ⟨returned, runReturned, renewed⟩

end Steps

end Configurations

end SingleUse

end Transactional
