import EpokAuth.OpenTransaction
import EpokAuth.StatementContract

namespace Transactional

/-!
# Transactions of a single call

Some clients run one call as a transaction of their own: they commit when the
call returned, and roll back when it raised or was interrupted.  Between its
return and its end, a call keeps what it promised of what its client sees.  The
other clients call, commit and roll back as they like.
-/

variable
  {Client σ Write Resource Target Statement Failure Call : Type}
  {Answer : Statement → Type}
  {Result : Call → Type}

/-- How far a client has come with its transaction. -/
inductive Progress (Failure : Type) {Call : Type} (Result : Call → Type) where
  /-- The client is not bound to a single call. -/
  | free
  | waiting
  | running (call : Call)
  | returned (call : Call) (answer : Except Failure (Result call))
  | committed (call : Call) (value : Result call)
  | abandoned (call : Call) (answer : Option (Except Failure (Result call)))

/-- The clients of a database, and how far they have come. -/
structure Jobs
    (Client : Type)
    (system : System σ Write Resource Target Answer Failure Result) extends
    Config Client system where
  progress : Client → Progress Failure Result

variable
  {system : System σ Write Resource Target Answer Failure Result}

/-- A client that runs no call has neither written nor locked anything. -/
structure Config.Clear (config : Config Client system) (client : Client) :
    Prop where
  idle : config.phases client = .idle
  writes : config.writes client = []
  locks : config.locks client = []

section Jobs

variable [DecidableEq Client]

/-- How a step advances the client that takes it. -/
inductive Progress.Moves
    (progress : Client → Progress Failure Result) :
    Event Client system → (Client → Progress Failure Result) → Prop where
  | free
      {event : Event Client system}
      (isFree : progress event.client = .free) :
      Moves progress event progress
  | calls
      {client : Client}
      {call : Call}
      (waiting : progress client = .waiting) :
      Moves progress (.calls client call)
        (Function.update progress client (.running call))
  | issues {client : Client} {statement : Statement} :
      Moves progress (.issues client statement) progress
  | visits {client : Client} {target : Target} :
      Moves progress (.visits client target) progress
  | finishes {client : Client} :
      Moves progress (.finishes client) progress
  | returns
      {client : Client}
      {call : Call}
      {answer : Except Failure (Result call)}
      (running : progress client = .running call) :
      Moves progress (.returns client call answer)
        (Function.update progress client (.returned call answer))
  | commits
      {client : Client}
      {call : Call}
      {value : Result call}
      (returned : progress client = .returned call (.ok value)) :
      Moves progress (.commits client)
        (Function.update progress client (.committed call value))
  | interrupted
      {client : Client}
      {call : Call}
      (running : progress client = .running call) :
      Moves progress (.rollsBack client)
        (Function.update progress client (.abandoned call none))
  | abandons
      {client : Client}
      {call : Call}
      {answer : Except Failure (Result call)}
      (returned : progress client = .returned call answer) :
      Moves progress (.rollsBack client)
        (Function.update progress client (.abandoned call (some answer)))

/-- A step of clients that make the calls of a pool, on their own or freely. -/
structure JobStep
    [DecidableEq Resource]
    (pool : Client → Call → Prop)
    (jobs : Jobs Client system)
    (event : Event Client system)
    (next : Jobs Client system) :
    Prop where
  step : Step pool jobs.toConfig event next.toConfig
  moves : Progress.Moves jobs.progress event next.progress

/-- No client has begun; some are bound to a single call. -/
def Jobs.start (committed : σ) (bound : Client → Bool) : Jobs Client system where
  toConfig := .quiescent committed
  progress := fun client => if bound client then .waiting else .free

/-- The other clients stay where they are. -/
theorem Progress.Moves.of_other
    {progress later : Client → Progress Failure Result}
    {event : Event Client system}
    {other : Client}
    (moves : Progress.Moves progress event later)
    (different : other ≠ event.client) :
    later other = progress other := by
  cases moves with
  | free => rfl
  | issues => rfl
  | visits => rfl
  | finishes => rfl
  | calls => exact Function.update_of_ne different ..
  | returns => exact Function.update_of_ne different ..
  | commits => exact Function.update_of_ne different ..
  | interrupted => exact Function.update_of_ne different ..
  | abandons => exact Function.update_of_ne different ..

/-- Clients stay free, or bound to their call. -/
theorem Progress.Moves.free_iff
    {progress later : Client → Progress Failure Result}
    {event : Event Client system}
    (moves : Progress.Moves progress event later)
    (client : Client) :
    later client = .free ↔ progress client = .free := by
  by_cases isClient : client = event.client
  · subst isClient
    cases moves with
    | free => exact Iff.rfl
    | issues => exact Iff.rfl
    | visits => exact Iff.rfl
    | finishes => exact Iff.rfl
    | calls waiting => simp [Event.client, waiting]
    | returns running => simp [Event.client, running]
    | commits returned => simp [Event.client, returned]
    | interrupted running => simp [Event.client, running]
    | abandons returned => simp [Event.client, returned]
  · rw [moves.of_other isClient]

/-- The call that a client makes, or made. -/
def Progress.call? : Progress Failure Result → Option Call
  | .free => none
  | .waiting => none
  | .running call => some call
  | .returned call _ => some call
  | .committed call _ => some call
  | .abandoned call _ => some call

/-- A client makes no other call after its own. -/
theorem Progress.Moves.call_kept
    {progress later : Client → Progress Failure Result}
    {event : Event Client system}
    {client : Client}
    {call : Call}
    (moves : Progress.Moves progress event later)
    (isCall : (progress client).call? = some call) :
    (later client).call? = some call := by
  by_cases isClient : client = event.client
  · subst isClient
    cases moves with
    | free => exact isCall
    | issues => exact isCall
    | visits => exact isCall
    | finishes => exact isCall
    | calls waiting =>
        simp [Event.client, waiting, Progress.call?] at isCall
    | returns running =>
        simpa [Event.client, running, Progress.call?] using isCall
    | commits returned =>
        simpa [Event.client, returned, Progress.call?] using isCall
    | interrupted running =>
        simpa [Event.client, running, Progress.call?] using isCall
    | abandons returned =>
        simpa [Event.client, returned, Progress.call?] using isCall
  · rw [moves.of_other isClient]
    exact isCall

/-- A client that has committed is done. -/
theorem Progress.Moves.committed_kept
    {progress later : Client → Progress Failure Result}
    {event : Event Client system}
    {client : Client}
    {call : Call}
    {value : Result call}
    (moves : Progress.Moves progress event later)
    (committed : progress client = .committed call value) :
    later client = .committed call value := by
  by_cases isClient : client = event.client
  · subst isClient
    cases moves with
    | free => exact committed
    | issues => exact committed
    | visits => exact committed
    | finishes => exact committed
    | calls waiting => cases waiting.symm.trans committed
    | returns running => cases running.symm.trans committed
    | commits returned => cases returned.symm.trans committed
    | interrupted running => cases running.symm.trans committed
    | abandons returned => cases returned.symm.trans committed
  · rw [moves.of_other isClient]
    exact committed

/-- Clients make calls of the pool. -/
theorem JobStep.calls_allowed
    [DecidableEq Resource]
    {pool : Client → Call → Prop}
    {jobs next : Jobs Client system}
    {event : Event Client system}
    (step : JobStep pool jobs event next)
    (allowed :
      ∀ client call, (jobs.progress client).call? = some call →
        pool client call) :
    ∀ client call, (next.progress client).call? = some call →
      pool client call := by
  obtain ⟨isStep, moves⟩ := step
  generalize jobs.progress = progress at allowed moves
  generalize next.progress = later at moves
  have updated :
      ∀ {other : Client} {now : Progress Failure Result},
        (∀ call, now.call? = some call → pool other call) →
          ∀ client call,
            (Function.update progress other now client).call? = some call →
              pool client call := by
    intro other now permitted client call isCall
    by_cases isClient : client = other
    · subst isClient
      rw [Function.update_self] at isCall
      exact permitted call isCall
    · rw [Function.update_of_ne isClient] at isCall
      exact allowed client call isCall
  cases moves with
  | free => exact allowed
  | issues => exact allowed
  | visits => exact allowed
  | finishes => exact allowed
  | @calls client call waiting =>
      refine updated fun other isCall => ?_
      obtain rfl := Option.some.inj isCall
      generalize jobs.toConfig = config at isStep
      generalize next.toConfig = final at isStep
      cases isStep with
      | calls idle permitted => exact permitted
  | @returns client call answer running =>
      exact updated fun other isCall =>
        allowed client other (running ▸ isCall)
  | @commits client call value returned =>
      exact updated fun other isCall =>
        allowed client other (returned ▸ isCall)
  | @interrupted client call running =>
      exact updated fun other isCall =>
        allowed client other (running ▸ isCall)
  | @abandons client call answer returned =>
      exact updated fun other isCall =>
        allowed client other (returned ▸ isCall)

end Jobs

/-! ## Steps of other clients -/

section Others

variable
  [DecidableEq Client]
  [DecidableEq Resource]
  {pool : Client → Call → Prop}
  {config next : Config Client system}
  {event : Event Client system}
  {other : Client}

/-- A client that runs no call stays so while others go on. -/
theorem Config.Clear.of_other
    (clear : config.Clear other)
    (step : Step pool config event next)
    (different : other ≠ event.client) :
    next.Clear other := by
  obtain ⟨phases, writes, locks⟩ := step.of_other different
  exact ⟨phases.trans clear.idle, writes.trans clear.writes,
    locks.trans clear.locks⟩

/-- A step of another client leaves a client where it stands. -/
theorem Contract.Stands.of_other
    {contract : Contract system}
    {promise : Contract.Promise σ Write Resource Failure Result}
    {admits : Statement → Prop}
    {invariant : Ledger Client σ Write Resource → Prop}
    {phase : Phase system}
    (sound : contract.Sound promise pool admits invariant)
    (holds : contract.Holds promise invariant config)
    (stands : contract.Stands promise config other phase)
    (step : Step pool config event next)
    (different : other ≠ event.client) :
    contract.Stands promise next other phase := by
  cases step with
  | calls => exact stands.of_unmoved rfl rfl rfl
  | sweep => exact stands.of_unmoved rfl rfl rfl
  | finish => exact stands.of_unmoved rfl rfl rfl
  | returned => exact stands.of_unmoved rfl rfl rfl
  | raised => exact stands.of_unmoved rfl rfl rfl
  | point =>
      exact stands.of_unmoved (Ledger.writes_extend_of_ne different)
        (Ledger.locks_extend_of_ne different)
        (Ledger.view_extend_of_ne different)
  | visit =>
      exact stands.of_unmoved (Ledger.writes_extend_of_ne different)
        (Ledger.locks_extend_of_ne different)
        (Ledger.view_extend_of_ne different)
  | @commit committer =>
      exact stands.congr (Ledger.writes_commit_of_ne different)
        (Ledger.locks_commit_of_ne different)
        (sound.relied _ other committer holds.proper holds.invariant
          different)
  | rollback =>
      exact stands.of_unmoved (Ledger.writes_release_of_ne different)
        (Ledger.locks_release_of_ne different)
        (Ledger.view_release_of_ne different)

end Others

/-! ## What clients attend to -/

namespace Contract

section Attending

variable
  (contract : Contract system)
  (promise : Promise σ Write Resource Failure Result)
  (config : Config Client system)
  (client : Client)

/-- Where a client may be with its transaction. -/
inductive Attends : Progress Failure Result → Prop where
  | free : Attends .free
  | waiting (clear : config.Clear client) : Attends .waiting
  | running
      {call : Call}
      (isCall : (config.phases client).call? = some call)
      (isFirst : (config.phases client).before? = some []) :
      Attends (.running call)
  | returned
      {call : Call}
      {answer : Except Failure (Result call)}
      (idle : config.phases client = .idle)
      (stands :
        contract.Stands promise config client
          (.issuing call [] (Prog.ofExcept answer))) :
      Attends (.returned call answer)
  | committed
      {call : Call}
      {value : Result call}
      (clear : config.Clear client) :
      Attends (.committed call value)
  | abandoned
      {call : Call}
      {answer : Option (Except Failure (Result call))}
      (clear : config.Clear client) :
      Attends (.abandoned call answer)

end Attending

/-- What a call promised when it returned, of what its client sees now. -/
theorem Attends.promised
    {contract : Contract system}
    {promise : Promise σ Write Resource Failure Result}
    {config : Config Client system}
    {client : Client}
    {call : Call}
    {answer : Except Failure (Result call)}
    (attends : contract.Attends promise config client (.returned call answer)) :
    ∃ seen,
      contract.rely (config.locks client) seen (config.sees client) ∧
        promise call answer
          { view := seen
            locks := config.locks client
            issued := config.writes client } := by
  cases attends with
  | returned idle stands =>
      cases stands with
      | issuing written relies keeps =>
          rw [List.nil_append] at written
          rw [written]
          cases answer with
          | ok value => exact ⟨_, relies, keeps⟩
          | error failure => exact ⟨_, relies, keeps⟩

/-- Everything that holds while clients run their calls. -/
structure Serves
    [DecidableEq Client]
    [DecidableEq Resource]
    (contract : Contract system)
    (promise : Promise σ Write Resource Failure Result)
    (invariant : Ledger Client σ Write Resource → Prop)
    (jobs : Jobs Client system) :
    Prop where
  holds : contract.Holds promise invariant jobs.toConfig
  attends :
    ∀ client,
      contract.Attends promise jobs.toConfig client (jobs.progress client)

section Preservation

variable
  [DecidableEq Client]
  [DecidableEq Resource]
  {contract : Contract system}
  {promise : Promise σ Write Resource Failure Result}
  {pool : Client → Call → Prop}
  {admits : Statement → Prop}
  {invariant : Ledger Client σ Write Resource → Prop}
  {config next : Config Client system}
  {client : Client}
  {event : Event Client system}
  {progress : Progress Failure Result}

omit [DecidableEq Client] [DecidableEq Resource] in
/-- A bound client that has called runs its call. -/
theorem Attends.runs
    {call : Call}
    (attends : contract.Attends promise config client progress)
    (bound : progress ≠ .free)
    (isCall : (config.phases client).call? = some call) :
    progress = .running call ∧
      (config.phases client).before? = some [] := by
  cases attends with
  | free => exact absurd rfl bound
  | running isCallToo isFirst =>
      obtain rfl := Option.some.inj (isCall.symm.trans isCallToo)
      exact ⟨rfl, isFirst⟩
  | waiting clear =>
      rw [clear.idle] at isCall
      cases isCall
  | returned idle =>
      rw [idle] at isCall
      cases isCall
  | committed clear =>
      rw [clear.idle] at isCall
      cases isCall
  | abandoned clear =>
      rw [clear.idle] at isCall
      cases isCall

omit [DecidableEq Client] [DecidableEq Resource] in
/-- A bound client goes on with its call. -/
theorem Attends.continues
    {phase later : Phase system}
    {call : Call}
    (attends : contract.Attends promise config client progress)
    (bound : progress ≠ .free)
    (isPhase : config.phases client = phase)
    (isLater : next.phases client = later)
    (isCall : phase.call? = some call)
    (sameCall : later.call? = phase.call?)
    (sameBefore : later.before? = phase.before?) :
    contract.Attends promise next client progress := by
  obtain ⟨rfl, isFirst⟩ := attends.runs bound (isPhase ▸ isCall)
  refine .running ?_ ?_
  · rw [isLater, sameCall, isCall]
  · rw [isLater, sameBefore, ← isPhase, isFirst]

omit [DecidableEq Resource] in
/-- A call that returns or raises leaves its client with its promise. -/
theorem Attends.returns
    {call : Call}
    {before : List Write}
    {answer : Except Failure (Result call)}
    (attends : contract.Attends promise config client progress)
    (bound : progress ≠ .free)
    (issuing :
      config.phases client = .issuing call before (Prog.ofExcept answer))
    (stands :
      contract.Stands promise config client
        (.issuing call before (Prog.ofExcept answer))) :
    contract.Attends promise (config.enter client .idle) client
      (.returned call answer) := by
  have isCall : (config.phases client).call? = some call := by
    rw [issuing]
    rfl
  have isFirst := (attends.runs bound isCall).2
  rw [issuing] at isFirst
  obtain rfl := Option.some.inj isFirst
  exact .returned Config.phases_enter_self (stands.of_unmoved rfl rfl rfl)

omit [DecidableEq Resource] in
/-- Who gives up has neither written nor locked anything any more. -/
theorem clear_abandon : (config.abandon client).Clear client :=
  ⟨Config.phases_abandon_self, Ledger.writes_release_self,
    Ledger.locks_release_self⟩

omit [DecidableEq Resource] in
/-- The client that takes a step is where it goes. -/
theorem Attends.update
    {before : Client → Progress Failure Result}
    (attends : contract.Attends promise config client progress) :
    contract.Attends promise config client
      (Function.update before client progress client) := by
  rw [Function.update_self]
  exact attends

/-- The client that takes a step attends to its transaction afterwards. -/
theorem Attends.step
    {before later : Client → Progress Failure Result}
    (holds : contract.Holds promise invariant config)
    (attends :
      contract.Attends promise config event.client (before event.client))
    (step : Step pool config event next)
    (moves : Progress.Moves before event later) :
    contract.Attends promise next event.client (later event.client) := by
  by_cases bound : before event.client = .free
  · rw [(moves.free_iff event.client).mpr bound]
    exact .free
  cases step with
  | @calls client call idle allowed =>
      cases moves with
      | free isFree => exact absurd isFree bound
      | calls waiting =>
          change contract.Attends promise config client (before client)
            at attends
          rw [waiting] at attends
          refine .update ?_
          cases attends with
          | waiting clear =>
              refine .running ?_ ?_
              · rw [Event.client, Config.phases_enter_self]
                rfl
              · rw [Event.client, Config.phases_enter_self, clear.writes]
                rfl
  | point issuing executes granted =>
      cases moves with
      | free isFree => exact absurd isFree bound
      | issues =>
          exact attends.continues bound issuing Config.phases_advance_self rfl
            rfl rfl
  | sweep issuing executes =>
      cases moves with
      | free isFree => exact absurd isFree bound
      | issues =>
          exact attends.continues bound issuing Config.phases_enter_self rfl
            rfl rfl
  | visit sweeping executes granted =>
      cases moves with
      | free isFree => exact absurd isFree bound
      | visits =>
          exact attends.continues bound sweeping Config.phases_advance_self
            rfl rfl rfl
  | finish sweeping executes =>
      cases moves with
      | free isFree => exact absurd isFree bound
      | finishes =>
          exact attends.continues bound sweeping Config.phases_enter_self rfl
            rfl rfl
  | returned issuing =>
      cases moves with
      | free isFree => exact absurd isFree bound
      | returns =>
          exact .update
            (attends.returns bound issuing (holds.stands_in issuing))
  | raised issuing =>
      cases moves with
      | free isFree => exact absurd isFree bound
      | returns =>
          exact .update
            (attends.returns bound issuing (holds.stands_in issuing))
  | commit idle =>
      cases moves with
      | free isFree => exact absurd isFree bound
      | commits returned =>
          exact .update
            (.committed
              ⟨idle, Ledger.writes_commit_self, Ledger.locks_commit_self⟩)
  | rollback =>
      cases moves with
      | free isFree => exact absurd isFree bound
      | interrupted running => exact .update (.abandoned clear_abandon)
      | abandons returned => exact .update (.abandoned clear_abandon)

/-- The other clients attend to what they attended to. -/
theorem Attends.of_other
    {other : Client}
    (sound : contract.Sound promise pool admits invariant)
    (holds : contract.Holds promise invariant config)
    (attends : contract.Attends promise config other progress)
    (step : Step pool config event next)
    (different : other ≠ event.client) :
    contract.Attends promise next other progress := by
  have phases := (step.of_other different).1
  cases attends with
  | free => exact .free
  | waiting clear => exact .waiting (clear.of_other step different)
  | running isCall isFirst =>
      rw [← phases] at isCall isFirst
      exact .running isCall isFirst
  | returned idle stands =>
      exact .returned (phases.trans idle)
        (stands.of_other sound holds step different)
  | committed clear => exact .committed (clear.of_other step different)
  | abandoned clear => exact .abandoned (clear.of_other step different)

/-- Every step of clients that run their calls preserves what holds. -/
theorem Serves.step
    {jobs later : Jobs Client system}
    (sound : contract.Sound promise pool admits invariant)
    (serves : contract.Serves promise invariant jobs)
    (admitted : event.Admitted admits)
    (step : JobStep pool jobs event later) :
    contract.Serves promise invariant later where
  holds := serves.holds.step sound admitted step.step
  attends := by
    intro client
    by_cases isClient : client = event.client
    · subst isClient
      exact (serves.attends event.client).step serves.holds step.step
        step.moves
    · rw [step.moves.of_other isClient]
      exact (serves.attends client).of_other sound serves.holds step.step
        isClient

omit [DecidableEq Resource] in
/-- Before anybody has begun, everything holds. -/
theorem Serves.start
    [DecidableEq Resource]
    {committed : σ}
    {bound : Client → Bool}
    (established :
      invariant
        (Config.quiescent committed : Config Client system).toLedger) :
    contract.Serves promise invariant
      (Jobs.start committed bound : Jobs Client system) where
  holds := .quiescent established
  attends := by
    intro client
    change contract.Attends promise _ client
      (if bound client then .waiting else .free)
    split
    · exact .waiting ⟨rfl, rfl, rfl⟩
    · exact .free

/-- What holds before anybody has begun holds in every run. -/
theorem Serves.run
    {jobs later : Jobs Client system}
    {labels : List (Event Client system)}
    (sound : contract.Sound promise pool admits invariant)
    (serves : contract.Serves promise invariant jobs)
    (admitted : ∀ event ∈ labels, event.Admitted admits)
    (run : Run (JobStep pool) jobs labels later) :
    contract.Serves promise invariant later :=
  run.preserves_along (contract.Serves promise invariant)
    (fun _ event _ member step serves =>
      Serves.step sound serves (admitted event member) step)
    serves

end Preservation

end Contract

end Transactional
