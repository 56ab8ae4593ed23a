import EpokAuth.LabelledRun
import EpokAuth.LockLedger

namespace Transactional

/-!
# Concurrent transactions under read committed

Any number of clients run transactions on one database.  A transaction makes
calls, each of which issues statements; what a statement sees is committed or
written by its own transaction, and it waits for the locks it needs.  A sweep
chooses its rows once and then visits them in any order, looking at each again
when its lock is granted.  A caller may go on after a call that raised, commit
between calls, and roll back at any time.

A transaction of a single call that commits when the call returned and rolls
back when it raised is one such transaction; a transaction that is lent to
several calls is another.
-/

/-- A database whose statements are issued by the bodies of calls. -/
structure System
    (σ Write Resource Target : Type)
    {Statement : Type}
    (Answer : Statement → Type)
    (Failure : Type)
    {Call : Type}
    (Result : Call → Type) where
  engine : Engine σ Write Resource Target Statement Answer
  guards : engine.Guards
  body : (call : Call) → Prog Statement Answer Failure (Result call)

variable
  {Client σ Write Resource Target Statement Failure Call : Type}
  {Answer : Statement → Type}
  {Result : Call → Type}

/--
What a client is doing; during a call, `before` lists what its transaction had
written when the call began.
-/
inductive Phase
    (system : System σ Write Resource Target Answer Failure Result) where
  | idle
  | issuing
      (call : Call)
      (before : List Write)
      (program : Prog Statement Answer Failure (Result call))
  | sweeping
      (call : Call)
      (before : List Write)
      (statement : Statement)
      (pending : List Target)
      (visited : Nat)
      (next : Answer statement → Prog Statement Answer Failure (Result call))

/-- The clients of a database, and what each has written and locked. -/
structure Config
    (Client : Type)
    (system : System σ Write Resource Target Answer Failure Result) extends
    Ledger Client σ Write Resource where
  phases : Client → Phase system

/-- What can be observed of a step. -/
inductive Event
    (Client : Type)
    (system : System σ Write Resource Target Answer Failure Result) where
  | calls (client : Client) (call : Call)
  | issues (client : Client) (statement : Statement)
  | visits (client : Client) (target : Target)
  | finishes (client : Client)
  | returns
      (client : Client)
      (call : Call)
      (answer : Except Failure (Result call))
  | commits (client : Client)
  | rollsBack (client : Client)

section Steps

variable
  [DecidableEq Client]
  {system : System σ Write Resource Target Answer Failure Result}

namespace Config

/-- What a client sees. -/
def sees (config : Config Client system) (client : Client) : σ :=
  config.toLedger.view system.engine client

/-- A client goes on to another phase. -/
def enter
    (config : Config Client system)
    (client : Client)
    (phase : Phase system) :
    Config Client system where
  toLedger := config.toLedger
  phases := Function.update config.phases client phase

/-- A client writes rows, takes locks and goes on to another phase. -/
def advance
    (config : Config Client system)
    (client : Client)
    (phase : Phase system)
    (locks : List (Lock Resource))
    (writes : List Write) :
    Config Client system where
  toLedger := config.toLedger.extend client locks writes
  phases := Function.update config.phases client phase

/-- A client commits its transaction. -/
def conclude
    (config : Config Client system)
    (client : Client) :
    Config Client system where
  toLedger := config.toLedger.commit system.engine client
  phases := config.phases

/-- A client abandons its transaction. -/
def abandon
    (config : Config Client system)
    (client : Client) :
    Config Client system where
  toLedger := config.toLedger.release client
  phases := Function.update config.phases client .idle

/-- A database on which no transaction is running. -/
def quiescent (committed : σ) : Config Client system where
  committed := committed
  writes := fun _ => []
  locks := fun _ => []
  phases := fun _ => .idle

section Advance

variable
  {config : Config Client system}
  {client other : Client}
  {phase : Phase system}
  {locks : List (Lock Resource)}
  {writes : List Write}

theorem sees_advance_self :
    (config.advance client phase locks writes).sees client =
      applyAll system.engine.apply writes (config.sees client) :=
  Ledger.view_extend_self

theorem locks_advance_self :
    (config.advance client phase locks writes).locks client =
      config.locks client ++ locks :=
  Ledger.locks_extend_self

theorem writes_advance_self :
    (config.advance client phase locks writes).writes client =
      config.writes client ++ writes :=
  Ledger.writes_extend_self

@[simp] theorem phases_enter_self :
    (config.enter client phase).phases client = phase :=
  Function.update_self ..

@[simp] theorem phases_advance_self :
    (config.advance client phase locks writes).phases client = phase :=
  Function.update_self ..

theorem phases_enter_of_ne
    (different : other ≠ client) :
    (config.enter client phase).phases other = config.phases other :=
  Function.update_of_ne different ..

theorem phases_advance_of_ne
    (different : other ≠ client) :
    (config.advance client phase locks writes).phases other =
      config.phases other :=
  Function.update_of_ne different ..

@[simp] theorem phases_abandon_self :
    (config.abandon client).phases client = .idle :=
  Function.update_self ..

theorem phases_abandon_of_ne
    (different : other ≠ client) :
    (config.abandon client).phases other = config.phases other :=
  Function.update_of_ne different ..

end Advance

end Config

variable [DecidableEq Resource]

/-- The steps of clients that may make the calls of a pool. -/
inductive Step (pool : Client → Call → Prop) :
    Config Client system → Event Client system → Config Client system →
      Prop where
  | calls
      {config : Config Client system}
      {client : Client}
      {call : Call}
      (idle : config.phases client = .idle)
      (allowed : pool client call) :
      Step pool config (.calls client call)
        (config.enter client
          (.issuing call (config.writes client) (system.body call)))
  | point
      {config : Config Client system}
      {client : Client}
      {call : Call}
      {before : List Write}
      {statement : Statement}
      {next : Answer statement → Prog Statement Answer Failure (Result call)}
      {locks : σ → List (Lock Resource)}
      {effect : σ → Answer statement × List Write}
      (issuing :
        config.phases client = .issuing call before (.call statement next))
      (executes : system.engine.execution statement = .point locks effect)
      (granted :
        config.toLedger.Grants client (locks (config.sees client))) :
      Step pool config (.issues client statement)
        (config.advance client
          (.issuing call before (next (effect (config.sees client)).1))
          (locks (config.sees client)) (effect (config.sees client)).2)
  | sweep
      {config : Config Client system}
      {client : Client}
      {call : Call}
      {before : List Write}
      {statement : Statement}
      {next : Answer statement → Prog Statement Answer Failure (Result call)}
      {targets : σ → List Target}
      {lock : Target → Lock Resource}
      {touch : Target → σ → List Write}
      {answer : Nat → Answer statement}
      (issuing :
        config.phases client = .issuing call before (.call statement next))
      (executes :
        system.engine.execution statement = .sweep targets lock touch answer) :
      Step pool config (.issues client statement)
        (config.enter client
          (.sweeping call before statement (targets (config.sees client)) 0
            next))
  | visit
      {config : Config Client system}
      {client : Client}
      {call : Call}
      {before : List Write}
      {statement : Statement}
      {visited : Nat}
      {earlier later : List Target}
      {target : Target}
      {next : Answer statement → Prog Statement Answer Failure (Result call)}
      {targets : σ → List Target}
      {lock : Target → Lock Resource}
      {touch : Target → σ → List Write}
      {answer : Nat → Answer statement}
      (sweeping :
        config.phases client =
          .sweeping call before statement (earlier ++ target :: later) visited
            next)
      (executes :
        system.engine.execution statement = .sweep targets lock touch answer)
      (granted : config.toLedger.Grants client [lock target]) :
      Step pool config (.visits client target)
        (config.advance client
          (.sweeping call before statement (earlier ++ later)
            (visited +
              if (touch target (config.sees client)).isEmpty then 0 else 1)
            next)
          [lock target] (touch target (config.sees client)))
  | finish
      {config : Config Client system}
      {client : Client}
      {call : Call}
      {before : List Write}
      {statement : Statement}
      {visited : Nat}
      {next : Answer statement → Prog Statement Answer Failure (Result call)}
      {targets : σ → List Target}
      {lock : Target → Lock Resource}
      {touch : Target → σ → List Write}
      {answer : Nat → Answer statement}
      (sweeping :
        config.phases client =
          .sweeping call before statement [] visited next)
      (executes :
        system.engine.execution statement = .sweep targets lock touch answer) :
      Step pool config (.finishes client)
        (config.enter client (.issuing call before (next (answer visited))))
  | returned
      {config : Config Client system}
      {client : Client}
      {call : Call}
      {before : List Write}
      {value : Result call}
      (issuing : config.phases client = .issuing call before (.done value)) :
      Step pool config (.returns client call (.ok value))
        (config.enter client .idle)
  | raised
      {config : Config Client system}
      {client : Client}
      {call : Call}
      {before : List Write}
      {failure : Failure}
      (issuing : config.phases client = .issuing call before (.fail failure)) :
      Step pool config (.returns client call (.error failure))
        (config.enter client .idle)
  | commit
      {config : Config Client system}
      {client : Client}
      (idle : config.phases client = .idle) :
      Step pool config (.commits client) (config.conclude client)
  | rollback
      {config : Config Client system}
      {client : Client} :
      Step pool config (.rollsBack client) (config.abandon client)

/-- What one step does to the rows written and the locks held. -/
inductive Ledger.Change
    (engine : Engine σ Write Resource Target Statement Answer)
    (ledger : Ledger Client σ Write Resource) :
    Ledger Client σ Write Resource → Prop where
  | unchanged : Change engine ledger ledger
  | extended
      {client : Client}
      {locks : List (Lock Resource)}
      {writes : List Write}
      (granted : ledger.Grants client locks)
      (guarded :
        ∀ write ∈ writes, ∀ resource, engine.guard write = some resource →
          Locked locks resource) :
      Change engine ledger (ledger.extend client locks writes)
  | committed (client : Client) :
      Change engine ledger (ledger.commit engine client)
  | released (client : Client) :
      Change engine ledger (ledger.release client)

omit [DecidableEq Resource] in
/-- The rows a point statement writes are locked by it. -/
theorem System.guarded_point
    {statement : Statement}
    {locks : σ → List (Lock Resource)}
    {effect : σ → Answer statement × List Write}
    (system : System σ Write Resource Target Answer Failure Result)
    (executes : system.engine.execution statement = .point locks effect)
    (view : σ) :
    ∀ write ∈ (effect view).2, ∀ resource,
      system.engine.guard write = some resource →
        Locked (locks view) resource := by
  have guards := system.guards statement
  rw [executes] at guards
  exact guards view

omit [DecidableEq Resource] in
/-- The row a sweep visits is locked by it. -/
theorem System.guarded_visit
    {statement : Statement}
    {targets : σ → List Target}
    {lock : Target → Lock Resource}
    {touch : Target → σ → List Write}
    {answer : Nat → Answer statement}
    (system : System σ Write Resource Target Answer Failure Result)
    (executes :
      system.engine.execution statement = .sweep targets lock touch answer)
    (target : Target)
    (view : σ) :
    ∀ write ∈ touch target view, ∀ resource,
      system.engine.guard write = some resource →
        Locked [lock target] resource := by
  have guards := system.guards statement
  rw [executes] at guards
  exact guards target view

/-- Every step changes the ledger in one of these ways. -/
theorem Step.ledgerChange
    {pool : Client → Call → Prop}
    {config next : Config Client system}
    {event : Event Client system}
    (step : Step pool config event next) :
    Ledger.Change system.engine config.toLedger next.toLedger := by
  cases step with
  | calls => exact .unchanged
  | point issuing executes granted =>
      exact .extended granted (system.guarded_point executes _)
  | sweep => exact .unchanged
  | visit sweeping executes granted =>
      exact .extended granted (system.guarded_visit executes _ _)
  | finish => exact .unchanged
  | returned => exact .unchanged
  | raised => exact .unchanged
  | commit => exact .committed _
  | rollback => exact .released _

/-- Proper ledgers stay proper. -/
theorem Ledger.Change.proper
    {engine : Engine σ Write Resource Target Statement Answer}
    {ledger later : Ledger Client σ Write Resource}
    (change : Ledger.Change engine ledger later)
    (proper : ledger.Proper engine) :
    later.Proper engine := by
  cases change with
  | unchanged => exact proper
  | extended granted guarded => exact proper.extend granted guarded
  | committed client => exact proper.commit
  | released client => exact proper.release

omit [DecidableEq Client] in
/-- A database without running transactions is proper. -/
theorem Config.proper_quiescent
    {committed : σ} :
    (Config.quiescent committed : Config Client system).toLedger.Proper
      system.engine where
  exclusive := by
    intro client other _ held member
    cases member
  guarded := by
    intro client write member
    cases member

end Steps

end Transactional
