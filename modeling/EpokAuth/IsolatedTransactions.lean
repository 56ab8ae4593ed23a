import EpokAuth.CallEndings

namespace Transactional

/-!
# Transactions that do not overlap

A call that runs as a transaction of its own, while no other transaction is
open, does what evaluating its body in one go does.  Read both ways, this
connects the two levels at which a system is described: every run of atomic
calls is a run of interleaved statements, and a run whose transactions do not
overlap is a run of atomic calls.
-/

variable
  {Client σ Write Resource Target Statement Failure Call : Type}
  {Answer : Statement → Type}
  {Result : Call → Type}

/-! ## Atomic calls -/

namespace System

variable (system : System σ Write Resource Target Answer Failure Result)

/-- Evaluate the body of a call in one go. -/
def runs (call : Call) (state : σ) : Except Failure (Result call) × σ :=
  (system.body call).run system.engine.evaluate state

/-- Commit what a call leaves when it returns; roll back when it raises. -/
def execute (call : Call) (state : σ) : Except Failure (Result call) × σ :=
  match system.runs call state with
  | (.ok value, later) => (.ok value, later)
  | (.error failure, _) => (.error failure, state)

/-- A call is executed as a whole. -/
inductive AtomicStep : σ → Answered Failure Result → σ → Prop where
  | executes (call : Call) (state : σ) :
      AtomicStep state ⟨call, (system.execute call state).1⟩
        (system.execute call state).2

end System

variable
  {system : System σ Write Resource Target Answer Failure Result}

theorem System.execute_of_ok
    {call : Call}
    {state later : σ}
    {value : Result call}
    (returns : system.runs call state = (.ok value, later)) :
    system.execute call state = (.ok value, later) := by
  rw [System.execute, returns]

theorem System.execute_of_error
    {call : Call}
    {state later : σ}
    {failure : Failure}
    (raises : system.runs call state = (.error failure, later)) :
    system.execute call state = (.error failure, state) := by
  rw [System.execute, raises]

theorem System.executes_of_ok
    (system : System σ Write Resource Target Answer Failure Result)
    {call : Call}
    {state later : σ}
    {value : Result call}
    (returns : system.runs call state = (.ok value, later)) :
    system.AtomicStep state ⟨call, .ok value⟩ later := by
  have executes : system.AtomicStep state _ _ := .executes call state
  rw [system.execute_of_ok returns] at executes
  exact executes

theorem System.executes_of_error
    (system : System σ Write Resource Target Answer Failure Result)
    {call : Call}
    {state later : σ}
    {failure : Failure}
    (raises : system.runs call state = (.error failure, later)) :
    system.AtomicStep state ⟨call, .error failure⟩ state := by
  have executes : system.AtomicStep state _ _ := .executes call state
  rw [system.execute_of_error raises] at executes
  exact executes

/-- What a client does while its call is evaluated. -/
inductive Event.Inside (client : Client) : Event Client system → Prop where
  | issues (statement : Statement) : Inside client (.issues client statement)
  | visits (target : Target) : Inside client (.visits client target)
  | finishes : Inside client (.finishes client)

/-! ## A client that is alone -/

/-- No transaction of another client is open. -/
def Config.Alone (config : Config Client system) (client : Client) : Prop :=
  ∀ other, other ≠ client → config.Clear other

section Alone

variable
  [DecidableEq Resource]
  {config next final : Config Client system}
  {client : Client}

/-- Who is alone is granted every lock. -/
theorem Config.Alone.grants
    (alone : config.Alone client)
    (locks : List (Lock Resource)) :
    config.toLedger.Grants client locks := by
  intro other different held member
  have nothing : config.locks other = [] := (alone other different).locks
  rw [nothing] at member
  cases member

variable
  [DecidableEq Client]
  {pool : Client → Call → Prop}
  {event : Event Client system}
  {call : Call}
  {before : List Write}
  {statement : Statement}
  {targets : σ → List Target}
  {lock : Target → Lock Resource}
  {touch : Target → σ → List Write}
  {answer : Nat → Answer statement}

/-- Who is alone stays alone while it goes on. -/
theorem Config.Alone.step
    (alone : config.Alone client)
    (step : Step pool config event next)
    (isClient : event.client = client) :
    next.Alone client := by
  intro other different
  exact (alone other different).of_other step (isClient ▸ different)

/-- A client goes on alone, inside of its call. -/
structure GoesOn
    (pool : Client → Call → Prop)
    (client : Client)
    (config final : Config Client system) :
    Prop where
  run :
    ∃ labels,
      Run (Step pool) config labels final ∧
        ∀ event ∈ labels, event.Inside client
  alone : final.Alone client
  committed : final.committed = config.committed

theorem GoesOn.refl (alone : config.Alone client) :
    GoesOn pool client config config :=
  ⟨⟨[], .nil config, fun _ member => absurd member List.not_mem_nil⟩, alone,
    rfl⟩

theorem GoesOn.trans
    (first : GoesOn pool client config next)
    (second : GoesOn pool client next final) :
    GoesOn pool client config final := by
  rcases first.run with ⟨earlier, run, inside⟩
  rcases second.run with ⟨later, runLater, insideLater⟩
  refine ⟨⟨earlier ++ later, run.append runLater, fun event member => ?_⟩,
    second.alone, second.committed.trans first.committed⟩
  rcases List.mem_append.mp member with isEarlier | isLater
  · exact inside event isEarlier
  · exact insideLater event isLater

/-- One step inside of a call. -/
theorem GoesOn.single
    (alone : config.Alone client)
    (step : Step pool config event next)
    (inside : event.Inside client)
    (committed : next.committed = config.committed) :
    GoesOn pool client config next := by
  have isClient : event.client = client := by
    cases inside <;> rfl
  refine ⟨⟨[event], .single step, fun other member => ?_⟩,
    alone.step step isClient, committed⟩
  rw [List.mem_singleton.mp member]
  exact inside

/-! ## Atomic calls are transactions -/

variable (pool) in
/-- A client that is alone visits all rows of its sweep. -/
theorem exists_goesOn_of_sweeping
    {pending : List Target}
    {visited : Nat}
    {following : Answer statement → Prog Statement Answer Failure (Result call)}
    (executes :
      system.engine.execution statement = .sweep targets lock touch answer)
    (alone : config.Alone client)
    (sweeping :
      config.phases client =
        .sweeping call before statement pending visited following) :
    ∃ final,
      GoesOn pool client config final ∧
        final.phases client =
          .sweeping call before statement []
            (visited +
              (visitAll system.engine.apply touch pending
                (config.sees client)).1)
            following ∧
        final.sees client =
          (visitAll system.engine.apply touch pending
            (config.sees client)).2 := by
  induction pending generalizing config visited with
  | nil =>
      exact ⟨config, .refl alone, sweeping, rfl⟩
  | cons target rest inductionHypothesis =>
      have step :=
        @Step.visit _ _ _ _ _ _ _ _ _ _ _ system _ pool config client call
          before statement visited [] rest target following targets lock touch
          answer sweeping executes (alone.grants _)
      have goes := GoesOn.single alone step (.visits _) rfl
      rcases inductionHypothesis goes.alone Config.phases_advance_self with
        ⟨final, later, phase, sees⟩
      refine ⟨final, goes.trans later, ?_, ?_⟩
      · rw [phase, Config.sees_advance_self, visitAll, Nat.add_assoc]
      · rw [sees, Config.sees_advance_self, visitAll]

variable (pool) in
/-- A client that is alone finishes its call. -/
theorem exists_goesOn_of_issuing
    {program : Prog Statement Answer Failure (Result call)}
    (alone : config.Alone client)
    (issuing : config.phases client = .issuing call before program) :
    ∃ final,
      GoesOn pool client config final ∧
        final.phases client =
          .issuing call before
            (Prog.ofExcept
              (program.run system.engine.evaluate (config.sees client)).1) ∧
        final.sees client =
          (program.run system.engine.evaluate (config.sees client)).2 := by
  induction program generalizing config with
  | done value =>
      exact ⟨config, .refl alone, issuing, rfl⟩
  | fail failure =>
      exact ⟨config, .refl alone, issuing, rfl⟩
  | call statement following inductionHypothesis =>
      cases execution : system.engine.execution statement with
      | point locks effect =>
          have step : Step pool config (.issues client statement) _ :=
            .point issuing execution (alone.grants _)
          have goes := GoesOn.single alone step (.issues _) rfl
          rcases inductionHypothesis _ goes.alone
              Config.phases_advance_self with
            ⟨final, later, phase, sees⟩
          rw [Config.sees_advance_self] at phase sees
          refine ⟨final, goes.trans later, ?_, ?_⟩
          · rw [phase, Prog.run, Engine.evaluate, execution]
            rfl
          · rw [sees, Prog.run, Engine.evaluate, execution]
            rfl
      | sweep targets lock touch answer =>
          have chooses : Step pool config (.issues client statement) _ :=
            .sweep issuing execution
          have begins := GoesOn.single alone chooses (.issues _) rfl
          rcases exists_goesOn_of_sweeping pool execution begins.alone
              Config.phases_enter_self with
            ⟨swept, visits, phase, sees⟩
          have finishes : Step pool swept (.finishes client) _ :=
            .finish phase execution
          have ends := GoesOn.single visits.alone finishes .finishes rfl
          rcases inductionHypothesis _ ends.alone
              Config.phases_enter_self with
            ⟨final, later, phaseLater, seesLater⟩
          have start :
              (config.enter client
                  (.sweeping call before statement
                    (targets (config.sees client)) 0 following)).sees client =
                config.sees client :=
            rfl
          have same :
              (swept.enter client
                  (.issuing call before
                    (following
                      (answer
                        (0 +
                          (visitAll system.engine.apply touch
                            (targets (config.sees client))
                            (config.sees client)).1))))).sees client =
                swept.sees client :=
            rfl
          rw [start] at sees
          refine ⟨final, (begins.trans visits).trans (ends.trans later), ?_,
            ?_⟩
          · rw [phaseLater, start, same, sees, Nat.zero_add, Prog.run,
              Engine.evaluate, execution]
            rfl
          · rw [seesLater, start, same, sees, Nat.zero_add, Prog.run,
              Engine.evaluate, execution]
            rfl

omit [DecidableEq Resource] [DecidableEq Client] in
/-- A database on which everybody is clear is a quiescent one. -/
theorem Config.eq_quiescent
    (clear : ∀ client, config.Clear client) :
    config = .quiescent config.committed := by
  have writes : config.writes = fun _ => [] :=
    funext fun client => (clear client).writes
  have locks : config.locks = fun _ => [] :=
    funext fun client => (clear client).locks
  have phases : config.phases = fun _ => .idle :=
    funext fun client => (clear client).idle
  rcases config with ⟨⟨committed, _, _⟩, _⟩
  dsimp only at writes locks phases
  subst writes locks phases
  rfl

/-- Who is alone and ends its transaction leaves a quiescent database. -/
theorem Config.Alone.eq_quiescent
    (alone : config.Alone client)
    (step : Step pool config event next)
    (isClient : event.client = client)
    (clear : next.Clear client) :
    next = .quiescent next.committed := by
  refine Config.eq_quiescent fun other => ?_
  by_cases same : other = client
  · exact same ▸ clear
  · exact alone.step step isClient other same

end Alone

/-! ## Transactions that do not overlap are atomic -/

/-- The client's transaction has not begun yet, or has ended. -/
def Progress.AtRest : Progress Failure Result → Prop
  | .waiting => True
  | .committed _ _ => True
  | .abandoned _ _ => True
  | _ => False

/-- What the caller of a transaction that has ended received. -/
inductive Progress.Concludes :
    Progress Failure Result → Answered Failure Result → Prop where
  | committed {call : Call} {value : Result call} :
      Concludes (.committed call value) ⟨call, .ok value⟩
  | raised {call : Call} {failure : Failure} :
      Concludes (.abandoned call (some (.error failure)))
        ⟨call, .error failure⟩

/-- The order in which a sweep visits its rows does not matter. -/
def Execution.Unordered
    {σ Write Resource Target Answer : Type}
    (apply : Write → σ → σ) :
    Execution σ Write Resource Target Answer → Prop
  | .point _ _ => True
  | .sweep _ _ touch _ =>
      ∀ one another state,
        visitAll apply touch [one, another] state =
          visitAll apply touch [another, one] state

/-- Visits that commute may be made in any order. -/
theorem visitAll_append_cons
    {apply : Write → σ → σ}
    {touch : Target → σ → List Write}
    (unordered :
      ∀ one another state,
        visitAll apply touch [one, another] state =
          visitAll apply touch [another, one] state)
    (earlier later : List Target)
    (target : Target)
    (state : σ) :
    visitAll apply touch (earlier ++ target :: later) state =
      visitAll apply touch (target :: (earlier ++ later)) state := by
  induction earlier generalizing state with
  | nil =>
      rfl
  | cons head rest inductionHypothesis =>
      have swap := unordered head target state
      simp only [visitAll, Prod.mk.injEq] at swap
      obtain ⟨counts, states⟩ := swap
      rw [List.cons_append, visitAll, inductionHypothesis]
      simp only [visitAll, List.cons_append, states, Prod.mk.injEq, and_true]
      omega

/-- What the call in progress answers and leaves when nobody interferes. -/
def Phase.outcome? :
    Phase system → σ →
      Option ((call : Call) × (Except Failure (Result call) × σ))
  | .idle, _ => none
  | .issuing call _ program, view =>
      some ⟨call, program.run system.engine.evaluate view⟩
  | .sweeping call _ statement pending visited next, view =>
      match system.engine.execution statement with
      | .point _ _ => none
      | .sweep _ _ touch answer =>
          let swept := visitAll system.engine.apply touch pending view
          some
            ⟨call,
              (next (answer (visited + swept.1))).run system.engine.evaluate
                swept.2⟩

section Isolated

variable
  [DecidableEq Client]
  [DecidableEq Resource]
  {pool : Client → Call → Prop}

/-- A step of a client while no transaction of another one is open. -/
structure IsolatedStep
    (pool : Client → Call → Prop)
    (jobs : Jobs Client system)
    (event : Event Client system)
    (next : Jobs Client system) :
    Prop where
  job : JobStep pool jobs event next
  isolated :
    ∀ other, other ≠ event.client → (jobs.progress other).AtRest

variable
  {config next : Config Client system}
  {event : Event Client system}
  {client : Client}

/-- How far a client has come from what was committed. -/
inductive Config.Settles
    (config : Config Client system)
    (client : Client) :
    Progress Failure Result → Prop where
  | rest
      {progress : Progress Failure Result}
      (atRest : progress.AtRest)
      (clear : config.Clear client) :
      Settles config client progress
  | running
      {call : Call}
      (outcome :
        (config.phases client).outcome? (config.sees client) =
          some ⟨call, system.runs call config.committed⟩) :
      Settles config client (.running call)
  | returned
      {call : Call}
      {answer : Except Failure (Result call)}
      (idle : config.phases client = .idle)
      (ran :
        system.runs call config.committed = (answer, config.sees client)) :
      Settles config client (.returned call answer)

omit [DecidableEq Client] [DecidableEq Resource] in
/-- Who is at rest is clear. -/
theorem Config.Settles.clear
    {progress : Progress Failure Result}
    (settles : config.Settles client progress)
    (atRest : progress.AtRest) :
    config.Clear client := by
  cases settles with
  | rest _ clear => exact clear
  | running => cases atRest
  | returned => cases atRest

omit [DecidableEq Client] [DecidableEq Resource] in
/-- A client that runs a call will answer what evaluating it answers. -/
theorem Config.Settles.outcome
    {call : Call}
    (settles : config.Settles client (.running call)) :
    (config.phases client).outcome? (config.sees client) =
      some ⟨call, system.runs call config.committed⟩ := by
  cases settles with
  | rest atRest => cases atRest
  | running outcome => exact outcome

/-- A client that goes on inside of its call will answer the same. -/
theorem outcome?_of_step
    (unordered :
      ∀ statement,
        (system.engine.execution statement).Unordered system.engine.apply)
    (step : Step pool config event next)
    (inside : event.Inside client) :
    next.committed = config.committed ∧
      (next.phases client).outcome? (next.sees client) =
        (config.phases client).outcome? (config.sees client) := by
  cases step with
  | @point _ _ before statement following locks effect issuing executes =>
      cases inside
      refine ⟨rfl, ?_⟩
      rw [issuing, Config.phases_advance_self, Config.sees_advance_self]
      simp only [Phase.outcome?, Prog.run, Engine.evaluate, executes,
        Execution.perform]
  | @sweep _ _ before statement following targets lock touch answer issuing
      executes =>
      cases inside
      refine ⟨rfl, ?_⟩
      rw [issuing, Config.phases_enter_self]
      simp only [Phase.outcome?, Prog.run, Engine.evaluate, executes,
        Execution.perform, Nat.zero_add]
      rfl
  | @visit visiting _ before statement visited earlier later target following
      targets lock touch answer sweeping executes =>
      cases inside
      refine ⟨rfl, ?_⟩
      have commutes := unordered statement
      rw [executes] at commutes
      have order :=
        visitAll_append_cons commutes earlier later target
          (config.sees client)
      rw [sweeping, Config.phases_advance_self, Config.sees_advance_self]
      simp only [Phase.outcome?, executes, order, visitAll, Nat.add_assoc]
  | @finish _ _ before statement visited following targets lock touch answer
      sweeping executes =>
      cases inside
      refine ⟨rfl, ?_⟩
      rw [sweeping, Config.phases_enter_self]
      simp only [Phase.outcome?, executes, visitAll, Nat.add_zero]
      rfl
  | _ => cases inside

/-- Nobody goes on inside of a call it does not run. -/
theorem phases_ne_idle_of_step
    (step : Step pool config event next)
    (inside : event.Inside client) :
    config.phases client ≠ .idle := by
  intro idle
  cases step with
  | point issuing =>
      cases inside
      rw [idle] at issuing
      cases issuing
  | sweep issuing =>
      cases inside
      rw [idle] at issuing
      cases issuing
  | visit sweeping =>
      cases inside
      rw [idle] at sweeping
      cases sweeping
  | finish sweeping =>
      cases inside
      rw [idle] at sweeping
      cases sweeping
  | _ => cases inside

/-- A client inside of its call goes on towards the same answer. -/
theorem Config.Settles.goesOn
    {progress : Progress Failure Result}
    (unordered :
      ∀ statement,
        (system.engine.execution statement).Unordered system.engine.apply)
    (settles : config.Settles client progress)
    (step : Step pool config event next)
    (inside : event.Inside client) :
    next.committed = config.committed ∧ next.Settles client progress := by
  have busy := phases_ne_idle_of_step step inside
  obtain ⟨committed, same⟩ := outcome?_of_step unordered step inside
  cases settles with
  | rest _ clear => exact absurd clear.idle busy
  | running outcome =>
      refine ⟨committed, .running ?_⟩
      rw [same, outcome, committed]
  | returned idle => exact absurd idle busy

/-! ## The order in which clients were served -/

/-- The answer that a call has concluded with, if it has. -/
def Progress.concluded? :
    Progress Failure Result → Option (Answered Failure Result)
  | .committed call value => some ⟨call, .ok value⟩
  | .abandoned call (some (.error failure)) => some ⟨call, .error failure⟩
  | _ => none

theorem Progress.Concludes.concluded?_eq
    {progress : Progress Failure Result}
    {answer : Answered Failure Result}
    (concludes : progress.Concludes answer) :
    progress.concluded? = some answer := by
  cases concludes with
  | committed => rfl
  | raised => rfl

/-- A transaction that has ended concludes one answer. -/
theorem Progress.Concludes.unique
    {progress : Progress Failure Result}
    {one another : Answered Failure Result}
    (concludes : progress.Concludes one)
    (concludesToo : progress.Concludes another) :
    one = another :=
  Option.some.inj (concludes.concluded?_eq.symm.trans
    concludesToo.concluded?_eq)

/-- A transaction that is going on, or was given up, concludes no answer. -/
theorem Progress.not_concludes
    {progress : Progress Failure Result}
    (silent : progress.concluded? = none) :
    ∀ answer, ¬progress.Concludes answer := by
  intro answer concludes
  rw [concludes.concluded?_eq] at silent
  cases silent

omit [DecidableEq Resource] in
/-- Who has concluded did so before, or commits or gives up now. -/
theorem Progress.Moves.concludes_cases
    {progress later : Client → Progress Failure Result}
    {event : Event Client system}
    {client : Client}
    {answer : Answered Failure Result}
    (moves : Progress.Moves progress event later)
    (concludes : (later client).Concludes answer) :
    (progress client).Concludes answer ∨
      (progress client = .returned answer.call answer.answer ∧
        ((event = .commits client ∧ ∃ value, answer.answer = .ok value) ∨
          (event = .rollsBack client ∧
            ∃ failure, answer.answer = .error failure))) := by
  by_cases isClient : client = event.client
  · subst isClient
    cases moves with
    | free => exact .inl concludes
    | issues => exact .inl concludes
    | visits => exact .inl concludes
    | finishes => exact .inl concludes
    | calls waiting =>
        rw [Event.client, Function.update_self] at concludes
        cases concludes
    | returns running =>
        rw [Event.client, Function.update_self] at concludes
        cases concludes
    | commits returned =>
        rw [Event.client, Function.update_self] at concludes
        cases concludes
        exact .inr ⟨returned, .inl ⟨rfl, _, rfl⟩⟩
    | interrupted running =>
        rw [Event.client, Function.update_self] at concludes
        cases concludes
    | abandons returned =>
        rw [Event.client, Function.update_self] at concludes
        cases concludes
        exact .inr ⟨returned, .inr ⟨rfl, _, rfl⟩⟩
  · rw [moves.of_other isClient] at concludes
    exact .inl concludes

/-- Executing calls one after the other serves the clients that have ended. -/
structure Jobs.ServedBy
    (start : σ)
    (jobs : Jobs Client system)
    (served : List (Client × Answered Failure Result)) :
    Prop where
  run : Run system.AtomicStep start (served.map Prod.snd) jobs.committed
  once : (served.map Prod.fst).Nodup
  concluded :
    ∀ client answer,
      (client, answer) ∈ served ↔ (jobs.progress client).Concludes answer

variable
  {jobs later : Jobs Client system}
  {start : σ}
  {served : List (Client × Answered Failure Result)}
  {progress : Progress Failure Result}
  {answer : Answered Failure Result}

omit [DecidableEq Resource] in
/-- Who concludes nothing is not served. -/
theorem Jobs.ServedBy.of_silent
    (servedBy : jobs.ServedBy start served)
    (committed : later.committed = jobs.committed)
    (isLater :
      later.progress = Function.update jobs.progress client progress)
    (before : ∀ answer, ¬(jobs.progress client).Concludes answer)
    (after : ∀ answer, ¬progress.Concludes answer) :
    later.ServedBy start served := by
  refine ⟨committed ▸ servedBy.run, servedBy.once, fun other answer => ?_⟩
  rw [servedBy.concluded, isLater]
  by_cases same : other = client
  · subst same
    rw [Function.update_self]
    exact iff_of_false (before answer) (after answer)
  · rw [Function.update_of_ne same]

omit [DecidableEq Resource] in
/-- Who concludes is served after everybody who has. -/
theorem Jobs.ServedBy.concluding
    (servedBy : jobs.ServedBy start served)
    (step : system.AtomicStep jobs.committed answer later.committed)
    (isLater :
      later.progress = Function.update jobs.progress client progress)
    (before : ∀ answer, ¬(jobs.progress client).Concludes answer)
    (after : progress.Concludes answer) :
    later.ServedBy start (served ++ [(client, answer)]) := by
  have unserved : client ∉ served.map Prod.fst := by
    intro member
    obtain ⟨⟨_, earlier⟩, entry, rfl⟩ := List.mem_map.mp member
    exact before earlier ((servedBy.concluded _ _).mp entry)
  refine ⟨?_, ?_, fun other given => ?_⟩
  · rw [List.map_append]
    exact servedBy.run.append (.single step)
  · rw [List.map_append, List.nodup_append]
    refine ⟨servedBy.once, List.nodup_singleton _, ?_⟩
    intro earlier member last isLast same
    have isClient : earlier = client := same.trans (List.mem_singleton.mp isLast)
    exact unserved (isClient ▸ member)
  · rw [List.mem_append, servedBy.concluded, isLater, List.mem_singleton,
      Prod.mk.injEq]
    by_cases same : other = client
    · subst same
      rw [Function.update_self]
      constructor
      · rintro (concludes | ⟨-, rfl⟩)
        · exact absurd concludes (before given)
        · exact after
      · exact fun concludes => .inr ⟨rfl, concludes.unique after⟩
    · rw [Function.update_of_ne same]
      exact or_iff_left fun last => same last.1

/-! ## Atomic calls are transactions of their own -/

/-- Where a call that was executed leaves its client. -/
def Answered.concluded : Answered Failure Result → Progress Failure Result
  | ⟨call, .ok value⟩ => .committed call value
  | ⟨call, .error failure⟩ => .abandoned call (some (.error failure))

omit [DecidableEq Client] [DecidableEq Resource] in
theorem Answered.concludes_concluded (answer : Answered Failure Result) :
    answer.concluded.Concludes answer := by
  rcases answer with ⟨call, answer⟩
  cases answer with
  | ok value => exact .committed
  | error failure => exact .raised

omit [DecidableEq Client] [DecidableEq Resource] in
theorem Answered.concluded_atRest (answer : Answered Failure Result) :
    answer.concluded.AtRest := by
  rcases answer with ⟨call, answer⟩
  cases answer <;> exact trivial

/-- Steps inside of a call are taken alone when the others are at rest. -/
theorem isolated_of_inside
    {labels : List (Event Client system)}
    {final : Config Client system}
    {progresses : Client → Progress Failure Result}
    (run : Run (Step pool) config labels final)
    (inside : ∀ event ∈ labels, event.Inside client)
    (atRest : ∀ other, other ≠ client → (progresses other).AtRest) :
    Run (IsolatedStep pool) ⟨config, progresses⟩ labels
      ⟨final, progresses⟩ := by
  induction run with
  | nil config =>
      exact .nil _
  | @cons start middle finish event rest step _ inductionHypothesis =>
      have later :=
        inductionHypothesis fun event member =>
          inside event (List.mem_cons_of_mem _ member)
      refine .cons ⟨⟨step, ?_⟩, fun other different => atRest other ?_⟩ later
      · cases inside event List.mem_cons_self with
        | issues => exact .issues
        | visits => exact .visits
        | finishes => exact .finishes
      · cases inside event List.mem_cons_self <;> exact different

/-- A client takes a step while the others are at rest. -/
theorem IsolatedStep.of_moves
    {progresses afterwards : Client → Progress Failure Result}
    (step : Step pool config event next)
    (moves : Progress.Moves progresses event afterwards)
    (atRest : ∀ other, other ≠ event.client → (progresses other).AtRest) :
    IsolatedStep pool ⟨config, progresses⟩ event ⟨next, afterwards⟩ :=
  ⟨⟨step, moves⟩, atRest⟩

omit [DecidableEq Resource] in
/-- Nothing ends inside of a call. -/
theorem Endings.foldl_inside
    {labels : List (Event Client system)}
    (inside : ∀ event ∈ labels, event.Inside client)
    (endings : Endings Client Failure Result) :
    labels.foldl Endings.after endings = endings := by
  induction labels with
  | nil =>
      rfl
  | cons event rest inductionHypothesis =>
      have same : endings.after event = endings := by
        cases inside event List.mem_cons_self <;> rfl
      rw [List.foldl_cons, same]
      exact
        inductionHypothesis fun other member =>
          inside other (List.mem_cons_of_mem _ member)

omit [DecidableEq Resource] in
/-- Others are where they were when a client moves. -/
theorem atRest_update
    {progresses : Client → Progress Failure Result}
    (atRest : ∀ other, other ≠ client → (progresses other).AtRest)
    (moved : Progress Failure Result) :
    ∀ other, other ≠ client →
      (Function.update progresses client moved other).AtRest := by
  intro other different
  rw [Function.update_of_ne different]
  exact atRest other different

variable (system) in
/-- A client that waits begins a call and runs it to its answer. -/
theorem exists_isolated_run_of_calls
    {call : Call}
    {progresses : Client → Progress Failure Result}
    (allowed : pool client call)
    (state : σ)
    (waiting : progresses client = .waiting)
    (atRest : ∀ other, other ≠ client → (progresses other).AtRest) :
    ∃ labels,
      ∃ final : Config Client system,
        Run (IsolatedStep pool) ⟨.quiescent state, progresses⟩
            (.calls client call :: labels)
            ⟨final, Function.update progresses client (.running call)⟩ ∧
          (∀ event ∈ labels, event.Inside client) ∧
            final.Alone client ∧
              final.committed = state ∧
                final.phases client =
                    .issuing call []
                      (Prog.ofExcept (system.runs call state).1) ∧
                  final.sees client = (system.runs call state).2 := by
  have alone : (.quiescent state : Config Client system).Alone client :=
    fun other _ => ⟨rfl, rfl, rfl⟩
  have begins :
      Step pool (.quiescent state : Config Client system)
        (.calls client call) _ :=
    .calls rfl allowed
  rcases exists_goesOn_of_issuing pool (alone.step begins rfl)
      Config.phases_enter_self with
    ⟨final, goes, phase, sees⟩
  rcases goes.run with ⟨labels, run, inside⟩
  have first := IsolatedStep.of_moves begins (.calls waiting) atRest
  have middle :=
    isolated_of_inside run inside (atRest_update atRest (.running call))
  exact ⟨labels, final, .cons first middle, inside, goes.alone,
    goes.committed, phase, sees⟩

variable (pool) in
/-- A call that returns commits what its client sees. -/
theorem isolated_run_of_ok
    {call : Call}
    {value : Result call}
    {before : List Write}
    {progresses : Client → Progress Failure Result}
    (alone : config.Alone client)
    (issuing :
      config.phases client = .issuing call before (Prog.ofExcept (.ok value)))
    (atRest : ∀ other, other ≠ client → (progresses other).AtRest) :
    Run (IsolatedStep pool)
      ⟨config, Function.update progresses client (.running call)⟩
      [.returns client call (.ok value), .commits client]
      ⟨.quiescent (config.sees client),
        Function.update progresses client (.committed call value)⟩ := by
  have returns : Step pool config (.returns client call (.ok value)) _ :=
    .returned issuing
  have commits : Step pool (config.enter client .idle) (.commits client) _ :=
    .commit Config.phases_enter_self
  have clear : ((config.enter client .idle).conclude client).Clear client :=
    ⟨Config.phases_enter_self, Ledger.writes_commit_self,
      Ledger.locks_commit_self⟩
  have ends :
      (config.enter client .idle).conclude client =
        .quiescent (config.sees client) :=
    (alone.step returns rfl).eq_quiescent commits rfl clear
  rw [ends] at commits
  have first :=
    IsolatedStep.of_moves returns
      (.returns (Function.update_self client (.running call) progresses))
      (atRest_update atRest _)
  rw [Function.update_idem] at first
  have last :=
    IsolatedStep.of_moves commits
      (.commits
        (Function.update_self client (.returned call (.ok value)) progresses))
      (atRest_update atRest _)
  rw [Function.update_idem] at last
  exact .cons first (.single last)

variable (pool) in
/-- A call that raises leaves what had been committed. -/
theorem isolated_run_of_error
    {call : Call}
    {failure : Failure}
    {before : List Write}
    {progresses : Client → Progress Failure Result}
    (alone : config.Alone client)
    (issuing :
      config.phases client =
        .issuing call before (Prog.ofExcept (.error failure)))
    (atRest : ∀ other, other ≠ client → (progresses other).AtRest) :
    Run (IsolatedStep pool)
      ⟨config, Function.update progresses client (.running call)⟩
      [.returns client call (.error failure), .rollsBack client]
      ⟨.quiescent config.committed,
        Function.update progresses client
          (.abandoned call (some (.error failure)))⟩ := by
  have raises : Step pool config (.returns client call (.error failure)) _ :=
    .raised issuing
  have leaves :
      Step pool (config.enter client .idle) (.rollsBack client) _ :=
    .rollback
  have ends :
      (config.enter client .idle).abandon client =
        .quiescent config.committed :=
    (alone.step raises rfl).eq_quiescent leaves rfl Contract.clear_abandon
  rw [ends] at leaves
  have first :=
    IsolatedStep.of_moves raises
      (.returns (Function.update_self client (.running call) progresses))
      (atRest_update atRest _)
  rw [Function.update_idem] at first
  have last :=
    IsolatedStep.of_moves leaves
      (.abandons
        (Function.update_self client (.returned call (.error failure))
          progresses))
      (atRest_update atRest _)
  rw [Function.update_idem] at last
  exact .cons first (.single last)

variable (system) in
/-- An atomic call is a transaction of its own, and ends as its only one. -/
theorem exists_isolated_run_of_execute
    {call : Call}
    {progresses : Client → Progress Failure Result}
    (allowed : pool client call)
    (state : σ)
    (waiting : progresses client = .waiting)
    (atRest : ∀ other, other ≠ client → (progresses other).AtRest) :
    ∃ labels,
      Run (IsolatedStep pool)
          (⟨.quiescent state, progresses⟩ : Jobs Client system) labels
          ⟨.quiescent (system.execute call state).2,
            Function.update progresses client
              (Answered.concluded ⟨call, (system.execute call state).1⟩)⟩ ∧
        ∀ endings : Endings Client Failure Result,
          endings.answered client = none →
            labels.foldl Endings.after endings =
              { endings with
                ended :=
                  endings.ended ++
                    [(client, ⟨call, (system.execute call state).1⟩)] } := by
  rcases exists_isolated_run_of_calls system allowed state waiting atRest with
    ⟨labels, final, run, inside, alone, committed, phase, sees⟩
  have silent :
      ∀ endings : Endings Client Failure Result,
        (.calls client call :: labels).foldl Endings.after endings =
          endings := by
    intro endings
    rw [List.foldl_cons]
    exact Endings.foldl_inside inside endings
  cases outcome : system.runs call state with
  | mk answer later =>
      rw [outcome] at phase sees
      cases answer with
      | ok value =>
          have ends := isolated_run_of_ok pool alone phase atRest
          rw [show final.sees client = later from sees] at ends
          rw [System.execute_of_ok outcome]
          refine ⟨_, run.append ends, fun endings unanswered => ?_⟩
          rw [List.foldl_append, silent]
          exact Endings.leave_answer unanswered rfl
      | error failure =>
          have ends := isolated_run_of_error pool alone phase atRest
          rw [committed] at ends
          rw [System.execute_of_error outcome]
          refine ⟨_, run.append ends, fun endings unanswered => ?_⟩
          rw [List.foldl_append, silent]
          exact Endings.leave_answer unanswered rfl

/-- Calls of different clients that wait can be executed one by one. -/
theorem exists_isolated_run_of_atomic
    {served : List (Client × Answered Failure Result)}
    {state final : σ}
    {progresses : Client → Progress Failure Result}
    (run : Run system.AtomicStep state (served.map Prod.snd) final)
    (once : (served.map Prod.fst).Nodup)
    (allowed : ∀ entry ∈ served, pool entry.1 entry.2.call)
    (waiting : ∀ entry ∈ served, progresses entry.1 = .waiting)
    (atRest : ∀ client, (progresses client).AtRest) :
    ∃ labels afterwards,
      Run (IsolatedStep pool)
          (⟨.quiescent state, progresses⟩ : Jobs Client system) labels
          ⟨.quiescent final, afterwards⟩ ∧
        (∀ entry ∈ served, afterwards entry.1 = entry.2.concluded) ∧
          (∀ client, client ∉ served.map Prod.fst →
            afterwards client = progresses client) ∧
            ∀ endings : Endings Client Failure Result,
              (∀ client, endings.answered client = none) →
                labels.foldl Endings.after endings =
                  { endings with ended := endings.ended ++ served } := by
  induction served generalizing state progresses with
  | nil =>
      cases run
      refine ⟨[], progresses, .nil _, by simp, fun _ _ => rfl, ?_⟩
      intro endings _
      rw [List.append_nil]
      rfl
  | cons entry rest inductionHypothesis =>
      rcases entry with ⟨client, call, answer⟩
      obtain ⟨unserved, restOnce⟩ := List.nodup_cons.mp once
      cases run with
      | cons step later =>
          cases step with
          | executes =>
              rcases exists_isolated_run_of_execute system
                  (allowed _ List.mem_cons_self) state
                  (waiting _ List.mem_cons_self)
                  (fun other _ => atRest other) with
                ⟨first, runFirst, endsFirst⟩
              have restWaiting :
                  ∀ entry ∈ rest,
                    Function.update progresses client
                        (Answered.concluded
                          ⟨call, (system.execute call state).1⟩) entry.1 =
                      .waiting := by
                intro entry member
                have different : entry.1 ≠ client := by
                  intro same
                  have isServed := List.mem_map_of_mem (f := Prod.fst) member
                  exact unserved (same ▸ isServed)
                rw [Function.update_of_ne different]
                exact waiting entry (List.mem_cons_of_mem _ member)
              have restAtRest :
                  ∀ other,
                    (Function.update progresses client
                        (Answered.concluded
                          ⟨call, (system.execute call state).1⟩)
                        other).AtRest := by
                intro other
                by_cases same : other = client
                · rw [same, Function.update_self]
                  exact Answered.concluded_atRest _
                · rw [Function.update_of_ne same]
                  exact atRest other
              rcases inductionHypothesis later restOnce
                  (fun entry member =>
                    allowed entry (List.mem_cons_of_mem _ member))
                  restWaiting restAtRest with
                ⟨second, afterwards, runSecond, concluded, kept, endsSecond⟩
              refine ⟨first ++ second, afterwards, runFirst.append runSecond,
                ?_, ?_, ?_⟩
              · intro entry member
                rcases List.mem_cons.mp member with rfl | isLater
                · rw [kept client unserved, Function.update_self]
                · exact concluded entry isLater
              · intro other notServed
                rw [List.map_cons, List.mem_cons, not_or] at notServed
                rw [kept other notServed.2, Function.update_of_ne notServed.1]
              · intro endings unanswered
                have earlier := endsFirst endings (unanswered client)
                have later :=
                  endsSecond (first.foldl Endings.after endings)
                    (by rw [earlier]; exact unanswered)
                rw [List.foldl_append, later, earlier, List.append_assoc]
                rfl

/-- Executing calls one by one is a run whose transactions do not overlap. -/
theorem exists_isolated_run
    {final : σ}
    (run : Run system.AtomicStep start (served.map Prod.snd) final)
    (once : (served.map Prod.fst).Nodup)
    (allowed : ∀ entry ∈ served, pool entry.1 entry.2.call) :
    ∃ labels,
      ∃ jobs : Jobs Client system,
        Run (IsolatedStep pool) (.start start fun _ => true) labels jobs ∧
          jobs.committed = final ∧
            jobs.ServedBy start served ∧ endedCalls labels = served := by
  have exists_run :
      ∃ labels afterwards,
        Run (IsolatedStep pool)
            (⟨.quiescent start, fun _ => .waiting⟩ : Jobs Client system) labels
            ⟨.quiescent final, afterwards⟩ ∧
          (∀ entry ∈ served, afterwards entry.1 = entry.2.concluded) ∧
            (∀ client, client ∉ served.map Prod.fst →
              afterwards client = .waiting) ∧
              ∀ endings : Endings Client Failure Result,
                (∀ client, endings.answered client = none) →
                  labels.foldl Endings.after endings =
                    { endings with ended := endings.ended ++ served } :=
    exists_isolated_run_of_atomic run once allowed (fun _ _ => rfl)
      (fun _ => trivial)
  rcases exists_run with
    ⟨labels, afterwards, isolated, concluded, kept, ends⟩
  have inOrder : endedCalls labels = served := by
    rw [endedCalls, ends .start fun _ => rfl]
    exact List.nil_append served
  refine ⟨labels, ⟨.quiescent final, afterwards⟩, isolated, rfl, ⟨run, once,
    fun client answer => ⟨fun member => ?_, fun concludes => ?_⟩⟩, inOrder⟩
  · have isConcluded : afterwards client = answer.concluded :=
      concluded (client, answer) member
    change (afterwards client).Concludes answer
    rw [isConcluded]
    exact answer.concludes_concluded
  · change (afterwards client).Concludes answer at concludes
    by_cases isServed : client ∈ served.map Prod.fst
    · obtain ⟨⟨_, given⟩, member, rfl⟩ := List.mem_map.mp isServed
      rw [concluded _ member] at concludes
      exact concludes.unique given.concludes_concluded ▸ member
    · rw [kept client isServed] at concludes
      cases concludes

/-- While transactions do not overlap, calls are executed one by one. -/
structure Jobs.Isolated
    (start : σ)
    (jobs : Jobs Client system)
    (endings : Endings Client Failure Result) :
    Prop where
  settles : ∀ client, jobs.toConfig.Settles client (jobs.progress client)
  follow : endings.Follow jobs.progress
  served : jobs.ServedBy start endings.ended

omit [DecidableEq Client] [DecidableEq Resource] in
/-- No client has begun. -/
theorem isolated_start :
    (Jobs.start start (fun _ => true) : Jobs Client system).Isolated start
      .start where
  settles := fun _ => .rest trivial ⟨rfl, rfl, rfl⟩
  follow := fun _ => rfl
  served := by
    refine ⟨.nil _, List.nodup_nil, fun client answer => ?_⟩
    refine iff_of_false List.not_mem_nil ?_
    intro concludes
    cases concludes

/-! ## Steps while nobody interferes -/

variable
  {progresses afterwards : Client → Progress Failure Result}

omit [DecidableEq Resource] in
/-- A client is where its step leaves it. -/
theorem Config.Settles.update
    (settles : config.Settles client progress) :
    config.Settles client (Function.update progresses client progress client) := by
  rw [Function.update_self]
  exact settles

omit [DecidableEq Resource] in
/-- A client that is clear begins its call on what was committed. -/
theorem Config.Settles.calls
    {call : Call}
    (clear : config.Clear client) :
    (config.enter client
        (.issuing call (config.writes client) (system.body call))).Settles
      client (.running call) := by
  have sees : config.sees client = config.committed := by
    rw [Config.sees, Ledger.view, clear.writes]
    rfl
  refine .running ?_
  rw [Config.phases_enter_self]
  change some _ = some _
  congr 2
  exact congrArg _ sees

omit [DecidableEq Resource] in
/-- A call that has returned or raised answers what evaluating it answers. -/
theorem Config.Settles.returns
    {call : Call}
    {before : List Write}
    {answer : Except Failure (Result call)}
    (settles : config.Settles client (.running call))
    (issuing :
      config.phases client = .issuing call before (Prog.ofExcept answer)) :
    (config.enter client .idle).Settles client (.returned call answer) := by
  have outcome := settles.outcome
  rw [issuing, Phase.outcome?, Option.some.injEq, Sigma.mk.injEq] at outcome
  have ran := eq_of_heq outcome.2
  refine .returned Config.phases_enter_self (ran.symm.trans ?_)
  cases answer <;> rfl

omit [DecidableEq Client] [DecidableEq Resource] in
/-- What a transaction that ends leaves is what executing its call leaves. -/
theorem Config.Settles.ran
    {call : Call}
    {answer : Except Failure (Result call)}
    (settles : config.Settles client (.returned call answer)) :
    config.phases client = .idle ∧
      system.runs call config.committed = (answer, config.sees client) := by
  cases settles with
  | rest atRest => cases atRest
  | returned idle ran => exact ⟨idle, ran⟩

/-- Where the client that takes a step is afterwards, and who is served. -/
theorem Jobs.ServedBy.step
    {endings : Endings Client Failure Result}
    (unordered :
      ∀ statement,
        (system.engine.execution statement).Unordered system.engine.apply)
    (servedBy : Jobs.ServedBy start ⟨config, progresses⟩ endings.ended)
    (follow : endings.Follow progresses)
    (settles : config.Settles event.client (progresses event.client))
    (step : Step pool config event next)
    (moves : Progress.Moves progresses event afterwards) :
    next.Settles event.client (afterwards event.client) ∧
      Jobs.ServedBy start ⟨next, afterwards⟩ (endings.after event).ended := by
  cases moves with
  | free isFree =>
      rw [isFree] at settles
      cases settles with
      | rest atRest => cases atRest
  | issues =>
      obtain ⟨committed, settled⟩ :=
        settles.goesOn unordered step (.issues _)
      exact ⟨settled, committed ▸ servedBy.run, servedBy.once,
        servedBy.concluded⟩
  | visits =>
      obtain ⟨committed, settled⟩ :=
        settles.goesOn unordered step (.visits _)
      exact ⟨settled, committed ▸ servedBy.run, servedBy.once,
        servedBy.concluded⟩
  | finishes =>
      obtain ⟨committed, settled⟩ :=
        settles.goesOn unordered step .finishes
      exact ⟨settled, committed ▸ servedBy.run, servedBy.once,
        servedBy.concluded⟩
  | @calls client call waiting =>
      have silent : ∀ given, ¬(progresses client).Concludes given :=
        Progress.not_concludes (by rw [waiting]; rfl)
      rw [Event.client, waiting] at settles
      cases step with
      | calls =>
          exact ⟨.update (.calls (settles.clear trivial)),
            servedBy.of_silent rfl rfl silent (Progress.not_concludes rfl)⟩
  | @returns client call answer running =>
      have silent : ∀ given, ¬(progresses client).Concludes given :=
        Progress.not_concludes (by rw [running]; rfl)
      have silentLater :
          ∀ given, ¬Progress.Concludes (.returned call answer) given :=
        Progress.not_concludes rfl
      rw [Event.client, running] at settles
      cases step with
      | returned issuing =>
          exact ⟨.update (settles.returns issuing),
            servedBy.of_silent rfl rfl silent silentLater⟩
      | raised issuing =>
          exact ⟨.update (settles.returns issuing),
            servedBy.of_silent rfl rfl silent silentLater⟩
  | @commits client call value returned =>
      have silent : ∀ given, ¬(progresses client).Concludes given :=
        Progress.not_concludes (by rw [returned]; rfl)
      rw [Event.client, returned] at settles
      obtain ⟨idle, ran⟩ := settles.ran
      have answered : endings.answered client = some ⟨call, .ok value⟩ := by
        rw [follow client, returned]
        rfl
      rw [Endings.after, Endings.ended_leave answered rfl]
      cases step with
      | commit =>
          have clear : (config.conclude client).Clear client :=
            ⟨idle, Ledger.writes_commit_self, Ledger.locks_commit_self⟩
          exact ⟨.update (.rest trivial clear),
            servedBy.concluding (system.executes_of_ok ran) rfl silent
              .committed⟩
  | @interrupted client call running =>
      have silent : ∀ given, ¬(progresses client).Concludes given :=
        Progress.not_concludes (by rw [running]; rfl)
      have unanswered : endings.answered client = none := by
        rw [follow client, running]
        rfl
      rw [Endings.after, Endings.ended_leave_of_not (by simp [unanswered])]
      cases step with
      | rollback =>
          exact ⟨.update (.rest trivial Contract.clear_abandon),
            servedBy.of_silent rfl rfl silent (Progress.not_concludes rfl)⟩
  | @abandons client call answer returned =>
      have silent : ∀ given, ¬(progresses client).Concludes given :=
        Progress.not_concludes (by rw [returned]; rfl)
      rw [Event.client, returned] at settles
      have ran := settles.ran.2
      have answered : endings.answered client = some ⟨call, answer⟩ := by
        rw [follow client, returned]
        rfl
      cases step with
      | rollback =>
          refine ⟨.update (.rest trivial Contract.clear_abandon), ?_⟩
          cases answer with
          | ok value =>
              -- The caller gave up although its call had returned.
              have gaveUp :
                  (endings.leave client
                    fun answered => !answered.isOk).ended = endings.ended :=
                Endings.ended_leave_of_not
                  (by simp [answered, Answered.isOk])
              rw [Endings.after, gaveUp]
              exact servedBy.of_silent rfl rfl silent
                (Progress.not_concludes rfl)
          | error failure =>
              rw [Endings.after, Endings.ended_leave answered rfl]
              exact servedBy.concluding (system.executes_of_error ran) rfl
                silent .raised

omit [DecidableEq Client] [DecidableEq Resource] in
/-- A client that is bound to a single call is never free. -/
theorem Config.Settles.ne_free
    (settles : config.Settles client progress) :
    progress ≠ .free := by
  rintro rfl
  cases settles with
  | rest atRest => exact atRest

/-- A step while no other transaction is open keeps calls atomic. -/
theorem Jobs.Isolated.step
    {endings : Endings Client Failure Result}
    (unordered :
      ∀ statement,
        (system.engine.execution statement).Unordered system.engine.apply)
    (isolated : jobs.Isolated start endings)
    (step : IsolatedStep pool jobs event later) :
    later.Isolated start (endings.after event) := by
  have settles := isolated.settles event.client
  obtain ⟨self, servedLater⟩ :=
    isolated.served.step unordered isolated.follow settles step.job.step
      step.job.moves
  refine ⟨fun client => ?_, isolated.follow.step settles.ne_free step.job.moves,
    servedLater⟩
  by_cases same : client = event.client
  · exact same ▸ self
  · have atRest := step.isolated client same
    have clear := (isolated.settles client).clear atRest
    rw [step.job.moves.of_other same]
    exact .rest atRest (clear.of_other step.job.step same)

/-- A run whose transactions do not overlap is a run of atomic calls. -/
theorem isolated_of_run
    {labels : List (Event Client system)}
    (unordered :
      ∀ statement,
        (system.engine.execution statement).Unordered system.engine.apply)
    (run :
      Run (IsolatedStep pool) (Jobs.start start (fun _ => true)) labels jobs) :
    jobs.Isolated start (labels.foldl Endings.after .start) := by
  refine run.accumulates
    (fun events jobs => jobs.Isolated start (events.foldl Endings.after .start))
    (fun earlier before event after _ isolated step => ?_) isolated_start
  rw [List.foldl_append]
  exact isolated.step unordered step

end Isolated

end Transactional
