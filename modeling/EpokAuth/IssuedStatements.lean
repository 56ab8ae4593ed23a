import EpokAuth.RowHistory

namespace Transactional

/-!
# Statements belong to calls

A client issues a statement in the middle of a call whose body may issue it.
What is true of everything that the bodies of calls may issue is therefore true
of every statement of a run, together with the call it belongs to.
-/

variable
  {Client σ Write Resource Target Statement Failure Call : Type}
  {Answer : Statement → Type}
  {Result : Call → Type}
  {system : System σ Write Resource Target Answer Failure Result}

/-- What the rest of the call in progress may issue has a property. -/
def Phase.Issues (property : Call → Statement → Prop) : Phase system → Prop
  | .idle => True
  | .issuing call _ program => Prog.Issues (property call) program
  | .sweeping call _ statement _ _ next =>
      property call statement ∧
        ∀ answer, Prog.Issues (property call) (next answer)

/-- The event with which a statement takes effect, wholly or on one row. -/
def System.TakesEffect
    (system : System σ Write Resource Target Answer Failure Result)
    (statement : Statement)
    (client : Client)
    (event : Event Client system) :
    Prop :=
  match system.engine.execution statement with
  | .point _ _ => event = .issues client statement
  | .sweep _ _ _ _ => ∃ target, event = .visits client target

/-- The rows that a statement writes at once, or where a sweep is now. -/
inductive System.Produces
    (system : System σ Write Resource Target Answer Failure Result)
    (statement : Statement)
    (view : σ) :
    List Write → Prop where
  | point
      {locks : σ → List (Lock Resource)}
      {effect : σ → Answer statement × List Write}
      (executes : system.engine.execution statement = .point locks effect) :
      system.Produces statement view (effect view).2
  | visit
      {targets : σ → List Target}
      {lock : Target → Lock Resource}
      {touch : Target → σ → List Write}
      {answer : Nat → Answer statement}
      (executes :
        system.engine.execution statement = .sweep targets lock touch answer)
      (target : Target) :
      system.Produces statement view (touch target view)

section Steps

variable
  [DecidableEq Client]
  [DecidableEq Resource]
  {pool : Client → Call → Prop}
  {property : Call → Statement → Prop}
  {start config next : Config Client system}
  {client : Client}
  {event : Event Client system}
  {labels : List (Event Client system)}

/-- What a client that acts writes: nothing, or what its statement produces. -/
inductive Acted
    (property : Call → Statement → Prop)
    (config next : Config Client system)
    (client : Client)
    (event : Event Client system) :
    Prop where
  | quiet (sees : next.sees client = config.sees client)
  | writes
      {call : Call}
      {statement : Statement}
      {writes : List Write}
      (inCall : (config.phases client).call? = some call)
      (issued : property call statement)
      (takes : system.TakesEffect statement client event)
      (produces : system.Produces statement (config.sees client) writes)
      (sees :
        next.sees client =
          applyAll system.engine.apply writes (config.sees client))

/-- Every step leaves the calls in progress as their bodies have them. -/
theorem Step.issues
    (step : Step pool config event next)
    (bodies : ∀ call, Prog.Issues (property call) (system.body call))
    (issues : ∀ client, (config.phases client).Issues property)
    (client : Client) :
    (next.phases client).Issues property := by
  by_cases isOther : client ≠ event.client
  · rw [(step.of_other isOther).1]
    exact issues client
  · obtain rfl := not_not.mp isOther
    have stands := issues event.client
    cases step with
    | calls =>
        dsimp only [Event.client]
        rw [Config.phases_enter_self]
        exact bodies _
    | point issuing =>
        dsimp only [Event.client] at stands ⊢
        rw [issuing] at stands
        rw [Config.phases_advance_self]
        exact stands.2 _
    | sweep issuing =>
        dsimp only [Event.client] at stands ⊢
        rw [issuing] at stands
        rw [Config.phases_enter_self]
        exact stands
    | visit sweeping =>
        dsimp only [Event.client] at stands ⊢
        rw [sweeping] at stands
        rw [Config.phases_advance_self]
        exact stands
    | finish sweeping =>
        dsimp only [Event.client] at stands ⊢
        rw [sweeping] at stands
        rw [Config.phases_enter_self]
        exact stands.2 _
    | returned =>
        dsimp only [Event.client]
        rw [Config.phases_enter_self]
        trivial
    | raised =>
        dsimp only [Event.client]
        rw [Config.phases_enter_self]
        trivial
    | commit => exact stands
    | rollback =>
        dsimp only [Event.client]
        rw [Config.phases_abandon_self]
        trivial

/-- In every run, the calls in progress are as their bodies have them. -/
theorem issues_of_run
    (run : Run (Step pool) start labels config)
    (idle : ∀ client, start.phases client = .idle)
    (bodies : ∀ call, Prog.Issues (property call) (system.body call)) :
    ∀ client, (config.phases client).Issues property := by
  refine run.preserves
    (fun state => ∀ client, (state.phases client).Issues property)
    (fun _ _ _ step issues => step.issues bodies issues) ?_
  intro client
  rw [idle client]
  trivial

/-- A client acts by a statement of the call it is in. -/
theorem Step.acted
    (step : Step pool config event next)
    (issues : ∀ client, (config.phases client).Issues property)
    (acts : event.Acts client) :
    Acted property config next client event := by
  obtain rfl := acts.client_eq
  have stands := issues event.client
  cases step with
  | point issuing executes granted =>
      dsimp only [Event.client] at stands ⊢
      rw [issuing] at stands
      refine .writes (issuing ▸ rfl) stands.1 ?_ (.point executes)
        Config.sees_advance_self
      rw [System.TakesEffect, executes]
  | sweep issuing executes => exact .quiet rfl
  | visit sweeping executes granted =>
      dsimp only [Event.client] at stands ⊢
      rw [sweeping] at stands
      refine .writes (sweeping ▸ rfl) stands.1 ?_ (.visit executes _)
        Config.sees_advance_self
      rw [System.TakesEffect, executes]
      exact ⟨_, rfl⟩
  | calls => rcases acts with ⟨_, isAct⟩ | ⟨_, isAct⟩ <;> cases isAct
  | finish => rcases acts with ⟨_, isAct⟩ | ⟨_, isAct⟩ <;> cases isAct
  | returned => rcases acts with ⟨_, isAct⟩ | ⟨_, isAct⟩ <;> cases isAct
  | raised => rcases acts with ⟨_, isAct⟩ | ⟨_, isAct⟩ <;> cases isAct
  | commit => rcases acts with ⟨_, isAct⟩ | ⟨_, isAct⟩ <;> cases isAct
  | rollback => rcases acts with ⟨_, isAct⟩ | ⟨_, isAct⟩ <;> cases isAct

end Steps

end Transactional
