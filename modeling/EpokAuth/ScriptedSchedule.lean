import EpokAuth.ReadCommitted

namespace Transactional

/-!
# Scripted schedules

A script says which client goes on next.  Executing it takes the one step that
the client can take, unless the client waits for a lock; what results is a run.
-/

variable
  {Client σ Write Resource Target Statement Failure Call : Type}
  {Answer : Statement → Type}
  {Result : Call → Type}
  [DecidableEq Client]
  [DecidableEq Resource]
  {system : System σ Write Resource Target Answer Failure Result}

/-- What a script lets a client do. -/
inductive Command (Client Call : Type) where
  | call (client : Client) (call : Call)
  | proceed (client : Client)
  | commit (client : Client)
  | rollBack (client : Client)

/-- A transaction of one call, with the number of its steps. -/
def transaction
    (client : Client)
    (call : Call)
    (steps : Nat) :
    List (Command Client Call) :=
  .call client call :: List.replicate steps (.proceed client) ++
    [.commit client]

/-- Whether nobody else on a list excludes some locks. -/
def Ledger.grants?
    (clients : List Client)
    (ledger : Ledger Client σ Write Resource)
    (client : Client)
    (locks : List (Lock Resource)) :
    Bool :=
  clients.all fun other =>
    other = client ||
      (ledger.locks other).all fun held =>
        locks.all fun lock => !held.conflicts lock

theorem Ledger.grants_of_grants?
    {clients : List Client}
    {ledger : Ledger Client σ Write Resource}
    {client : Client}
    {locks : List (Lock Resource)}
    (complete : ∀ client, client ∈ clients)
    (granted : ledger.grants? clients client locks = true) :
    ledger.Grants client locks := by
  intro other different held heldMember lock lockMember
  have checked := List.all_eq_true.mp granted other (complete other)
  rw [Bool.or_eq_true, decide_eq_true_eq] at checked
  have all := checked.resolve_left different
  have free :=
    List.all_eq_true.mp (List.all_eq_true.mp all held heldMember) lock
      lockMember
  simpa using free

namespace Config

variable
  (clients : List Client)
  (allowed : Client → Call → Bool)
  (config : Config Client system)

/-- The step that a client in the middle of a call takes next. -/
def proceed (client : Client) :
    Option (Event Client system × Config Client system) :=
  match config.phases client with
  | .idle => none
  | .issuing call _ (.done value) =>
      some (.returns client call (.ok value), config.enter client .idle)
  | .issuing call _ (.fail failure) =>
      some (.returns client call (.error failure), config.enter client .idle)
  | .issuing call before (.call statement next) =>
      match system.engine.execution statement with
      | .point locks effect =>
          if config.toLedger.grants? clients client
              (locks (config.sees client)) then
            some
              (.issues client statement,
                config.advance client
                  (.issuing call before
                    (next (effect (config.sees client)).1))
                  (locks (config.sees client)) (effect (config.sees client)).2)
          else
            none
      | .sweep targets _ _ _ =>
          some
            (.issues client statement,
              config.enter client
                (.sweeping call before statement
                  (targets (config.sees client)) 0 next))
  | .sweeping call before statement [] visited next =>
      match system.engine.execution statement with
      | .point _ _ => none
      | .sweep _ _ _ answer =>
          some
            (.finishes client,
              config.enter client
                (.issuing call before (next (answer visited))))
  | .sweeping call before statement (target :: later) visited next =>
      match system.engine.execution statement with
      | .point _ _ => none
      | .sweep _ lock touch _ =>
          if config.toLedger.grants? clients client [lock target] then
            some
              (.visits client target,
                config.advance client
                  (.sweeping call before statement later
                    (visited +
                      if (touch target (config.sees client)).isEmpty then 0
                      else 1)
                    next)
                  [lock target] (touch target (config.sees client)))
          else
            none

/-- The step that a command asks for. -/
def obey :
    Command Client Call →
      Option (Event Client system × Config Client system)
  | .call client call =>
      match config.phases client with
      | .idle =>
          if allowed client call then
            some
              (.calls client call,
                config.enter client
                  (.issuing call (config.writes client) (system.body call)))
          else
            none
      | _ => none
  | .proceed client => config.proceed clients client
  | .commit client =>
      match config.phases client with
      | .idle => some (.commits client, config.conclude client)
      | _ => none
  | .rollBack client => some (.rollsBack client, config.abandon client)

end Config

/-- The steps that a script asks for, up to the first one that must wait. -/
def obeyAll
    (clients : List Client)
    (allowed : Client → Call → Bool) :
    List (Command Client Call) → Config Client system →
      List (Event Client system) × Config Client system
  | [], config => ([], config)
  | command :: rest, config =>
      match config.obey clients allowed command with
      | none => ([], config)
      | some (event, next) =>
          let later := obeyAll clients allowed rest next
          (event :: later.1, later.2)

section Soundness

variable
  {clients : List Client}
  {allowed : Client → Call → Bool}
  {config next : Config Client system}
  {client : Client}
  {event : Event Client system}

theorem step_of_proceed
    {pool : Client → Call → Prop}
    (complete : ∀ client, client ∈ clients)
    (proceeds : config.proceed clients client = some (event, next)) :
    Step pool config event next := by
  unfold Config.proceed at proceeds
  split at proceeds
  · cases proceeds
  · rename_i issuing
    cases proceeds
    exact .returned issuing
  · rename_i issuing
    cases proceeds
    exact .raised issuing
  · rename_i issuing
    split at proceeds
    · rename_i executes
      split at proceeds
      · rename_i granted
        cases proceeds
        exact .point issuing executes
          (Ledger.grants_of_grants? complete granted)
      · cases proceeds
    · rename_i executes
      cases proceeds
      exact .sweep issuing executes
  · rename_i sweeping
    split at proceeds
    · cases proceeds
    · rename_i executes
      cases proceeds
      exact .finish sweeping executes
  · rename_i call before statement target later visited following sweeping
    -- The script visits the rows in the order in which they were chosen.
    have shaped :
        config.phases client =
          .sweeping call before statement ([] ++ target :: later) visited
            following :=
      sweeping
    split at proceeds
    · cases proceeds
    · rename_i executes
      split at proceeds
      · rename_i granted
        cases proceeds
        exact .visit shaped executes
          (Ledger.grants_of_grants? complete granted)
      · cases proceeds

/-- Whoever obeys a command takes a step. -/
theorem step_of_obey
    {pool : Client → Call → Prop}
    {command : Command Client Call}
    (complete : ∀ client, client ∈ clients)
    (pooled : ∀ client call, allowed client call = true → pool client call)
    (obeys : config.obey clients allowed command = some (event, next)) :
    Step pool config event next := by
  cases command with
  | call caller call =>
      simp only [Config.obey] at obeys
      split at obeys
      · rename_i idle
        split at obeys
        · rename_i isAllowed
          cases obeys
          exact .calls idle (pooled _ _ isAllowed)
        · cases obeys
      · cases obeys
  | proceed proceeding =>
      exact step_of_proceed complete obeys
  | commit committer =>
      simp only [Config.obey] at obeys
      split at obeys
      · rename_i idle
        cases obeys
        exact .commit idle
      · cases obeys
  | rollBack leaver =>
      cases obeys
      exact .rollback

/-- Executing a script is a run. -/
theorem run_obeyAll
    {pool : Client → Call → Prop}
    (complete : ∀ client, client ∈ clients)
    (pooled : ∀ client call, allowed client call = true → pool client call)
    (script : List (Command Client Call))
    (config : Config Client system) :
    Run (Step pool) config (obeyAll clients allowed script config).1
      (obeyAll clients allowed script config).2 := by
  induction script generalizing config with
  | nil =>
      exact .nil config
  | cons command rest inductionHypothesis =>
      unfold obeyAll
      split
      · exact .nil config
      · rename_i event next obeys
        exact .cons (step_of_obey complete pooled obeys)
          (inductionHypothesis next)

end Soundness

end Transactional
