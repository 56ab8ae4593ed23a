import EpokAuth.AccountConduct
import EpokAuth.OpenTransaction

namespace EpokAuth

open Transactional

/-!
# Runs of the services under the discipline of accounts

Whatever the clients of a database do with the services, they keep the
discipline; what permitted statements and commits keep holds in every state.
No row is replaced but by a change of the row as it is.
-/

variable
  {Client : Type}
  [DecidableEq Client]
  {env : Environment}
  {pool : Client → ServiceTx → Prop}
  {committed : Store}
  {property : Store → Prop}
  {config : Config Client (services env)}
  {labels : List (Event Client (services env))}

/-- What permitted statements and commits keep of all views. -/
abbrev KeptByAccounts (env : Environment) (property : Store → Prop) : Prop :=
  Protection.Preserves (accountProtection env) (accountPermits env)
    (fun _ => True) (fun _ => True) property

/-- What permitted statements and commits keep holds in every run. -/
theorem account_holds
    (kept : KeptByAccounts env property)
    (established : property committed)
    (run : Run (Step pool) (.quiescent committed) labels config) :
    ((accountDiscipline env).contract env).Holds accountPromise
      (Protection.Everywhere (accountProtection env) property)
      config :=
  Contract.Holds.run
    (Protection.sound (fun _ call _ => account_callKeeps call)
      accountDiscipline_protects (fun _ _ => trivial) kept)
    (.quiescent (Protection.everywhere_quiescent established))
    (fun event _ => event.admitted_trivially) run

/-- Nothing in particular is kept. -/
theorem kept_trivially : KeptByAccounts env fun _ => True where
  point := fun _ _ _ _ _ _ _ _ _ _ => trivial
  visit := fun _ _ _ _ _ _ _ _ _ _ _ _ _ _ _ => trivial
  merge := fun _ _ _ _ _ _ _ _ => trivial

/-- What every client keeps while the services run. -/
abbrev AccountsHold (config : Config Client (services env)) : Prop :=
  ((accountDiscipline env).contract env).Holds accountPromise
    (Protection.Everywhere (accountProtection env) fun _ => True)
    config

theorem AccountsHold.step
    {event : Event Client (services env)}
    {next : Config Client (services env)}
    (holds : AccountsHold config)
    (step : Step pool config event next) :
    AccountsHold next :=
  Contract.Holds.step
    (Protection.sound (fun _ call _ => account_callKeeps call)
      accountDiscipline_protects (fun _ _ => trivial) kept_trivially)
    holds event.admitted_trivially step

/-- Every statement that a client issues is permitted where it is issued. -/
theorem AccountsHold.permitted
    {client : Client}
    {statement : Statement}
    {next : Config Client (services env)}
    (holds : AccountsHold config)
    (step : Step pool config (.issues client statement) next) :
    ∃ call before program issued,
      config.phases client = .issuing call before program ∧
        accountPermits env call
          { view := config.sees client
            locks := config.locks client
            issued := issued }
          statement := by
  cases step with
  | point issuing executes granted =>
      rcases ((holds.stands_in issuing).point trivial executes).1 with
        ⟨issued, _, permitted⟩
      exact ⟨_, _, _, issued, issuing, permitted⟩
  | sweep issuing executes =>
      have stands := holds.stands_in issuing
      cases stands with
      | @issuing _ _ issued _ _ written relies keeps =>
          have executed := keeps (config.sees client) relies trivial
          rw [executes] at executed
          exact ⟨_, _, _, issued, issuing, executed.1⟩

/-- Every statement that is issued in a run is permitted where it is issued. -/
theorem permitted_of_issued
    {client : Client}
    {statement : Statement}
    {next : Config Client (services env)}
    (run : Run (Step pool) (.quiescent committed) labels config)
    (step : Step pool config (.issues client statement) next) :
    ∃ call before program issued,
      config.phases client = .issuing call before program ∧
        accountPermits env call
          { view := config.sees client
            locks := config.locks client
            issued := issued }
          statement :=
  AccountsHold.permitted (account_holds kept_trivially trivial run) step

end EpokAuth
