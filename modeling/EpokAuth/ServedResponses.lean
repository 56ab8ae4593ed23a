import EpokAuth.MintedSessions
import EpokAuth.RouteConclusions
import EpokAuth.ServedOrigins

namespace EpokAuth

open Transactional

/-!
# Whose session a response carries

A browser is given tokens in one way only: by a response to a request that has
just verified a credential of the account, or presented both tokens of the
session that it replaces.
-/

section Runs

variable
  {Client : Type}
  [DecidableEq Client]
  (deployment : Deployment)
  (initial : World)
  (client : Client)
  (head : HttpRequest)
  (endpoint : Endpoint)

/-- A request made a transaction that stored a session and answered it. -/
def WasMinted
    (bundle : SessionBundle)
    (labels : List (WebLabel Client)) :
    Prop :=
  PassesMade deployment.showing (ServiceStep deployment.toEnvironment)
    (ServerStep deployment.server) (.opened initial)
    (fun label before _ after =>
      ∃ tx answer,
        label =
            .performed client (.http head endpoint)
              ⟨.transaction tx, .ok answer⟩ ∧
          tx.bundle answer = some bundle ∧
          Mints deployment.toEnvironment before tx bundle after)
    labels

variable
  {deployment initial client head endpoint}
  {labels : List (WebLabel Client)}

/-- A bundle that a transaction of a request answered was minted for it. -/
theorem WasMinted.of_performed
    {tx : ServiceTx}
    {answer : tx.Answer}
    {bundle : SessionBundle}
    (performed :
      HasPerformed deployment.server initial client (.http head endpoint)
        ⟨.transaction tx, .ok answer⟩ labels)
    (answered : tx.bundle answer = some bundle) :
    WasMinted deployment initial client head endpoint bundle labels := by
  obtain ⟨earlier, label, later, split, before, after, executed, run, step,
    shown, made, isLabel, rfl⟩ := passesMade_of_performed performed
  have accounts := made.of_wp tx.accounts
  rw [Accounts, answered] at accounts
  exact ⟨earlier, label, later, split, before, after, _, run, step, shown, made,
    tx, answer, isLabel, answered, accounts⟩

/--
Every response of a route is plain, or carries one session, which the request
itself has had stored on the grounds of its transaction, with the very tokens
that the response carries.
-/
theorem responses_carry_own_sessions
    {before after : WebState Client}
    {response : HttpResponse}
    (run : ServerRun deployment.server initial labels before)
    (step :
      ServerStep deployment.server before
        (.answered client (.http head endpoint) response) after) :
    response.IsPlain deployment ∨
      ∃ bundle,
        response.Carries deployment bundle ∧
          WasMinted deployment initial client head endpoint bundle labels := by
  obtain ⟨trail, backed, performed, _⟩ :=
    ServerRun.concluded deployment.server_backs run step
  have backed : response.Backed trail deployment := backed
  rcases backed.session with plain | ⟨bundle, answered, carries⟩
  · exact .inl plain
  · obtain ⟨tx, answer, member, reads⟩ := answered
    exact .inr ⟨bundle, carries,
      .of_performed (performed _ member) reads⟩

/-- The response to the administrator's login carries the session it stored. -/
theorem responses_carry_own_sessions_login :
    ∃ (labels : List (WebLabel Nat)) (head : HttpRequest) (endpoint : Endpoint)
        (response : HttpResponse) (bundle : SessionBundle),
      response.Carries browserDeployment bundle ∧
        WasMinted browserDeployment administratorCreated 0 head endpoint bundle
          labels := by
  obtain ⟨before, after, run, step⟩ :=
    Deployment.exists_step_of_isScript
      (by decide +kernel :
        browserDeployment.isScript true .invalid administratorScript
            administratorCreated [] =
          true)
      (rfl : _ = [_, _, _] ++ _ :: [_, _, _, _, _, _])
  rcases responses_carry_own_sessions run step with plain | carries
  · exact absurd rfl (plain.body _)
  · exact ⟨_, _, _, _, carries⟩

end Runs

end EpokAuth
