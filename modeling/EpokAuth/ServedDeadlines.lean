import EpokAuth.ServedOrigins
import EpokAuth.SessionStep

namespace EpokAuth

open Transactional

/-!
# Authority ends with its credential

A family of sessions expires a fixed time after the credential it was opened
on, however often it is refreshed.  So a request that acts for a principal acts
less than that time after the account has proved a credential.
-/

/-- Sessions expire for good a fixed time after their authentication. -/
def SessionsEnd
    (settings : AuthSettings)
    (sessions : Table RefreshSession) :
    Prop :=
  ∀ id session, sessions.get? id = some session →
    session.absoluteExpiresAt =
      session.authenticatedAt + seconds settings.refreshAbsoluteTtlSeconds

section Steps

variable
  {settings : AuthSettings}
  {sessions : Table RefreshSession}

theorem SessionsEnd.put
    {session : RefreshSession}
    (ends : SessionsEnd settings sessions)
    (expires :
      session.absoluteExpiresAt =
        session.authenticatedAt + seconds settings.refreshAbsoluteTtlSeconds) :
    SessionsEnd settings (sessions.put session) := by
  intro id other found
  rw [Table.get?_put] at found
  split at found
  · obtain rfl := Option.some.inj found
    exact expires
  · exact ends id other found

/-- A rotation hands the deadline on, and a new family gets its own. -/
theorem SessionStep.sessionsEnd
    {core : Core}
    (step : SessionStep settings core sessions)
    (ends : SessionsEnd settings core.sessions) :
    SessionsEnd settings sessions := by
  cases step with
  | kept => exact ends
  | @revoked revokedAt property keepsKey unrevoked =>
      intro id session found
      rw [Table.get?_revise, Option.map_eq_some_iff] at found
      obtain ⟨earlier, present, rfl⟩ := found
      have expires := ends id earlier present
      split
      · exact expires
      · exact expires
  | @opened session enabled =>
      obtain ⟨_, _, _, authenticated, expires, _⟩ := enabled
      exact ends.put (authenticated ▸ expires)
  | @rotated session successor now found enabled =>
      obtain ⟨parent, _, foundToo, _, _, _, _, _, _, _, _, _, _, _, expires,
        authenticated⟩ := enabled
      obtain rfl := Option.some.inj (found.symm.trans foundToo)
      have parentEnds := ends session.id session found
      refine (ends.put ?_).put ?_
      · rw [expires, authenticated]
        exact parentEnds
      · exact parentEnds

theorem ServiceStep.sessionsEnd
    {env : Environment}
    {before after : Store}
    {executed : Executed}
    (step : ServiceStep env before executed after)
    (ends : SessionsEnd env.settings before.sessions) :
    SessionsEnd env.settings after.sessions := by
  obtain ⟨moves, effect⟩ := step.effect
  refine effect.performs.preserves
    (fun core => SessionsEnd env.settings core.sessions) ?_ ends
  intro move _ core enabled endsInCore
  exact (Move.sessionStep enabled).sessionsEnd endsInCore

end Steps

section Runs

variable
  {Client : Type}
  [DecidableEq Client]
  {deployment : Deployment}
  {initial : World}
  {client : Client}
  {head : HttpRequest}
  {endpoint : Endpoint}
  {labels : List (WebLabel Client)}

/-- Every session that a run leaves stored expires in time. -/
theorem sessionsEnd_of_run
    {finish : WebState Client}
    (run : ServerRun deployment.server initial labels finish)
    (fresh : ∀ id, initial.store.sessions.get? id = none) :
    SessionsEnd deployment.settings finish.state.store.sessions := by
  refine deployment.showing_faithful.accumulates run
    (fun _ store => SessionsEnd deployment.settings store.sessions) ?_ ?_ ?_
  · exact fun _ _ _ ends => ends
  · intro _ before _ after executed _ _ _ made ends
    exact made.sessionsEnd ends
  · intro id session found
    cases (fresh id).symm.trans found

/-- The account of a principal proved a credential when it authenticated. -/
def HasProved
    (deployment : Deployment)
    (initial : World)
    (principal : Principal)
    (labels : List (WebLabel Client)) :
    Prop :=
  PassesMade deployment.showing (ServiceStep deployment.toEnvironment)
    (ServerStep deployment.server) (.opened initial)
    (fun _ before executed _ =>
      ∃ user draws,
        Grounds deployment.toEnvironment before executed.tx user ∧
          user.id = principal.userId ∧
          executed.tx.opening = some draws ∧
          draws.familyId = principal.familyId ∧
          executed.tx.clock = some principal.authenticatedAt)
    labels

/--
Whatever protected transaction a request makes, it was authenticated as the
principal that it makes it for, whose account had proved a credential earlier
in the run, and it read the clock before the sessions of that credential had to
end.
-/
theorem authority_ends_with_credential
    {before after : WebState Client}
    {tx : ServiceTx}
    {answer : Except Failure tx.Answer}
    (run : ServerRun deployment.server initial labels before)
    (step :
      ServerStep deployment.server before
        (.performed client (.http head endpoint) ⟨.transaction tx, answer⟩)
        after)
    (needed : tx.authority ≠ .anyone)
    (fresh : ∀ id, initial.store.sessions.get? id = none) :
    ∃ principal now,
      WasAuthenticated deployment initial client head endpoint labels
          principal ∧
        tx.authority.IsOf deployment principal ∧
        HasProved deployment initial principal labels ∧
        PerformedIn deployment initial client head endpoint labels
          ⟨.clock, now⟩ (fun world => world.now = now) ∧
        now <
          principal.authenticatedAt +
            seconds deployment.settings.refreshAbsoluteTtlSeconds := by
  obtain ⟨trail, permitted, performed, _⟩ :=
    run.permitted deployment.server_conducts step
  have permitted : MayMake deployment head trail tx := permitted
  obtain ⟨principal, authenticated, isOf⟩ :=
    (Entitled.of_shows permitted.shows performed).exists_principal needed
  obtain ⟨origin, hasOrigin, _, sameUser, sameFamily, sameTime⟩ :=
    authenticated.exists_origin fresh
  have known := authenticated
  obtain ⟨_, _, now, user, session, _, _, _, clock, looked, _, valid, rfl⟩ :=
    authenticated
  refine ⟨_, now, known, isOf, ?_, clock, ?_⟩
  · refine hasOrigin.root.mono ?_
    rintro _ _ executed _ ⟨owner, draws, grounds, isOwner, opening, family, at_⟩
    exact ⟨owner, draws, grounds, isOwner.trans sameUser, opening,
      family.trans sameFamily, at_.trans (congrArg some sameTime)⟩
  · obtain ⟨earlier, label, later, store, _, rfl, reached, _, _, _, found⟩ :=
      looked
    have ends := sessionsEnd_of_run reached fresh _ session found
    simp only [RefreshSession.isValidFor, RefreshSession.isActive,
      Bool.and_eq_true, decide_eq_true_eq] at valid
    have active : now < session.absoluteExpiresAt := valid.1.1.1.1.2
    rw [ends] at active
    exact active

/-- The accounts were listed while the administrator's sign-in was good. -/
theorem authority_ends_with_credential_listing :
    ∃ (labels : List (WebLabel Nat)) (principal : Principal) (now : Instant),
      WasAuthenticated browserDeployment administratorCreated 1
          administratorRequest (.listUsers 10 0) labels principal ∧
        Authority.IsOf browserDeployment principal .administrator ∧
        HasProved browserDeployment administratorCreated principal labels ∧
        PerformedIn browserDeployment administratorCreated 1
          administratorRequest (.listUsers 10 0) labels ⟨.clock, now⟩
          (fun world => world.now = now) ∧
        now <
          principal.authenticatedAt +
            seconds browserDeployment.settings.refreshAbsoluteTtlSeconds := by
  obtain ⟨before, after, run, step⟩ :=
    Deployment.exists_step_of_isScript
      (by decide +kernel :
        browserDeployment.isScript true .invalid administratorScript
            administratorCreated [] =
          true)
      (rfl : _ = [_, _, _, _, _, _, _, _] ++ _ :: [_])
  exact ⟨_, authority_ends_with_credential run step
    (by decide : ServiceTx.authority (.listUsers 10 0) ≠ .anyone) fun _ => rfl⟩

end Runs

end EpokAuth
