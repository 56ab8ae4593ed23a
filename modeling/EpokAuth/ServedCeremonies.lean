import EpokAuth.RouteCeremonies
import EpokAuth.ServedOrigins
import EpokAuth.TakenChallenges

namespace EpokAuth

open Transactional

/-!
# Which ceremonies a server finishes

Every finished ceremony corresponds to one that was begun, and to no other
finish.  The request that finishes it has taken the challenge itself, under the
origin that the challenge was stored with; the challenge is as the transaction
that began it has stored it; and no other request of the run has taken it.
-/

section Runs

variable
  {Client : Type}
  [DecidableEq Client]
  {Row : Type}
  [Challenge Row]
  [Keyed Row Uuid]

/-- No two transactions of a run of a server begin one challenge. -/
abbrev BegunOnce
    (deployment : Deployment)
    (initial : World)
    (challenges : TakenTable deployment.toEnvironment Row)
    (labels : List (WebLabel Client)) :
    Prop :=
  ∀ id,
    challenges.BegunOnce deployment.showing (ServerStep deployment.server)
      (.opened initial) id labels

/-- A request has taken a challenge that was begun before it, and it alone. -/
def TakenAlone
    (deployment : Deployment)
    (initial : World)
    (challenges : TakenTable deployment.toEnvironment Row)
    (id : Uuid)
    (challenge : Row)
    (label : WebLabel Client)
    (labels : List (WebLabel Client)) :
    Prop :=
  ∃ earlier later,
    labels = earlier ++ label :: later ∧
      (∃ now original,
        challenge = Challenge.consumed now original ∧
          challenges.WasBegun deployment.showing (ServerStep deployment.server)
            (.opened initial) id original earlier) ∧
      ∀ client request tx answer other,
        .performed client request ⟨.transaction tx, .ok answer⟩ ∈
            earlier ++ later →
          challenges.taken tx answer ≠ some (id, other)

variable
  {deployment : Deployment}
  {initial : World}
  {challenges : TakenTable deployment.toEnvironment Row}
  {client : Client}
  {request : Request}
  {labels : List (WebLabel Client)}
  {finish : WebState Client}
  {tx : ServiceTx}
  {id : Uuid}

/-- A performed transaction was a step of the services. -/
theorem serviceStep_of_performed
    {before after : WebState Client}
    {answer : Except Failure tx.Answer}
    (step :
      ServerStep deployment.server before
        (.performed client request ⟨.transaction tx, answer⟩) after) :
    ServiceStep deployment.toEnvironment before.state.store
      { tx := tx, answer := answer } after.state.store :=
  Deployment.Performs.serviceStep step.performs

/-- Of two requests that have taken one challenge, neither is the later one. -/
theorem not_taken_later
    {between : List (WebLabel Client)}
    {before after later last : WebState Client}
    {laterClient : Client}
    {laterRequest : Request}
    {laterTx : ServiceTx}
    {answer : tx.Answer}
    {laterAnswer : laterTx.Answer}
    {challenge other : Row}
    (fresh : (challenges.table initial.store).get? id = none)
    (once :
      challenges.BegunOnce deployment.showing (ServerStep deployment.server)
        (.opened initial) id
        (labels ++
          .performed client request ⟨.transaction tx, .ok answer⟩ :: between))
    (run : ServerRun deployment.server initial labels before)
    (step :
      ServerStep deployment.server before
        (.performed client request ⟨.transaction tx, .ok answer⟩) after)
    (taken : challenges.taken tx answer = some (id, challenge))
    (rest : Run (ServerStep deployment.server) after between later)
    (laterStep :
      ServerStep deployment.server later
        (.performed laterClient laterRequest
          ⟨.transaction laterTx, .ok laterAnswer⟩)
        last) :
    challenges.taken laterTx laterAnswer ≠ some (id, other) := by
  intro takenToo
  have unusable :=
    TakenTable.spent_of_taken deployment.showing_faithful fresh once run step
      (serviceStep_of_performed step) taken rest
  obtain ⟨_, original, found, usable, _⟩ :=
    challenges.takes (serviceStep_of_performed laterStep) takenToo
  exact unusable original found usable

/-- Whatever challenge a request has taken, it has taken alone. -/
theorem takenAlone_of_performed
    {answer : tx.Answer}
    {challenge : Row}
    (run : ServerRun deployment.server initial labels finish)
    (fresh : ∀ id, (challenges.table initial.store).get? id = none)
    (once : BegunOnce deployment initial challenges labels)
    (performed :
      HasPerformed deployment.server initial client request
        ⟨.transaction tx, .ok answer⟩ labels)
    (taken : challenges.taken tx answer = some (id, challenge)) :
    TakenAlone deployment initial challenges id challenge
      (.performed client request ⟨.transaction tx, .ok answer⟩) labels := by
  obtain ⟨earlier, label, later, _, _, rfl, _, _, rfl⟩ := performed
  obtain ⟨before, after, first, step, rest⟩ := run.exists_step
  refine ⟨earlier, later, rfl, ?_, ?_⟩
  · exact TakenTable.begun_of_taken
      (TakenTable.stems_of_faithful deployment.showing_faithful first (fresh id))
      (serviceStep_of_performed step) taken
  · intro someone asked otherTx otherAnswer other member takenToo
    rcases List.mem_append.mp member with isEarlier | isLater
    · obtain ⟨front, between, rfl⟩ := List.mem_iff_append.mp isEarlier
      obtain ⟨state, next, start, otherStep, onward⟩ := first.exists_step
      rw [List.append_assoc, List.cons_append] at once
      rw [← List.cons_append, ← List.append_assoc] at once
      exact not_taken_later (fresh id) (once id).of_append start otherStep
        takenToo onward step taken
    · obtain ⟨between, back, rfl⟩ := List.mem_iff_append.mp isLater
      obtain ⟨state, next, onward, otherStep, _⟩ := rest.exists_step
      rw [← List.cons_append, ← List.append_assoc] at once
      exact not_taken_later (fresh id) (once id).of_append first step taken
        onward otherStep takenToo

/-- Where the application keeps quiet, every challenge that is begun is seen. -/
theorem begunOnce_of_nodup
    (quiet : labels.any isDrift = false)
    (distinct :
      (labels.filterMap
        (readLabel fun executed =>
          (challenges.begun executed.tx).map (key : Row → Uuid))).Nodup) :
    BegunOnce deployment initial challenges labels := by
  intro id
  refine makesOnce_of_nodup quiet distinct fun _ _ executed _ made =>
    (?_ : (challenges.begun executed.tx).map (key : Row → Uuid) = some id)
  obtain ⟨challenge, begins, isKey⟩ := made
  have begins : challenges.begun executed.tx = some challenge := begins
  rw [begins]
  exact congrArg some isKey

/-- What a request has performed in a run, with its challenges taken alone. -/
structure HasTraced
    (deployment : Deployment)
    (initial : World)
    (client : Client)
    (request : Request)
    (labels : List (WebLabel Client))
    (entry : Performed Ask.Answer) :
    Prop where
  performed : HasPerformed deployment.server initial client request entry labels
  passkey : ∀ tx answer id challenge,
    entry = ⟨.transaction tx, .ok answer⟩ →
    tx.takenPasskey answer = some (id, challenge) →
      TakenAlone deployment initial (takenPasskeyTable deployment.toEnvironment)
        id challenge (.performed client request entry) labels
  google : ∀ tx answer id challenge,
    entry = ⟨.transaction tx, .ok answer⟩ →
    tx.takenGoogle answer = some (id, challenge) →
      TakenAlone deployment initial (takenGoogleTable deployment.toEnvironment)
        id challenge (.performed client request entry) labels

/--
Whatever ceremony a request finishes, it rests on a challenge that the very
request has taken, for its own origin: one that was begun earlier in the run,
and that no other request of the run has taken.
-/
theorem ceremonies_finished_once
    {before after : WebState Client}
    {head : HttpRequest}
    {endpoint : Endpoint}
    {answer : Except Failure tx.Answer}
    (run : ServerRun deployment.server initial labels before)
    (step :
      ServerStep deployment.server before
        (.performed client (.http head endpoint) ⟨.transaction tx, answer⟩)
        after)
    (finishes : tx.finishes = true)
    (noPasskeys : ∀ id, initial.store.passkeyChallenges.get? id = none)
    (noGoogle : ∀ id, initial.store.googleChallenges.get? id = none)
    (passkeysOnce :
      BegunOnce deployment initial (takenPasskeyTable deployment.toEnvironment)
        labels)
    (googleOnce :
      BegunOnce deployment initial (takenGoogleTable deployment.toEnvironment)
        labels) :
    ∃ ceremony,
      RestsOn deployment.toEnvironment head
        (HasTraced deployment initial client (.http head endpoint) labels)
        endpoint tx ceremony := by
  obtain ⟨trail, permitted, performed, _⟩ :=
    run.permitted deployment.server_ceremonies step
  obtain ⟨ceremony, rests⟩ := permitted finishes
  refine ⟨ceremony, rests.mono fun entry member => ?_⟩
  have inRun := performed entry member
  refine { performed := inRun, passkey := ?_, google := ?_ }
  · rintro tx answer id challenge rfl taken
    exact takenAlone_of_performed run noPasskeys passkeysOnce inRun taken
  · rintro tx answer id challenge rfl taken
    exact takenAlone_of_performed run noGoogle googleOnce inRun taken

/-! ### A sign-in with a passkey -/

/-- The routes for passkeys are configured, too. -/
def passkeyDeployment : Deployment :=
  { browserDeployment with
    settings :=
      { browserDeployment.settings with passkeyRpId := some "example.test" } }

/-- An administrator with a passkey has an account, and no ceremony has begun. -/
def passkeyRegistered : World where
  store :=
    (executeAll referenceEnvironment
      [ .createAdmin 1 "admin@example.test" "Admin" "password" 0 {},
        .finishRegistration loggedInPrincipal 5 "key" verifiedPasskey 5 {} ]
      {}).2
  now := 10

/-- The administrator signs in with the passkey. -/
def passkeyScript : List Deployment.Next :=
  [ .asks { origin := some "https://example.test" }
      (.beginAuthentication { challengeId := 6, challenge := [7] }),
    .asks { origin := some "https://example.test" }
      (.finishAuthentication 6 (String.ofList [Char.ofNat 1])
        { sessionId := 2, familyId := 3, refreshToken := "refresh"
          csrfToken := "csrf", tokenId := 4 }) ]

/-- The administrator's sign-in rests on the ceremony that it began. -/
theorem ceremonies_finished_once_passkey :
    ∃ (labels : List (WebLabel Nat)) (endpoint : Endpoint) (tx : ServiceTx)
        (ceremony : Ceremony),
      tx.finishes = true ∧
        RestsOn passkeyDeployment.toEnvironment
          { origin := some "https://example.test" }
          (HasTraced passkeyDeployment passkeyRegistered 1
            (.http { origin := some "https://example.test" } endpoint) labels)
          endpoint tx ceremony := by
  obtain ⟨before, after, run, step⟩ :=
    Deployment.exists_step_of_isScript
      (by decide +kernel :
        passkeyDeployment.isScript true .invalid passkeyScript
            passkeyRegistered [] =
          true)
      (rfl : _ = [_, _, _, _, _, _, _] ++ _ :: [_])
  refine ⟨_, _, _, (ceremonies_finished_once run step (by rfl) (fun _ => rfl)
    (fun _ => rfl) (begunOnce_of_nodup ?_ ?_)
    (begunOnce_of_nodup ?_ ?_)).imp fun _ rests => ⟨by rfl, rests⟩⟩
  · decide +kernel
  · decide +kernel
  · decide +kernel
  · decide +kernel

end Runs

end EpokAuth
