import EpokAuth.CredentialFence

namespace EpokAuth

open Transactional

/-!
# Credential replacement along a run

A run fences the sessions opened under replaced passwords exactly when none of
its Google logins links an account that has a live session.
-/

section Events

variable
  (env : Environment)
  (start finish : Store)
  (labels : List Executed)

/-- A step of a run replaces the password of an account. -/
structure PasswordReplaced
    (before after : Store)
    (userId : Uuid) :
    Prop where
  replaced :
    ∃ first executed second,
      labels = first ++ executed :: second ∧
        ServiceRun env start first before ∧
        ServiceStep env before executed after ∧
        ServiceRun env after second finish ∧
        executed.Replaces env.toDependencies before userId

/-- A Google login links an account that has a live session. -/
def autoLinksLive : List Executed → Store → Executed → Prop :=
  fun _ before executed =>
    ∃ userId,
      executed.AutoLinks env.toDependencies before userId ∧
        HasLiveSession before.toCore userId

/--
Replaced passwords leave no session behind, and a family that had a session
while the password was temporary does not outlive that password.
-/
structure CredentialsFenced : Prop where
  revokes :
    ∀ before after userId,
      PasswordReplaced env start finish labels before after userId →
      RevokedSince before.toCore after.toCore userId
  outdated :
    ∀ before after userId id session,
      PasswordReplaced env start finish labels before after userId →
      before.sessions.get? id = some session →
      session.userId = userId →
      DeadFamily finish.sessions session.familyId
  temporary :
    ∀ first second middle id session user,
      labels = first ++ second →
      ServiceRun env start first middle →
      ServiceRun env middle second finish →
      middle.sessions.get? id = some session →
      middle.users.get? session.userId = some user →
      user.mustChangePassword = true →
      DeadFamily finish.sessions session.familyId ∨
        ∃ later,
          finish.users.get? session.userId = some later ∧
            later.mustChangePassword = true

end Events

variable
  {env : Environment}
  {start middle finish : Store}
  {first second labels : List Executed}

/-- A step of a run without the event does not bring it about. -/
theorem not_event_of_not_passes
    {event : List Executed → Store → Executed → Prop}
    {before after : Store}
    {executed : Executed}
    (spared :
      ¬ Passes (ServiceStep env) start event
        (first ++ executed :: second))
    (run : ServiceRun env start first before)
    (step : ServiceStep env before executed after) :
    ¬ event first before executed := by
  intro happens
  refine spared ?_
  rw [List.append_cons]
  exact (Passes.last run step happens).append second

/-- A temporary password lasts, or the families of its sessions end. -/
theorem deadFamily_or_temporary
    {id : Uuid}
    {session : RefreshSession}
    {user : UserAccount}
    (reachable : ServiceReachable env start)
    (spared :
      ¬ Passes (ServiceStep env) start (autoLinksLive env)
        (first ++ second))
    (before : ServiceRun env start first middle)
    (after : ServiceRun env middle second finish)
    (found : middle.sessions.get? id = some session)
    (account : middle.users.get? session.userId = some user)
    (temporary : user.mustChangePassword = true) :
    DeadFamily finish.sessions session.familyId ∨
      ∃ later,
        finish.users.get? session.userId = some later ∧
          later.mustChangePassword = true := by
  induction after generalizing first id session user with
  | nil last =>
      exact .inr ⟨user, account, temporary⟩
  | @cons current next last executed rest step later inductionHypothesis =>
      by_cases replaces :
          executed.Replaces env.toDependencies current session.userId
      · left
        have notLinked := not_event_of_not_passes spared before step
        have dead :=
          ServiceStep.deadFamily_of_replaces (reachable.extend before) step
            replaces (fun linked => notLinked ⟨session.userId, linked⟩)
            ⟨found, rfl⟩
        exact (ServiceRun.deadFamily later dead).1
      · rcases step.mustChangePassword replaces account temporary with
          ⟨changed, foundChanged, must⟩
        rcases ServiceRun.sessionsContinue (.single step) id session found with
          ⟨after, foundAfter, continues⟩
        rw [← continues.same RefreshSession.userId fun _ _ _ _ => rfl]
          at foundChanged ⊢
        rw [← continues.same RefreshSession.familyId fun _ _ _ _ => rfl]
        rw [List.append_cons] at spared
        exact inductionHypothesis spared (before.append (.single step))
          foundAfter foundChanged must

/--
From a reachable store, a run fences the sessions opened under every password
it replaces if and only if none of its Google logins links an account that has
a live session.
-/
theorem credentials_fenced_iff
    (reachable : ServiceReachable env start)
    (run : ServiceRun env start labels finish) :
    CredentialsFenced env start finish labels ↔
      ¬ Passes (ServiceStep env) start (autoLinksLive env) labels := by
  constructor
  · rintro fenced ⟨earlier, executed, later, before, after, rfl, earlierRun,
      step, userId, links, id, live⟩
    rcases run.exists_step with ⟨meets, leaves, reached, stepAgain, rest⟩
    obtain rfl := ServiceRun.functional earlierRun reached
    obtain rfl := step.functional stepAgain
    have replaced :
        executed.Replaces env.toDependencies before userId := by
      rcases links with ⟨passwordHash, cause⟩
      exact ⟨_, cause, trivial⟩
    rcases step.isLive_of_autoLinks links live with
      ⟨survivor, foundAfter, _, unrevoked⟩
    rcases live with ⟨session, found, owned, _⟩
    rcases fenced.revokes before after userId
        ⟨earlier, executed, later, rfl, earlierRun, step, rest, replaced⟩
        id session found owned with
      ⟨revoked, foundToo, isRevoked⟩
    obtain rfl := Option.some.inj (foundAfter.symm.trans foundToo)
    exact isRevoked unrevoked
  · intro spared
    have ended :
        ∀ before after userId id session,
          PasswordReplaced env start finish labels before after userId →
          before.sessions.get? id = some session →
          session.userId = userId →
          DeadFamily after.sessions session.familyId := by
      rintro before after _ id session ⟨earlier, executed, later, rfl,
        earlierRun, step, _, replaces⟩ found rfl
      have notLinked := not_event_of_not_passes spared earlierRun step
      exact ServiceStep.deadFamily_of_replaces (reachable.extend earlierRun)
        step replaces (fun linked => notLinked ⟨session.userId, linked⟩)
        ⟨found, rfl⟩
    exact
      { revokes := by
          intro before after userId replaced
          rcases id replaced with
            ⟨_, _, _, _, _, step, _, _⟩
          exact step.revokedSince fun id session found owned =>
            ended before after userId id session replaced found owned
        outdated := by
          intro before after userId id session replaced found owned
          have dead := ended before after userId id session replaced found owned
          rcases replaced with ⟨_, _, _, _, _, _, rest, _⟩
          exact (ServiceRun.deadFamily rest dead).1
        temporary := by
          rintro first second middle id session user rfl before after found
            account must
          exact deadFamily_or_temporary reachable spared before after found
            account must }

/-- An account whose temporary password was used to log in. -/
def temporaryLogin : List ServiceTx :=
  [ .createUser 1 "user@gmail.com" "User" "temporary" [] [] true 0 {},
    .login "user@gmail.com" "temporary" 10 {} 0
      { sessionId := 2, familyId := 3, refreshToken := "first"
        csrfToken := "csrf", tokenId := 4 } ]

/-- The store with the session of the temporary password. -/
def temporaryStore : Store :=
  (executeAll referenceEnvironment temporaryLogin {}).2

/-- An administrator resets the password once more. -/
def temporaryReset : List ServiceTx :=
  [.resetPassword 1 "another" 20 {}]

/-- The reset ends the session that was opened before it. -/
theorem credentials_fenced_temporaryReset :
    CredentialsFenced referenceEnvironment temporaryStore
        (executeAll referenceEnvironment temporaryReset temporaryStore).2
        (executeAll referenceEnvironment temporaryReset temporaryStore).1 ∧
      ((executeAll referenceEnvironment temporaryReset
          temporaryStore).2.sessions.get? 2).map RefreshSession.revokedAt =
        some (some 20) := by
  refine ⟨(credentials_fenced_iff (reachable_executeAll (by decide))
    (run_executeAll (by decide))).mpr ?_, by decide⟩
  rintro ⟨first, executed, second, _, _, split, _, _, _, ⟨_, cause⟩, _⟩
  have inScript : executed.tx ∈ temporaryReset :=
    mem_of_split_executeAll split
  cases cause with
  | autoLinked _ _ => simp [temporaryReset] at inScript

/-- The account is linked by logging in with its Google identity. -/
def autoLinking : List ServiceTx :=
  [ .googleLogin
      { issuer := googleIssuer, subject := "subject"
        email := some "user@gmail.com", emailVerified := true }
      20 {}
      { unusablePassword := "unusable", salt := 0, userId := 5
        identityId := 6
        session :=
          { sessionId := 7, familyId := 8, refreshToken := "second"
            csrfToken := "csrf", tokenId := 9 } } ]

/--
The session of the temporary password survives the login that replaces the
password, and is a full session from then on.
-/
theorem credentials_not_fenced_autoLinking :
    ServiceReachable referenceEnvironment temporaryStore ∧
      ServiceRun referenceEnvironment temporaryStore
        (executeAll referenceEnvironment autoLinking temporaryStore).1
        (executeAll referenceEnvironment autoLinking temporaryStore).2 ∧
      ((executeAll referenceEnvironment autoLinking
          temporaryStore).2.sessions.get? 2).map RefreshSession.revokedAt =
        some none ∧
      ((executeAll referenceEnvironment autoLinking
          temporaryStore).2.users.get? 1).map UserAccount.mustChangePassword =
        some false ∧
      ¬ CredentialsFenced referenceEnvironment temporaryStore
        (executeAll referenceEnvironment autoLinking temporaryStore).2
        (executeAll referenceEnvironment autoLinking temporaryStore).1 := by
  have run :
      ServiceRun referenceEnvironment temporaryStore
        (executeAll referenceEnvironment autoLinking temporaryStore).1
        (executeAll referenceEnvironment autoLinking temporaryStore).2 :=
    run_executeAll (by decide)
  have survives :
      ((executeAll referenceEnvironment autoLinking
          temporaryStore).2.sessions.get? 2).map RefreshSession.revokedAt =
        some none := by
    decide
  have full :
      ((executeAll referenceEnvironment autoLinking
          temporaryStore).2.users.get? 1).map UserAccount.mustChangePassword =
        some false := by
    decide
  refine ⟨reachable_executeAll (by decide), run, survives, full, ?_⟩
  intro fenced
  have opened :
      ∃ session user,
        temporaryStore.sessions.get? 2 = some session ∧
          temporaryStore.users.get? session.userId = some user ∧
          user.mustChangePassword = true ∧
          session.familyId = 3 ∧ session.userId = 1 :=
    ⟨(temporaryStore.sessions.get? 2).get (by decide),
      (temporaryStore.users.get? 1).get (by decide), by decide, by decide,
      by decide, by decide, by decide⟩
  rcases opened with
    ⟨session, user, found, account, must, family, owner⟩
  rcases Option.map_eq_some_iff.mp survives with
    ⟨survivor, foundSurvivor, unrevoked⟩
  rcases Option.map_eq_some_iff.mp full with ⟨changed, foundChanged, unbound⟩
  rcases fenced.temporary [] _ temporaryStore 2 session user
      (List.nil_append _).symm (.nil _) run found account must with
    dead | ⟨later, foundLater, stillMust⟩
  · have inFamily : survivor.familyId = session.familyId := by
      rw [family]
      have families :
          ((executeAll referenceEnvironment autoLinking
              temporaryStore).2.sessions.get? 2).map RefreshSession.familyId =
            some 3 := by
        decide
      rw [foundSurvivor] at families
      exact Option.some.inj families
    exact dead.revoked 2 survivor ⟨foundSurvivor, inFamily⟩ unrevoked
  · rw [owner] at foundLater
    obtain rfl := Option.some.inj (foundChanged.symm.trans foundLater)
    rw [unbound] at stillMust
    cases stillMust

end EpokAuth
