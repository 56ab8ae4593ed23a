import EpokAuth.LinearFamily

namespace EpokAuth

open Transactional

/-!
# One-time refresh and the death of a family

A rotated session stays used, so its token never refreshes again.  Presenting
it nevertheless revokes its family, and a family without an unrevoked session
never has one again.
-/

/-! ## Dead families -/

/-- A family that exists and has no session left that is not revoked. -/
structure DeadFamily
    (sessions : Table RefreshSession)
    (familyId : Uuid) :
    Prop where
  inhabited : ∃ id session, IsMember sessions familyId id session
  revoked :
    ∀ id session, IsMember sessions familyId id session →
      session.revokedAt ≠ none

namespace DeadFamily

variable
  {settings : AuthSettings}
  {core : Core}
  {sessions : Table RefreshSession}
  {familyId : Uuid}

/-- A change of the sessions keeps a dead family as it is. -/
theorem step
    (dead : DeadFamily core.sessions familyId)
    (taken : SessionStep settings core sessions) :
    ∀ id session, IsMember sessions familyId id session →
      IsMember core.sessions familyId id session := by
  obtain ⟨⟨first, firstSession, firstMember⟩, revoked⟩ := dead
  rintro id session ⟨found, inFamily⟩
  cases taken with
  | kept =>
      exact ⟨found, inFamily⟩
  | @revoked revokedAt property keepsKey unrevoked =>
      rw [Table.get?_revise, Option.map_eq_some_iff] at found
      obtain ⟨earlier, present, rfl⟩ := found
      split at inFamily
      · rename_i chosen
        exact absurd (unrevoked earlier chosen)
          (revoked id earlier ⟨present, inFamily⟩)
      · rename_i spared
        rw [if_neg spared]
        exact ⟨present, inFamily⟩
  | opened enabled =>
      obtain ⟨_, _, fresh, _⟩ := enabled
      rw [Table.get?_put] at found
      split at found
      · obtain rfl := Option.some.inj found
        exact absurd (firstMember.2.trans inFamily.symm)
          (fresh first firstSession firstMember.1)
      · exact ⟨found, inFamily⟩
  | @rotated parent successor now parentFound enabled =>
      obtain ⟨_, _, foundToo, _, unrevoked, _, _, _, _, _, _, _, sameFamily, _⟩ :=
        enabled
      obtain rfl := Option.some.inj (parentFound.symm.trans foundToo)
      -- a rotated session is not revoked, so its family is another one
      have outside : parent.familyId ≠ familyId := by
        intro inside
        exact revoked parent.id parent ⟨parentFound, inside⟩ unrevoked
      rw [get?_rotated] at found
      split at found
      · obtain rfl := Option.some.inj found
        exact absurd inFamily outside
      · split at found
        · obtain rfl := Option.some.inj found
          exact absurd (sameFamily.symm.trans inFamily) outside
        · exact ⟨found, inFamily⟩

/-- Every enabled move keeps a dead family dead. -/
theorem move
    {move : Move}
    (dead : DeadFamily core.sessions familyId)
    (enabled : move.Enabled settings core) :
    DeadFamily (move.perform settings core).sessions familyId := by
  have taken := Move.sessionStep enabled
  obtain ⟨id, session, member⟩ := dead.inhabited
  obtain ⟨later, found, continues⟩ := taken.continues member.1
  refine ⟨⟨id, later, member.continues found continues⟩, ?_⟩
  intro other otherSession otherMember
  exact dead.revoked other otherSession
    (dead.step taken other otherSession otherMember)

end DeadFamily

/-- A family stays dead, and is never extended, along a run. -/
theorem ServiceRun.deadFamily
    {env : Environment}
    {before after : Store}
    {labels : List Executed}
    {familyId : Uuid}
    (run : ServiceRun env before labels after)
    (dead : DeadFamily before.sessions familyId) :
    DeadFamily after.sessions familyId ∧
      ∀ id session, IsMember after.sessions familyId id session →
        IsMember before.sessions familyId id session := by
  refine ServiceRun.preserves_core run
    (fun core =>
      DeadFamily core.sessions familyId ∧
        ∀ id session, IsMember core.sessions familyId id session →
          IsMember before.sessions familyId id session)
    ?_ ⟨dead, fun _ _ member => member⟩
  rintro move core enabled ⟨coreDead, earlier⟩
  refine ⟨coreDead.move enabled, ?_⟩
  intro other otherSession otherMember
  exact earlier other otherSession
    (coreDead.step (Move.sessionStep enabled) other otherSession otherMember)

/-- No token of a dead family can be refreshed. -/
theorem DeadFamily.not_refreshSucceeds
    {env : Environment}
    {store : Store}
    {familyId id : Uuid}
    {session : RefreshSession}
    {refreshToken : String}
    (reachable : ServiceReachable env store)
    (dead : DeadFamily store.sessions familyId)
    (member : IsMember store.sessions familyId id session)
    (hasToken : session.tokenHash = env.tokenHash refreshToken) :
    ¬ RefreshSucceeds env store refreshToken := by
  rintro ⟨csrfCookie, now, context, draws, bundle, later, executes⟩
  obtain ⟨rotated, _, found, matched, enabled, _⟩ := refresh_rotates executes
  obtain ⟨_, _, foundToo, _, unrevoked, _⟩ := enabled
  obtain rfl := Option.some.inj (found.symm.trans foundToo)
  have same : id = rotated.id :=
    reachable.distinctTokens id session rotated.id rotated member.1 found
      (hasToken.trans matched.symm)
  subst same
  obtain rfl := Option.some.inj (found.symm.trans member.1)
  exact dead.revoked rotated.id rotated member unrevoked

/-- The rows that `authenticate` reads are the stored ones. -/
theorem authenticate_execute
    {env : Environment}
    {store : Store}
    (claims : AccessClaims) :
    (ServiceTx.authenticate claims).execute env store =
      (.ok
          (store.users.get? claims.userId,
            store.sessions.get? claims.sessionId),
        store) :=
  rfl

/-- No access token of a dead family is accepted. -/
theorem DeadFamily.not_authenticated
    {store : Store}
    {familyId : Uuid}
    {claims : AccessClaims}
    {now : Instant}
    (dead : DeadFamily store.sessions familyId)
    (issued : claims.familyId = familyId) :
    authenticateResult claims now
        (store.users.get? claims.userId,
          store.sessions.get? claims.sessionId) =
      .error (.auth invalidSession) := by
  cases store.users.get? claims.userId with
  | none =>
      rfl
  | some user =>
      cases found : store.sessions.get? claims.sessionId with
      | none =>
          rfl
      | some session =>
          have refused :
              session.isValidFor claims.subject now = false := by
            by_cases inFamily : session.familyId = familyId
            · have revoked := dead.revoked _ session ⟨found, inFamily⟩
              simp [RefreshSession.isValidFor, RefreshSession.isActive,
                revoked]
            · have differs : session.familyId ≠ claims.subject.familyId := by
                intro same
                exact inFamily (same.trans issued)
              simp [RefreshSession.isValidFor, differs]
          simp [authenticateResult, refused]

/-! ## Replay -/

/-- A digest matches itself. -/
theorem wp_tokensMatch_self
    {deps : Dependencies}
    {token : String}
    {store : Store}
    {normal : Bool → Store → Prop}
    {failed : Failure → Store → Prop}
    (matched : normal true store) :
    Tx.wp (tokensMatch (deps.tokenHash token) (deps.tokenHash token)) normal
      failed store := by
  have ascii : isAscii (deps.tokenHash token) = true :=
    deps.digest.ascii token
  rw [tokensMatch, secureTokenEquals_tokenHash deps ascii, Tx.wp_ofExcept]
  simpa using matched

/-- Presenting the token of a used session revokes its family. -/
theorem wp_refresh_replayed
    {deps : Dependencies}
    {store : Store}
    {session : RefreshSession}
    {refreshToken csrfCookie : String}
    {now : Instant}
    {context : RequestContext}
    {draws : SessionDraws}
    {normal : Except Failure SessionBundle → Store → Prop}
    {failed : Failure → Store → Prop}
    (presented :
      (store.sessions.find? fun session =>
          session.tokenHash = deps.tokenHash refreshToken) =
        some session)
    (used : session.usedAt ≠ none)
    (unrevoked : session.revokedAt = none)
    (killed :
      ∀ later,
        later.toCore =
          (Move.revokeFamily session.familyId now).perform deps.settings
            store.toCore →
        normal (.error (.auth invalidSession)) later) :
    Tx.wp (refresh deps refreshToken csrfCookie now context draws) normal
      failed store := by
  obtain ⟨stored, matched⟩ := Table.get?_of_find? presented
  have found : store.sessions.get? session.id = some session := stored
  have matched : session.tokenHash = deps.tokenHash refreshToken := by
    simpa using matched
  simp only [refresh, Tx.wp_bind, Tx.wp_getSessionByTokenHash, presented,
    Tx.wp_getUserById, Tx.wp_getSessionById, found, matched]
  apply wp_tokensMatch_self
  have isUsed : session.usedAt.isSome = true :=
    Option.isSome_iff_ne_none.mpr used
  simp only [Bool.not_true, unrevoked, Option.isSome_none, Bool.or_self,
    Bool.false_eq_true, ↓reduceIte, refreshSession, isUsed, Tx.wp_bind,
    Tx.wp_revokeFamily, wp_recordSecurityEvent, Tx.wp_pure]
  exact killed _ rfl

/-- Revoking the family of a stored session leaves none of it unrevoked. -/
theorem deadFamily_of_revokeFamily
    {settings : AuthSettings}
    {core : Core}
    {id : Uuid}
    {session : RefreshSession}
    {now : Instant}
    (found : core.sessions.get? id = some session) :
    DeadFamily
      ((Move.revokeFamily session.familyId now).perform settings
        core).sessions
      session.familyId := by
  have enabled :
      (Move.revokeFamily session.familyId now).Enabled settings core :=
    trivial
  obtain ⟨later, stored, continues⟩ :=
    (Move.sessionStep enabled).continues found
  have member : IsMember core.sessions session.familyId id session :=
    ⟨found, rfl⟩
  refine ⟨⟨id, later, member.continues stored continues⟩, ?_⟩
  rintro other otherSession ⟨otherFound, inFamily⟩ unrevoked
  have revised :=
    (Table.get?_revise core.sessions (Store.inFamily session.familyId)
      (Store.revokeAt now) (fun _ => rfl) other).symm.trans otherFound
  obtain ⟨earlier, _, rfl⟩ := Option.map_eq_some_iff.mp revised
  split at unrevoked
  · cases unrevoked
  · rename_i spared
    rw [if_neg spared] at inFamily
    exact spared (by simp [Store.inFamily, inFamily, unrevoked])

/-- The label of a successful refresh of a token. -/
def Executed.Refreshes (executed : Executed) (refreshToken : String) : Prop :=
  ∃ csrfCookie now context draws bundle,
    executed =
      { tx := .refresh refreshToken csrfCookie now context draws
        answer := .ok (.ok bundle) }

/-- A successful refresh leaves the session of its token used for ever. -/
theorem used_of_refreshes
    {env : Environment}
    {before middle after : Store}
    {executed : Executed}
    {labels : List Executed}
    {refreshToken : String}
    (step : ServiceStep env before executed middle)
    (refreshes : executed.Refreshes refreshToken)
    (run : ServiceRun env middle labels after) :
    ∃ id session,
      after.sessions.get? id = some session ∧
        session.tokenHash = env.tokenHash refreshToken ∧
        session.usedAt ≠ none := by
  obtain ⟨csrfCookie, now, context, draws, bundle, rfl⟩ := refreshes
  obtain ⟨rotated, successor, found, matched, _, performed⟩ :=
    refresh_rotates step.executes.1
  rw [Move.perform_rotate found] at performed
  have stored :
      middle.sessions.get? rotated.id =
        some (rotated.replacedBy successor.id now) := by
    rw [performed]
    exact Table.get?_put_self _ _
  obtain ⟨later, laterFound, continues⟩ :=
    run.sessionsContinue rotated.id _ stored
  have sameToken :=
    continues.same RefreshSession.tokenHash fun _ _ _ _ => rfl
  refine ⟨rotated.id, later, laterFound, sameToken.trans matched, ?_⟩
  rw [(continues.used (by simp [RefreshSession.replacedBy])).1]
  simp [RefreshSession.replacedBy]

/--
From every reachable store: a token is refreshed at most once, and a committed
refresh that presents a used, unrevoked session kills its family for every
continuation of the run.
-/
theorem refresh_once_and_replay_kills
    {env : Environment}
    {store : Store}
    (reachable : ServiceReachable env store) :
    (∀ refreshToken first second third one another finish,
        ServiceRun env store (first ++ one :: (second ++ another :: third))
          finish →
        one.Refreshes refreshToken → ¬ another.Refreshes refreshToken) ∧
      ∀ refreshToken csrfCookie now context draws answer session after,
        (store.sessions.find? fun session =>
            session.tokenHash = env.tokenHash refreshToken) =
          some session →
        session.usedAt ≠ none →
        session.revokedAt = none →
        ServiceStep env store
          { tx := .refresh refreshToken csrfCookie now context draws
            answer := .ok answer }
          after →
        answer = .error (.auth invalidSession) ∧
          DeadFamily after.sessions session.familyId ∧
          ∀ labels later, ServiceRun env after labels later →
            DeadFamily later.sessions session.familyId ∧
              (∀ id member,
                IsMember later.sessions session.familyId id member ↔
                  IsMember after.sessions session.familyId id member) ∧
              (∀ id member token,
                IsMember later.sessions session.familyId id member →
                member.tokenHash = env.tokenHash token →
                ¬ RefreshSucceeds env later token) ∧
              ∀ claims instant rows unchanged,
                claims.familyId = session.familyId →
                (ServiceTx.authenticate claims).execute env later =
                  (.ok rows, unchanged) →
                authenticateResult claims instant rows =
                  .error (.auth invalidSession) := by
  constructor
  · intro refreshToken first second third one another finish run refreshes
      refreshesAgain
    obtain ⟨before, middle, earlier, step, rest⟩ := run.exists_step
    obtain ⟨beforeAgain, middleAgain, between, stepAgain, _⟩ :=
      rest.exists_step
    obtain ⟨id, session, found, hasToken, used⟩ :=
      used_of_refreshes step refreshes between
    have reachableAgain : ServiceReachable env beforeAgain :=
      reachable.extend (earlier.append (.cons step between))
    obtain ⟨csrfCookie, now, context, draws, bundle, rfl⟩ := refreshesAgain
    obtain ⟨rotated, successor, rotatedFound, matched, enabled, _⟩ :=
      refresh_rotates stepAgain.executes.1
    obtain ⟨_, _, foundToo, unused, _⟩ := enabled
    have same : id = rotated.id :=
      reachableAgain.distinctTokens id session rotated.id rotated found
        rotatedFound (hasToken.trans matched.symm)
    subst same
    obtain rfl := Option.some.inj (rotatedFound.symm.trans foundToo)
    obtain rfl := Option.some.inj (rotatedFound.symm.trans found)
    exact used unused
  · intro refreshToken csrfCookie now context draws answer session after
      presented used unrevoked step
    have outcome :
        Tx.wp
          ((ServiceTx.refresh refreshToken csrfCookie now context draws).body
            env)
          (fun answer later =>
            answer = .error (.auth invalidSession) ∧
              later.toCore =
                (Move.revokeFamily session.familyId now).perform env.settings
                  store.toCore)
          (fun _ _ => True) store :=
      wp_refresh_replayed presented used unrevoked
        fun later killed => ⟨rfl, killed⟩
    have dead :
        answer = .error (.auth invalidSession) ∧
          DeadFamily after.sessions session.familyId := by
      obtain ⟨refused, performed⟩ := step.of_wp outcome
      refine ⟨refused, ?_⟩
      rw [performed]
      exact deadFamily_of_revokeFamily (Table.get?_of_find? presented).1
    refine ⟨dead.1, dead.2, ?_⟩
    intro labels later run
    obtain ⟨laterDead, earlier⟩ := run.deadFamily dead.2
    have reachableLater : ServiceReachable env later :=
      (reachable.extend (.single step)).extend run
    refine ⟨laterDead, ?_, ?_, ?_⟩
    · intro id member
      refine ⟨earlier id member, ?_⟩
      intro isMember
      obtain ⟨next, found, continues⟩ :=
        run.sessionsContinue id member isMember.1
      have nextMember : IsMember later.sessions session.familyId id next :=
        isMember.continues found continues
      obtain rfl := Option.some.inj
        (isMember.1.symm.trans (earlier id next nextMember).1)
      exact nextMember
    · intro id member token isMember hasToken
      exact laterDead.not_refreshSucceeds reachableLater isMember hasToken
    · intro claims instant rows unchanged issued executes
      rw [authenticate_execute] at executes
      obtain ⟨sameRows, rfl⟩ := Prod.mk.inj executes
      rw [← Except.ok.inj sameRows]
      exact laterDead.not_authenticated issued

/-- The first token of a session refreshed twice, presented again. -/
def replayFirst : ServiceTx :=
  .refresh "first" "csrf" 40 {}
    { sessionId := 11, familyId := 12, refreshToken := "fourth"
      csrfToken := "csrf", tokenId := 13 }

/-- Replaying the first token of a session refreshed twice kills its family. -/
theorem refresh_replay_twiceRefreshed :
    DeadFamily
      (executeAll referenceEnvironment (twiceRefreshed ++ [replayFirst])
        {}).2.sessions
      3 := by
  have reachable :
      ServiceReachable referenceEnvironment
        (executeAll referenceEnvironment twiceRefreshed {}).2 :=
    reachable_executeAll (by decide)
  have presented :
      ((executeAll referenceEnvironment twiceRefreshed {}).2.sessions.find?
        fun session =>
          session.tokenHash = referenceEnvironment.tokenHash "first").isSome :=
    by decide
  obtain ⟨session, found⟩ := Option.isSome_iff_exists.mp presented
  have facts :
      (some session).map
          (fun session =>
            (session.familyId, session.usedAt, session.revokedAt)) =
        some (3, some 20, none) := by
    rw [← found]
    decide
  simp only [Option.map_some, Option.some.injEq, Prod.mk.injEq] at facts
  obtain ⟨family, used, unrevoked⟩ := facts
  have killed :=
    (refresh_once_and_replay_kills reachable).2 "first" "csrf" 40 {} _ _
      session _ found (by simp [used]) unrevoked
      (ServiceStep.completed replayFirst
        (ServiceTx.fresh_of_isFresh (by decide)))
  rw [family] at killed
  exact killed.2.1

end EpokAuth
