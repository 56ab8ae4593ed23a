import EpokAuth.RefreshFamily
import EpokAuth.ScriptedRun

namespace EpokAuth

open Transactional

/-!
# Live sessions and their accounts

A session that is not revoked belongs to an active account, and was created
when no lock still in the account's row was in force.  Every change of an
account either keeps this or revokes the sessions it would break it for.
-/

/-- The account permits the sessions created at an instant. -/
def UserAccount.Permits (user : UserAccount) (createdAt : Instant) : Prop :=
  user.status = .active ∧
    ∀ lockedUntil, user.lockedUntil = some lockedUntil →
      lockedUntil ≤ createdAt

/-- Every unrevoked session belongs to an account that permits it. -/
def LiveSessions (core : Core) : Prop :=
  ∀ id session, core.sessions.get? id = some session →
    session.revokedAt = none →
    ∃ user,
      core.users.get? session.userId = some user ∧
        user.Permits session.createdAt

/-- An account that may authenticate permits the sessions created then. -/
theorem UserAccount.permits_of_canAuthenticate
    {user : UserAccount}
    {now : Instant}
    (available : user.canAuthenticate now = true) :
    user.Permits now :=
  UserAccount.canAuthenticate_iff.mp available

/-- A change that revokes nothing keeps what its account permits. -/
theorem AccountChange.permits_apply
    {settings : AuthSettings}
    {change : AccountChange}
    {now createdAt : Instant}
    {user : UserAccount}
    (permitted : change.Permitted now user)
    (spares : change.revokes settings now user = false)
    (permits : user.Permits createdAt) :
    (change.apply settings now user).Permits createdAt := by
  obtain ⟨active, unlocked⟩ := permits
  unfold UserAccount.Permits
  rw [AccountChange.apply_status, AccountChange.apply_lockedUntil]
  cases change with
  | fail =>
      refine ⟨active, ?_⟩
      intro lockedUntil locks
      have keeps : lockAfterFailure settings user now = none := by
        simpa [AccountChange.revokes] using spares
      rw [keeps] at locks
      cases locks
  | verify verification =>
      exact ⟨active, by simp⟩
  | replace reason passwordHash =>
      cases spares
  | autoLink passwordHash =>
      exact ⟨active, by simp⟩
  | administer resolved =>
      refine ⟨?_, unlocked⟩
      rw [AccountChange.revokes, decide_eq_false_iff_not] at spares
      obtain ⟨_, staysPending⟩ := permitted
      cases status : resolved.status with
      | active =>
          exact status
      | disabled =>
          exact absurd status spares
      | pendingActivation =>
          rw [staysPending status] at active
          cases active
  | fence clearsAutoLink =>
      exact ⟨active, unlocked⟩

namespace LiveSessions

variable
  {settings : AuthSettings}
  {core : Core}

/-- Revoking some sessions leaves fewer live ones. -/
theorem revise
    {property : RefreshSession → Bool}
    {revokedAt : Instant}
    (live : LiveSessions core)
    (keepsKey : ∀ row, (key (Store.revokeAt revokedAt row) : Uuid) = key row) :
    LiveSessions
      { core with
        sessions :=
          core.sessions.revise property (Store.revokeAt revokedAt)
            keepsKey } := by
  intro id session found unrevoked
  rw [Table.get?_revise, Option.map_eq_some_iff] at found
  obtain ⟨earlier, present, rfl⟩ := found
  split at unrevoked
  · cases unrevoked
  · rename_i spared
    rw [if_neg spared]
    exact live id earlier present unrevoked

/-- A session of an account that permits it may be added. -/
theorem put
    {session : RefreshSession}
    {user : UserAccount}
    (live : LiveSessions core)
    (account : core.users.get? session.userId = some user)
    (permits : user.Permits session.createdAt) :
    LiveSessions { core with sessions := core.sessions.put session } := by
  intro id other found unrevoked
  rw [Table.get?_put] at found
  split at found
  · obtain rfl := Option.some.inj found
    exact ⟨user, account, permits⟩
  · exact live id other found unrevoked

/-- Changing one account keeps the sessions of the others alive. -/
theorem account
    {userId : Uuid}
    {user : UserAccount}
    {change : AccountChange}
    {now : Instant}
    (live : LiveSessions core)
    (found : core.users.get? userId = some user)
    (permitted : change.Permitted now user) :
    LiveSessions
      { core with
        users := core.users.put (change.apply settings now user)
        sessions :=
          if change.revokes settings now user then
            core.sessions.revise (Store.ofUser userId)
              (Store.revokeAt now) fun _ => rfl
          else
            core.sessions } := by
  have userKey : (change.apply settings now user).id = userId := by
    rw [AccountChange.apply_id]
    exact Table.key_of_get? found
  have others :
      ∀ other, other ≠ userId →
        (core.users.put (change.apply settings now user)).get? other =
          core.users.get? other := by
    intro other different
    apply Table.get?_put_of_ne
    rw [← userKey] at different
    exact different
  have self :
      (core.users.put (change.apply settings now user)).get? userId =
        some (change.apply settings now user) := by
    rw [← userKey]
    exact Table.get?_put_self _ _
  intro id session stored unrevoked
  by_cases revokes : change.revokes settings now user = true
  · simp only [revokes, ↓reduceIte] at stored
    have revised :=
      (Table.get?_revise core.sessions (Store.ofUser userId)
        (Store.revokeAt now) (fun _ => rfl) id).symm.trans stored
    obtain ⟨earlier, present, rfl⟩ := Option.map_eq_some_iff.mp revised
    split at unrevoked
    · cases unrevoked
    · rename_i spared
      simp only [if_neg spared]
      have different : earlier.userId ≠ userId := by
        intro same
        exact spared (by simp [Store.ofUser, same, unrevoked])
      rw [others earlier.userId different]
      exact live id earlier present unrevoked
  · simp only [revokes, Bool.false_eq_true, ↓reduceIte] at stored
    obtain ⟨owner, ownerFound, permits⟩ := live id session stored unrevoked
    by_cases isUser : session.userId = userId
    · rw [isUser] at ownerFound ⊢
      obtain rfl := Option.some.inj (found.symm.trans ownerFound)
      exact ⟨_, self, AccountChange.permits_apply permitted
        (Bool.eq_false_iff.mpr revokes) permits⟩
    · exact ⟨owner, (others session.userId isUser).trans ownerFound, permits⟩

/-- Every enabled move keeps live sessions within their accounts. -/
theorem move
    {move : Move}
    (live : LiveSessions core)
    (enabled : move.Enabled settings core) :
    LiveSessions (move.perform settings core) := by
  cases move with
  | enroll user identity =>
      obtain ⟨absent, _⟩ := enabled
      intro id session found unrevoked
      obtain ⟨owner, ownerFound, permits⟩ := live id session found unrevoked
      refine ⟨owner, ?_, permits⟩
      exact (Table.get?_put_of_ne core.users
        (Table.ne_of_get? ownerFound absent)).trans ownerFound
  | account userId change attachment now =>
      obtain ⟨user, found, permitted, _⟩ := enabled
      rw [Move.perform_account found]
      exact live.account found permitted
  | openSession session =>
      obtain ⟨_, _, _, _, _, user, account, available⟩ := enabled
      exact live.put account
        (UserAccount.permits_of_canAuthenticate available)
  | rotate sessionId successor now =>
      obtain ⟨parent, user, found, unused, unrevoked, _, _, account, available,
        _, ⟨absent, _⟩, sameUser, _, created, _⟩ := enabled
      have parentKey : parent.id = sessionId := Table.key_of_get? found
      subst parentKey
      rw [Move.perform_rotate found]
      have added :
          LiveSessions
            { core with sessions := core.sessions.put successor } := by
        rw [← sameUser] at account
        rw [← created] at available
        exact live.put account
          (UserAccount.permits_of_canAuthenticate available)
      obtain ⟨owner, ownerFound, permits⟩ :=
        live parent.id parent found unrevoked
      exact added.put ownerFound permits
  | revokeFamily familyId now =>
      exact live.revise _
  | revokeUser userId now =>
      exact live.revise _
  | activateLink linkId now =>
      obtain ⟨link, user, found, _⟩ := enabled
      rw [Move.perform, Core.reviseLink_of_get? found]
      exact live
  | failLink linkId now =>
      obtain ⟨link, found, _⟩ := enabled
      rw [Move.perform, Core.reviseLink_of_get? found]
      exact live
  | revokeLink linkId now =>
      obtain ⟨link, found, _⟩ := enabled
      rw [Move.perform, Core.reviseLink_of_get? found]
      exact live
  | consumeLink linkId now =>
      obtain ⟨link, user, found, _⟩ := enabled
      rw [Move.perform, Core.reviseLink_of_get? found]
      exact live
  | _ => exact live

end LiveSessions

/-- Live sessions stay within their accounts along a run. -/
theorem ServiceRun.liveSessions
    {env : Environment}
    {before after : Store}
    {labels : List Executed}
    (run : ServiceRun env before labels after)
    (live : LiveSessions before.toCore) :
    LiveSessions after.toCore :=
  ServiceRun.preserves_core run LiveSessions
    (fun _ _ enabled live => live.move enabled) live

/-! ## Locks -/

/-- Every session that an account had earlier is revoked later. -/
def RevokedSince (earlier later : Core) (userId : Uuid) : Prop :=
  ∀ id session, earlier.sessions.get? id = some session →
    session.userId = userId →
    ∃ after,
      later.sessions.get? id = some after ∧ after.revokedAt ≠ none

/-- A lock that was not there earlier has revoked the account's sessions. -/
def LocksRevoke (earlier later : Core) : Prop :=
  ∀ userId user lockedUntil,
    later.users.get? userId = some user →
    user.lockedUntil = some lockedUntil →
    (∃ before,
        earlier.users.get? userId = some before ∧
          before.lockedUntil = some lockedUntil) ∨
      RevokedSince earlier later userId

theorem LocksRevoke.refl (core : Core) : LocksRevoke core core :=
  fun _ user _ found locked => .inl ⟨user, found, locked⟩

/-- A move that changes no account brings no lock. -/
theorem LocksRevoke.of_users
    {earlier later : Core}
    (same : later.users = earlier.users) :
    LocksRevoke earlier later := by
  intro userId user lockedUntil found locked
  rw [same] at found
  exact .inl ⟨user, found, locked⟩

/-- Every enabled move that locks an account revokes its sessions. -/
theorem Move.locksRevoke
    {settings : AuthSettings}
    {core : Core}
    {move : Move}
    (enabled : move.Enabled settings core) :
    LocksRevoke core (move.perform settings core) := by
  cases move with
  | enroll user identity =>
      obtain ⟨_, ⟨_, _, unlocked⟩, _⟩ := enabled
      intro userId locked lockedUntil found locks
      rw [Move.perform, Table.get?_put] at found
      split at found
      · obtain rfl := Option.some.inj found
        rw [unlocked] at locks
        cases locks
      · exact .inl ⟨locked, found, locks⟩
  | account changed change attachment now =>
      obtain ⟨before, account, _⟩ := enabled
      have beforeKey : before.id = changed := Table.key_of_get? account
      intro userId user lockedUntil found locks
      rw [Move.perform_account account] at found ⊢
      simp only [Table.get?_put] at found
      split at found
      · rename_i isChanged
        have same : userId = changed := by
          rw [isChanged, ← beforeKey]
          exact AccountChange.apply_id
        subst same
        obtain rfl := Option.some.inj found
        rw [AccountChange.apply_lockedUntil] at locks
        cases change with
        | fail =>
            have revokes :
                AccountChange.fail.revokes settings now before = true := by
              rw [AccountChange.revokes]
              exact Option.isSome_iff_exists.mpr ⟨lockedUntil, locks⟩
            right
            intro id session stored owned
            simp only [revokes, ↓reduceIte]
            refine ⟨_, (Table.get?_revise core.sessions (Store.ofUser userId)
              (Store.revokeAt now) (fun _ => rfl) id).trans
                (by rw [stored, Option.map_some]), ?_⟩
            split
            · simp [Store.revokeAt]
            · rename_i spared
              intro unrevoked
              exact spared (by simp [Store.ofUser, owned, unrevoked])
        | verify verification => cases locks
        | replace reason passwordHash => cases locks
        | autoLink passwordHash => cases locks
        | administer resolved => exact .inl ⟨before, account, locks⟩
        | fence clearsAutoLink => exact .inl ⟨before, account, locks⟩
      · exact .inl ⟨user, found, locks⟩
  | rotate sessionId successor now =>
      obtain ⟨session, _, found, _⟩ := enabled
      rw [Move.perform_rotate found]
      exact .of_users rfl
  | activateLink linkId now =>
      obtain ⟨link, user, found, _⟩ := enabled
      rw [Move.perform, Core.reviseLink_of_get? found]
      exact .of_users rfl
  | failLink linkId now =>
      obtain ⟨link, found, _⟩ := enabled
      rw [Move.perform, Core.reviseLink_of_get? found]
      exact .of_users rfl
  | revokeLink linkId now =>
      obtain ⟨link, found, _⟩ := enabled
      rw [Move.perform, Core.reviseLink_of_get? found]
      exact .of_users rfl
  | consumeLink linkId now =>
      obtain ⟨link, user, found, _⟩ := enabled
      rw [Move.perform, Core.reviseLink_of_get? found]
      exact .of_users rfl
  | _ => exact .of_users rfl

/-- Locks revoke along every run, whenever they were brought. -/
theorem ServiceRun.locksRevoke
    {env : Environment}
    {before after : Store}
    {labels : List Executed}
    (run : ServiceRun env before labels after) :
    LocksRevoke before.toCore after.toCore := by
  refine (ServiceRun.preserves_core run
    (fun core =>
      SessionsContinue before.toCore core ∧ LocksRevoke before.toCore core)
    ?_ ⟨.refl _, .refl _⟩).2
  rintro move core enabled ⟨continues, locks⟩
  refine ⟨continues.trans fun id session stored =>
    (Move.sessionStep enabled).continues stored, ?_⟩
  intro userId user lockedUntil found locked
  rcases Move.locksRevoke enabled userId user lockedUntil found locked with
    ⟨middle, foundMiddle, lockedMiddle⟩ | revoked
  · rcases locks userId middle lockedUntil foundMiddle lockedMiddle with
      earlier | revoked
    · exact .inl earlier
    · right
      intro id session stored owned
      obtain ⟨between, foundBetween, isRevoked⟩ :=
        revoked id session stored owned
      obtain ⟨last, foundLast, continuesLast⟩ :=
        (Move.sessionStep enabled).continues foundBetween
      exact ⟨last, foundLast, continuesLast.revoked isRevoked ▸ isRevoked⟩
  · right
    intro id session stored owned
    obtain ⟨between, foundBetween, continuesBetween⟩ :=
      continues id session stored
    have sameOwner :=
      continuesBetween.same RefreshSession.userId fun _ _ _ _ => rfl
    exact revoked id between foundBetween (sameOwner.trans owned)

/--
In every reachable store a session that is not revoked belongs to an active
account whose lock, if any, ended by the time the session was created.  In
every continuation this stays so, what is revoked stays revoked, and a lock
that is new has revoked every session the account had.
-/
theorem live_sessions_of_reachable
    {env : Environment}
    {store : Store}
    (reachable : ServiceReachable env store) :
    LiveSessions store.toCore ∧
      ∀ labels later, ServiceRun env store labels later →
        LiveSessions later.toCore ∧
          LocksRevoke store.toCore later.toCore ∧
          ∀ id session, store.sessions.get? id = some session →
            session.revokedAt ≠ none →
            ∃ after,
              later.sessions.get? id = some after ∧
                after.revokedAt = session.revokedAt := by
  have live : LiveSessions store.toCore := by
    obtain ⟨labels, run⟩ := reachable
    refine ServiceRun.liveSessions run ?_
    intro id session found
    cases found
  refine ⟨live, ?_⟩
  intro labels later run
  refine ⟨ServiceRun.liveSessions run live, ServiceRun.locksRevoke run, ?_⟩
  intro id session found revoked
  obtain ⟨after, foundAfter, continues⟩ := run.sessionsContinue id session found
  exact ⟨after, foundAfter, continues.revoked revoked⟩

/-- An account that logs in, is disabled, and is enabled again. -/
def disabledAndEnabled : List ServiceTx :=
  [ .createUser 1 "user@example.test" "User" "password" [] [] false 0 {},
    .login "user@example.test" "password" 10 {} 0
      { sessionId := 2, familyId := 3, refreshToken := "first"
        csrfToken := "csrf", tokenId := 4 },
    .updateUser 1 { status := some .disabled } 20 {},
    .updateUser 1 { status := some .active } 30 {} ]

/-- Disabling revokes the session, and enabling does not revive it. -/
theorem live_sessions_disabledAndEnabled :
    LiveSessions
        (executeAll referenceEnvironment disabledAndEnabled {}).2.toCore ∧
      ((executeAll referenceEnvironment disabledAndEnabled
          {}).2.sessions.get? 2).map RefreshSession.revokedAt =
        some (some 20) :=
  ⟨(live_sessions_of_reachable (reachable_executeAll (by decide))).1,
    by decide⟩

end EpokAuth
