import EpokAuth.ServiceEffect

namespace EpokAuth

open Transactional

/-!
# Effects of the session service

Login and password change open a session, refresh rotates or revokes a family,
logout revokes one, and a failed verification counts against the account.
-/

/-- A transaction run alone has an effect, whatever it answers. -/
def ServiceTx.HasEffect
    (env : Environment)
    (tx : ServiceTx)
    (store : Store) :
    Prop :=
  Tx.wp (tx.body env)
    (fun answer later =>
      ∃ moves,
        Effect env.toDependencies store { tx := tx, answer := .ok answer }
          moves later)
    (fun _ _ => True) store

/-! ## Opening sessions -/

/-- A session the constraints admit reuses no identifier and no token. -/
theorem Move.unused_of_admitted
    {store : Store}
    {session : RefreshSession}
    (admitted :
      ¬ ((store.sessions.get? session.id).isSome ||
          Store.sessionTaken session store) = true) :
    Move.Unused session store.toCore := by
  rw [Bool.or_eq_true, not_or] at admitted
  obtain ⟨present, untaken⟩ := admitted
  have absent : store.sessions.get? session.id = none := by
    simpa using present
  refine ⟨absent, ?_⟩
  intro id other found sameToken
  apply untaken
  rw [Store.sessionTaken, Table.isSome_find?_iff]
  refine ⟨id, other, found, ?_⟩
  have otherKey : other.id = id := Table.key_of_get? found
  have different : other.id ≠ session.id := by
    intro same
    rw [← same, otherKey, found] at absent
    exact absurd absent (by simp)
  simp [different, sameToken]

variable
  {deps : Dependencies}
  {user : UserAccount}
  {now : Instant}
  {context : RequestContext}
  {draws : SessionDraws}
  {store : Store}

/-- A newly issued session lies within its deadlines when its lineage does. -/
theorem newSession_issuedSession
    {userId : Uuid}
    {lineage : Lineage}
    (unexpired : now < lineage.absoluteExpiresAt) :
    Move.NewSession (issuedSession deps userId now lineage draws) :=
  ⟨rfl, rfl, rfl, min_le_right _ _, unexpired⟩

/-- A session that starts a family may be opened. -/
theorem enabled_openSession
    {core : Core}
    (account : core.users.get? user.id = some user)
    (permitted : user.canAuthenticate now = true)
    (fresh :
      ∀ id session, core.sessions.get? id = some session →
        session.familyId ≠ draws.familyId)
    (unused :
      Move.Unused
        (issuedSession deps user.id now (openLineage deps now draws) draws)
        core) :
    (Move.openSession
        (issuedSession deps user.id now (openLineage deps now draws)
          draws)).Enabled deps.settings core := by
  have positive : 0 < seconds deps.settings.refreshAbsoluteTtlSeconds := by
    have range := deps.settings.refreshAbsoluteTtlRange
    unfold seconds
    omega
  exact ⟨newSession_issuedSession (Int.lt_add_of_pos_right now positive),
    unused, fresh, rfl, rfl, user, account, permitted⟩

/--
The rule of issuing a session that starts a family: it performs one enabled
move, and the bundle names the account.
-/
theorem wp_issue_opening
    {normal : SessionBundle → Store → Prop}
    (account : store.users.get? user.id = some user)
    (permitted : user.canAuthenticate now = true)
    (fresh :
      ∀ id session, store.sessions.get? id = some session →
        session.familyId ≠ draws.familyId)
    (opens :
      ∀ bundle later session,
        bundle.principal.userId = user.id →
        session.userId = user.id →
        session.createdAt = now →
        (Move.openSession session).Enabled deps.settings store.toCore →
        later.toCore =
          { store.toCore with sessions := store.sessions.put session } →
        normal bundle later) :
    Tx.wp (issue deps user now none context draws) normal
      (fun _ _ => True) store := by
  rw [wp_issue_session]
  simp only [Option.getD_none]
  split
  · trivial
  · rename_i admitted
    refine opens _ _
      (issuedSession deps user.id now (openLineage deps now draws) draws)
      rfl rfl rfl ?_ rfl
    exact enabled_openSession account permitted fresh
      (Move.unused_of_admitted admitted)

/-! ## Account rows -/

/-- The rule of a full-row update whose failure rolls the transaction back. -/
theorem wp_updateUser_committed
    {normal : Unit → Store → Prop}
    (updated :
      normal () { store with users := store.users.put user }) :
    Tx.wp (Tx.updateUser user) normal (fun _ _ => True) store := by
  rw [Tx.wp_updateUser]
  split
  · split
    · trivial
    · exact updated
  · trivial

/-- The rule of counting a failure: one move, or none for a closed account. -/
theorem wp_recordPasswordFailure
    {settings : AuthSettings}
    {eventType : SecurityEventType}
    {sessionId : Option Uuid}
    {method : Option ReauthenticationMethod}
    {normal : Unit → Store → Prop}
    (account : store.users.get? user.id = some user)
    (counted :
      user.passwordLoginEnabled = true →
      user.canAuthenticate now = true →
      ∀ later,
        Performs settings store.toCore
          [.account user.id .fail .nothing now] later.toCore →
        normal () later)
    (ignored :
      (user.passwordLoginEnabled && user.canAuthenticate now) = false →
      ∀ later, later.toCore = store.toCore → normal () later) :
    Tx.wp
      (recordPasswordFailure settings eventType (some user) now context
        sessionId method)
      normal (fun _ _ => True) store := by
  simp only [recordPasswordFailure, Option.elim_some, Tx.wp_bind,
    countPasswordFailure, Tx.wp_ite, wp_recordSecurityEvent, Tx.wp_pure]
  split
  · rename_i open_
    rw [Bool.and_eq_true] at open_
    have enabled :
        (Move.account user.id .fail .nothing now).Enabled settings
          store.toCore :=
      ⟨user, account, open_, trivial, fun impossible => absurd rfl impossible⟩
    apply wp_updateUser_committed
    simp only [Tx.wp_ite, Tx.wp_bind, Tx.wp_revokeUserSessions,
      wp_recordSecurityEvent, Tx.wp_pure]
    split
    · rename_i locks
      refine counted open_.1 open_.2 _ (Performs.single enabled ?_)
      rw [Move.perform_account account]
      simp only [AccountChange.revokes, locks, ↓reduceIte]
      rfl
    · rename_i spares
      refine counted open_.1 open_.2 _ (Performs.single enabled ?_)
      rw [Move.perform_account account]
      simp only [AccountChange.revokes, spares]
      rfl
  · rename_i closed
    exact ignored (Bool.eq_false_iff.mpr closed) _ rfl

/-- Performing the account move of a successful verification. -/
theorem performs_verify
    {settings : AuthSettings}
    {verification : PasswordVerification}
    {later : Core}
    {rest : List Move}
    (account : store.users.get? user.id = some user)
    (permitted :
      user.passwordLoginEnabled = true ∧ user.canAuthenticate now = true)
    (after :
      Performs settings
        { store.toCore with
          users :=
            store.users.put
              (afterPasswordVerification user verification now) }
        rest later) :
    Performs settings store.toCore
      (.account user.id (.verify verification) .nothing now :: rest) later := by
  refine Performs.cons ?_ (Move.perform_account account) after
  exact ⟨user, account, permitted, trivial,
    fun impossible => absurd rfl impossible⟩

/-- A verified account may authenticate as before. -/
theorem canAuthenticate_afterPasswordVerification
    {verification : PasswordVerification}
    (permitted : user.canAuthenticate now = true) :
    (afterPasswordVerification user verification now).canAuthenticate now =
      true := by
  rw [UserAccount.canAuthenticate_iff] at permitted ⊢
  exact ⟨permitted.1, by simp [afterPasswordVerification]⟩

/-! ## Login -/

theorem login_effect
    {env : Environment}
    {normalizedEmail password : String}
    {salt : Nat}
    (fresh :
      (ServiceTx.login normalizedEmail password now context salt
        draws).Fresh store) :
    (ServiceTx.login normalizedEmail password now context salt
      draws).HasEffect env store := by
  simp only [ServiceTx.HasEffect, ServiceTx.body, login_eq, Tx.wp_bind,
    Tx.wp_getUserByEmail]
  cases found :
      store.users.find? fun user => user.email = normalizedEmail with
  | none =>
      simp only [Bool.true_or, ↓reduceIte, Tx.wp_bind, recordPasswordFailure,
        Option.elim_none, Tx.wp_pure, wp_recordSecurityEvent]
      exact ⟨[], Effect.unchanged rfl (by
        intro userId change caused replacing
        cases caused
        cases replacing)⟩
  | some user =>
      obtain ⟨account, _⟩ := Table.get?_of_find? found
      simp only
      split
      · rename_i refused
        rw [Tx.wp_bind]
        refine wp_recordPasswordFailure account ?_ ?_
        · intro enabled available later performs
          simp only [Option.bind_some, enabled, available, ↓reduceIte,
            Bool.not_true, Bool.or_self, Bool.false_or,
            Bool.not_eq_true'] at refused
          exact ⟨_, Effect.of_account performs (by simp)
            (.loginFailed found available ⟨enabled, refused⟩) (by
              intro other otherChange caused replacing
              cases caused
              cases replacing)⟩
        · intro _ later same
          exact ⟨[], Effect.unchanged same (by
            intro other otherChange caused replacing
            cases caused
            cases replacing)⟩
      · rename_i permitted
        simp only [Bool.or_eq_true, not_or, Bool.not_eq_true',
          Bool.not_eq_false] at permitted
        obtain ⟨⟨enabled, available⟩, _⟩ := permitted
        simp only [Tx.wp_bind, applyPasswordVerification]
        apply wp_updateUser_committed
        simp only [Tx.wp_pure, Tx.wp_bind]
        refine wp_issue_opening (Table.get?_put_self _ _)
          (canAuthenticate_afterPasswordVerification available)
          (fresh draws rfl) ?_
        intro bundle later session bundleUser sessionUser created opens same
        simp only [Tx.wp_bind, wp_recordSecurityEvent, Tx.wp_pure]
        refine ⟨_, Effect.of_account
          (performs_verify account ⟨enabled, available⟩
            (Performs.single opens same.symm))
          (by simp) ?_ ?_⟩
        · have isUser : bundle.principal.userId = user.id := bundleUser
          rw [← isUser]
          exact .loggedIn (isUser ▸ account) available
        · intro other otherChange caused replacing
          cases caused
          cases replacing

/-! ## Reauthentication -/

theorem reauthenticatePassword_effect
    {env : Environment}
    {principal : Principal}
    {password : String}
    {salt : Nat} :
    (ServiceTx.reauthenticatePassword principal password now context
      salt).HasEffect env store := by
  simp only [ServiceTx.HasEffect, ServiceTx.body, reauthenticatePassword,
    Tx.wp_bind]
  refine wp_requirePrincipalUser principal now true _ ?_ trivial
  intro user session found stored available valid
  have userKey : user.id = principal.userId := Table.key_of_get? found
  have account : store.users.get? user.id = some user := userKey ▸ found
  generalize computed : env.passwords.verifiedForLogin salt password _ =
    verification
  simp only [Tx.wp_ite, Tx.wp_bind]
  split
  · rename_i refused
    refine wp_recordPasswordFailure account ?_ ?_
    · intro enabled _ later performs
      refine ⟨_, Effect.of_account performs (by simp) ?_ ?_⟩
      · simp only [enabled, Bool.not_true, Bool.false_or,
          Bool.not_eq_true'] at refused
        rw [if_pos enabled] at computed
        rw [← computed] at refused
        rw [userKey]
        exact .reauthenticationFailed found
          ⟨user, session, found, stored, available, valid⟩ ⟨enabled, refused⟩
      · intro other otherChange caused replacing
        cases caused
        cases replacing
    · intro _ later same
      exact ⟨[], Effect.unchanged same (by
        intro other otherChange caused replacing
        cases caused
        cases replacing)⟩
  · rename_i permitted
    simp only [Bool.or_eq_true, not_or, Bool.not_eq_true',
      Bool.not_eq_false] at permitted
    simp only [applyPasswordVerification, Tx.wp_bind]
    apply wp_updateUser_committed
    simp only [Tx.wp_bind, Tx.wp_pure, wp_recordSecurityEvent]
    refine ⟨_, Effect.of_account
      (performs_verify account ⟨permitted.1, available⟩ Performs.nil)
      (by simp) ?_ ?_⟩
    · rw [userKey]
      exact .reauthenticated found available
    · intro other otherChange caused replacing
      cases caused
      cases replacing

theorem authenticate_effect
    {env : Environment}
    {claims : AccessClaims} :
    (ServiceTx.authenticate claims).HasEffect env store := by
  simp only [ServiceTx.HasEffect, ServiceTx.body, authenticate, Tx.wp_bind,
    Tx.wp_getUserById, Tx.wp_getSessionById, Tx.wp_pure]
  exact ⟨[], Effect.unchanged rfl (by
    intro userId change caused
    cases caused)⟩

/-! ## Refresh and logout -/

/-- The rule of a computed value whose failure rolls the transaction back. -/
theorem wp_ofExcept_committed
    {value : Except Failure α}
    {normal : α → Store → Prop}
    (returned : ∀ result, value = .ok result → normal result store) :
    Tx.wp (Prog.ofExcept value) normal (fun _ _ => True) store := by
  rw [Tx.wp_ofExcept]
  split
  · exact returned _ rfl
  · trivial

/-- Revoking a family is always enabled. -/
theorem performs_revokeFamily
    {settings : AuthSettings}
    {core : Core}
    (familyId : Uuid)
    (now : Instant) :
    Performs settings core [.revokeFamily familyId now]
      ((Move.revokeFamily familyId now).perform settings core) :=
  Performs.single trivial rfl

/-- A rotation of an unused, unexpired session is one enabled move. -/
theorem wp_rotate_committed
    {session : RefreshSession}
    {normal : SessionBundle → Store → Prop}
    (found : store.sessions.get? session.id = some session)
    (unused : session.usedAt = none)
    (unrevoked : session.revokedAt = none)
    (beforeIdle : now < session.idleExpiresAt)
    (beforeAbsolute : now < session.absoluteExpiresAt)
    (account : store.users.get? session.userId = some user)
    (permitted : user.canAuthenticate now = true)
    (rotated :
      ∀ bundle successor later,
        Performs deps.settings store.toCore
          [.rotate session.id successor now] later.toCore →
        normal bundle later) :
    Tx.wp (rotate deps user session now context draws) normal
      (fun _ _ => True) store := by
  have userKey : user.id = session.userId := Table.key_of_get? account
  simp only [rotate, Tx.wp_bind, wp_issue_session, Option.getD_some]
  split
  · trivial
  · rename_i admitted
    rw [Tx.wp_updateSession]
    split
    · split
      · trivial
      · simp only [Tx.wp_bind, wp_recordSecurityEvent, Tx.wp_pure]
        refine rotated _
          (issuedSession deps user.id now
            { familyId := session.familyId
              absoluteExpiresAt := session.absoluteExpiresAt
              authenticatedAt := session.authenticatedAt }
            draws) _ (Performs.single ?_ ?_)
        · exact ⟨session, user, found, unused, unrevoked, beforeIdle,
            beforeAbsolute, account, permitted,
            newSession_issuedSession beforeAbsolute,
            Move.unused_of_admitted admitted, userKey, rfl, rfl, rfl, rfl⟩
        · rw [Move.perform_rotate found]
          rfl
    · trivial

/--
The rule of refresh: it changes nothing, revokes the family of the presented
token, or rotates the presented session.
-/
theorem wp_refresh_committed
    {refreshToken csrfCookie : String}
    {normal : Except Failure SessionBundle → Store → Prop}
    (refused :
      ∀ failure later,
        later.toCore = store.toCore → normal (.error failure) later)
    (revoked :
      ∀ failure session later,
        store.sessions.get? session.id = some session →
        session.tokenHash = deps.tokenHash refreshToken →
        session.revokedAt = none →
        Performs deps.settings store.toCore
          [.revokeFamily session.familyId now] later.toCore →
        normal (.error failure) later)
    (rotated :
      ∀ bundle session successor later,
        store.sessions.get? session.id = some session →
        session.tokenHash = deps.tokenHash refreshToken →
        Performs deps.settings store.toCore
          [.rotate session.id successor now] later.toCore →
        normal (.ok bundle) later) :
    Tx.wp (refresh deps refreshToken csrfCookie now context draws) normal
      (fun _ _ => True) store := by
  simp only [refresh, Tx.wp_bind, Tx.wp_getSessionByTokenHash]
  cases candidate :
      store.sessions.find? fun session =>
        session.tokenHash = deps.tokenHash refreshToken with
  | none =>
      exact refused _ _ rfl
  | some session =>
      obtain ⟨found, matched⟩ := Table.get?_of_find? candidate
      have matched : session.tokenHash = deps.tokenHash refreshToken := by
        simpa using matched
      have found : store.sessions.get? session.id = some session := found
      simp only [Tx.wp_bind, Tx.wp_getUserById, Tx.wp_getSessionById, found]
      refine wp_ofExcept_committed ?_
      intro tokenMatches _
      simp only [Tx.wp_ite, Tx.wp_pure]
      split
      · exact refused _ _ rfl
      · rename_i live
        simp only [Bool.or_eq_true, not_or, Bool.not_eq_true',
          Bool.not_eq_false, Option.isSome_iff_ne_none, ne_eq,
          not_not] at live
        have unrevoked : session.revokedAt = none := live.2
        simp only [refreshSession, Tx.wp_ite, Tx.wp_bind, Tx.wp_revokeFamily,
          wp_recordSecurityEvent, Tx.wp_pure]
        split
        · exact revoked _ session _ found matched unrevoked
            (performs_revokeFamily _ _)
        · rename_i notUsed
          have unused : session.usedAt = none := by
            simpa using notUsed
          split
          · exact revoked _ session _ found matched unrevoked
              (performs_revokeFamily _ _)
          · rename_i unexpired
            simp only [Bool.or_eq_true, decide_eq_true_eq, not_or,
              not_le] at unexpired
            refine wp_ofExcept_committed ?_
            intro csrfMatches _
            simp only [Tx.wp_ite, Tx.wp_pure]
            split
            · exact refused _ _ rfl
            · cases account : store.users.get? session.userId with
              | none =>
                  simp only [Tx.wp_bind, Tx.wp_revokeFamily, Tx.wp_pure]
                  exact revoked _ session _ found matched unrevoked
                    (performs_revokeFamily _ _)
              | some user =>
                  simp only [Tx.wp_ite, Tx.wp_bind, Tx.wp_revokeFamily,
                    Tx.wp_pure]
                  split
                  · rename_i permitted
                    refine wp_rotate_committed found unused unrevoked
                      unexpired.1 unexpired.2 account permitted ?_
                    intro bundle successor later performs
                    exact rotated bundle session successor later found
                      matched performs
                  · exact revoked _ session _ found matched unrevoked
                      (performs_revokeFamily _ _)

theorem refresh_effect
    {env : Environment}
    {refreshToken csrfCookie : String} :
    (ServiceTx.refresh refreshToken csrfCookie now context draws).HasEffect
      env store := by
  have noCause :
      ∀ answer userId change,
        Causes env.toDependencies store
          { tx := .refresh refreshToken csrfCookie now context draws
            answer := .ok answer }
          userId change →
        ¬ change.ReplacesPassword := by
    intro answer userId change caused
    cases caused
  refine wp_refresh_committed ?_ ?_ ?_
  · intro failure later same
    exact ⟨[], Effect.unchanged same (noCause _)⟩
  · intro failure session later _ _ _ performs
    exact ⟨_, Effect.of_no_account performs (by simp) (noCause _)⟩
  · intro bundle session successor later _ _ performs
    exact ⟨_, Effect.of_no_account performs (by simp) (noCause _)⟩

theorem logout_effect
    {env : Environment}
    {refreshToken csrfCookie : String} :
    (ServiceTx.logout refreshToken csrfCookie now context).HasEffect
      env store := by
  have noCause :
      ∀ answer userId change,
        Causes env.toDependencies store
          { tx := .logout refreshToken csrfCookie now context
            answer := .ok answer }
          userId change →
        ¬ change.ReplacesPassword := by
    intro answer userId change caused
    cases caused
  have unchanged :
      ∃ moves,
        Effect env.toDependencies store
          { tx := .logout refreshToken csrfCookie now context
            answer := .ok (0 : Nat) }
          moves store :=
    ⟨[], Effect.unchanged rfl (noCause _)⟩
  simp only [ServiceTx.HasEffect, ServiceTx.body, logout, Tx.wp_bind,
    Tx.wp_getSessionByTokenHash]
  cases store.sessions.find? fun session =>
      session.tokenHash = env.tokenHash refreshToken with
  | none =>
      exact unchanged
  | some candidate =>
      simp only [Tx.wp_ite, Tx.wp_pure, Tx.wp_bind, Tx.wp_getUserById,
        Tx.wp_getSessionById]
      split
      · exact unchanged
      · split
        · simp only [Tx.wp_ite, Tx.wp_pure, Tx.wp_bind]
          split
          · exact unchanged
          · refine wp_ofExcept_committed ?_
            intro tokenMatches _
            simp only [Tx.wp_ite, Tx.wp_pure, Tx.wp_bind]
            split
            · exact unchanged
            · refine wp_ofExcept_committed ?_
              intro csrfMatches _
              simp only [Tx.wp_ite, Tx.wp_throw, Tx.wp_bind,
                Tx.wp_revokeFamily, wp_recordSecurityEvent, Tx.wp_pure]
              split
              · trivial
              · exact ⟨_, Effect.of_no_account
                  (performs_revokeFamily _ now) (by simp) (noCause _)⟩
        · exact unchanged

/-! ## Password change -/

/-- Performing the account move of a replaced password. -/
theorem performs_replace
    {settings : AuthSettings}
    {core : Core}
    {passwordHash : String}
    {rest : List Move}
    {later : Core}
    (reason : Replacement)
    (account : core.users.get? user.id = some user)
    (permitted : reason.Permitted user)
    (after :
      Performs settings
        { core with
          users := core.users.put (reason.apply passwordHash now user)
          sessions :=
            core.sessions.revise (Store.ofUser user.id)
              (Store.revokeAt now) fun _ => rfl }
        rest later) :
    Performs settings core
      (.account user.id (.replace reason passwordHash) .nothing now :: rest)
      later := by
  refine Performs.cons ?_ (Move.perform_account account) after
  exact ⟨user, account, permitted, trivial,
    fun impossible => absurd rfl impossible⟩

/-- Revoking sessions leaves no new family in use. -/
theorem fresh_of_revised
    {familyId : Uuid}
    {property : RefreshSession → Bool}
    {table : Table RefreshSession}
    (keepsKey : ∀ row, (key (Store.revokeAt now row) : Uuid) = key row)
    (fresh :
      ∀ id session, table.get? id = some session →
        session.familyId ≠ familyId) :
    ∀ id session,
      (table.revise property (Store.revokeAt now) keepsKey).get? id =
          some session →
        session.familyId ≠ familyId := by
  intro id session found
  rw [Table.get?_revise, Option.map_eq_some_iff] at found
  obtain ⟨earlier, present, rfl⟩ := found
  have differs := fresh id earlier present
  split
  · exact differs
  · exact differs

theorem changePassword_effect
    {env : Environment}
    {principal : Principal}
    {currentPassword newPassword : String}
    {salts : ChangePasswordSalts}
    (fresh :
      (ServiceTx.changePassword principal currentPassword newPassword now
        context salts draws).Fresh store) :
    (ServiceTx.changePassword principal currentPassword newPassword now
      context salts draws).HasEffect env store := by
  simp only [ServiceTx.HasEffect, ServiceTx.body, changePassword, Tx.wp_bind]
  refine wp_requirePrincipalUser principal now true _ ?_ trivial
  intro user session account _ available _
  have userKey : user.id = principal.userId := Table.key_of_get? account
  rw [← userKey] at account
  simp only [Tx.wp_ite, Tx.wp_throw, Tx.wp_bind]
  split
  · trivial
  · split
    · trivial
    · refine wp_ofExcept_committed ?_
      intro passwordHash _
      simp only [Tx.wp_bind]
      apply wp_updateUser_committed
      simp only [Tx.wp_bind, Tx.wp_revokeUserSessions]
      have active : user.status = .active :=
        (UserAccount.canAuthenticate_iff.mp available).1
      refine wp_issue_opening (Table.get?_put_self _ _) ?_
        (fresh_of_revised (fun _ => rfl) (fresh draws rfl)) ?_
      · rw [UserAccount.canAuthenticate_iff]
        exact ⟨active, by simp [UserAccount.activatePassword,
          UserAccount.replacePassword]⟩
      · intro bundle later session bundleUser sessionUser created opens same
        simp only [Tx.wp_bind, wp_recordSecurityEvent, Tx.wp_pure]
        refine ⟨_, Effect.of_account
          (performs_replace .chosen account active
            (Performs.single opens same.symm))
          (by simp) ?_ ?_⟩
        · rw [userKey]
          exact .passwordChanged
        · intro other otherChange caused _
          cases caused
          exact ⟨userKey.symm, trivial⟩

end EpokAuth
