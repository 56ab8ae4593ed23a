import EpokAuth.LinkConsumption

namespace EpokAuth

open Transactional

/-!
# Effects of the passkey service

Ceremonies only store and consume challenges.  Registration and revocation
change a passkey together with the version of its account; a verified login
updates a passkey and opens a session.
-/

variable
  {env : Environment}
  {principal : Principal}
  {passkeyId : Uuid}
  {expectedOrigin : String}
  {response : PasskeyResponse}
  {now : Instant}
  {context : RequestContext}
  {store : Store}

/-! ## Ceremonies -/

/-- Storing a challenge leaves the accounts' tables alone. -/
theorem wp_storeChallenge_committed
    {challenge : PasskeyChallenge}
    {normal : Unit → Store → Prop}
    (stored : ∀ later, later.toCore = store.toCore → normal () later) :
    Tx.wp (storeChallenge challenge now) normal (fun _ _ => True) store := by
  simp only [storeChallenge, Tx.wp_bind, Tx.wp_deleteExpiredPasskeyChallenges,
    Tx.wp_insertPasskeyChallenge]
  split
  · trivial
  · exact stored _ rfl

theorem beginRegistration_effect
    {draws : CeremonyDraws} :
    (ServiceTx.beginRegistration principal expectedOrigin now
      draws).HasEffect env store := by
  simp only [ServiceTx.HasEffect, ServiceTx.body, beginRegistration,
    Tx.wp_bind, Tx.wp_getUserById]
  cases authenticatable (store.users.get? principal.userId) now with
  | none =>
      trivial
  | some user =>
      simp only [Tx.wp_bind, Tx.wp_listPasskeys, Tx.wp_ite, Tx.wp_throw]
      split
      · trivial
      · refine wp_storeChallenge_committed ?_
        intro later same
        refine ⟨[], Effect.unchanged same ?_⟩
        intro userId change caused
        cases caused

theorem beginAuthentication_effect
    {draws : CeremonyDraws} :
    (ServiceTx.beginAuthentication expectedOrigin now draws).HasEffect
      env store := by
  simp only [ServiceTx.HasEffect, ServiceTx.body, beginAuthentication,
    Tx.wp_bind]
  refine wp_storeChallenge_committed ?_
  intro later same
  refine ⟨[], Effect.unchanged same ?_⟩
  intro userId change caused
  cases caused

theorem beginReauthentication_effect
    {draws : CeremonyDraws} :
    (ServiceTx.beginReauthentication principal expectedOrigin now
      draws).HasEffect env store := by
  simp only [ServiceTx.HasEffect, ServiceTx.body, beginReauthentication,
    Tx.wp_bind]
  refine wp_requirePrincipalUser principal now false _ ?_ trivial
  intro user session _ _ _ _
  simp only [Tx.wp_bind]
  refine wp_storeChallenge_committed ?_
  intro later same
  refine ⟨[], Effect.unchanged same ?_⟩
  intro userId change caused
  cases caused

theorem consumePasskeyChallenge_effect
    {ceremonyId : Uuid}
    {purpose : PasskeyCeremonyPurpose}
    {userId familyId : Option Uuid} :
    (ServiceTx.consumePasskeyChallenge ceremonyId purpose now userId
      familyId).HasEffect env store := by
  have unchanged :
      ∀ answer later,
        later.toCore = store.toCore →
        ∃ moves,
          Effect env.toDependencies store
            { tx :=
                .consumePasskeyChallenge ceremonyId purpose now userId familyId
              answer := .ok answer }
            moves later := by
    intro answer later same
    refine ⟨[], Effect.unchanged same ?_⟩
    intro other change caused
    cases caused
  simp only [ServiceTx.HasEffect, ServiceTx.body, consumeChallenge,
    Tx.wp_consumePasskeyChallenge]
  split
  · exact unchanged _ _ rfl
  · exact unchanged _ _ rfl

theorem registrationFailure_effect
    {userId : Uuid} :
    (ServiceTx.registrationFailure userId now context).HasEffect
      env store := by
  refine ⟨[], Effect.unchanged rfl ?_⟩
  intro other change caused
  cases caused

theorem authenticationFailure_effect
    {userId : Option Uuid} :
    (ServiceTx.authenticationFailure userId now context).HasEffect
      env store := by
  refine ⟨[], Effect.unchanged rfl ?_⟩
  intro other change caused
  cases caused

theorem reauthenticationFailure_effect :
    (ServiceTx.reauthenticationFailure principal now context).HasEffect
      env store := by
  refine ⟨[], Effect.unchanged rfl ?_⟩
  intro other change caused
  cases caused

theorem listPasskeys_effect :
    (ServiceTx.listPasskeys principal).HasEffect env store := by
  refine ⟨[], Effect.unchanged rfl ?_⟩
  intro other change caused
  cases caused

/-! ## Registration and revocation -/

/-- An authenticatable account is the one that was read. -/
theorem authenticatable_eq_some
    {user : Option UserAccount}
    {account : UserAccount}
    (available : authenticatable user now = some account) :
    user = some account ∧ account.canAuthenticate now = true := by
  simpa [authenticatable, Option.filter_eq_some_iff] using available

theorem finishRegistration_effect
    {name : String}
    {verified : VerifiedPasskeyRegistration} :
    (ServiceTx.finishRegistration principal passkeyId name verified now
      context).HasEffect env store := by
  simp only [ServiceTx.HasEffect, ServiceTx.body, finishRegistration,
    Tx.wp_bind, Tx.wp_getUserById]
  cases checked : authenticatable (store.users.get? principal.userId) now with
  | none =>
      trivial
  | some user =>
      obtain ⟨account, available⟩ := authenticatable_eq_some checked
      simp only [Tx.wp_bind, Tx.wp_countPasskeys, Tx.wp_ite, Tx.wp_throw,
        Tx.wp_insertPasskey]
      split
      · trivial
      · split
        · trivial
        · rename_i admitted
          rw [Bool.or_eq_true, not_or] at admitted
          apply wp_updateUser_committed
          rw [wp_recordSecurityEvent]
          let passkey :=
            registeredPasskey principal passkeyId name verified now
          have enabled :
              (Move.account principal.userId (.fence false)
                (.insertPasskey passkey) now).Enabled env.settings
                store.toCore :=
            ⟨user, account, available, ⟨rfl, by simpa using admitted.1⟩,
              fun _ => trivial⟩
          refine ⟨_, Effect.of_account
            (Performs.single enabled (Move.perform_account account))
            (by simp) .passkeyRegistered ?_⟩
          intro other change caused replacing
          cases caused
          cases replacing

theorem revokePasskey_effect :
    (ServiceTx.revokePasskey principal passkeyId now context).HasEffect
      env store := by
  simp only [ServiceTx.HasEffect, ServiceTx.body, revokePasskey, Tx.wp_bind,
    Tx.wp_getPasskeyById]
  cases owned :
      (store.passkeys.get? passkeyId).filter
        (fun credential => credential.userId = principal.userId) with
  | none =>
      trivial
  | some passkey =>
      simp only [Tx.wp_ite, Tx.wp_throw, Tx.wp_bind, Tx.wp_getUserById]
      split
      · trivial
      · cases checked :
            authenticatable (store.users.get? principal.userId) now with
        | none =>
            trivial
        | some user =>
            obtain ⟨account, available⟩ := authenticatable_eq_some checked
            rw [Option.filter_eq_some_iff] at owned
            obtain ⟨found, ownedBy⟩ := owned
            simp only [Tx.wp_bind, Tx.wp_updatePasskey]
            split
            · split
              · trivial
              · apply wp_updateUser_committed
                rw [wp_recordSecurityEvent]
                have enabled :
                    (Move.account principal.userId (.fence false)
                      (.revokePasskey passkeyId) now).Enabled env.settings
                      store.toCore :=
                  ⟨user, account, available,
                    ⟨passkey, found, by
                      simpa using ownedBy⟩,
                    fun _ => trivial⟩
                refine ⟨_, Effect.of_account
                  (Performs.single enabled ?_) (by simp) .passkeyRevoked ?_⟩
                · rw [Move.perform_account account]
                  simp only [Attachment.passkeys, found]
                  rfl
                · intro other change caused replacing
                  cases caused
                  cases replacing
            · trivial

/-! ## Verified use -/

/--
The rule of verifying a response: nothing changes, or the passkey of an account
that may authenticate is updated.
-/
theorem wp_verifyAndUpdatePasskey_committed
    {adapter : PasskeyAdapter}
    {expectedUserId : Option Uuid}
    {normal : PasskeyVerificationResult → Store → Prop}
    (settings : AuthSettings)
    (refused : ∀ user, normal { user := user, credential := none } store)
    (verified :
      ∀ user passkey later,
        store.users.get? user.id = some user →
        user.canAuthenticate now = true →
        (∀ expected, expectedUserId = some expected → user.id = expected) →
        (Move.updatePasskey passkey).Enabled settings store.toCore →
        later.toCore =
          { store.toCore with passkeys := store.passkeys.put passkey } →
        normal { user := some user, credential := some passkey } later) :
    Tx.wp (verifyAndUpdatePasskey adapter response now expectedUserId) normal
      (fun _ _ => True) store := by
  simp only [verifyAndUpdatePasskey]
  cases adapter.credentialId response.credential with
  | none =>
      exact refused none
  | some credentialId =>
      simp only [Tx.wp_bind, Tx.wp_getPasskeyByCredentialId]
      cases credential :
          store.passkeys.find? fun passkey =>
            passkey.credentialId = credentialId with
      | none =>
          exact refused none
      | some stored =>
          have found : store.passkeys.get? stored.id = some stored :=
            (Table.get?_of_find? credential).1
          simp only [Tx.wp_ite, Tx.wp_pure, Tx.wp_bind, Tx.wp_getUserById]
          split
          · exact refused none
          · rename_i admitted
            rw [Bool.or_eq_true, not_or] at admitted
            cases checked :
                authenticatable (store.users.get? stored.userId) now with
            | none =>
                exact refused none
            | some user =>
                obtain ⟨account, available⟩ := authenticatable_eq_some checked
                have userKey : user.id = stored.userId :=
                  Table.key_of_get? account
                simp only
                cases adapter.verifyAuthentication response.credential
                    response.challenge response.origin stored with
                | none =>
                    exact refused (some user)
                | some answer =>
                    simp only [Tx.wp_ite, Tx.wp_pure, Tx.wp_bind,
                      Tx.wp_updatePasskey]
                    split
                    · exact refused (some user)
                    · split
                      · split
                        · trivial
                        · refine verified user _ _ (userKey ▸ account)
                            available ?_ ⟨stored, found, rfl, rfl, rfl⟩ rfl
                          intro expected isExpected
                          subst isExpected
                          rw [userKey]
                          simpa using admitted.2
                      · trivial

theorem finishAuthentication_effect
    {draws : SessionDraws}
    (fresh :
      (ServiceTx.finishAuthentication response now context draws).Fresh
        store) :
    (ServiceTx.finishAuthentication response now context draws).HasEffect
      env store := by
  have noCause :
      ∀ answer userId change,
        Causes env.toDependencies store
          { tx := .finishAuthentication response now context draws
            answer := .ok answer }
          userId change →
        ¬ change.ReplacesPassword := by
    intro answer userId change caused
    cases caused
  simp only [ServiceTx.HasEffect, ServiceTx.body, finishAuthentication,
    Tx.wp_bind]
  refine wp_verifyAndUpdatePasskey_committed env.settings ?_ ?_
  · intro user
    simp only [Tx.wp_bind, wp_recordSecurityEvent, Tx.wp_pure]
    exact ⟨[], Effect.unchanged rfl (noCause _)⟩
  · intro user passkey later account available _ enabled same
    simp only [Tx.wp_bind]
    have users : later.users = store.users := by
      rw [same]
    have sessions : later.sessions = store.sessions := by
      rw [same]
    refine wp_issue_opening (by rw [users]; exact account) available
      (by rw [sessions]; exact fresh draws rfl) ?_
    intro bundle last session _ _ _ opens after
    simp only [Tx.wp_bind, wp_recordSecurityEvent, Tx.wp_pure]
    refine ⟨_, Effect.of_no_account
      (Performs.cons enabled same.symm (Performs.single opens after.symm))
      (by simp) (noCause _)⟩

theorem finishReauthentication_effect :
    (ServiceTx.finishReauthentication principal response now
      context).HasEffect env store := by
  have noCause :
      ∀ answer userId change,
        Causes env.toDependencies store
          { tx := .finishReauthentication principal response now context
            answer := .ok answer }
          userId change →
        ¬ change.ReplacesPassword := by
    intro answer userId change caused
    cases caused
  simp only [ServiceTx.HasEffect, ServiceTx.body, finishReauthentication,
    Tx.wp_bind]
  refine wp_verifyAndUpdatePasskey_committed env.settings ?_ ?_
  · intro user
    simp only [Tx.wp_bind, wp_recordSecurityEvent, Tx.wp_pure]
    exact ⟨[], Effect.unchanged rfl (noCause _)⟩
  · intro user passkey later account available _ enabled same
    simp only [Tx.wp_bind, wp_requirePrincipalSession]
    cases later.sessions.get? principal.sessionId with
    | none =>
        trivial
    | some session =>
        simp only
        split
        · simp only [wp_recordSecurityEvent, Tx.wp_pure]
          exact ⟨_, Effect.of_no_account (Performs.single enabled same.symm)
            (by simp) (noCause _)⟩
        · trivial

end EpokAuth
