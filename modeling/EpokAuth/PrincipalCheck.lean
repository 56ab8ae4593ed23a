import EpokAuth.ServiceEffects

namespace EpokAuth

open Transactional

/-!
# Changes authorised by a principal

A principal says which session it was authenticated with, and every operation
on its behalf looks at the stored rows again.  Four of them look at the session
and the account; the two that change passkeys look at the account alone.
-/

/-- A transaction changed or proved something on behalf of a principal. -/
inductive Executed.ActsFor : Executed → Principal → Instant → Prop where
  | passwordChanged
      {principal : Principal}
      {currentPassword newPassword : String}
      {now : Instant}
      {context : RequestContext}
      {salts : ChangePasswordSalts}
      {draws : SessionDraws}
      {bundle : SessionBundle} :
      ActsFor
        { tx :=
            .changePassword principal currentPassword newPassword now context
              salts draws
          answer := .ok bundle }
        principal now
  | passwordProved
      {principal : Principal}
      {password : String}
      {now : Instant}
      {context : RequestContext}
      {salt : Nat}
      {proof : Reauthentication} :
      ActsFor
        { tx := .reauthenticatePassword principal password now context salt
          answer := .ok (.ok proof) }
        principal now
  | identityLinked
      {principal : Principal}
      {claims : GoogleClaims}
      {now : Instant}
      {context : RequestContext}
      {identityId : Uuid}
      {identity : ExternalIdentity} :
      ActsFor
        { tx := .linkIdentity principal claims now context identityId
          answer := .ok (.ok identity) }
        principal now
  | identityFound
      {principal : Principal}
      {claims : GoogleClaims}
      {now : Instant}
      {context : RequestContext}
      {identity : ExternalIdentity} :
      ActsFor
        { tx := .linkedAfterConflict principal claims now context
          answer := .ok (.ok identity) }
        principal now
  | passkeyProved
      {principal : Principal}
      {response : PasskeyResponse}
      {now : Instant}
      {context : RequestContext}
      {proof : Reauthentication} :
      ActsFor
        { tx := .finishReauthentication principal response now context
          answer := .ok (.ok proof) }
        principal now
  | passkeyRegistered
      {principal : Principal}
      {passkeyId : Uuid}
      {name : String}
      {verified : VerifiedPasskeyRegistration}
      {now : Instant}
      {context : RequestContext} :
      ActsFor
        { tx :=
            .finishRegistration principal passkeyId name verified now context
          answer := .ok () }
        principal now
  | passkeyRevoked
      {principal : Principal}
      {passkeyId : Uuid}
      {now : Instant}
      {context : RequestContext} :
      ActsFor
        { tx := .revokePasskey principal passkeyId now context
          answer := .ok () }
        principal now

/-- The transactions that change a passkey of the principal's account. -/
def ServiceTx.ChangesPasskeys : ServiceTx → Prop
  | .finishRegistration .. => True
  | .revokePasskey .. => True
  | _ => False

/-- The stored session of a principal is valid for it. -/
def SessionValid (store : Store) (principal : Principal) (now : Instant) :
    Prop :=
  ∃ session,
    store.sessions.get? principal.sessionId = some session ∧
      session.isValidFor principal.subject now = true

/-- The account of a principal may authenticate. -/
def AccountAvailable (store : Store) (principal : Principal) (now : Instant) :
    Prop :=
  ∃ user,
    store.users.get? principal.userId = some user ∧
      user.canAuthenticate now = true

/-- A principal is in force when its session and its account are. -/
theorem principalInForce_iff
    {store : Store}
    {principal : Principal}
    {now : Instant} :
    PrincipalInForce store principal now ↔
      AccountAvailable store principal now ∧
        SessionValid store principal now := by
  constructor
  · rintro ⟨user, session, account, stored, available, valid⟩
    exact ⟨⟨user, account, available⟩, ⟨session, stored, valid⟩⟩
  · rintro ⟨⟨user, account, available⟩, ⟨session, stored, valid⟩⟩
    exact ⟨user, session, account, stored, available, valid⟩

/-! ## The check of each operation -/

section Checks

variable
  {env : Environment}
  {principal : Principal}
  {claims : GoogleClaims}
  {now : Instant}
  {context : RequestContext}
  {store : Store}

/-- What requires a principal is only done for one in force. -/
theorem wp_requirePrincipalUser_inForce
    {forUpdate : Bool}
    {later : UserAccount → Tx α} :
    Tx.wp (requirePrincipalUser principal now forUpdate >>= later)
      (fun _ _ => PrincipalInForce store principal now) (fun _ _ => True)
      store := by
  rw [Tx.wp_bind]
  refine wp_requirePrincipalUser principal now forUpdate _ ?_ trivial
  intro user session account stored available valid
  exact Tx.wp_of_forall
    (fun _ _ => ⟨user, session, account, stored, available, valid⟩)
    (fun _ _ => trivial)

/-- A principal who may link is in force. -/
theorem principalInForce_of_canLink
    (permitted :
      canLink (store.users.get? principal.userId)
          (store.sessions.get? principal.sessionId) principal now =
        true) :
    PrincipalInForce store principal now := by
  cases account : store.users.get? principal.userId with
  | none =>
      simp [canLink, account] at permitted
  | some user =>
      cases stored : store.sessions.get? principal.sessionId with
      | none =>
          simp [canLink, account, stored] at permitted
      | some session =>
          simp only [canLink, account, stored, Bool.and_eq_true] at permitted
          exact ⟨user, session, account, stored, permitted.1.1, permitted.2⟩

theorem wp_linkIdentity_inForce
    {identityId : Uuid} :
    Tx.wp (linkIdentity principal claims now context identityId)
      (fun answer _ =>
        ∀ identity, answer = .ok identity →
          PrincipalInForce store principal now)
      (fun _ _ => True) store := by
  simp only [linkIdentity, linkIdentity.refuse, Tx.wp_bind, Tx.wp_getUserById,
    Tx.wp_getSessionById]
  cases account : store.users.get? principal.userId with
  | none =>
      intro identity impossible
      cases impossible
  | some user =>
      simp only [Tx.wp_ite, Tx.wp_bind, wp_recordSecurityEvent, Tx.wp_pure]
      split
      · rename_i permitted
        rw [← account] at permitted
        exact Tx.wp_of_forall
          (fun _ _ => Tx.wp_of_forall
            (fun _ _ _ _ => principalInForce_of_canLink permitted)
            (fun _ _ => trivial))
          (fun _ _ => trivial)
      · intro identity impossible
        cases impossible

theorem wp_linkedAfterConflict_inForce :
    Tx.wp (linkedAfterConflict principal claims now context)
      (fun answer _ =>
        ∀ identity, answer = .ok identity →
          PrincipalInForce store principal now)
      (fun _ _ => True) store := by
  simp only [linkedAfterConflict, linkedAfterConflict.refuse, Tx.wp_bind,
    Tx.wp_getUserById, Tx.wp_getSessionById, Tx.wp_ite,
    wp_recordSecurityEvent, Tx.wp_pure]
  split
  · rename_i permitted
    exact Tx.wp_of_forall
      (fun _ _ => Tx.wp_of_forall
        (fun _ _ _ _ => principalInForce_of_canLink permitted)
        (fun _ _ => trivial))
      (fun _ _ => trivial)
  · intro identity impossible
    cases impossible

theorem wp_finishReauthentication_inForce
    {response : PasskeyResponse} :
    Tx.wp (finishReauthentication env.adapter principal response now context)
      (fun answer _ =>
        ∀ proof, answer = .ok proof → PrincipalInForce store principal now)
      (fun _ _ => True) store := by
  simp only [finishReauthentication, Tx.wp_bind]
  refine wp_verifyAndUpdatePasskey_committed env.settings ?_ ?_
  · intro user
    simp only [Tx.wp_bind, wp_recordSecurityEvent, Tx.wp_pure]
    intro proof impossible
    cases impossible
  · intro user passkey later account available expected _ same
    have isUser : user.id = principal.userId := expected _ rfl
    have sessions : later.sessions = store.sessions := by
      rw [same]
    simp only [Tx.wp_bind, wp_requirePrincipalSession, sessions]
    cases stored : store.sessions.get? principal.sessionId with
    | none =>
        trivial
    | some session =>
        simp only
        split
        · rename_i permitted
          rw [Bool.and_eq_true] at permitted
          rw [wp_recordSecurityEvent]
          intro proof _
          exact ⟨user, session, isUser ▸ account, stored, permitted.1,
            permitted.2⟩
        · trivial

/-- Registering a passkey checks the account. -/
theorem wp_finishRegistration_available
    {deps : Dependencies}
    {passkey : PasskeyCredential} :
    Tx.wp (finishRegistration deps principal passkey now context)
      (fun _ _ => AccountAvailable store principal now) (fun _ _ => True)
      store := by
  simp only [finishRegistration, Tx.wp_bind, Tx.wp_getUserById]
  cases checked : authenticatable (store.users.get? principal.userId) now with
  | none =>
      trivial
  | some user =>
      exact Tx.wp_of_forall
        (fun _ _ => ⟨user, authenticatable_eq_some checked⟩)
        (fun _ _ => trivial)

/-- Revoking a passkey checks the account. -/
theorem wp_revokePasskey_available
    {passkeyId : Uuid} :
    Tx.wp (revokePasskey principal passkeyId now context)
      (fun _ _ => AccountAvailable store principal now) (fun _ _ => True)
      store := by
  simp only [revokePasskey, Tx.wp_bind, Tx.wp_getPasskeyById]
  cases (store.passkeys.get? passkeyId).filter
      fun credential => credential.userId = principal.userId with
  | none =>
      trivial
  | some credential =>
      simp only [Tx.wp_ite, Tx.wp_throw, Tx.wp_bind, Tx.wp_getUserById]
      split
      · trivial
      · cases checked :
            authenticatable (store.users.get? principal.userId) now with
        | none =>
            trivial
        | some user =>
            exact Tx.wp_of_forall
              (fun _ _ => ⟨user, authenticatable_eq_some checked⟩)
              (fun _ _ => trivial)

end Checks

/-! ## The check of a step -/

variable
  {env : Environment}
  {before after : Store}
  {executed : Executed}
  {principal : Principal}
  {now : Instant}

/-- Every other operation acts only for a principal in force. -/
theorem ServiceStep.inForce_of_actsFor
    (step : ServiceStep env before executed after)
    (acts : executed.ActsFor principal now)
    (other : ¬ executed.tx.ChangesPasskeys) :
    PrincipalInForce before principal now := by
  cases acts with
  | passwordChanged =>
      exact step.of_wp wp_requirePrincipalUser_inForce
  | passwordProved =>
      exact step.of_wp wp_requirePrincipalUser_inForce
  | identityLinked =>
      exact step.of_wp wp_linkIdentity_inForce _ rfl
  | identityFound =>
      exact step.of_wp wp_linkedAfterConflict_inForce _ rfl
  | passkeyProved =>
      exact step.of_wp wp_finishReauthentication_inForce _ rfl
  | passkeyRegistered =>
      exact absurd trivial other
  | passkeyRevoked =>
      exact absurd trivial other

/-- Every operation acts only for a principal whose account is available. -/
theorem ServiceStep.available_of_actsFor
    (step : ServiceStep env before executed after)
    (acts : executed.ActsFor principal now) :
    AccountAvailable before principal now := by
  by_cases changes : executed.tx.ChangesPasskeys
  · cases acts with
    | passkeyRegistered =>
        exact step.of_wp wp_finishRegistration_available
    | passkeyRevoked =>
        exact step.of_wp wp_revokePasskey_available
    | _ => cases changes
  · exact (principalInForce_iff.mp (step.inForce_of_actsFor acts changes)).1

/--
A step that acts for a principal finds it in force, in the store it meets,
exactly when it changes no passkey or the stored session of the principal is
valid there: the passkey operations check the account alone.
-/
theorem ServiceStep.inForce_iff
    (step : ServiceStep env before executed after)
    (acts : executed.ActsFor principal now) :
    PrincipalInForce before principal now ↔
      ¬ executed.tx.ChangesPasskeys ∨ SessionValid before principal now := by
  constructor
  · intro inForce
    exact .inr (principalInForce_iff.mp inForce).2
  · rintro (other | valid)
    · exact step.inForce_of_actsFor acts other
    · exact principalInForce_iff.mpr
        ⟨step.available_of_actsFor acts, valid⟩

end EpokAuth
