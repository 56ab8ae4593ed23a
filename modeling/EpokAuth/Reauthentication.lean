import EpokAuth.LoginTransaction
import EpokAuth.PrincipalCheck
import EpokAuth.UniqueColumns

namespace EpokAuth

open Transactional

/-!
# Reauthentication

A principal proves again who it is, with its password or with a passkey.  The
proof is an answer and an event: no session is opened, rotated or renewed by it.
A password is checked in one transaction.  A passkey needs a challenge, which an
earlier transaction consumes for good, whatever becomes of the proof.
-/

/-! ## Sessions that stay what they are -/

/-- A session, whether or not it was revoked. -/
def RefreshSession.unrevoked (session : RefreshSession) : RefreshSession :=
  { session with revokedAt := none }

/-- No session is inserted, removed or changed, unless by being revoked. -/
def SessionsOnlyRevoked (before after : Store) : Prop :=
  ∀ id,
    (after.sessions.get? id).map RefreshSession.unrevoked =
      (before.sessions.get? id).map RefreshSession.unrevoked

/-- Revoking the sessions of an account is all that happens to them. -/
theorem SessionsOnlyRevoked.of_revise
    {before after : Store}
    {userId : Uuid}
    {revokedAt : Instant}
    (revised :
      after.sessions =
        before.sessions.revise (Store.ofUser userId) (Store.revokeAt revokedAt)
          fun _ => rfl) :
    SessionsOnlyRevoked before after := by
  intro id
  have found :=
    Table.get?_revise before.sessions (Store.ofUser userId)
      (Store.revokeAt revokedAt) (fun _ => rfl) id
  rw [revised]
  refine (congrArg (Option.map RefreshSession.unrevoked) found).trans ?_
  cases before.sessions.get? id with
  | none => rfl
  | some session =>
      refine congrArg some ?_
      dsimp only
      split
      · rfl
      · rfl

/-! ## Proofs -/

/-- What a principal is answered that has proved who it is. -/
def reauthentication
    (principal : Principal)
    (method : ReauthenticationMethod)
    (now : Instant) :
    Reauthentication where
  userId := principal.userId
  sessionId := principal.sessionId
  familyId := principal.familyId
  method := method
  verifiedAt := now

/-- A password opens an account that allows passwords. -/
def ProvesPassword
    (deps : Dependencies)
    (user : UserAccount)
    (salt : Nat)
    (password : String) :
    Prop :=
  user.passwordLoginEnabled = true ∧
    (deps.passwords.verifiedForLogin salt password
      (some user.passwordHash)).valid = true

/-- A stored passkey of the principal's account verifies a response. -/
structure PasskeyVerifies
    (adapter : PasskeyAdapter)
    (store : Store)
    (principal : Principal)
    (response : PasskeyResponse)
    (stored : PasskeyCredential)
    (verified : VerifiedPasskeyAuthentication) :
    Prop where
  named :
    ∃ credentialId,
      adapter.credentialId response.credential = some credentialId ∧
        (store.passkeys.find? fun passkey =>
          passkey.credentialId = credentialId) =
          some stored
  unrevoked : stored.revokedAt = none
  owned : stored.userId = principal.userId
  accepted :
    adapter.verifyAuthentication response.credential response.challenge
        response.origin stored =
      some verified
  sameCredential : verified.credentialId = stored.credentialId
  sameDevice : verified.deviceType = stored.deviceType

/-- A transaction comes to what its body comes to, or is rolled back. -/
theorem ServiceTx.outcome_of_wp
    {env : Environment}
    {tx : ServiceTx}
    {store : Store}
    {outcome : Except Failure tx.Answer → Store → Prop}
    (holds :
      Tx.wp (tx.body env) (fun answer later => outcome (.ok answer) later)
        (fun failure _ => outcome (.error failure) store) store) :
    outcome (tx.execute env store).1 (tx.execute env store).2 := by
  rcases execute_of_wp_both holds with
    ⟨answer, later, executes, reached⟩ | ⟨failure, executes, reached⟩
  · rw [executes]
    exact reached
  · rw [executes]
    exact reached

/-! ## With a password -/

/-- A password was proved: the account is verified, and one event recorded. -/
def provedByPassword
    (store : Store)
    (user : UserAccount)
    (verification : PasswordVerification)
    (principal : Principal)
    (now : Instant)
    (context : RequestContext) :
    Store :=
  { store with
    users := store.users.put (afterPasswordVerification user verification now)
    events := store.events ++
      [SecurityEvent.fromRequest .reauthenticationSucceeded now context
        (some principal.userId) (some principal.sessionId)
        (some [("method", .text ReauthenticationMethod.password.value)])] }

/-- What a reauthentication with a password answers and leaves behind. -/
inductive PasswordOutcome
    (env : Environment)
    (store : Store)
    (principal : Principal)
    (password : String)
    (now : Instant)
    (context : RequestContext)
    (salt : Nat) :
    Except Failure (Except Failure Reauthentication) → Store → Prop where
  | unauthorised
      (inactive : ¬ PrincipalInForce store principal now) :
      PasswordOutcome env store principal password now context salt
        (.error (.auth invalidSession)) store
  | proved
      {user : UserAccount}
      (inForce : PrincipalInForce store principal now)
      (account : store.users.get? principal.userId = some user)
      (proves : ProvesPassword env.toDependencies user salt password) :
      PasswordOutcome env store principal password now context salt
        (.ok (.ok (reauthentication principal .password now)))
        (provedByPassword store user
          (env.passwords.verifiedForLogin salt password (some user.passwordHash))
          principal now context)
  | wrong
      {user : UserAccount}
      {later : Store}
      (inForce : PrincipalInForce store principal now)
      (account : store.users.get? principal.userId = some user)
      (fails : ¬ ProvesPassword env.toDependencies user salt password)
      (sessions :
        later.sessions =
          if user.passwordLoginEnabled = true ∧
              (lockAfterFailure env.settings user now).isSome = true then
            store.sessions.revise (Store.ofUser principal.userId)
              (Store.revokeAt now) fun _ => rfl
          else
            store.sessions) :
      PasswordOutcome env store principal password now context salt
        (.ok (.error (.auth invalidCredentials))) later

section Password

variable
  {env : Environment}
  {store : Store}
  {principal : Principal}
  {user : UserAccount}
  {password : String}
  {now : Instant}
  {context : RequestContext}
  {salt : Nat}

/-- Counting a failure changes the sessions only when it locks the account. -/
theorem wp_recordPasswordFailure_sessions
    {settings : AuthSettings}
    {eventType : SecurityEventType}
    {sessionId : Option Uuid}
    {method : Option ReauthenticationMethod}
    {normal : Unit → Store → Prop}
    {failed : Failure → Store → Prop}
    (unique : UniqueColumns store)
    (account : store.users.get? user.id = some user)
    (available : user.canAuthenticate now = true)
    (counted :
      ∀ later,
        later.sessions =
          (if user.passwordLoginEnabled = true ∧
              (lockAfterFailure settings user now).isSome = true then
            store.sessions.revise (Store.ofUser user.id) (Store.revokeAt now)
              fun _ => rfl
          else
            store.sessions) →
        normal () later) :
    Tx.wp
      (recordPasswordFailure settings eventType (some user) now context
        sessionId method)
      normal failed store := by
  have sameId : (afterPasswordFailure settings user now).id = user.id := by
    simp only [afterPasswordFailure]
    split
    · rfl
    · rfl
  have sameEmail :
      (afterPasswordFailure settings user now).email = user.email := by
    simp only [afterPasswordFailure]
    split
    · rfl
    · rfl
  simp only [recordPasswordFailure, Option.elim_some, Tx.wp_bind,
    countPasswordFailure, Tx.wp_ite, wp_recordSecurityEvent, Tx.wp_pure,
    available, Bool.and_true, Tx.wp_updateUser, sameId, account,
    Option.isSome_some, ↓reduceIte, Tx.wp_revokeUserSessions,
    unique.emailTaken account sameId sameEmail, Bool.false_eq_true]
  split
  · rename_i enabled
    split
    · rename_i locks
      exact counted _ (if_pos ⟨enabled, locks⟩).symm
    · rename_i spares
      exact counted _ (if_neg fun both => spares both.2).symm
  · rename_i disabled
    exact counted _ (if_neg fun both => disabled both.1).symm

/-- A principal that is in force passes the check, and no other does. -/
theorem wp_requirePrincipalUser_both
    {forUpdate : Bool}
    {normal : UserAccount → Store → Prop}
    {failed : Failure → Store → Prop}
    (passes :
      PrincipalInForce store principal now →
      ∀ user,
        store.users.get? principal.userId = some user →
        user.canAuthenticate now = true → normal user store)
    (refused :
      ¬ PrincipalInForce store principal now →
        failed (.auth invalidSession) store) :
    Tx.wp (requirePrincipalUser principal now forUpdate) normal failed
      store := by
  by_cases inForce : PrincipalInForce store principal now
  · obtain ⟨user, session, account, stored, available, valid⟩ := inForce
    simp only [requirePrincipalUser, Tx.wp_bind, Tx.wp_getUserById,
      wp_requirePrincipalSession, account, stored, available, valid,
      Bool.and_self, ↓reduceIte, Tx.wp_pure]
    exact passes ⟨user, session, account, stored, available, valid⟩ user account
      available
  · refine wp_requirePrincipalUser principal now forUpdate _ ?_
      (refused inForce)
    intro user session account stored available valid
    exact absurd ⟨user, session, account, stored, available, valid⟩ inForce

/-- A reauthentication with a password comes to one of its outcomes. -/
theorem reauthenticatePassword_outcome
    (unique : UniqueColumns store) :
    PasswordOutcome env store principal password now context salt
      ((ServiceTx.reauthenticatePassword principal password now context
        salt).execute env store).1
      ((ServiceTx.reauthenticatePassword principal password now context
        salt).execute env store).2 := by
  have holds :
      Tx.wp
        ((ServiceTx.reauthenticatePassword principal password now context
          salt).body env)
        (fun answer later =>
          PasswordOutcome env store principal password now context salt
            (.ok answer) later)
        (fun failure _ =>
          PasswordOutcome env store principal password now context salt
            (.error failure) store)
        store := by
    simp only [ServiceTx.body, reauthenticatePassword, Tx.wp_bind]
    refine wp_requirePrincipalUser_both ?_ .unauthorised
    intro inForce user account available
    have userKey : user.id = principal.userId := Table.key_of_get? account
    have stored : store.users.get? user.id = some user := userKey ▸ account
    by_cases proves : ProvesPassword env.toDependencies user salt password
    · obtain ⟨enabled, valid⟩ := proves
      have free :=
        @UniqueColumns.emailTaken store user
          (afterPasswordVerification user
            (env.passwords.verifiedForLogin salt password
              (some user.passwordHash))
            now)
          unique stored rfl rfl
      have present :
          (store.users.get? (afterPasswordVerification user
            (env.passwords.verifiedForLogin salt password
              (some user.passwordHash))
            now).id).isSome = true :=
        congrArg Option.isSome stored
      simp only [enabled, ↓reduceIte, valid, Bool.not_true, Bool.or_false,
        Bool.false_eq_true, applyPasswordVerification, Tx.wp_bind,
        Tx.wp_updateUser, present, free, Tx.wp_pure, wp_recordSecurityEvent]
      exact .proved inForce account ⟨enabled, valid⟩
    · have closed :
          (!user.passwordLoginEnabled ||
              !(env.passwords.verifiedForLogin salt password
                (if user.passwordLoginEnabled = true then
                  some user.passwordHash
                else
                  none)).valid) =
            true := by
        cases enabled : user.passwordLoginEnabled with
        | false => rfl
        | true =>
            rw [Bool.not_true, Bool.false_or, Bool.not_eq_true', if_pos rfl]
            exact Bool.eq_false_iff.mpr fun valid => proves ⟨enabled, valid⟩
      rw [if_pos closed, Tx.wp_bind]
      refine wp_recordPasswordFailure_sessions unique stored available ?_
      intro later sessions
      rw [Tx.wp_pure]
      exact .wrong inForce account proves (userKey ▸ sessions)
  exact ServiceTx.outcome_of_wp holds

end Password

/-! ## With a passkey -/

/-- A passkey was proved: it is updated, and one event recorded. -/
def provedByPasskey
    (store : Store)
    (used : PasskeyCredential)
    (principal : Principal)
    (now : Instant)
    (context : RequestContext) :
    Store :=
  { store with
    passkeys := store.passkeys.put used
    events := store.events ++
      [SecurityEvent.fromRequest .reauthenticationSucceeded now context
        (some principal.userId) (some principal.sessionId)
        (some
          [ ("method", .text ReauthenticationMethod.passkey.value),
            ("passkey_id", .identifier used.id) ])] }

/-- A passkey was not proved: one event is recorded. -/
def withReauthenticationFailure
    (store : Store)
    (principal : Principal)
    (now : Instant)
    (context : RequestContext) :
    Store :=
  { store with
    events := store.events ++
      [SecurityEvent.fromRequest .reauthenticationFailed now context
        (some principal.userId) (some principal.sessionId)
        (some [("method", .text ReauthenticationMethod.passkey.value)])] }

/-- What the transaction of a passkey answers and leaves behind. -/
inductive PasskeyOutcome
    (env : Environment)
    (store : Store)
    (principal : Principal)
    (response : PasskeyResponse)
    (now : Instant)
    (context : RequestContext) :
    Except Failure (Except Failure Reauthentication) → Store → Prop where
  | unauthorised
      (inactive : ¬ PrincipalInForce store principal now) :
      PasskeyOutcome env store principal response now context
        (.error (.auth invalidSession)) store
  | proved
      {stored : PasskeyCredential}
      {verified : VerifiedPasskeyAuthentication}
      (inForce : PrincipalInForce store principal now)
      (verifies :
        PasskeyVerifies env.adapter store principal response stored verified) :
      PasskeyOutcome env store principal response now context
        (.ok (.ok (reauthentication principal .passkey now)))
        (provedByPasskey store (usedPasskey stored verified now) principal now
          context)
  | wrong
      (fails :
        PrincipalInForce store principal now →
          ∀ stored verified,
            ¬ PasskeyVerifies env.adapter store principal response stored
              verified) :
      PasskeyOutcome env store principal response now context
        (.ok (.error invalidAuthentication))
        (withReauthenticationFailure store principal now context)

section Passkey

variable
  {env : Environment}
  {adapter : PasskeyAdapter}
  {store : Store}
  {principal : Principal}
  {response : PasskeyResponse}
  {now : Instant}
  {context : RequestContext}

/-- A response is verified by the passkey that it names. -/
theorem PasskeyVerifies.found
    {stored : PasskeyCredential}
    {verified : VerifiedPasskeyAuthentication}
    {credentialId : List UInt8}
    (verifies :
      PasskeyVerifies adapter store principal response stored verified)
    (names : adapter.credentialId response.credential = some credentialId) :
    (store.passkeys.find? fun passkey =>
      passkey.credentialId = credentialId) =
      some stored := by
  obtain ⟨otherId, isOther, isStored⟩ := verifies.named
  obtain rfl := Option.some.inj (names.symm.trans isOther)
  exact isStored

/-- A response is verified by at most one passkey, in one way. -/
theorem PasskeyVerifies.same
    {stored other : PasskeyCredential}
    {verified another : VerifiedPasskeyAuthentication}
    (first : PasskeyVerifies adapter store principal response stored verified)
    (second : PasskeyVerifies adapter store principal response other another) :
    stored = other ∧ verified = another := by
  obtain ⟨credentialId, names, found⟩ := first.named
  obtain rfl := Option.some.inj (found.symm.trans (second.found names))
  exact ⟨rfl, Option.some.inj (first.accepted.symm.trans second.accepted)⟩

/-- A stored passkey is updated when it was used: it keeps its credential. -/
theorem wp_updatePasskey_used
    {stored : PasskeyCredential}
    {verified : VerifiedPasskeyAuthentication}
    {normal : Unit → Store → Prop}
    {failed : Failure → Store → Prop}
    (unique : UniqueColumns store)
    (held : store.passkeys.get? stored.id = some stored) :
    Tx.wp (Tx.updatePasskey (usedPasskey stored verified now)) normal failed
        store ↔
      normal ()
        { store with
          passkeys := store.passkeys.put (usedPasskey stored verified now) } := by
  have free :=
    @UniqueColumns.credentialTaken store stored
      (usedPasskey stored verified now) unique held rfl rfl
  have present :
      (store.passkeys.get? (usedPasskey stored verified now).id).isSome =
        true :=
    congrArg Option.isSome held
  simp only [Tx.wp_updatePasskey, present, free, ↓reduceIte,
    Bool.false_eq_true]

/-- Verifying a response updates the passkey that verifies it, or nothing. -/
theorem wp_verifyAndUpdatePasskey_both
    {normal : PasskeyVerificationResult → Store → Prop}
    {failed : Failure → Store → Prop}
    (unique : UniqueColumns store)
    (refused :
      (∀ user,
        store.users.get? principal.userId = some user →
        user.canAuthenticate now = true →
        ∀ stored verified,
          ¬ PasskeyVerifies adapter store principal response stored
            verified) →
      ∀ user, normal { user := user, credential := none } store)
    (proved :
      ∀ user stored verified,
        store.users.get? principal.userId = some user →
        user.canAuthenticate now = true →
        PasskeyVerifies adapter store principal response stored verified →
        normal
          { user := some user
            credential := some (usedPasskey stored verified now) }
          { store with
            passkeys := store.passkeys.put (usedPasskey stored verified now) }) :
    Tx.wp
      (verifyAndUpdatePasskey adapter response now (some principal.userId))
      normal failed store := by
  simp only [verifyAndUpdatePasskey]
  cases names : adapter.credentialId response.credential with
  | none =>
      refine refused (fun _ _ _ stored verified verifies => ?_) none
      obtain ⟨credentialId, isId, _⟩ := verifies.named
      rw [names] at isId
      cases isId
  | some credentialId =>
      simp only [Tx.wp_bind, Tx.wp_getPasskeyByCredentialId]
      cases found :
          store.passkeys.find? fun passkey =>
            passkey.credentialId = credentialId with
      | none =>
          refine refused (fun _ _ _ stored verified verifies => ?_) none
          rw [verifies.found names] at found
          cases found
      | some stored =>
          -- any passkey that verifies the response is this one
          have isThis :
              ∀ other verified,
                PasskeyVerifies adapter store principal response other
                  verified →
                other = stored := fun _ _ verifies =>
            Option.some.inj ((verifies.found names).symm.trans found)
          simp only [Tx.wp_ite, Tx.wp_pure, Option.any_some]
          split
          · rename_i closed
            refine refused (fun _ _ _ other verified verifies => ?_) none
            obtain rfl := isThis other verified verifies
            simp [verifies.unrevoked, verifies.owned] at closed
          · rename_i open_
            simp only [Bool.or_eq_true, not_or, Bool.not_eq_true,
              Option.isSome_eq_false_iff, Option.isNone_iff_eq_none,
              decide_eq_false_iff_not, ne_eq, not_not] at open_
            obtain ⟨unrevoked, owned⟩ := open_
            simp only [Tx.wp_bind, Tx.wp_getUserById, owned]
            cases checked :
                authenticatable (store.users.get? principal.userId) now with
            | none =>
                refine refused (fun user account available => ?_) none
                simp [authenticatable, account, available] at checked
            | some user =>
                obtain ⟨account, available⟩ := authenticatable_eq_some checked
                simp only
                cases accepts :
                    adapter.verifyAuthentication response.credential
                      response.challenge response.origin stored with
                | none =>
                    refine refused (fun _ _ _ other verified verifies => ?_)
                      (some user)
                    obtain rfl := isThis other verified verifies
                    rw [verifies.accepted] at accepts
                    cases accepts
                | some verified =>
                    simp only [Tx.wp_ite, Tx.wp_pure]
                    split
                    · rename_i differs
                      refine refused (fun _ _ _ other another verifies => ?_)
                        (some user)
                      obtain rfl := isThis other another verifies
                      obtain rfl :=
                        Option.some.inj (verifies.accepted.symm.trans accepts)
                      simp [verifies.sameCredential, verifies.sameDevice]
                        at differs
                    · rename_i agrees
                      simp only [Bool.or_eq_true, decide_eq_true_eq, not_or,
                        ne_eq, not_not] at agrees
                      have held : store.passkeys.get? stored.id = some stored :=
                        (Table.get?_of_find? found).1
                      rw [Tx.wp_bind, wp_updatePasskey_used unique held,
                        Tx.wp_pure]
                      exact proved user stored verified account available
                        { named := ⟨credentialId, names, found⟩
                          unrevoked := unrevoked
                          owned := owned
                          accepted := accepts
                          sameCredential := agrees.1
                          sameDevice := agrees.2 }

/-- The transaction of a passkey comes to one of its outcomes. -/
theorem finishReauthentication_outcome
    (unique : UniqueColumns store) :
    PasskeyOutcome env store principal response now context
      ((ServiceTx.finishReauthentication principal response now
        context).execute env store).1
      ((ServiceTx.finishReauthentication principal response now
        context).execute env store).2 := by
  have holds :
      Tx.wp
        ((ServiceTx.finishReauthentication principal response now
          context).body env)
        (fun answer later =>
          PasskeyOutcome env store principal response now context (.ok answer)
            later)
        (fun failure _ =>
          PasskeyOutcome env store principal response now context
            (.error failure) store)
        store := by
    simp only [ServiceTx.body, finishReauthentication, Tx.wp_bind]
    refine wp_verifyAndUpdatePasskey_both unique ?_ ?_
    · intro fails user
      simp only [Tx.wp_bind, wp_recordSecurityEvent, Tx.wp_pure]
      refine .wrong ?_
      rintro ⟨other, _, account, _, available, _⟩
      exact fails other account available
    · intro user stored verified account available verifies
      simp only [Tx.wp_bind, wp_requirePrincipalSession]
      cases session : store.sessions.get? principal.sessionId with
      | none =>
          refine .unauthorised ?_
          rintro ⟨_, other, _, isOther, _⟩
          rw [session] at isOther
          cases isOther
      | some session_ =>
          simp only [available, Bool.true_and]
          split
          · rename_i valid
            simp only [wp_recordSecurityEvent, Tx.wp_pure]
            exact .proved ⟨user, session_, account, session, available, valid⟩
              verifies
          · rename_i invalid
            refine .unauthorised ?_
            rintro ⟨_, other, _, isOther, _, valid⟩
            obtain rfl := Option.some.inj (session.symm.trans isOther)
            exact invalid valid
  exact ServiceTx.outcome_of_wp holds

end Passkey

/-! ## The methods -/

/-- A failure that a committed transaction reports is raised after it. -/
def raiseAfter :
    Except Failure (Except Failure Reauthentication) →
      Except Failure Reauthentication
  | .ok answer => answer
  | .error failure => .error failure

/-- One call that proves a passkey, with the clock reading it takes. -/
structure PasskeyCall where
  principal : Principal
  ceremonyId : Uuid
  credential : CredentialPayload
  origin : Option String
  context : RequestContext
  now : Instant

/-- The stores that the transactions of such a call meet. -/
structure PasskeyCallStores where
  consumption : Store
  failure : Store
  verification : Store

/-- The transactions of a call, each with the stores around it, and its answer. -/
structure PasskeyCallOutcome where
  transactions : List (Store × Store)
  answer : Except Failure Reauthentication

section Call

variable (env : Environment) (call : PasskeyCall) (stores : PasskeyCallStores)

/-- The response that is verified for a challenge. -/
def PasskeyCall.response
    (challenge : PasskeyChallenge)
    (expectedOrigin : String) :
    PasskeyResponse where
  credential := call.credential
  challenge := challenge.challenge
  origin := expectedOrigin

/-- The transaction that consumes the challenge of a call. -/
def PasskeyCall.consumes :
    Except Failure (Option PasskeyChallenge) × Store :=
  (ServiceTx.consumePasskeyChallenge call.ceremonyId .reauthentication call.now
    (some call.principal.userId) (some call.principal.familyId)).execute env
      stores.consumption

/-- The failure of a ceremony is recorded before it is raised. -/
def PasskeyCall.declines : PasskeyCallOutcome :=
  let recorded :=
    (ServiceTx.reauthenticationFailure call.principal call.now
      call.context).execute env stores.failure
  { transactions :=
      [ (stores.consumption, (call.consumes env stores).2),
        (stores.failure, recorded.2) ]
    answer := .error invalidChallenge }

/-- The transaction that verifies the response of a call. -/
def PasskeyCall.verifies
    (challenge : PasskeyChallenge)
    (expectedOrigin : String) :
    Except Failure (Except Failure Reauthentication) × Store :=
  (ServiceTx.finishReauthentication call.principal
    (call.response challenge expectedOrigin) call.now call.context).execute env
      stores.verification

/-- Finish a ceremony, each transaction in the store that it meets. -/
def PasskeyCall.finish : PasskeyCallOutcome :=
  match validatePasskeyOrigin env.toDependencies call.origin with
  | .error failure => { transactions := [], answer := .error failure }
  | .ok expectedOrigin =>
      match (call.consumes env stores).1 with
      | .error failure =>
          { transactions :=
              [(stores.consumption, (call.consumes env stores).2)]
            answer := .error failure }
      | .ok none => call.declines env stores
      | .ok (some challenge) =>
          if challenge.origin ≠ expectedOrigin then
            call.declines env stores
          else
            let verified := call.verifies env stores challenge expectedOrigin
            { transactions :=
                [ (stores.consumption, (call.consumes env stores).2),
                  (stores.verification, verified.2) ]
              answer := raiseAfter verified.1 }

end Call

/-- What a call needs for its passkey to be a proof. -/
structure PasskeyCall.Proves
    (env : Environment)
    (call : PasskeyCall)
    (stores : PasskeyCallStores)
    (challenge : PasskeyChallenge)
    (stored : PasskeyCredential)
    (verified : VerifiedPasskeyAuthentication) :
    Prop where
  origin :
    validatePasskeyOrigin env.toDependencies call.origin = .ok challenge.origin
  found :
    stores.consumption.passkeyChallenges.get? call.ceremonyId = some challenge
  consumable :
    Store.consumePasskeyChallengeCondition .reauthentication call.now
        (some call.principal.userId) (some call.principal.familyId) challenge =
      true
  inForce : PrincipalInForce stores.verification call.principal call.now
  verifies :
    PasskeyVerifies env.adapter stores.verification call.principal
      (call.response challenge challenge.origin) stored verified

/-- The challenge of a call is consumed. -/
def withConsumedChallenge
    (store : Store)
    (challenge : PasskeyChallenge)
    (now : Instant) :
    Store :=
  { store with
    passkeyChallenges :=
      store.passkeyChallenges.put { challenge with consumedAt := some now } }

/-- Proving a password again verifies it, and leaves all else as it is. -/
structure PasswordOnlyVerifies
    (env : Environment)
    (store : Store)
    (principal : Principal)
    (password : String)
    (now : Instant)
    (context : RequestContext)
    (salt : Nat)
    (answer : Except Failure Reauthentication)
    (after : Store) :
    Prop where
  sessions : SessionsOnlyRevoked store after
  exactly :
    ∀ proof,
      answer = .ok proof ↔
        PrincipalInForce store principal now ∧
          (∃ user,
            store.users.get? principal.userId = some user ∧
              ProvesPassword env.toDependencies user salt password) ∧
          proof = reauthentication principal .password now
  writes :
    ∀ proof,
      answer = .ok proof →
      ∃ user,
        store.users.get? principal.userId = some user ∧
          after =
            provedByPassword store user
              (env.passwords.verifiedForLogin salt password
                (some user.passwordHash))
              principal now context
  wrong :
    ∀ user,
      PrincipalInForce store principal now →
      store.users.get? principal.userId = some user →
      ¬ ProvesPassword env.toDependencies user salt password →
      after.sessions =
        if user.passwordLoginEnabled = true ∧
            (lockAfterFailure env.settings user now).isSome = true then
          store.sessions.revise (Store.ofUser principal.userId)
            (Store.revokeAt now) fun _ => rfl
        else
          store.sessions
  unauthorised : ¬ PrincipalInForce store principal now → after = store

/-- What a transaction may do in a call whose passkey is no proof. -/
inductive PasskeyCall.Declined (call : PasskeyCall) (before : Store) :
    Store → Prop where
  | unchanged : Declined call before before
  | consumed (challenge : PasskeyChallenge) :
      Declined call before (withConsumedChallenge before challenge call.now)
  | recorded :
      Declined call before
        (withReauthenticationFailure before call.principal call.now
          call.context)

/-- Proving a passkey verifies it, and leaves all else as it is. -/
structure PasskeyOnlyVerifies
    (env : Environment)
    (call : PasskeyCall)
    (stores : PasskeyCallStores) :
    Prop where
  sessions :
    ∀ transaction ∈ (call.finish env stores).transactions,
      transaction.2.sessions = transaction.1.sessions
  exactly :
    ∀ proof,
      (call.finish env stores).answer = .ok proof ↔
        (∃ challenge stored verified,
          call.Proves env stores challenge stored verified) ∧
          proof = reauthentication call.principal .passkey call.now
  writes :
    ∀ challenge stored verified,
      call.Proves env stores challenge stored verified →
      (call.finish env stores).transactions =
        [ (stores.consumption,
            withConsumedChallenge stores.consumption challenge call.now),
          (stores.verification,
            provedByPasskey stores.verification
              (usedPasskey stored verified call.now) call.principal call.now
              call.context) ]
  declines :
    ∀ failure,
      (call.finish env stores).answer = .error failure →
      ∀ transaction ∈ (call.finish env stores).transactions,
        call.Declined transaction.1 transaction.2

/-- Reauthentication verifies, and changes nothing else. -/
structure ReauthenticationOnlyVerifies
    (env : Environment)
    (store : Store) :
    Prop where
  password :
    ∀ principal password now context salt,
      PasswordOnlyVerifies env store principal password now context salt
        (raiseAfter
          ((ServiceTx.reauthenticatePassword principal password now context
            salt).execute env store).1)
        ((ServiceTx.reauthenticatePassword principal password now context
          salt).execute env store).2
  passkey :
    ∀ call consumption failure,
      PasskeyOnlyVerifies env call
        { consumption := consumption
          failure := failure
          verification := store }

section Methods

variable
  {env : Environment}
  {store : Store}
  {principal : Principal}
  {password : String}
  {now : Instant}
  {context : RequestContext}
  {salt : Nat}
  {call : PasskeyCall}
  {stores : PasskeyCallStores}

/-- Every outcome of a password is that of a mere verification. -/
theorem PasswordOutcome.onlyVerifies
    {answer : Except Failure (Except Failure Reauthentication)}
    {after : Store}
    (outcome :
      PasswordOutcome env store principal password now context salt answer
        after) :
    PasswordOnlyVerifies env store principal password now context salt
      (raiseAfter answer) after := by
  cases outcome with
  | unauthorised inactive =>
      exact
        { sessions := fun _ => rfl
          exactly := fun proof =>
            iff_of_false (fun impossible => by cases impossible)
              fun all => inactive all.1
          writes := fun proof impossible => by cases impossible
          wrong := fun user inForce => absurd inForce inactive
          unauthorised := fun _ => rfl }
  | @proved user inForce account proves =>
      exact
        { sessions := fun _ => rfl
          exactly := fun proof =>
            ⟨fun isProof =>
              ⟨inForce, ⟨user, account, proves⟩, (Except.ok.inj isProof).symm⟩,
              fun all => congrArg Except.ok all.2.2.symm⟩
          writes := fun proof _ => ⟨user, account, rfl⟩
          wrong := fun other _ found fails => by
            obtain rfl := Option.some.inj (account.symm.trans found)
            exact absurd proves fails
          unauthorised := fun inactive => absurd inForce inactive }
  | @wrong user _ inForce account fails sessions =>
      refine
        { sessions := ?_
          exactly := fun proof =>
            iff_of_false (fun impossible => by cases impossible) ?_
          writes := fun proof impossible => by cases impossible
          wrong := fun other _ found _ => by
            obtain rfl := Option.some.inj (account.symm.trans found)
            exact sessions
          unauthorised := fun inactive => absurd inForce inactive }
      · split at sessions
        · exact .of_revise sessions
        · intro id
          rw [sessions]
      · rintro ⟨_, ⟨other, found, proves⟩, _⟩
        obtain rfl := Option.some.inj (account.symm.trans found)
        exact fails proves

/-- What consuming the challenge of a call answers and leaves behind. -/
inductive PasskeyCall.Consumes
    (call : PasskeyCall)
    (store : Store) :
    Except Failure (Option PasskeyChallenge) → Store → Prop where
  | nothing
      (absent :
        (store.passkeyChallenges.get? call.ceremonyId).filter
            (Store.consumePasskeyChallengeCondition .reauthentication call.now
              (some call.principal.userId) (some call.principal.familyId)) =
          none) :
      Consumes call store (.ok none) store
  | consumed
      {challenge : PasskeyChallenge}
      (chosen :
        (store.passkeyChallenges.get? call.ceremonyId).filter
            (Store.consumePasskeyChallengeCondition .reauthentication call.now
              (some call.principal.userId) (some call.principal.familyId)) =
          some challenge) :
      Consumes call store
        (.ok (some { challenge with consumedAt := some call.now }))
        (withConsumedChallenge store challenge call.now)

/-- Consuming the challenge of a call does one of these things. -/
theorem PasskeyCall.consumes_outcome :
    call.Consumes stores.consumption (call.consumes env stores).1
      (call.consumes env stores).2 := by
  refine ServiceTx.outcome_of_wp ?_
  simp only [ServiceTx.body, consumeChallenge, Tx.wp_consumePasskeyChallenge]
  split
  · rename_i absent
    exact .nothing absent
  · rename_i challenge chosen
    exact .consumed chosen

/-- A call whose challenge is declined records a failure, and that is all. -/
theorem PasskeyCall.declines_eq :
    call.declines env stores =
      { transactions :=
          [ (stores.consumption, (call.consumes env stores).2),
            (stores.failure,
              withReauthenticationFailure stores.failure call.principal
                call.now call.context) ]
        answer := .error invalidChallenge } :=
  rfl

/-- A call that is answered without a proof. -/
structure PasskeyCall.IsDeclined
    (env : Environment)
    (call : PasskeyCall)
    (stores : PasskeyCallStores)
    (outcome : PasskeyCallOutcome) :
    Prop where
  raises : ∃ failure, outcome.answer = .error failure
  unproved :
    ∀ challenge stored verified,
      ¬ call.Proves env stores challenge stored verified
  declines :
    ∀ transaction ∈ outcome.transactions,
      call.Declined transaction.1 transaction.2

/-- A call without a proof verifies nothing. -/
theorem PasskeyCall.IsDeclined.onlyVerifies
    (declined : call.IsDeclined env stores (call.finish env stores)) :
    PasskeyOnlyVerifies env call stores := by
  obtain ⟨failure, raised⟩ := declined.raises
  refine
    { sessions := ?_
      exactly := fun proof => iff_of_false ?_ ?_
      writes := fun challenge stored verified proves =>
        absurd proves (declined.unproved challenge stored verified)
      declines := fun _ _ => declined.declines }
  · rintro ⟨before, after⟩ member
    have left : call.Declined before after := declined.declines _ member
    cases left with
    | unchanged => rfl
    | consumed challenge => rfl
    | recorded => rfl
  · rw [raised]
    intro impossible
    cases impossible
  · rintro ⟨⟨challenge, stored, verified, proves⟩, _⟩
    exact declined.unproved challenge stored verified proves

/-- A call that consumes nothing is declined. -/
theorem PasskeyCall.isDeclined_of_refused
    {after : Store}
    (consumes : (call.consumes env stores).2 = after)
    (left : call.Declined stores.consumption after)
    (unproved :
      ∀ challenge stored verified,
        ¬ call.Proves env stores challenge stored verified) :
    call.IsDeclined env stores (call.declines env stores) := by
  rw [PasskeyCall.declines_eq, consumes]
  refine ⟨⟨invalidChallenge, rfl⟩, unproved, ?_⟩
  intro transaction member
  rcases List.mem_cons.mp member with rfl | last
  · exact left
  · rw [List.mem_singleton.mp last]
    exact .recorded

/-- A call that consumes a challenge of its origin goes on to verify it. -/
theorem PasskeyCall.onlyVerifies_of_consumed
    {challenge : PasskeyChallenge}
    (unique : UniqueColumns stores.verification)
    (origin :
      validatePasskeyOrigin env.toDependencies call.origin =
        .ok challenge.origin)
    (found :
      stores.consumption.passkeyChallenges.get? call.ceremonyId =
        some challenge)
    (consumable :
      Store.consumePasskeyChallengeCondition .reauthentication call.now
          (some call.principal.userId) (some call.principal.familyId)
          challenge =
        true)
    (finishes :
      call.finish env stores =
        { transactions :=
            [ (stores.consumption,
                withConsumedChallenge stores.consumption challenge call.now),
              (stores.verification,
                (call.verifies env stores challenge challenge.origin).2) ]
          answer :=
            raiseAfter (call.verifies env stores challenge challenge.origin).1 }) :
    PasskeyOnlyVerifies env call stores := by
  have outcome :
      PasskeyOutcome env stores.verification call.principal
        (call.response challenge challenge.origin) call.now call.context
        (call.verifies env stores challenge challenge.origin).1
        (call.verifies env stores challenge challenge.origin).2 :=
    finishReauthentication_outcome unique
  have isThis :
      ∀ {other stored verified},
        call.Proves env stores other stored verified → other = challenge := by
    intro other stored verified proves
    exact Option.some.inj (proves.found.symm.trans found)
  generalize call.verifies env stores challenge challenge.origin = verified
    at finishes outcome
  obtain ⟨answer, later⟩ := verified
  have declined :
      (∃ failure, raiseAfter answer = .error failure) →
      (∀ stored verified,
        ¬ (PrincipalInForce stores.verification call.principal call.now ∧
          PasskeyVerifies env.adapter stores.verification call.principal
            (call.response challenge challenge.origin) stored verified)) →
      call.Declined stores.verification later →
        PasskeyOnlyVerifies env call stores := by
    intro raises unproved left
    refine PasskeyCall.IsDeclined.onlyVerifies ?_
    rw [finishes]
    refine ⟨raises, ?_, ?_⟩
    · intro other stored verified proves
      obtain rfl := isThis proves
      exact unproved stored verified ⟨proves.inForce, proves.verifies⟩
    · intro transaction member
      rcases List.mem_cons.mp member with rfl | last
      · exact .consumed challenge
      · rw [List.mem_singleton.mp last]
        exact left
  cases outcome with
  | unauthorised inactive =>
      exact declined ⟨_, rfl⟩ (fun _ _ both => inactive both.1) .unchanged
  | wrong fails =>
      exact declined ⟨_, rfl⟩ (fun _ _ both => fails both.1 _ _ both.2)
        .recorded
  | @proved stored verified inForce verifies =>
      have proves : call.Proves env stores challenge stored verified :=
        { origin := origin
          found := found
          consumable := consumable
          inForce := inForce
          verifies := verifies }
      refine
        { sessions := ?_
          exactly := fun proof => ?_
          writes := ?_
          declines := fun failure raised => ?_ }
      · rw [finishes]
        intro transaction member
        rcases List.mem_cons.mp member with rfl | last
        · rfl
        · rw [List.mem_singleton.mp last]
      · rw [finishes]
        constructor
        · intro isProof
          exact ⟨⟨challenge, stored, verified, proves⟩,
            (Except.ok.inj isProof).symm⟩
        · rintro ⟨_, rfl⟩
          rfl
      · intro other otherStored otherVerified otherProves
        obtain rfl := isThis otherProves
        obtain ⟨rfl, rfl⟩ := verifies.same otherProves.verifies
        rw [finishes]
        rfl
      · rw [finishes] at raised
        cases raised

/-- Every outcome of a call is that of a mere verification. -/
theorem PasskeyCall.onlyVerifies
    (unique : UniqueColumns stores.verification) :
    PasskeyOnlyVerifies env call stores := by
  cases origin : validatePasskeyOrigin env.toDependencies call.origin with
  | error failure =>
      refine PasskeyCall.IsDeclined.onlyVerifies ?_
      rw [PasskeyCall.finish, origin]
      refine ⟨⟨failure, rfl⟩, fun challenge stored verified proves => ?_,
        fun transaction member => by cases member⟩
      have trusted := proves.origin
      rw [origin] at trusted
      cases trusted
  | ok expectedOrigin =>
      have outcome := @PasskeyCall.consumes_outcome env call stores
      cases consumes : call.consumes env stores with
      | mk answer later =>
          rw [consumes] at outcome
          cases outcome with
          | nothing absent =>
              have finishes :
                  call.finish env stores = call.declines env stores := by
                simp only [PasskeyCall.finish, origin, consumes]
              refine PasskeyCall.IsDeclined.onlyVerifies ?_
              rw [finishes]
              refine PasskeyCall.isDeclined_of_refused
                (congrArg Prod.snd consumes) .unchanged ?_
              intro challenge stored verified proves
              rw [proves.found, Option.filter_some, if_pos proves.consumable]
                at absent
              cases absent
          | @consumed challenge chosen =>
              by_cases same : challenge.origin = expectedOrigin
              · subst same
                obtain ⟨found, consumable⟩ := Option.filter_eq_some_iff.mp chosen
                refine PasskeyCall.onlyVerifies_of_consumed unique origin found
                  consumable ?_
                simp only [PasskeyCall.finish, origin, consumes, ne_eq,
                  not_true_eq_false, ↓reduceIte]
                rfl
              · have finishes :
                    call.finish env stores = call.declines env stores := by
                  simp only [PasskeyCall.finish, origin, consumes, ne_eq, same,
                    not_false_eq_true, ↓reduceIte]
                refine PasskeyCall.IsDeclined.onlyVerifies ?_
                rw [finishes]
                refine PasskeyCall.isDeclined_of_refused
                  (congrArg Prod.snd consumes) (.consumed challenge) ?_
                intro other stored verified proves
                rw [proves.found, Option.filter_some, if_pos proves.consumable]
                  at chosen
                obtain rfl := Option.some.inj chosen
                exact same (Except.ok.inj (proves.origin.symm.trans origin))

end Methods

/--
In every reachable store, for every principal and every input, a reauthentication
answers with a proof exactly when the principal is in force and its credential
verifies.  Nothing happens to the sessions, unless a wrong password locks the
account.
-/
theorem reauthentication_only_verifies
    {env : Environment}
    {store : Store}
    (reachable : ServiceReachable env store) :
    ReauthenticationOnlyVerifies env store where
  password := fun _ _ _ _ _ =>
    (reauthenticatePassword_outcome reachable.unique).onlyVerifies
  passkey := fun _ _ _ => PasskeyCall.onlyVerifies reachable.unique

/-! ## A ceremony -/

/-- An environment with one trusted origin, whose host may hold passkeys. -/
def ceremonyEnvironment : Environment :=
  { referenceEnvironment with
    settings :=
      { referenceEnvironment.settings with
        trustedOrigins := ["https://example.test"]
        passkeyRpId := some "example.test" }
    text :=
      { plainText with
        urlsplit := fun _ =>
          some
            { scheme := "https"
              netloc := "example.test"
              hostname := some "example.test"
              port := some none
              username := none
              password := none
              path := ""
              query := ""
              fragment := "" } } }

/-- An account with a passkey begins to prove it. -/
def ceremonyBegun : List ServiceTx :=
  loggedIn ++
    [ .finishRegistration loggedInPrincipal 5 "key" verifiedPasskey 15 {},
      .beginReauthentication loggedInPrincipal "https://example.test" 20
        { challengeId := 6, challenge := [7] } ]

/-- The ceremony has begun, and then its challenge has been consumed. -/
def ceremonyStore : Store :=
  (executeAll ceremonyEnvironment ceremonyBegun {}).2

/-- The store after the challenge of the ceremony was consumed. -/
def ceremonyConsumed : Store :=
  (executeAll ceremonyEnvironment
    (ceremonyBegun ++
      [.consumePasskeyChallenge 6 .reauthentication 30 (some 1) (some 3)])
    {}).2

/-- The ceremony is finished with that passkey. -/
def ceremonyFinished : PasskeyCall where
  principal := loggedInPrincipal
  ceremonyId := 6
  credential := String.ofList [Char.ofNat 1]
  origin := some "https://example.test"
  context := {}
  now := 30

/-- The stores that the transactions of the ceremony meet. -/
def ceremonyStores : PasskeyCallStores where
  consumption := ceremonyStore
  failure := ceremonyConsumed
  verification := ceremonyConsumed

/-- The passkey is proved, and only verified. -/
theorem reauthentication_only_verifies_ceremony :
    (ceremonyFinished.finish ceremonyEnvironment ceremonyStores).answer =
        .ok (reauthentication loggedInPrincipal .passkey 30) ∧
      ReauthenticationOnlyVerifies ceremonyEnvironment ceremonyConsumed :=
  ⟨by decide +kernel,
    reauthentication_only_verifies (reachable_executeAll (by decide +kernel))⟩

/--
The call that proves the passkey also consumes its challenge: this is one more
write than those to the passkey and to the events.
-/
theorem reauthentication_consumes_challenge :
    (ceremonyFinished.finish ceremonyEnvironment ceremonyStores).answer =
        .ok (reauthentication loggedInPrincipal .passkey 30) ∧
      ∃ transaction ∈
          (ceremonyFinished.finish ceremonyEnvironment
            ceremonyStores).transactions,
        (transaction.1.passkeyChallenges.get? 6).map
            PasskeyChallenge.consumedAt =
          some none ∧
        (transaction.2.passkeyChallenges.get? 6).map
            PasskeyChallenge.consumedAt =
          some (some 30) := by
  decide +kernel

end EpokAuth
