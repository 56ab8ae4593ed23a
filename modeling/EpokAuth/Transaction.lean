import EpokAuth.StoreExecution

namespace EpokAuth

open Transactional

/-!
# Store transactions as programs

A service method's transaction is a program over the store's methods.  The
rules below say what must hold of a store before a method so that a
postcondition holds after it, both for an answer and for a raised failure;
service proofs compose these rules and never look at a statement again.
-/

/-- The body of a transaction that its caller commits or rolls back. -/
abbrev Tx (α : Type) : Type :=
  Prog Statement Answer Failure α

namespace Tx

/-- Issue a method that answers. -/
def issue (statement : Statement) : Tx (Answer statement) :=
  Prog.perform statement

/-- Issue a method that may raise. -/
def attempt
    (statement : Statement)
    (raises : Answer statement → Except Failure α) :
    Tx α :=
  Prog.perform statement >>= fun answer => Prog.ofExcept (raises answer)

/-! ## The methods of a store transaction -/

/--
Keep others from changing who the administrators are until the transaction ends.
-/
def acquireAdminInvariantLock : Tx Unit :=
  issue .acquireAdminInvariantLock

/-- Count the accounts of a role, or only the active ones. -/
def countUsersWithRole (role : String) (activeOnly : Bool) : Tx Nat :=
  issue (.countUsersWithRole role activeOnly)

/-- The account with a normalised email. -/
def getUserByEmail (email : String) (forUpdate : Bool) :
    Tx (Option UserAccount) :=
  issue (.getUserByEmail email forUpdate)

/-- The account with an identifier. -/
def getUserById (userId : Uuid) (forUpdate : Bool) :
    Tx (Option UserAccount) :=
  issue (.getUserById userId forUpdate)

/-- A page of the accounts, in the order of their creation. -/
def listUsers (limit offset : Nat) : Tx (List UserAccount) :=
  issue (.listUsers limit offset)

/-- Store a new account, unless its identifier or its email is taken. -/
def insertUser (user : UserAccount) : Tx Unit :=
  attempt (.insertUser user) id

/-- Replace an account that is stored, unless another one has its email. -/
def updateUser (user : UserAccount) : Tx Unit :=
  attempt (.updateUser user) id

/-- The session whose refresh token has a digest. -/
def getSessionByTokenHash (tokenHash : String) (forUpdate : Bool) :
    Tx (Option RefreshSession) :=
  issue (.getSessionByTokenHash tokenHash forUpdate)

/-- The session with an identifier. -/
def getSessionById (sessionId : Uuid) (forUpdate : Bool) :
    Tx (Option RefreshSession) :=
  issue (.getSessionById sessionId forUpdate)

/-- Store a new session, unless its identifier or its token is taken. -/
def insertSession (session : RefreshSession) : Tx Unit :=
  attempt (.insertSession session) id

/-- Replace a session that is stored. -/
def updateSession (session : RefreshSession) : Tx Unit :=
  attempt (.updateSession session) id

/-- Revoke the sessions of a family that are not revoked, and count them. -/
def revokeFamily (familyId : Uuid) (revokedAt : Instant) : Tx Nat :=
  issue (.revokeFamily familyId revokedAt)

/-- Revoke the sessions of an account that are not revoked, and count them. -/
def revokeUserSessions (userId : Uuid) (revokedAt : Instant) : Tx Nat :=
  issue (.revokeUserSessions userId revokedAt)

/-- Append an event to the audit trail. -/
def addSecurityEvent (event : SecurityEvent) : Tx Unit :=
  issue (.addSecurityEvent event)

/-- Delete the passkey challenges that have expired, and count them. -/
def deleteExpiredPasskeyChallenges (now : Instant) : Tx Nat :=
  issue (.deleteExpiredPasskeyChallenges now)

/-- Store a new passkey challenge. -/
def insertPasskeyChallenge (challenge : PasskeyChallenge) : Tx Unit :=
  attempt (.insertPasskeyChallenge challenge) id

/--
Consume a passkey challenge that is for this purpose, user and family, if it may
be.
-/
def consumePasskeyChallenge
    (challengeId : Uuid)
    (purpose : PasskeyCeremonyPurpose)
    (now : Instant)
    (userId familyId : Option Uuid) :
    Tx (Option PasskeyChallenge) :=
  issue
    (.consumePasskeyChallenge challengeId purpose now userId familyId)

/-- Count the passkeys of an account that are not revoked. -/
def countPasskeys (userId : Uuid) : Tx Nat :=
  issue (.countPasskeys userId)

/-- The passkeys of an account that are not revoked, the oldest first. -/
def listPasskeys (userId : Uuid) : Tx (List PasskeyCredential) :=
  issue (.listPasskeys userId)

/-- A passkey of an account, revoked or not. -/
def getPasskeyById (passkeyId userId : Uuid) (forUpdate : Bool) :
    Tx (Option PasskeyCredential) :=
  issue (.getPasskeyById passkeyId userId forUpdate)

/-- The passkey that an authenticator names, revoked or not. -/
def getPasskeyByCredentialId (credentialId : List UInt8) (forUpdate : Bool) :
    Tx (Option PasskeyCredential) :=
  issue (.getPasskeyByCredentialId credentialId forUpdate)

/-- Store a new passkey, unless another one has its credential identifier. -/
def insertPasskey (credential : PasskeyCredential) : Tx Unit :=
  attempt (.insertPasskey credential) id

/-- Replace a passkey that is stored. -/
def updatePasskey (credential : PasskeyCredential) : Tx Unit :=
  attempt (.updatePasskey credential) id

/-- Delete the Google challenges that have expired, and count them. -/
def deleteExpiredGoogleChallenges (now : Instant) : Tx Nat :=
  issue (.deleteExpiredGoogleChallenges now)

/-- Store a new Google challenge. -/
def insertGoogleChallenge (challenge : GoogleChallenge) : Tx Unit :=
  attempt (.insertGoogleChallenge challenge) id

/--
Consume a Google challenge that is for this purpose and user, if it may be.
-/
def consumeGoogleChallenge
    (challengeId : Uuid)
    (purpose : GoogleChallengePurpose)
    (now : Instant)
    (userId : Option Uuid) :
    Tx (Option GoogleChallenge) :=
  issue (.consumeGoogleChallenge challengeId purpose now userId)

/-- The identity of an issuer and a subject. -/
def getExternalIdentity (issuer subject : String) (forUpdate : Bool) :
    Tx (Option ExternalIdentity) :=
  issue (.getExternalIdentity issuer subject forUpdate)

/-- The identity that an account has at an issuer. -/
def getExternalIdentityForUser
    (userId : Uuid)
    (issuer : String)
    (forUpdate : Bool) :
    Tx (Option ExternalIdentity) :=
  issue (.getExternalIdentityForUser userId issuer forUpdate)

/-- Link an account to an identity that is not linked. -/
def insertExternalIdentity (identity : ExternalIdentity) : Tx Unit :=
  attempt (.insertExternalIdentity identity) id

/-- Replace an identity that is stored. -/
def updateExternalIdentity (identity : ExternalIdentity) : Tx Unit :=
  attempt (.updateExternalIdentity identity) id

/-- Unlink an identity that is stored. -/
def deleteExternalIdentity (identityId : Uuid) : Tx Unit :=
  attempt (.deleteExternalIdentity identityId) id

/-- Delete the links that were issued before an instant, and count them. -/
def deleteOldEmailLinks (before : Instant) : Tx Nat :=
  issue (.deleteOldEmailLinks before)

/-- Count the links of an account that were issued since an instant. -/
def countEmailLinkRequests
    (userId : Uuid)
    (purpose : EmailLinkPurpose)
    (since : Instant) :
    Tx Nat :=
  issue (.countEmailLinkRequests userId purpose since)

/-- The link of an account with the highest generation. -/
def getLatestEmailLink (userId : Uuid) (purpose : EmailLinkPurpose) :
    Tx (Option EmailLink) :=
  issue (.getLatestEmailLink userId purpose)

/-- The link with an identifier. -/
def getEmailLink (linkId : Uuid) (forUpdate : Bool) : Tx (Option EmailLink) :=
  issue (.getEmailLink linkId forUpdate)

/-- The link whose token has a digest. -/
def getEmailLinkByTokenHash (tokenHash : String) (purpose : EmailLinkPurpose) :
    Tx (Option EmailLink) :=
  issue (.getEmailLinkByTokenHash tokenHash purpose)

/-- Store a new link, unless its identifier, token or generation is taken. -/
def insertEmailLink (link : EmailLink) : Tx Unit :=
  attempt (.insertEmailLink link) id

/-- Activate a link that is pending. -/
def activateEmailLink (linkId : Uuid) (now : Instant) :
    Tx (Option EmailLink) :=
  issue (.activateEmailLink linkId now)

/-- Close a link that is pending, since its email was not delivered. -/
def failEmailLink (linkId : Uuid) (now : Instant) : Tx (Option EmailLink) :=
  issue (.failEmailLink linkId now)

/-- Revoke a link that is pending or active. -/
def revokeEmailLink (linkId : Uuid) (now : Instant) : Tx (Option EmailLink) :=
  issue (.revokeEmailLink linkId now)

/-- Revoke the active links of an account but one, and count them. -/
def revokeOtherActiveEmailLinks
    (userId : Uuid)
    (purpose : EmailLinkPurpose)
    (activeLinkId : Uuid)
    (now : Instant) :
    Tx Nat :=
  issue
    (.revokeOtherActiveEmailLinks userId purpose activeLinkId now)

/-- Consume a link that is active and has not expired. -/
def consumeEmailLink
    (linkId : Uuid)
    (purpose : EmailLinkPurpose)
    (now : Instant) :
    Tx (Option EmailLink) :=
  issue (.consumeEmailLink linkId purpose now)

/-- Run a transaction alone: commit what it returns, roll back what it raises. -/
def execute (body : Tx α) (store : Store) : Except Failure α × Store :=
  match body.run Store.evaluate store with
  | (.ok answer, later) => (.ok answer, later)
  | (.error failure, _) => (.error failure, store)

/-! ## Rules -/

/--
What must hold of a store so that a transaction body, run on it alone, ends in
one postcondition when it returns and in another one when it raises.
-/
def wp
    (body : Tx α)
    (normal : α → Store → Prop)
    (failed : Failure → Store → Prop)
    (store : Store) :
    Prop :=
  Prog.wp Store.evaluate.transformer body normal failed store

/-- A transaction run alone returns or raises what its body establishes. -/
theorem execute_of_wp
    {body : Tx α}
    {normal : α → Store → Prop}
    {raises : Failure → Prop}
    {store : Store}
    (holds : wp body normal (fun failure _ => raises failure) store) :
    (∃ answer later,
        body.execute store = (.ok answer, later) ∧ normal answer later) ∨
      ∃ failure,
        body.execute store = (.error failure, store) ∧ raises failure := by
  unfold execute
  cases outcome : body.run Store.evaluate store with
  | mk result later =>
      cases result with
      | ok answer =>
          exact .inl ⟨answer, later, rfl, Prog.normal_of_run holds outcome⟩
      | error failure =>
          exact .inr ⟨failure, rfl, Prog.failed_of_run holds outcome⟩

/-- A transaction whose body never raises returns what the body establishes. -/
theorem execute_returns_of_wp
    {body : Tx α}
    {normal : α → Store → Prop}
    {store : Store}
    (holds : wp body normal (fun _ _ => False) store) :
    ∃ answer later,
      body.execute store = (.ok answer, later) ∧ normal answer later := by
  rcases execute_of_wp holds with returned | ⟨_, _, impossible⟩
  · exact returned
  · exact impossible.elim

/-- A transaction of which part of the answer is kept leaves the same store. -/
theorem execute_map
    (body : Tx α)
    (keep : α → β)
    (store : Store) :
    (keep <$> body : Tx β).execute store =
      ((body.execute store).1.map keep, (body.execute store).2) := by
  have runs :
      (keep <$> body : Tx β).run Store.evaluate store =
        ((body.run Store.evaluate store).1.map keep,
          (body.run Store.evaluate store).2) :=
    Prog.run_map body keep store
  unfold execute
  rw [runs]
  rcases body.run Store.evaluate store with ⟨answer | failure, later⟩
  · rfl
  · rfl

section Rules

variable
  {failed : Failure → Store → Prop}
  {store : Store}

@[simp] theorem wp_pure (value : α) (normal : α → Store → Prop) :
    wp (pure value) normal failed store = normal value store :=
  rfl

@[simp] theorem wp_done (value : α) (normal : α → Store → Prop) :
    wp (.done value) normal failed store = normal value store :=
  rfl

@[simp] theorem wp_throw (failure : Failure) (normal : α → Store → Prop) :
    wp (throw failure) normal failed store = failed failure store :=
  rfl

@[simp] theorem wp_fail (failure : Failure) (normal : α → Store → Prop) :
    wp (.fail failure) normal failed store = failed failure store :=
  rfl

@[simp] theorem wp_ofExcept
    (value : Except Failure α)
    (normal : α → Store → Prop) :
    wp (Prog.ofExcept value) normal failed store =
      match value with
      | .ok value => normal value store
      | .error failure => failed failure store := by
  cases value <;> rfl

@[simp] theorem wp_bind
    (body : Tx α)
    (later : α → Tx β)
    (normal : β → Store → Prop) :
    wp (body >>= later) normal failed store =
      wp body (fun value => wp (later value) normal failed) failed store := by
  exact congrFun (Prog.wp_bind body later normal) store

@[simp] theorem wp_ite
    (condition : Prop)
    [Decidable condition]
    (first second : Tx α)
    (normal : α → Store → Prop) :
    wp (if condition then first else second) normal failed store =
      if condition then
        wp first normal failed store
      else
        wp second normal failed store := by
  split <;> rfl

theorem wp_attempt
    (statement : Statement)
    (raises : Answer statement → Except Failure α)
    (normal : α → Store → Prop) :
    wp (attempt statement raises) normal failed store =
      match raises (Store.evaluate statement store).1 with
      | .ok value => normal value (Store.evaluate statement store).2
      | .error failure =>
          failed failure (Store.evaluate statement store).2 := by
  rw [attempt, wp_bind]
  exact wp_ofExcept _ _

/-- A method that is refused on one condition and otherwise changes the store. -/
private theorem wp_attempt_of_refused
    {statement : Statement}
    {raises : Answer statement → Except Failure Unit}
    {refused : Bool}
    {failure : Failure}
    {later : Store}
    {normal : Unit → Store → Prop}
    (evaluated :
      (raises (Store.evaluate statement store).1,
          (Store.evaluate statement store).2) =
        if refused then (.error failure, store) else (.ok (), later)) :
    wp (attempt statement raises) normal failed store =
      if refused then failed failure store else normal () later := by
  have answered := congrArg Prod.fst evaluated
  have changed := congrArg Prod.snd evaluated
  cases refused with
  | false =>
      simp only [Bool.false_eq_true, ↓reduceIte] at answered changed ⊢
      rw [wp_attempt, answered, changed]
  | true =>
      simp only [↓reduceIte] at answered changed ⊢
      rw [wp_attempt, answered, changed]

/-- A method that also needs its row to be present. -/
private theorem wp_attempt_of_present
    {statement : Statement}
    {raises : Answer statement → Except Failure Unit}
    {present refused : Bool}
    {missing failure : Failure}
    {later : Store}
    {normal : Unit → Store → Prop}
    (evaluated :
      (raises (Store.evaluate statement store).1,
          (Store.evaluate statement store).2) =
        if present then
          if refused then (.error failure, store) else (.ok (), later)
        else
          (.error missing, store)) :
    wp (attempt statement raises) normal failed store =
      if present then
        if refused then failed failure store else normal () later
      else
        failed missing store := by
  cases present with
  | false =>
      have refusedAlways :
          (raises (Store.evaluate statement store).1,
              (Store.evaluate statement store).2) =
            if true then (.error missing, store) else (.ok (), later) := by
        simpa using evaluated
      exact wp_attempt_of_refused refusedAlways
  | true =>
      exact wp_attempt_of_refused (by simpa using evaluated)

/-- Postconditions may be weakened. -/
theorem wp_mono
    {body : Tx α}
    {stronger weaker : α → Store → Prop}
    {failed' : Failure → Store → Prop}
    (holds : wp body stronger failed store)
    (normalWeaker : ∀ value later, stronger value later → weaker value later)
    (failedWeaker : ∀ failure later, failed failure later → failed' failure later) :
    wp body weaker failed' store :=
  Prog.wp_mono Store.evaluate.transformer_monotone holds
    normalWeaker failedWeaker

/-- Postconditions that hold of every outcome need no execution. -/
theorem wp_of_forall
    {body : Tx α}
    {normal : α → Store → Prop}
    (returned : ∀ value later, normal value later)
    (raised : ∀ failure later, failed failure later) :
    wp body normal failed store := by
  refine Prog.wp_transformer_iff.mpr ?_
  split
  · exact returned _ _
  · exact raised _ _

/-! ### Methods that only read -/

@[simp] theorem wp_acquireAdminInvariantLock
    (normal : Unit → Store → Prop) :
    wp acquireAdminInvariantLock normal failed store = normal () store :=
  rfl

@[simp] theorem wp_countUsersWithRole
    (role : String)
    (activeOnly : Bool)
    (normal : Nat → Store → Prop) :
    wp (countUsersWithRole role activeOnly) normal failed store =
      normal
        (store.users.count (Store.hasRole role activeOnly))
        store :=
  rfl

@[simp] theorem wp_getUserByEmail
    (email : String)
    (forUpdate : Bool)
    (normal : Option UserAccount → Store → Prop) :
    wp (getUserByEmail email forUpdate) normal failed store =
      normal
        (store.users.find? fun user => user.email = email)
        store :=
  rfl

@[simp] theorem wp_getUserById
    (userId : Uuid)
    (forUpdate : Bool)
    (normal : Option UserAccount → Store → Prop) :
    wp (getUserById userId forUpdate) normal failed store =
      normal
        (store.users.get? userId)
        store :=
  rfl

@[simp] theorem wp_listUsers
    (limit offset : Nat)
    (normal : List UserAccount → Store → Prop) :
    wp (listUsers limit offset) normal failed store =
      normal
        (store.listUsers limit offset)
        store :=
  rfl

@[simp] theorem wp_getSessionByTokenHash
    (tokenHash : String)
    (forUpdate : Bool)
    (normal : Option RefreshSession → Store → Prop) :
    wp (getSessionByTokenHash tokenHash forUpdate) normal failed store =
      normal
        (store.sessions.find? fun session => session.tokenHash = tokenHash)
        store :=
  rfl

@[simp] theorem wp_getSessionById
    (sessionId : Uuid)
    (forUpdate : Bool)
    (normal : Option RefreshSession → Store → Prop) :
    wp (getSessionById sessionId forUpdate) normal failed store =
      normal
        (store.sessions.get? sessionId)
        store :=
  rfl

@[simp] theorem wp_countPasskeys
    (userId : Uuid)
    (normal : Nat → Store → Prop) :
    wp (countPasskeys userId) normal failed store =
      normal
        (store.passkeys.count (Store.isPasskeyOf userId))
        store :=
  rfl

@[simp] theorem wp_listPasskeys
    (userId : Uuid)
    (normal : List PasskeyCredential → Store → Prop) :
    wp (listPasskeys userId) normal failed store =
      normal
        (store.listPasskeys userId)
        store :=
  rfl

@[simp] theorem wp_getPasskeyById
    (passkeyId userId : Uuid)
    (forUpdate : Bool)
    (normal : Option PasskeyCredential → Store → Prop) :
    wp (getPasskeyById passkeyId userId forUpdate) normal failed store =
      normal
        ((store.passkeys.get? passkeyId).filter fun credential =>
          credential.userId = userId)
        store :=
  rfl

@[simp] theorem wp_getPasskeyByCredentialId
    (credentialId : List UInt8)
    (forUpdate : Bool)
    (normal : Option PasskeyCredential → Store → Prop) :
    wp (getPasskeyByCredentialId credentialId forUpdate) normal failed store =
      normal
        (store.passkeys.find? fun credential =>
          credential.credentialId = credentialId)
        store :=
  rfl

@[simp] theorem wp_getExternalIdentity
    (issuer subject : String)
    (forUpdate : Bool)
    (normal : Option ExternalIdentity → Store → Prop) :
    wp (getExternalIdentity issuer subject forUpdate) normal failed store =
      normal
        (store.identities.find? fun identity =>
          identity.issuer = issuer && identity.subject = subject)
        store :=
  rfl

@[simp] theorem wp_getExternalIdentityForUser
    (userId : Uuid)
    (issuer : String)
    (forUpdate : Bool)
    (normal : Option ExternalIdentity → Store → Prop) :
    wp (getExternalIdentityForUser userId issuer forUpdate) normal failed store =
      normal
        (store.identities.find? fun identity =>
          identity.userId = userId && identity.issuer = issuer)
        store :=
  rfl

@[simp] theorem wp_countEmailLinkRequests
    (userId : Uuid)
    (purpose : EmailLinkPurpose)
    (since : Instant)
    (normal : Nat → Store → Prop) :
    wp (countEmailLinkRequests userId purpose since) normal failed store =
      normal
        (store.links.count fun link =>
          Store.requestedFor userId purpose link && since ≤ link.createdAt)
        store :=
  rfl

@[simp] theorem wp_getLatestEmailLink
    (userId : Uuid)
    (purpose : EmailLinkPurpose)
    (normal : Option EmailLink → Store → Prop) :
    wp (getLatestEmailLink userId purpose) normal failed store =
      normal
        (store.latestEmailLink userId purpose)
        store :=
  rfl

@[simp] theorem wp_getEmailLink
    (linkId : Uuid)
    (forUpdate : Bool)
    (normal : Option EmailLink → Store → Prop) :
    wp (getEmailLink linkId forUpdate) normal failed store =
      normal
        (store.links.get? linkId)
        store :=
  rfl

@[simp] theorem wp_getEmailLinkByTokenHash
    (tokenHash : String)
    (purpose : EmailLinkPurpose)
    (normal : Option EmailLink → Store → Prop) :
    wp (getEmailLinkByTokenHash tokenHash purpose) normal failed store =
      normal
        (store.links.find? fun link =>
          link.tokenHash = tokenHash && link.purpose = purpose)
        store :=
  rfl

/-! ### Insertions and full-row updates -/

@[simp] theorem wp_insertUser
    (user : UserAccount)
    (normal : Unit → Store → Prop) :
    wp (insertUser user) normal failed store =
      if (store.users.get? user.id).isSome || Store.emailTaken user store then
        failed (.storeConflict "user uniqueness constraint failed") store
      else
        normal () { store with users := store.users.put user } :=
  wp_attempt_of_refused
    (StoreExecution.perform_inserting _ _ _ _ store :
      (Store.execution (.insertUser user)).perform Store.apply store = _)

@[simp] theorem wp_updateUser
    (user : UserAccount)
    (normal : Unit → Store → Prop) :
    wp (updateUser user) normal failed store =
      if (store.users.get? user.id).isSome then
        if Store.emailTaken user store then
          failed (.storeConflict "user uniqueness constraint failed") store
        else
          normal () { store with users := store.users.put user }
      else
        failed .keyError store :=
  wp_attempt_of_present
    (StoreExecution.perform_updating _ _ _ _ _ store :
      (Store.execution (.updateUser user)).perform Store.apply store = _)

@[simp] theorem wp_insertSession
    (session : RefreshSession)
    (normal : Unit → Store → Prop) :
    wp (insertSession session) normal failed store =
      if (store.sessions.get? session.id).isSome ||
          Store.sessionTaken session store then
        failed (.storeConflict "session uniqueness constraint failed") store
      else
        normal () { store with sessions := store.sessions.put session } :=
  wp_attempt_of_refused
    (StoreExecution.perform_inserting _ _ _ _ store :
      (Store.execution (.insertSession session)).perform Store.apply store = _)

@[simp] theorem wp_updateSession
    (session : RefreshSession)
    (normal : Unit → Store → Prop) :
    wp (updateSession session) normal failed store =
      if (store.sessions.get? session.id).isSome then
        if Store.sessionTaken session store then
          failed (.storeConflict "session update constraint failed") store
        else
          normal () { store with sessions := store.sessions.put session }
      else
        failed .keyError store :=
  wp_attempt_of_present
    (StoreExecution.perform_updating _ _ _ _ _ store :
      (Store.execution (.updateSession session)).perform Store.apply store = _)

@[simp] theorem wp_insertPasskeyChallenge
    (challenge : PasskeyChallenge)
    (normal : Unit → Store → Prop) :
    wp (insertPasskeyChallenge challenge) normal failed store =
      if Store.passkeyChallengeTaken challenge store then
        failed (.storeConflict "passkey challenge uniqueness constraint failed") store
      else
        normal () 
          { store with
            passkeyChallenges := store.passkeyChallenges.put challenge } :=
  wp_attempt_of_refused
    (StoreExecution.perform_inserting _ _ _ _ store :
      (Store.execution (.insertPasskeyChallenge challenge)).perform Store.apply store = _)

@[simp] theorem wp_insertPasskey
    (credential : PasskeyCredential)
    (normal : Unit → Store → Prop) :
    wp (insertPasskey credential) normal failed store =
      if (store.passkeys.get? credential.id).isSome ||
          Store.credentialTaken credential store then
        failed (.storeConflict "passkey uniqueness constraint failed") store
      else
        normal () { store with passkeys := store.passkeys.put credential } :=
  wp_attempt_of_refused
    (StoreExecution.perform_inserting _ _ _ _ store :
      (Store.execution (.insertPasskey credential)).perform Store.apply store = _)

@[simp] theorem wp_updatePasskey
    (credential : PasskeyCredential)
    (normal : Unit → Store → Prop) :
    wp (updatePasskey credential) normal failed store =
      if (store.passkeys.get? credential.id).isSome then
        if Store.credentialTaken credential store then
          failed (.storeConflict "passkey update constraint failed") store
        else
          normal () { store with passkeys := store.passkeys.put credential }
      else
        failed .keyError store :=
  wp_attempt_of_present
    (StoreExecution.perform_updating _ _ _ _ _ store :
      (Store.execution (.updatePasskey credential)).perform Store.apply store = _)

@[simp] theorem wp_insertGoogleChallenge
    (challenge : GoogleChallenge)
    (normal : Unit → Store → Prop) :
    wp (insertGoogleChallenge challenge) normal failed store =
      if Store.googleChallengeTaken challenge store then
        failed (.storeConflict "Google challenge uniqueness constraint failed") store
      else
        normal () 
          { store with
            googleChallenges := store.googleChallenges.put challenge } :=
  wp_attempt_of_refused
    (StoreExecution.perform_inserting _ _ _ _ store :
      (Store.execution (.insertGoogleChallenge challenge)).perform Store.apply store = _)

@[simp] theorem wp_insertEmailLink
    (link : EmailLink)
    (normal : Unit → Store → Prop) :
    wp (insertEmailLink link) normal failed store =
      if Store.linkTaken link store then
        failed (.storeConflict "email link uniqueness constraint failed") store
      else
        normal () { store with links := store.links.put link } :=
  wp_attempt_of_refused
    (StoreExecution.perform_inserting _ _ _ _ store :
      (Store.execution (.insertEmailLink link)).perform Store.apply store = _)

@[simp] theorem wp_insertExternalIdentity
    (identity : ExternalIdentity)
    (normal : Unit → Store → Prop) :
    wp (insertExternalIdentity identity) normal failed store =
      if (store.identities.get? identity.id).isSome ||
          Store.identityTaken identity store then
        failed (.storeConflict "external identity uniqueness constraint failed") store
      else
        normal () { store with identities := store.identities.put identity } :=
  wp_attempt_of_refused
    (StoreExecution.perform_inserting _ _ _ _ store :
      (Store.execution (.insertExternalIdentity identity)).perform Store.apply store = _)

@[simp] theorem wp_updateExternalIdentity
    (identity : ExternalIdentity)
    (normal : Unit → Store → Prop) :
    wp (updateExternalIdentity identity) normal failed store =
      if (store.identities.get? identity.id).isSome then
        if Store.identityTaken identity store then
          failed (.storeConflict "external identity update constraint failed") store
        else
          normal () { store with identities := store.identities.put identity }
      else
        failed .keyError store :=
  wp_attempt_of_present
    (StoreExecution.perform_updating _ _ _ _ _ store :
      (Store.execution (.updateExternalIdentity identity)).perform Store.apply store = _)

@[simp] theorem wp_deleteExternalIdentity
    (identityId : Uuid)
    (normal : Unit → Store → Prop) :
    wp (deleteExternalIdentity identityId) normal failed store =
      if (store.identities.get? identityId).isSome then
        normal () { store with identities := store.identities.erase identityId }
      else
        failed .keyError store := by
  have general :
      wp (deleteExternalIdentity identityId) normal failed store =
        if (store.identities.get? identityId).isSome then
          if false then
            failed (.storeConflict "") store
          else
            normal ()
              { store with identities := store.identities.erase identityId }
        else
          failed .keyError store :=
    wp_attempt_of_present
      (StoreExecution.perform_updating _ _ _ _ _ store :
        (Store.execution (.deleteExternalIdentity identityId)).perform
            Store.apply store = _)
  simpa only [Bool.false_eq_true, ↓reduceIte] using general

/-! ### Bulk statements -/

@[simp] theorem wp_addSecurityEvent
    (event : SecurityEvent)
    (normal : Unit → Store → Prop) :
    wp (addSecurityEvent event) normal failed store =
      normal () { store with events := store.events ++ [event] } :=
  rfl

@[simp] theorem wp_revokeFamily
    (familyId : Uuid)
    (revokedAt : Instant)
    (normal : Nat → Store → Prop) :
    wp (revokeFamily familyId revokedAt) normal failed store =
      normal
        (store.sessions.count (Store.inFamily familyId))
        { store with
          sessions :=
            store.sessions.revise (Store.inFamily familyId)
              (Store.revokeAt revokedAt) fun _ => rfl } := by
  have counted :=
    Store.sessionsField.visitAll_update_count (Store.inFamily familyId)
      (Store.revokeAt revokedAt) (fun _ => rfl) store
  have changed :=
    Store.sessionsField.visitAll_update (Store.inFamily familyId)
      (Store.revokeAt revokedAt) (fun _ => rfl) store
  exact congrArg₂ normal counted changed

@[simp] theorem wp_revokeUserSessions
    (userId : Uuid)
    (revokedAt : Instant)
    (normal : Nat → Store → Prop) :
    wp (revokeUserSessions userId revokedAt) normal failed store =
      normal
        (store.sessions.count (Store.ofUser userId))
        { store with
          sessions :=
            store.sessions.revise (Store.ofUser userId)
              (Store.revokeAt revokedAt) fun _ => rfl } := by
  have counted :=
    Store.sessionsField.visitAll_update_count (Store.ofUser userId)
      (Store.revokeAt revokedAt) (fun _ => rfl) store
  have changed :=
    Store.sessionsField.visitAll_update (Store.ofUser userId)
      (Store.revokeAt revokedAt) (fun _ => rfl) store
  exact congrArg₂ normal counted changed

@[simp] theorem wp_deleteExpiredPasskeyChallenges
    (now : Instant)
    (normal : Nat → Store → Prop) :
    wp (deleteExpiredPasskeyChallenges now) normal failed store =
      normal
        (store.passkeyChallenges.count (fun challenge =>
            challenge.expiresAt ≤ now))
        { store with
          passkeyChallenges :=
            store.passkeyChallenges.reject (fun challenge =>
            challenge.expiresAt ≤ now) } := by
  have counted :=
    Store.passkeyChallengesField.visitAll_delete_count (fun challenge =>
            challenge.expiresAt ≤ now) store
  have changed :=
    Store.passkeyChallengesField.visitAll_delete (fun challenge =>
            challenge.expiresAt ≤ now) store
  exact congrArg₂ normal counted changed

@[simp] theorem wp_deleteExpiredGoogleChallenges
    (now : Instant)
    (normal : Nat → Store → Prop) :
    wp (deleteExpiredGoogleChallenges now) normal failed store =
      normal
        (store.googleChallenges.count (fun challenge =>
            challenge.expiresAt ≤ now))
        { store with
          googleChallenges :=
            store.googleChallenges.reject (fun challenge =>
            challenge.expiresAt ≤ now) } := by
  have counted :=
    Store.googleChallengesField.visitAll_delete_count (fun challenge =>
            challenge.expiresAt ≤ now) store
  have changed :=
    Store.googleChallengesField.visitAll_delete (fun challenge =>
            challenge.expiresAt ≤ now) store
  exact congrArg₂ normal counted changed

@[simp] theorem wp_deleteOldEmailLinks
    (before : Instant)
    (normal : Nat → Store → Prop) :
    wp (deleteOldEmailLinks before) normal failed store =
      normal
        (store.links.count (fun link =>
            link.createdAt < before))
        { store with
          links :=
            store.links.reject (fun link =>
            link.createdAt < before) } := by
  have counted :=
    Store.linksField.visitAll_delete_count (fun link =>
            link.createdAt < before) store
  have changed :=
    Store.linksField.visitAll_delete (fun link =>
            link.createdAt < before) store
  exact congrArg₂ normal counted changed

@[simp] theorem wp_revokeOtherActiveEmailLinks
    (userId : Uuid)
    (purpose : EmailLinkPurpose)
    (activeLinkId : Uuid)
    (now : Instant)
    (normal : Nat → Store → Prop) :
    wp (revokeOtherActiveEmailLinks userId purpose activeLinkId now) normal failed store =
      normal
        (store.links.count (Store.isOtherActive userId purpose activeLinkId))
        { store with
          links :=
            store.links.revise (Store.isOtherActive userId purpose activeLinkId)
              (Store.revokeLinkAt now) fun _ => rfl } := by
  have counted :=
    Store.linksField.visitAll_update_count (Store.isOtherActive userId purpose activeLinkId)
      (Store.revokeLinkAt now) (fun _ => rfl) store
  have changed :=
    Store.linksField.visitAll_update (Store.isOtherActive userId purpose activeLinkId)
      (Store.revokeLinkAt now) (fun _ => rfl) store
  exact congrArg₂ normal counted changed

/-! ### Conditional updates of one row -/

@[simp] theorem wp_consumePasskeyChallenge
    (challengeId : Uuid)
    (purpose : PasskeyCeremonyPurpose)
    (now : Instant)
    (userId familyId : Option Uuid)
    (normal : Option PasskeyChallenge → Store → Prop) :
    wp (consumePasskeyChallenge challengeId purpose now userId familyId) normal failed store =
      match (store.passkeyChallenges.get? challengeId).filter
          (Store.consumePasskeyChallengeCondition purpose now userId familyId) with
      | none => normal none store
      | some row =>
          normal (some ({ row with consumedAt := some now }))
            { store with
              passkeyChallenges := store.passkeyChallenges.put ({ row with consumedAt := some now }) } := by
  have performed :=
    (StoreExecution.perform_returning _ _ _ _ _ store :
      (Store.execution
          (.consumePasskeyChallenge challengeId purpose now userId familyId)).perform
            Store.apply store = _)
  have answered :=
    congrArg (fun result => normal result.1 result.2) performed
  refine answered.trans ?_
  generalize Option.filter _ _ = chosen
  cases chosen <;> rfl

@[simp] theorem wp_consumeGoogleChallenge
    (challengeId : Uuid)
    (purpose : GoogleChallengePurpose)
    (now : Instant)
    (userId : Option Uuid)
    (normal : Option GoogleChallenge → Store → Prop) :
    wp (consumeGoogleChallenge challengeId purpose now userId) normal failed store =
      match (store.googleChallenges.get? challengeId).filter
          (Store.consumeGoogleChallengeCondition purpose now userId) with
      | none => normal none store
      | some row =>
          normal (some ({ row with consumedAt := some now }))
            { store with
              googleChallenges := store.googleChallenges.put ({ row with consumedAt := some now }) } := by
  have performed :=
    (StoreExecution.perform_returning _ _ _ _ _ store :
      (Store.execution
          (.consumeGoogleChallenge challengeId purpose now userId)).perform
            Store.apply store = _)
  have answered :=
    congrArg (fun result => normal result.1 result.2) performed
  refine answered.trans ?_
  generalize Option.filter _ _ = chosen
  cases chosen <;> rfl

@[simp] theorem wp_activateEmailLink
    (linkId : Uuid)
    (now : Instant)
    (normal : Option EmailLink → Store → Prop) :
    wp (activateEmailLink linkId now) normal failed store =
      match (store.links.get? linkId).filter
          (fun link => link.state = .pending) with
      | none => normal none store
      | some row =>
          normal (some (Store.activateLinkAt now row))
            { store with
              links := store.links.put (Store.activateLinkAt now row) } := by
  have performed :=
    (StoreExecution.perform_returning _ _ _ _ _ store :
      (Store.execution
          (.activateEmailLink linkId now)).perform
            Store.apply store = _)
  have answered :=
    congrArg (fun result => normal result.1 result.2) performed
  refine answered.trans ?_
  generalize Option.filter _ _ = chosen
  cases chosen <;> rfl

@[simp] theorem wp_failEmailLink
    (linkId : Uuid)
    (now : Instant)
    (normal : Option EmailLink → Store → Prop) :
    wp (failEmailLink linkId now) normal failed store =
      match (store.links.get? linkId).filter
          (fun link => link.state = .pending) with
      | none => normal none store
      | some row =>
          normal (some (Store.failLinkAt now row))
            { store with
              links := store.links.put (Store.failLinkAt now row) } := by
  have performed :=
    (StoreExecution.perform_returning _ _ _ _ _ store :
      (Store.execution
          (.failEmailLink linkId now)).perform
            Store.apply store = _)
  have answered :=
    congrArg (fun result => normal result.1 result.2) performed
  refine answered.trans ?_
  generalize Option.filter _ _ = chosen
  cases chosen <;> rfl

@[simp] theorem wp_revokeEmailLink
    (linkId : Uuid)
    (now : Instant)
    (normal : Option EmailLink → Store → Prop) :
    wp (revokeEmailLink linkId now) normal failed store =
      match (store.links.get? linkId).filter
          (fun link =>
            link.state = .pending || link.state = .active) with
      | none => normal none store
      | some row =>
          normal (some (Store.revokeLinkAt now row))
            { store with
              links := store.links.put (Store.revokeLinkAt now row) } := by
  have performed :=
    (StoreExecution.perform_returning _ _ _ _ _ store :
      (Store.execution
          (.revokeEmailLink linkId now)).perform
            Store.apply store = _)
  have answered :=
    congrArg (fun result => normal result.1 result.2) performed
  refine answered.trans ?_
  generalize Option.filter _ _ = chosen
  cases chosen <;> rfl

@[simp] theorem wp_consumeEmailLink
    (linkId : Uuid)
    (purpose : EmailLinkPurpose)
    (now : Instant)
    (normal : Option EmailLink → Store → Prop) :
    wp (consumeEmailLink linkId purpose now) normal failed store =
      match (store.links.get? linkId).filter
          (Store.isConsumable purpose now) with
      | none => normal none store
      | some row =>
          normal (some (Store.consumeLinkAt now row))
            { store with
              links := store.links.put (Store.consumeLinkAt now row) } := by
  have performed :=
    (StoreExecution.perform_returning _ _ _ _ _ store :
      (Store.execution
          (.consumeEmailLink linkId purpose now)).perform
            Store.apply store = _)
  have answered :=
    congrArg (fun result => normal result.1 result.2) performed
  refine answered.trans ?_
  generalize Option.filter _ _ = chosen
  cases chosen <;> rfl

end Rules

end Tx

end EpokAuth
