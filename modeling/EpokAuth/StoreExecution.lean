import EpokAuth.Store

namespace EpokAuth

open Transactional

/-!
# Executing statements

Each method of a store transaction as the statement it issues.  The equations
of `Store.evaluate` at the end state what a method answers and changes when no
other transaction is running; they are all that the service proofs use.
-/

namespace Store

open StoreExecution

/-! ## Accounts -/

/-- An account counts as one of a role. -/
def hasRole (role : String) (activeOnly : Bool) (user : UserAccount) : Bool :=
  role ∈ user.roles &&
    (!activeOnly || user.status = .active)

/-- Creation order, with the identifier as tie breaker. -/
def createdBefore
    (first second : Option Instant × Uuid) :
    Bool :=
  match first.1, second.1 with
  | none, none => first.2 ≤ second.2
  | none, some _ => true
  | some _, none => false
  | some one, some other =>
      one < other ||
        (one = other && first.2 ≤ second.2)

/-- A page of the accounts, in the order of their creation. -/
def listUsers (limit offset : Nat) (store : Store) : List UserAccount :=
  ((store.users.rows.mergeSort fun first second =>
      createdBefore (first.createdAt, first.id)
        (second.createdAt, second.id)).drop offset).take limit

/-- Another account has the email address. -/
def emailTaken (user : UserAccount) (store : Store) : Bool :=
  (store.users.find? fun other =>
    other.id ≠ user.id && other.email = user.email).isSome

/-! ## Sessions -/

/-- Another session has the token hash or the same replacement. -/
def sessionTaken (session : RefreshSession) (store : Store) : Bool :=
  (store.sessions.find? fun other =>
    other.id ≠ session.id &&
      (other.tokenHash = session.tokenHash ||
        (session.replacedById.isSome &&
          other.replacedById = session.replacedById))).isSome

/-- A session of a family that is not revoked. -/
def inFamily (familyId : Uuid) (session : RefreshSession) : Bool :=
  session.familyId = familyId &&
    session.revokedAt = none

/-- A session of an account that is not revoked. -/
def ofUser (userId : Uuid) (session : RefreshSession) : Bool :=
  session.userId = userId && session.revokedAt = none

/-- A session that is revoked at an instant. -/
def revokeAt (revokedAt : Instant) (session : RefreshSession) :
    RefreshSession :=
  { session with revokedAt := some revokedAt }

/-- The locks of a session row and of the values its constraints read. -/
def sessionLocks (session : RefreshSession) : List (Lock Resource) :=
  [ forUpdateLock (.session session.id),
    forUpdateLock (.unique (.sessionToken session.tokenHash)),
    referenceLock (.user session.userId) ]

/-- The locks of a session update: its replacement is a new reference. -/
def sessionUpdateLocks (session : RefreshSession) : List (Lock Resource) :=
  noKeyUpdateLock (.session session.id) ::
    match session.replacedById with
    | none => []
    | some successor =>
        [ forUpdateLock (.unique (.sessionReplacement successor)),
          referenceLock (.session successor) ]

/-! ## Email links -/

/-- Another link has the token hash or the same generation. -/
def linkTaken (link : EmailLink) (store : Store) : Bool :=
  (store.links.find? fun other =>
    other.id = link.id ||
      other.tokenHash = link.tokenHash ||
      (other.userId = link.userId &&
        other.purpose = link.purpose &&
        other.generation = link.generation)).isSome

/--
The locks of a new link: its row, the values that must be its own, its account.
-/
def linkLocks (link : EmailLink) : List (Lock Resource) :=
  [ forUpdateLock (.link link.id),
    forUpdateLock (.unique (.linkToken link.tokenHash)),
    forUpdateLock
      (.unique (.linkGeneration link.userId link.purpose link.generation)),
    referenceLock (.user link.userId) ]

/-- A link of an account for a purpose. -/
def requestedFor
    (userId : Uuid)
    (purpose : EmailLinkPurpose)
    (link : EmailLink) :
    Bool :=
  link.userId = userId && link.purpose = purpose

/-- The link of the highest generation. -/
def latestEmailLink
    (userId : Uuid)
    (purpose : EmailLinkPurpose)
    (store : Store) :
    Option EmailLink :=
  (store.links.select (requestedFor userId purpose)).argmax
    EmailLink.generation

/-- A conditional update of the state of one link. -/
def closing
    (linkId : Uuid)
    (allowed : EmailLink → Bool)
    (change : EmailLink → EmailLink) :
    StoreExecution (Option EmailLink) :=
  returning (.link linkId) (fun store => store.links.get? linkId)
    allowed change .putLink

/-- An active link of an account for a purpose, but for one. -/
def isOtherActive
    (userId : Uuid)
    (purpose : EmailLinkPurpose)
    (activeLinkId : Uuid)
    (link : EmailLink) :
    Bool :=
  requestedFor userId purpose link &&
    link.id ≠ activeLinkId && link.state = .active

/-- A link that is revoked at an instant. -/
def revokeLinkAt (now : Instant) (link : EmailLink) : EmailLink :=
  { link with state := .revoked, revokedAt := some now }

/-- A link whose delivery failed at an instant. -/
def failLinkAt (now : Instant) (link : EmailLink) : EmailLink :=
  { link with state := .failed, revokedAt := some now }

/-- A link that was delivered at an instant. -/
def activateLinkAt (now : Instant) (link : EmailLink) : EmailLink :=
  { link with state := .active, deliveredAt := some now }

/-- A link that is consumed at an instant. -/
def consumeLinkAt (now : Instant) (link : EmailLink) : EmailLink :=
  { link with state := .consumed, consumedAt := some now }

/-- What a link must satisfy to be consumed. -/
def isConsumable
    (purpose : EmailLinkPurpose)
    (now : Instant)
    (link : EmailLink) :
    Bool :=
  link.purpose = purpose && link.state = .active &&
    now < link.expiresAt

/-! ## Identities, passkeys and challenges -/

/-- Another identity has the same subject, or the user has one already. -/
def identityTaken (identity : ExternalIdentity) (store : Store) : Bool :=
  (store.identities.find? fun other =>
    other.id ≠ identity.id &&
      ((other.issuer = identity.issuer &&
          other.subject = identity.subject) ||
        (other.userId = identity.userId &&
          other.issuer = identity.issuer))).isSome

/--
The locks of a new identity: its row, the values that must be its own, its
account.
-/
def identityLocks (identity : ExternalIdentity) : List (Lock Resource) :=
  [ forUpdateLock (.identity identity.id),
    forUpdateLock
      (.unique (.identitySubject identity.issuer identity.subject)),
    forUpdateLock (.unique (.identityUser identity.userId identity.issuer)),
    referenceLock (.user identity.userId) ]

/-- Another passkey has the credential identifier. -/
def credentialTaken (credential : PasskeyCredential) (store : Store) : Bool :=
  (store.passkeys.find? fun other =>
    other.id ≠ credential.id &&
      other.credentialId = credential.credentialId).isSome

/-- An unrevoked passkey of a user. -/
def isPasskeyOf (userId : Uuid) (credential : PasskeyCredential) : Bool :=
  credential.userId = userId && credential.revokedAt = none

/-- The passkeys of an account that are not revoked, the oldest first. -/
def listPasskeys (userId : Uuid) (store : Store) : List PasskeyCredential :=
  (store.passkeys.select (isPasskeyOf userId)).mergeSort fun first second =>
    createdBefore (some first.createdAt, first.id)
      (some second.createdAt, second.id)

/-- The lock of a challenge's user, when it is bound to one. -/
def boundUserLock (userId : Option Uuid) : List (Lock Resource) :=
  match userId with
  | none => []
  | some userId => [referenceLock (.user userId)]

/-- Another challenge has the identifier or the bytes to be signed. -/
def passkeyChallengeTaken (challenge : PasskeyChallenge) (store : Store) :
    Bool :=
  (store.passkeyChallenges.find? fun other =>
    other.id = challenge.id ||
      other.challenge = challenge.challenge).isSome

/-- What a challenge must satisfy to be consumed. -/
def consumePasskeyChallengeCondition
    (purpose : PasskeyCeremonyPurpose)
    (now : Instant)
    (userId familyId : Option Uuid)
    (challenge : PasskeyChallenge) :
    Bool :=
  challenge.purpose = purpose &&
    challenge.userId = userId &&
    challenge.familyId = familyId &&
    challenge.consumedAt = none && now < challenge.expiresAt

/-- Another challenge has the identifier or the nonce. -/
def googleChallengeTaken (challenge : GoogleChallenge) (store : Store) :
    Bool :=
  (store.googleChallenges.find? fun other =>
    other.id = challenge.id ||
      other.nonce = challenge.nonce).isSome

/-- What a challenge must satisfy to be consumed. -/
def consumeGoogleChallengeCondition
    (purpose : GoogleChallengePurpose)
    (now : Instant)
    (userId : Option Uuid)
    (challenge : GoogleChallenge) :
    Bool :=
  challenge.purpose = purpose &&
    challenge.userId = userId &&
    challenge.consumedAt = none && now < challenge.expiresAt

/-! ## Every method -/

/--
How the database executes each method: its locks, its effect, or its sweep over
rows.
-/
def execution :
    (statement : Statement) → StoreExecution (Answer statement)
  | .acquireAdminInvariantLock =>
      .point (fun _ => [forUpdateLock .adminInvariant]) fun _ => ((), [])
  | .countUsersWithRole role activeOnly =>
      reading fun store => store.users.count (hasRole role activeOnly)
  | .getUserByEmail email forUpdate =>
      fetching forUpdate (fun user => .user user.id) fun store =>
        store.users.find? fun user => user.email = email
  | .getUserById userId forUpdate =>
      fetching forUpdate (fun user => .user user.id) fun store =>
        store.users.get? userId
  | .listUsers limit offset => reading (listUsers limit offset)
  | .insertUser user =>
      inserting
        [ forUpdateLock (.user user.id),
          forUpdateLock (.unique (.userEmail user.email)) ]
        (fun store =>
          (store.users.get? user.id).isSome || emailTaken user store)
        "user uniqueness constraint failed" (.putUser user)
  | .updateUser user =>
      updating [noKeyUpdateLock (.user user.id)]
        (fun store => (store.users.get? user.id).isSome) (emailTaken user)
        "user uniqueness constraint failed" (.putUser user)
  | .getSessionByTokenHash tokenHash forUpdate =>
      fetching forUpdate (fun session => .session session.id) fun store =>
        store.sessions.find? fun session =>
          session.tokenHash = tokenHash
  | .getSessionById sessionId forUpdate =>
      fetching forUpdate (fun session => .session session.id) fun store =>
        store.sessions.get? sessionId
  | .insertSession session =>
      inserting (sessionLocks session)
        (fun store =>
          (store.sessions.get? session.id).isSome ||
            sessionTaken session store)
        "session uniqueness constraint failed" (.putSession session)
  | .updateSession session =>
      updating (sessionUpdateLocks session)
        (fun store => (store.sessions.get? session.id).isSome)
        (sessionTaken session) "session update constraint failed"
        (.putSession session)
  | .revokeFamily familyId revokedAt =>
      .sweep (sessionsField.targets (inFamily familyId))
        (fun id => noKeyUpdateLock (.session id))
        (sessionsField.touchUpdate (inFamily familyId) (revokeAt revokedAt))
        id
  | .revokeUserSessions userId revokedAt =>
      .sweep (sessionsField.targets (ofUser userId))
        (fun id => noKeyUpdateLock (.session id))
        (sessionsField.touchUpdate (ofUser userId) (revokeAt revokedAt))
        id
  | .addSecurityEvent event =>
      .point
        (fun _ =>
          boundUserLock event.userId ++
            match event.sessionId with
            | none => []
            | some sessionId => [referenceLock (.session sessionId)])
        fun _ => ((), [.appendEvent event])
  | .deleteExpiredPasskeyChallenges now =>
      .sweep
        (passkeyChallengesField.targets fun challenge =>
          challenge.expiresAt ≤ now)
        (fun id => forUpdateLock (.passkeyChallenge id))
        (passkeyChallengesField.touchDelete fun challenge =>
          challenge.expiresAt ≤ now)
        id
  | .insertPasskeyChallenge challenge =>
      inserting
        ([ forUpdateLock (.passkeyChallenge challenge.id),
            forUpdateLock (.unique (.passkeyChallenge challenge.challenge)) ] ++
          boundUserLock challenge.userId)
        (passkeyChallengeTaken challenge)
        "passkey challenge uniqueness constraint failed"
        (.putPasskeyChallenge challenge)
  | .consumePasskeyChallenge challengeId purpose now userId familyId =>
      returning (.passkeyChallenge challengeId)
        (fun store => store.passkeyChallenges.get? challengeId)
        (consumePasskeyChallengeCondition purpose now userId familyId)
        (fun challenge => { challenge with consumedAt := some now })
        .putPasskeyChallenge
  | .countPasskeys userId =>
      reading fun store => store.passkeys.count (isPasskeyOf userId)
  | .listPasskeys userId => reading (listPasskeys userId)
  | .getPasskeyById passkeyId userId forUpdate =>
      fetching forUpdate (fun credential => .passkey credential.id)
        fun store =>
          (store.passkeys.get? passkeyId).filter fun credential =>
            credential.userId = userId
  | .getPasskeyByCredentialId credentialId forUpdate =>
      fetching forUpdate (fun credential => .passkey credential.id)
        fun store =>
          store.passkeys.find? fun credential =>
            credential.credentialId = credentialId
  | .insertPasskey credential =>
      inserting
        [ forUpdateLock (.passkey credential.id),
          forUpdateLock (.unique (.passkeyCredential credential.credentialId)),
          referenceLock (.user credential.userId) ]
        (fun store =>
          (store.passkeys.get? credential.id).isSome ||
            credentialTaken credential store)
        "passkey uniqueness constraint failed" (.putPasskey credential)
  | .updatePasskey credential =>
      updating [noKeyUpdateLock (.passkey credential.id)]
        (fun store => (store.passkeys.get? credential.id).isSome)
        (credentialTaken credential) "passkey update constraint failed"
        (.putPasskey credential)
  | .deleteExpiredGoogleChallenges now =>
      .sweep
        (googleChallengesField.targets fun challenge =>
          challenge.expiresAt ≤ now)
        (fun id => forUpdateLock (.googleChallenge id))
        (googleChallengesField.touchDelete fun challenge =>
          challenge.expiresAt ≤ now)
        id
  | .insertGoogleChallenge challenge =>
      inserting
        ([ forUpdateLock (.googleChallenge challenge.id),
            forUpdateLock (.unique (.googleNonce challenge.nonce)) ] ++
          boundUserLock challenge.userId)
        (googleChallengeTaken challenge)
        "Google challenge uniqueness constraint failed"
        (.putGoogleChallenge challenge)
  | .consumeGoogleChallenge challengeId purpose now userId =>
      returning (.googleChallenge challengeId)
        (fun store => store.googleChallenges.get? challengeId)
        (consumeGoogleChallengeCondition purpose now userId)
        (fun challenge => { challenge with consumedAt := some now })
        .putGoogleChallenge
  | .getExternalIdentity issuer subject forUpdate =>
      fetching forUpdate (fun identity => .identity identity.id) fun store =>
        store.identities.find? fun identity =>
          identity.issuer = issuer &&
            identity.subject = subject
  | .getExternalIdentityForUser userId issuer forUpdate =>
      fetching forUpdate (fun identity => .identity identity.id) fun store =>
        store.identities.find? fun identity =>
          identity.userId = userId &&
            identity.issuer = issuer
  | .insertExternalIdentity identity =>
      inserting (identityLocks identity)
        (fun store =>
          (store.identities.get? identity.id).isSome ||
            identityTaken identity store)
        "external identity uniqueness constraint failed"
        (.putIdentity identity)
  | .updateExternalIdentity identity =>
      updating [noKeyUpdateLock (.identity identity.id)]
        (fun store => (store.identities.get? identity.id).isSome)
        (identityTaken identity) "external identity update constraint failed"
        (.putIdentity identity)
  | .deleteExternalIdentity identityId =>
      updating [forUpdateLock (.identity identityId)]
        (fun store => (store.identities.get? identityId).isSome)
        (fun _ => false) "" (.eraseIdentity identityId)
  | .deleteOldEmailLinks before =>
      .sweep (linksField.targets fun link => link.createdAt < before)
        (fun id => forUpdateLock (.link id))
        (linksField.touchDelete fun link => link.createdAt < before)
        id
  | .countEmailLinkRequests userId purpose since =>
      reading fun store =>
        store.links.count fun link =>
          requestedFor userId purpose link && since ≤ link.createdAt
  | .getLatestEmailLink userId purpose =>
      reading (latestEmailLink userId purpose)
  | .getEmailLink linkId forUpdate =>
      fetching forUpdate (fun link => .link link.id) fun store =>
        store.links.get? linkId
  | .getEmailLinkByTokenHash tokenHash purpose =>
      reading fun store =>
        store.links.find? fun link =>
          link.tokenHash = tokenHash && link.purpose = purpose
  | .insertEmailLink link =>
      inserting (linkLocks link) (linkTaken link)
        "email link uniqueness constraint failed" (.putLink link)
  | .activateEmailLink linkId now =>
      closing linkId (fun link => link.state = .pending)
        (activateLinkAt now)
  | .failEmailLink linkId now =>
      closing linkId (fun link => link.state = .pending)
        (failLinkAt now)
  | .revokeEmailLink linkId now =>
      closing linkId
        (fun link =>
          link.state = .pending || link.state = .active)
        (revokeLinkAt now)
  | .revokeOtherActiveEmailLinks userId purpose activeLinkId now =>
      .sweep (linksField.targets (isOtherActive userId purpose activeLinkId))
        (fun id => noKeyUpdateLock (.link id))
        (linksField.touchUpdate (isOtherActive userId purpose activeLinkId)
          (revokeLinkAt now))
        id
  | .consumeEmailLink linkId purpose now =>
      closing linkId (isConsumable purpose now) (consumeLinkAt now)

/--
The store as a database: the execution of its methods, and what each write
locks.
-/
def engine : Engine Store Write Resource Uuid Statement Answer where
  apply := apply
  execution := execution
  guard := Write.resource

/-- What every method answers and changes on a store used by nobody else. -/
def evaluate : Prog.Evaluation Statement Answer Store :=
  engine.evaluate

end Store

end EpokAuth
