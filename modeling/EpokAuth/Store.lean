import EpokAuth.Models
import EpokAuth.StatementEngine
import Mathlib.Data.List.MinMax
import Mathlib.Data.List.Sort

namespace EpokAuth

open Transactional

/-!
# The relational store

The tables of the schema, and what every method of a store transaction does to
them: the rows it answers with, the rows it writes, the locks it takes, and the
uniqueness constraints it may violate.  A missing row makes a full-row update
raise `KeyError`; a violated uniqueness constraint raises `StoreConflictError`.

Every other error of the database (a check constraint, a foreign key, a
deadlock, a lost connection) leaves a service through an exception it does not
handle, and the transaction is rolled back; such a transaction is one that
changes nothing, which a run may contain anyway.
-/

/-- The tables that describe accounts and everything granted to them. -/
structure Core where
  users : Table UserAccount := ∅
  sessions : Table RefreshSession := ∅
  links : Table EmailLink := ∅
  identities : Table ExternalIdentity := ∅
  passkeys : Table PasskeyCredential := ∅

/-- The whole schema. -/
structure Store extends Core where
  passkeyChallenges : Table PasskeyChallenge := ∅
  googleChallenges : Table GoogleChallenge := ∅
  events : List SecurityEvent := []

/-- A change of one row. -/
inductive Write where
  | putUser (user : UserAccount)
  | putSession (session : RefreshSession)
  | putLink (link : EmailLink)
  | eraseLink (id : Uuid)
  | putIdentity (identity : ExternalIdentity)
  | eraseIdentity (id : Uuid)
  | putPasskey (passkey : PasskeyCredential)
  | putPasskeyChallenge (challenge : PasskeyChallenge)
  | erasePasskeyChallenge (id : Uuid)
  | putGoogleChallenge (challenge : GoogleChallenge)
  | eraseGoogleChallenge (id : Uuid)
  | appendEvent (event : SecurityEvent)

namespace Store

/-- The store after a change of one row. -/
def apply : Write → Store → Store
  | .putUser user, store => { store with users := store.users.put user }
  | .putSession session, store =>
      { store with sessions := store.sessions.put session }
  | .putLink link, store => { store with links := store.links.put link }
  | .eraseLink id, store => { store with links := store.links.erase id }
  | .putIdentity identity, store =>
      { store with identities := store.identities.put identity }
  | .eraseIdentity id, store =>
      { store with identities := store.identities.erase id }
  | .putPasskey passkey, store =>
      { store with passkeys := store.passkeys.put passkey }
  | .putPasskeyChallenge challenge, store =>
      { store with
        passkeyChallenges := store.passkeyChallenges.put challenge }
  | .erasePasskeyChallenge id, store =>
      { store with passkeyChallenges := store.passkeyChallenges.erase id }
  | .putGoogleChallenge challenge, store =>
      { store with googleChallenges := store.googleChallenges.put challenge }
  | .eraseGoogleChallenge id, store =>
      { store with googleChallenges := store.googleChallenges.erase id }
  | .appendEvent event, store =>
      { store with events := store.events ++ [event] }

/-! ## Tables swept by bulk statements -/

/-- The table of sessions in the store. -/
def sessionsField : TableField apply RefreshSession where
  view := fun store => store.sessions
  set := fun table store => { store with sessions := table }
  put := .putSession
  view_set := fun _ _ => rfl
  set_set := fun _ _ _ => rfl
  set_view := fun _ => rfl
  apply_put := fun _ _ => rfl

/-- The table of links in the store. -/
def linksField : ErasableField apply EmailLink where
  view := fun store => store.links
  set := fun table store => { store with links := table }
  put := .putLink
  erase := .eraseLink
  view_set := fun _ _ => rfl
  set_set := fun _ _ _ => rfl
  set_view := fun _ => rfl
  apply_put := fun _ _ => rfl
  apply_erase := fun _ _ => rfl

/-- The table of passkey challenges in the store. -/
def passkeyChallengesField : ErasableField apply PasskeyChallenge where
  view := fun store => store.passkeyChallenges
  set := fun table store => { store with passkeyChallenges := table }
  put := .putPasskeyChallenge
  erase := .erasePasskeyChallenge
  view_set := fun _ _ => rfl
  set_set := fun _ _ _ => rfl
  set_view := fun _ => rfl
  apply_put := fun _ _ => rfl
  apply_erase := fun _ _ => rfl

/-- The table of Google challenges in the store. -/
def googleChallengesField : ErasableField apply GoogleChallenge where
  view := fun store => store.googleChallenges
  set := fun table store => { store with googleChallenges := table }
  put := .putGoogleChallenge
  erase := .eraseGoogleChallenge
  view_set := fun _ _ => rfl
  set_set := fun _ _ _ => rfl
  set_view := fun _ => rfl
  apply_put := fun _ _ => rfl
  apply_erase := fun _ _ => rfl

end Store

/-! ## Statements -/

/-- The methods of a store transaction, with their arguments. -/
inductive Statement where
  | acquireAdminInvariantLock
  | countUsersWithRole (role : String) (activeOnly : Bool)
  | getUserByEmail (email : String) (forUpdate : Bool)
  | getUserById (userId : Uuid) (forUpdate : Bool)
  | listUsers (limit offset : Nat)
  | insertUser (user : UserAccount)
  | updateUser (user : UserAccount)
  | getSessionByTokenHash (tokenHash : String) (forUpdate : Bool)
  | getSessionById (sessionId : Uuid) (forUpdate : Bool)
  | insertSession (session : RefreshSession)
  | updateSession (session : RefreshSession)
  | revokeFamily (familyId : Uuid) (revokedAt : Instant)
  | revokeUserSessions (userId : Uuid) (revokedAt : Instant)
  | addSecurityEvent (event : SecurityEvent)
  | deleteExpiredPasskeyChallenges (now : Instant)
  | insertPasskeyChallenge (challenge : PasskeyChallenge)
  | consumePasskeyChallenge
      (challengeId : Uuid)
      (purpose : PasskeyCeremonyPurpose)
      (now : Instant)
      (userId familyId : Option Uuid)
  | countPasskeys (userId : Uuid)
  | listPasskeys (userId : Uuid)
  | getPasskeyById (passkeyId userId : Uuid) (forUpdate : Bool)
  | getPasskeyByCredentialId (credentialId : List UInt8) (forUpdate : Bool)
  | insertPasskey (credential : PasskeyCredential)
  | updatePasskey (credential : PasskeyCredential)
  | deleteExpiredGoogleChallenges (now : Instant)
  | insertGoogleChallenge (challenge : GoogleChallenge)
  | consumeGoogleChallenge
      (challengeId : Uuid)
      (purpose : GoogleChallengePurpose)
      (now : Instant)
      (userId : Option Uuid)
  | getExternalIdentity (issuer subject : String) (forUpdate : Bool)
  | getExternalIdentityForUser
      (userId : Uuid)
      (issuer : String)
      (forUpdate : Bool)
  | insertExternalIdentity (identity : ExternalIdentity)
  | updateExternalIdentity (identity : ExternalIdentity)
  | deleteExternalIdentity (identityId : Uuid)
  | deleteOldEmailLinks (before : Instant)
  | countEmailLinkRequests
      (userId : Uuid)
      (purpose : EmailLinkPurpose)
      (since : Instant)
  | getLatestEmailLink (userId : Uuid) (purpose : EmailLinkPurpose)
  | getEmailLink (linkId : Uuid) (forUpdate : Bool)
  | getEmailLinkByTokenHash (tokenHash : String) (purpose : EmailLinkPurpose)
  | insertEmailLink (link : EmailLink)
  | activateEmailLink (linkId : Uuid) (now : Instant)
  | failEmailLink (linkId : Uuid) (now : Instant)
  | revokeEmailLink (linkId : Uuid) (now : Instant)
  | revokeOtherActiveEmailLinks
      (userId : Uuid)
      (purpose : EmailLinkPurpose)
      (activeLinkId : Uuid)
      (now : Instant)
  | consumeEmailLink
      (linkId : Uuid)
      (purpose : EmailLinkPurpose)
      (now : Instant)

/-- What each method answers; those that may raise answer with the failure. -/
abbrev Answer : Statement → Type
  | .acquireAdminInvariantLock => Unit
  | .countUsersWithRole .. => Nat
  | .getUserByEmail .. => Option UserAccount
  | .getUserById .. => Option UserAccount
  | .listUsers .. => List UserAccount
  | .insertUser .. => Except Failure Unit
  | .updateUser .. => Except Failure Unit
  | .getSessionByTokenHash .. => Option RefreshSession
  | .getSessionById .. => Option RefreshSession
  | .insertSession .. => Except Failure Unit
  | .updateSession .. => Except Failure Unit
  | .revokeFamily .. => Nat
  | .revokeUserSessions .. => Nat
  | .addSecurityEvent .. => Unit
  | .deleteExpiredPasskeyChallenges .. => Nat
  | .insertPasskeyChallenge .. => Except Failure Unit
  | .consumePasskeyChallenge .. => Option PasskeyChallenge
  | .countPasskeys .. => Nat
  | .listPasskeys .. => List PasskeyCredential
  | .getPasskeyById .. => Option PasskeyCredential
  | .getPasskeyByCredentialId .. => Option PasskeyCredential
  | .insertPasskey .. => Except Failure Unit
  | .updatePasskey .. => Except Failure Unit
  | .deleteExpiredGoogleChallenges .. => Nat
  | .insertGoogleChallenge .. => Except Failure Unit
  | .consumeGoogleChallenge .. => Option GoogleChallenge
  | .getExternalIdentity .. => Option ExternalIdentity
  | .getExternalIdentityForUser .. => Option ExternalIdentity
  | .insertExternalIdentity .. => Except Failure Unit
  | .updateExternalIdentity .. => Except Failure Unit
  | .deleteExternalIdentity .. => Except Failure Unit
  | .deleteOldEmailLinks .. => Nat
  | .countEmailLinkRequests .. => Nat
  | .getLatestEmailLink .. => Option EmailLink
  | .getEmailLink .. => Option EmailLink
  | .getEmailLinkByTokenHash .. => Option EmailLink
  | .insertEmailLink .. => Except Failure Unit
  | .activateEmailLink .. => Option EmailLink
  | .failEmailLink .. => Option EmailLink
  | .revokeEmailLink .. => Option EmailLink
  | .revokeOtherActiveEmailLinks .. => Nat
  | .consumeEmailLink .. => Option EmailLink

/-! ## Locks -/

/-- The values kept different by unique constraints besides primary keys. -/
inductive UniqueKey where
  | userEmail (email : String)
  | sessionToken (tokenHash : String)
  | sessionReplacement (sessionId : Uuid)
  | linkToken (tokenHash : String)
  | linkGeneration
      (userId : Uuid)
      (purpose : EmailLinkPurpose)
      (generation : Nat)
  | identitySubject (issuer subject : String)
  | identityUser (userId : Uuid) (issuer : String)
  | passkeyCredential (credentialId : List UInt8)
  | passkeyChallenge (challenge : List UInt8)
  | googleNonce (nonce : String)
  deriving Repr, DecidableEq

/-- Everything a transaction may hold a lock on until it ends. -/
inductive Resource where
  | adminInvariant
  | user (id : Uuid)
  | session (id : Uuid)
  | link (id : Uuid)
  | identity (id : Uuid)
  | passkey (id : Uuid)
  | passkeyChallenge (id : Uuid)
  | googleChallenge (id : Uuid)
  | unique (value : UniqueKey)
  deriving Repr, DecidableEq

/-- The row a write changes; events are only appended. -/
def Write.resource : Write → Option Resource
  | .putUser user => some (.user user.id)
  | .putSession session => some (.session session.id)
  | .putLink link => some (.link link.id)
  | .eraseLink id => some (.link id)
  | .putIdentity identity => some (.identity identity.id)
  | .eraseIdentity id => some (.identity id)
  | .putPasskey passkey => some (.passkey passkey.id)
  | .putPasskeyChallenge challenge => some (.passkeyChallenge challenge.id)
  | .erasePasskeyChallenge id => some (.passkeyChallenge id)
  | .putGoogleChallenge challenge => some (.googleChallenge challenge.id)
  | .eraseGoogleChallenge id => some (.googleChallenge id)
  | .appendEvent _ => none

/-- The lock of a row that is read in order to be written. -/
def forUpdateLock (resource : Resource) : Lock Resource where
  resource := resource
  mode := .forUpdate

/-- The lock of a row whose keys an update leaves alone. -/
def noKeyUpdateLock (resource : Resource) : Lock Resource where
  resource := resource
  mode := .noKeyUpdate

/-- The lock under which a referencing row keeps the referenced one alive. -/
def referenceLock (resource : Resource) : Lock Resource where
  resource := resource
  mode := .keyShare

/-- How a statement of the store is executed. -/
abbrev StoreExecution (α : Type) : Type :=
  Execution Store Write Resource Uuid α

namespace StoreExecution

/-- A statement that only reads. -/
def reading (read : Store → α) : StoreExecution α :=
  .point (fun _ => []) fun store => (read store, [])

/-- A read of at most one row, locking it when asked to. -/
def fetching
    (forUpdate : Bool)
    (resource : Row → Resource)
    (read : Store → Option Row) :
    StoreExecution (Option Row) :=
  .point
    (fun store =>
      match forUpdate, read store with
      | true, some row => [forUpdateLock (resource row)]
      | _, _ => [])
    fun store => (read store, [])

/-- An insertion, refused when the row or one of its unique values exists. -/
def inserting
    (locks : List (Lock Resource))
    (exists_ : Store → Bool)
    (message : String)
    (write : Write) :
    StoreExecution (Except Failure Unit) :=
  .point (fun _ => locks) fun store =>
    if exists_ store then
      (.error (.storeConflict message), [])
    else
      (.ok (), [write])

/-- A full-row update; no row under the key is a `KeyError`. -/
def updating
    (locks : List (Lock Resource))
    (present conflicting : Store → Bool)
    (message : String)
    (write : Write) :
    StoreExecution (Except Failure Unit) :=
  .point
    (fun store => if present store then locks else [])
    fun store =>
      if present store then
        if conflicting store then
          (.error (.storeConflict message), [])
        else
          (.ok (), [write])
      else
        (.error .keyError, [])

/-- An update of one row on a condition, returning the row it leaves. -/
def returning
    (resource : Resource)
    (read : Store → Option Row)
    (condition : Row → Bool)
    (change : Row → Row)
    (write : Row → Write) :
    StoreExecution (Option Row) :=
  .point
    (fun store =>
      match (read store).filter condition with
      | none => []
      | some _ => [noKeyUpdateLock resource])
    fun store =>
      match (read store).filter condition with
      | none => (none, [])
      | some row => (some (change row), [write (change row)])

/-! ### Execution without concurrent transactions -/

@[simp] theorem perform_reading
    (read : Store → α)
    (store : Store) :
    (reading read).perform Store.apply store = (read store, store) :=
  rfl

@[simp] theorem perform_fetching
    (forUpdate : Bool)
    (resource : Row → Resource)
    (read : Store → Option Row)
    (store : Store) :
    (fetching forUpdate resource read).perform Store.apply store =
      (read store, store) :=
  rfl

@[simp] theorem perform_inserting
    (locks : List (Lock Resource))
    (exists_ : Store → Bool)
    (message : String)
    (write : Write)
    (store : Store) :
    (inserting locks exists_ message write).perform Store.apply store =
      if exists_ store then
        (.error (.storeConflict message), store)
      else
        (.ok (), Store.apply write store) := by
  by_cases found : exists_ store = true
  · simp [inserting, Execution.perform, found]
  · simp [inserting, Execution.perform, found]

@[simp] theorem perform_updating
    (locks : List (Lock Resource))
    (present conflicting : Store → Bool)
    (message : String)
    (write : Write)
    (store : Store) :
    (updating locks present conflicting message write).perform
        Store.apply store =
      if present store then
        if conflicting store then
          (.error (.storeConflict message), store)
        else
          (.ok (), Store.apply write store)
      else
        (.error .keyError, store) := by
  by_cases found : present store = true
  · by_cases taken : conflicting store = true
    · simp [updating, Execution.perform, found, taken]
    · simp [updating, Execution.perform, found, taken]
  · simp [updating, Execution.perform, found]

@[simp] theorem perform_returning
    (resource : Resource)
    (read : Store → Option Row)
    (condition : Row → Bool)
    (change : Row → Row)
    (write : Row → Write)
    (store : Store) :
    (returning resource read condition change write).perform
        Store.apply store =
      match (read store).filter condition with
      | none => (none, store)
      | some row => (some (change row), Store.apply (write (change row)) store) := by
  cases chosen : (read store).filter condition with
  | none =>
      simp [returning, Execution.perform, chosen]
  | some row =>
      simp [returning, Execution.perform, chosen]

end StoreExecution

end EpokAuth
