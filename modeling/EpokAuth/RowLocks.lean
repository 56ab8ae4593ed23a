import EpokAuth.LockHistory
import EpokAuth.StoreProtection

namespace EpokAuth

open Transactional

/-!
# How a row comes to be locked

A client locks a row by a locking read, which answers the row; by a statement
that writes the row, named by its key; or by a sweep that visits the row.
-/

/-! ## What a statement does with a row -/

/-- The row that a locking read answers. -/
def lockingRead
    {Found : Type}
    (forUpdate : Bool)
    (content : Found → (row : StoreRow) × row.Seen)
    (answer : Option Found) :
    Option ((row : StoreRow) × row.Seen) :=
  if forUpdate then answer.map content else none

/-! The rows that are read for an update, each with its content. -/

/-- The row of an account, with the account. -/
def userContent (user : UserAccount) : (row : StoreRow) × row.Seen :=
  ⟨.user user.id, some user⟩

/-- The row of a session, with the session. -/
def sessionContent (session : RefreshSession) : (row : StoreRow) × row.Seen :=
  ⟨.session session.id, some session⟩

/-- The row of a passkey, with the passkey. -/
def passkeyContent (credential : PasskeyCredential) :
    (row : StoreRow) × row.Seen :=
  ⟨.passkey credential.id, some credential⟩

/-- The row of an identity, with the identity. -/
def identityContent (identity : ExternalIdentity) :
    (row : StoreRow) × row.Seen :=
  ⟨.identity identity.id, some identity⟩

/-- The row of a link, with the link. -/
def linkContent (link : EmailLink) : (row : StoreRow) × row.Seen :=
  ⟨.link link.id, some link⟩

namespace Statement

/-- The row that a statement reads and locks, with its content. -/
def lockedAnswer :
    (statement : Statement) →
      Answer statement → Option ((row : StoreRow) × row.Seen)
  | .getUserByEmail _ forUpdate => lockingRead forUpdate userContent
  | .getUserById _ forUpdate => lockingRead forUpdate userContent
  | .getSessionByTokenHash _ forUpdate => lockingRead forUpdate sessionContent
  | .getSessionById _ forUpdate => lockingRead forUpdate sessionContent
  | .getPasskeyById _ _ forUpdate => lockingRead forUpdate passkeyContent
  | .getPasskeyByCredentialId _ forUpdate =>
      lockingRead forUpdate passkeyContent
  | .getExternalIdentity _ _ forUpdate =>
      lockingRead forUpdate identityContent
  | .getExternalIdentityForUser _ _ forUpdate =>
      lockingRead forUpdate identityContent
  | .getEmailLink _ forUpdate => lockingRead forUpdate linkContent
  | _ => fun _ => none

/-- The row that a statement replaces as a whole. -/
def replaced : Statement → Option StoreRow
  | .updateUser user => some (.user user.id)
  | .updateSession session => some (.session session.id)
  | .updatePasskey credential => some (.passkey credential.id)
  | .updateExternalIdentity identity => some (.identity identity.id)
  | _ => none

/-- The row that a statement inserts, deletes or moves to another state. -/
def touched : Statement → Option StoreRow
  | .insertUser user => some (.user user.id)
  | .insertSession session => some (.session session.id)
  | .insertPasskeyChallenge challenge => some (.passkeyChallenge challenge.id)
  | .consumePasskeyChallenge challengeId _ _ _ _ =>
      some (.passkeyChallenge challengeId)
  | .insertPasskey credential => some (.passkey credential.id)
  | .insertGoogleChallenge challenge => some (.googleChallenge challenge.id)
  | .consumeGoogleChallenge challengeId _ _ _ =>
      some (.googleChallenge challengeId)
  | .insertExternalIdentity identity => some (.identity identity.id)
  | .deleteExternalIdentity identityId => some (.identity identityId)
  | .insertEmailLink link => some (.link link.id)
  | .activateEmailLink linkId _ => some (.link linkId)
  | .failEmailLink linkId _ => some (.link linkId)
  | .revokeEmailLink linkId _ => some (.link linkId)
  | .consumeEmailLink linkId _ _ => some (.link linkId)
  | _ => none

/-- The row that a sweep visits under a key. -/
def visited : Statement → Uuid → Option StoreRow
  | .revokeFamily _ _, id => some (.session id)
  | .revokeUserSessions _ _, id => some (.session id)
  | .deleteExpiredPasskeyChallenges _, id => some (.passkeyChallenge id)
  | .deleteExpiredGoogleChallenges _, id => some (.googleChallenge id)
  | .deleteOldEmailLinks _, id => some (.link id)
  | .revokeOtherActiveEmailLinks _ _ _ _, id => some (.link id)
  | _, _ => none

end Statement

/-! ## The locks of a statement -/

section Locks

variable
  {resource : Resource}
  {row : StoreRow}
  {lock : Lock Resource}
  {rest : List (Lock Resource)}
  {view : Store}

theorem StoreRow.resource_injective
    {first second : StoreRow}
    (same : first.resource = second.resource) :
    first = second := by
  cases first <;> cases second <;> simp_all [StoreRow.resource]

@[simp] theorem not_locked_nil :
    ¬ Locked ([] : List (Lock Resource)) resource := by
  rintro ⟨lock, member, _⟩
  cases member

theorem locked_cons :
    Locked (lock :: rest) resource ↔
      (lock.resource = resource ∧ lock.mode ≠ .keyShare) ∨
        Locked rest resource := by
  simp [Locked, or_and_right, exists_or]

@[simp] theorem locked_forUpdateLock_cons
    {taken : Resource} :
    Locked (forUpdateLock taken :: rest) resource ↔
      taken = resource ∨ Locked rest resource := by
  simp [locked_cons, forUpdateLock]

@[simp] theorem locked_noKeyUpdateLock_cons
    {taken : Resource} :
    Locked (noKeyUpdateLock taken :: rest) resource ↔
      taken = resource ∨ Locked rest resource := by
  simp [locked_cons, noKeyUpdateLock]

/-- A reference does not keep others from writing. -/
@[simp] theorem locked_referenceLock_cons
    {taken : Resource} :
    Locked (referenceLock taken :: rest) resource ↔ Locked rest resource := by
  simp [locked_cons, referenceLock]

/-- A row that a locking read locks is the one that it answers. -/
theorem lockedAnswer_of_fetching
    {Found : Type}
    {forUpdate : Bool}
    {taken : Found → Resource}
    {read : Store → Option Found}
    {locks : Store → List (Lock Resource)}
    {effect : Store → Option Found × List Write}
    (content : Found → (row : StoreRow) × row.Seen)
    (guards : ∀ found, (content found).1.resource = taken found)
    (stored :
      ∀ found, read view = some found →
        (content found).1.read view = (content found).2)
    (executes :
      StoreExecution.fetching forUpdate taken read = .point locks effect)
    (locked : Locked (locks view) row.resource) :
    lockingRead forUpdate content (effect view).1 =
      some ⟨row, row.read view⟩ := by
  cases executes
  dsimp only at locked ⊢
  split at locked
  · rename_i found isFound
    have isRow : (content found).1 = row := by
      refine StoreRow.resource_injective ((guards found).trans ?_)
      simpa using locked
    subst isRow
    rw [isFound, lockingRead, if_pos rfl, Option.map_some, stored found isFound]
  · exact absurd locked not_locked_nil

/-- A row is locked with the resource that it is locked by. -/
theorem row_of_resource
    {own : StoreRow}
    (same : own.resource = row.resource) :
    some own = some row :=
  congrArg some (StoreRow.resource_injective same)

/-- No row is locked with a value that is unique. -/
@[simp] theorem StoreRow.unique_ne_resource
    {value : UniqueKey} :
    .unique value ≠ row.resource := by
  cases row <;> simp [StoreRow.resource]

@[simp] theorem StoreRow.adminInvariant_ne_resource :
    .adminInvariant ≠ row.resource := by
  cases row <;> simp [StoreRow.resource]

theorem locked_append
    {first second : List (Lock Resource)} :
    Locked (first ++ second) resource ↔
      Locked first resource ∨ Locked second resource := by
  simp [Locked, or_and_right, exists_or]

@[simp] theorem not_locked_boundUserLock
    {userId : Option Uuid} :
    ¬ Locked (Store.boundUserLock userId) resource := by
  cases userId with
  | none => exact not_locked_nil
  | some userId =>
      exact fun locked =>
        not_locked_nil (locked_referenceLock_cons.mp locked)

/-- The locks that an update takes when the row is there. -/
theorem locked_of_updating
    {present : Bool}
    {locks : List (Lock Resource)}
    (locked : Locked (if present = true then locks else []) resource) :
    Locked locks resource := by
  split at locked
  · exact locked
  · exact absurd locked not_locked_nil

/-- The lock that an update on a condition takes. -/
theorem locked_of_returning
    {Found : Type}
    {taken : Resource}
    {chosen : Option Found}
    (locked :
      Locked
        (match chosen with
          | none => []
          | some _ => [noKeyUpdateLock taken])
        resource) :
    taken = resource := by
  split at locked
  · exact absurd locked not_locked_nil
  · simpa using locked

end Locks

/-- A row that a statement locks is answered by it, or named by it. -/
theorem Statement.locks_row
    {statement : Statement}
    {locks : Store → List (Lock Resource)}
    {effect : Store → Answer statement × List Write}
    {view : Store}
    {row : StoreRow}
    (executes : Store.execution statement = .point locks effect)
    (locked : Locked (locks view) row.resource) :
    statement.lockedAnswer (effect view).1 = some ⟨row, row.read view⟩ ∨
      statement.touched = some row ∨ statement.replaced = some row := by
  cases statement with
  | acquireAdminInvariantLock =>
      cases executes
      simp at locked
  | countUsersWithRole =>
      cases executes
      exact absurd locked not_locked_nil
  | listUsers =>
      cases executes
      exact absurd locked not_locked_nil
  | countPasskeys =>
      cases executes
      exact absurd locked not_locked_nil
  | listPasskeys =>
      cases executes
      exact absurd locked not_locked_nil
  | countEmailLinkRequests =>
      cases executes
      exact absurd locked not_locked_nil
  | getLatestEmailLink =>
      cases executes
      exact absurd locked not_locked_nil
  | getEmailLinkByTokenHash =>
      cases executes
      exact absurd locked not_locked_nil
  | getUserByEmail email forUpdate =>
      exact .inl (lockedAnswer_of_fetching userContent (fun _ => rfl)
        (fun _ found => (Table.get?_of_find? found).1) executes locked)
  | getUserById userId forUpdate =>
      refine .inl (lockedAnswer_of_fetching userContent (fun _ => rfl)
        ?_ executes locked)
      intro _ found
      obtain rfl := Table.key_of_get? found
      exact found
  | getSessionByTokenHash tokenHash forUpdate =>
      exact .inl (lockedAnswer_of_fetching sessionContent (fun _ => rfl)
        (fun _ found => (Table.get?_of_find? found).1) executes locked)
  | getSessionById sessionId forUpdate =>
      refine .inl (lockedAnswer_of_fetching sessionContent (fun _ => rfl)
        ?_ executes locked)
      intro _ found
      obtain rfl := Table.key_of_get? found
      exact found
  | getPasskeyById passkeyId userId forUpdate =>
      refine .inl (lockedAnswer_of_fetching passkeyContent (fun _ => rfl)
        ?_ executes locked)
      intro credential found
      have stored := (Option.filter_eq_some_iff.mp found).1
      obtain rfl := Table.key_of_get? stored
      exact stored
  | getPasskeyByCredentialId credentialId forUpdate =>
      exact .inl (lockedAnswer_of_fetching passkeyContent (fun _ => rfl)
        (fun _ found => (Table.get?_of_find? found).1) executes locked)
  | getExternalIdentity issuer subject forUpdate =>
      exact .inl (lockedAnswer_of_fetching identityContent (fun _ => rfl)
        (fun _ found => (Table.get?_of_find? found).1) executes locked)
  | getExternalIdentityForUser userId issuer forUpdate =>
      exact .inl (lockedAnswer_of_fetching identityContent (fun _ => rfl)
        (fun _ found => (Table.get?_of_find? found).1) executes locked)
  | getEmailLink linkId forUpdate =>
      refine .inl (lockedAnswer_of_fetching linkContent (fun _ => rfl)
        ?_ executes locked)
      intro _ found
      obtain rfl := Table.key_of_get? found
      exact found
  | insertUser user =>
      cases executes
      have own : Resource.user user.id = row.resource := by simpa using locked
      exact .inr (.inl (row_of_resource own))
  | insertSession session =>
      cases executes
      have own : Resource.session session.id = row.resource := by
        simpa [Store.sessionLocks] using locked
      exact .inr (.inl (row_of_resource own))
  | insertPasskey credential =>
      cases executes
      have own : Resource.passkey credential.id = row.resource := by
        simpa using locked
      exact .inr (.inl (row_of_resource own))
  | insertPasskeyChallenge challenge =>
      cases executes
      have own : Resource.passkeyChallenge challenge.id = row.resource := by
        simpa using locked
      exact .inr (.inl (row_of_resource own))
  | insertGoogleChallenge challenge =>
      cases executes
      have own : Resource.googleChallenge challenge.id = row.resource := by
        simpa using locked
      exact .inr (.inl (row_of_resource own))
  | insertExternalIdentity identity =>
      cases executes
      have own : Resource.identity identity.id = row.resource := by
        simpa [Store.identityLocks] using locked
      exact .inr (.inl (row_of_resource own))
  | insertEmailLink link =>
      cases executes
      have own : Resource.link link.id = row.resource := by
        simpa [Store.linkLocks] using locked
      exact .inr (.inl (row_of_resource own))
  | updateUser user =>
      cases executes
      have own : Resource.user user.id = row.resource := by
        simpa using locked_of_updating locked
      exact .inr (.inr (row_of_resource own))
  | updatePasskey credential =>
      cases executes
      have own : Resource.passkey credential.id = row.resource := by
        simpa using locked_of_updating locked
      exact .inr (.inr (row_of_resource own))
  | updateExternalIdentity identity =>
      cases executes
      have own : Resource.identity identity.id = row.resource := by
        simpa using locked_of_updating locked
      exact .inr (.inr (row_of_resource own))
  | deleteExternalIdentity identityId =>
      cases executes
      have own : Resource.identity identityId = row.resource := by
        simpa using locked_of_updating locked
      exact .inr (.inl (row_of_resource own))
  | updateSession session =>
      cases executes
      have locked := locked_of_updating locked
      refine .inr (.inr (row_of_resource ?_))
      rw [Store.sessionUpdateLocks, locked_noKeyUpdateLock_cons] at locked
      refine locked.resolve_right ?_
      cases session.replacedById <;> simp
  | addSecurityEvent event =>
      cases executes
      rw [locked_append] at locked
      rcases locked with ofUser | ofSession
      · exact absurd ofUser not_locked_boundUserLock
      · cases isSession : event.sessionId <;> simp [isSession] at ofSession
  | consumePasskeyChallenge =>
      cases executes
      exact .inr (.inl (row_of_resource (locked_of_returning locked)))
  | consumeGoogleChallenge =>
      cases executes
      exact .inr (.inl (row_of_resource (locked_of_returning locked)))
  | activateEmailLink =>
      cases executes
      exact .inr (.inl (row_of_resource (locked_of_returning locked)))
  | failEmailLink =>
      cases executes
      exact .inr (.inl (row_of_resource (locked_of_returning locked)))
  | revokeEmailLink =>
      cases executes
      exact .inr (.inl (row_of_resource (locked_of_returning locked)))
  | consumeEmailLink =>
      cases executes
      exact .inr (.inl (row_of_resource (locked_of_returning locked)))
  | _ => cases executes

/-- A row that the visit of a sweep locks is the one it visits. -/
theorem Statement.visit_locks_row
    {statement : Statement}
    {targets : Store → List Uuid}
    {lock : Uuid → Lock Resource}
    {touch : Uuid → Store → List Write}
    {answer : Nat → Answer statement}
    {target : Uuid}
    {row : StoreRow}
    (executes : Store.execution statement = .sweep targets lock touch answer)
    (locked : Locked [lock target] row.resource) :
    statement.visited target = some row := by
  cases statement with
  | revokeFamily =>
      cases executes
      have own : Resource.session target = row.resource := by
        simpa using locked
      exact row_of_resource own
  | revokeUserSessions =>
      cases executes
      have own : Resource.session target = row.resource := by
        simpa using locked
      exact row_of_resource own
  | deleteExpiredPasskeyChallenges =>
      cases executes
      have own : Resource.passkeyChallenge target = row.resource := by
        simpa using locked
      exact row_of_resource own
  | deleteExpiredGoogleChallenges =>
      cases executes
      have own : Resource.googleChallenge target = row.resource := by
        simpa using locked
      exact row_of_resource own
  | deleteOldEmailLinks =>
      cases executes
      have own : Resource.link target = row.resource := by
        simpa using locked
      exact row_of_resource own
  | revokeOtherActiveEmailLinks =>
      cases executes
      have own : Resource.link target = row.resource := by
        simpa using locked
      exact row_of_resource own
  | _ => cases executes

end EpokAuth
