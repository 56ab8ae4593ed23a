import EpokAuth.ServiceEffects
import EpokAuth.StoredDigests

namespace EpokAuth

open Transactional

/-!
# Columns without repeated values

The tables of accounts and passkeys have a unique index each: no two accounts
share an address, and no two passkeys a credential identifier.  A row is only
written where no other row has its value, so updating a stored row, which keeps
that value, never meets a conflict.
-/

/-- No two rows of the indexed tables share an indexed value. -/
structure UniqueColumns (store : Store) : Prop where
  addresses : store.users.Unique UserAccount.email
  credentials : store.passkeys.Unique PasskeyCredential.credentialId

/-- A row is only written where its indexed value is free. -/
def Write.IsFree (view : Store) : Write → Prop
  | .putUser user => Store.emailTaken user view = false
  | .putPasskey passkey => Store.credentialTaken passkey view = false
  | _ => True

variable
  {env : Environment}
  {store view : Store}
  {write : Write}

/-- An address is free where no other account has it. -/
theorem emailTaken_eq_false_iff
    {user : UserAccount} :
    Store.emailTaken user store = false ↔
      ∀ other,
        store.users.get? other.id = some other →
        other.email = user.email → other.id = user.id := by
  rw [← Bool.not_eq_true, Store.emailTaken, Table.isSome_find?_iff]
  constructor
  · intro free other found same
    by_contra differs
    exact free ⟨other.id, other, found, by simp [differs, same]⟩
  · rintro free ⟨id, other, found, conflicts⟩
    obtain rfl : other.id = id := Table.key_of_get? found
    rw [Bool.and_eq_true, decide_eq_true_eq, decide_eq_true_eq] at conflicts
    exact conflicts.1 (free other found conflicts.2)

/-- A credential identifier is free where no other passkey has it. -/
theorem credentialTaken_eq_false_iff
    {passkey : PasskeyCredential} :
    Store.credentialTaken passkey store = false ↔
      ∀ other,
        store.passkeys.get? other.id = some other →
        other.credentialId = passkey.credentialId → other.id = passkey.id := by
  rw [← Bool.not_eq_true, Store.credentialTaken, Table.isSome_find?_iff]
  constructor
  · intro free other found same
    by_contra differs
    exact free ⟨other.id, other, found, by simp [differs, same]⟩
  · rintro free ⟨id, other, found, conflicts⟩
    obtain rfl : other.id = id := Table.key_of_get? found
    rw [Bool.and_eq_true, decide_eq_true_eq, decide_eq_true_eq] at conflicts
    exact conflicts.1 (free other found conflicts.2)

/-- A stored account that keeps its address may be updated. -/
theorem UniqueColumns.emailTaken
    {user updated : UserAccount}
    (unique : UniqueColumns store)
    (found : store.users.get? user.id = some user)
    (sameId : updated.id = user.id)
    (sameEmail : updated.email = user.email) :
    Store.emailTaken updated store = false :=
  emailTaken_eq_false_iff.mpr fun other stored same =>
    (unique.addresses other user stored found (same.trans sameEmail)).trans
      sameId.symm

/-- A stored passkey that keeps its credential identifier may be updated. -/
theorem UniqueColumns.credentialTaken
    {passkey updated : PasskeyCredential}
    (unique : UniqueColumns store)
    (found : store.passkeys.get? passkey.id = some passkey)
    (sameId : updated.id = passkey.id)
    (sameCredential : updated.credentialId = passkey.credentialId) :
    Store.credentialTaken updated store = false :=
  credentialTaken_eq_false_iff.mpr fun other stored same =>
    (unique.credentials other passkey stored found
      (same.trans sameCredential)).trans sameId.symm

/-! ## What writes keep -/

/-- A row whose indexed value is free keeps the values distinct. -/
theorem UniqueColumns.apply
    (unique : UniqueColumns view)
    (free : write.IsFree view) :
    UniqueColumns (Store.apply write view) := by
  cases write with
  | putUser user =>
      exact
        { addresses := unique.addresses.put (emailTaken_eq_false_iff.mp free)
          credentials := unique.credentials }
  | putPasskey passkey =>
      exact
        { addresses := unique.addresses
          credentials :=
            unique.credentials.put (credentialTaken_eq_false_iff.mp free) }
  | _ => exact ⟨unique.addresses, unique.credentials⟩

open StoreExecution in
/-- Every statement writes a row only where its indexed value is free. -/
theorem Store.execution_writesFree (statement : Statement) :
    StoreExecution.Writes (fun view write => write.IsFree view)
      (Store.execution statement) := by
  have elsewhere :
      ∀ (view : Store) (write : Write),
        write.table ∉ [TableName.users, .passkeys] → write.IsFree view := by
    intro view write other
    cases write with
    | putUser user => exact absurd (by simp [Write.table]) other
    | putPasskey passkey => exact absurd (by simp [Write.table]) other
    | _ => trivial
  cases statement with
  | insertUser user =>
      exact inserting_writes fun view free => (Bool.or_eq_false_iff.mp free).2
  | updateUser user =>
      exact updating_writes_free fun view _ free => free
  | insertPasskey credential =>
      exact inserting_writes fun view free => (Bool.or_eq_false_iff.mp free).2
  | updatePasskey credential =>
      exact updating_writes_free fun view _ free => free
  | _ =>
      exact Store.execution_writes_elsewhere elsewhere
        (by simp [Statement.table])

/-- A statement run alone keeps the values distinct. -/
theorem UniqueColumns.evaluate
    {statement : Statement}
    (unique : UniqueColumns store) :
    UniqueColumns (Store.evaluate statement store).2 :=
  StoreExecution.perform_keeps (Store.execution_writesFree statement)
    (fun _ _ kept free => kept.apply free) unique

/-- A transaction keeps the values distinct, however it ends. -/
theorem UniqueColumns.execute
    (unique : UniqueColumns store)
    (tx : ServiceTx) :
    UniqueColumns (tx.execute env store).2 := by
  have keeps :
      Tx.wp (tx.body env) (fun _ later => UniqueColumns later)
        (fun _ _ => True) store :=
    Prog.wp_of_issues_keeping (Prog.issues_anything _)
      (fun _ _ _ _ kept continues => continues _ _ kept.evaluate)
      (fun _ _ kept => kept) (fun _ _ _ => trivial) unique
  rcases tx.execute_of_wp keeps with
    ⟨answer, later, executes, kept⟩ | ⟨failure, executes⟩
  · rw [executes]
    exact kept
  · rw [executes]
    exact unique

/-! ## Reachable stores -/

/-- No reachable store repeats an indexed value. -/
theorem ServiceReachable.unique
    (reachable : ServiceReachable env store) :
    UniqueColumns store := by
  obtain ⟨labels, run⟩ := reachable
  refine run.preserves UniqueColumns ?_ ?_
  · intro before executed after step unique
    cases step with
    | completed tx fresh => exact unique.execute tx
    | aborted tx failure => exact unique
  · exact
      { addresses := fun _ _ found => by cases found
        credentials := fun _ _ found => by cases found }

end EpokAuth
