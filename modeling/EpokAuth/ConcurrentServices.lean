import EpokAuth.ReadCommitted
import EpokAuth.ServiceTransaction

namespace EpokAuth

open Transactional

/-!
# The services on a shared database

The transactions of the services, interleaved statement by statement.  Every
statement writes at most one row, which it locks; which rows of accounts and
sessions that can be is stated once for all statements.
-/

/-! ## Rows written by a statement -/

/-- What a statement may write where it sees a store. -/
def Statement.MayWrite : Statement → Store → Write → Prop
  | .insertUser user, store, write =>
      write = .putUser user ∧ store.users.get? user.id = none
  | .updateUser user, store, write =>
      write = .putUser user ∧ (store.users.get? user.id).isSome = true
  | .insertSession session, store, write =>
      write = .putSession session ∧ store.sessions.get? session.id = none
  | .updateSession session, store, write =>
      write = .putSession session ∧
        (store.sessions.get? session.id).isSome = true
  | .revokeFamily familyId revokedAt, store, write =>
      ∃ session,
        store.sessions.get? session.id = some session ∧
          Store.inFamily familyId session = true ∧
          write = .putSession (Store.revokeAt revokedAt session)
  | .revokeUserSessions userId revokedAt, store, write =>
      ∃ session,
        store.sessions.get? session.id = some session ∧
          Store.ofUser userId session = true ∧
          write = .putSession (Store.revokeAt revokedAt session)
  | _, _, write =>
      (∀ user, write ≠ .putUser user) ∧
        ∀ session, write ≠ .putSession session

/-- At most one row is written, and it may be. -/
def WritesOne (may : Write → Prop) (writes : List Write) : Prop :=
  writes = [] ∨ ∃ write, writes = [write] ∧ may write

namespace StoreExecution

/-- An execution writes only what may be written where it is performed. -/
def Writes (may : Store → Write → Prop) : StoreExecution α → Prop
  | .point _ effect => ∀ view, WritesOne (may view) (effect view).2
  | .sweep _ _ touch _ => ∀ target view, WritesOne (may view) (touch target view)

section Combinators

variable
  {may : Store → Write → Prop}
  {locks : List (Lock Resource)}
  {resource : Resource}
  {write : Write}
  {message : String}

theorem inserting_writes
    {exists_ : Store → Bool}
    (permitted : ∀ view, exists_ view = false → may view write) :
    (inserting locks exists_ message write).Writes may := by
  intro view
  dsimp only
  split
  · exact .inl rfl
  · rename_i absent
    exact .inr ⟨write, rfl, permitted view (Bool.eq_false_iff.mpr absent)⟩

theorem updating_writes_free
    {present conflicting : Store → Bool}
    (permitted :
      ∀ view, present view = true → conflicting view = false →
        may view write) :
    (updating locks present conflicting message write).Writes may := by
  intro view
  dsimp only
  split
  · rename_i found
    split
    · exact .inl rfl
    · rename_i free
      exact .inr
        ⟨write, rfl, permitted view found (Bool.eq_false_iff.mpr free)⟩
  · exact .inl rfl

theorem updating_writes
    {present conflicting : Store → Bool}
    (permitted : ∀ view, present view = true → may view write) :
    (updating locks present conflicting message write).Writes may :=
  updating_writes_free fun view found _ => permitted view found

theorem returning_writes
    {read : Store → Option Row}
    {condition : Row → Bool}
    {change : Row → Row}
    {put : Row → Write}
    (permitted :
      ∀ view row, read view = some row → condition row = true →
        may view (put (change row))) :
    (returning resource read condition change put).Writes may := by
  intro view
  dsimp only
  split
  · exact .inl rfl
  · rename_i row chosen
    have found := Option.filter_eq_some_iff.mp chosen
    exact .inr ⟨_, rfl, permitted view row found.1 found.2⟩

theorem inserting_guarded
    {exists_ : Store → Bool}
    (locked :
      ∀ resource, write.resource = some resource → Locked locks resource) :
    (inserting locks exists_ message write).Guarded Write.resource := by
  intro view other member resource guard
  dsimp only at member
  split at member
  · cases member
  · obtain rfl := List.mem_singleton.mp member
    exact locked resource guard

theorem updating_guarded
    {present conflicting : Store → Bool}
    (locked :
      ∀ resource, write.resource = some resource → Locked locks resource) :
    (updating locks present conflicting message write).Guarded
      Write.resource := by
  intro view other member resource guard
  dsimp only at member ⊢
  split at member
  · rename_i found
    rw [if_pos found]
    split at member
    · cases member
    · obtain rfl := List.mem_singleton.mp member
      exact locked resource guard
  · cases member

theorem returning_guarded
    {read : Store → Option Row}
    {condition : Row → Bool}
    {change : Row → Row}
    {put : Row → Write}
    (locked :
      ∀ view row, read view = some row →
        (put (change row)).resource = some resource) :
    (returning resource read condition change put).Guarded
      Write.resource := by
  intro view other member written guard
  dsimp only at member ⊢
  cases chosen : (read view).filter condition with
  | none =>
      rw [chosen] at member
      cases member
  | some row =>
      rw [chosen] at member
      obtain rfl := List.mem_singleton.mp member
      have same :=
        locked view row (Option.filter_eq_some_iff.mp chosen).1
      rw [same] at guard
      obtain rfl := Option.some.inj guard
      exact ⟨_, List.mem_cons_self, rfl, by simp [noKeyUpdateLock]⟩

end Combinators

end StoreExecution

section Sweeps

variable
  {Row : Type}
  [Keyed Row Uuid]

/-- A visit of an update writes the row it finds, changed. -/
theorem touchUpdate_writes
    (field : TableField Store.apply Row)
    (property : Row → Bool)
    (change : Row → Row)
    (target : Uuid)
    (view : Store) :
    WritesOne
      (fun write =>
        ∃ row,
          (field.view view).get? target = some row ∧
            property row = true ∧ write = field.put (change row))
      (field.touchUpdate property change target view) := by
  unfold TableField.touchUpdate
  cases found : (field.view view).get? target with
  | none =>
      exact .inl rfl
  | some row =>
      by_cases holds : property row = true
      · right
        exact ⟨_, if_pos holds, row, rfl, holds, rfl⟩
      · left
        exact if_neg holds

/-- A visit of a removal removes the row it was sent to. -/
theorem touchDelete_writes
    (field : ErasableField Store.apply Row)
    (property : Row → Bool)
    (target : Uuid)
    (view : Store) :
    WritesOne
      (fun write =>
        write = field.erase target ∧
          ∃ row,
            (field.view view).get? target = some row ∧ property row = true)
      (field.touchDelete property target view) := by
  unfold ErasableField.touchDelete
  cases found : (field.view view).get? target with
  | none =>
      exact .inl rfl
  | some row =>
      by_cases holds : property row = true
      · right
        exact ⟨_, if_pos holds, rfl, row, rfl, holds⟩
      · left
        exact if_neg holds

end Sweeps

theorem WritesOne.mono
    {stronger weaker : Write → Prop}
    {writes : List Write}
    (one : WritesOne stronger writes)
    (weakening : ∀ write, stronger write → weaker write) :
    WritesOne weaker writes := by
  rcases one with none | ⟨write, same, may⟩
  · exact .inl none
  · exact .inr ⟨write, same, weakening write may⟩

/-- What is true of the row that may be written is true of all written ones. -/
theorem WritesOne.forall
    {may : Write → Prop}
    {writes : List Write}
    (one : WritesOne may writes) :
    ∀ write ∈ writes, may write := by
  rcases one with rfl | ⟨write, rfl, may⟩
  · simp
  · simpa using may

/-- The one row that is written may be written for both reasons. -/
theorem WritesOne.and
    {first second : Write → Prop}
    {writes : List Write}
    (one : WritesOne first writes)
    (another : WritesOne second writes) :
    WritesOne (fun write => first write ∧ second write) writes := by
  rcases one with none | ⟨write, same, may⟩
  · exact .inl none
  · subst same
    exact .inr ⟨write, rfl, may, another.forall write List.mem_cons_self⟩

/-- What holds without a write and after every one that may be made. -/
theorem WritesOne.apply_cases
    {may : Write → Prop}
    {writes : List Write}
    {store : Store}
    {property : Store → Prop}
    (one : WritesOne may writes)
    (unwritten : property store)
    (written : ∀ write, may write → property (Store.apply write store)) :
    property (applyAll Store.apply writes store) := by
  rcases one with rfl | ⟨write, rfl, may⟩
  · exact unwritten
  · exact written write may

/-! ## Tables written by a statement -/

/-- The tables that statements write. -/
inductive TableName where
  | users
  | sessions
  | links
  | identities
  | passkeys
  | passkeyChallenges
  | googleChallenges
  | events
  deriving Repr, DecidableEq

/-- The table of the row that is written. -/
def Write.table : Write → TableName
  | .putUser _ => .users
  | .putSession _ => .sessions
  | .putLink _ => .links
  | .eraseLink _ => .links
  | .putIdentity _ => .identities
  | .eraseIdentity _ => .identities
  | .putPasskey _ => .passkeys
  | .putPasskeyChallenge _ => .passkeyChallenges
  | .erasePasskeyChallenge _ => .passkeyChallenges
  | .putGoogleChallenge _ => .googleChallenges
  | .eraseGoogleChallenge _ => .googleChallenges
  | .appendEvent _ => .events

/-- The one table that a statement may write. -/
def Statement.table : Statement → Option TableName
  | .insertUser _ => some .users
  | .updateUser _ => some .users
  | .insertSession _ => some .sessions
  | .updateSession _ => some .sessions
  | .revokeFamily _ _ => some .sessions
  | .revokeUserSessions _ _ => some .sessions
  | .addSecurityEvent _ => some .events
  | .deleteExpiredPasskeyChallenges _ => some .passkeyChallenges
  | .insertPasskeyChallenge _ => some .passkeyChallenges
  | .consumePasskeyChallenge .. => some .passkeyChallenges
  | .insertPasskey _ => some .passkeys
  | .updatePasskey _ => some .passkeys
  | .deleteExpiredGoogleChallenges _ => some .googleChallenges
  | .insertGoogleChallenge _ => some .googleChallenges
  | .consumeGoogleChallenge .. => some .googleChallenges
  | .insertExternalIdentity _ => some .identities
  | .updateExternalIdentity _ => some .identities
  | .deleteExternalIdentity _ => some .identities
  | .deleteOldEmailLinks _ => some .links
  | .insertEmailLink _ => some .links
  | .activateEmailLink _ _ => some .links
  | .failEmailLink _ _ => some .links
  | .revokeEmailLink _ _ => some .links
  | .revokeOtherActiveEmailLinks .. => some .links
  | .consumeEmailLink .. => some .links
  | _ => none

/-- A sweep that changes rows writes their table. -/
theorem touchUpdate_table
    {Row : Type}
    [Keyed Row Uuid]
    {field : TableField Store.apply Row}
    {property : Row → Bool}
    {change : Row → Row}
    {table : TableName}
    (isTable : ∀ row, some table = some (field.put row).table)
    (target : Uuid)
    (view : Store) :
    WritesOne (fun write => some table = some write.table)
      (field.touchUpdate property change target view) := by
  refine (touchUpdate_writes field property change target view).mono ?_
  rintro write ⟨row, _, _, rfl⟩
  exact isTable (change row)

/-- A sweep that removes rows writes their table. -/
theorem touchDelete_table
    {Row : Type}
    [Keyed Row Uuid]
    {field : ErasableField Store.apply Row}
    {property : Row → Bool}
    {table : TableName}
    (isTable : ∀ id, some table = some (field.erase id).table)
    (target : Uuid)
    (view : Store) :
    WritesOne (fun write => some table = some write.table)
      (field.touchDelete property target view) := by
  refine (touchDelete_writes field property target view).mono ?_
  rintro write ⟨rfl, _⟩
  exact isTable target

open StoreExecution in
/-- Every statement writes at most one row, of its own table. -/
theorem Store.execution_table (statement : Statement) :
    StoreExecution.Writes (fun _ write => statement.table = some write.table)
      (Store.execution statement) := by
  cases statement with
  | insertUser user => exact inserting_writes fun _ _ => rfl
  | updateUser user => exact updating_writes fun _ _ => rfl
  | insertSession session => exact inserting_writes fun _ _ => rfl
  | updateSession session => exact updating_writes fun _ _ => rfl
  | revokeFamily familyId revokedAt => exact touchUpdate_table fun _ => rfl
  | revokeUserSessions userId revokedAt =>
      exact touchUpdate_table fun _ => rfl
  | addSecurityEvent event => exact fun _ => .inr ⟨_, rfl, rfl⟩
  | deleteExpiredPasskeyChallenges now => exact touchDelete_table fun _ => rfl
  | insertPasskeyChallenge challenge => exact inserting_writes fun _ _ => rfl
  | consumePasskeyChallenge challengeId purpose now userId familyId =>
      exact returning_writes fun _ _ _ _ => rfl
  | insertPasskey credential => exact inserting_writes fun _ _ => rfl
  | updatePasskey credential => exact updating_writes fun _ _ => rfl
  | deleteExpiredGoogleChallenges now => exact touchDelete_table fun _ => rfl
  | insertGoogleChallenge challenge => exact inserting_writes fun _ _ => rfl
  | consumeGoogleChallenge challengeId purpose now userId =>
      exact returning_writes fun _ _ _ _ => rfl
  | insertExternalIdentity identity => exact inserting_writes fun _ _ => rfl
  | updateExternalIdentity identity => exact updating_writes fun _ _ => rfl
  | deleteExternalIdentity identityId => exact updating_writes fun _ _ => rfl
  | deleteOldEmailLinks before => exact touchDelete_table fun _ => rfl
  | insertEmailLink link => exact inserting_writes fun _ _ => rfl
  | activateEmailLink linkId now => exact returning_writes fun _ _ _ _ => rfl
  | failEmailLink linkId now => exact returning_writes fun _ _ _ _ => rfl
  | revokeEmailLink linkId now => exact returning_writes fun _ _ _ _ => rfl
  | revokeOtherActiveEmailLinks userId purpose activeLinkId now =>
      exact touchUpdate_table fun _ => rfl
  | consumeEmailLink linkId purpose now =>
      exact returning_writes fun _ _ _ _ => rfl
  | _ => exact fun _ => .inl rfl

/-- What may be written is weakened. -/
theorem StoreExecution.Writes.mono
    {stronger weaker : Store → Write → Prop}
    {execution : StoreExecution α}
    (writes : execution.Writes stronger)
    (weakening : ∀ view write, stronger view write → weaker view write) :
    execution.Writes weaker := by
  cases execution with
  | point locks effect => exact fun view => (writes view).mono (weakening view)
  | sweep targets lock touch answer =>
      exact fun target view => (writes target view).mono (weakening view)

/-- A statement of another table writes what may be written elsewhere. -/
theorem Store.execution_writes_elsewhere
    {may : Store → Write → Prop}
    {tables : List TableName}
    {statement : Statement}
    (elsewhere : ∀ view write, write.table ∉ tables → may view write)
    (apart : ∀ table ∈ tables, statement.table ≠ some table) :
    StoreExecution.Writes may (Store.execution statement) :=
  (Store.execution_table statement).mono fun view write isTable =>
    elsewhere view write fun member => apart _ member isTable

open StoreExecution in
/-- Every statement writes at most one row, which it may write. -/
theorem Store.execution_writes (statement : Statement) :
    StoreExecution.Writes statement.MayWrite (Store.execution statement) := by
  have elsewhere :
      ∀ write : Write,
        write.table ∉ [TableName.users, .sessions] →
        (∀ user, write ≠ .putUser user) ∧
          ∀ session, write ≠ .putSession session := by
    intro write other
    constructor
    · rintro user rfl
      exact other (by simp [Write.table])
    · rintro session rfl
      exact other (by simp [Write.table])
  cases statement with
  | insertUser user =>
      refine inserting_writes fun view absent => ⟨rfl, ?_⟩
      rw [Bool.or_eq_false_iff] at absent
      exact Option.isNone_iff_eq_none.mp
        (Option.isSome_eq_false_iff.mp absent.1)
  | updateUser user => exact updating_writes fun view found => ⟨rfl, found⟩
  | insertSession session =>
      refine inserting_writes fun view absent => ⟨rfl, ?_⟩
      rw [Bool.or_eq_false_iff] at absent
      exact Option.isNone_iff_eq_none.mp
        (Option.isSome_eq_false_iff.mp absent.1)
  | updateSession session =>
      exact updating_writes fun view found => ⟨rfl, found⟩
  | revokeFamily familyId revokedAt =>
      intro target view
      refine (touchUpdate_writes Store.sessionsField _ _ target view).mono ?_
      rintro write ⟨session, found, holds, rfl⟩
      obtain rfl := Table.key_of_get? found
      exact ⟨session, found, holds, rfl⟩
  | revokeUserSessions userId revokedAt =>
      intro target view
      refine (touchUpdate_writes Store.sessionsField _ _ target view).mono ?_
      rintro write ⟨session, found, holds, rfl⟩
      obtain rfl := Table.key_of_get? found
      exact ⟨session, found, holds, rfl⟩
  | _ =>
      exact Store.execution_writes_elsewhere (fun _ => elsewhere)
        (by simp [Statement.table])

/-! ## Rows locked by a statement -/

/-- The lock of a row that is written excludes other writers. -/
theorem locked_head
    {resource : Resource}
    {mode : LockMode}
    {rest : List (Lock Resource)}
    (writes : mode ≠ .keyShare) :
    Locked ({ resource := resource, mode := mode } :: rest) resource :=
  ⟨_, List.mem_cons_self, rfl, writes⟩

/-- A single resource is the one that is locked first. -/
theorem locked_of_eq_some
    {resource other : Resource}
    {mode : LockMode}
    {rest : List (Lock Resource)}
    (writes : mode ≠ .keyShare)
    (same : some resource = some other) :
    Locked ({ resource := resource, mode := mode } :: rest) other :=
  Option.some.inj same ▸ locked_head writes

/-- A sweep that writes at most the row it visits locks that row. -/
theorem sweep_guarded
    {targets : Store → List Uuid}
    {resource : Uuid → Resource}
    {mode : LockMode}
    {touch : Uuid → Store → List Write}
    {answer : Nat → α}
    (writes : mode ≠ .keyShare)
    (touches :
      ∀ target view,
        WritesOne (fun write => write.resource = some (resource target))
          (touch target view)) :
    (Execution.sweep targets
        (fun target => { resource := resource target, mode := mode })
        touch answer : StoreExecution α).Guarded Write.resource := by
  intro target view write member other guard
  have same := (touches target view).forall write member
  exact locked_of_eq_some writes (same.symm.trans guard)

/-- A visit of an update writes the row it was sent to. -/
theorem touchUpdate_resource
    {Row : Type}
    [Keyed Row Uuid]
    {field : TableField Store.apply Row}
    {property : Row → Bool}
    {change : Row → Row}
    {resource : Uuid → Resource}
    (puts : ∀ row : Row, (field.put row).resource = some (resource (key row)))
    (keepsKey : ∀ row, (key (change row) : Uuid) = key row)
    (target : Uuid)
    (view : Store) :
    WritesOne (fun write => write.resource = some (resource target))
      (field.touchUpdate property change target view) := by
  refine (touchUpdate_writes field property change target view).mono ?_
  rintro write ⟨row, found, _, rfl⟩
  rw [puts, keepsKey, Table.key_of_get? found]

/-- A visit of a removal removes the row it was sent to. -/
theorem touchDelete_resource
    {Row : Type}
    [Keyed Row Uuid]
    {field : ErasableField Store.apply Row}
    {property : Row → Bool}
    {resource : Uuid → Resource}
    (erases : ∀ id, (field.erase id).resource = some (resource id))
    (target : Uuid)
    (view : Store) :
    WritesOne (fun write => write.resource = some (resource target))
      (field.touchDelete property target view) := by
  refine (touchDelete_writes field property target view).mono ?_
  rintro write ⟨rfl, _⟩
  exact erases target

open StoreExecution in
/-- Every statement locks the row it writes. -/
theorem Store.engine_guards : Store.engine.Guards := by
  intro statement
  have updates : LockMode.noKeyUpdate ≠ .keyShare := by simp
  have removes : LockMode.forUpdate ≠ .keyShare := by simp
  cases statement with
  | acquireAdminInvariantLock => exact fun _ _ member => by cases member
  | addSecurityEvent event =>
      intro view write member resource guard
      obtain rfl := List.mem_singleton.mp member
      cases guard
  | insertUser user =>
      exact inserting_guarded fun _ => locked_of_eq_some removes
  | insertSession session =>
      exact inserting_guarded fun _ => locked_of_eq_some removes
  | insertPasskeyChallenge challenge =>
      exact inserting_guarded fun _ => locked_of_eq_some removes
  | insertPasskey credential =>
      exact inserting_guarded fun _ => locked_of_eq_some removes
  | insertGoogleChallenge challenge =>
      exact inserting_guarded fun _ => locked_of_eq_some removes
  | insertExternalIdentity identity =>
      exact inserting_guarded fun _ => locked_of_eq_some removes
  | insertEmailLink link =>
      exact inserting_guarded fun _ => locked_of_eq_some removes
  | updateUser user =>
      exact updating_guarded fun _ => locked_of_eq_some updates
  | updateSession session =>
      exact updating_guarded fun _ => locked_of_eq_some updates
  | updatePasskey credential =>
      exact updating_guarded fun _ => locked_of_eq_some updates
  | updateExternalIdentity identity =>
      exact updating_guarded fun _ => locked_of_eq_some updates
  | deleteExternalIdentity identityId =>
      exact updating_guarded fun _ => locked_of_eq_some removes
  | consumePasskeyChallenge challengeId purpose now userId familyId =>
      exact returning_guarded fun _ _ found =>
        congrArg (some ∘ Resource.passkeyChallenge) (Table.key_of_get? found)
  | consumeGoogleChallenge challengeId purpose now userId =>
      exact returning_guarded fun _ _ found =>
        congrArg (some ∘ Resource.googleChallenge) (Table.key_of_get? found)
  | activateEmailLink linkId now =>
      exact returning_guarded fun _ _ found =>
        congrArg (some ∘ Resource.link) (Table.key_of_get? found)
  | failEmailLink linkId now =>
      exact returning_guarded fun _ _ found =>
        congrArg (some ∘ Resource.link) (Table.key_of_get? found)
  | revokeEmailLink linkId now =>
      exact returning_guarded fun _ _ found =>
        congrArg (some ∘ Resource.link) (Table.key_of_get? found)
  | consumeEmailLink linkId purpose now =>
      exact returning_guarded fun _ _ found =>
        congrArg (some ∘ Resource.link) (Table.key_of_get? found)
  | revokeFamily familyId revokedAt =>
      exact sweep_guarded updates
        (touchUpdate_resource (fun _ => rfl) fun _ => rfl)
  | revokeUserSessions userId revokedAt =>
      exact sweep_guarded updates
        (touchUpdate_resource (fun _ => rfl) fun _ => rfl)
  | revokeOtherActiveEmailLinks userId purpose activeLinkId now =>
      exact sweep_guarded updates
        (touchUpdate_resource (fun _ => rfl) fun _ => rfl)
  | deleteExpiredPasskeyChallenges now =>
      exact sweep_guarded removes (touchDelete_resource fun _ => rfl)
  | deleteExpiredGoogleChallenges now =>
      exact sweep_guarded removes (touchDelete_resource fun _ => rfl)
  | deleteOldEmailLinks before =>
      exact sweep_guarded removes (touchDelete_resource fun _ => rfl)
  | _ => exact fun _ _ member => by cases member

/-- The services as calls on a shared database. -/
def services (env : Environment) :
    System Store Write Resource Uuid Answer Failure ServiceTx.Answer where
  engine := Store.engine
  guards := Store.engine_guards
  body := ServiceTx.body env

end EpokAuth
