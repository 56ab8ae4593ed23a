import EpokAuth.AccountRun
import EpokAuth.RowLocks
import EpokAuth.ScriptedRun
import EpokAuth.ScriptedSchedule

namespace EpokAuth

open Transactional

/-!
# No update is lost

Four statements replace a whole row.  Each is issued under a lock of the row
that the transaction took before, mostly by reading the row, and from then on
nobody else commits a change of it.  What is written is the change that the
operation makes of the row as it is read: what the verification of the password
or of the passkey makes of it, say, and not of an older version of it.
-/

/-- What replaces a row is the intended change of the row as it is seen. -/
def ReplacesCurrent
    (env : Environment)
    (call : ServiceTx)
    (locks : List (Lock Resource))
    (view : Store) :
    Statement → Prop
  | .updateUser updated =>
      ∃ user change now,
        Locked locks (.user updated.id) ∧
          view.users.get? updated.id = some user ∧
          call.clock = some now ∧
          change.Permitted now user ∧
          call.Intends env.toDependencies user change ∧
          updated = change.apply env.settings now user
  | .updateSession updated =>
      ∃ session,
        Locked locks (.session updated.id) ∧
          view.sessions.get? updated.id = some session ∧
          call.IntendsSession session updated
  | .updatePasskey updated =>
      ∃ stored,
        Locked locks (.passkey updated.id) ∧
          view.passkeys.get? updated.id = some stored ∧
          call.IntendsPasskey env.adapter stored updated
  | .updateExternalIdentity updated =>
      ∃ stored,
        Locked locks (.identity updated.id) ∧
          view.identities.get? updated.id = some stored ∧
          call.IntendsIdentity stored updated
  | _ => True

/-- A passkey keeps its identifier when it is used or revoked. -/
theorem ServiceTx.IntendsPasskey.sameId
    {adapter : PasskeyAdapter}
    {call : ServiceTx}
    {stored updated : PasskeyCredential}
    (intends : call.IntendsPasskey adapter stored updated) :
    updated.id = stored.id := by
  cases call with
  | finishAuthentication =>
      rcases intends with ⟨_, verified, _, rfl⟩
      rfl
  | finishReauthentication =>
      rcases intends with ⟨_, verified, _, rfl⟩
      rfl
  | revokePasskey =>
      rcases intends with ⟨_, rfl⟩
      rfl
  | _ => cases intends

/-- An identity keeps its identifier when it is logged into. -/
theorem ServiceTx.IntendsIdentity.sameId
    {call : ServiceTx}
    {stored updated : ExternalIdentity}
    (intends : call.IntendsIdentity stored updated) :
    updated.id = stored.id := by
  cases call with
  | googleLogin =>
      obtain rfl : updated = _ := intends
      rfl
  | loginLinkedAfterConflict =>
      obtain rfl : updated = _ := intends
      rfl
  | _ => cases intends

/-- A permitted replacement is a change of the current row. -/
theorem replacesCurrent_of_permitted
    {env : Environment}
    {call : ServiceTx}
    {standing : ServiceStanding}
    {statement : Statement}
    (permitted : accountPermits env call standing statement) :
    ReplacesCurrent env call standing.locks standing.view statement := by
  cases statement with
  | updateUser updated =>
      rcases permitted.1 with
        ⟨user, change, now, holds, clock, able, intended, rfl⟩
      refine ⟨user, change, now, ?_, ?_, clock, able, intended, rfl⟩
      · rw [AccountChange.apply_id]
        exact holds.locked
      · rw [AccountChange.apply_id]
        exact holds.seen
  | updateSession updated =>
      rcases permitted with ⟨session, holds, _, intended⟩
      have sameId : updated.id = session.id := by
        rcases intended.isReplaced with ⟨successorId, now, rfl⟩
        rfl
      exact ⟨session, sameId ▸ holds.locked, sameId ▸ holds.seen, intended⟩
  | updatePasskey updated =>
      rcases permitted with ⟨stored, holds, intended⟩
      have sameId := intended.sameId
      exact ⟨stored, sameId ▸ holds.locked, sameId ▸ holds.seen, intended⟩
  | updateExternalIdentity updated =>
      rcases permitted with ⟨stored, holds, intended⟩
      have sameId := intended.sameId
      exact ⟨stored, sameId ▸ holds.locked, sameId ▸ holds.seen, intended⟩
  | _ => trivial

/-- A row is replaced under its lock. -/
theorem ReplacesCurrent.locked
    {env : Environment}
    {call : ServiceTx}
    {locks : List (Lock Resource)}
    {view : Store}
    {statement : Statement}
    {row : StoreRow}
    (replaces : ReplacesCurrent env call locks view statement)
    (isRow : statement.replaced = some row) :
    Locked locks row.resource := by
  cases statement with
  | updateUser updated =>
      obtain rfl := Option.some.inj isRow
      rcases replaces with ⟨_, _, _, locked, _⟩
      exact locked
  | updateSession updated =>
      obtain rfl := Option.some.inj isRow
      rcases replaces with ⟨_, locked, _⟩
      exact locked
  | updatePasskey updated =>
      obtain rfl := Option.some.inj isRow
      rcases replaces with ⟨_, locked, _⟩
      exact locked
  | updateExternalIdentity updated =>
      obtain rfl := Option.some.inj isRow
      rcases replaces with ⟨_, locked, _⟩
      exact locked
  | _ => cases isRow

/-! ## Since a row was read -/

section Reads

variable
  {Client : Type}
  [DecidableEq Client]
  {env : Environment}
  {pool : Client → ServiceTx → Prop}
  {committed : Store}
  {config : Config Client (services env)}
  {labels : List (Event Client (services env))}
  {client : Client}
  {row : StoreRow}

omit [DecidableEq Client] in
/--
A step with which a client takes a row: its call goes on with the row as it is
committed, or the client inserts, deletes, closes or visits the row itself.
-/
inductive TakesRow
    (client : Client)
    (row : StoreRow)
    (before : Config Client (services env)) :
    Event Client (services env) → Config Client (services env) → Prop where
  | reads
      {call : ServiceTx}
      {writes : List Write}
      {statement : Statement}
      {answer : Answer statement}
      {next : Answer statement → Prog Statement Answer Failure call.Answer}
      {after : Config Client (services env)}
      (issuing :
        before.phases client = .issuing call writes (.call statement next))
      (answered : after.phases client = .issuing call writes (next answer))
      (isRow :
        statement.lockedAnswer answer =
          some ⟨row, row.read before.committed⟩) :
      TakesRow client row before (.issues client statement) after
  | touches
      {statement : Statement}
      {after : Config Client (services env)}
      (isRow : statement.touched = some row) :
      TakesRow client row before (.issues client statement) after
  | visits
      {call : ServiceTx}
      {writes : List Write}
      {statement : Statement}
      {pending : List Uuid}
      {count : Nat}
      {next : Answer statement → Prog Statement Answer Failure call.Answer}
      {target : Uuid}
      {after : Config Client (services env)}
      (sweeping :
        before.phases client =
          .sweeping call writes statement pending count next)
      (isRow : statement.visited target = some row) :
      TakesRow client row before (.visits client target) after

/--
The client took the row earlier in its transaction, and in no state since then
had anybody else committed a change of it.
-/
def HeldSinceTaken
    (pool : Client → ServiceTx → Prop)
    (committed : Store)
    (labels : List (Event Client (services env)))
    (config : Config Client (services env))
    (client : Client)
    (row : StoreRow) :
    Prop :=
  ∃ before event after later,
    TakesLock pool (.quiescent committed) config labels client row.resource
        before event after later ∧
      TakesRow client row before event after ∧
      ∀ first second middle,
        later = first ++ second → Run (Step pool) after first middle →
          row.read middle.committed = row.read before.committed

/-- A lock of a row is taken with the row. -/
theorem takesRow_of_takesLock
    {before after : Config Client (services env)}
    {event : Event Client (services env)}
    {later : List (Event Client (services env))}
    (takes :
      TakesLock pool (.quiescent committed) config labels client row.resource
        before event after later) :
    TakesRow client row before event after := by
  have seen := takes.seen Config.proper_quiescent row.observation
  rw [row.observe_observation, row.observe_observation] at seen
  rcases takes.reached with ⟨earlier, _, run⟩
  have free := takes.free
  have locked := takes.locked
  have acts := takes.step.acts_of_locked free locked
  have isOwn := acts.client_eq
  have step := takes.step
  cases step with
  | @point actor _ _ _ _ _ _ issuing executes granted =>
      obtain rfl : actor = client := isOwn
      rw [Config.locks_advance_self] at locked
      have taken := (locked_append.mp locked).resolve_left free
      rcases Statement.locks_row executes taken with
        answered | touched | replaced
      · exact .reads issuing Config.phases_advance_self
          (answered.trans (by rw [seen]))
      · exact .touches touched
      · -- a row is replaced only under a lock that is held already
        rcases permitted_of_issued run takes.step with
          ⟨_, _, _, _, _, permitted⟩
        exact absurd
          ((replacesCurrent_of_permitted permitted).locked replaced) free
  | @visit actor _ _ _ _ _ _ _ _ _ _ _ _ sweeping executes granted =>
      obtain rfl : actor = client := isOwn
      rw [Config.locks_advance_self] at locked
      have taken := (locked_append.mp locked).resolve_left free
      exact .visits sweeping (Statement.visit_locks_row executes taken)
  | sweep => exact absurd locked free
  | _ => rcases acts with ⟨_, same⟩ | ⟨_, same⟩ <;> cases same

/-- A row that a client locks is held since it was taken. -/
theorem heldSinceTaken_of_locked
    (run : Run (Step pool) (.quiescent committed) labels config)
    (locked : Locked (config.locks client) row.resource) :
    HeldSinceTaken pool committed labels config client row := by
  rcases exists_takesLock run not_locked_nil locked with
    ⟨before, event, after, later, takes⟩
  refine ⟨before, event, after, later, takes, takesRow_of_takesLock takes, ?_⟩
  intro first second middle splits goesOn
  have kept :=
    takes.unchanged Config.proper_quiescent row.observation splits goesOn
  rw [row.observe_observation, row.observe_observation] at kept
  exact kept

end Reads

/--
In every interleaving of the services: whoever replaces a whole row writes the
intended change of the row that is committed, or of what its own transaction
wrote of it; it took the row before, and nobody else has committed a change of
it since; and as long as a transaction is open, nobody else commits a change of
a row that it locks.
-/
theorem no_lost_update
    {Client : Type}
    [DecidableEq Client]
    {env : Environment}
    {pool : Client → ServiceTx → Prop}
    {committed : Store}
    {config : Config Client (services env)}
    {labels : List (Event Client (services env))}
    (run : Run (Step pool) (.quiescent committed) labels config)
    (client : Client) :
    (∀ statement next,
        Step pool config (.issues client statement) next →
          ∃ call before program,
            config.phases client = .issuing call before program ∧
              ReplacesCurrent env call (config.locks client)
                (config.sees client) statement ∧
              ∀ row, statement.replaced = some row →
                HeldSinceTaken pool committed labels config client row) ∧
      (∀ row : StoreRow,
        (∀ write ∈ config.writes client,
          write.resource ≠ some row.resource) →
        row.read (config.sees client) = row.read config.committed) ∧
      ∀ (row : StoreRow) more later,
        Locked (config.locks client) row.resource →
        Run (Step pool) config more later →
        (∀ event ∈ more, ¬ event.Ends client) →
        row.read later.committed = row.read config.committed := by
  refine ⟨?_, ?_, ?_⟩
  · intro statement next step
    rcases permitted_of_issued run step with
      ⟨call, before, program, issued, issuing, permitted⟩
    have replaces := replacesCurrent_of_permitted permitted
    exact ⟨call, before, program, issuing, replaces, fun row isRow =>
      heldSinceTaken_of_locked run (replaces.locked isRow)⟩
  · intro row unwritten
    exact row.read_applyAll unwritten config.committed
  · intro row more later locked goesOn isOpen
    have proper := proper_of_run run Config.proper_quiescent
    have kept :
        Locked (later.locks client) row.resource ∧
          row.observation.observe later.committed =
            row.observation.observe config.committed :=
      observe_committed_of_run goesOn isOpen proper locked
    rw [row.observe_observation, row.observe_observation] at kept
    exact kept.2

/-! ## Two accounts at once -/

/-- The reference environment, with a hasher that upgrades every hash. -/
def upgradingEnvironment : Environment :=
  { referenceEnvironment with
    passwords :=
      { transparentPasswords with
        passwordHash :=
          { hash := fun _ password => password
            verifyAndUpdate := fun _ password encoded =>
              (password = encoded, some (encoded ++ "+")) } } }

/-- An active account with a password, and two failed logins. -/
def passwordAccount (userId : Uuid) (email : String) : UserAccount where
  id := userId
  email := email
  displayName := "User"
  passwordHash := "secret"
  failedLoginAttempts := 2

/-- Two active accounts. -/
def twoAccounts : Store :=
  { users :=
      (Table.empty.put (passwordAccount 1 "first@example.test")).put
        (passwordAccount 2 "second@example.test") }

/-- A client has read the account that it logs in to. -/
def readForLogin :
    List (Event Bool (services upgradingEnvironment)) ×
      Config Bool (services upgradingEnvironment) :=
  obeyAll [true, false] (fun _ _ => true)
    [ .call true
        (.login "first@example.test" "secret" 5 {} 1
          { sessionId := 10
            familyId := 20
            refreshToken := "refresh"
            csrfToken := "csrf"
            tokenId := 30 }),
      .proceed true ]
    (.quiescent twoAccounts)

/-- Meanwhile the password of the other account is reset. -/
def otherReset :
    List (Event Bool (services upgradingEnvironment)) ×
      Config Bool (services upgradingEnvironment) :=
  obeyAll [true, false] (fun _ _ => true)
    (transaction false (.resetPassword 2 "temporary" 6 {}) 6) readForLogin.2

/-- The account that was read, as a successful verification leaves it. -/
def verifiedAccount : UserAccount :=
  afterPasswordVerification (passwordAccount 1 "first@example.test")
    { valid := true, updatedHash := some "secret+" } 5

/--
A login counts its success, with the upgraded hash, on the account that it read
before somebody else committed a reset of another one.
-/
theorem no_lost_update_login :
    .commits false ∈ otherReset.1 ∧
      (otherReset.2.committed.users.get? 2).map UserAccount.passwordHash =
        some "temporary" ∧
      (∃ call before program,
        otherReset.2.phases true = .issuing call before program ∧
          ReplacesCurrent upgradingEnvironment call (otherReset.2.locks true)
            (otherReset.2.sees true) (.updateUser verifiedAccount) ∧
          HeldSinceTaken (fun _ _ => True) twoAccounts
            (readForLogin.1 ++ otherReset.1) otherReset.2 true (.user 1)) ∧
      StoreRow.read (.user 1) (otherReset.2.sees true) =
        StoreRow.read (.user 1) otherReset.2.committed ∧
      StoreRow.read (.user 1) otherReset.2.committed =
        StoreRow.read (.user 1) readForLogin.2.committed := by
  have reads :
      Run (Step fun _ _ => True) (.quiescent twoAccounts) readForLogin.1
        readForLogin.2 :=
    run_obeyAll (by decide) (fun _ _ _ => trivial) _ _
  have resets :
      Run (Step fun _ _ => True) readForLogin.2 otherReset.1 otherReset.2 :=
    run_obeyAll (by decide) (fun _ _ _ => trivial) _ _
  have isOpen : ∀ event ∈ otherReset.1, ¬ event.Ends true := by
    have checked :
        otherReset.1.all (fun event => !event.ends true) = true :=
      rfl
    intro event member ends
    have unended := List.all_eq_true.mp checked event member
    rw [Event.ends_of_Ends ends] at unended
    cases unended
  have proceeds :
      ∃ next,
        otherReset.2.proceed [true, false] true =
          some (.issues true (.updateUser verifiedAccount), next) :=
    ⟨_, rfl⟩
  rcases proceeds with ⟨next, proceeds⟩
  rcases (no_lost_update (reads.append resets) true).1 _ _
      (step_of_proceed (by decide) proceeds) with
    ⟨call, before, program, issuing, replaces, held⟩
  have unwritten :=
    (no_lost_update (reads.append resets) true).2.1 (.user 1)
      (fun write member => by cases member)
  have unchanged :=
    (no_lost_update reads true).2.2 (.user 1) otherReset.1 otherReset.2
      ⟨forUpdateLock (.user 1), List.mem_cons_self, rfl, by decide⟩ resets
      isOpen
  have commits : otherReset.1[7]? = some (.commits false) := rfl
  exact ⟨List.mem_of_getElem? commits, rfl,
    ⟨call, before, program, issuing, replaces, held (.user 1) rfl⟩, unwritten,
    unchanged⟩

end EpokAuth
