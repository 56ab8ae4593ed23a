import EpokAuth.AccountRun
import EpokAuth.ScriptedRun
import EpokAuth.ScriptedSchedule

namespace EpokAuth

open Transactional

/-!
# An active administrator remains

No statement takes the last active administrator away: one that takes an
administrator away sees another one, and is issued under the advisory lock.
Two clients cannot do so at once, so commits do not do it together either.  An
update that is refused has written nothing.
-/

/-- Some active account holds the administrator role. -/
def HasActiveAdmin (settings : AuthSettings) (store : Store) : Prop :=
  ∃ userId user,
    store.users.get? userId = some user ∧ user.IsActiveAdmin settings

section Kept

variable
  {env : Environment}
  {call : ServiceTx}
  {standing : ServiceStanding}
  {view : Store}

/-- Writes of other tables keep the administrators. -/
theorem HasActiveAdmin.of_elsewhere
    {settings : AuthSettings}
    {write : Write}
    (some : HasActiveAdmin settings view)
    (elsewhere : ∀ user, write ≠ .putUser user) :
    HasActiveAdmin settings (Store.apply write view) := by
  have sameUsers : (Store.apply write view).users = view.users := by
    cases write with
    | putUser user => exact absurd rfl (elsewhere user)
    | _ => rfl
  rw [HasActiveAdmin, sameUsers]
  exact some

/-- The one row that a permitted statement writes leaves an administrator. -/
theorem HasActiveAdmin.of_mayWrite
    {statement : Statement}
    {write : Write}
    (exists_ : HasActiveAdmin env.settings standing.view)
    (permitted : accountPermits env call standing statement)
    (may : statement.MayWrite standing.view write) :
    HasActiveAdmin env.settings (Store.apply write standing.view) := by
  rcases exists_ with ⟨adminId, admin, stored, active⟩
  have adminKey : admin.id = adminId := Table.key_of_get? stored
  -- An account row that is put keeps the administrator or names another one.
  have puts :
      ∀ updated : UserAccount,
        (∀ user, standing.view.users.get? updated.id = some user →
          user.IsActiveAdmin env.settings →
            updated.IsActiveAdmin env.settings ∨
              OtherAdmin env.settings updated.id standing.view) →
        HasActiveAdmin env.settings
          (Store.apply (.putUser updated) standing.view) := by
    intro updated leaves
    by_cases isAdmin : adminId = updated.id
    · rw [isAdmin] at stored
      rcases leaves admin stored active with still | other
      · exact ⟨updated.id, updated, Table.get?_put_self _ _, still⟩
      · rcases other with ⟨another, different, storedToo, activeToo⟩
        exact ⟨another.id, another,
          (Table.get?_put_of_ne _ different).trans storedToo, activeToo⟩
    · exact ⟨adminId, admin,
        (Table.get?_put_of_ne _ isAdmin).trans stored, active⟩
  have stays : HasActiveAdmin env.settings standing.view :=
    ⟨adminId, admin, stored, active⟩
  cases statement with
  | insertUser user =>
      obtain ⟨rfl, absent⟩ := may
      refine puts user ?_
      intro existing found
      rw [absent] at found
      cases found
  | updateUser user =>
      obtain ⟨rfl, _⟩ := may
      refine puts user ?_
      intro existing found active
      rcases permitted.2 existing found active with still | ⟨_, other⟩
      · exact .inl still
      · exact .inr other
  | insertSession session =>
      obtain ⟨rfl, _⟩ := may
      exact stays.of_elsewhere fun _ same => nomatch same
  | updateSession session =>
      obtain ⟨rfl, _⟩ := may
      exact stays.of_elsewhere fun _ same => nomatch same
  | revokeFamily familyId revokedAt =>
      obtain ⟨_, _, _, rfl⟩ := may
      exact stays.of_elsewhere fun _ same => nomatch same
  | revokeUserSessions userId revokedAt =>
      obtain ⟨_, _, _, rfl⟩ := may
      exact stays.of_elsewhere fun _ same => nomatch same
  | _ => exact stays.of_elsewhere may.1

/-- A sweep writes no account. -/
theorem not_putUser_of_sweep
    {statement : Statement}
    {write : Write}
    {targets : Store → List Uuid}
    {lock : Uuid → Lock Resource}
    {touch : Uuid → Store → List Write}
    {answer : Nat → Answer statement}
    (executes : Store.execution statement = .sweep targets lock touch answer)
    (may : statement.MayWrite view write) :
    ∀ user, write ≠ .putUser user := by
  cases statement with
  | revokeFamily familyId revokedAt =>
      obtain ⟨_, _, _, rfl⟩ := may
      exact fun _ same => nomatch same
  | revokeUserSessions userId revokedAt =>
      obtain ⟨_, _, _, rfl⟩ := may
      exact fun _ same => nomatch same
  | insertUser user => cases executes
  | updateUser user => cases executes
  | insertSession session => cases executes
  | updateSession session => cases executes
  | _ => exact may.1

/--
Permitted statements leave an administrator, and so does merging: one of the
merged sides spared the administrators of the state both started from.
-/
theorem hasActiveAdmin_kept :
    KeptByAccounts env (HasActiveAdmin env.settings) where
  point := by
    intro call standing statement locks effect _ executes permitted _ exists_
    have writes := Store.execution_writes statement
    have isPoint : Store.execution statement = .point locks effect := executes
    rw [isPoint] at writes
    exact (writes standing.view).apply_cases exists_
      fun write may => exists_.of_mayWrite permitted may
  visit := by
    intro call standing gained statement targets lock touch answer target view
      executes _ _ exists_ _
    have writes := Store.execution_writes statement
    have isSweep :
        Store.execution statement = .sweep targets lock touch answer :=
      executes
    rw [isSweep] at writes
    exact (writes target view).apply_cases exists_
      fun write may => exists_.of_elsewhere (not_putUser_of_sweep isSweep may)
  merge := by
    intro base first second merged merges _ firstHas secondHas
    -- The administrator of one side remains when the other side spares.
    have remains :
        ∀ {one another : Store},
          (accountProtection env).Spared .adminInvariant base another →
          (∀ row : StoreRow,
            (row.read another = row.read base ∧
                row.read merged = row.read one) ∨
              (row.read one = row.read base ∧
                row.read merged = row.read another)) →
          HasActiveAdmin env.settings one →
          HasActiveAdmin env.settings merged := by
      rintro one another spared rows ⟨userId, user, stored, active⟩
      rcases rows (.user userId) with ⟨_, taken⟩ | ⟨same, kept⟩
      · exact ⟨userId, user, taken.trans stored, active⟩
      · have inBase : base.users.get? userId = some user :=
          same.symm.trans stored
        have sparedRow :
            AdminSpared env.settings (base.users.get? userId)
              (another.users.get? userId) :=
          RowRules.spares_of_spared spared (.user userId)
        rcases sparedRow user inBase active with
          ⟨still, storedStill, stillActive⟩
        exact ⟨userId, still, kept.trans storedStill, stillActive⟩
    have rows := RowRules.read_of_merges merges
    rcases merges.spared .adminInvariant with spared | spared
    · exact remains spared (fun row => rows row) secondHas
    · exact remains spared (fun row => (rows row).symm) firstHas

end Kept

section Runs

variable
  {Client : Type}
  [DecidableEq Client]
  {env : Environment}
  {pool : Client → ServiceTx → Prop}
  {committed : Store}
  {config : Config Client (services env)}
  {labels : List (Event Client (services env))}

/-- An update of an account that raises has written nothing in its call. -/
theorem unwritten_of_raised
    {client : Client}
    {userId : Uuid}
    {update : UserUpdate}
    {now : Instant}
    {context : RequestContext}
    {failure : Failure}
    {before : List Write}
    {next : Config Client (services env)}
    (run : Run (Step pool) (.quiescent committed) labels config)
    (isBefore : (config.phases client).before? = some before)
    (step :
      Step pool config
        (.returns client (.updateUser userId update now context)
          (.error failure))
        next) :
    next.writes client = before := by
  have holds := account_holds kept_trivially trivial run
  cases step with
  | raised issuing =>
      rw [issuing] at isBefore
      obtain rfl := Option.some.inj isBefore
      have stands := holds.stands_in issuing
      cases stands with
      | @issuing _ _ issued _ _ written _ keeps =>
          have nothing : issued = [] := keeps
          change config.writes client = _
          rw [written, nothing, List.append_nil]

/--
In every interleaving of the services, from a state with an active
administrator, every committed state has one; and an update that is refused
for it leaves its transaction as it was when the update was called.
-/
theorem active_admin_remains
    (established : HasActiveAdmin env.settings committed)
    (run : Run (Step pool) (.quiescent committed) labels config) :
    HasActiveAdmin env.settings config.committed ∧
      ∀ client userId update now context entered more raised next,
        Step pool config
          (.calls client (.updateUser userId update now context)) entered →
        Run (Step pool) entered more raised →
        (∀ event ∈ more, ¬ event.Leaves client) →
        Step pool raised
          (.returns client (.updateUser userId update now context)
            (.error lastAdminRequired))
          next →
        next.writes client = config.writes client := by
  refine ⟨(account_holds hasActiveAdmin_kept established
    run).invariant.committed, ?_⟩
  intro client userId update now context entered more raised next called
    goesOn stays step
  have isBefore :
      (entered.phases client).before? = some (config.writes client) := by
    cases called with
    | calls idle allowed =>
        rw [Config.phases_enter_self]
        rfl
  exact unwritten_of_raised (run.append (.cons called goesOn))
    (before_of_run goesOn stays isBefore) step

end Runs

/-! ## Two administrators -/

/-- An active administrator. -/
def activeAdmin (userId : Uuid) (email : String) : UserAccount where
  id := userId
  email := email
  displayName := "Admin"
  passwordHash := "secret"
  roles := [referenceEnvironment.settings.adminRole]

/-- Two active administrators. -/
def twoAdmins : Store :=
  { users :=
      (Table.empty.put (activeAdmin 1 "first@example.test")).put
        (activeAdmin 2 "second@example.test") }

/-- The update that disables an account. -/
def disabling (userId : Uuid) (now : Instant) : ServiceTx :=
  .updateUser userId { status := some .disabled } now {}

/-- Execute a script in which the two clients call what they like. -/
def obeyAdmins
    (script : List (Command Bool ServiceTx))
    (config : Config Bool (services referenceEnvironment)) :
    List (Event Bool (services referenceEnvironment)) ×
      Config Bool (services referenceEnvironment) :=
  obeyAll [true, false] (fun _ _ => true) script config

theorem run_obeyAdmins
    (script : List (Command Bool ServiceTx))
    (config : Config Bool (services referenceEnvironment)) :
    Run (Step fun _ _ => True) config (obeyAdmins script config).1
      (obeyAdmins script config).2 :=
  run_obeyAll (by decide) (fun _ _ _ => trivial) script config

/-- One administrator is being disabled. -/
def firstLocked : Config Bool (services referenceEnvironment) :=
  (obeyAdmins [.call true (disabling 1 10), .proceed true]
    (.quiescent twoAdmins)).2

/-- The other one is to be disabled, too. -/
def secondCalled : Config Bool (services referenceEnvironment) :=
  (obeyAdmins [.call false (disabling 2 20)] firstLocked).2

/-- The first update is committed, and the second one is about to be answered. -/
def firstCommitted :
    List (Event Bool (services referenceEnvironment)) ×
      Config Bool (services referenceEnvironment) :=
  obeyAdmins
    (List.replicate 7 (.proceed true) ++ [.commit true] ++
      List.replicate 3 (.proceed false))
    secondCalled

/-- The answer to the second update. -/
def secondRefused :
    List (Event Bool (services referenceEnvironment)) ×
      Config Bool (services referenceEnvironment) :=
  obeyAdmins [.proceed false] firstCommitted.2

/--
Of two administrators that are disabled at once, one is disabled; the other one
stays, and its update is refused and has written nothing.
-/
theorem active_admin_remains_disabling :
    .commits true ∈ firstCommitted.1 ∧
      ((secondRefused.2.committed.users.get? 1).map UserAccount.status =
        some .disabled) ∧
      secondRefused.1 =
        [.returns false (disabling 2 20) (.error lastAdminRequired)] ∧
      HasActiveAdmin referenceEnvironment.settings
        secondRefused.2.committed ∧
      secondRefused.2.writes false = [] := by
  have established :
      HasActiveAdmin referenceEnvironment.settings twoAdmins :=
    ⟨1, activeAdmin 1 "first@example.test", by decide, by decide⟩
  have before :
      Run (Step fun _ _ => True) (.quiescent twoAdmins) _ firstLocked :=
    run_obeyAdmins _ _
  have called :
      Step (fun _ _ => True) firstLocked (.calls false (disabling 2 20))
        secondCalled :=
    .calls rfl trivial
  have goesOn :
      Run (Step fun _ _ => True) secondCalled firstCommitted.1
        firstCommitted.2 :=
    run_obeyAdmins _ _
  have stays : ∀ event ∈ firstCommitted.1, ¬ event.Leaves false := by
    have checked :
        firstCommitted.1.all (fun event => !event.leaves false) = true :=
      rfl
    intro event member leaves
    have unended := List.all_eq_true.mp checked event member
    rw [Event.leaves_of_Leaves leaves] at unended
    cases unended
  have refuses :
      Step (fun _ _ => True) firstCommitted.2
        (.returns false (disabling 2 20) (.error lastAdminRequired))
        secondRefused.2 :=
    .raised rfl
  have remains :=
    active_admin_remains established
      (before.append (.cons called (goesOn.append (.single refuses))))
  have unwritten :=
    (active_admin_remains established before).2 false 2 _ 20 {} secondCalled _
      firstCommitted.2 secondRefused.2 called goesOn stays refuses
  have commits : firstCommitted.1[7]? = some (.commits true) := rfl
  exact ⟨List.mem_of_getElem? commits, rfl, rfl, remains.1, unwritten⟩

end EpokAuth
