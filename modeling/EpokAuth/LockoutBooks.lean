import EpokAuth.GuessingBound
import EpokAuth.PrincipalCheck

namespace EpokAuth

open Transactional

/-!
# The books of the lockout

The counter of an account and its lock are written together.  A lock is set
exactly while the counter stands at its maximum; a lapsed lock stays on the
row, with its counter, until the next counted failure starts again at one.
-/

/-- The counter of an account agrees with its lock. -/
structure Bookkept (settings : AuthSettings) (user : UserAccount) : Prop where
  bounded : user.failedLoginAttempts ≤ settings.loginMaxAttempts
  locked_iff :
    user.lockedUntil.isSome = true ↔
      user.failedLoginAttempts = settings.loginMaxAttempts

/-- The transactions that log an account in or authenticate it again. -/
def ServiceTx.Authenticates : ServiceTx → Prop
  | .login .. => True
  | .reauthenticatePassword .. => True
  | .emailLinkLogin .. => True
  | .finishAuthentication .. => True
  | .finishReauthentication .. => True
  | .googleLogin .. => True
  | .loginLinkedAfterConflict .. => True
  | _ => False

/-- A login or a reauthentication by password was answered with a failure. -/
inductive Executed.FailsPassword (before : Store) :
    Executed → UserAccount → Instant → Prop where
  | login
      {normalizedEmail password : String}
      {now : Instant}
      {context : RequestContext}
      {salt : Nat}
      {draws : SessionDraws}
      {failure : Failure}
      {user : UserAccount}
      (found :
        before.users.find? (fun user => user.email = normalizedEmail) =
          some user) :
      FailsPassword before
        { tx := .login normalizedEmail password now context salt draws
          answer := .ok (.error failure) }
        user now
  | reauthentication
      {principal : Principal}
      {password : String}
      {now : Instant}
      {context : RequestContext}
      {salt : Nat}
      {failure : Failure}
      {user : UserAccount}
      (account : before.users.get? principal.userId = some user) :
      FailsPassword before
        { tx := .reauthenticatePassword principal password now context salt
          answer := .ok (.error failure) }
        user now

/-- A failure met an account that might have been authenticated. -/
def failsAvailable
    (userId : Uuid)
    (_ : List Executed)
    (before : Store)
    (executed : Executed) :
    Prop :=
  ∃ user now,
    before.users.get? userId = some user ∧
      user.canAuthenticate now = true ∧
      executed.FailsPassword before user now

/--
The counter and the lock of every account agree; while a lock runs no login and
no reauthentication changes the account; and the first failure that an account
with a lapsed lock may count is counted as one.
-/
structure LockoutBooks (env : Environment) (store : Store) : Prop where
  agree :
    ∀ userId user, store.users.get? userId = some user →
      Bookkept env.settings user
  held :
    ∀ executed after userId user lockedUntil now,
      ServiceStep env store executed after →
      executed.tx.Authenticates →
      executed.tx.clock = some now →
      store.users.get? userId = some user →
      user.lockedUntil = some lockedUntil →
      now < lockedUntil →
      after.users.get? userId = some user
  restarts :
    ∀ userId locked lockedUntil labels finish executed after user now,
      store.users.get? userId = some locked →
      locked.lockedUntil = some lockedUntil →
      ServiceRun env store labels finish →
      ¬ Passes (ServiceStep env) store (failsAvailable userId) labels →
      ServiceStep env finish executed after →
      finish.users.get? userId = some user →
      executed.FailsPassword finish user now →
      lockedUntil ≤ now →
      user.status = .active →
      user.passwordLoginEnabled = true →
      ∃ later,
        after.users.get? userId = some later ∧
          later.failedLoginAttempts = 1 ∧ later.lockedUntil = none

/-! ## The counter and the lock agree -/

section Agreement

variable
  {settings : AuthSettings}
  {change : AccountChange}
  {user : UserAccount}
  {now : Instant}

/-- Only a failed verification raises the counter; others clear or keep it. -/
theorem AccountChange.apply_failedLoginAttempts :
    (change.apply settings now user).failedLoginAttempts =
      match change with
      | .fail => previousAttempts user now + 1
      | .verify _ => 0
      | .replace _ _ => 0
      | .autoLink _ => 0
      | .administer _ => user.failedLoginAttempts
      | .fence _ => user.failedLoginAttempts := by
  cases change with
  | fail =>
      exact afterPasswordFailure_failedLoginAttempts
  | verify verification =>
      rfl
  | replace reason passwordHash =>
      cases reason <;> rfl
  | autoLink passwordHash =>
      rfl
  | administer resolved =>
      simp only [apply, applyUpdate]
      split <;> rfl
  | fence clearsAutoLink =>
      rfl

/-- An account without failures and lock is kept well. -/
theorem bookkept_cleared
    (attempts : user.failedLoginAttempts = 0)
    (lock : user.lockedUntil = none) :
    Bookkept settings user := by
  have positive := settings.loginMaxAttemptsRange
  refine ⟨attempts ▸ Nat.zero_le _, ?_⟩
  rw [attempts, lock]
  constructor
  · intro impossible
    cases impossible
  · omega

/-- The books are read off the counter and the lock. -/
theorem Bookkept.congr
    {other : UserAccount}
    (kept : Bookkept settings user)
    (attempts : other.failedLoginAttempts = user.failedLoginAttempts)
    (lock : other.lockedUntil = user.lockedUntil) :
    Bookkept settings other :=
  ⟨attempts ▸ kept.bounded, attempts ▸ lock ▸ kept.locked_iff⟩

/-- An account that may authenticate has not yet counted the maximum. -/
theorem Bookkept.previousAttempts_lt
    (kept : Bookkept settings user)
    (available : user.canAuthenticate now = true) :
    previousAttempts user now < settings.loginMaxAttempts := by
  have positive := settings.loginMaxAttemptsRange
  rw [previousAttempts]
  cases lock : user.lockedUntil with
  | none =>
      have below : user.failedLoginAttempts ≠ settings.loginMaxAttempts := by
        intro full
        have locked := kept.locked_iff.mpr full
        rw [lock] at locked
        cases locked
      exact Nat.lt_of_le_of_ne kept.bounded below
  | some lockedUntil =>
      have lapsed : lockedUntil ≤ now :=
        (UserAccount.canAuthenticate_iff.mp available).2 lockedUntil lock
      simp only [if_pos lapsed]
      omega

/-- A counted failure keeps the books. -/
theorem Bookkept.afterPasswordFailure
    (kept : Bookkept settings user)
    (available : user.canAuthenticate now = true) :
    Bookkept settings (EpokAuth.afterPasswordFailure settings user now) := by
  have below := kept.previousAttempts_lt available
  constructor
  · rw [afterPasswordFailure_failedLoginAttempts]
    exact below
  · rw [afterPasswordFailure_failedLoginAttempts,
      afterPasswordFailure_lockedUntil, lockAfterFailure]
    split
    · rename_i full
      exact iff_of_true rfl (Nat.le_antisymm below full)
    · rename_i spare
      refine iff_of_false ?_ fun full => spare (Nat.le_of_eq full.symm)
      intro impossible
      cases impossible

/-- Every permitted change keeps the books. -/
theorem Bookkept.apply
    (kept : Bookkept settings user)
    (permitted : change.Permitted now user) :
    Bookkept settings (change.apply settings now user) := by
  have attempts :=
    @AccountChange.apply_failedLoginAttempts settings change user now
  have lock := @AccountChange.apply_lockedUntil settings change now user
  cases change with
  | fail =>
      exact kept.afterPasswordFailure permitted.2
  | verify verification =>
      exact bookkept_cleared attempts lock
  | replace reason passwordHash =>
      exact bookkept_cleared attempts lock
  | autoLink passwordHash =>
      exact bookkept_cleared attempts lock
  | administer resolved =>
      exact kept.congr attempts lock
  | fence clearsAutoLink =>
      exact kept.congr attempts lock

/-- Every account of the tables is kept well. -/
def AllBookkept (settings : AuthSettings) (core : Core) : Prop :=
  ∀ userId user, core.users.get? userId = some user → Bookkept settings user

/-- Every enabled move keeps the books of every account. -/
theorem AllBookkept.perform
    {core : Core}
    {move : Move}
    (kept : AllBookkept settings core)
    (enabled : move.Enabled settings core) :
    AllBookkept settings (move.perform settings core) := by
  intro userId user found
  have taken := Move.accountStep enabled userId
  rw [found] at taken
  generalize row : some user = after at taken
  cases taken with
  | kept =>
      exact kept userId user row.symm
  | enrolled absent new =>
      obtain rfl := Option.some.inj row
      exact bookkept_cleared new.2.1 new.2.2
  | changed foundBefore permitted =>
      obtain rfl := Option.some.inj row
      exact (kept userId _ foundBefore).apply permitted

/-- The books of every account are kept along every run. -/
theorem ServiceReachable.allBookkept
    {env : Environment}
    {store : Store}
    (reachable : ServiceReachable env store) :
    AllBookkept env.settings store.toCore := by
  rcases reachable with ⟨labels, run⟩
  refine ServiceRun.preserves_core run (AllBookkept env.settings)
    (fun move core enabled kept => kept.perform enabled) ?_
  intro userId user found
  cases found

end Agreement

/-! ## A running lock -/

section Running

variable
  {env : Environment}
  {store before after : Store}
  {executed : Executed}
  {userId : Uuid}
  {user : UserAccount}
  {lockedUntil now : Instant}

/-- Moves that the account does not permit leave its row alone. -/
theorem Performs.row_kept
    {settings : AuthSettings}
    {core later : Core}
    {moves : List Move}
    (performed : Performs settings core moves later)
    (found : core.users.get? userId = some user)
    (refused :
      ∀ change attachment at_,
        .account userId change attachment at_ ∈ moves →
          ¬ change.Permitted at_ user) :
    later.users.get? userId = some user := by
  refine performed.preserves
    (fun core => core.users.get? userId = some user) ?_ found
  intro move member state enabled stored
  have taken := Move.accountStep enabled userId
  generalize (move.perform settings state).users.get? userId = row at taken ⊢
  cases taken with
  | kept =>
      exact stored
  | enrolled absent _ =>
      rw [absent] at stored
      cases stored
  | @changed other change attachment at_ foundOther permitted =>
      obtain rfl := Option.some.inj (stored.symm.trans foundOther)
      exact absurd permitted (refused change attachment at_ member)

/-- Logging in with Google leaves an account alone that may not log in. -/
theorem wp_googleLogin_row_kept
    {claims : GoogleClaims}
    {context : RequestContext}
    {draws : GoogleLoginDraws}
    (fresh :
      ∀ id session, store.sessions.get? id = some session →
        session.familyId ≠ draws.session.familyId)
    (found : store.users.get? userId = some user)
    (closed : user.canAuthenticate now = false) :
    Tx.wp (googleLogin env.toDependencies claims now context draws)
      (fun _ later => later.users.get? userId = some user)
      (fun _ _ => True) store := by
  simp only [googleLogin, loginIdentity, Tx.wp_bind, Tx.wp_getExternalIdentity]
  cases linked :
      store.identities.find? fun identity =>
        identity.issuer = googleIssuer && identity.subject = claims.subject with
  | some identity =>
      refine wp_loginLinked_committed (Table.get?_of_find? linked).1 fresh
        found ?_
      intro bundle session updated later _ performs
      rw [Tx.wp_pure]
      refine performs.row_kept found fun change attachment at_ member => ?_
      simp [loginMoves] at member
  | none =>
      refine wp_loginUnlinked_committed fresh ⟨found, ?_, ?_⟩
      · intro bundle other passwordHash attachment rest later _ account spares
          performs
        rw [Tx.wp_pure]
        refine performs.row_kept found fun change linking at_ member => ?_
        rcases List.mem_cons.mp member with isLink | inRest
        · obtain ⟨rfl, rfl, _, rfl⟩ := Move.account.inj isLink
          rintro ⟨available, _⟩
          rw [closed] at available
          cases available
        · exact absurd inRest
            ((spares (.getUser userId)).not_account _ _ _ _)
      · intro bundle moves later _ spares performs
        rw [Tx.wp_pure]
        exact performs.row_kept found fun change attachment at_ member =>
          absurd member ((spares (.getUser userId)).not_account _ _ _ _)

/-- A transaction that authenticates leaves an account alone that may not. -/
theorem ServiceStep.row_kept_of_authenticates
    (step : ServiceStep env before executed after)
    (authenticates : executed.tx.Authenticates)
    (reads : executed.tx.clock = some now)
    (found : before.users.get? userId = some user)
    (closed : user.canAuthenticate now = false) :
    after.users.get? userId = some user := by
  have refused :
      ∀ change, Causes env.toDependencies before executed userId change →
        ¬ (change = .fail ∨ change.Verifies) := by
    intro change cause verifies
    rcases cause.available verifies with
      ⟨at_, other, readsToo, foundOther, available⟩
    obtain rfl := Option.some.inj (reads.symm.trans readsToo)
    obtain rfl := Option.some.inj (found.symm.trans foundOther)
    rw [closed] at available
    cases available
  have kept :
      (∀ change, Causes env.toDependencies before executed userId change →
        change = .fail ∨ change.Verifies) →
      after.users.get? userId = some user := by
    intro onlyPasswords
    rcases step.effect with ⟨moves, effect⟩
    refine effect.performs.row_kept found ?_
    intro change attachment at_ member _
    have cause := effect.attributed _ _ _ _ member
    exact refused change cause (onlyPasswords change cause)
  obtain ⟨tx, answer⟩ := executed
  cases tx with
  | login normalizedEmail password at_ context salt draws =>
      refine kept fun change cause => ?_
      cases cause with
      | loginFailed => exact .inl rfl
      | loggedIn => exact .inr trivial
  | reauthenticatePassword principal password at_ context salt =>
      refine kept fun change cause => ?_
      cases cause with
      | reauthenticationFailed => exact .inl rfl
      | reauthenticated => exact .inr trivial
  | emailLinkLogin =>
      refine kept fun change cause => ?_
      cases cause
  | finishAuthentication =>
      refine kept fun change cause => ?_
      cases cause
  | finishReauthentication =>
      refine kept fun change cause => ?_
      cases cause
  | googleLogin claims at_ context draws =>
      obtain rfl := Option.some.inj reads
      cases answer with
      | error failure =>
          rw [step.unchanged_of_error]
          exact found
      | ok answer =>
          exact step.of_wp
            (wp_googleLogin_row_kept (step.executes.2 draws.session rfl) found
              closed)
  | loginLinkedAfterConflict =>
      refine kept fun change cause => ?_
      cases cause
  | _ => cases authenticates

end Running

/-! ## The first failure after a lock -/

section Lapsed

variable
  {env : Environment}
  {store before after finish : Store}
  {executed : Executed}
  {labels : List Executed}
  {userId : Uuid}
  {user : UserAccount}
  {lockedUntil now : Instant}

/-- The lock is still in place, or it was lifted and nothing counted since. -/
def LockedOrCleared
    (userId : Uuid)
    (lockedUntil : Instant)
    (store : Store) :
    Prop :=
  ∃ user,
    store.users.get? userId = some user ∧
      (user.lockedUntil = some lockedUntil ∨
        (user.lockedUntil = none ∧ user.failedLoginAttempts = 0))

/-- The change neither counts a failure nor leaves one counted. -/
theorem AccountChange.lockedOrCleared
    {settings : AuthSettings}
    {change : AccountChange}
    (noFailure : change ≠ .fail)
    (state :
      user.lockedUntil = some lockedUntil ∨
        (user.lockedUntil = none ∧ user.failedLoginAttempts = 0)) :
    (change.apply settings now user).lockedUntil = some lockedUntil ∨
      ((change.apply settings now user).lockedUntil = none ∧
        (change.apply settings now user).failedLoginAttempts = 0) := by
  rw [AccountChange.apply_lockedUntil, AccountChange.apply_failedLoginAttempts]
  cases change with
  | fail => exact absurd rfl noFailure
  | verify verification => exact .inr ⟨rfl, rfl⟩
  | replace reason passwordHash => exact .inr ⟨rfl, rfl⟩
  | autoLink passwordHash => exact .inr ⟨rfl, rfl⟩
  | administer resolved => exact state
  | fence clearsAutoLink => exact state

/-- A counted failure is one that met an available account. -/
theorem Causes.failsAvailable
    (cause : Causes env.toDependencies before executed userId .fail) :
    failsAvailable userId labels before executed := by
  cases cause with
  | loginFailed found available wrong =>
      exact ⟨_, _, (Table.get?_of_find? found).1, available, .login found⟩
  | reauthenticationFailed account inForce wrong =>
      rcases inForce with ⟨other, _, accountToo, _, available, _⟩
      obtain rfl := Option.some.inj (account.symm.trans accountToo)
      exact ⟨_, _, account, available, .reauthentication account⟩

/-- Without failures a lock stays in place until it is lifted. -/
theorem ServiceStep.lockedOrCleared
    (step : ServiceStep env before executed after)
    (noFailure : ¬ failsAvailable userId labels before executed)
    (state : LockedOrCleared userId lockedUntil before) :
    LockedOrCleared userId lockedUntil after := by
  rcases step.effect with ⟨moves, effect⟩
  refine effect.performs.preserves
    (fun core =>
      ∃ user,
        core.users.get? userId = some user ∧
          (user.lockedUntil = some lockedUntil ∨
            (user.lockedUntil = none ∧ user.failedLoginAttempts = 0)))
    ?_ state
  rintro move member core enabled ⟨current, foundCurrent, state⟩
  have taken := Move.accountStep enabled userId
  generalize (move.perform env.settings core).users.get? userId = row
    at taken ⊢
  cases taken with
  | kept =>
      exact ⟨current, foundCurrent, state⟩
  | enrolled absent _ =>
      rw [absent] at foundCurrent
      cases foundCurrent
  | @changed other change attachment at_ foundOther permitted =>
      obtain rfl := Option.some.inj (foundCurrent.symm.trans foundOther)
      have cause := effect.attributed _ _ _ _ member
      refine ⟨_, rfl, AccountChange.lockedOrCleared ?_ state⟩
      rintro rfl
      exact noFailure cause.failsAvailable

/-- Along a run without failures a lock stays in place until it is lifted. -/
theorem ServiceRun.lockedOrCleared
    (run : ServiceRun env store labels finish)
    (noFailure :
      ¬ Passes (ServiceStep env) store (EpokAuth.failsAvailable userId) labels)
    (state : LockedOrCleared userId lockedUntil store) :
    LockedOrCleared userId lockedUntil finish := by
  refine run.accumulates
    (fun labels finish =>
      ¬ Passes (ServiceStep env) store (EpokAuth.failsAvailable userId)
          labels →
        LockedOrCleared userId lockedUntil finish)
    ?_ (fun _ => state) noFailure
  intro earlier before executed after run held step noFailure
  have noFailureNow :
      ¬ EpokAuth.failsAvailable userId earlier before executed :=
    fun failure => noFailure (.last run step failure)
  exact step.lockedOrCleared noFailureNow
    (held fun passed => noFailure (passed.append _))

/-- The right password for an available account is not answered so. -/
theorem wp_login_right
    {normalizedEmail password : String}
    {context : RequestContext}
    {salt : Nat}
    {draws : SessionDraws}
    (found :
      store.users.find? (fun user => user.email = normalizedEmail) =
        some user)
    (enabled : user.passwordLoginEnabled = true)
    (available : user.canAuthenticate now = true)
    (valid :
      (env.passwords.verifiedForLogin salt password
          (some user.passwordHash)).valid =
        true) :
    Tx.wp
      (login env.toDependencies normalizedEmail password now context salt
        draws)
      (fun answer _ => ∀ failure, answer ≠ .error failure) (fun _ _ => True)
      store := by
  simp only [login_eq, Tx.wp_bind, Tx.wp_getUserByEmail, found, Option.bind_some,
    enabled, ↓reduceIte, valid, available, Bool.not_true, Bool.or_false,
    Bool.false_eq_true]
  refine Tx.wp_of_forall (fun updated _ => ?_) (fun _ _ => trivial)
  rw [Tx.wp_bind]
  refine Tx.wp_of_forall (fun result _ => ?_) (fun _ _ => trivial)
  simp only [Tx.wp_bind, wp_recordSecurityEvent, Tx.wp_pure]
  intro failure impossible
  cases impossible

/-- The right password for a principal in force is not answered so. -/
theorem wp_reauthenticatePassword_right
    {principal : Principal}
    {password : String}
    {context : RequestContext}
    {salt : Nat}
    (account : store.users.get? principal.userId = some user)
    (enabled : user.passwordLoginEnabled = true)
    (valid :
      (env.passwords.verifiedForLogin salt password
          (some user.passwordHash)).valid =
        true) :
    Tx.wp
      (reauthenticatePassword env.toDependencies principal password now
        context salt)
      (fun answer _ => ∀ failure, answer ≠ .error failure) (fun _ _ => True)
      store := by
  simp only [reauthenticatePassword, Tx.wp_bind]
  refine wp_requirePrincipalUser principal now true _ ?_ trivial
  intro other session accountToo _ _ _
  obtain rfl := Option.some.inj (account.symm.trans accountToo)
  simp only [enabled, ↓reduceIte, valid, Bool.not_true, Bool.or_false,
    Bool.false_eq_true, Tx.wp_bind]
  refine Tx.wp_of_forall (fun updated _ => ?_) (fun _ _ => trivial)
  simp only [Tx.wp_bind, wp_recordSecurityEvent, Tx.wp_pure]
  intro failure impossible
  cases impossible

/-- A failure that meets an account open to its password is a wrong guess. -/
theorem ServiceStep.guessesWrong_of_fails
    (step : ServiceStep env before executed after)
    (fails : executed.FailsPassword before user now)
    (available : user.canAuthenticate now = true)
    (enabled : user.passwordLoginEnabled = true) :
    executed.GuessesWrong env.toDependencies before user.id now ∧
      ¬ executed.tx.IsPasswordChange := by
  cases fails with
  | @login normalizedEmail password _ context salt draws failure _ found =>
      refine ⟨.login found available ⟨enabled, ?_⟩, id⟩
      refine Bool.eq_false_iff.mpr fun valid => ?_
      exact step.of_wp (wp_login_right found enabled available valid) failure
        rfl
  | @reauthentication principal password _ context salt failure _ account =>
      have userKey : user.id = principal.userId := Table.key_of_get? account
      rw [userKey]
      refine ⟨.reauthentication account
        (step.of_wp wp_requirePrincipalUser_inForce) ⟨enabled, ?_⟩, id⟩
      refine Bool.eq_false_iff.mpr fun valid => ?_
      exact step.of_wp (wp_reauthenticatePassword_right account enabled valid)
        failure rfl

/-- A failure that finds no failure counted is the first one. -/
theorem lockAfterFailure_first
    {settings : AuthSettings}
    (none_ : previousAttempts user now = 0) :
    lockAfterFailure settings user now = none := by
  have attempts := settings.loginMaxAttemptsRange
  rw [lockAfterFailure, none_, if_neg]
  omega

/-- A lapsed or lifted lock leaves no failure to count on. -/
theorem LockedOrCleared.first_failure
    (state : LockedOrCleared userId lockedUntil finish)
    (found : finish.users.get? userId = some user)
    (lapsed : lockedUntil ≤ now)
    (active : user.status = .active) :
    previousAttempts user now = 0 ∧ user.canAuthenticate now = true := by
  rcases state with ⟨other, foundOther, locked | ⟨lifted, cleared⟩⟩
  · obtain rfl := Option.some.inj (found.symm.trans foundOther)
    refine ⟨?_, UserAccount.canAuthenticate_iff.mpr ⟨active, ?_⟩⟩
    · simp only [previousAttempts, locked, if_pos lapsed]
    · intro other isLock
      obtain rfl := Option.some.inj (locked.symm.trans isLock)
      exact lapsed
  · obtain rfl := Option.some.inj (found.symm.trans foundOther)
    refine ⟨?_, UserAccount.canAuthenticate_iff.mpr ⟨active, ?_⟩⟩
    · simp only [previousAttempts, lifted, cleared]
    · intro other isLock
      rw [lifted] at isLock
      cases isLock

/-- The first failure after a lock has lapsed is counted as one. -/
theorem ServiceStep.restarts
    (step : ServiceStep env finish executed after)
    (state : LockedOrCleared userId lockedUntil finish)
    (found : finish.users.get? userId = some user)
    (fails : executed.FailsPassword finish user now)
    (lapsed : lockedUntil ≤ now)
    (active : user.status = .active)
    (enabled : user.passwordLoginEnabled = true) :
    ∃ later,
      after.users.get? userId = some later ∧
        later.failedLoginAttempts = 1 ∧ later.lockedUntil = none := by
  have first := state.first_failure found lapsed active
  have userKey : user.id = userId := Table.key_of_get? found
  have guess := step.guessesWrong_of_fails fails first.2 enabled
  rcases step.countedGuess guess.1 guess.2 with ⟨other, counted⟩
  rw [userKey] at counted
  obtain rfl := Option.some.inj (found.symm.trans counted.found)
  refine ⟨_, counted.counted, ?_, ?_⟩
  · rw [afterPasswordFailure_failedLoginAttempts, first.1]
  · rw [afterPasswordFailure_lockedUntil, lockAfterFailure_first first.1]

end Lapsed

/-- In every reachable store the books of the lockout are in order. -/
theorem lockout_books
    {env : Environment}
    {store : Store}
    (reachable : ServiceReachable env store) :
    LockoutBooks env store where
  agree := reachable.allBookkept
  held := by
    intro executed after userId user lockedUntil now step authenticates reads
      found lock running
    exact step.row_kept_of_authenticates authenticates reads found
      (LockedUntil.unavailable ⟨user, found, lock⟩ found running)
  restarts := by
    intro userId locked lockedUntil labels finish executed after user now
      foundLocked lock run noFailure step found fails lapsed active enabled
    have state : LockedOrCleared userId lockedUntil store :=
      ⟨locked, foundLocked, .inl lock⟩
    exact step.restarts (run.lockedOrCleared noFailure state) found fails
      lapsed active enabled

/-- An account that five wrong passwords lock. -/
def lockedByFailures : List ServiceTx :=
  loggedIn ++ List.replicate 5 (wrongLogin 20).tx

/-- The books are in order in a store with a locked account. -/
theorem lockout_books_lockedByFailures :
    LockoutBooks policyEnvironment
      (executeAll policyEnvironment lockedByFailures {}).2 :=
  lockout_books (reachable_executeAll (by decide))

/-- The store in which the locked account has been disabled as well. -/
def disabledWhileLocked : Store :=
  (executeAll policyEnvironment
    (lockedByFailures ++ [.updateUser 1 { status := some .disabled } 30 {}])
    {}).2

/-- A failed login leaves the lapsed lock of a disabled account in place. -/
theorem lockout_not_restarted :
    ¬ ∀ (env : Environment) (store : Store),
        ServiceReachable env store →
        ∀ userId locked lockedUntil labels finish executed after user now,
          store.users.get? userId = some locked →
          locked.lockedUntil = some lockedUntil →
          ServiceRun env store labels finish →
          ¬ Passes (ServiceStep env) store (failsAvailable userId) labels →
          ServiceStep env finish executed after →
          finish.users.get? userId = some user →
          executed.FailsPassword finish user now →
          lockedUntil ≤ now →
          ∃ later,
            after.users.get? userId = some later ∧
              later.failedLoginAttempts = 1 ∧ later.lockedUntil = none := by
  intro restarts
  have step :
      ServiceStep policyEnvironment disabledWhileLocked
        (wrongLogin 900000020) _ :=
    .completed (wrongLogin 900000020).tx
      (ServiceTx.fresh_of_isFresh (by decide))
  have nothing :
      ¬ Passes (ServiceStep policyEnvironment) disabledWhileLocked
        (failsAvailable 1) [] := by
    rintro ⟨earlier, _, _, _, _, split, _⟩
    cases earlier <;> cases split
  rcases restarts policyEnvironment disabledWhileLocked
      (reachable_executeAll (by decide)) 1 _ 900000020 [] disabledWhileLocked _
      _ _ 900000020 rfl rfl (.nil _) nothing step rfl (.login rfl)
      (Int.le_refl _) with
    ⟨later, found, attempts, _⟩
  have counted :
      ((wrongLogin 900000020).tx.execute policyEnvironment
          disabledWhileLocked).2.users.get? 1 = some later →
        later.failedLoginAttempts ≠ 1 := by
    intro found
    obtain rfl := Option.some.inj found
    decide
  exact counted found attempts

end EpokAuth
