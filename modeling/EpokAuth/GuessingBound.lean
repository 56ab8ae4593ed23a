import EpokAuth.PasswordGuess
import EpokAuth.ScriptedRun

namespace EpokAuth

open Transactional

/-!
# The rate of wrong passwords

A run is read together with the times of its wrong passwords.  While all of
them are counted, the maximum of consecutive ones locks the account, a locked
account refuses every password alike, and each further round of guesses waits
for the lock of the one before it.
-/

/-- A run with the times of the wrong passwords it presents for an account. -/
inductive Guessing
    (env : Environment)
    (userId : Uuid)
    (start : Store) :
    List Executed → List Instant → Store → Prop where
  | nil : Guessing env userId start [] [] start
  | guess
      {labels : List Executed}
      {times : List Instant}
      {before after : Store}
      {executed : Executed}
      {now : Instant} :
      Guessing env userId start labels times before →
      ServiceStep env before executed after →
      executed.GuessesWrong env.toDependencies before userId now →
      Guessing env userId start (labels ++ [executed]) (times ++ [now]) after
  | other
      {labels : List Executed}
      {times : List Instant}
      {before after : Store}
      {executed : Executed} :
      Guessing env userId start labels times before →
      ServiceStep env before executed after →
      (∀ now,
        ¬ executed.GuessesWrong env.toDependencies before userId now) →
      Guessing env userId start (labels ++ [executed]) times after

/-- The clock readings of a run, in order. -/
def clocks (labels : List Executed) : List Instant :=
  labels.filterMap fun executed => executed.tx.clock

/-- Later transactions read later clocks. -/
def Chronological (labels : List Executed) : Prop :=
  (clocks labels).Pairwise (· ≤ ·)

instance (labels : List Executed) : Decidable (Chronological labels) :=
  inferInstanceAs (Decidable ((clocks labels).Pairwise (· ≤ ·)))

section Events

variable
  (env : Environment)
  (userId : Uuid)

/-- A step verifies or replaces the password of the account. -/
def resets (_ : List Executed) (before : Store) (executed : Executed) : Prop :=
  executed.Resets env.toDependencies before userId

/-- A step presents a wrong password for the account. -/
def guesses (_ : List Executed) (before : Store) (executed : Executed) : Prop :=
  ∃ now, executed.GuessesWrong env.toDependencies before userId now

/-- A step presents a wrong current password to change it. -/
def guessesByChange
    (earlier : List Executed)
    (before : Store)
    (executed : Executed) :
    Prop :=
  guesses env userId earlier before executed ∧ executed.tx.IsPasswordChange

/-- A guess, and not the first one, finds a lock that has lapsed. -/
def findsLapsedLock
    (start : Store)
    (earlier : List Executed)
    (before : Store)
    (executed : Executed) :
    Prop :=
  guesses env userId earlier before executed ∧
    Passes (ServiceStep env) start (guesses env userId) earlier ∧
    ∃ user,
      before.users.get? userId = some user ∧ user.lockedUntil ≠ none

/-- A step replaces the password of the account. -/
def replacesPassword
    (_ : List Executed)
    (before : Store)
    (executed : Executed) :
    Prop :=
  executed.Replaces env.toDependencies before userId

end Events

/-! ## Locked accounts -/

/-- A transaction presents some password for an account. -/
inductive ServiceTx.Attempts (store : Store) :
    ServiceTx → Uuid → Instant → Prop where
  | login
      {normalizedEmail password : String}
      {now : Instant}
      {context : RequestContext}
      {salt : Nat}
      {draws : SessionDraws}
      {user : UserAccount}
      (found :
        store.users.find? (fun user => user.email = normalizedEmail) =
          some user) :
      Attempts store (.login normalizedEmail password now context salt draws)
        user.id now
  | reauthentication
      {principal : Principal}
      {password : String}
      {now : Instant}
      {context : RequestContext}
      {salt : Nat} :
      Attempts store
        (.reauthenticatePassword principal password now context salt)
        principal.userId now
  | change
      {principal : Principal}
      {currentPassword newPassword : String}
      {now : Instant}
      {context : RequestContext}
      {salts : ChangePasswordSalts}
      {draws : SessionDraws} :
      Attempts store
        (.changePassword principal currentPassword newPassword now context
          salts draws)
        principal.userId now

/-- The answers that tell nothing of the stored hash. -/
inductive Executed.Refused : Executed → Prop where
  | login
      {normalizedEmail password : String}
      {now : Instant}
      {context : RequestContext}
      {salt : Nat}
      {draws : SessionDraws} :
      Refused
        { tx := .login normalizedEmail password now context salt draws
          answer := .ok (.error (.auth invalidCredentials)) }
  | reauthentication
      {principal : Principal}
      {password : String}
      {now : Instant}
      {context : RequestContext}
      {salt : Nat} :
      Refused
        { tx := .reauthenticatePassword principal password now context salt
          answer := .error (.auth invalidSession) }
  | change
      {principal : Principal}
      {currentPassword newPassword : String}
      {now : Instant}
      {context : RequestContext}
      {salts : ChangePasswordSalts}
      {draws : SessionDraws} :
      Refused
        { tx :=
            .changePassword principal currentPassword newPassword now context
              salts draws
          answer := .error (.auth invalidSession) }

/-- The account has a lock. -/
def LockedUntil (store : Store) (userId : Uuid) (lockedUntil : Instant) :
    Prop :=
  ∃ user,
    store.users.get? userId = some user ∧
      user.lockedUntil = some lockedUntil

/--
The account is locked and has no live session; until the lock has passed or the
password is replaced, every password is refused alike, whatever else happens.
-/
structure LockedOut
    (env : Environment)
    (userId : Uuid)
    (lockedUntil : Instant)
    (store : Store) :
    Prop where
  locked : LockedUntil store userId lockedUntil
  ended :
    ∀ id session, store.sessions.get? id = some session →
      session.userId = userId → session.revokedAt ≠ none
  refused :
    ∀ labels later, ServiceRun env store labels later →
      (∀ now ∈ clocks labels, now < lockedUntil) →
      ¬ Passes (ServiceStep env) store (replacesPassword env userId) labels →
      ∀ tx now, tx.Attempts later userId now → now < lockedUntil →
        Executed.Refused { tx := tx, answer := (tx.execute env later).1 }

/-- Each further round of guesses is later than the one before by a lock. -/
def Spaced (settings : AuthSettings) (times : List Instant) : Prop :=
  ∀ first index now, times[0]? = some first → times[index]? = some now →
    first +
        (index / settings.loginMaxAttempts : Nat) *
          seconds settings.lockoutSeconds ≤
      now

/--
The wrong passwords of a run are spaced by the locks they bring, and a next one
that is the last of the permitted ones locks the account.
-/
structure BoundedGuessing
    (env : Environment)
    (userId : Uuid)
    (start : Store)
    (labels : List Executed)
    (times : List Instant)
    (finish : Store) :
    Prop where
  spaced : Spaced env.settings times
  locks :
    ∀ executed after now, ServiceStep env finish executed after →
      executed.GuessesWrong env.toDependencies finish userId now →
      ¬ executed.tx.IsPasswordChange →
      times.length + 1 = env.settings.loginMaxAttempts →
      ¬ Passes (ServiceStep env) start (findsLapsedLock env userId start)
        (labels ++ [executed]) →
      LockedOut env userId (now + seconds env.settings.lockoutSeconds) after

/-! ## What a lock does -/

section Locked

variable
  {env : Environment}
  {store later : Store}
  {userId : Uuid}
  {lockedUntil now : Instant}
  {labels : List Executed}

/-- An account with a lock may not authenticate before its end. -/
theorem LockedUntil.unavailable
    {user : UserAccount}
    (locked : LockedUntil store userId lockedUntil)
    (found : store.users.get? userId = some user)
    (early : now < lockedUntil) :
    user.canAuthenticate now = false := by
  rcases locked with ⟨row, foundRow, lock⟩
  obtain rfl := Option.some.inj (found.symm.trans foundRow)
  refine Bool.eq_false_iff.mpr fun available => ?_
  have ended : lockedUntil ≤ now :=
    (UserAccount.canAuthenticate_iff.mp available).2 lockedUntil lock
  exact absurd early (Int.not_lt.mpr ended)

/-- A principal of a locked account is not in force. -/
theorem LockedUntil.wp_requirePrincipalUser
    {principal : Principal}
    {next : UserAccount → Tx α}
    {normal : α → Store → Prop}
    {failed : Failure → Store → Prop}
    (locked : LockedUntil store principal.userId lockedUntil)
    (early : now < lockedUntil)
    (refused : failed (.auth invalidSession) store) :
    Tx.wp (requirePrincipalUser principal now true >>= next) normal failed
      store := by
  rw [Tx.wp_bind]
  refine EpokAuth.wp_requirePrincipalUser principal now true _ ?_ refused
  intro user session account _ available _
  rw [locked.unavailable account early] at available
  cases available

/-- A locked account refuses every password alike. -/
theorem LockedUntil.refused
    {tx : ServiceTx}
    (locked : LockedUntil store userId lockedUntil)
    (attempts : tx.Attempts store userId now)
    (early : now < lockedUntil) :
    Executed.Refused { tx := tx, answer := (tx.execute env store).1 } := by
  refine @ServiceTx.answer_of_wp env store tx
    (fun answer => Executed.Refused { tx := tx, answer := answer }) ?_
  cases attempts with
  | login found =>
      have account := (Table.get?_of_find? found).1
      simp only [ServiceTx.body, login_eq, recordPasswordFailure,
        countPasswordFailure, Tx.wp_bind, Tx.wp_getUserByEmail, found,
        locked.unavailable account early, Bool.not_false, Bool.or_true,
        Bool.true_or, Bool.and_false, Bool.false_eq_true, ↓reduceIte,
        Option.elim_some, Tx.wp_pure, wp_recordSecurityEvent]
      exact .login
  | reauthentication =>
      exact locked.wp_requirePrincipalUser early .reauthentication
  | change =>
      exact locked.wp_requirePrincipalUser early .change

/-- A failure or a verification finds the account available. -/
theorem Causes.available
    {deps : Dependencies}
    {executed : Executed}
    {change : AccountChange}
    (cause : Causes deps store executed userId change)
    (verifies : change = .fail ∨ change.Verifies) :
    ∃ now user,
      executed.tx.clock = some now ∧
        store.users.get? userId = some user ∧
        user.canAuthenticate now = true := by
  cases cause with
  | loginFailed found available _ =>
      exact ⟨_, _, rfl, (Table.get?_of_find? found).1, available⟩
  | reauthenticationFailed _ inForce _ =>
      rcases inForce with ⟨user, _, account, _, available, _⟩
      exact ⟨_, user, rfl, account, available⟩
  | loggedIn account available =>
      exact ⟨_, _, rfl, account, available⟩
  | reauthenticated account available =>
      exact ⟨_, _, rfl, account, available⟩
  | _ =>
      rcases verifies with impossible | impossible <;> cases impossible

/-- A lock stays in place until it ends or the password is replaced. -/
theorem ServiceStep.keepsLock
    {executed : Executed}
    (step : ServiceStep env store executed later)
    (early : ∀ now, executed.tx.clock = some now → now < lockedUntil)
    (keeps : ¬ executed.Replaces env.toDependencies store userId)
    (locked : LockedUntil store userId lockedUntil) :
    LockedUntil later userId lockedUntil := by
  have closed :
      ∀ change, Causes env.toDependencies store executed userId change →
        ¬ (change = .fail ∨ change.Verifies) := by
    intro change cause verifies
    rcases cause.available verifies with ⟨now, user, reads, found, available⟩
    rw [locked.unavailable found (early now reads)] at available
    cases available
  rcases locked with ⟨user, found, lock⟩
  have kept :=
    step.counters_kept (fun cause => closed _ cause (.inl rfl))
      (fun ⟨change, cause, resets⟩ =>
        resets.elim (fun verifies => closed _ cause (.inr verifies))
          fun replaces => keeps ⟨change, cause, replaces⟩)
      found
  rcases kept with ⟨after, foundAfter, _, sameLock⟩
  exact ⟨after, foundAfter, sameLock.trans lock⟩

/-- A lock stays in place along a run that it outlasts. -/
theorem ServiceRun.keepsLock
    (run : ServiceRun env store labels later)
    (early : ∀ now ∈ clocks labels, now < lockedUntil)
    (keeps :
      ¬ Passes (ServiceStep env) store (replacesPassword env userId) labels)
    (locked : LockedUntil store userId lockedUntil) :
    LockedUntil later userId lockedUntil := by
  refine run.accumulates
    (fun labels later =>
      (∀ now ∈ clocks labels, now < lockedUntil) →
        ¬ Passes (ServiceStep env) store (replacesPassword env userId)
          labels →
        LockedUntil later userId lockedUntil)
    ?_ (fun _ _ => locked) early keeps
  intro earlier before executed after run held step early keeps
  have lockedBefore : LockedUntil before userId lockedUntil :=
    held
      (fun now reads =>
        early now (by
          rw [clocks, List.filterMap_append]
          exact List.mem_append_left _ reads))
      (fun passed => keeps (passed.append _))
  refine step.keepsLock ?_ ?_ lockedBefore
  · intro now reads
    refine early now ?_
    rw [clocks, List.filterMap_append]
    exact List.mem_append_right _ (by simp [reads])
  · intro replaces
    exact keeps (.last run step replaces)

/-- An account that was just locked is locked out. -/
theorem LockedUntil.lockedOut
    (locked : LockedUntil store userId lockedUntil)
    (ended :
      ∀ id session, store.sessions.get? id = some session →
        session.userId = userId → session.revokedAt ≠ none) :
    LockedOut env userId lockedUntil store where
  locked := locked
  ended := ended
  refused := fun _ _ run early keeps _ _ attempts inTime =>
    (ServiceRun.keepsLock run early keeps locked).refused attempts inTime

end Locked

/-! ## Runs of guesses -/

section Guesses

variable
  {env : Environment}
  {userId : Uuid}
  {start before finish after : Store}
  {labels : List Executed}
  {times : List Instant}
  {executed : Executed}
  {now : Instant}

/-- A guess is timed once. -/
theorem Executed.GuessesWrong.unique
    {deps : Dependencies}
    {other : Instant}
    (wrong : executed.GuessesWrong deps before userId now)
    (again : executed.GuessesWrong deps before userId other) :
    now = other :=
  Option.some.inj (wrong.clock.symm.trans again.clock)

namespace Guessing

/-- Reading the guesses off a run leaves the run. -/
theorem run
    (guessing : Guessing env userId start labels times finish) :
    ServiceRun env start labels finish := by
  induction guessing with
  | nil =>
      exact .nil start
  | guess _ step _ inductionHypothesis =>
      exact inductionHypothesis.append (.single step)
  | other _ step _ inductionHypothesis =>
      exact inductionHypothesis.append (.single step)

/-- The times of the guesses are clock readings of the run. -/
theorem mem_clocks
    (guessing : Guessing env userId start labels times finish)
    (timed : now ∈ times) :
    now ∈ clocks labels := by
  induction guessing with
  | nil =>
      cases timed
  | guess _ _ wrong inductionHypothesis =>
      rw [clocks, List.filterMap_append]
      rcases List.mem_append.mp timed with earlier | last
      · exact List.mem_append_left _ (inductionHypothesis earlier)
      · obtain rfl := List.mem_singleton.mp last
        exact List.mem_append_right _ (by simp [wrong.clock])
  | other _ _ _ inductionHypothesis =>
      rw [clocks, List.filterMap_append]
      exact List.mem_append_left _ (inductionHypothesis timed)

/-- A run with guesses passes one. -/
theorem passes
    (guessing : Guessing env userId start labels times finish)
    (some_ : times ≠ []) :
    Passes (ServiceStep env) start (guesses env userId) labels := by
  induction guessing with
  | nil =>
      exact absurd rfl some_
  | guess earlier step wrong _ =>
      exact .last earlier.run step ⟨_, wrong⟩
  | other _ _ _ inductionHypothesis =>
      exact (inductionHypothesis some_).append _

end Guessing

/-- The readings before the last transaction are no later than its own. -/
theorem Chronological.le_last
    {earlier : Instant}
    (chronological : Chronological (labels ++ [executed]))
    (reads : executed.tx.clock = some now)
    (member : earlier ∈ clocks labels) :
    earlier ≤ now := by
  rw [Chronological, clocks, List.filterMap_append, List.pairwise_append]
    at chronological
  exact chronological.2.2 earlier member now (by simp [reads])

/-- The beginning of a chronological run is chronological. -/
theorem Chronological.beginning
    (chronological : Chronological (labels ++ [executed])) :
    Chronological labels := by
  rw [Chronological, clocks, List.filterMap_append, List.pairwise_append]
    at chronological
  exact chronological.1

/-- One more guess is spaced when its own round is. -/
theorem Spaced.snoc
    {settings : AuthSettings}
    (spaced : Spaced settings times)
    (next :
      ∀ first, times[0]? = some first →
        first +
            (times.length / settings.loginMaxAttempts : Nat) *
              seconds settings.lockoutSeconds ≤
          now) :
    Spaced settings (times ++ [now]) := by
  intro first index other atFirst atIndex
  have nonneg := @lockout_nonneg settings
  cases times with
  | nil =>
      have position := (List.getElem?_eq_some_iff.mp atIndex).1
      have isFirst : index = 0 := by simpa using position
      subst isFirst
      obtain rfl := Option.some.inj (atFirst.symm.trans atIndex)
      simp
  | cons head tail =>
      have atHead : (head :: tail)[0]? = some first := atFirst
      rcases Nat.lt_or_ge index (head :: tail).length with inside | beyond
      · rw [List.getElem?_append_left inside] at atIndex
        exact spaced first index other atHead atIndex
      · have position := (List.getElem?_eq_some_iff.mp atIndex).1
        have isLast : index = (head :: tail).length := by
          simp only [List.length_append, List.length_singleton] at position
          omega
        rw [isLast, List.getElem?_append_right (Nat.le_refl _)] at atIndex
        simp only [Nat.sub_self, List.getElem?_cons_zero] at atIndex
        obtain rfl := Option.some.inj atIndex
        rw [isLast]
        exact next first atHead

/-- The account keeps the pace of the guesses since the first one. -/
def KeepsPace
    (settings : AuthSettings)
    (userId : Uuid)
    (times : List Instant)
    (store : Store) :
    Prop :=
  ∀ first, times[0]? = some first →
    ∃ latest ∈ times, ∃ user,
      store.users.get? userId = some user ∧
        Paced settings first times.length latest user

/-- A counted guess keeps the pace, and is spaced by it. -/
theorem KeepsPace.guess
    {settings : AuthSettings}
    {user : UserAccount}
    (keeps : KeepsPace settings userId times before)
    (counted : CountedGuess settings before after userId now user)
    (latest : ∀ earlier ∈ times, earlier ≤ now)
    (spaced : Spaced settings times) :
    KeepsPace settings userId (times ++ [now]) after ∧
      Spaced settings (times ++ [now]) := by
  have pace :
      ∀ first, times[0]? = some first →
        ∃ last ∈ times, Paced settings first times.length last user := by
    intro first atFirst
    rcases keeps first atFirst with ⟨last, member, other, found, paced⟩
    obtain rfl := Option.some.inj (counted.found.symm.trans found)
    exact ⟨last, member, paced⟩
  constructor
  · intro first atFirst
    refine ⟨now, List.mem_append_right _ List.mem_cons_self, _,
      counted.counted, ?_⟩
    rw [List.length_append, List.length_singleton]
    cases times with
    | nil =>
        obtain rfl := Option.some.inj atFirst
        exact paced_first
    | cons head tail =>
        rcases pace first atFirst with ⟨last, member, paced⟩
        rcases paced.before_failure counted.available (latest last member) with
          ⟨locks, attempts, room, elapsed⟩
        exact paced_afterPasswordFailure attempts room elapsed
  · refine spaced.snoc ?_
    intro first atFirst
    rcases pace first atFirst with ⟨last, member, paced⟩
    exact paced.elapsed counted.available (latest last member)

/-- A step that neither guesses nor resets keeps the pace. -/
theorem KeepsPace.other
    (keeps : KeepsPace env.settings userId times before)
    (step : ServiceStep env before executed after)
    (noGuess :
      ∀ now, ¬ executed.GuessesWrong env.toDependencies before userId now)
    (noReset : ¬ executed.Resets env.toDependencies before userId) :
    KeepsPace env.settings userId times after := by
  intro first atFirst
  rcases keeps first atFirst with ⟨latest, member, user, found, paced⟩
  rcases step.counters_kept
      (fun cause => cause.guessesWrong.elim noGuess) noReset found with
    ⟨later, foundLater, attempts, lock⟩
  exact ⟨latest, member, later, foundLater, paced.congr attempts lock⟩

/-- A run that counts all its guesses keeps their pace. -/
theorem Guessing.keepsPace
    (guessing : Guessing env userId start labels times finish)
    (chronological : Chronological labels)
    (noReset : ¬ Passes (ServiceStep env) start (resets env userId) labels)
    (noChange :
      ¬ Passes (ServiceStep env) start (guessesByChange env userId) labels) :
    KeepsPace env.settings userId times finish ∧
      Spaced env.settings times := by
  induction guessing with
  | nil =>
      refine ⟨?_, ?_⟩
      · intro first impossible
        cases impossible
      · intro first index other impossible
        cases impossible
  | guess earlier step wrong inductionHypothesis =>
      rcases inductionHypothesis chronological.beginning
          (fun passed => noReset (passed.append _))
          (fun passed => noChange (passed.append _)) with
        ⟨keeps, spaced⟩
      have counts : ¬ ServiceTx.IsPasswordChange _ := fun change =>
        noChange (.last earlier.run step ⟨⟨_, wrong⟩, change⟩)
      rcases step.countedGuess wrong counts with ⟨user, counted⟩
      exact keeps.guess counted
        (fun time member =>
          chronological.le_last wrong.clock (earlier.mem_clocks member))
        spaced
  | other earlier step noGuess inductionHypothesis =>
      rcases inductionHypothesis chronological.beginning
          (fun passed => noReset (passed.append _))
          (fun passed => noChange (passed.append _)) with
        ⟨keeps, spaced⟩
      exact ⟨keeps.other step noGuess fun reset =>
        noReset (.last earlier.run step reset), spaced⟩

/-- An account without a lock has counted all the guesses. -/
def CountsAll
    (userId : Uuid)
    (times : List Instant)
    (store : Store) :
    Prop :=
  times ≠ [] →
    ∃ user,
      store.users.get? userId = some user ∧
        (user.lockedUntil = none →
          times.length ≤ user.failedLoginAttempts)

/-- A guess that finds no lapsed lock adds to all the earlier ones. -/
theorem CountsAll.previousAttempts
    {settings : AuthSettings}
    {user : UserAccount}
    (counts : CountsAll userId times before)
    (counted : CountedGuess settings before after userId now user)
    (noLapse : times ≠ [] → user.lockedUntil = none) :
    times.length ≤ EpokAuth.previousAttempts user now := by
  cases times with
  | nil =>
      exact Nat.zero_le _
  | cons head tail =>
      have some_ : head :: tail ≠ [] := List.cons_ne_nil head tail
      have unlocked := noLapse some_
      rcases counts some_ with ⟨other, found, attempts⟩
      obtain rfl := Option.some.inj (counted.found.symm.trans found)
      rw [EpokAuth.previousAttempts, unlocked]
      exact attempts unlocked

/-- Only the first guess may find a lock that has lapsed. -/
theorem Guessing.unlocked_of_noLapse
    {settings : AuthSettings}
    {user : UserAccount}
    (guessing : Guessing env userId start labels times before)
    (step : ServiceStep env before executed after)
    (wrong : executed.GuessesWrong env.toDependencies before userId now)
    (counted : CountedGuess settings before after userId now user)
    (noLapse :
      ¬ Passes (ServiceStep env) start (findsLapsedLock env userId start)
        (labels ++ [executed]))
    (some_ : times ≠ []) :
    user.lockedUntil = none := by
  by_contra locked
  exact noLapse
    (.last guessing.run step
      ⟨⟨_, wrong⟩, guessing.passes some_, user, counted.found, locked⟩)

/-- Consecutive guesses are all counted until the account is locked. -/
theorem Guessing.countsAll
    (guessing : Guessing env userId start labels times finish)
    (noReset : ¬ Passes (ServiceStep env) start (resets env userId) labels)
    (noChange :
      ¬ Passes (ServiceStep env) start (guessesByChange env userId) labels)
    (noLapse :
      ¬ Passes (ServiceStep env) start (findsLapsedLock env userId start)
        labels) :
    CountsAll userId times finish := by
  induction guessing with
  | nil =>
      exact fun impossible => absurd rfl impossible
  | guess earlier step wrong inductionHypothesis =>
      have counts := inductionHypothesis
        (fun passed => noReset (passed.append _))
        (fun passed => noChange (passed.append _))
        (fun passed => noLapse (passed.append _))
      have byOther : ¬ ServiceTx.IsPasswordChange _ := fun change =>
        noChange (.last earlier.run step ⟨⟨_, wrong⟩, change⟩)
      rcases step.countedGuess wrong byOther with ⟨user, counted⟩
      have previous := counts.previousAttempts counted
        (earlier.unlocked_of_noLapse step wrong counted noLapse)
      intro _
      refine ⟨_, counted.counted, fun _ => ?_⟩
      rw [afterPasswordFailure_failedLoginAttempts, List.length_append,
        List.length_singleton]
      exact Nat.add_le_add_right previous 1
  | other earlier step noGuess inductionHypothesis =>
      have counts := inductionHypothesis
        (fun passed => noReset (passed.append _))
        (fun passed => noChange (passed.append _))
        (fun passed => noLapse (passed.append _))
      intro some_
      rcases counts some_ with ⟨user, found, attempts⟩
      rcases step.counters_kept
          (fun cause => cause.guessesWrong.elim noGuess)
          (fun reset => noReset (.last earlier.run step reset)) found with
        ⟨later, foundLater, sameAttempts, sameLock⟩
      refine ⟨later, foundLater, fun unlocked => ?_⟩
      rw [sameAttempts]
      exact attempts (sameLock.symm.trans unlocked)

/-- The guess that reaches the maximum locks the account out. -/
theorem CountedGuess.lockedOut
    {user : UserAccount}
    (counted : CountedGuess env.settings before after userId now user)
    (reaches :
      env.settings.loginMaxAttempts ≤ previousAttempts user now + 1) :
    LockedOut env userId (now + seconds env.settings.lockoutSeconds) after := by
  have lock :
      lockAfterFailure env.settings user now =
        some (now + seconds env.settings.lockoutSeconds) := by
    rw [lockAfterFailure, if_pos reaches]
  refine LockedUntil.lockedOut ⟨_, counted.counted, ?_⟩ (counted.ended ?_)
  · rw [afterPasswordFailure_lockedUntil, lock]
  · rw [lock, Option.isSome_some]

/--
In every run that presents no wrong current password to change it, the wrong
passwords presented for an account between two verifications or replacements
are bounded: as many as the settings permit lock it, and each further round of
them takes the time of a lock.
-/
theorem guessing_bounded
    (guessing : Guessing env userId start labels times finish)
    (chronological : Chronological labels)
    (noReset : ¬ Passes (ServiceStep env) start (resets env userId) labels)
    (noChange :
      ¬ Passes (ServiceStep env) start (guessesByChange env userId) labels) :
    BoundedGuessing env userId start labels times finish := by
  refine ⟨(guessing.keepsPace chronological noReset noChange).2, ?_⟩
  intro executed after now step wrong byOther last noLapse
  rcases step.countedGuess wrong byOther with ⟨user, counted⟩
  have counts :=
    guessing.countsAll noReset noChange
      (fun passed => noLapse (passed.append _))
  have previous := counts.previousAttempts counted
    (guessing.unlocked_of_noLapse step wrong counted noLapse)
  exact counted.lockedOut (by omega)

end Guesses

/-- The reference environment, with the rules that passwords have by default. -/
def policyEnvironment : Environment :=
  { referenceEnvironment with
    passwords :=
      .recommended plainText 15 128 transparentPasswords.passwordHash [] 0 }

/-- The account and the session of the logged-in principal. -/
def loggedInStore : Store :=
  (executeAll policyEnvironment loggedIn {}).2

/-- A login with a wrong password, and its answer. -/
def wrongLogin (now : Instant) : Executed where
  tx :=
    .login "user@example.test" "wrong" now {} 0
      { sessionId := 5, familyId := 6, refreshToken := "second"
        csrfToken := "csrf", tokenId := 7 }
  answer := .ok (.error (.auth invalidCredentials))

/-- A password that the rules accept. -/
def anotherPassword : String := "another passphrase of its owner"

/-- A password change with a wrong current password, and its answer. -/
def wrongChange : Executed where
  tx :=
    .changePassword loggedInPrincipal "wrong" anotherPassword 20 {}
      { current := 0, same := 0, hash := 0 }
      { sessionId := 5, familyId := 6, refreshToken := "second"
        csrfToken := "csrf", tokenId := 7 }
  answer := .error (.auth invalidCredentials)

/-- A wrong login verifies and replaces nothing. -/
theorem not_resets_wrongLogin
    {deps : Dependencies}
    {before : Store}
    {userId : Uuid}
    {now : Instant} :
    ¬ (wrongLogin now).Resets deps before userId := by
  rintro ⟨change, cause, resets⟩
  cases cause
  exact resets.elim id id

/-- The store after wrong logins, the latest of which comes first. -/
def guessedStore : List Instant → Store
  | [] => loggedInStore
  | now :: earlier =>
      ((wrongLogin now).tx.execute policyEnvironment (guessedStore earlier)).2

/-- Each of the logins meets the account unlocked, and has a wrong password. -/
def MeetUnlocked : List Instant → Prop
  | [] => True
  | now :: earlier =>
      MeetUnlocked earlier ∧
        (wrongLogin now).tx.isFresh (guessedStore earlier) = true ∧
        ((wrongLogin now).tx.execute policyEnvironment
            (guessedStore earlier)).1 =
          (wrongLogin now).answer ∧
        ∃ user,
          (guessedStore earlier).users.find?
                (fun user => user.email = "user@example.test") =
              some user ∧
            user.id = 1 ∧
            user.lockedUntil = none ∧
            user.canAuthenticate now = true ∧
            WrongPassword policyEnvironment.toDependencies user 0 "wrong"

namespace MeetUnlocked

variable {times : List Instant} {now : Instant}

/-- A login that meets the account unlocked is a step of the services. -/
theorem step
    (meets : MeetUnlocked (now :: times)) :
    ServiceStep policyEnvironment (guessedStore times) (wrongLogin now)
      (guessedStore (now :: times)) := by
  obtain ⟨_, fresh, answered, _⟩ := meets
  have step :=
    @ServiceStep.completed policyEnvironment (guessedStore times)
      (wrongLogin now).tx (ServiceTx.fresh_of_isFresh fresh)
  rw [answered] at step
  exact step

/-- The logins are guesses. -/
theorem guessing
    (meets : MeetUnlocked times) :
    Guessing policyEnvironment 1 loggedInStore (times.reverse.map wrongLogin)
      times.reverse (guessedStore times) := by
  induction times with
  | nil =>
      exact .nil
  | cons now earlier inductionHypothesis =>
      obtain ⟨_, _, _, user, found, isUser, _, available, wrong⟩ := id meets
      rw [List.reverse_cons, List.map_append]
      exact .guess (inductionHypothesis meets.1) meets.step
        (isUser ▸ .login found available wrong)

/-- None of the logins finds a lock. -/
theorem noLapse
    (meets : MeetUnlocked times) :
    ¬ Passes (ServiceStep policyEnvironment) loggedInStore
      (findsLapsedLock policyEnvironment 1 loggedInStore)
      (times.reverse.map wrongLogin) := by
  induction times with
  | nil =>
      rintro ⟨earlier, _, _, _, _, split, _⟩
      cases earlier <;> cases split
  | cons now earlier inductionHypothesis =>
      rintro ⟨first, executed, rest, before, after, split, run, step, finds⟩
      rw [List.reverse_cons, List.map_append] at split
      rcases split_cases split with
        ⟨rfl, _, _⟩ | ⟨between, _, impossible⟩ | ⟨between, split, _⟩
      · obtain ⟨_, _, user, found, locked⟩ := finds
        obtain rfl := ServiceRun.functional run meets.1.guessing.run
        obtain ⟨_, _, _, known, foundKnown, isUser, unlocked, _⟩ := meets
        have stored :
            (guessedStore earlier).users.get? known.id = some known :=
          (Table.get?_of_find? foundKnown).1
        rw [isUser] at stored
        obtain rfl := Option.some.inj (found.symm.trans stored)
        exact locked unlocked
      · simp at impossible
      · exact inductionHypothesis meets.1
          ⟨first, executed, between, before, after, split, run, step, finds⟩

end MeetUnlocked

theorem meetUnlocked_wrongLogin : MeetUnlocked [60, 50, 40, 30, 20] :=
  ⟨⟨⟨⟨⟨trivial, by decide, rfl, _, rfl, rfl, rfl, rfl, rfl, rfl⟩,
      by decide, rfl, _, rfl, rfl, rfl, rfl, rfl, rfl⟩,
      by decide, rfl, _, rfl, rfl, rfl, rfl, rfl, rfl⟩,
      by decide, rfl, _, rfl, rfl, rfl, rfl, rfl, rfl⟩,
      by decide, rfl, _, rfl, rfl, rfl, rfl, rfl, rfl⟩

/-- Wrong logins are bounded, and the fifth one locks the account. -/
theorem guessing_bounded_wrongLogin :
    BoundedGuessing policyEnvironment 1 loggedInStore
        ([20, 30, 40, 50].map wrongLogin) [20, 30, 40, 50]
        (guessedStore [50, 40, 30, 20]) ∧
      LockedOut policyEnvironment 1
        (60 + seconds policyEnvironment.settings.lockoutSeconds)
        (guessedStore [60, 50, 40, 30, 20]) := by
  have meets := meetUnlocked_wrongLogin
  have isLogin :
      ∀ executed ∈ [20, 30, 40, 50].map wrongLogin,
        ∃ now, executed = wrongLogin now := by
    simp
  have bounded :
      BoundedGuessing policyEnvironment 1 loggedInStore
        ([20, 30, 40, 50].map wrongLogin) [20, 30, 40, 50]
        (guessedStore [50, 40, 30, 20]) := by
    refine guessing_bounded meets.1.guessing (by decide) ?_ ?_
    · rintro ⟨_, executed, _, _, _, split, _, _, resets⟩
      rcases isLogin executed (by simp [split]) with ⟨now, rfl⟩
      exact not_resets_wrongLogin resets
    · rintro ⟨_, executed, _, _, _, split, _, _, _, change⟩
      rcases isLogin executed (by simp [split]) with ⟨now, rfl⟩
      exact change
  refine ⟨bounded, bounded.locks (wrongLogin 60) _ 60 meets.step ?_ id rfl ?_⟩
  · obtain ⟨_, _, _, user, found, isUser, _, available, wrong⟩ := meets
    exact isUser ▸ .login found available wrong
  · exact meets.noLapse

/-- Any number of wrong password changes at one instant is a run of guesses. -/
theorem guessing_wrongChange (count : Nat) :
    Guessing policyEnvironment 1 loggedInStore
      (List.replicate count wrongChange) (List.replicate count 20)
      loggedInStore := by
  have step :
      ServiceStep policyEnvironment loggedInStore wrongChange
        loggedInStore :=
    .completed wrongChange.tx (ServiceTx.fresh_of_isFresh (by decide))
  have inForce : PrincipalInForce loggedInStore loggedInPrincipal 20 :=
    ⟨_, _, rfl, rfl, by decide, by decide⟩
  induction count with
  | zero =>
      exact .nil
  | succ count inductionHypothesis =>
      rw [List.replicate_succ', List.replicate_succ']
      exact .guess inductionHypothesis step
        (.change rfl inForce (by decide))

/--
The session of a principal permits more wrong passwords at one instant than an
account does between two locks: a password change does not count them.
-/
theorem guessing_unbounded :
    ¬ ∀ (env : Environment) (userId : Uuid) (start finish : Store)
        (labels : List Executed) (times : List Instant),
        ServiceReachable env start →
        Guessing env userId start labels times finish →
        Chronological labels →
        ¬ Passes (ServiceStep env) start (resets env userId) labels →
        BoundedGuessing env userId start labels times finish := by
  intro bounded
  have noReset :
      ¬ Passes (ServiceStep policyEnvironment) loggedInStore
        (resets policyEnvironment 1) (List.replicate 6 wrongChange) := by
    rintro ⟨_, executed, _, _, _, split, _, _, change, cause, _⟩
    have member : executed ∈ List.replicate 6 wrongChange := by
      rw [split]
      exact List.mem_append_right _ List.mem_cons_self
    obtain rfl := List.eq_of_mem_replicate member
    exact not_causes_error cause
  have spaced :=
    (bounded policyEnvironment 1 loggedInStore loggedInStore _ _
      (reachable_executeAll (by decide)) (guessing_wrongChange 6) (by decide)
      noReset).spaced 20 5 20 rfl rfl
  revert spaced
  decide

end EpokAuth
