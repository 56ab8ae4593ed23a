import EpokAuth.LiveSession
import EpokAuth.Lockout
import EpokAuth.SecurityVersion

namespace EpokAuth

open Transactional

/-!
# Wrong passwords

A wrong password is compared with the stored hash when it is presented for an
account that may authenticate.  Logging in and reauthenticating count it;
changing the password does not.
-/

/--
A wrong password was presented for an account that may authenticate, and was
compared with its hash.
-/
inductive Executed.GuessesWrong
    (deps : Dependencies)
    (before : Store) :
    Executed → Uuid → Instant → Prop where
  | login
      {normalizedEmail password : String}
      {now : Instant}
      {context : RequestContext}
      {salt : Nat}
      {draws : SessionDraws}
      {failure : Failure}
      {user : UserAccount}
      (found :
        before.users.find? (fun user => user.email = normalizedEmail) =
          some user)
      (available : user.canAuthenticate now = true)
      (wrong : WrongPassword deps user salt password) :
      GuessesWrong deps before
        { tx := .login normalizedEmail password now context salt draws
          answer := .ok (.error failure) }
        user.id now
  | reauthentication
      {principal : Principal}
      {password : String}
      {now : Instant}
      {context : RequestContext}
      {salt : Nat}
      {failure : Failure}
      {user : UserAccount}
      (account : before.users.get? principal.userId = some user)
      (inForce : PrincipalInForce before principal now)
      (wrong : WrongPassword deps user salt password) :
      GuessesWrong deps before
        { tx := .reauthenticatePassword principal password now context salt
          answer := .ok (.error failure) }
        principal.userId now
  | change
      {principal : Principal}
      {currentPassword newPassword : String}
      {now : Instant}
      {context : RequestContext}
      {salts : ChangePasswordSalts}
      {draws : SessionDraws}
      {answer : Except Failure SessionBundle}
      {user : UserAccount}
      (account : before.users.get? principal.userId = some user)
      (inForce : PrincipalInForce before principal now)
      (wrong :
        (deps.passwords.verified salts.current currentPassword
            user.passwordHash).valid =
          false) :
      GuessesWrong deps before
        { tx :=
            .changePassword principal currentPassword newPassword now context
              salts draws
          answer := answer }
        principal.userId now

/-- The transaction changes a password. -/
def ServiceTx.IsPasswordChange : ServiceTx → Prop
  | .changePassword .. => True
  | _ => False

/-- The transaction verified or replaced the password of an account. -/
def Executed.Resets
    (executed : Executed)
    (deps : Dependencies)
    (before : Store)
    (userId : Uuid) :
    Prop :=
  ∃ change,
    Causes deps before executed userId change ∧
      (change.Verifies ∨ change.ReplacesPassword)

/-- A guess is timed by the clock reading of its transaction. -/
theorem Executed.GuessesWrong.clock
    {deps : Dependencies}
    {before : Store}
    {executed : Executed}
    {userId : Uuid}
    {now : Instant}
    (wrong : executed.GuessesWrong deps before userId now) :
    executed.tx.clock = some now := by
  cases wrong <;> rfl

/-! ## A guess that is counted -/

section Counting

variable
  {env : Environment}
  {before after store : Store}
  {executed : Executed}
  {userId : Uuid}
  {now : Instant}
  {context : RequestContext}

/-- Logging in with a wrong password counts it. -/
theorem wp_login_wrong
    {normalizedEmail password : String}
    {salt : Nat}
    {draws : SessionDraws}
    {user : UserAccount}
    (found :
      store.users.find? (fun user => user.email = normalizedEmail) =
        some user)
    (available : user.canAuthenticate now = true)
    (wrong : WrongPassword env.toDependencies user salt password) :
    Tx.wp
      (login env.toDependencies normalizedEmail password now context salt
        draws)
      (fun _ later =>
        Performs env.settings store.toCore
          [.account user.id .fail .nothing now] later.toCore)
      (fun _ _ => True) store := by
  rcases wrong with ⟨enabled, invalid⟩
  have account : store.users.get? user.id = some user :=
    (Table.get?_of_find? found).1
  simp only [login_eq, Tx.wp_bind, Tx.wp_getUserByEmail, found, Option.bind_some,
    enabled, ↓reduceIte, invalid, Bool.not_false, Bool.or_true]
  refine wp_recordPasswordFailure account (fun _ _ _ performs => performs) ?_
  intro closed
  rw [enabled, available] at closed
  cases closed

/-- Reauthenticating with a wrong password counts it. -/
theorem wp_reauthenticatePassword_wrong
    {principal : Principal}
    {password : String}
    {salt : Nat}
    {user : UserAccount}
    (account : store.users.get? principal.userId = some user)
    (available : user.canAuthenticate now = true)
    (wrong : WrongPassword env.toDependencies user salt password) :
    Tx.wp
      (reauthenticatePassword env.toDependencies principal password now
        context salt)
      (fun _ later =>
        Performs env.settings store.toCore
          [.account user.id .fail .nothing now] later.toCore)
      (fun _ _ => True) store := by
  rcases wrong with ⟨enabled, invalid⟩
  have userKey : user.id = principal.userId := Table.key_of_get? account
  simp only [reauthenticatePassword, Tx.wp_bind]
  refine wp_requirePrincipalUser principal now true _ ?_ trivial
  intro other session accountToo _ _ _
  obtain rfl := Option.some.inj (account.symm.trans accountToo)
  simp only [enabled, ↓reduceIte, invalid, Bool.not_false, Bool.or_true,
    Tx.wp_bind]
  refine wp_recordPasswordFailure (userKey ▸ account)
    (fun _ _ _ performs => performs) ?_
  intro closed
  rw [enabled, available] at closed
  cases closed

/-- What a counted guess leaves of the account. -/
structure CountedGuess
    (settings : AuthSettings)
    (before after : Store)
    (userId : Uuid)
    (now : Instant)
    (user : UserAccount) :
    Prop where
  found : before.users.get? userId = some user
  available : user.canAuthenticate now = true
  counted :
    after.users.get? userId = some (afterPasswordFailure settings user now)
  ended :
    (lockAfterFailure settings user now).isSome = true →
      ∀ id session, after.sessions.get? id = some session →
        session.userId = userId → session.revokedAt ≠ none

/-- The account move of a failure counts it, and a lock ends all sessions. -/
theorem CountedGuess.of_performs
    {settings : AuthSettings}
    {user : UserAccount}
    (found : before.users.get? user.id = some user)
    (available : user.canAuthenticate now = true)
    (performs :
      Performs settings before.toCore
        [.account user.id .fail .nothing now] after.toCore) :
    CountedGuess settings before after user.id now user := by
  have same :
      after.toCore =
        (Move.account user.id .fail .nothing now).perform settings
          before.toCore :=
    performs.2
  refine ⟨found, available, ?_, ?_⟩
  · rw [same]
    exact Move.perform_account_self found
  · intro locks id session stored owned unrevoked
    rw [same, Move.perform_account found] at stored
    simp only [AccountChange.revokes, locks, ↓reduceIte] at stored
    have revised :=
      (Table.get?_revise before.sessions (Store.ofUser user.id)
        (Store.revokeAt now) (fun _ => rfl) id).symm.trans stored
    rcases Option.map_eq_some_iff.mp revised with ⟨earlier, _, rfl⟩
    split at unrevoked
    · cases unrevoked
    · rename_i spared
      rw [if_neg spared] at owned
      exact spared (by simp [Store.ofUser, owned, unrevoked])

/-- Every guess but the ones of password changes is counted. -/
theorem ServiceStep.countedGuess
    (step : ServiceStep env before executed after)
    (wrong : executed.GuessesWrong env.toDependencies before userId now)
    (counts : ¬ executed.tx.IsPasswordChange) :
    ∃ user, CountedGuess env.settings before after userId now user := by
  cases wrong with
  | login found available wrong =>
      exact ⟨_, .of_performs (Table.get?_of_find? found).1 available
        (step.of_wp (wp_login_wrong found available wrong))⟩
  | @reauthentication principal _ _ _ _ _ user account inForce wrong =>
      have available : user.canAuthenticate now = true := by
        rcases inForce with ⟨other, _, accountToo, _, available, _⟩
        obtain rfl := Option.some.inj (account.symm.trans accountToo)
        exact available
      have userKey : user.id = principal.userId := Table.key_of_get? account
      rw [← userKey] at account ⊢
      exact ⟨user, .of_performs account available
        (step.of_wp
          (wp_reauthenticatePassword_wrong (userKey ▸ account) available
            wrong))⟩
  | change account inForce wrong =>
      exact absurd trivial counts

/-- A counted failure is a guess. -/
theorem Causes.guessesWrong
    (cause : Causes env.toDependencies before executed userId .fail) :
    ∃ now, executed.GuessesWrong env.toDependencies before userId now := by
  cases cause with
  | loginFailed found available wrong =>
      exact ⟨_, .login found available wrong⟩
  | reauthenticationFailed account inForce wrong =>
      exact ⟨_, .reauthentication account inForce wrong⟩

/-- Only failures, verifications and replacements touch counter and lock. -/
theorem ServiceStep.counters_kept
    {user : UserAccount}
    (step : ServiceStep env before executed after)
    (noFailure : ¬ Causes env.toDependencies before executed userId .fail)
    (noReset : ¬ executed.Resets env.toDependencies before userId)
    (found : before.users.get? userId = some user) :
    ∃ later,
      after.users.get? userId = some later ∧
        later.failedLoginAttempts = user.failedLoginAttempts ∧
        later.lockedUntil = user.lockedUntil := by
  rcases step.effect with ⟨moves, effect⟩
  refine effect.performs.preserves
    (fun core =>
      ∃ later,
        core.users.get? userId = some later ∧
          later.failedLoginAttempts = user.failedLoginAttempts ∧
          later.lockedUntil = user.lockedUntil)
    ?_ ⟨user, found, rfl, rfl⟩
  rintro move member state enabled ⟨current, foundCurrent, attempts, lock⟩
  have taken := Move.accountStep enabled userId
  generalize (move.perform env.settings state).users.get? userId = row at taken ⊢
  cases taken with
  | kept =>
      exact ⟨current, foundCurrent, attempts, lock⟩
  | enrolled absent _ =>
      rw [absent] at foundCurrent
      cases foundCurrent
  | @changed stored change attachment at_ foundStored permitted =>
      obtain rfl := Option.some.inj (foundCurrent.symm.trans foundStored)
      have cause := effect.attributed _ _ _ _ member
      refine ⟨_, rfl, ?_⟩
      cases change with
      | fail =>
          exact absurd cause noFailure
      | verify verification =>
          exact absurd ⟨_, cause, .inl trivial⟩ noReset
      | replace reason passwordHash =>
          exact absurd ⟨_, cause, .inr trivial⟩ noReset
      | autoLink passwordHash =>
          exact absurd ⟨_, cause, .inr trivial⟩ noReset
      | administer resolved =>
          simp only [AccountChange.apply, applyUpdate]
          split
          · exact ⟨attempts, lock⟩
          · exact ⟨attempts, lock⟩
      | fence clearsAutoLink =>
          exact ⟨attempts, lock⟩

end Counting

end EpokAuth
