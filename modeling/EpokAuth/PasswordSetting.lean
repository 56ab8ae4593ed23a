import EpokAuth.Operations
import EpokAuth.PasswordPolicy

namespace EpokAuth

open Transactional

/-!
# Passwords that can be set

Four operations let somebody choose a password: the change by its holder, the
reset and the activation by a link, and the creation of the administrator.
Each validates the password, hashes it and stores the hash in one transaction.
Whether that transaction returns does not depend on the password, so whatever
the policy accepts can be set wherever another password can.
-/

/-! ## Operations alone -/

namespace Operation

/--
What must hold of a store so that an operation, run on it alone, returns what
has a property.
-/
def Returns
    (env : Environment)
    (around : Surroundings)
    (operation : Operation α)
    (normal : α → Store → Prop)
    (store : Store) :
    Prop :=
  Prog.wp (Ask.execute env around).transformer operation normal
    (fun _ _ => False) store

section Rules

variable
  {env : Environment}
  {around : Surroundings}
  {store : Store}

/-- An operation returns what has a property exactly when it is run so. -/
theorem returns_iff
    {operation : Operation α}
    {normal : α → Store → Prop} :
    operation.Returns env around normal store ↔
      ∃ answer after,
        operation.execute env around store = (.ok answer, after) ∧
          normal answer after := by
  unfold Returns execute
  rw [Prog.wp_transformer_iff]
  cases Prog.run (Ask.execute env around) operation store with
  | mk outcome after =>
      cases outcome with
      | error failure => simp
      | ok answer => simp

@[simp] theorem returns_pure
    {value : α}
    {normal : α → Store → Prop} :
    (pure value : Operation α).Returns env around normal store ↔
      normal value store :=
  .rfl

@[simp] theorem returns_throw
    {failure : Failure}
    {normal : α → Store → Prop} :
    ¬ (throw failure : Operation α).Returns env around normal store :=
  id

theorem returns_bind
    {first : Operation α}
    {second : α → Operation β}
    {normal : β → Store → Prop} :
    (first >>= second).Returns env around normal store ↔
      first.Returns env around
        (fun value => (second value).Returns env around normal) store := by
  unfold Returns
  rw [Prog.wp_bind]

@[simp] theorem returns_clockNow
    {normal : Instant → Store → Prop} :
    clockNow.Returns env around normal store ↔ normal around.now store :=
  .rfl

theorem returns_check
    {outcome : Except Failure α}
    {normal : α → Store → Prop} :
    (check outcome).Returns env around normal store ↔
      ∃ value, outcome = .ok value ∧ normal value store := by
  cases outcome with
  | error failure => exact ⟨False.elim, fun ⟨_, same, _⟩ => nomatch same⟩
  | ok value =>
      refine ⟨fun holds => ⟨value, rfl, holds⟩, ?_⟩
      rintro ⟨_, same, holds⟩
      obtain rfl := Except.ok.inj same
      exact holds

/-- A transaction returns what its body does on the store alone. -/
theorem returns_transaction
    {tx : ServiceTx}
    {normal : tx.Answer → Store → Prop} :
    (transaction tx).Returns env around normal store ↔
      Tx.wp (tx.body env) normal (fun _ _ => False) store := by
  have runs :
      (transaction tx).Returns env around normal store ↔
        (check (tx.execute env store).1).Returns env around normal
          (tx.execute env store).2 :=
    .rfl
  rw [runs, returns_check]
  unfold Tx.wp
  rw [Prog.wp_transformer_iff]
  unfold ServiceTx.execute Tx.execute
  cases (tx.body env).run Store.evaluate store with
  | mk outcome after =>
      cases outcome with
      | error failure => simp
      | ok answer => simp

/-- An operation whose handler raises returns what it returns unhandled. -/
theorem returns_onConflict_throw
    {operation : Operation α}
    {failure : Failure}
    {normal : α → Store → Prop} :
    (onConflict operation (throw failure)).Returns env around normal store ↔
      operation.Returns env around normal store := by
  unfold onConflict Returns
  rw [Prog.wp_handle]
  refine iff_of_eq (congrFun (congrArg (Prog.wp _ _ _) ?_) store)
  funext raised later
  cases raised <;> rfl

theorem Returns.mono
    {operation : Operation α}
    {stronger weaker : α → Store → Prop}
    (returns : operation.Returns env around stronger store)
    (weakens : ∀ value later, stronger value later → weaker value later) :
    operation.Returns env around weaker store :=
  Prog.wp_mono (Prog.Evaluation.transformer_monotone _) returns weakens
    fun _ _ impossible => impossible

/-- After a common beginning, an operation returns if its end does. -/
theorem returns_of_end
    {first : Operation α}
    {second : α → Operation β}
    {third : α → Operation γ}
    {normal : γ → Store → Prop}
    (returns :
      (first >>= second).Returns env around (fun _ _ => True) store)
    (ends :
      ∀ value later,
        (second value).Returns env around (fun _ _ => True) later →
          (third value).Returns env around normal later) :
    (first >>= third).Returns env around normal store := by
  rw [returns_bind] at returns ⊢
  exact returns.mono ends

end Rules

end Operation

/-! ## The same transaction with another hash -/

/-- An account can be logged in to with a password of this hash. -/
def StoresHash
    (passwordHash : String)
    (userId : Option Uuid)
    (store : Store) :
    Prop :=
  ∃ user,
    userId = some user.id ∧
      store.users.get? user.id = some user ∧
      user.passwordLoginEnabled = true ∧
      user.passwordHash = passwordHash

/-- An account that was just stored. -/
theorem storesHash_put
    {users : Table UserAccount}
    {store : Store}
    (user : UserAccount)
    (enabled : user.passwordLoginEnabled = true)
    (stored : store.users = users.put user) :
    StoresHash user.passwordHash (some user.id) store := by
  refine ⟨user, rfl, ?_, enabled, rfl⟩
  rw [stored]
  exact Table.get?_put_self users user

section OtherHash

variable
  {deps : Dependencies}
  {now : Instant}
  {context : RequestContext}
  {store : Store}

/-- Whether an account can be replaced depends on its key and its email. -/
theorem wp_updateUser_other
    {after : Unit → Tx α}
    {later : Unit → Tx β}
    {normal : β → Store → Prop}
    (first second : UserAccount)
    (sameId : second.id = first.id)
    (sameEmail : second.email = first.email)
    (returns :
      Tx.wp (Tx.updateUser first >>= after) (fun _ _ => True)
        (fun _ _ => False) store)
    (goesOn :
      Tx.wp (after ()) (fun _ _ => True) (fun _ _ => False)
          { store with users := store.users.put first } →
        Tx.wp (later ()) normal (fun _ _ => False)
          { store with users := store.users.put second }) :
    Tx.wp (Tx.updateUser second >>= later) normal (fun _ _ => False)
      store := by
  have sameTaken :
      Store.emailTaken second store = Store.emailTaken first store := by
    rw [Store.emailTaken, Store.emailTaken, sameId, sameEmail]
  rw [Tx.wp_bind, Tx.wp_updateUser] at returns ⊢
  rw [sameId, sameTaken]
  split at returns
  · rename_i present
    rw [if_pos present]
    split at returns
    · exact returns.elim
    · rename_i free
      rw [if_neg free]
      exact goesOn returns
  · exact returns.elim

/-- Creating the administrator returns with one hash as with another. -/
theorem wp_createAdmin_other
    {id : Uuid}
    {email displayName other passwordHash : String}
    (returns :
      Tx.wp
        (createAdmin deps
          (administratorAccount deps id email displayName other now) now
          context)
        (fun _ _ => True) (fun _ _ => False) store) :
    Tx.wp
      (createAdmin deps
        (administratorAccount deps id email displayName passwordHash now) now
        context)
      (fun _ later => StoresHash passwordHash (some id) later)
      (fun _ _ => False) store := by
  simp only [createAdmin, Tx.wp_bind, Tx.wp_acquireAdminInvariantLock,
    Tx.wp_countUsersWithRole, Tx.wp_ite, Tx.wp_throw, Tx.wp_insertUser,
    wp_recordSecurityEvent] at returns ⊢
  split at returns
  · exact returns.elim
  · rename_i vacant
    rw [if_neg vacant]
    split at returns
    · exact returns.elim
    · rename_i absent
      refine (if_neg absent).mpr ?_
      exact storesHash_put
        (administratorAccount deps id email displayName passwordHash now) rfl
        rfl

/-- Consuming a link returns something with one completion as with another. -/
theorem wp_consuming_other
    {token : String}
    {purpose : EmailLinkPurpose}
    {browserNonce : Option String}
    {complete : UserAccount → Tx α}
    {other : UserAccount → Tx β}
    (normal : β → Store → Prop)
    (returns :
      Tx.wp
        (consuming deps token purpose now browserNonce complete
          fun _ => return ())
        (fun answer _ => answer.isSome = true) (fun _ _ => False) store)
    (completes :
      ∀ user later,
        Tx.wp (complete user) (fun _ _ => True) (fun _ _ => False) later →
          Tx.wp (other user) normal (fun _ _ => False) later) :
    Tx.wp
      (consuming deps token purpose now browserNonce other fun _ => return ())
      (fun answer later => ∃ value, answer = some value ∧ normal value later)
      (fun _ _ => False) store := by
  unfold consuming at returns ⊢
  rw [Tx.wp_bind] at returns ⊢
  refine Tx.wp_mono returns ?_ fun _ _ impossible => impossible
  intro found middle returned
  match found, returned with
  | (none, _), returned => simp at returned
  | (some _, none), returned => simp at returned
  | (some link, some user), returned =>
      dsimp only at returned ⊢
      rw [Tx.wp_ite] at returned ⊢
      split at returned
      · rename_i able
        rw [if_pos able]
        rw [Tx.wp_bind] at returned ⊢
        refine Tx.wp_mono returned ?_ fun _ _ impossible => impossible
        intro consumed last ends
        cases consumed with
        | none => simp at ends
        | some consumed =>
            dsimp only at ends ⊢
            rw [Tx.wp_bind] at ends ⊢
            refine Tx.wp_mono
              (completes user last
                (Tx.wp_mono ends (fun _ _ _ => trivial)
                  fun _ _ impossible => impossible))
              ?_ fun _ _ impossible => impossible
            intro value after holds
            exact ⟨value, rfl, holds⟩
      · simp at returned

/-- A reset returns its notice with one hash as with another. -/
theorem wp_emailLinkResetPassword_other
    {token other passwordHash : String}
    (returns :
      Tx.wp (emailLinkResetPassword deps token other now context)
        (fun notice _ => notice.isSome = true) (fun _ _ => False) store) :
    Tx.wp (emailLinkResetPassword deps token passwordHash now context)
      (fun notice later =>
        ∃ value,
          notice = some value ∧ StoresHash passwordHash value.userId later)
      (fun _ _ => False) store := by
  unfold emailLinkResetPassword at returns ⊢
  refine wp_consuming_other
    (fun (notice : AuthEmail) later =>
      StoresHash passwordHash notice.userId later)
    returns ?_
  intro user middle ends
  refine wp_updateUser_other (user.activatePassword other now)
    (user.activatePassword passwordHash now) rfl rfl ends fun _ => ?_
  simp only [Tx.wp_bind, Tx.wp_revokeUserSessions, wp_recordSecurityEvent,
    Tx.wp_pure]
  exact storesHash_put (user.activatePassword passwordHash now) rfl rfl

/-- An activation returns the account with one hash as with another. -/
theorem wp_activate_other
    {token other passwordHash : String}
    (returns :
      Tx.wp (activate deps token other now context)
        (fun user _ => user.isSome = true) (fun _ _ => False) store) :
    Tx.wp (activate deps token passwordHash now context)
      (fun user later =>
        ∃ value,
          user = some value ∧ StoresHash passwordHash (some value.id) later)
      (fun _ _ => False) store := by
  unfold activate at returns ⊢
  refine wp_consuming_other
    (fun (activated : UserAccount) later =>
      StoresHash passwordHash (some activated.id) later)
    returns ?_
  intro user middle ends
  unfold UserAccount.activateAccount at ends ⊢
  split at ends
  · rename_i isPending
    rw [if_pos isPending]
    refine wp_updateUser_other
      { user.activatePassword other now with status := .active }
      { user.activatePassword passwordHash now with status := .active } rfl rfl
      ends fun _ => ?_
    simp only [Tx.wp_bind, Tx.wp_revokeUserSessions, wp_recordSecurityEvent,
      Tx.wp_pure]
    exact storesHash_put
      { user.activatePassword passwordHash now with status := .active } rfl rfl
  · exact ends.elim

/-- Issuing a session depends on the sessions only. -/
theorem wp_issue_other
    {first second : UserAccount}
    {draws : SessionDraws}
    {after : SessionBundle → Tx α}
    {goesOn : SessionBundle → Tx β}
    {normal : β → Store → Prop}
    {earlier later : Store}
    (returns :
      Tx.wp (issue deps first now none context draws >>= after)
        (fun _ _ => True) (fun _ _ => False) earlier)
    (sameSessions : later.sessions = earlier.sessions)
    (sameId : second.id = first.id)
    (ends :
      ∀ bundle last,
        last.users = later.users → bundle.principal.userId = second.id →
          Tx.wp (goesOn bundle) normal (fun _ _ => False) last) :
    Tx.wp (issue deps second now none context draws >>= goesOn) normal
      (fun _ _ => False) later := by
  simp only [issue, Tx.wp_bind, Tx.wp_insertSession, wp_recordSecurityEvent,
    Tx.wp_pure, Store.sessionTaken] at returns ⊢
  rw [sameSessions, sameId]
  split at returns
  · exact returns.elim
  · rename_i absent
    rw [if_neg absent]
    exact ends _ _ rfl rfl

/-- A principal who passes the check does so whatever follows. -/
theorem wp_requirePrincipalUser_end
    {principal : Principal}
    {forUpdate : Bool}
    {second : UserAccount → Tx α}
    {third : UserAccount → Tx β}
    {normal : β → Store → Prop}
    (returns :
      Tx.wp (requirePrincipalUser principal now forUpdate >>= second)
        (fun _ _ => True) (fun _ _ => False) store)
    (ends :
      ∀ user, store.users.get? principal.userId = some user →
        Tx.wp (second user) (fun _ _ => True) (fun _ _ => False) store →
          Tx.wp (third user) normal (fun _ _ => False) store) :
    Tx.wp (requirePrincipalUser principal now forUpdate >>= third) normal
      (fun _ _ => False) store := by
  simp only [requirePrincipalUser, Tx.wp_bind, Tx.wp_getUserById,
    wp_requirePrincipalSession] at returns ⊢
  cases account : store.users.get? principal.userId with
  | none =>
      rw [account] at returns
      exact returns.elim
  | some user =>
      cases stored : store.sessions.get? principal.sessionId with
      | none =>
          rw [account, stored] at returns
          exact returns.elim
      | some session =>
          rw [account, stored] at returns
          dsimp only at returns ⊢
          split at returns
          · rename_i inForce
            rw [if_pos inForce]
            exact ends user account returns
          · exact returns.elim

/-- A change returns with one new password as with another that is new. -/
theorem wp_changePassword_other
    {principal : Principal}
    {currentPassword other password passwordHash : String}
    {salts : ChangePasswordSalts}
    {draws : SessionDraws}
    (hashed : deps.passwords.hash salts.hash password = .ok passwordHash)
    (different :
      ∀ user, store.users.get? principal.userId = some user →
        (deps.passwords.verified salts.same password
          user.passwordHash).valid = false)
    (returns :
      Tx.wp
        (changePassword deps principal currentPassword other now context salts
          draws)
        (fun _ _ => True) (fun _ _ => False) store) :
    Tx.wp
      (changePassword deps principal currentPassword password now context salts
        draws)
      (fun bundle later =>
        StoresHash passwordHash (some bundle.principal.userId) later)
      (fun _ _ => False) store := by
  unfold changePassword at returns ⊢
  refine wp_requirePrincipalUser_end returns fun user account ends => ?_
  dsimp only at ends ⊢
  rw [Tx.wp_ite] at ends ⊢
  split at ends
  · exact ends.elim
  · rename_i verified
    rw [if_neg verified, if_neg (by simp [different user account])]
    split at ends
    · exact ends.elim
    · cases otherHash : deps.passwords.hash salts.hash other with
      | error failure =>
          rw [otherHash] at ends
          exact ends.elim
      | ok stored =>
          rw [otherHash] at ends
          rw [hashed]
          refine wp_updateUser_other (user.activatePassword stored now)
            (user.activatePassword passwordHash now) rfl rfl ends
            fun goesOn => ?_
          rw [Tx.wp_bind, Tx.wp_revokeUserSessions] at goesOn ⊢
          refine wp_issue_other goesOn rfl rfl
            fun bundle last sameUsers owner => ?_
          simp only [Tx.wp_bind, wp_recordSecurityEvent, Tx.wp_pure]
          rw [owner]
          exact storesHash_put (user.activatePassword passwordHash now) rfl
            sameUsers

end OtherHash

/-! ## The same operation with another password -/

section OtherPassword

open Operation

variable
  {env : Environment}
  {around : Surroundings}
  {context : RequestContext}
  {store : Store}
  {other password passwordHash : String}

theorem returns_createAdmin_other
    {email displayName : String}
    {userId : Uuid}
    {salt : Nat}
    (hashed : env.passwords.hash salt password = .ok passwordHash)
    (returns :
      (AuthService.createAdmin env.toDependencies email displayName other
        context userId salt).Returns env around (fun _ _ => True) store) :
    (AuthService.createAdmin env.toDependencies email displayName password
      context userId salt).Returns env around
      (fun user later => StoresHash passwordHash (some user.id) later)
      store := by
  simp only [AuthService.createAdmin, returns_bind, returns_clockNow,
    returns_check, returns_onConflict_throw] at returns ⊢
  rcases returns with ⟨email, isEmail, name, isName, _, _, returns⟩
  refine ⟨email, isEmail, name, isName, passwordHash, hashed, ?_⟩
  exact returns_transaction.mpr (wp_createAdmin_other
    (Tx.wp_mono (returns_transaction.mp returns) (fun _ _ _ => trivial)
      fun _ _ impossible => impossible))

theorem returns_changePassword_other
    {principal : Principal}
    {currentPassword : String}
    {salts : ChangePasswordSalts}
    {draws : SessionDraws}
    (valid : env.passwords.validate password = .ok ())
    (hashed : env.passwords.hash salts.hash password = .ok passwordHash)
    (different :
      ∀ user, store.users.get? principal.userId = some user →
        (env.passwords.verified salts.same password
          user.passwordHash).valid = false)
    (returns :
      (AuthService.changePassword env.toDependencies principal currentPassword
        other context salts draws).Returns env around (fun _ _ => True)
        store) :
    (AuthService.changePassword env.toDependencies principal currentPassword
      password context salts draws).Returns env around
      (fun bundle later =>
        StoresHash passwordHash (some bundle.principal.userId) later)
      store := by
  simp only [AuthService.changePassword, returns_bind, returns_clockNow,
    returns_check] at returns ⊢
  rcases returns with ⟨_, _, returns⟩
  exact ⟨(), valid, returns_transaction.mpr (wp_changePassword_other hashed
    different (returns_transaction.mp returns))⟩

theorem returns_resetPassword_other
    {token : String}
    {salt : Nat}
    (valid : env.passwords.validate password = .ok ())
    (hashed : env.passwords.hash salt password = .ok passwordHash)
    (returns :
      (EmailLinkService.resetPassword env.toDependencies token other context
        salt).Returns env around (fun _ _ => True) store) :
    (EmailLinkService.resetPassword env.toDependencies token password context
      salt).Returns env around
      (fun notice later => StoresHash passwordHash notice.userId later)
      store := by
  unfold EmailLinkService.resetPassword at returns ⊢
  rw [returns_bind, returns_check] at returns ⊢
  rcases returns with ⟨_, _, returns⟩
  refine ⟨(), valid, ?_⟩
  refine returns_of_end returns fun now later ends => ?_
  refine returns_of_end ends fun found last ends => ?_
  cases found with
  | false => exact absurd ends returns_throw
  | true =>
      rw [if_neg (by decide)] at ends ⊢
      rw [returns_bind, returns_check] at ends ⊢
      rcases ends with ⟨_, _, ends⟩
      refine ⟨passwordHash, hashed, ?_⟩
      rw [returns_bind, returns_transaction] at ends ⊢
      refine Tx.wp_mono
        (wp_emailLinkResetPassword_other
          (Tx.wp_mono ends ?_ fun _ _ impossible => impossible))
        ?_ fun _ _ impossible => impossible
      · intro notice after returned
        cases notice with
        | none => exact absurd returned returns_throw
        | some notice => rfl
      · rintro _ after ⟨notice, rfl, stores⟩
        exact stores

theorem returns_activate_other
    {token : String}
    {salt : Nat}
    (valid : env.passwords.validate password = .ok ())
    (hashed : env.passwords.hash salt password = .ok passwordHash)
    (returns :
      (AccountActivationService.activate env.toDependencies token other context
        salt).Returns env around (fun _ _ => True) store) :
    (AccountActivationService.activate env.toDependencies token password
      context salt).Returns env around
      (fun user later => StoresHash passwordHash (some user.id) later)
      store := by
  unfold AccountActivationService.activate at returns ⊢
  rw [returns_bind, returns_check] at returns ⊢
  rcases returns with ⟨_, _, returns⟩
  refine ⟨(), valid, ?_⟩
  refine returns_of_end returns fun now later ends => ?_
  refine returns_of_end ends fun found last ends => ?_
  cases found with
  | false => exact absurd ends returns_throw
  | true =>
      rw [if_neg (by decide)] at ends ⊢
      rw [returns_bind, returns_check] at ends ⊢
      rcases ends with ⟨_, _, ends⟩
      refine ⟨passwordHash, hashed, ?_⟩
      rw [returns_bind, returns_transaction] at ends ⊢
      refine Tx.wp_mono
        (wp_activate_other
          (Tx.wp_mono ends ?_ fun _ _ impossible => impossible))
        ?_ fun _ _ impossible => impossible
      · intro user after returned
        cases user with
        | none => exact absurd returned returns_throw
        | some user => rfl
      · rintro _ after ⟨user, rfl, stores⟩
        exact stores

end OtherPassword

/-! ## What the policy promises -/

/--
On every store on which an operation sets some password and which permits this
one, it sets this one; and login then accepts it for the account.
-/
def SetWhereOthersAre
    (env : Environment)
    (around : Surroundings)
    (setting : String → Operation α)
    (account : α → Option Uuid)
    (permits : Store → Prop)
    (password : String) :
    Prop :=
  ∀ store other answer after,
    permits store →
    (setting other).execute env around store = (.ok answer, after) →
      ∃ answer after user,
        (setting password).execute env around store = (.ok answer, after) ∧
          account answer = some user.id ∧
          after.users.get? user.id = some user ∧
          user.passwordLoginEnabled = true ∧
          ∀ salt,
            (env.passwords.verifiedForLogin salt password
              (some user.passwordHash)).valid = true

/-- The operations with which a password is chosen set this one. -/
structure CanBeSet
    (env : Environment)
    (around : Surroundings)
    (password : String) :
    Prop where
  changePassword :
    ∀ principal currentPassword context salts draws,
      SetWhereOthersAre env around
        (fun newPassword =>
          AuthService.changePassword env.toDependencies principal
            currentPassword newPassword context salts draws)
        (fun bundle => some bundle.principal.userId)
        -- the new password is not the current one
        (fun store =>
          ∀ user, store.users.get? principal.userId = some user →
            (env.passwords.verified salts.same password
              user.passwordHash).valid = false)
        password
  resetPassword :
    ∀ token context salt,
      SetWhereOthersAre env around
        (fun newPassword =>
          EmailLinkService.resetPassword env.toDependencies token newPassword
            context salt)
        AuthEmail.userId (fun _ => True) password
  activate :
    ∀ token context salt,
      SetWhereOthersAre env around
        (fun firstPassword =>
          AccountActivationService.activate env.toDependencies token
            firstPassword context salt)
        (fun user => some user.id) (fun _ => True) password
  createAdmin :
    ∀ email displayName context userId salt,
      SetWhereOthersAre env around
        (fun password =>
          AuthService.createAdmin env.toDependencies email displayName password
            context userId salt)
        (fun user => some user.id) (fun _ => True) password

section Policy

variable
  (text : TextLibrary)
  (minimum maximum : Nat)
  (passwordHash : PasswordHash)
  (dummySalt : Nat)

/--
What the policy promises of one password: it accepts exactly the legal ones
that are not denied, refuses with its own error only, lets what it accepts be
hashed and logged in with, and so lets it be set by every operation that sets
passwords.
-/
structure AppliesPolicy (password : String) : Prop where
  accepts :
    (recommendedManager text minimum maximum passwordHash dummySalt).validate
        password = .ok () ↔
      LegalLength minimum maximum password ∧ ¬ Denied text password
  refuses : ∀ failure,
    (recommendedManager text minimum maximum passwordHash dummySalt).validate
        password = .error failure →
      ∃ detail, failure = passwordInvalid detail
  usable :
    LegalLength minimum maximum password → ¬ Denied text password →
      ∀ hashSalt salt, ∃ encoded,
        (recommendedManager text minimum maximum passwordHash dummySalt).hash
            hashSalt password = .ok encoded ∧
          ((recommendedManager text minimum maximum passwordHash
              dummySalt).verifiedForLogin salt password (some encoded)).valid =
            true
  settable :
    LegalLength minimum maximum password → ¬ Denied text password →
      ∀ env around,
        env.passwords =
          recommendedManager text minimum maximum passwordHash dummySalt →
        CanBeSet env around password

variable {text minimum maximum passwordHash dummySalt}

section Setting

variable
  {env : Environment}
  {around : Surroundings}
  {password : String}

/-- What an operation sets can be logged in with, if its hash verifies. -/
theorem setWhereOthersAre_of_returns
    {setting : String → Operation α}
    {account : α → Option Uuid}
    {permits : Store → Prop}
    {encoded : String}
    (verifies :
      ∀ salt,
        (env.passwords.verifiedForLogin salt password
          (some encoded)).valid = true)
    (returns :
      ∀ store other, permits store →
        (setting other).Returns env around (fun _ _ => True) store →
          (setting password).Returns env around
            (fun answer later => StoresHash encoded (account answer) later)
            store) :
    SetWhereOthersAre env around setting account permits password := by
  intro store other answer after permitted executed
  have others :
      (setting other).Returns env around (fun _ _ => True) store :=
    Operation.returns_iff.mpr ⟨answer, after, executed, trivial⟩
  rcases Operation.returns_iff.mp (returns store other permitted others) with
    ⟨answer, after, executes, user, isUser, stored, enabled, rfl⟩
  exact ⟨answer, after, user, executes, isUser, stored, enabled, verifies⟩

/-- A password that is valid, and whose hashes verify, can be set. -/
theorem canBeSet_of_validate
    (valid : env.passwords.validate password = .ok ())
    (verifies :
      ∀ hashSalt salt,
        (env.passwords.verifiedForLogin salt password
          (some (env.passwords.passwordHash.hash hashSalt password))).valid =
            true) :
    CanBeSet env around password where
  changePassword _ _ _ salts _ :=
    setWhereOthersAre_of_returns (verifies salts.hash)
      fun _ _ different returns =>
        returns_changePassword_other valid (hash_of_validate valid salts.hash)
          different returns
  resetPassword _ _ salt :=
    setWhereOthersAre_of_returns (verifies salt) fun _ _ _ returns =>
      returns_resetPassword_other valid (hash_of_validate valid salt) returns
  activate _ _ salt :=
    setWhereOthersAre_of_returns (verifies salt) fun _ _ _ returns =>
      returns_activate_other valid (hash_of_validate valid salt) returns
  createAdmin _ _ _ _ salt :=
    setWhereOthersAre_of_returns (verifies salt) fun _ _ _ returns =>
      returns_createAdmin_other (hash_of_validate valid salt) returns

end Setting

end Policy

/-! ## Two passphrases -/

/-- The reference environment with the recommended rules. -/
def recommendedEnvironment : Environment :=
  { referenceEnvironment with
    passwords := recommendedManager plainText 15 128 labelledHash 0 }

/-- Nobody answers, and the clock stands still. -/
def silentSurroundings : Surroundings where
  now := 0
  accessToken := fun _ => .error .typeError
  decodeGoogle := fun _ _ => .invalid
  accepts := fun _ => false
  dispatches := fun _ => false

/-- The creation of the administrator with a password. -/
def creatingAdmin (password : String) : Operation UserAccount :=
  AuthService.createAdmin recommendedEnvironment.toDependencies
    "admin@example.test" "Admin" password {} 1 0

end EpokAuth
