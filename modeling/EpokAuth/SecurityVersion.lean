import EpokAuth.AccountStep

namespace EpokAuth

open Transactional

/-!
# The security version of an account

The version grows with every change that older links must not survive.  A move
that leaves it alone leaves alone everything that it guards.
-/

/-- The attributes of an account that its security version guards. -/
structure GuardedAttributes where
  status : UserStatus
  roles : List String
  scopes : List String
  googleAutoLinkAllowed : Bool
  emailLinkLoginEnabled : Bool
  passwordLoginEnabled : Bool
  deriving Repr, DecidableEq

/-- The attributes of an account whose change ends its sessions or its links. -/
def UserAccount.guardedAttributes (user : UserAccount) : GuardedAttributes where
  status := user.status
  roles := user.roles
  scopes := user.scopes
  googleAutoLinkAllowed := user.googleAutoLinkAllowed
  emailLinkLoginEnabled := user.emailLinkLoginEnabled
  passwordLoginEnabled := user.passwordLoginEnabled

/-- The identity is linked to the account. -/
def OwnsIdentity
    (identities : Table ExternalIdentity)
    (userId id : Uuid) :
    Prop :=
  ∃ identity, identities.get? id = some identity ∧ identity.userId = userId

/-- The passkey is registered for the account and not revoked. -/
def HoldsPasskey
    (passkeys : Table PasskeyCredential)
    (userId id : Uuid) :
    Prop :=
  ∃ passkey,
    passkeys.get? id = some passkey ∧ passkey.userId = userId ∧
      passkey.revokedAt = none

/--
Everything the version guards is as before.  A password that was verified may
have been hashed again.
-/
structure Unguarded
    (rehashes : Prop)
    (userId : Uuid)
    (earlier later : Core)
    (user after : UserAccount) :
    Prop where
  attributes : after.guardedAttributes = user.guardedAttributes
  password : rehashes ∨ after.passwordHash = user.passwordHash
  lock :
    ∀ lockedUntil, after.lockedUntil = some lockedUntil →
      user.lockedUntil = some lockedUntil
  identities :
    ∀ id,
      OwnsIdentity later.identities userId id ↔
        OwnsIdentity earlier.identities userId id
  passkeys :
    ∀ id,
      HoldsPasskey later.passkeys userId id ↔
        HoldsPasskey earlier.passkeys userId id

/-- The version of the account grew, or all it guards is as before. -/
def Versioned
    (rehashes : Prop)
    (userId : Uuid)
    (earlier later : Core) :
    Prop :=
  ∀ user, earlier.users.get? userId = some user →
    ∃ after,
      later.users.get? userId = some after ∧
        (user.securityVersion < after.securityVersion ∨
          (after.securityVersion = user.securityVersion ∧
            Unguarded rehashes userId earlier later user after))

variable
  {rehashes : Prop}
  {userId : Uuid}

theorem Unguarded.trans
    {first second third : Core}
    {user middle after : UserAccount}
    (earlier : Unguarded rehashes userId first second user middle)
    (later : Unguarded rehashes userId second third middle after) :
    Unguarded rehashes userId first third user after where
  attributes := later.attributes.trans earlier.attributes
  password := by
    rcases later.password with rehashed | same
    · exact .inl rehashed
    · rw [same]
      exact earlier.password
  lock := fun lockedUntil locked =>
    earlier.lock lockedUntil (later.lock lockedUntil locked)
  identities := fun id => (later.identities id).trans (earlier.identities id)
  passkeys := fun id => (later.passkeys id).trans (earlier.passkeys id)

namespace Versioned

/-- Nothing changes where the three tables are the same. -/
theorem of_tables
    {earlier later : Core}
    (users : later.users = earlier.users)
    (identities : later.identities = earlier.identities)
    (passkeys : later.passkeys = earlier.passkeys) :
    Versioned rehashes userId earlier later := by
  intro user found
  rw [← users] at found
  refine ⟨user, found, .inr ⟨rfl, ?_⟩⟩
  exact
    { attributes := rfl
      password := .inr rfl
      lock := fun _ locked => locked
      identities := fun _ => by rw [identities]
      passkeys := fun _ => by rw [passkeys] }

theorem refl (core : Core) : Versioned rehashes userId core core :=
  of_tables rfl rfl rfl

theorem trans
    {first second third : Core}
    (earlier : Versioned rehashes userId first second)
    (later : Versioned rehashes userId second third) :
    Versioned rehashes userId first third := by
  intro user found
  rcases earlier user found with ⟨middle, foundMiddle, firstGrows⟩
  rcases later middle foundMiddle with ⟨after, foundAfter, secondGrows⟩
  refine ⟨after, foundAfter, ?_⟩
  rcases firstGrows with grew | ⟨kept, same⟩
  · left
    rcases secondGrows with grewAgain | ⟨kept, _⟩
    · exact grew.trans grewAgain
    · rw [kept]
      exact grew
  · rcases secondGrows with grew | ⟨keptAgain, sameAgain⟩
    · left
      rw [← kept]
      exact grew
    · exact .inr ⟨keptAgain.trans kept, same.trans sameAgain⟩

/-- The version never decreases. -/
theorem mono
    {earlier later : Core}
    {user : UserAccount}
    (versioned : Versioned rehashes userId earlier later)
    (found : earlier.users.get? userId = some user) :
    ∃ after,
      later.users.get? userId = some after ∧
        user.securityVersion ≤ after.securityVersion := by
  rcases versioned user found with ⟨after, foundAfter, grew | ⟨kept, _⟩⟩
  · exact ⟨after, foundAfter, grew.le⟩
  · exact ⟨after, foundAfter, kept.ge⟩

end Versioned

/-! ## Account changes -/

/-- The change follows a successful verification. -/
def AccountChange.Verifies : AccountChange → Prop
  | .verify _ => True
  | _ => False

/-- What a change that leaves the version alone leaves alone as well. -/
structure AccountChange.LeavesGuarded
    (change : AccountChange)
    (user after : UserAccount) :
    Prop where
  version : after.securityVersion = user.securityVersion
  notAdvancing : ¬ change.Advances
  attributes : after.guardedAttributes = user.guardedAttributes
  password : change.Verifies ∨ after.passwordHash = user.passwordHash
  lock :
    ∀ lockedUntil, after.lockedUntil = some lockedUntil →
      user.lockedUntil = some lockedUntil

/-- An administered account keeps its version only if nothing guarded differs. -/
theorem guardedAttributes_of_not_securityChanged
    {user : UserAccount}
    {resolved : ResolvedUpdate}
    (unchanged : securityChanged user resolved = false) :
    resolved.status = user.status ∧ resolved.roles = user.roles ∧
      resolved.scopes = user.scopes ∧
      resolved.googleAutoLinkAllowed = user.googleAutoLinkAllowed ∧
      resolved.emailLinkLoginEnabled = user.emailLinkLoginEnabled := by
  simpa [securityChanged, and_assoc] using unchanged

/-- Every change advances the version or leaves alone what it guards. -/
theorem AccountChange.advances_or_leavesGuarded
    {settings : AuthSettings}
    (change : AccountChange)
    (now : Instant)
    (user : UserAccount) :
    user.securityVersion < (change.apply settings now user).securityVersion ∨
      change.LeavesGuarded user (change.apply settings now user) := by
  cases change with
  | fail =>
      simp only [AccountChange.apply, afterPasswordFailure]
      split
      · exact .inl (Nat.lt_succ_self _)
      · rename_i unlocked
        right
        refine ⟨rfl, id, rfl, .inr rfl, ?_⟩
        intro lockedUntil locked
        have locks : lockAfterFailure settings user now = some lockedUntil :=
          locked
        rw [locks] at unlocked
        exact absurd rfl unlocked
  | verify verification =>
      right
      refine ⟨rfl, id, rfl, .inl trivial, ?_⟩
      intro lockedUntil locked
      cases locked
  | replace reason passwordHash =>
      left
      cases reason with
      | _ => exact Nat.lt_succ_self _
  | autoLink passwordHash =>
      exact .inl (Nat.lt_succ_self _)
  | administer resolved =>
      simp only [AccountChange.apply, applyUpdate]
      split
      · exact .inl (Nat.lt_succ_self _)
      · rename_i unchanged
        right
        rcases guardedAttributes_of_not_securityChanged
            (Bool.eq_false_iff.mpr unchanged) with
          ⟨status, roles, scopes, autoLink, emailLink⟩
        refine ⟨rfl, id, ?_, .inr rfl, fun _ locked => locked⟩
        simp only [UserAccount.guardedAttributes, status, roles, scopes,
          autoLink, emailLink]
  | fence clearsAutoLink =>
      exact .inl (Nat.lt_succ_self _)

/-! ## Rows of identities and passkeys -/

theorem ownsIdentity_put
    {identities : Table ExternalIdentity}
    {identity : ExternalIdentity}
    (agrees :
      identity.userId = userId ↔ OwnsIdentity identities userId identity.id)
    (id : Uuid) :
    OwnsIdentity (identities.put identity) userId id ↔
      OwnsIdentity identities userId id := by
  unfold OwnsIdentity at agrees ⊢
  rw [Table.get?_put]
  split
  · rename_i isIdentity
    rw [isIdentity]
    exact Iff.trans (by simp) agrees
  · rfl

theorem holdsPasskey_put
    {passkeys : Table PasskeyCredential}
    {passkey : PasskeyCredential}
    (agrees :
      (passkey.userId = userId ∧ passkey.revokedAt = none) ↔
        HoldsPasskey passkeys userId passkey.id)
    (id : Uuid) :
    HoldsPasskey (passkeys.put passkey) userId id ↔
      HoldsPasskey passkeys userId id := by
  unfold HoldsPasskey at agrees ⊢
  rw [Table.get?_put]
  split
  · rename_i isPasskey
    rw [isPasskey]
    exact Iff.trans (by simp) agrees
  · rfl

/-- An identity inserted for another account is not linked to this one. -/
theorem ownsIdentity_put_other
    {identities : Table ExternalIdentity}
    {identity : ExternalIdentity}
    (other : identity.userId ≠ userId)
    (absent : identities.get? identity.id = none)
    (id : Uuid) :
    OwnsIdentity (identities.put identity) userId id ↔
      OwnsIdentity identities userId id := by
  refine ownsIdentity_put ?_ id
  constructor
  · intro same
    exact absurd same other
  · rintro ⟨stored, found, _⟩
    rw [absent] at found
    cases found

/-- What is attached to another account leaves the identities of this one. -/
theorem Attachment.ownsIdentity_other
    {attachment : Attachment}
    {other : Uuid}
    {core : Core}
    (valid : attachment.Valid other core)
    (different : other ≠ userId)
    (id : Uuid) :
    OwnsIdentity (attachment.identities core.identities) userId id ↔
      OwnsIdentity core.identities userId id := by
  cases attachment with
  | insertIdentity identity =>
      rcases valid with ⟨owned, absent⟩
      exact ownsIdentity_put_other (owned ▸ different) absent id
  | deleteIdentity identityId =>
      rcases valid with ⟨identity, found, owned⟩
      unfold OwnsIdentity
      rw [Attachment.identities, Table.get?_erase]
      split
      · rename_i isIdentity
        rw [isIdentity, found]
        constructor
        · rintro ⟨_, impossible, _⟩
          cases impossible
        · rintro ⟨stored, same, ownedToo⟩
          obtain rfl := Option.some.inj same
          exact absurd (owned.symm.trans ownedToo) different
      · rfl
  | _ => rfl

/-- What is attached to another account leaves the passkeys of this one. -/
theorem Attachment.holdsPasskey_other
    {attachment : Attachment}
    {other : Uuid}
    {core : Core}
    {now : Instant}
    (valid : attachment.Valid other core)
    (different : other ≠ userId)
    (id : Uuid) :
    HoldsPasskey (attachment.passkeys now core.passkeys) userId id ↔
      HoldsPasskey core.passkeys userId id := by
  cases attachment with
  | insertPasskey passkey =>
      rcases valid with ⟨owned, absent⟩
      refine holdsPasskey_put ?_ id
      constructor
      · rintro ⟨ownedToo, _⟩
        exact absurd (owned.symm.trans ownedToo) different
      · rintro ⟨stored, found, _⟩
        rw [absent] at found
        cases found
  | revokePasskey passkeyId =>
      rcases valid with ⟨passkey, found, owned⟩
      have passkeyKey : passkey.id = passkeyId := Table.key_of_get? found
      subst passkeyKey
      simp only [Attachment.passkeys, found]
      refine holdsPasskey_put ?_ id
      constructor
      · rintro ⟨ownedToo, _⟩
        exact absurd (owned.symm.trans ownedToo) different
      · rintro ⟨stored, foundToo, ownedToo, _⟩
        obtain rfl := Option.some.inj (found.symm.trans foundToo)
        exact absurd (owned.symm.trans ownedToo) different
  | _ => rfl

/-! ## Moves -/

variable
  {settings : AuthSettings}
  {core : Core}

/-- Enrolling an account changes nothing of an existing one. -/
theorem Versioned.enroll
    {user : UserAccount}
    {identity : Option ExternalIdentity}
    (enabled : (Move.enroll user identity).Enabled settings core) :
    Versioned rehashes userId core
      ((Move.enroll user identity).perform settings core) := by
  rcases enabled with ⟨absent, _, attached⟩
  intro existing found
  have different : userId ≠ user.id := by
    rintro rfl
    rw [absent] at found
    cases found
  refine ⟨existing, ?_, .inr ⟨rfl, rfl, .inr rfl, fun _ locked => locked,
    ?_, fun _ => Iff.rfl⟩⟩
  · exact (Table.get?_put_of_ne core.users different).trans found
  · intro id
    cases identity with
    | none =>
        rfl
    | some inserted =>
        rcases attached inserted rfl with ⟨owned, missing⟩
        exact ownsIdentity_put_other (owned ▸ different.symm) missing id

/-- Changing an account advances its version or leaves what it guards. -/
theorem Versioned.account
    {changed : Uuid}
    {change : AccountChange}
    {attachment : Attachment}
    {now : Instant}
    (enabled :
      (Move.account changed change attachment now).Enabled settings core)
    (rehashed : change.Verifies → rehashes) :
    Versioned rehashes userId core
      ((Move.account changed change attachment now).perform settings
        core) := by
  rcases enabled with ⟨account, stored, _, valid, advancing⟩
  intro user found
  by_cases same : changed = userId
  · subst same
    obtain rfl := Option.some.inj (found.symm.trans stored)
    refine ⟨_, Move.perform_account_self found, ?_⟩
    rcases AccountChange.advances_or_leavesGuarded change now user with
      grew | leaves
    · exact .inl grew
    · have nothing : attachment = .nothing := by
        by_contra something
        exact leaves.notAdvancing (advancing something)
      subst nothing
      rw [Move.perform_account found]
      exact .inr ⟨leaves.version, leaves.attributes,
        leaves.password.imp_left rehashed, leaves.lock,
        fun _ => Iff.rfl, fun _ => Iff.rfl⟩
  · have accountKey : account.id = changed := Table.key_of_get? stored
    rw [Move.perform_account stored]
    refine ⟨user, ?_, .inr ⟨rfl, rfl, .inr rfl, fun _ locked => locked,
      Attachment.ownsIdentity_other valid same,
      Attachment.holdsPasskey_other valid same⟩⟩
    have different : userId ≠ (change.apply settings now account).id := by
      rw [AccountChange.apply_id, accountKey]
      exact Ne.symm same
    exact (Table.get?_put_of_ne core.users different).trans found

/-- Every enabled move advances the version or leaves what it guards. -/
theorem Move.versioned
    {move : Move}
    (enabled : move.Enabled settings core)
    (rehashed :
      ∀ changed change attachment now,
        move = .account changed change attachment now →
        change.Verifies → rehashes) :
    Versioned rehashes userId core (move.perform settings core) := by
  cases move with
  | enroll user identity =>
      exact .enroll enabled
  | account changed change attachment now =>
      exact .account enabled (rehashed _ _ _ _ rfl)
  | rotate sessionId successor now =>
      rcases enabled with ⟨session, _, found, _⟩
      rw [Move.perform_rotate found]
      exact .of_tables rfl rfl rfl
  | updateIdentity identity =>
      rcases enabled with ⟨stored, found, owner, _⟩
      intro user account
      refine ⟨user, account, .inr ⟨rfl, rfl, .inr rfl,
        fun _ locked => locked, ownsIdentity_put ?_, fun _ => Iff.rfl⟩⟩
      simp [OwnsIdentity, found, owner]
  | updatePasskey passkey =>
      rcases enabled with ⟨stored, found, owner, _, revoked⟩
      intro user account
      refine ⟨user, account, .inr ⟨rfl, rfl, .inr rfl,
        fun _ locked => locked, fun _ => Iff.rfl, holdsPasskey_put ?_⟩⟩
      simp [HoldsPasskey, found, owner, revoked]
  | activateLink linkId now =>
      rcases enabled with ⟨link, _, found, _⟩
      rw [Move.perform, Core.reviseLink_of_get? found]
      exact .of_tables rfl rfl rfl
  | failLink linkId now =>
      rcases enabled with ⟨link, found, _⟩
      rw [Move.perform, Core.reviseLink_of_get? found]
      exact .of_tables rfl rfl rfl
  | revokeLink linkId now =>
      rcases enabled with ⟨link, found, _⟩
      rw [Move.perform, Core.reviseLink_of_get? found]
      exact .of_tables rfl rfl rfl
  | consumeLink linkId now =>
      rcases enabled with ⟨link, _, found, _⟩
      rw [Move.perform, Core.reviseLink_of_get? found]
      exact .of_tables rfl rfl rfl
  | _ => exact .of_tables rfl rfl rfl

end EpokAuth
