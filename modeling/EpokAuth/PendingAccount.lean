import EpokAuth.AccountStep
import EpokAuth.ScriptedRun
import EpokAuth.SessionStep

namespace EpokAuth

open Transactional

/-!
# Pending accounts

An account that waits for activation holds no session, and leaves this status
by being activated or by being disabled.  A disabled one can be enabled by an
administrator, whether it was ever activated or not.
-/

/-- No session belongs to the account. -/
def Sessionless (core : Core) (userId : Uuid) : Prop :=
  ∀ id session, core.sessions.get? id = some session →
    session.userId ≠ userId

/-- An account that is not active and has no session. -/
def Dormant (core : Core) (userId : Uuid) : Prop :=
  ¬ StatusAt core userId .active ∧ Sessionless core userId

variable
  {settings : AuthSettings}
  {core : Core}
  {userId : Uuid}

/-- An account has one status. -/
theorem StatusAt.unique
    {first second : UserStatus}
    (one : StatusAt core userId first)
    (another : StatusAt core userId second) :
    first = second := by
  obtain ⟨user, found, rfl⟩ := one
  obtain ⟨other, otherFound, rfl⟩ := another
  rw [Option.some.inj (found.symm.trans otherFound)]

/-- No session is issued to an account that is not active. -/
theorem Sessionless.move
    {move : Move}
    (sessionless : Sessionless core userId)
    (inactive : ¬ StatusAt core userId .active)
    (enabled : move.Enabled settings core) :
    Sessionless (move.perform settings core) userId := by
  intro id session found
  have taken := Move.sessionStep enabled
  generalize (move.perform settings core).sessions = sessions at found taken
  cases taken with
  | kept =>
      exact sessionless id session found
  | revoked property keepsKey _ =>
      rw [Table.get?_revise, Option.map_eq_some_iff] at found
      obtain ⟨earlier, present, rfl⟩ := found
      have other := sessionless id earlier present
      split
      · exact other
      · exact other
  | opened opening =>
      obtain ⟨_, _, _, _, _, user, account, available⟩ := opening
      rw [Table.get?_put] at found
      split at found
      · obtain rfl := Option.some.inj found
        rintro rfl
        exact inactive
          ⟨user, account, (UserAccount.canAuthenticate_iff.mp available).1⟩
      · exact sessionless id session found
  | @rotated parent successor now parentFound rotating =>
      obtain ⟨_, _, foundToo, _, _, _, _, _, _, _, _, sameUser, _⟩ := rotating
      obtain rfl := Option.some.inj (parentFound.symm.trans foundToo)
      have other := sessionless parent.id parent parentFound
      rw [Table.get?_put] at found
      split at found
      · obtain rfl := Option.some.inj found
        exact other
      · rw [Table.get?_put] at found
        split at found
        · obtain rfl := Option.some.inj found
          rw [sameUser]
          exact other
        · exact sessionless id session found

/-! ## Accounts that are no longer pending -/

/-- An account that is not waiting for activation. -/
def Settled (core : Core) (userId : Uuid) : Prop :=
  ∃ user,
    core.users.get? userId = some user ∧ user.status ≠ .pendingActivation

/-- No account becomes pending again. -/
theorem Settled.move
    {move : Move}
    (settled : Settled core userId)
    (enabled : move.Enabled settings core) :
    Settled (move.perform settings core) userId := by
  obtain ⟨user, found, notPending⟩ := settled
  have taken := Move.accountStep enabled userId
  unfold Settled
  generalize (move.perform settings core).users.get? userId = after at taken ⊢
  cases taken with
  | kept =>
      exact ⟨user, found, notPending⟩
  | enrolled absent _ =>
      rw [absent] at found
      cases found
  | @changed stored change attachment now storedFound permitted =>
      obtain rfl := Option.some.inj (found.symm.trans storedFound)
      refine ⟨_, rfl, ?_⟩
      rw [AccountChange.apply_status]
      cases change with
      | administer resolved =>
          intro pending
          exact notPending (permitted.2 pending)
      | replace reason passwordHash =>
          cases reason with
          | activation =>
              simp
          | _ => exact notPending
      | _ => exact notPending

/-- A settled account stays settled along enabled moves. -/
theorem Performs.settled
    {moves : List Move}
    {later : Core}
    (performs : Performs settings core moves later)
    (settled : Settled core userId) :
    Settled later userId :=
  performs.preserves (fun core => Settled core userId)
    (fun _ _ _ enabled settled => settled.move enabled) settled

/-- A settled account stays settled along a run. -/
theorem ServiceRun.settled
    {env : Environment}
    {before after : Store}
    {labels : List Executed}
    (run : ServiceRun env before labels after)
    (settled : Settled before.toCore userId) :
    Settled after.toCore userId :=
  ServiceRun.preserves_core run (fun core => Settled core userId)
    (fun _ _ enabled settled => settled.move enabled) settled

/-- A settled account is not pending. -/
theorem Settled.not_pending
    (settled : Settled core userId) :
    ¬ StatusAt core userId .pendingActivation := by
  obtain ⟨user, found, notPending⟩ := settled
  rintro ⟨other, otherFound, pending⟩
  obtain rfl := Option.some.inj (found.symm.trans otherFound)
  exact notPending pending

end EpokAuth
