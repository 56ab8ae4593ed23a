import EpokAuth.AccountDiscipline
import EpokAuth.DisciplinedParts
import EpokAuth.UserEffect

namespace EpokAuth

open Transactional

/-!
# The services keep the discipline of accounts

Every transaction body is read once, statement by statement.  A transaction
that changes an account row locks it first and changes it as its operation
intends; what it issues afterwards needs the locks only.
-/

/-! ## Changes that keep administrators -/

/-- Changes other than administration keep active administrators. -/
theorem AccountChange.keeps_admin
    {settings : AuthSettings}
    {change : AccountChange}
    {now : Instant}
    {user : UserAccount}
    (notAdministered : ∀ resolved, change ≠ .administer resolved)
    (active : user.IsActiveAdmin settings) :
    (change.apply settings now user).IsActiveAdmin settings := by
  have status :
      user.status = .active →
        (change.apply settings now user).status = .active := by
    intro isActive
    rw [AccountChange.apply_status]
    split
    · exact absurd rfl (notAdministered _)
    · rfl
    · exact isActive
  simp only [UserAccount.IsActiveAdmin, Store.hasRole, Bool.and_eq_true,
    Bool.not_true, Bool.false_or, decide_eq_true_eq] at active ⊢
  rw [AccountChange.apply_roles notAdministered]
  exact ⟨active.1, status active.2⟩

variable
  {env : Environment}
  {call : ServiceTx}
  {standing : ServiceStanding}
  {now : Instant}
  {context : RequestContext}

open Tx (Upholds StaysWithin)

/-- Where nothing is claimed of outcomes. -/
abbrev Keeps (env : Environment) (call : ServiceTx) (body : Tx α)
    (standing : ServiceStanding) : Prop :=
  Upholds (accountDiscipline env) env call body (fun _ _ => True)
    (fun _ _ => True) standing

/-! ## Statements under the discipline -/

section Statements

variable
  {failed : Failure → ServiceStanding → Prop}

/-- A body that writes no row of concern keeps the discipline. -/
theorem keeps_of_within
    {kinds : List StatementKind}
    {body : Tx α}
    (within : StaysWithin kinds body)
    (harmless : ∀ kind ∈ kinds, kind ∉ accountConcerns) :
    Keeps env call body standing :=
  upholds_of_within within harmless (fun _ _ => trivial) fun _ _ => trivial

/-- A body that only reads and records keeps the discipline. -/
theorem keeps_of_harmless
    {body : Tx α}
    (within : StaysWithin [] body) :
    Keeps env call body standing :=
  keeps_of_within within (by simp)

/-- A held account is changed as the operation intends. -/
theorem upholds_changeAccount
    {user : UserAccount}
    {normal : Unit → ServiceStanding → Prop}
    (change : AccountChange)
    (holds : HoldsRow standing (.user user.id) (some user))
    (clock : call.clock = some now)
    (permitted : change.Permitted now user)
    (intended : call.Intends env.toDependencies user change)
    (notAdministered : ∀ resolved, change ≠ .administer resolved)
    (continues :
      ∀ later,
        HoldsRow later (.user user.id)
          (some (change.apply env.settings now user)) →
        normal () later)
    (refused : ∀ failure later, failed failure later) :
    Upholds (accountDiscipline env) env call
      (Tx.updateUser (change.apply env.settings now user)) normal failed
      standing := by
  refine upholds_updateUser ?_ ?_ fun failure later _ => refused failure later
  · intro later follows
    have holdsLater := holds.reads follows
    refine ⟨⟨user, change, now, holdsLater, clock, permitted, intended, rfl⟩,
      ?_⟩
    intro current found active
    rw [AccountChange.apply_id] at found
    obtain rfl := Option.some.inj (holdsLater.seen.symm.trans found)
    exact .inl (AccountChange.keeps_admin notAdministered active)
  · intro later _ holdsLater
    rw [AccountChange.apply_id] at holdsLater
    exact continues later holdsLater

/-- The sessions of a locked account are revoked. -/
theorem upholds_revokeUserSessions
    {userId : Uuid}
    {normal : Nat → ServiceStanding → Prop}
    (locked : Locked standing.locks (.user userId))
    (continues :
      ∀ count later, standing.locks ⊆ later.locks → normal count later) :
    Upholds (accountDiscipline env) env call (Tx.revokeUserSessions userId now)
      normal failed standing := by
  refine upholds_sweep rfl ?_ ?_
  · intro seen seeing
    exact .inl (locked.mono seeing.locks)
  · intro visited later follows
    exact continues visited later follows.locks

/-- A session of a locked account is issued, and nothing follows it. -/
theorem upholds_opening
    {deps : Dependencies}
    {user : UserAccount}
    {draws : SessionDraws}
    {normal : SessionBundle → ServiceStanding → Prop}
    (locked : Locked standing.locks (.user user.id))
    (opening : call.opening = some draws)
    (continues : ∀ value later, normal value later)
    (refused : ∀ failure later, failed failure later) :
    Upholds (accountDiscipline env) env call
      (issue deps user now none context draws) normal failed standing := by
  rw [issue, upholds_bind]
  refine upholds_insertSession ?_ ?_ fun failure later _ =>
    refused failure later
  · intro later follows
    exact ⟨locked.mono follows.locks, .inl ⟨draws, opening, rfl⟩⟩
  · intro later _ _
    rw [upholds_bind]
    exact upholds_record fun _ _ _ => continues _ _

end Statements

/-! ## Passwords -/

/-- A failure is counted against the account that is held. -/
theorem keeps_recordPasswordFailure
    {eventType : SecurityEventType}
    {user : UserAccount}
    {sessionId : Option Uuid}
    {method : Option ReauthenticationMethod}
    {normal : Unit → ServiceStanding → Prop}
    (holds : HoldsRow standing (.user user.id) (some user))
    (clock : call.clock = some now)
    (intended :
      user.passwordLoginEnabled = true → user.canAuthenticate now = true →
        call.Intends env.toDependencies user .fail)
    (continues : ∀ later, normal () later) :
    Upholds (accountDiscipline env) env call
      (recordPasswordFailure env.settings eventType (some user) now context
        sessionId method)
      normal (fun _ _ => True) standing := by
  rw [recordPasswordFailure, upholds_bind]
  have records :
      ∀ later,
        Upholds (accountDiscipline env) env call
          (recordSecurityEvent eventType now context (some user.id) sessionId
            (method.map fun method => [("method", .text method.value)]))
          normal (fun _ _ => True) later :=
    fun later => upholds_record fun _ _ _ => continues _
  simp only [Option.elim_some, Option.map_some]
  unfold countPasswordFailure
  split
  · rename_i able
    rw [Bool.and_eq_true] at able
    rw [upholds_bind]
    refine upholds_changeAccount .fail holds clock able
      (intended able.1 able.2)
      (fun _ same => by cases same) ?_ fun _ _ => trivial
    intro later holdsLater
    split
    · rw [upholds_bind]
      refine upholds_revokeUserSessions holdsLater.locked ?_
      intro _ _ _
      exact upholds_record fun _ _ _ => records _
    · exact records _
  · exact records _

theorem keeps_login
    {normalizedEmail password : String}
    {salt : Nat}
    {draws : SessionDraws} :
    Keeps env (.login normalizedEmail password now context salt draws)
      (login env.toDependencies normalizedEmail password now context salt
        draws)
      standing := by
  rw [Keeps, login_eq, upholds_bind]
  refine upholds_getUserByEmail_locked ?_ ?_
  · intro later _
    simp only [Bool.true_or, if_true, upholds_bind]
    exact upholds_record fun _ _ _ => trivial
  · intro user later _ holds _
    dsimp only
    split
    · rename_i refused
      rw [upholds_bind]
      refine keeps_recordPasswordFailure holds rfl ?_ fun _ => trivial
      intro enabled able
      refine (verificationChange_of_invalid ?_).symm
      simpa [enabled, able] using refused
    · rename_i accepted
      simp only [Bool.or_eq_true, Bool.not_eq_true', not_or,
        Bool.not_eq_false] at accepted
      rcases accepted with ⟨able, valid⟩
      simp only [Option.bind_some, if_pos able.1] at valid ⊢
      rw [upholds_bind, applyPasswordVerification, upholds_bind]
      refine upholds_changeAccount (.verify _) holds rfl able
        (verificationChange_of_valid valid).symm
        (fun _ same => by cases same) ?_ fun _ _ => trivial
      intro later holdsLater
      rw [upholds_pure, upholds_bind]
      exact upholds_opening holdsLater.locked rfl
        (fun _ _ => keeps_of_harmless (.bind .record fun _ => .pure _))
        fun _ _ => trivial

theorem keeps_reauthenticatePassword
    {principal : Principal}
    {password : String}
    {salt : Nat} :
    Keeps env (.reauthenticatePassword principal password now context salt)
      (reauthenticatePassword env.toDependencies principal password now
        context salt)
      standing := by
  rw [Keeps, reauthenticatePassword, upholds_bind]
  refine upholds_requirePrincipalUser_locked ?_ fun _ _ => trivial
  intro user later holds able
  refine upholds_ite ?_ ?_
  · intro refused
    rw [upholds_bind]
    refine keeps_recordPasswordFailure holds rfl ?_ fun _ => trivial
    intro enabled _
    refine (verificationChange_of_invalid ?_).symm
    simpa [enabled] using refused
  · intro accepted
    simp only [Bool.or_eq_true, Bool.not_eq_true', not_or,
      Bool.not_eq_false] at accepted
    rcases accepted with ⟨enabled, valid⟩
    simp only [if_pos enabled] at valid ⊢
    rw [upholds_bind, applyPasswordVerification, upholds_bind]
    refine upholds_changeAccount (.verify _) holds rfl ⟨enabled, able⟩
      (verificationChange_of_valid valid).symm
      (fun _ same => by cases same) ?_ fun _ _ => trivial
    intro _ _
    exact keeps_of_harmless (.bind .record fun _ => .pure _)

theorem keeps_changePassword
    {principal : Principal}
    {currentPassword newPassword : String}
    {salts : ChangePasswordSalts}
    {draws : SessionDraws} :
    Keeps env
      (.changePassword principal currentPassword newPassword now context salts
        draws)
      (changePassword env.toDependencies principal currentPassword newPassword
        now context salts draws)
      standing := by
  rw [Keeps, changePassword, upholds_bind]
  refine upholds_requirePrincipalUser_locked ?_ fun _ _ => trivial
  intro user later holds able
  refine upholds_ite (fun _ => trivial) fun verified => ?_
  refine upholds_ite (fun _ => trivial) fun different => ?_
  rw [upholds_bind, upholds_ofExcept]
  split
  · rename_i passwordHash hashed
    have active : user.status = .active := (user.canAuthenticate_iff.mp able).1
    rw [upholds_bind]
    refine upholds_changeAccount (.replace .chosen passwordHash) holds rfl
      active
      ⟨by simpa using verified, by simpa using different, passwordHash,
        hashed, rfl⟩
      (fun _ same => by cases same) ?_ fun _ _ => trivial
    intro last holdsLast
    rw [upholds_bind]
    refine upholds_revokeUserSessions holdsLast.locked ?_
    intro _ _ subset
    rw [upholds_bind]
    exact upholds_opening (holdsLast.locked.mono subset) rfl
      (fun _ _ => keeps_of_harmless (.bind .record fun _ => .pure _))
      fun _ _ => trivial
  · trivial

/-- A password is replaced and the sessions are ended, under the lock. -/
theorem keeps_replacing
    {user : UserAccount}
    {userId : Uuid}
    {passwordHash : String}
    {eventType : SecurityEventType}
    {answer : α}
    (reason : Replacement)
    (holds : HoldsRow standing (.user user.id) (some user))
    (isUser : user.id = userId)
    (clock : call.clock = some now)
    (permitted : reason.Permitted user)
    (intended :
      call.Intends env.toDependencies user (.replace reason passwordHash)) :
    Keeps env call
      (do
        Tx.updateUser (reason.apply passwordHash now user)
        let _ ← Tx.revokeUserSessions userId now
        recordSecurityEvent eventType now context (some userId)
        return answer)
      standing := by
  subst isUser
  rw [Keeps, upholds_bind]
  refine upholds_changeAccount (.replace reason passwordHash) holds clock
    permitted intended (fun _ same => by cases same) ?_ fun _ _ => trivial
  intro later holdsLater
  rw [upholds_bind]
  refine upholds_revokeUserSessions holdsLater.locked ?_
  intro _ _ _
  exact keeps_of_harmless (.bind .record fun _ => .pure _)

theorem keeps_resetPassword
    {userId : Uuid}
    {passwordHash : String} :
    Keeps env (.resetPassword userId passwordHash now context)
      (resetPassword userId passwordHash now context) standing := by
  rw [Keeps, resetPassword, upholds_bind]
  refine upholds_getUserById_locked (fun _ _ _ => trivial) ?_
  intro user later _ holds isUser
  exact keeps_replacing .temporary holds isUser rfl trivial rfl

/-! ## Sessions -/

/-- The administrative revocation may go without the lock. -/
theorem keeps_revokeUserSessions
    {userId : Uuid} :
    Keeps env (.revokeUserSessions userId now context)
      (revokeUserSessions userId now context) standing := by
  rw [Keeps, revokeUserSessions, upholds_bind]
  refine upholds_read rfl rfl ?_
  intro later _
  split
  · trivial
  · rw [upholds_bind]
    refine upholds_sweep rfl (fun _ _ => .inr ⟨now, context, rfl⟩) ?_
    intro _ _ _
    exact keeps_of_harmless (.bind .record fun _ => .pure _)

/-- The owner of a candidate is locked, and is the owner of its session. -/
theorem owner_of_candidate
    {candidate session : RefreshSession}
    {early middle late : ServiceStanding}
    (stored : early.view.sessions.get? candidate.id = some candidate)
    (first : Follows (accountDiscipline env) [] early middle)
    (second : Follows (accountDiscipline env) [] middle late)
    (holds : HoldsRow late (.session session.id) (some session))
    (same : session.id = candidate.id) :
    session.userId = candidate.userId := by
  have before := first.changes (.session candidate.id)
  have after := second.changes (.session candidate.id)
  have seen : late.view.sessions.get? candidate.id = some session :=
    same ▸ holds.seen
  have kept :
      SessionKept (early.view.sessions.get? candidate.id)
        (late.view.sessions.get? candidate.id) :=
    SessionKept.trans before after
  rw [stored, seen] at kept
  rcases kept candidate rfl with ⟨later, isSession, owner, _⟩
  obtain rfl := Option.some.inj isSession
  exact owner

/-- A locked session is rotated under the lock of its account. -/
theorem keeps_rotate
    {refreshToken csrfCookie : String}
    {draws : SessionDraws}
    {user : UserAccount}
    {session : RefreshSession}
    (holds : HoldsRow standing (.session session.id) (some session))
    (owner : Locked standing.locks (.user user.id))
    (owned : session.userId = user.id)
    (unrevoked : session.revokedAt = none) :
    Keeps env (.refresh refreshToken csrfCookie now context draws)
      (rotate env.toDependencies user session now context draws) standing := by
  rw [Keeps, rotate, upholds_bind, issue, upholds_bind]
  refine upholds_insertSession ?_ ?_ fun _ _ _ => trivial
  · intro later follows
    exact ⟨owner.mono follows.locks,
      .inr ⟨session, holds.reads follows, unrevoked, owned, rfl⟩⟩
  · intro later follows stays
    have holdsLater := stays session holds
    rw [upholds_bind]
    refine upholds_record ?_
    intro middle event followsToo
    have holdsMiddle := holdsLater.records followsToo
    have ownerMiddle := (owner.mono follows.locks).mono followsToo.locks
    rw [upholds_pure, upholds_bind]
    refine upholds_updateSession ?_ ?_ fun _ _ _ => trivial
    · intro last followsLast
      exact ⟨session, holdsMiddle.reads followsLast,
        owned ▸ ownerMiddle.mono followsLast.locks, unrevoked, rfl⟩
    · intro last _
      exact keeps_of_harmless (.bind .record fun _ => .pure _)

/-- A refresh revokes families where it finds reason to. -/
theorem keeps_revokeFamily_of_refresh
    {refreshToken csrfCookie : String}
    {draws : SessionDraws}
    {familyId : Uuid}
    {normal : Nat → ServiceStanding → Prop}
    (continues : ∀ count later, normal count later) :
    Upholds (accountDiscipline env) env
      (.refresh refreshToken csrfCookie now context draws)
      (Tx.revokeFamily familyId now) normal (fun _ _ => True) standing :=
  upholds_sweep rfl (fun _ _ => trivial) fun _ _ _ => continues _ _

theorem keeps_refreshSession
    {refreshToken csrfCookie : String}
    {draws : SessionDraws}
    {user : Option UserAccount}
    {session : RefreshSession}
    (holds : HoldsRow standing (.session session.id) (some session))
    (owner :
      ∀ account, user = some account →
        Locked standing.locks (.user account.id) ∧ session.userId = account.id)
    (unrevoked : session.revokedAt = none) :
    Keeps env (.refresh refreshToken csrfCookie now context draws)
      (refreshSession env.toDependencies csrfCookie user session now context
        draws)
      standing := by
  unfold Keeps refreshSession
  refine upholds_ite ?_ fun _ => upholds_ite ?_ ?_
  · intro _
    rw [upholds_bind]
    exact keeps_revokeFamily_of_refresh fun _ _ =>
      keeps_of_harmless (.bind .record fun _ => .pure _)
  · intro _
    rw [upholds_bind]
    exact keeps_revokeFamily_of_refresh fun _ _ => trivial
  · intro _
    rw [upholds_bind, tokensMatch, upholds_ofExcept]
    split
    · refine upholds_ite (fun _ => trivial) fun _ => ?_
      cases user with
      | none =>
          dsimp only
          rw [upholds_bind]
          exact keeps_revokeFamily_of_refresh fun _ _ => trivial
      | some account =>
          have ⟨locked, owned⟩ := owner account rfl
          refine upholds_ite ?_ ?_
          · intro _
            rw [upholds_bind]
            exact upholds_mono (keeps_rotate holds locked owned unrevoked)
              (fun _ _ _ => trivial) fun _ _ _ => trivial
          · intro _
            rw [upholds_bind]
            exact keeps_revokeFamily_of_refresh fun _ _ => trivial
    · trivial

/-- A refresh goes on with the session that it locks after its account. -/
theorem keeps_refresh_candidate
    {refreshToken csrfCookie : String}
    {draws : SessionDraws}
    {user : Option UserAccount}
    {candidate : RefreshSession}
    {early middle : ServiceStanding}
    (stored : early.view.sessions.get? candidate.id = some candidate)
    (first : Follows (accountDiscipline env) [] early middle)
    (owner :
      ∀ account, user = some account →
        HoldsRow middle (.user account.id) (some account) ∧
          account.id = candidate.userId) :
    Keeps env (.refresh refreshToken csrfCookie now context draws)
      (do
        let session ← Tx.getSessionById candidate.id true
        match session with
        | none => return .error (.auth invalidSession)
        | some session => do
            let tokenMatches ←
              tokensMatch session.tokenHash (env.tokenHash refreshToken)
            if !tokenMatches || session.revokedAt.isSome then
              return .error (.auth invalidSession)
            else
              refreshSession env.toDependencies csrfCookie user session now
                context draws)
      middle := by
  rw [Keeps, upholds_bind]
  refine upholds_getSessionById_locked (fun _ _ => trivial) ?_
  intro session late second holds same
  dsimp only
  rw [upholds_bind, tokensMatch, upholds_ofExcept]
  split
  · refine upholds_ite (fun _ => trivial) ?_
    intro passed
    rw [Bool.or_eq_true, not_or] at passed
    refine keeps_refreshSession holds ?_ (by simpa using passed.2)
    intro account isAccount
    rcases owner account isAccount with ⟨holdsAccount, isOwner⟩
    exact ⟨holdsAccount.locked.mono second.locks,
      (owner_of_candidate stored first second holds same).trans isOwner.symm⟩
  · trivial

theorem keeps_refresh
    {refreshToken csrfCookie : String}
    {draws : SessionDraws} :
    Keeps env (.refresh refreshToken csrfCookie now context draws)
      (refresh env.toDependencies refreshToken csrfCookie now context draws)
      standing := by
  rw [Keeps, refresh, upholds_bind]
  refine upholds_read rfl rfl ?_
  intro early _
  cases looked :
      early.view.sessions.find? fun session =>
        decide (session.tokenHash = env.tokenHash refreshToken) with
  | none =>
      trivial
  | some candidate =>
      have stored := (Table.get?_of_find? looked).1
      dsimp only
      rw [upholds_bind]
      refine upholds_getUserById_locked ?_ ?_
      · intro middle first _
        refine keeps_refresh_candidate stored first ?_
        intro account same
        cases same
      · intro account middle first holds isOwner
        refine keeps_refresh_candidate stored first ?_
        intro other same
        obtain rfl := Option.some.inj same
        exact ⟨holds, isOwner⟩

theorem keeps_logout
    {refreshToken csrfCookie : String} :
    Keeps env (.logout refreshToken csrfCookie now context)
      (logout env.toDependencies refreshToken csrfCookie now context)
      standing := by
  rw [Keeps, logout, upholds_bind]
  refine upholds_read rfl rfl ?_
  intro early _
  cases looked :
      early.view.sessions.find? fun session =>
        decide (session.tokenHash = env.tokenHash refreshToken) with
  | none =>
      trivial
  | some candidate =>
      have stored := (Table.get?_of_find? looked).1
      refine upholds_ite (fun _ => trivial) fun _ => ?_
      rw [upholds_bind]
      refine upholds_getUserById_locked ?_ ?_
      · intro middle _ _
        rw [upholds_bind]
        exact upholds_getSessionById_locked (fun _ _ => trivial)
          fun _ _ _ _ _ => trivial
      · intro account middle first holdsAccount isOwner
        rw [upholds_bind]
        refine upholds_getSessionById_locked (fun _ _ => trivial) ?_
        intro session late second holds same
        have owned :=
          (owner_of_candidate stored first second holds same).trans
            isOwner.symm
        refine upholds_ite (fun _ => trivial) fun _ => ?_
        rw [upholds_bind, tokensMatch, upholds_ofExcept]
        split
        · rename_i tokenMatches compared
          refine upholds_ite (fun _ => trivial) ?_
          intro matching
          have presented : session.tokenHash = env.tokenHash refreshToken := by
            cases tokenMatches with
            | false => exact absurd rfl matching
            | true => exact eq_of_compareDigest compared
          rw [upholds_bind, tokensMatch, upholds_ofExcept]
          split
          · refine upholds_ite (fun _ => trivial) fun _ => ?_
            rw [upholds_bind]
            refine upholds_sweep rfl ?_ ?_
            · intro seen seeing
              exact ⟨session, holds.reads seeing, presented, rfl,
                owned ▸ holdsAccount.locked.mono second.locks⟩
            · intro _ _ _
              exact keeps_of_harmless (.bind .record fun _ => .pure _)
          · trivial
        · trivial

/-! ## Administration -/

/-- Another active administrator is seen. -/
def OtherAdmin
    (settings : AuthSettings)
    (userId : Uuid)
    (view : Store) :
    Prop :=
  ∃ other,
    other.id ≠ userId ∧ view.users.get? other.id = some other ∧
      other.IsActiveAdmin settings

/-- Under the advisory lock, another active administrator remains. -/
theorem OtherAdmin.reads
    {userId : Uuid}
    {earlier later : ServiceStanding}
    (other : OtherAdmin env.settings userId earlier.view)
    (locked : Locked earlier.locks .adminInvariant)
    (follows : Follows (accountDiscipline env) [] earlier later) :
    OtherAdmin env.settings userId later.view := by
  rcases other with ⟨admin, different, stored, active⟩
  have spared :
      AdminSpared env.settings (earlier.view.users.get? admin.id)
        (later.view.users.get? admin.id) :=
    follows.spares locked (.user admin.id)
  rcases spared admin stored active with ⟨still, storedStill, stillActive⟩
  have sameId : still.id = admin.id := Table.key_of_get? storedStill
  exact ⟨still, sameId ▸ different, sameId ▸ storedStill, stillActive⟩

/-- A change that loses no administrator keeps the account an active one. -/
theorem applyUpdate_keeps_admin
    {user : UserAccount}
    {resolved : ResolvedUpdate}
    (keeps : losesActiveAdmin env.toDependencies user resolved = false)
    (active : user.IsActiveAdmin env.settings) :
    (applyUpdate user resolved now).IsActiveAdmin env.settings := by
  have isActive : user.status = .active ∧ env.settings.adminRole ∈ user.roles :=
    by simpa [UserAccount.IsActiveAdmin, Store.hasRole, and_comm] using active
  have remains :
      resolved.status = .active ∧ env.settings.adminRole ∈ resolved.roles := by
    simpa [losesActiveAdmin, isActive.1, isActive.2] using keeps
  have updated :
      (applyUpdate user resolved now).status = resolved.status ∧
        (applyUpdate user resolved now).roles = resolved.roles := by
    unfold applyUpdate
    split
    · exact ⟨rfl, rfl⟩
    · exact ⟨rfl, rfl⟩
  simp [UserAccount.IsActiveAdmin, Store.hasRole, updated.1, updated.2,
    remains.1, remains.2]

/-- What is written of a resolved update, once the count allows it. -/
theorem upholds_applyUpdate
    {userId : Uuid}
    {update : UserUpdate}
    {user : UserAccount}
    {resolved : ResolvedUpdate}
    {first : ServiceStanding}
    (resolves : resolveUpdate env.toDependencies user update = .ok resolved)
    (isUser : user.id = userId)
    (holds : HoldsRow standing (.user user.id) (some user))
    (locked : Locked standing.locks .adminInvariant)
    (nothing : standing.issued = first.issued)
    (remains :
      losesActiveAdmin env.toDependencies user resolved = true →
        OtherAdmin env.settings user.id standing.view) :
    Upholds (accountDiscipline env) env (.updateUser userId update now context)
      (do
        let updated := applyUpdate user resolved now
        Tx.updateUser updated
        revokeIfDisabled userId resolved now
        recordSecurityEvent (updateEventType user resolved) now context
          (some userId)
        return updated)
      (fun _ _ => True) (fun _ later => later.issued = first.issued)
      standing := by
  have changed :
      applyUpdate user resolved now =
        (AccountChange.administer resolved).apply env.settings now user :=
    rfl
  have sameId : (applyUpdate user resolved now).id = user.id := by
    rw [changed]
    exact AccountChange.apply_id
  rw [upholds_bind]
  refine upholds_updateUser ?_ ?_ fun _ _ follows =>
    follows.issued_nil.trans nothing
  · intro last follows
    have holdsLast := holds.reads follows
    refine ⟨⟨user, .administer resolved, now, holdsLast, rfl, ?_,
      ⟨resolved, resolves, rfl⟩, changed⟩, ?_⟩
    · exact permitted_administer resolves
    · intro current found active
      rw [sameId] at found
      obtain rfl := Option.some.inj (holdsLast.seen.symm.trans found)
      cases loses : losesActiveAdmin env.toDependencies user resolved with
      | false =>
          exact .inl (applyUpdate_keeps_admin loses active)
      | true =>
          have other := (remains loses).reads locked follows
          rw [← sameId] at other
          exact .inr ⟨locked.mono follows.locks, other⟩
  · intro last _ holdsLast
    rw [sameId, isUser] at holdsLast
    rw [upholds_bind, revokeIfDisabled]
    refine upholds_ite ?_ ?_
    · intro _
      rw [upholds_bind]
      refine upholds_revokeUserSessions holdsLast.locked ?_
      intro _ _ _
      rw [upholds_pure, upholds_bind]
      exact upholds_record fun _ _ _ => trivial
    · intro _
      rw [upholds_pure, upholds_bind]
      exact upholds_record fun _ _ _ => trivial

/-- Where two active administrators are seen, another one remains. -/
theorem OtherAdmin.of_count
    {userId : Uuid}
    {view : Store}
    (many :
      2 ≤ view.users.count (Store.hasRole env.settings.adminRole true)) :
    OtherAdmin env.settings userId view := by
  rcases Table.exists_other_of_two_le_count many userId with
    ⟨other, different, stored, active⟩
  exact ⟨other, different, stored, active⟩

/-- An update that raises has written nothing. -/
theorem upholds_updateUser_unwritten
    {userId : Uuid}
    {update : UserUpdate} :
    Upholds (accountDiscipline env) env (.updateUser userId update now context)
      (updateUser env.toDependencies userId update now context)
      (fun _ _ => True) (fun _ later => later.issued = standing.issued)
      standing := by
  rw [updateUser, upholds_bind]
  refine upholds_fetch rfl rfl ?_
  intro first followsFirst heldFirst
  have locked : Locked first.locks .adminInvariant :=
    locked_of_forUpdate heldFirst
  have nothingFirst := followsFirst.issued_nil
  rw [upholds_bind]
  refine upholds_getUserById_locked (fun _ follows _ =>
    follows.issued_nil.trans nothingFirst) ?_
  intro user second followsSecond holds isUser
  have lockedSecond := locked.mono followsSecond.locks
  have nothingSecond := followsSecond.issued_nil.trans nothingFirst
  dsimp only
  rw [upholds_bind, upholds_ofExcept]
  cases resolves : resolveUpdate env.toDependencies user update with
  | error failure =>
      exact nothingSecond
  | ok resolved =>
      dsimp only
      rw [upholds_bind, requireRemainingAdmin]
      refine upholds_ite ?_ ?_
      · intro _
        rw [upholds_bind]
        refine upholds_read rfl rfl ?_
        intro third followsThird
        have nothingThird := followsThird.issued_nil.trans nothingSecond
        refine upholds_ite (fun _ => nothingThird) ?_
        intro enough
        refine upholds_applyUpdate resolves isUser (holds.reads followsThird)
          (lockedSecond.mono followsThird.locks) nothingThird fun _ => ?_
        exact OtherAdmin.of_count (by omega)
      · intro keeps
        exact upholds_applyUpdate resolves isUser holds lockedSecond
          nothingSecond fun loses => absurd loses keeps

/-! ## Email links -/

/-- Completing a link that matches keeps the discipline when it may. -/
theorem keeps_consuming
    {token : String}
    {purpose : EmailLinkPurpose}
    {browserNonce : Option String}
    {complete : UserAccount → Tx α}
    {refused : Option UserAccount → Tx Unit}
    (completes :
      ∀ user later,
        HoldsRow later (.user user.id) (some user) →
        canRequest env.settings user purpose now = true →
        Keeps env call (complete user) later)
    (refuses : ∀ user, StaysWithin [] (refused user)) :
    Keeps env call
      (consuming env.toDependencies token purpose now browserNonce complete
        refused)
      standing := by
  refine upholds_consuming ?_ ?_ ?_ ?_ ?_ fun _ _ _ => trivial
  · exact fun _ _ _ _ _ _ => trivial
  · exact fun _ _ _ _ _ _ _ _ _ => trivial
  · exact fun _ _ _ _ _ _ => trivial
  · intro _ _ user _ _ later redeemable holds _
    exact upholds_mono (completes user later holds redeemable.eligible)
      (fun _ _ _ => trivial) fun _ _ _ => trivial
  · intro user _ _
    exact upholds_mono (keeps_of_harmless (refuses user))
      (fun _ _ _ => trivial) fun _ _ _ => trivial

theorem keeps_emailLinkLogin
    {token browserNonce : String}
    {draws : SessionDraws} :
    Keeps env (.emailLinkLogin token browserNonce now context draws)
      (emailLinkLogin env.toDependencies token browserNonce now context draws)
      standing := by
  refine keeps_consuming ?_ fun _ => .record
  intro user later holds _
  rw [Keeps, upholds_bind]
  exact upholds_opening holds.locked rfl
    (fun _ _ => keeps_of_harmless (.bind .record fun _ => .pure _))
    fun _ _ => trivial

theorem keeps_emailLinkResetPassword
    {token passwordHash : String} :
    Keeps env (.emailLinkResetPassword token passwordHash now context)
      (emailLinkResetPassword env.toDependencies token passwordHash now
        context)
      standing := by
  refine keeps_consuming ?_ fun _ => .pure _
  intro user later holds permitted
  have active : user.status = .active := by
    simp only [canRequest, Bool.and_eq_true, decide_eq_true_eq] at permitted
    exact permitted.1.2
  exact keeps_replacing .chosen holds rfl rfl active rfl

theorem keeps_activateInvitation
    {token passwordHash : String} :
    Keeps env (.activateInvitation token passwordHash now context)
      (activateInvitation env.toDependencies token passwordHash now context)
      standing := by
  refine keeps_consuming ?_ fun _ => .pure _
  intro user later holds permitted
  have active : user.status = .active := by
    simp only [canRequest, Bool.and_eq_true, decide_eq_true_eq] at permitted
    exact permitted.1.2
  exact keeps_replacing .invitation holds rfl rfl active rfl

theorem keeps_activate
    {token passwordHash : String} :
    Keeps env (.activate token passwordHash now context)
      (activate env.toDependencies token passwordHash now context)
      standing := by
  refine keeps_consuming ?_ fun _ => .pure _
  intro user later holds _
  rw [Keeps, upholds_bind, upholds_ofExcept]
  split
  · rename_i activated activates
    obtain ⟨pending, rfl⟩ := UserAccount.activateAccount_eq_ok_iff.mp activates
    exact keeps_replacing .activation holds rfl rfl pending rfl
  · trivial

/-! ## Passkeys -/

/-- An account advances its version under its lock. -/
theorem upholds_fence
    {user : UserAccount}
    {normal : Unit → ServiceStanding → Prop}
    (holds : HoldsRow standing (.user user.id) (some user))
    (clock : call.clock = some now)
    (able : user.canAuthenticate now = true)
    (intended : call.Intends env.toDependencies user (.fence false))
    (continues : ∀ later, normal () later) :
    Upholds (accountDiscipline env) env call
      (Tx.updateUser (user.advanceSecurityVersion now)) normal
      (fun _ _ => True) standing :=
  upholds_changeAccount (.fence false) holds clock able intended
    (fun _ same => by cases same) (fun _ _ => continues _) fun _ _ => trivial

theorem of_authenticatable
    {found : Option UserAccount}
    {user : UserAccount}
    (able : authenticatable found now = some user) :
    found = some user ∧ user.canAuthenticate now = true :=
  Option.filter_eq_some_iff.mp able

theorem keeps_finishRegistration
    {principal : Principal}
    {passkeyId : Uuid}
    {name : String}
    {verified : VerifiedPasskeyRegistration}
    {passkey : PasskeyCredential} :
    Keeps env
      (.finishRegistration principal passkeyId name verified now context)
      (finishRegistration env.toDependencies principal passkey now context)
      standing := by
  rw [Keeps, finishRegistration, upholds_bind]
  refine upholds_getUserById_locked (fun _ _ _ => trivial) ?_
  intro account later _ holds _
  cases able : authenticatable (some account) now with
  | none =>
      trivial
  | some user =>
      obtain ⟨same, able⟩ := of_authenticatable able
      obtain rfl := Option.some.inj same
      dsimp only
      rw [upholds_bind]
      refine upholds_read rfl rfl ?_
      intro middle follows
      have holdsMiddle := holds.reads follows
      refine upholds_ite (fun _ => trivial) fun _ => ?_
      rw [upholds_bind]
      refine upholds_attempt rfl inserting_outcomes (fun _ _ => trivial) ?_
        fun _ _ _ => trivial
      intro _ late _ followsLate _ _ _
      rw [upholds_bind]
      refine upholds_fence
        (holdsMiddle.writes followsLate (by simp [Write.resource, StoreRow.resource]))
        rfl able rfl ?_
      intro _
      exact keeps_of_harmless .record

/-- A verified passkey is updated after its account is locked. -/
theorem upholds_verifyAndUpdatePasskey
    {adapter : PasskeyAdapter}
    {response : PasskeyResponse}
    {expectedUserId : Option Uuid}
    {normal : PasskeyVerificationResult → ServiceStanding → Prop}
    (intended :
      ∀ stored updated,
        UsesPasskey adapter response now stored updated →
          call.IntendsPasskey env.adapter stored updated)
    (unverified :
      ∀ user later, normal { user := user, credential := none } later)
    (verified :
      ∀ user credential later,
        Locked later.locks (.user user.id) →
        normal { user := some user, credential := some credential } later) :
    Upholds (accountDiscipline env) env call
      (verifyAndUpdatePasskey adapter response now expectedUserId) normal
      (fun _ _ => True) standing := by
  unfold verifyAndUpdatePasskey
  split
  · exact unverified _ _
  rw [upholds_bind]
  refine upholds_getPasskeyByCredentialId_locked (fun _ _ => unverified _ _) ?_
  intro stored early _ holds _
  refine upholds_ite (fun _ => unverified _ _) fun usable => ?_
  rw [Bool.or_eq_true, not_or] at usable
  rw [upholds_bind]
  refine upholds_getUserById_locked (fun _ _ _ => unverified _ _) ?_
  intro account later follows holdsUser _
  have holdsLater := holds.reads follows
  cases able : authenticatable (some account) now with
  | none =>
      exact unverified _ _
  | some user =>
      obtain ⟨same, _⟩ := of_authenticatable able
      obtain rfl := Option.some.inj same
      dsimp only
      split
      · exact unverified _ _
      rename_i result verifies
      refine upholds_ite (fun _ => unverified _ _) fun _ => ?_
      rw [upholds_bind]
      refine upholds_updatePasskey ?_ ?_ fun _ _ _ => trivial
      · intro last followsLast
        exact ⟨stored, holdsLater.reads followsLast,
          intended stored _
            ⟨by simpa using usable.1, result, verifies, rfl⟩⟩
      · intro last followsLast
        exact verified _ _ _ (holdsUser.locked.mono followsLast.locks)

theorem keeps_finishAuthentication
    {response : PasskeyResponse}
    {draws : SessionDraws} :
    Keeps env (.finishAuthentication response now context draws)
      (finishAuthentication env.toDependencies env.adapter response now
        context draws)
      standing := by
  rw [Keeps, finishAuthentication, upholds_bind]
  refine upholds_verifyAndUpdatePasskey (fun _ _ used => used) ?_ ?_
  · intro _ _
    exact keeps_of_harmless (.bind .record fun _ => .pure _)
  · intro user credential later locked
    dsimp only
    rw [upholds_bind]
    exact upholds_opening locked rfl
      (fun _ _ => keeps_of_harmless (.bind .record fun _ => .pure _))
      fun _ _ => trivial

theorem keeps_finishReauthentication
    {principal : Principal}
    {response : PasskeyResponse} :
    Keeps env (.finishReauthentication principal response now context)
      (finishReauthentication env.adapter principal response now context)
      standing := by
  rw [Keeps, finishReauthentication, upholds_bind]
  refine upholds_verifyAndUpdatePasskey (fun _ _ used => used) ?_ ?_
  · intro _ _
    exact keeps_of_harmless (.bind .record fun _ => .pure _)
  · intro _ _ _ _
    exact keeps_of_harmless
      (.bind requirePrincipalSession_within fun _ =>
        .bind .record fun _ => .pure _)

theorem keeps_revokePasskey
    {principal : Principal}
    {passkeyId : Uuid} :
    Keeps env (.revokePasskey principal passkeyId now context)
      (revokePasskey principal passkeyId now context) standing := by
  rw [Keeps, revokePasskey, upholds_bind]
  refine upholds_getPasskeyById_locked (fun _ _ => trivial) ?_
  intro stored early _ holds _
  refine upholds_ite (fun _ => trivial) fun unrevoked => ?_
  rw [upholds_bind]
  refine upholds_getUserById_locked (fun _ _ _ => trivial) ?_
  intro account later follows holdsUser _
  have holdsLater := holds.reads follows
  cases able : authenticatable (some account) now with
  | none =>
      trivial
  | some user =>
      obtain ⟨same, able⟩ := of_authenticatable able
      obtain rfl := Option.some.inj same
      dsimp only
      rw [upholds_bind]
      refine upholds_updatePasskey ?_ ?_ fun _ _ _ => trivial
      · intro last followsLast
        exact ⟨stored, holdsLater.reads followsLast,
          by simpa using unrevoked, rfl⟩
      · intro last followsLast
        rw [upholds_bind]
        refine upholds_fence
          (holdsUser.writes followsLast
            (by simp [Write.resource, StoreRow.resource]))
          rfl able rfl ?_
        intro _
        exact keeps_of_harmless .record

/-! ## Google identities -/

/-- An identity that is held is logged into. -/
theorem upholds_loginLinked
    {identity : ExternalIdentity}
    {claims : GoogleClaims}
    {draws : SessionDraws}
    {normal : Option SessionBundle → ServiceStanding → Prop}
    (holds : HoldsRow standing (.identity identity.id) (some identity))
    (opening : call.opening = some draws)
    (intended :
      call.IntendsIdentity identity (loggedIdentity identity claims now))
    (continues : ∀ value later, normal value later) :
    Upholds (accountDiscipline env) env call
      (loginLinked env.toDependencies identity claims now context draws)
      normal (fun _ _ => True) standing := by
  rw [loginLinked, upholds_bind]
  refine upholds_getUserById_locked (fun _ _ _ => continues _ _) ?_
  intro user later follows holdsUser _
  have holdsLater := holds.reads follows
  refine upholds_ite ?_ fun _ => continues _ _
  intro _
  rw [upholds_bind]
  refine upholds_updateExternalIdentity ?_ ?_ fun _ _ _ => trivial
  · intro last followsLast
    exact ⟨identity, holdsLater.reads followsLast, intended⟩
  · intro last followsLast
    rw [upholds_bind]
    refine upholds_opening (holdsUser.locked.mono followsLast.locks) opening
      ?_ fun _ _ => trivial
    intro _ _
    rw [upholds_bind]
    exact upholds_record fun _ _ _ => continues _ _

theorem keeps_insertIdentityAndLogin
    {user : UserAccount}
    {claims : GoogleClaims}
    {draws : GoogleLoginDraws}
    {normal : SessionBundle → ServiceStanding → Prop}
    (continues : ∀ value later, normal value later) :
    Upholds (accountDiscipline env) env (.googleLogin claims now context draws)
      (insertIdentityAndLogin env.toDependencies user claims now context
        draws)
      normal (fun _ _ => True) standing := by
  rw [insertIdentityAndLogin, upholds_bind]
  refine upholds_insertExternalIdentity (fun _ _ => trivial) ?_
    fun _ _ _ => trivial
  intro later _ holds
  rw [upholds_bind]
  refine upholds_record ?_
  intro last _ follows
  rw [upholds_bind]
  refine upholds_loginLinked (holds.records follows) rfl rfl ?_
  intro result _
  cases result with
  | none =>
      trivial
  | some result =>
      exact continues _ _

/-- A preauthorised account that is held is linked and logged into. -/
theorem keeps_linkAndLogin
    {user : UserAccount}
    {claims : GoogleClaims}
    {draws : GoogleLoginDraws}
    {normal : SessionBundle → ServiceStanding → Prop}
    (holds : HoldsRow standing (.user user.id) (some user))
    (permitted : canAutoLink user claims now = true)
    (continues : ∀ value later, normal value later) :
    Upholds (accountDiscipline env) env (.googleLogin claims now context draws)
      (linkAndLogin env.toDependencies user claims now context draws)
      normal (fun _ _ => True) standing := by
  rw [linkAndLogin, upholds_bind, upholds_ofExcept]
  split
  · rename_i passwordHash hashed
    simp only [canAutoLink, Bool.and_eq_true] at permitted
    rw [upholds_bind]
    refine upholds_changeAccount (.autoLink passwordHash) holds rfl
      ⟨permitted.1.1.1, permitted.1.1.2, permitted.1.2⟩
      ⟨passwordHash, hashed, rfl⟩
      (fun _ same => by cases same) ?_ fun _ _ => trivial
    intro _ _
    exact keeps_insertIdentityAndLogin continues
  · trivial

theorem keeps_loginUnlinked
    {claims : GoogleClaims}
    {draws : GoogleLoginDraws}
    {normal : Option SessionBundle → ServiceStanding → Prop}
    (continues : ∀ value later, normal value later) :
    Upholds (accountDiscipline env) env (.googleLogin claims now context draws)
      (loginUnlinked env.toDependencies claims now context draws)
      normal (fun _ _ => True) standing := by
  have links :
      ∀ user later,
        HoldsRow later (.user user.id) (some user) →
          Upholds (accountDiscipline env) env
            (.googleLogin claims now context draws)
            (if canAutoLink user claims now then do
              let result ←
                linkAndLogin env.toDependencies user claims now context draws
              return some result
            else
              return none)
            normal (fun _ _ => True) later := by
    intro user later holds
    refine upholds_ite ?_ fun _ => continues _ _
    intro permitted
    rw [upholds_bind]
    exact keeps_linkAndLogin holds permitted fun _ _ => continues _ _
  unfold loginUnlinked
  split
  · exact continues _ _
  · unfold loginPreauthorized
    split
    · exact continues _ _
    refine upholds_ite ?_ fun _ => continues _ _
    intro _
    rw [upholds_bind]
    exact upholds_getUserByEmail_locked (fun _ _ => continues _ _)
      fun user later _ holds _ => links user later holds
  · unfold loginOpen
    split
    · exact continues _ _
    refine upholds_ite ?_ fun _ => continues _ _
    intro _
    rw [upholds_bind]
    refine upholds_getUserByEmail_locked ?_
      fun user later _ holds _ => links user later holds
    intro later _
    have apart :
        ∀ kind ∈ [StatementKind.enrolls], kind ∉ accountConcerns := by
      decide
    dsimp only
    rw [upholds_bind]
    refine upholds_of_within createOpenUser_within apart ?_
      fun _ _ => trivial
    intro user last
    rw [upholds_bind]
    exact keeps_insertIdentityAndLogin fun _ _ => continues _ _

/-- A login without a result records that it failed. -/
theorem keeps_googleLogin_result
    {claims : GoogleClaims}
    {draws : GoogleLoginDraws}
    (result : Option SessionBundle) :
    Keeps env (.googleLogin claims now context draws)
      (match result with
        | some result => return some result
        | none => do
            recordSecurityEvent .googleLoginFailed now context
            return none)
      standing := by
  cases result with
  | none => exact keeps_of_harmless (.bind .record fun _ => .pure _)
  | some result => trivial

theorem keeps_googleLogin
    {claims : GoogleClaims}
    {draws : GoogleLoginDraws} :
    Keeps env (.googleLogin claims now context draws)
      (googleLogin env.toDependencies claims now context draws) standing := by
  rw [Keeps, googleLogin, upholds_bind, loginIdentity, upholds_bind]
  refine upholds_getExternalIdentity_locked ?_ ?_
  · intro _ _
    exact keeps_loginUnlinked fun result _ => keeps_googleLogin_result result
  · intro identity later _ holds _ _
    exact upholds_loginLinked holds rfl rfl
      fun result _ => keeps_googleLogin_result result

theorem keeps_loginLinkedAfterConflict
    {claims : GoogleClaims}
    {draws : SessionDraws} :
    Keeps env (.loginLinkedAfterConflict claims now context draws)
      (loginLinkedAfterConflict env.toDependencies claims now context draws)
      standing := by
  rw [Keeps, loginLinkedAfterConflict, upholds_bind]
  refine upholds_getExternalIdentity_locked (fun _ _ => trivial) ?_
  intro identity later _ holds _ _
  exact upholds_loginLinked holds rfl rfl fun _ _ => trivial

/-- The account stays held while the identity to link is found or inserted. -/
theorem upholds_resolveLink
    {principal : Principal}
    {claims : GoogleClaims}
    {identityId : Uuid}
    {user : UserAccount}
    {normal : Option LinkOutcome → ServiceStanding → Prop}
    (holds : HoldsRow standing (.user user.id) (some user))
    (continues :
      ∀ outcome later,
        HoldsRow later (.user user.id) (some user) → normal outcome later) :
    Upholds (accountDiscipline env) env call
      (resolveLink principal claims now context identityId) normal
      (fun _ _ => True) standing := by
  rw [resolveLink, upholds_bind]
  refine upholds_read rfl rfl ?_
  intro first followsFirst
  rw [upholds_bind]
  refine upholds_read rfl rfl ?_
  intro second followsSecond
  have held := (holds.reads followsFirst).reads followsSecond
  split
  · exact upholds_ite (fun _ => continues _ _ held)
      fun _ => continues _ _ held
  · exact continues _ _ held
  · rw [upholds_bind]
    refine upholds_insertExternalIdentity (fun _ _ => trivial) ?_
      fun _ _ _ => trivial
    intro third followsThird _
    rw [upholds_bind]
    refine upholds_record ?_
    intro last _ followsLast
    have heldThird :=
      held.writes followsThird (by simp [Write.resource, StoreRow.resource])
    exact continues _ _ (heldThird.records followsLast)

theorem keeps_linkIdentity_refuse
    {principal : Principal}
    {claims : GoogleClaims}
    {identityId : Uuid}
    {failure : Failure} :
    Keeps env (.linkIdentity principal claims now context identityId)
      (linkIdentity.refuse principal now context failure) standing :=
  keeps_of_harmless (.bind .record fun _ => .pure _)

/-- An account that may link is linked, whatever its session is. -/
theorem keeps_linkIdentity_held
    {principal : Principal}
    {claims : GoogleClaims}
    {identityId : Uuid}
    {user : UserAccount}
    (session : Option RefreshSession)
    (held : HoldsRow standing (.user user.id) (some user)) :
    Keeps env (.linkIdentity principal claims now context identityId)
      (if canLink (some user) session principal now then do
        let outcome ← resolveLink principal claims now context identityId
        match outcome with
        | some outcome => do
            fenceLink user outcome now
            return .ok outcome.identity
        | none =>
            linkIdentity.refuse principal now context
              (.auth googleIdentityConflict)
      else
        linkIdentity.refuse principal now context (.auth invalidSession))
      standing := by
  refine upholds_ite ?_ fun _ => keeps_linkIdentity_refuse
  intro permitted
  have able : user.canAuthenticate now = true := by
    cases session with
    | none => cases permitted
    | some session =>
        simp only [canLink, Bool.and_eq_true] at permitted
        exact permitted.1.1
  rw [upholds_bind]
  refine upholds_resolveLink held ?_
  intro outcome last heldLast
  cases outcome with
  | none =>
      exact keeps_linkIdentity_refuse
  | some outcome =>
      dsimp only
      rw [upholds_bind, fenceLink]
      refine upholds_ite ?_ fun _ => trivial
      intro _
      exact upholds_changeAccount (.fence true) heldLast rfl able rfl
        (fun _ same => by cases same) (fun _ _ => trivial) fun _ _ => trivial

theorem keeps_linkIdentity
    {principal : Principal}
    {claims : GoogleClaims}
    {identityId : Uuid} :
    Keeps env (.linkIdentity principal claims now context identityId)
      (linkIdentity principal claims now context identityId) standing := by
  rw [Keeps, linkIdentity, upholds_bind]
  refine upholds_getUserById_locked ?_ ?_
  · intro _ _ _
    rw [upholds_bind]
    exact upholds_getSessionById_locked (fun _ _ => keeps_linkIdentity_refuse)
      fun _ _ _ _ _ => keeps_linkIdentity_refuse
  · intro user early _ holds _
    rw [upholds_bind]
    refine upholds_getSessionById_locked ?_ ?_
    · intro middle follows
      exact keeps_linkIdentity_held none (holds.reads follows)
    · intro session middle follows _ _
      exact keeps_linkIdentity_held (some session) (holds.reads follows)

theorem keeps_recoverPasswordAccess
    {userId : Uuid}
    {passwordHash : String} :
    Keeps env (.recoverPasswordAccess userId passwordHash now context)
      (recoverPasswordAccess userId passwordHash now context) standing := by
  rw [Keeps, recoverPasswordAccess, upholds_bind]
  -- Without an identity or an account the recovery raises.
  refine upholds_getExternalIdentityForUser_locked ?_ ?_
  · intro _ _
    rw [upholds_bind]
    exact upholds_getUserById_locked (fun _ _ _ => trivial)
      fun _ _ _ _ _ => trivial
  · intro identity early _ _ _ _
    rw [upholds_bind]
    refine upholds_getUserById_locked (fun _ _ _ => trivial) ?_
    intro user middle _ holds isUser
    dsimp only
    rw [upholds_bind]
    refine upholds_changeAccount (.replace .temporary passwordHash) holds rfl
      trivial rfl (fun _ same => by cases same) ?_ fun _ _ => trivial
    intro late holdsLate
    rw [upholds_bind]
    refine upholds_attempt rfl updating_outcomes (fun _ _ => trivial) ?_
      fun _ _ _ => trivial
    intro _ last _ follows _ _ _
    rw [upholds_bind]
    refine upholds_revokeUserSessions
      (isUser ▸ holdsLate.locked.mono follows.locks) ?_
    intro _ _ _
    exact keeps_of_harmless (.bind .record fun _ => .pure _)

/-! ## Every transaction -/

/-- Every transaction keeps the discipline, wherever it begins. -/
theorem ServiceTx.keeps (tx : ServiceTx) :
    Keeps env tx (tx.body env) standing := by
  have harmless :
      (∀ kind ∈ tx.kinds, kind ∉ accountConcerns) →
        Keeps env tx (tx.body env) standing :=
    fun apart => keeps_of_within tx.body_within apart
  cases tx with
  | login => exact keeps_login
  | reauthenticatePassword => exact keeps_reauthenticatePassword
  | refresh => exact keeps_refresh
  | logout => exact keeps_logout
  | changePassword => exact keeps_changePassword
  | resetPassword => exact keeps_resetPassword
  | revokeUserSessions => exact keeps_revokeUserSessions
  | emailLinkLogin => exact keeps_emailLinkLogin
  | emailLinkResetPassword => exact keeps_emailLinkResetPassword
  | activateInvitation => exact keeps_activateInvitation
  | activate => exact keeps_activate
  | finishRegistration => exact keeps_finishRegistration
  | finishAuthentication => exact keeps_finishAuthentication
  | finishReauthentication => exact keeps_finishReauthentication
  | revokePasskey => exact keeps_revokePasskey
  | googleLogin => exact keeps_googleLogin
  | loginLinkedAfterConflict => exact keeps_loginLinkedAfterConflict
  | linkIdentity => exact keeps_linkIdentity
  | recoverPasswordAccess => exact keeps_recoverPasswordAccess
  | updateUser =>
      exact upholds_mono upholds_updateUser_unwritten (fun _ _ _ => trivial)
        fun _ _ _ => trivial
  | _ => exact harmless (by simp [kinds, accountConcerns])

/-- An update of an account that raises has written nothing. -/
def accountPromise :
    Contract.Promise Store Write Resource Failure ServiceTx.Answer :=
  fun call answer standing =>
    match call, answer with
    | .updateUser .., .error _ => standing.issued = []
    | _, _ => True

/-- Every call keeps the contract of accounts and its promise. -/
theorem account_callKeeps (tx : ServiceTx) :
    ((accountDiscipline env).contract env).CallKeeps accountPromise tx := by
  intro view locks
  have upholds :
      Keeps env tx (tx.body env)
        { view := view, locks := locks, issued := [] } :=
    tx.keeps
  cases tx with
  | updateUser userId update now context =>
      exact upholds_mono upholds_updateUser_unwritten (fun _ _ _ => trivial)
        fun _ _ nothing => nothing
  | _ =>
      exact upholds_mono upholds (fun _ _ _ => trivial) fun _ _ _ => trivial

end EpokAuth
