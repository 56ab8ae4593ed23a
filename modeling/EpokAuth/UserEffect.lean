import EpokAuth.SessionEffect

namespace EpokAuth

open Transactional

/-!
# Effects of user administration

Accounts are enrolled, updated as a whole row, given a temporary password, and
deprived of their sessions.
-/

variable
  {env : Environment}
  {now : Instant}
  {context : RequestContext}
  {store : Store}

/-- The rule of inserting an account whose failure rolls back. -/
theorem wp_insertUser_committed
    {user : UserAccount}
    {normal : Unit → Store → Prop}
    (inserted :
      store.users.get? user.id = none →
        normal () { store with users := store.users.put user }) :
    Tx.wp (Tx.insertUser user) normal (fun _ _ => True) store := by
  rw [Tx.wp_insertUser]
  split
  · trivial
  · rename_i admitted
    rw [Bool.or_eq_true, not_or] at admitted
    exact inserted (by simpa using admitted.1)

/-- Enrolling an account without an identity. -/
theorem performs_enroll
    {settings : AuthSettings}
    {user : UserAccount}
    {rest : List Move}
    {later : Core}
    (absent : store.users.get? user.id = none)
    (new : Move.NewAccount user)
    (after :
      Performs settings
        { store.toCore with users := store.users.put user } rest later) :
    Performs settings store.toCore (.enroll user none :: rest) later := by
  refine Performs.cons ⟨absent, new, ?_⟩ rfl after
  intro inserted impossible
  cases impossible

theorem createAdmin_effect
    {id : Uuid}
    {email displayName passwordHash : String} :
    (ServiceTx.createAdmin id email displayName passwordHash now
      context).HasEffect env store := by
  simp only [ServiceTx.HasEffect, ServiceTx.body, createAdmin, Tx.wp_bind,
    Tx.wp_acquireAdminInvariantLock, Tx.wp_countUsersWithRole, Tx.wp_ite,
    Tx.wp_throw]
  split
  · trivial
  · apply wp_insertUser_committed
    intro absent
    rw [wp_recordSecurityEvent]
    refine ⟨_, Effect.of_no_account
      (performs_enroll absent ⟨rfl, rfl, rfl⟩ Performs.nil) (by simp) ?_⟩
    intro userId change caused
    cases caused

theorem createUser_effect
    {id : Uuid}
    {email displayName passwordHash : String}
    {roles scopes : List String}
    {googleAutoLinkAllowed : Bool} :
    (ServiceTx.createUser id email displayName passwordHash roles scopes
      googleAutoLinkAllowed now context).HasEffect env store := by
  simp only [ServiceTx.HasEffect, ServiceTx.body, createUser, Tx.wp_bind]
  apply wp_insertUser_committed
  intro absent
  rw [wp_recordSecurityEvent]
  refine ⟨_, Effect.of_no_account
    (performs_enroll absent ⟨rfl, rfl, rfl⟩ Performs.nil) (by simp) ?_⟩
  intro userId change caused
  cases caused

theorem listUsers_effect
    {limit offset : Nat} :
    (ServiceTx.listUsers limit offset).HasEffect env store := by
  simp only [ServiceTx.HasEffect, ServiceTx.body, listUsers, Tx.wp_listUsers]
  exact ⟨[], Effect.unchanged rfl (by
    intro userId change caused
    cases caused)⟩

theorem getUser_effect
    {userId : Uuid} :
    (ServiceTx.getUser userId).HasEffect env store := by
  simp only [ServiceTx.HasEffect, ServiceTx.body, getUser, Tx.wp_getUserById]
  exact ⟨[], Effect.unchanged rfl (by
    intro userId change caused
    cases caused)⟩

/-- What an update is resolved to may be administered. -/
theorem permitted_administer
    {deps : Dependencies}
    {current : UserAccount}
    {update : UserUpdate}
    {resolved : ResolvedUpdate}
    (resolves : resolveUpdate deps current update = .ok resolved) :
    (AccountChange.administer resolved).Permitted now current := by
  obtain ⟨status, notPending, fixed⟩ := resolveUpdate_ok_status resolves
  constructor
  · intro pending
    rcases fixed pending with unrequested | disabled
    · left
      rw [status, unrequested]
      exact pending
    · right
      rw [status, disabled]
      rfl
  · intro pending
    rw [status] at pending
    cases requested : update.status with
    | none =>
        rw [requested] at pending
        exact pending
    | some other =>
        rw [requested] at notPending pending
        exact absurd (congrArg some pending) notPending

/-- Counting administrators changes nothing and may only refuse. -/
theorem wp_requireRemainingAdmin_committed
    {deps : Dependencies}
    {current : UserAccount}
    {resolved : ResolvedUpdate}
    {normal : Unit → Store → Prop}
    (remaining : normal () store) :
    Tx.wp (requireRemainingAdmin deps current resolved) normal
      (fun _ _ => True) store := by
  simp only [requireRemainingAdmin, Tx.wp_ite, Tx.wp_bind,
    Tx.wp_countUsersWithRole, Tx.wp_throw, Tx.wp_pure]
  split
  · split
    · trivial
    · exact remaining
  · exact remaining

/-- The rule of an update: it performs exactly the resolved change. -/
theorem wp_administering_committed
    {deps : Dependencies}
    {userId : Uuid}
    {update : UserUpdate}
    {normal : UserAccount → Store → Prop}
    (administered :
      ∀ current resolved later,
        store.users.get? userId = some current →
        resolveUpdate deps current update = .ok resolved →
        Performs deps.settings store.toCore
          [.account userId (.administer resolved) .nothing now]
          later.toCore →
        normal (applyUpdate current resolved now) later) :
    Tx.wp (updateUser deps userId update now context) normal
      (fun _ _ => True) store := by
  simp only [updateUser, Tx.wp_bind, Tx.wp_acquireAdminInvariantLock,
    Tx.wp_getUserById]
  cases account : store.users.get? userId with
  | none =>
      trivial
  | some current =>
      simp only [Tx.wp_bind]
      refine wp_ofExcept_committed ?_
      intro resolved resolves
      rw [Tx.wp_bind]
      apply wp_requireRemainingAdmin_committed
      simp only [Tx.wp_bind]
      apply wp_updateUser_committed
      have enabled :
          (Move.account userId (.administer resolved) .nothing now).Enabled
            deps.settings store.toCore :=
        ⟨current, account, permitted_administer resolves, trivial,
          fun impossible => absurd rfl impossible⟩
      simp only [Tx.wp_bind, revokeIfDisabled, Tx.wp_ite,
        Tx.wp_revokeUserSessions, Tx.wp_pure, wp_recordSecurityEvent]
      split
      · rename_i disabled
        refine administered current resolved _ account resolves
          (Performs.single enabled ?_)
        rw [Move.perform_account account]
        simp only [AccountChange.revokes, disabled, decide_true, ↓reduceIte]
        rfl
      · rename_i kept
        refine administered current resolved _ account resolves
          (Performs.single enabled ?_)
        rw [Move.perform_account account]
        simp only [AccountChange.revokes, kept, decide_false]
        rfl

theorem updateUser_effect
    {userId : Uuid}
    {update : UserUpdate} :
    (ServiceTx.updateUser userId update now context).HasEffect env store := by
  refine wp_administering_committed ?_
  intro current resolved later account resolves performs
  refine ⟨_, Effect.of_account performs (by simp)
    (.administered account resolves) ?_⟩
  intro other otherChange caused replacing
  cases caused
  cases replacing

theorem resetPassword_effect
    {userId : Uuid}
    {passwordHash : String} :
    (ServiceTx.resetPassword userId passwordHash now context).HasEffect
      env store := by
  simp only [ServiceTx.HasEffect, ServiceTx.body, resetPassword, Tx.wp_bind,
    Tx.wp_getUserById]
  cases account : store.users.get? userId with
  | none =>
      trivial
  | some current =>
      have currentKey : current.id = userId := Table.key_of_get? account
      subst currentKey
      simp only [Tx.wp_bind]
      apply wp_updateUser_committed
      simp only [Tx.wp_bind, Tx.wp_revokeUserSessions,
        wp_recordSecurityEvent, Tx.wp_pure]
      refine ⟨_, Effect.of_account
        (performs_replace .temporary account trivial Performs.nil)
        (by simp) .passwordReset ?_⟩
      intro other otherChange caused _
      cases caused
      exact ⟨rfl, trivial⟩

theorem revokeUserSessions_effect
    {userId : Uuid} :
    (ServiceTx.revokeUserSessions userId now context).HasEffect env store := by
  simp only [ServiceTx.HasEffect, ServiceTx.body, revokeUserSessions,
    Tx.wp_bind, Tx.wp_getUserById]
  cases store.users.get? userId with
  | none =>
      trivial
  | some current =>
      simp only [Tx.wp_bind, Tx.wp_revokeUserSessions,
        wp_recordSecurityEvent, Tx.wp_pure]
      have enabled :
          (Move.revokeUser userId now).Enabled env.settings store.toCore :=
        trivial
      refine ⟨_, Effect.of_no_account (Performs.single enabled rfl) (by simp) ?_⟩
      intro other change caused
      cases caused

end EpokAuth
