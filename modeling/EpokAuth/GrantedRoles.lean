import EpokAuth.StoredCapabilities

namespace EpokAuth

open Transactional

/-!
# Who grants a role

An account has the roles it was created with until an administrator updates
them.  So each role of a stored account was given to it by the transaction that
created it, or by one that updated it.
-/

/-- A transaction may give a role to an account. -/
def ServiceTx.Grants (deps : Dependencies) (role : String) : ServiceTx → Prop
  | .createAdmin .. => role = deps.settings.adminRole
  | .ensureInitialAdmin .. => role = deps.settings.adminRole
  | .createUser _ _ _ _ roles .. => role ∈ roles
  | .provision _ _ _ _ roles .. => role ∈ roles
  | .updateUser _ update .. =>
      ∃ requested normal,
        update.roles = some requested ∧
          normalizeCapabilities deps.text requested deps.settings.maxRoles =
            .ok normal ∧
          role ∈ normal
  | .googleLogin .. =>
      deps.settings.googleAccountMode = .open_ ∧
        role = deps.settings.defaultUserRole
  | _ => False

section Steps

open Tx (Enrolls)

variable
  {env : Environment}
  {before after : Store}
  {executed : Executed}

/-- A created account has the roles that its transaction grants. -/
theorem ServiceTx.enrolls_granted (tx : ServiceTx) :
    Enrolls (fun user => ∀ role ∈ user.roles, tx.Grants env.toDependencies role)
      (tx.body env) := by
  cases tx with
  | createAdmin id email displayName passwordHash now context =>
      refine .of_issues (.bind ⟨trivial, fun _ => trivial⟩ fun _ =>
        .bind ⟨trivial, fun _ => trivial⟩ fun administrators => ?_)
      split
      · trivial
      · refine .bind (.bind ⟨?_, fun _ => trivial⟩
          fun _ => Prog.issues_ofExcept _) fun _ => ⟨trivial, fun _ => trivial⟩
        exact fun role member => List.mem_singleton.mp member
  | createUser id email displayName passwordHash roles scopes allowed now
      context =>
      exact .of_issues (.bind (.bind
        ⟨fun role member => member, fun _ => trivial⟩
        fun _ => Prog.issues_ofExcept _) fun _ => ⟨trivial, fun _ => trivial⟩)
  | provision id email displayName passwordHash roles scopes now context
      draws =>
      exact .of_issues (createPending_issues fun role member => member)
  | ensureInitialAdmin normalizedEmail id email displayName passwordHash
      scopes now context draws =>
      refine .of_issues (.bind ⟨trivial, fun _ => trivial⟩ fun _ =>
        .bind ⟨trivial, fun _ => trivial⟩ fun existing => ?_)
      split
      · split
        · trivial
        · trivial
      · refine .bind ⟨trivial, fun _ => trivial⟩ fun administrators => ?_
        split
        · trivial
        · refine .bind (createPending_issues ?_) fun _ =>
            .bind ⟨trivial, fun _ => trivial⟩ fun _ => trivial
          exact fun role member => List.mem_singleton.mp member
  | googleLogin claims now context draws =>
      refine googleLogin_enrolls_open fun isOpen _ _ _ => ?_
      exact fun role member => ⟨isOpen, List.mem_singleton.mp member⟩
  | _ =>
      exact .of_within (ServiceTx.body_within _) (by simp [ServiceTx.kinds])

/-- An update leaves the roles of an account, or gives it the requested ones. -/
theorem Causes.grants
    {userId : Uuid}
    {user : UserAccount}
    {change : AccountChange}
    {now : Instant}
    {role : String}
    (cause : Causes env.toDependencies before executed userId change)
    (held : role ∈ (change.apply env.settings now user).roles) :
    role ∈ user.roles ∨
      (∃ current, before.users.get? userId = some current ∧
        role ∈ current.roles) ∨
      executed.tx.Grants env.toDependencies role := by
  by_cases administered : ∃ resolved, change = .administer resolved
  · obtain ⟨resolved, rfl⟩ := administered
    rw [AccountChange.apply, applyUpdate_roles] at held
    cases cause with
    | @administered _ update _ _ _ _ _ found resolves =>
        have resolution := (resolves_of_ok resolves).roles
        unfold resolveCapabilities at resolution
        split at resolution
        · rw [← Except.ok.inj resolution] at held
          exact .inr (.inl ⟨_, found, held⟩)
        · rename_i requested isRequested
          exact .inr (.inr ⟨requested, _, isRequested, resolution, held⟩)
  · rw [AccountChange.apply_roles (not_exists.mp administered)] at held
    exact .inl held

/-- The roles of an account that was there before. -/
theorem ServiceStep.roles_kept
    {userId : Uuid}
    {user : UserAccount}
    (step : ServiceStep env before executed after)
    (found : before.users.get? userId = some user) :
    ∃ later,
      after.users.get? userId = some later ∧
        ∀ role ∈ later.roles,
          role ∈ user.roles ∨ executed.tx.Grants env.toDependencies role := by
  rcases step.effect with ⟨moves, effect⟩
  refine effect.performs.preserves
    (fun core =>
      ∃ later,
        core.users.get? userId = some later ∧
          ∀ role ∈ later.roles,
            role ∈ user.roles ∨ executed.tx.Grants env.toDependencies role)
    ?_ ⟨user, found, fun _ => .inl⟩
  rintro move member core enabled ⟨current, foundCurrent, kept⟩
  have taken := Move.accountStep enabled userId
  generalize (move.perform env.settings core).users.get? userId = row
    at taken ⊢
  cases taken with
  | kept =>
      exact ⟨current, foundCurrent, kept⟩
  | enrolled absent _ =>
      rw [absent] at foundCurrent
      cases foundCurrent
  | @changed other change attachment at_ foundOther permitted =>
      obtain rfl := Option.some.inj (foundCurrent.symm.trans foundOther)
      have cause := effect.attributed _ _ _ _ member
      refine ⟨_, rfl, fun role held => ?_⟩
      rcases cause.grants held with was | ⟨first, isFirst, was⟩ | grants
      · exact kept role was
      · obtain rfl := Option.some.inj (found.symm.trans isFirst)
        exact .inl was
      · exact .inr grants

/-- Each role that a step leaves stored was stored before, or is granted by it. -/
theorem ServiceStep.roles_granted
    {userId : Uuid}
    {later : UserAccount}
    {role : String}
    (step : ServiceStep env before executed after)
    (found : after.users.get? userId = some later)
    (held : role ∈ later.roles) :
    (∃ user,
        before.users.get? userId = some user ∧ role ∈ user.roles) ∨
      executed.tx.Grants env.toDependencies role := by
  cases known : before.users.get? userId with
  | some user =>
      obtain ⟨other, foundOther, kept⟩ := step.roles_kept known
      obtain rfl := Option.some.inj (found.symm.trans foundOther)
      exact (kept role held).imp_left fun was => ⟨user, rfl, was⟩
  | none =>
      obtain ⟨tx, answer⟩ := executed
      cases answer with
      | error failure =>
          rw [step.unchanged_of_error, known] at found
          cases found
      | ok answer =>
          have created :
              NewAccounts
                (fun user =>
                  ∀ role ∈ user.roles, tx.Grants env.toDependencies role)
                before after := by
            refine step.of_wp (tx.enrolls_granted before before ?_)
            intro other user present absent
            rw [absent] at present
            cases present
          exact .inr (created userId later found known role held)

end Steps

end EpokAuth
