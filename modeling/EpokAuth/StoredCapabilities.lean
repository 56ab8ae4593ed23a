import EpokAuth.AccountStep
import EpokAuth.Capabilities
import EpokAuth.NewAccounts
import EpokAuth.OperationMakes

namespace EpokAuth

open Transactional
open Tx (Enrolls)

/-!
# Stored capabilities

Every operation that creates an account or changes its capabilities normalises
the names it was given, or takes validated ones from the settings.  The roles
and scopes of every account are then canonical in every reachable store, so
that comparing lists compares sets.
-/

/-- The capabilities that an operation computes for a new account. -/
structure GivenCapabilities where
  roles : List String
  scopes : List String
  deriving Repr, DecidableEq

section Operations

variable (deps : Dependencies)

/-- What `create_user` computes from the names it is given. -/
def createUserCapabilities
    (roles : Option (List String))
    (scopes : List String) :
    Except Failure GivenCapabilities := do
  let normalizedRoles ←
    normalizeCapabilities deps.text
      (roles.getD [deps.settings.defaultUserRole]) deps.settings.maxRoles
  let normalizedScopes ←
    normalizeCapabilities deps.text scopes deps.settings.maxScopes
  return { roles := normalizedRoles, scopes := normalizedScopes }

/-- What `provision` computes; an administrator is not provisioned. -/
def provisionCapabilities (roles : Option (List String)) :
    Except Failure GivenCapabilities := do
  let normalizedRoles ←
    normalizeCapabilities deps.text
      (roles.getD [deps.settings.defaultUserRole]) deps.settings.maxRoles
  if deps.settings.adminRole ∈ normalizedRoles then
    .error adminActivationSeparate
  else
    let normalizedScopes ←
      normalizeCapabilities deps.text [] deps.settings.maxScopes
    return { roles := normalizedRoles, scopes := normalizedScopes }

/-- What `ensure_initial_admin` computes. -/
def initialAdminCapabilities : Except Failure GivenCapabilities := do
  let normalizedScopes ←
    normalizeCapabilities deps.text ["auth:admin"] deps.settings.maxScopes
  return { roles := [deps.settings.adminRole], scopes := normalizedScopes }

end Operations

/-- The validator of the two roles in the settings. -/
def validateCapability (text : TextLibrary) (value : String) :
    Except Failure String :=
  match normalizeCapability text value with
  | .ok normalized => .ok normalized
  | .error _ =>
      .error (.valueError "roles must use lowercase capability syntax")

/-- The roles in the settings passed their validator. -/
structure RolesValidated (deps : Dependencies) : Prop where
  admin :
    ∃ value, validateCapability deps.text value = .ok deps.settings.adminRole
  default_ :
    ∃ value,
      validateCapability deps.text value = .ok deps.settings.defaultUserRole

/-- The transaction was given the capabilities that its operation computes. -/
def ServiceTx.Prepared (deps : Dependencies) : ServiceTx → Prop
  | .createUser _ _ _ _ roles scopes _ _ _ =>
      ∃ givenRoles givenScopes,
        createUserCapabilities deps givenRoles givenScopes =
          .ok { roles := roles, scopes := scopes }
  | .provision _ _ _ _ roles scopes _ _ _ =>
      ∃ givenRoles,
        provisionCapabilities deps givenRoles =
          .ok { roles := roles, scopes := scopes }
  | .ensureInitialAdmin _ _ _ _ _ scopes _ _ _ =>
      initialAdminCapabilities deps =
        .ok { roles := [deps.settings.adminRole], scopes := scopes }
  | _ => True

/-! ## What the operations make -/

section Preparing

variable
  {deps : Dependencies}
  {email displayName : String}
  {context : RequestContext}
  {userId : Uuid}

/-- The transactions that `create_user` makes are prepared. -/
theorem createUser_prepared
    {roles : Option (List String)}
    {scopes : List String}
    {googleAutoLinkAllowed : Bool}
    {draws : PasswordDraws} :
    (AuthService.createUser deps email displayName roles scopes
      googleAutoLinkAllowed context userId draws).Makes
      (ServiceTx.Prepared deps) := by
  refine AuthService.createUser_makes ?_
  intro _ _ _ normalRoles normalScopes _ isRoles isScopes
  refine ⟨roles, scopes, ?_⟩
  rw [createUserCapabilities, isRoles, isScopes]
  rfl

/-- The transactions that `provision` makes are prepared. -/
theorem provision_prepared
    {roles : Option (List String)}
    {passwordDraws : PasswordDraws}
    {draws : LinkDraws} :
    (AccountActivationService.provision deps email displayName roles context
      userId passwordDraws draws).Makes (ServiceTx.Prepared deps) := by
  refine AccountActivationService.provision_makes ?_
  intro _ _ _ normalRoles normalScopes _ isRoles ordinary isScopes
  refine ⟨roles, ?_⟩
  rw [provisionCapabilities, isRoles]
  refine (if_neg ordinary).trans ?_
  rw [isScopes]
  rfl

/-- The transactions that `ensure_initial_admin` makes are prepared. -/
theorem ensureInitialAdmin_prepared
    {passwordDraws : PasswordDraws}
    {draws : LinkDraws} :
    (AccountActivationService.ensureInitialAdmin deps email displayName context
      userId passwordDraws draws).Makes (ServiceTx.Prepared deps) := by
  refine AccountActivationService.ensureInitialAdmin_makes ?_
  intro _ _ _ _ normalScopes _ isScopes
  change initialAdminCapabilities deps = _
  rw [initialAdminCapabilities, isScopes]
  rfl

end Preparing

/-- A step of a run whose transactions were prepared by their operations. -/
def PreparedStep (env : Environment) (before : Store) (executed : Executed)
    (after : Store) : Prop :=
  ServiceStep env before executed after ∧
    executed.tx.Prepared env.toDependencies

/-- The stores that prepared transactions reach from the empty one. -/
abbrev PreparedReachable (env : Environment) : Store → Prop :=
  Reachable (PreparedStep env) {}

/-- The capabilities of an account are canonical. -/
structure UserAccount.Capable
    (user : UserAccount)
    (settings : AuthSettings) :
    Prop where
  roles : CanonicalCapabilities settings.maxRoles user.roles
  scopes : CanonicalCapabilities settings.maxScopes user.scopes

/-- Two lists name the same set. -/
def SameSet (names others : List String) : Prop :=
  ∀ name, name ∈ names ↔ name ∈ others

/--
What the roles and scopes of accounts are: canonical sets, of which an update
changes the version exactly when it changes a set, and against which the checks
compare names however they are written.
-/
structure CapabilityBooks (env : Environment) (store : Store) : Prop where
  stored :
    ∀ userId user, store.users.get? userId = some user →
      user.Capable env.settings
  normal : NormalCapabilities env.text
  updates :
    ∀ userId update now context answer after user,
      ServiceStep env store
        { tx := .updateUser userId update now context, answer := .ok answer }
        after →
      store.users.get? userId = some user →
      update.status.getD user.status = user.status →
      update.emailLinkLoginEnabled.getD user.emailLinkLoginEnabled =
        user.emailLinkLoginEnabled →
      update.googleAutoLinkAllowed.getD user.googleAutoLinkAllowed =
        user.googleAutoLinkAllowed →
      ∃ later,
        after.users.get? userId = some later ∧
          (SameSet user.roles later.roles ∧
                SameSet user.scopes later.scopes →
              later.securityVersion = user.securityVersion) ∧
          (¬ (SameSet user.roles later.roles ∧
                SameSet user.scopes later.scopes) →
              later.securityVersion = user.securityVersion + 1)
  checks :
    ∀ claims now user session principal,
      authenticateResult claims now (some user, some session) =
        .ok principal →
      ∀ names,
        (requireRoles env.toDependencies principal names = .ok () ↔
            names.length ≤ env.settings.maxRoles ∧
              ∀ name ∈ names, ∃ role ∈ user.roles,
                normalizeCapability env.text name = .ok role) ∧
          (requireScopes env.toDependencies principal names = .ok () ↔
            names.length ≤ env.settings.maxScopes ∧
              ∀ name ∈ names, ∃ scope ∈ user.scopes,
                normalizeCapability env.text name = .ok scope)
  provisions :
    ∀ names,
      provisionCapabilities env.toDependencies (some names) =
          .error adminActivationSeparate ↔
        names.length ≤ env.settings.maxRoles ∧
          (∀ name ∈ names, ∃ role,
            normalizeCapability env.text name = .ok role) ∧
          ∃ name ∈ names,
            normalizeCapability env.text name = .ok env.settings.adminRole

/-! ## What operations prepare -/

section Preparation

variable
  {deps : Dependencies}
  {capabilities : GivenCapabilities}

theorem isCapability_of_validateCapability
    {text : TextLibrary}
    {value role : String}
    (validates : validateCapability text value = .ok role) :
    isCapability role = true := by
  unfold validateCapability at validates
  split at validates
  · rename_i normalizes
    obtain rfl := Except.ok.inj validates
    obtain ⟨wellFormed, same⟩ := normalizeCapability_ok_iff.mp normalizes
    exact same ▸ wellFormed
  · cases validates

theorem canonical_nil {maximum : Nat} : CanonicalCapabilities maximum [] where
  increasing := .nil
  wellFormed := fun _ member => absurd member List.not_mem_nil
  bounded := Nat.zero_le _

theorem canonical_singleton
    {maximum : Nat}
    {name : String}
    (positive : 1 ≤ maximum)
    (wellFormed : isCapability name = true) :
    CanonicalCapabilities maximum [name] where
  increasing := List.pairwise_singleton _ _
  wellFormed := by
    intro other member
    rw [List.mem_singleton.mp member]
    exact wellFormed
  bounded := positive

/-- What `create_user` computes is canonical. -/
theorem createUserCapabilities_canonical
    {roles : Option (List String)}
    {scopes : List String}
    (computes : createUserCapabilities deps roles scopes = .ok capabilities) :
    CanonicalCapabilities deps.settings.maxRoles capabilities.roles ∧
      CanonicalCapabilities deps.settings.maxScopes capabilities.scopes := by
  unfold createUserCapabilities at computes
  cases normalRoles :
      normalizeCapabilities deps.text
        (roles.getD [deps.settings.defaultUserRole]) deps.settings.maxRoles with
  | error failure =>
      rw [normalRoles] at computes
      cases computes
  | ok normalizedRoles =>
      cases normalScopes :
          normalizeCapabilities deps.text scopes deps.settings.maxScopes with
      | error failure =>
          rw [normalRoles, normalScopes] at computes
          cases computes
      | ok normalizedScopes =>
          rw [normalRoles, normalScopes] at computes
          obtain rfl := Except.ok.inj computes
          exact ⟨canonical_of_normalizeCapabilities normalRoles,
            canonical_of_normalizeCapabilities normalScopes⟩

/-- What `provision` computes is canonical. -/
theorem provisionCapabilities_canonical
    {roles : Option (List String)}
    (computes : provisionCapabilities deps roles = .ok capabilities) :
    CanonicalCapabilities deps.settings.maxRoles capabilities.roles ∧
      CanonicalCapabilities deps.settings.maxScopes capabilities.scopes := by
  unfold provisionCapabilities at computes
  cases normalRoles :
      normalizeCapabilities deps.text
        (roles.getD [deps.settings.defaultUserRole]) deps.settings.maxRoles with
  | error failure =>
      rw [normalRoles] at computes
      cases computes
  | ok normalizedRoles =>
      rw [normalRoles] at computes
      simp only [bind, Except.bind] at computes
      split at computes
      · cases computes
      · cases normalScopes :
            normalizeCapabilities deps.text [] deps.settings.maxScopes with
        | error failure =>
            rw [normalScopes] at computes
            cases computes
        | ok normalizedScopes =>
            rw [normalScopes] at computes
            obtain rfl := Except.ok.inj computes
            exact ⟨canonical_of_normalizeCapabilities normalRoles,
              canonical_of_normalizeCapabilities normalScopes⟩

/-- The scopes that `ensure_initial_admin` computes are canonical. -/
theorem initialAdminCapabilities_canonical
    (computes : initialAdminCapabilities deps = .ok capabilities) :
    CanonicalCapabilities deps.settings.maxScopes capabilities.scopes := by
  unfold initialAdminCapabilities at computes
  cases normalScopes :
      normalizeCapabilities deps.text ["auth:admin"] deps.settings.maxScopes with
  | error failure =>
      rw [normalScopes] at computes
      cases computes
  | ok normalizedScopes =>
      rw [normalScopes] at computes
      obtain rfl := Except.ok.inj computes
      exact canonical_of_normalizeCapabilities normalScopes

end Preparation

section Books

variable
  {env : Environment}
  {store before after : Store}
  {executed : Executed}

/-- An account of the administrative role. -/
theorem capable_administratorAccount
    {id : Uuid}
    {email displayName passwordHash : String}
    {now : Instant}
    (validated : RolesValidated env.toDependencies) :
    (administratorAccount env.toDependencies id email displayName passwordHash
      now).Capable env.settings := by
  obtain ⟨value, validates⟩ := validated.admin
  exact ⟨canonical_singleton env.settings.maxRolesRange.1
      (isCapability_of_validateCapability validates),
    canonical_singleton env.settings.maxScopesRange.1 (by decide)⟩

/-- Prepared transactions insert only accounts with canonical capabilities. -/
theorem ServiceTx.enrolls_capable
    (validated : RolesValidated env.toDependencies)
    (tx : ServiceTx)
    (prepared : tx.Prepared env.toDependencies) :
    Enrolls (fun user => user.Capable env.settings) (tx.body env) := by
  cases tx with
  | createAdmin id email displayName passwordHash now context =>
      refine .of_issues (.bind ⟨trivial, fun _ => trivial⟩ fun _ =>
        .bind ⟨trivial, fun _ => trivial⟩ fun administrators => ?_)
      split
      · trivial
      · refine .bind (.bind ⟨?_, fun _ => trivial⟩
          fun _ => Prog.issues_ofExcept _) fun _ => ⟨trivial, fun _ => trivial⟩
        exact capable_administratorAccount validated
  | createUser id email displayName passwordHash roles scopes allowed now
      context =>
      obtain ⟨givenRoles, givenScopes, computes⟩ := prepared
      have canonical := createUserCapabilities_canonical computes
      exact .of_issues (.bind (.bind
        ⟨⟨canonical.1, canonical.2⟩, fun _ => trivial⟩
        fun _ => Prog.issues_ofExcept _) fun _ => ⟨trivial, fun _ => trivial⟩)
  | provision id email displayName passwordHash roles scopes now context
      draws =>
      obtain ⟨givenRoles, computes⟩ := prepared
      have canonical := provisionCapabilities_canonical computes
      exact .of_issues (createPending_issues ⟨canonical.1, canonical.2⟩)
  | ensureInitialAdmin normalizedEmail id email displayName passwordHash
      scopes now context draws =>
      obtain ⟨value, validates⟩ := validated.admin
      have roles : CanonicalCapabilities env.settings.maxRoles
          [env.settings.adminRole] :=
        canonical_singleton env.settings.maxRolesRange.1
          (isCapability_of_validateCapability validates)
      have canonical := initialAdminCapabilities_canonical prepared
      refine .of_issues (.bind ⟨trivial, fun _ => trivial⟩ fun _ =>
        .bind ⟨trivial, fun _ => trivial⟩ fun existing => ?_)
      split
      · split
        · trivial
        · trivial
      · refine .bind ⟨trivial, fun _ => trivial⟩ fun administrators => ?_
        split
        · trivial
        · exact .bind (createPending_issues ⟨roles, canonical⟩) fun _ =>
            .bind ⟨trivial, fun _ => trivial⟩ fun _ => trivial
  | googleLogin claims now context draws =>
      obtain ⟨value, validates⟩ := validated.default_
      refine googleLogin_enrolls fun email displayName passwordHash => ?_
      exact ⟨canonical_singleton env.settings.maxRolesRange.1
          (isCapability_of_validateCapability validates),
        canonical_nil⟩
  | _ =>
      exact .of_within (ServiceTx.body_within _) (by simp [ServiceTx.kinds])

/-- Every account of the store has canonical capabilities. -/
def AllCapable (settings : AuthSettings) (store : Store) : Prop :=
  ∀ userId user, store.users.get? userId = some user → user.Capable settings

/-- Requested capabilities are stored canonically, others stay so. -/
theorem canonical_of_resolveCapabilities
    {deps : Dependencies}
    {current normal : List String}
    {requested : Option (List String)}
    {maximum : Nat}
    (canonical : CanonicalCapabilities maximum current)
    (resolves : resolveCapabilities deps current requested maximum = .ok normal) :
    CanonicalCapabilities maximum normal := by
  cases requested with
  | none => exact Except.ok.inj resolves ▸ canonical
  | some values => exact canonical_of_normalizeCapabilities resolves

@[simp] theorem applyUpdate_roles
    {user : UserAccount}
    {resolved : ResolvedUpdate}
    {now : Instant} :
    (applyUpdate user resolved now).roles = resolved.roles := by
  unfold applyUpdate
  split <;> rfl

@[simp] theorem applyUpdate_scopes
    {user : UserAccount}
    {resolved : ResolvedUpdate}
    {now : Instant} :
    (applyUpdate user resolved now).scopes = resolved.scopes := by
  unfold applyUpdate
  split <;> rfl

/-- A change keeps capabilities canonical when it administers such ones. -/
theorem UserAccount.Capable.apply
    {user : UserAccount}
    {change : AccountChange}
    {now : Instant}
    (capable : user.Capable env.settings)
    (administers :
      ∀ resolved, change = .administer resolved →
        CanonicalCapabilities env.settings.maxRoles resolved.roles ∧
          CanonicalCapabilities env.settings.maxScopes resolved.scopes) :
    (change.apply env.settings now user).Capable env.settings := by
  by_cases administered : ∃ resolved, change = .administer resolved
  · obtain ⟨resolved, rfl⟩ := administered
    have canonical := administers resolved rfl
    constructor
    · rw [AccountChange.apply, applyUpdate_roles]
      exact canonical.1
    · rw [AccountChange.apply, applyUpdate_scopes]
      exact canonical.2
  · have other := not_exists.mp administered
    constructor
    · rw [AccountChange.apply_roles other]
      exact capable.roles
    · rw [AccountChange.apply_scopes other]
      exact capable.scopes

/-- Administered capabilities are canonical where all stored ones are. -/
theorem Causes.canonical
    {userId : Uuid}
    {resolved : ResolvedUpdate}
    (capable : AllCapable env.settings before)
    (cause :
      Causes env.toDependencies before executed userId
        (.administer resolved)) :
    CanonicalCapabilities env.settings.maxRoles resolved.roles ∧
      CanonicalCapabilities env.settings.maxScopes resolved.scopes := by
  cases cause with
  | administered found resolves =>
      have current := capable _ _ found
      have resolution := resolves_of_ok resolves
      exact ⟨canonical_of_resolveCapabilities current.roles resolution.roles,
        canonical_of_resolveCapabilities current.scopes resolution.scopes⟩

/-- What a step leaves of an account that was there before. -/
theorem ServiceStep.capable_kept
    {userId : Uuid}
    {user : UserAccount}
    (step : ServiceStep env before executed after)
    (capable : AllCapable env.settings before)
    (found : before.users.get? userId = some user) :
    ∃ later,
      after.users.get? userId = some later ∧ later.Capable env.settings := by
  rcases step.effect with ⟨moves, effect⟩
  refine effect.performs.preserves
    (fun core =>
      ∃ later,
        core.users.get? userId = some later ∧ later.Capable env.settings)
    ?_ ⟨user, found, capable userId user found⟩
  rintro move member core enabled ⟨current, foundCurrent, capableCurrent⟩
  have taken := Move.accountStep enabled userId
  generalize (move.perform env.settings core).users.get? userId = row
    at taken ⊢
  cases taken with
  | kept =>
      exact ⟨current, foundCurrent, capableCurrent⟩
  | enrolled absent _ =>
      rw [absent] at foundCurrent
      cases foundCurrent
  | @changed other change attachment at_ foundOther permitted =>
      obtain rfl := Option.some.inj (foundCurrent.symm.trans foundOther)
      have cause := effect.attributed _ _ _ _ member
      refine ⟨_, rfl, capableCurrent.apply ?_⟩
      rintro resolved rfl
      exact cause.canonical capable

/-- A prepared step inserts only accounts with canonical capabilities. -/
theorem ServiceStep.newAccounts_capable
    (step : ServiceStep env before executed after)
    (validated : RolesValidated env.toDependencies)
    (prepared : executed.tx.Prepared env.toDependencies) :
    NewAccounts (fun user => user.Capable env.settings) before after := by
  have unchanged :
      NewAccounts (fun user => user.Capable env.settings) before before := by
    intro userId user found absent
    rw [absent] at found
    cases found
  obtain ⟨tx, answer⟩ := executed
  cases answer with
  | error failure =>
      rw [step.unchanged_of_error]
      exact unchanged
  | ok answer =>
      refine step.of_wp (tx.enrolls_capable validated prepared before before ?_)
      intro userId user found absent
      rw [absent] at found
      cases found

/-- Every prepared step keeps the capabilities of all accounts canonical. -/
theorem PreparedStep.allCapable
    (step : PreparedStep env before executed after)
    (validated : RolesValidated env.toDependencies)
    (capable : AllCapable env.settings before) :
    AllCapable env.settings after := by
  intro userId user found
  cases known : before.users.get? userId with
  | none =>
      exact step.1.newAccounts_capable validated step.2 userId user found known
  | some current =>
      obtain ⟨later, foundLater, capableLater⟩ :=
        step.1.capable_kept capable known
      exact Option.some.inj (found.symm.trans foundLater) ▸ capableLater

/-- In every reachable store the capabilities of all accounts are canonical. -/
theorem PreparedReachable.allCapable
    (reachable : PreparedReachable env store)
    (validated : RolesValidated env.toDependencies) :
    AllCapable env.settings store := by
  refine reachable.invariant (AllCapable env.settings) ?_
    fun _ _ _ step capable => step.allCapable validated capable
  intro userId user found
  cases found

end Books

/-! ## Comparing sets -/

section Comparison

variable
  {env : Environment}
  {store before after : Store}
  {names others : List String}
  {maximum : Nat}

/-- Canonical lists that name the same set are the same. -/
theorem CanonicalCapabilities.eq_iff
    (canonical : CanonicalCapabilities maximum names)
    (canonicalOther : CanonicalCapabilities maximum others) :
    names = others ↔ SameSet names others := by
  constructor
  · rintro rfl
    exact fun _ => Iff.rfl
  · intro same
    exact canonical.increasing.eq_of_mem_iff canonicalOther.increasing same

/-- An update leaves the version alone, or advances it by one. -/
theorem applyUpdate_securityVersion
    {user : UserAccount}
    {resolved : ResolvedUpdate}
    {now : Instant} :
    (applyUpdate user resolved now).securityVersion =
      if securityChanged user resolved then user.securityVersion + 1
      else user.securityVersion := by
  unfold applyUpdate
  split
  · rfl
  · rfl

/-- A step that updates an account applies what the update resolves to. -/
theorem ServiceStep.updates
    {userId : Uuid}
    {update : UserUpdate}
    {now : Instant}
    {context : RequestContext}
    {answer : UserAccount}
    (step :
      ServiceStep env before
        { tx := .updateUser userId update now context, answer := .ok answer }
        after) :
    ∃ user resolved,
      before.users.get? userId = some user ∧
        Resolves env.toDependencies user update resolved ∧
        after.users.get? userId = some (applyUpdate user resolved now) := by
  refine @ServiceStep.of_wp _ _ _ _ _
    (fun _ later =>
      ∃ user resolved,
        before.users.get? userId = some user ∧
          Resolves env.toDependencies user update resolved ∧
          later.users.get? userId = some (applyUpdate user resolved now))
    step (wp_administering_committed ?_)
  intro user resolved later found resolves performs
  refine ⟨user, resolved, found, resolves_of_ok resolves, ?_⟩
  have same :
      later.toCore =
        (Move.account userId (.administer resolved) .nothing now).perform
          env.settings before.toCore :=
    performs.2
  rw [same]
  exact Move.perform_account_self found

/-- Only the capabilities decide whether an update changes what is guarded. -/
theorem securityChanged_iff
    {user : UserAccount}
    {resolved : ResolvedUpdate}
    (status : resolved.status = user.status)
    (emailLink :
      resolved.emailLinkLoginEnabled = user.emailLinkLoginEnabled)
    (google :
      resolved.googleAutoLinkAllowed = user.googleAutoLinkAllowed) :
    securityChanged user resolved = true ↔
      ¬ (user.roles = resolved.roles ∧ user.scopes = resolved.scopes) := by
  rw [securityChanged, status, emailLink, google]
  simp only [ne_eq, not_true_eq_false, decide_false, Bool.false_or,
    Bool.or_false, Bool.or_eq_true, decide_eq_true_eq, not_and_or]
  rw [eq_comm, @eq_comm _ resolved.scopes]

/-- Comparing normalised names with a stored set compares each of them. -/
theorem forall_mem_normalized_iff
    {text : TextLibrary}
    {stored : List String} :
    (∃ normal,
        normalizeCapabilities text names maximum = .ok normal ∧
          ∀ name ∈ normal, name ∈ stored) ↔
      names.length ≤ maximum ∧
        ∀ name ∈ names, ∃ capability ∈ stored,
          normalizeCapability text name = .ok capability := by
  constructor
  · rintro ⟨normal, accepted, contained⟩
    obtain ⟨few, wellFormed, rfl⟩ := normalizeCapabilities_ok_iff.mp accepted
    refine ⟨few, fun name given => ⟨spelling text name, ?_, ?_⟩⟩
    · exact contained _ (mem_spelledSet.mpr ⟨name, given, rfl⟩)
    · exact normalizeCapability_ok_iff.mpr ⟨wellFormed name given, rfl⟩
  · rintro ⟨few, each⟩
    have spelled :
        ∀ name ∈ names,
          isCapability (spelling text name) = true ∧
            spelling text name ∈ stored := by
      intro name given
      obtain ⟨capability, member, normal⟩ := each name given
      obtain ⟨wellFormed, rfl⟩ := normalizeCapability_ok_iff.mp normal
      exact ⟨wellFormed, member⟩
    refine ⟨_, normalizeCapabilities_ok_iff.mpr
      ⟨few, fun name given => (spelled name given).1, rfl⟩, ?_⟩
    intro capability member
    obtain ⟨name, given, rfl⟩ := mem_spelledSet.mp member
    exact (spelled name given).2

/-- A check of names against a stored set passes when each is in it. -/
theorem requires_iff
    {text : TextLibrary}
    {stored : List String}
    {failure : Failure} :
    (do
        let expected ← normalizeCapabilities text names maximum
        if ∀ name ∈ expected, name ∈ stored then
          .ok ()
        else
          .error failure : Except Failure Unit) = .ok () ↔
      names.length ≤ maximum ∧
        ∀ name ∈ names, ∃ capability ∈ stored,
          normalizeCapability text name = .ok capability := by
  rw [← forall_mem_normalized_iff]
  cases normalizeCapabilities text names maximum with
  | error failure =>
      simp [bind, Except.bind]
  | ok normal =>
      simp only [bind, Except.bind, Except.ok.injEq, exists_eq_left']
      split
      · rename_i contained
        exact iff_of_true rfl contained
      · rename_i missing
        exact iff_of_false (by simp) missing

/-- Provisioning refuses names of which one is the administrative role. -/
theorem provisionCapabilities_refuses_iff
    {deps : Dependencies} :
    provisionCapabilities deps (some names) = .error adminActivationSeparate ↔
      names.length ≤ deps.settings.maxRoles ∧
        (∀ name ∈ names, ∃ role,
          normalizeCapability deps.text name = .ok role) ∧
        ∃ name ∈ names,
          normalizeCapability deps.text name = .ok deps.settings.adminRole := by
  have separate :
      ∀ detail, inputInvalid detail ≠ adminActivationSeparate := by
    intro detail same
    simp [inputInvalid, adminActivationSeparate, forbidden] at same
  have empty :
      normalizeCapabilities deps.text [] deps.settings.maxScopes = .ok [] := by
    refine normalizeCapabilities_ok_iff.mpr ⟨Nat.zero_le _, ?_, rfl⟩
    exact fun _ member => absurd member List.not_mem_nil
  rw [provisionCapabilities, Option.getD_some, normalizeCapabilities_eq]
  split
  · rename_i many
    refine iff_of_false ?_ fun both => absurd both.1 (Nat.not_le.mpr many)
    simpa [bind, Except.bind] using separate _
  · rename_i few
    split
    · rename_i wellFormed
      simp only [bind, Except.bind, empty]
      have spelled :
          ∀ name ∈ names,
            normalizeCapability deps.text name =
              .ok (spelling deps.text name) :=
        fun name given => normalizeCapability_ok_iff.mpr
          ⟨wellFormed name given, rfl⟩
      split
      · rename_i admin
        obtain ⟨name, given, same⟩ := mem_spelledSet.mp admin
        refine iff_of_true rfl ⟨Nat.not_lt.mp few, ?_, name, given, ?_⟩
        · exact fun other givenToo => ⟨_, spelled other givenToo⟩
        · rw [spelled name given, same]
      · rename_i ordinary
        refine iff_of_false (by simp [pure, Except.pure]) ?_
        rintro ⟨_, _, name, given, normal⟩
        have same := (normalizeCapability_ok_iff.mp normal).2
        exact ordinary (mem_spelledSet.mpr ⟨name, given, same.symm⟩)
    · rename_i malformed
      refine iff_of_false ?_ ?_
      · simpa [bind, Except.bind] using separate _
      · rintro ⟨_, each, _⟩
        refine malformed fun name given => ?_
        obtain ⟨role, normal⟩ := each name given
        exact (normalizeCapability_ok_iff.mp normal).1

/-- The capabilities of a principal are those of the account it stands for. -/
theorem capabilities_of_authenticateResult
    {claims : AccessClaims}
    {now : Instant}
    {user : UserAccount}
    {session : RefreshSession}
    {principal : Principal}
    (authenticates :
      authenticateResult claims now (some user, some session) =
        .ok principal) :
    principal.roles = user.roles ∧ principal.scopes = user.scopes := by
  simp only [authenticateResult] at authenticates
  split at authenticates
  · obtain rfl := Except.ok.inj authenticates
    exact ⟨rfl, rfl⟩
  · cases authenticates

end Comparison

/--
In every store that prepared transactions reach, roles and scopes are canonical
sets: comparing lists compares sets, and no spelling escapes a check.
-/
theorem capabilities_canonical
    {env : Environment}
    {store : Store}
    (folding : CaseFolding env.text)
    (validated : RolesValidated env.toDependencies)
    (reachable : PreparedReachable env store) :
    CapabilityBooks env store where
  stored := reachable.allCapable validated
  normal := folding.normalCapabilities
  updates := by
    intro userId update now context answer after user step found status
      emailLink google
    obtain ⟨current, resolved, foundToo, resolves, updated⟩ := step.updates
    obtain rfl := Option.some.inj (found.symm.trans foundToo)
    have capable := reachable.allCapable validated userId user found
    have sets :
        (user.roles = resolved.roles ∧ user.scopes = resolved.scopes) ↔
          SameSet user.roles resolved.roles ∧
            SameSet user.scopes resolved.scopes :=
      and_congr
        (capable.roles.eq_iff
          (canonical_of_resolveCapabilities capable.roles resolves.roles))
        (capable.scopes.eq_iff
          (canonical_of_resolveCapabilities capable.scopes resolves.scopes))
    have changes :=
      securityChanged_iff (resolves.status.trans status)
        (resolves.emailLinkLoginEnabled.trans emailLink)
        (resolves.googleAutoLinkAllowed.trans google)
    rw [sets] at changes
    refine ⟨_, updated, ?_, ?_⟩
    · rw [applyUpdate_roles, applyUpdate_scopes, applyUpdate_securityVersion]
      intro same
      rw [if_neg fun changed => changes.mp changed same]
    · rw [applyUpdate_roles, applyUpdate_scopes, applyUpdate_securityVersion]
      intro differ
      rw [if_pos (changes.mpr differ)]
  checks := by
    intro claims now user session principal authenticates names
    obtain ⟨roles, scopes⟩ := capabilities_of_authenticateResult authenticates
    rw [← roles, ← scopes]
    exact ⟨requires_iff, requires_iff⟩
  provisions := fun _ => provisionCapabilities_refuses_iff

/-! ## An account with a canonical role -/

/-- The case folding of ASCII texts, character by character. -/
def asciiFolding : CaseFolding asciiText where
  fold := fun character => [character.toLower]
  casefold_eq := by
    intro value
    rw [← List.map_eq_flatMap]
    rfl
  fold_ascii := fun _ _ => rfl
  fold_space := by
    intro character blank
    rw [toLower_eq_self]
    by_contra letter
    rw [isSpace_eq_false (by omega) (by omega)] at blank
    cases blank
  fold_inhabited := fun _ => List.cons_ne_nil _ _
  not_space_of_mem_fold := by
    intro character visible folded member
    rw [List.mem_singleton.mp member]
    by_cases small : character.toNat < 65 ∨ 90 < character.toNat
    · rw [toLower_eq_self small]
      exact visible
    · have code : character.toLower.toNat = character.toNat + 32 :=
        toNat_toLower (by omega) (by omega)
      exact isSpace_eq_false (by omega) (by omega)

/-- An environment that folds the case of ASCII texts. -/
def foldingEnvironment : Environment :=
  { referenceEnvironment with text := asciiText }

/-- The creation of an account whose roles were given in several spellings. -/
def createsUser : ServiceTx :=
  .createUser 1 "user@example.test" "User" "password" ["editor", "user"]
    ["reports:read"] false 0 {}

/-- The roles and the scopes from which that transaction was made. -/
theorem createsUser_prepared :
    createsUser.Prepared foldingEnvironment.toDependencies := by
  refine ⟨some ["User ", "EDITOR", "user", " Editor"],
    ["Reports:Read", "reports:read"], ?_⟩
  have roles :
      normalizeCapabilities asciiText ["User ", "EDITOR", "user", " Editor"]
          32 =
        .ok ["editor", "user"] := by
    decide +kernel
  have scopes :
      normalizeCapabilities asciiText ["Reports:Read", "reports:read"] 256 =
        .ok ["reports:read"] := by
    decide +kernel
  show (do
      let normalizedRoles ←
        normalizeCapabilities asciiText ["User ", "EDITOR", "user", " Editor"]
          32
      let normalizedScopes ←
        normalizeCapabilities asciiText ["Reports:Read", "reports:read"] 256
      return GivenCapabilities.mk normalizedRoles normalizedScopes :
        Except Failure GivenCapabilities) = _
  rw [roles, scopes]
  rfl

/-- The capabilities of that account are canonical after its creation. -/
theorem capabilities_canonical_createsUser :
    ((createsUser.execute foldingEnvironment {}).2.users.get? 1).map
        UserAccount.roles =
        some ["editor", "user"] ∧
      CapabilityBooks foldingEnvironment
        (createsUser.execute foldingEnvironment {}).2 := by
  have names :
      ∀ name, isCapability name = true →
        normalizeCapability asciiText name = .ok name := by
    intro name wellFormed
    have same := asciiFolding.spelling_of_isCapability wellFormed
    refine normalizeCapability_ok_iff.mpr ⟨?_, same.symm⟩
    rw [same]
    exact wellFormed
  have validates :
      ∀ name, isCapability name = true →
        validateCapability asciiText name = .ok name := by
    intro name wellFormed
    rw [validateCapability, names name wellFormed]
  have validated : RolesValidated foldingEnvironment.toDependencies :=
    ⟨⟨"admin", validates _ (by decide)⟩, ⟨"user", validates _ (by decide)⟩⟩
  have step :
      ServiceStep foldingEnvironment {} _
        (createsUser.execute foldingEnvironment {}).2 :=
    .completed createsUser (ServiceTx.fresh_of_isFresh rfl)
  refine ⟨by decide +kernel, ?_⟩
  exact capabilities_canonical asciiFolding validated
    ⟨_, .single ⟨step, createsUser_prepared⟩⟩

/-- Repeating a name often enough is refused, whatever the name. -/
theorem repetition_refused :
    ¬ ∀ (text : TextLibrary) (values others : List String) (maximum : Nat),
        SameSet values others →
        normalizeCapabilities text values maximum =
          normalizeCapabilities text others maximum := by
  intro insensitive
  have same :=
    insensitive asciiText (List.replicate 33 "admin") ["admin"] 32
      (fun name => by simp)
  have single :
      normalizeCapabilities asciiText ["admin"] 32 = .ok ["admin"] :=
    (canonical_singleton (by decide) (by decide)).normalize asciiFolding
  have repeated :
      normalizeCapabilities asciiText (List.replicate 33 "admin") 32 =
        .error (inputInvalid "Too many capabilities.") := by
    rw [normalizeCapabilities, if_pos (by decide)]
  rw [single, repeated] at same
  cases same

end EpokAuth
