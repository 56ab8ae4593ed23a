import EpokAuth.NewAccounts
import EpokAuth.RoleDiscipline

namespace EpokAuth

open Transactional

/-!
# The services keep the discipline of the administrator role

Calls that bootstrap an administrator insert it where they have counted none,
under the advisory lock.  Links are issued to accounts that are held.  What
else the services write leaves the role where it is.
-/

variable
  {env : Environment}
  {founded : Uuid → Prop}
  {call : ServiceTx}
  {standing earlier later : ServiceStanding}
  {now : Instant}
  {context : RequestContext}

open Tx (Upholds StaysWithin)

/-! ## Administrators that are counted -/

section Counts

variable
  {settings : AuthSettings}
  {store : Store}

/-- Some account is counted that holds the role. -/
theorem hasAdmin_of_count
    (counted :
      store.users.count (Store.hasRole settings.adminRole false) ≠ 0) :
    HasAdmin settings store := by
  rcases Table.count_pos_iff.mp (Nat.pos_of_ne_zero counted) with
    ⟨id, user, stored, admin⟩
  exact ⟨id, user, stored, by simpa [Store.hasRole] using admin⟩

/-- Where no account is counted, none holds the role. -/
theorem not_hasAdmin_of_count
    (counted :
      store.users.count (Store.hasRole settings.adminRole false) = 0) :
    ¬ HasAdmin settings store := by
  rintro ⟨id, user, stored, admin⟩
  have positive :=
    Table.count_pos_iff.mpr
      ⟨id, user, stored,
        (by simpa [Store.hasRole] using admin :
          Store.hasRole settings.adminRole false user = true)⟩
  omega

end Counts

/-- Under the advisory lock, there is still no administrator. -/
theorem no_admin_reads
    (without : ¬ HasAdmin env.settings earlier.view)
    (locked : Locked earlier.locks .adminInvariant)
    (follows : Follows (roleDiscipline env founded) [] earlier later) :
    ¬ HasAdmin env.settings later.view := by
  rintro ⟨id, user, stored, admin⟩
  have adds :
      AddsNoAdmin env.settings (earlier.view.users.get? id)
        (later.view.users.get? id) :=
    follows.spares locked (.user id)
  rcases adds user stored admin with ⟨before, found, isAdmin⟩
  exact without ⟨id, before, found, isAdmin⟩

/-! ## Accounts without links -/

/-- No link belongs to the account. -/
def NoLinks (userId : Uuid) (store : Store) : Prop :=
  ∀ id link, store.links.get? id = some link → link.userId ≠ userId

/-- An account that is not stored has no link. -/
theorem NoLinks.of_absent
    {userId : Uuid}
    {store : Store}
    (owned : LinksOwned store)
    (absent : store.users.get? userId = none) :
    NoLinks userId store := by
  rintro id link found rfl
  have stored := owned id link found
  rw [absent] at stored
  cases stored

/-- While an account is locked, it gets no link. -/
theorem NoLinks.relied
    {userId : Uuid}
    {locks : List (Lock Resource)}
    {first second : Store}
    (without : NoLinks userId first)
    (locked : Locked locks (.user userId))
    (relied :
      (roleDiscipline env founded).rules.protection.Relied locks first
        second) :
    NoLinks userId second := by
  intro id link found owned
  have adds :
      AddsNoLink userId (first.links.get? id) (second.links.get? id) :=
    RowRules.spares_of_spared (relied.spared _ locked) (.link id)
  rcases adds link found owned with ⟨before, foundBefore, ownedBefore⟩
  exact without id before foundBefore ownedBefore

/-- Reads and events add no link to a locked account. -/
theorem NoLinks.follows
    {userId : Uuid}
    {written : List Write}
    (without : NoLinks userId earlier.view)
    (locked : Locked earlier.locks (.user userId))
    (follows :
      Follows (roleDiscipline env founded) written earlier later)
    (elsewhere :
      ∀ store, (applyAll Store.apply written store).links = store.links) :
    NoLinks userId later.view := by
  rcases follows.view with ⟨seen, relied, _, same⟩
  rw [same, NoLinks, elsewhere]
  exact without.relied locked relied

/-- Removing old links adds none to a locked account. -/
theorem NoLinks.sweeps
    {userId : Uuid}
    {property : EmailLink → Bool}
    {targets : Store → List Uuid}
    (without : NoLinks userId earlier.view)
    (locked : Locked earlier.locks (.user userId))
    (follows :
      FollowsSweep (roleDiscipline env founded) env targets
        (Store.linksField.touchDelete property) earlier later) :
    NoLinks userId later.view := by
  rcases follows.sweeps with ⟨start, written, seeing, _, swept⟩
  have begun : NoLinks userId start :=
    without.follows locked seeing fun _ => rfl
  have kept :
      ∀ sweep : Sweep Store Write Uuid,
        ((roleDiscipline env founded).contract env).Sweeps earlier.locks
            (Store.linksField.touchDelete property)
            ⟨targets start, start, []⟩ sweep →
          NoLinks userId sweep.view := by
    intro sweep swept
    induction swept with
    | refl =>
        exact begun
    | tail _ step inductionHypothesis =>
        cases step with
        | relied relies =>
            exact inductionHypothesis.relied locked relies
        | @visited first last target view writes =>
            refine
              (touchDelete_writes Store.linksField property target
                view).apply_cases inductionHypothesis ?_
            rintro write ⟨rfl, _⟩ id link found
            change (view.links.erase target).get? id = some link at found
            rw [Table.get?_erase] at found
            split at found
            · cases found
            · exact inductionHypothesis id link found
  exact kept _ swept

/-! ## Issuing links -/

/-- A link is issued to an account that is held; the first one is not refused. -/
theorem upholds_issueLink_held
    {user : UserAccount}
    {purpose : EmailLinkPurpose}
    {browserNonce : Option String}
    {draws : LinkDraws}
    {normal : EmailLinkIssue → ServiceStanding → Prop}
    {failed : Failure → ServiceStanding → Prop}
    (holds : HoldsRow standing (.user user.id) (some user))
    (continues :
      ∀ issue later, HoldsRow later (.user user.id) (some user) →
        (NoLinks user.id standing.view → issue.pending.isSome = true) →
        normal issue later)
    (refused :
      ∀ failure later,
        (∀ url, emailLinkUrl env.settings purpose = .ok url →
          failure.IsConflict) →
        failed failure later) :
    Upholds (roleDiscipline env founded) env call
      (issueLink env.toDependencies user purpose now context browserNonce
        draws)
      normal failed standing := by
  rw [issueLink, upholds_bind]
  refine upholds_sweep rfl (fun _ _ => trivial) ?_
  intro visited first removed
  have holdsFirst :=
    holds.sweeps removed fun target store write member => by
      have same :=
        (touchDelete_resource (fun _ => rfl) target store).forall write member
      rw [same]
      simp [StoreRow.resource]
  rw [upholds_bind]
  refine upholds_read rfl rfl ?_
  intro second counted
  have holdsSecond := holdsFirst.reads counted
  refine upholds_ite (fun tooMany => ?_) fun _ => ?_
  · -- An account without links has made no request.
    refine continues _ _ holdsSecond fun without => ?_
    have noLinks : NoLinks user.id second.view :=
      (without.sweeps holds.locked removed).follows holdsFirst.locked counted
        fun _ => rfl
    have positive :=
      Nat.lt_of_lt_of_le env.settings.emailLinkMaxRequestsRange.1 tooMany
    rcases Table.count_pos_iff.mp positive with ⟨id, link, stored, requested⟩
    refine absurd ?_ (noLinks id link stored)
    simp only [Store.requestedFor, Bool.and_eq_true, decide_eq_true_eq]
      at requested
    exact requested.1.1
  rw [upholds_bind]
  refine upholds_read rfl rfl ?_
  intro third chosen
  have holdsThird := holdsSecond.reads chosen
  rw [upholds_bind]
  refine upholds_attempt_raising rfl inserting_conflicts ?_ ?_
    fun failure later _ conflict => refused failure later fun _ _ => conflict
  · intro seen seeing
    have holdsSeen := holdsThird.reads seeing
    refine ⟨holdsSeen.locked, ?_⟩
    change (seen.users.get? user.id).isSome = true
    rw [show seen.users.get? user.id = some user from holdsSeen.seen]
    rfl
  · intro seen fourth _ inserted _ _ _
    have holdsFourth :=
      holdsThird.writes inserted (by simp [Write.resource, StoreRow.resource])
    rw [upholds_bind]
    refine upholds_record ?_
    intro last event recorded
    rw [upholds_bind, upholds_ofExcept]
    cases configured : emailLinkUrl env.settings purpose with
    | error failure =>
        refine refused _ _ fun url isUrl => ?_
        rw [configured] at isUrl
        cases isUrl
    | ok url =>
        exact continues _ _ (holdsFourth.records recorded) fun _ => rfl

/-- A pending account is inserted, and gets its link. -/
theorem upholds_createPending_held
    {user : UserAccount}
    {draws : LinkDraws}
    {normal : AccountActivation → ServiceStanding → Prop}
    {failed : Failure → ServiceStanding → Prop}
    (grants :
      ∀ seen,
        Follows (roleDiscipline env founded) [] standing
            (standing.seeing seen) →
          user.IsAdmin env.settings →
          Founds env founded call (standing.seeing seen) user.id)
    (continues :
      ∀ activation later, activation.user = user →
        HoldsRow later (.user user.id) (some user) → normal activation later)
    (refused :
      ∀ failure later,
        (∀ url, emailLinkUrl env.settings .activation = .ok url →
          failure.IsConflict) →
        failed failure later) :
    Upholds (roleDiscipline env founded) env call
      (createPending env.toDependencies user now context draws) normal failed
      standing := by
  rw [createPending, upholds_bind]
  refine upholds_attempt_raising rfl inserting_conflicts grants ?_
    fun failure later _ conflict => refused failure later fun _ _ => conflict
  intro seen first seeing _ same locked accepted
  have holds : HoldsRow first (.user user.id) (some user) := by
    refine ⟨locked _ rfl, ?_⟩
    rw [same]
    exact Table.get?_put_self _ _
  have sane : RolesSane env.settings founded seen := seeing.sane
  have absent : seen.users.get? user.id = none := by
    simp only [Bool.or_eq_false_iff, Option.isSome_eq_false_iff,
      Option.isNone_iff_eq_none] at accepted
    exact accepted.1
  have without : NoLinks user.id first.view := by
    have before : NoLinks user.id seen := .of_absent sane.owned absent
    rw [same]
    exact before
  rw [upholds_bind]
  refine upholds_record ?_
  intro second event recorded
  have noLinks : NoLinks user.id second.view :=
    without.follows holds.locked recorded fun _ => rfl
  rw [upholds_bind]
  refine upholds_issueLink_held (holds.records recorded) ?_ refused
  intro issue last holdsLast issues
  have some_ := issues noLinks
  cases pending : issue.pending with
  | none =>
      rw [pending] at some_
      cases some_
  | some pending =>
      exact continues _ _ rfl holdsLast

/-! ## Bootstrapping -/

/-- An account that is stored and holds the role is an administrator. -/
theorem HoldsRow.adminAt
    {user : UserAccount}
    (holds : HoldsRow standing (.user user.id) (some user))
    (admin : user.IsAdmin env.settings) :
    AdminAt env.settings standing.view user.id :=
  ⟨user, holds.seen, admin⟩

/-- Where a bootstrapping call was refused, or what it ran into. -/
def BootstrapRefused
    (settings : AuthSettings)
    (store : Store)
    (failure : Failure) :
    Prop :=
  (failure = adminExists ∧ HasAdmin settings store) ∨
    failure = userExists ∨ failure.IsConflict

/-- What the answer of a bootstrapping call says about a store. -/
def BootstrapAnswer
    (settings : AuthSettings)
    (store : Store) :
    (call : ServiceTx) → Except Failure call.Answer → Prop
  | .createAdmin id .., .ok _ => AdminAt settings store id
  | .ensureInitialAdmin _ id .., .ok activation =>
      AdminAt settings store activation.user.id ∧
        (activation.pending ≠ none → activation.user.id = id)
  | .createAdmin .., .error failure =>
      BootstrapRefused settings store failure
  | .ensureInitialAdmin .., .error failure =>
      BootstrapRefused settings store failure
  | _, _ => True

/-- The answer tells of an administrator that was there before. -/
def ServiceTx.FindsAdmin :
    (call : ServiceTx) → Except Failure call.Answer → Prop
  | .ensureInitialAdmin .., .ok activation => activation.pending = none
  | _, .error failure => failure = adminExists
  | _, _ => False

/-- What bootstrapping calls promise: an administrator, or a reason. -/
def bootstrapPromise (env : Environment) :
    Contract.Promise Store Write Resource Failure ServiceTx.Answer :=
  fun call answer standing =>
    BootstrapAnswer env.settings standing.view call answer ∧
      (call.bootstraps ≠ none → call.FindsAdmin answer →
        standing.issued = [])

theorem bootstrapPromise_of_other
    {answer : Except Failure call.Answer}
    (other : call.bootstraps = none) :
    bootstrapPromise env call answer standing := by
  refine ⟨?_, fun bootstraps _ => absurd other bootstraps⟩
  cases call with
  | createAdmin => cases other
  | ensureInitialAdmin => cases other
  | _ => trivial

/-- A first administrator is inserted, or the call says why not. -/
theorem keeps_createAdmin
    {id : Uuid}
    {email displayName passwordHash : String}
    (isFounded : founded id)
    (nothing : standing.issued = []) :
    ((roleDiscipline env founded).contract env).Keeps (bootstrapPromise env)
      (.createAdmin id email displayName passwordHash now context)
      (createAdmin env.toDependencies
        (administratorAccount env.toDependencies id email displayName
          passwordHash now)
        now context)
      standing := by
  change Upholds _ _ _ _ _ _ _
  rw [createAdmin, upholds_bind]
  refine upholds_fetch rfl rfl ?_
  intro first locking held
  have locked : Locked first.locks .adminInvariant := locked_of_forUpdate held
  have nothingFirst := locking.issued_nil.trans nothing
  rw [upholds_bind]
  refine upholds_read rfl rfl ?_
  intro second counted
  have nothingSecond := counted.issued_nil.trans nothingFirst
  refine upholds_ite (fun some_ => ?_) fun none_ => ?_
  · exact ⟨.inl ⟨rfl, hasAdmin_of_count some_⟩, fun _ _ => nothingSecond⟩
  have without := not_hasAdmin_of_count (not_not.mp none_)
  have lockedSecond := locked.mono counted.locks
  rw [upholds_bind]
  refine upholds_attempt_raising rfl inserting_conflicts ?_ ?_ ?_
  · intro seen seeing _
    exact
      { bootstraps := rfl
        founded := isFounded
        locked := lockedSecond.mono seeing.locks
        first := no_admin_reads without lockedSecond seeing }
  · intro seen third _ _ same locks _
    have holds :
        HoldsRow third (.user id)
          (some (administratorAccount env.toDependencies id email displayName
            passwordHash now)) := by
      refine ⟨locks _ rfl, ?_⟩
      rw [same]
      exact Table.get?_put_self seen.users (administratorAccount ..)
    refine upholds_record ?_
    intro last event recorded
    have admin : AdminAt env.settings last.view id :=
      ⟨_, (holds.records recorded).seen, List.mem_cons_self⟩
    refine ⟨admin, ?_⟩
    intro _ finds
    exact finds.elim
  · intro failure last follows conflict
    refine ⟨.inr (.inr conflict), fun _ _ => ?_⟩
    exact follows.issued_nil.trans nothingSecond

/-- An administrator is found or inserted with its link, or neither. -/
theorem keeps_ensureInitialAdmin_role
    {normalizedEmail email displayName passwordHash : String}
    {id : Uuid}
    {scopes : List String}
    {draws : LinkDraws}
    (isFounded : founded id)
    (configured : requireActivationUrl env.settings = .ok ())
    (nothing : standing.issued = []) :
    ((roleDiscipline env founded).contract env).Keeps (bootstrapPromise env)
      (.ensureInitialAdmin normalizedEmail id email displayName passwordHash
        scopes now context draws)
      (ensureInitialAdmin env.toDependencies normalizedEmail
        (pendingAccount id email displayName passwordHash
          [env.settings.adminRole] scopes now)
        now context draws)
      standing := by
  have isUrl : ∃ url, emailLinkUrl env.settings .activation = .ok url := by
    unfold requireActivationUrl at configured
    cases url : env.settings.emailLinkActivationUrl with
    | none =>
        rw [url] at configured
        cases configured
    | some url' =>
        exact ⟨url', by simp [emailLinkUrl, url]⟩
  rcases isUrl with ⟨url, isUrl⟩
  change Upholds _ _ _ _ _ _ _
  rw [ensureInitialAdmin, upholds_bind]
  refine upholds_fetch rfl rfl ?_
  intro first locking held
  have locked : Locked first.locks .adminInvariant := locked_of_forUpdate held
  have nothingFirst := locking.issued_nil.trans nothing
  rw [upholds_bind]
  refine upholds_getUserByEmail_locked ?_ ?_
  · intro second looked
    have nothingSecond := looked.issued_nil.trans nothingFirst
    have lockedSecond := locked.mono looked.locks
    dsimp only
    rw [upholds_bind]
    refine upholds_read rfl rfl ?_
    intro third counted
    have nothingThird := counted.issued_nil.trans nothingSecond
    refine upholds_ite (fun some_ => ?_) fun none_ => ?_
    · exact ⟨.inl ⟨rfl, hasAdmin_of_count some_⟩, fun _ _ => nothingThird⟩
    have without := not_hasAdmin_of_count (not_not.mp none_)
    have lockedThird := lockedSecond.mono counted.locks
    rw [upholds_bind]
    refine upholds_createPending_held ?_ ?_ ?_
    · intro seen seeing _
      exact
        { bootstraps := rfl
          founded := isFounded
          locked := lockedThird.mono seeing.locks
          first := no_admin_reads without lockedThird seeing }
    · intro activation fourth isUser holds
      rw [upholds_bind]
      refine upholds_record ?_
      intro last event recorded
      refine ⟨⟨?_, fun _ => ?_⟩, ?_⟩
      · rw [isUser]
        exact (holds.records recorded).adminAt List.mem_cons_self
      · rw [isUser]
        rfl
      · intro _ finds
        cases finds
    · intro failure last conflict
      refine ⟨.inr (.inr (conflict url isUrl)), fun _ finds => ?_⟩
      rcases conflict url isUrl with ⟨message, rfl⟩
      cases finds
  · intro user second looked holds _
    have nothingSecond := looked.issued_nil.trans nothingFirst
    dsimp only
    refine upholds_ite (fun admin => ?_) fun _ => ?_
    · exact ⟨⟨holds.adminAt admin, fun some_ => absurd rfl some_⟩,
        fun _ _ => nothingSecond⟩
    · refine ⟨.inr (.inl rfl), fun _ finds => ?_⟩
      cases finds

/-! ## Statements that leave the role -/

/-- The statement grants nobody the role, and adds no link. -/
def Statement.LeavesRoles (settings : AuthSettings) : Statement → Prop
  | .insertUser user => ¬ user.IsAdmin settings
  | .insertEmailLink _ => False
  | _ => True

/-- A call that does not bootstrap may issue such statements anywhere. -/
theorem rolePermits_of_leaves
    {statement : Statement}
    (bootstraps : call.bootstraps = none)
    (spares : call.SparesRoles env founded)
    (unnamed :
      ∀ userId update now context,
        call ≠ .updateUser userId update now context)
    (leaves : statement.LeavesRoles env.settings) :
    rolePermits env founded call standing statement := by
  cases statement with
  | insertUser user => exact fun admin => absurd admin leaves
  | insertEmailLink link => exact leaves.elim
  | updateUser updated =>
      exact
        { bootstraps := bootstraps
          spares := spares
          named := fun _ _ _ _ same => absurd same (unnamed _ _ _ _) }
  | _ => trivial

/-- Statements that neither insert accounts nor change links leave the role. -/
theorem leavesRoles_of_within
    {settings : AuthSettings}
    {kinds : List StatementKind}
    {body : Tx α}
    (within : StaysWithin kinds body)
    (inserts : .enrolls ∉ kinds)
    (links : .changesLinks ∉ kinds) :
    Prog.Issues (Statement.LeavesRoles settings) body := by
  refine Prog.Issues.mono within fun statement allowed => ?_
  cases statement with
  | insertUser user => exact absurd (allowed _ rfl) inserts
  | insertEmailLink link => exact absurd (allowed _ rfl) links
  | _ => trivial

theorem markDelivered_leavesRoles
    {deps : Dependencies}
    {settings : AuthSettings}
    {linkId : Uuid} :
    Prog.Issues (Statement.LeavesRoles settings)
      (markDelivered deps linkId now) := by
  have one :
      ∀ {statement : Statement},
        statement.LeavesRoles settings →
          Prog.Issues (Statement.LeavesRoles settings)
            (Tx.issue statement) :=
    fun leaves => ⟨leaves, fun _ => trivial⟩
  refine .bind (one trivial) fun candidate => ?_
  split
  · trivial
  refine .bind (one trivial) fun user => .bind (one trivial) fun link =>
    .bind (one trivial) fun latest =>
      .bind (Prog.issues_ofExcept _) fun deliverable => ?_
  split
  · split
    · trivial
    · exact .bind (one trivial) fun _ => trivial
  · refine .bind (one trivial) fun activated => ?_
    split
    · trivial
    · exact .bind (one trivial) fun _ => .bind (one trivial) fun _ => trivial

/-- Open accounts have the default role, which is not the administrator's. -/
theorem googleLogin_leavesRoles
    {deps : Dependencies}
    {claims : GoogleClaims}
    {draws : GoogleLoginDraws} :
    Prog.Issues (Statement.LeavesRoles deps.settings)
      (googleLogin deps claims now context draws) := by
  have links :
      ∀ user,
        Prog.Issues (Statement.LeavesRoles deps.settings)
          (if canAutoLink user claims now then do
            let result ← linkAndLogin deps user claims now context draws
            return some result
          else
            return none) := by
    intro user
    split
    · exact leavesRoles_of_within
        (.bind linkAndLogin_within fun _ => .pure _) (by simp) (by simp)
    · trivial
  have creates :
      deps.settings.googleAccountMode = .open_ →
        ∀ email,
          Prog.Issues (Statement.LeavesRoles deps.settings)
            (createOpenUser deps claims email now context draws) := by
    intro isOpen email
    have ordinary := deps.settings.openModeGrantsNoAdmin isOpen
    refine .bind (Prog.issues_ofExcept _) fun passwordHash =>
      .bind (Prog.issues_ofExcept _) fun displayName =>
        .bind (.bind ⟨?_, fun _ => trivial⟩ fun _ =>
          Prog.issues_ofExcept _) fun _ =>
            .bind ⟨trivial, fun _ => trivial⟩ fun _ => trivial
    intro admin
    exact ordinary (List.mem_singleton.mp admin).symm
  have unlinked :
      Prog.Issues (Statement.LeavesRoles deps.settings)
        (loginUnlinked deps claims now context draws) := by
    unfold loginUnlinked
    split
    · trivial
    · unfold loginPreauthorized
      split
      · trivial
      split
      · refine .bind ⟨trivial, fun _ => trivial⟩ fun user => ?_
        split
        · trivial
        · exact links _
      · trivial
    · rename_i isOpen
      unfold loginOpen
      split
      · trivial
      split
      · refine .bind ⟨trivial, fun _ => trivial⟩ fun user => ?_
        split
        · exact links _
        · exact .bind (creates isOpen _) fun user =>
            .bind
              (leavesRoles_of_within insertIdentityAndLogin_within (by simp)
                (by simp))
              fun _ => trivial
      · trivial
  refine .bind (.bind ⟨trivial, fun _ => trivial⟩ fun identity => ?_)
    fun result => ?_
  · split
    · exact leavesRoles_of_within loginLinked_within (by simp) (by simp)
    · exact unlinked
  · split
    · trivial
    · exact .bind ⟨trivial, fun _ => trivial⟩ fun _ => trivial

/-! ## Calls that leave the role -/

/-- A call keeps the discipline of the role, and what it promises. -/
abbrev KeepsRole
    (env : Environment)
    (founded : Uuid → Prop)
    (call : ServiceTx)
    (body : Tx call.Answer)
    (standing : ServiceStanding) :
    Prop :=
  ((roleDiscipline env founded).contract env).Keeps (bootstrapPromise env)
    call body standing

theorem keepsRole_of_issues
    {body : Tx call.Answer}
    (bootstraps : call.bootstraps = none)
    (spares : call.SparesRoles env founded)
    (unnamed :
      ∀ userId update now context,
        call ≠ .updateUser userId update now context)
    (issues : Prog.Issues (Statement.LeavesRoles env.settings) body) :
    KeepsRole env founded call body standing :=
  upholds_of_issues issues
    (fun _ _ leaves =>
      rolePermits_of_leaves bootstraps spares unnamed leaves)
    (fun _ _ => bootstrapPromise_of_other bootstraps)
    fun _ _ => bootstrapPromise_of_other bootstraps

/-- An account that is updated is the one that was named. -/
theorem keepsRole_updateUser
    {userId : Uuid}
    {update : UserUpdate}
    (spares :
      (ServiceTx.updateUser userId update now context).SparesRoles env
        founded) :
    KeepsRole env founded (.updateUser userId update now context)
      (updateUser env.toDependencies userId update now context) standing := by
  have kept :
      ∀ answer later,
        bootstrapPromise env (.updateUser userId update now context) answer
          later :=
    fun _ _ => bootstrapPromise_of_other rfl
  change Upholds _ _ _ _ _ _ _
  rw [updateUser, upholds_bind]
  refine upholds_fetch rfl rfl ?_
  intro first _ _
  rw [upholds_bind]
  refine upholds_getUserById_locked (fun _ _ _ => kept _ _) ?_
  intro user second _ _ isUser
  dsimp only
  rw [upholds_bind, upholds_ofExcept]
  split
  · rename_i resolved _
    have isSame : (applyUpdate user resolved now).id = userId := by
      rw [← isUser]
      unfold applyUpdate
      split <;> rfl
    -- What is written once the count allows it.
    have writes :
        ∀ third : ServiceStanding,
          Upholds (roleDiscipline env founded) env
            (.updateUser userId update now context)
            (do
              let updated := applyUpdate user resolved now
              Tx.updateUser updated
              revokeIfDisabled userId resolved now
              recordSecurityEvent (updateEventType user resolved) now context
                (some userId)
              return updated)
            (fun value =>
              bootstrapPromise env (.updateUser userId update now context)
                (.ok value))
            (fun failure =>
              bootstrapPromise env (.updateUser userId update now context)
                (.error failure))
            third := by
      intro third
      rw [upholds_bind]
      refine upholds_updateUser ?_ ?_ fun _ _ _ => kept _ _
      · intro last _
        refine { bootstraps := rfl, spares := spares, named := ?_ }
        intro other _ _ _ same
        exact isSame.trans (ServiceTx.updateUser.inj same).1
      · intro last _ _
        refine upholds_of_within
          (.bind
            (?_ : StaysWithin [.revokesSessions]
              (revokeIfDisabled userId resolved now))
            fun _ => .bind .record fun _ => .pure _)
          (by simp [roleDiscipline]) (fun _ _ => kept _ _) fun _ _ => kept _ _
        unfold revokeIfDisabled
        split
        · exact .bind (.issue rfl (by simp)) fun _ => .pure _
        · exact .pure _
    rw [upholds_bind, requireRemainingAdmin]
    refine upholds_ite (fun _ => ?_) fun _ => writes _
    rw [upholds_bind]
    refine upholds_read rfl rfl ?_
    intro _ _
    exact upholds_ite (fun _ => kept _ _) fun _ => writes _
  · exact kept _ _

/-! ## Calls that issue or consume links -/

/-- A call that bootstraps nobody promises nothing. -/
abbrev KeepsAny
    (env : Environment)
    (founded : Uuid → Prop)
    (call : ServiceTx)
    (body : Tx α)
    (standing : ServiceStanding) :
    Prop :=
  ∀ (normal : α → ServiceStanding → Prop)
    (failed : Failure → ServiceStanding → Prop),
    (∀ value later, normal value later) →
    (∀ failure later, failed failure later) →
    Upholds (roleDiscipline env founded) env call body normal failed standing

theorem keepsRole_of_any
    {body : Tx call.Answer}
    (bootstraps : call.bootstraps = none)
    (keeps : KeepsAny env founded call body standing) :
    KeepsRole env founded call body standing :=
  keeps _ _ (fun _ _ => bootstrapPromise_of_other bootstraps)
    fun _ _ => bootstrapPromise_of_other bootstraps

theorem keepsAny_issueLink
    {user : UserAccount}
    {purpose : EmailLinkPurpose}
    {browserNonce : Option String}
    {draws : LinkDraws}
    (holds : HoldsRow standing (.user user.id) (some user)) :
    KeepsAny env founded call
      (issueLink env.toDependencies user purpose now context browserNonce
        draws)
      standing :=
  fun _ _ returned raised =>
    upholds_issueLink_held holds (fun _ _ _ _ => returned _ _)
      fun _ _ _ => raised _ _

theorem keepsAny_requestForEmail
    {normalizedEmail : String}
    {purpose : EmailLinkPurpose}
    {browserNonce : Option String}
    {draws : LinkDraws} :
    KeepsAny env founded call
      (requestForEmail env.toDependencies normalizedEmail purpose browserNonce
        now context draws)
      standing := by
  intro normal failed returned raised
  rw [requestForEmail, upholds_bind]
  refine upholds_getUserByEmail_locked (fun _ _ => returned _ _) ?_
  intro user later _ holds _
  exact upholds_ite
    (fun _ => keepsAny_issueLink holds _ _ returned raised)
    fun _ => returned _ _

theorem keepsAny_invite
    {userId : Uuid}
    {draws : LinkDraws} :
    KeepsAny env founded call
      (invite env.toDependencies userId now context draws) standing := by
  intro normal failed returned raised
  rw [invite, upholds_bind]
  refine upholds_getUserById_locked (fun _ _ _ => raised _ _) ?_
  intro user later _ holds _
  exact upholds_ite
    (fun _ => keepsAny_issueLink holds _ _ returned raised)
    fun _ => raised _ _

theorem keepsAny_replaceActivation
    {userId : Uuid}
    {draws : LinkDraws} :
    KeepsAny env founded call
      (replaceActivation env.toDependencies userId now context draws)
      standing := by
  intro normal failed returned raised
  rw [replaceActivation, upholds_bind]
  refine upholds_getUserById_locked (fun _ _ _ => raised _ _) ?_
  intro user later _ holds _
  exact upholds_ite
    (fun _ => keepsAny_issueLink holds _ _ returned raised)
    fun _ => raised _ _

/-- A pending account without the role may be provisioned anywhere. -/
theorem keepsAny_provision
    {user : UserAccount}
    {draws : LinkDraws}
    (ordinary : ¬ user.IsAdmin env.settings) :
    KeepsAny env founded call
      (provision env.toDependencies user now context draws) standing :=
  fun _ _ returned raised =>
    upholds_createPending_held (fun _ _ admin => absurd admin ordinary)
      (fun _ _ _ _ => returned _ _) fun _ _ _ => raised _ _

theorem keepsAny_consuming
    {token : String}
    {purpose : EmailLinkPurpose}
    {browserNonce : Option String}
    {kinds : List StatementKind}
    {complete : UserAccount → Tx α}
    {refused : Option UserAccount → Tx Unit}
    (bootstraps : call.bootstraps = none)
    (spares : call.SparesRoles env founded)
    (unnamed :
      ∀ userId update now context,
        call ≠ .updateUser userId update now context)
    (inserts : .enrolls ∉ kinds)
    (links : .changesLinks ∉ kinds)
    (completes : ∀ user, StaysWithin kinds (complete user))
    (refuses : ∀ user, StaysWithin [] (refused user)) :
    KeepsAny env founded call
      (consuming env.toDependencies token purpose now browserNonce complete
        refused)
      standing := by
  intro normal failed returned raised
  have permits :
      ∀ statement later,
        statement.LeavesRoles env.settings →
          (roleDiscipline env founded).permits call later statement :=
    fun _ _ leaves => rolePermits_of_leaves bootstraps spares unnamed leaves
  refine upholds_consuming ?_ ?_ ?_ ?_ ?_ fun _ _ _ => raised _ _
  · exact fun _ _ _ _ _ _ => trivial
  · exact fun _ _ _ _ _ _ _ _ _ => trivial
  · exact fun _ _ _ _ _ _ => trivial
  · intro _ _ user _ _ _ _ _ _
    exact upholds_of_issues
      (leavesRoles_of_within (completes user) inserts links) permits
      (fun _ _ => returned _ _) raised
  · intro user _ _
    exact upholds_of_issues
      (leavesRoles_of_within (refuses user) (by simp) (by simp)) permits
      (fun _ _ => returned _ _) raised

/-! ## Every transaction -/

namespace ServiceTx

/-- An activation link can be sent, as the services check beforehand. -/
def Configured (settings : AuthSettings) : ServiceTx → Prop
  | .ensureInitialAdmin .. => requireActivationUrl settings = .ok ()
  | _ => True

/-- The call bootstraps an administrator that was to be, or spares the role. -/
structure Bootstrapping
    (env : Environment)
    (founded : Uuid → Prop)
    (call : ServiceTx) :
    Prop where
  spares : call.SparesRoles env founded
  founded : ∀ id, call.bootstraps = some id → founded id
  configured : call.Configured env.settings

end ServiceTx

/-- Every call keeps the contract of the role, with its promise. -/
theorem role_callKeeps
    {tx : ServiceTx}
    (may : tx.Bootstrapping env founded) :
    ((roleDiscipline env founded).contract env).CallKeeps
      (bootstrapPromise env) tx := by
  intro view locks
  have harmless :
      tx.bootstraps = none →
      (∀ userId update now context, tx ≠ .updateUser userId update now context) →
      .enrolls ∉ tx.kinds →
      .changesLinks ∉ tx.kinds →
      KeepsRole env founded tx (tx.body env)
        { view := view, locks := locks, issued := [] } :=
    fun bootstraps unnamed inserts links =>
      keepsRole_of_issues bootstraps may.spares unnamed
        (leavesRoles_of_within tx.body_within inserts links)
  cases tx with
  | createAdmin id email displayName passwordHash now context =>
      exact keeps_createAdmin (may.founded id rfl) rfl
  | ensureInitialAdmin normalizedEmail id email displayName passwordHash
      scopes now context draws =>
      exact keeps_ensureInitialAdmin_role (may.founded id rfl) may.configured
        rfl
  | updateUser userId update now context =>
      exact keepsRole_updateUser may.spares
  | createUser id email displayName passwordHash roles scopes
      googleAutoLinkAllowed now context =>
      exact keepsRole_of_issues rfl may.spares (by rintro _ _ _ _ ⟨⟩)
        (.bind (.bind ⟨may.spares, fun _ => trivial⟩
          fun _ => Prog.issues_ofExcept _) fun _ => ⟨trivial, fun _ => trivial⟩)
  | googleLogin claims now context draws =>
      exact keepsRole_of_issues rfl trivial (by rintro _ _ _ _ ⟨⟩)
        googleLogin_leavesRoles
  | requestLogin =>
      exact keepsRole_of_any rfl keepsAny_requestForEmail
  | requestPasswordReset =>
      exact keepsRole_of_any rfl keepsAny_requestForEmail
  | invite =>
      exact keepsRole_of_any rfl keepsAny_invite
  | replaceActivation =>
      exact keepsRole_of_any rfl keepsAny_replaceActivation
  | provision id email displayName passwordHash roles scopes now context
      draws =>
      exact keepsRole_of_any rfl (keepsAny_provision may.spares)
  | markDelivered =>
      exact keepsRole_of_issues rfl trivial (by rintro _ _ _ _ ⟨⟩)
        markDelivered_leavesRoles
  | markDeliveryFailed =>
      refine keepsRole_of_issues rfl trivial (by rintro _ _ _ _ ⟨⟩)
        (.bind ⟨trivial, fun _ => trivial⟩ fun failed => ?_)
      split
      · trivial
      · exact ⟨trivial, fun _ => trivial⟩
  | emailLinkLogin =>
      exact keepsRole_of_any rfl
        (keepsAny_consuming rfl may.spares (by rintro _ _ _ _ ⟨⟩) (by simp)
          (by simp)
          (fun _ => .bind issue_within fun _ => .bind .record fun _ => .pure _)
          fun _ => .record)
  | emailLinkResetPassword =>
      exact keepsRole_of_any rfl
        (keepsAny_consuming rfl may.spares (by rintro _ _ _ _ ⟨⟩) (by simp)
          (by simp) (fun _ => replacing_within) fun _ => .pure _)
  | activateInvitation =>
      exact keepsRole_of_any rfl
        (keepsAny_consuming rfl may.spares (by rintro _ _ _ _ ⟨⟩) (by simp)
          (by simp) (fun _ => replacing_within) fun _ => .pure _)
  | activate =>
      exact keepsRole_of_any rfl
        (keepsAny_consuming rfl may.spares (by rintro _ _ _ _ ⟨⟩) (by simp)
          (by simp) (fun _ => .bind (.ofExcept _) fun _ => replacing_within)
          fun _ => .pure _)
  | _ =>
      exact harmless rfl (by rintro _ _ _ _ ⟨⟩) (by simp [ServiceTx.kinds])
        (by simp [ServiceTx.kinds])

end EpokAuth
