import EpokAuth.AdminSurvival
import EpokAuth.RoleConduct
import EpokAuth.RoleProtection
import EpokAuth.SerialServices

namespace EpokAuth

open Transactional

/-!
# One administrator is bootstrapped

Any number of clients may try to bootstrap the administrator of a system that
has none, in any interleaving, each in a transaction of its own.  At most one of
them creates the account; the others find it, are refused for it, or run into a
conflict.  Whoever holds the role was created by a client that committed.
-/

section Bootstrap

variable
  {Client : Type}
  [DecidableEq Client]
  {env : Environment}
  {pool : Client → ServiceTx → Prop}
  {bound : Client → Bool}
  {config next : Config Client (services env)}
  {event : Event Client (services env)}
  {jobs later : Jobs Client (services env)}
  {client : Client}
  {id : Uuid}

/-! ## Clients that bootstrap -/

/-- Some client may bootstrap the account. -/
def Foundable (pool : Client → ServiceTx → Prop) (id : Uuid) : Prop :=
  ∃ client call, pool client call ∧ call.bootstraps = some id

/--
Nobody else grants the role, and administrators are bootstrapped under fresh
identifiers, in transactions of a single call.
-/
structure BootstrapPool
    (env : Environment)
    (pool : Client → ServiceTx → Prop)
    (bound : Client → Bool) :
    Prop where
  spares :
    ∀ client call, pool client call → call.SparesRoles env (Foundable pool)
  configured :
    ∀ client call, pool client call → call.Configured env.settings
  alone :
    ∀ client call, pool client call → call.bootstraps ≠ none →
      bound client = true
  fresh :
    ∀ client other call another id, pool client call → pool other another →
      call.bootstraps = some id → another.bootstraps = some id →
      client = other

omit [DecidableEq Client] in
theorem BootstrapPool.bootstrapping
    {call : ServiceTx}
    (calls : BootstrapPool env pool bound)
    (allowed : pool client call) :
    call.Bootstrapping env (Foundable pool) where
  spares := calls.spares client call allowed
  founded := fun _ same => ⟨client, call, allowed, same⟩
  configured := calls.configured client call allowed

namespace ServiceTx

/-- The call inserted the administrator that it was to bootstrap. -/
def Creates : (call : ServiceTx) → call.Answer → Prop
  | .createAdmin .., _ => True
  | .ensureInitialAdmin .., activation => activation.pending ≠ none
  | _, _ => False

/-- A bootstrapping call that did not create found an administrator. -/
theorem findsAdmin_of_not_creates
    {call : ServiceTx}
    {value : call.Answer}
    (bootstraps : call.bootstraps ≠ none)
    (without : ¬ call.Creates value) :
    call.FindsAdmin (.ok value) := by
  cases call with
  | createAdmin => exact absurd trivial without
  | ensureInitialAdmin => exact not_not.mp without
  | _ => exact absurd rfl bootstraps

end ServiceTx

/-- The client created the administrator, and has committed. -/
def Creator
    (jobs : Jobs Client (services env))
    (client : Client)
    (id : Uuid) :
    Prop :=
  ∃ call, ∃ value : call.Answer,
    jobs.progress client = .committed call value ∧
      call.bootstraps = some id ∧ call.Creates value

/-! ## The contract of the clients -/

/-- What the services promise under both disciplines. -/
abbrev foundingPromise (env : Environment) :
    Contract.Promise Store Write Resource Failure ServiceTx.Answer :=
  fun call answer standing =>
    accountPromise call answer standing ∧
      bootstrapPromise env call answer standing

/-- Clients grant what they owe, and all views are sane. -/
abbrev FoundingSane
    (env : Environment)
    (pool : Client → ServiceTx → Prop) :
    Ledger Client Store Write Resource → Prop :=
  Protection.Everywhere
    ((bootstrapDiscipline env (Foundable pool)).protection env)
    (bootstrapDiscipline env (Foundable pool)).sane

/-- The contract of clients that bootstrap an administrator. -/
abbrev FoundingContract
    (env : Environment)
    (pool : Client → ServiceTx → Prop) :
    Contract (services env) :=
  (bootstrapDiscipline env (Foundable pool)).contract env

theorem founding_sound (calls : BootstrapPool env pool bound) :
    (FoundingContract env pool).Sound (foundingPromise env) pool
      (fun _ => True) (FoundingSane env pool) :=
  Protection.sound
    (fun _ call allowed =>
      Discipline.callKeeps_meet (account_callKeeps call)
        (role_callKeeps (calls.bootstrapping allowed)))
    bootstrapDiscipline_protects (fun _ sane => sane) bootstrap_sane_kept

/-! ## Administrators from step to step -/

/-- What that contract establishes of a configuration. -/
abbrev FoundingHolds
    (env : Environment)
    (pool : Client → ServiceTx → Prop)
    (config : Config Client (services env)) :
    Prop :=
  (FoundingContract env pool).Holds (foundingPromise env)
    (FoundingSane env pool) config

/-- What is committed changes by the rules. -/
theorem FoundingHolds.committed_changed
    (holds : FoundingHolds env pool config)
    (step : Step pool config event next) :
    (roleRules env.settings).protection.Changed config.committed
      next.committed := by
  cases step with
  | @commit committer =>
      exact fun row => ((holds.invariant.honoured committer).changed row).2
  | _ => exact Protection.Changed.refl _

/-- An administrator stays one. -/
theorem FoundingHolds.admin_stays
    (holds : FoundingHolds env pool config)
    (step : Step pool config event next)
    (admin : AdminAt env.settings config.committed id) :
    AdminAt env.settings next.committed id :=
  admin.of_changed (holds.committed_changed step)

/-- Whoever is an administrator now was one before, or one that committed saw. -/
theorem admin_committed_cases
    (step : Step pool config event next)
    (admin : AdminAt env.settings next.committed id) :
    AdminAt env.settings config.committed id ∨
      ∃ committer,
        event = .commits committer ∧
          AdminAt env.settings (config.sees committer) id := by
  cases step with
  | @commit committer => exact .inr ⟨committer, rfl, admin⟩
  | _ => exact .inl admin

/--
Whoever a client sees as an administrator was seen before, is committed, or is
bootstrapped by the call that the client is making.
-/
theorem FoundingHolds.admin_seen_cases
    (holds : FoundingHolds env pool config)
    (step : Step pool config event next)
    (admin : AdminAt env.settings (next.sees client) id) :
    AdminAt env.settings (config.sees client) id ∨
      AdminAt env.settings next.committed id ∨
        (client = event.client ∧
          ∃ call,
            (config.phases client).call? = some call ∧
              call.bootstraps = some id) := by
  have elsewhere :
      ∀ {holder : Client} {phase : Phase (services env)}
        {locks : List (Lock Resource)} {writes : List Write},
        client ≠ holder →
          AdminAt env.settings
              ((config.advance holder phase locks writes).sees client) id →
            AdminAt env.settings (config.sees client) id := by
    intro holder phase locks writes isOther admin
    have same :
        (config.advance holder phase locks writes).sees client =
          config.sees client :=
      Ledger.view_extend_of_ne isOther
    rwa [same] at admin
  cases step with
  | calls => exact .inl admin
  | sweep => exact .inl admin
  | finish => exact .inl admin
  | returned => exact .inl admin
  | raised => exact .inl admin
  | @point issuer call before statement _ locks effect issuing executes
      granted =>
      by_cases isIssuer : client = issuer
      · subst isIssuer
        have sane :=
          ((holds.invariant.views client).2 :
            RolesSane env.settings (Foundable pool) (config.sees client))
        rcases ((holds.stands_in issuing).point (holds.invariant.views client)
          executes).1 with ⟨issued, _, permitted⟩
        rw [Config.sees_advance_self] at admin
        have writes := Store.execution_writes statement
        have isPoint :
            Store.execution statement = .point locks effect :=
          executes
        rw [isPoint] at writes
        rcases (writes (config.sees client)) with none_ | ⟨write, one, may⟩
        · rw [none_] at admin
          exact .inl admin
        · rw [one] at admin
          rcases AdminAt.of_mayWrite sane permitted (fun _ _ _ => rfl) may
              admin with before | founds
          · exact .inl before
          · refine .inr (.inr ⟨rfl, call, ?_, founds.bootstraps⟩)
            rw [issuing]
            rfl
      · exact .inl (elsewhere isIssuer admin)
  | @visit visitor call before statement _ _ _ target _ targets lock touch
      answer sweeping executes granted =>
      by_cases isVisitor : client = visitor
      · subst isVisitor
        rw [Config.sees_advance_self] at admin
        have writes := Store.execution_writes statement
        have isSweep :
            Store.execution statement = .sweep targets lock touch answer :=
          executes
        rw [isSweep] at writes
        rcases writes target (config.sees client) with
          none_ | ⟨write, one, may⟩
        · rw [none_] at admin
          exact .inl admin
        · rw [one] at admin
          rcases admin with ⟨user, found, isAdmin⟩
          have users :
              (Store.apply write (config.sees client)).users =
                (config.sees client).users :=
            users_apply (not_putUser_of_sweep isSweep may)
          exact .inl ⟨user, users ▸ found, isAdmin⟩
      · exact .inl (elsewhere isVisitor admin)
  | @commit committer =>
      by_cases isCommitter : client = committer
      · subst isCommitter
        have same :
            (config.conclude client).sees client =
              (config.conclude client).committed :=
          Ledger.view_commit_self
        rw [same] at admin
        exact .inr (.inl admin)
      · have merges :=
          Protection.merges_commit holds.proper holds.invariant.honoured
            isCommitter
        rcases admin.of_merges (RowRules.merges_meet merges).2 with
          own | committed
        · exact .inl own
        · exact .inr (.inl committed)
  | @rollback leaver =>
      by_cases isLeaver : client = leaver
      · subst isLeaver
        have same :
            (config.abandon client).sees client = config.committed :=
          Ledger.view_release_self
        rw [same] at admin
        exact .inr (.inl admin)
      · have same : (config.abandon leaver).sees client = config.sees client :=
          Ledger.view_release_of_ne isLeaver
        rw [same] at admin
        exact .inl admin

/-! ## Everything that holds while clients bootstrap -/

/-- The answer of a call stays true when rows change by the rules. -/
theorem BootstrapAnswer.of_changed
    {first second : Store}
    {call : ServiceTx}
    {answer : Except Failure call.Answer}
    (changed : (roleRules env.settings).protection.Changed first second)
    (answered : BootstrapAnswer env.settings first call answer) :
    BootstrapAnswer env.settings second call answer := by
  have refused :
      ∀ failure, BootstrapRefused env.settings first failure →
        BootstrapRefused env.settings second failure := by
    rintro failure (⟨same, id, admin⟩ | other)
    · exact .inl ⟨same, id, admin.of_changed changed⟩
    · exact .inr other
  cases call with
  | createAdmin =>
      cases answer with
      | ok value => exact AdminAt.of_changed changed answered
      | error failure => exact refused failure answered
  | ensureInitialAdmin =>
      cases answer with
      | ok value => exact ⟨answered.1.of_changed changed, answered.2⟩
      | error failure => exact refused failure answered
  | _ => trivial

/--
What clients see and know: every administrator is committed or bootstrapped by
whoever sees it, was created by a client that committed, and answers are true.
-/
structure Founding
    (env : Environment)
    (pool : Client → ServiceTx → Prop)
    (bound : Client → Bool)
    (jobs : Jobs Client (services env)) :
    Prop where
  serves :
    (FoundingContract env pool).Serves (foundingPromise env)
      (FoundingSane env pool) jobs
  called :
    ∀ client call, (jobs.phases client).call? = some call → pool client call
  made :
    ∀ client call, (jobs.progress client).call? = some call →
      pool client call
  free : ∀ client, jobs.progress client = .free ↔ bound client = false
  seen :
    ∀ client id, AdminAt env.settings (jobs.sees client) id →
      AdminAt env.settings jobs.committed id ∨
        ∃ call,
          (jobs.progress client).call? = some call ∧
            call.bootstraps = some id
  created :
    ∀ id, AdminAt env.settings jobs.committed id →
      ∃ client, Creator jobs client id
  answered :
    ∀ client answer, (jobs.progress client).Concludes answer →
      BootstrapAnswer env.settings jobs.committed answer.call answer.answer

/-- What a call that has returned promised is true of what its client sees. -/
theorem Founding.promised
    {call : ServiceTx}
    {answer : Except Failure call.Answer}
    (founding : Founding env pool bound jobs)
    (returned : jobs.progress client = .returned call answer) :
    BootstrapAnswer env.settings (jobs.sees client) call answer ∧
      (call.bootstraps ≠ none → call.FindsAdmin answer →
        jobs.sees client = jobs.committed) := by
  have attends := founding.serves.attends client
  rw [returned] at attends
  obtain ⟨seen, relies, _, answered, nothing⟩ := attends.promised
  refine ⟨answered.of_changed (RowRules.relied_meet relies).2.changed, ?_⟩
  intro bootstraps finds
  have unwritten : jobs.writes client = [] := nothing bootstraps finds
  change applyAll _ (jobs.writes client) jobs.committed = _
  rw [unwritten]
  rfl

theorem Founding.seen_step
    (calls : BootstrapPool env pool bound)
    (founding : Founding env pool bound jobs)
    (step : JobStep pool jobs event later)
    (admin : AdminAt env.settings (later.sees client) id) :
    AdminAt env.settings later.committed id ∨
      ∃ call,
        (later.progress client).call? = some call ∧
          call.bootstraps = some id := by
  have holds : FoundingHolds env pool jobs.toConfig := founding.serves.holds
  rcases holds.admin_seen_cases step.step admin with
    before | committed | ⟨isClient, call, isCall, bootstraps⟩
  · rcases founding.seen client id before with
      committed | ⟨call, isCall, bootstraps⟩
    · exact .inl (holds.admin_stays step.step committed)
    · exact .inr ⟨call, step.moves.call_kept isCall, bootstraps⟩
  · exact .inl committed
  · -- A client that bootstraps is bound to its call.
    have isBound : jobs.progress client ≠ .free := by
      intro isFree
      have alone :=
        calls.alone client call (founding.called client call isCall)
          (by rw [bootstraps]; simp)
      rw [(founding.free client).mp isFree] at alone
      cases alone
    have running :=
      ((founding.serves.attends client).runs isBound isCall).1
    refine .inr ⟨call, step.moves.call_kept ?_, bootstraps⟩
    rw [running]
    rfl

theorem Founding.created_step
    (founding : Founding env pool bound jobs)
    (step : JobStep pool jobs event later)
    (admin : AdminAt env.settings later.committed id) :
    ∃ client, Creator later client id := by
  have before :
      AdminAt env.settings jobs.committed id →
        ∃ client, Creator later client id := by
    intro committed
    rcases founding.created id committed with
      ⟨client, call, value, isCommitted, bootstraps, creates⟩
    exact ⟨client, call, value, step.moves.committed_kept isCommitted,
      bootstraps, creates⟩
  rcases admin_committed_cases step.step admin with
    committed | ⟨committer, rfl, seen⟩
  · exact before committed
  · rcases founding.seen committer id seen with
      committed | ⟨call, isCall, bootstraps⟩
    · exact before committed
    · have moves := step.moves
      generalize isLater : later.progress = progress at moves
      cases moves with
      | free isFree =>
          change jobs.progress committer = .free at isFree
          rw [isFree] at isCall
          cases isCall
      | @commits _ made value returned =>
          rw [returned] at isCall
          obtain rfl := Option.some.inj isCall
          by_cases creates : made.Creates value
          · refine ⟨committer, made, value, ?_, bootstraps, creates⟩
            rw [isLater, Function.update_self]
          · have isMade : made.bootstraps ≠ none := by
              rw [bootstraps]
              simp
            have unwritten :=
              (founding.promised returned).2 isMade
                (ServiceTx.findsAdmin_of_not_creates isMade creates)
            rw [unwritten] at seen
            exact before seen

theorem Founding.answered_step
    {answer : Answered Failure ServiceTx.Answer}
    (founding : Founding env pool bound jobs)
    (step : JobStep pool jobs event later)
    (concludes : (later.progress client).Concludes answer) :
    BootstrapAnswer env.settings later.committed answer.call
      answer.answer := by
  have holds : FoundingHolds env pool jobs.toConfig := founding.serves.holds
  rcases step.moves.concludes_cases concludes with
    before | ⟨returned, ⟨rfl, _⟩ | ⟨rfl, failure, isFailure⟩⟩
  · exact (founding.answered client answer before).of_changed
      (holds.committed_changed step.step)
  · have committed : later.committed = jobs.sees client := by
      have isStep := step.step
      generalize later.toConfig = final at isStep
      cases isStep with
      | commit => rfl
    rw [committed]
    exact (founding.promised returned).1
  · have committed : later.committed = jobs.committed := by
      have isStep := step.step
      generalize later.toConfig = final at isStep
      cases isStep with
      | rollback => rfl
    rw [committed]
    obtain ⟨answered, unwritten⟩ := founding.promised returned
    obtain ⟨call, answer⟩ := answer
    dsimp only at isFailure answered unwritten ⊢
    subst isFailure
    have kept :
        call.bootstraps ≠ none →
          BootstrapRefused env.settings (jobs.sees client) failure →
            BootstrapRefused env.settings jobs.committed failure := by
      rintro bootstraps (⟨isRefused, admin⟩ | other)
      · have finds : call.FindsAdmin (.error failure) := by
          cases call with
          | _ => exact isRefused
        rw [unwritten bootstraps finds] at admin
        exact .inl ⟨isRefused, admin⟩
      · exact .inr other
    cases call with
    | createAdmin => exact kept (by simp [ServiceTx.bootstraps]) answered
    | ensureInitialAdmin =>
        exact kept (by simp [ServiceTx.bootstraps]) answered
    | _ => trivial

/-- Every step of the clients preserves what they see and know. -/
theorem Founding.step
    (calls : BootstrapPool env pool bound)
    (founding : Founding env pool bound jobs)
    (step : JobStep pool jobs event later) :
    Founding env pool bound later where
  serves :=
    .step (founding_sound calls) founding.serves event.admitted_trivially step
  called := step.step.calls_allowed founding.called
  made := step.calls_allowed founding.made
  free := fun client =>
    (step.moves.free_iff client).trans (founding.free client)
  seen := fun _ _ admin => founding.seen_step calls step admin
  created := fun _ admin => founding.created_step step admin
  answered := fun _ _ concludes => founding.answered_step step concludes

/-- Before anybody has begun, there is nothing to know. -/
theorem Founding.start
    {committed : Store}
    (owned : LinksOwned committed)
    (without : ¬ HasAdmin env.settings committed) :
    Founding env pool bound (.start committed bound) where
  serves := by
    refine .start (Protection.everywhere_quiescent ⟨trivial, ?_⟩)
    exact
      { owned := owned
        founded := fun id admin => absurd ⟨id, admin⟩ without
        single := fun id _ admin => absurd ⟨id, admin⟩ without }
  called := by
    intro client call isCall
    cases isCall
  made := by
    intro client call isCall
    change (if bound client then Progress.waiting else .free).call? = _
      at isCall
    split at isCall
    · cases isCall
    · cases isCall
  free := by
    intro client
    change (if bound client then Progress.waiting else .free) = .free ↔ _
    cases bound client with
    | false => simp
    | true => simp
  seen := fun _ id admin => absurd ⟨id, admin⟩ without
  created := fun id admin => absurd ⟨id, admin⟩ without
  answered := by
    intro client answer concludes
    change (if bound client then Progress.waiting else .free).Concludes _
      at concludes
    split at concludes
    · cases concludes
    · cases concludes

theorem Founding.run
    {labels : List (Event Client (services env))}
    (calls : BootstrapPool env pool bound)
    (founding : Founding env pool bound jobs)
    (run : Run (JobStep pool) jobs labels later) :
    Founding env pool bound later :=
  run.preserves (Founding env pool bound)
    (fun _ _ _ step founding => founding.step calls step) founding

/-! ## The outcome -/

/-- A call was refused for an administrator that another client created. -/
def RefusedFor
    (jobs : Jobs Client (services env))
    (client : Client)
    (failure : Failure) :
    Prop :=
  (failure = adminExists ∧
      ∃ creator id, creator ≠ client ∧ Creator jobs creator id) ∨
    failure = userExists ∨ failure.IsConflict

/-- What a bootstrapping call tells its client of the one administrator. -/
def TellsCreator
    (jobs : Jobs Client (services env))
    (client : Client) :
    (call : ServiceTx) → Except Failure call.Answer → Prop
  | .createAdmin id .., .ok _ => Creator jobs client id
  | .ensureInitialAdmin .., .ok activation =>
      ∃ creator,
        Creator jobs creator activation.user.id ∧
          (activation.pending ≠ none ↔ creator = client)
  | .createAdmin .., .error failure => RefusedFor jobs client failure
  | .ensureInitialAdmin .., .error failure => RefusedFor jobs client failure
  | _, _ => True

/-- How bootstrapping ends: one creator, of whom everybody else is told. -/
structure BootstrappedOnce
    (env : Environment)
    (pool : Client → ServiceTx → Prop)
    (jobs : Jobs Client (services env)) :
    Prop where
  admins :
    ∀ id,
      AdminAt env.settings jobs.committed id ↔
        ∃ client, Creator jobs client id
  single :
    ∀ client other id another, Creator jobs client id →
      Creator jobs other another → client = other ∧ id = another
  told :
    ∀ client answer, (jobs.progress client).Concludes answer →
      answer.call.bootstraps ≠ none →
        TellsCreator jobs client answer.call answer.answer
  unwritten :
    ∀ client call (value : call.Answer) next,
      jobs.progress client = .returned call (.ok value) →
        call.bootstraps ≠ none → ¬ call.Creates value →
          JobStep pool jobs (.commits client) next →
            next.committed = jobs.committed

/-- Whoever created an account made it an administrator. -/
theorem Founding.adminAt_of_creator
    (founding : Founding env pool bound jobs)
    (creator : Creator jobs client id) :
    AdminAt env.settings jobs.committed id := by
  rcases creator with ⟨call, value, committed, bootstraps, creates⟩
  have answered :=
    founding.answered client ⟨call, .ok value⟩
      (committed ▸ Progress.Concludes.committed)
  cases call with
  | createAdmin =>
      obtain rfl := Option.some.inj bootstraps
      exact answered
  | ensureInitialAdmin =>
      obtain rfl := Option.some.inj bootstraps
      obtain ⟨admin, same⟩ := answered
      rwa [same creates] at admin
  | _ => cases bootstraps

/-- There is one creator, of one account. -/
theorem Founding.creator_unique
    {other : Client}
    {another : Uuid}
    (calls : BootstrapPool env pool bound)
    (founding : Founding env pool bound jobs)
    (creator : Creator jobs client id)
    (creatorToo : Creator jobs other another) :
    client = other ∧ id = another := by
  have sane : RolesSane env.settings (Foundable pool) jobs.committed :=
    founding.serves.holds.invariant.committed.2
  obtain rfl :=
    sane.single _ _ (founding.adminAt_of_creator creator)
      (founding.adminAt_of_creator creatorToo)
  rcases creator with ⟨call, _, committed, bootstraps, _⟩
  rcases creatorToo with ⟨callToo, _, committedToo, bootstrapsToo, _⟩
  refine ⟨?_, rfl⟩
  exact calls.fresh client other call callToo id
    (founding.made client call (by rw [committed]; rfl))
    (founding.made other callToo (by rw [committedToo]; rfl)) bootstraps
    bootstrapsToo

/-- Everybody is told of the creator, or ran into a conflict. -/
theorem Founding.tells
    {answer : Answered Failure ServiceTx.Answer}
    (calls : BootstrapPool env pool bound)
    (founding : Founding env pool bound jobs)
    (concludes : (jobs.progress client).Concludes answer)
    (bootstraps : answer.call.bootstraps ≠ none) :
    TellsCreator jobs client answer.call answer.answer := by
  have answered := founding.answered client answer concludes
  generalize isNow : jobs.progress client = progress at concludes
  cases concludes with
  | @committed call value =>
      cases call with
      | createAdmin =>
          exact ⟨_, value, isNow, rfl, trivial⟩
      | ensureInitialAdmin =>
          obtain ⟨admin, same⟩ := answered
          rcases founding.created _ admin with ⟨creator, created⟩
          refine ⟨creator, created, ?_⟩
          constructor
          · intro pending
            have own : Creator jobs client value.user.id :=
              ⟨_, value, isNow, congrArg some (same pending).symm, pending⟩
            exact (founding.creator_unique calls created own).1
          · rintro rfl
            rcases created with ⟨callToo, valueToo, isNowToo, _, creates⟩
            rw [isNow] at isNowToo
            cases isNowToo
            exact creates
      | _ => exact absurd rfl bootstraps
  | @raised call failure =>
      have refused :
          BootstrapRefused env.settings jobs.committed failure →
            RefusedFor jobs client failure := by
        rintro (⟨isRefused, id, admin⟩ | other)
        · rcases founding.created id admin with ⟨creator, created⟩
          refine .inl ⟨isRefused, creator, id, ?_, created⟩
          rintro rfl
          rcases created with ⟨_, _, isNowToo, _⟩
          rw [isNow] at isNowToo
          cases isNowToo
        · exact .inr other
      cases call with
      | createAdmin => exact refused answered
      | ensureInitialAdmin => exact refused answered
      | _ => trivial

/--
From a system without an administrator, in every interleaving of clients that
bootstrap one and clients that do not grant the role, one client creates the
administrator at most.  Whoever holds the role was created so; all other
bootstrapping calls that ended found that account and wrote nothing, were
refused for it, or ran into a conflict.
-/
theorem initial_admin_bootstrapped_once
    {committed : Store}
    {labels : List (Event Client (services env))}
    (calls : BootstrapPool env pool bound)
    (owned : LinksOwned committed)
    (without : ¬ HasAdmin env.settings committed)
    (run : Run (JobStep pool) (.start committed bound) labels jobs) :
    BootstrappedOnce env pool jobs := by
  have founding : Founding env pool bound jobs :=
    .run calls (.start owned without) run
  refine ⟨?_, ?_, ?_, ?_⟩
  · exact fun id =>
      ⟨founding.created id, fun ⟨_, creator⟩ =>
        founding.adminAt_of_creator creator⟩
  · exact fun _ _ _ _ creator creatorToo =>
      founding.creator_unique calls creator creatorToo
  · exact fun _ _ concludes bootstraps =>
      founding.tells calls concludes bootstraps
  · intro client call value next returned bootstraps creates step
    have isStep := step.step
    generalize next.toConfig = final at isStep
    cases isStep with
    | commit idle =>
        exact (founding.promised returned).2 bootstraps
          (ServiceTx.findsAdmin_of_not_creates bootstraps creates)

end Bootstrap

/-! ## Two clients -/

/-- One client creates the administrator, another one ensures that there is one. -/
def bootstrapTwice : List (Bool × ServiceTx) :=
  [ (false, .createAdmin 1 "admin@example.test" "Admin" "secret" 0 {}),
    (true,
      .ensureInitialAdmin "admin@example.test" 2 "admin@example.test" "Admin"
        "secret" [] 10 {} { linkId := 3, token := "token" }) ]

/-- The two clients make just these calls. -/
def bootstrapTwicePool (client : Bool) (call : ServiceTx) : Prop :=
  (client, call) ∈ bootstrapTwice

theorem bootstrapTwice_bootstraps :
    ∀ entry ∈ bootstrapTwice,
      entry.2.bootstraps = some (if entry.1 then 2 else 1) := by
  decide

theorem bootstrapTwice_pool :
    BootstrapPool referenceEnvironment bootstrapTwicePool
      fun _ => true where
  spares := by
    intro client call member
    simp only [bootstrapTwicePool, bootstrapTwice, List.mem_cons, Prod.mk.injEq,
      List.not_mem_nil, or_false] at member
    rcases member with ⟨_, rfl⟩ | ⟨_, rfl⟩
    · trivial
    · trivial
  configured := by
    intro client call member
    simp only [bootstrapTwicePool, bootstrapTwice, List.mem_cons, Prod.mk.injEq,
      List.not_mem_nil, or_false] at member
    rcases member with ⟨_, rfl⟩ | ⟨_, rfl⟩
    · trivial
    · rfl
  alone := fun _ _ _ _ => rfl
  fresh := by
    intro client other call another id member memberToo same sameToo
    have isId := (bootstrapTwice_bootstraps _ member).symm.trans same
    have isIdToo := (bootstrapTwice_bootstraps _ memberToo).symm.trans sameToo
    have different : ¬ (2 : Uuid) = 1 := by decide
    have sameId :
        (if client then (2 : Uuid) else 1) = if other then 2 else 1 :=
      Option.some.inj (isId.trans isIdToo.symm)
    cases client with
    | false =>
        cases other with
        | false => rfl
        | true => exact absurd sameId.symm different
    | true =>
        cases other with
        | false => exact absurd sameId different
        | true => rfl

/-- In some run of the two, one of them created the one administrator. -/
theorem initial_admin_bootstrapped_once_twice :
    ∃ jobs : Jobs Bool (services referenceEnvironment),
      (jobs.committed.users.get? 1).isSome = true ∧
        ∃ client, Creator jobs client 1 := by
  have script :
      ∃ labels,
        ∃ jobs : Jobs Bool (services referenceEnvironment),
          Run (IsolatedStep bootstrapTwicePool) (.start {} fun _ => true)
              labels jobs ∧
            jobs.committed =
                (executeAll referenceEnvironment
                  (bootstrapTwice.map Prod.snd) {}).2 ∧
              _ :=
    exists_isolated_script {} (by decide) fun entry member => member
  obtain ⟨labels, jobs, run, committed, -⟩ := script
  have started :
      Run (JobStep bootstrapTwicePool)
        (.start {} fun _ => true : Jobs Bool (services referenceEnvironment))
        labels jobs :=
    run.mono fun _ _ _ step => step.job
  have once : BootstrappedOnce referenceEnvironment bootstrapTwicePool jobs :=
    initial_admin_bootstrapped_once bootstrapTwice_pool
      (by rintro id link ⟨⟩) (by rintro ⟨id, user, ⟨⟩, _⟩) started
  have admin : AdminAt referenceEnvironment.settings jobs.committed 1 := by
    rw [committed]
    exact ⟨_, rfl, by decide⟩
  refine ⟨jobs, ?_, (once.admins 1).mp admin⟩
  rw [committed]
  decide

end EpokAuth
