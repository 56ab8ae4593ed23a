import EpokAuth.ActivationHistory

namespace EpokAuth

open Transactional

/-!
# Runs from a pending account

A run activates a pending account only by a delivered link exactly when it does
not disable the account while it is pending and enable it afterwards.
-/

section Events

variable (env : Environment) (userId : Uuid)

/-- A delivered activation link of the account is consumed. -/
def activates : List Executed → Store → Executed → Prop :=
  fun _ before executed =>
    executed.Activates env.toDependencies before userId

/-- An administrator disables the account while it is pending. -/
def disablesPending : List Executed → Store → Executed → Prop :=
  fun _ before executed =>
    StatusAt before.toCore userId .pendingActivation ∧
      executed.Administers userId .disabled

/-- An administrator enables an account that was disabled while pending. -/
def reenables (start : Store) : List Executed → Store → Executed → Prop :=
  fun earlier _ executed =>
    Passes (ServiceStep env) start (disablesPending userId) earlier ∧
      executed.Administers userId .active

/--
Wherever a run has come to, a delivered link has activated the account, or the
account is not active and no session was ever issued for it.
-/
def ActivationOnly
    (start : Store)
    (labels : List Executed)
    (finish : Store) :
    Prop :=
  ∀ earlier later middle,
    labels = earlier ++ later →
    ServiceRun env start earlier middle →
    ServiceRun env middle later finish →
    Passes (ServiceStep env) start (activates env userId) earlier ∨
      Dormant middle.toCore userId

end Events

variable
  {env : Environment}
  {userId : Uuid}
  {start finish : Store}
  {labels : List Executed}

/-- What a run from a pending account has done with it so far. -/
inductive PendingHistory
    (env : Environment)
    (userId : Uuid)
    (start : Store)
    (labels : List Executed)
    (current : Store) :
    Prop where
  | activated :
      Passes (ServiceStep env) start (activates env userId) labels →
      PendingHistory env userId start labels current
  | reenabled :
      Passes (ServiceStep env) start (reenables env userId start) labels →
      PendingHistory env userId start labels current
  | pending :
      StatusAt current.toCore userId .pendingActivation →
      Sessionless current.toCore userId →
      PendingHistory env userId start labels current
  | disabled :
      StatusAt current.toCore userId .disabled →
      Sessionless current.toCore userId →
      Passes (ServiceStep env) start (disablesPending userId) labels →
      PendingHistory env userId start labels current

/-- Every step continues the history of a pending account. -/
theorem PendingHistory.step
    {current next : Store}
    {executed : Executed}
    (history : PendingHistory env userId start labels current)
    (reachable : ServiceReachable env current)
    (run : ServiceRun env start labels current)
    (step : ServiceStep env current executed next) :
    PendingHistory env userId start (labels ++ [executed]) next := by
  obtain ⟨moves, effect⟩ := step.effect
  obtain ⟨delivered, _⟩ := ServiceReachable.settledOwners reachable
  cases history with
  | activated passed =>
      exact .activated (passed.append _)
  | reenabled passed =>
      exact .reenabled (passed.append _)
  | pending waiting without =>
      rcases effect.from_pending delivered waiting without with
        activated | ⟨waits, withoutNext⟩ | ⟨closed, withoutNext, disables⟩
      · exact .activated (.last run step activated)
      · exact .pending waits withoutNext
      · exact .disabled closed withoutNext
          (.last run step ⟨waiting, disables⟩)
  | disabled closed without passed =>
      rcases effect.from_disabled closed without with
        enables | ⟨stays, withoutNext⟩
      · exact .reenabled (.last run step ⟨passed, enables⟩)
      · exact .disabled stays withoutNext (passed.append _)

/-- The history of a pending account along a run. -/
theorem pendingHistory_of_run
    (reachable : ServiceReachable env start)
    (pending : StatusAt start.toCore userId .pendingActivation)
    (run : ServiceRun env start labels finish) :
    PendingHistory env userId start labels finish := by
  have without : Sessionless start.toCore userId := by
    intro id session found same
    have settled :=
      (ServiceReachable.settledOwners reachable).2 id session found
    rw [same] at settled
    exact settled.not_pending pending
  refine run.accumulates (PendingHistory env userId start) ?_
    (.pending pending without)
  intro earlier state executed next before history step
  exact history.step (reachable.extend before) before step

/-- After being disabled while pending, no account is ever activated. -/
theorem not_activates_of_disablesPending
    {earlier : List Executed}
    (disabled :
      Passes (ServiceStep env) start (disablesPending userId) earlier)
    (more : List Executed) :
    ¬ Passes (ServiceStep env) start (activates env userId)
      (earlier ++ more) := by
  rintro ⟨first, activate, second, stateBefore, stateAfter, split, firstRun,
    activateStep, activated⟩
  obtain ⟨leading, disable, trailing, disableBefore, disableAfter, rfl,
    leadingRun, disableStep, waiting, disables⟩ := disabled
  obtain ⟨wasPending, becameActive⟩ :=
    activateStep.statusAt_of_activates activated
  have settledAfterActivation : Settled stateAfter.toCore userId := by
    obtain ⟨user, found, active⟩ := becameActive
    exact ⟨user, found, by simp [active]⟩
  have settledAfterDisabling : Settled disableAfter.toCore userId := by
    obtain ⟨user, found, isDisabled⟩ :=
      disableStep.statusAt_of_administers disables
    exact ⟨user, found, by simp [isDisabled]⟩
  rw [List.append_assoc, List.cons_append] at split
  rcases split_cases split with
    ⟨_, rfl, _⟩ | ⟨between, rfl, _⟩ | ⟨between, rfl, _⟩
  · obtain ⟨update, now, context, answer, isUpdate, _⟩ := disables
    obtain ⟨token, hash, _, _, _, _, isActivate, _⟩ := activated
    rw [isUpdate] at isActivate
    cases isActivate
  · -- the activation comes after the disabling, but meets a pending account
    obtain ⟨meets, leaves, reached, stepAgain, rest⟩ := firstRun.exists_step
    obtain rfl := ServiceRun.functional leadingRun reached
    obtain rfl := disableStep.functional stepAgain
    exact (ServiceRun.settled rest settledAfterDisabling).not_pending wasPending
  · -- the disabling comes after the activation, but meets a pending account
    obtain ⟨meets, leaves, reached, stepAgain, rest⟩ := leadingRun.exists_step
    obtain rfl := ServiceRun.functional firstRun reached
    obtain rfl := activateStep.functional stepAgain
    exact (ServiceRun.settled rest settledAfterActivation).not_pending waiting

/--
From a reachable store in which the account is pending, a run lets it become
active and hold sessions only after a delivered activation link is consumed,
if and only if no committed update disables the account while it is pending
and a later one enables it.
-/
theorem activation_only_iff_not_reenabled
    (reachable : ServiceReachable env start)
    (pending : StatusAt start.toCore userId .pendingActivation)
    (run : ServiceRun env start labels finish) :
    ActivationOnly env userId start labels finish ↔
      ¬ Passes (ServiceStep env) start (reenables env userId start)
        labels := by
  constructor
  · rintro only ⟨earlier, enable, later, before, after, rfl, earlierRun, step,
      disabled, enables⟩
    obtain ⟨meets, leaves, reached, stepAgain, rest⟩ := run.exists_step
    obtain rfl := ServiceRun.functional earlierRun reached
    obtain rfl := step.functional stepAgain
    rcases only (earlier ++ [enable]) later after (by simp)
        (earlierRun.append (.single step)) rest with activated | dormant
    · exact not_activates_of_disablesPending disabled [enable] activated
    · exact dormant.1 (step.statusAt_of_administers enables)
  · intro notReenabled earlier later middle split before _
    subst split
    cases pendingHistory_of_run reachable pending before with
    | activated passed =>
        exact .inl passed
    | reenabled passed =>
        exact absurd (passed.append later) notReenabled
    | pending waiting without =>
        have inactive : ¬ StatusAt middle.toCore userId .active := by
          intro active
          cases waiting.unique active
        exact .inr ⟨inactive, without⟩
    | disabled closed without _ =>
        have inactive : ¬ StatusAt middle.toCore userId .active := by
          intro active
          cases closed.unique active
        exact .inr ⟨inactive, without⟩

/-- An account that is provisioned with an activation link. -/
def provisioned : List ServiceTx :=
  [ .provision 1 "user@example.test" "User" "unusable" [] [] 0 {}
      { linkId := 2, token := "link" } ]

/-- The store in which the account is provisioned. -/
def provisionedStore : Store :=
  (executeAll referenceEnvironment provisioned {}).2

/-- The link is delivered and consumed. -/
def deliveredAndActivated : List ServiceTx :=
  [ .markDelivered 2 10, .activate "link" "password" 20 {} ]

/-- An account that is activated by its link becomes active only so. -/
theorem activation_only_deliveredAndActivated :
    StatusAt
        (executeAll referenceEnvironment deliveredAndActivated
          provisionedStore).2.toCore
        1 .active ∧
      ActivationOnly referenceEnvironment 1 provisionedStore
        (executeAll referenceEnvironment deliveredAndActivated
          provisionedStore).1
        (executeAll referenceEnvironment deliveredAndActivated
          provisionedStore).2 := by
  have pending : StatusAt provisionedStore.toCore 1 .pendingActivation :=
    ⟨(provisionedStore.users.get? 1).get (by decide), by simp, by decide⟩
  refine ⟨⟨((executeAll referenceEnvironment deliveredAndActivated
    provisionedStore).2.users.get? 1).get (by decide), by simp, by decide⟩, ?_⟩
  refine (activation_only_iff_not_reenabled (reachable_executeAll (by decide))
    pending (run_executeAll (by decide))).mpr ?_
  rintro ⟨first, executed, second, _, _, split, _, _, _, update, now, context,
    user, isUpdate, _⟩
  have inScript : executed.tx ∈ deliveredAndActivated :=
    mem_of_split_executeAll split
  rw [isUpdate] at inScript
  simp [deliveredAndActivated] at inScript

/-- The account is disabled while it is pending, and enabled again. -/
def disabledWhilePending : List ServiceTx :=
  [ .updateUser 1 { status := some .disabled } 10 {},
    .updateUser 1 { status := some .active } 20 {} ]

/-- Two updates make a pending account active without any activation. -/
theorem activation_bypassed :
    ServiceReachable referenceEnvironment provisionedStore ∧
      StatusAt provisionedStore.toCore 1 .pendingActivation ∧
      StatusAt
        (executeAll referenceEnvironment disabledWhilePending
          provisionedStore).2.toCore
        1 .active ∧
      ¬ ActivationOnly referenceEnvironment 1 provisionedStore
        (executeAll referenceEnvironment disabledWhilePending
          provisionedStore).1
        (executeAll referenceEnvironment disabledWhilePending
          provisionedStore).2 := by
  have active :
      StatusAt
        (executeAll referenceEnvironment disabledWhilePending
          provisionedStore).2.toCore
        1 .active :=
    ⟨((executeAll referenceEnvironment disabledWhilePending
        provisionedStore).2.users.get? 1).get (by decide), by simp, by decide⟩
  refine ⟨reachable_executeAll (by decide),
    ⟨(provisionedStore.users.get? 1).get (by decide), by simp, by decide⟩,
    active, ?_⟩
  intro only
  have run :
      ServiceRun referenceEnvironment provisionedStore
        (executeAll referenceEnvironment disabledWhilePending
          provisionedStore).1
        (executeAll referenceEnvironment disabledWhilePending
          provisionedStore).2 :=
    run_executeAll (by decide)
  rcases only _ [] _ (by simp) run (.nil _) with passed | dormant
  · obtain ⟨first, executed, second, _, _, split, _, _, token, hash, now,
      context, user, link, isActivation, _⟩ := passed
    have inScript : executed.tx ∈ disabledWhilePending :=
      mem_of_split_executeAll split
    rw [isActivation] at inScript
    simp [disabledWhilePending] at inScript
  · exact dormant.1 active

end EpokAuth
