import EpokAuth.PendingAccount

namespace EpokAuth

open Transactional

/-!
# How a pending account becomes active

Two histories lead from pending to active: a delivered activation link is
consumed, or an administrator disables the account and enables it again.  The
second needs no activation, so a run guarantees the first exactly when it does
not contain it.
-/

/-- An update commits with a requested status. -/
def Executed.Administers
    (executed : Executed)
    (userId : Uuid)
    (status : UserStatus) :
    Prop :=
  ∃ update now context user,
    executed =
        { tx := .updateUser userId update now context, answer := .ok user } ∧
      update.status = some status

/-- An activation commits by consuming a delivered link of the account. -/
def Executed.Activates
    (executed : Executed)
    (deps : Dependencies)
    (before : Store)
    (userId : Uuid) :
    Prop :=
  ∃ token passwordHash now context user link,
    executed =
        { tx := .activate token passwordHash now context
          answer := .ok (some user) } ∧
      user.id = userId ∧
      before.links.get? link.id = some link ∧
      link.tokenHash = deps.tokenHash token ∧
      link.purpose = .activation ∧
      link.userId = userId ∧
      link.state = .active ∧
      link.deliveredAt ≠ none

/-! ## Invariants of reachable stores -/

/-- An active link has been delivered. -/
def DeliveredLinks (core : Core) : Prop :=
  ∀ id link, core.links.get? id = some link → link.state = .active →
    link.deliveredAt ≠ none

/-- Every enabled move delivers the links it makes active. -/
theorem DeliveredLinks.move
    {settings : AuthSettings}
    {core : Core}
    {move : Move}
    (delivered : DeliveredLinks core)
    (enabled : move.Enabled settings core) :
    DeliveredLinks (move.perform settings core) := by
  intro id link found active
  have taken := Move.linkStep enabled id
  rw [found] at taken
  generalize row : some link = after at taken
  cases taken with
  | kept =>
      exact delivered id link row.symm active
  | removed =>
      cases row
  | issued absent pending account current =>
      obtain rfl := Option.some.inj row
      rw [pending] at active
      cases active
  | closed foundBefore open_ state same =>
      obtain rfl := Option.some.inj row
      rcases state with failed | revoked
      · rw [failed] at active
        cases active
      · rw [revoked] at active
        cases active
  | activated foundBefore pending account current =>
      obtain rfl := Option.some.inj row
      simp [Store.activateLinkAt]
  | consumed foundBefore wasActive account current =>
      obtain rfl := Option.some.inj row
      cases active

/-- The account of every session is settled. -/
def SettledOwners (core : Core) : Prop :=
  ∀ id session, core.sessions.get? id = some session →
    Settled core session.userId

/-- Every enabled move issues sessions to settled accounts only. -/
theorem SettledOwners.move
    {settings : AuthSettings}
    {core : Core}
    {move : Move}
    (owners : SettledOwners core)
    (enabled : move.Enabled settings core) :
    SettledOwners (move.perform settings core) := by
  intro id session found
  by_contra unsettled
  have unsettledBefore : ¬ Settled core session.userId := fun settled =>
    unsettled (settled.move enabled)
  have inactive : ¬ StatusAt core session.userId .active := by
    rintro ⟨user, stored, active⟩
    exact unsettledBefore ⟨user, stored, by simp [active]⟩
  have sessionless : Sessionless core session.userId := by
    intro other otherSession stored same
    exact unsettledBefore (same ▸ owners other otherSession stored)
  exact (sessionless.move inactive enabled) id session found rfl

/-- Both invariants hold of every reachable store. -/
theorem ServiceReachable.settledOwners
    {env : Environment}
    {store : Store}
    (reachable : ServiceReachable env store) :
    DeliveredLinks store.toCore ∧ SettledOwners store.toCore := by
  obtain ⟨labels, run⟩ := reachable
  refine ServiceRun.preserves_core run
    (fun core => DeliveredLinks core ∧ SettledOwners core) ?_ ?_
  · intro move core enabled holds
    exact ⟨holds.1.move enabled, holds.2.move enabled⟩
  · constructor
    · intro id link found
      cases found
    · intro id session found
      cases found

/-! ## One step -/

section Step

variable
  {env : Environment}
  {deps : Dependencies}
  {before after : Store}
  {executed : Executed}
  {moves : List Move}
  {userId : Uuid}

/-- Only administration and activation change a status. -/
theorem AccountChange.status_cases
    {settings : AuthSettings}
    {change : AccountChange}
    {now : Instant}
    {user : UserAccount}
    (permitted : change.Permitted now user) :
    (change.apply settings now user).status = user.status ∨
      (∃ resolved, change = .administer resolved) ∨
      ∃ passwordHash,
        change = .replace .activation passwordHash ∧
          user.status = .pendingActivation := by
  rw [AccountChange.apply_status]
  cases change with
  | administer resolved =>
      exact .inr (.inl ⟨resolved, rfl⟩)
  | replace reason passwordHash =>
      cases reason with
      | activation =>
          exact .inr (.inr ⟨passwordHash, rfl, permitted⟩)
      | _ => exact .inl rfl
  | _ => exact .inl rfl

/-- The cause of an activation is the consumption of a delivered link. -/
theorem activates_of_causes
    {passwordHash : String}
    (delivered : DeliveredLinks before.toCore)
    (caused :
      Causes deps before executed userId
        (.replace .activation passwordHash)) :
    executed.Activates deps before userId := by
  cases caused with
  | @activated token _ now context user link found presented active purpose
      owned =>
      exact ⟨token, passwordHash, now, context, user, link, rfl, rfl, found,
        presented, purpose, owned, active, delivered link.id link found active⟩

/-- A step from a pending account activates it, leaves it pending, or disables it. -/
theorem Effect.from_pending
    (effect : Effect deps before executed moves after)
    (delivered : DeliveredLinks before.toCore)
    (pending : StatusAt before.toCore userId .pendingActivation)
    (sessionless : Sessionless before.toCore userId) :
    executed.Activates deps before userId ∨
      (StatusAt after.toCore userId .pendingActivation ∧
        Sessionless after.toCore userId) ∨
      StatusAt after.toCore userId .disabled ∧
        Sessionless after.toCore userId ∧
        executed.Administers userId .disabled := by
  refine effect.performs.preserves
    (fun core =>
      executed.Activates deps before userId ∨
        (StatusAt core userId .pendingActivation ∧
          Sessionless core userId) ∨
        StatusAt core userId .disabled ∧ Sessionless core userId ∧
          executed.Administers userId .disabled)
    ?_ (.inr (.inl ⟨pending, sessionless⟩))
  intro move member core enabled holds
  -- what an administered account resolves to, as seen before the step
  have administered :
      ∀ {resolved},
        Causes deps before executed userId (.administer resolved) →
          resolved.status = .pendingActivation ∨
            resolved.status = .disabled ∧
              executed.Administers userId .disabled := by
    intro resolved caused
    cases caused with
    | @administered _ update now context current user _ found resolves =>
        obtain ⟨waiting, waitingFound, isPending⟩ := pending
        obtain rfl := Option.some.inj (found.symm.trans waitingFound)
        obtain ⟨status, _, fixed⟩ := resolveUpdate_ok_status resolves
        rcases fixed isPending with unrequested | disabled
        · left
          rw [status, unrequested]
          exact isPending
        · right
          rw [status, disabled]
          exact ⟨rfl, update, now, context, user, rfl, disabled⟩
  have taken := Move.accountStep enabled userId
  rcases holds with activates | ⟨waiting, without⟩ | ⟨closed, without, disables⟩
  · exact .inl activates
  · have inactive : ¬ StatusAt core userId .active := fun active => by
      cases waiting.unique active
    have withoutAfter := without.move inactive enabled
    obtain ⟨user, found, isPending⟩ := waiting
    unfold StatusAt
    generalize (move.perform deps.settings core).users.get? userId = row
      at taken ⊢
    cases taken with
    | kept =>
        exact .inr (.inl ⟨⟨user, found, isPending⟩, withoutAfter⟩)
    | enrolled absent _ =>
        rw [absent] at found
        cases found
    | @changed stored change attachment now storedFound permitted =>
        obtain rfl := Option.some.inj (found.symm.trans storedFound)
        have cause := effect.attributed userId change attachment now member
        rcases AccountChange.status_cases permitted with same | ⟨resolved, rfl⟩ | ⟨passwordHash, rfl, _⟩
        · exact .inr (.inl ⟨⟨_, rfl, same.trans isPending⟩, withoutAfter⟩)
        · rcases administered cause with stays | ⟨disabled, disables⟩
          · exact .inr (.inl ⟨⟨_, rfl, AccountChange.apply_status.trans stays⟩,
              withoutAfter⟩)
          · exact .inr (.inr ⟨⟨_, rfl,
              AccountChange.apply_status.trans disabled⟩, withoutAfter,
              disables⟩)
        · exact .inl (activates_of_causes delivered cause)
  · have inactive : ¬ StatusAt core userId .active := fun active => by
      cases closed.unique active
    have withoutAfter := without.move inactive enabled
    obtain ⟨user, found, isDisabled⟩ := closed
    unfold StatusAt
    generalize (move.perform deps.settings core).users.get? userId = row
      at taken ⊢
    cases taken with
    | kept =>
        exact .inr (.inr ⟨⟨user, found, isDisabled⟩, withoutAfter, disables⟩)
    | enrolled absent _ =>
        rw [absent] at found
        cases found
    | @changed stored change attachment now storedFound permitted =>
        obtain rfl := Option.some.inj (found.symm.trans storedFound)
        have cause := effect.attributed userId change attachment now member
        rcases AccountChange.status_cases permitted with same | ⟨resolved, rfl⟩ | ⟨passwordHash, rfl, isPending⟩
        · exact .inr (.inr ⟨⟨_, rfl, same.trans isDisabled⟩, withoutAfter,
            disables⟩)
        · rcases administered cause with pends | ⟨disabled, _⟩
          · rw [permitted.2 pends] at isDisabled
            cases isDisabled
          · exact .inr (.inr ⟨⟨_, rfl,
              AccountChange.apply_status.trans disabled⟩, withoutAfter,
              disables⟩)
        · rw [isPending] at isDisabled
          cases isDisabled

/-- A step from a disabled account enables it or leaves it disabled. -/
theorem Effect.from_disabled
    (effect : Effect deps before executed moves after)
    (disabled : StatusAt before.toCore userId .disabled)
    (sessionless : Sessionless before.toCore userId) :
    executed.Administers userId .active ∨
      StatusAt after.toCore userId .disabled ∧
        Sessionless after.toCore userId := by
  refine effect.performs.preserves
    (fun core =>
      executed.Administers userId .active ∨
        StatusAt core userId .disabled ∧ Sessionless core userId)
    ?_ (.inr ⟨disabled, sessionless⟩)
  intro move member core enabled holds
  rcases holds with enables | ⟨closed, without⟩
  · exact .inl enables
  · have inactive : ¬ StatusAt core userId .active := fun active => by
      cases closed.unique active
    have withoutAfter := without.move inactive enabled
    have taken := Move.accountStep enabled userId
    obtain ⟨user, found, isDisabled⟩ := closed
    unfold StatusAt
    generalize (move.perform deps.settings core).users.get? userId = row
      at taken ⊢
    cases taken with
    | kept =>
        exact .inr ⟨⟨user, found, isDisabled⟩, withoutAfter⟩
    | enrolled absent _ =>
        rw [absent] at found
        cases found
    | @changed stored change attachment now storedFound permitted =>
        obtain rfl := Option.some.inj (found.symm.trans storedFound)
        have cause := effect.attributed userId change attachment now member
        rcases AccountChange.status_cases permitted with same | ⟨resolved, rfl⟩ | ⟨passwordHash, rfl, isPending⟩
        · exact .inr ⟨⟨_, rfl, same.trans isDisabled⟩, withoutAfter⟩
        · cases cause with
          | @administered _ update _ context current answer _ currentFound
              resolves =>
              obtain ⟨closedUser, closedFound, isClosed⟩ := disabled
              obtain rfl := Option.some.inj
                (currentFound.symm.trans closedFound)
              obtain ⟨status, notPending, _⟩ := resolveUpdate_ok_status resolves
              cases requested : update.status with
              | none =>
                  rw [requested] at status
                  exact .inr ⟨⟨_, rfl, AccountChange.apply_status.trans
                    (status.trans isClosed)⟩, withoutAfter⟩
              | some requestedStatus =>
                  rw [requested] at status notPending
                  cases requestedStatus with
                  | active =>
                      exact .inl ⟨update, _, context, answer, rfl, requested⟩
                  | disabled =>
                      exact .inr ⟨⟨_, rfl,
                        AccountChange.apply_status.trans status⟩,
                        withoutAfter⟩
                  | pendingActivation =>
                      exact absurd rfl notPending
        · rw [isPending] at isDisabled
          cases isDisabled

/-- A committed update leaves the account with the requested status. -/
theorem ServiceStep.statusAt_of_administers
    {status : UserStatus}
    (step : ServiceStep env before executed after)
    (administers : executed.Administers userId status) :
    StatusAt after.toCore userId status := by
  obtain ⟨update, now, context, answer, rfl, requested⟩ := administers
  have outcome :
      Tx.wp ((ServiceTx.updateUser userId update now context).body env)
        (fun _ later => StatusAt later.toCore userId status)
        (fun _ _ => True) before := by
    refine wp_administering_committed ?_
    intro current resolved later account resolves performs
    obtain ⟨_, performed⟩ := performs
    rw [performed]
    refine ⟨_, Move.perform_account_self account, ?_⟩
    rw [AccountChange.apply_status]
    simp only
    rw [(resolveUpdate_ok_status resolves).1, requested]
    rfl
  exact step.of_wp outcome

/-- An activation meets a pending account and leaves an active one. -/
theorem ServiceStep.statusAt_of_activates
    (step : ServiceStep env before executed after)
    (activates : executed.Activates deps before userId) :
    StatusAt before.toCore userId .pendingActivation ∧
      StatusAt after.toCore userId .active := by
  obtain ⟨token, passwordHash, now, context, activated, link, rfl, rfl, _⟩ :=
    activates
  have outcome :
      Tx.wp ((ServiceTx.activate token passwordHash now context).body env)
        (fun answer later =>
          ∀ user, answer = some user →
            StatusAt before.toCore user.id .pendingActivation ∧
              StatusAt later.toCore user.id .active)
        (fun _ _ => True) before := by
    simp only [ServiceTx.body, activate]
    refine wp_consuming_committed ?_ ?_ ?_
    · exact fun _ => onlyRecords_return
    · intro moves later _ _ user impossible
      cases impossible
    · intro link user consumable _ enabled
      rw [Tx.wp_bind]
      refine wp_ofExcept_committed ?_
      intro result activation
      obtain ⟨pending, rfl⟩ :=
        UserAccount.activateAccount_eq_ok_iff.mp activation
      refine wp_replacing_committed .activation consumable pending enabled ?_
      intro later performs answered isAnswer
      obtain rfl := Option.some.inj isAnswer
      obtain ⟨_, ⟨account, found, _⟩, performed⟩ := performs
      constructor
      · refine ⟨user, ?_, pending⟩
        rw [← consumable.account, ← consumable.userId_eq]
        rfl
      · rw [performed]
        refine ⟨_, Move.perform_account_self found, ?_⟩
        rw [AccountChange.apply_status]
  exact step.of_wp outcome activated rfl

end Step

end EpokAuth
