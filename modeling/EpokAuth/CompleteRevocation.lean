import EpokAuth.SurvivingSession
import EpokAuth.ScriptedRun
import EpokAuth.ScriptedSchedule

namespace EpokAuth

open Transactional

/-!
# Revocation is complete

One client revokes sessions while any number of others refresh.  The statement
that revokes chooses its rows once; until it has visited all of them, whatever
survives is still to be visited.  Afterwards what survives is locked, so nobody
continues it, and when the revocation commits nothing is left.

This rests on the lock of the account.  The administrative revocation takes no
such lock, and is complete as long as no refresh has inserted a successor that
is not committed while it is choosing and visiting its rows.
-/

/-- The transaction refreshes a session. -/
def ServiceTx.isRefresh : ServiceTx → Bool
  | .refresh .. => true
  | _ => false

/-- One client revokes, and the others refresh. -/
def RevocationPool
    {Client : Type}
    (revoking : Client)
    (revoker : ServiceTx)
    (client : Client)
    (call : ServiceTx) :
    Prop :=
  (client = revoking ∧ call = revoker) ∨
    (client ≠ revoking ∧ call.isRefresh = true)

/-- What the revoking statement of a transaction is after. -/
def RevocationScope.Of
    (env : Environment)
    (revoker : ServiceTx)
    (seen : Store)
    (scope : RevocationScope) :
    Statement → Prop
  | .revokeUserSessions userId _ =>
      scope = { userId := userId, familyId := none }
  | .revokeFamily familyId _ =>
      ∃ refreshToken csrfCookie now context session,
        revoker = .logout refreshToken csrfCookie now context ∧
          seen.sessions.get? session.id = some session ∧
          session.tokenHash = env.tokenHash refreshToken ∧
          session.familyId = familyId ∧
          scope = { userId := session.userId, familyId := some familyId }
  | _ => False

/-- The statement with which a transaction revokes. -/
def ServiceTx.RevokesBy (revoker : ServiceTx) : Statement → Prop
  | .revokeUserSessions .. => revoker.isRefresh = false
  | .revokeFamily .. =>
      ∃ refreshToken csrfCookie now context,
        revoker = .logout refreshToken csrfCookie now context
  | _ => False

/-! ## The revoking statement -/

/-- The statement visits every session that a revocation is after. -/
def Statement.Sweeps (scope : RevocationScope) : Statement → Prop
  | .revokeUserSessions userId _ => userId = scope.userId
  | .revokeFamily familyId _ => scope.familyId = some familyId
  | _ => False

theorem RevocationScope.Of.sweeps
    {env : Environment}
    {revoker : ServiceTx}
    {seen : Store}
    {scope : RevocationScope}
    {statement : Statement}
    (isScope : scope.Of env revoker seen statement) :
    statement.Sweeps scope := by
  cases statement with
  | revokeUserSessions userId revokedAt =>
      obtain rfl : scope = _ := isScope
      rfl
  | revokeFamily familyId revokedAt =>
      obtain ⟨_, _, _, _, _, _, _, _, _, rfl⟩ := isScope
      rfl
  | _ => exact isScope.elim

section Sweeps

variable
  {scope : RevocationScope}
  {revoker : ServiceTx}
  {statement : Statement}
  {view : Store}
  {targets : Store → List Uuid}
  {lock : Uuid → Lock Resource}
  {touch : Uuid → Store → List Write}
  {answer : Nat → Answer statement}

/-- After the visit of a session that has the property, it is revoked. -/
theorem not_surviving_visited
    {property : RefreshSession → Bool}
    {revokedAt : Instant}
    {target : Uuid}
    (ends :
      ∀ session, property session = true →
        property (Store.revokeAt revokedAt session) = false)
    (covered :
      ∀ session, Survives scope revoker session → property session = true) :
    ¬ Surviving scope revoker
      (applyAll Store.apply
        (Store.sessionsField.touchUpdate property (Store.revokeAt revokedAt)
          target view)
        view)
      target := by
  rintro ⟨session, stored, alive⟩
  have without : property session = false :=
    Store.sessionsField.not_of_touchUpdate stored (fun _ => rfl) ends
  rw [covered session alive] at without
  cases without

/-- What survives a revocation's snapshot is to be visited. -/
theorem Surviving.mem_targets
    (sweeps : statement.Sweeps scope)
    (executes : Store.execution statement = .sweep targets lock touch answer)
    {id : Uuid}
    (survives : Surviving scope revoker view id) :
    id ∈ targets view := by
  rcases survives with ⟨session, found, alive⟩
  cases statement with
  | revokeUserSessions userId revokedAt =>
      cases executes
      refine Store.sessionsField.mem_targets found ?_
      have owner : session.userId = userId :=
        alive.covered.1.trans (Eq.symm sweeps)
      simp [Store.ofUser, owner, alive.unrevoked]
  | revokeFamily familyId revokedAt =>
      cases executes
      refine Store.sessionsField.mem_targets found ?_
      simp [Store.inFamily, alive.covered.2 familyId sweeps, alive.unrevoked]
  | _ => exact sweeps.elim

/-- A visit of a revocation leaves less alive. -/
theorem Surviving.of_revoking_visit
    (sweeps : statement.Sweeps scope)
    (executes : Store.execution statement = .sweep targets lock touch answer)
    {target id : Uuid}
    (survives :
      Surviving scope revoker
        (applyAll Store.apply (touch target view) view) id) :
    Surviving scope revoker view id ∧ id ≠ target := by
  constructor
  · have writes := Store.execution_writes statement
    rw [executes] at writes
    rcases writes target view with unwritten | ⟨write, written, may⟩
    · rw [unwritten] at survives
      exact survives
    · rw [written] at survives
      exact survives.of_visit executes may
  · rintro rfl
    cases statement with
    | revokeUserSessions userId revokedAt =>
        cases executes
        refine not_surviving_visited ?_ ?_ survives
        · intro session _
          simp [Store.ofUser, Store.revokeAt]
        intro session alive
        have owner : session.userId = userId :=
          alive.covered.1.trans (Eq.symm sweeps)
        simp [Store.ofUser, owner, alive.unrevoked]
    | revokeFamily familyId revokedAt =>
        cases executes
        refine not_surviving_visited ?_ ?_ survives
        · intro session _
          simp [Store.inFamily, Store.revokeAt]
        intro session alive
        simp [Store.inFamily, alive.covered.2 familyId sweeps,
          alive.unrevoked]
    | _ => exact sweeps.elim

end Sweeps

/-! ## Stages of a revocation -/

section Stages

variable
  {Client : Type}
  [DecidableEq Client]
  {env : Environment}
  {revoking : Client}
  {revoker : ServiceTx}
  {scope : RevocationScope}
  {config next : Config Client (services env)}
  {event : Event Client (services env)}

/-- No other client has inserted a session of the account yet to be committed. -/
def NoneInserted
    (revoking : Client)
    (userId : Uuid)
    (config : Config Client (services env)) :
    Prop :=
  ∀ client, client ≠ revoking →
    ∀ id session,
      (config.sees client).sessions.get? id = some session →
      session.userId = userId →
      session.revokedAt = none →
      (config.committed.sessions.get? id).isSome = true

/-- While the administrative revocation sweeps, nothing is inserted for it. -/
def Undisturbed
    (revoking : Client)
    (config : Config Client (services env)) :
    Prop :=
  match config.phases revoking with
  | .sweeping (.revokeUserSessions userId _ _) _ _ _ _ _ =>
      NoneInserted revoking userId config
  | _ => True

/-- What holds of every state of a run. -/
structure Revoking
    (revoking : Client)
    (revoker : ServiceTx)
    (config : Config Client (services env)) :
    Prop where
  holds : AccountsHold config
  calls :
    ∀ client call, (config.phases client).call? = some call →
      RevocationPool revoking revoker client call

/-- The sessions that survive are still to be visited. -/
structure SweepingStage
    (revoking : Client)
    (revoker : ServiceTx)
    (scope : RevocationScope)
    (config : Config Client (services env)) :
    Prop where
  owned :
    Locked (config.locks revoking) (.user scope.userId) ∨
      ∃ now context, revoker = .revokeUserSessions scope.userId now context
  sweeping :
    ∃ before statement pending visited following,
      config.phases revoking =
          .sweeping revoker before statement pending visited following ∧
        statement.Sweeps scope ∧
        ∀ id, Surviving scope revoker (config.sees revoking) id →
          id ∈ pending

/-- The sessions that survive for others are locked by the revoking client. -/
structure SweptStage
    (revoking : Client)
    (revoker : ServiceTx)
    (scope : RevocationScope)
    (ledger : Ledger Client Store Write Resource) :
    Prop where
  unseen :
    ∀ id, ¬ Surviving scope revoker (ledger.view Store.engine revoking) id
  locked :
    ∀ client, client ≠ revoking →
      ∀ id, Surviving scope revoker (ledger.view Store.engine client) id →
        Locked (ledger.locks revoking) (.session id)

/-- Nobody sees a session that survives. -/
structure RevokedStage
    (revoker : ServiceTx)
    (scope : RevocationScope)
    (ledger : Ledger Client Store Write Resource) :
    Prop where
  committed : ∀ id, ¬ Surviving scope revoker ledger.committed id
  unseen :
    ∀ client id,
      ¬ Surviving scope revoker (ledger.view Store.engine client) id

theorem Revoking.step
    (going : Revoking revoking revoker config)
    (step : Step (RevocationPool revoking revoker) config event next) :
    Revoking revoking revoker next where
  holds := AccountsHold.step going.holds step
  calls := step.calls_allowed going.calls

omit [DecidableEq Client] in
/-- Only the revoking client opens families. -/
theorem Revoking.opensAsRevoker
    (going : Revoking revoking revoker config) :
    ∀ client call draws, (config.phases client).call? = some call →
      call.opening = some draws → revoker.opening = some draws := by
  intro client call draws isCall opens
  rcases going.calls client call isCall with ⟨_, rfl⟩ | ⟨_, refreshes⟩
  · exact opens
  · cases call with
    | refresh => cases opens
    | _ => cases refreshes

omit [DecidableEq Client] in
/-- What another client sees alive while a revocation sweeps is committed. -/
theorem SweepingStage.committed
    (stage : SweepingStage revoking revoker scope config)
    (going : Revoking revoking revoker config)
    (undisturbed : Undisturbed revoking config)
    {client : Client}
    (isOther : client ≠ revoking)
    {id : Uuid}
    (survives : Surviving scope revoker (config.sees client) id) :
    Surviving scope revoker config.committed id := by
  have honoured := going.holds.invariant.honoured client
  rcases stage.owned with locked | ⟨now, context, isRevoker⟩
  · -- The others do not lock the account, so they spare its sessions.
    have free : ¬ Locked (config.locks client) (.user scope.userId) :=
      going.holds.proper.not_both_locked isOther.symm locked
    have spared :
        SessionSpared scope.userId (config.committed.sessions.get? id)
          ((config.sees client).sessions.get? id) :=
      RowRules.spares_of_spared
        (honoured.spared (.user scope.userId) free) (.session id)
    exact survives.of_spared spared
  · rcases stage.sweeping with
      ⟨before, statement, pending, visited, following, isPhase, _, _⟩
    subst isRevoker
    rw [Undisturbed, isPhase] at undisturbed
    have kept :
        SessionKept (config.committed.sessions.get? id)
          ((config.sees client).sessions.get? id) :=
      RowRules.changes_of_changed honoured.changed (.session id)
    have alive := survives
    rcases alive with ⟨session, found, alive⟩
    exact survives.of_kept kept
      (undisturbed client isOther id session found alive.covered.1
        alive.unrevoked)

/-- What survives for a client after a commit survived on one of both sides. -/
theorem Surviving.of_commit
    (holds : AccountsHold config)
    {client committer : Client}
    (different : client ≠ committer)
    {id : Uuid}
    (survives :
      Surviving scope revoker
        ((config.toLedger.commit Store.engine committer).view Store.engine
          client)
        id) :
    ((config.sees client).sessions.get? id =
          config.committed.sessions.get? id ∧
        Surviving scope revoker (config.sees committer) id) ∨
      (config.sees committer).sessions.get? id =
          config.committed.sessions.get? id ∧
        Surviving scope revoker (config.sees client) id := by
  have merges :=
    Protection.merges_commit holds.proper holds.invariant.honoured different
  rcases RowRules.read_of_merges merges (.session id) with
    ⟨unwritten, taken⟩ | ⟨same, kept⟩
  · have isTaken :
        ((config.toLedger.commit Store.engine committer).view Store.engine
            client).sessions.get? id =
          (config.sees committer).sessions.get? id :=
      taken
    rw [Surviving, isTaken] at survives
    exact .inl ⟨unwritten, survives⟩
  · have isKept :
        ((config.toLedger.commit Store.engine committer).view Store.engine
            client).sessions.get? id =
          (config.sees client).sessions.get? id :=
      kept
    rw [Surviving, isKept] at survives
    exact .inr ⟨same, survives⟩

omit [DecidableEq Client] in
/-- What survives in the committed rows alone is locked by who revoked it. -/
theorem SweptStage.committed
    (stage : SweptStage revoking revoker scope config.toLedger)
    (holds : AccountsHold config)
    {id : Uuid}
    (survives : Surviving scope revoker config.committed id) :
    Locked (config.locks revoking) (.session id) := by
  by_contra free
  have unwritten :
      ∀ write ∈ config.writes revoking,
        write.resource ≠ some (StoreRow.session id).resource :=
    fun write member guarded =>
      free (holds.proper.guarded revoking write member _ guarded)
  have same :
      (config.sees revoking).sessions.get? id =
        config.committed.sessions.get? id :=
    (StoreRow.session id).read_applyAll unwritten config.committed
  apply stage.unseen id
  rw [Surviving, ← same] at survives
  exact survives

/-- A session that survives for another client is not locked by it. -/
theorem SweptStage.not_locked
    (stage : SweptStage revoking revoker scope config.toLedger)
    (holds : AccountsHold config)
    {client : Client}
    {id : Uuid}
    (locked : Locked (config.locks client) (.session id)) :
    ¬ Surviving scope revoker (config.sees client) id := by
  intro survives
  by_cases isRevoking : client = revoking
  · subst isRevoking
    exact stage.unseen id survives
  · exact holds.proper.not_both_locked isRevoking locked
      (stage.locked client isRevoking id survives)

/-- Behind the sweep, every step of the open transaction keeps the stage. -/
theorem SweptStage.step
    {ledger : Ledger Client Store Write Resource}
    (stage : SweptStage revoking revoker scope config.toLedger)
    (holds : AccountsHold config)
    (isOpen : ¬ event.Ends revoking)
    (step : SurvivalStep scope revoker config event ledger) :
    SweptStage revoking revoker scope ledger := by
  cases step with
  | unchanged => exact stage
  | @extended _ client locks writes survived =>
      -- A session is continued by who locks it, but these are locked.
      have survivedThere :
          ∀ id,
            Surviving scope revoker
                (applyAll Store.apply writes (config.sees client)) id →
              Surviving scope revoker (config.sees client) id := by
        intro id survives
        rcases survived id survives with same | ⟨parentId, locked, parent⟩
        · exact same
        · exact absurd parent (stage.not_locked holds locked)
      have grows :
          ∀ {resource},
            Locked (config.locks revoking) resource →
              Locked ((config.toLedger.extend client locks writes).locks
                revoking) resource := by
        intro resource held
        by_cases isClient : revoking = client
        · subst isClient
          rw [Ledger.locks_extend_self]
          exact held.mono (List.subset_append_left _ _)
        · rw [Ledger.locks_extend_of_ne isClient]
          exact held
      constructor
      · intro id survives
        by_cases isClient : revoking = client
        · subst isClient
          rw [Ledger.view_extend_self] at survives
          exact stage.unseen id (survivedThere id survives)
        · rw [Ledger.view_extend_of_ne isClient] at survives
          exact stage.unseen id survives
      · intro other isOther id survives
        apply grows
        by_cases isClient : other = client
        · subst isClient
          rw [Ledger.view_extend_self] at survives
          exact stage.locked other isOther id (survivedThere id survives)
        · rw [Ledger.view_extend_of_ne isClient] at survives
          exact stage.locked other isOther id survives
  | committed committer =>
      have isOther : committer ≠ revoking := fun same =>
        isOpen (.inl (congrArg Event.commits same))
      constructor
      · intro id survives
        have locked :
            Locked (config.locks revoking) (.session id) := by
          rcases Surviving.of_commit holds isOther.symm survives with
            ⟨_, taken⟩ | ⟨_, kept⟩
          · exact stage.locked committer isOther id taken
          · exact absurd kept (stage.unseen id)
        have same :=
          RowRules.read_of_relied
            (Protection.relied_commit holds.proper holds.invariant.honoured
              isOther.symm)
            (.session id) locked
        apply stage.unseen id
        have isSame :
            ((config.toLedger.commit Store.engine committer).view Store.engine
                revoking).sessions.get? id =
              (config.toLedger.view Store.engine revoking).sessions.get? id :=
          same
        rw [Surviving, isSame] at survives
        exact survives
      · intro client isClient id survives
        rw [Ledger.locks_commit_of_ne isOther.symm]
        by_cases isCommitter : client = committer
        · subst isCommitter
          rw [Ledger.view_commit_self] at survives
          exact stage.locked client isClient id survives
        · rcases Surviving.of_commit holds isCommitter survives with
            ⟨_, taken⟩ | ⟨_, kept⟩
          · exact stage.locked committer isOther id taken
          · exact stage.locked client isClient id kept
  | released leaver =>
      have isOther : leaver ≠ revoking := fun same =>
        isOpen (.inr (congrArg Event.rollsBack same))
      constructor
      · intro id survives
        rw [Ledger.view_release_of_ne isOther.symm] at survives
        exact stage.unseen id survives
      · intro client isClient id survives
        rw [Ledger.locks_release_of_ne isOther.symm]
        by_cases isLeaver : client = leaver
        · subst isLeaver
          rw [Ledger.view_release_self] at survives
          exact stage.committed holds survives
        · rw [Ledger.view_release_of_ne isLeaver] at survives
          exact stage.locked client isClient id survives

/-- When the revocation commits, nothing survives. -/
theorem SweptStage.commit
    (stage : SweptStage revoking revoker scope config.toLedger)
    (holds : AccountsHold config) :
    RevokedStage revoker scope
      (config.toLedger.commit Store.engine revoking) where
  committed := stage.unseen
  unseen := by
    intro client id survives
    by_cases isRevoking : client = revoking
    · subst isRevoking
      rw [Ledger.view_commit_self] at survives
      exact stage.unseen id survives
    · rcases Surviving.of_commit holds isRevoking survives with
        ⟨_, taken⟩ | ⟨same, kept⟩
      · exact stage.unseen id taken
      · -- The other client has not written the row, which is locked.
        have locked := stage.locked client isRevoking id kept
        have unwritten :
            (config.sees client).sessions.get? id =
              config.committed.sessions.get? id :=
          (StoreRow.session id).read_applyAll
            (holds.proper.not_written (Ne.symm isRevoking) locked)
            config.committed
        apply stage.unseen id
        have isSame :
            (config.toLedger.view Store.engine revoking).sessions.get? id =
              (config.sees client).sessions.get? id :=
          same.trans unwritten.symm
        rw [Surviving, isSame]
        exact kept

/-- Nothing that survives comes back. -/
theorem RevokedStage.step
    {ledger : Ledger Client Store Write Resource}
    (stage : RevokedStage revoker scope config.toLedger)
    (holds : AccountsHold config)
    (step : SurvivalStep scope revoker config event ledger) :
    RevokedStage revoker scope ledger := by
  cases step with
  | unchanged => exact stage
  | @extended _ client locks writes survived =>
      refine ⟨stage.committed, ?_⟩
      intro other id survives
      by_cases isClient : other = client
      · subst isClient
        rw [Ledger.view_extend_self] at survives
        rcases survived id survives with same | ⟨parentId, _, parent⟩
        · exact stage.unseen other id same
        · exact stage.unseen other parentId parent
      · rw [Ledger.view_extend_of_ne isClient] at survives
        exact stage.unseen other id survives
  | committed committer =>
      refine ⟨stage.unseen committer, ?_⟩
      intro client id survives
      by_cases isCommitter : client = committer
      · subst isCommitter
        rw [Ledger.view_commit_self] at survives
        exact stage.unseen client id survives
      · rcases Surviving.of_commit holds isCommitter survives with
          ⟨_, taken⟩ | ⟨_, kept⟩
        · exact stage.unseen committer id taken
        · exact stage.unseen client id kept
  | released leaver =>
      refine ⟨stage.committed, ?_⟩
      intro client id survives
      by_cases isLeaver : client = leaver
      · subst isLeaver
        rw [Ledger.view_release_self] at survives
        exact stage.committed id survives
      · rw [Ledger.view_release_of_ne isLeaver] at survives
        exact stage.unseen client id survives

omit [DecidableEq Client] in
/-- A step that leaves the revoking client where it is keeps the stage. -/
theorem SweepingStage.of_unmoved
    (stage : SweepingStage revoking revoker scope config)
    (phase : next.phases revoking = config.phases revoking)
    (locks : next.locks revoking = config.locks revoking)
    (sees : next.sees revoking = config.sees revoking) :
    SweepingStage revoking revoker scope next := by
  rcases stage.sweeping with
    ⟨before, statement, pending, visited, following, isPhase, sweeps, chosen⟩
  constructor
  · rw [locks]
    exact stage.owned
  · rw [sees]
    exact ⟨before, statement, pending, visited, following,
      phase.trans isPhase, sweeps, chosen⟩

omit [DecidableEq Client] in
/-- A revoker that sees nothing survive any more has swept. -/
theorem SweepingStage.swept
    (stage : SweepingStage revoking revoker scope config)
    (going : Revoking revoking revoker config)
    (undisturbed : Undisturbed revoking config)
    (unseen : ∀ id, ¬ Surviving scope revoker (config.sees revoking) id) :
    SweptStage revoking revoker scope config.toLedger := by
  refine ⟨unseen, ?_⟩
  intro client isClient id survives
  have inCommitted := stage.committed going undisturbed isClient survives
  by_contra free
  -- A row that survives for others was written by the revocation.
  have unwritten :
      ∀ write ∈ config.writes revoking,
        write.resource ≠ some (StoreRow.session id).resource :=
    fun write member guarded =>
      free (going.holds.proper.guarded revoking write member _ guarded)
  have same :
      (config.sees revoking).sessions.get? id =
        config.committed.sessions.get? id :=
    (StoreRow.session id).read_applyAll unwritten config.committed
  apply unseen id
  rw [Surviving, ← same] at inCommitted
  exact inCommitted

/-- A commit of another client leaves the sweep in the middle. -/
theorem SweepingStage.conclude
    {committer : Client}
    (stage : SweepingStage revoking revoker scope config)
    (going : Revoking revoking revoker config)
    (undisturbed : Undisturbed revoking config)
    (other : revoking ≠ committer) :
    SweepingStage revoking revoker scope (config.conclude committer) := by
  rcases stage.sweeping with
    ⟨before, statement, pending, visited, following, isPhase, sweeps, chosen⟩
  refine ⟨?_, before, statement, pending, visited, following, isPhase, sweeps,
    fun id survives => ?_⟩
  · have same :
        (config.conclude committer).locks revoking = config.locks revoking :=
      Ledger.locks_commit_of_ne other
    rw [same]
    exact stage.owned
  · rcases Surviving.of_commit going.holds other survives with
      ⟨unwritten, taken⟩ | ⟨_, kept⟩
    · -- What the other commits alive is committed, and seen, already.
      have inCommitted := stage.committed going undisturbed other.symm taken
      rw [Surviving, ← unwritten] at inCommitted
      exact chosen id inCommitted
    · exact chosen id kept

/--
A step during the sweep leaves it in the middle, with fewer rows to visit, or
ends it.
-/
theorem SweepingStage.step
    (stage : SweepingStage revoking revoker scope config)
    (going : Revoking revoking revoker config)
    (undisturbed : Undisturbed revoking config)
    (isOpen : ¬ event.Ends revoking)
    (step : Step (RevocationPool revoking revoker) config event next) :
    SweepingStage revoking revoker scope next ∨
      SweptStage revoking revoker scope next.toLedger := by
  rcases stage.sweeping with
    ⟨before, statement, pending, visited, following, isPhase, sweeps, chosen⟩
  -- A client in another phase is not the one that sweeps.
  have isOther :
      ∀ {client : Client} {phase : Phase (services env)},
        config.phases client = phase →
          phase ≠
              .sweeping revoker before statement pending visited following →
            revoking ≠ client := by
    rintro client phase inPhase different rfl
    exact different (inPhase.symm.trans isPhase)
  cases step with
  | calls idle =>
      have other := isOther idle (by simp)
      exact .inl (stage.of_unmoved (Config.phases_enter_of_ne other) rfl
        rfl)
  | point issuing =>
      have other := isOther issuing (by simp)
      exact .inl (stage.of_unmoved (Config.phases_advance_of_ne other)
        (Ledger.locks_extend_of_ne other) (Ledger.view_extend_of_ne other))
  | sweep issuing =>
      have other := isOther issuing (by simp)
      exact .inl (stage.of_unmoved (Config.phases_enter_of_ne other) rfl
        rfl)
  | @visit client _ _ _ _ earlier later target _ targets lock touch answer
      sweeping executes granted =>
      by_cases isRevoking : revoking = client
      · subst isRevoking
        rw [isPhase] at sweeping
        cases sweeping
        left
        refine ⟨?_, before, statement, earlier ++ later, _, following,
          Config.phases_advance_self, sweeps, ?_⟩
        · rw [Config.locks_advance_self]
          exact stage.owned.imp_left
            (·.mono (List.subset_append_left _ _))
        · intro id survives
          rw [Config.sees_advance_self] at survives
          rcases survives.of_revoking_visit sweeps executes with
            ⟨earlierToo, different⟩
          have member := chosen id earlierToo
          simp only [List.mem_append, List.mem_cons] at member ⊢
          tauto
      · exact .inl (stage.of_unmoved
          (Config.phases_advance_of_ne isRevoking)
          (Ledger.locks_extend_of_ne isRevoking)
          (Ledger.view_extend_of_ne isRevoking))
  | @finish client _ _ _ _ _ targets lock touch answer sweeping executes =>
      by_cases isRevoking : revoking = client
      · subst isRevoking
        rw [isPhase] at sweeping
        cases sweeping
        exact .inr (stage.swept going undisturbed
          fun id survives => nomatch chosen id survives)
      · exact .inl (stage.of_unmoved (Config.phases_enter_of_ne isRevoking)
          rfl rfl)
  | returned issuing =>
      have other := isOther issuing (by simp)
      exact .inl (stage.of_unmoved (Config.phases_enter_of_ne other) rfl
        rfl)
  | raised issuing =>
      have other := isOther issuing (by simp)
      exact .inl (stage.of_unmoved (Config.phases_enter_of_ne other) rfl
        rfl)
  | @commit committer idle =>
      have other := isOther idle (by simp)
      exact .inl (stage.conclude going undisturbed other)
  | @rollback leaver =>
      have other : revoking ≠ leaver := fun same =>
        isOpen (.inr (congrArg Event.rollsBack same.symm))
      exact .inl (stage.of_unmoved (Config.phases_abandon_of_ne other)
        (Ledger.locks_release_of_ne other) (Ledger.view_release_of_ne other))

/-- The revoking statement is the one that the scope is of. -/
theorem scope_of_revokesBy
    {standing : ServiceStanding}
    {statement : Statement}
    (revokes : revoker.RevokesBy statement)
    (permitted : accountPermits env revoker standing statement) :
    ∃ scope : RevocationScope,
      scope.Of env revoker standing.view statement ∧
        (Locked standing.locks (.user scope.userId) ∨
          ∃ now context,
            revoker = .revokeUserSessions scope.userId now context) := by
  cases statement with
  | revokeUserSessions userId revokedAt =>
      exact ⟨{ userId := userId, familyId := none }, rfl, permitted⟩
  | revokeFamily familyId revokedAt =>
      obtain ⟨refreshToken, csrfCookie, now, context, rfl⟩ := revokes
      obtain ⟨session, holds, token, family, owned⟩ := permitted
      exact ⟨{ userId := session.userId, familyId := some familyId },
        ⟨refreshToken, csrfCookie, now, context, session, rfl, holds.seen,
          token, family, rfl⟩, .inl owned⟩
  | _ => exact revokes.elim

omit [DecidableEq Client] in
/-- A revocation that locks the account is never disturbed. -/
theorem Revoking.undisturbed
    (going : Revoking revoking revoker config)
    (locking :
      ∀ userId now context,
        revoker ≠ .revokeUserSessions userId now context) :
    Undisturbed revoking config := by
  unfold Undisturbed
  split
  · rename_i userId now context _ _ _ _ _ isPhase
    have isCall :
        (config.phases revoking).call? =
          some (.revokeUserSessions userId now context) := by
      rw [isPhase]
      rfl
    rcases going.calls revoking _ isCall with ⟨_, same⟩ | ⟨different, _⟩
    · exact absurd same.symm (locking userId now context)
    · exact absurd rfl different
  · trivial

/-- When the revoking statement is issued, whatever survives is to be visited. -/
theorem Revoking.issues
    {statement : Statement}
    (going : Revoking revoking revoker config)
    (revokes : revoker.RevokesBy statement)
    (step :
      Step (RevocationPool revoking revoker) config
        (.issues revoking statement) next) :
    ∃ scope : RevocationScope,
      scope.Of env revoker (config.sees revoking) statement ∧
        SweepingStage revoking revoker scope next := by
  rcases AccountsHold.permitted going.holds step with
    ⟨call, before, program, issued, issuing, permitted⟩
  have isRevoker : call = revoker := by
    have isCall : (config.phases revoking).call? = some call := by
      rw [issuing]
      rfl
    rcases going.calls revoking call isCall with ⟨_, same⟩ | ⟨different, _⟩
    · exact same
    · exact absurd rfl different
  subst isRevoker
  rcases scope_of_revokesBy revokes permitted with ⟨scope, isScope, owned⟩
  refine ⟨scope, isScope, ?_⟩
  cases step with
  | point issuingToo executes =>
      have isPoint : Store.execution statement = _ := executes
      cases statement with
      | revokeUserSessions => cases isPoint
      | revokeFamily => cases isPoint
      | _ => exact revokes.elim
  | sweep issuingToo executes =>
      rw [issuing] at issuingToo
      cases issuingToo
      exact ⟨owned, before, statement, _, 0, _, Config.phases_enter_self,
        isScope.sweeps, fun id survives =>
          survives.mem_targets isScope.sweeps executes⟩

end Stages

/-! ## Runs -/

section Runs

variable
  {Client : Type}
  [DecidableEq Client]
  {env : Environment}
  {revoking : Client}
  {revoker : ServiceTx}
  {scope : RevocationScope}
  {committed : Store}
  {config later : Config Client (services env)}
  {labels : List (Event Client (services env))}

theorem revoking_of_run
    (run :
      Run (Step (RevocationPool revoking revoker)) (.quiescent committed)
        labels config) :
    Revoking revoking revoker config :=
  run.preserves (Revoking revoking revoker)
    (fun _ _ _ step going => going.step step)
    { holds := .quiescent (Protection.everywhere_quiescent trivial)
      calls := fun _ _ isCall => nomatch isCall }

/-- The steps while the revocation is open and undisturbed. -/
def OpenStep
    (revoking : Client)
    (revoker : ServiceTx)
    (before : Config Client (services env))
    (event : Event Client (services env))
    (after : Config Client (services env)) :
    Prop :=
  Step (RevocationPool revoking revoker) before event after ∧
    Undisturbed revoking before ∧ ¬ event.Ends revoking

/-- A revocation that locks the account only has to stay open. -/
theorem openSteps_of_run
    (run :
      Run (Step (RevocationPool revoking revoker)) config labels later)
    (going : Revoking revoking revoker config)
    (locking :
      ∀ userId now context, revoker ≠ .revokeUserSessions userId now context)
    (isOpen : ∀ event ∈ labels, ¬ event.Ends revoking) :
    Run (OpenStep revoking revoker) config labels later := by
  induction run with
  | nil state =>
      exact .nil state
  | cons step rest inductionHypothesis =>
      refine .cons
        ⟨step, going.undisturbed locking, isOpen _ List.mem_cons_self⟩ ?_
      exact inductionHypothesis (going.step step)
        fun event member => isOpen event (List.mem_cons_of_mem _ member)

/-- From its statement until it commits, the revocation sweeps or has swept. -/
theorem stage_of_run
    (run : Run (OpenStep revoking revoker) config labels later)
    (going : Revoking revoking revoker config)
    (stage : SweepingStage revoking revoker scope config) :
    Revoking revoking revoker later ∧
      (SweepingStage revoking revoker scope later ∨
        SweptStage revoking revoker scope later.toLedger) := by
  refine run.preserves
    (fun state =>
      Revoking revoking revoker state ∧
        (SweepingStage revoking revoker scope state ∨
          SweptStage revoking revoker scope state.toLedger))
    ?_ ⟨going, .inl stage⟩
  rintro state event next ⟨step, undisturbed, isOpen⟩ ⟨going, sweeping | swept⟩
  · exact ⟨going.step step, sweeping.step going undisturbed isOpen step⟩
  · exact ⟨going.step step, .inr
      (swept.step going.holds isOpen
        (survivalStep going.holds going.opensAsRevoker step))⟩

/-- What is revoked stays revoked. -/
theorem revokedStage_of_run
    (run :
      Run (Step (RevocationPool revoking revoker)) config labels later)
    (going : Revoking revoking revoker config)
    (stage : RevokedStage revoker scope config.toLedger) :
    RevokedStage revoker scope later.toLedger := by
  have both :=
    run.preserves
      (fun state =>
        Revoking revoking revoker state ∧
          RevokedStage revoker scope state.toLedger)
      (fun _ _ _ step held =>
        ⟨held.1.step step,
          held.2.step held.1.holds
            (survivalStep held.1.holds held.1.opensAsRevoker step)⟩)
      ⟨going, stage⟩
  exact both.2

/--
In every interleaving of a transaction that revokes sessions with refreshes, in
which no refresh inserts a successor while the administrative revocation
sweeps: once the revocation has committed, every session that it is after and
that is not revoked is of the family that it opened itself.
-/
theorem revocation_complete
    {statement : Statement}
    {swept last revoked final : Config Client (services env)}
    {more rest : List (Event Client (services env))}
    (run :
      Run (Step (RevocationPool revoking revoker)) (.quiescent committed)
        labels config)
    (revokes : revoker.RevokesBy statement)
    (issues :
      Step (RevocationPool revoking revoker) config
        (.issues revoking statement) swept)
    (goesOn : Run (OpenStep revoking revoker) swept more last)
    (commits :
      Step (RevocationPool revoking revoker) last (.commits revoking)
        revoked)
    (continues :
      Run (Step (RevocationPool revoking revoker)) revoked rest final) :
    ∃ scope : RevocationScope,
      scope.Of env revoker (config.sees revoking) statement ∧
        ∀ id session,
          final.committed.sessions.get? id = some session →
          scope.Covers session →
          session.revokedAt = none →
            ∃ draws,
              revoker.opening = some draws ∧
                session.familyId = draws.familyId := by
  have going := revoking_of_run run
  rcases going.issues revokes issues with ⟨scope, isScope, begins⟩
  refine ⟨scope, isScope, ?_⟩
  rcases stage_of_run goesOn (going.step issues) begins with
    ⟨goingLast, stage⟩
  -- The revocation commits between calls, so it has finished its sweep.
  have hasSwept : SweptStage revoking revoker scope last.toLedger := by
    refine stage.resolve_left ?_
    rintro ⟨_, _, _, _, _, _, isPhase, _⟩
    cases commits with
    | commit idle =>
        rw [idle] at isPhase
        cases isPhase
  have goingRevoked := goingLast.step commits
  have isRevoked : RevokedStage revoker scope revoked.toLedger := by
    cases commits with
    | commit idle => exact hasSwept.commit goingLast.holds
  have still := revokedStage_of_run continues goingRevoked isRevoked
  intro id session found covered unrevoked
  by_contra none
  refine still.committed id ⟨session, found, covered, unrevoked, ?_⟩
  exact fun draws opens same => none ⟨draws, opens, same⟩

end Runs

/-! ## Two clients -/

/-- An account with one session. -/
def signedIn : Store :=
  (executeAll referenceEnvironment
    [ .createUser 1 "user@example.test" "User" "password" [] [] false 0 {},
      .login "user@example.test" "password" 10 {} 0
        { sessionId := 2, familyId := 3, refreshToken := "first"
          csrfToken := "csrf", tokenId := 4 } ]
    {}).2

/-- The first client revokes and the second one refreshes. -/
def revokesFirst
    (revoker : ServiceTx)
    (client : Bool)
    (call : ServiceTx) :
    Bool :=
  if client then call = revoker else call.isRefresh

theorem pool_of_revokesFirst
    {revoker : ServiceTx}
    (client : Bool)
    (call : ServiceTx)
    (isAllowed : revokesFirst revoker client call = true) :
    RevocationPool true revoker client call := by
  cases client with
  | true => exact .inl ⟨rfl, of_decide_eq_true isAllowed⟩
  | false => exact .inr ⟨Bool.false_ne_true, isAllowed⟩

/-- The client that revokes, and the one that refreshes. -/
def clients : List Bool :=
  [true, false]

/-- The administrative revocation of all sessions of the account. -/
def administrativeRevocation : ServiceTx :=
  .revokeUserSessions 1 30 {}

/-- The refresh of the session. -/
def racingRefresh : ServiceTx :=
  .refresh "first" "csrf" 20 {}
    { sessionId := 5, familyId := 6, refreshToken := "second"
      csrfToken := "csrf", tokenId := 7 }

/--
The revocation chooses its rows while the refresh has inserted a successor, and
visits them when the refresh has committed.
-/
def racedRevocation :
    List (Event Bool (services referenceEnvironment)) ×
      Config Bool (services referenceEnvironment) :=
  obeyAll clients (revokesFirst administrativeRevocation)
    ([.call false racingRefresh] ++ List.replicate 8 (.proceed false) ++
      [ .call true administrativeRevocation, .proceed true, .proceed true,
        .commit false ] ++
      List.replicate 4 (.proceed true) ++ [.commit true])
    (.quiescent signedIn)

/-- Both have committed, and the family is half revoked. -/
theorem revocation_incomplete :
    ∃ root revokedRoot successor,
      Run (Step (RevocationPool true administrativeRevocation))
          (.quiescent signedIn) racedRevocation.1 racedRevocation.2 ∧
        Event.returns true administrativeRevocation (.ok (1 : Nat)) ∈
          racedRevocation.1 ∧
        .commits false ∈ racedRevocation.1 ∧
        .commits true ∈ racedRevocation.1 ∧
        signedIn.sessions.get? 2 = some root ∧
        racedRevocation.2.committed.sessions.get? 2 = some revokedRoot ∧
        revokedRoot.revokedAt = some 30 ∧
        racedRevocation.2.committed.sessions.get? 5 = some successor ∧
        successor.userId = root.userId ∧
        successor.familyId = root.familyId ∧
        successor.revokedAt = none := by
  have returned :
      racedRevocation.1[16]? =
        some (.returns true administrativeRevocation (.ok (1 : Nat))) :=
    rfl
  have refreshed : racedRevocation.1[12]? = some (.commits false) := rfl
  have revoked : racedRevocation.1[17]? = some (.commits true) := rfl
  exact ⟨_, _, _, run_obeyAll (by decide) pool_of_revokesFirst _ _,
    List.mem_of_getElem? returned, List.mem_of_getElem? refreshed,
    List.mem_of_getElem? revoked, rfl, rfl, rfl, rfl, rfl, rfl, rfl⟩

/-- The administrative reset of the account's password. -/
def administrativeReset : ServiceTx :=
  .resetPassword 1 "new" 30 {}

/-- A refresh has found its session, and the reset is about to revoke. -/
def aboutToRevoke : Config Bool (services referenceEnvironment) :=
  (obeyAll clients (revokesFirst administrativeReset)
    [ .call false racingRefresh, .proceed false,
      .call true administrativeReset, .proceed true, .proceed true ]
    (.quiescent signedIn)).2

/-- The reset has chosen the sessions to revoke. -/
def begunToRevoke : Config Bool (services referenceEnvironment) :=
  (obeyAll clients (revokesFirst administrativeReset) [.proceed true]
    aboutToRevoke).2

/-- What the reset does until it may commit. -/
def restOfReset :
    List (Event Bool (services referenceEnvironment)) ×
      Config Bool (services referenceEnvironment) :=
  obeyAll clients (revokesFirst administrativeReset)
    (List.replicate 4 (.proceed true)) begunToRevoke

/-- What the refresh does once the reset has committed. -/
def restOfRefresh :
    List (Event Bool (services referenceEnvironment)) ×
      Config Bool (services referenceEnvironment) :=
  obeyAll clients (revokesFirst administrativeReset)
    (List.replicate 3 (.proceed false) ++ [.commit false])
    (restOfReset.2.conclude true)

/--
After the reset, every session that is left is of a family it opened, also when
a refresh that began before it commits.
-/
theorem revocation_complete_reset :
    restOfRefresh.1[2]? =
        some
          (.returns false racingRefresh
            (.ok (.error (.auth invalidSession)))) ∧
      restOfRefresh.1[3]? = some (.commits false) ∧
      ∃ scope : RevocationScope,
        scope.Of referenceEnvironment administrativeReset
            (aboutToRevoke.sees true) (.revokeUserSessions 1 30) ∧
          ∀ id session,
            restOfRefresh.2.committed.sessions.get? id = some session →
            scope.Covers session →
            session.revokedAt = none →
              ∃ draws,
                administrativeReset.opening = some draws ∧
                  session.familyId = draws.familyId := by
  have isComplete : ∀ client, client ∈ clients := by decide
  have run :
      Run (Step (RevocationPool true administrativeReset))
        (.quiescent signedIn) _ aboutToRevoke :=
    run_obeyAll isComplete pool_of_revokesFirst _ _
  have issues :
      Step (RevocationPool true administrativeReset) aboutToRevoke
        (.issues true (.revokeUserSessions 1 30)) begunToRevoke := by
    have proceeds :
        aboutToRevoke.proceed clients true =
          some (.issues true (.revokeUserSessions 1 30), begunToRevoke) :=
      rfl
    exact step_of_proceed isComplete proceeds
  have isOpen :
      ∀ event ∈ restOfReset.1, ¬ event.Ends true := by
    have checked : restOfReset.1.all (fun event => !event.ends true) = true :=
      rfl
    intro event member isEnd
    have unended := List.all_eq_true.mp checked event member
    rw [Event.ends_of_Ends isEnd] at unended
    cases unended
  have goesOn :=
    openSteps_of_run (run_obeyAll isComplete pool_of_revokesFirst _ _)
      ((revoking_of_run run).step issues) (by simp [administrativeReset])
      isOpen
  exact ⟨rfl, rfl,
    revocation_complete run rfl issues goesOn (.commit rfl)
      (run_obeyAll isComplete pool_of_revokesFirst _ _)⟩

end EpokAuth
