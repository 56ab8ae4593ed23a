import EpokAuth.AccountRun

namespace EpokAuth

open Transactional

/-!
# Sessions that survive a revocation

A revocation is after the sessions of one account, or of one family of it.
What a statement leaves alive of them was alive before, or is inserted next to
a parent that is alive and locked by the client that inserts it.
-/

/-- The sessions that a revocation is after. -/
structure RevocationScope where
  userId : Uuid
  familyId : Option Uuid
  deriving Repr, DecidableEq

/-- A session is one of those that a revocation is about. -/
def RevocationScope.Covers
    (scope : RevocationScope)
    (session : RefreshSession) :
    Prop :=
  session.userId = scope.userId ∧
    ∀ familyId, scope.familyId = some familyId → session.familyId = familyId

/-- A covered session that is alive, and not opened by the revoker itself. -/
structure Survives
    (scope : RevocationScope)
    (revoker : ServiceTx)
    (session : RefreshSession) :
    Prop where
  covered : scope.Covers session
  unrevoked : session.revokedAt = none
  older :
    ∀ draws, revoker.opening = some draws → session.familyId ≠ draws.familyId

/-- The row holds a session that survives. -/
def SurvivesAt
    (scope : RevocationScope)
    (revoker : ServiceTx)
    (row : Option RefreshSession) :
    Prop :=
  ∃ session, row = some session ∧ Survives scope revoker session

/-- The session under an identifier survives. -/
abbrev Surviving
    (scope : RevocationScope)
    (revoker : ServiceTx)
    (view : Store)
    (id : Uuid) :
    Prop :=
  SurvivesAt scope revoker (view.sessions.get? id)

section Rows

variable
  {scope : RevocationScope}
  {revoker : ServiceTx}
  {session : RefreshSession}

theorem Survives.of_replaced
    {successorId : Uuid}
    {now : Instant}
    (survives : Survives scope revoker (session.replacedBy successorId now)) :
    Survives scope revoker session :=
  ⟨survives.covered, survives.unrevoked, survives.older⟩

theorem not_survives_revoked
    {revokedAt : Instant} :
    ¬ Survives scope revoker (Store.revokeAt revokedAt session) :=
  fun survives => nomatch survives.unrevoked

/-- A session continues the life of a parent in its family. -/
theorem Survives.of_parent
    {parent : RefreshSession}
    (survives : Survives scope revoker session)
    (unrevoked : parent.revokedAt = none)
    (sameOwner : parent.userId = session.userId)
    (sameFamily : parent.familyId = session.familyId) :
    Survives scope revoker parent where
  covered :=
    ⟨sameOwner.trans survives.covered.1,
      fun familyId same => sameFamily.trans (survives.covered.2 familyId same)⟩
  unrevoked := unrevoked
  older := fun draws opens same =>
    survives.older draws opens (sameFamily.symm.trans same)

/-- What survives in a kept row survived before it was kept. -/
theorem SurvivesAt.of_kept
    {before after : Option RefreshSession}
    (survives : SurvivesAt scope revoker after)
    (kept : SessionKept before after)
    (present : before.isSome = true) :
    SurvivesAt scope revoker before := by
  rcases survives with ⟨later, rfl, alive⟩
  obtain ⟨earlier, rfl⟩ := Option.isSome_iff_exists.mp present
  rcases kept earlier rfl with ⟨same, isLater, owner, family, revoked⟩
  obtain rfl := Option.some.inj isLater
  refine ⟨earlier, rfl, alive.of_parent ?_ owner.symm family.symm⟩
  rw [← Option.not_isSome_iff_eq_none]
  intro isRevoked
  have stays := revoked isRevoked
  rw [alive.unrevoked] at stays
  cases stays

/-- What survives in a spared row is the row as it was. -/
theorem SurvivesAt.of_spared
    {before after : Option RefreshSession}
    (survives : SurvivesAt scope revoker after)
    (spared : SessionSpared scope.userId before after) :
    SurvivesAt scope revoker before := by
  rcases survives with ⟨session, rfl, alive⟩
  have own : ownSession scope.userId (some session) = some session := by
    simp [ownSession, alive.covered.1]
  rcases spared with same | ⟨earlier, revokedAt, _, revoked⟩
  · rw [own] at same
    exact ⟨session, (Option.filter_eq_some_iff.mp same.symm).1, alive⟩
  · rw [own] at revoked
    obtain rfl := Option.some.inj revoked
    exact absurd alive not_survives_revoked

end Rows

/-! ## Statements -/

section Statements

variable
  {env : Environment}
  {scope : RevocationScope}
  {revoker call : ServiceTx}
  {standing : ServiceStanding}
  {view : Store}
  {id : Uuid}

/-- A session that survives a write of a session was there, or was written. -/
theorem Surviving.of_putSession
    {session : RefreshSession}
    (survives :
      Surviving scope revoker (Store.apply (.putSession session) view) id) :
    Surviving scope revoker view id ∨
      id = session.id ∧ Survives scope revoker session := by
  have row :
      (Store.apply (.putSession session) view).sessions.get? id =
        if id = session.id then some session else view.sessions.get? id :=
    Table.get?_put _ _ _
  rw [Surviving, row] at survives
  split at survives
  · rename_i isSession
    rcases survives with ⟨same, isSame, alive⟩
    obtain rfl := Option.some.inj isSame
    exact .inr ⟨isSession, alive⟩
  · exact .inl survives

/-- Writes of other tables leave no session alive that was not. -/
theorem Surviving.of_elsewhere
    {write : Write}
    (survives : Surviving scope revoker (Store.apply write view) id)
    (elsewhere : ∀ session, write ≠ .putSession session) :
    Surviving scope revoker view id := by
  have same : (Store.apply write view).sessions = view.sessions := by
    cases write with
    | putSession session => exact absurd rfl (elsewhere session)
    | _ => rfl
  rw [Surviving, same] at survives
  exact survives

/-- A revoked session is not among those that survive its revocation. -/
theorem Surviving.of_revoked
    {session : RefreshSession}
    {revokedAt : Instant}
    (survives :
      Surviving scope revoker
        (Store.apply (.putSession (Store.revokeAt revokedAt session)) view)
        id) :
    Surviving scope revoker view id := by
  rcases survives.of_putSession with same | ⟨_, alive⟩
  · exact same
  · exact absurd alive not_survives_revoked

/-- A visit of a sweep leaves no session alive that was not. -/
theorem Surviving.of_visit
    {statement : Statement}
    {write : Write}
    {targets : Store → List Uuid}
    {lock : Uuid → Lock Resource}
    {touch : Uuid → Store → List Write}
    {answer : Nat → Answer statement}
    (executes : Store.execution statement = .sweep targets lock touch answer)
    (may : statement.MayWrite view write)
    (survives : Surviving scope revoker (Store.apply write view) id) :
    Surviving scope revoker view id := by
  cases statement with
  | revokeFamily familyId revokedAt =>
      obtain ⟨_, _, _, rfl⟩ := may
      exact survives.of_revoked
  | revokeUserSessions userId revokedAt =>
      obtain ⟨_, _, _, rfl⟩ := may
      exact survives.of_revoked
  | insertUser user => cases executes
  | updateUser user => cases executes
  | insertSession session => cases executes
  | updateSession session => cases executes
  | _ => exact survives.of_elsewhere may.2

/--
What survives a permitted statement was alive before, or has a parent that is
alive and that the client holds.
-/
theorem Surviving.of_mayWrite
    {statement : Statement}
    {write : Write}
    (permitted : accountPermits env call standing statement)
    (may : statement.MayWrite standing.view write)
    (opensAsRevoker :
      ∀ draws, call.opening = some draws → revoker.opening = some draws)
    (survives :
      Surviving scope revoker (Store.apply write standing.view) id) :
    Surviving scope revoker standing.view id ∨
      ∃ parentId,
        Locked standing.locks (.session parentId) ∧
          Surviving scope revoker standing.view parentId := by
  cases statement with
  | insertSession session =>
      obtain ⟨rfl, _⟩ := may
      rcases survives.of_putSession with same | ⟨_, alive⟩
      · exact .inl same
      · rcases permitted.2 with
          ⟨draws, opens, family⟩ | ⟨parent, holds, unrevoked, owner, family⟩
        · exact absurd family (alive.older draws (opensAsRevoker draws opens))
        · exact .inr ⟨parent.id, holds.locked, parent, holds.seen,
            alive.of_parent unrevoked owner family⟩
  | updateSession session =>
      obtain ⟨rfl, _⟩ := may
      obtain ⟨earlier, holds, _, intended⟩ := permitted
      obtain ⟨successorId, now, rfl⟩ := intended.isReplaced
      rcases survives.of_putSession with same | ⟨isSession, alive⟩
      · exact .inl same
      · left
        rw [isSession]
        exact ⟨earlier, holds.seen, alive.of_replaced⟩
  | insertUser user =>
      obtain ⟨rfl, _⟩ := may
      exact .inl (survives.of_elsewhere fun _ same => nomatch same)
  | updateUser user =>
      obtain ⟨rfl, _⟩ := may
      exact .inl (survives.of_elsewhere fun _ same => nomatch same)
  | revokeFamily familyId revokedAt =>
      exact .inl (survives.of_visit rfl may)
  | revokeUserSessions userId revokedAt =>
      exact .inl (survives.of_visit rfl may)
  | _ => exact .inl (survives.of_elsewhere may.2)

end Statements

/-! ## Steps -/

section Steps

variable
  {Client : Type}
  [DecidableEq Client]
  {env : Environment}
  {pool : Client → ServiceTx → Prop}
  {config next : Config Client (services env)}
  {event : Event Client (services env)}

/-- What one step does to the sessions that survive. -/
inductive SurvivalStep
    (scope : RevocationScope)
    (revoker : ServiceTx)
    (config : Config Client (services env)) :
    Event Client (services env) →
      Ledger Client Store Write Resource → Prop where
  | unchanged {event : Event Client (services env)} :
      SurvivalStep scope revoker config event config.toLedger
  | extended
      {event : Event Client (services env)}
      {client : Client}
      {locks : List (Lock Resource)}
      {writes : List Write}
      (survived :
        ∀ id,
          Surviving scope revoker
              (applyAll Store.apply writes (config.sees client)) id →
            Surviving scope revoker (config.sees client) id ∨
              ∃ parentId,
                Locked (config.locks client) (.session parentId) ∧
                  Surviving scope revoker (config.sees client) parentId) :
      SurvivalStep scope revoker config event
        (config.toLedger.extend client locks writes)
  | committed (client : Client) :
      SurvivalStep scope revoker config (.commits client)
        (config.toLedger.commit Store.engine client)
  | released (client : Client) :
      SurvivalStep scope revoker config (.rollsBack client)
        (config.toLedger.release client)

/-- Every step of the services is one of these. -/
theorem survivalStep
    {scope : RevocationScope}
    {revoker : ServiceTx}
    (holds : AccountsHold config)
    (opensAsRevoker :
      ∀ client call draws, (config.phases client).call? = some call →
        call.opening = some draws → revoker.opening = some draws)
    (step : Step pool config event next) :
    SurvivalStep scope revoker config event next.toLedger := by
  cases step with
  | calls => exact .unchanged
  | @point client call before statement following locks effect issuing executes
      granted =>
      rcases ((holds.stands_in issuing).point trivial executes).1 with
        ⟨issued, _, permitted⟩
      have writes := Store.execution_writes statement
      have isPoint : Store.execution statement = .point locks effect :=
        executes
      rw [isPoint] at writes
      have isCall : (config.phases client).call? = some call := by
        rw [issuing]
        rfl
      refine .extended fun id => ?_
      rcases writes (config.sees client) with unwritten | ⟨write, written, may⟩
      · rw [unwritten]
        exact .inl
      · rw [written]
        exact Surviving.of_mayWrite permitted may
          fun draws => opensAsRevoker client call draws isCall
  | sweep => exact .unchanged
  | @visit client call before statement visited earlier later target following
      targets lock touch answer sweeping executes granted =>
      have writes := Store.execution_writes statement
      have isSweep :
          Store.execution statement = .sweep targets lock touch answer :=
        executes
      rw [isSweep] at writes
      refine .extended fun id => ?_
      rcases writes target (config.sees client) with
        unwritten | ⟨write, written, may⟩
      · rw [unwritten]
        exact .inl
      · rw [written]
        exact fun survives => .inl (Surviving.of_visit isSweep may survives)
  | finish => exact .unchanged
  | returned => exact .unchanged
  | raised => exact .unchanged
  | commit => exact .committed _
  | rollback => exact .released _

end Steps

end EpokAuth
