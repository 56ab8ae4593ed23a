import EpokAuth.ServiceEffects

namespace EpokAuth

open Transactional

/-!
# What a move does to sessions

A move leaves the sessions alone, revokes some that were not revoked, opens one
in a new family, or rotates one.  Every invariant about sessions is derived
from these four cases.
-/

/-- The change of the sessions by one move. -/
inductive SessionStep (settings : AuthSettings) (core : Core) :
    Table RefreshSession → Prop where
  | kept : SessionStep settings core core.sessions
  | revoked
      {revokedAt : Instant}
      (property : RefreshSession → Bool)
      (keepsKey :
        ∀ row, (key (Store.revokeAt revokedAt row) : Uuid) = key row)
      (unrevoked :
        ∀ session, property session = true → session.revokedAt = none) :
      SessionStep settings core
        (core.sessions.revise property (Store.revokeAt revokedAt) keepsKey)
  | opened
      {session : RefreshSession}
      (enabled : (Move.openSession session).Enabled settings core) :
      SessionStep settings core (core.sessions.put session)
  | rotated
      {session successor : RefreshSession}
      {now : Instant}
      (found : core.sessions.get? session.id = some session)
      (enabled :
        (Move.rotate session.id successor now).Enabled settings core) :
      SessionStep settings core
        ((core.sessions.put successor).put
          (session.replacedBy successor.id now))

/-- Revoking a family touches no revoked session. -/
theorem unrevoked_of_inFamily
    {familyId : Uuid}
    {session : RefreshSession}
    (chosen : Store.inFamily familyId session = true) :
    session.revokedAt = none := by
  rw [Store.inFamily, Bool.and_eq_true, decide_eq_true_eq,
    decide_eq_true_eq] at chosen
  exact chosen.2

/-- Revoking the sessions of a user touches no revoked session. -/
theorem unrevoked_of_ofUser
    {userId : Uuid}
    {session : RefreshSession}
    (chosen : Store.ofUser userId session = true) :
    session.revokedAt = none := by
  rw [Store.ofUser, Bool.and_eq_true, decide_eq_true_eq,
    decide_eq_true_eq] at chosen
  exact chosen.2

variable
  {settings : AuthSettings}
  {core : Core}

/-- Every enabled move changes the sessions in one of these ways. -/
theorem Move.sessionStep
    {move : Move}
    (enabled : move.Enabled settings core) :
    SessionStep settings core (move.perform settings core).sessions := by
  cases move with
  | account userId change attachment now =>
      obtain ⟨user, account, _⟩ := enabled
      rw [Move.perform_account account]
      by_cases revokes : change.revokes settings now user = true
      · simp only [revokes, ↓reduceIte]
        exact .revoked (Store.ofUser userId) (fun _ => rfl)
          fun _ => unrevoked_of_ofUser
      · simp only [revokes]
        exact .kept
  | openSession session =>
      exact .opened enabled
  | rotate sessionId successor now =>
      obtain ⟨session, user, found, _⟩ := id enabled
      have sessionKey : session.id = sessionId := Table.key_of_get? found
      subst sessionKey
      rw [Move.perform_rotate found]
      exact .rotated found enabled
  | revokeFamily familyId now =>
      exact .revoked (Store.inFamily familyId) (fun _ => rfl)
        fun _ => unrevoked_of_inFamily
  | revokeUser userId now =>
      exact .revoked (Store.ofUser userId) (fun _ => rfl)
        fun _ => unrevoked_of_ofUser
  | activateLink linkId now =>
      obtain ⟨link, user, found, _⟩ := enabled
      rw [Move.perform, Core.reviseLink_of_get? found]
      exact .kept
  | failLink linkId now =>
      obtain ⟨link, found, _⟩ := enabled
      rw [Move.perform, Core.reviseLink_of_get? found]
      exact .kept
  | revokeLink linkId now =>
      obtain ⟨link, found, _⟩ := enabled
      rw [Move.perform, Core.reviseLink_of_get? found]
      exact .kept
  | consumeLink linkId now =>
      obtain ⟨link, user, found, _⟩ := enabled
      rw [Move.perform, Core.reviseLink_of_get? found]
      exact .kept
  | _ => exact .kept

/-! ## Sessions are never lost, changed or revived -/

/--
A later version of a session: its origin is the same, and its use and its
revocation are never cleared or overwritten.
-/
structure RefreshSession.Continues (earlier later : RefreshSession) : Prop where
  origin :
    later =
      { earlier with
        usedAt := later.usedAt
        revokedAt := later.revokedAt
        replacedById := later.replacedById }
  used :
    earlier.usedAt ≠ none →
      later.usedAt = earlier.usedAt ∧
        later.replacedById = earlier.replacedById
  revoked : earlier.revokedAt ≠ none → later.revokedAt = earlier.revokedAt

namespace RefreshSession.Continues

variable
  {first second third : RefreshSession}

theorem refl (session : RefreshSession) : session.Continues session where
  origin := rfl
  used := fun _ => ⟨rfl, rfl⟩
  revoked := fun _ => rfl

theorem trans
    (earlier : first.Continues second)
    (later : second.Continues third) :
    first.Continues third where
  origin := by
    rw [later.origin, earlier.origin]
  used := by
    intro isUsed
    obtain ⟨usedAt, replacedById⟩ := earlier.used isUsed
    obtain ⟨usedAtToo, replacedByIdToo⟩ := later.used (usedAt ▸ isUsed)
    exact ⟨usedAtToo.trans usedAt, replacedByIdToo.trans replacedById⟩
  revoked := by
    intro isRevoked
    have same := earlier.revoked isRevoked
    exact (later.revoked (same ▸ isRevoked)).trans same

/-- A session keeps what neither its use nor its revocation is about. -/
theorem same
    {α : Type}
    (continues : first.Continues second)
    (field : RefreshSession → α)
    (kept :
      ∀ session usedAt revokedAt replacedById,
        field
            { session with
              usedAt := usedAt
              revokedAt := revokedAt
              replacedById := replacedById } =
          field session) :
    field second = field first := by
  rw [continues.origin]
  exact kept ..

end RefreshSession.Continues

/-- Every stored session is still stored later. -/
def SessionsContinue (earlier later : Core) : Prop :=
  ∀ id session, earlier.sessions.get? id = some session →
    ∃ after,
      later.sessions.get? id = some after ∧ session.Continues after

theorem SessionsContinue.refl (core : Core) : SessionsContinue core core :=
  fun _ session found => ⟨session, found, .refl session⟩

theorem SessionsContinue.trans
    {first second third : Core}
    (earlier : SessionsContinue first second)
    (later : SessionsContinue second third) :
    SessionsContinue first third := by
  intro id session found
  obtain ⟨middle, foundMiddle, continues⟩ := earlier id session found
  obtain ⟨after, foundAfter, continuesToo⟩ := later id middle foundMiddle
  exact ⟨after, foundAfter, continues.trans continuesToo⟩

/-- One change of the sessions continues all of them. -/
theorem SessionStep.continues
    {sessions : Table RefreshSession}
    (step : SessionStep settings core sessions)
    {id : Uuid}
    {session : RefreshSession}
    (stored : core.sessions.get? id = some session) :
    ∃ after, sessions.get? id = some after ∧ session.Continues after := by
  have sessionKey : session.id = id := Table.key_of_get? stored
  cases step with
  | kept =>
      exact ⟨session, stored, .refl session⟩
  | @revoked revokedAt property keepsKey unrevoked =>
      rw [Table.get?_revise, stored, Option.map_some]
      refine ⟨_, rfl, ?_⟩
      split
      · rename_i chosen
        refine ⟨rfl, fun _ => ⟨rfl, rfl⟩, fun isRevoked => ?_⟩
        exact absurd (unrevoked session chosen) isRevoked
      · exact .refl session
  | opened enabled =>
      obtain ⟨_, ⟨absent, _⟩, _⟩ := enabled
      refine ⟨session, ?_, .refl session⟩
      rw [Table.get?_put_of_ne]
      · exact stored
      · exact Table.ne_of_get? stored absent
  | @rotated parent successor now found enabled =>
      obtain ⟨_, _, foundToo, unused, unrevoked, _, _, _, _, _, ⟨absent, _⟩, _⟩ :=
        enabled
      obtain rfl := Option.some.inj (found.symm.trans foundToo)
      by_cases isParent : id = parent.id
      · subst isParent
        obtain rfl := Option.some.inj (found.symm.trans stored)
        refine ⟨_, Table.get?_put_self _ _, rfl, fun isUsed => ?_,
          fun _ => rfl⟩
        exact absurd unused isUsed
      · refine ⟨session, ?_, .refl session⟩
        rw [Table.get?_put_of_ne, Table.get?_put_of_ne]
        · exact stored
        · exact Table.ne_of_get? stored absent
        · exact isParent

/-- Enabled moves continue every session. -/
theorem Performs.sessionsContinue
    {moves : List Move}
    {later : Core}
    (performs : Performs settings core moves later) :
    SessionsContinue core later :=
  performs.relates SessionsContinue SessionsContinue.refl
    (fun _ _ _ => SessionsContinue.trans)
    fun _ _ _ enabled _ _ stored => (Move.sessionStep enabled).continues stored

/-- Runs of the services continue every session. -/
theorem ServiceRun.sessionsContinue
    {env : Environment}
    {before after : Store}
    {labels : List Executed}
    (run : ServiceRun env before labels after) :
    SessionsContinue before.toCore after.toCore := by
  refine run.relates
    (fun earlier later => SessionsContinue earlier.toCore later.toCore)
    (fun store => SessionsContinue.refl store.toCore)
    (fun _ _ _ => SessionsContinue.trans) ?_
  intro store executed next step
  obtain ⟨moves, effect⟩ := step.effect
  exact effect.performs.sessionsContinue

/-! ## Tokens identify sessions -/

/-- No two stored sessions have the same token. -/
def DistinctTokens (sessions : Table RefreshSession) : Prop :=
  ∀ id session other otherSession,
    sessions.get? id = some session →
    sessions.get? other = some otherSession →
    session.tokenHash = otherSession.tokenHash →
    id = other

/-- Adding a session with an unused token keeps tokens distinct. -/
theorem DistinctTokens.put
    {sessions : Table RefreshSession}
    {added : RefreshSession}
    (distinct : DistinctTokens sessions)
    (unused :
      ∀ id other, sessions.get? id = some other → id ≠ added.id →
        other.tokenHash ≠ added.tokenHash) :
    DistinctTokens (sessions.put added) := by
  intro id session other otherSession found otherFound sameToken
  rw [Table.get?_put] at found otherFound
  split at found
  · rename_i isAdded
    obtain rfl := Option.some.inj found
    split at otherFound
    · rename_i otherIsAdded
      exact isAdded.trans otherIsAdded.symm
    · rename_i otherDiffers
      exact absurd sameToken.symm
        (unused other otherSession otherFound otherDiffers)
  · rename_i differs
    split at otherFound
    · obtain rfl := Option.some.inj otherFound
      exact absurd sameToken (unused id session found differs)
    · exact distinct id session other otherSession found otherFound sameToken

/-- Every change of the sessions keeps tokens distinct. -/
theorem DistinctTokens.step
    {sessions : Table RefreshSession}
    (distinct : DistinctTokens core.sessions)
    (taken : SessionStep settings core sessions) :
    DistinctTokens sessions := by
  cases taken with
  | kept =>
      exact distinct
  | @revoked revokedAt property keepsKey unrevoked =>
      have origin :
          ∀ {id session},
            (core.sessions.revise property (Store.revokeAt revokedAt)
                keepsKey).get? id = some session →
              ∃ earlier,
                core.sessions.get? id = some earlier ∧
                  earlier.tokenHash = session.tokenHash := by
        intro id session found
        rw [Table.get?_revise, Option.map_eq_some_iff] at found
        obtain ⟨earlier, present, rfl⟩ := found
        refine ⟨earlier, present, ?_⟩
        split
        · rfl
        · rfl
      intro id session other otherSession found otherFound sameToken
      obtain ⟨earlier, present, token⟩ := origin found
      obtain ⟨otherEarlier, otherPresent, otherToken⟩ := origin otherFound
      exact distinct id earlier other otherEarlier present otherPresent
        (token.trans (sameToken.trans otherToken.symm))
  | opened enabled =>
      obtain ⟨_, ⟨_, unused⟩, _⟩ := enabled
      exact distinct.put fun id other found _ => unused id other found
  | @rotated parent successor now found enabled =>
      obtain ⟨_, _, foundToo, _, _, _, _, _, _, _, ⟨absent, unused⟩, _⟩ :=
        enabled
      have added : DistinctTokens (core.sessions.put successor) :=
        distinct.put fun id other stored _ => unused id other stored
      have parentStored :
          (core.sessions.put successor).get? parent.id = some parent := by
        rw [Table.get?_put_of_ne]
        · exact found
        · exact Table.ne_of_get? found absent
      refine added.put ?_
      intro id other stored differs sameToken
      exact differs
        (added id other parent.id parent stored parentStored sameToken)

/-- The tokens of every reachable store are distinct. -/
theorem ServiceReachable.distinctTokens
    {env : Environment}
    {store : Store}
    (reachable : ServiceReachable env store) :
    DistinctTokens store.sessions := by
  obtain ⟨labels, run⟩ := reachable
  refine ServiceRun.preserves_core run
    (fun core => DistinctTokens core.sessions) ?_ ?_
  · intro move core enabled distinct
    exact distinct.step (Move.sessionStep enabled)
  · intro id session other otherSession found
    cases found

end EpokAuth
