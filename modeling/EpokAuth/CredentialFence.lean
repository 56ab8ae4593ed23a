import EpokAuth.AccountStep
import EpokAuth.LiveSession
import EpokAuth.ReplayRevocation

namespace EpokAuth

open Transactional

/-!
# Replacing a password ends the sessions before it

Every replacement of a password revokes the sessions of its account in the same
transaction, except linking a preauthorised account to a Google identity, which
leaves them as they are.
-/

/-- A Google login links its identity to an existing account. -/
def Executed.AutoLinks
    (executed : Executed)
    (deps : Dependencies)
    (before : Store)
    (userId : Uuid) :
    Prop :=
  ∃ passwordHash, Causes deps before executed userId (.autoLink passwordHash)

/-- The account has the session, which is not revoked. -/
def IsLive (core : Core) (userId id : Uuid) : Prop :=
  ∃ session,
    core.sessions.get? id = some session ∧ session.userId = userId ∧
      session.revokedAt = none

/-- The account has a session that is not revoked. -/
def HasLiveSession (core : Core) (userId : Uuid) : Prop :=
  ∃ id, IsLive core userId id

/-! ## Moves -/

variable
  {settings : AuthSettings}
  {core : Core}
  {familyId userId : Uuid}

/-- Only a replaced password changes whether it must be changed. -/
theorem AccountChange.apply_mustChangePassword
    {change : AccountChange}
    {now : Instant}
    {user : UserAccount}
    (keeps : ¬ change.ReplacesPassword) :
    (change.apply settings now user).mustChangePassword =
      user.mustChangePassword := by
  cases change with
  | fail =>
      simp only [AccountChange.apply, afterPasswordFailure]
      split <;> rfl
  | administer resolved =>
      simp only [AccountChange.apply, applyUpdate]
      split <;> rfl
  | replace reason passwordHash =>
      exact absurd trivial keeps
  | autoLink passwordHash =>
      exact absurd trivial keeps
  | _ => rfl

/-- The sessions of a family belong to one account. -/
theorem SoundFamilies.userId_eq
    {sessions : Table RefreshSession}
    {id other : Uuid}
    {session otherSession : RefreshSession}
    (sound : SoundFamilies sessions)
    (member : IsMember sessions familyId id session)
    (otherMember : IsMember sessions familyId other otherSession) :
    otherSession.userId = session.userId := by
  rcases member with ⟨found, rfl⟩
  rcases sound.chained id session found with ⟨chain, family⟩
  exact (family.uniform id session other otherSession ⟨found, rfl⟩
    otherMember).1

/-- A change that revokes the sessions of an account ends its families. -/
theorem DeadFamily.of_revocation
    {id : Uuid}
    {session : RefreshSession}
    {user : UserAccount}
    {change : AccountChange}
    {attachment : Attachment}
    {now : Instant}
    (sound : SoundFamilies core.sessions)
    (member : IsMember core.sessions familyId id session)
    (found : core.users.get? session.userId = some user)
    (revokes : change.revokes settings now user = true) :
    DeadFamily
      ((Move.account session.userId change attachment now).perform settings
        core).sessions
      familyId := by
  rw [Move.perform_account found]
  simp only [revokes, ↓reduceIte]
  have row :
      ∀ other,
        (core.sessions.revise (Store.ofUser session.userId)
            (Store.revokeAt now) fun _ => rfl).get? other =
          (core.sessions.get? other).map fun row =>
            if Store.ofUser session.userId row then
              Store.revokeAt now row
            else
              row :=
    Table.get?_revise core.sessions (Store.ofUser session.userId)
      (Store.revokeAt now) (fun _ => rfl)
  have keepsFamily :
      ∀ row : RefreshSession,
        (if Store.ofUser session.userId row then
          Store.revokeAt now row
        else
          row).familyId = row.familyId := by
    intro row
    split <;> rfl
  refine ⟨⟨id, _, (row id).trans (by rw [member.1, Option.map_some]),
    (keepsFamily session).trans member.2⟩, ?_⟩
  rintro other otherSession ⟨stored, inFamily⟩
  rw [row other, Option.map_eq_some_iff] at stored
  rcases stored with ⟨earlier, present, rfl⟩
  rw [keepsFamily] at inFamily
  have owned : earlier.userId = session.userId :=
    sound.userId_eq member ⟨present, inFamily⟩
  split
  · simp [Store.revokeAt]
  · rename_i spared
    intro unrevoked
    exact spared (by simp [Store.ofUser, owned, unrevoked])

/-- A move that leaves sessions that are not revoked as they are. -/
def Move.KeepsLive : Move → Prop
  | .account _ change _ _ => ∃ passwordHash, change = .autoLink passwordHash
  | .revokeFamily _ _ => False
  | .revokeUser _ _ => False
  | _ => True

/-- Such a move revokes no session. -/
theorem IsLive.move
    {id : Uuid}
    {move : Move}
    (live : IsLive core userId id)
    (enabled : move.Enabled settings core)
    (keeps : move.KeepsLive) :
    IsLive (move.perform settings core) userId id := by
  rcases live with ⟨session, found, owned, unrevoked⟩
  cases move with
  | account changed change attachment now =>
      rcases keeps with ⟨passwordHash, rfl⟩
      rcases enabled with ⟨user, account, _⟩
      rw [Move.perform_account account]
      exact ⟨session, found, owned, unrevoked⟩
  | openSession opened =>
      rcases enabled with ⟨_, ⟨absent, _⟩, _⟩
      refine ⟨session, ?_, owned, unrevoked⟩
      exact (Table.get?_put_of_ne core.sessions
        (Table.ne_of_get? found absent)).trans found
  | rotate sessionId successor now =>
      rcases enabled with
        ⟨parent, _, parentFound, _, _, _, _, _, _, _, ⟨absent, _⟩, _⟩
      have parentKey : parent.id = sessionId := Table.key_of_get? parentFound
      subst parentKey
      rw [Move.perform_rotate parentFound]
      by_cases isParent : id = parent.id
      · subst isParent
        obtain rfl := Option.some.inj (found.symm.trans parentFound)
        exact ⟨session.replacedBy successor.id now,
          Table.get?_put_self _ _, owned, unrevoked⟩
      · refine ⟨session, ?_, owned, unrevoked⟩
        have different : id ≠ (parent.replacedBy successor.id now).id :=
          isParent
        exact (Table.get?_put_of_ne _ different).trans
          ((Table.get?_put_of_ne core.sessions
            (Table.ne_of_get? found absent)).trans found)
  | revokeFamily familyId now =>
      cases keeps
  | revokeUser changed now =>
      cases keeps
  | activateLink linkId now =>
      rcases enabled with ⟨link, _, stored, _⟩
      rw [Move.perform, Core.reviseLink_of_get? stored]
      exact ⟨session, found, owned, unrevoked⟩
  | failLink linkId now =>
      rcases enabled with ⟨link, stored, _⟩
      rw [Move.perform, Core.reviseLink_of_get? stored]
      exact ⟨session, found, owned, unrevoked⟩
  | revokeLink linkId now =>
      rcases enabled with ⟨link, stored, _⟩
      rw [Move.perform, Core.reviseLink_of_get? stored]
      exact ⟨session, found, owned, unrevoked⟩
  | consumeLink linkId now =>
      rcases enabled with ⟨link, _, stored, _⟩
      rw [Move.perform, Core.reviseLink_of_get? stored]
      exact ⟨session, found, owned, unrevoked⟩
  | _ => exact ⟨session, found, owned, unrevoked⟩

/-! ## Steps -/

section Steps

variable
  {env : Environment}
  {before after : Store}
  {executed : Executed}

/-- A family without live sessions stays so while moves are performed. -/
theorem Performs.deadFamily
    {moves : List Move}
    {later : Core}
    (performed : Performs settings core moves later)
    (dead : DeadFamily core.sessions familyId) :
    DeadFamily later.sessions familyId :=
  performed.preserves (fun core => DeadFamily core.sessions familyId)
    (fun _ _ _ enabled dead => dead.move enabled) dead

/--
Replacing the password of an account ends its families, unless the account is
linked to a Google identity while it has a live session.
-/
theorem ServiceStep.deadFamily_of_replaces
    {id : Uuid}
    {session : RefreshSession}
    (reachable : ServiceReachable env before)
    (step : ServiceStep env before executed after)
    (replaces : executed.Replaces env.toDependencies before session.userId)
    (spared :
      ¬ (executed.AutoLinks env.toDependencies before session.userId ∧
          HasLiveSession before.toCore session.userId))
    (member : IsMember before.sessions familyId id session) :
    DeadFamily after.sessions familyId := by
  have sound := ServiceReachable.soundFamilies reachable
  rcases step.effect with ⟨moves, effect⟩
  rcases effect.replaces _ replaces with
    ⟨change, attachment, now, replacing, inMoves⟩
  have cause := effect.attributed _ _ _ _ inMoves
  rcases effect.performs.exists_move inMoves with
    ⟨first, rest, middle, _, performedFirst, enabled, performedRest⟩
  cases change with
  | replace reason passwordHash =>
      have soundMiddle : SoundFamilies middle.sessions :=
        performedFirst.preserves (fun core => SoundFamilies core.sessions)
          (fun _ _ _ enabled sound => sound.step (Move.sessionStep enabled))
          sound
      rcases performedFirst.sessionsContinue id session member.1 with
        ⟨between, foundBetween, continues⟩
      have memberBetween : IsMember middle.sessions familyId id between :=
        member.continues foundBetween continues
      rcases enabled with ⟨user, account, _⟩
      rw [← continues.same RefreshSession.userId fun _ _ _ _ => rfl]
        at account performedRest
      exact performedRest.deadFamily
        (.of_revocation soundMiddle memberBetween account rfl)
  | autoLink passwordHash =>
      refine effect.performs.deadFamily ⟨⟨id, session, member⟩, ?_⟩
      intro other otherSession otherMember unrevoked
      exact spared ⟨⟨passwordHash, cause⟩, other, otherSession,
        otherMember.1, sound.userId_eq member otherMember, unrevoked⟩
  | _ => cases replacing

/-- The families that have ended leave no session of theirs live. -/
theorem ServiceStep.revokedSince
    (step : ServiceStep env before executed after)
    (ended :
      ∀ id session, before.sessions.get? id = some session →
        session.userId = userId →
        DeadFamily after.sessions session.familyId) :
    RevokedSince before.toCore after.toCore userId := by
  intro id session found owned
  rcases step.effect with ⟨moves, effect⟩
  rcases effect.performs.sessionsContinue id session found with
    ⟨later, foundLater, continues⟩
  have member : IsMember before.sessions session.familyId id session :=
    ⟨found, rfl⟩
  exact ⟨later, foundLater,
    (ended id session found owned).revoked id later
      (member.continues foundLater continues)⟩

/-- Linking an account to a Google identity leaves every live session. -/
theorem ServiceStep.isLive_of_autoLinks
    {other id : Uuid}
    (step : ServiceStep env before executed after)
    (links : executed.AutoLinks env.toDependencies before userId)
    (live : IsLive before.toCore other id) :
    IsLive after.toCore other id := by
  rcases step.effect with ⟨moves, effect⟩
  rcases links with ⟨passwordHash, cause⟩
  refine effect.performs.preserves (fun core => IsLive core other id) ?_ live
  intro move member state enabled stillLive
  refine stillLive.move enabled ?_
  have made := effect.made move member
  cases cause with
  | autoLinked unlinked existing =>
      cases move with
      | account changed change attachment now =>
          cases effect.attributed _ _ _ _ member with
          | autoLinked _ _ => exact ⟨_, rfl⟩
      | revokeFamily familyId now => cases made
      | revokeUser changed now => cases made
      | _ => trivial

/-- An account that must change its password must until it is replaced. -/
theorem ServiceStep.mustChangePassword
    {user : UserAccount}
    (step : ServiceStep env before executed after)
    (kept : ¬ executed.Replaces env.toDependencies before userId)
    (found : before.users.get? userId = some user)
    (temporary : user.mustChangePassword = true) :
    ∃ later,
      after.users.get? userId = some later ∧
        later.mustChangePassword = true := by
  rcases step.effect with ⟨moves, effect⟩
  refine effect.performs.preserves
    (fun core =>
      ∃ later,
        core.users.get? userId = some later ∧
          later.mustChangePassword = true)
    ?_ ⟨user, found, temporary⟩
  rintro move member state enabled ⟨current, foundCurrent, must⟩
  have taken := Move.accountStep enabled userId
  generalize (move.perform env.settings state).users.get? userId = row at taken ⊢
  cases taken with
  | kept =>
      exact ⟨current, foundCurrent, must⟩
  | enrolled absent _ =>
      rw [absent] at foundCurrent
      cases foundCurrent
  | @changed stored change attachment now foundStored permitted =>
      obtain rfl := Option.some.inj (foundCurrent.symm.trans foundStored)
      refine ⟨_, rfl, ?_⟩
      rw [AccountChange.apply_mustChangePassword]
      · exact must
      · intro replacing
        exact kept ⟨change, effect.attributed _ _ _ _ member, replacing⟩

end Steps

end EpokAuth
