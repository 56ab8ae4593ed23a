import EpokAuth.SessionStep
import EpokAuth.SuccessorChain

namespace EpokAuth

open Transactional

/-!
# Refresh families

The sessions of one family form a chain: each used session names its
replacement, and the last one is unused.  All of them share the account, the
authentication and the deadline of the first.
-/

/-- The replacement that a stored session names. -/
def successorOf (sessions : Table RefreshSession) (id : Uuid) : Option Uuid :=
  (sessions.get? id).bind RefreshSession.replacedById

/-- A stored session of a family. -/
def IsMember
    (sessions : Table RefreshSession)
    (familyId id : Uuid)
    (session : RefreshSession) :
    Prop :=
  sessions.get? id = some session ∧ session.familyId = familyId

/-- A member of a family stays one. -/
theorem IsMember.continues
    {sessions later : Table RefreshSession}
    {familyId id : Uuid}
    {session after : RefreshSession}
    (member : IsMember sessions familyId id session)
    (found : later.get? id = some after)
    (continues : session.Continues after) :
    IsMember later familyId id after :=
  ⟨found,
    (continues.same RefreshSession.familyId fun _ _ _ _ => rfl).trans member.2⟩

/-- The sessions of a family, in the order of their rotation. -/
structure FamilyChain
    (sessions : Table RefreshSession)
    (familyId : Uuid)
    (chain : List Uuid) :
    Prop where
  members :
    ∀ id, id ∈ chain ↔ ∃ session, IsMember sessions familyId id session
  linked : SuccessorChain (successorOf sessions) chain
  root :
    ∀ id session, chain.head? = some id → sessions.get? id = some session →
      session.authenticatedAt = session.createdAt
  uniform :
    ∀ id session other otherSession,
      IsMember sessions familyId id session →
      IsMember sessions familyId other otherSession →
      otherSession.userId = session.userId ∧
        otherSession.authenticatedAt = session.authenticatedAt ∧
        otherSession.absoluteExpiresAt = session.absoluteExpiresAt

/-- Every stored session is well formed and lies on the chain of its family. -/
structure SoundFamilies (sessions : Table RefreshSession) : Prop where
  used :
    ∀ id session, sessions.get? id = some session →
      (session.usedAt = none ↔ session.replacedById = none)
  idle :
    ∀ id session, sessions.get? id = some session →
      session.idleExpiresAt ≤ session.absoluteExpiresAt
  created :
    ∀ id session, sessions.get? id = some session →
      session.createdAt < session.absoluteExpiresAt
  chained :
    ∀ id session, sessions.get? id = some session →
      ∃ chain, FamilyChain sessions session.familyId chain

namespace FamilyChain

variable
  {sessions : Table RefreshSession}
  {familyId : Uuid}
  {chain : List Uuid}

/-- Changing a row outside a family leaves its chain alone. -/
theorem put_other
    {row : RefreshSession}
    (family : FamilyChain sessions familyId chain)
    (outside : row.familyId ≠ familyId)
    (replaced :
      ∀ old, sessions.get? row.id = some old → old.familyId ≠ familyId) :
    FamilyChain (sessions.put row) familyId chain := by
  have notRow :
      ∀ id session, IsMember sessions familyId id session → id ≠ row.id := by
    rintro id session ⟨found, inFamily⟩ rfl
    exact replaced session found inFamily
  have lookup :
      ∀ id, id ≠ row.id → (sessions.put row).get? id = sessions.get? id :=
    fun id different => Table.get?_put_of_ne _ different
  have member_iff :
      ∀ id session,
        IsMember (sessions.put row) familyId id session ↔
          IsMember sessions familyId id session := by
    intro id session
    constructor
    · rintro ⟨found, inFamily⟩
      by_cases isRow : id = row.id
      · subst isRow
        obtain rfl := Option.some.inj
          ((Table.get?_put_self sessions row).symm.trans found)
        exact absurd inFamily outside
      · exact ⟨(lookup id isRow).symm.trans found, inFamily⟩
    · intro member
      exact ⟨(lookup id (notRow id session member)).trans member.1, member.2⟩
  have chainNotRow : ∀ id ∈ chain, id ≠ row.id := by
    intro id inChain
    obtain ⟨session, member⟩ := (family.members id).mp inChain
    exact notRow id session member
  refine ⟨?_, ?_, ?_, ?_⟩
  · intro id
    rw [family.members id]
    simp only [member_iff]
  · refine family.linked.congr ?_
    intro id inChain
    rw [successorOf, lookup id (chainNotRow id inChain), successorOf]
  · intro id session isHead found
    have inChain : id ∈ chain := List.mem_of_mem_head? isHead
    rw [lookup id (chainNotRow id inChain)] at found
    exact family.root id session isHead found
  · intro id session other otherSession member otherMember
    rw [member_iff] at member otherMember
    exact family.uniform id session other otherSession member otherMember

/-- Revoking sessions leaves every chain alone. -/
theorem revise
    {property : RefreshSession → Bool}
    {now : Instant}
    (family : FamilyChain sessions familyId chain)
    (keepsKey : ∀ row, (key (Store.revokeAt now row) : Uuid) = key row) :
    FamilyChain (sessions.revise property (Store.revokeAt now) keepsKey)
      familyId chain := by
  have origin :
      ∀ {id session},
        (sessions.revise property (Store.revokeAt now) keepsKey).get? id =
            some session →
          ∃ earlier,
            sessions.get? id = some earlier ∧
              earlier.familyId = session.familyId ∧
              earlier.userId = session.userId ∧
              earlier.authenticatedAt = session.authenticatedAt ∧
              earlier.absoluteExpiresAt = session.absoluteExpiresAt ∧
              earlier.createdAt = session.createdAt := by
    intro id session found
    rw [Table.get?_revise, Option.map_eq_some_iff] at found
    obtain ⟨earlier, present, rfl⟩ := found
    refine ⟨earlier, present, ?_⟩
    split
    · exact ⟨rfl, rfl, rfl, rfl, rfl⟩
    · exact ⟨rfl, rfl, rfl, rfl, rfl⟩
  have same :
      successorOf (sessions.revise property (Store.revokeAt now) keepsKey) =
        successorOf sessions := by
    funext id
    rw [successorOf, Table.get?_revise, successorOf]
    cases sessions.get? id with
    | none =>
        rfl
    | some session =>
        simp only [Option.map_some, Option.bind_some]
        split
        · rfl
        · rfl
  refine ⟨?_, ?_, ?_, ?_⟩
  · intro id
    rw [family.members id]
    constructor
    · rintro ⟨session, found, inFamily⟩
      refine ⟨_, by rw [Table.get?_revise, found, Option.map_some], ?_⟩
      split
      · exact inFamily
      · exact inFamily
    · rintro ⟨session, found, inFamily⟩
      obtain ⟨earlier, present, sameFamily, _⟩ := origin found
      exact ⟨earlier, present, sameFamily.trans inFamily⟩
  · rw [same]
    exact family.linked
  · intro id session isHead found
    obtain ⟨earlier, present, _, _, authenticated, _, created⟩ := origin found
    rw [← authenticated, ← created]
    exact family.root id earlier isHead present
  · rintro id session other otherSession ⟨found, inFamily⟩
      ⟨otherFound, otherInFamily⟩
    obtain ⟨earlier, present, sameFamily, userId, authenticated, expires, _⟩ :=
      origin found
    obtain ⟨otherEarlier, otherPresent, otherSameFamily, otherUserId,
      otherAuthenticated, otherExpires, _⟩ := origin otherFound
    rw [← userId, ← authenticated, ← expires, ← otherUserId,
      ← otherAuthenticated, ← otherExpires]
    exact family.uniform id earlier other otherEarlier
      ⟨present, sameFamily.trans inFamily⟩
      ⟨otherPresent, otherSameFamily.trans otherInFamily⟩

end FamilyChain

/-! ## Rotation -/

section Rotation

variable
  {sessions : Table RefreshSession}
  {parent successor : RefreshSession}
  {now : Instant}

/-- The sessions after a rotation, by their identifiers. -/
theorem get?_rotated (id : Uuid) :
    ((sessions.put successor).put
        (parent.replacedBy successor.id now)).get? id =
      if id = parent.id then
        some (parent.replacedBy successor.id now)
      else if id = successor.id then
        some successor
      else
        sessions.get? id := by
  rw [Table.get?_put, Table.get?_put]
  rfl

/-- A rotation appends the successor to the chain of its family. -/
theorem FamilyChain.rotated
    {chain : List Uuid}
    (family : FamilyChain sessions parent.familyId chain)
    (found : sessions.get? parent.id = some parent)
    (unreplaced : parent.replacedById = none)
    (absent : sessions.get? successor.id = none)
    (newborn : successor.replacedById = none)
    (sameFamily : successor.familyId = parent.familyId)
    (sameLineage :
      successor.userId = parent.userId ∧
        successor.authenticatedAt = parent.authenticatedAt ∧
        successor.absoluteExpiresAt = parent.absoluteExpiresAt) :
    FamilyChain
      ((sessions.put successor).put (parent.replacedBy successor.id now))
      parent.familyId (chain ++ [successor.id]) := by
  have different : parent.id ≠ successor.id := Table.ne_of_get? found absent
  have parentMember : parent.id ∈ chain :=
    (family.members parent.id).mpr ⟨parent, found, rfl⟩
  have notSuccessor : ∀ id ∈ chain, id ≠ successor.id := by
    intro id inChain
    obtain ⟨session, present, _⟩ := (family.members id).mp inChain
    exact Table.ne_of_get? present absent
  -- every member agrees with the parent, the new one by construction
  have lineage :
      ∀ id session,
        IsMember
            ((sessions.put successor).put
              (parent.replacedBy successor.id now))
            parent.familyId id session →
          session.userId = parent.userId ∧
            session.authenticatedAt = parent.authenticatedAt ∧
            session.absoluteExpiresAt = parent.absoluteExpiresAt := by
    rintro id session ⟨stored, inFamily⟩
    rw [get?_rotated] at stored
    split at stored
    · obtain rfl := Option.some.inj stored
      exact ⟨rfl, rfl, rfl⟩
    · split at stored
      · obtain rfl := Option.some.inj stored
        exact sameLineage
      · exact family.uniform parent.id parent id session ⟨found, rfl⟩
          ⟨stored, inFamily⟩
  refine ⟨?_, ?_, ?_, ?_⟩
  · intro id
    rw [List.mem_append, List.mem_singleton]
    constructor
    · rintro (inChain | rfl)
      · by_cases isParent : id = parent.id
        · subst isParent
          exact ⟨parent.replacedBy successor.id now, by simp [get?_rotated],
            rfl⟩
        · obtain ⟨session, present, inFamily⟩ := (family.members id).mp inChain
          refine ⟨session, ?_, inFamily⟩
          simp [get?_rotated, isParent, notSuccessor id inChain, present]
      · exact ⟨successor, by simp [get?_rotated, different.symm], sameFamily⟩
    · rintro ⟨session, stored, inFamily⟩
      rw [get?_rotated] at stored
      split at stored
      · rename_i isParent
        subst isParent
        exact .inl parentMember
      · split at stored
        · rename_i isSuccessor
          exact .inr isSuccessor
        · exact .inl ((family.members id).mpr ⟨session, stored, inFamily⟩)
  · refine family.linked.extend parentMember ?_ ?_ ?_ ?_
    · simp [successorOf, found, unreplaced]
    · rw [successorOf, get?_rotated, if_pos rfl]
      rfl
    · simp [successorOf, get?_rotated, different.symm, newborn]
    · intro id inChain notParent
      simp [successorOf, get?_rotated, notParent, notSuccessor id inChain]
  · intro id session isHead stored
    have inChain : id ∈ chain := by
      cases chain with
      | nil =>
          exact absurd parentMember (by simp)
      | cons head rest =>
          obtain rfl := Option.some.inj isHead
          exact List.mem_cons_self
    have headOfChain : chain.head? = some id := by
      cases chain with
      | nil =>
          exact absurd parentMember (by simp)
      | cons head rest =>
          exact isHead
    rw [get?_rotated] at stored
    split at stored
    · rename_i isParent
      subst isParent
      obtain rfl := Option.some.inj stored
      exact family.root parent.id parent headOfChain found
    · rw [if_neg (notSuccessor id inChain)] at stored
      exact family.root id session headOfChain stored
  · intro id session other otherSession member otherMember
    obtain ⟨userId, authenticated, expires⟩ := lineage id session member
    obtain ⟨otherUserId, otherAuthenticated, otherExpires⟩ :=
      lineage other otherSession otherMember
    exact ⟨otherUserId.trans userId.symm,
      otherAuthenticated.trans authenticated.symm,
      otherExpires.trans expires.symm⟩

end Rotation

/-- A session that starts a family is its only member. -/
theorem FamilyChain.opened
    {sessions : Table RefreshSession}
    {session : RefreshSession}
    (fresh :
      ∀ id other, sessions.get? id = some other →
        other.familyId ≠ session.familyId)
    (newborn : session.replacedById = none)
    (authenticated : session.authenticatedAt = session.createdAt) :
    FamilyChain (sessions.put session) session.familyId [session.id] := by
  have only :
      ∀ id other,
        IsMember (sessions.put session) session.familyId id other →
          id = session.id ∧ other = session := by
    rintro id other ⟨found, inFamily⟩
    rw [Table.get?_put] at found
    split at found
    · rename_i isSession
      exact ⟨isSession, (Option.some.inj found).symm⟩
    · exact absurd inFamily (fresh id other found)
  refine ⟨?_, ?_, ?_, ?_⟩
  · intro id
    rw [List.mem_singleton]
    constructor
    · rintro rfl
      exact ⟨session, Table.get?_put_self _ _, rfl⟩
    · rintro ⟨other, member⟩
      exact (only id other member).1
  · refine .last ?_
    rw [successorOf, show session.id = key session from rfl,
      Table.get?_put_self]
    exact newborn
  · intro id other isHead found
    obtain rfl := Option.some.inj isHead
    obtain rfl := Option.some.inj
      ((Table.get?_put_self sessions session).symm.trans found)
    exact authenticated
  · intro id one other another member otherMember
    obtain ⟨_, rfl⟩ := only id one member
    obtain ⟨_, rfl⟩ := only other another otherMember
    exact ⟨rfl, rfl, rfl⟩

/-! ## Preservation -/

namespace SoundFamilies

variable
  {settings : AuthSettings}
  {core : Core}
  {sessions : Table RefreshSession}

/-- Without sessions there is nothing to chain. -/
theorem empty : SoundFamilies (∅ : Table RefreshSession) where
  used := by simp
  idle := by simp
  created := by simp
  chained := by simp

/-- Revoking sessions changes no chain. -/
theorem revise
    {property : RefreshSession → Bool}
    {now : Instant}
    (sound : SoundFamilies sessions)
    (keepsKey : ∀ row, (key (Store.revokeAt now row) : Uuid) = key row) :
    SoundFamilies
      (sessions.revise property (Store.revokeAt now) keepsKey) := by
  have keeps :
      ∀ {claim : RefreshSession → Prop},
        (∀ session, claim session → claim (Store.revokeAt now session)) →
        (∀ id session, sessions.get? id = some session → claim session) →
        ∀ id session,
          (sessions.revise property (Store.revokeAt now) keepsKey).get? id =
              some session →
            claim session := by
    intro claim stable holds id session found
    rw [Table.get?_revise, Option.map_eq_some_iff] at found
    obtain ⟨earlier, present, rfl⟩ := found
    split
    · exact stable earlier (holds id earlier present)
    · exact holds id earlier present
  exact
    { used := keeps (fun _ holds => holds) sound.used
      idle := keeps (fun _ holds => holds) sound.idle
      created := keeps (fun _ holds => holds) sound.created
      chained := by
        refine keeps (fun _ holds => holds) ?_
        intro id session found
        obtain ⟨chain, family⟩ := sound.chained id session found
        exact ⟨chain, family.revise keepsKey⟩ }

/-- Opening a session adds a chain of one. -/
theorem opened
    {session : RefreshSession}
    (sound : SoundFamilies core.sessions)
    (enabled : (Move.openSession session).Enabled settings core) :
    SoundFamilies (core.sessions.put session) := by
  obtain ⟨⟨unused, unrevoked, unreplaced, idle, created⟩, ⟨absent, _⟩, fresh,
    authenticated, _⟩ := enabled
  have only_new :
      ∀ {claim : RefreshSession → Prop},
        claim session →
        (∀ id other, core.sessions.get? id = some other → claim other) →
        ∀ id other,
          (core.sessions.put session).get? id = some other → claim other := by
    intro claim isNew holds id other found
    rw [Table.get?_put] at found
    split at found
    · obtain rfl := Option.some.inj found
      exact isNew
    · exact holds id other found
  exact
    { used := only_new (by simp [unused, unreplaced]) sound.used
      idle := only_new idle sound.idle
      created := only_new created sound.created
      chained := by
        refine only_new ⟨_, .opened fresh unreplaced authenticated⟩ ?_
        intro id other found
        obtain ⟨chain, family⟩ := sound.chained id other found
        refine ⟨chain, family.put_other (fresh id other found).symm ?_⟩
        intro old present
        rw [absent] at present
        cases present }

/-- Rotating a session extends its chain by one. -/
theorem rotated
    {parent successor : RefreshSession}
    {now : Instant}
    (sound : SoundFamilies core.sessions)
    (found : core.sessions.get? parent.id = some parent)
    (enabled : (Move.rotate parent.id successor now).Enabled settings core) :
    SoundFamilies
      ((core.sessions.put successor).put
        (parent.replacedBy successor.id now)) := by
  obtain ⟨_, user, foundToo, unused, unrevoked, _, _, _, _,
    ⟨newUnused, _, newUnreplaced, newIdle, newCreated⟩, ⟨absent, _⟩, sameUser,
    sameFamily, _, sameDeadline, sameAuthentication⟩ := enabled
  obtain rfl := Option.some.inj (found.symm.trans foundToo)
  have unreplaced : parent.replacedById = none :=
    (sound.used parent.id parent found).mp unused
  have each :
      ∀ {claim : RefreshSession → Prop},
        claim (parent.replacedBy successor.id now) →
        claim successor →
        (∀ id other, core.sessions.get? id = some other → claim other) →
        ∀ id other,
          ((core.sessions.put successor).put
              (parent.replacedBy successor.id now)).get? id = some other →
            claim other := by
    intro claim isParent isSuccessor holds id other stored
    rw [get?_rotated] at stored
    split at stored
    · obtain rfl := Option.some.inj stored
      exact isParent
    · split at stored
      · obtain rfl := Option.some.inj stored
        exact isSuccessor
      · exact holds id other stored
  have extended :
      ∃ chain,
        FamilyChain
          ((core.sessions.put successor).put
            (parent.replacedBy successor.id now))
          parent.familyId chain := by
    obtain ⟨chain, family⟩ := sound.chained parent.id parent found
    exact ⟨_, family.rotated found unreplaced absent newUnreplaced sameFamily
      ⟨sameUser, sameAuthentication, sameDeadline⟩⟩
  exact
    { used :=
        each (by simp [RefreshSession.replacedBy])
          (by simp [newUnused, newUnreplaced]) sound.used
      idle := each (sound.idle parent.id parent found) newIdle sound.idle
      created :=
        each (sound.created parent.id parent found) newCreated sound.created
      chained := by
        refine each extended (sameFamily ▸ extended) ?_
        intro id other stored
        by_cases inFamily : other.familyId = parent.familyId
        · rw [inFamily]
          exact extended
        · obtain ⟨chain, family⟩ := sound.chained id other stored
          have outside : successor.familyId ≠ other.familyId := by
            rw [sameFamily]
            exact fun same => inFamily same.symm
          have inserted :
              FamilyChain (core.sessions.put successor) other.familyId
                chain := by
            refine family.put_other outside ?_
            intro old present
            rw [absent] at present
            cases present
          refine ⟨chain, inserted.put_other
            (fun same => inFamily same.symm) ?_⟩
          intro old present
          have different : parent.id ≠ successor.id :=
            Table.ne_of_get? found absent
          rw [show (parent.replacedBy successor.id now).id = parent.id from rfl,
            Table.get?_put_of_ne _ different, found] at present
          obtain rfl := Option.some.inj present
          exact fun same => inFamily same.symm }

/-- Every change of the sessions keeps the families sound. -/
theorem step
    (sound : SoundFamilies core.sessions)
    (taken : SessionStep settings core sessions) :
    SoundFamilies sessions := by
  cases taken with
  | kept => exact sound
  | revoked property keepsKey _ => exact sound.revise keepsKey
  | opened enabled => exact sound.opened enabled
  | rotated found enabled => exact sound.rotated found enabled

end SoundFamilies

/-- The families of every reachable store are sound. -/
theorem ServiceReachable.soundFamilies
    {env : Environment}
    {store : Store}
    (reachable : ServiceReachable env store) :
    SoundFamilies store.sessions := by
  obtain ⟨labels, run⟩ := reachable
  refine ServiceRun.preserves_core run
    (fun core => SoundFamilies core.sessions) ?_ SoundFamilies.empty
  intro move core enabled sound
  exact sound.step (Move.sessionStep enabled)

end EpokAuth
