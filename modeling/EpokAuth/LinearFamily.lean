import EpokAuth.RefreshFamily
import EpokAuth.ScriptedRun

namespace EpokAuth

open Transactional

/-!
# Linear families with a fixed deadline

What a sound chain says about a family, and what successful refreshes can and
cannot do to it.
-/

/-- A family in which one token can still rotate and nothing can be extended. -/
structure LinearFamily
    (sessions : Table RefreshSession)
    (familyId : Uuid) :
    Prop where
  chained :
    ∃ chain : List Uuid,
      chain.Nodup ∧
        (∀ id,
          id ∈ chain ↔
            ∃ session, IsMember sessions familyId id session) ∧
        SuccessorChain (successorOf sessions) chain
  oneUnused :
    ∃! id, ∃ session,
      IsMember sessions familyId id session ∧ session.usedAt = none
  usedIff :
    ∀ id session, IsMember sessions familyId id session →
      (session.usedAt ≠ none ↔ session.replacedById ≠ none)
  injective :
    ∀ id session other otherSession successor,
      IsMember sessions familyId id session →
      IsMember sessions familyId other otherSession →
      session.replacedById = some successor →
      otherSession.replacedById = some successor →
      id = other
  closed :
    ∀ id session successor,
      IsMember sessions familyId id session →
      session.replacedById = some successor →
      ∃ next, IsMember sessions familyId successor next
  uniform :
    ∀ id session other otherSession,
      IsMember sessions familyId id session →
      IsMember sessions familyId other otherSession →
      otherSession.userId = session.userId ∧
        otherSession.authenticatedAt = session.authenticatedAt ∧
        otherSession.absoluteExpiresAt = session.absoluteExpiresAt
  rooted :
    ∃ id root,
      IsMember sessions familyId id root ∧
        root.authenticatedAt = root.createdAt ∧
        ∀ other session, IsMember sessions familyId other session →
          session.replacedById ≠ some id
  deadlines :
    ∀ id session, IsMember sessions familyId id session →
      session.idleExpiresAt ≤ session.absoluteExpiresAt ∧
        session.createdAt < session.absoluteExpiresAt

/-- The replacement named by a member of a family. -/
theorem IsMember.successorOf_eq
    {sessions : Table RefreshSession}
    {familyId id : Uuid}
    {session : RefreshSession}
    (member : IsMember sessions familyId id session) :
    successorOf sessions id = session.replacedById := by
  rw [successorOf, member.1]
  rfl

/-- A family of sound sessions is linear. -/
theorem SoundFamilies.linear
    {sessions : Table RefreshSession}
    {familyId : Uuid}
    (sound : SoundFamilies sessions)
    (inhabited : ∃ id session, IsMember sessions familyId id session) :
    LinearFamily sessions familyId := by
  obtain ⟨first, firstSession, firstFound, rfl⟩ := inhabited
  obtain ⟨chain, family⟩ := sound.chained first firstSession firstFound
  have inChain :
      ∀ {id session},
        IsMember sessions firstSession.familyId id session → id ∈ chain :=
    fun member => (family.members _).mpr ⟨_, member⟩
  exact
    { chained := ⟨chain, family.linked.nodup, family.members, family.linked⟩
      oneUnused := by
        obtain ⟨final, member, ends⟩ := family.linked.exists_end
        obtain ⟨session, isMember⟩ := (family.members final).mp member
        have unused : session.usedAt = none := by
          rw [sound.used final session isMember.1, ← isMember.successorOf_eq]
          exact ends
        refine ⟨final, ⟨session, isMember, unused⟩, ?_⟩
        rintro other ⟨otherSession, otherMember, otherUnused⟩
        refine family.linked.end_unique (inChain otherMember) ?_ member ends
        rw [otherMember.successorOf_eq]
        exact (sound.used other otherSession otherMember.1).mp otherUnused
      usedIff := fun id session member =>
        not_congr (sound.used id session member.1)
      injective := by
        intro id session other otherSession successor member otherMember names
          otherNames
        exact family.linked.next_injective (inChain member)
          (member.successorOf_eq.trans names) (inChain otherMember)
          (otherMember.successorOf_eq.trans otherNames)
      closed := by
        intro id session successor member names
        exact (family.members successor).mp
          (family.linked.mem_of_next (inChain member)
            (member.successorOf_eq.trans names))
      uniform := family.uniform
      rooted := by
        cases chain with
        | nil =>
            exact absurd (inChain ⟨firstFound, rfl⟩) (by simp)
        | cons head rest =>
            obtain ⟨root, isRoot⟩ := (family.members head).mp (by simp)
            refine ⟨head, root, isRoot,
              family.root head root rfl isRoot.1, ?_⟩
            intro other session member names
            exact family.linked.next_ne_root (inChain member)
              (member.successorOf_eq.trans names)
      deadlines := fun id session member =>
        ⟨sound.idle id session member.1, sound.created id session member.1⟩ }

/-! ## Successful refreshes -/

/-- A refresh of the token succeeds on the store. -/
def RefreshSucceeds
    (env : Environment)
    (store : Store)
    (refreshToken : String) :
    Prop :=
  ∃ csrfCookie now context draws bundle later,
    (ServiceTx.refresh refreshToken csrfCookie now context draws).execute env
        store =
      (.ok (.ok bundle), later)

/-- A successful refresh rotates the unused session of its token. -/
theorem refresh_rotates
    {env : Environment}
    {store later : Store}
    {refreshToken csrfCookie : String}
    {now : Instant}
    {context : RequestContext}
    {draws : SessionDraws}
    {bundle : SessionBundle}
    (executes :
      (ServiceTx.refresh refreshToken csrfCookie now context draws).execute
          env store =
        (.ok (.ok bundle), later)) :
    ∃ session successor,
      store.sessions.get? session.id = some session ∧
        session.tokenHash = env.tokenHash refreshToken ∧
        (Move.rotate session.id successor now).Enabled env.settings
          store.toCore ∧
        later.toCore =
          (Move.rotate session.id successor now).perform env.settings
            store.toCore := by
  have outcome :
      Tx.wp
        ((ServiceTx.refresh refreshToken csrfCookie now context draws).body
          env)
        (fun answer later =>
          ∀ bundle, answer = .ok bundle →
            ∃ session successor,
              store.sessions.get? session.id = some session ∧
                session.tokenHash = env.tokenHash refreshToken ∧
                Performs env.settings store.toCore
                  [.rotate session.id successor now] later.toCore)
        (fun _ _ => True) store := by
    refine wp_refresh_committed ?_ ?_ ?_
    · intro failure later _ bundle impossible
      cases impossible
    · intro failure session later _ _ _ _ bundle impossible
      cases impossible
    · intro bundle session successor later found matched performs _ _
      exact ⟨session, successor, found, matched, performs⟩
  rcases ServiceTx.execute_of_wp outcome with
    ⟨answer, after, executesToo, rotates⟩ | ⟨failure, raises⟩
  · rw [executes] at executesToo
    obtain ⟨sameAnswer, rfl⟩ := Prod.mk.inj executesToo
    obtain ⟨session, successor, found, matched, enabled, performed⟩ :=
      rotates bundle (Except.ok.inj sameAnswer).symm
    exact ⟨session, successor, found, matched, enabled, performed⟩
  · rw [executes] at raises
    cases (Prod.mk.inj raises).1

/--
In every reachable store the sessions of a family form one chain, no later
member has another authentication or deadline, and the tokens of a family that
can still be refreshed are one.
-/
theorem families_linear_of_reachable
    {env : Environment}
    {store : Store}
    {familyId id : Uuid}
    {session : RefreshSession}
    (reachable : ServiceReachable env store)
    (member : IsMember store.sessions familyId id session) :
    LinearFamily store.sessions familyId ∧
      (∀ later labels other otherSession,
        ServiceRun env store labels later →
        IsMember later.sessions familyId other otherSession →
        otherSession.absoluteExpiresAt = session.absoluteExpiresAt ∧
          otherSession.authenticatedAt = session.authenticatedAt) ∧
      ∀ first second firstId secondId firstSession secondSession,
        RefreshSucceeds env store first →
        RefreshSucceeds env store second →
        IsMember store.sessions familyId firstId firstSession →
        IsMember store.sessions familyId secondId secondSession →
        firstSession.tokenHash = env.tokenHash first →
        secondSession.tokenHash = env.tokenHash second →
        env.tokenHash first = env.tokenHash second := by
  have linear := (ServiceReachable.soundFamilies reachable).linear
    ⟨id, session, member⟩
  refine ⟨linear, ?_, ?_⟩
  · intro later labels other otherSession run otherMember
    obtain ⟨after, found, continues⟩ :=
      ServiceRun.sessionsContinue run id session member.1
    have afterMember : IsMember later.sessions familyId id after :=
      member.continues found continues
    have laterLinear :=
      (ServiceReachable.soundFamilies (reachable.extend run)).linear
        ⟨id, after, afterMember⟩
    obtain ⟨_, authenticated, expires⟩ :=
      laterLinear.uniform id after other otherSession afterMember otherMember
    exact ⟨expires.trans
        (continues.same RefreshSession.absoluteExpiresAt fun _ _ _ _ => rfl),
      authenticated.trans
        (continues.same RefreshSession.authenticatedAt fun _ _ _ _ => rfl)⟩
  · intro first second firstId secondId firstSession secondSession
      firstSucceeds secondSucceeds firstMember secondMember firstToken
      secondToken
    obtain ⟨final, _, onlyFinal⟩ := linear.oneUnused
    have isFinal :
        ∀ {token memberId memberSession},
          RefreshSucceeds env store token →
          IsMember store.sessions familyId memberId memberSession →
          memberSession.tokenHash = env.tokenHash token →
          memberId = final := by
      rintro token memberId memberSession
        ⟨csrfCookie, now, context, draws, bundle, later, executes⟩ isMember
        hasToken
      obtain ⟨rotated, _, found, matched, enabled, _⟩ :=
        refresh_rotates executes
      obtain ⟨_, _, foundToo, unused, _⟩ := enabled
      obtain rfl := Option.some.inj (found.symm.trans foundToo)
      have same : memberId = rotated.id :=
        reachable.distinctTokens memberId memberSession rotated.id rotated
          isMember.1 found (hasToken.trans matched.symm)
      subst same
      obtain rfl := Option.some.inj (found.symm.trans isMember.1)
      exact onlyFinal rotated.id ⟨rotated, isMember, unused⟩
    have firstIsFinal := isFinal firstSucceeds firstMember firstToken
    have secondIsFinal := isFinal secondSucceeds secondMember secondToken
    subst firstIsFinal
    subst secondIsFinal
    obtain rfl := Option.some.inj (firstMember.1.symm.trans secondMember.1)
    exact firstToken.symm.trans secondToken

/-- An account whose session has been refreshed twice. -/
def twiceRefreshed : List ServiceTx :=
  [ .createUser 1 "user@example.test" "User" "password" [] [] false 0 {},
    .login "user@example.test" "password" 10 {} 0
      { sessionId := 2, familyId := 3, refreshToken := "first"
        csrfToken := "csrf", tokenId := 4 },
    .refresh "first" "csrf" 20 {}
      { sessionId := 5, familyId := 6, refreshToken := "second"
        csrfToken := "csrf", tokenId := 7 },
    .refresh "second" "csrf" 30 {}
      { sessionId := 8, familyId := 9, refreshToken := "third"
        csrfToken := "csrf", tokenId := 10 } ]

/-- The family of an account whose session has been refreshed twice. -/
theorem families_linear_twiceRefreshed :
    LinearFamily
        (executeAll referenceEnvironment twiceRefreshed {}).2.sessions 3 ∧
      (successorOf
          (executeAll referenceEnvironment twiceRefreshed {}).2.sessions 2 =
        some 5 ∧
      successorOf
          (executeAll referenceEnvironment twiceRefreshed {}).2.sessions 5 =
        some 8) := by
  have stored :
      ∃ session,
        IsMember (executeAll referenceEnvironment twiceRefreshed {}).2.sessions
          3 2 session := by
    refine ⟨((executeAll referenceEnvironment twiceRefreshed
      {}).2.sessions.get? 2).get (by decide), by simp, by decide⟩
  obtain ⟨session, member⟩ := stored
  exact ⟨(families_linear_of_reachable
    (reachable_executeAll (by decide)) member).1, by decide, by decide⟩

end EpokAuth
