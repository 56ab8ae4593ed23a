import EpokAuth.SecurityVersion

namespace EpokAuth

open Transactional

/-!
# The versions of links

A link keeps the account and the version it was issued with.  It becomes
active, or consumed, only while its account still has that version.
-/

/-- The states of a link that was delivered, or consumed. -/
def EmailLinkState.Used (state : EmailLinkState) : Prop :=
  state = .active ∨ state = .consumed

/--
Where the row of a link after a transaction comes from: the transaction issued
it, or it was there with its account and version, and it was delivered or
consumed only while its account had no later version.
-/
def LinkTraced
    (tx : ServiceTx)
    (linkId : Uuid)
    (earlier later : Core) :
    Prop :=
  ∀ link, later.links.get? linkId = some link →
    tx.issuing = some linkId ∨
      ∃ before,
        earlier.links.get? linkId = some before ∧
          before.userId = link.userId ∧
          before.securityVersion = link.securityVersion ∧
          (link.state.Used →
            before.state = link.state ∨
              ∀ user, earlier.users.get? link.userId = some user →
                user.securityVersion ≤ link.securityVersion)

/-- The versions of accounts grow, and the row of a link is traced. -/
structure LinkTrace
    (tx : ServiceTx)
    (linkId : Uuid)
    (earlier later : Core) :
    Prop where
  versions : ∀ userId, Versioned True userId earlier later
  traced : LinkTraced tx linkId earlier later

namespace LinkTrace

variable
  {tx : ServiceTx}
  {linkId : Uuid}

theorem refl (core : Core) : LinkTrace tx linkId core core where
  versions := fun _ => .refl core
  traced := fun link found => .inr ⟨link, found, rfl, rfl, fun _ => .inl rfl⟩

theorem trans
    {first second third : Core}
    (earlier : LinkTrace tx linkId first second)
    (later : LinkTrace tx linkId second third) :
    LinkTrace tx linkId first third where
  versions := fun userId => (earlier.versions userId).trans (later.versions userId)
  traced := by
    intro link found
    rcases later.traced link found with
      issued | ⟨middle, foundMiddle, owner, version, used⟩
    · exact .inl issued
    rcases earlier.traced middle foundMiddle with
      issued | ⟨before, foundBefore, firstOwner, firstVersion, firstUsed⟩
    · exact .inl issued
    right
    refine ⟨before, foundBefore, firstOwner.trans owner,
      firstVersion.trans version, ?_⟩
    intro isUsed
    rcases used isUsed with sameState | current
    · -- the link was used already, so the first part decides
      rw [← sameState] at isUsed ⊢
      rw [← owner, ← version]
      exact firstUsed isUsed
    · right
      intro user account
      rcases (earlier.versions link.userId).mono account with
        ⟨after, foundAfter, grew⟩
      exact grew.trans (current after foundAfter)

end LinkTrace

variable
  {settings : AuthSettings}
  {core : Core}

/-- Every enabled move of a transaction traces every link. -/
theorem Move.linkTraced
    {tx : ServiceTx}
    {move : Move}
    (enabled : move.Enabled settings core)
    (made : move.MadeBy tx)
    (linkId : Uuid) :
    LinkTraced tx linkId core (move.perform settings core) := by
  intro link found
  have linkKey : link.id = linkId := Table.key_of_get? found
  have taken := Move.linkStep enabled linkId
  rw [found] at taken
  generalize row : some link = after at taken
  cases taken with
  | kept =>
      exact .inr ⟨link, row.symm, rfl, rfl, fun _ => .inl rfl⟩
  | removed =>
      cases row
  | issued absent pending account current =>
      obtain rfl := Option.some.inj row
      left
      rw [← linkKey]
      exact made
  | @closed _ before closed foundBefore _ state same =>
      obtain rfl := Option.some.inj row
      right
      refine ⟨before, foundBefore, by rw [same], by rw [same], ?_⟩
      rintro (isActive | isConsumed)
      · simp [isActive] at state
      · simp [isConsumed] at state
  | @activated _ before user now foundBefore pending account current =>
      obtain rfl := Option.some.inj row
      right
      refine ⟨before, foundBefore, rfl, rfl, fun _ => .inr ?_⟩
      intro owner foundOwner
      obtain rfl := Option.some.inj (account.symm.trans foundOwner)
      exact current.ge
  | @consumed _ before user now foundBefore active account current =>
      obtain rfl := Option.some.inj row
      right
      refine ⟨before, foundBefore, rfl, rfl, fun _ => .inr ?_⟩
      intro owner foundOwner
      obtain rfl := Option.some.inj (account.symm.trans foundOwner)
      exact current.ge

/-- Every step of a run traces every link. -/
theorem ServiceStep.linkTrace
    {env : Environment}
    {before after : Store}
    {executed : Executed}
    (step : ServiceStep env before executed after)
    (linkId : Uuid) :
    LinkTrace executed.tx linkId before.toCore after.toCore := by
  rcases step.effect with ⟨moves, effect⟩
  refine effect.performs.relates (LinkTrace executed.tx linkId)
    LinkTrace.refl (fun _ _ _ earlier later => earlier.trans later) ?_
  intro move member state enabled
  exact
    { versions := fun _ => Move.versioned enabled fun _ _ _ _ _ _ => trivial
      traced := Move.linkTraced enabled (effect.made move member) linkId }

/-! ## No link is ahead of its account -/

/-- Every link belongs to an account whose version is its own or a later one. -/
def LinkVersions (core : Core) : Prop :=
  ∀ id link, core.links.get? id = some link →
    ∃ user,
      core.users.get? link.userId = some user ∧
        link.securityVersion ≤ user.securityVersion

/-- Every enabled move keeps the links behind their accounts. -/
theorem LinkVersions.move
    {move : Move}
    (versions : LinkVersions core)
    (enabled : move.Enabled settings core) :
    LinkVersions (move.perform settings core) := by
  intro id link found
  have grows : Versioned True link.userId core (move.perform settings core) :=
    Move.versioned enabled fun _ _ _ _ _ _ => trivial
  have behind :
      ∃ user,
        core.users.get? link.userId = some user ∧
          link.securityVersion ≤ user.securityVersion := by
    have taken := Move.linkStep enabled id
    rw [found] at taken
    generalize row : some link = after at taken
    cases taken with
    | kept =>
        exact versions id link row.symm
    | removed =>
        cases row
    | issued absent pending account current =>
        obtain rfl := Option.some.inj row
        exact ⟨_, account, current.le⟩
    | @closed _ before closed foundBefore _ state same =>
        obtain rfl := Option.some.inj row
        rw [same]
        exact versions id before foundBefore
    | activated foundBefore pending account current =>
        obtain rfl := Option.some.inj row
        exact ⟨_, account, current.le⟩
    | consumed foundBefore active account current =>
        obtain rfl := Option.some.inj row
        exact ⟨_, account, current.le⟩
  rcases behind with ⟨user, account, version⟩
  rcases grows.mono account with ⟨after, foundAfter, grew⟩
  exact ⟨after, foundAfter, version.trans grew⟩

/-- In every reachable store no link is ahead of its account. -/
theorem ServiceReachable.linkVersions
    {env : Environment}
    {store : Store}
    (reachable : ServiceReachable env store) :
    LinkVersions store.toCore := by
  rcases reachable with ⟨labels, run⟩
  refine ServiceRun.preserves_core run LinkVersions
    (fun _ _ enabled versions => versions.move enabled) ?_
  intro id link found
  cases found

end EpokAuth
