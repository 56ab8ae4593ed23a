import EpokAuth.LinkDiscipline

namespace EpokAuth

open Transactional

/-!
# What the discipline of links protects

Permitted statements write only what the rules grant, and keep every view sane;
so does merging.  All links of one account in a merged view come from one of
the two sides, because only one of them held the account.
-/

variable
  {env : Environment}
  {book : Uuid → EmailLink}
  {call : ServiceTx}
  {standing : ServiceStanding}
  {locks : List (Lock Resource)}
  {store view later base first second merged : Store}

/-! ## Writes that are granted -/

/-- No write removes an account. -/
theorem userStays_of_write
    (write : Write)
    (store : Store)
    (id : Uuid) :
    UserStays (store.users.get? id) ((Store.apply write store).users.get? id) := by
  intro found
  cases write with
  | putUser user =>
      change ((store.users.put user).get? id).isSome = true
      rw [Table.get?_put]
      split
      · rfl
      · exact found
  | _ => exact found

/-- A write is granted that spares the links of accounts that are not locked. -/
theorem link_granted
    {write : Write}
    (spares :
      ∀ userId, ¬ Locked locks (.user userId) → ∀ id,
        LinkSpared userId (store.links.get? id)
          ((Store.apply write store).links.get? id)) :
    linkRules.protection.Granted locks store (Store.apply write store) := by
  refine RowRules.granted_of_rows ?_ ?_
  · intro row
    cases row with
    | user id => exact userStays_of_write write store id
    | _ => trivial
  · intro resource free row
    cases resource with
    | user userId =>
        cases row with
        | link id => exact spares userId free id
        | _ => trivial
    | _ => trivial

/-- A write of another table is granted to everybody. -/
theorem link_granted_of_elsewhere
    {write : Write}
    (elsewhere :
      (∀ link, write ≠ .putLink link) ∧
        ∀ linkId, write ≠ .eraseLink linkId) :
    linkRules.protection.Granted locks store (Store.apply write store) := by
  have same : (Store.apply write store).links = store.links := by
    cases write with
    | putLink link => exact absurd rfl (elsewhere.1 link)
    | eraseLink linkId => exact absurd rfl (elsewhere.2 linkId)
    | _ => rfl
  refine link_granted fun userId _ id => ?_
  rw [same]
  exact .refl _

theorem link_granted_put
    {link : EmailLink}
    (spared :
      ∀ userId, ¬ Locked locks (.user userId) →
        LinkSpared userId (store.links.get? link.id) (some link)) :
    linkRules.protection.Granted locks store
      (Store.apply (.putLink link) store) := by
  refine link_granted fun userId free id => ?_
  change LinkSpared userId _ ((store.links.put link).get? id)
  rw [Table.get?_put]
  split
  · rename_i isLink
    exact isLink ▸ spared userId free
  · exact .refl _

/-- A link is written by who locks its account. -/
theorem link_granted_put_of_locked
    {link : EmailLink}
    (owner : Locked locks (.user link.userId))
    (kept :
      ∀ before, store.links.get? link.id = some before →
        before.userId = link.userId) :
    linkRules.protection.Granted locks store
      (Store.apply (.putLink link) store) := by
  refine link_granted_put fun userId free => ?_
  have other : link.userId ≠ userId := fun same => free (same ▸ owner)
  refine .of_other ?_ ?_
  · intro before found
    rw [kept before found]
    exact other
  · intro after found
    obtain rfl := Option.some.inj found
    exact other

/-- Everybody may remove a link. -/
theorem link_granted_erase
    {linkId : Uuid} :
    linkRules.protection.Granted locks store
      (Store.apply (.eraseLink linkId) store) := by
  refine link_granted fun userId _ id => ?_
  change LinkSpared userId _ ((store.links.erase linkId).get? id)
  rw [Table.get?_erase]
  split
  · exact .gone rfl
  · exact .refl _

/-- A change of a link that is seen is granted to who locks its account. -/
theorem link_granted_move
    {link after : EmailLink}
    (found : store.links.get? link.id = some link)
    (moves : link.Moves after)
    (owner : Locked locks (.user link.userId)) :
    linkRules.protection.Granted locks store
      (Store.apply (.putLink after) store) := by
  have same := moves.asIssued_eq
  have sameOwner := EmailLink.of_asIssued EmailLink.userId (fun _ => rfl) same
  refine link_granted_put_of_locked (sameOwner ▸ owner) ?_
  intro before isBefore
  rw [EmailLink.of_asIssued EmailLink.id (fun _ => rfl) same, found] at isBefore
  obtain rfl := Option.some.inj isBefore
  exact sameOwner.symm

/-- A failed delivery is granted to everybody. -/
theorem link_granted_fail
    {link : EmailLink}
    {now : Instant}
    (found : store.links.get? link.id = some link)
    (pending : link.state = .pending) :
    linkRules.protection.Granted locks store
      (Store.apply (.putLink (Store.failLinkAt now link)) store) := by
  refine link_granted_put fun userId _ => ?_
  change LinkSpared userId (store.links.get? link.id) _
  rw [found]
  by_cases owned : link.userId = userId
  · exact .failed now pending (ownLink_eq_some_iff.mpr ⟨rfl, owned⟩)
      (ownLink_eq_some_iff.mpr ⟨rfl, owned⟩)
  · refine .of_other ?_ ?_
    · intro before isBefore
      obtain rfl := Option.some.inj isBefore
      exact owned
    · intro after isAfter
      obtain rfl := Option.some.inj isAfter
      exact owned

/-- What is held of a link is seen of the row under its identifier. -/
theorem HoldsBoth.found
    {link : EmailLink}
    {user : UserAccount}
    (holds : HoldsBoth standing link user) :
    standing.view.links.get? link.id = some link :=
  holds.holdsLink.seen

theorem HoldsBoth.locked
    {link : EmailLink}
    {user : UserAccount}
    (holds : HoldsBoth standing link user) :
    Locked standing.locks (.user link.userId) :=
  holds.owner ▸ holds.holdsUser.locked

/-- The link that is revoked is held with its account. -/
theorem Retires.holds
    {linkId : Uuid}
    {now : Instant}
    (retires : Retires env call standing linkId now) :
    ∃ link user, link.id = linkId ∧ HoldsBoth standing link user := by
  rcases retires with
    ⟨_, link, user, same, holds⟩ | ⟨_, link, user, same, _, dismisses⟩
  · exact ⟨link, user, same, holds⟩
  · exact ⟨link, user, same, dismisses.holds⟩

/-- What moves a link is permitted to who locks its account, or a failure. -/
theorem link_granted_of_moves
    {statement : Statement}
    {link after : EmailLink}
    (held : standing.locks ⊆ locks)
    (permitted : linkPermits env call standing statement)
    (found : view.links.get? link.id = some link)
    (sees :
      ∀ locks effect, Store.execution statement = .point locks effect →
        view = standing.view)
    (moves : statement.MovesLink link after) :
    linkRules.protection.Granted locks view
      (Store.apply (.putLink after) view) := by
  -- The link that is held is the one that is found.
  have moved :
      ∀ {heldLink : EmailLink} {user : UserAccount},
        view = standing.view →
        HoldsBoth standing heldLink user →
        link.id = heldLink.id →
        linkRules.protection.Granted locks view
          (Store.apply (.putLink after) view) := by
    rintro heldLink user rfl holds same
    rw [same, holds.found] at found
    obtain rfl := Option.some.inj found
    exact link_granted_move holds.found moves.moves (holds.locked.mono held)
  cases statement with
  | activateEmailLink linkId now =>
      obtain ⟨delivered, user, isLink, delivers⟩ := permitted
      exact moved (sees _ _ rfl) delivers.holds (moves.1.trans isLink.symm)
  | failEmailLink linkId now =>
      obtain ⟨_, pending, rfl⟩ := moves
      exact link_granted_fail found pending
  | revokeEmailLink linkId now =>
      obtain ⟨retired, user, isLink, holds⟩ := Retires.holds permitted
      exact moved (sees _ _ rfl) holds (moves.1.trans isLink.symm)
  | consumeEmailLink linkId purpose now =>
      obtain ⟨presentation, redeemed, user, isLink, _, _, redeems⟩ := permitted
      exact moved (sees _ _ rfl) redeems.holds (moves.1.trans isLink.symm)
  | revokeOtherActiveEmailLinks userId purpose linkId now =>
      obtain ⟨replacing, rfl, rfl, rfl, replaces⟩ := permitted
      have other := moves.1
      simp only [Store.isOtherActive, Store.requestedFor, Bool.and_eq_true,
        decide_eq_true_eq] at other
      exact link_granted_move found moves.moves
        (other.1.1.1 ▸ replaces.owner.mono held)
  | _ => exact moves.elim

/-- The one link that a permitted statement may write is granted. -/
theorem link_granted_of_mayWrite
    {statement : Statement}
    {write : Write}
    (held : standing.locks ⊆ locks)
    (permitted : linkPermits env call standing statement)
    (sees :
      ∀ locks effect, Store.execution statement = .point locks effect →
        view = standing.view)
    (may : statement.MayWriteLink view write) :
    linkRules.protection.Granted locks view (Store.apply write view) := by
  cases may with
  | elsewhere leaves =>
      exact link_granted_of_elsewhere leaves
  | @inserts link issues absent puts =>
      subst issues puts
      obtain rfl := sees _ _ rfl
      obtain ⟨user, purpose, latest, now, browserNonce, draws, issues⟩ :=
        permitted
      have owner : Locked standing.locks (.user link.userId) := by
        rw [issues.link_eq]
        exact issues.owner.locked
      refine link_granted_put_of_locked (owner.mono held) ?_
      intro before found
      rw [absent] at found
      cases found
  | moves found moves puts =>
      subst puts
      exact link_granted_of_moves held permitted found sees moves
  | removes found old removes erases =>
      subst erases
      exact link_granted_erase

/-- Permitted statements write only what their clients may write. -/
theorem linkDiscipline_protects :
    Protection.Protects (linkProtection env) (linkPermits env)
      (LinksSane book) where
  point := by
    intro call standing statement locks effect executes permitted _
    have writes := Store.execution_writesLinks statement
    have isPoint : Store.execution statement = .point locks effect := executes
    rw [isPoint] at writes
    exact (writes standing.view).apply_cases (.refl _ _)
      fun write may =>
        link_granted_of_mayWrite (List.subset_append_left _ _) permitted
          (fun _ _ _ => rfl) may
  visit := by
    intro call standing gained statement targets lock touch answer target view
      executes permitted _
    have writes := Store.execution_writesLinks statement
    have isSweep :
        Store.execution statement = .sweep targets lock touch answer :=
      executes
    rw [isSweep] at writes
    have held : standing.locks ⊆ standing.locks ++ gained ++ [lock target] :=
      List.subset_append_of_subset_left _ (List.subset_append_left _ _)
    refine (writes target view).apply_cases (.refl _ _) fun write may =>
      link_granted_of_mayWrite held permitted ?_ may
    intro locks effect isPoint
    rw [isSweep] at isPoint
    cases isPoint

/-! ## Sane views -/

/-- A row of a link comes from another store, where it was issued the same. -/
def LinkTracedTo (store : Store) (id : Uuid) (link : EmailLink) : Prop :=
  ∃ before,
    store.links.get? id = some before ∧ before.asIssued = link.asIssued ∧
      (link.state.Unused → before = link)

theorem LinkTracedTo.refl
    {id : Uuid}
    {link : EmailLink}
    (found : store.links.get? id = some link) :
    LinkTracedTo store id link :=
  ⟨link, found, rfl, fun _ => rfl⟩

/-- Links that come from a sane store are sane while accounts stay. -/
theorem LinksSane.of_traced
    (sane : LinksSane book store)
    (stays :
      ∀ id, UserStays (store.users.get? id) (later.users.get? id))
    (traced :
      ∀ id link, later.links.get? id = some link →
        ∃ before,
          store.links.get? id = some before ∧
            before.asIssued = link.asIssued) :
    LinksSane book later where
  issued := by
    intro id link found
    rcases traced id link found with ⟨before, foundBefore, same⟩
    rw [← same]
    exact sane.issued id before foundBefore
  owned := by
    intro id link found
    rcases traced id link found with ⟨before, foundBefore, same⟩
    rw [← EmailLink.of_asIssued EmailLink.userId (fun _ => rfl) same]
    exact stays _ (sane.owned id before foundBefore)
  generations := by
    intro id other link another found foundToo user purpose generation
    rcases traced id link found with ⟨before, foundBefore, same⟩
    rcases traced other another foundToo with ⟨beforeToo, foundBeforeToo, sameToo⟩
    refine sane.generations id other before beforeToo foundBefore
      foundBeforeToo ?_ ?_ ?_
    · rw [EmailLink.of_asIssued EmailLink.userId (fun _ => rfl) same,
        EmailLink.of_asIssued EmailLink.userId (fun _ => rfl) sameToo, user]
    · rw [EmailLink.of_asIssued EmailLink.purpose (fun _ => rfl) same,
        EmailLink.of_asIssued EmailLink.purpose (fun _ => rfl) sameToo, purpose]
    · rw [EmailLink.of_asIssued EmailLink.generation (fun _ => rfl) same,
        EmailLink.of_asIssued EmailLink.generation (fun _ => rfl)
          sameToo, generation]

/-- A statement of a permitted book: links are issued as it says. -/
def LinkAdmitted (book : Uuid → EmailLink) : Statement → Prop
  | .insertEmailLink link => link = book link.id
  | _ => True

/-- A link that is issued as permitted is sane. -/
theorem LinksSane.of_issued
    {user : UserAccount}
    {purpose : EmailLinkPurpose}
    {latest : Option EmailLink}
    {now : Instant}
    {browserNonce : Option String}
    {draws : LinkDraws}
    {link : EmailLink}
    (sane : LinksSane book standing.view)
    (admitted : link = book link.id)
    (issues :
      Issues env call standing user purpose latest now browserNonce draws
        link) :
    LinksSane book (Store.apply (.putLink link) standing.view) := by
  have isIssued : link.asIssued = link := by
    rw [issues.link_eq]
    rfl
  have owner : link.userId = user.id := by
    rw [issues.link_eq]
    rfl
  have isPurpose : link.purpose = purpose := by
    rw [issues.link_eq]
    rfl
  have row :
      ∀ id, (Store.apply (.putLink link) standing.view).links.get? id =
        if id = link.id then some link else standing.view.links.get? id :=
    fun id => Table.get?_put standing.view.links link id
  -- Every other link of the account and purpose is of a lower generation.
  have above :
      ∀ id other,
        standing.view.links.get? id = some other →
        other.userId = link.userId →
        other.purpose = link.purpose →
        other.generation < link.generation := by
    intro id other found sameUser samePurpose
    refine issues.above id other found ?_
    simp [Store.requestedFor, sameUser, samePurpose, owner, isPurpose]
  refine ⟨?_, ?_, ?_⟩
  · intro id other found
    rw [row] at found
    split at found
    · rename_i isId
      obtain rfl := Option.some.inj found
      rw [isIssued, isId]
      exact admitted
    · exact sane.issued id other found
  · intro id other found
    rw [row] at found
    split at found
    · obtain rfl := Option.some.inj found
      have seen : standing.view.users.get? user.id = some user :=
        issues.owner.seen
      change (standing.view.users.get? link.userId).isSome = true
      rw [owner, seen]
      rfl
    · exact sane.owned id other found
  · intro id other first second found foundToo sameUser samePurpose same
    rw [row] at found foundToo
    split at found
    · rename_i isId
      obtain rfl := Option.some.inj found
      split at foundToo
      · rename_i isIdToo
        exact isId.trans isIdToo.symm
      · have lower :=
          above other second foundToo sameUser.symm samePurpose.symm
        omega
    · split at foundToo
      · obtain rfl := Option.some.inj foundToo
        have lower := above id first found sameUser samePurpose
        omega
      · exact sane.generations id other first second found foundToo sameUser
          samePurpose same

/-- A statement that inserts no link keeps a view sane. -/
theorem LinksSane.of_mayWrite
    {statement : Statement}
    {write : Write}
    (sane : LinksSane book view)
    (inserts :
      ∀ link, ¬ (statement = .insertEmailLink link ∧ write = .putLink link))
    (may : statement.MayWriteLink view write) :
    LinksSane book (Store.apply write view) :=
  sane.of_traced (userStays_of_write write view)
    fun _ _ found => may.source inserts found

/-! ## Merging -/

/-- What is spared without the lock of an account, link by link. -/
theorem linkSpared_of_spared
    {userId : Uuid}
    (spared : linkRules.protection.Spared (.user userId) first second)
    (id : Uuid) :
    LinkSpared userId (first.links.get? id) (second.links.get? id) :=
  RowRules.spares_of_spared spared (.link id)

/--
Merged links of an account all come from one side: the other side did not hold
the account, and left its links as they were but for failures and removals.
-/
theorem linksTraced_of_merges
    (merges : linkRules.protection.Merges base first second merged)
    (userId : Uuid) :
    (∀ id link, merged.links.get? id = some link → link.userId = userId →
        LinkTracedTo first id link) ∨
      ∀ id link, merged.links.get? id = some link → link.userId = userId →
        LinkTracedTo second id link := by
  -- The side that was spared holds a source of every merged row.
  have sources :
      ∀ {one another : Store},
        linkRules.protection.Spared (.user userId) base one →
        (∀ id,
          (one.links.get? id = base.links.get? id ∧
              merged.links.get? id = another.links.get? id) ∨
            (another.links.get? id = base.links.get? id ∧
              merged.links.get? id = one.links.get? id)) →
        ∀ id link, merged.links.get? id = some link → link.userId = userId →
          LinkTracedTo another id link := by
    intro one another spared sides id link found owned
    rcases sides id with ⟨_, taken⟩ | ⟨unwritten, taken⟩
    · exact .refl (taken.symm.trans found)
    · rcases (linkSpared_of_spared spared id).source (taken.symm.trans found)
          owned with
        ⟨before, foundBefore, same, unused⟩
      exact ⟨before, unwritten.trans foundBefore, same, unused⟩
  have rows : ∀ id, _ := fun id => RowRules.read_of_merges merges (.link id)
  rcases merges.spared (.user userId) with spared | spared
  · exact .inr (sources spared rows)
  · exact .inl (sources spared fun id => (rows id).symm)

/-- Accounts of either side stay when the sides are merged. -/
theorem userStays_of_merges
    (merges : linkRules.protection.Merges base first second merged)
    (id : Uuid) :
    UserStays (first.users.get? id) (merged.users.get? id) ∧
      UserStays (second.users.get? id) (merged.users.get? id) := by
  have staysFirst : UserStays (base.users.get? id) (first.users.get? id) :=
    RowRules.changes_of_changed merges.changed.1 (.user id)
  have staysSecond : UserStays (base.users.get? id) (second.users.get? id) :=
    RowRules.changes_of_changed merges.changed.2 (.user id)
  have sides :
      (first.users.get? id = base.users.get? id ∧
          merged.users.get? id = second.users.get? id) ∨
        (second.users.get? id = base.users.get? id ∧
          merged.users.get? id = first.users.get? id) :=
    RowRules.read_of_merges merges (.user id)
  rcases sides with ⟨unwritten, taken⟩ | ⟨unwritten, taken⟩
  · rw [taken, unwritten]
    exact ⟨staysSecond, fun found => found⟩
  · rw [taken, unwritten]
    exact ⟨fun found => found, staysFirst⟩

/-- Merged views are sane. -/
theorem LinksSane.of_merges
    (merges : linkRules.protection.Merges base first second merged)
    (saneFirst : LinksSane book first)
    (saneSecond : LinksSane book second) :
    LinksSane book merged where
  issued := by
    intro id link found
    rcases linksTraced_of_merges merges link.userId with traced | traced
    · rcases traced id link found rfl with ⟨before, foundBefore, same, _⟩
      exact same ▸ saneFirst.issued id before foundBefore
    · rcases traced id link found rfl with ⟨before, foundBefore, same, _⟩
      exact same ▸ saneSecond.issued id before foundBefore
  owned := by
    intro id link found
    rcases linksTraced_of_merges merges link.userId with traced | traced
    · rcases traced id link found rfl with ⟨before, foundBefore, same, _⟩
      rw [← EmailLink.of_asIssued EmailLink.userId (fun _ => rfl) same]
      exact (userStays_of_merges merges _).1
        (saneFirst.owned id before foundBefore)
    · rcases traced id link found rfl with ⟨before, foundBefore, same, _⟩
      rw [← EmailLink.of_asIssued EmailLink.userId (fun _ => rfl) same]
      exact (userStays_of_merges merges _).2
        (saneSecond.owned id before foundBefore)
  generations := by
    intro id other link another found foundToo user purpose generation
    have fromSide :
        ∀ {side : Store},
          LinksSane book side →
          (∀ id row, merged.links.get? id = some row →
            row.userId = link.userId → LinkTracedTo side id row) →
          id = other := by
      intro side sane traced
      rcases traced id link found rfl with ⟨before, foundBefore, same, _⟩
      rcases traced other another foundToo user.symm with
        ⟨beforeToo, foundBeforeToo, sameToo, _⟩
      refine sane.generations id other before beforeToo foundBefore
        foundBeforeToo ?_ ?_ ?_
      · rw [EmailLink.of_asIssued EmailLink.userId (fun _ => rfl) same,
          EmailLink.of_asIssued EmailLink.userId (fun _ => rfl) sameToo, user]
      · rw [EmailLink.of_asIssued EmailLink.purpose (fun _ => rfl) same,
          EmailLink.of_asIssued EmailLink.purpose (fun _ => rfl)
            sameToo, purpose]
      · rw [EmailLink.of_asIssued EmailLink.generation (fun _ => rfl) same,
          EmailLink.of_asIssued EmailLink.generation (fun _ => rfl)
            sameToo, generation]
    rcases linksTraced_of_merges merges link.userId with traced | traced
    · exact fromSide saneFirst traced
    · exact fromSide saneSecond traced

/-- Whatever is permitted and admitted keeps all views sane. -/
theorem linksSane_kept :
    Protection.Preserves (linkProtection env) (linkPermits env)
      (LinksSane book) (LinkAdmitted book) (LinksSane book) where
  point := by
    intro call standing statement locks effect admitted executes permitted _
      sane
    have writes := Store.execution_writesLinks statement
    have isPoint : Store.execution statement = .point locks effect := executes
    rw [isPoint] at writes
    refine (writes standing.view).apply_cases sane fun write may => ?_
    by_cases inserts :
        ∃ link, statement = .insertEmailLink link ∧ write = .putLink link
    · rcases inserts with ⟨link, rfl, rfl⟩
      obtain ⟨user, purpose, latest, now, browserNonce, draws, issues⟩ :=
        permitted
      exact sane.of_issued admitted issues
    · exact sane.of_mayWrite (not_exists.mp inserts) may
  visit := by
    intro call standing gained statement targets lock touch answer target view
      executes _ _ sane _
    have writes := Store.execution_writesLinks statement
    have isSweep :
        Store.execution statement = .sweep targets lock touch answer :=
      executes
    rw [isSweep] at writes
    refine (writes target view).apply_cases sane fun write may => ?_
    refine sane.of_mayWrite ?_ may
    rintro link ⟨rfl, _⟩
    cases isSweep
  merge := fun _ _ _ _ merges _ saneFirst saneSecond =>
    .of_merges merges saneFirst saneSecond

end EpokAuth
