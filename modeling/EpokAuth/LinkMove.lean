import EpokAuth.ConcurrentServices
import Mathlib.Logic.Relation

namespace EpokAuth

open Transactional

/-!
# The states of one link

A link is pending until its email is delivered or is not, and active until it
is consumed or revoked.  Which rows of links a statement may write is stated
once for all statements; each of them is one of these moves, an insertion or a
removal.
-/

/-- One change of the state of a link. -/
inductive EmailLink.Moves : EmailLink → EmailLink → Prop where
  | activated
      {link : EmailLink}
      (now : Instant)
      (pending : link.state = .pending) :
      Moves link (Store.activateLinkAt now link)
  | failed
      {link : EmailLink}
      (now : Instant)
      (pending : link.state = .pending) :
      Moves link (Store.failLinkAt now link)
  | revoked
      {link : EmailLink}
      (now : Instant)
      (unused : link.state = .pending ∨ link.state = .active) :
      Moves link (Store.revokeLinkAt now link)
  | consumed
      {link : EmailLink}
      (now : Instant)
      (active : link.state = .active) :
      Moves link (Store.consumeLinkAt now link)

/-- Some changes of the state of a link, one after the other. -/
abbrev EmailLink.Advances : EmailLink → EmailLink → Prop :=
  Relation.ReflTransGen EmailLink.Moves

/-- A link as it was issued. -/
def EmailLink.asIssued (link : EmailLink) : EmailLink :=
  { link with
    state := .pending
    deliveredAt := none
    consumedAt := none
    revokedAt := none }

/-- A link that was neither consumed nor revoked, nor did its delivery fail. -/
def EmailLinkState.Unused (state : EmailLinkState) : Prop :=
  state = .pending ∨ state = .active

namespace EmailLink

variable {link later : EmailLink}

/-- A link keeps what it was issued with. -/
theorem Moves.asIssued_eq (moves : link.Moves later) :
    later.asIssued = link.asIssued := by
  cases moves <;> rfl

theorem Advances.asIssued_eq (advances : link.Advances later) :
    later.asIssued = link.asIssued := by
  induction advances with
  | refl =>
      rfl
  | tail _ moves inductionHypothesis =>
      exact moves.asIssued_eq.trans inductionHypothesis

/-- Only a link that is pending or active changes its state. -/
theorem Moves.unused (moves : link.Moves later) : link.state.Unused := by
  cases moves with
  | activated _ pending => exact .inl pending
  | failed _ pending => exact .inl pending
  | revoked _ unused => exact unused
  | consumed _ active => exact .inr active

/-- Links that were issued alike agree on all that issuing one determines. -/
theorem of_asIssued
    {α : Type}
    (field : EmailLink → α)
    (kept : ∀ link : EmailLink, field link.asIssued = field link)
    (same : later.asIssued = link.asIssued) :
    field later = field link := by
  rw [← kept later, same, kept link]

end EmailLink

/-! ## The latest link -/

/-- The latest link is of the highest generation. -/
theorem generation_le_latest
    {store : Store}
    {userId id : Uuid}
    {purpose : EmailLinkPurpose}
    {other : EmailLink}
    (found : store.links.get? id = some other)
    (requested : Store.requestedFor userId purpose other = true) :
    ∃ latest,
      Store.latestEmailLink userId purpose store = some latest ∧
        other.generation ≤ latest.generation := by
  have member :
      other ∈ store.links.select (Store.requestedFor userId purpose) :=
    List.mem_filter.mpr ⟨Table.mem_of_get? found, requested⟩
  cases chosen : Store.latestEmailLink userId purpose store with
  | none =>
      rw [Store.latestEmailLink, List.argmax_eq_none] at chosen
      rw [chosen] at member
      cases member
  | some latest =>
      exact ⟨latest, rfl, List.le_of_mem_argmax member chosen⟩

/-! ## Rows written by a statement -/

/-- How a statement moves a link. -/
def Statement.MovesLink : Statement → EmailLink → EmailLink → Prop
  | .activateEmailLink linkId now, link, after =>
      link.id = linkId ∧ link.state = .pending ∧
        after = Store.activateLinkAt now link
  | .failEmailLink linkId now, link, after =>
      link.id = linkId ∧ link.state = .pending ∧
        after = Store.failLinkAt now link
  | .revokeEmailLink linkId now, link, after =>
      link.id = linkId ∧ link.state.Unused ∧
        after = Store.revokeLinkAt now link
  | .revokeOtherActiveEmailLinks userId purpose activeLinkId now, link,
      after =>
      Store.isOtherActive userId purpose activeLinkId link = true ∧
        after = Store.revokeLinkAt now link
  | .consumeEmailLink linkId purpose now, link, after =>
      link.id = linkId ∧ Store.isConsumable purpose now link = true ∧
        after = Store.consumeLinkAt now link
  | _, _, _ => False

/-- Which row of a link a statement may write where it sees a store. -/
inductive Statement.MayWriteLink
    (statement : Statement)
    (store : Store)
    (write : Write) :
    Prop where
  | elsewhere
      (leaves :
        (∀ link, write ≠ .putLink link) ∧
          ∀ linkId, write ≠ .eraseLink linkId)
  | inserts
      {link : EmailLink}
      (issues : statement = .insertEmailLink link)
      (absent : store.links.get? link.id = none)
      (puts : write = .putLink link)
  | moves
      {link after : EmailLink}
      (found : store.links.get? link.id = some link)
      (moves : statement.MovesLink link after)
      (puts : write = .putLink after)
  | removes
      {link : EmailLink}
      {before : Instant}
      (found : store.links.get? link.id = some link)
      (old : link.createdAt < before)
      (removes : statement = .deleteOldEmailLinks before)
      (erases : write = .eraseLink link.id)

/-- Whatever a statement moves is a move. -/
theorem Statement.MovesLink.moves
    {statement : Statement}
    {link after : EmailLink}
    (moves : statement.MovesLink link after) :
    link.Moves after := by
  cases statement with
  | activateEmailLink linkId now =>
      obtain ⟨_, pending, rfl⟩ := moves
      exact .activated now pending
  | failEmailLink linkId now =>
      obtain ⟨_, pending, rfl⟩ := moves
      exact .failed now pending
  | revokeEmailLink linkId now =>
      obtain ⟨_, unused, rfl⟩ := moves
      exact .revoked now unused
  | revokeOtherActiveEmailLinks userId purpose activeLinkId now =>
      obtain ⟨other, rfl⟩ := moves
      simp only [Store.isOtherActive, Bool.and_eq_true, decide_eq_true_eq]
        at other
      exact .revoked now (.inr other.2)
  | consumeEmailLink linkId purpose now =>
      obtain ⟨_, consumable, rfl⟩ := moves
      simp only [Store.isConsumable, Bool.and_eq_true, decide_eq_true_eq]
        at consumable
      exact .consumed now consumable.1.2
  | _ => exact moves.elim

/-- Only an activation makes a link active. -/
theorem Statement.MovesLink.activates
    {statement : Statement}
    {link after : EmailLink}
    (moves : statement.MovesLink link after)
    (active : after.state = .active) :
    ∃ now,
      statement = .activateEmailLink link.id now ∧
        after = Store.activateLinkAt now link := by
  cases statement with
  | activateEmailLink linkId now =>
      obtain ⟨rfl, _, rfl⟩ := moves
      exact ⟨now, rfl, rfl⟩
  | failEmailLink linkId now =>
      obtain ⟨_, _, rfl⟩ := moves
      cases active
  | revokeEmailLink linkId now =>
      obtain ⟨_, _, rfl⟩ := moves
      cases active
  | revokeOtherActiveEmailLinks userId purpose activeLinkId now =>
      obtain ⟨_, rfl⟩ := moves
      cases active
  | consumeEmailLink linkId purpose now =>
      obtain ⟨_, _, rfl⟩ := moves
      cases active
  | _ => exact moves.elim

/-- Only a consumption makes a link consumed. -/
theorem Statement.MovesLink.consumes
    {statement : Statement}
    {link after : EmailLink}
    (moves : statement.MovesLink link after)
    (consumed : after.state = .consumed) :
    ∃ purpose now,
      statement = .consumeEmailLink link.id purpose now ∧
        Store.isConsumable purpose now link = true ∧
        after = Store.consumeLinkAt now link := by
  cases statement with
  | activateEmailLink linkId now =>
      obtain ⟨_, _, rfl⟩ := moves
      cases consumed
  | failEmailLink linkId now =>
      obtain ⟨_, _, rfl⟩ := moves
      cases consumed
  | revokeEmailLink linkId now =>
      obtain ⟨_, _, rfl⟩ := moves
      cases consumed
  | revokeOtherActiveEmailLinks userId purpose activeLinkId now =>
      obtain ⟨_, rfl⟩ := moves
      cases consumed
  | consumeEmailLink linkId purpose now =>
      obtain ⟨rfl, consumable, rfl⟩ := moves
      exact ⟨purpose, now, rfl, consumable, rfl⟩
  | _ => exact moves.elim

open StoreExecution in
/-- Every statement writes at most one row, and only a link that it may. -/
theorem Store.execution_writesLinks (statement : Statement) :
    StoreExecution.Writes statement.MayWriteLink
      (Store.execution statement) := by
  have elsewhere :
      ∀ (store : Store) (write : Write),
        write.table ∉ [TableName.links] → statement.MayWriteLink store write := by
    intro store write other
    refine .elsewhere ⟨?_, ?_⟩
    · rintro link rfl
      exact other (by simp [Write.table])
    · rintro linkId rfl
      exact other (by simp [Write.table])
  cases statement with
  | insertEmailLink link =>
      refine inserting_writes fun view free => .inserts rfl ?_ rfl
      refine Table.get?_eq_none_of_find? free fun other isOther => ?_
      have same : other.id = link.id := isOther
      simp [same]
  | activateEmailLink linkId now =>
      refine returning_writes fun view link found pending => ?_
      obtain rfl := Table.key_of_get? found
      exact .moves found ⟨rfl, of_decide_eq_true pending, rfl⟩ rfl
  | failEmailLink linkId now =>
      refine returning_writes fun view link found pending => ?_
      obtain rfl := Table.key_of_get? found
      exact .moves found ⟨rfl, of_decide_eq_true pending, rfl⟩ rfl
  | revokeEmailLink linkId now =>
      refine returning_writes fun view link found unused => ?_
      obtain rfl := Table.key_of_get? found
      rw [Bool.or_eq_true, decide_eq_true_eq, decide_eq_true_eq] at unused
      exact .moves found ⟨rfl, unused, rfl⟩ rfl
  | consumeEmailLink linkId purpose now =>
      refine returning_writes fun view link found consumable => ?_
      obtain rfl := Table.key_of_get? found
      exact .moves found ⟨rfl, consumable, rfl⟩ rfl
  | revokeOtherActiveEmailLinks userId purpose activeLinkId now =>
      intro target view
      refine (touchUpdate_writes Store.linksField.toTableField _ _ target
        view).mono ?_
      rintro write ⟨link, found, other, rfl⟩
      obtain rfl := Table.key_of_get? found
      exact .moves found ⟨other, rfl⟩ rfl
  | deleteOldEmailLinks before =>
      intro target view
      refine (touchDelete_writes Store.linksField _ target view).mono ?_
      rintro write ⟨rfl, link, found, old⟩
      obtain rfl := Table.key_of_get? found
      exact .removes found (of_decide_eq_true old) rfl rfl
  | _ =>
      exact Store.execution_writes_elsewhere elsewhere
        (by simp [Statement.table])

/-! ## Rows after a statement -/

/-- The row of a link after a statement wrote where it sees a store. -/
inductive Statement.LinkRow
    (statement : Statement)
    (store : Store)
    (write : Write)
    (id : Uuid)
    (row : Option EmailLink) :
    Prop where
  | kept (same : row = store.links.get? id)
  | inserted
      {link : EmailLink}
      (issues : statement = .insertEmailLink link)
      (isId : link.id = id)
      (absent : store.links.get? id = none)
      (puts : write = .putLink link)
      (isRow : row = some link)
  | moved
      {link after : EmailLink}
      (found : store.links.get? id = some link)
      (moves : statement.MovesLink link after)
      (puts : write = .putLink after)
      (isRow : row = some after)
  | removed
      {link : EmailLink}
      {before : Instant}
      (found : store.links.get? id = some link)
      (old : link.createdAt < before)
      (removes : statement = .deleteOldEmailLinks before)
      (isRow : row = none)

/-- What a statement may write changes every link in one of these ways. -/
theorem Statement.MayWriteLink.row
    {statement : Statement}
    {store : Store}
    {write : Write}
    (may : statement.MayWriteLink store write)
    (id : Uuid) :
    statement.LinkRow store write id
      ((Store.apply write store).links.get? id) := by
  cases may with
  | elsewhere leaves =>
      cases write with
      | putLink link => exact absurd rfl (leaves.1 link)
      | eraseLink linkId => exact absurd rfl (leaves.2 linkId)
      | _ => exact .kept rfl
  | @inserts link issues absent puts =>
      subst puts
      change statement.LinkRow store _ id ((store.links.put link).get? id)
      rw [Table.get?_put]
      split
      · rename_i isLink
        have isId : link.id = id := isLink.symm
        exact .inserted issues isId (isId ▸ absent) rfl rfl
      · exact .kept rfl
  | @moves link after found moves puts =>
      subst puts
      change statement.LinkRow store _ id ((store.links.put after).get? id)
      rw [Table.get?_put]
      split
      · rename_i isAfter
        have isId : link.id = id := by
          rw [isAfter, ← EmailLink.of_asIssued EmailLink.id (fun _ => rfl)
              moves.moves.asIssued_eq]
          rfl
        exact .moved (isId ▸ found) moves rfl rfl
      · exact .kept rfl
  | @removes link before found old removes erases =>
      subst erases
      change statement.LinkRow store _ id
        ((store.links.erase link.id).get? id)
      rw [Table.get?_erase]
      split
      · rename_i isLink
        exact .removed (isLink ▸ found) old removes rfl
      · exact .kept rfl

/-- A statement that inserts no link finds all links as they were issued. -/
theorem Statement.MayWriteLink.source
    {statement : Statement}
    {store : Store}
    {write : Write}
    {id : Uuid}
    {link : EmailLink}
    (may : statement.MayWriteLink store write)
    (inserts :
      ∀ link, ¬ (statement = .insertEmailLink link ∧ write = .putLink link))
    (found : (Store.apply write store).links.get? id = some link) :
    ∃ before,
      store.links.get? id = some before ∧
        before.asIssued = link.asIssued := by
  cases may.row id with
  | kept same =>
      exact ⟨link, same.symm.trans found, rfl⟩
  | inserted issues _ _ puts _ =>
      exact absurd ⟨issues, puts⟩ (inserts _)
  | @moved before after foundBefore moves puts isRow =>
      obtain rfl := Option.some.inj (isRow.symm.trans found)
      exact ⟨before, foundBefore, moves.moves.asIssued_eq.symm⟩
  | removed _ _ _ isRow =>
      cases isRow.symm.trans found

/-- A request is what it is about, whatever became of the link. -/
theorem requestedFor_eq_of_asIssued
    {userId : Uuid}
    {purpose : EmailLinkPurpose}
    {first second : EmailLink}
    (same : first.asIssued = second.asIssued) :
    Store.requestedFor userId purpose first =
      Store.requestedFor userId purpose second := by
  simp only [Store.requestedFor, EmailLink.of_asIssued EmailLink.userId
      (fun _ => rfl) same,
    EmailLink.of_asIssued EmailLink.purpose (fun _ => rfl) same]

end EpokAuth
