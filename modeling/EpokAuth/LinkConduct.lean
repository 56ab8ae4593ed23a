import EpokAuth.LinkProtection

namespace EpokAuth

open Transactional

/-!
# The services keep the discipline of email links

Every transaction body that issues, delivers or consumes links is read once,
statement by statement.  What such a call has written when it ends is promised
to its caller: a link was consumed, or nothing but a dead link changed.
-/

variable
  {env : Environment}
  {book : Uuid → EmailLink}
  {call : ServiceTx}
  {standing earlier later : ServiceStanding}
  {now : Instant}
  {context : RequestContext}

open Tx (Upholds StaysWithin)

/-! ## What calls promise -/

/-- The call consumed a link that it presented. -/
def Redeemed
    (env : Environment)
    (call : ServiceTx)
    (presentation : Presentation)
    (issued : List Write) :
    Prop :=
  ∃ link user before,
    Redeems env call before presentation link user ∧
      Write.putLink (Store.consumeLinkAt presentation.now link) ∈ issued

/-- The call wrote events, and revoked a link that did not match, at most. -/
def Refused
    (env : Environment)
    (call : ServiceTx)
    (presentation : Presentation)
    (issued : List Write) :
    Prop :=
  ∀ write ∈ issued,
    (∃ event, write = .appendEvent event) ∨
      ∃ link user before,
        Dismisses env call before presentation link user ∧
          write = .putLink (Store.revokeLinkAt presentation.now link)

/-- A call that presents a link succeeded. -/
def ServiceTx.Succeeds :
    (call : ServiceTx) → Except Failure call.Answer → Prop
  | .emailLinkLogin .., .ok (some _) => True
  | .emailLinkResetPassword .., .ok (some _) => True
  | .activateInvitation .., .ok (some _) => True
  | .activate .., .ok (some _) => True
  | _, _ => False

/-- A delivery was reported, and accepted. -/
def ServiceTx.Reports :
    (call : ServiceTx) → Except Failure call.Answer → Prop
  | .markDelivered .., .ok true => True
  | _, _ => False

/-- A link is held with its account, and no other one of its purpose is active. -/
structure OnlyActive (link : EmailLink) (standing : ServiceStanding) :
    Prop where
  holds : HoldsRow standing (.link link.id) (some link)
  owner : Locked standing.locks (.user link.userId)
  only :
    ∀ id other,
      standing.view.links.get? id = some other →
        Store.requestedFor link.userId link.purpose other = true →
          other.state = .active → id = link.id

/-- A call has activated no link. -/
def ActivatesNone (standing : ServiceStanding) : Prop :=
  ∀ link, Write.putLink link ∈ standing.issued → link.state ≠ .active

theorem ActivatesNone.of_nil (nothing : standing.issued = []) :
    ActivatesNone standing := by
  intro link member
  rw [nothing] at member
  cases member

/-- A call activated no link, or just one, and said so. -/
def DeliversOnly
    (linkId : Uuid)
    (reported : Prop)
    (standing : ServiceStanding) :
    Prop :=
  ActivatesNone standing ∨
    (reported ∧ ∃ link, link.id = linkId ∧ OnlyActive link standing)

/-- What calls promise that consume or deliver links. -/
def linkPromise (env : Environment) :
    Contract.Promise Store Write Resource Failure ServiceTx.Answer :=
  fun call answer standing =>
    (∀ presentation, call.presents = some presentation →
      Redeemed env call presentation standing.issued ∨
        (¬ call.Succeeds answer ∧
          Refused env call presentation standing.issued)) ∧
      ∀ linkId now, call = .markDelivered linkId now →
        DeliversOnly linkId (call.Reports answer) standing

/-- A call that neither consumes nor delivers links promises nothing. -/
theorem linkPromise_of_other
    {answer : Except Failure call.Answer}
    (presents : call.presents = none)
    (delivers : ∀ linkId now, call ≠ .markDelivered linkId now) :
    linkPromise env call answer standing := by
  refine ⟨?_, ?_⟩
  · intro presentation same
    rw [presents] at same
    cases same
  · intro linkId now same
    exact absurd same (delivers linkId now)

/-! ## Issuing -/

/-- The latest link is stored, and was requested. -/
theorem latest_stored
    {store : Store}
    {userId : Uuid}
    {purpose : EmailLinkPurpose}
    {latest : EmailLink}
    (chosen : Store.latestEmailLink userId purpose store = some latest) :
    store.links.get? latest.id = some latest ∧
      Store.requestedFor userId purpose latest = true := by
  have member := List.mem_filter.mp (List.argmax_mem chosen)
  exact ⟨Table.mem_rows_iff.mp member.1, member.2⟩

/-- While an account is held, its links were there before. -/
theorem Follows.linkSource
    {written : List Write}
    {userId id : Uuid}
    {link : EmailLink}
    (follows : Follows (linkDiscipline env book) written earlier later)
    (elsewhere : ∀ write ∈ written, ∀ id, write.resource ≠ some (.link id))
    (locked : Locked earlier.locks (.user userId))
    (found : later.view.links.get? id = some link)
    (owned : link.userId = userId) :
    LinkTracedTo earlier.view id link := by
  rcases follows.view with ⟨seen, relied, _, same⟩
  have unwritten :
      (applyAll Store.apply written seen).links.get? id =
        seen.links.get? id :=
    (StoreRow.link id).read_applyAll
      (fun write member => elsewhere write member id) seen
  rw [same, unwritten] at found
  exact (linkSpared_of_spared (relied.spared _ locked) id).source found owned

/-- An event is no link. -/
theorem event_elsewhere
    {event : SecurityEvent} :
    ∀ write ∈ [Write.appendEvent event], ∀ id,
      write.resource ≠ some (.link id) := by
  intro write member id guard
  obtain rfl := List.mem_singleton.mp member
  cases guard

/-- Nothing is no link. -/
theorem nothing_elsewhere :
    ∀ write ∈ ([] : List Write), ∀ id, write.resource ≠ some (.link id) :=
  fun _ member => nomatch member

/-- A link is issued to an account that is held. -/
theorem upholds_issueLink
    {user : UserAccount}
    {purpose : EmailLinkPurpose}
    {browserNonce : Option String}
    {draws : LinkDraws}
    {normal : EmailLinkIssue → ServiceStanding → Prop}
    {failed : Failure → ServiceStanding → Prop}
    (holds : HoldsRow standing (.user user.id) (some user))
    (clock : call.clock = some now)
    (requested : call.requesting = some (purpose, browserNonce))
    (eligible : canRequest env.settings user purpose now = true)
    (continues : ∀ value later, normal value later)
    (refused : ∀ failure later, failed failure later) :
    Upholds (linkDiscipline env book) env call
      (issueLink env.toDependencies user purpose now context browserNonce
        draws)
      normal failed standing := by
  rw [issueLink, upholds_bind]
  refine upholds_sweep rfl (fun _ _ => ⟨now, clock, rfl⟩) ?_
  intro visited first removed
  have holdsFirst :=
    holds.sweeps removed fun target store write member => by
      have same :=
        (touchDelete_resource (fun _ => rfl) target store).forall write member
      rw [same]
      simp [StoreRow.resource]
  rw [upholds_bind]
  refine upholds_read rfl rfl ?_
  intro second counted
  have holdsSecond := holdsFirst.reads counted
  refine upholds_ite (fun _ => continues _ _) fun _ => ?_
  rw [upholds_bind]
  refine upholds_read rfl rfl ?_
  intro third chosen
  have holdsThird := holdsSecond.reads chosen
  rw [upholds_bind]
  refine upholds_attempt rfl inserting_outcomes ?_ ?_
    fun failure later _ => refused failure later
  · intro seen seeing
    refine
      ⟨user, purpose, Store.latestEmailLink user.id purpose third.view, now,
        browserNonce, draws, ?_⟩
    refine
      { owner := holdsThird.reads seeing
        clock := clock
        requested := requested
        eligible := eligible
        link_eq := rfl
        above := ?_ }
    intro id other found asked
    have owned : other.userId = user.id := by
      simp only [Store.requestedFor, Bool.and_eq_true, decide_eq_true_eq]
        at asked
      exact asked.1
    rcases seeing.linkSource nothing_elsewhere holdsThird.locked found
        owned with
      ⟨before, foundBefore, same, _⟩
    rw [← requestedFor_eq_of_asIssued same] at asked
    rcases generation_le_latest foundBefore asked with
      ⟨latest, isLatest, below⟩
    rw [← EmailLink.of_asIssued EmailLink.generation (fun _ => rfl) same]
    simp only [issuedLink, isLatest]
    omega
  · intro seen last _ _ _ _ _
    rw [upholds_bind]
    refine upholds_record ?_
    intro final event _
    rw [upholds_bind, upholds_ofExcept]
    split
    · exact continues _ _
    · exact refused _ _

/-! ## Requests -/

theorem keeps_requestForEmail
    {normalizedEmail : String}
    {purpose : EmailLinkPurpose}
    {browserNonce : Option String}
    {draws : LinkDraws}
    {normal : EmailLinkIssue → ServiceStanding → Prop}
    {failed : Failure → ServiceStanding → Prop}
    (clock : call.clock = some now)
    (requested : call.requesting = some (purpose, browserNonce))
    (continues : ∀ value later, normal value later)
    (refused : ∀ failure later, failed failure later) :
    Upholds (linkDiscipline env book) env call
      (requestForEmail env.toDependencies normalizedEmail purpose browserNonce
        now context draws)
      normal failed standing := by
  rw [requestForEmail, upholds_bind]
  refine upholds_getUserByEmail_locked (fun _ _ => continues _ _) ?_
  intro user later _ holds _
  refine upholds_ite (fun eligible => ?_) fun _ => continues _ _
  exact upholds_issueLink holds clock requested eligible continues refused

theorem keeps_invite
    {userId : Uuid}
    {draws : LinkDraws}
    {normal : EmailLinkIssue → ServiceStanding → Prop}
    {failed : Failure → ServiceStanding → Prop}
    (continues : ∀ value later, normal value later)
    (refused : ∀ failure later, failed failure later) :
    Upholds (linkDiscipline env book) env (.invite userId now context draws)
      (invite env.toDependencies userId now context draws) normal failed
      standing := by
  rw [invite, upholds_bind]
  refine upholds_getUserById_locked (fun _ _ _ => refused _ _) ?_
  intro user later _ holds _
  refine upholds_ite (fun eligible => ?_) fun _ => refused _ _
  exact upholds_issueLink holds rfl rfl eligible continues refused

theorem keeps_replaceActivation
    {userId : Uuid}
    {draws : LinkDraws}
    {normal : EmailLinkIssue → ServiceStanding → Prop}
    {failed : Failure → ServiceStanding → Prop}
    (continues : ∀ value later, normal value later)
    (refused : ∀ failure later, failed failure later) :
    Upholds (linkDiscipline env book) env
      (.replaceActivation userId now context draws)
      (replaceActivation env.toDependencies userId now context draws) normal
      failed standing := by
  rw [replaceActivation, upholds_bind]
  refine upholds_getUserById_locked (fun _ _ _ => refused _ _) ?_
  intro user later _ holds _
  refine upholds_ite (fun eligible => ?_) fun _ => refused _ _
  exact upholds_issueLink holds rfl rfl eligible continues refused

/-- A pending account is inserted and gets its activation link. -/
theorem keeps_createPending
    {user : UserAccount}
    {draws : LinkDraws}
    {normal : AccountActivation → ServiceStanding → Prop}
    {failed : Failure → ServiceStanding → Prop}
    (clock : call.clock = some now)
    (requested : call.requesting = some (.activation, none))
    (pending : user.status = .pendingActivation)
    (continues : ∀ value later, normal value later)
    (refused : ∀ failure later, failed failure later) :
    Upholds (linkDiscipline env book) env call
      (createPending env.toDependencies user now context draws) normal failed
      standing := by
  rw [createPending, upholds_bind]
  refine upholds_attempt rfl inserting_outcomes (fun _ _ => trivial) ?_
    fun failure later _ => refused failure later
  intro seen first _ _ same locked _
  have holds : HoldsRow first (.user user.id) (some user) := by
    refine ⟨locked _ rfl, ?_⟩
    rw [same]
    exact Table.get?_put_self _ _
  have eligible : canRequest env.settings user .activation now = true := by
    simp [canRequest, pending]
  rw [upholds_bind]
  refine upholds_record ?_
  intro second event recorded
  rw [upholds_bind]
  refine upholds_issueLink (holds.records recorded) clock requested eligible
    ?_ refused
  intro issue last
  cases issued : issue.pending with
  | none => exact refused _ _
  | some pending => exact continues _ _

theorem keeps_ensureInitialAdmin
    {normalizedEmail : String}
    {user : UserAccount}
    {draws : LinkDraws}
    {normal : InitialAdminActivation → ServiceStanding → Prop}
    {failed : Failure → ServiceStanding → Prop}
    (clock : call.clock = some now)
    (requested : call.requesting = some (.activation, none))
    (pending : user.status = .pendingActivation)
    (continues : ∀ value later, normal value later)
    (refused : ∀ failure later, failed failure later) :
    Upholds (linkDiscipline env book) env call
      (ensureInitialAdmin env.toDependencies normalizedEmail user now context
        draws)
      normal failed standing := by
  rw [ensureInitialAdmin, upholds_bind]
  refine upholds_point rfl (fun _ _ => trivial) ?_
  intro _ _ _ _ _ _
  rw [upholds_bind]
  refine upholds_getUserByEmail_locked ?_ ?_
  · intro _ _
    rw [upholds_bind]
    refine upholds_read rfl rfl ?_
    intro _ _
    refine upholds_ite (fun _ => refused _ _) fun _ => ?_
    rw [upholds_bind]
    refine keeps_createPending clock requested pending ?_ refused
    intro _ _
    rw [upholds_bind]
    exact upholds_record fun _ _ _ => continues _ _
  · intro _ _ _ _ _
    exact upholds_ite (fun _ => continues _ _) fun _ => refused _ _

/-! ## Delivery -/

/-- A row of the same identifier was issued the same. -/
theorem asIssued_eq_of_sane
    {first second : Store}
    {id : Uuid}
    {link other : EmailLink}
    (sane : LinksSane book first)
    (saneToo : LinksSane book second)
    (found : first.links.get? id = some link)
    (foundToo : second.links.get? id = some other) :
    link.asIssued = other.asIssued :=
  (sane.issued id link found).trans (saneToo.issued id other foundToo).symm

/--
When a sweep over the other active links has visited all that it chose, none is
active: links that are held cannot become active in between.
-/
theorem none_active_after_sweep
    {link : EmailLink}
    (follows :
      FollowsSweep (linkDiscipline env book) env
        (Store.linksField.targets
          (Store.isOtherActive link.userId link.purpose link.id))
        (Store.linksField.touchUpdate
          (Store.isOtherActive link.userId link.purpose link.id)
          (Store.revokeLinkAt now))
        earlier later)
    (owner : Locked earlier.locks (.user link.userId)) :
    ∀ id other,
      later.view.links.get? id = some other →
        Store.requestedFor link.userId link.purpose other = true →
          other.state = .active → id = link.id := by
  rcases follows.sweeps with ⟨start, written, seeing, _, swept⟩
  have toVisit :
      ∀ sweep : Sweep Store Write Uuid,
        ((linkDiscipline env book).contract env).Sweeps earlier.locks
            (Store.linksField.touchUpdate
              (Store.isOtherActive link.userId link.purpose link.id)
              (Store.revokeLinkAt now))
            ⟨Store.linksField.targets
                (Store.isOtherActive link.userId link.purpose link.id) start,
              start, []⟩
            sweep →
          ∀ id other,
            sweep.view.links.get? id = some other →
              Store.isOtherActive link.userId link.purpose link.id other =
                  true →
                id ∈ sweep.pending := by
    intro sweep swept
    induction swept with
    | refl =>
        intro id other found isOther
        exact Store.linksField.mem_targets found isOther
    | tail _ step inductionHypothesis =>
        intro id other found isOther
        cases step with
        | relied relies =>
            have owned : other.userId = link.userId ∧ other.state = .active := by
              simp only [Store.isOtherActive, Store.requestedFor,
                Bool.and_eq_true, decide_eq_true_eq] at isOther
              exact ⟨isOther.1.1.1, isOther.2⟩
            rcases (linkSpared_of_spared (relies.spared _ owner) id).source
                found owned.1 with
              ⟨before, foundBefore, _, unused⟩
            obtain rfl := unused (.inr owned.2)
            exact inductionHypothesis id _ foundBefore isOther
        | @visited first last target view writes =>
            by_cases isTarget : id = target
            · subst isTarget
              have without :=
                Store.linksField.not_of_touchUpdate found (fun _ => rfl)
                  fun row _ => by simp [Store.isOtherActive, Store.revokeLinkAt]
              rw [isOther] at without
              cases without
            · have foundBefore : view.links.get? id = some other := by
                refine Eq.trans (Eq.symm ?_) found
                exact Store.linksField.get?_touchUpdate_of_ne (fun _ => rfl)
                  isTarget
              have waiting := inductionHypothesis id other foundBefore isOther
              simp only [List.mem_append, List.mem_cons, isTarget, false_or]
                at waiting ⊢
              exact waiting
  intro id other found requested active
  by_contra isOther
  -- Nothing is left to be visited.
  have remaining :=
    toVisit ⟨[], later.view, written⟩ swept id other found (by
      have key : other.id = id := Table.key_of_get? found
      simp [Store.isOtherActive, requested, active, key, isOther])
  cases remaining

theorem HoldsBoth.reads
    {link : EmailLink}
    {user : UserAccount}
    (holds : HoldsBoth earlier link user)
    (follows : Follows (linkDiscipline env book) [] earlier later) :
    HoldsBoth later link user where
  holdsLink := holds.holdsLink.reads follows
  holdsUser := holds.holdsUser.reads follows
  owner := holds.owner

/-- The account of a requested link. -/
theorem userId_of_requestedFor
    {userId : Uuid}
    {purpose : EmailLinkPurpose}
    {other : EmailLink}
    (requested : Store.requestedFor userId purpose other = true) :
    other.userId = userId := by
  simp only [Store.requestedFor, Bool.and_eq_true, decide_eq_true_eq]
    at requested
  exact requested.1

/-- The newest link stays the newest while its account is held. -/
theorem Newest.reads
    {link : EmailLink}
    (newest : Newest earlier link)
    (owner : Locked earlier.locks (.user link.userId))
    (follows : Follows (linkDiscipline env book) [] earlier later) :
    Newest later link := by
  intro id other found requested
  rcases follows.linkSource nothing_elsewhere owner found
      (userId_of_requestedFor requested) with
    ⟨before, foundBefore, same, _⟩
  rw [← requestedFor_eq_of_asIssued same] at requested
  rw [← EmailLink.of_asIssued EmailLink.generation (fun _ => rfl) same]
  exact newest id before foundBefore requested

theorem Delivers.reads
    {link : EmailLink}
    {user : UserAccount}
    (delivers : Delivers env call earlier link user now)
    (follows : Follows (linkDiscipline env book) [] earlier later) :
    Delivers env call later link user now :=
  { delivers with
    holds := delivers.holds.reads follows
    newest := delivers.newest.reads delivers.holds.locked follows }

/-- A sweep over the other links of a purpose writes other rows. -/
theorem others_elsewhere
    {link : EmailLink}
    (target : Uuid)
    (store : Store) :
    ∀ write ∈
      Store.linksField.touchUpdate
        (Store.isOtherActive link.userId link.purpose link.id)
        (Store.revokeLinkAt now) target store,
      write.resource ≠ some (StoreRow.link link.id).resource := by
  intro write member guard
  rcases (touchUpdate_writes Store.linksField.toTableField _ _ target
      store).forall write member with
    ⟨row, _, isOther, rfl⟩
  have resource : some (Resource.link row.id) = some (.link link.id) := guard
  have same : row.id = link.id := by
    simpa using resource
  simp [Store.isOtherActive, same] at isOther

/-- A sweep over the other links leaves one alone. -/
theorem HoldsRow.sweepsOthers
    {link : EmailLink}
    {seen : Option EmailLink}
    (holds : HoldsRow earlier (.link link.id) seen)
    (follows :
      FollowsSweep (linkDiscipline env book) env
        (Store.linksField.targets
          (Store.isOtherActive link.userId link.purpose link.id))
        (Store.linksField.touchUpdate
          (Store.isOtherActive link.userId link.purpose link.id)
          (Store.revokeLinkAt now))
        earlier later) :
    HoldsRow later (.link link.id) seen :=
  holds.sweeps follows others_elsewhere

/-- Events change no link. -/
theorem OnlyActive.records
    {link : EmailLink}
    {event : SecurityEvent}
    (onlyActive : OnlyActive link earlier)
    (follows :
      Follows (linkDiscipline env book) [.appendEvent event] earlier later) :
    OnlyActive link later where
  holds := onlyActive.holds.records follows
  owner := onlyActive.owner.mono follows.locks
  only := by
    intro id other found requested active
    rcases follows.linkSource event_elsewhere onlyActive.owner found
        (userId_of_requestedFor requested) with
      ⟨before, foundBefore, _, unused⟩
    obtain rfl := unused (.inr active)
    exact onlyActive.only id _ foundBefore requested active

/-- A held pending link is activated, and the others are revoked. -/
theorem upholds_delivering
    {link : EmailLink}
    {user : UserAccount}
    {normal : Bool → ServiceStanding → Prop}
    {failed : Failure → ServiceStanding → Prop}
    (delivers :
      Delivers env (.markDelivered link.id now) standing link user now)
    (delivered :
      ∀ later, OnlyActive (Store.activateLinkAt now link) later →
        normal true later) :
    Upholds (linkDiscipline env book) env (.markDelivered link.id now)
      (do
        let activated ← Tx.activateEmailLink link.id now
        match activated with
        | none => return false
        | some _ => do
            let _ ←
              Tx.revokeOtherActiveEmailLinks link.userId link.purpose link.id
                now
            recordSecurityEvent .emailLinkDelivered now emptyContext
              (some link.userId) none
              (some [("purpose", .text link.purpose.value)])
            return true)
      normal failed standing := by
  rw [upholds_bind]
  refine upholds_point rfl ?_ ?_
  · intro seen seeing
    exact ⟨link, user, rfl, delivers.reads seeing⟩
  · intro seen first seeing follows same _
    have isPending :
        (seen.links.get? link.id).filter
            (fun link => decide (link.state = .pending)) =
          some link := by
      have found : seen.links.get? link.id = some link :=
        (delivers.holds.holdsLink.reads seeing).seen
      rw [found, Option.filter_some_pos (by simp [delivers.pending])]
    dsimp only at follows same ⊢
    rw [isPending] at follows same ⊢
    dsimp only at follows same ⊢
    have activated : HoldsRow first (.link link.id)
        (some (Store.activateLinkAt now link)) := by
      refine ⟨delivers.holds.holdsLink.locked.mono follows.locks, ?_⟩
      rw [same]
      exact Table.get?_put_self seen.links (Store.activateLinkAt now link)
    have owner : Locked first.locks (.user link.userId) :=
      delivers.holds.locked.mono follows.locks
    have newest : Newest first (Store.activateLinkAt now link) := by
      intro id other found requested
      have row :
          first.view.links.get? id =
            if id = link.id then
              some (Store.activateLinkAt now link)
            else
              seen.links.get? id := by
        rw [same]
        exact Table.get?_put seen.links (Store.activateLinkAt now link) id
      rw [row] at found
      split at found
      · obtain rfl := Option.some.inj found
        exact Nat.le_refl _
      · exact (delivers.newest.reads delivers.holds.locked seeing) id other
          found requested
    have issued :
        Write.putLink (Store.activateLinkAt now link) ∈ first.issued := by
      rw [follows.issued]
      simp
    rw [upholds_bind]
    refine upholds_sweep rfl ?_ ?_
    · intro view viewing
      exact ⟨Store.activateLinkAt now link, rfl, rfl, rfl,
        { reported := rfl
          holds := activated.reads viewing
          owner := owner.mono viewing.locks
          active := rfl
          activated := issued
          newest := newest.reads owner viewing }⟩
    · intro visited second swept
      rw [upholds_bind]
      refine upholds_record ?_
      intro last event recorded
      have only : OnlyActive (Store.activateLinkAt now link) second :=
        { holds := activated.sweepsOthers swept
          owner := owner.mono swept.locks
          only := none_active_after_sweep swept owner }
      exact delivered last (only.records recorded)

/-- A link is held with the account of a candidate that has its identifier. -/
theorem HoldsBoth.of_candidate
    {candidate link : EmailLink}
    {user : UserAccount}
    {view : Store}
    (sane : LinksSane book view)
    (stored : view.links.get? link.id = some candidate)
    (saneLater : LinksSane book standing.view)
    (holds : HoldsRow standing (.link link.id) (some link))
    (holdsUser : HoldsRow standing (.user user.id) (some user))
    (owner : user.id = candidate.userId) :
    HoldsBoth standing link user := by
  have same := asIssued_eq_of_sane sane saneLater stored holds.seen
  exact ⟨holds, holdsUser,
    (EmailLink.of_asIssued EmailLink.userId
      (fun _ => rfl) same).symm.trans owner.symm⟩

/-- The account of a link that was seen is found. -/
theorem Follows.finds_owner
    {id : Uuid}
    {link : EmailLink}
    (follows : Follows (linkDiscipline env book) [] earlier later)
    (sane : LinksSane book earlier.view)
    (found : earlier.view.links.get? id = some link) :
    later.view.users.get? link.userId ≠ none := by
  intro missing
  have stays :
      UserStays (earlier.view.users.get? link.userId)
        (later.view.users.get? link.userId) :=
    follows.changes (.user link.userId)
  have exists_ := stays (sane.owned id link found)
  rw [missing] at exists_
  cases exists_

/-- What a report of a delivery does with the rows that it holds. -/
theorem upholds_reported
    {link latest : Option EmailLink}
    {user : UserAccount}
    {linkId : Uuid}
    (nothing : standing.issued = [])
    (holds :
      ∀ held, link = some held →
        held.id = linkId ∧ HoldsBoth standing held user)
    (newest :
      ∀ held found, link = some held → latest = some found →
        held.id = found.id → Newest standing held) :
    Upholds (linkDiscipline env book) env (.markDelivered linkId now)
      (do
        let deliverable ←
          Prog.ofExcept
            (deliverableLink env.toDependencies link latest (some user) now)
        match deliverable with
        | none =>
            match link with
            | none => return false
            | some link => do
                let _ ← Tx.revokeEmailLink link.id now
                return false
        | some deliverable => do
            let activated ← Tx.activateEmailLink deliverable.id now
            match activated with
            | none => return false
            | some _ => do
                let _ ←
                  Tx.revokeOtherActiveEmailLinks deliverable.userId
                    deliverable.purpose deliverable.id now
                recordSecurityEvent .emailLinkDelivered now emptyContext
                  (some deliverable.userId) none
                  (some [("purpose", .text deliverable.purpose.value)])
                return true)
      (fun reported => DeliversOnly linkId (reported = true))
      (fun _ => ActivatesNone) standing := by
  rw [upholds_bind, upholds_ofExcept]
  cases decided :
      deliverableLink env.toDependencies link latest (some user) now with
  | error failure =>
      exact ActivatesNone.of_nil nothing
  | ok deliverable =>
      cases deliverable with
      | none =>
          cases link with
          | none =>
              exact .inl (.of_nil nothing)
          | some link =>
              obtain ⟨rfl, held⟩ := holds link rfl
              dsimp only
              rw [upholds_bind]
              refine upholds_point rfl ?_ ?_
              · intro seen seeing
                exact .inl ⟨rfl, link, user, rfl, held.reads seeing⟩
              · intro seen later seeing follows _ _
                refine .inl fun other member => ?_
                rw [follows.issued, nothing, List.nil_append] at member
                rcases (closing_writes seen).forall _ member with ⟨row, puts⟩
                obtain rfl := Write.putLink.inj puts
                exact fun active => nomatch active
      | some deliverable =>
          obtain ⟨found, account, rfl, rfl, isAccount, pending, same, bound⟩ :=
            deliverableLink_ok_some decided
          obtain rfl := Option.some.inj isAccount
          obtain ⟨rfl, held⟩ := holds deliverable rfl
          refine upholds_delivering
            ⟨rfl, held, pending, bound, newest deliverable found rfl rfl same⟩
            ?_
          intro later only
          exact .inr ⟨rfl, Store.activateLinkAt now deliverable, rfl, only⟩

theorem keeps_markDelivered
    {linkId : Uuid}
    (nothing : standing.issued = []) :
    Upholds (linkDiscipline env book) env (.markDelivered linkId now)
      (markDelivered env.toDependencies linkId now)
      (fun reported => DeliversOnly linkId (reported = true))
      (fun _ => ActivatesNone) standing := by
  rw [markDelivered, upholds_bind]
  refine upholds_read rfl rfl ?_
  intro first looked
  have nothingFirst := looked.issued_nil.trans nothing
  cases stored : first.view.links.get? linkId with
  | none =>
      exact .inl (.of_nil nothingFirst)
  | some candidate =>
      dsimp only
      rw [upholds_bind]
      refine upholds_getUserById_locked ?_ ?_
      · intro second locked missing
        exact absurd missing (locked.finds_owner looked.sane stored)
      · intro user second locked holdsUser owner
        have nothingSecond := locked.issued_nil.trans nothingFirst
        rw [upholds_bind]
        refine upholds_getEmailLink_locked ?_ ?_
        · intro third gone
          rw [upholds_bind]
          refine upholds_read rfl rfl ?_
          intro last chosen
          refine upholds_reported
            (chosen.issued_nil.trans (gone.issued_nil.trans nothingSecond))
            ?_ ?_
          · intro held isLink
            cases isLink
          · intro held found isLink
            cases isLink
        · intro link third follows holds same
          subst same
          have both : HoldsBoth third link user :=
            .of_candidate looked.sane stored follows.sane holds
              (holdsUser.reads follows) owner
          rw [upholds_bind]
          refine upholds_read rfl rfl ?_
          intro last chosen
          refine upholds_reported
            (chosen.issued_nil.trans
              (follows.issued_nil.trans nothingSecond)) ?_ ?_
          · intro held isLink
            obtain rfl := Option.some.inj isLink
            exact ⟨rfl, both.reads chosen⟩
          · intro held newest isLink isLatest sameId
            obtain rfl := Option.some.inj isLink
            -- The link is the latest one, so it is of the highest generation.
            have issuedSame :=
              asIssued_eq_of_sane looked.sane follows.sane stored holds.seen
            have latestStored := (latest_stored isLatest).1
            have latestSame : newest.asIssued = link.asIssued := by
              refine asIssued_eq_of_sane chosen.sane follows.sane ?_ holds.seen
              rw [sameId]
              exact latestStored
            intro id other found requested
            rw [EmailLink.of_asIssued EmailLink.userId
                (fun _ => rfl) issuedSame.symm,
              EmailLink.of_asIssued EmailLink.purpose
                (fun _ => rfl) issuedSame.symm] at requested
            rcases generation_le_latest found requested with
              ⟨latest, isLatestToo, below⟩
            obtain rfl := Option.some.inj (isLatest.symm.trans isLatestToo)
            rw [← EmailLink.of_asIssued EmailLink.generation
                (fun _ => rfl) latestSame]
            exact below

theorem keeps_markDeliveryFailed
    {linkId : Uuid}
    {normal : Unit → ServiceStanding → Prop}
    {failed : Failure → ServiceStanding → Prop}
    (continues : ∀ value later, normal value later) :
    Upholds (linkDiscipline env book) env (.markDeliveryFailed linkId now)
      (markDeliveryFailed linkId now) normal failed standing := by
  rw [markDeliveryFailed, upholds_bind]
  refine upholds_point rfl (fun _ _ => rfl) ?_
  intro seen later _ _ _ _
  split
  · exact continues _ _
  · exact upholds_record fun _ _ _ => continues _ _

/-! ## Consumption -/

section Consumption

variable
  {presentation : Presentation}
  {candidate link : EmailLink}
  {user : UserAccount}
  {view : Store}

/-- Who presents a link reports no delivery. -/
theorem presents_not_delivers
    {linkId : Uuid}
    (presents : call.presents = some presentation) :
    call ≠ .markDelivered linkId now := by
  rintro rfl
  cases presents

/-- A presented link is the one that was issued with its token. -/
theorem HoldsPresented.presents
    (held :
      HoldsPresented (linkDiscipline env book) env.toDependencies
        presentation.token presentation.purpose candidate link view standing)
    (presents : call.presents = some presentation) :
    Presents env call presentation link := by
  have stored : view.links.get? link.id = some candidate :=
    held.same ▸ held.presented.stored
  have same :=
    asIssued_eq_of_sane held.presented.sane held.sane stored held.holds.seen
  exact
    { call := presents
      token :=
        (EmailLink.of_asIssued EmailLink.tokenHash
          (fun _ => rfl) same).symm.trans
          held.presented.token
      purpose :=
        (EmailLink.of_asIssued EmailLink.purpose (fun _ => rfl) same).symm.trans
          held.presented.purpose }

/-- A presented link is held with its account. -/
theorem HoldsPresented.both
    {token : String}
    {purpose : EmailLinkPurpose}
    (held :
      HoldsPresented (linkDiscipline env book) env.toDependencies token
        purpose candidate link view standing)
    (holdsUser : HoldsRow standing (.user user.id) (some user))
    (owner : user.id = candidate.userId) :
    HoldsBoth standing link user :=
  .of_candidate held.presented.sane (held.same ▸ held.presented.stored)
    held.sane held.holds holdsUser owner

/-- A link that may be redeemed is permitted to be consumed. -/
theorem Redeemable.redeems
    (redeemable :
      Redeemable (linkDiscipline env book) env.toDependencies
        presentation.token presentation.purpose presentation.now
        presentation.browserNonce candidate link user view standing)
    (presents : call.presents = some presentation) :
    Redeems env call standing presentation link user where
  presented := redeemable.presented.presents presents
  holds := redeemable.presented.both redeemable.holds redeemable.owner
  matched := redeemable.matched
  browser := redeemable.browser

/-- A lookup that wrote anything revoked a link that did not match. -/
theorem Refused.of_closes
    (presents : call.presents = some presentation)
    (nothing : earlier.issued = [])
    (closes :
      Closes (linkDiscipline env book) call presentation.now earlier later) :
    Refused env call presentation later.issued := by
  intro write member
  rcases closes with issued | ⟨link, before, permitted, found, issued⟩
  · rw [issued, nothing] at member
    cases member
  · rw [issued, nothing, List.nil_append] at member
    obtain rfl := List.mem_singleton.mp member
    rcases permitted with
      ⟨reported, _⟩ | ⟨presented, dismissed, user, same, _, dismisses⟩
    · exact absurd reported (presents_not_delivers presents)
    · have isPresented :=
        Option.some.inj (presents.symm.trans dismisses.presented.call)
      rw [same.symm, dismisses.holds.found] at found
      obtain rfl := Option.some.inj found
      exact .inr ⟨dismissed, user, before, isPresented ▸ dismisses, rfl⟩

theorem Refused.records
    {event : SecurityEvent}
    (refused : Refused env call presentation earlier.issued)
    (issued : later.issued = earlier.issued ++ [.appendEvent event]) :
    Refused env call presentation later.issued := by
  intro write member
  rw [issued, List.mem_append, List.mem_singleton] at member
  rcases member with before | rfl
  · exact refused write before
  · exact .inl ⟨event, rfl⟩

/-- A consumption that redeemed a link keeps its promise. -/
theorem linkPromise_of_redeemed
    {answer : Except Failure call.Answer}
    (presents : call.presents = some presentation)
    (redeemed : Redeemed env call presentation standing.issued) :
    linkPromise env call answer standing := by
  refine ⟨?_, fun _ _ same => absurd same (presents_not_delivers presents)⟩
  intro another same
  obtain rfl := Option.some.inj (presents.symm.trans same)
  exact .inl redeemed

/-- A consumption that was refused keeps its promise. -/
theorem linkPromise_of_refused
    {answer : Except Failure call.Answer}
    (presents : call.presents = some presentation)
    (without : ¬ call.Succeeds answer)
    (refused : Refused env call presentation standing.issued) :
    linkPromise env call answer standing := by
  refine ⟨?_, fun _ _ same => absurd same (presents_not_delivers presents)⟩
  intro another same
  obtain rfl := Option.some.inj (presents.symm.trans same)
  exact .inr ⟨without, refused⟩

/--
Consuming a link redeems it, or refuses it, if completing it writes no link.
-/
theorem keeps_consuming_link
    {kinds : List StatementKind}
    {complete : UserAccount → Tx α}
    {refused : Option UserAccount → Tx Unit}
    {normal : Option α → ServiceStanding → Prop}
    {failed : Failure → ServiceStanding → Prop}
    (presentation : Presentation)
    (nothing : standing.issued = [])
    (presents : call.presents = some presentation)
    (completes : ∀ user, StaysWithin kinds (complete user))
    (disjoint : .changesLinks ∉ kinds)
    (refuses :
      ∀ user standing,
        Refused env call presentation standing.issued →
          Upholds (linkDiscipline env book) env call (refused user)
            (fun _ later => Refused env call presentation later.issued)
            (fun _ later => Refused env call presentation later.issued)
            standing)
    (succeeds :
      ∀ value later, Redeemed env call presentation later.issued →
        normal (some value) later)
    (fails :
      ∀ later, Refused env call presentation later.issued →
        normal none later)
    (raises :
      ∀ failure later,
        Redeemed env call presentation later.issued ∨
            Refused env call presentation later.issued →
          failed failure later) :
    Upholds (linkDiscipline env book) env call
      (consuming env.toDependencies presentation.token presentation.purpose
        presentation.now presentation.browserNonce complete refused)
      normal failed standing := by
  refine upholds_consuming ?_ ?_ ?_ ?_ ?_ ?_
  · intro candidate link view later held missing
    have stays : UserStays (view.users.get? candidate.userId) none := missing
    have exists_ := stays (held.presented.sane.owned _ _ held.presented.stored)
    cases exists_
  · intro candidate link user view later held holdsUser owner unmatched
    refine .inr ⟨presentation, link, user, rfl, rfl, ?_⟩
    exact
      { presented := held.presents presents
        holds := held.both holdsUser owner
        active := held.active
        unmatched := unmatched }
  · intro candidate link user view later redeemable
    exact ⟨presentation, link, user, rfl, rfl, rfl,
      redeemable.redeems presents⟩
  · intro candidate link user view before later redeemable _ issued
    have redeemed :
        ∀ {last : ServiceStanding}, later.issued ⊆ last.issued →
          Redeemed env call presentation last.issued := by
      intro last subset
      refine ⟨link, user, before, redeemable.redeems presents, subset ?_⟩
      rw [issued]
      simp
    refine upholds_of_within_issued (completes user) ?_
      (fun value last subset => succeeds value last (redeemed subset))
      fun failure last subset => raises failure last (.inl (redeemed subset))
    intro kind member concerned
    obtain rfl := List.mem_singleton.mp concerned
    exact disjoint member
  · intro user later closes
    exact upholds_mono
      (refuses user later (.of_closes presents nothing closes))
      (fun _ last isRefused => fails last isRefused)
      fun failure last isRefused => raises failure last (.inr isRefused)
  · intro failure later same
    refine raises failure later (.inr ?_)
    rw [same, nothing]
    exact fun _ member => nomatch member

end Consumption

/-! ## Every transaction -/

/-- A call keeps the discipline of links, and what it promises. -/
abbrev KeepsLinks
    (env : Environment)
    (book : Uuid → EmailLink)
    (call : ServiceTx)
    (body : Tx call.Answer)
    (standing : ServiceStanding) :
    Prop :=
  ((linkDiscipline env book).contract env).Keeps (linkPromise env) call body
    standing

/-- Nothing but events is written when a login is refused. -/
theorem refuses_loginFailure
    {presentation : Presentation}
    {user : Option UserAccount}
    (refused : Refused env call presentation standing.issued) :
    Upholds (linkDiscipline env book) env call (loginFailure now context user)
      (fun _ later => Refused env call presentation later.issued)
      (fun _ later => Refused env call presentation later.issued)
      standing :=
  upholds_record fun _ _ follows => refused.records follows.issued

theorem redeems_emailLinkLogin
    {token browserNonce : String}
    {draws : SessionDraws}
    (nothing : standing.issued = []) :
    KeepsLinks env book
      (.emailLinkLogin token browserNonce now context draws)
      (emailLinkLogin env.toDependencies token browserNonce now context draws)
      standing := by
  refine keeps_consuming_link ⟨token, .login, now, some browserNonce⟩ nothing rfl
    (fun _ => .bind issue_within fun _ => .bind .record fun _ => .pure _)
    (by simp)
    (fun _ _ => refuses_loginFailure) ?_ ?_ ?_
  · exact fun _ _ redeemed => linkPromise_of_redeemed rfl redeemed
  · exact fun _ refused =>
      linkPromise_of_refused rfl (fun same => same) refused
  · rintro failure later (redeemed | refused)
    · exact linkPromise_of_redeemed rfl redeemed
    · exact linkPromise_of_refused rfl (fun same => same) refused

theorem redeems_emailLinkResetPassword
    {token passwordHash : String}
    (nothing : standing.issued = []) :
    KeepsLinks env book
      (.emailLinkResetPassword token passwordHash now context)
      (emailLinkResetPassword env.toDependencies token passwordHash now context)
      standing := by
  refine keeps_consuming_link ⟨token, .passwordReset, now, none⟩ nothing rfl
    (fun _ => replacing_within) (by simp)
    (fun _ _ refused => refused) ?_ ?_ ?_
  · exact fun _ _ redeemed => linkPromise_of_redeemed rfl redeemed
  · exact fun _ refused =>
      linkPromise_of_refused rfl (fun same => same) refused
  · rintro failure later (redeemed | refused)
    · exact linkPromise_of_redeemed rfl redeemed
    · exact linkPromise_of_refused rfl (fun same => same) refused

theorem redeems_activateInvitation
    {token passwordHash : String}
    (nothing : standing.issued = []) :
    KeepsLinks env book
      (.activateInvitation token passwordHash now context)
      (activateInvitation env.toDependencies token passwordHash now context)
      standing := by
  refine keeps_consuming_link ⟨token, .invitation, now, none⟩ nothing rfl
    (fun _ => replacing_within) (by simp)
    (fun _ _ refused => refused) ?_ ?_ ?_
  · exact fun _ _ redeemed => linkPromise_of_redeemed rfl redeemed
  · exact fun _ refused =>
      linkPromise_of_refused rfl (fun same => same) refused
  · rintro failure later (redeemed | refused)
    · exact linkPromise_of_redeemed rfl redeemed
    · exact linkPromise_of_refused rfl (fun same => same) refused

theorem redeems_activate
    {token passwordHash : String}
    (nothing : standing.issued = []) :
    KeepsLinks env book
      (.activate token passwordHash now context)
      (activate env.toDependencies token passwordHash now context)
      standing := by
  refine keeps_consuming_link ⟨token, .activation, now, none⟩ nothing rfl
    (fun _ => .bind (.ofExcept _) fun _ => replacing_within) (by simp)
    (fun _ _ refused => refused) ?_ ?_ ?_
  · exact fun _ _ redeemed => linkPromise_of_redeemed rfl redeemed
  · exact fun _ refused =>
      linkPromise_of_refused rfl (fun same => same) refused
  · rintro failure later (redeemed | refused)
    · exact linkPromise_of_redeemed rfl redeemed
    · exact linkPromise_of_refused rfl (fun same => same) refused

/-- Every call keeps the contract of links and its promise. -/
theorem link_callKeeps (tx : ServiceTx) :
    ((linkDiscipline env book).contract env).CallKeeps (linkPromise env)
      tx := by
  intro view locks
  have harmless :
      .changesLinks ∉ tx.kinds →
      tx.presents = none →
      (∀ linkId now, tx ≠ .markDelivered linkId now) →
      KeepsLinks env book tx (tx.body env)
        { view := view, locks := locks, issued := [] } := by
    intro apart presents delivers
    refine upholds_of_within tx.body_within ?_
      (fun _ _ => linkPromise_of_other presents delivers)
      fun _ _ => linkPromise_of_other presents delivers
    intro kind member concerned
    obtain rfl := List.mem_singleton.mp concerned
    exact apart member
  -- Requests consume and deliver nothing.
  have promised :
      tx.presents = none →
      (∀ linkId now, tx ≠ .markDelivered linkId now) →
      ∀ answer later, linkPromise env tx answer later :=
    fun presents delivers _ _ => linkPromise_of_other presents delivers
  cases tx with
  | requestLogin normalizedEmail browserNonce now context draws =>
      have promise := promised rfl (by rintro _ _ ⟨⟩)
      exact keeps_requestForEmail rfl rfl (fun _ _ => promise _ _)
        fun _ _ => promise _ _
  | requestPasswordReset normalizedEmail now context draws =>
      have promise := promised rfl (by rintro _ _ ⟨⟩)
      exact keeps_requestForEmail rfl rfl (fun _ _ => promise _ _)
        fun _ _ => promise _ _
  | invite userId now context draws =>
      have promise := promised rfl (by rintro _ _ ⟨⟩)
      exact keeps_invite (fun _ _ => promise _ _) fun _ _ => promise _ _
  | replaceActivation userId now context draws =>
      have promise := promised rfl (by rintro _ _ ⟨⟩)
      exact keeps_replaceActivation (fun _ _ => promise _ _)
        fun _ _ => promise _ _
  | provision id email displayName passwordHash roles scopes now context
      draws =>
      have promise := promised rfl (by rintro _ _ ⟨⟩)
      exact keeps_createPending rfl rfl rfl (fun _ _ => promise _ _)
        fun _ _ => promise _ _
  | ensureInitialAdmin normalizedEmail id email displayName passwordHash
      scopes now context draws =>
      have promise := promised rfl (by rintro _ _ ⟨⟩)
      exact keeps_ensureInitialAdmin rfl rfl rfl (fun _ _ => promise _ _)
        fun _ _ => promise _ _
  | markDelivered linkId now =>
      refine upholds_mono (keeps_markDelivered rfl) ?_ ?_
      · intro reported later delivers
        refine ⟨(by rintro _ ⟨⟩), ?_⟩
        intro id at_ same
        obtain ⟨rfl, rfl⟩ := ServiceTx.markDelivered.inj same
        rcases delivers with none | ⟨rfl, only⟩
        · exact .inl none
        · exact .inr ⟨trivial, only⟩
      · intro failure later none
        exact ⟨(by rintro _ ⟨⟩), fun _ _ _ => .inl none⟩
  | markDeliveryFailed linkId now =>
      have promise := promised rfl (by rintro _ _ ⟨⟩)
      exact keeps_markDeliveryFailed fun _ _ => promise _ _
  | emailLinkLogin token browserNonce now context draws =>
      exact redeems_emailLinkLogin rfl
  | emailLinkResetPassword token passwordHash now context =>
      exact redeems_emailLinkResetPassword rfl
  | activateInvitation token passwordHash now context =>
      exact redeems_activateInvitation rfl
  | activate token passwordHash now context =>
      exact redeems_activate rfl
  | _ =>
      exact harmless (by simp [ServiceTx.kinds]) rfl (by rintro _ _ ⟨⟩)

end EpokAuth
