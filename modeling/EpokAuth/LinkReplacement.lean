import EpokAuth.LinkOrder
import EpokAuth.ScriptedRun
import EpokAuth.ScriptedSchedule

namespace EpokAuth

open Transactional

/-!
# How an active link ends

An active link that is not active any more after some commit was ended by a
statement of the transaction that is committed.  The statements that end one
are few: one consumes it, one revokes it because it is presented and does not
match its account, one revokes it because its delivery is reported again, one
revokes it because a newer link was activated in the same call, and one removes
links older than the retention.
-/

variable
  {Client : Type}
  [DecidableEq Client]
  {env : Environment}
  {pool : Client → ServiceTx → Prop}
  {book : Uuid → EmailLink}
  {config next : Config Client (services env)}
  {client : Client}
  {event : Event Client (services env)}
  {labels : List (Event Client (services env))}

/-- A link expired, or its account changed or lost its eligibility. -/
def Mismatched
    (env : Environment)
    (link : EmailLink)
    (user : UserAccount)
    (now : Instant) :
    Prop :=
  link.expiresAt ≤ now ∨
    link.securityVersion ≠ user.securityVersion ∨
    link.recipientHash ≠ env.tokenHash user.email ∨
    canRequest env.settings user link.purpose now = false

/-- An active link is refused only when it is mismatched. -/
theorem mismatched_of_unmatched
    {link : EmailLink}
    {user : UserAccount}
    {now : Instant}
    (active : link.state = .active)
    (unmatched : matchesUser env.toDependencies link user now = .ok false) :
    Mismatched env link user now := by
  rw [matchesUser, if_pos active] at unmatched
  exact boundTo_ok_false unmatched

/-- The statement by which a client ends an active link that it sees. -/
inductive LinkEnds
    (env : Environment)
    (config : Config Client (services env))
    (client : Client)
    (event : Event Client (services env))
    (link : EmailLink) :
    Prop where
  | consumed
      {call : ServiceTx}
      {presentation : Presentation}
      (inCall : (config.phases client).call? = some call)
      (presents : Presents env call presentation link)
      (consumes :
        event =
          .issues client
            (.consumeEmailLink link.id link.purpose presentation.now))
  | mismatched
      {call : ServiceTx}
      {presentation : Presentation}
      {user : UserAccount}
      (inCall : (config.phases client).call? = some call)
      (presents : Presents env call presentation link)
      (owner :
        (config.sees client).users.get? link.userId = some user ∧
          Mismatched env link user presentation.now)
      (revokes :
        event = .issues client (.revokeEmailLink link.id presentation.now))
  | reported
      {now : Instant}
      (inCall :
        (config.phases client).call? = some (.markDelivered link.id now))
      (revokes : event = .issues client (.revokeEmailLink link.id now))
  | replaced
      {newer : EmailLink}
      {now : Instant}
      (inCall :
        (config.phases client).call? = some (.markDelivered newer.id now))
      (sees : (config.sees client).links.get? newer.id = some newer)
      (activated :
        newer.state = .active ∧ Write.putLink newer ∈ config.writes client)
      (sameUse : newer.userId = link.userId ∧ newer.purpose = link.purpose)
      (higher : link.generation < newer.generation)
      (visits : ∃ target, event = .visits client target)
  | removed
      {call : ServiceTx}
      {now : Instant}
      (inCall : (config.phases client).call? = some call)
      (clock : call.clock = some now)
      (old :
        link.createdAt + seconds env.settings.emailLinkRetentionSeconds < now)
      (visits : ∃ target, event = .visits client target)

omit [DecidableEq Client] in
/-- A statement that moves an active link ends it. -/
theorem linkEnds_of_moves
    {issued before : List Write}
    {call : ServiceTx}
    {statement : Statement}
    {link after : EmailLink}
    (holds : LinksHold book config)
    (inCall :
      (config.phases client).call? = some call ∧
        (config.phases client).before? = some before)
    (written : config.writes client = before ++ issued)
    (permitted :
      linkPermits env call
        { view := config.sees client
          locks := config.locks client
          issued := issued }
        statement)
    (takes : statement.TakesEffect client event)
    (active : link.state = .active)
    (found : (config.sees client).links.get? link.id = some link)
    (moves : statement.MovesLink link after) :
    LinkEnds env config client event link := by
  cases statement with
  | activateEmailLink linkId now =>
      cases active.symm.trans moves.2.1
  | failEmailLink linkId now =>
      cases active.symm.trans moves.2.1
  | revokeEmailLink linkId now =>
      obtain ⟨rfl, _, _⟩ := moves
      rcases permitted with
        ⟨rfl, _⟩ | ⟨presentation, dismissed, user, same, rfl, dismisses⟩
      · exact .reported inCall.1 takes
      · have foundToo := dismisses.holds.found
        rw [same] at foundToo
        obtain rfl := Option.some.inj (foundToo.symm.trans found)
        have owner := dismisses.holds.holdsUser.seen
        rw [← dismisses.holds.owner] at owner
        exact .mismatched inCall.1 dismisses.presented
          ⟨owner, mismatched_of_unmatched active dismisses.unmatched⟩ takes
  | revokeOtherActiveEmailLinks userId purpose linkId now =>
      obtain ⟨newer, rfl, rfl, rfl, replaces⟩ := permitted
      have isOther := moves.1
      simp only [Store.isOtherActive, Bool.and_eq_true, decide_eq_true_eq]
        at isOther
      have requested := isOther.1.1
      simp only [Store.requestedFor, Bool.and_eq_true, decide_eq_true_eq]
        at requested
      have sees :
          (config.sees client).links.get? newer.id = some newer :=
        replaces.holds.seen
      -- Two links of one generation would be one link.
      have different : link.generation ≠ newer.generation := by
        intro same
        exact isOther.1.2
          ((holds.invariant.views client).generations link.id newer.id link
            newer found sees requested.1 requested.2 same)
      have below : link.generation ≤ newer.generation :=
        replaces.newest link.id link found isOther.1.1
      have activated : Write.putLink newer ∈ config.writes client := by
        rw [written]
        exact List.mem_append_right _ replaces.activated
      have reporting :
          (config.phases client).call? = some (.markDelivered newer.id now) := by
        rw [inCall.1, replaces.reported]
      exact .replaced reporting sees ⟨replaces.active, activated⟩
        ⟨requested.1.symm, requested.2.symm⟩
        (Nat.lt_of_le_of_ne below different) takes
  | consumeEmailLink linkId purpose now =>
      obtain ⟨rfl, _, _⟩ := moves
      obtain ⟨presentation, redeemed, user, same, rfl, rfl, redeems⟩ :=
        permitted
      have foundToo := redeems.holds.found
      rw [same] at foundToo
      obtain rfl := Option.some.inj (foundToo.symm.trans found)
      exact .consumed inCall.1 redeems.presented takes
  | _ => exact moves.elim

omit [DecidableEq Client] in
/-- Whoever stops to see an active link ended it by one of these statements. -/
theorem linkEnds_of_act
    {link : EmailLink}
    (holds : LinksHold book config)
    (act : LinkAct env config next client event)
    (active : link.state = .active)
    (found : (config.sees client).links.get? link.id = some link)
    (lost : (next.sees client).links.get? link.id ≠ some link) :
    LinkEnds env config client event link := by
  cases act with
  | quiet sees writes =>
      rw [sees] at lost
      exact absurd found lost
  | @writes issued call before statement write inCall written permitted takes
      may sees writes =>
      rw [sees] at lost
      cases may.row link.id with
      | kept same => exact absurd (same.trans found) lost
      | inserted _ _ absent _ _ => cases absent.symm.trans found
      | @moved moved after foundMoved moves puts isRow =>
          obtain rfl := Option.some.inj (foundMoved.symm.trans found)
          exact linkEnds_of_moves holds inCall written permitted takes active
            found moves
      | @removed removed before foundRemoved old removes isRow =>
          obtain rfl := Option.some.inj (foundRemoved.symm.trans found)
          subst removes
          obtain ⟨now, clock, rfl⟩ := permitted
          exact .removed inCall.1 clock (Int.add_lt_of_lt_sub_right old) takes

/-- The account and purpose of a link, as requests are counted. -/
theorem requestedFor_self (link : EmailLink) :
    Store.requestedFor link.userId link.purpose link = true := by
  simp [Store.requestedFor]

/--
In every state of a run, an account has at most one active link for a purpose;
and when a step ends an active link, it commits a transaction that consumed it,
revoked it because it was presented and did not match its account or because
its delivery was reported, replaced it by a newer one that was activated, or
removed it after its retention.
-/
theorem active_link_until_cause
    (once : LinksDrawnOnce labels)
    (run : Run (Step pool) (.quiescent {}) labels config) :
    (∀ id other link another,
        config.committed.links.get? id = some link →
        config.committed.links.get? other = some another →
        link.userId = another.userId →
        link.purpose = another.purpose →
        link.state = .active → another.state = .active → id = other) ∧
      ∀ event next link,
        Step pool config event next →
        config.committed.links.get? link.id = some link →
        link.state = .active →
        next.committed.links.get? link.id ≠ some link →
          ∃ client,
            event = .commits client ∧
              TookSince pool (.quiescent {}) (Event.Ends client)
                (fun before taken _ => LinkEnds env before client taken link)
                labels := by
  rcases once.exists_book with ⟨book, admitted⟩
  refine ⟨?_, ?_⟩
  · intro id other link another found foundToo sameUser samePurpose active
      activeToo
    have orderly :=
      (orderly_of_run admitted run).committed link.userId link.purpose
    refine orderly.single id other link another found foundToo
      (requestedFor_self link) ?_ active activeToo
    rw [sameUser, samePurpose]
    exact requestedFor_self another
  · intro event next link step found active changed
    cases step with
    | @commit committer idle =>
        refine ⟨committer, rfl, ?_⟩
        have lost :=
          lost_in_transaction (StoreRow.observation (.link link.id)) committer
            run Config.proper_quiescent (fun row => row = some link) rfl found
            changed
        rcases lost with
          ⟨earlier, taken, later, before, after, rfl, beforeRun, taking, isOpen,
            acts, foundBefore, lostAfter⟩
        have admittedBefore :
            ∀ event ∈ earlier, event.Admitted (LinkAdmitted book) :=
          fun event member => admitted event (List.mem_append_left _ member)
        have holds := links_hold admittedBefore beforeRun
        exact ⟨earlier, taken, later, before, after, rfl, beforeRun, taking,
          isOpen,
          linkEnds_of_act holds (holds.acts taking acts) active foundBefore
            lostAfter⟩
    | _ => exact absurd found changed

/-- An account whose second link for a purpose is delivered after the first. -/
def deliveredTwice :
    List (Event Unit (services referenceEnvironment)) ×
      Config Unit (services referenceEnvironment) :=
  obeyAll [()] (fun _ _ => true)
    (transaction ()
        (.createUser 1 "user@example.test" "User" "password" [] [] false 0 {})
        3 ++
      transaction ()
        (.requestPasswordReset "user@example.test" 10 {}
          { linkId := 2, token := "first" })
        8 ++
      transaction () (.markDelivered 2 20) 9 ++
      transaction ()
        (.requestPasswordReset "user@example.test" 30 {}
          { linkId := 3, token := "second" })
        8 ++
      .call () (.markDelivered 3 40) :: List.replicate 10 (.proceed ()))
    (.quiescent {})

/-- When the second delivery is committed, the first link has been ended. -/
theorem active_link_until_cause_deliveredTwice :
    ∃ link,
      deliveredTwice.2.committed.links.get? 2 = some link ∧
        link.state = .active ∧
        (deliveredTwice.2.conclude ()).committed.links.get? 2 ≠ some link ∧
        TookSince (fun _ _ => True) (.quiescent {}) (Event.Ends ())
          (fun before taken _ =>
            LinkEnds referenceEnvironment before () taken link)
          deliveredTwice.1 := by
  have run :
      Run (Step fun _ _ => True) (.quiescent {}) deliveredTwice.1
        deliveredTwice.2 :=
    run_obeyAll (fun _ => List.mem_singleton.mpr rfl) (fun _ _ _ => trivial)
      _ _
  have commits :
      Step (fun _ _ => True) deliveredTwice.2 (.commits ())
        (deliveredTwice.2.conclude ()) :=
    .commit rfl
  have once : LinksDrawnOnce deliveredTwice.1 := by
    have drawn :
        (deliveredTwice.1.filterMap insertedLink?).map EmailLink.id = [2, 3] :=
      rfl
    rw [LinksDrawnOnce, drawn]
    decide
  obtain ⟨link, found, active, changed⟩ :
      ∃ link,
        deliveredTwice.2.committed.links.get? 2 = some link ∧
          link.state = .active ∧
          (deliveredTwice.2.conclude ()).committed.links.get? 2 ≠
            some link :=
    ⟨_, rfl, rfl, by decide⟩
  have isId : link.id = 2 := Table.key_of_get? found
  rcases (active_link_until_cause once run).2 _ _ link commits
      (isId ▸ found) active (isId ▸ changed) with
    ⟨client, _, took⟩
  exact ⟨link, found, active, changed, took⟩

end EpokAuth
