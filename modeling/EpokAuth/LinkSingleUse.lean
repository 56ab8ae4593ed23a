import EpokAuth.LinkHistory
import EpokAuth.LinkReplacement

namespace EpokAuth

open Transactional

/-!
# Email links are used once, and as they were issued

A consumption is a statement by which a client makes a link consumed where it
sees it.  Its link was delivered before, and matches what it was issued with.
After one, nobody sees the link as unused unless its client rolls back, so no
second one follows; and a call that succeeds contains one.
-/

variable
  {Client : Type}
  [DecidableEq Client]
  {env : Environment}
  {pool : Client → ServiceTx → Prop}
  {book : Uuid → EmailLink}
  {config next : Config Client (services env)}
  {client : Client}
  {event : Event Client (services env)}
  {labels : List (Event Client (services env))}
  {id : Uuid}

/-- The client makes a link consumed where it sees it. -/
structure ConsumesLink
    (client : Client)
    (link : EmailLink)
    (before : Config Client (services env))
    (event : Event Client (services env))
    (after : Config Client (services env)) :
    Prop where
  acts : event.Acts client
  seen : (before.sees client).links.get? link.id = some link
  unconsumed : link.state ≠ .consumed
  consumed :
    ∃ used,
      (after.sees client).links.get? link.id = some used ∧
        used.state = .consumed

/-- A presentation agrees with the terms on which a link was issued. -/
structure UsedAsIssued
    (env : Environment)
    (terms : IssueTerms)
    (user : UserAccount)
    (presentation : Presentation) :
    Prop where
  token : env.tokenHash presentation.token = env.tokenHash terms.draws.token
  purpose : presentation.purpose = terms.purpose
  inTime :
    presentation.now <
      terms.now + seconds (emailLinkTtl env.settings terms.purpose)
  owner : user.id = terms.user.id
  email : env.tokenHash user.email = env.tokenHash terms.user.email
  version : user.securityVersion = terms.user.securityVersion
  roles : terms.purpose ≠ .activation → env.settings.adminRole ∉ user.roles
  browser :
    terms.purpose = .login →
      ∃ nonce issuedNonce,
        presentation.browserNonce = some nonce ∧
          terms.browserNonce = some issuedNonce ∧
          env.tokenHash nonce = env.tokenHash issuedNonce

/-- Who may request a link for a purpose other than activation is no admin. -/
theorem not_admin_of_canRequest
    {settings : AuthSettings}
    {user : UserAccount}
    {purpose : EmailLinkPurpose}
    {now : Instant}
    (eligible : canRequest settings user purpose now = true)
    (other : purpose ≠ .activation) :
    settings.adminRole ∉ user.roles := by
  cases purpose with
  | activation => exact absurd rfl other
  | login =>
      simp only [canRequest, Bool.and_eq_true, decide_eq_true_eq] at eligible
      exact eligible.1.1.1
  | passwordReset =>
      simp only [canRequest, Bool.and_eq_true, decide_eq_true_eq] at eligible
      exact eligible.1.1
  | invitation =>
      simp only [canRequest, Bool.and_eq_true, decide_eq_true_eq] at eligible
      exact eligible.1.1

/-- A browser that is accepted presents a nonce of the stored digest. -/
theorem exists_nonce_of_validBrowser
    {deps : Dependencies}
    {link : EmailLink}
    {browserNonce : Option String}
    (accepted : validBrowser deps link browserNonce = .ok true) :
    ∃ nonce,
      browserNonce = some nonce ∧
        link.browserHash = some (deps.tokenHash nonce) := by
  unfold validBrowser at accepted
  split at accepted
  · rename_i browserHash nonce isHash
    exact ⟨nonce, rfl, by rw [isHash, eq_of_compareDigest accepted]⟩
  · cases accepted

/-- What a redeemed link was issued with is what is presented. -/
theorem usedAsIssued_of_redeems
    {call : ServiceTx}
    {standing : ServiceStanding}
    {presentation : Presentation}
    {link : EmailLink}
    {user : UserAccount}
    {terms : IssueTerms}
    (redeems : Redeems env call standing presentation link user)
    (advances : (terms.link env).Advances link) :
    UsedAsIssued env terms user presentation := by
  have same := advances.asIssued_eq
  have active := (matchesUser_ok_true redeems.matched).1
  have bound := redeems.matched
  rw [matchesUser, if_pos active] at bound
  have facts := boundTo_ok_true bound
  have purposeOf : link.purpose = terms.purpose :=
    EmailLink.of_asIssued EmailLink.purpose (fun _ => rfl) same
  have expiresAt : link.expiresAt = (terms.link env).expiresAt :=
    EmailLink.of_asIssued EmailLink.expiresAt (fun _ => rfl) same
  have securityVersion :
      link.securityVersion = (terms.link env).securityVersion :=
    EmailLink.of_asIssued EmailLink.securityVersion (fun _ => rfl) same
  have recipientHash : link.recipientHash = (terms.link env).recipientHash :=
    EmailLink.of_asIssued EmailLink.recipientHash (fun _ => rfl) same
  have browserHash : link.browserHash = (terms.link env).browserHash :=
    EmailLink.of_asIssued EmailLink.browserHash (fun _ => rfl) same
  refine
    { token := ?_
      purpose := redeems.presented.purpose.symm.trans purposeOf
      inTime := lt_of_lt_of_eq facts.1 expiresAt
      owner := ?_
      email := ?_
      version := facts.2.1.symm.trans securityVersion
      roles := ?_
      browser := ?_ }
  · rw [← redeems.presented.token]
    exact EmailLink.of_asIssued EmailLink.tokenHash (fun _ => rfl) same
  · rw [← redeems.holds.owner]
    exact EmailLink.of_asIssued EmailLink.userId (fun _ => rfl) same
  · rw [← recipientHash_of_boundTo bound]
    exact recipientHash
  · intro other
    exact not_admin_of_canRequest facts.2.2 (purposeOf ▸ other)
  · intro isLogin
    have presented : presentation.purpose = .login := by
      rw [← redeems.presented.purpose, purposeOf, isLogin]
    rcases exists_nonce_of_validBrowser (redeems.browser presented) with
      ⟨nonce, isNonce, stored⟩
    rw [browserHash] at stored
    have mapped :
        terms.browserNonce.map env.tokenHash = some (env.tokenHash nonce) :=
      stored
    rcases Option.map_eq_some_iff.mp mapped with ⟨issuedNonce, isIssued, hashes⟩
    exact ⟨nonce, issuedNonce, isNonce, isIssued, hashes.symm⟩

omit [DecidableEq Client] in
/-- A statement that consumes a link is permitted to redeem it. -/
theorem ConsumesLink.redeems
    {link : EmailLink}
    (consumes : ConsumesLink client link config event next)
    (act : LinkAct env config next client event) :
    ∃ call issued presentation user,
      (config.phases client).call? = some call ∧
        link.state = .active ∧
        Redeems env call
          { view := config.sees client
            locks := config.locks client
            issued := issued }
          presentation link user ∧
        event =
          .issues client
            (.consumeEmailLink link.id link.purpose presentation.now) ∧
        next.writes client =
          config.writes client ++
            [.putLink (Store.consumeLinkAt presentation.now link)] := by
  rcases consumes.consumed with ⟨used, foundUsed, isConsumed⟩
  cases act with
  | quiet sees writes =>
      rw [sees] at foundUsed
      obtain rfl := Option.some.inj (consumes.seen.symm.trans foundUsed)
      exact absurd isConsumed consumes.unconsumed
  | @writes issued call before statement write inCall written permitted takes
      may sees writes =>
      rw [sees] at foundUsed
      cases may.row link.id with
      | kept same =>
          obtain rfl :=
            Option.some.inj
              ((same.trans consumes.seen).symm.trans foundUsed)
          exact absurd isConsumed consumes.unconsumed
      | inserted _ _ absent _ _ => cases absent.symm.trans consumes.seen
      | @moved moved after found moves puts isRow =>
          obtain rfl := Option.some.inj (isRow.symm.trans foundUsed)
          obtain rfl := Option.some.inj (found.symm.trans consumes.seen)
          obtain ⟨purpose, now, rfl, consumable, rfl⟩ :=
            moves.consumes isConsumed
          obtain ⟨presentation, redeemed, user, same, rfl, rfl, redeems⟩ :=
            permitted
          have foundToo := redeems.holds.found
          rw [same] at foundToo
          obtain rfl := Option.some.inj (foundToo.symm.trans found)
          exact ⟨call, issued, presentation, user, inCall.1,
            (matchesUser_ok_true redeems.matched).1, redeems, takes,
            puts ▸ writes⟩
      | removed _ _ _ isRow => cases isRow.symm.trans foundUsed

/-- A link that is consumed was delivered before, and is used as issued. -/
theorem ConsumesLink.used
    {link : EmailLink}
    (consumes : ConsumesLink client link config event next)
    (admitted : ∀ event ∈ labels, event.Admitted (LinkAdmitted book))
    (run : Run (Step pool) (.quiescent {}) labels config)
    (step : Step pool config event next) :
    ReportedDelivered labels link.id ∧
      ∃ call terms user presentation,
        (config.phases client).call? = some call ∧
          call.presents = some presentation ∧
          WasIssued pool labels terms ∧
          (terms.link env).Advances link ∧
          (config.sees client).users.get? terms.user.id = some user ∧
          UsedAsIssued env terms user presentation := by
  have holds := links_hold admitted run
  rcases consumes.redeems (holds.acts step consumes.acts) with
    ⟨call, issued, presentation, user, inCall, active, redeems, _⟩
  rcases (issuedRow_of_run admitted run link.id).2 client link consumes.seen with
    ⟨terms, advances, was⟩
  have used := usedAsIssued_of_redeems redeems advances
  refine ⟨?_, call, terms, user, presentation, inCall, redeems.presented.call,
    was, advances, ?_, used⟩
  · rcases (orderly_of_run admitted run).views client link.userId link.purpose
      with orderly | ⟨_, _, _, _, activating⟩
    · exact orderly.delivered link.id link consumes.seen (requestedFor_self link)
        active
    · -- a call that presents a link reports no delivery
      obtain rfl := Option.some.inj (inCall.symm.trans activating.reporting)
      cases redeems.presented.call
  · rw [← used.owner]
    exact redeems.holds.holdsUser.seen

/-! ## After a consumption -/

/-- A row of a link that is not unused, if it is there at all. -/
def Spent (row : Option EmailLink) : Prop :=
  ∀ link, row = some link → ¬ link.state.Unused

omit [DecidableEq Client] in
/-- While its identifier is not drawn again, a spent link stays spent. -/
theorem Spent.acts
    (spent : Spent ((config.sees client).links.get? id))
    (act : LinkAct env config next client event)
    (undrawn :
      ∀ issuer link,
        event = .issues issuer (.insertEmailLink link) → link.id ≠ id) :
    Spent ((next.sees client).links.get? id) := by
  cases act with
  | quiet sees _ =>
      rw [sees]
      exact spent
  | writes inCall _ permitted takes may sees _ =>
      rw [sees]
      cases may.row id with
      | kept same =>
          rw [same]
          exact spent
      | inserted issues isId _ _ _ =>
          subst issues
          exact absurd isId (undrawn _ _ takes)
      | moved found moves _ _ =>
          exact absurd moves.moves.unused (spent _ found)
      | removed _ _ _ isRow =>
          intro link isLink
          cases isRow.symm.trans isLink

/--
After a consumption by a client, the client holds the link and sees it spent,
or it has committed, and everybody sees it spent.
-/
def SpentBy
    (client : Client)
    (id : Uuid)
    (config : Config Client (services env)) :
    Prop :=
  (Locked (config.locks client) (.link id) ∧
      Spent ((config.sees client).links.get? id)) ∨
    (Spent (config.committed.links.get? id) ∧
      ∀ other, Spent ((config.sees other).links.get? id))

/-- Unless its client rolls back, a spent link stays spent. -/
theorem SpentBy.step
    (spent : SpentBy client id config)
    (holds : LinksHold book config)
    (step : Step pool config event next)
    (stays : event ≠ .rollsBack client)
    (undrawn :
      ∀ issuer link,
        event = .issues issuer (.insertEmailLink link) → link.id ≠ id) :
    SpentBy client id next := by
  rcases spent with ⟨locked, spent⟩ | ⟨committed, everywhere⟩
  · by_cases isCommit : event = .commits client
    · -- nobody else locks the row, so that everybody sees what is committed
      subst isCommit
      cases step with
      | commit idle =>
          refine .inr ⟨spent, fun other => ?_⟩
          by_cases isClient : other = client
          · subst isClient
            have same :
                (config.conclude other).sees other = config.sees other :=
              Ledger.view_commit_self
            rw [same]
            exact spent
          · have free : ¬ Locked (config.locks other) (.link id) :=
              holds.proper.not_both_locked (Ne.symm isClient) locked
            have taken :=
              (StoreRow.observation (.link id)).view_commit_of_free
                holds.proper isClient free
            have same :
                ((config.conclude client).sees other).links.get? id =
                  (config.sees client).links.get? id :=
              taken.2
            rw [same]
            exact spent
    · have isOpen : ¬ event.Ends client := by
        rintro (isCommitToo | isRollback)
        · exact isCommit isCommitToo
        · exact stays isRollback
      refine .inl ⟨step.locked_stays isOpen locked, ?_⟩
      cases step.rowStep holds.proper (StoreRow.observation (.link id))
          client with
      | kept _ seen =>
          have same :
              (next.sees client).links.get? id =
                (config.sees client).links.get? id :=
            seen
          rw [same]
          exact spent
      | acted acts _ => exact spent.acts (holds.acts step acts) undrawn
      | taken _ _ _ free => exact absurd locked free
      | landed isCommitToo => exact absurd isCommitToo isCommit
      | dropped isRollback => exact absurd isRollback stays
  · refine .inr ⟨?_, fun other => ?_⟩
    · cases step with
      | commit => exact everywhere _
      | _ => exact committed
    · cases step.rowStep holds.proper (StoreRow.observation (.link id))
          other with
      | kept _ seen =>
          have same :
              (next.sees other).links.get? id =
                (config.sees other).links.get? id :=
            seen
          rw [same]
          exact everywhere other
      | acted acts _ => exact (everywhere other).acts (holds.acts step acts) undrawn
      | taken somebody _ _ _ _ seen =>
          have same :
              (next.sees other).links.get? id =
                (config.sees somebody).links.get? id :=
            seen
          rw [same]
          exact everywhere somebody
      | landed _ _ seen =>
          rw [seen]
          exact everywhere other
      | dropped _ _ seen =>
          rw [seen]
          exact committed

/-- Who consumes a link holds it. -/
theorem ConsumesLink.locked
    {link : EmailLink}
    (consumes : ConsumesLink client link config event next)
    (holds : LinksHold book config)
    (step : Step pool config event next) :
    Locked (next.locks client) (.link link.id) := by
  rcases consumes.redeems (holds.acts step consumes.acts) with
    ⟨call, issued, presentation, user, _, _, _, _, writes⟩
  have proper := step.ledgerChange.proper holds.proper
  refine proper.guarded client
    (.putLink (Store.consumeLinkAt presentation.now link)) ?_ _ rfl
  rw [writes]
  exact List.mem_append_right _ List.mem_cons_self

/-- After consuming a link, its client holds it and sees it spent. -/
theorem ConsumesLink.spentBy
    {link : EmailLink}
    (consumes : ConsumesLink client link config event next)
    (holds : LinksHold book config)
    (step : Step pool config event next) :
    SpentBy client link.id next := by
  rcases consumes.consumed with ⟨used, foundUsed, isConsumed⟩
  refine .inl ⟨consumes.locked holds step, ?_⟩
  intro found isFound
  obtain rfl := Option.some.inj (foundUsed.symm.trans isFound)
  rintro (isPending | isActive)
  · cases isPending.symm.trans isConsumed
  · cases isActive.symm.trans isConsumed

/-- A link that is spent is consumed by nobody. -/
theorem SpentBy.not_consumes
    {link : EmailLink}
    {other : Client}
    (spent : SpentBy client link.id config)
    (holds : LinksHold book config)
    (step : Step pool config event next) :
    ¬ ConsumesLink other link config event next := by
  intro consumes
  rcases consumes.redeems (holds.acts step consumes.acts) with
    ⟨call, issued, presentation, user, _, active, _, _, _⟩
  rcases spent with ⟨locked, spent⟩ | ⟨_, everywhere⟩
  · by_cases isClient : other = client
    · subst isClient
      exact spent link consumes.seen (.inr active)
    · -- both would lock the link
      have still := step.locked_stays consumes.acts.not_ends locked
      have proper := step.ledgerChange.proper holds.proper
      exact proper.not_both_locked (Ne.symm isClient) still
        (consumes.locked holds step)
  · exact everywhere other link consumes.seen (.inr active)

/-- Of two consumptions of one link, the first was rolled back in between. -/
theorem consumed_once
    {first middle last : List (Event Client (services env))}
    {one another : Event Client (services env)}
    {before after later : Config Client (services env)}
    {user other : Client}
    {link consumedAgain : EmailLink}
    (once : LinksDrawnOnce (first ++ one :: (middle ++ another :: last)))
    (run : Run (Step pool) (.quiescent {}) first before)
    (step : Step pool before one after)
    (between : Run (Step pool) after middle later)
    (again : Step pool later another next)
    (consumes : ConsumesLink user link before one after)
    (consumesAgain : ConsumesLink other consumedAgain later another next)
    (same : link.id = consumedAgain.id) :
    .rollsBack user ∈ middle := by
  by_contra stays
  rcases once.exists_book with ⟨book, admitted⟩
  have holds : LinksHold book before :=
    links_hold
      (fun event member => admitted event (List.mem_append_left _ member)) run
  have admittedFirst :
      ∀ event ∈ first, event.Admitted (LinkAdmitted book) :=
    fun event member => admitted event (List.mem_append_left _ member)
  -- The link was issued before it was consumed, so that it is not issued again.
  have undrawn :
      ∀ event ∈ middle,
        ∀ issuer inserted,
          event = .issues issuer (.insertEmailLink inserted) →
            inserted.id ≠ link.id := by
    rintro event member issuer inserted rfl
    rcases (issuedRow_of_run admittedFirst run link.id).2 user link
        consumes.seen with
      ⟨terms, advances, was⟩
    rcases mem_of_wasIssued was with ⟨drawer, drawn⟩
    rw [EmailLink.of_asIssued EmailLink.id (fun _ => rfl) advances.asIssued_eq]
    exact
      (once.fresh drawn
        (List.mem_cons_of_mem _ (List.mem_append_left _ member))).symm
  have kept :=
    between.preserves_along
      (fun state => LinksHold book state ∧ SpentBy user link.id state)
      (fun state event next member step kept =>
        ⟨kept.1.step (admitted event (by simp [member])) step,
          kept.2.step kept.1 step
            (fun isRollback => stays (isRollback ▸ member))
            (undrawn event member)⟩)
      ⟨holds.step (admitted one (by simp)) step, consumes.spentBy holds step⟩
  rw [same] at kept
  exact kept.2.not_consumes kept.1 again consumesAgain

/-! ## Calls that present a link -/

/-- In the call in progress, its client consumed a link that it presents. -/
def ConsumedInCall
    (pool : Client → ServiceTx → Prop)
    (client : Client)
    (call : ServiceTx)
    (presentation : Presentation)
    (labels : List (Event Client (services env))) :
    Prop :=
  TookSince pool (.quiescent {}) (Event.Leaves client)
    (fun before event after =>
      (before.phases client).call? = some call ∧
        ∃ link,
          ConsumesLink client link before event after ∧
            link.tokenHash = env.tokenHash presentation.token ∧
            link.purpose = presentation.purpose)
    labels

/--
Nothing is written but events, and the revocation of a presented link that does
not match its account any more.
-/
def RevokesMismatchedOnly
    (env : Environment)
    (presentation : Presentation)
    (issued : List Write) :
    Prop :=
  ∀ write ∈ issued,
    (∃ event, write = .appendEvent event) ∨
      ∃ link user,
        link.tokenHash = env.tokenHash presentation.token ∧
          link.userId = user.id ∧
          link.state = .active ∧
          Mismatched env link user presentation.now ∧
          write = .putLink (Store.revokeLinkAt presentation.now link)

theorem revokesMismatchedOnly_of_refused
    {call : ServiceTx}
    {presentation : Presentation}
    {issued : List Write}
    (refused : Refused env call presentation issued) :
    RevokesMismatchedOnly env presentation issued := by
  intro write member
  rcases refused write member with isEvent | ⟨link, user, before, dismisses, same⟩
  · exact .inl isEvent
  · exact .inr ⟨link, user, dismisses.presented.token, dismisses.holds.owner,
      dismisses.active,
      mismatched_of_unmatched dismisses.active dismisses.unmatched, same⟩

omit [DecidableEq Client] in
/-- Who writes a consumed link consumes it. -/
theorem LinkAct.consumes
    {link : EmailLink}
    {now : Instant}
    {more : List Write}
    (act : LinkAct env config next client event)
    (acts : event.Acts client)
    (written : next.writes client = config.writes client ++ more)
    (member : Write.putLink (Store.consumeLinkAt now link) ∈ more) :
    ∃ seen,
      ConsumesLink client seen config event next ∧
        link.asIssued = seen.asIssued := by
  cases act with
  | quiet sees writes =>
      have nothing : more = [] :=
        List.append_right_eq_self.mp (written.symm.trans writes)
      rw [nothing] at member
      cases member
  | @writes issued call before statement write inCall _ permitted takes may
      sees writes =>
      have one : more = [write] :=
        List.append_cancel_left (written.symm.trans writes)
      rw [one] at member
      obtain rfl := List.mem_singleton.mp member
      cases may with
      | elsewhere leaves => exact absurd rfl (leaves.1 _)
      | inserts issues _ puts =>
          -- links are issued pending
          subst issues
          obtain ⟨user, purpose, latest, at_, nonce, draws, issues⟩ := permitted
          have pending :
              (Store.consumeLinkAt now link).state =
                EmailLinkState.pending := by
            rw [Write.putLink.inj puts, issues.link_eq]
            rfl
          cases pending
      | @moves seen after found moves puts =>
          obtain rfl := Write.putLink.inj puts
          have same := moves.moves.asIssued_eq
          refine ⟨seen,
            ⟨acts, found, ?_, Store.consumeLinkAt now link, ?_, rfl⟩, same⟩
          · intro consumed
            rcases moves.moves.unused with isPending | isActive
            · cases isPending.symm.trans consumed
            · cases isActive.symm.trans consumed
          · rw [sees, ← EmailLink.of_asIssued EmailLink.id (fun _ => rfl) same]
            exact Table.get?_put_self _ _
      | removes _ _ _ erases => cases erases

/-- A call that presents a link consumed it, or failed and wrote next to nothing. -/
theorem presented_outcome
    {call : ServiceTx}
    {before : List Write}
    {answer : Except Failure call.Answer}
    {presentation : Presentation}
    (admitted : ∀ event ∈ labels, event.Admitted (LinkAdmitted book))
    (run : Run (Step pool) (.quiescent {}) labels config)
    (issuing :
      config.phases client = .issuing call before (Prog.ofExcept answer))
    (presents : call.presents = some presentation) :
    ConsumedInCall pool client call presentation labels ∨
      (¬ call.Succeeds answer ∧
        ∃ issued,
          config.writes client = before ++ issued ∧
            RevokesMismatchedOnly env presentation issued) := by
  have holds := links_hold admitted run
  rcases (holds.stands_in issuing).returns with
    ⟨issued, seen, written, _, promised, _⟩
  rcases promised presentation presents with
    ⟨link, user, standing, redeems, member⟩ | ⟨failed, refused⟩
  · left
    have inCall : (config.phases client).call? = some call := by
      rw [issuing]
      rfl
    have began : (config.phases client).before? = some before := by
      rw [issuing]
      rfl
    rcases written_in_call run rfl inCall began written member with
      ⟨earlier, event, later, state, after, rfl, beforeRun, step, open_, acts,
        calling, more, writes, inMore⟩
    have admittedBefore :
        ∀ event ∈ earlier, event.Admitted (LinkAdmitted book) :=
      fun event member => admitted event (List.mem_append_left _ member)
    rcases ((links_hold admittedBefore beforeRun).acts step acts).consumes acts
        writes inMore with
      ⟨seenLink, consumes, same⟩
    refine ⟨earlier, event, later, state, after, rfl, beforeRun, step, open_,
      calling, seenLink, consumes, ?_, ?_⟩
    · rw [← EmailLink.of_asIssued EmailLink.tokenHash (fun _ => rfl) same]
      exact redeems.presented.token
    · rw [← EmailLink.of_asIssued EmailLink.purpose (fun _ => rfl) same]
      exact redeems.presented.purpose
  · exact .inr ⟨failed, issued, written,
      revokesMismatchedOnly_of_refused refused⟩

/-! ## Runs -/

/-- What every run of the services does with email links. -/
structure LinksUsedOnce
    (pool : Client → ServiceTx → Prop)
    (labels : List (Event Client (services env))) :
    Prop where
  /-- Committed links only make their moves. -/
  moves :
    Always (Step pool) (.quiescent {})
      (fun _ before _ after =>
        ∀ id link moved,
          before.committed.links.get? id = some link →
          after.committed.links.get? id = some moved → link.Advances moved)
      labels
  /-- A consumption agrees with what was issued, and follows the delivery. -/
  used :
    Always (Step pool) (.quiescent {})
      (fun earlier before event after =>
        ∀ client link,
          ConsumesLink client link before event after →
            ReportedDelivered earlier link.id ∧
              ∃ call terms user presentation,
                (before.phases client).call? = some call ∧
                  call.presents = some presentation ∧
                  WasIssued pool earlier terms ∧
                  (terms.link env).Advances link ∧
                  (before.sees client).users.get? terms.user.id = some user ∧
                  UsedAsIssued env terms user presentation)
      labels
  /-- Before a link is consumed again, the first consumption is rolled back. -/
  once :
    ∀ first one middle another last before after later next client other link
      again,
      labels = first ++ one :: (middle ++ another :: last) →
      Run (Step pool) (.quiescent {}) first before →
      Step pool before one after →
      Run (Step pool) after middle later →
      Step pool later another next →
      ConsumesLink client link before one after →
      ConsumesLink other again later another next →
      link.id = again.id → .rollsBack client ∈ middle
  /-- A call that succeeds consumed its link; one that fails leaves it alone. -/
  presented :
    Always (Step pool) (.quiescent {})
      (fun earlier before event _ =>
        ∀ client call answer presentation,
          event = .returns client call answer →
          call.presents = some presentation →
            ConsumedInCall pool client call presentation earlier ∨
              (¬ call.Succeeds answer ∧
                ∃ preceding issued,
                  (before.phases client).before? = some preceding ∧
                    before.writes client = preceding ++ issued ∧
                    RevokesMismatchedOnly env presentation issued))
      labels

/--
In every run, links move from pending over active to consumed, or to failed or
revoked; each is consumed at most once by a transaction that is not rolled back,
after its delivery was reported, in time, by the token and browser it was issued
for and for the account as it was; and a call that presents a link without
consuming one writes events only, but for a link that does not match its account
any more, which it revokes.
-/
theorem email_links_used_once
    (once : LinksDrawnOnce labels)
    (run : Run (Step pool) (.quiescent {}) labels config) :
    LinksUsedOnce pool labels := by
  rcases once.exists_book with ⟨book, admitted⟩
  refine ⟨?_, ?_, ?_, ?_⟩
  · rintro earlier event later before after rfl beforeRun step id link moved
      found foundAfter
    have advanced :=
      advanced_of_run once.of_append beforeRun id
    cases step with
    | commit => exact advanced _ link moved found foundAfter
    | _ =>
        obtain rfl := Option.some.inj (found.symm.trans foundAfter)
        exact .refl
  · rintro earlier event later before after rfl beforeRun step client link
      consumes
    exact consumes.used
      (fun event member => admitted event (List.mem_append_left _ member))
      beforeRun step
  · rintro first one middle another last before after later next client other
      link again rfl beforeRun step between stepAgain consumes consumesAgain same
    exact consumed_once once beforeRun step between stepAgain consumes
      consumesAgain same
  · rintro earlier event later before after rfl beforeRun step client call
      answer presentation rfl presents
    have admittedBefore :
        ∀ event ∈ earlier, event.Admitted (LinkAdmitted book) :=
      fun event member => admitted event (List.mem_append_left _ member)
    obtain ⟨preceding, issuing⟩ :
        ∃ preceding,
          before.phases client =
            .issuing call preceding (Prog.ofExcept answer) := by
      cases step with
      | returned issuing => exact ⟨_, issuing⟩
      | raised issuing => exact ⟨_, issuing⟩
    rcases presented_outcome admittedBefore beforeRun issuing presents with
      consumed | ⟨failed, issued, written, refused⟩
    · exact .inl consumed
    · refine .inr ⟨failed, preceding, issued, ?_, written, refused⟩
      rw [issuing]
      rfl

/-! ## A login link -/

/-- A login link that was issued with a nonce, and delivered. -/
def loginDelivered :
    List (Event Unit (services referenceEnvironment)) ×
      Config Unit (services referenceEnvironment) :=
  obeyAll [()] (fun _ _ => true)
    (transaction ()
        (.createUser 1 "user@example.test" "User" "password" [] [] false 0 {})
        3 ++
      transaction ()
        (.invite 1 10 {} { linkId := 2, token := "invitation" }) 8 ++
      transaction () (.markDelivered 2 20) 9 ++
      transaction () (.activateInvitation "invitation" "unusable" 30 {}) 9 ++
      transaction ()
        (.requestLogin "user@example.test" "nonce" 40 {}
          { linkId := 3, token := "login" })
        8 ++
      transaction () (.markDelivered 3 50) 9)
    (.quiescent {})

/-- The login that presents the link from some browser at some time. -/
def presentsLogin (browserNonce : String) (now : Instant) : ServiceTx :=
  .emailLinkLogin "login" browserNonce now {}
    { sessionId := 5, familyId := 6, refreshToken := "refresh"
      csrfToken := "csrf", tokenId := 7 }

/-- The link is presented in time, by the browser that requested it. -/
def loggedInByLink :
    List (Event Unit (services referenceEnvironment)) ×
      Config Unit (services referenceEnvironment) :=
  obeyAll [()] (fun _ _ => true) (transaction () (presentsLogin "nonce" 60) 8)
    loginDelivered.2

/-- After the login, the link is consumed, once and as it was issued. -/
theorem email_links_used_once_loggedInByLink :
    ∃ used,
      loggedInByLink.2.committed.links.get? 3 = some used ∧
        used.state = .consumed ∧
        LinksUsedOnce (fun _ _ => True)
          (loginDelivered.1 ++ loggedInByLink.1) := by
  have delivered :
      Run (Step fun _ _ => True) (.quiescent {}) loginDelivered.1
        loginDelivered.2 :=
    run_obeyAll (fun _ => List.mem_singleton.mpr rfl) (fun _ _ _ => trivial)
      _ _
  have loggedIn :
      Run (Step fun _ _ => True) loginDelivered.2 loggedInByLink.1
        loggedInByLink.2 :=
    run_obeyAll (fun _ => List.mem_singleton.mpr rfl) (fun _ _ _ => trivial)
      _ _
  have once : LinksDrawnOnce (loginDelivered.1 ++ loggedInByLink.1) := by
    have drawn :
        ((loginDelivered.1 ++ loggedInByLink.1).filterMap insertedLink?).map
          EmailLink.id = [2, 3] :=
      rfl
    rw [LinksDrawnOnce, drawn]
    decide
  exact ⟨_, rfl, rfl, email_links_used_once once (delivered.append loggedIn)⟩

/-- The link is presented after it expired, by another browser. -/
def presentedElsewhere :
    List (Event Unit (services referenceEnvironment)) ×
      Config Unit (services referenceEnvironment) :=
  obeyAll [()] (fun _ _ => true)
    (transaction () (presentsLogin "other" 600000040) 6) loginDelivered.2

/-- Presented by another browser, an expired link is revoked. -/
theorem expired_link_revoked_elsewhere :
    ∃ link after,
      Run (Step fun _ _ => True) (.quiescent {}) loginDelivered.1
          loginDelivered.2 ∧
        Run (Step fun _ _ => True) loginDelivered.2 presentedElsewhere.1
          presentedElsewhere.2 ∧
        loginDelivered.2.committed.links.get? 3 = some link ∧
        link.state = .active ∧
        link.browserHash = some (referenceEnvironment.tokenHash "nonce") ∧
        referenceEnvironment.tokenHash "other" ≠
          referenceEnvironment.tokenHash "nonce" ∧
        .returns () (presentsLogin "other" 600000040)
            (.ok (none : Option SessionBundle)) ∈
          presentedElsewhere.1 ∧
        presentedElsewhere.2.committed.links.get? 3 = some after ∧
        after.state = .revoked := by
  have returned :
      presentedElsewhere.1[6]? =
        some
          (.returns () (presentsLogin "other" 600000040)
            (.ok (none : Option SessionBundle))) :=
    rfl
  exact ⟨_, _,
    run_obeyAll (fun _ => List.mem_singleton.mpr rfl) (fun _ _ _ => trivial)
      _ _,
    run_obeyAll (fun _ => List.mem_singleton.mpr rfl) (fun _ _ _ => trivial)
      _ _,
    rfl, rfl, rfl, by decide, List.mem_of_getElem? returned, rfl, rfl⟩

end EpokAuth
