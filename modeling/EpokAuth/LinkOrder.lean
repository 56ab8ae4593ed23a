import EpokAuth.LinkRun

namespace EpokAuth

open Transactional

/-!
# Active links of one purpose

Of the links of an account for one purpose, at most one is active wherever it is
seen, and its delivery was reported and accepted.  Only the client that is just
reporting a delivery sees two of them, between the statement that activates a
link and the end of the sweep that revokes the others; it holds the account, so
that nobody else does.
-/

variable
  {Client : Type}
  {env : Environment}
  {book : Uuid → EmailLink}
  {config next : Config Client (services env)}
  {client : Client}
  {event : Event Client (services env)}
  {labels : List (Event Client (services env))}
  {userId : Uuid}
  {purpose : EmailLinkPurpose}
  {store later : Store}

/-- The delivery of a link was reported, and accepted. -/
def ReportedDelivered
    (labels : List (Event Client (services env)))
    (linkId : Uuid) :
    Prop :=
  ∃ client now, .returns client (.markDelivered linkId now) (.ok true) ∈ labels

/-- At most one link of an account is active for a purpose, and delivered. -/
structure Orderly
    (labels : List (Event Client (services env)))
    (userId : Uuid)
    (purpose : EmailLinkPurpose)
    (store : Store) :
    Prop where
  delivered :
    ∀ id link,
      store.links.get? id = some link →
      Store.requestedFor userId purpose link = true →
      link.state = .active → ReportedDelivered labels id
  single :
    ∀ id other link another,
      store.links.get? id = some link →
      store.links.get? other = some another →
      Store.requestedFor userId purpose link = true →
      Store.requestedFor userId purpose another = true →
      link.state = .active → another.state = .active → id = other

namespace Orderly

/-- What was reported stays reported. -/
theorem append
    (orderly : Orderly labels userId purpose store)
    (more : List (Event Client (services env))) :
    Orderly (labels ++ more) userId purpose store where
  delivered := by
    intro id link found requested active
    rcases orderly.delivered id link found requested active with
      ⟨client, now, member⟩
    exact ⟨client, now, List.mem_append_left _ member⟩
  single := orderly.single

/-- A store is orderly when its active links were active in an orderly one. -/
theorem of_active
    (orderly : Orderly labels userId purpose store)
    (active :
      ∀ id link,
        later.links.get? id = some link →
        Store.requestedFor userId purpose link = true →
        link.state = .active → store.links.get? id = some link) :
    Orderly labels userId purpose later where
  delivered := by
    intro id link found requested isActive
    exact orderly.delivered id link (active id link found requested isActive)
      requested isActive
  single := by
    intro id other link another found foundToo requested requestedToo isActive
      isActiveToo
    exact orderly.single id other link another
      (active id link found requested isActive)
      (active other another foundToo requestedToo isActiveToo) requested
      requestedToo isActive isActiveToo

/-- Links that are traced to an orderly store are orderly. -/
theorem of_traced
    (orderly : Orderly labels userId purpose store)
    (traced :
      ∀ id link, later.links.get? id = some link → link.userId = userId →
        LinkTracedTo store id link) :
    Orderly labels userId purpose later := by
  refine orderly.of_active fun id link found requested active => ?_
  rcases traced id link found (userId_of_requestedFor requested) with
    ⟨before, foundBefore, _, unused⟩
  obtain rfl := unused (.inr active)
  exact foundBefore

end Orderly

/-- The client is reporting a delivery, and has activated the link. -/
structure Activating
    (book : Uuid → EmailLink)
    (config : Config Client (services env))
    (client : Client)
    (userId : Uuid)
    (purpose : EmailLinkPurpose)
    (link : EmailLink)
    (now : Instant)
    (before issued : List Write) :
    Prop where
  reporting :
    (config.phases client).call? = some (.markDelivered link.id now)
  began : (config.phases client).before? = some before
  written : config.writes client = before ++ issued
  activated : Write.putLink link ∈ issued
  active : link.state = .active
  recorded : link.asIssued = book link.id
  requested : Store.requestedFor userId purpose link = true

/-- What a client sees is orderly, or it is just reporting a delivery. -/
def OrderlyFor
    (book : Uuid → EmailLink)
    (labels : List (Event Client (services env)))
    (config : Config Client (services env))
    (client : Client) :
    Prop :=
  ∀ userId purpose,
    Orderly labels userId purpose (config.sees client) ∨
      ∃ link now before issued,
        Activating book config client userId purpose link now before issued

/-- A client that is not in a call has activated nothing in it. -/
theorem OrderlyFor.of_idle
    (orderly : OrderlyFor book labels config client)
    (idle : (config.phases client).call? = none) :
    ∀ userId purpose,
      Orderly labels userId purpose (config.sees client) := by
  intro userId purpose
  rcases orderly userId purpose with orderly | ⟨link, now, _, _, activating⟩
  · exact orderly
  · cases idle.symm.trans activating.reporting

/-- A client whose call goes on has activated what it had activated. -/
theorem Activating.continues
    {link : EmailLink}
    {now : Instant}
    {before issued more : List Write}
    (activating :
      Activating book config client userId purpose link now before issued)
    (call : (next.phases client).call? = (config.phases client).call?)
    (began : (next.phases client).before? = (config.phases client).before?)
    (writes : next.writes client = config.writes client ++ more) :
    Activating book next client userId purpose link now before (issued ++ more) where
  reporting := call.trans activating.reporting
  began := began.trans activating.began
  written := by rw [writes, activating.written, List.append_assoc]
  activated := List.mem_append_left _ activating.activated
  active := activating.active
  recorded := activating.recorded
  requested := activating.requested

/-- A client that sees no other links as active goes on as it was. -/
theorem OrderlyFor.continues
    {more : List Write}
    (orderly : OrderlyFor book labels config client)
    (call : (next.phases client).call? = (config.phases client).call?)
    (began : (next.phases client).before? = (config.phases client).before?)
    (writes : next.writes client = config.writes client ++ more)
    (active :
      ∀ id link,
        (next.sees client).links.get? id = some link →
        link.state = .active →
          (config.sees client).links.get? id = some link) :
    OrderlyFor book (labels ++ [event]) next client := by
  intro userId purpose
  rcases orderly userId purpose with
    orderly | ⟨link, now, before, issued, activating⟩
  · left
    exact (orderly.append _).of_active
      fun id link found _ isActive => active id link found isActive
  · exact .inr ⟨link, now, before, issued ++ more,
      activating.continues call began writes⟩

/-- When a call ends, all that its client sees is orderly. -/
theorem OrderlyFor.returns
    {call : ServiceTx}
    {before : List Write}
    {answer : Except Failure call.Answer}
    (orderly : OrderlyFor book labels config client)
    (holds : LinksHold book config)
    (issuing :
      config.phases client = .issuing call before (Prog.ofExcept answer)) :
    ∀ userId purpose,
      Orderly (labels ++ [.returns client call answer]) userId purpose
        (config.sees client) := by
  intro userId purpose
  rcases orderly userId purpose with
    orderly | ⟨link, now, preceding, issued, activating⟩
  · exact orderly.append _
  have began := activating.began
  have reporting := activating.reporting
  rw [issuing] at began reporting
  obtain rfl := Option.some.inj began
  obtain rfl := Option.some.inj reporting
  rcases (holds.stands_in issuing).returns with
    ⟨issuedToo, seen, written, relies, _, promised⟩
  obtain rfl : issued = issuedToo :=
    List.append_cancel_left (activating.written.symm.trans written)
  rcases promised link.id now rfl with none | ⟨reported, held, isLink, only⟩
  · exact absurd activating.active (none link activating.activated)
  -- The link that is held is the one that was activated.
  have foundHeld : (config.sees client).links.get? held.id = some held :=
    (RowRules.read_of_relied relies (.link held.id) only.holds.locked).trans
      only.holds.seen
  have same : held.asIssued = link.asIssued := by
    rw [(holds.invariant.views client).issued _ _ foundHeld, isLink,
      activating.recorded]
  have requestedHeld :
      ∀ other : EmailLink,
        Store.requestedFor userId purpose other = true →
          Store.requestedFor held.userId held.purpose other = true := by
    intro other requested
    have requestedLink := activating.requested
    simp only [Store.requestedFor, Bool.and_eq_true, decide_eq_true_eq]
      at requested requestedLink ⊢
    rw [EmailLink.of_asIssued EmailLink.userId (fun _ => rfl) same,
      EmailLink.of_asIssued EmailLink.purpose (fun _ => rfl) same,
        requestedLink.1, requestedLink.2]
    exact requested
  have isOnly :
      ∀ id other,
        (config.sees client).links.get? id = some other →
        Store.requestedFor userId purpose other = true →
        other.state = .active → id = link.id := by
    intro id other found requested active
    rcases (linkSpared_of_spared (relies.spared _ only.owner) id).source found
        (userId_of_requestedFor (requestedHeld other requested)) with
      ⟨seenBefore, foundBefore, _, unused⟩
    obtain rfl := unused (.inr active)
    exact (only.only id _ foundBefore (requestedHeld _ requested)
      active).trans isLink
  have accepted : answer = .ok true := by
    cases answer with
    | ok value =>
        cases value with
        | true => rfl
        | false => exact reported.elim
    | error failure => exact reported.elim
  subst accepted
  refine ⟨?_, ?_⟩
  · intro id other found requested active
    rw [isOnly id other found requested active]
    exact ⟨client, now, List.mem_append_right _ (List.mem_singleton.mpr rfl)⟩
  · intro id other first second found foundToo requested requestedToo active
      activeToo
    rw [isOnly id first found requested active,
      isOnly other second foundToo requestedToo activeToo]

variable [DecidableEq Client] {pool : Client → ServiceTx → Prop}

/-- A client that acts sees its links in order, or is reporting a delivery. -/
theorem OrderlyFor.acts
    (orderly : OrderlyFor book labels config client)
    (holds : LinksHold book config)
    (step : Step pool config event next)
    (acts : event.Acts client)
    (call : (next.phases client).call? = (config.phases client).call?)
    (began : (next.phases client).before? = (config.phases client).before?) :
    OrderlyFor book (labels ++ [event]) next client := by
  cases holds.acts step acts with
  | quiet sees writes =>
      refine orderly.continues call began
        (writes.trans (List.append_nil _).symm) ?_
      intro id link found _
      exact sees ▸ found
  | @writes issued performing before statement write inCall written permitted
      takes may sees writes =>
      intro userId purpose
      rcases orderly userId purpose with
        orderly | ⟨link, now, preceding, issuedBefore, activating⟩
      swap
      · exact .inr ⟨link, now, preceding, issuedBefore ++ [write],
          activating.continues call began writes⟩
      by_cases activated :
          ∃ after,
            write = .putLink after ∧ after.state = .active ∧
              Store.requestedFor userId purpose after = true
      · right
        rcases activated with ⟨after, rfl, active, requested⟩
        cases may with
        | elsewhere leaves => exact absurd rfl (leaves.1 after)
        | inserts issues absent puts =>
            -- links are issued pending
            subst issues
            obtain rfl := Write.putLink.inj puts
            obtain ⟨user, purpose, latest, now, browserNonce, draws, issues⟩ :=
              permitted
            rw [issues.link_eq] at active
            cases active
        | @moves link moved found moves puts =>
            obtain rfl := Write.putLink.inj puts
            obtain ⟨now, rfl, rfl⟩ := moves.activates active
            obtain ⟨delivered, user, isLink, delivers⟩ := permitted
            refine ⟨Store.activateLinkAt now link, now, before,
              issued ++ [.putLink (Store.activateLinkAt now link)],
              { reporting := ?_
                began := began.trans inCall.2
                written := by rw [writes, written, List.append_assoc]
                activated := List.mem_append_right _ List.mem_cons_self
                active := rfl
                recorded := ?_
                requested := requested }⟩
            · rw [call, inCall.1, delivers.reported, isLink]
              rfl
            · have known := (holds.invariant.views client).issued _ _ found
              exact known
        | removes _ _ _ erases => cases erases
      · left
        refine (orderly.append _).of_active fun id link found requested active => ?_
        rw [sees] at found
        cases may.row id with
        | kept same => exact same.symm.trans found
        | inserted _ _ _ puts isRow =>
            obtain rfl := Option.some.inj (isRow.symm.trans found)
            exact absurd ⟨_, puts, active, requested⟩ activated
        | moved _ _ puts isRow =>
            obtain rfl := Option.some.inj (isRow.symm.trans found)
            exact absurd ⟨_, puts, active, requested⟩ activated
        | removed _ _ _ isRow => cases isRow.symm.trans found

/-- What is committed is orderly, and what every client sees. -/
structure OrderlyEverywhere
    (book : Uuid → EmailLink)
    (labels : List (Event Client (services env)))
    (config : Config Client (services env)) :
    Prop where
  committed :
    ∀ userId purpose, Orderly labels userId purpose config.committed
  views : ∀ client, OrderlyFor book labels config client

/-- Every step keeps the order of links. -/
theorem OrderlyEverywhere.step
    (orderly : OrderlyEverywhere book labels config)
    (holds : LinksHold book config)
    (step : Step pool config event next) :
    OrderlyEverywhere book (labels ++ [event]) next := by
  refine ⟨fun userId purpose => ?_, fun client => ?_⟩
  · cases step with
    | @commit committer idle =>
        have quiet : (config.phases committer).call? = none := by
          rw [idle]
          rfl
        exact ((orderly.views committer).of_idle quiet userId purpose).append _
    | _ => exact (orderly.committed userId purpose).append _
  · cases step.clientStep client with
    | stays call began ledger =>
        refine (orderly.views client).continues call began
          (ledger.1.trans (List.append_nil _).symm) ?_
        intro id link found _
        exact ledger.2 ▸ found
    | begins idle ledger =>
        intro userId purpose
        have quiet : (config.phases client).call? = none := by
          rw [idle]
          rfl
        have sees : next.sees client = config.sees client := by
          rw [Config.sees, Config.sees, ledger]
        rw [sees]
        exact .inl
          (((orderly.views client).of_idle quiet userId purpose).append _)
    | acts acts call began =>
        exact (orderly.views client).acts holds step acts call began
    | returns isReturn issuing ledger =>
        intro userId purpose
        have sees : next.sees client = config.sees client := by
          rw [Config.sees, Config.sees, ledger]
        rw [sees, isReturn]
        exact .inl ((orderly.views client).returns holds issuing userId purpose)
    | taken other different idle phase ledger =>
        intro userId purpose
        have merges :=
          Protection.merges_commit holds.proper holds.invariant.honoured
            different
        have sees :
            next.sees client =
              (config.toLedger.commit (services env).engine other).view
                (services env).engine client := by
          rw [Config.sees, ledger]
        have quiet : (config.phases other).call? = none := by
          rw [idle]
          rfl
        rw [sees]
        rcases linksTraced_of_merges merges userId with traced | traced
        · rcases orderly.views client userId purpose with
            orderly | ⟨link, now, before, issued, activating⟩
          · exact .inl ((orderly.append _).of_traced traced)
          · refine .inr ⟨link, now, before, issued ++ [],
              activating.continues (by rw [phase]) (by rw [phase]) ?_⟩
            rw [ledger, List.append_nil]
            exact Ledger.writes_commit_of_ne different
        · exact .inl
            ((((orderly.views other).of_idle quiet userId purpose).append
              _).of_traced traced)
    | commits idle sees =>
        intro userId purpose
        have quiet : (config.phases client).call? = none := by
          rw [idle]
          rfl
        rw [sees]
        exact .inl
          (((orderly.views client).of_idle quiet userId purpose).append _)
    | rollsBack isRollback sees =>
        intro userId purpose
        rw [sees]
        exact .inl ((orderly.committed userId purpose).append _)

/-- Links are in order in every state of every run. -/
theorem orderly_of_run
    (admitted : ∀ event ∈ labels, event.Admitted (LinkAdmitted book))
    (run : Run (Step pool) (.quiescent {}) labels config) :
    OrderlyEverywhere book labels config := by
  refine run.accumulates
    (fun earlier state =>
      (∀ event ∈ earlier, event.Admitted (LinkAdmitted book)) →
        OrderlyEverywhere book earlier state)
    ?_ ?_ admitted
  · intro earlier state event after before orderly step admitted
    have admittedBefore :
        ∀ event ∈ earlier, event.Admitted (LinkAdmitted book) :=
      fun event member => admitted event (List.mem_append_left _ member)
    exact (orderly admittedBefore).step (links_hold admittedBefore before) step
  · have nothing :
        ∀ userId purpose,
          Orderly ([] : List (Event Client (services env))) userId purpose
            {} := by
      intro userId purpose
      exact
        { delivered := fun _ _ found => by cases found
          single := fun _ _ _ _ found => by cases found }
    intro _
    exact
      { committed := nothing
        views := fun _ userId purpose => .inl (nothing userId purpose) }

end EpokAuth
