import EpokAuth.LinkOrder

namespace EpokAuth

open Transactional

/-!
# The history of one link

Every row of a link that is seen anywhere was issued in the run and has advanced
since; a row that is committed has advanced to what any client sees of it.
-/

variable
  {Client : Type}
  [DecidableEq Client]
  {env : Environment}
  {pool : Client → ServiceTx → Prop}
  {book : Uuid → EmailLink}
  {config next : Config Client (services env)}
  {client : Client}
  {event : Event Client (services env)}
  {labels : List (Event Client (services env))}
  {id : Uuid}

/-- What a link is issued with. -/
structure IssueTerms where
  user : UserAccount
  purpose : EmailLinkPurpose
  latest : Option EmailLink
  now : Instant
  browserNonce : Option String
  draws : LinkDraws
  deriving Repr, DecidableEq

/-- The link that is issued on some terms. -/
def IssueTerms.link (env : Environment) (terms : IssueTerms) : EmailLink :=
  issuedLink env.toDependencies terms.user terms.purpose terms.latest terms.now
    terms.browserNonce terms.draws

/-- A client issues a link, as its call requests it, to an account it sees. -/
def IssuesLink
    (terms : IssueTerms)
    (before : Config Client (services env))
    (event : Event Client (services env))
    (_ : Config Client (services env)) :
    Prop :=
  ∃ client call,
    event = .issues client (.insertEmailLink (terms.link env)) ∧
      (before.phases client).call? = some call ∧
      call.requesting = some (terms.purpose, terms.browserNonce) ∧
      call.clock = some terms.now ∧
      (before.sees client).users.get? terms.user.id = some terms.user

/-- A link was issued at some time. -/
abbrev WasIssued
    (pool : Client → ServiceTx → Prop)
    (labels : List (Event Client (services env)))
    (terms : IssueTerms) :
    Prop :=
  TookSince pool (.quiescent {}) (fun _ => False) (IssuesLink terms) labels

/-- Whatever was issued is among the labels. -/
theorem mem_of_wasIssued
    {terms : IssueTerms}
    (was : WasIssued pool labels terms) :
    ∃ issuer, .issues issuer (.insertEmailLink (terms.link env)) ∈ labels := by
  rcases was with
    ⟨earlier, event, later, before, after, rfl, _, _, _, client, _, rfl, _⟩
  exact ⟨client, by simp⟩

/-- The row of a link has advanced from one that was issued. -/
def IssuedRow
    (pool : Client → ServiceTx → Prop)
    (labels : List (Event Client (services env)))
    (row : Option EmailLink) :
    Prop :=
  ∀ link,
    row = some link →
      ∃ terms : IssueTerms,
        (terms.link env).Advances link ∧ WasIssued pool labels terms

/-- What was issued stays issued. -/
theorem IssuedRow.append
    {row : Option EmailLink}
    (issued : IssuedRow pool labels row)
    (event : Event Client (services env)) :
    IssuedRow pool (labels ++ [event]) row := by
  intro link isLink
  rcases issued link isLink with ⟨terms, advances, was⟩
  exact ⟨terms, advances, was.extend not_false⟩

/-- A client that acts sees a row that was issued, before or just now. -/
theorem IssuedRow.acts
    (issued : IssuedRow pool labels ((config.sees client).links.get? id))
    (run : Run (Step pool) (.quiescent {}) labels config)
    (step : Step pool config event next)
    (act : LinkAct env config next client event) :
    IssuedRow pool (labels ++ [event]) ((next.sees client).links.get? id) := by
  cases act with
  | quiet sees writes =>
      rw [sees]
      exact issued.append event
  | @writes written call before statement write inCall _ permitted takes may
      sees writes =>
      rw [sees]
      cases may.row id with
      | kept same =>
          rw [same]
          exact issued.append event
      | @inserted inserted issues isId absent puts isRow =>
          subst issues
          intro link isLink
          obtain rfl := Option.some.inj (isRow.symm.trans isLink)
          obtain ⟨user, purpose, latest, now, browserNonce, draws, issues⟩ :=
            permitted
          have isIssued :
              inserted =
                IssueTerms.link env
                  ⟨user, purpose, latest, now, browserNonce, draws⟩ :=
            issues.link_eq
          rw [isIssued] at takes ⊢
          exact ⟨_, .refl, .last run step
            ⟨client, call, takes, inCall.1, issues.requested, issues.clock,
              issues.owner.seen⟩⟩
      | moved found moves puts isRow =>
          intro link isLink
          obtain rfl := Option.some.inj (isRow.symm.trans isLink)
          rcases issued _ found with ⟨terms, advances, was⟩
          exact ⟨terms, advances.tail moves.moves, was.extend not_false⟩
      | removed _ _ _ isRow =>
          intro link isLink
          cases isRow.symm.trans isLink

/-- Every row of a link, wherever it is seen, was issued in the run. -/
theorem issuedRow_of_run
    (admitted : ∀ event ∈ labels, event.Admitted (LinkAdmitted book))
    (run : Run (Step pool) (.quiescent {}) labels config)
    (id : Uuid) :
    IssuedRow pool labels (config.committed.links.get? id) ∧
      ∀ client,
        IssuedRow pool labels ((config.sees client).links.get? id) := by
  have observed :=
    observed_of_run (StoreRow.observation (.link id)) run
      Config.proper_quiescent
      (fun labels (row : Option EmailLink) =>
        (∀ event ∈ labels, event.Admitted (LinkAdmitted book)) →
          IssuedRow pool labels row)
      ?_ ?_ ?_
  · exact ⟨observed.1 admitted, fun client => observed.2 client admitted⟩
  · intro earlier event row issued admitted
    exact
      (issued fun event member =>
        admitted event (List.mem_append_left _ member)).append event
  · intro earlier state event after client before step acts issued admitted
    have admittedBefore :
        ∀ event ∈ earlier, event.Admitted (LinkAdmitted book) :=
      fun event member => admitted event (List.mem_append_left _ member)
    exact (issued admittedBefore).acts before step
      ((links_hold admittedBefore before).acts step acts)
  · refine ⟨?_, fun client => ?_⟩
    · intro _ link isLink
      cases isLink
    · intro _ link isLink
      cases isLink

/-- What is committed of a link has advanced to what clients see of it. -/
def Advanced
    (id : Uuid)
    (config : Config Client (services env)) :
    Prop :=
  ∀ client link after,
    config.committed.links.get? id = some link →
      (config.sees client).links.get? id = some after →
        link.Advances after

/-- Every step keeps that, while identifiers are drawn once. -/
theorem Advanced.step
    (advanced : Advanced id config)
    (admitted : ∀ event ∈ labels, event.Admitted (LinkAdmitted book))
    (once : LinksDrawnOnce (labels ++ [event]))
    (run : Run (Step pool) (.quiescent {}) labels config)
    (step : Step pool config event next) :
    Advanced id next := by
  intro client link after committed seen
  have holds := links_hold admitted run
  cases step.rowStep holds.proper (StoreRow.observation (.link id)) client with
  | kept sameCommitted sameSeen =>
      exact advanced client link after (sameCommitted.symm.trans committed)
        (sameSeen.symm.trans seen)
  | acted acts same =>
      rw [same] at committed
      cases holds.acts step acts with
      | quiet sees _ =>
          rw [sees] at seen
          exact advanced client link after committed seen
      | writes inCall _ permitted takes may sees _ =>
          rw [sees] at seen
          cases may.row id with
          | kept sameRow =>
              exact advanced client link after committed
                (sameRow.symm.trans seen)
          | inserted issues isId absent puts isRow =>
              -- the identifier was drawn when the committed link was issued
              subst issues
              rcases (issuedRow_of_run admitted run id).1 link committed with
                ⟨terms, advances, was⟩
              rcases mem_of_wasIssued was with ⟨issuer, drawn⟩
              have same : (terms.link env).id = id := by
                rw [← EmailLink.of_asIssued EmailLink.id (fun _ => rfl)
                    advances.asIssued_eq]
                exact Table.key_of_get? committed
              subst takes
              exact absurd (same.trans isId.symm)
                (once.fresh drawn (List.mem_singleton.mpr rfl))
          | moved found moves _ isRow =>
              obtain rfl := Option.some.inj (isRow.symm.trans seen)
              exact (advanced client link _ committed found).tail moves.moves
          | removed _ _ _ isRow => cases isRow.symm.trans seen
  | taken other _ _ _ sameCommitted sameSeen =>
      obtain rfl :=
        Option.some.inj
          ((sameCommitted.symm.trans committed).symm.trans
            (sameSeen.symm.trans seen))
      exact .refl
  | landed _ sameCommitted sameSeen =>
      rw [sameCommitted] at committed
      rw [sameSeen] at seen
      obtain rfl := Option.some.inj (committed.symm.trans seen)
      exact .refl
  | dropped _ sameCommitted sameSeen =>
      rw [sameCommitted] at committed
      rw [sameSeen] at seen
      obtain rfl := Option.some.inj (committed.symm.trans seen)
      exact .refl

/-- What is committed of a link only ever advances to what is seen of it. -/
theorem advanced_of_run
    (once : LinksDrawnOnce labels)
    (run : Run (Step pool) (.quiescent {}) labels config)
    (id : Uuid) :
    Advanced id config := by
  rcases once.exists_book with ⟨book, admitted⟩
  refine run.accumulates
    (fun earlier state =>
      LinksDrawnOnce earlier →
        (∀ event ∈ earlier, event.Admitted (LinkAdmitted book)) →
          Advanced id state)
    ?_ ?_ once admitted
  · intro earlier state event after before advanced step once admitted
    have admittedBefore :
        ∀ event ∈ earlier, event.Admitted (LinkAdmitted book) :=
      fun event member => admitted event (List.mem_append_left _ member)
    exact (advanced once.of_append admittedBefore).step admittedBefore once
      before step
  · intro _ _ client link after committed
    cases committed

end EpokAuth
