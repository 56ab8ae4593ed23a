import EpokAuth.LinkGenerations
import EpokAuth.LinkTrace
import EpokAuth.PendingEmails
import EpokAuth.ShownTransactions

namespace EpokAuth

open Transactional

/-!
# Which links are delivered

A link is inserted as a pending one, and becomes active only in a transaction
that reports its delivery.  Only then can it be consumed.  So a stored link was
handed out by some transaction, and one that is active, or was consumed, has
had its delivery reported.
-/

/-- Links that are stored as used were used before, but for some. -/
def UsesOnly
    (allowed : Uuid → Prop)
    (before after : Table EmailLink) :
    Prop :=
  ∀ id link,
    after.get? id = some link →
    link.state.Used →
      allowed id ∨
        ∃ earlier, before.get? id = some earlier ∧ earlier.state.Used

theorem UsesOnly.refl
    {allowed : Uuid → Prop}
    (table : Table EmailLink) :
    UsesOnly allowed table table :=
  fun _ link found used => .inr ⟨link, found, used⟩

theorem UsesOnly.trans
    {allowed : Uuid → Prop}
    {first second third : Table EmailLink}
    (earlier : UsesOnly allowed first second)
    (later : UsesOnly allowed second third) :
    UsesOnly allowed first third := by
  intro id link found used
  rcases later id link found used with isAllowed | ⟨middle, held, wasUsed⟩
  · exact .inl isAllowed
  · exact earlier id middle held wasUsed

/-- A statement that inserts no link, and activates only some. -/
def Statement.ActivatesOnly (allowed : Uuid → Prop) : Statement → Prop
  | .activateEmailLink linkId _ => allowed linkId
  | .insertEmailLink _ => False
  | _ => True

/-- A link that moves to be used was used, or is activated. -/
theorem Statement.MovesLink.used
    {statement : Statement}
    {link after : EmailLink}
    (moves : statement.MovesLink link after)
    (used : after.state.Used) :
    link.state.Used ∨ ∃ now, statement = .activateEmailLink link.id now := by
  rcases used with active | consumed
  · obtain ⟨now, activates, _⟩ := moves.activates active
    exact .inr ⟨now, activates⟩
  · cases moves.moves with
    | consumed now wasActive => exact .inl (.inl wasActive)
    | activated | failed | revoked => cases consumed

/-- A row write of such a statement makes no other link used. -/
theorem usesOnly_apply
    {allowed : Uuid → Prop}
    {statement : Statement}
    {store : Store}
    {write : Write}
    (only : statement.ActivatesOnly allowed)
    (may : statement.MayWriteLink store write) :
    UsesOnly allowed store.links (Store.apply write store).links := by
  intro id link found used
  cases may.row id with
  | kept same =>
      exact .inr ⟨link, same.symm.trans found, used⟩
  | inserted issues _ _ _ _ =>
      rw [issues] at only
      exact only.elim
  | @moved before after foundBefore moves puts isRow =>
      obtain rfl := Option.some.inj (isRow.symm.trans found)
      rcases moves.used used with wasUsed | ⟨now, activates⟩
      · exact .inr ⟨before, foundBefore, wasUsed⟩
      · rw [activates] at only
        have isId : before.id = id := Table.key_of_get? foundBefore
        exact .inl (isId ▸ only)
  | removed _ _ _ isRow =>
      cases isRow.symm.trans found

/-! ## What transactions activate -/

open Tx (StaysWithin)

namespace Tx

/-- Every statement of a transaction activates only some links. -/
def ActivatesOnly (allowed : Uuid → Prop) (body : Tx α) : Prop :=
  Prog.Issues (Statement.ActivatesOnly allowed) body

namespace ActivatesOnly

variable {allowed : Uuid → Prop}

theorem bind
    {body : Tx α}
    {later : α → Tx β}
    (first : ActivatesOnly allowed body)
    (second : ∀ value, ActivatesOnly allowed (later value)) :
    ActivatesOnly allowed (body >>= later) :=
  Prog.Issues.bind first second

/-- A transaction that changes no links activates none. -/
theorem of_within
    {kinds : List StatementKind}
    {body : Tx α}
    (within : StaysWithin kinds body)
    (disjoint : .changesLinks ∉ kinds) :
    ActivatesOnly allowed body := by
  refine Prog.Issues.mono within fun statement kept => ?_
  cases statement with
  | insertEmailLink link => exact absurd (kept _ rfl) disjoint
  | activateEmailLink linkId now => exact absurd (kept _ rfl) disjoint
  | _ => trivial

/-- The rule of a transaction that activates only some links. -/
theorem wp
    {body : Tx α}
    {normal : α → Store → Prop}
    {store : Store}
    (only : ActivatesOnly allowed body)
    (returned : ∀ answer later,
      UsesOnly allowed store.links later.links → normal answer later) :
    Tx.wp body normal (fun _ _ => True) store := by
  refine
    @Prog.wp_of_issues_keeping _ _ _ _ _ _ _ _ _ _
      (fun later : Store => UsesOnly allowed store.links later.links)
      _ only ?_ returned (fun _ _ _ => trivial) (.refl _)
  intro statement permitted normal view kept continues
  refine continues _ _ ?_
  refine
    @StoreExecution.perform_keeps _ _ _
      (fun later => UsesOnly allowed store.links later.links)
      view (Store.execution_writesLinks statement) ?_ kept
  intro view write keptView may
  exact keptView.trans (usesOnly_apply permitted may)

end ActivatesOnly

end Tx

section Parts

variable
  {env : Environment}
  {deps : Dependencies}
  {store : Store}
  {purpose : EmailLinkPurpose}
  {now : Instant}
  {allowed : Uuid → Prop}

theorem consumableLink_activatesOnly
    {token : String}
    {browserNonce : Option String} :
    Tx.ActivatesOnly allowed
      (consumableLink deps token purpose now browserNonce) := by
  unfold consumableLink
  split
  · trivial
  refine .bind ⟨trivial, fun _ => trivial⟩ fun candidate => ?_
  cases candidate with
  | none => trivial
  | some candidate =>
      refine .bind ⟨trivial, fun _ => trivial⟩ fun user =>
        .bind ⟨trivial, fun _ => trivial⟩ fun link => ?_
      cases link with
      | none => trivial
      | some link =>
          dsimp only
          split
          · trivial
          cases user with
          | none => exact .bind ⟨trivial, fun _ => trivial⟩ fun _ => trivial
          | some user =>
              refine .bind (Prog.issues_ofExcept _) fun isMatch => ?_
              split
              · exact .bind ⟨trivial, fun _ => trivial⟩ fun _ => trivial
              · split
                · refine .bind (Prog.issues_ofExcept _) fun isBrowser => ?_
                  split
                  · trivial
                  · trivial
                · trivial

theorem consuming_activatesOnly
    {kinds : List StatementKind}
    {token : String}
    {browserNonce : Option String}
    {complete : UserAccount → Tx α}
    {refused : Option UserAccount → Tx Unit}
    (completes : ∀ user, StaysWithin kinds (complete user))
    (refuses : ∀ user, StaysWithin kinds (refused user))
    (disjoint : .changesLinks ∉ kinds) :
    Tx.ActivatesOnly allowed
      (consuming deps token purpose now browserNonce complete refused) := by
  have declines : ∀ user,
      Tx.ActivatesOnly allowed (do refused user; return (none : Option α)) :=
    fun user => .bind (.of_within (refuses user) disjoint) fun _ => trivial
  refine .bind consumableLink_activatesOnly fun found => ?_
  split
  · split
    · refine .bind ⟨trivial, fun _ => trivial⟩ fun consumed => ?_
      split
      · exact declines _
      · exact .bind (.of_within (completes _) disjoint) fun _ => trivial
    · exact declines _
  · exact declines _

/-- Reporting a delivery activates the link that it names, if any. -/
theorem wp_markDelivered_usesOnly
    {linkId : Uuid} :
    Tx.wp (markDelivered deps linkId now)
      (fun _ later => UsesOnly (· = linkId) store.links later.links)
      (fun _ _ => True) store := by
  simp only [markDelivered, Tx.wp_bind, Tx.wp_getEmailLink]
  cases found : store.links.get? linkId with
  | none => exact .refl _
  | some link =>
      have isLink : link.id = linkId := Table.key_of_get? found
      simp only [Tx.wp_bind, Tx.wp_getUserById, Tx.wp_getEmailLink, found,
        Tx.wp_getLatestEmailLink]
      refine wp_ofExcept_committed fun deliverable allowed => ?_
      cases deliverable with
      | none =>
          refine Tx.ActivatesOnly.wp ?_ fun _ _ only => only
          exact .bind ⟨trivial, fun _ => trivial⟩ fun _ => trivial
      | some deliverable =>
          obtain ⟨_, _, isDeliverable, _⟩ := deliverableLink_ok_some allowed
          obtain rfl := Option.some.inj isDeliverable
          refine Tx.ActivatesOnly.wp ?_ fun _ _ only => only
          refine .bind ⟨isLink, fun _ => trivial⟩ fun activated => ?_
          split
          · trivial
          · exact .bind ⟨trivial, fun _ => trivial⟩ fun _ =>
              .bind ⟨trivial, fun _ => trivial⟩ fun _ => trivial

/-- The link whose delivery a transaction reports. -/
def ServiceTx.delivering : ServiceTx → Option Uuid
  | .markDelivered linkId _ => some linkId
  | _ => none

/-- What a transaction leaves used was used, or it reports its delivery. -/
abbrev ServiceTx.UsesDelivered
    (env : Environment)
    (tx : ServiceTx)
    (store : Store) :
    Prop :=
  Tx.wp (tx.body env)
    (fun _ later =>
      UsesOnly (fun id => tx.delivering = some id) store.links later.links)
    (fun _ _ => True) store

theorem ServiceTx.usesDelivered
    {tx : ServiceTx}
    (issues : tx.issuing = none) :
    tx.UsesDelivered env store := by
  cases tx with
  | requestLogin => cases issues
  | requestPasswordReset => cases issues
  | invite => cases issues
  | provision => cases issues
  | ensureInitialAdmin => cases issues
  | replaceActivation => cases issues
  | markDelivered linkId now =>
      refine Tx.wp_mono wp_markDelivered_usesOnly ?_ fun _ _ _ => trivial
      intro _ later only id link found used
      refine (only id link found used).imp_left fun isLink => ?_
      rw [isLink]
      rfl
  | markDeliveryFailed =>
      refine Tx.ActivatesOnly.wp ?_ fun _ _ only => only
      refine .bind ⟨trivial, fun _ => trivial⟩ fun failed => ?_
      split
      · trivial
      · exact ⟨trivial, fun _ => trivial⟩
  | emailLinkLogin =>
      refine Tx.ActivatesOnly.wp ?_ fun _ _ only => only
      exact consuming_activatesOnly
        (fun _ => .bind issue_within fun _ => .bind .record fun _ => .pure _)
        (fun _ => .record) (by simp)
  | emailLinkResetPassword =>
      refine Tx.ActivatesOnly.wp ?_ fun _ _ only => only
      exact consuming_activatesOnly (fun _ => replacing_within)
        (fun _ => .pure _) (by simp)
  | activateInvitation =>
      refine Tx.ActivatesOnly.wp ?_ fun _ _ only => only
      exact consuming_activatesOnly (fun _ => replacing_within)
        (fun _ => .pure _) (by simp)
  | activate =>
      refine Tx.ActivatesOnly.wp ?_ fun _ _ only => only
      exact consuming_activatesOnly
        (fun _ => .bind (.ofExcept _) fun _ => replacing_within)
        (fun _ => .pure _) (by simp)
  | _ =>
      refine Tx.ActivatesOnly.wp ?_ fun _ _ only => only
      exact .of_within (ServiceTx.body_within _) (by simp [ServiceTx.kinds])

end Parts

/-! ## What steps do to a stored link -/

section Steps

variable
  {env : Environment}
  {before after : Store}
  {executed : Executed}
  {id : Uuid}
  {link : EmailLink}

/-- What a step leaves used was used, or the step reports its delivery. -/
theorem ServiceStep.usesDelivered
    (step : ServiceStep env before executed after) :
    UsesOnly (fun id => executed.tx.delivering = some id) before.links
      after.links := by
  by_cases issues : executed.tx.issuing = none
  · obtain ⟨tx, answer⟩ := executed
    cases answer with
    | ok answer => exact step.of_wp (ServiceTx.usesDelivered issues)
    | error failure =>
        obtain rfl := step.unchanged_of_error
        exact .refl _
  have purged : ∀ now,
      UsesOnly (fun id => executed.tx.delivering = some id) before.links
        (before.purged env.settings now).links := by
    intro now id link found used
    exact .inr ⟨link, (Table.get?_reject_eq_some_iff.mp found).1, used⟩
  cases step.requestResult issues with
  | idle links nothing =>
      rw [links]
      exact .refl _
  | @requested userId purpose now requests reads result =>
      generalize executed.handsOut = pending at result
      generalize after.links = links at result
      cases result with
      | refused full => exact purged now
      | issued owner room configured free named =>
          -- a link is inserted as a pending one
          refine (purged now).trans fun id link found used => ?_
          rw [Table.get?_put] at found
          split at found
          · obtain rfl := Option.some.inj found
            rcases used with active | consumed
            · cases active
            · cases consumed
          · exact .inr ⟨link, found, used⟩

/-- A link that a step leaves stored was stored, or the step handed it out. -/
theorem ServiceStep.stored_or_handedOut
    (step : ServiceStep env before executed after)
    (found : after.links.get? id = some link) :
    (∃ earlier,
        before.links.get? id = some earlier ∧
          earlier.asIssued = link.asIssued) ∨
      ∃ pending,
        executed.handsOut = some pending ∧ pending.linkId = id := by
  have isLink : link.id = id := Table.key_of_get? found
  have ofIssued : link.asIssued ∈ before.issuedLinks →
      ∃ earlier,
        before.links.get? id = some earlier ∧
          earlier.asIssued = link.asIssued := by
    intro member
    obtain ⟨earlier, held, same⟩ := mem_issuedLinks_iff.mp member
    exact ⟨earlier, isLink ▸ held, same⟩
  have member : link.asIssued ∈ after.issuedLinks :=
    mem_issuedLinks_iff.mpr ⟨link, isLink ▸ found, rfl⟩
  have change := step.issueChange
  generalize after.issuedLinks = links at change member
  cases change with
  | kept nothing => exact .inl (ofIssued member)
  | purged reads nothing =>
      rw [issuedLinks_purged] at member
      exact .inl (ofIssued (List.mem_of_mem_filter member))
  | issued reads hands named configured free =>
      rcases List.mem_append.mp member with earlier | new
      · rw [issuedLinks_purged] at earlier
        exact .inl (ofIssued (List.mem_of_mem_filter earlier))
      · have same := congrArg EmailLink.id (List.mem_singleton.mp new)
        exact .inr ⟨_, hands, named.trans (same.symm.trans isLink)⟩

end Steps

/-! ## Where stored links come from -/

section Runs

variable
  {σ Label : Type}
  (showing : Showing σ Label Store Executed)
  (env : Environment)
  (step : σ → Label → σ → Prop)
  (start : σ)

/-- A transaction handed out a link, with an email to its account. -/
def Executed.Announced
    (executed : Executed)
    (deps : Dependencies)
    (after : Store)
    (link : EmailLink) :
    Prop :=
  ∃ pending user,
    executed.handsOut = some pending ∧
      after.users.get? link.userId = some user ∧
      pending.email.recipient = user.email ∧
      pending.Announces deps link

/-- A link was handed out in a run, and its delivery reported if it is used. -/
structure HasLinkOrigin
    (link : EmailLink)
    (labels : List Label) :
    Prop where
  announced :
    PassesMade showing (ServiceStep env) step start
      (fun _ _ executed after =>
        executed.Announced env.toDependencies after link)
      labels
  delivered : link.state.Used →
    PassesMade showing (ServiceStep env) step start
      (fun _ _ executed _ => executed.tx.delivering = some link.id) labels

variable
  {showing env step start}

/-- Every link that a run leaves stored has an origin in it. -/
theorem linkOrigins_of_faithful
    {finish : σ}
    {labels : List Label}
    (faithful : showing.Faithful (ServiceStep env) step)
    (run : Run step start labels finish)
    (fresh : ∀ id, (showing.store start).links.get? id = none) :
    ∀ id link, (showing.store finish).links.get? id = some link →
      HasLinkOrigin showing env step start link labels := by
  refine faithful.accumulates run
    (fun labels store => ∀ id link,
      store.links.get? id = some link →
        HasLinkOrigin showing env step start link labels) ?_ ?_ ?_
  · intro earlier label store origins id link found
    have origin := origins id link found
    exact
      { announced := origin.announced.append _
        delivered := fun used => (origin.delivered used).append _ }
  · intro earlier before label after executed run taken shown made origins id
      link found
    have isLink : link.id = id := Table.key_of_get? found
    refine { announced := ?_, delivered := ?_ }
    · rcases made.stored_or_handedOut found with
        ⟨former, held, same⟩ | ⟨pending, hands, named⟩
      · refine ((origins id former held).announced.mono ?_).append _
        rintro _ _ _ _ ⟨pending, user, hands, account, addressed, announces⟩
        rw [EmailLink.of_asIssued EmailLink.userId (fun _ => rfl) same]
            at account
        exact ⟨pending, user, hands, account, addressed,
          announces.asIssued same.symm⟩
      · obtain ⟨stored, user, held, _, account, addressed, announces⟩ :=
          made.handsOutStored hands
        rw [named] at held
        obtain rfl := Option.some.inj (held.symm.trans found)
        exact .last run taken shown made
          ⟨pending, user, hands, account, addressed, announces⟩
    · intro used
      rcases made.usesDelivered id link found used with
        delivering | ⟨former, held, wasUsed⟩
      · exact .last run taken shown made (isLink ▸ delivering)
      · have isFormer : former.id = id := Table.key_of_get? held
        have delivered := (origins id former held).delivered wasUsed
        rw [isFormer, ← isLink] at delivered
        exact delivered.append _
  · intro id link found
    rw [fresh] at found
    cases found

end Runs

end EpokAuth
