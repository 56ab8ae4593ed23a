import EpokAuth.Footprint
import EpokAuth.LinkMove
import EpokAuth.SlidingWindow
import EpokAuth.StoredDigests

namespace EpokAuth

open Transactional

/-!
# The creation times of links

Nothing but the issuing of links changes which links are stored and when they
were created.  It removes old links, and inserts one unless the links of the
account in the window reach the maximum.
-/

/-- The creation times of the stored links of an account for a purpose. -/
def Store.creations
    (store : Store)
    (userId : Uuid)
    (purpose : EmailLinkPurpose) :
    List Instant :=
  (store.links.select (Store.requestedFor userId purpose)).map
    EmailLink.createdAt

/-- The stored links as they were issued, the oldest first. -/
def Store.issuedLinks (store : Store) : List EmailLink :=
  store.links.rows.map EmailLink.asIssued

theorem seconds_le_seconds
    {first second : Nat}
    (shorter : first ≤ second) :
    seconds first ≤ seconds second := by
  unfold seconds
  omega

/-- The limit on the links that are issued to an account for a purpose. -/
def AuthSettings.linkLimit (settings : AuthSettings) : RateLimit Instant where
  window := seconds settings.emailLinkRequestWindowSeconds
  retention := seconds settings.emailLinkRetentionSeconds
  maximum := settings.emailLinkMaxRequestsPerWindow
  covers := seconds_le_seconds settings.retentionCoversTtls.2.2.2.1

variable
  {env : Environment}
  {deps : Dependencies}
  {store : Store}
  {userId : Uuid}
  {purpose : EmailLinkPurpose}
  {now : Instant}
  {context : RequestContext}

/-- The creation times are those of the links as they were issued. -/
theorem creations_eq :
    store.creations userId purpose =
      (store.issuedLinks.filter (Store.requestedFor userId purpose)).map
        EmailLink.createdAt := by
  rw [Store.issuedLinks, List.filter_map, List.map_map]
  rfl

/-! ## What statements do to them -/

/-- The requests that are counted are those created recently. -/
theorem count_requests
    (settings : AuthSettings) :
    (store.links.count fun link =>
        Store.requestedFor userId purpose link &&
          now - seconds settings.emailLinkRequestWindowSeconds ≤
            link.createdAt) =
      (store.creations userId purpose).countP
        (settings.linkLimit.isRecent now) := by
  rw [Store.creations, List.countP_map, Table.select, List.countP_filter,
    Table.count]
  refine List.countP_congr fun link _ => ?_
  simp [RateLimit.isRecent, AuthSettings.linkLimit, and_comm]

/-- The store without the links that are older than the retention. -/
def Store.purged (store : Store) (settings : AuthSettings) (now : Instant) :
    Store :=
  { store with
    links :=
      store.links.reject fun link =>
        link.createdAt < now - seconds settings.emailLinkRetentionSeconds }

/-- Purging removes creation times older than the retention only. -/
theorem removes_purged
    (settings : AuthSettings) :
    settings.linkLimit.Removes now (store.creations userId purpose)
      ((store.purged settings now).creations userId purpose) := by
  refine ⟨fun time =>
    !decide (time < now - seconds settings.emailLinkRetentionSeconds), ?_, ?_⟩
  · intro time retained
    simpa [AuthSettings.linkLimit] using retained
  · simp only [Store.creations, Store.purged, Table.select, Table.reject]
    rw [List.filter_map, List.filter_filter, List.filter_filter]
    refine congrArg _ (List.filter_congr fun link _ => ?_)
    simp [Bool.and_comm]

/-- A new link comes last, where its account and purpose are looked at. -/
theorem creations_insert
    {link : EmailLink}
    (absent : store.links.get? link.id = none) :
    ({ store with links := store.links.put link } : Store).creations userId
        purpose =
      store.creations userId purpose ++
        if Store.requestedFor userId purpose link then [link.createdAt]
        else [] := by
  simp only [Store.creations, Table.select, Table.rows_put_of_absent absent,
    List.filter_append, List.map_append]
  refine congrArg _ ?_
  by_cases requested : Store.requestedFor userId purpose link = true
  · simp [requested]
  · simp [requested]

/-- A statement that neither removes nor inserts links. -/
def Statement.SparesCreations : Statement → Prop
  | .insertEmailLink _ => False
  | .deleteOldEmailLinks _ => False
  | _ => True

/-- A row write that such a statement makes keeps what was issued. -/
theorem issuedLinks_apply
    {statement : Statement}
    {write : Write}
    (spares : statement.SparesCreations)
    (may : statement.MayWriteLink store write) :
    (Store.apply write store).issuedLinks = store.issuedLinks := by
  cases may with
  | elsewhere leaves =>
      cases write with
      | putLink link => exact absurd rfl (leaves.1 link)
      | eraseLink linkId => exact absurd rfl (leaves.2 linkId)
      | _ => rfl
  | inserts issues _ _ =>
      rw [issues] at spares
      exact spares.elim
  | @moves link after found moves puts =>
      subst puts
      have same : after.asIssued = link.asIssued := moves.moves.asIssued_eq
      have stored : store.links.get? (key after) = some link := by
        have sameId : (key after : Uuid) = link.id :=
          EmailLink.of_asIssued EmailLink.id (fun _ => rfl) same
        rw [sameId]
        exact found
      exact Table.map_rows_put stored same
  | removes _ _ removes _ =>
      rw [removes] at spares
      exact spares.elim

/-- Such a statement, run alone, keeps what was issued. -/
theorem issuedLinks_evaluate
    {statement : Statement}
    (spares : statement.SparesCreations) :
    (Store.evaluate statement store).2.issuedLinks = store.issuedLinks := by
  refine
    @StoreExecution.perform_keeps _ _ _
      (fun view => view.issuedLinks = store.issuedLinks)
      store (Store.execution_writesLinks statement) ?_ rfl
  intro view write kept may
  exact (issuedLinks_apply spares may).trans kept

/-! ## What transactions do to them -/

open Tx (StaysWithin)

namespace Tx

/-- A transaction whose statements neither remove nor insert links. -/
def SparesCreations (body : Tx α) : Prop :=
  Prog.Issues Statement.SparesCreations body

namespace SparesCreations

theorem bind
    {body : Tx α}
    {later : α → Tx β}
    (first : SparesCreations body)
    (second : ∀ value, SparesCreations (later value)) :
    SparesCreations (body >>= later) :=
  Prog.Issues.bind first second

/-- A transaction that changes no links spares them. -/
theorem of_within
    {kinds : List StatementKind}
    {body : Tx α}
    (within : StaysWithin kinds body)
    (disjoint : .changesLinks ∉ kinds) :
    SparesCreations body := by
  refine Prog.Issues.mono within fun statement allowed => ?_
  cases statement with
  | insertEmailLink link => exact absurd (allowed _ rfl) disjoint
  | deleteOldEmailLinks before => exact absurd (allowed _ rfl) disjoint
  | _ => trivial

/-- What spares links leaves what was issued as it is. -/
theorem wp
    {body : Tx α}
    {normal : α → Store → Prop}
    (spares : SparesCreations body)
    (returned :
      ∀ answer later,
        later.issuedLinks = store.issuedLinks → normal answer later) :
    Tx.wp body normal (fun _ _ => True) store := by
  refine
    @Prog.wp_of_issues_keeping _ _ _ _ _ _ _ _ _ _
      (fun later : Store => later.issuedLinks = store.issuedLinks)
      _ spares ?_ returned (fun _ _ _ => trivial) rfl
  intro statement allowed normal view kept continues
  exact continues _ _ ((issuedLinks_evaluate allowed).trans kept)

end SparesCreations

end Tx

theorem consumableLink_sparesCreations
    {token : String}
    {browserNonce : Option String} :
    Tx.SparesCreations
      (consumableLink deps token purpose now browserNonce) := by
  unfold consumableLink
  split
  · trivial
  refine .bind ⟨trivial, fun _ => trivial⟩ fun candidate => ?_
  cases candidate with
  | none => trivial
  | some candidate =>
      refine .bind ⟨trivial, fun _ => trivial⟩ fun user =>
        .bind ⟨trivial, fun _ => trivial⟩ fun link => ?_
      cases link with
      | none => trivial
      | some link =>
          dsimp only
          split
          · trivial
          cases user with
          | none => exact .bind ⟨trivial, fun _ => trivial⟩ fun _ => trivial
          | some user =>
              refine .bind (Prog.issues_ofExcept _) fun isMatch => ?_
              split
              · exact .bind ⟨trivial, fun _ => trivial⟩ fun _ => trivial
              · split
                · refine .bind (Prog.issues_ofExcept _) fun isBrowser => ?_
                  split
                  · trivial
                  · trivial
                · trivial

theorem consuming_sparesCreations
    {kinds : List StatementKind}
    {token : String}
    {browserNonce : Option String}
    {complete : UserAccount → Tx α}
    {refused : Option UserAccount → Tx Unit}
    (completes : ∀ user, StaysWithin kinds (complete user))
    (refuses : ∀ user, StaysWithin kinds (refused user))
    (disjoint : .changesLinks ∉ kinds) :
    Tx.SparesCreations
      (consuming deps token purpose now browserNonce complete refused) := by
  have declines :
      ∀ user, Tx.SparesCreations (do refused user; return (none : Option α)) :=
    fun user => .bind (.of_within (refuses user) disjoint) fun _ => trivial
  refine .bind consumableLink_sparesCreations fun found => ?_
  split
  · split
    · refine .bind ⟨trivial, fun _ => trivial⟩ fun consumed => ?_
      split
      · exact declines _
      · exact .bind (.of_within (completes _) disjoint) fun _ => trivial
    · exact declines _
  · exact declines _

theorem markDelivered_sparesCreations
    {linkId : Uuid} :
    Tx.SparesCreations (markDelivered deps linkId now) := by
  refine .bind ⟨trivial, fun _ => trivial⟩ fun candidate => ?_
  split
  · trivial
  refine .bind ⟨trivial, fun _ => trivial⟩ fun user =>
    .bind ⟨trivial, fun _ => trivial⟩ fun link =>
      .bind ⟨trivial, fun _ => trivial⟩ fun latest =>
        .bind (Prog.issues_ofExcept _) fun deliverable => ?_
  split
  · split
    · trivial
    · exact .bind ⟨trivial, fun _ => trivial⟩ fun _ => trivial
  · refine .bind ⟨trivial, fun _ => trivial⟩ fun activated => ?_
    split
    · trivial
    · exact .bind ⟨trivial, fun _ => trivial⟩ fun _ =>
        .bind ⟨trivial, fun _ => trivial⟩ fun _ => trivial

/-- A transaction that issues no link spares the ones there are. -/
theorem ServiceTx.sparesCreations
    {tx : ServiceTx}
    (issues : tx.issuing = none) :
    Tx.SparesCreations (tx.body env) := by
  cases tx with
  | requestLogin => cases issues
  | requestPasswordReset => cases issues
  | invite => cases issues
  | provision => cases issues
  | ensureInitialAdmin => cases issues
  | replaceActivation => cases issues
  | markDelivered => exact markDelivered_sparesCreations
  | markDeliveryFailed =>
      refine .bind ⟨trivial, fun _ => trivial⟩ fun failed => ?_
      split
      · trivial
      · exact ⟨trivial, fun _ => trivial⟩
  | emailLinkLogin =>
      exact consuming_sparesCreations
        (fun _ => .bind issue_within fun _ => .bind .record fun _ => .pure _)
        (fun _ => .record) (by simp)
  | emailLinkResetPassword =>
      exact consuming_sparesCreations (fun _ => replacing_within)
        (fun _ => .pure _) (by simp)
  | activateInvitation =>
      exact consuming_sparesCreations (fun _ => replacing_within)
        (fun _ => .pure _) (by simp)
  | activate =>
      exact consuming_sparesCreations
        (fun _ => .bind (.ofExcept _) fun _ => replacing_within)
        (fun _ => .pure _) (by simp)
  | _ =>
      exact .of_within (ServiceTx.body_within _) (by simp [ServiceTx.kinds])

end EpokAuth
