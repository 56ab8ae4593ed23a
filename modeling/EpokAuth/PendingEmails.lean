import EpokAuth.LinkRequest

namespace EpokAuth

open Transactional

/-!
# What a link is sent with

A transaction that hands out a pending link has just stored it, and the email
it hands out with it is for the address of its account and carries its token.
Only digests of the two are stored.
-/

/-- An email tells the address and the token that a link is stored with. -/
structure PendingEmailLink.Announces
    (deps : Dependencies)
    (pending : PendingEmailLink)
    (link : EmailLink) :
    Prop where
  named : pending.linkId = link.id
  kind : pending.email.kind = link.purpose.emailKind
  recipient : link.recipientHash = deps.tokenHash pending.email.recipient
  action : ∃ url token,
    emailLinkUrl deps.settings link.purpose = .ok url ∧
      pending.email.actionUrl = some (actionUrl url token) ∧
      link.tokenHash = deps.tokenHash token
  expires : pending.email.expiresAt = some link.expiresAt

/-- What an email tells of a link is what the link was issued with. -/
theorem PendingEmailLink.Announces.asIssued
    {deps : Dependencies}
    {pending : PendingEmailLink}
    {link later : EmailLink}
    (announces : pending.Announces deps link)
    (same : later.asIssued = link.asIssued) :
    pending.Announces deps later where
  named := announces.named.trans
    (EmailLink.of_asIssued EmailLink.id (fun _ => rfl) same).symm
  kind := by
    rw [EmailLink.of_asIssued EmailLink.purpose (fun _ => rfl) same]
    exact announces.kind
  recipient :=
    (EmailLink.of_asIssued EmailLink.recipientHash
      (fun _ => rfl) same).trans announces.recipient
  action := by
    rw [EmailLink.of_asIssued EmailLink.purpose (fun _ => rfl) same,
      EmailLink.of_asIssued EmailLink.tokenHash (fun _ => rfl) same]
    exact announces.action
  expires := by
    rw [EmailLink.of_asIssued EmailLink.expiresAt (fun _ => rfl) same]
    exact announces.expires

/-- A pending link is stored, for an account whose address it is sent to. -/
def PendingEmailLink.IsStored
    (deps : Dependencies)
    (store : Store)
    (pending : PendingEmailLink) :
    Prop :=
  ∃ link user,
    store.links.get? pending.linkId = some link ∧
      link.state = .pending ∧
      store.users.get? link.userId = some user ∧
      pending.email.recipient = user.email ∧
      pending.Announces deps link

/-- Where no link is handed out, there is none to be stored. -/
theorem PendingEmailLink.isStored_of_none
    {deps : Dependencies}
    {store : Store}
    {handed : Option PendingEmailLink}
    (nothing : handed = none)
    (pending : PendingEmailLink)
    (hands : handed = some pending) :
    pending.IsStored deps store :=
  absurd (nothing.symm.trans hands).symm (Option.some_ne_none pending)

/-- Whatever link a transaction hands out is stored, and announced. -/
abbrev ServiceTx.HandsOutStored
    (env : Environment)
    (tx : ServiceTx)
    (store : Store) :
    Prop :=
  Tx.wp (tx.body env)
    (fun answer later => ∀ pending, tx.pendingIn answer = some pending →
      pending.IsStored env.toDependencies later)
    (fun _ _ => True) store

section Requests

variable
  {env : Environment}
  {deps : Dependencies}
  {store : Store}
  {user : UserAccount}
  {purpose : EmailLinkPurpose}
  {now : Instant}
  {context : RequestContext}
  {draws : LinkDraws}

/-- Issuing a link hands out one that is stored, or none. -/
theorem wp_issueLink_stored
    {browserNonce : Option String}
    {normal : EmailLinkIssue → Store → Prop}
    (account : store.users.get? user.id = some user)
    (returned : ∀ issue later,
      (∀ pending, issue.pending = some pending →
        pending.IsStored deps later) →
      normal issue later) :
    Tx.wp (issueLink deps user purpose now context browserNonce draws) normal
      (fun _ _ => True) store := by
  simp only [issueLink, Tx.wp_bind, Tx.wp_deleteOldEmailLinks,
    Tx.wp_countEmailLinkRequests, Tx.wp_ite, Tx.wp_pure,
    Tx.wp_getLatestEmailLink, Tx.wp_insertEmailLink]
  split
  · exact returned _ _ (PendingEmailLink.isStored_of_none rfl)
  split
  · trivial
  simp only [Tx.wp_bind, wp_recordSecurityEvent]
  refine wp_ofExcept_committed ?_
  intro url configured
  rw [Tx.wp_pure]
  refine returned _ _ fun pending hands => ?_
  obtain rfl := Option.some.inj hands
  exact ⟨_, user, Table.get?_put_self _ _, rfl, account, rfl,
    { named := rfl
      kind := rfl
      recipient := rfl
      action := ⟨url, draws.token, configured, rfl, rfl⟩
      expires := rfl }⟩

theorem requestForEmail_stored
    {normalizedEmail : String}
    {browserNonce : Option String}
    {normal : EmailLinkIssue → Store → Prop}
    (returned : ∀ issue later,
      (∀ pending, issue.pending = some pending →
        pending.IsStored deps later) →
      normal issue later) :
    Tx.wp
      (requestForEmail deps normalizedEmail purpose browserNonce now context
        draws)
      normal (fun _ _ => True) store := by
  simp only [requestForEmail, Tx.wp_bind, Tx.wp_getUserByEmail]
  cases found :
      store.users.find? fun user => user.email = normalizedEmail with
  | none => exact returned _ _ (PendingEmailLink.isStored_of_none rfl)
  | some user =>
      simp only [Tx.wp_ite, Tx.wp_pure]
      split
      · exact wp_issueLink_stored (Table.get?_of_find? found).1 returned
      · exact returned _ _ (PendingEmailLink.isStored_of_none rfl)

theorem wp_createPending_stored
    {normal : AccountActivation → Store → Prop}
    (created : ∀ activation later,
      activation.pending.IsStored deps later → normal activation later) :
    Tx.wp (createPending deps user now context draws) normal
      (fun _ _ => True) store := by
  simp only [createPending, Tx.wp_bind, Tx.wp_insertUser]
  split
  · trivial
  simp only [Tx.wp_bind, wp_recordSecurityEvent]
  refine wp_issueLink_stored (Table.get?_put_self _ _) ?_
  intro issue later stored
  split
  · trivial
  · rename_i pending hands
    exact created _ _ (stored pending hands)

end Requests

/-- Every transaction hands out stored links only. -/
theorem ServiceTx.handsOutStored
    {env : Environment}
    {store : Store}
    (tx : ServiceTx) :
    tx.HandsOutStored env store := by
  cases tx with
  | requestLogin =>
      exact requestForEmail_stored fun _ _ stored => stored
  | requestPasswordReset =>
      exact requestForEmail_stored fun _ _ stored => stored
  | invite userId =>
      simp only [ServiceTx.HandsOutStored, ServiceTx.body, EpokAuth.invite,
        Tx.wp_bind, Tx.wp_getUserById]
      cases account : store.users.get? userId with
      | none => trivial
      | some user =>
          obtain rfl := Table.key_of_get? account
          simp only [Tx.wp_ite, Tx.wp_throw]
          split
          · exact wp_issueLink_stored account fun _ _ stored => stored
          · trivial
  | provision =>
      refine wp_createPending_stored fun activation later stored => ?_
      intro pending hands
      obtain rfl := Option.some.inj hands
      exact stored
  | ensureInitialAdmin normalizedEmail =>
      simp only [ServiceTx.HandsOutStored, ServiceTx.body,
        EpokAuth.ensureInitialAdmin, Tx.wp_bind,
        Tx.wp_acquireAdminInvariantLock, Tx.wp_getUserByEmail]
      cases store.users.find? fun user => user.email = normalizedEmail with
      | some existing =>
          simp only [Tx.wp_ite, Tx.wp_pure, Tx.wp_throw]
          split
          · exact PendingEmailLink.isStored_of_none rfl
          · trivial
      | none =>
          simp only [Tx.wp_bind, Tx.wp_countUsersWithRole, Tx.wp_ite,
            Tx.wp_throw]
          split
          · trivial
          · refine wp_createPending_stored fun activation later stored => ?_
            simp only [Tx.wp_bind, wp_recordSecurityEvent, Tx.wp_pure]
            intro pending hands
            obtain rfl := Option.some.inj hands
            exact stored
  | replaceActivation userId =>
      simp only [ServiceTx.HandsOutStored, ServiceTx.body,
        EpokAuth.replaceActivation, Tx.wp_bind, Tx.wp_getUserById]
      cases account : store.users.get? userId with
      | none => trivial
      | some user =>
          obtain rfl := Table.key_of_get? account
          simp only [Tx.wp_ite, Tx.wp_throw]
          split
          · exact wp_issueLink_stored account fun _ _ stored => stored
          · trivial
  | _ =>
      exact Tx.wp_of_forall (fun _ _ => PendingEmailLink.isStored_of_none rfl)
        (fun _ _ => trivial)

/-- A link that a step hands out is stored after it, and announced. -/
theorem ServiceStep.handsOutStored
    {env : Environment}
    {before after : Store}
    {executed : Executed}
    {pending : PendingEmailLink}
    (step : ServiceStep env before executed after)
    (hands : executed.handsOut = some pending) :
    pending.IsStored env.toDependencies after := by
  obtain ⟨tx, answer⟩ := executed
  cases answer with
  | error failure => cases hands
  | ok answer => exact step.of_wp tx.handsOutStored pending hands

end EpokAuth
