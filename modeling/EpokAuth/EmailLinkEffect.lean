import EpokAuth.UserEffect

namespace EpokAuth

open Transactional

/-!
# Effects of the email-link services

Links are issued, delivered, revoked and consumed; consuming one may log into
its account, replace its password or activate it.
-/

variable
  {env : Environment}
  {deps : Dependencies}
  {user : UserAccount}
  {purpose : EmailLinkPurpose}
  {now : Instant}
  {context : RequestContext}
  {store : Store}

/-! ## Issuing -/

/--
The rule of issuing a link: old links are removed, and a pending one with the
version of the account may be inserted.
-/
theorem wp_issueLink_committed
    {browserNonce : Option String}
    {draws : LinkDraws}
    {normal : EmailLinkIssue → Store → Prop}
    (account : store.users.get? user.id = some user)
    (issued :
      ∀ issue moves later,
        Performs deps.settings store.toCore moves later.toCore →
        (∀ tx : ServiceTx, tx.issuing = some draws.linkId →
          Move.SparesAccounts tx moves) →
        normal issue later) :
    Tx.wp (issueLink deps user purpose now context browserNonce draws) normal
      (fun _ _ => True) store := by
  let before := now - seconds deps.settings.emailLinkRetentionSeconds
  have purges :
      (Move.purgeLinks before).Enabled deps.settings store.toCore :=
    trivial
  simp only [issueLink, Tx.wp_bind, Tx.wp_deleteOldEmailLinks,
    Tx.wp_countEmailLinkRequests, Tx.wp_ite, Tx.wp_pure,
    Tx.wp_getLatestEmailLink, Tx.wp_insertEmailLink]
  split
  · exact issued _ [.purgeLinks before] _ (Performs.single purges rfl)
      (by simp)
  · split
    · trivial
    · rename_i admitted
      simp only [Tx.wp_bind, wp_recordSecurityEvent]
      refine wp_ofExcept_committed ?_
      intro url _
      rw [Tx.wp_pure]
      refine issued _ [.purgeLinks before, .issueLink _] _
        (Performs.cons purges rfl (Performs.single ?_ rfl))
        (by simp [issuedLink])
      refine ⟨?_, rfl, user, account, rfl⟩
      rw [Store.linkTaken, Table.isSome_find?_iff] at admitted
      by_contra present
      obtain ⟨other, found⟩ := Option.ne_none_iff_exists'.mp present
      exact admitted ⟨_, other, found, by
        simp [show other.id = _ from Table.key_of_get? found]⟩

/-- A transaction that only issues a link changes no account. -/
theorem issueLink_effect
    {browserNonce : Option String}
    {draws : LinkDraws}
    {executed : EmailLinkIssue → Executed}
    (account : store.users.get? user.id = some user)
    (issuing :
      ∀ answer, (executed answer).tx.issuing = some draws.linkId)
    (noCause :
      ∀ answer userId change,
        ¬ Causes deps store (executed answer) userId change) :
    Tx.wp (issueLink deps user purpose now context browserNonce draws)
      (fun answer later =>
        ∃ moves, Effect deps store (executed answer) moves later)
      (fun _ _ => True) store := by
  refine wp_issueLink_committed account ?_
  intro issue moves later performs spares
  refine ⟨moves,
    Effect.of_no_account performs (spares _ (issuing issue)) ?_⟩
  intro userId change caused
  exact absurd caused (noCause issue userId change)

theorem requestForEmail_effect
    {normalizedEmail : String}
    {browserNonce : Option String}
    {draws : LinkDraws}
    {executed : EmailLinkIssue → Executed}
    (issuing :
      ∀ answer, (executed answer).tx.issuing = some draws.linkId)
    (noCause :
      ∀ answer userId change,
        ¬ Causes deps store (executed answer) userId change) :
    Tx.wp
      (requestForEmail deps normalizedEmail purpose browserNonce now context
        draws)
      (fun answer later =>
        ∃ moves, Effect deps store (executed answer) moves later)
      (fun _ _ => True) store := by
  have unchanged :
      ∀ answer,
        ∃ moves, Effect deps store (executed answer) moves store := by
    intro answer
    refine ⟨[], Effect.unchanged rfl ?_⟩
    intro userId change caused
    exact absurd caused (noCause answer userId change)
  simp only [requestForEmail, Tx.wp_bind, Tx.wp_getUserByEmail]
  cases found :
      store.users.find? fun user => user.email = normalizedEmail with
  | none =>
      exact unchanged _
  | some user =>
      simp only [Tx.wp_ite, Tx.wp_pure]
      split
      · exact issueLink_effect (Table.get?_of_find? found).1 issuing noCause
      · exact unchanged _

theorem requestLogin_effect
    {normalizedEmail browserNonce : String}
    {draws : LinkDraws} :
    (ServiceTx.requestLogin normalizedEmail browserNonce now context
      draws).HasEffect env store := by
  refine requestForEmail_effect (fun _ => rfl) ?_
  intro answer userId change caused
  cases caused

theorem requestPasswordReset_effect
    {normalizedEmail : String}
    {draws : LinkDraws} :
    (ServiceTx.requestPasswordReset normalizedEmail now context
      draws).HasEffect env store := by
  refine requestForEmail_effect (fun _ => rfl) ?_
  intro answer userId change caused
  cases caused

theorem invite_effect
    {userId : Uuid}
    {draws : LinkDraws} :
    (ServiceTx.invite userId now context draws).HasEffect env store := by
  simp only [ServiceTx.HasEffect, ServiceTx.body, invite, Tx.wp_bind,
    Tx.wp_getUserById]
  cases account : store.users.get? userId with
  | none =>
      trivial
  | some user =>
      have userKey : user.id = userId := Table.key_of_get? account
      subst userKey
      simp only [Tx.wp_ite, Tx.wp_throw]
      split
      · refine issueLink_effect account (fun _ => rfl) ?_
        intro answer other change caused
        cases caused
      · trivial

theorem replaceActivation_effect
    {userId : Uuid}
    {draws : LinkDraws} :
    (ServiceTx.replaceActivation userId now context draws).HasEffect
      env store := by
  simp only [ServiceTx.HasEffect, ServiceTx.body, replaceActivation,
    Tx.wp_bind, Tx.wp_getUserById]
  cases account : store.users.get? userId with
  | none =>
      trivial
  | some user =>
      have userKey : user.id = userId := Table.key_of_get? account
      subst userKey
      simp only [Tx.wp_ite, Tx.wp_throw]
      split
      · refine issueLink_effect account (fun _ => rfl) ?_
        intro answer other change caused
        cases caused
      · trivial

/-! ## Accounts with an activation link -/

/-- The rule of creating a pending account: it is enrolled and given a link. -/
theorem wp_createPending_committed
    {draws : LinkDraws}
    {normal : AccountActivation → Store → Prop}
    (new : Move.NewAccount user)
    (created :
      ∀ activation moves later,
        Performs deps.settings store.toCore moves later.toCore →
        (∀ tx : ServiceTx, tx.issuing = some draws.linkId →
          Move.SparesAccounts tx moves) →
        normal activation later) :
    Tx.wp (createPending deps user now context draws) normal
      (fun _ _ => True) store := by
  simp only [createPending, Tx.wp_bind]
  apply wp_insertUser_committed
  intro absent
  simp only [Tx.wp_bind, wp_recordSecurityEvent]
  refine wp_issueLink_committed (Table.get?_put_self _ _) ?_
  intro issue moves later performs spares
  split
  · trivial
  · rw [Tx.wp_pure]
    refine created _ (.enroll user none :: moves) later
      (performs_enroll absent new performs) ?_
    intro tx issuing
    exact Move.SparesAccounts.cons_iff.mpr ⟨trivial, spares tx issuing⟩

theorem provision_effect
    {id : Uuid}
    {email displayName passwordHash : String}
    {roles scopes : List String}
    {draws : LinkDraws} :
    (ServiceTx.provision id email displayName passwordHash roles scopes now
      context draws).HasEffect env store := by
  refine wp_createPending_committed ⟨rfl, rfl, rfl⟩ ?_
  intro activation moves later performs spares
  refine ⟨moves, Effect.of_no_account performs (spares _ rfl) ?_⟩
  intro userId change caused
  cases caused

theorem ensureInitialAdmin_effect
    {id : Uuid}
    {normalizedEmail email displayName passwordHash : String}
    {scopes : List String}
    {draws : LinkDraws} :
    (ServiceTx.ensureInitialAdmin normalizedEmail id email displayName
      passwordHash scopes now context draws).HasEffect env store := by
  simp only [ServiceTx.HasEffect, ServiceTx.body, ensureInitialAdmin,
    Tx.wp_bind, Tx.wp_acquireAdminInvariantLock, Tx.wp_getUserByEmail]
  cases store.users.find? fun user => user.email = normalizedEmail with
  | some existing =>
      simp only [Tx.wp_ite, Tx.wp_pure, Tx.wp_throw]
      split
      · refine ⟨[], Effect.unchanged rfl ?_⟩
        intro userId change caused
        cases caused
      · trivial
  | none =>
      simp only [Tx.wp_bind, Tx.wp_countUsersWithRole, Tx.wp_ite, Tx.wp_throw]
      split
      · trivial
      · refine wp_createPending_committed ⟨rfl, rfl, rfl⟩ ?_
        intro activation moves later performs spares
        simp only [Tx.wp_bind, wp_recordSecurityEvent, Tx.wp_pure]
        refine ⟨moves, Effect.of_no_account performs (spares _ rfl) ?_⟩
        intro userId change caused
        cases caused

/-! ## Delivery -/

/-- A link that is still open may be revoked. -/
theorem wp_revokeEmailLink_committed
    {settings : AuthSettings}
    {link : EmailLink}
    {normal : Option EmailLink → Store → Prop}
    (found : store.links.get? link.id = some link)
    (revoked :
      ∀ answer moves later,
        Performs settings store.toCore moves later.toCore →
        (∀ tx, Move.SparesAccounts tx moves) →
        normal answer later) :
    Tx.wp (Tx.revokeEmailLink link.id now) normal (fun _ _ => True) store := by
  rw [Tx.wp_revokeEmailLink, found]
  by_cases isOpen : link.state = .pending ∨ link.state = .active
  · have passes :
        (some link).filter
            (fun link => link.state = .pending || link.state = .active) =
          some link := by
      simpa using isOpen
    rw [passes]
    exact revoked _ [.revokeLink link.id now] _
      (Performs.single ⟨link, found, isOpen⟩
        (Core.reviseLink_of_get? found))
      (by simp)
  · have fails :
        (some link).filter
            (fun link => link.state = .pending || link.state = .active) =
          none := by
      simpa using isOpen
    rw [fails]
    exact revoked _ [] _ Performs.nil (by simp)

theorem markDelivered_effect
    {linkId : Uuid} :
    (ServiceTx.markDelivered linkId now).HasEffect env store := by
  have effect_of_moves :
      ∀ (answer : Bool) moves later,
        Performs env.settings store.toCore moves later.toCore →
        (∀ tx, Move.SparesAccounts tx moves) →
        ∃ moves,
          Effect env.toDependencies store
            { tx := .markDelivered linkId now, answer := .ok answer }
            moves later := by
    intro answer moves later performs spares
    refine ⟨moves, Effect.of_no_account performs (spares _) ?_⟩
    intro userId change caused
    cases caused
  simp only [ServiceTx.HasEffect, ServiceTx.body, markDelivered, Tx.wp_bind,
    Tx.wp_getEmailLink]
  cases found : store.links.get? linkId with
  | none =>
      exact effect_of_moves _ [] _ Performs.nil (by simp)
  | some link =>
      have linkKey : link.id = linkId := Table.key_of_get? found
      subst linkKey
      simp only [Tx.wp_bind, Tx.wp_getUserById, Tx.wp_getEmailLink, found,
        Tx.wp_getLatestEmailLink]
      refine wp_ofExcept_committed ?_
      intro deliverable allowed
      cases deliverable with
      | none =>
          simp only [Tx.wp_bind]
          exact wp_revokeEmailLink_committed found
            fun _ moves later performs spares =>
              effect_of_moves _ moves later performs spares
      | some deliverable =>
          obtain ⟨_, account, isLink, _, hasAccount, pending, _, bound⟩ :=
            deliverableLink_ok_some allowed
          have version := (boundTo_ok_true bound).2.1
          obtain rfl := Option.some.inj isLink
          simp only [Tx.wp_bind, Tx.wp_activateEmailLink, found,
            Option.filter_some, pending, decide_true, ↓reduceIte,
            Tx.wp_revokeOtherActiveEmailLinks, wp_recordSecurityEvent,
            Tx.wp_pure]
          refine effect_of_moves _
            [ .activateLink link.id now,
              .revokeOtherLinks link.userId link.purpose link.id now ] _
            (Performs.cons ⟨link, account, found, pending, hasAccount, version⟩
              (Core.reviseLink_of_get? found) (Performs.single trivial rfl))
            (by simp)

theorem markDeliveryFailed_effect
    {linkId : Uuid} :
    (ServiceTx.markDeliveryFailed linkId now).HasEffect env store := by
  have noCause :
      ∀ answer userId change,
        Causes env.toDependencies store
          { tx := .markDeliveryFailed linkId now, answer := .ok answer }
          userId change →
        ¬ change.ReplacesPassword := by
    intro answer userId change caused
    cases caused
  simp only [ServiceTx.HasEffect, ServiceTx.body, markDeliveryFailed,
    Tx.wp_bind, Tx.wp_failEmailLink]
  cases found : store.links.get? linkId with
  | none =>
      exact ⟨[], Effect.unchanged rfl (noCause _)⟩
  | some link =>
      simp only [Option.filter_some]
      split
      · rename_i missing
        exact ⟨[], Effect.unchanged rfl (noCause _)⟩
      · rename_i row chosen
        split at chosen
        · rename_i pending
          obtain rfl := Option.some.inj chosen
          rw [decide_eq_true_eq] at pending
          have enabled :
              (Move.failLink linkId now).Enabled env.settings store.toCore :=
            ⟨link, found, pending⟩
          refine ⟨_, Effect.of_no_account
            (Performs.single enabled (Core.reviseLink_of_get? found))
            (by simp) (noCause _)⟩
        · cases chosen

theorem markNoticeDeliveryFailed_effect
    {userId : Uuid} :
    (ServiceTx.markNoticeDeliveryFailed userId now).HasEffect env store := by
  refine ⟨[], Effect.unchanged rfl ?_⟩
  intro other change caused
  cases caused

theorem activeLinkCandidate_effect
    {token : String} :
    (ServiceTx.activeLinkCandidate token purpose).HasEffect env store := by
  refine ⟨[], Effect.unchanged rfl ?_⟩
  intro other change caused
  cases caused

end EpokAuth
