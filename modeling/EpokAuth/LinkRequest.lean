import EpokAuth.LinkCreation

namespace EpokAuth

open Transactional

/-!
# Requests for links

A transaction that may issue a link is for one account and purpose.  It leaves
the links alone, or removes old ones and is refused, or removes old ones and
issues a link; only in the last case it hands out one.
-/

/-- The account and purpose a transaction requests a link for. -/
def ServiceTx.requestsFor
    (store : Store) :
    ServiceTx → Option (Uuid × EmailLinkPurpose)
  | .requestLogin normalizedEmail _ _ _ _ =>
      (store.users.find? fun user => user.email = normalizedEmail).map
        fun user => (user.id, .login)
  | .requestPasswordReset normalizedEmail _ _ _ =>
      (store.users.find? fun user => user.email = normalizedEmail).map
        fun user => (user.id, .passwordReset)
  | .invite userId _ _ _ => some (userId, .invitation)
  | .provision id _ _ _ _ _ _ _ _ => some (id, .activation)
  | .ensureInitialAdmin _ id _ _ _ _ _ _ _ => some (id, .activation)
  | .replaceActivation userId _ _ _ => some (userId, .activation)
  | _ => none

/-- The pending link in the answer of a transaction. -/
def ServiceTx.pendingIn : (tx : ServiceTx) → tx.Answer → Option PendingEmailLink
  | .requestLogin .., issue => issue.pending
  | .requestPasswordReset .., issue => issue.pending
  | .invite .., issue => issue.pending
  | .provision .., activation => some activation.pending
  | .ensureInitialAdmin .., activation => activation.pending
  | .replaceActivation .., issue => issue.pending
  | _, _ => none

/-- The pending link that an executed transaction handed out. -/
def Executed.handsOut (executed : Executed) : Option PendingEmailLink :=
  match executed.answer with
  | .ok answer => executed.tx.pendingIn answer
  | .error _ => none

/-- An executed transaction handed out a link, which is stored. -/
def Executed.IssuesLink
    (executed : Executed)
    (after : Store)
    (link : EmailLink) :
    Prop :=
  ∃ pending,
    executed.handsOut = some pending ∧
      after.links.get? pending.linkId = some link

/-- What becomes of the links when one is requested. -/
inductive IssueOutcome
    (settings : AuthSettings)
    (before : Store)
    (userId : Uuid)
    (purpose : EmailLinkPurpose)
    (now : Instant) :
    Option PendingEmailLink → Store → Prop where
  | refused
      {after : Store}
      (full :
        settings.emailLinkMaxRequestsPerWindow ≤
          ((before.purged settings now).creations userId purpose).countP
            (settings.linkLimit.isRecent now))
      (links : after.links = (before.purged settings now).links) :
      IssueOutcome settings before userId purpose now none after
  | issued
      {link : EmailLink}
      {pending : PendingEmailLink}
      {after : Store}
      (room :
        ((before.purged settings now).creations userId purpose).countP
            (settings.linkLimit.isRecent now) <
          settings.emailLinkMaxRequestsPerWindow)
      (owned : link.userId = userId)
      (purposed : link.purpose = purpose)
      (created : link.createdAt = now)
      (named : pending.linkId = link.id)
      (absent : (before.purged settings now).links.get? link.id = none)
      (links : after.links = (before.purged settings now).links.put link) :
      IssueOutcome settings before userId purpose now (some pending) after

/-- What a transaction that may issue a link does to the links. -/
inductive RequestOutcome
    (settings : AuthSettings)
    (before : Store)
    (executed : Executed)
    (after : Store) :
    Prop where
  | idle
      (links : after.links = before.links)
      (nothing : executed.handsOut = none)
  | requested
      {userId : Uuid}
      {purpose : EmailLinkPurpose}
      {now : Instant}
      (requests :
        executed.tx.requestsFor before = some (userId, purpose))
      (reads : executed.tx.clock = some now)
      (outcome :
        IssueOutcome settings before userId purpose now executed.handsOut after)

/-- The link that a request inserts after the old ones are removed. -/
def requestedLink
    (deps : Dependencies)
    (before : Store)
    (user : UserAccount)
    (purpose : EmailLinkPurpose)
    (now : Instant)
    (browserNonce : Option String)
    (draws : LinkDraws) :
    EmailLink :=
  issuedLink deps user purpose
    (Store.latestEmailLink user.id purpose (before.purged deps.settings now))
    now browserNonce draws

/-- What a request for a link returns, and which links it leaves. -/
inductive IssueResult
    (deps : Dependencies)
    (before : Store)
    (userId : Uuid)
    (purpose : EmailLinkPurpose)
    (now : Instant) :
    Option PendingEmailLink → Table EmailLink → Prop where
  | refused
      (full :
        deps.settings.emailLinkMaxRequestsPerWindow ≤
          ((before.purged deps.settings now).creations userId purpose).countP
            (deps.settings.linkLimit.isRecent now)) :
      IssueResult deps before userId purpose now none
        (before.purged deps.settings now).links
  | issued
      {user : UserAccount}
      {browserNonce : Option String}
      {draws : LinkDraws}
      {pending : PendingEmailLink}
      {url : String}
      (owner : user.id = userId)
      (room :
        ((before.purged deps.settings now).creations userId purpose).countP
            (deps.settings.linkLimit.isRecent now) <
          deps.settings.emailLinkMaxRequestsPerWindow)
      (configured : emailLinkUrl deps.settings purpose = .ok url)
      (free :
        ¬ Store.linkTaken
          (requestedLink deps before user purpose now browserNonce draws)
          (before.purged deps.settings now) = true)
      (named : pending.linkId = draws.linkId) :
      IssueResult deps before userId purpose now (some pending)
        ((before.purged deps.settings now).links.put
          (requestedLink deps before user purpose now browserNonce draws))

/-- What a transaction that may issue a link returns and leaves of the links. -/
inductive RequestResult
    (deps : Dependencies)
    (before : Store)
    (executed : Executed)
    (after : Store) :
    Prop where
  | idle
      (links : after.links = before.links)
      (nothing : executed.handsOut = none)
  | requested
      {userId : Uuid}
      {purpose : EmailLinkPurpose}
      {now : Instant}
      (requests :
        executed.tx.requestsFor before = some (userId, purpose))
      (reads : executed.tx.clock = some now)
      (result :
        IssueResult deps before userId purpose now executed.handsOut
          after.links)

variable
  {env : Environment}
  {deps : Dependencies}
  {store : Store}
  {user : UserAccount}
  {userId : Uuid}
  {purpose : EmailLinkPurpose}
  {now : Instant}
  {context : RequestContext}
  {draws : LinkDraws}

/-! ## Issuing -/

/-- A link identifier that is not taken is stored under no link. -/
theorem absent_of_not_linkTaken
    {link : EmailLink}
    (free : ¬ Store.linkTaken link store = true) :
    store.links.get? link.id = none := by
  refine Table.get?_eq_none_of_find? (Bool.eq_false_iff.mpr free)
    fun other isOther => ?_
  have same : other.id = link.id := isOther
  simp [same]

/-- Issuing a link is refused, or issues one. -/
theorem wp_issueLink_result
    {browserNonce : Option String}
    {normal : EmailLinkIssue → Store → Prop}
    (returned :
      ∀ issue later,
        IssueResult deps store user.id purpose now issue.pending
          later.links →
        normal issue later) :
    Tx.wp (issueLink deps user purpose now context browserNonce draws) normal
      (fun _ _ => True) store := by
  simp only [issueLink, Tx.wp_bind, Tx.wp_deleteOldEmailLinks,
    Tx.wp_countEmailLinkRequests, Tx.wp_ite, Tx.wp_pure,
    Tx.wp_getLatestEmailLink, Tx.wp_insertEmailLink]
  split
  · rename_i full
    refine returned _ _ (.refused ?_)
    rw [← count_requests]
    exact full
  · rename_i room
    split
    · trivial
    · rename_i free
      simp only [Tx.wp_bind, wp_recordSecurityEvent]
      refine wp_ofExcept_committed ?_
      intro url configured
      rw [Tx.wp_pure]
      refine returned _ _ (.issued rfl ?_ configured free rfl)
      rw [← count_requests]
      exact Nat.not_le.mp room

/-- A refused issue only removes old links. -/
theorem wp_issueLink_refused
    {browserNonce : Option String}
    {normal : EmailLinkIssue → Store → Prop}
    {failed : Failure → Store → Prop}
    (full :
      deps.settings.emailLinkMaxRequestsPerWindow ≤
        ((store.purged deps.settings now).creations user.id purpose).countP
          (deps.settings.linkLimit.isRecent now))
    (returned : normal {} (store.purged deps.settings now)) :
    Tx.wp (issueLink deps user purpose now context browserNonce draws) normal
      failed store := by
  rw [← count_requests] at full
  simp only [issueLink, Tx.wp_bind, Tx.wp_deleteOldEmailLinks,
    Tx.wp_countEmailLinkRequests, Tx.wp_ite, Tx.wp_pure]
  split
  · exact returned
  · rename_i room
    exact absurd full room

/-! ## The transactions that request links -/

/-- What a transaction that may issue a link does when it returns. -/
def ServiceTx.HasRequestResult
    (tx : ServiceTx)
    (env : Environment)
    (store : Store) :
    Prop :=
  Tx.wp (tx.body env)
    (fun answer later =>
      RequestResult env.toDependencies store
        { tx := tx, answer := .ok answer } later)
    (fun _ _ => True) store

theorem requestLogin_result
    {normalizedEmail browserNonce : String} :
    (ServiceTx.requestLogin normalizedEmail browserNonce now context
      draws).HasRequestResult env store := by
  simp only [ServiceTx.HasRequestResult, ServiceTx.body, requestForEmail,
    Tx.wp_bind, Tx.wp_getUserByEmail]
  cases found :
      store.users.find? fun user => user.email = normalizedEmail with
  | none => exact .idle rfl rfl
  | some user =>
      simp only [Tx.wp_ite, Tx.wp_pure]
      split
      · exact wp_issueLink_result fun issue later result =>
          .requested (by rw [ServiceTx.requestsFor, found]; rfl) rfl result
      · exact .idle rfl rfl

theorem requestPasswordReset_result
    {normalizedEmail : String} :
    (ServiceTx.requestPasswordReset normalizedEmail now context
      draws).HasRequestResult env store := by
  simp only [ServiceTx.HasRequestResult, ServiceTx.body, requestForEmail,
    Tx.wp_bind, Tx.wp_getUserByEmail]
  cases found :
      store.users.find? fun user => user.email = normalizedEmail with
  | none => exact .idle rfl rfl
  | some user =>
      simp only [Tx.wp_ite, Tx.wp_pure]
      split
      · exact wp_issueLink_result fun issue later result =>
          .requested (by rw [ServiceTx.requestsFor, found]; rfl) rfl result
      · exact .idle rfl rfl

theorem invite_result :
    (ServiceTx.invite userId now context draws).HasRequestResult env
      store := by
  simp only [ServiceTx.HasRequestResult, ServiceTx.body, invite, Tx.wp_bind,
    Tx.wp_getUserById]
  cases account : store.users.get? userId with
  | none => trivial
  | some user =>
      obtain rfl := Table.key_of_get? account
      simp only [Tx.wp_ite, Tx.wp_throw]
      split
      · exact wp_issueLink_result fun issue later result =>
          .requested rfl rfl result
      · trivial

theorem replaceActivation_result :
    (ServiceTx.replaceActivation userId now context draws).HasRequestResult
      env store := by
  simp only [ServiceTx.HasRequestResult, ServiceTx.body, replaceActivation,
    Tx.wp_bind, Tx.wp_getUserById]
  cases account : store.users.get? userId with
  | none => trivial
  | some user =>
      obtain rfl := Table.key_of_get? account
      simp only [Tx.wp_ite, Tx.wp_throw]
      split
      · exact wp_issueLink_result fun issue later result =>
          .requested rfl rfl result
      · trivial

/-- A pending account that is created has been issued a link. -/
theorem wp_createPending_result
    {normal : AccountActivation → Store → Prop}
    (created :
      ∀ activation later,
        IssueResult deps store user.id .activation now
          (some activation.pending) later.links →
        normal activation later) :
    Tx.wp (createPending deps user now context draws) normal
      (fun _ _ => True) store := by
  simp only [createPending, Tx.wp_bind, Tx.wp_insertUser]
  split
  · trivial
  simp only [Tx.wp_bind, wp_recordSecurityEvent]
  refine wp_issueLink_result fun issue later result => ?_
  split
  · trivial
  · rename_i pending hands
    rw [hands] at result
    rw [Tx.wp_pure]
    -- inserting the account has not touched the links
    generalize left : later.links = links at result
    cases result with
    | issued owner room configured free named =>
        refine created _ later ?_
        rw [left]
        exact .issued owner room configured free named

theorem provision_result
    {id : Uuid}
    {email displayName passwordHash : String}
    {roles scopes : List String} :
    (ServiceTx.provision id email displayName passwordHash roles scopes now
      context draws).HasRequestResult env store :=
  wp_createPending_result fun _ _ result => .requested rfl rfl result

theorem ensureInitialAdmin_result
    {id : Uuid}
    {normalizedEmail email displayName passwordHash : String}
    {scopes : List String} :
    (ServiceTx.ensureInitialAdmin normalizedEmail id email displayName
      passwordHash scopes now context draws).HasRequestResult env store := by
  simp only [ServiceTx.HasRequestResult, ServiceTx.body, ensureInitialAdmin,
    Tx.wp_bind, Tx.wp_acquireAdminInvariantLock, Tx.wp_getUserByEmail]
  cases store.users.find? fun user => user.email = normalizedEmail with
  | some existing =>
      simp only [Tx.wp_ite, Tx.wp_pure, Tx.wp_throw]
      split
      · exact .idle rfl rfl
      · trivial
  | none =>
      simp only [Tx.wp_bind, Tx.wp_countUsersWithRole, Tx.wp_ite, Tx.wp_throw]
      split
      · trivial
      · refine wp_createPending_result fun activation later result => ?_
        simp only [Tx.wp_bind, wp_recordSecurityEvent, Tx.wp_pure]
        exact .requested rfl rfl result

theorem ServiceTx.hasRequestResult
    {tx : ServiceTx}
    (issues : tx.issuing ≠ none) :
    tx.HasRequestResult env store := by
  cases tx with
  | requestLogin => exact requestLogin_result
  | requestPasswordReset => exact requestPasswordReset_result
  | invite => exact invite_result
  | provision => exact provision_result
  | ensureInitialAdmin => exact ensureInitialAdmin_result
  | replaceActivation => exact replaceActivation_result
  | _ => exact absurd rfl issues

/-- A step that may issue a link returns and leaves one of these things. -/
theorem ServiceStep.requestResult
    {before after : Store}
    {executed : Executed}
    (step : ServiceStep env before executed after)
    (issues : executed.tx.issuing ≠ none) :
    RequestResult env.toDependencies before executed after := by
  obtain ⟨tx, answer⟩ := executed
  cases answer with
  | ok answer =>
      exact step.of_wp (ServiceTx.hasRequestResult issues)
  | error failure =>
      obtain rfl := step.unchanged_of_error
      exact .idle rfl rfl

/-- What a request leaves is what becomes of the links. -/
theorem IssueResult.outcome
    {before after : Store}
    {pending : Option PendingEmailLink}
    (result : IssueResult deps before userId purpose now pending after.links) :
    IssueOutcome deps.settings before userId purpose now pending after := by
  generalize left : after.links = links at result
  cases result with
  | refused full => exact .refused full left
  | issued owner room configured free named =>
      exact .issued room owner rfl rfl named (absent_of_not_linkTaken free) left

/-- A step that may issue a link does one of these things to the links. -/
theorem ServiceStep.requestOutcome
    {before after : Store}
    {executed : Executed}
    (step : ServiceStep env before executed after)
    (issues : executed.tx.issuing ≠ none) :
    RequestOutcome env.settings before executed after := by
  cases step.requestResult issues with
  | idle links nothing => exact .idle links nothing
  | requested requests reads result =>
      exact .requested requests reads result.outcome

/-- A step that issues no link leaves what was issued alone. -/
theorem ServiceStep.issuedLinks_kept
    {before after : Store}
    {executed : Executed}
    (step : ServiceStep env before executed after)
    (issues : executed.tx.issuing = none) :
    after.issuedLinks = before.issuedLinks := by
  obtain ⟨tx, answer⟩ := executed
  cases answer with
  | ok answer =>
      exact step.of_wp ((ServiceTx.sparesCreations issues).wp fun _ _ same => same)
  | error failure =>
      obtain rfl := step.unchanged_of_error
      rfl

/-- A step that issues no link leaves the creation times alone. -/
theorem ServiceStep.creations_kept
    {before after : Store}
    {executed : Executed}
    (step : ServiceStep env before executed after)
    (issues : executed.tx.issuing = none) :
    after.creations userId purpose = before.creations userId purpose := by
  rw [creations_eq, step.issuedLinks_kept issues, ← creations_eq]

/-- Only a transaction that may issue a link hands one out. -/
theorem Executed.handsOut_of_no_issue
    {executed : Executed}
    (issues : executed.tx.issuing = none) :
    executed.handsOut = none := by
  obtain ⟨tx, answer⟩ := executed
  cases answer with
  | error failure => rfl
  | ok answer => cases tx <;> first | rfl | cases issues

end EpokAuth
