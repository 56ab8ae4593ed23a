import EpokAuth.SessionGrounds

namespace EpokAuth

open Transactional

/-!
# Every transaction accounts for the sessions it adds

A transaction that answers no session adds none; one that answers a session
has stored that session alone, on the grounds of its kind.
-/

variable
  {env : Environment}
  {now : Instant}
  {context : RequestContext}
  {draws : SessionDraws}
  {store : Store}

/-- A transaction that is rolled back or accounts for what it added. -/
abbrev ServiceTx.IsAccounted (env : Environment) (tx : ServiceTx) (store : Store) :
    Prop :=
  Tx.wp (tx.body env) (Accounts env store tx) (fun _ _ => True) store

/-- A transaction that inserts no session and answers none. -/
theorem isAccounted_of_within
    {tx : ServiceTx}
    (spares : .opensSession ∉ tx.kinds)
    (answersNone : ∀ answer, tx.bundle answer = none) :
    tx.IsAccounted env store := by
  refine wp_addsNone (ServiceTx.body_within tx) spares ?_
  intro answer later added
  rw [Accounts, answersNone answer]
  exact added

/-! ## Passwords -/

theorem login_accounted
    {normalizedEmail password : String}
    {salt : Nat} :
    (ServiceTx.login normalizedEmail password now context salt
      draws).IsAccounted env store := by
  simp only [ServiceTx.IsAccounted, ServiceTx.body, login_eq, Tx.wp_bind,
    Tx.wp_getUserByEmail]
  cases found :
      store.users.find? fun user => user.email = normalizedEmail with
  | none =>
      simp only [Bool.true_or, ↓reduceIte, Tx.wp_bind]
      exact wp_addsNone recordPasswordFailure_within (by simp)
        fun _ _ added => added
  | some user =>
      obtain ⟨account, addressed⟩ := Table.get?_of_find? found
      simp only
      split
      · rw [Tx.wp_bind]
        exact wp_addsNone recordPasswordFailure_within (by simp)
          fun _ _ added => added
      · rename_i passes
        simp only [Bool.or_eq_true, not_or, Bool.not_eq_true',
          Bool.not_eq_false, Option.bind_some] at passes
        obtain ⟨⟨enabled, available⟩, verifies⟩ := passes
        rw [if_pos enabled] at verifies
        simp only [Tx.wp_bind, applyPasswordVerification]
        apply wp_updateUser_committed
        simp only [Tx.wp_pure, Tx.wp_bind]
        refine @wp_issue_adds _ _ _ _ user _ store _ _ _ rfl (fun _ => rfl) ?_
        intro bundle later adds
        simp only [Tx.wp_bind, wp_recordSecurityEvent, Tx.wp_pure]
        exact Mints.opens
          (.password account (of_decide_eq_true addressed) available enabled
            verifies)
          rfl rfl adds

theorem changePassword_accounted
    {principal : Principal}
    {currentPassword newPassword : String}
    {salts : ChangePasswordSalts} :
    (ServiceTx.changePassword principal currentPassword newPassword now
      context salts draws).IsAccounted env store := by
  simp only [ServiceTx.IsAccounted, ServiceTx.body, changePassword, Tx.wp_bind]
  refine wp_requirePrincipalUser principal now true _ ?_ trivial
  intro user session account found available valid
  have acting : user.id = principal.userId := Table.key_of_get? account
  simp only [Tx.wp_ite, Tx.wp_throw, Tx.wp_bind]
  split
  · trivial
  · rename_i verifies
    split
    · trivial
    · refine wp_ofExcept_committed fun passwordHash _ => ?_
      simp only [Tx.wp_bind]
      apply wp_updateUser_committed
      simp only [Tx.wp_bind, Tx.wp_revokeUserSessions]
      refine @wp_issue_adds _ _ _ _ user _ store _ _ _ rfl ?_ ?_
      · exact isSome_revoked store.sessions
      · intro bundle later adds
        simp only [Tx.wp_bind, wp_recordSecurityEvent, Tx.wp_pure]
        refine Mints.opens
          (.currentPassword (acting ▸ account) acting
            ⟨user, session, account, found, available, valid⟩ ?_)
          rfl rfl adds
        simpa using verifies

/-! ## Email links -/

/-- What the three checks on a presented link establish together. -/
theorem linkProof_of_checks
    {deps : Dependencies}
    {token browserNonce : String}
    {link : EmailLink}
    {user : UserAccount}
    (presented :
      (store.links.find? fun other =>
          other.tokenHash = deps.tokenHash token && other.purpose = .login) =
        some link)
    (account : store.users.get? link.userId = some user)
    (active : link.state = .active)
    (bound : matchesUser deps link user now = .ok true)
    (browser : validBrowser deps link (some browserNonce) = .ok true) :
    LinkProof deps store token browserNonce now link user := by
  obtain ⟨stored, named⟩ := Table.get?_of_find? presented
  rw [Bool.and_eq_true, decide_eq_true_eq, decide_eq_true_eq] at named
  rw [matchesUser, if_pos active] at bound
  obtain ⟨unexpired, current, eligible⟩ := boundTo_ok_true bound
  have nonce : link.browserHash = some (deps.tokenHash browserNonce) := by
    unfold validBrowser at browser
    split at browser
    · rename_i browserHash nonce stated same
      obtain rfl := Option.some.inj same
      rw [stated, eq_of_compareDigest browser]
    · cases browser
  exact
    { stored := stored
      account := account
      token := named.1
      purpose := named.2
      active := active
      unexpired := unexpired
      current := current
      recipient := recipientHash_of_boundTo bound
      browser := nonce
      eligible := named.2 ▸ eligible }

/-- The rule of consuming a link to log in. -/
theorem wp_consuming_login
    {deps : Dependencies}
    {token browserNonce : String}
    {complete : UserAccount → Tx α}
    {refused : Option UserAccount → Tx Unit}
    {normal : Option α → Store → Prop}
    (declined : ∀ user later, later.sessions = store.sessions →
      Tx.wp (refused user) (fun _ => normal none) (fun _ _ => True) later)
    (completed : ∀ link user later,
      LinkProof deps store token browserNonce now link user →
      later.sessions = store.sessions →
        Tx.wp (complete user) (fun value => normal (some value))
          (fun _ _ => True) later) :
    Tx.wp
      (consuming deps token .login now (some browserNonce) complete refused)
      normal (fun _ _ => True) store := by
  have refuses : ∀ user later, later.sessions = store.sessions →
      Tx.wp (refused user >>= fun _ => pure none) normal (fun _ _ => True)
        later := by
    intro user later same
    rw [Tx.wp_bind]
    exact declined user later same
  simp only [consuming, consumableLink, Tx.wp_bind]
  rw [Tx.wp_ite]
  split
  · exact refuses none store rfl
  simp only [Tx.wp_bind, Tx.wp_getEmailLinkByTokenHash]
  cases presented :
      store.links.find? fun link =>
        link.tokenHash = deps.tokenHash token && link.purpose = .login with
  | none => exact refuses none store rfl
  | some link =>
      have stored : store.links.get? link.id = some link :=
        (Table.get?_of_find? presented).1
      simp only [Tx.wp_bind, Tx.wp_getUserById, Tx.wp_getEmailLink, stored]
      rw [Tx.wp_ite]
      split
      · exact refuses _ store rfl
      rename_i isActive
      have active : link.state = .active := not_not.mp isActive
      cases account : store.users.get? link.userId with
      | none =>
          simp only [Tx.wp_bind, Tx.wp_revokeEmailLink]
          split
          · exact refuses none store rfl
          · exact refuses none _ rfl
      | some user =>
          simp only [Tx.wp_bind]
          refine wp_ofExcept_committed fun isMatch bound => ?_
          rw [Tx.wp_ite]
          split
          · simp only [Tx.wp_bind, Tx.wp_revokeEmailLink]
            split
            · exact refuses (some user) store rfl
            · exact refuses (some user) _ rfl
          rename_i matches_
          obtain rfl : isMatch = true := by simpa using matches_
          rw [Tx.wp_ite, if_pos trivial, Tx.wp_bind]
          refine wp_ofExcept_committed fun isBrowser browser => ?_
          rw [Tx.wp_ite]
          split
          · rename_i isThis
            subst isThis
            have proof :=
              linkProof_of_checks presented account active bound browser
            simp only [Tx.wp_pure, Tx.wp_ite, Tx.wp_bind,
              Tx.wp_consumeEmailLink, stored, Option.filter_some]
            split
            · split
              · exact declined (some user) store rfl
              · exact completed link user _ proof rfl
            · exact declined (some user) store rfl
          · exact refuses (some user) store rfl

theorem emailLinkLogin_accounted
    {token browserNonce : String} :
    (ServiceTx.emailLinkLogin token browserNonce now context
      draws).IsAccounted env store := by
  refine wp_consuming_login ?_ ?_
  · intro user later same
    rw [loginFailure, wp_recordSecurityEvent]
    exact fun id present => same ▸ present
  · intro link user later proof same
    simp only [Tx.wp_bind]
    refine @wp_issue_adds _ _ _ _ user _ store _ _ _ rfl
      (fun id => by rw [same]) ?_
    intro bundle last adds
    simp only [Tx.wp_bind, wp_recordSecurityEvent, Tx.wp_pure]
    exact Mints.opens (.emailLink proof) rfl rfl adds

/-! ## Passkeys -/

/-- The rule of verifying a response whoever it is from. -/
theorem wp_verifyAndUpdatePasskey_anyone
    {adapter : PasskeyAdapter}
    {response : PasskeyResponse}
    {normal : PasskeyVerificationResult → Store → Prop}
    (refused : ∀ user, normal { user := user, credential := none } store)
    (verified : ∀ passkey answer user updated later,
      PasskeyProof adapter store response now passkey answer user →
      later.sessions = store.sessions →
        normal { user := some user, credential := some updated } later) :
    Tx.wp (verifyAndUpdatePasskey adapter response now none) normal
      (fun _ _ => True) store := by
  simp only [verifyAndUpdatePasskey]
  cases names : adapter.credentialId response.credential with
  | none => exact refused none
  | some credentialId =>
      simp only [Tx.wp_bind, Tx.wp_getPasskeyByCredentialId]
      cases credential :
          store.passkeys.find? fun passkey =>
            passkey.credentialId = credentialId with
      | none => exact refused none
      | some stored =>
          obtain ⟨found, named⟩ := Table.get?_of_find? credential
          simp only [Tx.wp_ite, Tx.wp_pure, Tx.wp_bind, Tx.wp_getUserById]
          split
          · exact refused none
          · rename_i admitted
            rw [Bool.or_eq_true, not_or] at admitted
            cases checked :
                authenticatable (store.users.get? stored.userId) now with
            | none => exact refused none
            | some user =>
                obtain ⟨account, available⟩ := authenticatable_eq_some checked
                simp only
                cases accepts :
                    adapter.verifyAuthentication response.credential
                      response.challenge response.origin stored with
                | none => exact refused (some user)
                | some answer =>
                    simp only [Tx.wp_ite, Tx.wp_pure, Tx.wp_bind,
                      Tx.wp_updatePasskey]
                    split
                    · exact refused (some user)
                    · split
                      · split
                        · trivial
                        · exact verified stored answer user _ _
                            { stored := found
                              account := account
                              named := by
                                rw [names, of_decide_eq_true named]
                              unrevoked := by simpa using admitted.1
                              available := available
                              accepted := accepts }
                            rfl
                      · trivial

theorem finishAuthentication_accounted
    {response : PasskeyResponse} :
    (ServiceTx.finishAuthentication response now context draws).IsAccounted env
      store := by
  simp only [ServiceTx.IsAccounted, ServiceTx.body, finishAuthentication,
    Tx.wp_bind]
  refine wp_verifyAndUpdatePasskey_anyone ?_ ?_
  · intro user
    simp only [Tx.wp_bind, wp_recordSecurityEvent, Tx.wp_pure]
    exact AddsNone.refl _
  · intro passkey answer user updated later proof same
    simp only [Tx.wp_bind]
    refine @wp_issue_adds _ _ _ _ user _ store _ _ _ rfl
      (fun id => by rw [same]) ?_
    intro bundle last adds
    simp only [Tx.wp_bind, wp_recordSecurityEvent, Tx.wp_pure]
    exact Mints.opens (.passkey proof) rfl rfl adds

/-! ## Google -/

section Google

variable
  {deps : Dependencies}
  {claims : GoogleClaims}
  {user : UserAccount}
  {before : Store}

/-- Logging into a stored identity adds the session of its account. -/
theorem wp_loginLinked_adds
    {identity : ExternalIdentity}
    {normal : Option SessionBundle → Store → Prop}
    (account : store.users.get? identity.userId = some user)
    (same : store.sessions = before.sessions)
    (refused : user.canAuthenticate now = false → normal none store)
    (logged : user.canAuthenticate now = true → ∀ bundle later,
      Adds deps user now (openLineage deps now draws) draws before.sessions
          bundle later.sessions →
        normal (some bundle) later) :
    Tx.wp (loginLinked deps identity claims now context draws) normal
      (fun _ _ => True) store := by
  simp only [loginLinked, Tx.wp_bind, Tx.wp_getUserById, account]
  rw [Tx.wp_ite]
  split
  · rename_i available
    simp only [Tx.wp_bind, Tx.wp_updateExternalIdentity]
    split
    · split
      · trivial
      · refine @wp_issue_adds _ _ _ _ user _ before _ _ _ rfl
          (fun id => by rw [same]) ?_
        intro bundle later adds
        simp only [Tx.wp_bind, wp_recordSecurityEvent, Tx.wp_pure]
        exact logged available bundle _ adds
    · trivial
  · rename_i unavailable
    exact refused (Bool.eq_false_iff.mpr unavailable)

/-- Inserting an identity and logging into it does too. -/
theorem wp_insertIdentityAndLogin_adds
    {draws : GoogleLoginDraws}
    {owner : UserAccount}
    {normal : SessionBundle → Store → Prop}
    (account : store.users.get? owner.id = some owner)
    (isUser : owner.id = user.id)
    (same : store.sessions = before.sessions)
    (logged : ∀ bundle later,
      Adds deps user now (openLineage deps now draws.session) draws.session
          before.sessions bundle later.sessions →
        normal bundle later) :
    Tx.wp (insertIdentityAndLogin deps owner claims now context draws) normal
      (fun _ _ => True) store := by
  simp only [insertIdentityAndLogin, Tx.wp_bind, Tx.wp_insertExternalIdentity]
  split
  · trivial
  · simp only [Tx.wp_bind, wp_recordSecurityEvent]
    refine @wp_loginLinked_adds _ _ _ _ _ _ owner before _ _ account same
      (fun _ => trivial) ?_
    intro _ bundle later adds
    obtain ⟨holder, isHolder, answered⟩ := adds.answered
    rw [isUser] at isHolder answered
    exact logged bundle later
      { absent := adds.absent
        stored := isUser ▸ adds.stored
        others := adds.others
        answered := ⟨holder, isHolder, answered⟩ }

end Google

/-- What the branches that insert an identity rest on. -/
def LoginPath.Admitted
    (settings : AuthSettings)
    (claims : GoogleClaims) :
    LoginPath → Prop
  | .linked _ => True
  | .refused => True
  | .links _ =>
      settings.googleAccountMode ≠ .linkedOnly ∧ isAuthoritative claims = true
  | .creates email =>
      settings.googleAccountMode = .open_ ∧ isAuthoritative claims = true ∧
        claims.email = some email

theorem loginPath_admitted
    {settings : AuthSettings}
    {claims : GoogleClaims} :
    (loginPath settings claims now store).Admitted settings claims := by
  unfold loginPath
  split
  · trivial
  split
  · trivial
  · trivial
  rename_i email addressed admits
  split
  · rename_i authoritative
    split
    · split
      · exact ⟨admits, authoritative⟩
      · trivial
    · split
      · rename_i isOpen
        exact ⟨isOpen, authoritative, addressed⟩
      · trivial
  · trivial

theorem googleLogin_accounted
    {claims : GoogleClaims}
    {draws : GoogleLoginDraws} :
    (ServiceTx.googleLogin claims now context draws).IsAccounted env store := by
  have refused : AddsNone store.sessions store.sessions := .refl _
  simp only [ServiceTx.IsAccounted, ServiceTx.body, EpokAuth.googleLogin,
    Tx.wp_bind]
  rw [wp_loginIdentity]
  have found := @loginPath_found claims now store env.settings
  have admitted := @loginPath_admitted now store env.settings claims
  cases path : loginPath env.settings claims now store with
  | linked identity =>
      rw [path] at found
      obtain ⟨stored, named⟩ := Table.get?_of_find? found
      rw [Bool.and_eq_true, decide_eq_true_eq, decide_eq_true_eq] at named
      dsimp only
      cases account : store.users.get? identity.userId with
      | none =>
          simp only [loginLinked, Tx.wp_bind, Tx.wp_getUserById, account]
          exact refused
      | some user =>
          refine @wp_loginLinked_adds _ _ _ _ _ _ user store _ _ account rfl
            (fun _ => refused) ?_
          intro available bundle later adds
          exact Mints.opens
            (.identity
              { stored := stored
                account := account
                issuer := named.1
                subject := named.2
                available := available })
            rfl rfl adds
  | refused => exact refused
  | links user =>
      rw [path] at found admitted
      obtain ⟨unlinked, account, permitted⟩ := found
      simp only [linkAndLogin, Tx.wp_bind]
      refine wp_ofExcept_committed fun passwordHash _ => ?_
      rw [Tx.wp_bind]
      apply wp_updateUser_committed
      refine @wp_insertIdentityAndLogin_adds _ _ _ _ _ user store _ _ _
        (Table.get?_put_self _ _) rfl rfl ?_
      intro bundle later adds
      exact Mints.opens
        (.preauthorised admitted.1 account unlinked admitted.2 permitted) rfl rfl
        adds
  | creates email =>
      rw [path] at found admitted
      obtain ⟨unlinked, unknown⟩ := found
      simp only [createOpenUser, Tx.wp_bind]
      refine wp_ofExcept_committed fun passwordHash _ => ?_
      rw [Tx.wp_bind]
      refine wp_ofExcept_committed fun displayName _ => ?_
      rw [Tx.wp_bind]
      apply wp_insertUser_committed
      intro absent
      simp only [Tx.wp_bind, wp_recordSecurityEvent, Tx.wp_pure]
      refine @wp_insertIdentityAndLogin_adds _ _ _ _ _
        (openAccount env.toDependencies draws.userId email displayName
          passwordHash now)
        store _ _ _ (Table.get?_put_self _ _) rfl rfl ?_
      intro bundle later adds
      exact Mints.opens
        (.created admitted.1 absent unlinked admitted.2.1 admitted.2.2 unknown)
        rfl rfl adds

theorem loginLinkedAfterConflict_accounted
    {claims : GoogleClaims} :
    (ServiceTx.loginLinkedAfterConflict claims now context draws).IsAccounted
      env store := by
  simp only [ServiceTx.IsAccounted, ServiceTx.body,
    EpokAuth.loginLinkedAfterConflict, Tx.wp_bind, Tx.wp_getExternalIdentity]
  cases linked : store.identities.find? fun identity =>
    identity.issuer = googleIssuer && identity.subject = claims.subject with
  | none => trivial
  | some identity =>
      obtain ⟨stored, named⟩ := Table.get?_of_find? linked
      rw [Bool.and_eq_true, decide_eq_true_eq, decide_eq_true_eq] at named
      simp only
      cases account : store.users.get? identity.userId with
      | none =>
          simp only [loginLinked, Tx.wp_bind, Tx.wp_getUserById, account]
          exact AddsNone.refl _
      | some user =>
          refine @wp_loginLinked_adds _ _ _ _ _ _ user store _ _ account rfl
            (fun _ => AddsNone.refl _) ?_
          intro available bundle later adds
          exact Mints.opens
            (.identityOfOther
              { stored := stored
                account := account
                issuer := named.1
                subject := named.2
                available := available })
            rfl rfl adds

/-! ## Refresh -/

/-- Marking the replaced session adds no other. -/
theorem Adds.replaced
    {deps : Dependencies}
    {user : UserAccount}
    {lineage : Lineage}
    {bundle : SessionBundle}
    {before after : Table RefreshSession}
    {session marked : RefreshSession}
    (adds : Adds deps user now lineage draws before bundle after)
    (found : before.get? session.id = some session)
    (same : marked.id = session.id) :
    Adds deps user now lineage draws before bundle (after.put marked) := by
  have isOther : draws.sessionId ≠ marked.id := by
    intro isSession
    have absent := adds.absent
    rw [isSession, same, found] at absent
    cases absent
  refine
    { absent := adds.absent
      stored := (Table.get?_put_of_ne _ isOther).trans adds.stored
      others := fun id other present => ?_
      answered := adds.answered }
  rw [Table.get?_put] at present
  split at present
  · rename_i isMarked
    rw [isMarked]
    change (before.get? marked.id).isSome
    rw [same, found]
    rfl
  · exact adds.others id other present

theorem refresh_accounted
    {refreshToken csrfCookie : String} :
    (ServiceTx.refresh refreshToken csrfCookie now context draws).IsAccounted
      env store := by
  simp only [ServiceTx.IsAccounted, ServiceTx.body, EpokAuth.refresh,
    Tx.wp_bind, Tx.wp_getSessionByTokenHash]
  cases candidate :
      store.sessions.find? fun session =>
        session.tokenHash = env.tokenHash refreshToken with
  | none => exact AddsNone.refl _
  | some session =>
      obtain ⟨found, matched⟩ := Table.get?_of_find? candidate
      have found : store.sessions.get? session.id = some session := found
      simp only [Tx.wp_bind, Tx.wp_getUserById, Tx.wp_getSessionById, found]
      refine wp_ofExcept_committed fun tokenMatches _ => ?_
      rw [Tx.wp_ite]
      split
      · exact AddsNone.refl _
      rename_i live
      simp only [Bool.or_eq_true, not_or, Bool.not_eq_true',
        Bool.not_eq_false, Option.isSome_iff_ne_none, ne_eq,
        not_not] at live
      simp only [refreshSession]
      rw [Tx.wp_ite]
      split
      · simp only [Tx.wp_bind, Tx.wp_revokeFamily, wp_recordSecurityEvent]
        exact AddsNone.revoked
      rename_i notUsed
      rw [Tx.wp_ite]
      split
      · simp only [Tx.wp_bind, Tx.wp_revokeFamily]
        exact AddsNone.revoked
      rename_i unexpired
      simp only [Bool.or_eq_true, decide_eq_true_eq, not_or, not_le]
        at unexpired
      rw [Tx.wp_bind]
      refine wp_ofExcept_committed fun csrfMatches compared => ?_
      rw [Tx.wp_ite]
      split
      · exact AddsNone.refl _
      rename_i csrf
      obtain rfl : csrfMatches = true := by simpa using csrf
      cases account : store.users.get? session.userId with
      | none =>
          simp only [Tx.wp_bind, Tx.wp_revokeFamily]
          exact AddsNone.revoked
      | some user =>
          simp only
          rw [Tx.wp_ite]
          split
          · rename_i available
            have presents :
                PresentsTokens env.toDependencies store refreshToken
                  csrfCookie now session user :=
              { stored := found
                account := account
                token := of_decide_eq_true matched
                csrf := eq_of_compareDigest compared
                unused := by simpa using notUsed
                unrevoked := live.2
                beforeIdle := unexpired.1
                beforeAbsolute := unexpired.2
                available := available }
            simp only [Tx.wp_bind, rotate]
            refine @wp_issue_adds _ _ _ _ user _ store _ _ _ rfl
              (fun _ => rfl) ?_
            intro bundle later adds
            simp only [Tx.wp_bind, Tx.wp_updateSession]
            split
            · split
              · trivial
              · simp only [wp_recordSecurityEvent, Tx.wp_pure]
                exact Mints.rotates presents (adds.replaced found rfl)
            · trivial
          · simp only [Tx.wp_bind, Tx.wp_revokeFamily]
            exact AddsNone.revoked

/-- Every transaction accounts for the sessions that it adds. -/
theorem ServiceTx.accounts (tx : ServiceTx) : tx.IsAccounted env store := by
  cases tx with
  | login => exact login_accounted
  | refresh => exact refresh_accounted
  | changePassword => exact changePassword_accounted
  | emailLinkLogin => exact emailLinkLogin_accounted
  | finishAuthentication => exact finishAuthentication_accounted
  | googleLogin => exact googleLogin_accounted
  | loginLinkedAfterConflict => exact loginLinkedAfterConflict_accounted
  | _ => exact isAccounted_of_within (by simp [ServiceTx.kinds]) fun _ => rfl

end EpokAuth
