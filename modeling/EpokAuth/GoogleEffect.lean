import EpokAuth.PasskeyEffect

namespace EpokAuth

open Transactional

/-!
# Effects of the Google service

A login opens a session for a linked account, links a preauthorised one, or
creates one; linking and recovery change an identity together with the version
of its account.
-/

variable
  {env : Environment}
  {deps : Dependencies}
  {user : UserAccount}
  {principal : Principal}
  {claims : GoogleClaims}
  {now : Instant}
  {context : RequestContext}
  {store : Store}

/-! ## Challenges -/

/-- A challenge may be bound to any account that may authenticate. -/
theorem wp_requireChallengeUser_committed
    {userId : Option Uuid}
    {normal : Unit → Store → Prop}
    (available : normal () store) :
    Tx.wp (requireChallengeUser userId now) normal (fun _ _ => True)
      store := by
  cases userId with
  | none =>
      exact available
  | some userId =>
      simp only [requireChallengeUser, Tx.wp_bind, Tx.wp_getUserById]
      cases store.users.get? userId with
      | none =>
          trivial
      | some user =>
          simp only [Tx.wp_ite, Tx.wp_pure, Tx.wp_throw]
          split
          · exact available
          · trivial

theorem beginGoogleChallenge_effect
    {purpose : GoogleChallengePurpose}
    {origin clientId : String}
    {userId : Option Uuid}
    {draws : NonceDraws} :
    (ServiceTx.beginGoogleChallenge purpose origin clientId userId now
      draws).HasEffect env store := by
  simp only [ServiceTx.HasEffect, ServiceTx.body, beginChallenge, Tx.wp_bind]
  apply wp_requireChallengeUser_committed
  simp only [Tx.wp_bind, Tx.wp_deleteExpiredGoogleChallenges,
    Tx.wp_insertGoogleChallenge]
  split
  · trivial
  · refine ⟨[], Effect.unchanged rfl ?_⟩
    intro other change caused
    cases caused

theorem consumeGoogleChallenge_effect
    {challengeId : Uuid}
    {purpose : GoogleChallengePurpose}
    {userId : Option Uuid} :
    (ServiceTx.consumeGoogleChallenge challengeId purpose now
      userId).HasEffect env store := by
  have unchanged :
      ∀ answer later,
        later.toCore = store.toCore →
        ∃ moves,
          Effect env.toDependencies store
            { tx := .consumeGoogleChallenge challengeId purpose now userId
              answer := .ok answer }
            moves later := by
    intro answer later same
    refine ⟨[], Effect.unchanged same ?_⟩
    intro other change caused
    cases caused
  simp only [ServiceTx.HasEffect, ServiceTx.body,
    EpokAuth.consumeGoogleChallenge, Tx.wp_consumeGoogleChallenge]
  split
  · exact unchanged _ _ rfl
  · exact unchanged _ _ rfl

theorem verificationFailure_effect
    {linking providerUnavailable : Bool} :
    (ServiceTx.verificationFailure linking providerUnavailable now
      context).HasEffect env store := by
  refine ⟨[], Effect.unchanged rfl ?_⟩
  intro other change caused
  cases caused

/-! ## Login -/

/-- The moves of logging into a stored identity. -/
def loginMoves
    (identity : ExternalIdentity)
    (session : RefreshSession) :
    List Move :=
  [.updateIdentity identity, .openSession session]

theorem loginMoves_spareAccounts
    {tx : ServiceTx}
    {identity : ExternalIdentity}
    {session : RefreshSession} :
    Move.SparesAccounts tx (loginMoves identity session) := by
  simp [loginMoves]

/-- The rule of logging into a stored identity. -/
theorem wp_loginLinked_committed
    {identity : ExternalIdentity}
    {draws : SessionDraws}
    {normal : Option SessionBundle → Store → Prop}
    (stored : store.identities.get? identity.id = some identity)
    (fresh :
      ∀ id session, store.sessions.get? id = some session →
        session.familyId ≠ draws.familyId)
    (refused : normal none store)
    (logged :
      ∀ bundle session updated later,
        bundle.principal.userId = identity.userId →
        Performs deps.settings store.toCore (loginMoves updated session)
          later.toCore →
        normal (some bundle) later) :
    Tx.wp (loginLinked deps identity claims now context draws) normal
      (fun _ _ => True) store := by
  simp only [loginLinked, Tx.wp_bind, Tx.wp_getUserById]
  cases account : store.users.get? identity.userId with
  | none =>
      exact refused
  | some user =>
      have userKey : user.id = identity.userId := Table.key_of_get? account
      simp only [Tx.wp_ite, Tx.wp_pure, Tx.wp_bind,
        Tx.wp_updateExternalIdentity]
      split
      · rename_i available
        split
        · split
          · trivial
          · refine wp_issue_opening (userKey ▸ account) available fresh ?_
            intro bundle later session bundleUser _ _ opens same
            simp only [Tx.wp_bind, wp_recordSecurityEvent, Tx.wp_pure]
            refine logged bundle session (loggedIdentity identity claims now) _
              (bundleUser.trans userKey)
              (Performs.cons ⟨identity, stored, rfl, rfl, rfl⟩ rfl
                (Performs.single opens same.symm))
        · trivial
      · exact refused

/-- The rule of inserting an identity and logging into it. -/
theorem wp_insertIdentityAndLogin_committed
    {draws : GoogleLoginDraws}
    {normal : SessionBundle → Store → Prop}
    (fresh :
      ∀ id session, store.sessions.get? id = some session →
        session.familyId ≠ draws.session.familyId)
    (logged :
      ∀ bundle session updated later,
        bundle.principal.userId = user.id →
        store.identities.get? draws.identityId = none →
        Performs deps.settings
          { store.toCore with
            identities :=
              store.identities.put
                (claimedIdentity draws.identityId user.id claims now) }
          (loginMoves updated session) later.toCore →
        normal bundle later) :
    Tx.wp (insertIdentityAndLogin deps user claims now context draws) normal
      (fun _ _ => True) store := by
  simp only [insertIdentityAndLogin, Tx.wp_bind, Tx.wp_insertExternalIdentity]
  split
  · trivial
  · rename_i admitted
    rw [Bool.or_eq_true, not_or] at admitted
    simp only [Tx.wp_bind, wp_recordSecurityEvent]
    refine wp_loginLinked_committed (Table.get?_put_self _ _) fresh trivial ?_
    intro bundle session updated later bundleUser performs
    exact logged bundle session updated later bundleUser
      (Option.not_isSome_iff_eq_none.mp admitted.1) performs

/-- The rule of linking a preauthorised account. -/
theorem wp_linkAndLogin_committed
    {draws : GoogleLoginDraws}
    {normal : SessionBundle → Store → Prop}
    (account : store.users.get? user.id = some user)
    (permitted : canAutoLink user claims now = true)
    (fresh :
      ∀ id session, store.sessions.get? id = some session →
        session.familyId ≠ draws.session.familyId)
    (linked :
      ∀ bundle passwordHash attachment rest later,
        bundle.principal.userId = user.id →
        (∀ tx, Move.SparesAccounts tx rest) →
        Performs deps.settings store.toCore
          (.account user.id (.autoLink passwordHash) attachment now :: rest)
          later.toCore →
        normal bundle later) :
    Tx.wp (linkAndLogin deps user claims now context draws) normal
      (fun _ _ => True) store := by
  simp only [linkAndLogin, Tx.wp_bind]
  refine wp_ofExcept_committed ?_
  intro passwordHash _
  simp only [Tx.wp_bind]
  apply wp_updateUser_committed
  refine wp_insertIdentityAndLogin_committed fresh ?_
  intro bundle session updated later bundleUser absent performs
  let identity := claimedIdentity draws.identityId user.id claims now
  have allowed :
      user.canAuthenticate now = true ∧ user.googleAutoLinkAllowed = true ∧
        user.mustChangePassword = true := by
    simp only [canAutoLink, Bool.and_eq_true] at permitted
    exact ⟨permitted.1.1.1, permitted.1.1.2, permitted.1.2⟩
  have enabled :
      (Move.account user.id (.autoLink passwordHash)
        (.insertIdentity identity) now).Enabled deps.settings
        store.toCore :=
    ⟨user, account, allowed, ⟨rfl, absent⟩, fun _ => trivial⟩
  exact linked bundle passwordHash _ _ later bundleUser
    (fun _ => loginMoves_spareAccounts)
    (Performs.cons enabled (Move.perform_account account) performs)

/-- What an unlinked login may lead to. -/
structure UnlinkedLogin
    (deps : Dependencies)
    (now : Instant)
    (store : Store)
    (normal : Option SessionBundle → Store → Prop) :
    Prop where
  refused : normal none store
  linked :
    ∀ bundle user passwordHash attachment rest later,
      bundle.principal.userId = user.id →
      store.users.get? user.id = some user →
      (∀ tx, Move.SparesAccounts tx rest) →
      Performs deps.settings store.toCore
        (.account user.id (.autoLink passwordHash) attachment now :: rest)
        later.toCore →
      normal (some bundle) later
  created :
    ∀ bundle moves later,
      store.users.get? bundle.principal.userId = none →
      (∀ tx, Move.SparesAccounts tx moves) →
      Performs deps.settings store.toCore moves later.toCore →
      normal (some bundle) later

/-- The rule of linking the account of an authoritative address. -/
theorem wp_linkAddressed_committed
    {draws : GoogleLoginDraws}
    {normal : Option SessionBundle → Store → Prop}
    (account : store.users.get? user.id = some user)
    (fresh :
      ∀ id session, store.sessions.get? id = some session →
        session.familyId ≠ draws.session.familyId)
    (outcomes : UnlinkedLogin deps now store normal) :
    Tx.wp
      (if canAutoLink user claims now then do
        let result ← linkAndLogin deps user claims now context draws
        return some result
      else
        return none)
      normal (fun _ _ => True) store := by
  simp only [Tx.wp_ite, Tx.wp_pure, Tx.wp_bind]
  split
  · rename_i permitted
    refine wp_linkAndLogin_committed account permitted fresh ?_
    intro bundle passwordHash attachment rest later bundleUser spares performs
    exact outcomes.linked bundle user passwordHash attachment rest later
      bundleUser account spares performs
  · exact outcomes.refused

/-- The rule of creating an account from claims and logging into it. -/
theorem wp_createOpenUser_committed
    {email : String}
    {draws : GoogleLoginDraws}
    {normal : Option SessionBundle → Store → Prop}
    (fresh :
      ∀ id session, store.sessions.get? id = some session →
        session.familyId ≠ draws.session.familyId)
    (outcomes : UnlinkedLogin deps now store normal) :
    Tx.wp
      (do
        let user ← createOpenUser deps claims email now context draws
        let result ← insertIdentityAndLogin deps user claims now context draws
        return some result)
      normal (fun _ _ => True) store := by
  simp only [createOpenUser, Tx.wp_bind]
  refine wp_ofExcept_committed ?_
  intro passwordHash _
  simp only [Tx.wp_bind]
  refine wp_ofExcept_committed ?_
  intro displayName _
  simp only [Tx.wp_bind]
  apply wp_insertUser_committed
  intro absent
  simp only [Tx.wp_bind, wp_recordSecurityEvent, Tx.wp_pure]
  refine wp_insertIdentityAndLogin_committed fresh ?_
  intro bundle session updated later bundleUser missing performs
  let user :=
    openAccount deps draws.userId email displayName passwordHash now
  let identity := claimedIdentity draws.identityId user.id claims now
  have enabled :
      (Move.enroll user (some identity)).Enabled deps.settings
        store.toCore := by
    refine ⟨absent, ⟨rfl, rfl, rfl⟩, ?_⟩
    intro inserted isIdentity
    cases isIdentity
    exact ⟨rfl, missing⟩
  refine outcomes.created bundle _ later (bundleUser ▸ absent) ?_
    (Performs.cons enabled rfl performs)
  simp [loginMoves]

/-- The rule of logging into an identity that is not linked. -/
theorem wp_loginUnlinked_committed
    {draws : GoogleLoginDraws}
    {normal : Option SessionBundle → Store → Prop}
    (fresh :
      ∀ id session, store.sessions.get? id = some session →
        session.familyId ≠ draws.session.familyId)
    (outcomes : UnlinkedLogin deps now store normal) :
    Tx.wp (loginUnlinked deps claims now context draws) normal
      (fun _ _ => True) store := by
  unfold loginUnlinked
  cases deps.settings.googleAccountMode with
  | linkedOnly =>
      exact outcomes.refused
  | preauthorized =>
      simp only [loginPreauthorized]
      cases claims.email with
      | none =>
          exact outcomes.refused
      | some email =>
          simp only [Tx.wp_ite, Tx.wp_bind, Tx.wp_getUserByEmail, Tx.wp_pure]
          split
          · cases found :
                store.users.find? fun user => user.email = email with
            | none =>
                exact outcomes.refused
            | some user =>
                exact wp_linkAddressed_committed
                  (Table.get?_of_find? found).1 fresh outcomes
          · exact outcomes.refused
  | open_ =>
      simp only [loginOpen]
      cases claims.email with
      | none =>
          exact outcomes.refused
      | some email =>
          simp only [Tx.wp_ite, Tx.wp_bind, Tx.wp_getUserByEmail, Tx.wp_pure]
          split
          · cases found :
                store.users.find? fun user => user.email = email with
            | none =>
                exact wp_createOpenUser_committed fresh outcomes
            | some user =>
                exact wp_linkAddressed_committed
                  (Table.get?_of_find? found).1 fresh outcomes
          · exact outcomes.refused

theorem googleLogin_effect
    {draws : GoogleLoginDraws}
    (fresh :
      (ServiceTx.googleLogin claims now context draws).Fresh store) :
    (ServiceTx.googleLogin claims now context draws).HasEffect env store := by
  have fresh :
      ∀ id session, store.sessions.get? id = some session →
        session.familyId ≠ draws.session.familyId :=
    fresh draws.session rfl
  have refused :
      ∃ moves,
        Effect env.toDependencies store
          { tx := .googleLogin claims now context draws, answer := .ok none }
          moves
          { store with
            events := store.events ++
              [SecurityEvent.fromRequest .googleLoginFailed now context none
                none none] } := by
    refine ⟨[], Effect.unchanged rfl ?_⟩
    intro userId change caused
    cases caused
  simp only [ServiceTx.HasEffect, ServiceTx.body, googleLogin, loginIdentity,
    Tx.wp_bind, Tx.wp_getExternalIdentity]
  cases linked :
      store.identities.find? fun identity =>
        identity.issuer = googleIssuer && identity.subject = claims.subject with
  | some identity =>
      refine wp_loginLinked_committed (Table.get?_of_find? linked).1 fresh
        refused ?_
      intro bundle session updated later bundleUser performs
      rw [Tx.wp_pure]
      refine ⟨_, Effect.of_no_account performs loginMoves_spareAccounts ?_⟩
      intro userId change caused
      cases caused with
      | autoLinked unlinked existing =>
          rw [linked] at unlinked
          cases unlinked
  | none =>
      refine wp_loginUnlinked_committed fresh ⟨refused, ?_, ?_⟩
      · intro bundle user passwordHash attachment rest later bundleUser account
          spares performs
        rw [Tx.wp_pure]
        have cause :
            Causes env.toDependencies store
              { tx := .googleLogin claims now context draws
                answer := .ok (some bundle) }
              bundle.principal.userId (.autoLink passwordHash) :=
          .autoLinked linked (by rw [bundleUser]; exact account)
        rw [bundleUser] at cause
        refine ⟨_, Effect.of_account performs (spares _) cause ?_⟩
        intro other change caused _
        cases caused
        exact ⟨bundleUser, trivial⟩
      · intro bundle moves later absent spares performs
        rw [Tx.wp_pure]
        refine ⟨moves, Effect.of_no_account performs (spares _) ?_⟩
        intro userId change caused
        cases caused with
        | autoLinked unlinked existing =>
            rw [absent] at existing
            cases existing

theorem loginLinkedAfterConflict_effect
    {draws : SessionDraws}
    (fresh :
      (ServiceTx.loginLinkedAfterConflict claims now context draws).Fresh
        store) :
    (ServiceTx.loginLinkedAfterConflict claims now context draws).HasEffect
      env store := by
  have noCause :
      ∀ answer userId change,
        Causes env.toDependencies store
          { tx := .loginLinkedAfterConflict claims now context draws
            answer := .ok answer }
          userId change →
        ¬ change.ReplacesPassword := by
    intro answer userId change caused
    cases caused
  simp only [ServiceTx.HasEffect, ServiceTx.body, loginLinkedAfterConflict,
    Tx.wp_bind, Tx.wp_getExternalIdentity]
  cases linked :
      store.identities.find? fun identity =>
        identity.issuer = googleIssuer && identity.subject = claims.subject with
  | none =>
      trivial
  | some identity =>
      refine wp_loginLinked_committed (Table.get?_of_find? linked).1
        (fresh draws rfl) ⟨[], Effect.unchanged rfl (noCause _)⟩ ?_
      intro bundle session updated later _ performs
      exact ⟨_, Effect.of_no_account performs loginMoves_spareAccounts
        (noCause _)⟩

/-! ## Linking and recovery -/

/-- A principal who may link has an account that may authenticate. -/
theorem canAuthenticate_of_canLink
    {session : Option RefreshSession}
    (permitted : canLink (some user) session principal now = true) :
    user.canAuthenticate now = true := by
  cases session with
  | none =>
      simp [canLink] at permitted
  | some session =>
      simp only [canLink, Bool.and_eq_true] at permitted
      exact permitted.1.1

theorem linkIdentity_effect
    {identityId : Uuid} :
    (ServiceTx.linkIdentity principal claims now context
      identityId).HasEffect env store := by
  have noReplacement :
      ∀ answer userId change,
        Causes env.toDependencies store
          { tx := .linkIdentity principal claims now context identityId
            answer := .ok answer }
          userId change →
        ¬ change.ReplacesPassword := by
    intro answer userId change caused replacing
    cases caused
    cases replacing
  have onlyCause :
      ∀ answer other change,
        Causes env.toDependencies store
          { tx := .linkIdentity principal claims now context identityId
            answer := .ok answer }
          other change →
        change.ReplacesPassword →
          other = principal.userId ∧
            (AccountChange.fence true).ReplacesPassword := by
    intro answer other change caused replacing
    exact absurd replacing (noReplacement answer other change caused)
  have unchanged :
      ∀ answer later,
        later.toCore = store.toCore →
        ∃ moves,
          Effect env.toDependencies store
            { tx := .linkIdentity principal claims now context identityId
              answer := .ok answer }
            moves later := by
    intro answer later same
    exact ⟨[], Effect.unchanged same (noReplacement answer)⟩
  simp only [ServiceTx.HasEffect, ServiceTx.body, linkIdentity,
    linkIdentity.refuse, Tx.wp_bind, Tx.wp_getUserById, Tx.wp_getSessionById]
  cases account : store.users.get? principal.userId with
  | none =>
      exact unchanged _ _ rfl
  | some user =>
      simp only [Tx.wp_ite, Tx.wp_bind, wp_recordSecurityEvent, Tx.wp_pure]
      split
      · rename_i permitted
        have available := canAuthenticate_of_canLink permitted
        simp only [resolveLink, Tx.wp_bind, Tx.wp_getExternalIdentity,
          Tx.wp_getExternalIdentityForUser]
        cases store.identities.find? fun identity =>
            identity.issuer = googleIssuer &&
              identity.subject = claims.subject with
        | some owner =>
            simp only [Tx.wp_ite, Tx.wp_pure, Tx.wp_bind, fenceLink]
            split
            · split
              · apply wp_updateUser_committed
                have enabled :
                    (Move.account principal.userId (.fence true) .nothing
                      now).Enabled env.settings store.toCore :=
                  ⟨user, account, available, trivial, fun _ => trivial⟩
                exact ⟨_, Effect.of_account
                  (Performs.single enabled (Move.perform_account account))
                  (by simp) .identityLinked (onlyCause _)⟩
              · exact unchanged _ _ rfl
            · exact unchanged _ _ rfl
        | none =>
            cases store.identities.find? fun identity =>
                identity.userId = principal.userId &&
                  identity.issuer = googleIssuer with
            | some existing =>
                exact unchanged _ _ rfl
            | none =>
                simp only [Tx.wp_bind, Tx.wp_insertExternalIdentity]
                split
                · trivial
                · rename_i admitted
                  rw [Bool.or_eq_true, not_or] at admitted
                  simp only [Tx.wp_bind, wp_recordSecurityEvent, Tx.wp_pure,
                    fenceLink, Bool.true_or, ↓reduceIte]
                  apply wp_updateUser_committed
                  let identity :=
                    claimedIdentity identityId principal.userId claims now
                  have enabled :
                      (Move.account principal.userId (.fence true)
                        (.insertIdentity identity) now).Enabled env.settings
                        store.toCore :=
                    ⟨user, account, available,
                      ⟨rfl, Option.not_isSome_iff_eq_none.mp admitted.1⟩,
                      fun _ => trivial⟩
                  exact ⟨_, Effect.of_account
                    (Performs.single enabled (Move.perform_account account))
                    (by simp) .identityLinked (onlyCause _)⟩
      · exact unchanged _ _ rfl

theorem linkedAfterConflict_effect :
    (ServiceTx.linkedAfterConflict principal claims now context).HasEffect
      env store := by
  have unchanged :
      ∀ answer later,
        later.toCore = store.toCore →
        ∃ moves,
          Effect env.toDependencies store
            { tx := .linkedAfterConflict principal claims now context
              answer := .ok answer }
            moves later := by
    intro answer later same
    refine ⟨[], Effect.unchanged same ?_⟩
    intro userId change caused
    cases caused
  simp only [ServiceTx.HasEffect, ServiceTx.body, linkedAfterConflict,
    linkedAfterConflict.refuse, Tx.wp_bind, Tx.wp_getUserById,
    Tx.wp_getSessionById, Tx.wp_ite, Tx.wp_getExternalIdentity,
    wp_recordSecurityEvent, Tx.wp_pure]
  split
  · cases store.identities.find? fun identity =>
        identity.issuer = googleIssuer && identity.subject = claims.subject with
    | some identity =>
        simp only [Tx.wp_ite, Tx.wp_pure, Tx.wp_bind, wp_recordSecurityEvent]
        split
        · exact unchanged _ _ rfl
        · exact unchanged _ _ rfl
    | none =>
        exact unchanged _ _ rfl
  · exact unchanged _ _ rfl

theorem recoverPasswordAccess_effect
    {userId : Uuid}
    {passwordHash : String} :
    (ServiceTx.recoverPasswordAccess userId passwordHash now
      context).HasEffect env store := by
  simp only [ServiceTx.HasEffect, ServiceTx.body, recoverPasswordAccess,
    Tx.wp_bind, Tx.wp_getExternalIdentityForUser, Tx.wp_getUserById]
  cases account : store.users.get? userId with
  | none =>
      trivial
  | some user =>
      have userKey : user.id = userId := Table.key_of_get? account
      cases linked :
          store.identities.find? fun identity =>
            identity.userId = userId && identity.issuer = googleIssuer with
      | none =>
          trivial
      | some identity =>
          obtain ⟨stored, owned⟩ := Table.get?_of_find? linked
          rw [Bool.and_eq_true, decide_eq_true_eq] at owned
          simp only [Tx.wp_bind]
          apply wp_updateUser_committed
          simp only [Tx.wp_bind, Tx.wp_deleteExternalIdentity]
          split
          · simp only [Tx.wp_bind, Tx.wp_revokeUserSessions,
              wp_recordSecurityEvent, Tx.wp_pure]
            have enabled :
                (Move.account userId (.replace .temporary passwordHash)
                  (.deleteIdentity identity.id) now).Enabled env.settings
                  store.toCore :=
              ⟨user, account, trivial, ⟨identity, stored, owned.1⟩,
                fun _ => trivial⟩
            refine ⟨_, Effect.of_account
              (Performs.single enabled (Move.perform_account account))
              (by simp) .accessRecovered ?_⟩
            intro other change caused _
            cases caused
            exact ⟨rfl, trivial⟩
          · trivial

end EpokAuth
