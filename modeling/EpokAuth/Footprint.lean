import EpokAuth.ServiceTransaction

namespace EpokAuth

open Transactional

/-!
# What each transaction may write

The statements that write are sorted by what they do, and every transaction is
given the kinds it may issue.  Whatever is answered, a transaction issues no
statement of another kind; what it cannot touch needs no further argument.
-/

/-- What a statement does to the rows that security rests on. -/
inductive StatementKind where
  | enrolls
  | updatesUser
  | opensSession
  | updatesSession
  | revokesFamily
  | revokesSessions
  | insertsPasskey
  | updatesPasskey
  | insertsIdentity
  | updatesIdentity
  | deletesIdentity
  | changesLinks
  | passkeyChallenges
  | googleChallenges
  deriving Repr, DecidableEq

/-- The kind of a statement; reads, locks and events have none. -/
def Statement.kind : Statement → Option StatementKind
  | .insertUser _ => some .enrolls
  | .updateUser _ => some .updatesUser
  | .insertSession _ => some .opensSession
  | .updateSession _ => some .updatesSession
  | .revokeFamily _ _ => some .revokesFamily
  | .revokeUserSessions _ _ => some .revokesSessions
  | .deleteExpiredPasskeyChallenges _ => some .passkeyChallenges
  | .insertPasskeyChallenge _ => some .passkeyChallenges
  | .consumePasskeyChallenge .. => some .passkeyChallenges
  | .insertPasskey _ => some .insertsPasskey
  | .updatePasskey _ => some .updatesPasskey
  | .deleteExpiredGoogleChallenges _ => some .googleChallenges
  | .insertGoogleChallenge _ => some .googleChallenges
  | .consumeGoogleChallenge .. => some .googleChallenges
  | .insertExternalIdentity _ => some .insertsIdentity
  | .updateExternalIdentity _ => some .updatesIdentity
  | .deleteExternalIdentity _ => some .deletesIdentity
  | .deleteOldEmailLinks _ => some .changesLinks
  | .insertEmailLink _ => some .changesLinks
  | .activateEmailLink _ _ => some .changesLinks
  | .failEmailLink _ _ => some .changesLinks
  | .revokeEmailLink _ _ => some .changesLinks
  | .revokeOtherActiveEmailLinks .. => some .changesLinks
  | .consumeEmailLink .. => some .changesLinks
  | _ => none

/-- The kinds of statements a transaction may issue. -/
def ServiceTx.kinds : ServiceTx → List StatementKind
  | .login .. => [.updatesUser, .revokesSessions, .opensSession]
  | .reauthenticatePassword .. => [.updatesUser, .revokesSessions]
  | .refresh .. => [.opensSession, .updatesSession, .revokesFamily]
  | .logout .. => [.revokesFamily]
  | .changePassword .. => [.updatesUser, .revokesSessions, .opensSession]
  | .createAdmin .. => [.enrolls]
  | .createUser .. => [.enrolls]
  | .updateUser .. => [.updatesUser, .revokesSessions]
  | .resetPassword .. => [.updatesUser, .revokesSessions]
  | .revokeUserSessions .. => [.revokesSessions]
  | .requestLogin .. => [.changesLinks]
  | .requestPasswordReset .. => [.changesLinks]
  | .invite .. => [.changesLinks]
  | .markDelivered .. => [.changesLinks]
  | .markDeliveryFailed .. => [.changesLinks]
  | .emailLinkLogin .. => [.changesLinks, .opensSession]
  | .emailLinkResetPassword .. =>
      [.changesLinks, .updatesUser, .revokesSessions]
  | .activateInvitation .. => [.changesLinks, .updatesUser, .revokesSessions]
  | .provision .. => [.enrolls, .changesLinks]
  | .ensureInitialAdmin .. => [.enrolls, .changesLinks]
  | .replaceActivation .. => [.changesLinks]
  | .activate .. => [.changesLinks, .updatesUser, .revokesSessions]
  | .beginRegistration .. => [.passkeyChallenges]
  | .finishRegistration .. => [.insertsPasskey, .updatesUser]
  | .beginAuthentication .. => [.passkeyChallenges]
  | .beginReauthentication .. => [.passkeyChallenges]
  | .finishAuthentication .. => [.updatesPasskey, .opensSession]
  | .finishReauthentication .. => [.updatesPasskey]
  | .revokePasskey .. => [.updatesPasskey, .updatesUser]
  | .consumePasskeyChallenge .. => [.passkeyChallenges]
  | .beginGoogleChallenge .. => [.googleChallenges]
  | .consumeGoogleChallenge .. => [.googleChallenges]
  | .googleLogin .. =>
      [.enrolls, .updatesUser, .insertsIdentity, .updatesIdentity,
        .opensSession]
  | .loginLinkedAfterConflict .. => [.updatesIdentity, .opensSession]
  | .linkIdentity .. => [.insertsIdentity, .updatesUser]
  | .recoverPasswordAccess .. =>
      [.updatesUser, .deletesIdentity, .revokesSessions]
  | _ => []

/-- The statement writes nothing, or is of one of some kinds. -/
def Within (kinds : List StatementKind) (statement : Statement) : Prop :=
  ∀ kind, statement.kind = some kind → kind ∈ kinds

namespace Tx

variable
  {kinds : List StatementKind}
  {statement : Statement}

/-- Every statement of the transaction is of one of some kinds. -/
def StaysWithin (kinds : List StatementKind) (body : Tx α) : Prop :=
  Prog.Issues (Within kinds) body

namespace StaysWithin

theorem pure (value : α) : StaysWithin kinds (Pure.pure value : Tx α) :=
  trivial

theorem done (value : α) : StaysWithin kinds (.done value : Tx α) :=
  trivial

theorem throw (failure : Failure) :
    StaysWithin kinds (MonadExcept.throw failure : Tx α) :=
  trivial

theorem ofExcept (value : Except Failure α) :
    StaysWithin kinds (Prog.ofExcept value : Tx α) :=
  Prog.issues_ofExcept value

theorem bind
    {body : Tx α}
    {later : α → Tx β}
    (first : StaysWithin kinds body)
    (second : ∀ value, StaysWithin kinds (later value)) :
    StaysWithin kinds (body >>= later) :=
  Prog.Issues.bind first second

theorem ite
    {condition : Prop}
    [Decidable condition]
    {first second : Tx α}
    (holds : StaysWithin kinds first)
    (fails : StaysWithin kinds second) :
    StaysWithin kinds (if condition then first else second) := by
  split
  · exact holds
  · exact fails

/-- A method that writes nothing stays within any kinds. -/
theorem reads (harmless : statement.kind = none) :
    StaysWithin kinds (issue statement) := by
  refine ⟨?_, fun _ => trivial⟩
  intro kind same
  rw [harmless] at same
  cases same

theorem issue
    {kind : StatementKind}
    (same : statement.kind = some kind)
    (member : kind ∈ kinds) :
    StaysWithin kinds (Tx.issue statement) := by
  refine ⟨?_, fun _ => trivial⟩
  intro other sameToo
  obtain rfl := Option.some.inj (same.symm.trans sameToo)
  exact member

theorem attempt
    {raises : Answer statement → Except Failure α}
    {kind : StatementKind}
    (same : statement.kind = some kind)
    (member : kind ∈ kinds) :
    StaysWithin kinds (Tx.attempt statement raises) :=
  bind (issue same member) fun answer => ofExcept (raises answer)

/-- Recording an event writes nothing that counts. -/
theorem record
    {eventType : SecurityEventType}
    {now : Instant}
    {context : RequestContext}
    {userId sessionId : Option Uuid}
    {metadata : Option SecurityMetadata} :
    StaysWithin kinds
      (recordSecurityEvent eventType now context userId sessionId
        metadata) :=
  reads rfl

/-- More kinds permit more. -/
theorem mono
    {more : List StatementKind}
    {body : Tx α}
    (within : StaysWithin kinds body)
    (subset : kinds ⊆ more) :
    StaysWithin more body :=
  Prog.Issues.mono within fun _ allowed kind same =>
    subset (allowed kind same)

end StaysWithin

end Tx

open Tx (StaysWithin)

section Parts

variable
  {deps : Dependencies}
  {now : Instant}
  {context : RequestContext}

theorem issue_within
    {user : UserAccount}
    {lineage : Option Lineage}
    {draws : SessionDraws} :
    StaysWithin [.opensSession] (issue deps user now lineage context draws) :=
  .bind (.attempt rfl (by simp)) fun _ => .bind .record fun _ => .pure _

theorem requirePrincipalSession_within
    {principal : Principal}
    {user : Option UserAccount}
    {forUpdate : Bool} :
    StaysWithin [] (requirePrincipalSession principal user now forUpdate) := by
  refine .bind (.reads rfl) fun session => ?_
  split
  · split
    · exact .pure _
    · exact .throw _
  · exact .throw _

theorem requirePrincipalUser_within
    {principal : Principal}
    {forUpdate : Bool} :
    StaysWithin [] (requirePrincipalUser principal now forUpdate) := by
  refine .bind (.reads rfl) fun user =>
    .bind requirePrincipalSession_within fun _ => ?_
  split
  · exact .throw _
  · exact .pure _

theorem recordPasswordFailure_within
    {settings : AuthSettings}
    {eventType : SecurityEventType}
    {user : Option UserAccount}
    {sessionId : Option Uuid}
    {method : Option ReauthenticationMethod} :
    StaysWithin [.updatesUser, .revokesSessions]
      (recordPasswordFailure settings eventType user now context sessionId
        method) := by
  refine .bind ?_ fun _ => .record
  cases user with
  | none =>
      exact .pure _
  | some user =>
      change StaysWithin _ (countPasswordFailure settings user now context)
      unfold countPasswordFailure
      split
      · refine .bind (.attempt rfl (by simp)) fun _ => ?_
        split
        · exact .bind (.issue rfl (by simp)) fun _ => .record
        · exact .pure _
      · exact .pure _

theorem applyPasswordVerification_within
    {user : UserAccount}
    {verification : PasswordVerification} :
    StaysWithin [.updatesUser]
      (applyPasswordVerification user verification now) :=
  .bind (.attempt rfl (by simp)) fun _ => .pure _

theorem issueLink_within
    {user : UserAccount}
    {purpose : EmailLinkPurpose}
    {browserNonce : Option String}
    {draws : LinkDraws} :
    StaysWithin [.changesLinks]
      (issueLink deps user purpose now context browserNonce draws) := by
  refine .bind (.issue rfl (by simp)) fun _ =>
    .bind (.reads rfl) fun count => ?_
  split
  · exact .pure _
  · exact .bind (.reads rfl) fun _ =>
      .bind (.attempt rfl (by simp)) fun _ =>
        .bind .record fun _ => .bind (.ofExcept _) fun _ => .pure _

theorem createPending_within
    {user : UserAccount}
    {draws : LinkDraws} :
    StaysWithin [.enrolls, .changesLinks]
      (createPending deps user now context draws) := by
  refine .bind (.attempt rfl (by simp)) fun _ => .bind .record fun _ =>
    .bind (issueLink_within.mono (by simp)) fun issued => ?_
  split
  · exact .throw _
  · exact .pure _

theorem consumableLink_within
    {token : String}
    {purpose : EmailLinkPurpose}
    {browserNonce : Option String} :
    StaysWithin [.changesLinks]
      (consumableLink deps token purpose now browserNonce) := by
  unfold consumableLink
  split
  · exact .pure _
  refine .bind (.reads rfl) fun candidate => ?_
  cases candidate with
  | none =>
      exact .pure _
  | some candidate =>
      refine .bind (.reads rfl) fun user => .bind (.reads rfl) fun link => ?_
      cases link with
      | none =>
          exact .pure _
      | some link =>
          dsimp only
          split
          · exact .pure _
          cases user with
          | none =>
              exact .bind (.issue rfl (by simp)) fun _ => .pure _
          | some user =>
              refine .bind (.ofExcept _) fun isMatch => ?_
              split
              · exact .bind (.issue rfl (by simp)) fun _ => .pure _
              · split
                · refine .bind (.ofExcept _) fun isBrowser => ?_
                  split
                  · exact .pure _
                  · exact .pure _
                · exact .pure _

theorem consuming_within
    {kinds : List StatementKind}
    {token : String}
    {purpose : EmailLinkPurpose}
    {browserNonce : Option String}
    {complete : UserAccount → Tx α}
    {refused : Option UserAccount → Tx Unit}
    (links : .changesLinks ∈ kinds)
    (completes : ∀ user, StaysWithin kinds (complete user))
    (refuses : ∀ user, StaysWithin kinds (refused user)) :
    StaysWithin kinds
      (consuming deps token purpose now browserNonce complete refused) := by
  refine .bind (consumableLink_within.mono (by simpa using links))
    fun found => ?_
  split
  · split
    · refine .bind (.issue rfl links) fun consumed => ?_
      split
      · exact .bind (refuses _) fun _ => .pure _
      · exact .bind (completes _) fun _ => .pure _
    · exact .bind (refuses _) fun _ => .pure _
  · exact .bind (refuses _) fun _ => .pure _

/-- A completed link replaces a password and ends the sessions. -/
theorem replacing_within
    {user : UserAccount}
    {updated : UserAccount}
    {eventType : SecurityEventType}
    {result : α} :
    StaysWithin [.updatesUser, .revokesSessions]
      (do
        Tx.updateUser updated
        let _ ← Tx.revokeUserSessions user.id now
        recordSecurityEvent eventType now context (some user.id)
        return result) :=
  .bind (.attempt rfl (by simp)) fun _ =>
    .bind (.issue rfl (by simp)) fun _ => .bind .record fun _ => .pure _

theorem storeChallenge_within
    {challenge : PasskeyChallenge} :
    StaysWithin [.passkeyChallenges] (storeChallenge challenge now) :=
  .bind (.issue rfl (by simp)) fun _ => .attempt rfl (by simp)

theorem verifyAndUpdatePasskey_within
    {adapter : PasskeyAdapter}
    {response : PasskeyResponse}
    {expectedUserId : Option Uuid} :
    StaysWithin [.updatesPasskey]
      (verifyAndUpdatePasskey adapter response now expectedUserId) := by
  unfold verifyAndUpdatePasskey
  split
  · exact .pure _
  refine .bind (.reads rfl) fun stored => ?_
  split
  · exact .pure _
  split
  · exact .pure _
  refine .bind (.reads rfl) fun user => ?_
  split
  · exact .pure _
  split
  · exact .pure _
  split
  · exact .pure _
  · exact .bind (.attempt rfl (by simp)) fun _ => .pure _

theorem loginLinked_within
    {identity : ExternalIdentity}
    {claims : GoogleClaims}
    {draws : SessionDraws} :
    StaysWithin [.updatesIdentity, .opensSession]
      (loginLinked deps identity claims now context draws) := by
  refine .bind (.reads rfl) fun user => ?_
  split
  · exact .pure _
  · split
    · exact .bind (.attempt rfl (by simp)) fun _ =>
        .bind (issue_within.mono (by simp)) fun _ =>
          .bind .record fun _ => .pure _
    · exact .pure _

theorem insertIdentityAndLogin_within
    {user : UserAccount}
    {claims : GoogleClaims}
    {draws : GoogleLoginDraws} :
    StaysWithin [.insertsIdentity, .updatesIdentity, .opensSession]
      (insertIdentityAndLogin deps user claims now context draws) := by
  refine .bind (.attempt rfl (by simp)) fun _ => .bind .record fun _ =>
    .bind (loginLinked_within.mono (by simp)) fun result => ?_
  split
  · exact .throw _
  · exact .pure _

theorem linkAndLogin_within
    {user : UserAccount}
    {claims : GoogleClaims}
    {draws : GoogleLoginDraws} :
    StaysWithin
      [.updatesUser, .insertsIdentity, .updatesIdentity, .opensSession]
      (linkAndLogin deps user claims now context draws) :=
  .bind (.ofExcept _) fun _ => .bind (.attempt rfl (by simp)) fun _ =>
    insertIdentityAndLogin_within.mono (by simp)

theorem createOpenUser_within
    {claims : GoogleClaims}
    {email : String}
    {draws : GoogleLoginDraws} :
    StaysWithin [.enrolls]
      (createOpenUser deps claims email now context draws) :=
  .bind (.ofExcept _) fun _ => .bind (.ofExcept _) fun _ =>
    .bind (.attempt rfl (by simp)) fun _ => .bind .record fun _ => .pure _

theorem loginUnlinked_within
    {claims : GoogleClaims}
    {draws : GoogleLoginDraws} :
    StaysWithin
      [.enrolls, .updatesUser, .insertsIdentity, .updatesIdentity,
        .opensSession]
      (loginUnlinked deps claims now context draws) := by
  unfold loginUnlinked
  split
  · exact .pure _
  · unfold loginPreauthorized
    split
    · exact .pure _
    split
    · refine .bind (.reads rfl) fun user => ?_
      split
      · exact .pure _
      split
      · exact .bind (linkAndLogin_within.mono (by simp)) fun _ => .pure _
      · exact .pure _
    · exact .pure _
  · unfold loginOpen
    split
    · exact .pure _
    split
    · refine .bind (.reads rfl) fun user => ?_
      split
      · split
        · exact .bind (linkAndLogin_within.mono (by simp)) fun _ => .pure _
        · exact .pure _
      · exact .bind (createOpenUser_within.mono (by simp)) fun _ =>
          .bind (insertIdentityAndLogin_within.mono (by simp)) fun _ =>
            .pure _
    · exact .pure _

theorem revoking_within
    {kinds : List StatementKind}
    {updated : UserAccount}
    {userId : Uuid}
    {eventType : SecurityEventType}
    (updates : .updatesUser ∈ kinds)
    (revokes : .revokesSessions ∈ kinds) :
    StaysWithin kinds
      (do
        Tx.updateUser updated
        let _ ← Tx.revokeUserSessions userId now
        recordSecurityEvent eventType now context (some userId)
        return updated) :=
  .bind (.attempt rfl updates) fun _ =>
    .bind (.issue rfl revokes) fun _ => .bind .record fun _ => .pure _

theorem refresh_within
    {refreshToken csrfCookie : String}
    {draws : SessionDraws} :
    StaysWithin [.opensSession, .updatesSession, .revokesFamily]
      (refresh deps refreshToken csrfCookie now context draws) := by
  refine .bind (.reads rfl) fun candidate => ?_
  split
  · exact .pure _
  refine .bind (.reads rfl) fun user => .bind (.reads rfl) fun session => ?_
  split
  · exact .pure _
  refine .bind (.ofExcept _) fun tokenMatches => ?_
  split
  · exact .pure _
  unfold refreshSession
  split
  · exact .bind (.issue rfl (by simp)) fun _ => .bind .record fun _ => .pure _
  split
  · exact .bind (.issue rfl (by simp)) fun _ => .pure _
  refine .bind (.ofExcept _) fun csrfMatches => ?_
  split
  · exact .pure _
  split
  · exact .bind (.issue rfl (by simp)) fun _ => .pure _
  split
  · exact .bind
      (.bind (issue_within.mono (by simp)) fun _ =>
        .bind (.attempt rfl (by simp)) fun _ => .bind .record fun _ => .pure _)
      fun _ => .pure _
  · exact .bind (.issue rfl (by simp)) fun _ => .pure _

theorem logout_within
    {refreshToken csrfCookie : String} :
    StaysWithin [.revokesFamily]
      (logout deps refreshToken csrfCookie now context) := by
  refine .bind (.reads rfl) fun candidate => ?_
  split
  · exact .pure _
  split
  · exact .pure _
  refine .bind (.reads rfl) fun user => .bind (.reads rfl) fun session => ?_
  split
  · split
    · exact .pure _
    refine .bind (.ofExcept _) fun tokenMatches => ?_
    split
    · exact .pure _
    refine .bind (.ofExcept _) fun csrfMatches => ?_
    split
    · exact .throw _
    · exact .bind (.issue rfl (by simp)) fun _ =>
        .bind .record fun _ => .pure _
  · exact .pure _

theorem markDelivered_within
    {linkId : Uuid} :
    StaysWithin [.changesLinks] (markDelivered deps linkId now) := by
  refine .bind (.reads rfl) fun candidate => ?_
  split
  · exact .pure _
  refine .bind (.reads rfl) fun user => .bind (.reads rfl) fun link =>
    .bind (.reads rfl) fun latest => .bind (.ofExcept _) fun deliverable => ?_
  split
  · split
    · exact .pure _
    · exact .bind (.issue rfl (by simp)) fun _ => .pure _
  · refine .bind (.issue rfl (by simp)) fun activated => ?_
    split
    · exact .pure _
    · exact .bind (.issue rfl (by simp)) fun _ =>
        .bind .record fun _ => .pure _

theorem linkIdentity_within
    {principal : Principal}
    {claims : GoogleClaims}
    {identityId : Uuid} :
    StaysWithin [.insertsIdentity, .updatesUser]
      (linkIdentity principal claims now context identityId) := by
  have refuses :
      ∀ failure,
        StaysWithin [.insertsIdentity, .updatesUser]
          (linkIdentity.refuse principal now context failure) :=
    fun _ => .bind .record fun _ => .pure _
  refine .bind (.reads rfl) fun user => .bind (.reads rfl) fun session => ?_
  split
  · split
    · refine .bind ?_ fun outcome => ?_
      · refine .bind (.reads rfl) fun owner =>
          .bind (.reads rfl) fun identity => ?_
        split
        · split
          · exact .pure _
          · exact .pure _
        · exact .pure _
        · exact .bind (.attempt rfl (by simp)) fun _ =>
            .bind .record fun _ => .pure _
      · split
        · refine .bind ?_ fun _ => .pure _
          unfold fenceLink
          split
          · exact .attempt rfl (by simp)
          · exact .pure _
        · exact refuses _
    · exact refuses _
  · exact refuses _

end Parts

/-- Every transaction stays within its kinds. -/
theorem ServiceTx.body_within
    {env : Environment}
    (tx : ServiceTx) :
    StaysWithin tx.kinds (tx.body env) := by
  cases tx with
  | login =>
      rw [ServiceTx.body, login_eq]
      refine .bind (.reads rfl) fun user => .ite ?_ ?_
      · exact .bind (recordPasswordFailure_within.mono (by simp [kinds]))
          fun _ => .pure _
      · split
        · exact .throw _
        · exact .bind (applyPasswordVerification_within.mono (by simp [kinds]))
            fun _ => .bind (issue_within.mono (by simp [kinds])) fun _ =>
              .bind .record fun _ => .pure _
  | reauthenticatePassword =>
      refine .bind (requirePrincipalUser_within.mono (by simp)) fun user =>
        .ite ?_ ?_
      · exact .bind recordPasswordFailure_within fun _ => .pure _
      · exact .bind (applyPasswordVerification_within.mono (by simp [kinds]))
          fun _ => .bind .record fun _ => .pure _
  | authenticate =>
      exact .bind (.reads rfl) fun _ => .bind (.reads rfl) fun _ => .pure _
  | refresh => exact refresh_within
  | logout => exact logout_within
  | changePassword =>
      refine .bind (requirePrincipalUser_within.mono (by simp)) fun user => ?_
      split
      · exact .throw _
      split
      · exact .throw _
      · exact .bind (.ofExcept _) fun _ =>
          .bind (.attempt rfl (by simp [kinds])) fun _ =>
            .bind (.issue rfl (by simp [kinds])) fun _ =>
              .bind (issue_within.mono (by simp [kinds])) fun _ =>
                .bind .record fun _ => .pure _
  | createAdmin =>
      refine .bind (.reads rfl) fun _ => .bind (.reads rfl) fun count => ?_
      split
      · exact .throw _
      · exact .bind (.attempt rfl (by simp [kinds])) fun _ => .record
  | createUser =>
      exact .bind (.attempt rfl (by simp [kinds])) fun _ => .record
  | listUsers => exact .reads rfl
  | getUser => exact .reads rfl
  | updateUser =>
      refine .bind (.reads rfl) fun _ => .bind (.reads rfl) fun current => ?_
      split
      · exact .throw _
      refine .bind (.ofExcept _) fun resolved => .bind ?_ fun _ => ?_
      · unfold requireRemainingAdmin
        split
        · refine .bind (.reads rfl) fun count => ?_
          split
          · exact .throw _
          · exact .pure _
        · exact .pure _
      · refine .bind (.attempt rfl (by simp [kinds])) fun _ =>
          .bind ?_ fun _ => .bind .record fun _ => .pure _
        unfold revokeIfDisabled
        split
        · exact .bind (.issue rfl (by simp [kinds])) fun _ => .pure _
        · exact .pure _
  | resetPassword =>
      refine .bind (.reads rfl) fun current => ?_
      split
      · exact .throw _
      · exact revoking_within (by simp [kinds]) (by simp [kinds])
  | revokeUserSessions =>
      refine .bind (.reads rfl) fun user => ?_
      split
      · exact .throw _
      · exact .bind (.issue rfl (by simp [kinds])) fun _ =>
          .bind .record fun _ => .pure _
  | requestLogin =>
      refine .bind (.reads rfl) fun user => ?_
      split
      · exact .pure _
      · split
        · exact issueLink_within
        · exact .pure _
  | requestPasswordReset =>
      refine .bind (.reads rfl) fun user => ?_
      split
      · exact .pure _
      · split
        · exact issueLink_within
        · exact .pure _
  | invite =>
      refine .bind (.reads rfl) fun user => ?_
      split
      · exact .throw _
      · split
        · exact issueLink_within
        · exact .throw _
  | markDelivered => exact markDelivered_within
  | markDeliveryFailed =>
      refine .bind (.issue rfl (by simp [kinds])) fun failed => ?_
      split
      · exact .pure _
      · exact .record
  | markNoticeDeliveryFailed => exact .record
  | activeLinkCandidate => exact .reads rfl
  | emailLinkLogin =>
      exact consuming_within (by simp [kinds])
        (fun _ =>
          .bind (issue_within.mono (by simp [kinds])) fun _ =>
            .bind .record fun _ => .pure _)
        fun _ => .record
  | emailLinkResetPassword =>
      exact consuming_within (by simp [kinds])
        (fun _ => replacing_within.mono (by simp [kinds]))
        fun _ => .pure _
  | activateInvitation =>
      exact consuming_within (by simp [kinds])
        (fun _ => replacing_within.mono (by simp [kinds]))
        fun _ => .pure _
  | provision => exact createPending_within
  | ensureInitialAdmin =>
      refine .bind (.reads rfl) fun _ => .bind (.reads rfl) fun existing => ?_
      split
      · split
        · exact .pure _
        · exact .throw _
      · refine .bind (.reads rfl) fun count => ?_
        split
        · exact .throw _
        · exact .bind createPending_within fun _ =>
            .bind .record fun _ => .pure _
  | replaceActivation =>
      refine .bind (.reads rfl) fun user => ?_
      split
      · exact .throw _
      · split
        · exact issueLink_within
        · exact .throw _
  | activate =>
      exact consuming_within (by simp [kinds])
        (fun _ =>
          .bind (.ofExcept _) fun _ =>
            replacing_within.mono (by simp [kinds]))
        fun _ => .pure _
  | beginRegistration =>
      refine .bind (.reads rfl) fun user => ?_
      split
      · exact .throw _
      refine .bind (.reads rfl) fun existing => ?_
      split
      · exact .throw _
      · exact .bind storeChallenge_within fun _ => .pure _
  | finishRegistration =>
      refine .bind (.reads rfl) fun user => ?_
      split
      · exact .throw _
      refine .bind (.reads rfl) fun registered => ?_
      split
      · exact .throw _
      · exact .bind (.attempt rfl (by simp [kinds])) fun _ =>
          .bind (.attempt rfl (by simp [kinds])) fun _ => .record
  | beginAuthentication =>
      exact .bind storeChallenge_within fun _ => .pure _
  | beginReauthentication =>
      exact .bind (requirePrincipalUser_within.mono (by simp)) fun _ =>
        .bind storeChallenge_within fun _ => .pure _
  | finishAuthentication =>
      refine .bind (verifyAndUpdatePasskey_within.mono (by simp [kinds]))
        fun verification => ?_
      split
      · exact .bind .record fun _ => .pure _
      split
      · exact .throw _
      · exact .bind (issue_within.mono (by simp [kinds])) fun _ =>
          .bind .record fun _ => .pure _
  | finishReauthentication =>
      refine .bind (verifyAndUpdatePasskey_within.mono (by simp [kinds]))
        fun verification => ?_
      split
      · exact .bind .record fun _ => .pure _
      · exact .bind (requirePrincipalSession_within.mono (by simp)) fun _ =>
          .bind .record fun _ => .pure _
  | listPasskeys => exact .reads rfl
  | revokePasskey =>
      refine .bind (.reads rfl) fun credential => ?_
      split
      · exact .throw _
      split
      · exact .throw _
      refine .bind (.reads rfl) fun user => ?_
      split
      · exact .throw _
      · exact .bind (.attempt rfl (by simp [kinds])) fun _ =>
          .bind (.attempt rfl (by simp [kinds])) fun _ => .record
  | consumePasskeyChallenge => exact .issue rfl (by simp [kinds])
  | registrationFailure => exact .record
  | authenticationFailure => exact .record
  | reauthenticationFailure => exact .record
  | beginGoogleChallenge =>
      refine .bind ?_ fun _ => .bind (.issue rfl (by simp [kinds])) fun _ =>
        .attempt rfl (by simp [kinds])
      unfold requireChallengeUser
      split
      · exact .pure _
      refine .bind (.reads rfl) fun user => ?_
      split
      · exact .throw _
      · split
        · exact .pure _
        · exact .throw _
  | consumeGoogleChallenge => exact .issue rfl (by simp [kinds])
  | googleLogin =>
      refine .bind ?_ fun result => ?_
      · refine .bind (.reads rfl) fun identity => ?_
        split
        · exact loginLinked_within.mono (by simp [kinds])
        · exact loginUnlinked_within
      · split
        · exact .pure _
        · exact .bind .record fun _ => .pure _
  | loginLinkedAfterConflict =>
      refine .bind (.reads rfl) fun identity => ?_
      split
      · exact .throw _
      · exact loginLinked_within
  | linkIdentity => exact linkIdentity_within
  | linkedAfterConflict =>
      refine .bind (.reads rfl) fun user => .bind (.reads rfl) fun session => ?_
      split
      · refine .bind (.reads rfl) fun identity => ?_
        split
        · split
          · exact .pure _
          · exact .bind .record fun _ => .pure _
        · exact .bind .record fun _ => .pure _
      · exact .bind .record fun _ => .pure _
  | recoverPasswordAccess =>
      refine .bind (.reads rfl) fun identity => .bind (.reads rfl) fun user => ?_
      split
      · exact .throw _
      · exact .throw _
      · exact .bind (.attempt rfl (by simp [kinds])) fun _ =>
          .bind (.attempt rfl (by simp [kinds])) fun _ =>
            .bind (.issue rfl (by simp [kinds])) fun _ =>
              .bind .record fun _ => .pure _
  | verificationFailure => exact .record

end EpokAuth
