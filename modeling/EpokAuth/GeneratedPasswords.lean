import EpokAuth.Operations
import EpokAuth.SettingsConsistency

namespace EpokAuth

open Transactional

/-!
# Generated passwords are accepted

Seven operations give an account a password that nobody chose.  The only one of
their checks that judges a password is that of the generated one, so where the
settings agree with each other none of them ever answers that a password is
invalid, whatever is stored when its transactions are made.
-/

/-- A failure that says that a password is invalid. -/
def Failure.isPasswordInvalid : Failure → Bool
  | .auth error => error.code = .passwordInvalid
  | _ => false

/-! ## Checks -/

/-- A check that, if it fails, does not say that a password is invalid. -/
def SparesPassword (outcome : Except Failure α) : Prop :=
  ∀ failure, outcome = .error failure → failure.isPasswordInvalid = false

section Checks

variable
  {text : TextLibrary}
  {deps : Dependencies}
  {settings : AuthSettings}

theorem SparesPassword.ok {value : α} :
    SparesPassword (.ok value : Except Failure α) :=
  by intro _ same; cases same

theorem SparesPassword.error
    {failure : Failure}
    (spares : failure.isPasswordInvalid = false) :
    SparesPassword (.error failure : Except Failure α) := by
  intro _ same
  rw [← Except.error.inj same]
  exact spares

theorem SparesPassword.of_ok
    {outcome : Except Failure α}
    {value : α}
    (passes : outcome = .ok value) :
    SparesPassword outcome :=
  passes ▸ .ok

theorem normalizeEmail_spares {value : String} :
    SparesPassword (normalizeEmail text value) := by
  unfold normalizeEmail
  split
  · exact .error rfl
  · exact .ok

theorem normalizeDisplayName_spares {value : String} :
    SparesPassword (normalizeDisplayName value) := by
  unfold normalizeDisplayName
  dsimp only
  split
  · exact .ok
  · exact .error rfl

theorem normalizeEach_spares {values : List String} :
    SparesPassword (normalizeEach text values) := by
  cases values with
  | nil => exact .ok
  | cons value rest =>
      unfold normalizeEach
      split
      · exact .ok
      · exact .error rfl

theorem normalizeCapabilities_spares
    {values : List String}
    {maximum : Nat} :
    SparesPassword (normalizeCapabilities text values maximum) := by
  unfold normalizeCapabilities
  split
  · exact .error rfl
  · split
    · rename_i failure refused
      exact .error (normalizeEach_spares failure refused)
    · exact .ok

theorem compareDigest_spares {left right : String} :
    SparesPassword (compareDigest left right) := by
  unfold compareDigest
  split
  · exact .ok
  · exact .error rfl

theorem matchesUser_spares
    {link : EmailLink}
    {user : UserAccount}
    {now : Instant} :
    SparesPassword (matchesUser deps link user now) := by
  unfold matchesUser boundTo
  split
  · split
    · split
      · rename_i failure refused
        exact .error (compareDigest_spares failure refused)
      · exact .ok
    · exact .ok
  · exact .ok

theorem validBrowser_spares
    {link : EmailLink}
    {browserNonce : Option String} :
    SparesPassword (validBrowser deps link browserNonce) := by
  unfold validBrowser
  split
  · exact compareDigest_spares
  · exact .ok

theorem emailLinkUrl_spares {purpose : EmailLinkPurpose} :
    SparesPassword (emailLinkUrl settings purpose) := by
  unfold emailLinkUrl
  dsimp only
  split
  · exact .error rfl
  · exact .ok

theorem requireActivationUrl_spares :
    SparesPassword (requireActivationUrl settings) := by
  unfold requireActivationUrl
  split
  · exact .error rfl
  · exact .ok

theorem validateGoogleOrigin_spares {origin : Option String} :
    SparesPassword (validateGoogleOrigin deps origin) := by
  unfold validateGoogleOrigin
  split
  · exact .error rfl
  · dsimp only
    split
    · exact .ok
    · exact .error rfl

theorem googleClient_spares : SparesPassword (googleClient deps) := by
  unfold googleClient
  split
  · exact .error rfl
  · exact .ok

theorem claimedDisplayName_spares
    {claims : GoogleClaims}
    {email : String} :
    SparesPassword (claimedDisplayName claims email) := by
  unfold claimedDisplayName
  split
  · exact normalizeDisplayName_spares
  · split
    · exact .ok
    · exact normalizeDisplayName_spares

/-- A credential is refused with an error of the verifier or of the login. -/
theorem refused_spares
    {text : TextLibrary}
    {settings : AuthSettings}
    {credential nonce : String}
    {decoding : GoogleDecoding}
    {failure : Failure}
    {unavailable : Bool}
    (refused :
      verifyCredential text settings credential nonce decoding =
        .refused failure unavailable) :
    failure.isPasswordInvalid = false := by
  unfold verifyCredential at refused
  split at refused
  · cases refused
    rfl
  · unfold validateVerified at refused
    split at refused
    · cases refused
      rfl
    · cases refused
      rfl
    · cases refused
    · split at refused
      · cases refused
      · cases refused
        rfl
      · cases refused

end Checks

/-! ## Transactions -/

namespace Tx

/-- On no store does a transaction raise that a password is invalid. -/
def SparesPassword (body : Tx α) : Prop :=
  ∀ store,
    wp body (fun _ _ => True)
      (fun failure _ => failure.isPasswordInvalid = false) store

namespace SparesPassword

theorem pure (value : α) : SparesPassword (Pure.pure value : Tx α) :=
  fun _ => trivial

theorem throw
    {failure : Failure}
    (spares : failure.isPasswordInvalid = false) :
    SparesPassword (MonadExcept.throw failure : Tx α) :=
  fun _ => spares

theorem ofExcept
    {outcome : Except Failure α}
    (spares : EpokAuth.SparesPassword outcome) :
    SparesPassword (Prog.ofExcept outcome : Tx α) := by
  intro store
  rw [wp_ofExcept]
  cases outcome with
  | ok value => trivial
  | error failure => exact spares failure rfl

theorem bind
    {body : Tx α}
    {later : α → Tx β}
    (first : SparesPassword body)
    (second : ∀ value, SparesPassword (later value)) :
    SparesPassword (body >>= later) := by
  intro store
  rw [wp_bind]
  exact wp_mono (first store) (fun value last _ => second value last)
    fun _ _ spares => spares

theorem issue {statement : Statement} :
    SparesPassword (Tx.issue statement) :=
  fun _ => trivial

theorem record
    {eventType : SecurityEventType}
    {now : Instant}
    {context : RequestContext}
    {userId sessionId : Option Uuid}
    {metadata : Option SecurityMetadata} :
    SparesPassword
      (recordSecurityEvent eventType now context userId sessionId metadata) :=
  issue

theorem insertUser {user : UserAccount} :
    SparesPassword (Tx.insertUser user) := by
  intro store
  rw [wp_insertUser]
  split
  · rfl
  · trivial

theorem updateUser {user : UserAccount} :
    SparesPassword (Tx.updateUser user) := by
  intro store
  rw [wp_updateUser]
  split
  · split
    · rfl
    · trivial
  · rfl

theorem insertSession {session : RefreshSession} :
    SparesPassword (Tx.insertSession session) := by
  intro store
  rw [wp_insertSession]
  split
  · rfl
  · trivial

theorem insertEmailLink {link : EmailLink} :
    SparesPassword (Tx.insertEmailLink link) := by
  intro store
  rw [wp_insertEmailLink]
  split
  · rfl
  · trivial

theorem insertExternalIdentity {identity : ExternalIdentity} :
    SparesPassword (Tx.insertExternalIdentity identity) := by
  intro store
  rw [wp_insertExternalIdentity]
  split
  · rfl
  · trivial

theorem updateExternalIdentity {identity : ExternalIdentity} :
    SparesPassword (Tx.updateExternalIdentity identity) := by
  intro store
  rw [wp_updateExternalIdentity]
  split
  · split
    · rfl
    · trivial
  · rfl

theorem deleteExternalIdentity {identityId : Uuid} :
    SparesPassword (Tx.deleteExternalIdentity identityId) := by
  intro store
  rw [wp_deleteExternalIdentity]
  split
  · trivial
  · rfl

end SparesPassword

end Tx

section Transactions

variable
  {env : Environment}
  {deps : Dependencies}
  {now : Instant}
  {context : RequestContext}

/-- A new password ends the sessions that the old one opened. -/
theorem revoking_sparesPassword
    {updated : UserAccount}
    {userId : Uuid}
    {eventType : SecurityEventType}
    {result : α} :
    Tx.SparesPassword
      (do
        Tx.updateUser updated
        let _ ← Tx.revokeUserSessions userId now
        recordSecurityEvent eventType now context (some userId)
        return result) :=
  .bind .updateUser fun _ => .bind .issue fun _ =>
    .bind .record fun _ => .pure _

theorem issueLink_sparesPassword
    {user : UserAccount}
    {purpose : EmailLinkPurpose}
    {browserNonce : Option String}
    {draws : LinkDraws} :
    Tx.SparesPassword
      (issueLink deps user purpose now context browserNonce draws) := by
  refine .bind .issue fun _ => .bind .issue fun count => ?_
  split
  · exact .pure _
  · exact .bind .issue fun _ => .bind .insertEmailLink fun _ =>
      .bind .record fun _ =>
        .bind (.ofExcept emailLinkUrl_spares) fun _ => .pure _

theorem createPending_sparesPassword
    {user : UserAccount}
    {draws : LinkDraws} :
    Tx.SparesPassword (createPending deps user now context draws) := by
  refine .bind .insertUser fun _ => .bind .record fun _ =>
    .bind issueLink_sparesPassword fun issued => ?_
  split
  · exact .throw rfl
  · exact .pure _

theorem consumableLink_sparesPassword
    {token : String}
    {purpose : EmailLinkPurpose}
    {browserNonce : Option String} :
    Tx.SparesPassword
      (consumableLink deps token purpose now browserNonce) := by
  unfold consumableLink
  split
  · exact .pure _
  refine .bind .issue fun candidate => ?_
  cases candidate with
  | none => exact .pure _
  | some candidate =>
      refine .bind .issue fun user => .bind .issue fun link => ?_
      cases link with
      | none => exact .pure _
      | some link =>
          dsimp only
          split
          · exact .pure _
          cases user with
          | none => exact .bind .issue fun _ => .pure _
          | some user =>
              refine .bind (.ofExcept matchesUser_spares) fun isMatch => ?_
              split
              · exact .bind .issue fun _ => .pure _
              · split
                · refine .bind (.ofExcept validBrowser_spares)
                    fun isBrowser => ?_
                  split
                  · exact .pure _
                  · exact .pure _
                · exact .pure _

theorem consuming_sparesPassword
    {token : String}
    {purpose : EmailLinkPurpose}
    {browserNonce : Option String}
    {complete : UserAccount → Tx α}
    {refused : Option UserAccount → Tx Unit}
    (completes : ∀ user, Tx.SparesPassword (complete user))
    (refuses : ∀ user, Tx.SparesPassword (refused user)) :
    Tx.SparesPassword
      (consuming deps token purpose now browserNonce complete refused) := by
  refine .bind consumableLink_sparesPassword fun found => ?_
  split
  · split
    · refine .bind .issue fun consumed => ?_
      split
      · exact .bind (refuses _) fun _ => .pure _
      · exact .bind (completes _) fun _ => .pure _
    · exact .bind (refuses _) fun _ => .pure _
  · exact .bind (refuses _) fun _ => .pure _

theorem issue_sparesPassword
    {user : UserAccount}
    {lineage : Option Lineage}
    {draws : SessionDraws} :
    Tx.SparesPassword (issue deps user now lineage context draws) :=
  .bind .insertSession fun _ => .bind .record fun _ => .pure _

theorem loginLinked_sparesPassword
    {identity : ExternalIdentity}
    {claims : GoogleClaims}
    {draws : SessionDraws} :
    Tx.SparesPassword
      (loginLinked deps identity claims now context draws) := by
  refine .bind .issue fun user => ?_
  split
  · exact .pure _
  · split
    · exact .bind .updateExternalIdentity fun _ =>
        .bind issue_sparesPassword fun _ => .bind .record fun _ => .pure _
    · exact .pure _

theorem insertIdentityAndLogin_sparesPassword
    {user : UserAccount}
    {claims : GoogleClaims}
    {draws : GoogleLoginDraws} :
    Tx.SparesPassword
      (insertIdentityAndLogin deps user claims now context draws) := by
  refine .bind .insertExternalIdentity fun _ => .bind .record fun _ =>
    .bind loginLinked_sparesPassword fun result => ?_
  split
  · exact .throw rfl
  · exact .pure _

end Transactions

/-! ## Operations -/

/-- What is answered somewhere: others may commit before each transaction. -/
def Ask.anywhere (env : Environment) : Prog.Transformer Ask Ask.Answer Unit :=
  fun question answered _ =>
    ∀ around store, answered (Ask.execute env around question store).1 ()

/--
An operation never answers that a password is invalid, whatever is stored when
each of its transactions is made.
-/
def Operation.SparesPassword (env : Environment) (operation : Operation α) :
    Prop :=
  Prog.wp (Ask.anywhere env) operation (fun _ _ => True)
    (fun failure _ => failure.isPasswordInvalid = false) ()

namespace Operation

section Rules

variable
  {env : Environment}

theorem anywhere_monotone : (Ask.anywhere env).Monotone :=
  fun _ _ _ _ weakening holds around store =>
    weakening _ _ (holds around store)

theorem SparesPassword.throw
    {failure : Failure}
    (spares : failure.isPasswordInvalid = false) :
    Operation.SparesPassword env (MonadExcept.throw failure : Operation α) :=
  spares

theorem SparesPassword.pure (value : α) :
    Operation.SparesPassword env (Pure.pure value : Operation α) :=
  trivial

theorem SparesPassword.bind
    {first : Operation α}
    {second : α → Operation β}
    (spares : first.SparesPassword env)
    (later : ∀ value, (second value).SparesPassword env) :
    Operation.SparesPassword env (first >>= second) := by
  unfold Operation.SparesPassword
  rw [Prog.wp_bind]
  exact Prog.wp_mono anywhere_monotone spares (fun value _ _ => later value)
    fun _ _ spared => spared

theorem SparesPassword.clockNow : clockNow.SparesPassword env :=
  fun _ _ => trivial

theorem SparesPassword.decodeGoogle {credential audience : String} :
    (decodeGoogle credential audience).SparesPassword env :=
  fun _ _ => trivial

theorem SparesPassword.check
    {outcome : Except Failure α}
    (spares : EpokAuth.SparesPassword outcome) :
    (check outcome).SparesPassword env := by
  cases outcome with
  | ok value => trivial
  | error failure => exact spares failure rfl

theorem SparesPassword.transaction
    {tx : ServiceTx}
    (spares : Tx.SparesPassword (tx.body env)) :
    (transaction tx).SparesPassword env := by
  intro around store
  refine SparesPassword.check fun failure raised => ?_
  rcases Tx.execute_of_wp (spares store) with
    ⟨answer, later, returned, _⟩ | ⟨other, raisedToo, spared⟩
  · have answered := congrArg Prod.fst returned
    cases answered.symm.trans raised
  · have same := Except.error.inj
      ((congrArg Prod.fst raisedToo).symm.trans raised)
    exact same ▸ spared

theorem SparesPassword.onConflict
    {operation handler : Operation α}
    (spares : operation.SparesPassword env)
    (handles : handler.SparesPassword env) :
    (onConflict operation handler).SparesPassword env := by
  unfold Operation.onConflict Operation.SparesPassword
  rw [Prog.wp_handle]
  refine Prog.wp_mono anywhere_monotone spares (fun _ _ _ => trivial) ?_
  intro failure _ spared
  cases failure with
  | storeConflict message => exact handles
  | _ => exact spared

/-- An operation that is run alone does not say that a password is invalid. -/
theorem SparesPassword.execute
    {around : Surroundings}
    {operation : Operation α}
    {store later : Store}
    {failure : Failure}
    (spares : operation.SparesPassword env)
    (raised : operation.execute env around store = (.error failure, later)) :
    failure.isPasswordInvalid = false := by
  induction operation generalizing store with
  | done value => cases raised
  | fail other =>
      obtain rfl := Except.error.inj (Prod.mk.inj raised).1
      exact spares
  | call question next inductionHypothesis =>
      exact inductionHypothesis _ (spares around store) raised

end Rules

end Operation

/-! ## The operations that give generated passwords -/

/-- A password that is generated under the settings. -/
def AuthSettings.Generates (settings : AuthSettings) (drawn : String) : Prop :=
  ∃ bytes : List UInt8,
    bytes.length = settings.temporaryPasswordBytes ∧ drawn = tokenUrlsafe bytes

/--
What a service promises of the passwords it generates: no operation that gives
one to an account ever says that it is invalid.
-/
structure AcceptsGenerated (env : Environment) (settings : AuthSettings) :
    Prop where
  createUser :
    ∀ email displayName roles scopes googleAutoLinkAllowed context userId
      draws,
      settings.Generates draws.temporaryPassword →
        (AuthService.createUser env.toDependencies email displayName roles
          scopes googleAutoLinkAllowed context userId draws).SparesPassword env
  resetPassword :
    ∀ userId context draws,
      settings.Generates draws.temporaryPassword →
        (AuthService.resetPassword env.toDependencies userId context
          draws).SparesPassword env
  provision :
    ∀ email displayName roles context userId passwordDraws draws,
      settings.Generates passwordDraws.temporaryPassword →
        (AccountActivationService.provision env.toDependencies email
          displayName roles context userId passwordDraws draws).SparesPassword
          env
  ensureInitialAdmin :
    ∀ email displayName context userId passwordDraws draws,
      settings.Generates passwordDraws.temporaryPassword →
        (AccountActivationService.ensureInitialAdmin env.toDependencies email
          displayName context userId passwordDraws draws).SparesPassword env
  activateInvitation :
    ∀ token context draws,
      settings.Generates draws.temporaryPassword →
        (EmailLinkService.activateInvitation env.toDependencies token context
          draws).SparesPassword env
  recoverPasswordAccess :
    ∀ userId context draws,
      settings.Generates draws.temporaryPassword →
        (GoogleLoginService.recoverPasswordAccess env.toDependencies userId
          context draws).SparesPassword env
  googleLogin :
    ∀ challengeId credential origin context draws retryDraws,
      settings.Generates draws.unusablePassword →
        (GoogleLoginService.finishLogin env.toDependencies challengeId
          credential origin context draws retryDraws).SparesPassword env

section Operations

variable
  {env : Environment}
  {deps : Dependencies}
  {encoded : String}

/-- An account may be created for a Google login, or linked to it. -/
theorem googleLogin_sparesPassword
    {claims : GoogleClaims}
    {now : Instant}
    {context : RequestContext}
    {draws : GoogleLoginDraws}
    (hashed :
      deps.passwords.hash draws.salt draws.unusablePassword = .ok encoded) :
    Tx.SparesPassword (googleLogin deps claims now context draws) := by
  have links :
      ∀ user : UserAccount,
        Tx.SparesPassword (linkAndLogin deps user claims now context draws) :=
    fun _ => .bind (.ofExcept (.of_ok hashed)) fun _ =>
      .bind .updateUser fun _ => insertIdentityAndLogin_sparesPassword
  refine .bind (.bind .issue fun identity => ?_) fun result => ?_
  · split
    · exact loginLinked_sparesPassword
    · unfold loginUnlinked
      split
      · exact .pure _
      · unfold loginPreauthorized
        split
        · exact .pure _
        split
        · refine .bind .issue fun user => ?_
          split
          · exact .pure _
          split
          · exact .bind (links _) fun _ => .pure _
          · exact .pure _
        · exact .pure _
      · unfold loginOpen
        split
        · exact .pure _
        split
        · refine .bind .issue fun user => ?_
          split
          · split
            · exact .bind (links _) fun _ => .pure _
            · exact .pure _
          · exact .bind
              (.bind (.ofExcept (.of_ok hashed)) fun _ =>
                .bind (.ofExcept claimedDisplayName_spares) fun _ =>
                  .bind .insertUser fun _ => .bind .record fun _ => .pure _)
              fun _ => .bind insertIdentityAndLogin_sparesPassword fun _ =>
                .pure _
        · exact .pure _
  · split
    · exact .pure _
    · exact .bind .record fun _ => .pure _

/-- The verifier of Google answers with errors of its own. -/
theorem verifyGoogleCredential_sparesPassword
    {credential : String}
    {challenge : GoogleChallenge}
    {context : RequestContext}
    {linking : Bool} :
    (GoogleLoginService.verify deps credential challenge context
      linking).SparesPassword env := by
  have records :
      ∀ unavailable,
        (GoogleLoginService.verificationFailure linking unavailable
          context).SparesPassword env :=
    fun _ => .bind .clockNow fun _ => .transaction .record
  unfold GoogleLoginService.verify
  split
  · exact .bind (records _) fun _ => .throw rfl
  rename_i short
  refine .bind .decodeGoogle fun decoding => ?_
  have verdict :
      validateVerified deps.text deps.settings
          (verifyGoogle deps.settings.googleMaxCredentialChars credential
            challenge.nonce decoding) =
        verifyCredential deps.text deps.settings credential challenge.nonce
          decoding := by
    rw [verifyCredential, if_neg short]
  rw [verdict]
  cases judged :
      verifyCredential deps.text deps.settings credential challenge.nonce
        decoding with
  | accepted claims => exact .pure _
  | refused failure unavailable =>
      exact .bind (records _) fun _ => .throw (refused_spares judged)
  | escaped failure =>
      obtain ⟨rfl, -⟩ := verifyCredential_escapes_iff.mp judged
      exact .throw rfl

theorem consumeChallenge_sparesPassword
    {challengeId : Uuid}
    {purpose : GoogleChallengePurpose}
    {origin : Option String}
    {userId : Option Uuid} :
    (GoogleLoginService.consumeChallenge deps challengeId purpose origin
      userId).SparesPassword env := by
  refine .bind .clockNow fun _ =>
    .bind (.check validateGoogleOrigin_spares) fun _ =>
      .bind (.transaction .issue) fun challenge => ?_
  split
  · exact .throw rfl
  · split
    · exact .throw rfl
    · refine .bind (.check googleClient_spares) fun _ => ?_
      split
      · exact .throw rfl
      · exact .pure _

theorem answered_sparesPassword {result : Option SessionBundle} :
    (GoogleLoginService.answered result).SparesPassword env := by
  cases result with
  | none => exact .throw rfl
  | some bundle => exact .pure _

theorem finishLogin_sparesPassword
    {challengeId : Uuid}
    {credential : String}
    {origin : Option String}
    {context : RequestContext}
    {draws : GoogleLoginDraws}
    {retryDraws : SessionDraws}
    (hashed :
      env.passwords.hash draws.salt draws.unusablePassword = .ok encoded) :
    (GoogleLoginService.finishLogin env.toDependencies challengeId credential
      origin context draws retryDraws).SparesPassword env := by
  refine .bind .clockNow fun _ => .bind consumeChallenge_sparesPassword
    fun challenge => .bind verifyGoogleCredential_sparesPassword fun claims =>
      .onConflict
        (.bind (.transaction (googleLogin_sparesPassword hashed)) fun _ =>
          answered_sparesPassword)
        (.bind (.transaction ?_) fun _ => answered_sparesPassword)
  refine .bind .issue fun identity => ?_
  split
  · exact .throw rfl
  · exact loginLinked_sparesPassword

section Drawn

variable
  {draws : PasswordDraws}
  {context : RequestContext}
  (hashed :
    env.passwords.hash draws.salt draws.temporaryPassword = .ok encoded)

include hashed

theorem createUser_sparesPassword
    {email displayName : String}
    {roles : Option (List String)}
    {scopes : List String}
    {googleAutoLinkAllowed : Bool}
    {userId : Uuid} :
    (AuthService.createUser env.toDependencies email displayName roles scopes
      googleAutoLinkAllowed context userId draws).SparesPassword env := by
  unfold AuthService.createUser
  have named := @normalizeDisplayName_spares displayName
  -- else the unifier computes the name
  generalize normalizeDisplayName displayName = name at named ⊢
  refine .bind .clockNow fun _ =>
    .bind (.check normalizeCapabilities_spares) fun _ =>
      .bind (.check normalizeCapabilities_spares) fun _ =>
        .bind (.check (.of_ok hashed)) fun _ =>
          .bind (.check normalizeEmail_spares) fun _ =>
            .bind (.check named) fun _ => ?_
  exact .bind
    (.onConflict (.transaction (.bind .insertUser fun _ => .record))
      (.throw rfl))
    fun _ => .pure _

theorem resetPassword_sparesPassword {userId : Uuid} :
    (AuthService.resetPassword env.toDependencies userId context
      draws).SparesPassword env := by
  refine .bind .clockNow fun _ => .bind (.check (.of_ok hashed)) fun _ =>
    .bind (.transaction ?_) fun _ => .pure _
  refine .bind .issue fun current => ?_
  split
  · exact .throw rfl
  · exact revoking_sparesPassword

theorem recoverPasswordAccess_sparesPassword {userId : Uuid} :
    (GoogleLoginService.recoverPasswordAccess env.toDependencies userId context
      draws).SparesPassword env := by
  refine .bind .clockNow fun _ => .bind (.check (.of_ok hashed)) fun _ =>
    .bind (.transaction ?_) fun _ => .pure _
  refine .bind .issue fun identity => .bind .issue fun user => ?_
  split
  · exact .throw rfl
  · exact .throw rfl
  · exact .bind .updateUser fun _ => .bind .deleteExternalIdentity fun _ =>
      .bind .issue fun _ => .bind .record fun _ => .pure _

theorem activateInvitation_sparesPassword {token : String} :
    (EmailLinkService.activateInvitation env.toDependencies token context
      draws).SparesPassword env := by
  refine .bind .clockNow fun _ => .bind ?_ fun found => ?_
  · unfold EmailLinkService.activeLinkExists
    split
    · exact .bind (.transaction .issue) fun _ => .pure _
    · exact .pure _
  · split
    · exact .throw rfl
    · refine .bind (.check (.of_ok hashed)) fun _ =>
        .bind (.transaction ?_) fun activated => ?_
      · exact consuming_sparesPassword (fun _ => revoking_sparesPassword)
          fun _ => .pure _
      · split
        · exact .throw rfl
        · exact .pure _

theorem pendingUser_sparesPassword
    {email displayName : String}
    {scopes : List String} :
    (AccountActivationService.pendingUser env.toDependencies email displayName
      scopes draws).SparesPassword env := by
  unfold AccountActivationService.pendingUser
  have named := @normalizeDisplayName_spares displayName
  generalize normalizeDisplayName displayName = name at named ⊢
  exact .bind (.check normalizeCapabilities_spares) fun _ =>
    .bind (.check (.of_ok hashed)) fun _ =>
      .bind (.check normalizeEmail_spares) fun _ =>
        .bind (.check named) fun _ => .pure _

theorem provision_sparesPassword
    {email displayName : String}
    {roles : Option (List String)}
    {userId : Uuid}
    {linkDraws : LinkDraws} :
    (AccountActivationService.provision env.toDependencies email displayName
      roles context userId draws linkDraws).SparesPassword env := by
  refine .bind (.check requireActivationUrl_spares) fun _ =>
    .bind .clockNow fun _ =>
      .bind (.check normalizeCapabilities_spares) fun roles => ?_
  split
  · exact .throw rfl
  · exact .bind (pendingUser_sparesPassword hashed) fun _ =>
      .onConflict (.transaction createPending_sparesPassword) (.throw rfl)

theorem ensureInitialAdmin_sparesPassword
    {email displayName : String}
    {userId : Uuid}
    {linkDraws : LinkDraws} :
    (AccountActivationService.ensureInitialAdmin env.toDependencies email
      displayName context userId draws linkDraws).SparesPassword env := by
  refine .bind (.check requireActivationUrl_spares) fun _ =>
    .bind .clockNow fun _ => .bind (.check normalizeEmail_spares) fun _ =>
      .bind (pendingUser_sparesPassword hashed) fun _ =>
        .onConflict (.transaction ?_) (.throw rfl)
  refine .bind .issue fun _ => .bind .issue fun existing => ?_
  split
  · split
    · exact .pure _
    · exact .throw rfl
  · refine .bind .issue fun count => ?_
    split
    · exact .throw rfl
    · exact .bind createPending_sparesPassword fun _ =>
        .bind .record fun _ => .pure _

end Drawn

end Operations

/-! ## What consistent settings give -/

section Consistent

variable
  {settings : ValidatedSettings}
  {text : TextLibrary}
  {passwordHash : PasswordHash}
  {dummySalt : Nat}
  {platform : TokenPlatform}

/-- A password generated under settings that agree with each other is hashed. -/
theorem GeneratesWithinLimits.hashes
    (generates :
      GeneratesWithinLimits settings text passwordHash dummySalt platform)
    {passwords : PasswordManager}
    (isManager : passwords = settings.passwords text passwordHash dummySalt)
    {drawn : String}
    (generated : settings.Generates drawn)
    (salt : Nat) :
    ∃ encoded, passwords.hash salt drawn = .ok encoded := by
  obtain ⟨bytes, count, rfl⟩ := generated
  rw [isManager]
  exact generates.passwords bytes count salt

/-- Where the settings agree with each other, generated passwords are accepted. -/
theorem GeneratesWithinLimits.acceptsGenerated
    (generates :
      GeneratesWithinLimits settings text passwordHash dummySalt platform)
    {env : Environment}
    (isManager :
      env.passwords = settings.passwords text passwordHash dummySalt) :
    AcceptsGenerated env settings.toAuthSettings where
  createUser _ _ _ _ _ _ _ draws generated :=
    have ⟨_, hashed⟩ := generates.hashes isManager generated draws.salt
    createUser_sparesPassword hashed
  resetPassword _ _ draws generated :=
    have ⟨_, hashed⟩ := generates.hashes isManager generated draws.salt
    resetPassword_sparesPassword hashed
  provision _ _ _ _ _ draws _ generated :=
    have ⟨_, hashed⟩ := generates.hashes isManager generated draws.salt
    provision_sparesPassword hashed
  ensureInitialAdmin _ _ _ _ draws _ generated :=
    have ⟨_, hashed⟩ := generates.hashes isManager generated draws.salt
    ensureInitialAdmin_sparesPassword hashed
  activateInvitation _ _ draws generated :=
    have ⟨_, hashed⟩ := generates.hashes isManager generated draws.salt
    activateInvitation_sparesPassword hashed
  recoverPasswordAccess _ _ draws generated :=
    have ⟨_, hashed⟩ := generates.hashes isManager generated draws.salt
    recoverPasswordAccess_sparesPassword hashed
  googleLogin _ _ _ _ draws _ generated :=
    have ⟨_, hashed⟩ := generates.hashes isManager generated draws.salt
    finishLogin_sparesPassword hashed

end Consistent

end EpokAuth
