import EpokAuth.Operations

namespace EpokAuth

open Transactional

/-!
# Which transactions an operation makes

An operation may make a transaction only with the arguments it computes for it.
The rules below follow the shape of an operation, and one lemma for each
operation says which transactions it makes: whoever allows these allows it.
-/

/-- An ask that makes an allowed transaction, or none. -/
def Ask.Within (allowed : ServiceTx → Prop) : Ask → Prop
  | .transaction tx => allowed tx
  | _ => True

/-- Every transaction an operation may make is allowed. -/
def Operation.Makes (allowed : ServiceTx → Prop) (operation : Operation α) :
    Prop :=
  Prog.Issues (Ask.Within allowed) operation

namespace Operation

section Makes

variable
  {allowed : ServiceTx → Prop}

theorem makes_done (value : α) :
    Operation.Makes allowed (pure value) :=
  trivial

theorem makes_throw (failure : Failure) :
    Operation.Makes allowed (throw failure : Operation α) :=
  trivial

theorem makes_clockNow : clockNow.Makes allowed :=
  ⟨trivial, fun _ => trivial⟩

theorem makes_check (outcome : Except Failure α) :
    (check outcome).Makes allowed :=
  Prog.issues_ofExcept outcome

theorem makes_send (email : AuthEmail) : (send email).Makes allowed :=
  ⟨trivial, fun _ => trivial⟩

theorem makes_dispatch (message : Dispatched) :
    (dispatch message).Makes allowed :=
  ⟨trivial, fun _ => trivial⟩

theorem makes_decodeGoogle (credential audience : String) :
    (decodeGoogle credential audience).Makes allowed :=
  ⟨trivial, fun _ => trivial⟩

theorem makes_verifyAccess {token : String} :
    (verifyAccess token).Makes allowed :=
  Prog.Issues.bind ⟨trivial, fun _ => trivial⟩ makes_check

theorem makes_transaction {tx : ServiceTx} (permitted : allowed tx) :
    (transaction tx).Makes allowed :=
  Prog.Issues.bind ⟨permitted, fun _ => trivial⟩ makes_check

theorem Makes.bind
    {first : Operation α}
    {second : α → Operation β}
    (makes : first.Makes allowed)
    (later : ∀ value, (second value).Makes allowed) :
    Operation.Makes allowed (first >>= second) :=
  Prog.Issues.bind makes later

/-- After a check only what it lets pass has to be reckoned with. -/
theorem makes_check_bind
    {outcome : Except Failure α}
    {second : α → Operation β}
    (later : ∀ value, outcome = .ok value → (second value).Makes allowed) :
    Operation.Makes allowed (check outcome >>= second) := by
  cases outcome with
  | error failure => trivial
  | ok value => exact later value rfl

/-- A handled operation makes what it or its handler makes. -/
theorem Makes.handle
    {operation : Operation α}
    {handler : Failure → Operation α}
    (makes : operation.Makes allowed)
    (handles : ∀ failure, (handler failure).Makes allowed) :
    Operation.Makes allowed (Prog.handle operation handler) := by
  induction operation with
  | done value => exact makes
  | fail failure => exact handles failure
  | call ask next inductionHypothesis =>
      exact ⟨makes.1, fun answer => inductionHypothesis answer (makes.2 answer)⟩

theorem Makes.onConflict
    {operation handler : Operation α}
    (makes : operation.Makes allowed)
    (handles : handler.Makes allowed) :
    (onConflict operation handler).Makes allowed := by
  refine makes.handle fun failure => ?_
  cases failure with
  | storeConflict message => exact handles
  | _ => trivial

/-- What is allowed may be allowed for more. -/
theorem Makes.mono
    {more : ServiceTx → Prop}
    {operation : Operation α}
    (makes : operation.Makes allowed)
    (weakening : ∀ tx, allowed tx → more tx) :
    operation.Makes more := by
  refine Prog.Issues.mono makes fun ask within => ?_
  cases ask with
  | transaction tx => exact weakening tx within
  | _ => trivial

end Makes

end Operation

/-! ## The core service -/

namespace AuthService

variable
  {deps : Dependencies}
  {allowed : ServiceTx → Prop}
  {context : RequestContext}

theorem login_makes
    {email password : String}
    {salt : Nat}
    {draws : SessionDraws}
    (made : ∀ normalizedEmail now,
      allowed (.login normalizedEmail password now context salt draws)) :
    (login deps email password context salt draws).Makes allowed := by
  refine Operation.makes_clockNow.bind fun now => ?_
  refine (Operation.makes_transaction (made _ now)).bind fun result => ?_
  exact Operation.makes_check result

theorem authenticate_makes
    {accessToken : String}
    (made : ∀ claims, allowed (.authenticate claims)) :
    (authenticate accessToken).Makes allowed := by
  refine Operation.makes_verifyAccess.bind fun claims => ?_
  refine Operation.makes_clockNow.bind fun now => ?_
  refine (Operation.makes_transaction (made claims)).bind fun rows => ?_
  exact Operation.makes_check _

theorem refresh_makes
    {refreshToken csrfCookie csrfHeader : String}
    {origin : Option String}
    {draws : SessionDraws}
    (made : ∀ now,
      validateOrigin deps origin = .ok () →
      validateCsrfPair csrfCookie csrfHeader = .ok () →
        allowed (.refresh refreshToken csrfCookie now context draws)) :
    (refresh deps refreshToken csrfCookie csrfHeader origin context
      draws).Makes allowed := by
  refine Operation.makes_check_bind fun _ trusted => ?_
  refine Operation.makes_check_bind fun _ paired => ?_
  refine Operation.makes_clockNow.bind fun now => ?_
  refine (Operation.makes_transaction (made now trusted paired)).bind
    fun result => ?_
  exact Operation.makes_check result

theorem logout_makes
    {refreshToken csrfCookie csrfHeader origin : Option String}
    (made : ∀ token now,
      validateOrigin deps origin = .ok () →
      validateCsrfPair (csrfCookie.getD "") (csrfHeader.getD "") = .ok () →
        allowed (.logout token (csrfCookie.getD "") now context)) :
    (logout deps refreshToken csrfCookie csrfHeader origin context).Makes
      allowed := by
  refine Operation.makes_check_bind fun _ trusted => ?_
  cases refreshToken.filter fun token => token ≠ "" with
  | none => exact Operation.makes_done 0
  | some token =>
      refine Operation.makes_check_bind fun _ paired => ?_
      refine Operation.makes_clockNow.bind fun now => ?_
      exact Operation.makes_transaction (made _ now trusted paired)

theorem changePassword_makes
    {principal : Principal}
    {currentPassword newPassword : String}
    {salts : ChangePasswordSalts}
    {draws : SessionDraws}
    (made : ∀ now,
      allowed
        (.changePassword principal currentPassword newPassword now context
          salts draws)) :
    (changePassword deps principal currentPassword newPassword context salts
      draws).Makes allowed := by
  refine Operation.makes_check_bind fun _ _ => ?_
  refine Operation.makes_clockNow.bind fun now => ?_
  exact Operation.makes_transaction (made now)

theorem createUser_makes
    {email displayName : String}
    {roles : Option (List String)}
    {scopes : List String}
    {googleAutoLinkAllowed : Bool}
    {userId : Uuid}
    {draws : PasswordDraws}
    (made : ∀ email displayName passwordHash normalRoles normalScopes now,
      normalizeCapabilities deps.text
          (roles.getD [deps.settings.defaultUserRole]) deps.settings.maxRoles =
        .ok normalRoles →
      normalizeCapabilities deps.text scopes deps.settings.maxScopes =
        .ok normalScopes →
        allowed
          (.createUser userId email displayName passwordHash normalRoles
            normalScopes googleAutoLinkAllowed now context)) :
    (createUser deps email displayName roles scopes googleAutoLinkAllowed
      context userId draws).Makes allowed := by
  refine Operation.makes_clockNow.bind fun now => ?_
  refine Operation.makes_check_bind fun normalRoles isRoles => ?_
  refine Operation.makes_check_bind fun normalScopes isScopes => ?_
  refine Operation.makes_check_bind fun passwordHash _ => ?_
  refine Operation.makes_check_bind fun email _ => ?_
  generalize normalizeDisplayName displayName = named
  refine Operation.makes_check_bind fun displayName _ => ?_
  refine Operation.Makes.bind ?_ fun _ => Operation.makes_done _
  exact (Operation.makes_transaction
    (made _ _ _ _ _ now isRoles isScopes)).onConflict
    (Operation.makes_throw _)

theorem listUsers_makes
    {limit offset : Int}
    (made : ∀ limit offset, allowed (.listUsers limit offset)) :
    (listUsers limit offset).Makes allowed := by
  unfold listUsers
  split
  · exact Operation.makes_throw _
  · exact Operation.makes_transaction (made _ _)

theorem getUser_makes
    {userId : Uuid}
    (made : allowed (.getUser userId)) :
    (getUser userId).Makes allowed := by
  refine (Operation.makes_transaction made).bind fun user => ?_
  cases user with
  | none => exact Operation.makes_throw _
  | some user => exact Operation.makes_done user

theorem updateUser_makes
    {userId : Uuid}
    {update : UserUpdate}
    (made : ∀ now, allowed (.updateUser userId update now context)) :
    (updateUser userId update context).Makes allowed := by
  refine Operation.makes_clockNow.bind fun now => ?_
  exact Operation.makes_transaction (made now)

theorem resetPassword_makes
    {userId : Uuid}
    {draws : PasswordDraws}
    (made : ∀ passwordHash now,
      allowed (.resetPassword userId passwordHash now context)) :
    (resetPassword deps userId context draws).Makes allowed := by
  refine Operation.makes_clockNow.bind fun now => ?_
  refine Operation.makes_check_bind fun passwordHash _ => ?_
  refine (Operation.makes_transaction (made _ now)).bind fun user => ?_
  exact Operation.makes_done _

theorem revokeUserSessions_makes
    {userId : Uuid}
    (made : ∀ now, allowed (.revokeUserSessions userId now context)) :
    (revokeUserSessions userId context).Makes allowed := by
  refine Operation.makes_clockNow.bind fun now => ?_
  exact Operation.makes_transaction (made now)

end AuthService

/-! ## Passkeys -/

namespace PasskeyService

variable
  {env : Environment}
  {allowed : ServiceTx → Prop}
  {principal : Principal}
  {origin : Option String}
  {context : RequestContext}

theorem beginRegistration_makes
    {draws : CeremonyDraws}
    (made : ∀ expectedOrigin now,
      validatePasskeyOrigin env.toDependencies origin = .ok expectedOrigin →
        allowed (.beginRegistration principal expectedOrigin now draws)) :
    (beginRegistration env principal origin draws).Makes allowed := by
  refine Operation.makes_clockNow.bind fun now => ?_
  refine Operation.makes_check_bind fun _ _ => ?_
  refine Operation.makes_check_bind fun expectedOrigin trusted => ?_
  exact Operation.makes_transaction (made _ now trusted)

theorem consumeChallenge_makes
    {ceremonyId : Uuid}
    {purpose : PasskeyCeremonyPurpose}
    {now : Instant}
    {userId familyId : Option Uuid}
    (made :
      allowed
        (.consumePasskeyChallenge ceremonyId purpose now userId familyId)) :
    (consumeChallenge ceremonyId purpose now userId familyId).Makes
      allowed := by
  refine (Operation.makes_transaction made).bind fun challenge => ?_
  cases challenge with
  | none => exact Operation.makes_throw _
  | some challenge => exact Operation.makes_done challenge

theorem finishRegistration_makes
    {ceremonyId passkeyId : Uuid}
    {name : String}
    {credential : CredentialPayload}
    (consumed : ∀ expectedOrigin now,
      validatePasskeyOrigin env.toDependencies origin = .ok expectedOrigin →
        allowed
          (.consumePasskeyChallenge ceremonyId .registration now
            (some principal.userId) none))
    (refused : ∀ expectedOrigin now,
      validatePasskeyOrigin env.toDependencies origin = .ok expectedOrigin →
        allowed (.registrationFailure principal.userId now context))
    (registered : ∀ expectedOrigin name verified now,
      validatePasskeyOrigin env.toDependencies origin = .ok expectedOrigin →
        allowed
          (.finishRegistration principal passkeyId name verified now
            context)) :
    (finishRegistration env principal ceremonyId name credential origin context
      passkeyId).Makes allowed := by
  refine Operation.makes_clockNow.bind fun now => ?_
  refine Operation.makes_check_bind fun _ _ => ?_
  refine Operation.makes_check_bind fun expectedOrigin trusted => ?_
  generalize normalizePasskeyName name = named
  refine Operation.makes_check_bind fun name _ => ?_
  refine (consumeChallenge_makes (consumed _ now trusted)).bind
    fun challenge => ?_
  have refusal : ∀ failure : Failure,
      Operation.Makes allowed
        (Operation.transaction
            (.registrationFailure principal.userId now context) >>=
          fun _ => (throw failure : Operation PasskeyCredential)) :=
    fun failure =>
      (Operation.makes_transaction (refused _ now trusted)).bind
        fun _ => Operation.makes_throw failure
  split
  · exact refusal _
  · split
    · exact refusal _
    · refine Operation.Makes.bind ?_ fun _ => Operation.makes_done _
      exact (Operation.makes_transaction
        (registered _ _ _ now trusted)).onConflict (Operation.makes_throw _)

theorem beginAuthentication_makes
    {draws : CeremonyDraws}
    (made : ∀ expectedOrigin now,
      validatePasskeyOrigin env.toDependencies origin = .ok expectedOrigin →
        allowed (.beginAuthentication expectedOrigin now draws)) :
    (beginAuthentication env origin draws).Makes allowed := by
  refine Operation.makes_clockNow.bind fun now => ?_
  refine Operation.makes_check_bind fun expectedOrigin trusted => ?_
  exact Operation.makes_transaction (made _ now trusted)

theorem finishAuthentication_makes
    {ceremonyId : Uuid}
    {credential : CredentialPayload}
    {draws : SessionDraws}
    (consumed : ∀ expectedOrigin now,
      validatePasskeyOrigin env.toDependencies origin = .ok expectedOrigin →
        allowed
          (.consumePasskeyChallenge ceremonyId .authentication now none none))
    (refused : ∀ expectedOrigin now,
      validatePasskeyOrigin env.toDependencies origin = .ok expectedOrigin →
        allowed (.authenticationFailure none now context))
    (finished : ∀ expectedOrigin response now,
      validatePasskeyOrigin env.toDependencies origin = .ok expectedOrigin →
        allowed (.finishAuthentication response now context draws)) :
    (finishAuthentication env ceremonyId credential origin context
      draws).Makes allowed := by
  refine Operation.makes_clockNow.bind fun now => ?_
  refine Operation.makes_check_bind fun expectedOrigin trusted => ?_
  refine (consumeChallenge_makes (consumed _ now trusted)).bind
    fun challenge => ?_
  split
  · exact (Operation.makes_transaction (refused _ now trusted)).bind
      fun _ => Operation.makes_throw _
  · exact (Operation.makes_transaction (finished _ _ now trusted)).bind
      fun result => Operation.makes_check result

theorem listPasskeys_makes
    (made : allowed (.listPasskeys principal)) :
    (listPasskeys principal).Makes allowed :=
  Operation.makes_transaction made

theorem revokePasskey_makes
    {passkeyId : Uuid}
    (made : ∀ expectedOrigin now,
      validatePasskeyOrigin env.toDependencies origin = .ok expectedOrigin →
        allowed (.revokePasskey principal passkeyId now context)) :
    (revokePasskey env principal passkeyId origin context).Makes allowed := by
  refine Operation.makes_clockNow.bind fun now => ?_
  refine Operation.makes_check_bind fun _ _ => ?_
  refine Operation.makes_check_bind fun expectedOrigin trusted => ?_
  exact Operation.makes_transaction (made _ now trusted)

end PasskeyService

/-! ## Google -/

namespace GoogleLoginService

variable
  {deps : Dependencies}
  {allowed : ServiceTx → Prop}
  {principal : Principal}
  {origin : Option String}
  {context : RequestContext}

theorem beginChallenge_makes
    {purpose : GoogleChallengePurpose}
    {userId : Option Uuid}
    {draws : NonceDraws}
    (made : ∀ expectedOrigin clientId now,
      validateGoogleOrigin deps origin = .ok expectedOrigin →
        allowed
          (.beginGoogleChallenge purpose expectedOrigin clientId userId now
            draws)) :
    (beginChallenge deps purpose origin userId draws).Makes allowed := by
  refine Operation.makes_clockNow.bind fun now => ?_
  refine Operation.makes_check_bind fun expectedOrigin trusted => ?_
  refine Operation.makes_check_bind fun clientId _ => ?_
  exact (Operation.makes_transaction (made _ _ now trusted)).bind
    fun _ => Operation.makes_done _

theorem consumeChallenge_makes
    {challengeId : Uuid}
    {purpose : GoogleChallengePurpose}
    {userId : Option Uuid}
    (consumed : ∀ now,
      allowed (.consumeGoogleChallenge challengeId purpose now userId)) :
    (consumeChallenge deps challengeId purpose origin userId).Makes
      allowed := by
  refine Operation.makes_clockNow.bind fun now => ?_
  refine Operation.makes_check_bind fun expectedOrigin _ => ?_
  refine (Operation.makes_transaction (consumed now)).bind fun challenge => ?_
  cases challenge with
  | none => exact Operation.makes_throw _
  | some challenge =>
      change Operation.Makes allowed (if _ then _ else _)
      split
      · exact Operation.makes_throw _
      · refine Operation.makes_check_bind fun clientId _ => ?_
        split
        · exact Operation.makes_throw _
        · exact Operation.makes_done challenge

/-- What a continuation makes once the origin was checked. -/
theorem consumeChallenge_bind_makes
    {challengeId : Uuid}
    {purpose : GoogleChallengePurpose}
    {userId : Option Uuid}
    {later : GoogleChallenge → Operation α}
    (consumed : ∀ expectedOrigin now,
      validateGoogleOrigin deps origin = .ok expectedOrigin →
        allowed (.consumeGoogleChallenge challengeId purpose now userId))
    (continues : ∀ expectedOrigin challenge,
      validateGoogleOrigin deps origin = .ok expectedOrigin →
        (later challenge).Makes allowed) :
    Operation.Makes allowed
      (consumeChallenge deps challengeId purpose origin userId >>= later) := by
  cases trusted : validateGoogleOrigin deps origin with
  | error failure =>
      unfold consumeChallenge
      rw [trusted]
      exact ⟨trivial, fun now => trivial⟩
  | ok expectedOrigin =>
      exact (consumeChallenge_makes fun now =>
        consumed expectedOrigin now trusted).bind
          fun challenge => continues expectedOrigin challenge trusted

theorem verificationFailure_makes
    {linking providerUnavailable : Bool}
    (made : ∀ now,
      allowed (.verificationFailure linking providerUnavailable now context)) :
    (verificationFailure linking providerUnavailable context).Makes
      allowed := by
  refine Operation.makes_clockNow.bind fun now => ?_
  exact Operation.makes_transaction (made now)

theorem verify_makes
    {credential : String}
    {challenge : GoogleChallenge}
    {linking : Bool}
    (made : ∀ providerUnavailable now,
      allowed (.verificationFailure linking providerUnavailable now context)) :
    (verify deps credential challenge context linking).Makes allowed := by
  have refusal : ∀ (failure : Failure) providerUnavailable,
      Operation.Makes allowed
        (verificationFailure linking providerUnavailable context >>=
          fun _ => (throw failure : Operation GoogleClaims)) :=
    fun failure providerUnavailable =>
      (verificationFailure_makes (made providerUnavailable)).bind
        fun _ => Operation.makes_throw failure
  unfold verify
  split
  · exact refusal _ _
  · refine (Operation.makes_decodeGoogle _ _).bind fun decoding => ?_
    split
    · exact Operation.makes_done _
    · exact refusal _ _
    · exact Operation.makes_throw _

theorem answered_makes
    {result : Option SessionBundle} :
    (answered result).Makes allowed := by
  cases result with
  | none => exact Operation.makes_throw _
  | some bundle => exact Operation.makes_done bundle

theorem finishLogin_makes
    {challengeId : Uuid}
    {credential : String}
    {draws : GoogleLoginDraws}
    {retryDraws : SessionDraws}
    (consumed : ∀ expectedOrigin now,
      validateGoogleOrigin deps origin = .ok expectedOrigin →
        allowed (.consumeGoogleChallenge challengeId .login now none))
    (refused : ∀ expectedOrigin providerUnavailable now,
      validateGoogleOrigin deps origin = .ok expectedOrigin →
        allowed (.verificationFailure false providerUnavailable now context))
    (logged : ∀ expectedOrigin claims now,
      validateGoogleOrigin deps origin = .ok expectedOrigin →
        allowed (.googleLogin claims now context draws))
    (retried : ∀ expectedOrigin claims now,
      validateGoogleOrigin deps origin = .ok expectedOrigin →
        allowed (.loginLinkedAfterConflict claims now context retryDraws)) :
    (finishLogin deps challengeId credential origin context draws
      retryDraws).Makes allowed := by
  refine Operation.makes_clockNow.bind fun now => ?_
  refine consumeChallenge_bind_makes consumed
    fun expectedOrigin challenge trusted => ?_
  refine (verify_makes fun providerUnavailable now =>
    refused _ providerUnavailable now trusted).bind fun claims => ?_
  refine Operation.Makes.onConflict ?_ ?_
  · exact (Operation.makes_transaction (logged _ _ now trusted)).bind
      fun _ => answered_makes
  · exact (Operation.makes_transaction (retried _ _ now trusted)).bind
      fun _ => answered_makes

theorem beginLink_makes
    {draws : NonceDraws}
    (made : ∀ expectedOrigin clientId now,
      validateGoogleOrigin deps origin = .ok expectedOrigin →
        allowed
          (.beginGoogleChallenge .link expectedOrigin clientId
            (some principal.userId) now draws)) :
    (beginLink deps principal origin draws).Makes allowed := by
  refine Operation.makes_clockNow.bind fun now => ?_
  refine Operation.makes_check_bind fun _ _ => ?_
  exact beginChallenge_makes made

theorem finishLink_makes
    {challengeId identityId : Uuid}
    {credential : String}
    (consumed : ∀ expectedOrigin now,
      validateGoogleOrigin deps origin = .ok expectedOrigin →
        allowed
          (.consumeGoogleChallenge challengeId .link now
            (some principal.userId)))
    (refused : ∀ expectedOrigin providerUnavailable now,
      validateGoogleOrigin deps origin = .ok expectedOrigin →
        allowed (.verificationFailure true providerUnavailable now context))
    (linked : ∀ expectedOrigin claims now,
      validateGoogleOrigin deps origin = .ok expectedOrigin →
        allowed (.linkIdentity principal claims now context identityId))
    (retried : ∀ expectedOrigin claims now,
      validateGoogleOrigin deps origin = .ok expectedOrigin →
        allowed (.linkedAfterConflict principal claims now context)) :
    (finishLink deps principal challengeId credential origin context
      identityId).Makes allowed := by
  refine Operation.makes_clockNow.bind fun checkedAt => ?_
  refine Operation.makes_check_bind fun _ _ => ?_
  refine Operation.makes_clockNow.bind fun now => ?_
  refine consumeChallenge_bind_makes consumed
    fun expectedOrigin challenge trusted => ?_
  refine (verify_makes fun providerUnavailable now =>
    refused _ providerUnavailable now trusted).bind fun claims => ?_
  refine Operation.Makes.onConflict ?_ ?_
  · exact (Operation.makes_transaction (linked _ _ now trusted)).bind
      fun result => Operation.makes_check result
  · exact (Operation.makes_transaction (retried _ _ now trusted)).bind
      fun result => Operation.makes_check result

theorem recoverPasswordAccess_makes
    {userId : Uuid}
    {draws : PasswordDraws}
    (made : ∀ passwordHash now,
      allowed (.recoverPasswordAccess userId passwordHash now context)) :
    (recoverPasswordAccess deps userId context draws).Makes allowed := by
  refine Operation.makes_clockNow.bind fun now => ?_
  refine Operation.makes_check_bind fun passwordHash _ => ?_
  exact (Operation.makes_transaction (made _ now)).bind
    fun _ => Operation.makes_done _

end GoogleLoginService

/-! ## Email links -/

namespace EmailLinkService

variable
  {deps : Dependencies}
  {allowed : ServiceTx → Prop}
  {context : RequestContext}

theorem requestLogin_makes
    {email drawnNonce : String}
    {browserNonce : Option String}
    {draws : LinkDraws}
    (made : ∀ normalizedEmail browserNonce now,
      allowed (.requestLogin normalizedEmail browserNonce now context draws)) :
    (requestLogin deps email browserNonce context drawnNonce draws).Makes
      allowed := by
  refine Operation.makes_clockNow.bind fun now => ?_
  exact (Operation.makes_transaction (made _ _ now)).bind
    fun _ => Operation.makes_done _

theorem requestPasswordReset_makes
    {email : String}
    {draws : LinkDraws}
    (made : ∀ normalizedEmail now,
      allowed (.requestPasswordReset normalizedEmail now context draws)) :
    (requestPasswordReset deps email context draws).Makes allowed := by
  refine Operation.makes_clockNow.bind fun now => ?_
  exact Operation.makes_transaction (made _ now)

theorem invite_makes
    {userId : Uuid}
    {draws : LinkDraws}
    (made : ∀ now, allowed (.invite userId now context draws)) :
    (invite userId context draws).Makes allowed := by
  refine Operation.makes_clockNow.bind fun now => ?_
  exact Operation.makes_transaction (made now)

theorem markDelivered_makes
    {linkId : Uuid}
    (made : ∀ now, allowed (.markDelivered linkId now)) :
    (markDelivered linkId).Makes allowed := by
  refine Operation.makes_clockNow.bind fun now => ?_
  exact Operation.makes_transaction (made now)

theorem markDeliveryFailed_makes
    {linkId : Uuid}
    (made : ∀ now, allowed (.markDeliveryFailed linkId now)) :
    (markDeliveryFailed linkId).Makes allowed := by
  refine Operation.makes_clockNow.bind fun now => ?_
  exact Operation.makes_transaction (made now)

theorem markNoticeDeliveryFailed_makes
    {userId : Uuid}
    (made : ∀ now, allowed (.markNoticeDeliveryFailed userId now)) :
    (markNoticeDeliveryFailed userId).Makes allowed := by
  refine Operation.makes_clockNow.bind fun now => ?_
  exact Operation.makes_transaction (made now)

theorem login_makes
    {token browserNonce : String}
    {draws : SessionDraws}
    (made : ∀ now,
      allowed (.emailLinkLogin token browserNonce now context draws)) :
    (login token browserNonce context draws).Makes allowed := by
  refine Operation.makes_clockNow.bind fun now => ?_
  refine (Operation.makes_transaction (made now)).bind fun result => ?_
  cases result with
  | none => exact Operation.makes_throw _
  | some bundle => exact Operation.makes_done bundle

theorem activeLinkExists_makes
    {token : String}
    {purpose : EmailLinkPurpose}
    {now : Instant}
    (made : allowed (.activeLinkCandidate token purpose)) :
    (activeLinkExists deps token purpose now).Makes allowed := by
  unfold activeLinkExists
  split
  · exact (Operation.makes_transaction made).bind
      fun _ => Operation.makes_done _
  · exact Operation.makes_done _

theorem resetPassword_makes
    {token newPassword : String}
    {salt : Nat}
    (looked : allowed (.activeLinkCandidate token .passwordReset))
    (made : ∀ passwordHash now,
      allowed (.emailLinkResetPassword token passwordHash now context)) :
    (resetPassword deps token newPassword context salt).Makes allowed := by
  refine Operation.makes_check_bind fun _ _ => ?_
  refine Operation.makes_clockNow.bind fun now => ?_
  refine (activeLinkExists_makes looked).bind fun found => ?_
  split
  · exact Operation.makes_throw _
  · refine Operation.makes_check_bind fun passwordHash _ => ?_
    refine (Operation.makes_transaction (made _ now)).bind fun notice => ?_
    cases notice with
    | none => exact Operation.makes_throw _
    | some notice => exact Operation.makes_done notice

theorem activateInvitation_makes
    {token : String}
    {draws : PasswordDraws}
    (looked : allowed (.activeLinkCandidate token .invitation))
    (made : ∀ passwordHash now,
      allowed (.activateInvitation token passwordHash now context)) :
    (activateInvitation deps token context draws).Makes allowed := by
  refine Operation.makes_clockNow.bind fun now => ?_
  refine (activeLinkExists_makes looked).bind fun found => ?_
  split
  · exact Operation.makes_throw _
  · refine Operation.makes_check_bind fun passwordHash _ => ?_
    refine (Operation.makes_transaction (made _ now)).bind fun activated => ?_
    cases activated with
    | none => exact Operation.makes_throw _
    | some user => exact Operation.makes_done user

end EmailLinkService

/-! ## Account activation -/

namespace AccountActivationService

variable
  {deps : Dependencies}
  {allowed : ServiceTx → Prop}
  {context : RequestContext}
  {email displayName : String}
  {userId : Uuid}
  {passwordDraws : PasswordDraws}
  {draws : LinkDraws}

/-- A pending account is made before any transaction. -/
theorem pendingUser_makes
    {scopes : List String}
    {later : PendingUser → Operation α}
    (made : ∀ user : PendingUser,
      normalizeCapabilities deps.text scopes deps.settings.maxScopes =
        .ok user.scopes →
        (later user).Makes allowed) :
    Operation.Makes allowed
      (pendingUser deps email displayName scopes passwordDraws >>= later) := by
  unfold pendingUser
  simp only [bind_assoc]
  refine Operation.makes_check_bind fun normalScopes isScopes => ?_
  refine Operation.makes_check_bind fun passwordHash _ => ?_
  refine Operation.makes_check_bind fun email _ => ?_
  generalize normalizeDisplayName displayName = named
  refine Operation.makes_check_bind fun displayName _ => ?_
  exact made
    { scopes := normalScopes
      passwordHash := passwordHash
      email := email
      displayName := displayName }
    isScopes

theorem provision_makes
    {roles : Option (List String)}
    (made : ∀ email displayName passwordHash normalRoles normalScopes now,
      normalizeCapabilities deps.text
          (roles.getD [deps.settings.defaultUserRole]) deps.settings.maxRoles =
        .ok normalRoles →
      deps.settings.adminRole ∉ normalRoles →
      normalizeCapabilities deps.text [] deps.settings.maxScopes =
        .ok normalScopes →
        allowed
          (.provision userId email displayName passwordHash normalRoles
            normalScopes now context draws)) :
    (provision deps email displayName roles context userId passwordDraws
      draws).Makes allowed := by
  refine Operation.makes_check_bind fun _ _ => ?_
  refine Operation.makes_clockNow.bind fun now => ?_
  refine Operation.makes_check_bind fun normalRoles isRoles => ?_
  split
  · exact Operation.makes_throw _
  · rename_i ordinary
    refine pendingUser_makes fun user isScopes => ?_
    exact (Operation.makes_transaction
      (made _ _ _ _ _ now isRoles ordinary isScopes)).onConflict
      (Operation.makes_throw _)

theorem ensureInitialAdmin_makes
    (made : ∀ normalizedEmail email displayName passwordHash normalScopes now,
      normalizeCapabilities deps.text ["auth:admin"] deps.settings.maxScopes =
        .ok normalScopes →
        allowed
          (.ensureInitialAdmin normalizedEmail userId email displayName
            passwordHash normalScopes now context draws)) :
    (ensureInitialAdmin deps email displayName context userId passwordDraws
      draws).Makes allowed := by
  refine Operation.makes_check_bind fun _ _ => ?_
  refine Operation.makes_clockNow.bind fun now => ?_
  refine Operation.makes_check_bind fun normalizedEmail _ => ?_
  refine pendingUser_makes fun user isScopes => ?_
  exact (Operation.makes_transaction
    (made _ _ _ _ _ now isScopes)).onConflict (Operation.makes_throw _)

end AccountActivationService

/-! ## Delivery -/

namespace EmailLinkMailer

variable
  {allowed : ServiceTx → Prop}

theorem deliver_makes
    {pending : PendingEmailLink}
    (delivered : ∀ now, allowed (.markDelivered pending.linkId now))
    (failed : ∀ now, allowed (.markDeliveryFailed pending.linkId now)) :
    (deliver pending).Makes allowed := by
  refine (Operation.makes_send pending.email).bind fun accepted => ?_
  cases accepted with
  | false =>
      exact (EmailLinkService.markDeliveryFailed_makes failed).bind
        fun _ => Operation.makes_throw _
  | true => exact EmailLinkService.markDelivered_makes delivered

theorem sendNotice_makes
    {email : AuthEmail}
    (failed : ∀ userId now,
      allowed (.markNoticeDeliveryFailed userId now)) :
    (sendNotice email).Makes allowed := by
  refine (Operation.makes_send email).bind fun accepted => ?_
  cases accepted with
  | true => exact Operation.makes_done ()
  | false =>
      simp only [Bool.false_eq_true, ↓reduceIte]
      cases email.userId with
      | none => exact Operation.makes_throw _
      | some userId =>
          exact (EmailLinkService.markNoticeDeliveryFailed_makes
            (failed userId)).bind fun _ => Operation.makes_throw _

end EmailLinkMailer

end EpokAuth
