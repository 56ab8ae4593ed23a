import EpokAuth.RouteConduct

namespace EpokAuth

open Transactional

/-!
# What a ceremony is finished with

A transaction that finishes a ceremony acts on what an adapter or a decoder has
verified.  It is made only after the same request has consumed the challenge of
the ceremony that it names, for the origin that the request comes from, and
what it acts on was verified against that very challenge.
-/

/-- A challenge of one of the two kinds. -/
inductive Ceremony where
  | passkey (ceremonyId : Uuid)
  | google (challengeId : Uuid)
  deriving Repr, DecidableEq

/-- Transactions that act on what was verified against a challenge. -/
def ServiceTx.finishes : ServiceTx → Bool
  | .finishRegistration .. => true
  | .finishAuthentication .. => true
  | .finishReauthentication .. => true
  | .googleLogin .. => true
  | .loginLinkedAfterConflict .. => true
  | .linkIdentity .. => true
  | .linkedAfterConflict .. => true
  | _ => false

section Grounds

variable
  (env : Environment)
  (head : HttpRequest)
  (made : Performed Ask.Answer → Prop)

/-- A request has consumed a passkey challenge for the origin it comes from. -/
structure AnswersPasskey
    (purpose : PasskeyCeremonyPurpose)
    (userId : Option Uuid)
    (ceremonyId : Uuid)
    (challenge : PasskeyChallenge) :
    Prop where
  consumed : ∃ now,
    made
      ⟨.transaction
          (.consumePasskeyChallenge ceremonyId purpose now userId none),
        .ok (some challenge)⟩
  origin :
    validatePasskeyOrigin env.toDependencies head.origin = .ok challenge.origin

/--
A request has consumed a Google challenge for the origin it comes from, and
its credential was decoded and accepted against that challenge.
-/
structure AnswersGoogle
    (purpose : GoogleChallengePurpose)
    (userId : Option Uuid)
    (challengeId : Uuid)
    (challenge : GoogleChallenge)
    (credential : String)
    (claims : GoogleClaims) :
    Prop where
  consumed : ∃ now,
    made
      ⟨.transaction (.consumeGoogleChallenge challengeId purpose now userId),
        .ok (some challenge)⟩
  origin :
    validateGoogleOrigin env.toDependencies head.origin = .ok challenge.origin
  client : googleClient env.toDependencies = .ok challenge.clientId
  verified : ∃ decoding,
    made ⟨.decodeGoogle credential challenge.clientId, decoding⟩ ∧
      validateVerified env.text env.settings
          (verifyGoogle env.settings.googleMaxCredentialChars credential
            challenge.nonce decoding) =
        .accepted claims

/-- A transaction finishes the ceremony that an endpoint names. -/
inductive RestsOn :
    Endpoint → ServiceTx → Ceremony → Prop where
  | registration
      {principal : Principal}
      {ceremonyId passkeyId : Uuid}
      {name normalized : String}
      {credential : CredentialPayload}
      {challenge : PasskeyChallenge}
      {verified : VerifiedPasskeyRegistration}
      {now : Instant}
      (answers :
        AnswersPasskey env head made .registration (some principal.userId)
          ceremonyId challenge)
      (verifies :
        PasskeyService.verifiedRegistration env credential challenge.challenge
            challenge.origin =
          some verified) :
      RestsOn (.finishRegistration ceremonyId name credential passkeyId)
        (.finishRegistration principal passkeyId normalized verified now
          head.context)
        (.passkey ceremonyId)
  | authentication
      {ceremonyId : Uuid}
      {credential : CredentialPayload}
      {challenge : PasskeyChallenge}
      {now : Instant}
      {draws : SessionDraws}
      (answers :
        AnswersPasskey env head made .authentication none ceremonyId challenge) :
      RestsOn (.finishAuthentication ceremonyId credential draws)
        (.finishAuthentication
          { credential := credential
            challenge := challenge.challenge
            origin := challenge.origin }
          now head.context draws)
        (.passkey ceremonyId)
  | login
      {challengeId : Uuid}
      {challenge : GoogleChallenge}
      {credential : String}
      {claims : GoogleClaims}
      {now : Instant}
      {draws : GoogleLoginDraws}
      {retryDraws : SessionDraws}
      (answers :
        AnswersGoogle env head made .login none challengeId challenge credential
          claims) :
      RestsOn (.finishGoogleLogin challengeId credential draws retryDraws)
        (.googleLogin claims now head.context draws) (.google challengeId)
  | retriedLogin
      {challengeId : Uuid}
      {challenge : GoogleChallenge}
      {credential : String}
      {claims : GoogleClaims}
      {now : Instant}
      {draws : GoogleLoginDraws}
      {retryDraws : SessionDraws}
      (answers :
        AnswersGoogle env head made .login none challengeId challenge credential
          claims) :
      RestsOn (.finishGoogleLogin challengeId credential draws retryDraws)
        (.loginLinkedAfterConflict claims now head.context retryDraws)
        (.google challengeId)
  | link
      {principal : Principal}
      {challengeId identityId : Uuid}
      {challenge : GoogleChallenge}
      {credential : String}
      {claims : GoogleClaims}
      {now : Instant}
      (answers :
        AnswersGoogle env head made .link (some principal.userId) challengeId
          challenge credential claims) :
      RestsOn (.finishGoogleLink challengeId credential identityId)
        (.linkIdentity principal claims now head.context identityId)
        (.google challengeId)
  | retriedLink
      {principal : Principal}
      {challengeId identityId : Uuid}
      {challenge : GoogleChallenge}
      {credential : String}
      {claims : GoogleClaims}
      {now : Instant}
      (answers :
        AnswersGoogle env head made .link (some principal.userId) challengeId
          challenge credential claims) :
      RestsOn (.finishGoogleLink challengeId credential identityId)
        (.linkedAfterConflict principal claims now head.context)
        (.google challengeId)

end Grounds

section Monotone

variable
  {env : Environment}
  {head : HttpRequest}
  {made more : Performed Ask.Answer → Prop}

theorem AnswersPasskey.mono
    {purpose : PasskeyCeremonyPurpose}
    {userId : Option Uuid}
    {ceremonyId : Uuid}
    {challenge : PasskeyChallenge}
    (answers :
      AnswersPasskey env head made purpose userId ceremonyId challenge)
    (weakens : ∀ entry, made entry → more entry) :
    AnswersPasskey env head more purpose userId ceremonyId challenge where
  consumed := answers.consumed.imp fun _ => weakens _
  origin := answers.origin

theorem AnswersGoogle.mono
    {purpose : GoogleChallengePurpose}
    {userId : Option Uuid}
    {challengeId : Uuid}
    {challenge : GoogleChallenge}
    {credential : String}
    {claims : GoogleClaims}
    (answers :
      AnswersGoogle env head made purpose userId challengeId challenge
        credential claims)
    (weakens : ∀ entry, made entry → more entry) :
    AnswersGoogle env head more purpose userId challengeId challenge credential
      claims where
  consumed := answers.consumed.imp fun _ => weakens _
  origin := answers.origin
  client := answers.client
  verified := answers.verified.imp fun _ both => ⟨weakens _ both.1, both.2⟩

/-- What a transaction rests on was made, however that is known. -/
theorem RestsOn.mono
    {endpoint : Endpoint}
    {tx : ServiceTx}
    {ceremony : Ceremony}
    (rests : RestsOn env head made endpoint tx ceremony)
    (weakens : ∀ entry, made entry → more entry) :
    RestsOn env head more endpoint tx ceremony := by
  cases rests with
  | registration answers verifies =>
      exact .registration (answers.mono weakens) verifies
  | authentication answers => exact .authentication (answers.mono weakens)
  | login answers => exact .login (answers.mono weakens)
  | retriedLogin answers => exact .retriedLogin (answers.mono weakens)
  | link answers => exact .link (answers.mono weakens)
  | retriedLink answers => exact .retriedLink (answers.mono weakens)

end Monotone

/-- What may be performed after a trail: finishing what it has consumed. -/
def Deployment.ceremonies (deployment : Deployment) :
    Request → Trail Ask.Answer → Ask → Prop
  | .http head endpoint, trail, .transaction tx =>
      tx.finishes = true →
        ∃ ceremony,
          RestsOn deployment.toEnvironment head (· ∈ trail) endpoint tx ceremony
  | .task _, _, .transaction tx => tx.finishes = false
  | _, _, _ => True

/-! ## The routes that finish a ceremony -/

section Routes

variable
  {deployment : Deployment}
  {request : Request}
  {head : HttpRequest}
  {endpoint : Endpoint}
  {trail : Trail Ask.Answer}

/-- What finishes no ceremony may always be performed. -/
theorem ceremonies_of_within
    (longer : Trail Ask.Answer)
    (ask : Ask)
    (within : ask.Within fun tx => tx.finishes = false) :
    deployment.ceremonies request longer ask := by
  cases ask with
  | transaction tx =>
      have spares : tx.finishes = false := within
      cases request with
      | http head endpoint =>
          exact fun finishes => absurd (spares.symm.trans finishes) (by decide)
      | task task => exact spares
  | _ => cases request <;> trivial

/-- An operation that finishes no ceremony. -/
theorem keeps_ceremonies
    {operation : Operation α}
    (makes : operation.Makes fun tx => tx.finishes = false) :
    operation.Keeps (deployment.ceremonies request) trail :=
  keeps_of_makes makes ceremonies_of_within

theorem principalFromCredentials_makes
    {allowed : ServiceTx → Prop}
    {credentials : Option HTTPAuthorizationCredentials}
    (looked : ∀ claims, allowed (.authenticate claims)) :
    (principalFromCredentials deployment credentials).Makes allowed := by
  unfold principalFromCredentials
  split
  · exact Operation.makes_throw _
  · split
    · exact Operation.makes_throw _
    · exact AuthService.authenticate_makes looked

theorem authenticated_makes
    {allowed : ServiceTx → Prop}
    (looked : ∀ claims, allowed (.authenticate claims)) :
    (authenticated deployment head).Makes allowed := by
  refine (principalFromCredentials_makes looked).bind fun principal => ?_
  change Operation.Makes allowed (if _ then _ else _)
  split
  · exact Operation.makes_throw _
  · exact Operation.makes_done _

theorem requireAdmin_makes
    {allowed : ServiceTx → Prop}
    (looked : ∀ claims, allowed (.authenticate claims)) :
    (requireAdmin deployment head).Makes allowed :=
  (authenticated_makes looked).bind fun _ =>
    (Operation.makes_check _).bind fun _ => Operation.makes_done _

/-- What finishes no ceremony may always be performed next. -/
theorem keeps_plain_bind
    {tx : ServiceTx}
    {next : tx.Answer → Operation α}
    (spares : tx.finishes = false)
    (later : ∀ answer,
      (next answer).Keeps (deployment.ceremonies request)
        (trail ++ [⟨.transaction tx, .ok answer⟩])) :
    (Operation.transaction tx >>= next).Keeps (deployment.ceremonies request)
      trail :=
  keeps_transaction_bind (ceremonies_of_within _ (.transaction tx) spares) later

/-! ### Passkeys -/

theorem keeps_consumePasskey
    {ceremonyId : Uuid}
    {purpose : PasskeyCeremonyPurpose}
    {now : Instant}
    {userId : Option Uuid}
    {next : PasskeyChallenge → Operation α}
    (later : ∀ challenge longer,
      (⟨.transaction
            (.consumePasskeyChallenge ceremonyId purpose now userId none),
          .ok (some challenge)⟩ : Performed Ask.Answer) ∈ longer →
        (next challenge).Keeps (deployment.ceremonies request) longer) :
    (PasskeyService.consumeChallenge ceremonyId purpose now userId none >>=
      next).Keeps (deployment.ceremonies request) trail := by
  unfold PasskeyService.consumeChallenge
  rw [bind_assoc]
  refine keeps_plain_bind rfl fun challenge => ?_
  cases challenge with
  | none => trivial
  | some challenge => exact later challenge _ (by simp)

/-- A ceremony that was refused is recorded, and nothing else is done. -/
theorem keeps_refusal
    {tx : ServiceTx}
    {failure : Failure}
    (spares : tx.finishes = false) :
    Operation.Keeps
      (Operation.transaction tx >>= fun _ => (throw failure : Operation α))
      (deployment.ceremonies request) trail :=
  keeps_plain_bind spares fun _ => trivial

theorem finishRegistration_ceremonies
    {ceremonyId passkeyId : Uuid}
    {name : String}
    {credential : CredentialPayload} :
    (Route.finishRegistration deployment head ceremonyId name credential
      passkeyId).Keeps
      (deployment.ceremonies
        (.http head (.finishRegistration ceremonyId name credential passkeyId)))
      trail := by
  refine keeps_bind_of_makes (authenticated_makes fun _ => rfl)
    ceremonies_of_within fun principal longer _ => keeps_map ?_
  unfold PasskeyService.finishRegistration
  refine keeps_clockNow_bind trivial fun now => ?_
  refine keeps_check_bind fun _ _ => ?_
  refine keeps_check_bind fun expected trusted => ?_
  generalize normalizePasskeyName name = parsed
  refine keeps_check_bind fun normalized _ => ?_
  refine keeps_consumePasskey fun challenge consumed member => ?_
  split
  · exact keeps_refusal rfl
  · rename_i same
    rw [← not_not.mp same] at trusted ⊢
    split
    · exact keeps_refusal rfl
    · rename_i verified verifies
      refine keeps_map (keeps_onConflict ?_ fun _ _ => trivial)
      rw [← bind_pure (Operation.transaction _)]
      refine keeps_transaction_bind (fun _ => ⟨.passkey ceremonyId, ?_⟩)
        fun _ => trivial
      exact .registration ⟨⟨now, member⟩, trusted⟩ verifies

theorem finishAuthentication_ceremonies
    {ceremonyId : Uuid}
    {credential : CredentialPayload}
    {draws : SessionDraws} :
    (Route.finishAuthentication deployment head ceremonyId credential
      draws).Keeps
      (deployment.ceremonies
        (.http head (.finishAuthentication ceremonyId credential draws)))
      trail := by
  refine keeps_map ?_
  unfold PasskeyService.finishAuthentication
  refine keeps_clockNow_bind trivial fun now => ?_
  refine keeps_check_bind fun expected trusted => ?_
  refine keeps_consumePasskey fun challenge consumed member => ?_
  split
  · exact keeps_refusal rfl
  · rename_i same
    rw [← not_not.mp same] at trusted ⊢
    refine keeps_transaction_bind (fun _ => ⟨.passkey ceremonyId, ?_⟩)
      fun result => ?_
    · exact .authentication ⟨⟨now, member⟩, trusted⟩
    · exact keeps_ceremonies (Operation.makes_check result)

/-! ### Google -/

theorem keeps_consumeGoogle
    {challengeId : Uuid}
    {purpose : GoogleChallengePurpose}
    {userId : Option Uuid}
    {next : GoogleChallenge → Operation α}
    (later : ∀ challenge longer,
      (∃ now,
        (⟨.transaction
              (.consumeGoogleChallenge challengeId purpose now userId),
            .ok (some challenge)⟩ : Performed Ask.Answer) ∈ longer) →
        validateGoogleOrigin deployment.toDependencies head.origin =
          .ok challenge.origin →
        googleClient deployment.toDependencies = .ok challenge.clientId →
          (next challenge).Keeps (deployment.ceremonies request) longer) :
    (GoogleLoginService.consumeChallenge deployment.toDependencies challengeId
        purpose head.origin userId >>=
      next).Keeps (deployment.ceremonies request) trail := by
  unfold GoogleLoginService.consumeChallenge
  simp only [bind_assoc]
  refine keeps_clockNow_bind (ceremonies_of_within _ .clock trivial)
    fun now => ?_
  refine keeps_check_bind fun expected trusted => ?_
  refine keeps_plain_bind rfl fun challenge => ?_
  cases challenge with
  | none => trivial
  | some challenge =>
      change Operation.Keeps ((if _ then _ else _) >>= next) _ _
      split
      · trivial
      · rename_i same
        rw [← not_not.mp same] at trusted
        rw [bind_assoc]
        refine keeps_check_bind fun clientId configured => ?_
        split
        · trivial
        · rename_i named
          rw [← not_not.mp named] at configured
          exact later challenge _ ⟨now, by simp⟩ trusted configured

theorem keeps_decodeGoogle_bind
    {credential audience : String}
    {next : GoogleDecoding → Operation α}
    (later : ∀ decoding,
      (next decoding).Keeps (deployment.ceremonies request)
        (trail ++ [⟨.decodeGoogle credential audience, decoding⟩])) :
    (Operation.decodeGoogle credential audience >>= next).Keeps
      (deployment.ceremonies request) trail :=
  ⟨ceremonies_of_within _ (.decodeGoogle _ _) trivial, later⟩

theorem keeps_verify
    {credential : String}
    {challenge : GoogleChallenge}
    {context : RequestContext}
    {linking : Bool}
    {next : GoogleClaims → Operation α}
    (later : ∀ claims longer,
      trail <+: longer →
      (∃ decoding,
        (⟨.decodeGoogle credential challenge.clientId, decoding⟩ :
            Performed Ask.Answer) ∈ longer ∧
          validateVerified deployment.text deployment.settings
              (verifyGoogle deployment.settings.googleMaxCredentialChars
                credential challenge.nonce decoding) =
            .accepted claims) →
        (next claims).Keeps (deployment.ceremonies request) longer) :
    (GoogleLoginService.verify deployment.toDependencies credential challenge
        context linking >>=
      next).Keeps (deployment.ceremonies request) trail := by
  have refusal : ∀ providerUnavailable failure (longer : Trail Ask.Answer),
      Operation.Keeps
        ((GoogleLoginService.verificationFailure linking providerUnavailable
            context >>= fun _ => (throw failure : Operation GoogleClaims)) >>=
          next)
        (deployment.ceremonies request) longer := by
    intro providerUnavailable failure longer
    rw [bind_assoc]
    exact keeps_bind_of_makes
      (GoogleLoginService.verificationFailure_makes fun _ => rfl)
      ceremonies_of_within fun _ _ _ => trivial
  unfold GoogleLoginService.verify
  split
  · exact refusal _ _ _
  · rw [bind_assoc]
    refine keeps_decodeGoogle_bind fun decoding => ?_
    split
    · rename_i claims accepted
      exact later claims _ (List.prefix_append _ _)
        ⟨decoding, by simp, accepted⟩
    · exact refusal _ _ _
    · trivial

/-- What a Google ceremony continues with was verified for its challenge. -/
theorem keeps_answersGoogle
    {challengeId : Uuid}
    {purpose : GoogleChallengePurpose}
    {userId : Option Uuid}
    {credential : String}
    {context : RequestContext}
    {linking : Bool}
    {next : GoogleClaims → Operation α}
    (later : ∀ challenge claims longer,
      AnswersGoogle deployment.toEnvironment head (· ∈ longer) purpose userId
          challengeId challenge credential claims →
        (next claims).Keeps (deployment.ceremonies request) longer) :
    (GoogleLoginService.consumeChallenge deployment.toDependencies challengeId
        purpose head.origin userId >>= fun challenge =>
      GoogleLoginService.verify deployment.toDependencies credential challenge
          context linking >>=
        next).Keeps (deployment.ceremonies request) trail := by
  refine keeps_consumeGoogle fun challenge consumed hasConsumed trusted named =>
    keeps_verify fun claims longer grows verified => ?_
  refine later challenge claims longer ?_
  exact
    { consumed := hasConsumed.imp fun _ member => grows.subset member
      origin := trusted
      client := named
      verified := verified }

theorem finishGoogleLogin_ceremonies
    {challengeId : Uuid}
    {credential : String}
    {draws : GoogleLoginDraws}
    {retryDraws : SessionDraws} :
    (Route.finishGoogleLogin deployment head challengeId credential draws
      retryDraws).Keeps
      (deployment.ceremonies
        (.http head
          (.finishGoogleLogin challengeId credential draws retryDraws)))
      trail := by
  refine keeps_map ?_
  unfold GoogleLoginService.finishLogin
  refine keeps_clockNow_bind trivial fun now => ?_
  refine keeps_answersGoogle fun challenge claims longer answers => ?_
  refine keeps_onConflict ?_ fun later grows => ?_
  · refine keeps_transaction_bind (fun _ => ⟨.google challengeId, ?_⟩)
      fun result => keeps_ceremonies GoogleLoginService.answered_makes
    exact .login answers
  · refine keeps_transaction_bind (fun _ => ⟨.google challengeId, ?_⟩)
      fun result => keeps_ceremonies GoogleLoginService.answered_makes
    exact .retriedLogin (answers.mono fun _ member => grows.subset member)

theorem finishGoogleLink_ceremonies
    {challengeId identityId : Uuid}
    {credential : String} :
    (Route.finishGoogleLink deployment head challengeId credential
      identityId).Keeps
      (deployment.ceremonies
        (.http head (.finishGoogleLink challengeId credential identityId)))
      trail := by
  refine keeps_bind_of_makes (authenticated_makes fun _ => rfl)
    ceremonies_of_within fun principal _ _ => keeps_map ?_
  unfold GoogleLoginService.finishLink
  refine keeps_clockNow_bind trivial fun checkedAt => ?_
  refine keeps_check_bind fun _ _ => ?_
  refine keeps_clockNow_bind trivial fun now => ?_
  refine keeps_answersGoogle fun challenge claims longer answers => ?_
  refine keeps_onConflict ?_ fun later grows => ?_
  · refine keeps_transaction_bind (fun _ => ⟨.google challengeId, ?_⟩)
      fun result => keeps_ceremonies (Operation.makes_check result)
    exact .link answers
  · refine keeps_transaction_bind (fun _ => ⟨.google challengeId, ?_⟩)
      fun result => keeps_ceremonies (Operation.makes_check result)
    exact .retriedLink (answers.mono fun _ member => grows.subset member)

/-- Every route finishes only the ceremonies whose challenges it has consumed. -/
theorem route_ceremonies (endpoint : Endpoint) :
    (route deployment head endpoint).Keeps
      (deployment.ceremonies (.http head endpoint)) trail := by
  cases endpoint with
  | login =>
      exact keeps_ceremonies (
        (Operation.makes_check _).bind fun _ =>
          (AuthService.login_makes fun _ _ => rfl).bind fun _ =>
          Operation.makes_done _)
  | refresh =>
      exact keeps_ceremonies (
        (AuthService.refresh_makes fun _ _ _ => rfl).bind fun _ =>
          Operation.makes_done _)
  | logout =>
      exact keeps_ceremonies (
        (AuthService.logout_makes fun _ _ _ _ => rfl).bind fun _ =>
          Operation.makes_done _)
  | me =>
      exact keeps_ceremonies (
        (principalFromCredentials_makes fun _ => rfl).bind fun _ =>
          Operation.makes_done _)
  | changePassword =>
      exact keeps_ceremonies (
        (principalFromCredentials_makes fun _ => rfl).bind fun _ =>
          (Operation.makes_check _).bind fun _ =>
          (AuthService.changePassword_makes fun _ => rfl).bind fun _ =>
          Operation.makes_done _)
  | listUsers =>
      exact keeps_ceremonies (
        (requireAdmin_makes fun _ => rfl).bind fun _ =>
          (AuthService.listUsers_makes fun _ _ => rfl).bind fun _ =>
          Operation.makes_done _)
  | createUser =>
      exact keeps_ceremonies (
        (requireAdmin_makes fun _ => rfl).bind fun _ =>
          (AuthService.createUser_makes fun _ _ _ _ _ _ _ _ => rfl).bind fun _ =>
          Operation.makes_done _)
  | getUser =>
      exact keeps_ceremonies (
        (requireAdmin_makes fun _ => rfl).bind fun _ =>
          (AuthService.getUser_makes (by rfl)).bind fun _ =>
          Operation.makes_done _)
  | updateUser =>
      exact keeps_ceremonies (
        (requireAdmin_makes fun _ => rfl).bind fun _ =>
          (AuthService.updateUser_makes fun _ => rfl).bind fun _ =>
          Operation.makes_done _)
  | resetPassword =>
      exact keeps_ceremonies (
        (requireAdmin_makes fun _ => rfl).bind fun _ =>
          (AuthService.resetPassword_makes fun _ _ => rfl).bind fun _ =>
          Operation.makes_done _)
  | revokeSessions =>
      exact keeps_ceremonies (
        (requireAdmin_makes fun _ => rfl).bind fun _ =>
          (AuthService.revokeUserSessions_makes fun _ => rfl).bind fun _ =>
          Operation.makes_done _)
  | recoverGoogleAccount =>
      exact keeps_ceremonies (
        (requireAdmin_makes fun _ => rfl).bind fun _ =>
          (GoogleLoginService.recoverPasswordAccess_makes fun _ _ => rfl).bind fun _ =>
          Operation.makes_done _)
  | inviteUser =>
      exact keeps_ceremonies (
        (requireAdmin_makes fun _ => rfl).bind fun _ =>
          (Operation.makes_check _).bind fun _ =>
          (EmailLinkService.invite_makes fun _ => rfl).bind fun _ =>
          (dispatchLink_makes fun _ _ => rfl).bind fun _ =>
          Operation.makes_done _)
  | beginRegistration =>
      exact keeps_ceremonies (
        (authenticated_makes fun _ => rfl).bind fun _ =>
          (PasskeyService.beginRegistration_makes fun _ _ _ => rfl).bind fun _ =>
          Operation.makes_done _)
  | finishRegistration => exact finishRegistration_ceremonies
  | beginAuthentication =>
      exact keeps_ceremonies (
        (PasskeyService.beginAuthentication_makes fun _ _ _ => rfl).bind fun _ =>
          Operation.makes_done _)
  | finishAuthentication => exact finishAuthentication_ceremonies
  | listPasskeys =>
      exact keeps_ceremonies (
        (authenticated_makes fun _ => rfl).bind fun _ =>
          (PasskeyService.listPasskeys_makes (by rfl)).bind fun _ =>
          Operation.makes_done _)
  | revokePasskey =>
      exact keeps_ceremonies (
        (authenticated_makes fun _ => rfl).bind fun _ =>
          (PasskeyService.revokePasskey_makes fun _ _ _ => rfl).bind fun _ =>
          Operation.makes_done _)
  | beginGoogleLogin =>
      exact keeps_ceremonies (
        (GoogleLoginService.beginChallenge_makes fun _ _ _ _ => rfl).bind fun _ =>
          Operation.makes_done _)
  | finishGoogleLogin => exact finishGoogleLogin_ceremonies
  | beginGoogleLink =>
      exact keeps_ceremonies (
        (authenticated_makes fun _ => rfl).bind fun _ =>
          (GoogleLoginService.beginLink_makes fun _ _ _ _ => rfl).bind fun _ =>
          Operation.makes_done _)
  | finishGoogleLink => exact finishGoogleLink_ceremonies
  | requestLogin =>
      refine keeps_ceremonies ((Operation.makes_check _).bind fun _ =>
        (EmailLinkService.requestLogin_makes fun _ _ _ => rfl).bind fun issue =>
          (dispatchLink_makes fun _ _ => rfl).bind fun _ => ?_)
      cases issue.browserNonce with
      | none => exact Operation.makes_throw _
      | some browserNonce => exact Operation.makes_done _
  | consumeLogin =>
      exact keeps_ceremonies (
        (Operation.makes_check _).bind fun _ =>
          (Operation.makes_check _).bind fun _ =>
          (EmailLinkService.login_makes fun _ => rfl).bind fun _ =>
          Operation.makes_done _)
  | requestPasswordReset =>
      exact keeps_ceremonies (
        (Operation.makes_check _).bind fun _ =>
          (EmailLinkService.requestPasswordReset_makes fun _ _ => rfl).bind fun _ =>
          (dispatchLink_makes fun _ _ => rfl).bind fun _ =>
          Operation.makes_done _)
  | consumePasswordReset =>
      exact keeps_ceremonies (
        (Operation.makes_check _).bind fun _ =>
          (Operation.makes_check _).bind fun _ =>
          (EmailLinkService.resetPassword_makes (by rfl) fun _ _ => rfl).bind fun _ =>
          (dispatchNotice_makes fun _ _ => rfl).bind fun _ =>
          Operation.makes_done _)
  | activateInvitation =>
      exact keeps_ceremonies (
        (Operation.makes_check _).bind fun _ =>
          (Operation.makes_check _).bind fun _ =>
          (EmailLinkService.activateInvitation_makes (by rfl) fun _ _ => rfl).bind fun _ =>
          Operation.makes_done _)

end Routes

/-- Whatever a server is asked, it finishes what it has consumed. -/
theorem Deployment.server_ceremonies (deployment : Deployment) :
    deployment.server.Conducts deployment.ceremonies fun _ _ _ => True := by
  intro request
  cases request with
  | http head endpoint => exact route_ceremonies endpoint
  | task task =>
      refine keeps_ceremonies ((runTask_makes task).mono ?_)
      exact fun tx reports => by cases tx <;> first | rfl | cases reports

end EpokAuth
