import EpokAuth.OperationMakes
import EpokAuth.Routes

namespace EpokAuth

open Transactional

/-!
# What a route needs before it makes a transaction

Every transaction needs some authority, a trusted origin, or a browser that is
signed out; some are never made for a request at all.  A route establishes what
its transactions need from what it has performed itself: the token it verified,
the clock it read, and the rows it was answered by an `authenticate`
transaction of its own.
-/

/-- The authority that a transaction needs. -/
inductive Authority where
  | anyone
  /-- The account itself, signed in with a password that need not change. -/
  | account (userId : Uuid)
  | principal (principal : Principal)
  /-- The principal, also while its password has to be changed. -/
  | self (principal : Principal)
  | administrator
  /-- Nobody who makes a request: only a background task. -/
  | background
  /-- Nobody but the application around the routes. -/
  | application
  deriving Repr, DecidableEq

/-- A transaction for one account, or for nobody in particular. -/
def Authority.of (userId : Option Uuid) : Authority :=
  match userId with
  | none => .anyone
  | some userId => .account userId

namespace ServiceTx

/-- The authority that each transaction needs. -/
def authority : ServiceTx → Authority
  | .login .. => .anyone
  | .reauthenticatePassword principal .. => .principal principal
  | .authenticate _ => .anyone
  | .refresh .. => .anyone
  | .logout .. => .anyone
  | .changePassword principal .. => .self principal
  | .createAdmin .. => .application
  | .createUser .. => .administrator
  | .listUsers .. => .administrator
  | .getUser _ => .administrator
  | .updateUser .. => .administrator
  | .resetPassword .. => .administrator
  | .revokeUserSessions .. => .administrator
  | .requestLogin .. => .anyone
  | .requestPasswordReset .. => .anyone
  | .invite .. => .administrator
  | .markDelivered .. => .background
  | .markDeliveryFailed .. => .anyone
  | .markNoticeDeliveryFailed .. => .anyone
  | .activeLinkCandidate .. => .anyone
  | .emailLinkLogin .. => .anyone
  | .emailLinkResetPassword .. => .anyone
  | .activateInvitation .. => .anyone
  | .provision .. => .application
  | .ensureInitialAdmin .. => .application
  | .replaceActivation .. => .application
  | .activate .. => .application
  | .beginRegistration principal .. => .principal principal
  | .finishRegistration principal .. => .principal principal
  | .beginAuthentication .. => .anyone
  | .beginReauthentication principal .. => .principal principal
  | .finishAuthentication .. => .anyone
  | .finishReauthentication principal .. => .principal principal
  | .listPasskeys principal => .principal principal
  | .revokePasskey principal .. => .principal principal
  | .consumePasskeyChallenge _ _ _ userId _ => .of userId
  | .registrationFailure userId .. => .account userId
  | .authenticationFailure .. => .anyone
  | .reauthenticationFailure principal .. => .principal principal
  | .beginGoogleChallenge _ _ _ userId .. => .of userId
  | .consumeGoogleChallenge _ _ _ userId => .of userId
  | .googleLogin .. => .anyone
  | .loginLinkedAfterConflict .. => .anyone
  | .linkIdentity principal .. => .principal principal
  | .linkedAfterConflict principal .. => .principal principal
  | .recoverPasswordAccess .. => .administrator
  | .verificationFailure .. => .anyone

/-- Transactions that a bearer token alone protects, from any origin. -/
def anyOrigin : ServiceTx → Bool
  | .authenticate _ => true
  | .createUser .. => true
  | .listUsers .. => true
  | .getUser _ => true
  | .updateUser .. => true
  | .resetPassword .. => true
  | .revokeUserSessions .. => true
  | .recoverPasswordAccess .. => true
  | .listPasskeys _ => true
  | _ => false

/-- Transactions that a posted link token is presented in. -/
def presentsLink : ServiceTx → Bool
  | .activeLinkCandidate .. => true
  | .emailLinkLogin .. => true
  | .emailLinkResetPassword .. => true
  | .activateInvitation .. => true
  | _ => false

/-- Transactions that a cookie authorises, sent by the browser itself. -/
def usesCookie : ServiceTx → Bool
  | .refresh .. => true
  | .logout .. => true
  | _ => false

/-- Transactions that report what became of an email. -/
def reportsDelivery : ServiceTx → Bool
  | .markDelivered .. => true
  | .markDeliveryFailed .. => true
  | .markNoticeDeliveryFailed .. => true
  | _ => false

end ServiceTx

section Permissions

variable (deployment : Deployment)

/--
A request has shown, by what it performed itself, that its bearer token speaks
for a principal: the token was verified, and an `authenticate` transaction
found an account that may authenticate and a session valid for the claims.
-/
structure Authenticates
    (request : HttpRequest)
    (trail : Trail Ask.Answer)
    (principal : Principal)
    (credentials : HTTPAuthorizationCredentials)
    (claims : AccessClaims)
    (now : Instant)
    (user : UserAccount)
    (session : RefreshSession) :
    Prop where
  presented : request.credentials = some credentials
  bearer : deployment.text.casefold credentials.scheme = "bearer"
  verified :
    (⟨.accessToken credentials.credentials, .ok claims⟩ : Performed Ask.Answer) ∈
      trail
  read : (⟨.clock, now⟩ : Performed Ask.Answer) ∈ trail
  found :
    (⟨.transaction (.authenticate claims), .ok (some user, some session)⟩ :
        Performed Ask.Answer) ∈
      trail
  available : user.canAuthenticate now = true
  valid : session.isValidFor claims.subject now = true
  speaks : principal = principalFromSession user session

/-- A request speaks for a principal. -/
def SpeaksFor
    (request : HttpRequest)
    (trail : Trail Ask.Answer)
    (principal : Principal) :
    Prop :=
  ∃ credentials claims now user session,
    Authenticates deployment request trail principal credentials claims now
      user session

/-- A principal holds the administrative role. -/
def HoldsAdminRole (principal : Principal) : Prop :=
  ∃ role,
    normalizeCapability deployment.text deployment.settings.adminRole =
        .ok role ∧
      role ∈ principal.roles

/-- A request has shown some authority. -/
def Shows
    (request : HttpRequest)
    (trail : Trail Ask.Answer) :
    Authority → Prop
  | .anyone => True
  | .account userId =>
      ∃ principal,
        SpeaksFor deployment request trail principal ∧
          principal.mustChangePassword = false ∧ principal.userId = userId
  | .principal principal =>
      SpeaksFor deployment request trail principal ∧
        principal.mustChangePassword = false
  | .self principal => SpeaksFor deployment request trail principal
  | .administrator =>
      ∃ principal,
        SpeaksFor deployment request trail principal ∧
          principal.mustChangePassword = false ∧
          HoldsAdminRole deployment principal
  | .background => False
  | .application => False

/-- What a request may make after what it has performed. -/
structure MayMake
    (request : HttpRequest)
    (trail : Trail Ask.Answer)
    (tx : ServiceTx) :
    Prop where
  shows : Shows deployment request trail tx.authority
  origin : tx.anyOrigin = false →
    validateOrigin deployment.toDependencies request.origin = .ok ()
  signedOut : tx.presentsLink = true → requireSignedOut request = .ok ()
  csrf : tx.usesCookie = true →
    validateCsrfPair (request.csrfCookie.getD "") (request.csrfHeader.getD "") =
      .ok ()

/-- What the requests of a server may perform. -/
def Deployment.permits
    (request : Request)
    (trail : Trail Ask.Answer) :
    Ask → Prop
  | .transaction tx =>
      match request with
      | .http request _ => MayMake deployment request trail tx
      | .task _ => tx.reportsDelivery = true
  | _ => True

end Permissions

/-! ## What was shown stays shown -/

section Monotone

variable
  {deployment : Deployment}
  {request : HttpRequest}
  {trail longer : Trail Ask.Answer}

theorem SpeaksFor.extend
    {principal : Principal}
    (speaks : SpeaksFor deployment request trail principal)
    (extends_ : trail <+: longer) :
    SpeaksFor deployment request longer principal := by
  obtain ⟨credentials, claims, now, user, session, shown⟩ := speaks
  exact ⟨credentials, claims, now, user, session,
    { shown with
      verified := extends_.subset shown.verified
      read := extends_.subset shown.read
      found := extends_.subset shown.found }⟩

theorem Shows.extend
    {authority : Authority}
    (shows : Shows deployment request trail authority)
    (extends_ : trail <+: longer) :
    Shows deployment request longer authority := by
  cases authority with
  | anyone => trivial
  | account userId =>
      obtain ⟨principal, speaks, rest⟩ := shows
      exact ⟨principal, speaks.extend extends_, rest⟩
  | principal principal => exact ⟨shows.1.extend extends_, shows.2⟩
  | self principal => exact SpeaksFor.extend shows extends_
  | administrator =>
      obtain ⟨principal, speaks, rest⟩ := shows
      exact ⟨principal, speaks.extend extends_, rest⟩
  | background => exact shows
  | application => exact shows

end Monotone

/-! ## Operations under the permissions of a server -/

namespace Operation

/-- A server keeps to its permissions while it makes allowed transactions. -/
theorem wp_of_makes
    {deployment : Deployment}
    {request : Request}
    {allowed : ServiceTx → Prop}
    {operation : Operation α}
    {trail : Trail Ask.Answer}
    (makes : operation.Makes allowed)
    (permitted : ∀ tx longer, allowed tx → trail <+: longer →
      deployment.permits request longer (.transaction tx)) :
    Prog.wp (permitting (deployment.permits request)) operation
      (fun _ _ => True) (fun _ _ => True) trail := by
  induction operation generalizing trail with
  | done value => trivial
  | fail failure => trivial
  | call ask next inductionHypothesis =>
      refine ⟨?_, fun answer => inductionHypothesis answer (makes.2 answer) ?_⟩
      · cases ask with
        | transaction tx =>
            exact permitted tx trail makes.1 (List.prefix_refl trail)
        | _ => trivial
      · intro tx longer isAllowed extends_
        exact permitted tx longer isAllowed
          ((List.prefix_append trail _).trans extends_)

end Operation

end EpokAuth
