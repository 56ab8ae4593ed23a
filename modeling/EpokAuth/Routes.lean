import EpokAuth.Operations
import EpokAuth.ServiceRun

namespace EpokAuth

open Transactional

/-!
# The routes and the server that answers them

Every route is an operation: its dependencies run first, then the checks of its
body, then the operation of a service, and what is left is put into a response.
The server keeps one store and one clock; besides serving requests it runs the
background tasks that its responses leave, and the application around it may
make transactions of its own.
-/

/-! ## The transport -/

/-- The settings that only the cookies of a response read. -/
structure CookieSettings where
  refreshName : String
  csrfName : String
  emailLinkName : String
  csrfHttpOnly : Bool
  secure : Bool
  sameSite : String
  domain : Option String
  path : String
  deriving Repr, DecidableEq

/-- A cookie that a response sets, or deletes when it has no value. -/
structure SetCookie where
  name : String
  value : Option String
  httpOnly : Bool
  secure : Bool
  sameSite : String
  domain : Option String
  path : String
  deriving Repr, DecidableEq

/-- What is left to be done after a response was sent. -/
inductive BackgroundTask where
  | deliver (pending : PendingEmailLink)
  | sendNotice (notice : AuthEmail)
  deriving Repr, DecidableEq

/-- What a response tells of a principal. -/
structure PrincipalResponse where
  id : Uuid
  email : String
  displayName : String
  roles : List String
  scopes : List String
  mustChangePassword : Bool
  authenticatedAt : Instant
  deriving Repr, DecidableEq

/-- What a response tells of a principal. -/
def PrincipalResponse.fromPrincipal (principal : Principal) :
    PrincipalResponse where
  id := principal.userId
  email := principal.email
  displayName := principal.displayName
  roles := principal.roles
  scopes := principal.scopes
  mustChangePassword := principal.mustChangePassword
  authenticatedAt := principal.authenticatedAt

/-- What a response tells of an account: neither its hash nor its version. -/
structure UserResponse where
  id : Uuid
  email : String
  displayName : String
  status : UserStatus
  roles : List String
  scopes : List String
  mustChangePassword : Bool
  passwordLoginEnabled : Bool
  emailLinkLoginEnabled : Bool
  googleAutoLinkAllowed : Bool
  failedLoginAttempts : Nat
  lockedUntil : Option Instant
  passwordChangedAt : Option Instant
  createdAt : Option Instant
  updatedAt : Option Instant
  deriving Repr, DecidableEq

/-- What a response tells of an account. -/
def UserResponse.fromUser (user : UserAccount) : UserResponse where
  id := user.id
  email := user.email
  displayName := user.displayName
  status := user.status
  roles := user.roles
  scopes := user.scopes
  mustChangePassword := user.mustChangePassword
  passwordLoginEnabled := user.passwordLoginEnabled
  emailLinkLoginEnabled := user.emailLinkLoginEnabled
  googleAutoLinkAllowed := user.googleAutoLinkAllowed
  failedLoginAttempts := user.failedLoginAttempts
  lockedUntil := user.lockedUntil
  passwordChangedAt := user.passwordChangedAt
  createdAt := user.createdAt
  updatedAt := user.updatedAt

/-- What a response tells of an account with a temporary password. -/
structure ProvisionedUserResponse where
  user : UserResponse
  temporaryPassword : String
  deriving Repr, DecidableEq

/-- What a response tells of an account and its temporary password. -/
def ProvisionedUserResponse.fromResult (result : ProvisionedUser) :
    ProvisionedUserResponse where
  user := UserResponse.fromUser result.user
  temporaryPassword := result.temporaryPassword

/-- What a response tells of a session; its refresh token is a cookie only. -/
structure SessionResponse where
  accessToken : String
  expiresIn : Nat
  csrfToken : String
  refreshIdleExpiresAt : Instant
  refreshAbsoluteExpiresAt : Instant
  user : PrincipalResponse
  deriving Repr, DecidableEq

/-- What a response tells of a session. -/
def SessionResponse.fromBundle (bundle : SessionBundle) : SessionResponse where
  accessToken := bundle.accessToken
  expiresIn := bundle.accessExpiresIn
  csrfToken := bundle.csrfToken
  refreshIdleExpiresAt := bundle.refreshIdleExpiresAt
  refreshAbsoluteExpiresAt := bundle.refreshAbsoluteExpiresAt
  user := PrincipalResponse.fromPrincipal bundle.principal

/-- What a response tells of a passkey: neither its key nor its counter. -/
structure PasskeyCredentialResponse where
  id : Uuid
  name : String
  transports : List String
  deviceType : String
  backedUp : Bool
  createdAt : Instant
  lastUsedAt : Option Instant
  deriving Repr, DecidableEq

/-- What a response tells of a passkey. -/
def PasskeyCredentialResponse.fromCredential (credential : PasskeyCredential) :
    PasskeyCredentialResponse where
  id := credential.id
  name := credential.name
  transports := credential.transports
  deviceType := credential.deviceType
  backedUp := credential.backedUp
  createdAt := credential.createdAt
  lastUsedAt := credential.lastUsedAt

/-- What a response tells of a linked identity. -/
structure GoogleIdentityResponse where
  email : Option String
  linkedAt : Instant
  deriving Repr, DecidableEq

/-- What a response tells of an identity. -/
def GoogleIdentityResponse.fromIdentity (identity : ExternalIdentity) :
    GoogleIdentityResponse where
  email := identity.email
  linkedAt := identity.createdAt

/-- What the body of a response is made of. -/
inductive ResponseBody where
  | empty
  | session (session : SessionResponse)
  | principal (principal : PrincipalResponse)
  | users (items : List UserResponse) (limit offset : Int)
  | user (user : UserResponse)
  | provisioned (result : ProvisionedUserResponse)
  | revoked (sessions : Nat)
  | accepted
  | passkeyOptions (options : PasskeyOptions)
  | passkey (credential : PasskeyCredentialResponse)
  | passkeys (items : List PasskeyCredentialResponse)
  | googleOptions (options : GoogleOptions)
  | googleIdentity (identity : GoogleIdentityResponse)
  deriving Repr, DecidableEq

/-- A response, with the tasks that are left behind it. -/
structure HttpResponse where
  status : Nat := 200
  body : ResponseBody := .empty
  cookies : List SetCookie := []
  cacheDisabled : Bool := false
  background : List BackgroundTask := []
  deriving Repr, DecidableEq

/-- The services with what the routers are configured with. -/
structure Deployment extends Environment where
  cookies : CookieSettings
  /-- The signer of access tokens, with the clock it reads. -/
  verifyAccess : Instant → String → Except Failure AccessClaims
  /-- A dispatcher is configured; otherwise emails are sent in background. -/
  dispatches : Bool
  /-- The transactions that the application makes beside the routes. -/
  applicationMakes : ServiceTx → Prop

namespace AuthHttpTransport

variable (settings : CookieSettings) (response : HttpResponse)

/-- A cookie with the attributes that all of them share. -/
def cookie
    (name : String)
    (value : Option String)
    (httpOnly : Bool)
    (sameSite : String) :
    SetCookie where
  name := name
  value := value
  httpOnly := httpOnly
  secure := settings.secure
  sameSite := sameSite
  domain := settings.domain
  path := settings.path

/-- Hand the browser both tokens of a session. -/
def setSessionCookies (bundle : SessionBundle) : HttpResponse :=
  { response with
    cookies := response.cookies ++
      [ cookie settings settings.refreshName (some bundle.refreshToken) true
          settings.sameSite,
        cookie settings settings.csrfName (some bundle.csrfToken)
          settings.csrfHttpOnly settings.sameSite ] }

/-- Take both tokens from the browser. -/
def deleteSessionCookies : HttpResponse :=
  { response with
    cookies := response.cookies ++
      [ cookie settings settings.refreshName none true settings.sameSite,
        cookie settings settings.csrfName none settings.csrfHttpOnly
          settings.sameSite ] }

/-- Hand the browser the nonce that its links are bound to. -/
def setEmailLinkCookie (nonce : String) : HttpResponse :=
  { response with
    cookies := response.cookies ++
      [cookie settings settings.emailLinkName (some nonce) true "lax"] }

/-- Take the nonce from the browser. -/
def deleteEmailLinkCookie : HttpResponse :=
  { response with
    cookies := response.cookies ++
      [cookie settings settings.emailLinkName none true "lax"] }

/-- Have nobody keep a response. -/
def disableCache : HttpResponse :=
  { response with cacheDisabled := true }

end AuthHttpTransport

/-! ## Requests -/

/-- What the bearer scheme reads from a request. -/
structure HTTPAuthorizationCredentials where
  scheme : String
  credentials : String
  deriving Repr, DecidableEq

/-- What the routes read of a request beside its path and its payload. -/
structure HttpRequest where
  context : RequestContext := {}
  origin : Option String := none
  credentials : Option HTTPAuthorizationCredentials := none
  authorization : Option String := none
  refreshToken : Option String := none
  csrfCookie : Option String := none
  csrfHeader : Option String := none
  browserNonce : Option String := none
  deriving Repr, DecidableEq

/-- The routes, each with its payload and with what is drawn to serve it. -/
inductive Endpoint where
  -- the authentication router
  | login (email password : String) (salt : Nat) (draws : SessionDraws)
  | refresh (draws : SessionDraws)
  | logout
  | me
  | changePassword
      (currentPassword newPassword : String)
      (salts : ChangePasswordSalts)
      (draws : SessionDraws)
  -- the administration routers
  | listUsers (limit offset : Int)
  | createUser
      (email displayName : String)
      (roles : Option (List String))
      (scopes : List String)
      (googleAutoLinkAllowed : Bool)
      (userId : Uuid)
      (draws : PasswordDraws)
  | getUser (userId : Uuid)
  | updateUser (userId : Uuid) (update : UserUpdate)
  | resetPassword (userId : Uuid) (draws : PasswordDraws)
  | revokeSessions (userId : Uuid)
  | recoverGoogleAccount (userId : Uuid) (draws : PasswordDraws)
  | inviteUser (userId : Uuid) (draws : LinkDraws)
  -- the passkey router
  | beginRegistration (draws : CeremonyDraws)
  | finishRegistration
      (ceremonyId : Uuid)
      (name : String)
      (credential : CredentialPayload)
      (passkeyId : Uuid)
  | beginAuthentication (draws : CeremonyDraws)
  | finishAuthentication
      (ceremonyId : Uuid)
      (credential : CredentialPayload)
      (draws : SessionDraws)
  | listPasskeys
  | revokePasskey (passkeyId : Uuid)
  -- the Google router
  | beginGoogleLogin (draws : NonceDraws)
  | finishGoogleLogin
      (challengeId : Uuid)
      (credential : String)
      (draws : GoogleLoginDraws)
      (retryDraws : SessionDraws)
  | beginGoogleLink (draws : NonceDraws)
  | finishGoogleLink
      (challengeId : Uuid)
      (credential : String)
      (identityId : Uuid)
  -- the email-link router
  | requestLogin (email drawnNonce : String) (draws : LinkDraws)
  | consumeLogin (token : String) (draws : SessionDraws)
  | requestPasswordReset (email : String) (draws : LinkDraws)
  | consumePasswordReset (token newPassword : String) (salt : Nat)
  | activateInvitation (token : String) (draws : PasswordDraws)
  deriving Repr, DecidableEq

/-- A request that arrives, or a task that a response left. -/
inductive Request where
  | http (request : HttpRequest) (endpoint : Endpoint)
  | task (task : BackgroundTask)
  deriving Repr, DecidableEq

/-! ## Dependencies -/

/-- A principal with a temporary password is refused until it is changed. -/
def passwordChangeRequired : Failure :=
  .auth
    { code := .passwordChangeRequired
      detail := "Password change is required before using the application."
      statusCode := some 403 }

/-- A browser that is signed in is refused to consume a link. -/
def emailLinkSessionExists : Failure :=
  .auth
    { code := .emailLinkSessionExists
      detail :=
        "Sign out before consuming an email authentication link." }

section Dependencies

variable (deployment : Deployment)

/-- Who bears the token of an `Authorization` header. -/
def principalFromCredentials
    (credentials : Option HTTPAuthorizationCredentials) :
    Operation Principal :=
  match credentials with
  | none => throw (.auth invalidSession)
  | some credentials =>
      if deployment.text.casefold credentials.scheme ≠ "bearer" then
        throw (.auth invalidSession)
      else
        AuthService.authenticate credentials.credentials

/-- The principal of a request, also with a temporary password. -/
def currentUser (request : HttpRequest) : Operation Principal :=
  principalFromCredentials deployment request.credentials

/-- The principal of a request, with a password that need not change. -/
def authenticated (request : HttpRequest) : Operation Principal := do
  let principal ← principalFromCredentials deployment request.credentials
  if principal.mustChangePassword then
    throw passwordChangeRequired
  else
    return principal

/-- The dependency of the administration routers. -/
def requireAdmin (request : HttpRequest) : Operation Principal := do
  let principal ← authenticated deployment request
  Operation.check
    (requireRoles deployment.toDependencies principal
      [deployment.settings.adminRole])
  return principal

/-- A browser that is signed in consumes no link. -/
def requireSignedOut (request : HttpRequest) : Except Failure Unit :=
  if request.refreshToken.any (· ≠ "") || request.authorization.any (· ≠ "")
  then
    .error emailLinkSessionExists
  else
    .ok ()

/-! ## Delivery -/

/-- Hand a link to the dispatcher, or leave a task that sends it. -/
def dispatchLink (pending : Option PendingEmailLink) :
    Operation (List BackgroundTask) :=
  match pending with
  | none => return []
  | some pending =>
      if deployment.dispatches then do
        let accepted ← Operation.dispatch (.link pending)
        if accepted then
          return []
        else do
          EmailLinkService.markDeliveryFailed pending.linkId
          return []
      else
        return [.deliver pending]

/-- Hand a notice to the dispatcher, or leave a task that sends it. -/
def dispatchNotice (notice : AuthEmail) : Operation (List BackgroundTask) :=
  if deployment.dispatches then do
    let accepted ← Operation.dispatch (.notice notice)
    if accepted then
      return []
    else
      match notice.userId with
      | none => return []
      | some userId => do
          EmailLinkService.markNoticeDeliveryFailed userId
          return []
  else
    return [.sendNotice notice]

/-! ## Responses -/

/-- A response with a session: its cookies, its body, and no caching. -/
def sessionResponse (bundle : SessionBundle) : HttpResponse :=
  AuthHttpTransport.disableCache
    (AuthHttpTransport.setSessionCookies deployment.cookies
      { body := .session (SessionResponse.fromBundle bundle) }
      bundle)

/-- A response that nobody keeps. -/
def uncached (status : Nat) (body : ResponseBody) : HttpResponse :=
  AuthHttpTransport.disableCache { status := status, body := body }

/-- A link request is accepted, whatever became of it. -/
def linkAccepted (background : List BackgroundTask) : HttpResponse :=
  { uncached 202 .accepted with background := background }

end Dependencies

/-! ## Routes -/

section Routes

variable (deployment : Deployment) (request : HttpRequest)

/-- Every router checks the origin in the same way. -/
def checkOrigin : Operation Unit :=
  Operation.check (validateOrigin deployment.toDependencies request.origin)

namespace Route

/-! ### The authentication router -/

/-- `POST /login` -/
def login (email password : String) (salt : Nat) (draws : SessionDraws) :
    Operation HttpResponse := do
  checkOrigin deployment request
  let bundle ←
    AuthService.login deployment.toDependencies email password request.context
      salt draws
  return sessionResponse deployment bundle

/-- `POST /refresh` -/
def refresh (draws : SessionDraws) : Operation HttpResponse := do
  let bundle ←
    AuthService.refresh deployment.toDependencies
      (request.refreshToken.getD "") (request.csrfCookie.getD "")
      (request.csrfHeader.getD "") request.origin request.context draws
  return sessionResponse deployment bundle

/-- `POST /logout` -/
def logout : Operation HttpResponse := do
  let _ ←
    AuthService.logout deployment.toDependencies request.refreshToken
      request.csrfCookie request.csrfHeader request.origin request.context
  return AuthHttpTransport.disableCache
    (AuthHttpTransport.deleteSessionCookies deployment.cookies
      { status := 204 })

/-- `GET /me` -/
def me : Operation HttpResponse := do
  let principal ← currentUser deployment request
  return { body := .principal (PrincipalResponse.fromPrincipal principal) }

/-- `POST /change-password` -/
def changePassword
    (currentPassword newPassword : String)
    (salts : ChangePasswordSalts)
    (draws : SessionDraws) :
    Operation HttpResponse := do
  let principal ← currentUser deployment request
  checkOrigin deployment request
  let bundle ←
    AuthService.changePassword deployment.toDependencies principal
      currentPassword newPassword request.context salts draws
  return sessionResponse deployment bundle

/-! ### The administration routers -/

/-- `GET` on the administration prefix: a page of the accounts. -/
def listUsers (limit offset : Int) : Operation HttpResponse := do
  let _ ← requireAdmin deployment request
  let users ← AuthService.listUsers limit offset
  return {
    body := .users (users.map UserResponse.fromUser) limit offset }

/-- `POST` on the administration prefix: a new account. -/
def createUser
    (email displayName : String)
    (roles : Option (List String))
    (scopes : List String)
    (googleAutoLinkAllowed : Bool)
    (userId : Uuid)
    (draws : PasswordDraws) :
    Operation HttpResponse := do
  let _ ← requireAdmin deployment request
  let result ←
    AuthService.createUser deployment.toDependencies email displayName roles
      scopes googleAutoLinkAllowed request.context userId draws
  return {
    status := 201
    body := .provisioned (ProvisionedUserResponse.fromResult result) }

/-- `GET /{user_id}` -/
def getUser (userId : Uuid) : Operation HttpResponse := do
  let _ ← requireAdmin deployment request
  let user ← AuthService.getUser userId
  return { body := .user (UserResponse.fromUser user) }

/-- `PATCH /{user_id}` -/
def updateUser (userId : Uuid) (update : UserUpdate) :
    Operation HttpResponse := do
  let _ ← requireAdmin deployment request
  let user ← AuthService.updateUser userId update request.context
  return { body := .user (UserResponse.fromUser user) }

/-- `POST /{user_id}/reset-password` -/
def resetPassword (userId : Uuid) (draws : PasswordDraws) :
    Operation HttpResponse := do
  let _ ← requireAdmin deployment request
  let result ←
    AuthService.resetPassword deployment.toDependencies userId request.context
      draws
  return {
    body := .provisioned (ProvisionedUserResponse.fromResult result) }

/-- `POST /{user_id}/revoke-sessions` -/
def revokeSessions (userId : Uuid) : Operation HttpResponse := do
  let _ ← requireAdmin deployment request
  let count ← AuthService.revokeUserSessions userId request.context
  return { body := .revoked count }

/-- `POST /{user_id}/google/recover` -/
def recoverGoogleAccount (userId : Uuid) (draws : PasswordDraws) :
    Operation HttpResponse := do
  let _ ← requireAdmin deployment request
  let result ←
    GoogleLoginService.recoverPasswordAccess deployment.toDependencies userId
      request.context draws
  return uncached 200
    (.provisioned (ProvisionedUserResponse.fromResult result))

/-- `POST /{user_id}/invitation` -/
def inviteUser (userId : Uuid) (draws : LinkDraws) :
    Operation HttpResponse := do
  let _ ← requireAdmin deployment request
  checkOrigin deployment request
  let issue ← EmailLinkService.invite userId request.context draws
  let background ← dispatchLink deployment issue.pending
  return linkAccepted background

/-! ### The passkey router -/

/-- `POST /registration/options` -/
def beginRegistration (draws : CeremonyDraws) : Operation HttpResponse := do
  let principal ← authenticated deployment request
  let options ←
    PasskeyService.beginRegistration deployment.toEnvironment principal
      request.origin draws
  return uncached 200 (.passkeyOptions options)

/-- `POST /registration/verify` -/
def finishRegistration
    (ceremonyId : Uuid)
    (name : String)
    (credential : CredentialPayload)
    (passkeyId : Uuid) :
    Operation HttpResponse := do
  let principal ← authenticated deployment request
  let passkey ←
    PasskeyService.finishRegistration deployment.toEnvironment principal
      ceremonyId name credential request.origin request.context passkeyId
  return uncached 201
    (.passkey (PasskeyCredentialResponse.fromCredential passkey))

/-- `POST /authentication/options` -/
def beginAuthentication (draws : CeremonyDraws) : Operation HttpResponse := do
  let options ←
    PasskeyService.beginAuthentication deployment.toEnvironment request.origin
      draws
  return uncached 200 (.passkeyOptions options)

/-- `POST /authentication/verify` -/
def finishAuthentication
    (ceremonyId : Uuid)
    (credential : CredentialPayload)
    (draws : SessionDraws) :
    Operation HttpResponse := do
  let bundle ←
    PasskeyService.finishAuthentication deployment.toEnvironment ceremonyId
      credential request.origin request.context draws
  return sessionResponse deployment bundle

/-- `GET` on the prefix of passkeys. -/
def listPasskeys : Operation HttpResponse := do
  let principal ← authenticated deployment request
  let credentials ← PasskeyService.listPasskeys principal
  return uncached 200
    (.passkeys (credentials.map PasskeyCredentialResponse.fromCredential))

/-- `DELETE /{passkey_id}` -/
def revokePasskey (passkeyId : Uuid) : Operation HttpResponse := do
  let principal ← authenticated deployment request
  PasskeyService.revokePasskey deployment.toEnvironment principal passkeyId
    request.origin request.context
  return uncached 204 .empty

/-! ### The Google router -/

/-- `POST /options` -/
def beginGoogleLogin (draws : NonceDraws) : Operation HttpResponse := do
  let options ←
    GoogleLoginService.beginLogin deployment.toDependencies request.origin
      draws
  return uncached 200 (.googleOptions options)

/-- `POST /verify` -/
def finishGoogleLogin
    (challengeId : Uuid)
    (credential : String)
    (draws : GoogleLoginDraws)
    (retryDraws : SessionDraws) :
    Operation HttpResponse := do
  let bundle ←
    GoogleLoginService.finishLogin deployment.toDependencies challengeId
      credential request.origin request.context draws retryDraws
  return sessionResponse deployment bundle

/-- `POST /link/options` -/
def beginGoogleLink (draws : NonceDraws) : Operation HttpResponse := do
  let principal ← authenticated deployment request
  let options ←
    GoogleLoginService.beginLink deployment.toDependencies principal
      request.origin draws
  return uncached 200 (.googleOptions options)

/-- `POST /link/verify` -/
def finishGoogleLink
    (challengeId : Uuid)
    (credential : String)
    (identityId : Uuid) :
    Operation HttpResponse := do
  let principal ← authenticated deployment request
  let identity ←
    GoogleLoginService.finishLink deployment.toDependencies principal
      challengeId credential request.origin request.context identityId
  return uncached 200
    (.googleIdentity (GoogleIdentityResponse.fromIdentity identity))

/-! ### The email-link router -/

/-- `POST /login` of the email links. -/
def requestLogin (email drawnNonce : String) (draws : LinkDraws) :
    Operation HttpResponse := do
  checkOrigin deployment request
  let issue ←
    EmailLinkService.requestLogin deployment.toDependencies email
      request.browserNonce request.context drawnNonce draws
  let background ← dispatchLink deployment issue.pending
  match issue.browserNonce with
  | none =>
      throw
        (.runtimeError
          "login email-link request did not create a browser nonce")
  | some browserNonce =>
      return AuthHttpTransport.setEmailLinkCookie deployment.cookies
        (linkAccepted background) browserNonce

/-- `POST /login/consume` -/
def consumeLogin (token : String) (draws : SessionDraws) :
    Operation HttpResponse := do
  checkOrigin deployment request
  Operation.check (requireSignedOut request)
  let bundle ←
    EmailLinkService.login token (request.browserNonce.getD "")
      request.context draws
  return AuthHttpTransport.deleteEmailLinkCookie deployment.cookies
    (sessionResponse deployment bundle)

/-- `POST /password-reset` -/
def requestPasswordReset (email : String) (draws : LinkDraws) :
    Operation HttpResponse := do
  checkOrigin deployment request
  let issue ←
    EmailLinkService.requestPasswordReset deployment.toDependencies email
      request.context draws
  let background ← dispatchLink deployment issue.pending
  return linkAccepted background

/-- `POST /password-reset/consume` -/
def consumePasswordReset (token newPassword : String) (salt : Nat) :
    Operation HttpResponse := do
  checkOrigin deployment request
  Operation.check (requireSignedOut request)
  let notice ←
    EmailLinkService.resetPassword deployment.toDependencies token newPassword
      request.context salt
  let background ← dispatchNotice deployment notice
  return { uncached 204 .empty with background := background }

/-- `POST /invitation/consume` -/
def activateInvitation (token : String) (draws : PasswordDraws) :
    Operation HttpResponse := do
  checkOrigin deployment request
  Operation.check (requireSignedOut request)
  let _ ←
    EmailLinkService.activateInvitation deployment.toDependencies token
      request.context draws
  return uncached 204 .empty

end Route

/-- Which route answers a request. -/
def route : Endpoint → Operation HttpResponse
  | .login email password salt draws =>
      Route.login deployment request email password salt draws
  | .refresh draws => Route.refresh deployment request draws
  | .logout => Route.logout deployment request
  | .me => Route.me deployment request
  | .changePassword currentPassword newPassword salts draws =>
      Route.changePassword deployment request currentPassword newPassword salts
        draws
  | .listUsers limit offset => Route.listUsers deployment request limit offset
  | .createUser email displayName roles scopes googleAutoLinkAllowed userId
      draws =>
      Route.createUser deployment request email displayName roles scopes
        googleAutoLinkAllowed userId draws
  | .getUser userId => Route.getUser deployment request userId
  | .updateUser userId update =>
      Route.updateUser deployment request userId update
  | .resetPassword userId draws =>
      Route.resetPassword deployment request userId draws
  | .revokeSessions userId => Route.revokeSessions deployment request userId
  | .recoverGoogleAccount userId draws =>
      Route.recoverGoogleAccount deployment request userId draws
  | .inviteUser userId draws =>
      Route.inviteUser deployment request userId draws
  | .beginRegistration draws =>
      Route.beginRegistration deployment request draws
  | .finishRegistration ceremonyId name credential passkeyId =>
      Route.finishRegistration deployment request ceremonyId name credential
        passkeyId
  | .beginAuthentication draws =>
      Route.beginAuthentication deployment request draws
  | .finishAuthentication ceremonyId credential draws =>
      Route.finishAuthentication deployment request ceremonyId credential draws
  | .listPasskeys => Route.listPasskeys deployment request
  | .revokePasskey passkeyId =>
      Route.revokePasskey deployment request passkeyId
  | .beginGoogleLogin draws => Route.beginGoogleLogin deployment request draws
  | .finishGoogleLogin challengeId credential draws retryDraws =>
      Route.finishGoogleLogin deployment request challengeId credential draws
        retryDraws
  | .beginGoogleLink draws => Route.beginGoogleLink deployment request draws
  | .finishGoogleLink challengeId credential identityId =>
      Route.finishGoogleLink deployment request challengeId credential
        identityId
  | .requestLogin email drawnNonce draws =>
      Route.requestLogin deployment request email drawnNonce draws
  | .consumeLogin token draws =>
      Route.consumeLogin deployment request token draws
  | .requestPasswordReset email draws =>
      Route.requestPasswordReset deployment request email draws
  | .consumePasswordReset token newPassword salt =>
      Route.consumePasswordReset deployment request token newPassword salt
  | .activateInvitation token draws =>
      Route.activateInvitation deployment request token draws

end Routes

/-- A background task; nobody reads what it returns. -/
def runTask : BackgroundTask → Operation HttpResponse
  | .deliver pending => do
      let _ ← EmailLinkMailer.deliver pending
      return {}
  | .sendNotice notice => do
      EmailLinkMailer.sendNotice notice
      return {}

/-! ## The server -/

/-- What the server keeps: the store, and the time that a clock tells. -/
structure World where
  store : Store
  now : Instant

namespace Deployment

variable (deployment : Deployment)

/-- How an effect may be answered. -/
inductive Performs :
    (ask : Ask) → World → ask.Answer → World → Prop where
  | clock (world : World) : Performs .clock world world.now world
  | accessToken (world : World) (token : String) :
      Performs (.accessToken token) world
        (deployment.verifyAccess world.now token) world
  | transaction
      {world : World}
      {tx : ServiceTx}
      {answer : Except Failure tx.Answer}
      {later : Store}
      (step :
        ServiceStep deployment.toEnvironment world.store
          { tx := tx, answer := answer } later) :
      Performs (.transaction tx) world answer { world with store := later }
  | decodeGoogle
      (world : World)
      (credential audience : String)
      (decoding : GoogleDecoding) :
      Performs (.decodeGoogle credential audience) world decoding world
  | send (world : World) (email : AuthEmail) (accepted : Bool) :
      Performs (.send email) world accepted world
  | dispatch (world : World) (message : Dispatched) (accepted : Bool) :
      Performs (.dispatch message) world accepted world

/-- Time passes, and the application makes transactions of its own. -/
inductive Drifts : World → World → Prop where
  | clock (world : World) (later : Instant) :
      Drifts world { world with now := later }
  | application
      {world : World}
      {executed : Executed}
      {later : Store}
      (makes : deployment.applicationMakes executed.tx)
      (step :
        ServiceStep deployment.toEnvironment world.store executed later) :
      Drifts world { world with store := later }

/-- Only a response may ask for a background task. -/
def IsTask : Request → Prop
  | .http _ _ => False
  | .task _ => True

/-- The server of a deployment. -/
def server :
    Server Request Ask Ask.Answer Failure (fun _ => HttpResponse) World where
  body
    | .http request endpoint => route deployment request endpoint
    | .task task => runTask task
  performs := deployment.Performs
  drifts := deployment.Drifts
  background := IsTask
  tasks := fun _ response => response.background.map Request.task

end Deployment

end EpokAuth
