import EpokAuth.AccountActivation
import EpokAuth.GoogleService
import EpokAuth.PasskeyService
import EpokAuth.SessionService
import EpokAuth.UserService

namespace EpokAuth

open Transactional

/-!
# Every transaction of the services

The services touch the store only through the transactions listed here.  Each
carries what its operation computed before the transaction began: the clock
reading, the values drawn, the hash of a new password, the claims an external
verifier accepted.  Running one commits the store it leaves when it returns,
also when it returns a failure to be raised afterwards, and rolls back when it
raises.
-/

/-- The services' dependencies with the two external verifiers. -/
structure Environment extends Dependencies where
  adapter : PasskeyAdapter
  verifyGoogle :
    (credential audience nonce : String) → GoogleVerification

/-- A transaction of a service, with everything it was given. -/
inductive ServiceTx where
  | login
      (normalizedEmail password : String)
      (now : Instant)
      (context : RequestContext)
      (salt : Nat)
      (draws : SessionDraws)
  | reauthenticatePassword
      (principal : Principal)
      (password : String)
      (now : Instant)
      (context : RequestContext)
      (salt : Nat)
  | authenticate (claims : AccessClaims)
  | refresh
      (refreshToken csrfCookie : String)
      (now : Instant)
      (context : RequestContext)
      (draws : SessionDraws)
  | logout
      (refreshToken csrfCookie : String)
      (now : Instant)
      (context : RequestContext)
  | changePassword
      (principal : Principal)
      (currentPassword newPassword : String)
      (now : Instant)
      (context : RequestContext)
      (salts : ChangePasswordSalts)
      (draws : SessionDraws)
  | createAdmin
      (id : Uuid)
      (email displayName passwordHash : String)
      (now : Instant)
      (context : RequestContext)
  | createUser
      (id : Uuid)
      (email displayName passwordHash : String)
      (roles scopes : List String)
      (googleAutoLinkAllowed : Bool)
      (now : Instant)
      (context : RequestContext)
  | listUsers (limit offset : Nat)
  | getUser (userId : Uuid)
  | updateUser
      (userId : Uuid)
      (update : UserUpdate)
      (now : Instant)
      (context : RequestContext)
  | resetPassword
      (userId : Uuid)
      (passwordHash : String)
      (now : Instant)
      (context : RequestContext)
  | revokeUserSessions
      (userId : Uuid)
      (now : Instant)
      (context : RequestContext)
  | requestLogin
      (normalizedEmail browserNonce : String)
      (now : Instant)
      (context : RequestContext)
      (draws : LinkDraws)
  | requestPasswordReset
      (normalizedEmail : String)
      (now : Instant)
      (context : RequestContext)
      (draws : LinkDraws)
  | invite
      (userId : Uuid)
      (now : Instant)
      (context : RequestContext)
      (draws : LinkDraws)
  | markDelivered (linkId : Uuid) (now : Instant)
  | markDeliveryFailed (linkId : Uuid) (now : Instant)
  | markNoticeDeliveryFailed (userId : Uuid) (now : Instant)
  | activeLinkCandidate (token : String) (purpose : EmailLinkPurpose)
  | emailLinkLogin
      (token browserNonce : String)
      (now : Instant)
      (context : RequestContext)
      (draws : SessionDraws)
  | emailLinkResetPassword
      (token passwordHash : String)
      (now : Instant)
      (context : RequestContext)
  | activateInvitation
      (token passwordHash : String)
      (now : Instant)
      (context : RequestContext)
  | provision
      (id : Uuid)
      (email displayName passwordHash : String)
      (roles scopes : List String)
      (now : Instant)
      (context : RequestContext)
      (draws : LinkDraws)
  | ensureInitialAdmin
      (normalizedEmail : String)
      (id : Uuid)
      (email displayName passwordHash : String)
      (scopes : List String)
      (now : Instant)
      (context : RequestContext)
      (draws : LinkDraws)
  | replaceActivation
      (userId : Uuid)
      (now : Instant)
      (context : RequestContext)
      (draws : LinkDraws)
  | activate
      (token passwordHash : String)
      (now : Instant)
      (context : RequestContext)
  | beginRegistration
      (principal : Principal)
      (expectedOrigin : String)
      (now : Instant)
      (draws : CeremonyDraws)
  | finishRegistration
      (principal : Principal)
      (passkeyId : Uuid)
      (name : String)
      (verified : VerifiedPasskeyRegistration)
      (now : Instant)
      (context : RequestContext)
  | beginAuthentication
      (expectedOrigin : String)
      (now : Instant)
      (draws : CeremonyDraws)
  | beginReauthentication
      (principal : Principal)
      (expectedOrigin : String)
      (now : Instant)
      (draws : CeremonyDraws)
  | finishAuthentication
      (response : PasskeyResponse)
      (now : Instant)
      (context : RequestContext)
      (draws : SessionDraws)
  | finishReauthentication
      (principal : Principal)
      (response : PasskeyResponse)
      (now : Instant)
      (context : RequestContext)
  | listPasskeys (principal : Principal)
  | revokePasskey
      (principal : Principal)
      (passkeyId : Uuid)
      (now : Instant)
      (context : RequestContext)
  | consumePasskeyChallenge
      (ceremonyId : Uuid)
      (purpose : PasskeyCeremonyPurpose)
      (now : Instant)
      (userId familyId : Option Uuid)
  | registrationFailure
      (userId : Uuid)
      (now : Instant)
      (context : RequestContext)
  | authenticationFailure
      (userId : Option Uuid)
      (now : Instant)
      (context : RequestContext)
  | reauthenticationFailure
      (principal : Principal)
      (now : Instant)
      (context : RequestContext)
  | beginGoogleChallenge
      (purpose : GoogleChallengePurpose)
      (origin clientId : String)
      (userId : Option Uuid)
      (now : Instant)
      (draws : NonceDraws)
  | consumeGoogleChallenge
      (challengeId : Uuid)
      (purpose : GoogleChallengePurpose)
      (now : Instant)
      (userId : Option Uuid)
  | googleLogin
      (claims : GoogleClaims)
      (now : Instant)
      (context : RequestContext)
      (draws : GoogleLoginDraws)
  | loginLinkedAfterConflict
      (claims : GoogleClaims)
      (now : Instant)
      (context : RequestContext)
      (draws : SessionDraws)
  | linkIdentity
      (principal : Principal)
      (claims : GoogleClaims)
      (now : Instant)
      (context : RequestContext)
      (identityId : Uuid)
  | linkedAfterConflict
      (principal : Principal)
      (claims : GoogleClaims)
      (now : Instant)
      (context : RequestContext)
  | recoverPasswordAccess
      (userId : Uuid)
      (passwordHash : String)
      (now : Instant)
      (context : RequestContext)
  | verificationFailure
      (linking providerUnavailable : Bool)
      (now : Instant)
      (context : RequestContext)
  deriving Repr, DecidableEq

namespace ServiceTx

/-- What a transaction returns when it is committed. -/
abbrev Answer : ServiceTx → Type
  | .login .. => Except Failure SessionBundle
  | .reauthenticatePassword .. => Except Failure Reauthentication
  | .authenticate .. => Option UserAccount × Option RefreshSession
  | .refresh .. => Except Failure SessionBundle
  | .logout .. => Nat
  | .changePassword .. => SessionBundle
  | .createAdmin .. => Unit
  | .createUser .. => Unit
  | .listUsers .. => List UserAccount
  | .getUser .. => Option UserAccount
  | .updateUser .. => UserAccount
  | .resetPassword .. => UserAccount
  | .revokeUserSessions .. => Nat
  | .requestLogin .. => EmailLinkIssue
  | .requestPasswordReset .. => EmailLinkIssue
  | .invite .. => EmailLinkIssue
  | .markDelivered .. => Bool
  | .markDeliveryFailed .. => Unit
  | .markNoticeDeliveryFailed .. => Unit
  | .activeLinkCandidate .. => Option EmailLink
  | .emailLinkLogin .. => Option SessionBundle
  | .emailLinkResetPassword .. => Option AuthEmail
  | .activateInvitation .. => Option UserAccount
  | .provision .. => AccountActivation
  | .ensureInitialAdmin .. => InitialAdminActivation
  | .replaceActivation .. => EmailLinkIssue
  | .activate .. => Option UserAccount
  | .beginRegistration .. => PasskeyOptions
  | .finishRegistration .. => Unit
  | .beginAuthentication .. => PasskeyOptions
  | .beginReauthentication .. => PasskeyOptions
  | .finishAuthentication .. => Except Failure SessionBundle
  | .finishReauthentication .. => Except Failure Reauthentication
  | .listPasskeys .. => List PasskeyCredential
  | .revokePasskey .. => Unit
  | .consumePasskeyChallenge .. => Option PasskeyChallenge
  | .registrationFailure .. => Unit
  | .authenticationFailure .. => Unit
  | .reauthenticationFailure .. => Unit
  | .beginGoogleChallenge .. => Unit
  | .consumeGoogleChallenge .. => Option GoogleChallenge
  | .googleLogin .. => Option SessionBundle
  | .loginLinkedAfterConflict .. => Option SessionBundle
  | .linkIdentity .. => Except Failure ExternalIdentity
  | .linkedAfterConflict .. => Except Failure ExternalIdentity
  | .recoverPasswordAccess .. => UserAccount
  | .verificationFailure .. => Unit

section Execution

variable (env : Environment)

/-- The body of every transaction. -/
def body : (tx : ServiceTx) → Tx tx.Answer
  | .login normalizedEmail password now context salt draws =>
      EpokAuth.login env.toDependencies normalizedEmail password now context
        salt draws
  | .reauthenticatePassword principal password now context salt =>
      EpokAuth.reauthenticatePassword env.toDependencies principal password
        now context salt
  | .authenticate claims => EpokAuth.authenticate claims
  | .refresh refreshToken csrfCookie now context draws =>
      EpokAuth.refresh env.toDependencies refreshToken csrfCookie now context
        draws
  | .logout refreshToken csrfCookie now context =>
      EpokAuth.logout env.toDependencies refreshToken csrfCookie now context
  | .changePassword principal currentPassword newPassword now context salts
      draws =>
      EpokAuth.changePassword env.toDependencies principal currentPassword
        newPassword now context salts draws
  | .createAdmin id email displayName passwordHash now context =>
      EpokAuth.createAdmin env.toDependencies
        (administratorAccount env.toDependencies id email displayName
          passwordHash now)
        now context
  | .createUser id email displayName passwordHash roles scopes
      googleAutoLinkAllowed now context =>
      EpokAuth.createUser
        (provisionedAccount id email displayName passwordHash roles scopes
          googleAutoLinkAllowed now)
        now context
  | .listUsers limit offset => EpokAuth.listUsers limit offset
  | .getUser userId => EpokAuth.getUser userId
  | .updateUser userId update now context =>
      EpokAuth.updateUser env.toDependencies userId update now context
  | .resetPassword userId passwordHash now context =>
      EpokAuth.resetPassword userId passwordHash now context
  | .revokeUserSessions userId now context =>
      EpokAuth.revokeUserSessions userId now context
  | .requestLogin normalizedEmail browserNonce now context draws =>
      requestForEmail env.toDependencies normalizedEmail .login
        (some browserNonce) now context draws
  | .requestPasswordReset normalizedEmail now context draws =>
      requestForEmail env.toDependencies normalizedEmail .passwordReset none
        now context draws
  | .invite userId now context draws =>
      EpokAuth.invite env.toDependencies userId now context draws
  | .markDelivered linkId now =>
      EpokAuth.markDelivered env.toDependencies linkId now
  | .markDeliveryFailed linkId now => EpokAuth.markDeliveryFailed linkId now
  | .markNoticeDeliveryFailed userId now =>
      EpokAuth.markNoticeDeliveryFailed userId now
  | .activeLinkCandidate token purpose =>
      EpokAuth.activeLinkCandidate env.toDependencies token purpose
  | .emailLinkLogin token browserNonce now context draws =>
      EpokAuth.emailLinkLogin env.toDependencies token browserNonce now
        context draws
  | .emailLinkResetPassword token passwordHash now context =>
      EpokAuth.emailLinkResetPassword env.toDependencies token passwordHash
        now context
  | .activateInvitation token passwordHash now context =>
      EpokAuth.activateInvitation env.toDependencies token passwordHash now
        context
  | .provision id email displayName passwordHash roles scopes now context
      draws =>
      EpokAuth.provision env.toDependencies
        (pendingAccount id email displayName passwordHash roles scopes now)
        now context draws
  | .ensureInitialAdmin normalizedEmail id email displayName passwordHash
      scopes now context draws =>
      EpokAuth.ensureInitialAdmin env.toDependencies normalizedEmail
        (pendingAccount id email displayName passwordHash
          [env.settings.adminRole] scopes now)
        now context draws
  | .replaceActivation userId now context draws =>
      EpokAuth.replaceActivation env.toDependencies userId now context draws
  | .activate token passwordHash now context =>
      EpokAuth.activate env.toDependencies token passwordHash now context
  | .beginRegistration principal expectedOrigin now draws =>
      EpokAuth.beginRegistration env.toDependencies env.adapter principal
        expectedOrigin now draws
  | .finishRegistration principal passkeyId name verified now context =>
      EpokAuth.finishRegistration env.toDependencies principal
        (registeredPasskey principal passkeyId name verified now) now context
  | .beginAuthentication expectedOrigin now draws =>
      EpokAuth.beginAuthentication env.toDependencies env.adapter
        expectedOrigin now draws
  | .beginReauthentication principal expectedOrigin now draws =>
      EpokAuth.beginReauthentication env.toDependencies env.adapter principal
        expectedOrigin now draws
  | .finishAuthentication response now context draws =>
      EpokAuth.finishAuthentication env.toDependencies env.adapter response
        now context draws
  | .finishReauthentication principal response now context =>
      EpokAuth.finishReauthentication env.adapter principal response now
        context
  | .listPasskeys principal => EpokAuth.listPasskeys principal
  | .revokePasskey principal passkeyId now context =>
      EpokAuth.revokePasskey principal passkeyId now context
  | .consumePasskeyChallenge ceremonyId purpose now userId familyId =>
      consumeChallenge ceremonyId purpose now userId familyId
  | .registrationFailure userId now context =>
      EpokAuth.registrationFailure userId now context
  | .authenticationFailure userId now context =>
      EpokAuth.authenticationFailure userId now context
  | .reauthenticationFailure principal now context =>
      EpokAuth.reauthenticationFailure principal now context
  | .beginGoogleChallenge purpose origin clientId userId now draws =>
      beginChallenge
        (googleChallenge env.toDependencies purpose origin clientId userId
          now draws)
        now
  | .consumeGoogleChallenge challengeId purpose now userId =>
      EpokAuth.consumeGoogleChallenge challengeId purpose now userId
  | .googleLogin claims now context draws =>
      EpokAuth.googleLogin env.toDependencies claims now context draws
  | .loginLinkedAfterConflict claims now context draws =>
      EpokAuth.loginLinkedAfterConflict env.toDependencies claims now context
        draws
  | .linkIdentity principal claims now context identityId =>
      EpokAuth.linkIdentity principal claims now context identityId
  | .linkedAfterConflict principal claims now context =>
      EpokAuth.linkedAfterConflict principal claims now context
  | .recoverPasswordAccess userId passwordHash now context =>
      EpokAuth.recoverPasswordAccess userId passwordHash now context
  | .verificationFailure linking providerUnavailable now context =>
      EpokAuth.verificationFailure linking providerUnavailable now context

/-- Run a transaction alone: commit what it returns, roll back what it raises. -/
def execute (tx : ServiceTx) (store : Store) :
    Except Failure tx.Answer × Store :=
  (tx.body env).execute store

end Execution

end ServiceTx

end EpokAuth
