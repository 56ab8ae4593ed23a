namespace EpokAuth

/-!
# Authentication errors

The catalogue of error codes and the error value that carries one, together
with the constructors that the services share.  Only the parts that a service
reads or returns are kept: the code, the text and an explicit status override.
-/

/-- The catalogue of error codes. -/
inductive AuthErrorCode where
  | unknown
  | invalidCredentials
  | invalidToken
  | invalidCsrf
  | invalidOrigin
  | passwordInvalid
  | passwordChangeRequired
  | forbidden
  | userNotFound
  | userExists
  | adminExists
  | lastAdminRequired
  | inputInvalid
  | refreshConflict
  | configInvalid
  | passkeyChallengeInvalid
  | passkeyRegistrationInvalid
  | passkeyAuthenticationInvalid
  | passkeyExists
  | passkeyNotFound
  | passkeyLimitReached
  | passkeyNameInvalid
  | googleChallengeInvalid
  | googleCredentialInvalid
  | googleIdentityConflict
  | googleIdentityNotFound
  | googleServiceUnavailable
  | emailLinkInvalid
  | emailLinkSessionExists
  | emailDeliveryFailed
  deriving Repr, DecidableEq

/-- A domain error with its public text. -/
structure AuthError where
  code : AuthErrorCode
  detail : String
  statusCode : Option Nat := none
  deriving Repr, DecidableEq

/-- A login is refused for whatever reason with one error. -/
def invalidCredentials : AuthError where
  code := .invalidCredentials
  detail := "The email or password is not valid."

/-- A session is refused for whatever reason with one error. -/
def invalidSession : AuthError where
  code := .invalidToken
  detail := "The session is not valid."

/-- A Google login is refused for whatever reason with one error. -/
def invalidGoogleCredentials : AuthError where
  code := .googleCredentialInvalid
  detail := "Google authentication is not valid."

/-- An identity belongs to another account, or the account has another one. -/
def googleIdentityConflict : AuthError where
  code := .googleIdentityConflict
  detail := "The Google identity cannot be linked to this account."

/-- The cookie and the header of a browser do not agree. -/
def invalidCsrf : AuthError where
  code := .invalidCsrf
  detail := "CSRF protection failed."

/-- Somebody lacks the right to an operation. -/
def forbidden
    (detail : String := "You are not allowed to perform this operation.") :
    AuthError where
  code := .forbidden
  detail := detail

/-- Everything a service operation may raise. -/
inductive Failure where
  | auth : AuthError → Failure
  | storeConflict : String → Failure
  | keyError : Failure
  | typeError : Failure
  | valueError : String → Failure
  | runtimeError : String → Failure
  deriving Repr, DecidableEq

end EpokAuth
