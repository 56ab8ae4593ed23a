import EpokAuth.SessionIssuer

namespace EpokAuth

open Transactional

/-!
# The session service

The transactions of login, reauthentication, refresh, logout and password
change, with the origin and CSRF checks that precede them.  A transaction that
records a failure and then raises it after the commit returns the failure as a
value; one that raises inside is rolled back.
-/

section PasswordFailures

variable (settings : AuthSettings)

/-- The failures counted so far; an expired lock starts the count again. -/
def previousAttempts (user : UserAccount) (now : Instant) : Nat :=
  match user.lockedUntil with
  | none => user.failedLoginAttempts
  | some lockedUntil =>
      if lockedUntil ≤ now then 0 else user.failedLoginAttempts

/-- The end of the lock that one more failure brings, if it brings one. -/
def lockAfterFailure (user : UserAccount) (now : Instant) : Option Instant :=
  if settings.loginMaxAttempts ≤ previousAttempts user now + 1 then
    some (now + seconds settings.lockoutSeconds)
  else
    none

/-- The account after one more failed verification. -/
def afterPasswordFailure (user : UserAccount) (now : Instant) : UserAccount :=
  let lockedUntil := lockAfterFailure settings user now
  let counted :=
    { user with
      failedLoginAttempts := previousAttempts user now + 1
      lockedUntil := lockedUntil
      updatedAt := some now }
  if lockedUntil.isSome then counted.advanceSecurityVersion now else counted

/-- The account after a successful verification. -/
def afterPasswordVerification
    (user : UserAccount)
    (verification : PasswordVerification)
    (now : Instant) :
    UserAccount :=
  { user with
    passwordHash :=
      match verification.updatedHash with
      | none => user.passwordHash
      | some updated => if updated = "" then user.passwordHash else updated
    failedLoginAttempts := 0
    lockedUntil := none
    updatedAt := some now }

/-- Count a failure against an account that could have been logged into. -/
def countPasswordFailure
    (user : UserAccount)
    (now : Instant)
    (context : RequestContext) :
    Tx Unit :=
  if user.passwordLoginEnabled && user.canAuthenticate now then do
    Tx.updateUser (afterPasswordFailure settings user now)
    if (lockAfterFailure settings user now).isSome then do
      let _ ← Tx.revokeUserSessions user.id now
      recordSecurityEvent .accountLocked now context (some user.id)
    else
      return ()
  else
    return ()

/-- Count a wrong password for the account it was given for, and record it. -/
def recordPasswordFailure
    (eventType : SecurityEventType)
    (user : Option UserAccount)
    (now : Instant)
    (context : RequestContext)
    (sessionId : Option Uuid := none)
    (method : Option ReauthenticationMethod := none) :
    Tx Unit := do
  user.elim (pure ()) fun user =>
    countPasswordFailure settings user now context
  recordSecurityEvent eventType now context (user.map UserAccount.id)
    sessionId
    (method.map fun method => [("method", .text method.value)])

/--
Store what a verified password leaves: a new hash, perhaps, and no failures.
-/
def applyPasswordVerification
    (user : UserAccount)
    (verification : PasswordVerification)
    (now : Instant) :
    Tx UserAccount := do
  let updated := afterPasswordVerification user verification now
  Tx.updateUser updated
  return updated

end PasswordFailures

section Service

variable (deps : Dependencies)

/-- The transaction of a login, with the verifications that it makes. -/
def loginVerifying
    (normalizedEmail password : String)
    (now : Instant)
    (context : RequestContext)
    (salt : Nat)
    (draws : SessionDraws) :
    Tx (Except Failure SessionBundle × Verifications) := do
  let user ← Tx.getUserByEmail normalizedEmail true
  let verified :=
    (deps.passwords.verifyForLogin salt password
      (user.bind fun user =>
        if user.passwordLoginEnabled then some user.passwordHash
        else none)).run []
  let unavailable :=
    match user with
    | none => true
    | some user => !user.passwordLoginEnabled || !user.canAuthenticate now
  if unavailable || !verified.1.valid then do
    recordPasswordFailure deps.settings .loginFailed user now context
    return (.error (.auth invalidCredentials), verified.2)
  else
    match user with
    | none => throw (.auth invalidCredentials)
    | some user => do
        let user ← applyPasswordVerification user verified.1 now
        let result ← issue deps user now none context draws
        recordSecurityEvent .loginSucceeded now context (some user.id)
          (some result.principal.sessionId)
        return (.ok result, verified.2)

/-- The transaction of a login, with what its caller is answered. -/
def login
    (normalizedEmail password : String)
    (now : Instant)
    (context : RequestContext)
    (salt : Nat)
    (draws : SessionDraws) :
    Tx (Except Failure SessionBundle) :=
  Prod.fst <$>
    loginVerifying deps normalizedEmail password now context salt draws

/-- What a login issues, with the result of its verification only. -/
theorem login_eq
    (normalizedEmail password : String)
    (now : Instant)
    (context : RequestContext)
    (salt : Nat)
    (draws : SessionDraws) :
    login deps normalizedEmail password now context salt draws = do
      let user ← Tx.getUserByEmail normalizedEmail true
      let verification :=
        deps.passwords.verifiedForLogin salt password
          (user.bind fun user =>
            if user.passwordLoginEnabled then some user.passwordHash
            else none)
      let unavailable :=
        match user with
        | none => true
        | some user => !user.passwordLoginEnabled || !user.canAuthenticate now
      if unavailable || !verification.valid then do
        recordPasswordFailure deps.settings .loginFailed user now context
        return .error (.auth invalidCredentials)
      else
        match user with
        | none => throw (.auth invalidCredentials)
        | some user => do
            let user ← applyPasswordVerification user verification now
            let result ← issue deps user now none context draws
            recordSecurityEvent .loginSucceeded now context (some user.id)
              (some result.principal.sessionId)
            return .ok result := by
  unfold login loginVerifying
  rw [map_bind]
  congr 1
  funext user
  cases user with
  | none => rfl
  | some user =>
      dsimp only
      by_cases refused :
          (!user.passwordLoginEnabled || !user.canAuthenticate now ||
            !(deps.passwords.verifiedForLogin salt password
              ((some user).bind fun user =>
                if user.passwordLoginEnabled then some user.passwordHash
                else none)).valid) = true
      · rw [if_pos refused]
        refine (congrArg _ (if_pos refused)).trans ?_
        rw [map_bind]
        rfl
      · rw [if_neg refused]
        refine (congrArg _ (if_neg refused)).trans ?_
        simp only [map_bind]
        rfl

/--
The transaction that reauthenticates a principal; a wrong password is counted.
-/
def reauthenticatePassword
    (principal : Principal)
    (password : String)
    (now : Instant)
    (context : RequestContext)
    (salt : Nat) :
    Tx (Except Failure Reauthentication) := do
  let user ← requirePrincipalUser principal now true
  let verification :=
    deps.passwords.verifiedForLogin salt password
      (if user.passwordLoginEnabled then some user.passwordHash else none)
  if !user.passwordLoginEnabled || !verification.valid then do
    recordPasswordFailure deps.settings .reauthenticationFailed (some user)
      now context (some principal.sessionId) (some .password)
    return .error (.auth invalidCredentials)
  else do
    let _ ← applyPasswordVerification user verification now
    recordSecurityEvent .reauthenticationSucceeded now context
      (some principal.userId) (some principal.sessionId)
      (some [("method", .text ReauthenticationMethod.password.value)])
    return .ok
      { userId := principal.userId
        sessionId := principal.sessionId
        familyId := principal.familyId
        method := .password
        verifiedAt := now }

/-- The rows that decide whether an access token is accepted. -/
def authenticate (claims : AccessClaims) :
    Tx (Option UserAccount × Option RefreshSession) := do
  let user ← Tx.getUserById claims.userId false
  let session ← Tx.getSessionById claims.sessionId false
  return (user, session)

/-- The decision taken on these rows after the transaction. -/
def authenticateResult
    (claims : AccessClaims)
    (now : Instant) :
    Option UserAccount × Option RefreshSession → Except Failure Principal
  | (some user, some session) =>
      if user.canAuthenticate now && session.isValidFor claims.subject now then
        .ok (principalFromSession user session)
      else
        .error (.auth invalidSession)
  | _ => .error (.auth invalidSession)

/-- Compare two tokens inside a transaction. -/
def tokensMatch (left right : String) : Tx Bool :=
  Prog.ofExcept (secureTokenEquals left right)

/-- The transaction that replaces a refresh token. -/
def rotate
    (user : UserAccount)
    (session : RefreshSession)
    (now : Instant)
    (context : RequestContext)
    (draws : SessionDraws) :
    Tx SessionBundle := do
  let result ←
    issue deps user now
      (some
        { familyId := session.familyId
          absoluteExpiresAt := session.absoluteExpiresAt
          authenticatedAt := session.authenticatedAt })
      context draws
  Tx.updateSession
    { session with
      usedAt := some now
      replacedById := some result.principal.sessionId }
  recordSecurityEvent .refreshRotated now context (some user.id)
    (some result.principal.sessionId)
  return result

/-- What a locked, matching and unrevoked session leads to. -/
def refreshSession
    (csrfCookie : String)
    (user : Option UserAccount)
    (session : RefreshSession)
    (now : Instant)
    (context : RequestContext)
    (draws : SessionDraws) :
    Tx (Except Failure SessionBundle) := do
  if session.usedAt.isSome then do
    let _ ← Tx.revokeFamily session.familyId now
    recordSecurityEvent .refreshReuseDetected now context
      (some session.userId) (some session.id)
    return .error (.auth invalidSession)
  else if session.idleExpiresAt ≤ now || session.absoluteExpiresAt ≤ now then
    do
      let _ ← Tx.revokeFamily session.familyId now
      return .error (.auth invalidSession)
  else do
    let csrfMatches ← tokensMatch session.csrfHash (deps.tokenHash csrfCookie)
    if !csrfMatches then
      return .error (.auth invalidCsrf)
    else
      match user with
      | none => do
          let _ ← Tx.revokeFamily session.familyId now
          return .error (.auth invalidSession)
      | some user =>
          if user.canAuthenticate now then do
            let result ← rotate deps user session now context draws
            return .ok result
          else do
            let _ ← Tx.revokeFamily session.familyId now
            return .error (.auth invalidSession)

/-- The transaction that rotates a session; a refusal, too, is committed. -/
def refresh
    (refreshToken csrfCookie : String)
    (now : Instant)
    (context : RequestContext)
    (draws : SessionDraws) :
    Tx (Except Failure SessionBundle) := do
  let refreshHash := deps.tokenHash refreshToken
  let candidate ← Tx.getSessionByTokenHash refreshHash false
  match candidate with
  | none => return .error (.auth invalidSession)
  | some candidate => do
      let user ← Tx.getUserById candidate.userId true
      let session ← Tx.getSessionById candidate.id true
      match session with
      | none => return .error (.auth invalidSession)
      | some session => do
          let tokenMatches ← tokensMatch session.tokenHash refreshHash
          if !tokenMatches || session.revokedAt.isSome then
            return .error (.auth invalidSession)
          else
            refreshSession deps csrfCookie user session now context draws

/-- The transaction that ends the family of a session. -/
def logout
    (refreshToken csrfCookie : String)
    (now : Instant)
    (context : RequestContext) :
    Tx Nat := do
  let refreshHash := deps.tokenHash refreshToken
  let candidate ← Tx.getSessionByTokenHash refreshHash false
  match candidate with
  | none => return 0
  | some candidate =>
      if candidate.revokedAt.isSome then
        return 0
      else do
        let user ← Tx.getUserById candidate.userId true
        let session ← Tx.getSessionById candidate.id true
        match user, session with
        | some _, some session =>
            if session.revokedAt.isSome then
              return 0
            else do
              let tokenMatches ← tokensMatch session.tokenHash refreshHash
              if !tokenMatches then
                return 0
              else do
                let csrfMatches ←
                  tokensMatch session.csrfHash (deps.tokenHash csrfCookie)
                if !csrfMatches then
                  throw (.auth invalidCsrf)
                else do
                  let count ← Tx.revokeFamily session.familyId now
                  recordSecurityEvent .logout now context
                    (some session.userId) (some session.id)
                  return count
        | _, _ => return 0

/-- The error for a new password that is the current one. -/
def passwordUnchanged : Failure :=
  passwordInvalid "The new password must be different."

/-- The salts drawn while a password is changed. -/
structure ChangePasswordSalts where
  current : Nat
  same : Nat
  hash : Nat
  deriving Repr, DecidableEq

/--
The transaction that replaces a password; a wrong one raises, and is not
counted.
-/
def changePassword
    (principal : Principal)
    (currentPassword newPassword : String)
    (now : Instant)
    (context : RequestContext)
    (salts : ChangePasswordSalts)
    (draws : SessionDraws) :
    Tx SessionBundle := do
  let user ← requirePrincipalUser principal now true
  if !(deps.passwords.verified salts.current currentPassword
      user.passwordHash).valid then
    throw (.auth invalidCredentials)
  else if (deps.passwords.verified salts.same newPassword
      user.passwordHash).valid then
    throw passwordUnchanged
  else do
    let passwordHash ←
      Prog.ofExcept (deps.passwords.hash salts.hash newPassword)
    let user := user.activatePassword passwordHash now
    Tx.updateUser user
    let _ ← Tx.revokeUserSessions user.id now
    let result ← issue deps user now none context draws
    recordSecurityEvent .passwordChanged now context (some user.id)
      (some result.principal.sessionId)
    return result

/-! ## Checks before a transaction -/

/-- A request is refused for the origin it comes from. -/
def invalidOrigin (detail : String) (statusCode : Option Nat) : Failure :=
  .auth
    { code := .invalidOrigin, detail := detail, statusCode := statusCode }

/-- A browser that sends a cookie on its own cannot send the header, too. -/
def validateCsrfPair (cookie header : String) : Except Failure Unit :=
  if cookie = "" ∨ header = "" then
    .error (.auth invalidCsrf)
  else
    match secureTokenEquals cookie header with
    | .error failure => .error failure
    | .ok false => .error (.auth invalidCsrf)
    | .ok true => .ok ()

/--
A request comes from a trusted origin, or from none where that is admitted.
-/
def validateOrigin (origin : Option String) : Except Failure Unit :=
  match origin with
  | none =>
      if deps.settings.requireOrigin then
        .error (invalidOrigin "Origin is required." (some 403))
      else
        .ok ()
  | some origin =>
      if canonicalOrigin deps.text origin ∈ deps.settings.trustedOrigins then
        .ok ()
      else
        .error (invalidOrigin "Origin is not trusted." (some 403))

/-- A principal has every role that is asked for. -/
def requireRoles (principal : Principal) (roles : List String) :
    Except Failure Unit := do
  let expected ←
    normalizeCapabilities deps.text roles deps.settings.maxRoles
  if ∀ role ∈ expected, role ∈ principal.roles then
    .ok ()
  else
    .error (.auth forbidden)

/-- A principal has every scope that is asked for. -/
def requireScopes (principal : Principal) (scopes : List String) :
    Except Failure Unit := do
  let expected ←
    normalizeCapabilities deps.text scopes deps.settings.maxScopes
  if ∀ scope ∈ expected, scope ∈ principal.scopes then
    .ok ()
  else
    .error (.auth forbidden)

end Service

end EpokAuth
