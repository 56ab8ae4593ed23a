namespace EpokAuth

/-!
# Validated settings

The settings that the modelled services read, with the range that every numeric
field is validated against and the relations between lifetimes.  A value of
`AuthSettings` carries these facts, so a configuration the validators refuse
cannot be written down.
-/

/-- Which accounts a Google login may lead to. -/
inductive GoogleAccountMode where
  | linkedOnly
  | preauthorized
  | open_
  deriving Repr, DecidableEq

/-- The settings that the modelled operations read. -/
structure AuthSettings where
  issuer : String := "epok-auth"
  audience : String := "epok-auth-api"
  jwtLeewaySeconds : Nat := 30
  maxAccessTokenChars : Nat := 8192
  accessTtlSeconds : Nat := 15 * 60
  refreshIdleTtlSeconds : Nat := 7 * 24 * 60 * 60
  refreshAbsoluteTtlSeconds : Nat := 30 * 24 * 60 * 60
  loginMaxAttempts : Nat := 5
  lockoutSeconds : Nat := 15 * 60
  passwordMinLength : Nat := 15
  passwordMaxLength : Nat := 128
  temporaryPasswordBytes : Nat := 24
  maxRoles : Nat := 32
  maxScopes : Nat := 256
  trustedOrigins : List String := []
  requireOrigin : Bool := true
  passkeyRpId : Option String := none
  passkeyChallengeTtlSeconds : Nat := 300
  passkeyRegistrationMaxAgeSeconds : Nat := 300
  passkeyMaxCredentialsPerUser : Nat := 10
  googleClientId : Option String := none
  googleAccountMode : GoogleAccountMode := .linkedOnly
  googleHostedDomains : List String := []
  googleChallengeTtlSeconds : Nat := 300
  googleLinkMaxAgeSeconds : Nat := 300
  googleMaxCredentialChars : Nat := 8192
  emailLinkLoginUrl : Option String := none
  emailLinkPasswordResetUrl : Option String := none
  emailLinkInvitationUrl : Option String := none
  emailLinkActivationUrl : Option String := none
  emailLinkLoginTtlSeconds : Nat := 10 * 60
  emailLinkPasswordResetTtlSeconds : Nat := 15 * 60
  emailLinkInvitationTtlSeconds : Nat := 24 * 60 * 60
  emailLinkActivationTtlSeconds : Nat := 24 * 60 * 60
  emailLinkRequestWindowSeconds : Nat := 15 * 60
  emailLinkMaxRequestsPerWindow : Nat := 3
  emailLinkRetentionSeconds : Nat := 7 * 86400
  emailLinkMaxTokenChars : Nat := 128
  adminRole : String := "admin"
  defaultUserRole : String := "user"
  jwtLeewayRange : jwtLeewaySeconds ≤ 300 := by decide
  maxAccessTokenRange :
    512 ≤ maxAccessTokenChars ∧ maxAccessTokenChars ≤ 65536 := by decide
  accessTtlRange :
    60 ≤ accessTtlSeconds ∧ accessTtlSeconds ≤ 24 * 60 * 60 := by decide
  refreshIdleTtlRange :
    5 * 60 ≤ refreshIdleTtlSeconds ∧
      refreshIdleTtlSeconds ≤ 90 * 86400 := by decide
  refreshAbsoluteTtlRange :
    3600 ≤ refreshAbsoluteTtlSeconds ∧
      refreshAbsoluteTtlSeconds ≤ 365 * 86400 := by decide
  loginMaxAttemptsRange :
    2 ≤ loginMaxAttempts ∧ loginMaxAttempts ≤ 100 := by decide
  lockoutRange :
    10 ≤ lockoutSeconds ∧ lockoutSeconds ≤ 24 * 60 * 60 := by decide
  passwordMinRange :
    8 ≤ passwordMinLength ∧ passwordMinLength ≤ 128 := by decide
  passwordMaxRange :
    32 ≤ passwordMaxLength ∧ passwordMaxLength ≤ 1024 := by decide
  temporaryPasswordRange :
    16 ≤ temporaryPasswordBytes ∧ temporaryPasswordBytes ≤ 64 := by decide
  maxRolesRange : 1 ≤ maxRoles ∧ maxRoles ≤ 256 := by decide
  maxScopesRange : 1 ≤ maxScopes ∧ maxScopes ≤ 2048 := by decide
  passkeyChallengeTtlRange :
    60 ≤ passkeyChallengeTtlSeconds ∧
      passkeyChallengeTtlSeconds ≤ 600 := by decide
  passkeyRegistrationMaxAgeRange :
    passkeyRegistrationMaxAgeSeconds ≤ 3600 := by decide
  passkeyMaxCredentialsRange :
    1 ≤ passkeyMaxCredentialsPerUser ∧
      passkeyMaxCredentialsPerUser ≤ 50 := by decide
  googleChallengeTtlRange :
    60 ≤ googleChallengeTtlSeconds ∧
      googleChallengeTtlSeconds ≤ 600 := by decide
  googleLinkMaxAgeRange :
    60 ≤ googleLinkMaxAgeSeconds ∧ googleLinkMaxAgeSeconds ≤ 3600 := by decide
  googleMaxCredentialRange :
    1024 ≤ googleMaxCredentialChars ∧
      googleMaxCredentialChars ≤ 16384 := by decide
  emailLinkLoginTtlRange :
    60 ≤ emailLinkLoginTtlSeconds ∧
      emailLinkLoginTtlSeconds ≤ 60 * 60 := by decide
  emailLinkPasswordResetTtlRange :
    60 ≤ emailLinkPasswordResetTtlSeconds ∧
      emailLinkPasswordResetTtlSeconds ≤ 60 * 60 := by decide
  emailLinkInvitationTtlRange :
    300 ≤ emailLinkInvitationTtlSeconds ∧
      emailLinkInvitationTtlSeconds ≤ 86400 := by decide
  emailLinkActivationTtlRange :
    300 ≤ emailLinkActivationTtlSeconds ∧
      emailLinkActivationTtlSeconds ≤ 86400 := by decide
  emailLinkRequestWindowRange :
    60 ≤ emailLinkRequestWindowSeconds ∧
      emailLinkRequestWindowSeconds ≤ 86400 := by decide
  emailLinkMaxRequestsRange :
    1 ≤ emailLinkMaxRequestsPerWindow ∧
      emailLinkMaxRequestsPerWindow ≤ 20 := by decide
  emailLinkRetentionRange :
    300 ≤ emailLinkRetentionSeconds ∧
      emailLinkRetentionSeconds ≤ 90 * 86400 := by decide
  emailLinkMaxTokenRange :
    64 ≤ emailLinkMaxTokenChars ∧ emailLinkMaxTokenChars ≤ 512 := by decide
  accessShorterThanIdle :
    accessTtlSeconds < refreshIdleTtlSeconds := by decide
  idleWithinAbsolute :
    refreshIdleTtlSeconds ≤ refreshAbsoluteTtlSeconds := by decide
  passwordLengthsOrdered :
    passwordMinLength ≤ passwordMaxLength := by decide
  retentionCoversTtls :
    emailLinkLoginTtlSeconds ≤ emailLinkRetentionSeconds ∧
      emailLinkPasswordResetTtlSeconds ≤ emailLinkRetentionSeconds ∧
      emailLinkInvitationTtlSeconds ≤ emailLinkRetentionSeconds ∧
      emailLinkRequestWindowSeconds ≤ emailLinkRetentionSeconds ∧
      (emailLinkActivationUrl.isSome →
        emailLinkActivationTtlSeconds ≤ emailLinkRetentionSeconds) := by decide
  openModeGrantsNoAdmin :
    googleAccountMode = .open_ → defaultUserRole ≠ adminRole := by decide

end EpokAuth
