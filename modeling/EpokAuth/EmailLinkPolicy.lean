import EpokAuth.Tokens

namespace EpokAuth

/-!
# Email-link policy

Who may request a link, when a link is deliverable and when it may be consumed.
A link is bound to the security version and the address of its account, so any
later security change makes both decisions fail.
-/

/-- Accounts are activated by links only where there is a page for them. -/
def requireActivationUrl (settings : AuthSettings) : Except Failure Unit :=
  if settings.emailLinkActivationUrl = none then
    .error (.valueError
      "email_link_activation_url is required for account activation")
  else
    .ok ()

/-- The page that the links for a purpose lead to. -/
def emailLinkUrl (settings : AuthSettings) (purpose : EmailLinkPurpose) :
    Except Failure String :=
  let url :=
    match purpose with
    | .activation => settings.emailLinkActivationUrl
    | .login => settings.emailLinkLoginUrl
    | .passwordReset => settings.emailLinkPasswordResetUrl
    | .invitation => settings.emailLinkInvitationUrl
  match url with
  | none =>
      .error (.valueError
        (purpose.value ++ " email link URL is not configured"))
  | some url => .ok url

/-- How long the links for a purpose last. -/
def emailLinkTtl (settings : AuthSettings) : EmailLinkPurpose → Nat
  | .activation => settings.emailLinkActivationTtlSeconds
  | .login => settings.emailLinkLoginTtlSeconds
  | .passwordReset => settings.emailLinkPasswordResetTtlSeconds
  | .invitation => settings.emailLinkInvitationTtlSeconds

/-- Whether an account may be sent a link for a purpose now. -/
def canRequest
    (settings : AuthSettings)
    (user : UserAccount)
    (purpose : EmailLinkPurpose)
    (now : Instant) :
    Bool :=
  match purpose with
  | .activation => user.status = .pendingActivation
  | .login =>
      settings.adminRole ∉ user.roles && user.canAuthenticate now &&
        user.emailLinkLoginEnabled && !user.mustChangePassword
  | .passwordReset =>
      settings.adminRole ∉ user.roles && user.status = .active &&
        user.passwordLoginEnabled
  | .invitation =>
      settings.adminRole ∉ user.roles && user.status = .active &&
        user.mustChangePassword

section Decisions

variable (deps : Dependencies)

/-- The part of both decisions that compares a link with its account. -/
def boundTo
    (link : EmailLink)
    (user : UserAccount)
    (now : Instant) :
    Except Failure Bool :=
  if now < link.expiresAt && link.securityVersion = user.securityVersion then
    match compareDigest link.recipientHash (deps.tokenHash user.email) with
    | .error failure => .error failure
    | .ok same =>
        .ok (same && canRequest deps.settings user link.purpose now)
  else
    .ok false

/-- The latest link of an account, if it may be activated now. -/
def deliverableLink
    (link latest : Option EmailLink)
    (user : Option UserAccount)
    (now : Instant) :
    Except Failure (Option EmailLink) :=
  match link, latest, user with
  | some link, some latest, some user =>
      if link.state = .pending && link.id = latest.id then do
        if (← boundTo deps link user now) then
          return some link
        else
          return none
      else
        return none
  | _, _, _ => return none

/-- Whether an active link is still one for its account. -/
def matchesUser
    (link : EmailLink)
    (user : UserAccount)
    (now : Instant) :
    Except Failure Bool :=
  if link.state = .active then boundTo deps link user now else .ok false

/-- Whether a link is used in the browser that asked for it. -/
def validBrowser (link : EmailLink) (browserNonce : Option String) :
    Except Failure Bool :=
  match link.browserHash, browserNonce with
  | some browserHash, some browserNonce =>
      compareDigest browserHash (deps.tokenHash browserNonce)
  | _, _ => .ok false

end Decisions

/-- The characters of a token in the URL-safe alphabet. -/
def isUrlSafe (character : Char) : Bool :=
  ('a' ≤ character && character ≤ 'z') ||
    ('A' ≤ character && character ≤ 'Z') ||
    ('0' ≤ character && character ≤ '9') || ['-', '_'].contains character

/-- A nonce the browser presents is kept when it has the drawn form. -/
def loginNonce (existing : Option String) (drawn : String) : String :=
  match existing with
  | none => drawn
  | some existing =>
      if existing.length = 43 && existing.toList.all isUrlSafe then
        existing
      else
        drawn

/-- A link is refused for whatever reason with one error. -/
def invalidEmailLink : Failure :=
  .auth
    { code := .emailLinkInvalid
      detail := "The email link is invalid or expired." }

/-- A link bound to its account has the version and passes the request rule. -/
theorem boundTo_ok_true
    {deps : Dependencies}
    {link : EmailLink}
    {user : UserAccount}
    {now : Instant}
    (bound : boundTo deps link user now = .ok true) :
    now < link.expiresAt ∧
      link.securityVersion = user.securityVersion ∧
      canRequest deps.settings user link.purpose now = true := by
  unfold boundTo at bound
  split at bound
  · rename_i holds
    rw [Bool.and_eq_true, decide_eq_true_eq, decide_eq_true_eq] at holds
    split at bound
    · exact absurd bound (by simp)
    · simp only [Except.ok.injEq, Bool.and_eq_true] at bound
      exact ⟨holds.1, holds.2, bound.2⟩
  · simp at bound

/-- A link bound to its account was issued to its address. -/
theorem recipientHash_of_boundTo
    {deps : Dependencies}
    {link : EmailLink}
    {user : UserAccount}
    {now : Instant}
    (bound : boundTo deps link user now = .ok true) :
    link.recipientHash = deps.tokenHash user.email := by
  unfold boundTo at bound
  split at bound
  · split at bound
    · cases bound
    · rename_i same compared
      simp only [Except.ok.injEq, Bool.and_eq_true] at bound
      rw [bound.1] at compared
      exact eq_of_compareDigest compared
  · cases bound

/-- A link that is not bound to its account expired, or the account changed. -/
theorem boundTo_ok_false
    {deps : Dependencies}
    {link : EmailLink}
    {user : UserAccount}
    {now : Instant}
    (unbound : boundTo deps link user now = .ok false) :
    link.expiresAt ≤ now ∨
      link.securityVersion ≠ user.securityVersion ∨
      link.recipientHash ≠ deps.tokenHash user.email ∨
      canRequest deps.settings user link.purpose now = false := by
  unfold boundTo at unbound
  split at unbound
  · split at unbound
    · cases unbound
    · rename_i same compared
      simp only [Except.ok.injEq, Bool.and_eq_false_iff] at unbound
      rcases unbound with different | ineligible
      · rw [different] at compared
        exact .inr (.inr (.inl (ne_of_compareDigest compared)))
      · exact .inr (.inr (.inr ineligible))
  · rename_i failed
    rw [Bool.and_eq_true, decide_eq_true_eq, decide_eq_true_eq, not_and_or]
      at failed
    rcases failed with expired | version
    · exact .inl (not_lt.mp expired)
    · exact .inr (.inl version)

/-- A deliverable link is pending, the latest one, and bound to its account. -/
theorem deliverableLink_ok_some
    {deps : Dependencies}
    {link latest : Option EmailLink}
    {user : Option UserAccount}
    {now : Instant}
    {deliverable : EmailLink}
    (allowed :
      deliverableLink deps link latest user now = .ok (some deliverable)) :
    ∃ newest account,
      link = some deliverable ∧ latest = some newest ∧ user = some account ∧
        deliverable.state = .pending ∧ deliverable.id = newest.id ∧
        boundTo deps deliverable account now = .ok true := by
  unfold deliverableLink at allowed
  split at allowed
  · rename_i link latest account
    split at allowed
    · rename_i holds
      rw [Bool.and_eq_true, decide_eq_true_eq, decide_eq_true_eq] at holds
      cases bound : boundTo deps link account now with
      | error failure =>
          simp [bound, bind, Except.bind] at allowed
      | ok same =>
          cases same with
          | false =>
              simp [bound, bind, Except.bind, pure, Except.pure] at allowed
          | true =>
              have isLink : link = deliverable := by
                simpa [bound, bind, Except.bind, pure, Except.pure] using
                  allowed
              subst isLink
              exact ⟨latest, account, rfl, rfl, rfl, holds.1, holds.2, bound⟩
    · simp [pure, Except.pure] at allowed
  · simp [pure, Except.pure] at allowed

/-- A link that matches its account is active and bound to it. -/
theorem matchesUser_ok_true
    {deps : Dependencies}
    {link : EmailLink}
    {user : UserAccount}
    {now : Instant}
    (allowed : matchesUser deps link user now = .ok true) :
    link.state = .active ∧
      link.securityVersion = user.securityVersion ∧
      canRequest deps.settings user link.purpose now = true := by
  unfold matchesUser at allowed
  split at allowed
  · rename_i active
    obtain ⟨_, version, permitted⟩ := boundTo_ok_true allowed
    exact ⟨active, version, permitted⟩
  · simp at allowed

end EpokAuth
