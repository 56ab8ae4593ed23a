import EpokAuth.EmailLinkPolicy
import EpokAuth.SessionIssuer

namespace EpokAuth

open Transactional

/-!
# The email-link service

A link is issued pending, becomes active when its email is delivered, and is
consumed once.  Each of these transactions locks the account before the link,
so the decision it takes about both still holds when it writes.
-/

/-- What is drawn to issue one link. -/
structure LinkDraws where
  linkId : Uuid
  token : String
  deriving Repr, DecidableEq

section Links

variable (deps : Dependencies)

/-- The row of a newly issued link. -/
def issuedLink
    (user : UserAccount)
    (purpose : EmailLinkPurpose)
    (latest : Option EmailLink)
    (now : Instant)
    (browserNonce : Option String)
    (draws : LinkDraws) :
    EmailLink where
  id := draws.linkId
  userId := user.id
  purpose := purpose
  generation :=
    match latest with
    | none => 1
    | some latest => latest.generation + 1
  tokenHash := deps.tokenHash draws.token
  recipientHash := deps.tokenHash user.email
  securityVersion := user.securityVersion
  createdAt := now
  expiresAt := now + seconds (emailLinkTtl deps.settings purpose)
  browserHash := browserNonce.map deps.tokenHash

/-- The token of a link is already made of characters that are not quoted. -/
def actionUrl (url token : String) : String :=
  url ++ "#token=" ++ token

/--
Issue a link, unless its account has been issued too many within the window.
-/
def issueLink
    (user : UserAccount)
    (purpose : EmailLinkPurpose)
    (now : Instant)
    (context : RequestContext)
    (browserNonce : Option String)
    (draws : LinkDraws) :
    Tx EmailLinkIssue := do
  let _ ←
    Tx.deleteOldEmailLinks
      (now - seconds deps.settings.emailLinkRetentionSeconds)
  let requestCount ←
    Tx.countEmailLinkRequests user.id purpose
      (now - seconds deps.settings.emailLinkRequestWindowSeconds)
  if deps.settings.emailLinkMaxRequestsPerWindow ≤ requestCount then
    return {}
  else do
    let latest ← Tx.getLatestEmailLink user.id purpose
    let link := issuedLink deps user purpose latest now browserNonce draws
    Tx.insertEmailLink link
    recordSecurityEvent .emailLinkIssued now context (some user.id) none
      (some [("purpose", .text purpose.value)])
    let url ← Prog.ofExcept (emailLinkUrl deps.settings purpose)
    return {
      pending := some
        { linkId := link.id
          email :=
            { recipient := user.email
              kind := purpose.emailKind
              actionUrl := some (actionUrl url draws.token)
              expiresAt := some link.expiresAt } }
    }

/-- A presented token may be looked up at all. -/
def tokenAdmissible (token : String) : Bool :=
  token ≠ "" && token.length ≤ deps.settings.emailLinkMaxTokenChars

/--
The link of a token and its account, if it may be consumed; one that is outdated
is revoked.
-/
def consumableLink
    (token : String)
    (purpose : EmailLinkPurpose)
    (now : Instant)
    (browserNonce : Option String) :
    Tx (Option EmailLink × Option UserAccount) := do
  if !tokenAdmissible deps token then
    return (none, none)
  else do
    let candidate ←
      Tx.getEmailLinkByTokenHash (deps.tokenHash token) purpose
    match candidate with
    | none => return (none, none)
    | some candidate => do
        let user ← Tx.getUserById candidate.userId true
        let link ← Tx.getEmailLink candidate.id true
        match link with
        | none => return (none, user)
        | some link =>
            if link.state ≠ .active then
              return (none, user)
            else
              match user with
              | none => do
                  let _ ← Tx.revokeEmailLink link.id now
                  return (none, none)
              | some user => do
                  let isMatch ← Prog.ofExcept (matchesUser deps link user now)
                  if !isMatch then do
                    let _ ← Tx.revokeEmailLink link.id now
                    return (none, some user)
                  else if purpose = .login then do
                    let isBrowser ←
                      Prog.ofExcept (validBrowser deps link browserNonce)
                    if isBrowser then
                      return (some link, some user)
                    else
                      return (none, some user)
                  else
                    return (some link, some user)

/-- The lookup of `active_link_exists`, in a transaction of its own. -/
def activeLinkCandidate (token : String) (purpose : EmailLinkPurpose) :
    Tx (Option EmailLink) :=
  Tx.getEmailLinkByTokenHash (deps.tokenHash token) purpose

/-- The decision of `active_link_exists` on the row it found. -/
def activeLinkFound (now : Instant) (link : Option EmailLink) : Bool :=
  match link with
  | none => false
  | some link => link.state = .active && now < link.expiresAt

/--
Consume a link and, when that succeeds, complete what it authorises.  Nothing
is returned when the link, the account or the request rule refuses.
-/
def consuming
    (token : String)
    (purpose : EmailLinkPurpose)
    (now : Instant)
    (browserNonce : Option String)
    (complete : UserAccount → Tx α)
    (refused : Option UserAccount → Tx Unit) :
    Tx (Option α) := do
  let found ← consumableLink deps token purpose now browserNonce
  match found with
  | (some link, some user) =>
      if canRequest deps.settings user purpose now then do
        let consumed ← Tx.consumeEmailLink link.id link.purpose now
        match consumed with
        | none => do
            refused (some user)
            return none
        | some _ => do
            let result ← complete user
            return some result
      else do
        refused (some user)
        return none
  | (_, user) => do
      refused user
      return none

end Links

section Service

variable (deps : Dependencies)

/--
The transaction of a request by email, which tells nothing of the account.
-/
def requestForEmail
    (normalizedEmail : String)
    (purpose : EmailLinkPurpose)
    (browserNonce : Option String)
    (now : Instant)
    (context : RequestContext)
    (draws : LinkDraws) :
    Tx EmailLinkIssue := do
  let user ← Tx.getUserByEmail normalizedEmail true
  match user with
  | none => return {}
  | some user =>
      if canRequest deps.settings user purpose now then
        issueLink deps user purpose now context browserNonce draws
      else
        return {}

/-- There is no account to invite. -/
def inviteeNotFound : Failure :=
  .auth { code := .userNotFound, detail := "User not found." }

/-- The account is not one to invite. -/
def notInvitable : Failure :=
  .auth (forbidden "This account is not eligible for email invitation.")

/-- The transaction that invites an account. -/
def invite
    (userId : Uuid)
    (now : Instant)
    (context : RequestContext)
    (draws : LinkDraws) :
    Tx EmailLinkIssue := do
  let user ← Tx.getUserById userId true
  match user with
  | none => throw inviteeNotFound
  | some user =>
      if canRequest deps.settings user .invitation now then
        issueLink deps user .invitation now context none draws
      else
        throw notInvitable

/--
The transaction that activates a delivered link, or revokes one that is
outdated.
-/
def markDelivered (linkId : Uuid) (now : Instant) : Tx Bool := do
  let candidate ← Tx.getEmailLink linkId false
  match candidate with
  | none => return false
  | some candidate => do
      let user ← Tx.getUserById candidate.userId true
      let link ← Tx.getEmailLink linkId true
      let latest ← Tx.getLatestEmailLink candidate.userId candidate.purpose
      let deliverable ←
        Prog.ofExcept (deliverableLink deps link latest user now)
      match deliverable with
      | none =>
          match link with
          | none => return false
          | some link => do
              let _ ← Tx.revokeEmailLink link.id now
              return false
      | some deliverable => do
          let activated ← Tx.activateEmailLink deliverable.id now
          match activated with
          | none => return false
          | some _ => do
              let _ ←
                Tx.revokeOtherActiveEmailLinks deliverable.userId
                  deliverable.purpose deliverable.id now
              recordSecurityEvent .emailLinkDelivered now emptyContext
                (some deliverable.userId) none
                (some [("purpose", .text deliverable.purpose.value)])
              return true

/-- The transaction that closes a link whose email was not delivered. -/
def markDeliveryFailed (linkId : Uuid) (now : Instant) : Tx Unit := do
  let failed ← Tx.failEmailLink linkId now
  match failed with
  | none => return ()
  | some failed =>
      recordSecurityEvent .emailLinkDeliveryFailed now emptyContext
        (some failed.userId) none
        (some [("purpose", .text failed.purpose.value)])

/-- The transaction that records a notice that was not delivered. -/
def markNoticeDeliveryFailed (userId : Uuid) (now : Instant) : Tx Unit :=
  recordSecurityEvent .emailNoticeDeliveryFailed now emptyContext
    (some userId)

/-- The record of a login attempt that no link authorised. -/
def loginFailure
    (now : Instant)
    (context : RequestContext)
    (user : Option UserAccount) :
    Tx Unit :=
  recordSecurityEvent .emailLinkLoginFailed now context
    (user.map UserAccount.id)

/-- The transaction that logs in with a link; a refused login is recorded. -/
def emailLinkLogin
    (token browserNonce : String)
    (now : Instant)
    (context : RequestContext)
    (draws : SessionDraws) :
    Tx (Option SessionBundle) :=
  consuming deps token .login now (some browserNonce)
    (fun user => do
      let result ← issue deps user now none context draws
      recordSecurityEvent .emailLinkLoginSucceeded now context
        (some user.id) (some result.principal.sessionId)
      return result)
    (loginFailure now context)

/-- The transaction that stores the password that a link let somebody choose. -/
def emailLinkResetPassword
    (token passwordHash : String)
    (now : Instant)
    (context : RequestContext) :
    Tx (Option AuthEmail) :=
  consuming deps token .passwordReset now none
    (fun user => do
      let updated := user.activatePassword passwordHash now
      Tx.updateUser updated
      let _ ← Tx.revokeUserSessions user.id now
      recordSecurityEvent .passwordRecoveryCompleted now context
        (some user.id)
      return {
        recipient := user.email
        kind := .passwordChanged
        userId := some user.id
      })
    fun _ => return ()

/-- The transaction that accepts an invitation. -/
def activateInvitation
    (token passwordHash : String)
    (now : Instant)
    (context : RequestContext) :
    Tx (Option UserAccount) :=
  consuming deps token .invitation now none
    (fun user => do
      let result := user.activateEmailLinkLogin passwordHash now
      Tx.updateUser result
      let _ ← Tx.revokeUserSessions user.id now
      recordSecurityEvent .invitationActivated now context (some user.id)
      return result)
    fun _ => return ()

end Service

end EpokAuth
