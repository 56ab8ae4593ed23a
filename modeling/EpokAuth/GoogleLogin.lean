import EpokAuth.GoogleVerifier
import EpokAuth.ServiceEffects
import EpokAuth.TransportChecks

namespace EpokAuth

open Transactional

/-!
# A Google login from its challenge to its answer

A login consumes its challenge, verifies the posted credential, and logs in; a
uniqueness conflict with another login is answered by one more attempt, which
only logs into an identity that is linked by then.  Each part is a transaction
of its own, so each may meet another store.
-/

/-! ## Where a login leads -/

/-- Which branch a login with verified claims takes in a store. -/
inductive LoginPath where
  | linked (identity : ExternalIdentity)
  | refused
  | links (user : UserAccount)
  | creates (email : String)

/-- Which way a login takes, by the mode and by what is stored. -/
def loginPath
    (settings : AuthSettings)
    (claims : GoogleClaims)
    (now : Instant)
    (store : Store) :
    LoginPath :=
  match store.identities.find? fun identity =>
    identity.issuer = googleIssuer && identity.subject = claims.subject with
  | some identity => .linked identity
  | none =>
      match settings.googleAccountMode, claims.email with
      | .linkedOnly, _ => .refused
      | _, none => .refused
      | mode, some email =>
          if isAuthoritative claims then
            match store.users.find? fun user => user.email = email with
            | some user =>
                if canAutoLink user claims now then .links user else .refused
            | none => if mode = .open_ then .creates email else .refused
          else
            .refused

/-- A branch that inserts an identity may meet a concurrent one. -/
def LoginPath.inserts : LoginPath → Bool
  | .linked _ => false
  | .refused => false
  | .links _ => true
  | .creates _ => true

/-- The account of an identity may authenticate. -/
def ownerAvailable
    (store : Store)
    (identity : ExternalIdentity)
    (now : Instant) :
    Bool :=
  (store.users.get? identity.userId).any fun user => user.canAuthenticate now

/-- An account has a Google identity already. -/
def ownsGoogleIdentity (store : Store) (userId : Uuid) : Bool :=
  (store.identities.find? fun identity =>
    identity.userId = userId && identity.issuer = googleIssuer).isSome

/-- The constraints of the tables of accounts and identities. -/
structure UniqueRows (store : Store) : Prop where
  emails : ∀ user other,
    store.users.get? user.id = some user →
    store.users.get? other.id = some other →
    user.email = other.email → user.id = other.id
  identities : ∀ identity other,
    store.identities.get? identity.id = some identity →
    store.identities.get? other.id = some other →
    identity.issuer = other.issuer →
    identity.subject = other.subject ∨ identity.userId = other.userId →
      identity.id = other.id

/-- Values that no row of a store mentions. -/
structure GoogleLoginDraws.Unused
    (deps : Dependencies)
    (draws : GoogleLoginDraws)
    (store : Store) :
    Prop where
  user : store.users.get? draws.userId = none
  identity : store.identities.get? draws.identityId = none
  unowned : ownsGoogleIdentity store draws.userId = false
  session : draws.session.Unused deps store.sessions

/-- What a login alone in a store comes to. -/
inductive LoginVerdict where
  | logged
  | refused
  | conflicting
  | raised (failure : Failure)

/-- The verdict on a branch that needs a password, and maybe a name. -/
def preparedVerdict
    (password displayName : Except Failure String)
    (prepared : LoginVerdict) :
    LoginVerdict :=
  match password, displayName with
  | .error failure, _ => .raised failure
  | .ok _, .error failure => .raised failure
  | .ok _, .ok _ => prepared

/-- What a login does on a store. -/
def loginVerdict
    (deps : Dependencies)
    (claims : GoogleClaims)
    (now : Instant)
    (draws : GoogleLoginDraws)
    (store : Store) :
    LoginVerdict :=
  let password := deps.passwords.hash draws.salt draws.unusablePassword
  match loginPath deps.settings claims now store with
  | .linked identity =>
      if ownerAvailable store identity now then .logged else .refused
  | .refused => .refused
  | .links user =>
      preparedVerdict password (.ok user.displayName)
        (if ownsGoogleIdentity store user.id then .conflicting else .logged)
  | .creates email =>
      preparedVerdict password (claimedDisplayName claims email) .logged

/-- The subject of the claims is linked to an account that may authenticate. -/
def retrySucceeds
    (claims : GoogleClaims)
    (now : Instant)
    (store : Store) :
    Bool :=
  (store.identities.find? fun identity =>
    identity.issuer = googleIssuer && identity.subject = claims.subject).any
      fun identity => ownerAvailable store identity now

/-! ## The transactions of a login -/

/-- One call, with the clock readings it takes and the values it draws. -/
structure GoogleLoginCall where
  challengeId : Uuid
  credential : String
  origin : Option String
  context : RequestContext
  decoding : GoogleDecoding
  now : Instant
  consumedAt : Instant
  failedAt : Instant
  draws : GoogleLoginDraws
  retryDraws : SessionDraws

/-- The stores that the transactions of a call meet. -/
structure LoginStores where
  consumption : Store
  failure : Store
  login : Store
  retry : Store

/-- The transactions of a call, each with the stores around it, and its answer. -/
structure LoginOutcome where
  transactions : List (Store × Store)
  answer : Except Failure SessionBundle

/-- An outcome after one more transaction before it. -/
def LoginOutcome.after
    (transaction : Store × Store)
    (outcome : LoginOutcome) :
    LoginOutcome :=
  { outcome with transactions := transaction :: outcome.transactions }

section Call

variable (env : Environment) (call : GoogleLoginCall) (stores : LoginStores)

/-- A login that committed: `none` is answered by the error. -/
def answerLogin : Option SessionBundle → Except Failure SessionBundle
  | some bundle => .ok bundle
  | none => .error (.auth invalidGoogleCredentials)

/-- The attempt after a uniqueness conflict. -/
def retryLogin (claims : GoogleClaims) : LoginOutcome :=
  let retried :=
    (ServiceTx.loginLinkedAfterConflict claims call.now call.context
      call.retryDraws).execute env stores.retry
  { transactions := [(stores.retry, retried.2)]
    answer := retried.1.bind answerLogin }

/--
Log in with verified claims.  A conflict with a concurrent transaction is met
where the login inserts, and rolls it back.
-/
def loginVerified (claims : GoogleClaims) (conflict : Bool) : LoginOutcome :=
  let login :=
    (ServiceTx.googleLogin claims call.now call.context call.draws).execute env
      stores.login
  match login.1 with
  | .error (.storeConflict _) =>
      (retryLogin env call stores claims).after (stores.login, login.2)
  | .error failure =>
      { transactions := [(stores.login, login.2)], answer := .error failure }
  | .ok result =>
      if conflict &&
          (loginPath env.settings claims call.now stores.login).inserts then
        (retryLogin env call stores claims).after (stores.login, stores.login)
      else
        { transactions := [(stores.login, login.2)]
          answer := answerLogin result }

/-- Verify the credential for a challenge, and log in. -/
def loginWithChallenge (challenge : GoogleChallenge) (conflict : Bool) :
    LoginOutcome :=
  match verifyCredential env.text env.settings call.credential challenge.nonce
    call.decoding with
  | .accepted claims => loginVerified env call stores claims conflict
  | .refused failure providerUnavailable =>
      let recorded :=
        (ServiceTx.verificationFailure false providerUnavailable call.failedAt
          call.context).execute env stores.failure
      { transactions := [(stores.failure, recorded.2)]
        answer := .error failure }
  | .escaped failure => { transactions := [], answer := .error failure }

/-- The transaction that consumes the challenge of a call. -/
def consumption : Except Failure (Option GoogleChallenge) × Store :=
  (ServiceTx.consumeGoogleChallenge call.challengeId .login call.consumedAt
    none).execute env stores.consumption

/-- All the transactions of a Google login, and its answer. -/
def finishLogin (clientId : String) (conflict : Bool) : LoginOutcome :=
  match validateGoogleOrigin env.toDependencies call.origin with
  | .error failure => { transactions := [], answer := .error failure }
  | .ok expectedOrigin =>
      let consumed := consumption env call stores
      match consumed.1.bind (acceptedChallenge expectedOrigin clientId) with
      | .error failure =>
          { transactions := [(stores.consumption, consumed.2)]
            answer := .error failure }
      | .ok challenge =>
          (loginWithChallenge env call stores challenge conflict).after
            (stores.consumption, consumed.2)

end Call

/-! ## What a call leaves behind -/

namespace LoginOutcome

variable (outcome : LoginOutcome)

/-- The events that the transactions of a call appended. -/
def events : List SecurityEvent :=
  outcome.transactions.flatMap fun transaction =>
    transaction.2.events.drop transaction.1.events.length

/-- How many events of a type a call committed. -/
def committed (eventType : SecurityEventType) : Nat :=
  outcome.events.countP fun event => event.eventType = eventType

/-- No transaction of a call changed an account, an identity or a session. -/
def LeavesAccounts : Prop :=
  ∀ transaction ∈ outcome.transactions,
    transaction.2.users = transaction.1.users ∧
      transaction.2.identities = transaction.1.identities ∧
      transaction.2.sessions = transaction.1.sessions

/--
A call returns a session and recorded one success, or raises an error of the
catalogue, recorded one failure and changed nothing.
-/
def AuditedOnce : Prop :=
  match outcome.answer with
  | .ok _ =>
      outcome.committed .googleLoginSucceeded = 1 ∧
        outcome.committed .googleLoginFailed = 0
  | .error failure =>
      (∃ error, failure = .auth error) ∧
        outcome.committed .googleLoginFailed = 1 ∧
        outcome.LeavesAccounts

end LoginOutcome

end EpokAuth
