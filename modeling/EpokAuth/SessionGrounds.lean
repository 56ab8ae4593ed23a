import EpokAuth.EmailLinkService
import EpokAuth.GoogleLogin
import EpokAuth.Reauthentication

namespace EpokAuth

open Transactional

/-!
# What a session is opened on

A session that starts a family is inserted by a transaction that has verified a
credential of the account in the store that it met: a password, an email link,
a passkey, or an identity with its verified claims.  A session that continues a
family is inserted by a refresh that presented both tokens of the session it
replaces.
-/

/-- A link that a browser logs in with is live, its own and its account's. -/
structure LinkProof
    (deps : Dependencies)
    (store : Store)
    (token browserNonce : String)
    (now : Instant)
    (link : EmailLink)
    (user : UserAccount) :
    Prop where
  stored : store.links.get? link.id = some link
  account : store.users.get? link.userId = some user
  token : link.tokenHash = deps.tokenHash token
  purpose : link.purpose = .login
  active : link.state = .active
  unexpired : now < link.expiresAt
  current : link.securityVersion = user.securityVersion
  recipient : link.recipientHash = deps.tokenHash user.email
  browser : link.browserHash = some (deps.tokenHash browserNonce)
  eligible : canRequest deps.settings user .login now = true

/-- A response that a passkey of an account verifies. -/
structure PasskeyProof
    (adapter : PasskeyAdapter)
    (store : Store)
    (response : PasskeyResponse)
    (now : Instant)
    (passkey : PasskeyCredential)
    (verified : VerifiedPasskeyAuthentication)
    (user : UserAccount) :
    Prop where
  stored : store.passkeys.get? passkey.id = some passkey
  account : store.users.get? passkey.userId = some user
  named :
    adapter.credentialId response.credential = some passkey.credentialId
  unrevoked : passkey.revokedAt = none
  available : user.canAuthenticate now = true
  accepted :
    adapter.verifyAuthentication response.credential response.challenge
        response.origin passkey =
      some verified

/-- An identity of verified claims belongs to an account. -/
structure IdentityProof
    (store : Store)
    (claims : GoogleClaims)
    (now : Instant)
    (identity : ExternalIdentity)
    (user : UserAccount) :
    Prop where
  stored : store.identities.get? identity.id = some identity
  account : store.users.get? identity.userId = some user
  issuer : identity.issuer = googleIssuer
  subject : identity.subject = claims.subject
  available : user.canAuthenticate now = true

/-- What a transaction has verified of the account it opens a family for. -/
inductive Grounds (env : Environment) (store : Store) :
    ServiceTx → UserAccount → Prop where
  | password
      {normalizedEmail password : String}
      {now : Instant}
      {context : RequestContext}
      {salt : Nat}
      {draws : SessionDraws}
      {user : UserAccount}
      (account : store.users.get? user.id = some user)
      (addressed : user.email = normalizedEmail)
      (available : user.canAuthenticate now = true)
      (enabled : user.passwordLoginEnabled = true)
      (verifies :
        (env.passwords.verifiedForLogin salt password
            (some user.passwordHash)).valid =
          true) :
      Grounds env store
        (.login normalizedEmail password now context salt draws) user
  | currentPassword
      {principal : Principal}
      {currentPassword newPassword : String}
      {now : Instant}
      {context : RequestContext}
      {salts : ChangePasswordSalts}
      {draws : SessionDraws}
      {user : UserAccount}
      (account : store.users.get? user.id = some user)
      (acting : user.id = principal.userId)
      (inForce : PrincipalInForce store principal now)
      (verifies :
        (env.passwords.verified salts.current currentPassword
            user.passwordHash).valid =
          true) :
      Grounds env store
        (.changePassword principal currentPassword newPassword now context
          salts draws)
        user
  | emailLink
      {token browserNonce : String}
      {now : Instant}
      {context : RequestContext}
      {draws : SessionDraws}
      {link : EmailLink}
      {user : UserAccount}
      (proof :
        LinkProof env.toDependencies store token browserNonce now link user) :
      Grounds env store (.emailLinkLogin token browserNonce now context draws)
        user
  | passkey
      {response : PasskeyResponse}
      {now : Instant}
      {context : RequestContext}
      {draws : SessionDraws}
      {passkey : PasskeyCredential}
      {verified : VerifiedPasskeyAuthentication}
      {user : UserAccount}
      (proof :
        PasskeyProof env.adapter store response now passkey verified user) :
      Grounds env store (.finishAuthentication response now context draws) user
  | identity
      {claims : GoogleClaims}
      {now : Instant}
      {context : RequestContext}
      {draws : GoogleLoginDraws}
      {identity : ExternalIdentity}
      {user : UserAccount}
      (proof : IdentityProof store claims now identity user) :
      Grounds env store (.googleLogin claims now context draws) user
  | identityOfOther
      {claims : GoogleClaims}
      {now : Instant}
      {context : RequestContext}
      {draws : SessionDraws}
      {identity : ExternalIdentity}
      {user : UserAccount}
      (proof : IdentityProof store claims now identity user) :
      Grounds env store (.loginLinkedAfterConflict claims now context draws)
        user
  /-- The account was preauthorised for the verified address of the claims. -/
  | preauthorised
      {claims : GoogleClaims}
      {now : Instant}
      {context : RequestContext}
      {draws : GoogleLoginDraws}
      {user : UserAccount}
      (admits : env.settings.googleAccountMode ≠ .linkedOnly)
      (account : store.users.get? user.id = some user)
      (unlinked : Unlinked store claims)
      (authoritative : isAuthoritative claims = true)
      (permitted : canAutoLink user claims now = true) :
      Grounds env store (.googleLogin claims now context draws) user
  /-- The account is created for the verified address of the claims. -/
  | created
      {claims : GoogleClaims}
      {now : Instant}
      {context : RequestContext}
      {draws : GoogleLoginDraws}
      {user : UserAccount}
      (admits : env.settings.googleAccountMode = .open_)
      (absent : store.users.get? user.id = none)
      (unlinked : Unlinked store claims)
      (authoritative : isAuthoritative claims = true)
      (addressed : claims.email = some user.email)
      (unknown :
        (store.users.find? fun other => other.email = user.email) = none) :
      Grounds env store (.googleLogin claims now context draws) user

/-- The session and the account that a refresh presents both tokens of. -/
structure PresentsTokens
    (deps : Dependencies)
    (store : Store)
    (refreshToken csrfCookie : String)
    (now : Instant)
    (session : RefreshSession)
    (user : UserAccount) :
    Prop where
  stored : store.sessions.get? session.id = some session
  account : store.users.get? session.userId = some user
  token : session.tokenHash = deps.tokenHash refreshToken
  csrf : session.csrfHash = deps.tokenHash csrfCookie
  unused : session.usedAt = none
  unrevoked : session.revokedAt = none
  beforeIdle : now < session.idleExpiresAt
  beforeAbsolute : now < session.absoluteExpiresAt
  available : user.canAuthenticate now = true

/-- The session bundle that a committed transaction answers. -/
def ServiceTx.bundle : (tx : ServiceTx) → tx.Answer → Option SessionBundle
  | .login .., answer => answer.toOption
  | .refresh .., answer => answer.toOption
  | .changePassword .., bundle => some bundle
  | .emailLinkLogin .., answer => answer
  | .finishAuthentication .., answer => answer.toOption
  | .googleLogin .., answer => answer
  | .loginLinkedAfterConflict .., answer => answer
  | _, _ => none

/-- No session is stored that was not stored before. -/
def AddsNone (before after : Table RefreshSession) : Prop :=
  ∀ id, (after.get? id).isSome → (before.get? id).isSome

/-- One session is stored that was not, and its bundle is answered. -/
structure Adds
    (deps : Dependencies)
    (user : UserAccount)
    (now : Instant)
    (lineage : Lineage)
    (draws : SessionDraws)
    (before : Table RefreshSession)
    (bundle : SessionBundle)
    (after : Table RefreshSession) :
    Prop where
  absent : before.get? draws.sessionId = none
  stored :
    after.get? draws.sessionId =
      some (issuedSession deps user.id now lineage draws)
  others : ∀ id, id ≠ draws.sessionId →
    (after.get? id).isSome → (before.get? id).isSome
  answered : ∃ account : UserAccount,
    account.id = user.id ∧
      bundle =
        issuedBundle deps account now
          (issuedSession deps user.id now lineage draws) draws

/-- The lineage that a rotation continues. -/
def RefreshSession.lineage (session : RefreshSession) : Lineage where
  familyId := session.familyId
  absoluteExpiresAt := session.absoluteExpiresAt
  authenticatedAt := session.authenticatedAt

/-- How a transaction that answers a session came to store it. -/
inductive Mints (env : Environment) (before : Store) :
    ServiceTx → SessionBundle → Store → Prop where
  | opens
      {tx : ServiceTx}
      {bundle : SessionBundle}
      {after : Store}
      {user : UserAccount}
      {draws : SessionDraws}
      {now : Instant}
      (grounds : Grounds env before tx user)
      (opening : tx.opening = some draws)
      (clock : tx.clock = some now)
      (adds :
        Adds env.toDependencies user now
          (openLineage env.toDependencies now draws) draws before.sessions
          bundle after.sessions) :
      Mints env before tx bundle after
  | rotates
      {refreshToken csrfCookie : String}
      {now : Instant}
      {context : RequestContext}
      {draws : SessionDraws}
      {bundle : SessionBundle}
      {after : Store}
      {session : RefreshSession}
      {user : UserAccount}
      (presents :
        PresentsTokens env.toDependencies before refreshToken csrfCookie now
          session user)
      (adds :
        Adds env.toDependencies user now session.lineage draws before.sessions
          bundle after.sessions) :
      Mints env before (.refresh refreshToken csrfCookie now context draws)
        bundle after

/-- What an answer says of the sessions that its transaction added. -/
def Accounts
    (env : Environment)
    (before : Store)
    (tx : ServiceTx)
    (answer : tx.Answer)
    (after : Store) :
    Prop :=
  match tx.bundle answer with
  | none => AddsNone before.sessions after.sessions
  | some bundle => Mints env before tx bundle after

/-! ## Transactions that add none -/

/-- Revoking sessions stores and removes none. -/
theorem isSome_revoked
    {property : RefreshSession → Bool}
    {revokedAt : Instant}
    (sessions : Table RefreshSession)
    (id : Uuid) :
    ((sessions.revise property (Store.revokeAt revokedAt) fun _ => rfl).get?
        id).isSome =
      (sessions.get? id).isSome :=
  (congrArg Option.isSome
    (Table.get?_revise sessions property (Store.revokeAt revokedAt)
      (fun _ => rfl) id)).trans
    Option.isSome_map

namespace AddsNone

variable
  {before after later : Table RefreshSession}

theorem refl (table : Table RefreshSession) : AddsNone table table :=
  fun _ present => present

theorem trans (first : AddsNone before after) (second : AddsNone after later) :
    AddsNone before later :=
  fun id present => first id (second id present)

theorem put
    {session : RefreshSession}
    (held : (before.get? session.id).isSome) :
    AddsNone before (before.put session) := by
  intro id present
  rw [Table.get?_put] at present
  split at present
  · rename_i same
    exact same ▸ held
  · exact present

theorem revoked
    {property : RefreshSession → Bool}
    {revokedAt : Instant} :
    AddsNone before
      (before.revise property (Store.revokeAt revokedAt) fun _ => rfl) :=
  fun id present => isSome_revoked before id ▸ present

end AddsNone

/-- A statement that inserts no session adds none. -/
theorem addsNone_apply
    {statement : Statement}
    {view : Store}
    {write : Write}
    (spares : statement.kind ≠ some .opensSession)
    (may : statement.MayWrite view write) :
    AddsNone view.sessions (Store.apply write view).sessions := by
  have elsewhere :
      (∀ session, write ≠ .putSession session) →
        AddsNone view.sessions (Store.apply write view).sessions := by
    intro other
    cases write with
    | putSession session => exact absurd rfl (other session)
    | _ => exact .refl _
  cases statement with
  | insertSession session => exact absurd rfl spares
  | updateSession session =>
      obtain ⟨rfl, present⟩ := may
      exact .put present
  | revokeFamily familyId revokedAt =>
      obtain ⟨session, found, _, rfl⟩ := may
      exact .put (Option.isSome_iff_exists.mpr ⟨session, found⟩)
  | revokeUserSessions userId revokedAt =>
      obtain ⟨session, found, _, rfl⟩ := may
      exact .put (Option.isSome_iff_exists.mpr ⟨session, found⟩)
  | insertUser user =>
      obtain ⟨rfl, _⟩ := may
      exact .refl _
  | updateUser user =>
      obtain ⟨rfl, _⟩ := may
      exact .refl _
  | _ => exact elsewhere may.2

/-- Such a statement adds none when it is run alone. -/
theorem addsNone_evaluate
    {statement : Statement}
    {store start : Store}
    (spares : statement.kind ≠ some .opensSession)
    (kept : AddsNone start.sessions store.sessions) :
    AddsNone start.sessions (Store.evaluate statement store).2.sessions := by
  have writes :
      StoreExecution.Writes statement.MayWrite (Store.execution statement) :=
    Store.execution_writes statement
  refine @StoreExecution.perform_keeps _ _ _
    (fun view => AddsNone start.sessions view.sessions) store writes ?_ kept
  intro view write keptView may
  exact keptView.trans (addsNone_apply spares may)

section Rules

variable
  {env : Environment}
  {deps : Dependencies}
  {now : Instant}
  {context : RequestContext}
  {draws : SessionDraws}
  {user : UserAccount}
  {store before : Store}

/-- A part of a transaction that inserts no session adds none. -/
theorem wp_addsNone
    {kinds : List StatementKind}
    {body : Tx α}
    {normal : α → Store → Prop}
    (within : Tx.StaysWithin kinds body)
    (spares : .opensSession ∉ kinds)
    (added : ∀ value later,
      AddsNone store.sessions later.sessions → normal value later) :
    Tx.wp body normal (fun _ _ => True) store := by
  refine Prog.wp_of_issues_keeping within ?_ added (fun _ _ _ => trivial)
    (AddsNone.refl store.sessions)
  intro statement allowed _ view kept continues
  refine continues _ _ (addsNone_evaluate (fun opens => ?_) kept)
  exact spares (allowed _ opens)

/-- Issuing adds one session, with its bundle. -/
theorem wp_issue_adds
    {account : UserAccount}
    {lineage : Option Lineage}
    {normal : SessionBundle → Store → Prop}
    (same : account.id = user.id)
    (kept : ∀ id,
      (store.sessions.get? id).isSome = (before.sessions.get? id).isSome)
    (added : ∀ bundle later,
      Adds deps user now (lineage.getD (openLineage deps now draws)) draws
          before.sessions bundle later.sessions →
        normal bundle later) :
    Tx.wp (issue deps account now lineage context draws) normal
      (fun _ _ => True) store := by
  rw [wp_issue_session]
  simp only
  split
  · trivial
  · rename_i admitted
    rw [Bool.or_eq_true, not_or] at admitted
    refine added _ _
      { absent := ?_
        stored := ?_
        others := ?_
        answered := ⟨account, same, by rw [same]⟩ }
    · have absent := admitted.1
      change ¬ (store.sessions.get? draws.sessionId).isSome = true at absent
      rw [kept] at absent
      exact Option.not_isSome_iff_eq_none.mp absent
    · rw [same]
      exact Table.get?_put_self _ _
    · intro id other present
      rw [← kept]
      rw [Table.get?_put_of_ne _ other] at present
      exact present

end Rules

end EpokAuth
