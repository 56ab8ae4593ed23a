import EpokAuth.ServiceRun

namespace EpokAuth

open Transactional

/-!
# What the services do to accounts

The abstract model of the component: every transaction changes the tables of
accounts, sessions, links, identities and passkeys by a short sequence of
moves, each enabled by a condition on the tables it meets.  Invariants and
histories are proved of moves; the transactions are shown to perform nothing
else.
-/

/-- Why a password is replaced. -/
inductive Replacement where
  /-- The holder chose a new password, with a session or by a reset link. -/
  | chosen
  /-- An administrator or a recovery set a temporary password. -/
  | temporary
  /-- An invitation made the account one without a password. -/
  | invitation
  /-- A pending account received its first password. -/
  | activation
  deriving Repr, DecidableEq

/-- A change of one account row. -/
inductive AccountChange where
  | fail
  | verify (verification : PasswordVerification)
  | replace (reason : Replacement) (passwordHash : String)
  | autoLink (passwordHash : String)
  | administer (resolved : ResolvedUpdate)
  | fence (clearsAutoLink : Bool)
  deriving Repr, DecidableEq

/-- A row inserted, removed or revoked together with an account change. -/
inductive Attachment where
  | nothing
  | insertIdentity (identity : ExternalIdentity)
  | deleteIdentity (identityId : Uuid)
  | insertPasskey (passkey : PasskeyCredential)
  | revokePasskey (passkeyId : Uuid)
  deriving Repr, DecidableEq

/-- One change of the rows that the security of accounts rests on. -/
inductive Move where
  | enroll (user : UserAccount) (identity : Option ExternalIdentity)
  | account
      (userId : Uuid)
      (change : AccountChange)
      (attachment : Attachment)
      (now : Instant)
  | openSession (session : RefreshSession)
  | rotate
      (sessionId : Uuid)
      (successor : RefreshSession)
      (now : Instant)
  | revokeFamily (familyId : Uuid) (now : Instant)
  | revokeUser (userId : Uuid) (now : Instant)
  | updateIdentity (identity : ExternalIdentity)
  | updatePasskey (passkey : PasskeyCredential)
  | purgeLinks (before : Instant)
  | issueLink (link : EmailLink)
  | activateLink (linkId : Uuid) (now : Instant)
  | revokeOtherLinks
      (userId : Uuid)
      (purpose : EmailLinkPurpose)
      (activeLinkId : Uuid)
      (now : Instant)
  | failLink (linkId : Uuid) (now : Instant)
  | revokeLink (linkId : Uuid) (now : Instant)
  | consumeLink (linkId : Uuid) (now : Instant)
  deriving Repr, DecidableEq

namespace Replacement

/-- The account with its password replaced. -/
def apply
    (reason : Replacement)
    (passwordHash : String)
    (now : Instant)
    (user : UserAccount) :
    UserAccount :=
  match reason with
  | .chosen => user.activatePassword passwordHash now
  | .temporary => user.requirePasswordChange passwordHash now
  | .invitation => user.activateEmailLinkLogin passwordHash now
  | .activation =>
      { user.activatePassword passwordHash now with status := .active }

/-- The status that permits each reason. -/
def Permitted (reason : Replacement) (user : UserAccount) : Prop :=
  match reason with
  | .chosen => user.status = .active
  | .temporary => True
  | .invitation => user.status = .active
  | .activation => user.status = .pendingActivation

end Replacement

namespace AccountChange

section Semantics

variable (settings : AuthSettings)

/-- The account after a change. -/
def apply
    (change : AccountChange)
    (now : Instant)
    (user : UserAccount) :
    UserAccount :=
  match change with
  | .fail => afterPasswordFailure settings user now
  | .verify verification => afterPasswordVerification user verification now
  | .replace reason passwordHash => reason.apply passwordHash now user
  | .autoLink passwordHash => user.disablePassword passwordHash now
  | .administer resolved => applyUpdate user resolved now
  | .fence clearsAutoLink =>
      { user with
        googleAutoLinkAllowed :=
          !clearsAutoLink && user.googleAutoLinkAllowed }.advanceSecurityVersion
        now

/-- Whether the change revokes the sessions of the account. -/
def revokes
    (change : AccountChange)
    (now : Instant)
    (user : UserAccount) :
    Bool :=
  match change with
  | .fail => (lockAfterFailure settings user now).isSome
  | .verify _ => false
  | .replace _ _ => true
  | .autoLink _ => false
  | .administer resolved => resolved.status = .disabled
  | .fence _ => false

end Semantics

/-- The condition on the account under which a change is made. -/
def Permitted
    (change : AccountChange)
    (now : Instant)
    (user : UserAccount) :
    Prop :=
  match change with
  | .fail => user.passwordLoginEnabled = true ∧ user.canAuthenticate now = true
  | .verify _ =>
      user.passwordLoginEnabled = true ∧ user.canAuthenticate now = true
  | .replace reason _ => reason.Permitted user
  | .autoLink _ =>
      user.canAuthenticate now = true ∧
        user.googleAutoLinkAllowed = true ∧ user.mustChangePassword = true
  | .administer resolved =>
      (user.status = .pendingActivation →
          resolved.status = .pendingActivation ∨
            resolved.status = .disabled) ∧
        (resolved.status = .pendingActivation →
          user.status = .pendingActivation)
  | .fence _ => user.canAuthenticate now = true

/-- The changes that advance the security version whatever the account. -/
def Advances : AccountChange → Prop
  | .replace _ _ => True
  | .autoLink _ => True
  | .fence _ => True
  | _ => False

end AccountChange

namespace Attachment

/-- The identities after an attachment. -/
def identities
    (attachment : Attachment)
    (table : Table ExternalIdentity) :
    Table ExternalIdentity :=
  match attachment with
  | .insertIdentity identity => table.put identity
  | .deleteIdentity identityId => table.erase identityId
  | _ => table

/-- The passkeys after an attachment. -/
def passkeys
    (attachment : Attachment)
    (now : Instant)
    (table : Table PasskeyCredential) :
    Table PasskeyCredential :=
  match attachment with
  | .insertPasskey passkey => table.put passkey
  | .revokePasskey passkeyId =>
      match table.get? passkeyId with
      | none => table
      | some passkey => table.put { passkey with revokedAt := some now }
  | _ => table

/-- An attachment belongs to the account whose version the change advances. -/
def Valid
    (attachment : Attachment)
    (userId : Uuid)
    (core : Core) :
    Prop :=
  match attachment with
  | .nothing => True
  | .insertIdentity identity =>
      identity.userId = userId ∧ core.identities.get? identity.id = none
  | .deleteIdentity identityId =>
      ∃ identity,
        core.identities.get? identityId = some identity ∧
          identity.userId = userId
  | .insertPasskey passkey =>
      passkey.userId = userId ∧ core.passkeys.get? passkey.id = none
  | .revokePasskey passkeyId =>
      ∃ passkey,
        core.passkeys.get? passkeyId = some passkey ∧ passkey.userId = userId

end Attachment

/-- The change of a link by its identifier. -/
def Core.reviseLink
    (core : Core)
    (linkId : Uuid)
    (change : EmailLink → EmailLink) :
    Core :=
  match core.links.get? linkId with
  | none => core
  | some link => { core with links := core.links.put (change link) }

/-- The session that a rotation leaves behind. -/
def RefreshSession.replacedBy
    (session : RefreshSession)
    (successorId : Uuid)
    (now : Instant) :
    RefreshSession :=
  { session with usedAt := some now, replacedById := some successorId }

namespace Move

section Semantics

variable (settings : AuthSettings)

/-- The tables after a move. -/
def perform (move : Move) (core : Core) : Core :=
  match move with
  | .enroll user identity =>
      { core with
        users := core.users.put user
        identities := identity.elim core.identities core.identities.put }
  | .account userId change attachment now =>
      match core.users.get? userId with
      | none => core
      | some user =>
          { core with
            users := core.users.put (change.apply settings now user)
            sessions :=
              if change.revokes settings now user then
                core.sessions.revise (Store.ofUser userId)
                  (Store.revokeAt now) fun _ => rfl
              else
                core.sessions
            identities := attachment.identities core.identities
            passkeys := attachment.passkeys now core.passkeys }
  | .openSession session =>
      { core with sessions := core.sessions.put session }
  | .rotate sessionId successor now =>
      match core.sessions.get? sessionId with
      | none => core
      | some session =>
          { core with
            sessions :=
              (core.sessions.put successor).put
                (session.replacedBy successor.id now) }
  | .revokeFamily familyId now =>
      { core with
        sessions :=
          core.sessions.revise (Store.inFamily familyId)
            (Store.revokeAt now) fun _ => rfl }
  | .revokeUser userId now =>
      { core with
        sessions :=
          core.sessions.revise (Store.ofUser userId)
            (Store.revokeAt now) fun _ => rfl }
  | .updateIdentity identity =>
      { core with identities := core.identities.put identity }
  | .updatePasskey passkey =>
      { core with passkeys := core.passkeys.put passkey }
  | .purgeLinks before =>
      { core with
        links := core.links.reject fun link => link.createdAt < before }
  | .issueLink link => { core with links := core.links.put link }
  | .activateLink linkId now =>
      core.reviseLink linkId (Store.activateLinkAt now)
  | .revokeOtherLinks userId purpose activeLinkId now =>
      { core with
        links :=
          core.links.revise (Store.isOtherActive userId purpose activeLinkId)
            (Store.revokeLinkAt now) fun _ => rfl }
  | .failLink linkId now => core.reviseLink linkId (Store.failLinkAt now)
  | .revokeLink linkId now => core.reviseLink linkId (Store.revokeLinkAt now)
  | .consumeLink linkId now =>
      core.reviseLink linkId (Store.consumeLinkAt now)

/-- A new account starts without failures, locks and earlier versions. -/
def NewAccount (user : UserAccount) : Prop :=
  user.securityVersion = 0 ∧ user.failedLoginAttempts = 0 ∧
    user.lockedUntil = none

/-- A session starts unused, unrevoked and within its deadlines. -/
def NewSession (session : RefreshSession) : Prop :=
  session.usedAt = none ∧ session.revokedAt = none ∧
    session.replacedById = none ∧
    session.idleExpiresAt ≤ session.absoluteExpiresAt ∧
    session.createdAt < session.absoluteExpiresAt

/-- No stored session has the identifier or the token of a new one. -/
def Unused (session : RefreshSession) (core : Core) : Prop :=
  core.sessions.get? session.id = none ∧
    ∀ id other, core.sessions.get? id = some other →
      other.tokenHash ≠ session.tokenHash

/-- The condition on the tables under which a move is made. -/
def Enabled (move : Move) (core : Core) : Prop :=
  match move with
  | .enroll user identity =>
      core.users.get? user.id = none ∧ NewAccount user ∧
        ∀ inserted, identity = some inserted →
          inserted.userId = user.id ∧
            core.identities.get? inserted.id = none
  | .account userId change attachment now =>
      ∃ user,
        core.users.get? userId = some user ∧ change.Permitted now user ∧
          attachment.Valid userId core ∧
          (attachment ≠ .nothing → change.Advances)
  | .openSession session =>
      NewSession session ∧ Unused session core ∧
        (∀ id other, core.sessions.get? id = some other →
          other.familyId ≠ session.familyId) ∧
        session.authenticatedAt = session.createdAt ∧
        session.absoluteExpiresAt =
          session.createdAt + seconds settings.refreshAbsoluteTtlSeconds ∧
        ∃ user,
          core.users.get? session.userId = some user ∧
            user.canAuthenticate session.createdAt = true
  | .rotate sessionId successor now =>
      ∃ session user,
        core.sessions.get? sessionId = some session ∧
          session.usedAt = none ∧ session.revokedAt = none ∧
          now < session.idleExpiresAt ∧ now < session.absoluteExpiresAt ∧
          core.users.get? session.userId = some user ∧
          user.canAuthenticate now = true ∧
          NewSession successor ∧ Unused successor core ∧
          successor.userId = session.userId ∧
          successor.familyId = session.familyId ∧
          successor.createdAt = now ∧
          successor.absoluteExpiresAt = session.absoluteExpiresAt ∧
          successor.authenticatedAt = session.authenticatedAt
  | .updateIdentity identity =>
      ∃ stored,
        core.identities.get? identity.id = some stored ∧
          identity.userId = stored.userId ∧
          identity.issuer = stored.issuer ∧
          identity.subject = stored.subject
  | .updatePasskey passkey =>
      ∃ stored,
        core.passkeys.get? passkey.id = some stored ∧
          passkey.userId = stored.userId ∧
          passkey.credentialId = stored.credentialId ∧
          passkey.revokedAt = stored.revokedAt
  | .issueLink link =>
      core.links.get? link.id = none ∧ link.state = .pending ∧
        ∃ user,
          core.users.get? link.userId = some user ∧
            link.securityVersion = user.securityVersion
  | .activateLink linkId _ =>
      ∃ link user,
        core.links.get? linkId = some link ∧ link.state = .pending ∧
          core.users.get? link.userId = some user ∧
          link.securityVersion = user.securityVersion
  | .consumeLink linkId now =>
      ∃ link user,
        core.links.get? linkId = some link ∧ link.state = .active ∧
          now < link.expiresAt ∧
          core.users.get? link.userId = some user ∧
          link.securityVersion = user.securityVersion
  | .failLink linkId _ =>
      ∃ link, core.links.get? linkId = some link ∧ link.state = .pending
  | .revokeLink linkId _ =>
      ∃ link,
        core.links.get? linkId = some link ∧
          (link.state = .pending ∨ link.state = .active)
  | _ => True

end Semantics

end Move

/-- A sequence of moves, each enabled where it is made. -/
def Performs (settings : AuthSettings) : Core → List Move → Core → Prop
  | core, [], later => later = core
  | core, move :: rest, later =>
      move.Enabled settings core ∧
        Performs settings (move.perform settings core) rest later

namespace Performs

variable
  {settings : AuthSettings}
  {core later : Core}
  {moves : List Move}

/-- Doing nothing is the empty sequence. -/
theorem nil : Performs settings core [] core :=
  rfl

/-- One enabled move, followed by others. -/
theorem cons
    {move : Move}
    {middle : Core}
    (enabled : move.Enabled settings core)
    (performed : move.perform settings core = middle)
    (rest : Performs settings middle moves later) :
    Performs settings core (move :: moves) later := by
  subst performed
  exact ⟨enabled, rest⟩

/-- A single enabled move. -/
theorem single
    {move : Move}
    (enabled : move.Enabled settings core)
    (performed : move.perform settings core = later) :
    Performs settings core [move] later :=
  cons enabled performed nil

/-- Sequences compose. -/
theorem append
    {middle : Core}
    {others : List Move}
    (first : Performs settings core moves middle)
    (second : Performs settings middle others later) :
    Performs settings core (moves ++ others) later := by
  induction moves generalizing core with
  | nil =>
      cases first
      exact second
  | cons move rest inductionHypothesis =>
      exact ⟨first.1, inductionHypothesis first.2⟩

/-- What every enabled move preserves, a sequence preserves. -/
theorem preserves
    (performed : Performs settings core moves later)
    (invariant : Core → Prop)
    (preserved :
      ∀ move ∈ moves, ∀ state,
        move.Enabled settings state → invariant state →
          invariant (move.perform settings state))
    (initial : invariant core) :
    invariant later := by
  induction moves generalizing core with
  | nil =>
      cases performed
      exact initial
  | cons move rest inductionHypothesis =>
      have first := preserved move (by simp) core performed.1 initial
      exact inductionHypothesis performed.2
        (fun other member => preserved other (by simp [member])) first

/-- What every enabled move relates, a sequence relates. -/
theorem relates
    (performed : Performs settings core moves later)
    (relation : Core → Core → Prop)
    (reflexive : ∀ state, relation state state)
    (transitive :
      ∀ first second third,
        relation first second → relation second third → relation first third)
    (related :
      ∀ move ∈ moves, ∀ state,
        move.Enabled settings state →
          relation state (move.perform settings state)) :
    relation core later := by
  induction moves generalizing core with
  | nil =>
      cases performed
      exact reflexive _
  | cons move rest inductionHypothesis =>
      exact transitive _ _ _
        (related move (by simp) core performed.1)
        (inductionHypothesis performed.2
          fun other member => related other (by simp [member]))

/-- A sequence that contains a move passes through the tables around it. -/
theorem exists_move
    {move : Move}
    (performed : Performs settings core moves later)
    (member : move ∈ moves) :
    ∃ first rest before,
      moves = first ++ move :: rest ∧
        Performs settings core first before ∧
        move.Enabled settings before ∧
        Performs settings (move.perform settings before) rest later := by
  induction moves generalizing core with
  | nil =>
      cases member
  | cons head tail inductionHypothesis =>
      rcases List.mem_cons.mp member with rfl | inTail
      · exact ⟨[], tail, core, rfl, nil, performed.1, performed.2⟩
      · obtain ⟨first, rest, before, split, earlier, enabled, after⟩ :=
          inductionHypothesis performed.2 inTail
        exact ⟨head :: first, rest, before, by rw [split]; rfl,
          ⟨performed.1, earlier⟩, enabled, after⟩

end Performs

/-- An enabled account move, written out. -/
theorem Move.perform_account
    {settings : AuthSettings}
    {core : Core}
    {userId : Uuid}
    {user : UserAccount}
    {change : AccountChange}
    {attachment : Attachment}
    {now : Instant}
    (found : core.users.get? userId = some user) :
    (Move.account userId change attachment now).perform settings core =
      { core with
        users := core.users.put (change.apply settings now user)
        sessions :=
          if change.revokes settings now user then
            core.sessions.revise (Store.ofUser userId)
              (Store.revokeAt now) fun _ => rfl
          else
            core.sessions
        identities := attachment.identities core.identities
        passkeys := attachment.passkeys now core.passkeys } := by
  simp only [Move.perform, found]

/-- An enabled rotation, written out. -/
theorem Move.perform_rotate
    {settings : AuthSettings}
    {core : Core}
    {sessionId : Uuid}
    {session successor : RefreshSession}
    {now : Instant}
    (found : core.sessions.get? sessionId = some session) :
    (Move.rotate sessionId successor now).perform settings core =
      { core with
        sessions :=
          (core.sessions.put successor).put
            (session.replacedBy successor.id now) } := by
  simp only [Move.perform, found]

/-- The change of an existing link, written out. -/
theorem Core.reviseLink_of_get?
    {core : Core}
    {linkId : Uuid}
    {link : EmailLink}
    {change : EmailLink → EmailLink}
    (found : core.links.get? linkId = some link) :
    core.reviseLink linkId change =
      { core with links := core.links.put (change link) } := by
  simp only [Core.reviseLink, found]

/-! ## Account changes on the row -/

namespace AccountChange

variable
  {settings : AuthSettings}
  {change : AccountChange}
  {now : Instant}
  {user : UserAccount}

/-- No change moves an account to another key. -/
@[simp] theorem apply_id :
    (change.apply settings now user).id = user.id := by
  cases change with
  | fail =>
      simp only [apply, afterPasswordFailure]
      split <;> rfl
  | verify verification =>
      rfl
  | replace reason passwordHash =>
      cases reason <;> rfl
  | autoLink passwordHash =>
      rfl
  | administer resolved =>
      simp only [apply, applyUpdate]
      split <;> rfl
  | fence clearsAutoLink =>
      rfl

/-- No change gives an account another address. -/
@[simp] theorem apply_email :
    (change.apply settings now user).email = user.email := by
  cases change with
  | fail =>
      simp only [apply, afterPasswordFailure]
      split <;> rfl
  | verify verification =>
      rfl
  | replace reason passwordHash =>
      cases reason <;> rfl
  | autoLink passwordHash =>
      rfl
  | administer resolved =>
      simp only [apply, applyUpdate]
      split <;> rfl
  | fence clearsAutoLink =>
      rfl

/-- Only administration and activation change the status. -/
theorem apply_status :
    (change.apply settings now user).status =
      match change with
      | .administer resolved => resolved.status
      | .replace .activation _ => .active
      | _ => user.status := by
  cases change with
  | fail =>
      simp only [apply, afterPasswordFailure]
      split <;> rfl
  | verify verification =>
      rfl
  | replace reason passwordHash =>
      cases reason <;> rfl
  | autoLink passwordHash =>
      rfl
  | administer resolved =>
      simp only [apply, applyUpdate]
      split <;> rfl
  | fence clearsAutoLink =>
      rfl

/-- Only a failed verification sets a lock; others lift it or keep it. -/
theorem apply_lockedUntil :
    (change.apply settings now user).lockedUntil =
      match change with
      | .fail => lockAfterFailure settings user now
      | .verify _ => none
      | .replace _ _ => none
      | .autoLink _ => none
      | .administer _ => user.lockedUntil
      | .fence _ => user.lockedUntil := by
  cases change with
  | fail =>
      simp only [apply, afterPasswordFailure]
      split <;> rfl
  | verify verification =>
      rfl
  | replace reason passwordHash =>
      cases reason <;> rfl
  | autoLink passwordHash =>
      rfl
  | administer resolved =>
      simp only [apply, applyUpdate]
      split <;> rfl
  | fence clearsAutoLink =>
      rfl

/-- Changes other than administration keep the roles. -/
theorem apply_roles
    (notAdministered : ∀ resolved, change ≠ .administer resolved) :
    (change.apply settings now user).roles = user.roles := by
  cases change with
  | fail =>
      simp only [apply, afterPasswordFailure]
      split <;> rfl
  | verify verification =>
      rfl
  | replace reason passwordHash =>
      cases reason <;> rfl
  | autoLink passwordHash =>
      rfl
  | administer resolved =>
      exact absurd rfl (notAdministered resolved)
  | fence clearsAutoLink =>
      rfl

/-- Changes other than administration keep the scopes. -/
theorem apply_scopes
    (notAdministered : ∀ resolved, change ≠ .administer resolved) :
    (change.apply settings now user).scopes = user.scopes := by
  cases change with
  | fail =>
      simp only [apply, afterPasswordFailure]
      split <;> rfl
  | verify verification =>
      rfl
  | replace reason passwordHash =>
      cases reason <;> rfl
  | autoLink passwordHash =>
      rfl
  | administer resolved =>
      exact absurd rfl (notAdministered resolved)
  | fence clearsAutoLink =>
      rfl

end AccountChange

/-- The account that an enabled account move changes. -/
theorem Move.perform_account_self
    {settings : AuthSettings}
    {core : Core}
    {userId : Uuid}
    {user : UserAccount}
    {change : AccountChange}
    {attachment : Attachment}
    {now : Instant}
    (found : core.users.get? userId = some user) :
    ((Move.account userId change attachment now).perform settings
        core).users.get? userId =
      some (change.apply settings now user) := by
  have userKey : user.id = userId := Table.key_of_get? found
  rw [Move.perform_account found, ← userKey, ← AccountChange.apply_id]
  exact Table.get?_put_self _ _

end EpokAuth
