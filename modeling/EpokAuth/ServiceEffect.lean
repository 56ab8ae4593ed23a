import EpokAuth.AccountMove

namespace EpokAuth

open Transactional

/-!
# Effects of transactions

The effect of a completed transaction is the sequence of moves it performed.
Every account move in it is attributed to the transaction and the answer that
cause it, an answer that reports a replaced password has its move, and links
are issued and sessions ended only by the transactions that may do so.
-/

/-- A password that may be used to log in is not the presented one. -/
def WrongPassword
    (deps : Dependencies)
    (user : UserAccount)
    (salt : Nat)
    (password : String) :
    Prop :=
  user.passwordLoginEnabled = true ∧
    (deps.passwords.verifiedForLogin salt password
        (some user.passwordHash)).valid =
      false

/-- Which transactions, with which answers, change an account how. -/
inductive Causes (deps : Dependencies) (before : Store) :
    Executed → Uuid → AccountChange → Prop where
  | loginFailed
      {normalizedEmail password : String}
      {now : Instant}
      {context : RequestContext}
      {salt : Nat}
      {draws : SessionDraws}
      {failure : Failure}
      {user : UserAccount}
      (found :
        before.users.find? (fun user => user.email = normalizedEmail) =
          some user)
      (available : user.canAuthenticate now = true)
      (wrong : WrongPassword deps user salt password) :
      Causes deps before
        { tx := .login normalizedEmail password now context salt draws
          answer := .ok (.error failure) }
        user.id .fail
  | reauthenticationFailed
      {principal : Principal}
      {password : String}
      {now : Instant}
      {context : RequestContext}
      {salt : Nat}
      {failure : Failure}
      {user : UserAccount}
      (account : before.users.get? principal.userId = some user)
      (inForce : PrincipalInForce before principal now)
      (wrong : WrongPassword deps user salt password) :
      Causes deps before
        { tx := .reauthenticatePassword principal password now context salt
          answer := .ok (.error failure) }
        principal.userId .fail
  | loggedIn
      {normalizedEmail password : String}
      {now : Instant}
      {context : RequestContext}
      {salt : Nat}
      {draws : SessionDraws}
      {bundle : SessionBundle}
      {verification : PasswordVerification}
      {user : UserAccount}
      (account : before.users.get? bundle.principal.userId = some user)
      (available : user.canAuthenticate now = true) :
      Causes deps before
        { tx := .login normalizedEmail password now context salt draws
          answer := .ok (.ok bundle) }
        bundle.principal.userId (.verify verification)
  | reauthenticated
      {principal : Principal}
      {password : String}
      {now : Instant}
      {context : RequestContext}
      {salt : Nat}
      {proof : Reauthentication}
      {verification : PasswordVerification}
      {user : UserAccount}
      (account : before.users.get? principal.userId = some user)
      (available : user.canAuthenticate now = true) :
      Causes deps before
        { tx := .reauthenticatePassword principal password now context salt
          answer := .ok (.ok proof) }
        principal.userId (.verify verification)
  | passwordChanged
      {principal : Principal}
      {currentPassword newPassword passwordHash : String}
      {now : Instant}
      {context : RequestContext}
      {salts : ChangePasswordSalts}
      {draws : SessionDraws}
      {bundle : SessionBundle} :
      Causes deps before
        { tx :=
            .changePassword principal currentPassword newPassword now context
              salts draws
          answer := .ok bundle }
        principal.userId (.replace .chosen passwordHash)
  | passwordReset
      {userId : Uuid}
      {passwordHash : String}
      {now : Instant}
      {context : RequestContext}
      {user : UserAccount} :
      Causes deps before
        { tx := .resetPassword userId passwordHash now context
          answer := .ok user }
        userId (.replace .temporary passwordHash)
  | accessRecovered
      {userId : Uuid}
      {passwordHash : String}
      {now : Instant}
      {context : RequestContext}
      {user : UserAccount} :
      Causes deps before
        { tx := .recoverPasswordAccess userId passwordHash now context
          answer := .ok user }
        userId (.replace .temporary passwordHash)
  | passwordRecovered
      {token passwordHash : String}
      {now : Instant}
      {context : RequestContext}
      {notice : AuthEmail}
      {userId : Uuid}
      (notified : notice.userId = some userId) :
      Causes deps before
        { tx := .emailLinkResetPassword token passwordHash now context
          answer := .ok (some notice) }
        userId (.replace .chosen passwordHash)
  | invitationActivated
      {token passwordHash : String}
      {now : Instant}
      {context : RequestContext}
      {user : UserAccount} :
      Causes deps before
        { tx := .activateInvitation token passwordHash now context
          answer := .ok (some user) }
        user.id (.replace .invitation passwordHash)
  | activated
      {token passwordHash : String}
      {now : Instant}
      {context : RequestContext}
      {user : UserAccount}
      {link : EmailLink}
      (delivered : before.links.get? link.id = some link)
      (presented : link.tokenHash = deps.tokenHash token)
      (active : link.state = .active)
      (purpose : link.purpose = .activation)
      (owned : link.userId = user.id) :
      Causes deps before
        { tx := .activate token passwordHash now context
          answer := .ok (some user) }
        user.id (.replace .activation passwordHash)
  | autoLinked
      {claims : GoogleClaims}
      {now : Instant}
      {context : RequestContext}
      {draws : GoogleLoginDraws}
      {bundle : SessionBundle}
      {user : UserAccount}
      {passwordHash : String}
      (unlinked :
        before.identities.find?
            (fun identity =>
              identity.issuer = googleIssuer &&
                identity.subject = claims.subject) =
          none)
      (existing :
        before.users.get? bundle.principal.userId = some user) :
      Causes deps before
        { tx := .googleLogin claims now context draws
          answer := .ok (some bundle) }
        bundle.principal.userId (.autoLink passwordHash)
  | administered
      {userId : Uuid}
      {update : UserUpdate}
      {now : Instant}
      {context : RequestContext}
      {current user : UserAccount}
      {resolved : ResolvedUpdate}
      (found : before.users.get? userId = some current)
      (resolves : resolveUpdate deps current update = .ok resolved) :
      Causes deps before
        { tx := .updateUser userId update now context
          answer := .ok user }
        userId (.administer resolved)
  | identityLinked
      {principal : Principal}
      {claims : GoogleClaims}
      {now : Instant}
      {context : RequestContext}
      {identityId : Uuid}
      {identity : ExternalIdentity} :
      Causes deps before
        { tx := .linkIdentity principal claims now context identityId
          answer := .ok (.ok identity) }
        principal.userId (.fence true)
  | passkeyRegistered
      {principal : Principal}
      {passkeyId : Uuid}
      {name : String}
      {verified : VerifiedPasskeyRegistration}
      {now : Instant}
      {context : RequestContext} :
      Causes deps before
        { tx :=
            .finishRegistration principal passkeyId name verified now context
          answer := .ok () }
        principal.userId (.fence false)
  | passkeyRevoked
      {principal : Principal}
      {passkeyId : Uuid}
      {now : Instant}
      {context : RequestContext} :
      Causes deps before
        { tx := .revokePasskey principal passkeyId now context
          answer := .ok () }
        principal.userId (.fence false)

/-- The changes that put another password in place of the current one. -/
def AccountChange.ReplacesPassword : AccountChange → Prop
  | .replace _ _ => True
  | .autoLink _ => True
  | _ => False

/-- An executed transaction replaced the password of an account. -/
def Executed.Replaces
    (executed : Executed)
    (deps : Dependencies)
    (before : Store)
    (userId : Uuid) :
    Prop :=
  ∃ change,
    Causes deps before executed userId change ∧ change.ReplacesPassword

/-- The identifier under which a transaction may issue a link. -/
def ServiceTx.issuing : ServiceTx → Option Uuid
  | .requestLogin _ _ _ _ draws => some draws.linkId
  | .requestPasswordReset _ _ _ draws => some draws.linkId
  | .invite _ _ _ draws => some draws.linkId
  | .provision _ _ _ _ _ _ _ _ draws => some draws.linkId
  | .ensureInitialAdmin _ _ _ _ _ _ _ _ draws => some draws.linkId
  | .replaceActivation _ _ _ draws => some draws.linkId
  | _ => none

/-- The transactions that may revoke sessions without changing an account. -/
@[simp] def ServiceTx.endsSessions : ServiceTx → Bool
  | .refresh .. => true
  | .logout .. => true
  | .revokeUserSessions .. => true
  | _ => false

/-- The move is one the transaction may make. -/
@[simp] def Move.MadeBy (tx : ServiceTx) : Move → Prop
  | .issueLink link => tx.issuing = some link.id
  | .revokeFamily _ _ => tx.endsSessions = true
  | .revokeUser _ _ => tx.endsSessions = true
  | _ => True

/-- The transaction may make the move, which changes no account. -/
@[simp] def Move.Spares (tx : ServiceTx) : Move → Prop
  | .account _ _ _ _ => False
  | move => move.MadeBy tx

/-- The transaction may make the moves, none of which changes an account. -/
def Move.SparesAccounts (tx : ServiceTx) (moves : List Move) : Prop :=
  ∀ move ∈ moves, move.Spares tx

namespace Move.SparesAccounts

variable
  {tx : ServiceTx}
  {moves : List Move}

/-- Moves that spare accounts are made by their transaction. -/
theorem madeBy
    (spares : SparesAccounts tx moves)
    {move : Move}
    (member : move ∈ moves) :
    move.MadeBy tx := by
  have spared := spares move member
  cases move with
  | account userId change attachment now =>
      cases spared
  | _ => exact spared

/-- No account move is among moves that spare accounts. -/
theorem not_account
    (spares : SparesAccounts tx moves)
    (userId : Uuid)
    (change : AccountChange)
    (attachment : Attachment)
    (now : Instant) :
    .account userId change attachment now ∉ moves :=
  fun member => spares _ member

@[simp] theorem nil : SparesAccounts tx [] :=
  fun _ member => absurd member List.not_mem_nil

@[simp] theorem cons_iff
    {move : Move} :
    SparesAccounts tx (move :: moves) ↔
      move.Spares tx ∧ SparesAccounts tx moves :=
  List.forall_mem_cons

end Move.SparesAccounts

/-- The moves of an executed transaction. -/
structure Effect
    (deps : Dependencies)
    (before : Store)
    (executed : Executed)
    (moves : List Move)
    (after : Store) :
    Prop where
  performs : Performs deps.settings before.toCore moves after.toCore
  attributed :
    ∀ userId change attachment now,
      .account userId change attachment now ∈ moves →
        Causes deps before executed userId change
  replaces :
    ∀ userId, executed.Replaces deps before userId →
      ∃ change attachment now,
        change.ReplacesPassword ∧
          .account userId change attachment now ∈ moves
  made : ∀ move ∈ moves, move.MadeBy executed.tx

namespace Effect

variable
  {deps : Dependencies}
  {before after : Store}
  {executed : Executed}
  {moves : List Move}

/-- An effect without account moves, of a transaction replacing no password. -/
theorem of_no_account
    (performs : Performs deps.settings before.toCore moves after.toCore)
    (spares : Move.SparesAccounts executed.tx moves)
    (noReplacement :
      ∀ userId change,
        Causes deps before executed userId change →
          ¬ change.ReplacesPassword) :
    Effect deps before executed moves after where
  performs := performs
  attributed := by
    intro userId change attachment now member
    exact absurd member (spares.not_account userId change attachment now)
  replaces := by
    rintro userId ⟨change, caused, replacing⟩
    exact absurd replacing (noReplacement userId change caused)
  made := fun _ member => spares.madeBy member

/-- A transaction that leaves the accounts' tables alone. -/
theorem unchanged
    (same : after.toCore = before.toCore)
    (noReplacement :
      ∀ userId change,
        Causes deps before executed userId change →
          ¬ change.ReplacesPassword) :
    Effect deps before executed [] after :=
  of_no_account same .nil noReplacement

/-- An effect of which one move alone changes an account. -/
theorem of_account_among
    {userId : Uuid}
    {change : AccountChange}
    {attachment : Attachment}
    {now : Instant}
    {leading rest : List Move}
    (performs :
      Performs deps.settings before.toCore
        (leading ++ .account userId change attachment now :: rest)
        after.toCore)
    (spares : Move.SparesAccounts executed.tx (leading ++ rest))
    (cause : Causes deps before executed userId change)
    (onlyCause :
      ∀ other otherChange,
        Causes deps before executed other otherChange →
          otherChange.ReplacesPassword →
            other = userId ∧ change.ReplacesPassword) :
    Effect deps before executed
      (leading ++ .account userId change attachment now :: rest) after where
  performs := performs
  attributed := by
    intro other otherChange otherAttachment otherNow member
    rcases List.mem_append.mp member with isLeading | isLater
    · exact absurd (List.mem_append_left rest isLeading)
        (spares.not_account _ _ _ _)
    · rcases List.mem_cons.mp isLater with isChange | inRest
      · cases isChange
        exact cause
      · exact absurd (List.mem_append_right leading inRest)
          (spares.not_account _ _ _ _)
  replaces := by
    rintro other ⟨otherChange, caused, replacing⟩
    obtain ⟨rfl, changeReplaces⟩ := onlyCause other otherChange caused replacing
    exact ⟨change, attachment, now, changeReplaces, by simp⟩
  made := by
    intro move member
    rcases List.mem_append.mp member with isLeading | isLater
    · exact spares.madeBy (List.mem_append_left rest isLeading)
    · rcases List.mem_cons.mp isLater with rfl | inRest
      · trivial
      · exact spares.madeBy (List.mem_append_right leading inRest)

/-- An effect whose first move alone changes an account. -/
theorem of_account
    {userId : Uuid}
    {change : AccountChange}
    {attachment : Attachment}
    {now : Instant}
    {rest : List Move}
    (performs :
      Performs deps.settings before.toCore
        (.account userId change attachment now :: rest) after.toCore)
    (spares : Move.SparesAccounts executed.tx rest)
    (cause : Causes deps before executed userId change)
    (onlyCause :
      ∀ other otherChange,
        Causes deps before executed other otherChange →
          otherChange.ReplacesPassword →
            other = userId ∧ change.ReplacesPassword) :
    Effect deps before executed
      (.account userId change attachment now :: rest) after :=
  show Effect deps before executed ([] ++ _) after from
    of_account_among performs spares cause onlyCause

end Effect

end EpokAuth
