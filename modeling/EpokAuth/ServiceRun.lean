import EpokAuth.LabelledRun
import EpokAuth.ServiceTransaction

namespace EpokAuth

open Transactional

/-!
# Runs of the services

A run takes transactions one at a time, in any order and with any arguments;
an operation of several transactions contributes them separately, so every
interleaving of operations is such a run.  The only assumption on what is drawn
is that a family identifier is new; repeated row identifiers and tokens are
refused by the store itself.
-/

/-- One transaction of a run, with what its caller received. -/
structure Executed where
  tx : ServiceTx
  answer : Except Failure tx.Answer

namespace ServiceTx

/-- The draws of a transaction that may start a session family. -/
def opening : ServiceTx → Option SessionDraws
  | .login _ _ _ _ _ draws => some draws
  | .changePassword _ _ _ _ _ _ draws => some draws
  | .emailLinkLogin _ _ _ _ draws => some draws
  | .finishAuthentication _ _ _ draws => some draws
  | .googleLogin _ _ _ draws => some draws.session
  | .loginLinkedAfterConflict _ _ _ draws => some draws
  | _ => none

/-- The clock reading a transaction was given, if it was given one. -/
def clock : ServiceTx → Option Instant
  | .login _ _ now _ _ _ => some now
  | .reauthenticatePassword _ _ now _ _ => some now
  | .authenticate _ => none
  | .refresh _ _ now _ _ => some now
  | .logout _ _ now _ => some now
  | .changePassword _ _ _ now _ _ _ => some now
  | .createAdmin _ _ _ _ now _ => some now
  | .createUser _ _ _ _ _ _ _ now _ => some now
  | .listUsers _ _ => none
  | .getUser _ => none
  | .updateUser _ _ now _ => some now
  | .resetPassword _ _ now _ => some now
  | .revokeUserSessions _ now _ => some now
  | .requestLogin _ _ now _ _ => some now
  | .requestPasswordReset _ now _ _ => some now
  | .invite _ now _ _ => some now
  | .markDelivered _ now => some now
  | .markDeliveryFailed _ now => some now
  | .markNoticeDeliveryFailed _ now => some now
  | .activeLinkCandidate _ _ => none
  | .emailLinkLogin _ _ now _ _ => some now
  | .emailLinkResetPassword _ _ now _ => some now
  | .activateInvitation _ _ now _ => some now
  | .provision _ _ _ _ _ _ now _ _ => some now
  | .ensureInitialAdmin _ _ _ _ _ _ now _ _ => some now
  | .replaceActivation _ now _ _ => some now
  | .activate _ _ now _ => some now
  | .beginRegistration _ _ now _ => some now
  | .finishRegistration _ _ _ _ now _ => some now
  | .beginAuthentication _ now _ => some now
  | .beginReauthentication _ _ now _ => some now
  | .finishAuthentication _ now _ _ => some now
  | .finishReauthentication _ _ now _ => some now
  | .listPasskeys _ => none
  | .revokePasskey _ _ now _ => some now
  | .consumePasskeyChallenge _ _ now _ _ => some now
  | .registrationFailure _ now _ => some now
  | .authenticationFailure _ now _ => some now
  | .reauthenticationFailure _ now _ => some now
  | .beginGoogleChallenge _ _ _ _ now _ => some now
  | .consumeGoogleChallenge _ _ now _ => some now
  | .googleLogin _ now _ _ => some now
  | .loginLinkedAfterConflict _ now _ _ => some now
  | .linkIdentity _ _ now _ _ => some now
  | .linkedAfterConflict _ _ now _ => some now
  | .recoverPasswordAccess _ _ now _ => some now
  | .verificationFailure _ _ now _ => some now

/-- The family a transaction may start is not in use. -/
def Fresh (tx : ServiceTx) (store : Store) : Prop :=
  ∀ draws, tx.opening = some draws →
    ∀ id session, store.sessions.get? id = some session →
      session.familyId ≠ draws.familyId

end ServiceTx

/--
One step of a run.  A transaction that the database aborts raises and changes
nothing.
-/
inductive ServiceStep (env : Environment) :
    Store → Executed → Store → Prop where
  | completed
      {store : Store}
      (tx : ServiceTx)
      (fresh : tx.Fresh store) :
      ServiceStep env store
        { tx := tx, answer := (tx.execute env store).1 }
        (tx.execute env store).2
  | aborted
      {store : Store}
      (tx : ServiceTx)
      (failure : Failure) :
      ServiceStep env store { tx := tx, answer := .error failure } store

/-- A run of the services. -/
abbrev ServiceRun (env : Environment) :
    Store → List Executed → Store → Prop :=
  Run (ServiceStep env)

/-- The stores that some run of the services reaches from the empty one. -/
abbrev ServiceReachable (env : Environment) : Store → Prop :=
  Reachable (ServiceStep env) {}

end EpokAuth
