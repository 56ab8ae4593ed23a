import EpokAuth.Routes
import EpokAuth.ScriptedRun

namespace EpokAuth

open Transactional

/-!
# A server that serves one request at a time

With nobody else there every effect has one answer, once it is said whether
emails are accepted and what the library of Google makes of a credential.  So
requests that arrive one after the other are each served to their end, and
their run can be computed.
-/

namespace Deployment

variable
  (deployment : Deployment)
  (accepts : Bool)
  (decoding : GoogleDecoding)

/-- The answers of an undisturbed server. -/
def evaluate : Prog.Evaluation Ask Ask.Answer World
  | .clock, world => (world.now, world)
  | .accessToken token, world =>
      (deployment.verifyAccess world.now token, world)
  | .transaction tx, world =>
      ((tx.execute deployment.toEnvironment world.store).1,
        { world with
          store := (tx.execute deployment.toEnvironment world.store).2 })
  | .decodeGoogle _ _, world => (decoding, world)
  | .send _, world => (accepts, world)
  | .dispatch _, world => (accepts, world)

/-- Whether a family that an effect may open is not in use. -/
def isFresh : Ask → World → Bool
  | .transaction tx, world => tx.isFresh world.store
  | _, _ => true

/-- Whether every family that an operation opens is new when it is opened. -/
def isServable : Operation α → World → Bool
  | .done _, _ => true
  | .fail _, _ => true
  | .call ask next, world =>
      isFresh ask world &&
        isServable (next (deployment.evaluate accepts decoding ask world).1)
          (deployment.evaluate accepts decoding ask world).2

/-- What happens next at a deployment that serves one request at a time. -/
inductive Next where
  | asks (head : HttpRequest) (endpoint : Endpoint)
  | works
  | waits (now : Instant)

/-- What that is to the server. -/
def Next.turn : Next → Turn Request World
  | .asks head endpoint => .asks (.http head endpoint)
  | .works => .works
  | .waits now => .drifts fun world => { world with now := now }

/-- Whether every family that a script opens is new when it is opened. -/
def isScript : List Next → World → List Request → Bool
  | [], _, _ => true
  | .asks head endpoint :: rest, world, queued =>
      let request : Request := .http head endpoint
      let operation := deployment.server.body request
      let outcome := operation.run (deployment.evaluate accepts decoding) world
      deployment.isServable accepts decoding operation world &&
        isScript rest outcome.2
          (deployment.server.leaves request queued outcome.1)
  | .works :: rest, world, [] => isScript rest world []
  | .works :: rest, world, task :: queued =>
      let operation := deployment.server.body task
      let outcome := operation.run (deployment.evaluate accepts decoding) world
      deployment.isServable accepts decoding operation world &&
        isScript rest outcome.2
          (deployment.server.leaves task queued outcome.1)
  | .waits now :: rest, world, queued =>
      isScript rest { world with now := now } queued

/-- What is seen of a script that is served from a world. -/
def scriptLabels (script : List Next) (world : World) :
    List (@Served Nat Request Ask Ask.Answer Failure fun _ => HttpResponse) :=
  turnLabels deployment.server (deployment.evaluate accepts decoding)
    (script.map Next.turn) 0 world []

/-- The world that a script leads to. -/
def scriptWorld (script : List Next) (world : World) : World :=
  turnState deployment.server (deployment.evaluate accepts decoding)
    (script.map Next.turn) world []

variable {deployment accepts decoding}

/-- An operation that opens new families only follows its evaluation. -/
theorem follows_of_isServable
    {operation : Operation α}
    {world : World}
    (servable : deployment.isServable accepts decoding operation world = true) :
    deployment.server.Follows (deployment.evaluate accepts decoding) operation
      world := by
  induction operation generalizing world with
  | done value => trivial
  | fail failure => trivial
  | call ask next inductionHypothesis =>
      rw [isServable, Bool.and_eq_true] at servable
      refine ⟨?_, inductionHypothesis _ servable.2⟩
      cases ask with
      | clock => exact .clock world
      | accessToken token => exact .accessToken world token
      | transaction tx =>
          exact .transaction
            (.completed tx (ServiceTx.fresh_of_isFresh servable.1))
      | decodeGoogle credential audience =>
          exact .decodeGoogle world credential audience decoding
      | send email => exact .send world email accepts
      | dispatch message => exact .dispatch world message accepts

/-- A script that opens new families only follows its evaluation. -/
theorem followsAll_of_isScript
    {script : List Next}
    {world : World}
    {queued : List Request}
    (servable : deployment.isScript accepts decoding script world queued = true) :
    deployment.server.FollowsAll (deployment.evaluate accepts decoding)
      (script.map Next.turn) world queued := by
  induction script generalizing world queued with
  | nil => trivial
  | cons next rest inductionHypothesis =>
      cases next with
      | asks head endpoint =>
          rw [isScript, Bool.and_eq_true] at servable
          exact ⟨fun isTask => isTask, follows_of_isServable servable.1,
            inductionHypothesis servable.2⟩
      | works =>
          cases queued with
          | nil => exact inductionHypothesis servable
          | cons task queued =>
              rw [isScript, Bool.and_eq_true] at servable
              exact ⟨follows_of_isServable servable.1,
                inductionHypothesis servable.2⟩
      | waits now => exact ⟨.clock world now, inductionHypothesis servable⟩

/-- The run of a script. -/
theorem exists_run_of_isScript
    {script : List Next}
    {world : World}
    (servable : deployment.isScript accepts decoding script world [] = true) :
    ∃ later,
      ServerRun deployment.server world
          (deployment.scriptLabels accepts decoding script world) later ∧
        later.state = deployment.scriptWorld accepts decoding script world :=
  (followsAll_of_isScript servable).run

/-- The run of a script, up to each of its steps. -/
theorem exists_step_of_isScript
    {script : List Next}
    {world : World}
    (servable : deployment.isScript accepts decoding script world [] = true)
    {first second :
      List (@Served Nat Request Ask Ask.Answer Failure fun _ => HttpResponse)}
    {label : @Served Nat Request Ask Ask.Answer Failure fun _ => HttpResponse}
    (split :
      deployment.scriptLabels accepts decoding script world =
        first ++ label :: second) :
    ∃ before after,
      ServerRun deployment.server world first before ∧
        ServerStep deployment.server before label after := by
  obtain ⟨later, run, _⟩ := exists_run_of_isScript servable
  rw [split] at run
  obtain ⟨before, after, earlier, step, _⟩ := run.exists_step
  exact ⟨before, after, earlier, step⟩

end Deployment

/-- The deployment in which scripted requests are served. -/
def referenceDeployment : Deployment where
  toEnvironment := referenceEnvironment
  cookies :=
    { refreshName := "epok_refresh"
      csrfName := "epok_csrf"
      emailLinkName := "epok_email_link"
      csrfHttpOnly := true
      secure := true
      sameSite := "lax"
      domain := none
      path := "/" }
  verifyAccess := fun _ token =>
    if token = "access" then
      .ok
        { userId := 1
          sessionId := 2
          familyId := 3
          issuedAt := 10
          expiresAt := 900000010
          tokenId := "token"
          authenticatedAt := 10 }
    else
      .error (.auth invalidSession)
  dispatches := false
  applicationMakes := fun _ => False

end EpokAuth
