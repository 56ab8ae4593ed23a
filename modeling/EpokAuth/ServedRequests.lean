import EpokAuth.LabelledRun
import EpokAuth.Program
import Mathlib.Logic.Function.Basic

namespace Transactional

/-!
# Requests served one effect at a time

A server answers each request by a program whose effects it performs on a
shared state.  Any number of requests are being served at once, so between two
effects of one request the others go on, and the state may also drift by
itself.  An answer may leave tasks behind, which are served later like requests
or never.

What a request does is said by a contract about its program alone: which effect
it may perform after what it has performed and been answered so far, and what
its response rests on.  The theorems below turn the contract into a fact about
every run, in which what a request has been answered really happened before.
-/

/-- One effect that was performed, with its answer. -/
structure Performed
    {Effect : Type}
    (Answer : Effect → Type) where
  effect : Effect
  answer : Answer effect

/-- What a request has performed so far, in order. -/
abbrev Trail
    {Effect : Type}
    (Answer : Effect → Type) :=
  List (Performed Answer)

section Permitting

variable
  {Effect : Type}
  {Answer : Effect → Type}

/--
Effects read against what was performed before them: each has to be permitted,
whatever it is answered is recorded, and any answer has to be reckoned with.
-/
def permitting (permits : Trail Answer → Effect → Prop) :
    Prog.Transformer Effect Answer (Trail Answer) :=
  fun effect normal trail =>
    permits trail effect ∧
      ∀ answer, normal answer (trail ++ [⟨effect, answer⟩])

theorem permitting_monotone
    (permits : Trail Answer → Effect → Prop) :
    Prog.Transformer.Monotone (permitting permits) := by
  intro effect stronger weaker trail weakens holds
  exact ⟨holds.1, fun answer => weakens answer _ (holds.2 answer)⟩

end Permitting

/-- A server: its programs, and how the state answers their effects. -/
structure Server
    (Request Effect : Type)
    (Answer : Effect → Type)
    (Failure : Type)
    (Response : Request → Type)
    (σ : Type) where
  body :
    (request : Request) → Prog Effect Answer Failure (Response request)
  performs : (effect : Effect) → σ → Answer effect → σ → Prop
  drifts : σ → σ → Prop
  /-- What only the server asks of itself. -/
  background : Request → Prop
  tasks : (request : Request) → Response request → List Request

/-- A request that is being served. -/
structure Pending
    (Request Effect : Type)
    (Answer : Effect → Type)
    (Failure : Type)
    (Response : Request → Type) where
  request : Request
  rest : Prog Effect Answer Failure (Response request)
  trail : Trail Answer

/-- Where a client is; it makes one request and leaves. -/
inductive Desk
    (Request Effect : Type)
    (Answer : Effect → Type)
    (Failure : Type)
    (Response : Request → Type) where
  | waiting
  | working (pending : Pending Request Effect Answer Failure Response)
  | left

/-- A server at work. -/
structure Serving
    (Client Request Effect : Type)
    (Answer : Effect → Type)
    (Failure : Type)
    (Response : Request → Type)
    (σ : Type) where
  state : σ
  desks : Client → Desk Request Effect Answer Failure Response
  queued : List Request

/-- What may be seen of a step. -/
inductive Served
    (Client : Type)
    {Request Effect : Type}
    (Answer : Effect → Type)
    (Failure : Type)
    (Response : Request → Type) where
  | arrived (client : Client) (request : Request)
  | started (client : Client) (request : Request)
  | performed (client : Client) (request : Request) (entry : Performed Answer)
  | answered (client : Client) (request : Request) (response : Response request)
  | raised (client : Client) (request : Request) (failure : Failure)
  | abandoned (client : Client)
  | dropped (request : Request)
  | drifted

section Serving

variable
  {Client Request Effect Failure σ : Type}
  {Answer : Effect → Type}
  {Response : Request → Type}

/-- A server that nobody has asked anything yet. -/
def Serving.opened (state : σ) :
    Serving Client Request Effect Answer Failure Response σ where
  state := state
  desks := fun _ => .waiting
  queued := []

variable [DecidableEq Client]

/-- A client gets to another place. -/
def Serving.seat
    (serving : Serving Client Request Effect Answer Failure Response σ)
    (client : Client)
    (desk : Desk Request Effect Answer Failure Response) :
    Serving Client Request Effect Answer Failure Response σ :=
  { serving with desks := Function.update serving.desks client desk }

variable (server : Server Request Effect Answer Failure Response σ)

/-- The steps of a server; a request may be abandoned and a task dropped. -/
inductive ServerStep :
    Serving Client Request Effect Answer Failure Response σ →
    Served Client Answer Failure Response →
    Serving Client Request Effect Answer Failure Response σ → Prop where
  | arrived
      {serving : Serving Client Request Effect Answer Failure Response σ}
      {client : Client}
      (request : Request)
      (waits : serving.desks client = .waiting)
      (foreground : ¬ server.background request) :
      ServerStep serving (.arrived client request)
        (serving.seat client
          (.working
            { request := request, rest := server.body request, trail := [] }))
  | started
      {serving : Serving Client Request Effect Answer Failure Response σ}
      {client : Client}
      {request : Request}
      {before after : List Request}
      (waits : serving.desks client = .waiting)
      (queued : serving.queued = before ++ request :: after) :
      ServerStep serving (.started client request)
        { serving.seat client
            (.working
              { request := request
                rest := server.body request
                trail := [] }) with
          queued := before ++ after }
  | performed
      {serving : Serving Client Request Effect Answer Failure Response σ}
      {client : Client}
      {request : Request}
      {effect : Effect}
      {next :
        Answer effect → Prog Effect Answer Failure (Response request)}
      {trail : Trail Answer}
      {answer : Answer effect}
      {later : σ}
      (works :
        serving.desks client =
          .working
            { request := request
              rest := .call effect next
              trail := trail })
      (performs : server.performs effect serving.state answer later) :
      ServerStep serving (.performed client request ⟨effect, answer⟩)
        { serving.seat client
            (.working
              { request := request
                rest := next answer
                trail := trail ++ [⟨effect, answer⟩] }) with
          state := later }
  | answered
      {serving : Serving Client Request Effect Answer Failure Response σ}
      {client : Client}
      {request : Request}
      {response : Response request}
      {trail : Trail Answer}
      (works :
        serving.desks client =
          .working
            { request := request, rest := .done response, trail := trail }) :
      ServerStep serving (.answered client request response)
        { serving.seat client .left with
          queued := serving.queued ++ server.tasks request response }
  | raised
      {serving : Serving Client Request Effect Answer Failure Response σ}
      {client : Client}
      {request : Request}
      {failure : Failure}
      {trail : Trail Answer}
      (works :
        serving.desks client =
          .working
            { request := request, rest := .fail failure, trail := trail }) :
      ServerStep serving (.raised client request failure)
        (serving.seat client .left)
  | abandoned
      {serving : Serving Client Request Effect Answer Failure Response σ}
      {client : Client}
      {pending : Pending Request Effect Answer Failure Response}
      (works : serving.desks client = .working pending) :
      ServerStep serving (.abandoned client) (serving.seat client .left)
  | dropped
      {serving : Serving Client Request Effect Answer Failure Response σ}
      {request : Request}
      {before after : List Request}
      (queued : serving.queued = before ++ request :: after) :
      ServerStep serving (.dropped request)
        { serving with queued := before ++ after }
  | drifted
      {serving : Serving Client Request Effect Answer Failure Response σ}
      {later : σ}
      (drifts : server.drifts serving.state later) :
      ServerStep serving .drifted { serving with state := later }

end Serving

/-! ## Contracts -/

section Contracts

variable
  {Request Effect Failure σ : Type}
  {Answer : Effect → Type}
  {Response : Request → Type}

/--
Every request performs only what is permitted to it after what it has
performed, and what it is answered rests on all of it.
-/
def Server.Conducts
    (server : Server Request Effect Answer Failure Response σ)
    (permits : Request → Trail Answer → Effect → Prop)
    (concludes :
      (request : Request) → Response request → Trail Answer → Prop) :
    Prop :=
  ∀ request,
    Prog.wp (permitting (permits request)) (server.body request)
      (concludes request) (fun _ _ => True) []

end Contracts

section Runs

variable
  {Client Request Effect Failure σ : Type}
  {Answer : Effect → Type}
  {Response : Request → Type}
  [DecidableEq Client]
  {server : Server Request Effect Answer Failure Response σ}
  {permits : Request → Trail Answer → Effect → Prop}
  {concludes : (request : Request) → Response request → Trail Answer → Prop}

/-- A run of a server from its opening. -/
abbrev ServerRun
    (server : Server Request Effect Answer Failure Response σ)
    (initial : σ) :
    List (Served Client Answer Failure Response) →
    Serving Client Request Effect Answer Failure Response σ → Prop :=
  Run (ServerStep server) (.opened initial)

/-- In a run, a client performed an effect for its request. -/
def HasPerformed
    (server : Server Request Effect Answer Failure Response σ)
    (initial : σ)
    (client : Client)
    (request : Request)
    (entry : Performed Answer)
    (labels : List (Served Client Answer Failure Response)) :
    Prop :=
  Passes (ServerStep server) (.opened initial)
    (fun _ _ label => label = .performed client request entry) labels

/-- In a run, a request was answered in a way that left a task behind. -/
def HasSpawned
    (server : Server Request Effect Answer Failure Response σ)
    (initial : σ)
    (task : Request)
    (labels : List (Served Client Answer Failure Response)) :
    Prop :=
  Passes (ServerStep server) (.opened initial)
    (fun _ _ label =>
      ∃ client request response,
        label = .answered client request response ∧
          task ∈ server.tasks request response)
    labels

/-- A performed effect took the state where its answer leads. -/
theorem ServerStep.performs
    {before after : Serving Client Request Effect Answer Failure Response σ}
    {client : Client}
    {request : Request}
    {entry : Performed Answer}
    (step : ServerStep server before (.performed client request entry) after) :
    server.performs entry.effect before.state entry.answer after.state := by
  cases step with
  | performed _ performs => exact performs

/-- What was performed in a run was answered by the state it met. -/
theorem HasPerformed.exists_step
    {initial : σ}
    {client : Client}
    {request : Request}
    {entry : Performed Answer}
    {labels : List (Served Client Answer Failure Response)}
    (performed : HasPerformed server initial client request entry labels) :
    ∃ earlier later before after,
      labels = earlier ++ .performed client request entry :: later ∧
        ServerRun server initial earlier before ∧
        ServerStep server before (.performed client request entry) after ∧
        server.performs entry.effect before.state entry.answer after.state := by
  obtain ⟨earlier, label, later, before, after, split, run, step, rfl⟩ :=
    performed
  exact ⟨earlier, later, before, after, split, run, step, step.performs⟩

/-! ### What holds of every client of a run -/

/--
A client whose request keeps to the contract from here on, having performed
what the contract believes it has; a background request was left by an answer.
-/
structure Desk.Accounted
    (server : Server Request Effect Answer Failure Response σ)
    (permits : Request → Trail Answer → Effect → Prop)
    (concludes :
      (request : Request) → Response request → Trail Answer → Prop)
    (initial : σ)
    (labels : List (Served Client Answer Failure Response))
    (client : Client)
    (pending : Pending Request Effect Answer Failure Response) :
    Prop where
  keeps :
    Prog.wp (permitting (permits pending.request)) pending.rest
      (concludes pending.request) (fun _ _ => True) pending.trail
  performed : ∀ entry ∈ pending.trail,
    HasPerformed server initial client pending.request entry labels
  spawned : server.background pending.request →
    HasSpawned server initial pending.request labels

/-- Every client of a server at work is accounted for, and so is every task. -/
structure Serving.Accounted
    (server : Server Request Effect Answer Failure Response σ)
    (permits : Request → Trail Answer → Effect → Prop)
    (concludes :
      (request : Request) → Response request → Trail Answer → Prop)
    (initial : σ)
    (labels : List (Served Client Answer Failure Response))
    (serving : Serving Client Request Effect Answer Failure Response σ) :
    Prop where
  clients : ∀ client pending, serving.desks client = .working pending →
    Desk.Accounted server permits concludes initial labels client pending
  tasks : ∀ task ∈ serving.queued, HasSpawned server initial task labels

/-- An account stays one as the run goes on. -/
theorem Desk.Accounted.append
    {initial : σ}
    {labels : List (Served Client Answer Failure Response)}
    {client : Client}
    {pending : Pending Request Effect Answer Failure Response}
    (accounted :
      Desk.Accounted server permits concludes initial labels client pending)
    (more : List (Served Client Answer Failure Response)) :
    Desk.Accounted server permits concludes initial (labels ++ more) client
      pending where
  keeps := accounted.keeps
  performed := fun entry member =>
    (accounted.performed entry member).append more
  spawned := fun background => (accounted.spawned background).append more

/-- Seating one client leaves the accounts of the others. -/
theorem Serving.Accounted.seat
    {initial : σ}
    {labels : List (Served Client Answer Failure Response)}
    {serving : Serving Client Request Effect Answer Failure Response σ}
    (accounted :
      Serving.Accounted server permits concludes initial labels serving)
    {label : Served Client Answer Failure Response}
    {client : Client}
    {desk : Desk Request Effect Answer Failure Response}
    {state : σ}
    {queued : List Request}
    (seated : ∀ pending, desk = .working pending →
      Desk.Accounted server permits concludes initial (labels ++ [label])
        client pending)
    (tasks : ∀ task ∈ queued,
      task ∈ serving.queued ∨
        HasSpawned server initial task (labels ++ [label])) :
    Serving.Accounted server permits concludes initial (labels ++ [label])
      { serving.seat client desk with state := state, queued := queued } where
  clients := by
    intro other pending works
    change Function.update serving.desks client desk other = _ at works
    by_cases same : other = client
    · subst same
      rw [Function.update_self] at works
      exact seated pending works
    · rw [Function.update_of_ne same] at works
      exact (accounted.clients other pending works).append [label]
  tasks := by
    intro task member
    rcases tasks task member with earlier | spawned
    · exact (accounted.tasks task earlier).append [label]
    · exact spawned

/-- The step lemma: every step keeps every account. -/
theorem ServerStep.accounted
    (conducts : server.Conducts permits concludes)
    {initial : σ}
    {labels : List (Served Client Answer Failure Response)}
    {before after : Serving Client Request Effect Answer Failure Response σ}
    {label : Served Client Answer Failure Response}
    (run : ServerRun server initial labels before)
    (step : ServerStep server before label after)
    (accounted :
      Serving.Accounted server permits concludes initial labels before) :
    Serving.Accounted server permits concludes initial (labels ++ [label])
      after := by
  have taken := step
  cases step with
  | arrived request waits foreground =>
      refine accounted.seat ?_ fun task member => .inl member
      intro pending isPending
      obtain rfl := Desk.working.inj isPending
      exact
        { keeps := conducts request
          performed := fun entry member => nomatch member
          spawned := fun background => absurd background foreground }
  | started waits queued =>
      refine accounted.seat ?_ ?_
      · intro pending isPending
        obtain rfl := Desk.working.inj isPending
        exact
          { keeps := conducts _
            performed := fun entry member => nomatch member
            spawned := fun _ =>
              (accounted.tasks _ (by simp [queued])).append _ }
      · intro task member
        refine .inl ?_
        rw [queued]
        simp only [List.mem_append, List.mem_cons] at member ⊢
        exact member.imp id .inr
  | performed works performs =>
      refine accounted.seat ?_ fun task member => .inl member
      intro pending isPending
      obtain rfl := Desk.working.inj isPending
      have earlier := accounted.clients _ _ works
      refine
        { keeps := earlier.keeps.2 _
          performed := ?_
          spawned := fun background =>
            (earlier.spawned background).append _ }
      intro entry member
      rcases List.mem_append.mp member with old | new
      · exact (earlier.performed entry old).append _
      · obtain rfl := List.mem_singleton.mp new
        exact Passes.last run taken rfl
  | answered works =>
      refine accounted.seat (fun _ left => nomatch left) ?_
      intro task member
      rcases List.mem_append.mp member with old | new
      · exact .inl old
      · exact .inr (Passes.last run taken ⟨_, _, _, rfl, new⟩)
  | raised works =>
      exact accounted.seat (fun _ left => nomatch left)
        fun task member => .inl member
  | abandoned works =>
      exact accounted.seat (fun _ left => nomatch left)
        fun task member => .inl member
  | dropped queued =>
      refine
        { clients := fun client pending works =>
            (accounted.clients client pending works).append _
          tasks := fun task member =>
            (accounted.tasks task ?_).append _ }
      rw [queued]
      simp only [List.mem_append, List.mem_cons] at member ⊢
      exact member.imp id .inr
  | drifted drifts =>
      exact
        { clients := fun client pending works =>
            (accounted.clients client pending works).append _
          tasks := fun task member => (accounted.tasks task member).append _ }

/-- The run lemma: in every state of a run everybody is accounted for. -/
theorem ServerRun.accounted
    (conducts : server.Conducts permits concludes)
    {initial : σ}
    {labels : List (Served Client Answer Failure Response)}
    {serving : Serving Client Request Effect Answer Failure Response σ}
    (run : ServerRun server initial labels serving) :
    Serving.Accounted server permits concludes initial labels serving := by
  refine Run.accumulates run
    (fun labels serving =>
      Serving.Accounted server permits concludes initial labels serving)
    ?_ ?_
  · intro earlier state label next before accounted step
    exact step.accounted conducts before accounted
  · exact
      { clients := fun client pending works => nomatch works
        tasks := fun task member => nomatch member }

/--
Whatever a request performs in a run was permitted to it, after what it had
performed earlier in that run.
-/
theorem ServerRun.permitted
    (conducts : server.Conducts permits concludes)
    {initial : σ}
    {labels : List (Served Client Answer Failure Response)}
    {before after : Serving Client Request Effect Answer Failure Response σ}
    {client : Client}
    {request : Request}
    {entry : Performed Answer}
    (run : ServerRun server initial labels before)
    (step : ServerStep server before (.performed client request entry) after) :
    ∃ trail,
      permits request trail entry.effect ∧
        (∀ earlier ∈ trail,
          HasPerformed server initial client request earlier labels) ∧
        (server.background request →
          HasSpawned server initial request labels) := by
  have accounts := run.accounted conducts
  cases step with
  | performed works performs =>
      have accounted := accounts.clients _ _ works
      exact ⟨_, accounted.keeps.1, accounted.performed, accounted.spawned⟩

/-- Whatever a request is answered rests on what it has performed in the run. -/
theorem ServerRun.concluded
    (conducts : server.Conducts permits concludes)
    {initial : σ}
    {labels : List (Served Client Answer Failure Response)}
    {before after : Serving Client Request Effect Answer Failure Response σ}
    {client : Client}
    {request : Request}
    {response : Response request}
    (run : ServerRun server initial labels before)
    (step : ServerStep server before (.answered client request response)
      after) :
    ∃ trail,
      concludes request response trail ∧
        (∀ earlier ∈ trail,
          HasPerformed server initial client request earlier labels) ∧
        (server.background request →
          HasSpawned server initial request labels) := by
  have accounts := run.accounted conducts
  cases step with
  | answered works =>
      have accounted := accounts.clients _ _ works
      exact ⟨_, accounted.keeps, accounted.performed, accounted.spawned⟩

/-- A spawned task was left by a response that rests on what was performed. -/
theorem HasSpawned.concluded
    (conducts : server.Conducts permits concludes)
    {initial : σ}
    {task : Request}
    {labels : List (Served Client Answer Failure Response)}
    (spawned : HasSpawned server initial task labels) :
    ∃ (client : Client) (request : Request) (response : Response request)
        (trail : Trail Answer) (earlier later : List _),
      labels = earlier ++ .answered client request response :: later ∧
        task ∈ server.tasks request response ∧
        concludes request response trail ∧
        ∀ entry ∈ trail,
          HasPerformed server initial client request entry earlier := by
  obtain ⟨earlier, label, later, before, after, split, run, step, isAnswered⟩ :=
    spawned
  obtain ⟨client, request, response, rfl, left⟩ := isAnswered
  obtain ⟨trail, concludes, performed, _⟩ :=
    ServerRun.concluded conducts run step
  exact ⟨client, request, response, trail, earlier, later, split, left,
    concludes, performed⟩

end Runs

/-! ## A request served alone -/

section Alone

variable
  {Client Request Effect Failure σ : Type}
  {Answer : Effect → Type}
  {Response : Request → Type}
  (server : Server Request Effect Answer Failure Response σ)
  (evaluate : Prog.Evaluation Effect Answer σ)

/-- An evaluation answers a program as the server may. -/
def Server.Follows :
    Prog Effect Answer Failure α → σ → Prop
  | .done _, _ => True
  | .fail _, _ => True
  | .call effect next, state =>
      server.performs effect state (evaluate effect state).1
          (evaluate effect state).2 ∧
        Server.Follows (next (evaluate effect state).1)
          (evaluate effect state).2

/-- What is seen of a request that an evaluation answers. -/
def servedLabels
    (client : Client)
    {request : Request} :
    Prog Effect Answer Failure (Response request) → σ →
    List (Served Client Answer Failure Response)
  | .done response, _ => [.answered client request response]
  | .fail failure, _ => [.raised client request failure]
  | .call effect next, state =>
      .performed client request ⟨effect, (evaluate effect state).1⟩ ::
        servedLabels client (next (evaluate effect state).1)
          (evaluate effect state).2

/-- The tasks that wait once a request has been served. -/
def Server.leaves
    (request : Request)
    (queued : List Request) :
    Except Failure (Response request) → List Request
  | .ok response => queued ++ server.tasks request response
  | .error _ => queued

variable
  {server evaluate}
  [DecidableEq Client]

/-- A request that nobody disturbs is served to its end. -/
theorem Server.Follows.served
    {request : Request}
    {program : Prog Effect Answer Failure (Response request)}
    {client : Client}
    {trail : Trail Answer}
    {serving : Serving Client Request Effect Answer Failure Response σ}
    (follows : Server.Follows server evaluate program serving.state)
    (works :
      serving.desks client =
        .working { request := request, rest := program, trail := trail }) :
    ∃ later,
      Run (ServerStep server) serving
          (servedLabels evaluate client program serving.state) later ∧
        later.state = (program.run evaluate serving.state).2 ∧
        later.queued =
          server.leaves request serving.queued
            (program.run evaluate serving.state).1 ∧
        ∀ other, other ≠ client → later.desks other = serving.desks other := by
  induction program generalizing serving trail with
  | done response =>
      exact ⟨_, .single (.answered works), rfl, rfl,
        fun other differs => Function.update_of_ne differs _ _⟩
  | fail failure =>
      exact ⟨_, .single (.raised works), rfl, rfl,
        fun other differs => Function.update_of_ne differs _ _⟩
  | call effect next inductionHypothesis =>
      have step := ServerStep.performed works follows.1
      obtain ⟨later, run, reached, queued, others⟩ :=
        @inductionHypothesis (evaluate effect serving.state).1 _
          { serving.seat client
              (.working
                { request := request
                  rest := next (evaluate effect serving.state).1
                  trail :=
                    trail ++ [⟨effect, (evaluate effect serving.state).1⟩] })
              with
            state := (evaluate effect serving.state).2 }
          follows.2 (Function.update_self _ _ _)
      refine ⟨later, .cons step run, reached, queued, fun other differs => ?_⟩
      exact (others other differs).trans (Function.update_of_ne differs _ _)

end Alone

/-! ## Requests served in turn -/

/-- What happens next at a server that serves one request at a time. -/
inductive Turn (Request σ : Type) where
  | asks (request : Request)
  /-- The oldest task that waits is served. -/
  | works
  | drifts (change : σ → σ)

section Turns

variable
  {Request Effect Failure σ : Type}
  {Answer : Effect → Type}
  {Response : Request → Type}
  (server : Server Request Effect Answer Failure Response σ)
  (evaluate : Prog.Evaluation Effect Answer σ)

/-- What is seen of a script; every request comes from a client of its own. -/
def turnLabels :
    List (Turn Request σ) → Nat → σ → List Request →
    List (Served Nat Answer Failure Response)
  | [], _, _, _ => []
  | .asks request :: rest, client, state, queued =>
      let outcome := (server.body request).run evaluate state
      .arrived client request ::
        servedLabels evaluate client (server.body request) state ++
          turnLabels rest (client + 1) outcome.2
            (server.leaves request queued outcome.1)
  | .works :: rest, client, state, [] => turnLabels rest client state []
  | .works :: rest, client, state, task :: queued =>
      let outcome := (server.body task).run evaluate state
      .started client task ::
        servedLabels evaluate client (server.body task) state ++
          turnLabels rest (client + 1) outcome.2
            (server.leaves task queued outcome.1)
  | .drifts change :: rest, client, state, queued =>
      .drifted :: turnLabels rest client (change state) queued

/-- The state that a script leads to. -/
def turnState :
    List (Turn Request σ) → σ → List Request → σ
  | [], state, _ => state
  | .asks request :: rest, state, queued =>
      let outcome := (server.body request).run evaluate state
      turnState rest outcome.2 (server.leaves request queued outcome.1)
  | .works :: rest, state, [] => turnState rest state []
  | .works :: rest, state, task :: queued =>
      let outcome := (server.body task).run evaluate state
      turnState rest outcome.2 (server.leaves task queued outcome.1)
  | .drifts change :: rest, state, queued =>
      turnState rest (change state) queued

/-- An evaluation answers every request of a script as the server may. -/
def Server.FollowsAll : List (Turn Request σ) → σ → List Request → Prop
  | [], _, _ => True
  | .asks request :: rest, state, queued =>
      let outcome := (server.body request).run evaluate state
      ¬ server.background request ∧
        server.Follows evaluate (server.body request) state ∧
        Server.FollowsAll rest outcome.2
          (server.leaves request queued outcome.1)
  | .works :: rest, state, [] => Server.FollowsAll rest state []
  | .works :: rest, state, task :: queued =>
      let outcome := (server.body task).run evaluate state
      server.Follows evaluate (server.body task) state ∧
        Server.FollowsAll rest outcome.2 (server.leaves task queued outcome.1)
  | .drifts change :: rest, state, queued =>
      server.drifts state (change state) ∧
        Server.FollowsAll rest (change state) queued

variable {server evaluate}

variable (server evaluate) in
/-- A server gets through a script, the first client of which is a given one. -/
def Server.Serves
    (script : List (Turn Request σ))
    (next : Nat)
    (serving : Serving Nat Request Effect Answer Failure Response σ) :
    Prop :=
  ∃ later,
    Run (ServerStep server) serving
        (turnLabels server evaluate script next serving.state serving.queued)
        later ∧
      later.state =
        turnState server evaluate script serving.state serving.queued

/-- Once a request is seated it is served, and then the script goes on. -/
theorem Server.Follows.servesOn
    {request : Request}
    {rest : List (Turn Request σ)}
    {next : Nat}
    {serving seated : Serving Nat Request Effect Answer Failure Response σ}
    (follows :
      server.Follows evaluate (server.body request) seated.state)
    (followsRest :
      server.FollowsAll evaluate rest
        ((server.body request).run evaluate seated.state).2
        (server.leaves request seated.queued
          ((server.body request).run evaluate seated.state).1))
    (desks :
      seated.desks =
        Function.update serving.desks next
          (.working
            { request := request, rest := server.body request, trail := [] }))
    (waits : ∀ client, next ≤ client → serving.desks client = .waiting)
    (goesOn :
      ∀ later : Serving Nat Request Effect Answer Failure Response σ,
        server.FollowsAll evaluate rest later.state later.queued →
        (∀ client, next + 1 ≤ client → later.desks client = .waiting) →
        server.Serves evaluate rest (next + 1) later) :
    ∃ later,
      Run (ServerStep server) seated
          (servedLabels evaluate next (server.body request) seated.state ++
            turnLabels server evaluate rest (next + 1)
              ((server.body request).run evaluate seated.state).2
              (server.leaves request seated.queued
                ((server.body request).run evaluate seated.state).1))
          later ∧
        later.state =
          turnState server evaluate rest
            ((server.body request).run evaluate seated.state).2
            (server.leaves request seated.queued
              ((server.body request).run evaluate seated.state).1) := by
  have works :
      seated.desks next =
        .working
          { request := request, rest := server.body request, trail := [] } := by
    rw [desks, Function.update_self]
  obtain ⟨later, run, reached, queued, others⟩ := follows.served works
  rw [← reached, ← queued] at followsRest ⊢
  have waitToo :
      ∀ client, next + 1 ≤ client → later.desks client = .waiting := by
    intro client isLater
    have differs : client ≠ next := Nat.ne_of_gt isLater
    rw [others client differs, desks, Function.update_of_ne differs]
    exact waits client (Nat.le_of_succ_le isLater)
  obtain ⟨last, onwards, ends⟩ := goesOn later followsRest waitToo
  exact ⟨last, run.append onwards, ends⟩

/-- A script is served from any server whose next clients are still to come. -/
theorem Server.FollowsAll.served
    {script : List (Turn Request σ)}
    {next : Nat}
    {serving : Serving Nat Request Effect Answer Failure Response σ}
    (follows :
      server.FollowsAll evaluate script serving.state serving.queued)
    (waits : ∀ client, next ≤ client → serving.desks client = .waiting) :
    server.Serves evaluate script next serving := by
  induction script generalizing next serving with
  | nil => exact ⟨_, .nil _, rfl⟩
  | cons turn rest inductionHypothesis =>
      cases turn with
      | asks request =>
          obtain ⟨foreground, followsOne, followsRest⟩ := follows
          have step :=
            ServerStep.arrived request (waits next (Nat.le_refl next))
              foreground
          obtain ⟨last, run, ends⟩ :=
            @Server.Follows.servesOn _ _ _ _ _ _ server evaluate request rest
              next serving
              (serving.seat next
                (.working
                  { request := request
                    rest := server.body request
                    trail := [] }))
              followsOne followsRest rfl waits
              fun _ followsLater waitToo =>
                inductionHypothesis followsLater waitToo
          exact ⟨last, .cons step run, ends⟩
      | works =>
          rw [Server.Serves]
          generalize isQueued : serving.queued = queued at follows ⊢
          cases queued with
          | nil =>
              have followsRest :
                  server.FollowsAll evaluate rest serving.state
                    serving.queued := by
                rw [isQueued]
                exact follows
              obtain ⟨last, run, ends⟩ := inductionHypothesis followsRest waits
              rw [isQueued] at run ends
              exact ⟨last, run, ends⟩
          | cons task queued =>
              obtain ⟨followsOne, followsRest⟩ := follows
              have first : serving.queued = [] ++ task :: queued := isQueued
              have step :=
                @ServerStep.started _ _ _ _ _ _ _ _ server serving next task []
                  queued (waits next (Nat.le_refl next)) first
              obtain ⟨last, run, ends⟩ :=
                @Server.Follows.servesOn _ _ _ _ _ _ server evaluate task rest
                  next serving
                  { serving.seat next
                      (.working
                        { request := task
                          rest := server.body task
                          trail := [] }) with
                    queued := queued }
                  followsOne followsRest rfl waits
                  fun _ followsLater waitToo =>
                    inductionHypothesis followsLater waitToo
              exact ⟨last, .cons step run, ends⟩
      | drifts change =>
          obtain ⟨drifted, followsRest⟩ := follows
          obtain ⟨last, run, ends⟩ :=
            @inductionHypothesis next
              { serving with state := change serving.state } followsRest waits
          exact ⟨last, .cons (.drifted drifted) run, ends⟩

/-- A script is served by a server that has just opened. -/
theorem Server.FollowsAll.run
    {script : List (Turn Request σ)}
    {initial : σ}
    (follows : server.FollowsAll evaluate script initial []) :
    ∃ later,
      ServerRun server initial
          (turnLabels server evaluate script 0 initial []) later ∧
        later.state = turnState server evaluate script initial [] :=
  @Server.FollowsAll.served _ _ _ _ _ _ server evaluate script 0
    (.opened initial) follows fun _ _ => rfl

end Turns

end Transactional
