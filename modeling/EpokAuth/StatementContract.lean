import EpokAuth.ReadCommitted
import Mathlib.Logic.Relation

namespace Transactional

/-!
# Contracts of concurrent calls

A contract says when a call may issue a statement, and what the commits of
others may change for a client that holds some locks.  A program keeps a
contract when it does so from whatever its client may see at each statement;
that is a weakest precondition over what the client saw last, the locks it
holds and the rows its call has written.

If commits do change no more than that, and every permitted statement keeps an
invariant of the database, then the invariant holds in every state of every
interleaving of calls that keep the contract.
-/

variable
  {Client σ Write Resource Target Statement Failure Call : Type}
  {Answer : Statement → Type}
  {Result : Call → Type}

/-- What a client saw last, the locks it holds, and what its call wrote. -/
structure Standing (σ Write Resource : Type) where
  view : σ
  locks : List (Lock Resource)
  issued : List Write

/-- The rows a sweep has yet to visit, what its client sees, and its writes. -/
structure Sweep (σ Write Target : Type) where
  pending : List Target
  view : σ
  writes : List Write

/-- A client that sees something else from now on. -/
def Standing.seeing
    (standing : Standing σ Write Resource)
    (view : σ) :
    Standing σ Write Resource :=
  { standing with view := view }

/-- What calls may issue, and what they may rely on while holding locks. -/
structure Contract
    (system : System σ Write Resource Target Answer Failure Result) where
  permits : Call → Standing σ Write Resource → Statement → Prop
  /-- What is true of every view. -/
  sane : σ → Prop
  rely : List (Lock Resource) → σ → σ → Prop
  rely_refl : ∀ locks view, rely locks view view
  rely_trans :
    ∀ locks first second third,
      rely locks first second → rely locks second third →
        rely locks first third
  rely_antitone :
    ∀ fewer more first second,
      fewer ⊆ more → rely more first second → rely fewer first second

/-- An environment admits every statement that is issued. -/
def Event.Admitted
    {system : System σ Write Resource Target Answer Failure Result}
    (admits : Statement → Prop) :
    Event Client system → Prop
  | .issues _ statement => admits statement
  | _ => True

/-- An environment may admit everything. -/
theorem Event.admitted_trivially
    {system : System σ Write Resource Target Answer Failure Result}
    (event : Event Client system) :
    event.Admitted fun _ => True := by
  cases event <;> trivial

namespace Contract

section Programs

variable
  {system : System σ Write Resource Target Answer Failure Result}
  (contract : Contract system)

/-- While a sweep goes on, somebody else commits, or it visits a row. -/
inductive SweepStep
    (locks : List (Lock Resource))
    (touch : Target → σ → List Write) :
    Sweep σ Write Target → Sweep σ Write Target → Prop where
  | relied
      {pending : List Target}
      {first second : σ}
      {writes : List Write}
      (relies : contract.rely locks first second) :
      SweepStep locks touch ⟨pending, first, writes⟩ ⟨pending, second, writes⟩
  | visited
      {earlier later : List Target}
      {target : Target}
      {view : σ}
      {writes : List Write} :
      SweepStep locks touch ⟨earlier ++ target :: later, view, writes⟩
        ⟨earlier ++ later,
          applyAll system.engine.apply (touch target view) view,
          writes ++ touch target view⟩

/-- How far a sweep has come since it chose its rows. -/
abbrev Sweeps
    (locks : List (Lock Resource))
    (touch : Target → σ → List Write) :
    Sweep σ Write Target → Sweep σ Write Target → Prop :=
  Relation.ReflTransGen (contract.SweepStep locks touch)

/-- What an execution does from where a client stands. -/
def executes
    (call : Call)
    (statement : Statement)
    (normal : Answer statement → Standing σ Write Resource → Prop)
    (standing : Standing σ Write Resource) :
    Execution σ Write Resource Target (Answer statement) → Prop
  | .point locks effect =>
      contract.permits call standing statement ∧
        normal (effect standing.view).1
          { view :=
              applyAll system.engine.apply (effect standing.view).2
                standing.view
            locks := standing.locks ++ locks standing.view
            issued := standing.issued ++ (effect standing.view).2 }
  | .sweep targets _ touch answer =>
      contract.permits call standing statement ∧
        ∀ visited seen locks writes,
          contract.Sweeps standing.locks touch
            ⟨targets standing.view, standing.view, []⟩ ⟨[], seen, writes⟩ →
          normal (answer visited)
            { view := seen
              locks := standing.locks ++ locks
              issued := standing.issued ++ writes }

/-- The meaning of statements under a contract. -/
def transformer (call : Call) :
    Prog.Transformer Statement Answer (Standing σ Write Resource) :=
  fun statement normal standing =>
    ∀ view, contract.rely standing.locks standing.view view →
      contract.sane view →
      contract.executes call statement normal (standing.seeing view)
        (system.engine.execution statement)

theorem transformer_monotone (call : Call) :
    Prog.Transformer.Monotone (contract.transformer call) := by
  intro statement stronger weaker standing weakening holds view relies sane
  have held := holds view relies sane
  cases execution : system.engine.execution statement with
  | point locks effect =>
      rw [execution] at held
      exact ⟨held.1, weakening _ _ held.2⟩
  | sweep targets lock touch answer =>
      rw [execution] at held
      exact ⟨held.1, fun visited seen locks writes swept =>
        weakening _ _ (held.2 visited seen locks writes swept)⟩

/-- What a call promises of its answers. -/
abbrev Promise (σ Write Resource Failure : Type) (Result : Call → Type) :=
  (call : Call) → Except Failure (Result call) →
    Standing σ Write Resource → Prop

/-- A program of a call keeps the contract and the call's promise. -/
def Keeps
    (promise : Promise σ Write Resource Failure Result)
    (call : Call)
    (program : Prog Statement Answer Failure (Result call))
    (standing : Standing σ Write Resource) :
    Prop :=
  Prog.wp (contract.transformer call) program
    (fun value => promise call (.ok value))
    (fun failure => promise call (.error failure)) standing

end Programs

section Clients

variable
  [DecidableEq Client]
  [DecidableEq Resource]
  {system : System σ Write Resource Target Answer Failure Result}
  (contract : Contract system)
  (promise : Promise σ Write Resource Failure Result)

/-- A call keeps the contract from whatever its client sees when it begins. -/
def CallKeeps (call : Call) : Prop :=
  ∀ view locks,
    contract.Keeps promise call (system.body call)
      { view := view, locks := locks, issued := [] }

/-- Where a client may stand in the middle of a call. -/
inductive Stands (config : Config Client system) (client : Client) :
    Phase system → Prop where
  | idle : Stands config client .idle
  | issuing
      {call : Call}
      {before issued : List Write}
      {program : Prog Statement Answer Failure (Result call)}
      {seen : σ}
      (written : config.writes client = before ++ issued)
      (relies :
        contract.rely (config.locks client) seen (config.sees client))
      (keeps :
        contract.Keeps promise call program
          { view := seen, locks := config.locks client, issued := issued }) :
      Stands config client (.issuing call before program)
  | sweeping
      {call : Call}
      {before issued more : List Write}
      {statement : Statement}
      {pending : List Target}
      {visited : Nat}
      {next : Answer statement → Prog Statement Answer Failure (Result call)}
      {targets : σ → List Target}
      {lock : Target → Lock Resource}
      {touch : Target → σ → List Write}
      {answer : Nat → Answer statement}
      {base : σ}
      {held gained : List (Lock Resource)}
      (executes :
        system.engine.execution statement = .sweep targets lock touch answer)
      (permitted :
        contract.permits call
          { view := base, locks := held, issued := issued } statement)
      (written : config.writes client = before ++ (issued ++ more))
      (locked : config.locks client = held ++ gained)
      (swept :
        contract.Sweeps held touch ⟨targets base, base, []⟩
          ⟨pending, config.sees client, more⟩)
      (keeps :
        ∀ visited seen locks writes,
          contract.Sweeps held touch ⟨targets base, base, []⟩
              ⟨[], seen, writes⟩ →
          contract.Keeps promise call (next (answer visited))
            { view := seen
              locks := held ++ locks
              issued := issued ++ writes }) :
      Stands config client
        (.sweeping call before statement pending visited next)

/--
The obligations under which a contract establishes an invariant, while no
statement is issued but those that the environment admits.
-/
structure Sound
    (pool : Client → Call → Prop)
    (admits : Statement → Prop)
    (invariant : Ledger Client σ Write Resource → Prop) :
    Prop where
  calls : ∀ client call, pool client call → contract.CallKeeps promise call
  sane :
    ∀ ledger client, invariant ledger →
      contract.sane (ledger.view system.engine client)
  relied :
    ∀ ledger client other, ledger.Proper system.engine → invariant ledger →
      client ≠ other →
      contract.rely (ledger.locks client) (ledger.view system.engine client)
        ((ledger.commit system.engine other).view system.engine client)
  point :
    ∀ ledger client call issued statement locks effect,
      ledger.Proper system.engine → invariant ledger → admits statement →
      system.engine.execution statement = .point locks effect →
      ledger.Grants client (locks (ledger.view system.engine client)) →
      contract.permits call
        { view := ledger.view system.engine client
          locks := ledger.locks client
          issued := issued }
        statement →
      invariant
        (ledger.extend client (locks (ledger.view system.engine client))
          (effect (ledger.view system.engine client)).2)
  visit :
    ∀ ledger client call standing gained statement targets lock touch answer
      target,
      ledger.Proper system.engine → invariant ledger →
      system.engine.execution statement = .sweep targets lock touch answer →
      ledger.Grants client [lock target] →
      contract.permits call standing statement →
      ledger.locks client = standing.locks ++ gained →
      invariant
        (ledger.extend client [lock target]
          (touch target (ledger.view system.engine client)))
  committed :
    ∀ ledger client, ledger.Proper system.engine → invariant ledger →
      invariant (ledger.commit system.engine client)
  released :
    ∀ ledger client, invariant ledger → invariant (ledger.release client)

/-- Everything that holds while clients keep a contract. -/
structure Holds
    (invariant : Ledger Client σ Write Resource → Prop)
    (config : Config Client system) :
    Prop where
  proper : config.toLedger.Proper system.engine
  invariant : invariant config.toLedger
  stands :
    ∀ client, contract.Stands promise config client (config.phases client)

end Clients

section Preservation

variable
  {system : System σ Write Resource Target Answer Failure Result}
  {contract : Contract system}
  {promise : Promise σ Write Resource Failure Result}
  {config next : Config Client system}
  {client : Client}
  {phase : Phase system}

/-- Where a client stands depends on its own rows and locks and its view. -/
theorem Stands.congr
    (stands : contract.Stands promise config client phase)
    (writes : next.writes client = config.writes client)
    (locks : next.locks client = config.locks client)
    (relies :
      contract.rely (config.locks client) (config.sees client)
        (next.sees client)) :
    contract.Stands promise next client phase := by
  cases stands with
  | idle =>
      exact .idle
  | issuing written relied keeps =>
      rw [← locks] at relied keeps relies
      exact .issuing (writes.trans written)
        (contract.rely_trans _ _ _ _ relied relies) keeps
  | sweeping executes permitted written locked swept keeps =>
      rw [locked] at relies
      exact .sweeping executes permitted (writes.trans written)
        (locks.trans locked)
        (swept.tail
          (.relied
            (contract.rely_antitone _ _ _ _ (List.subset_append_left _ _)
              relies)))
        keeps

/-- A step of another client leaves a client where it stands. -/
theorem Stands.of_unmoved
    (stands : contract.Stands promise config client phase)
    (writes : next.writes client = config.writes client)
    (locks : next.locks client = config.locks client)
    (sees : next.sees client = config.sees client) :
    contract.Stands promise next client phase :=
  stands.congr writes locks (sees ▸ contract.rely_refl _ _)

variable
  [DecidableEq Client]
  [DecidableEq Resource]
  {pool : Client → Call → Prop}
  {admits : Statement → Prop}
  {invariant : Ledger Client σ Write Resource → Prop}
  {call : Call}
  {before : List Write}
  {statement : Statement}
  {following :
    Answer statement → Prog Statement Answer Failure (Result call)}

omit [DecidableEq Resource] in
/-- A call begins where its client stands. -/
theorem Stands.calls
    (keeps : contract.CallKeeps promise call) :
    contract.Stands promise
      (config.enter client
        (.issuing call (config.writes client) (system.body call)))
      client
      (.issuing call (config.writes client) (system.body call)) :=
  .issuing (List.append_nil _).symm (contract.rely_refl _ _)
    (keeps (config.sees client) (config.locks client))

omit [DecidableEq Resource] in
/-- After writing and locking, a client stands before its next statement. -/
theorem Stands.advance
    {phase : Phase system}
    {locks : List (Lock Resource)}
    {issued writes : List Write}
    {program : Prog Statement Answer Failure (Result call)}
    (written : config.writes client = before ++ issued)
    (keeps :
      contract.Keeps promise call program
        { view := applyAll system.engine.apply writes (config.sees client)
          locks := config.locks client ++ locks
          issued := issued ++ writes }) :
    contract.Stands promise (config.advance client phase locks writes) client
      (.issuing call before program) := by
  have writtenLater :
      (config.advance client phase locks writes).writes client =
        before ++ (issued ++ writes) := by
    rw [Config.writes_advance_self, written, List.append_assoc]
  have keepsLater :
      contract.Keeps promise call program
        { view := (config.advance client phase locks writes).sees client
          locks := (config.advance client phase locks writes).locks client
          issued := issued ++ writes } := by
    rw [Config.sees_advance_self, Config.locks_advance_self]
    exact keeps
  exact .issuing writtenLater (contract.rely_refl _ _) keepsLater

omit [DecidableEq Resource] in
/-- A point statement is permitted, and its client stands behind it. -/
theorem Stands.point
    {locks : σ → List (Lock Resource)}
    {effect : σ → Answer statement × List Write}
    (stands :
      contract.Stands promise config client
        (.issuing call before (.call statement following)))
    (sane : contract.sane (config.sees client))
    (executes : system.engine.execution statement = .point locks effect) :
    (∃ issued,
        config.writes client = before ++ issued ∧
          contract.permits call
            { view := config.sees client
              locks := config.locks client
              issued := issued }
            statement) ∧
      contract.Stands promise
        (config.advance client
          (.issuing call before (following (effect (config.sees client)).1))
          (locks (config.sees client)) (effect (config.sees client)).2)
        client
        (.issuing call before
          (following (effect (config.sees client)).1)) := by
  cases stands with
  | issuing written relies keeps =>
      have executed := keeps (config.sees client) relies sane
      rw [executes] at executed
      exact ⟨⟨_, written, executed.1⟩, .advance written executed.2⟩

omit [DecidableEq Resource] in
/-- A sweep is permitted, and its client stands in the middle of it. -/
theorem Stands.sweep
    {targets : σ → List Target}
    {lock : Target → Lock Resource}
    {touch : Target → σ → List Write}
    {answer : Nat → Answer statement}
    (stands :
      contract.Stands promise config client
        (.issuing call before (.call statement following)))
    (sane : contract.sane (config.sees client))
    (executes :
      system.engine.execution statement = .sweep targets lock touch answer) :
    contract.Stands promise
      (config.enter client
        (.sweeping call before statement (targets (config.sees client)) 0
          following))
      client
      (.sweeping call before statement (targets (config.sees client)) 0
        following) := by
  cases stands with
  | @issuing _ _ issued _ _ written relies keeps =>
      have executed := keeps (config.sees client) relies sane
      rw [executes] at executed
      have locked : config.locks client = config.locks client ++ [] :=
        (List.append_nil _).symm
      have issuedBefore : config.writes client = before ++ (issued ++ []) := by
        rw [List.append_nil]
        exact written
      exact .sweeping executes executed.1 issuedBefore locked .refl executed.2

omit [DecidableEq Client] [DecidableEq Resource] in
/-- A sweep was permitted when it began, with some of the locks held now. -/
theorem Stands.permitted_sweep
    {pending : List Target}
    {visited : Nat}
    (stands :
      contract.Stands promise config client
        (.sweeping call before statement pending visited following)) :
    ∃ standing gained,
      contract.permits call standing statement ∧
        config.locks client = standing.locks ++ gained := by
  cases stands with
  | sweeping _ permitted _ locked _ _ =>
      exact ⟨_, _, permitted, locked⟩

omit [DecidableEq Resource] in
/-- A visit leaves its client in the middle of the sweep. -/
theorem Stands.visit
    {targets : σ → List Target}
    {lock : Target → Lock Resource}
    {touch : Target → σ → List Write}
    {answer : Nat → Answer statement}
    {first last : List Target}
    {target : Target}
    {visited more : Nat}
    (stands :
      contract.Stands promise config client
        (.sweeping call before statement (first ++ target :: last) visited
          following))
    (executes :
      system.engine.execution statement = .sweep targets lock touch answer) :
    contract.Stands promise
      (config.advance client
        (.sweeping call before statement (first ++ last) more following)
        [lock target] (touch target (config.sees client)))
      client
      (.sweeping call before statement (first ++ last) more following) := by
  cases stands with
  | @sweeping _ _ issued earlier _ _ _ _ _ _ _ _ base held gained executesToo
      permitted written locked swept keeps =>
      obtain ⟨rfl, rfl, rfl, rfl⟩ :=
        Execution.sweep.inj (executes.symm.trans executesToo)
      have writtenLater :
          (config.writes client ++ touch target (config.sees client)) =
            before ++
              (issued ++ (earlier ++ touch target (config.sees client))) := by
        rw [written, List.append_assoc, List.append_assoc]
      have lockedLater :
          config.locks client ++ [lock target] =
            held ++ (gained ++ [lock target]) := by
        rw [locked, List.append_assoc]
      refine .sweeping executes permitted
        (Config.writes_advance_self.trans writtenLater)
        (Config.locks_advance_self.trans lockedLater) ?_ keeps
      rw [Config.sees_advance_self]
      exact swept.tail .visited

omit [DecidableEq Resource] in
/-- When a sweep is finished, its client stands behind it. -/
theorem Stands.finish
    {targets : σ → List Target}
    {lock : Target → Lock Resource}
    {touch : Target → σ → List Write}
    {answer : Nat → Answer statement}
    {visited : Nat}
    (stands :
      contract.Stands promise config client
        (.sweeping call before statement [] visited following))
    (executes :
      system.engine.execution statement = .sweep targets lock touch answer) :
    contract.Stands promise
      (config.enter client
        (.issuing call before (following (answer visited))))
      client
      (.issuing call before (following (answer visited))) := by
  cases stands with
  | @sweeping _ _ _ earlier _ _ _ _ _ _ _ _ _ held gained executesToo _
      written locked swept keeps =>
      obtain ⟨rfl, rfl, rfl, rfl⟩ :=
        Execution.sweep.inj (executes.symm.trans executesToo)
      refine .issuing written (contract.rely_refl _ _) ?_
      have kept := keeps visited (config.sees client) gained earlier swept
      rw [← locked] at kept
      exact kept

omit [DecidableEq Client] [DecidableEq Resource] in
/-- When a call returns or raises, it has kept its promise. -/
theorem Stands.returns
    {answer : Except Failure (Result call)}
    (stands :
      contract.Stands promise config client
        (.issuing call before (Prog.ofExcept answer))) :
    ∃ issued seen,
      config.writes client = before ++ issued ∧
        contract.rely (config.locks client) seen (config.sees client) ∧
        promise call answer
          { view := seen, locks := config.locks client, issued := issued } := by
  cases stands with
  | issuing written relies keeps =>
      cases answer with
      | ok value => exact ⟨_, _, written, relies, keeps⟩
      | error failure => exact ⟨_, _, written, relies, keeps⟩

omit [DecidableEq Client] in
/-- A client stands in the phase it is in. -/
theorem Holds.stands_in
    (holds : contract.Holds promise invariant config)
    (is_phase : config.phases client = phase) :
    contract.Stands promise config client phase :=
  is_phase ▸ holds.stands client

/-- The other clients stand where they stood. -/
theorem Holds.stands_enter
    (holds : contract.Holds promise invariant config)
    (stands :
      contract.Stands promise (config.enter client phase) client phase)
    (other : Client) :
    contract.Stands promise (config.enter client phase) other
      ((config.enter client phase).phases other) := by
  by_cases isClient : other = client
  · subst isClient
    rw [Config.phases_enter_self]
    exact stands
  · rw [Config.phases_enter_of_ne isClient]
    exact (holds.stands other).of_unmoved rfl rfl rfl

/-- Nor does it matter to them what the client wrote and locked. -/
theorem Holds.stands_advance
    {locks : List (Lock Resource)}
    {writes : List Write}
    (holds : contract.Holds promise invariant config)
    (stands :
      contract.Stands promise (config.advance client phase locks writes)
        client phase)
    (other : Client) :
    contract.Stands promise (config.advance client phase locks writes) other
      ((config.advance client phase locks writes).phases other) := by
  by_cases isClient : other = client
  · subst isClient
    rw [Config.phases_advance_self]
    exact stands
  · rw [Config.phases_advance_of_ne isClient]
    exact (holds.stands other).of_unmoved
      (Ledger.writes_extend_of_ne isClient)
      (Ledger.locks_extend_of_ne isClient)
      (Ledger.view_extend_of_ne isClient)

/-- Every step of clients that keep a sound contract preserves what holds. -/
theorem Holds.step
    {event : Event Client system}
    (sound : contract.Sound promise pool admits invariant)
    (holds : contract.Holds promise invariant config)
    (admitted : event.Admitted admits)
    (step : Step pool config event next) :
    contract.Holds promise invariant next := by
  have proper := step.ledgerChange.proper holds.proper
  cases step with
  | calls idle allowed =>
      exact ⟨proper, holds.invariant,
        holds.stands_enter (.calls (sound.calls _ _ allowed))⟩
  | point issuing executes granted =>
      rcases (holds.stands_in issuing).point
          (sound.sane _ _ holds.invariant) executes with
        ⟨⟨issued, _, permitted⟩, stood⟩
      exact ⟨proper,
        sound.point _ _ _ _ _ _ _ holds.proper holds.invariant admitted
          executes granted permitted,
        holds.stands_advance stood⟩
  | sweep issuing executes =>
      exact ⟨proper, holds.invariant,
        holds.stands_enter
          ((holds.stands_in issuing).sweep (sound.sane _ _ holds.invariant)
            executes)⟩
  | visit sweeping executes granted =>
      have stood := holds.stands_in sweeping
      rcases stood.permitted_sweep with ⟨standing, gained, permitted, locked⟩
      exact ⟨proper,
        sound.visit _ _ _ _ _ _ _ _ _ _ _ holds.proper holds.invariant
          executes granted permitted locked,
        holds.stands_advance (stood.visit executes)⟩
  | finish sweeping executes =>
      exact ⟨proper, holds.invariant,
        holds.stands_enter ((holds.stands_in sweeping).finish executes)⟩
  | returned issuing =>
      exact ⟨proper, holds.invariant, holds.stands_enter .idle⟩
  | raised issuing =>
      exact ⟨proper, holds.invariant, holds.stands_enter .idle⟩
  | @commit committer idle =>
      refine ⟨proper,
        sound.committed _ _ holds.proper holds.invariant, ?_⟩
      intro other
      by_cases isCommitter : other = committer
      · subst isCommitter
        have stays : (config.conclude other).phases other = .idle := idle
        rw [stays]
        exact .idle
      · exact (holds.stands other).congr
          (Ledger.writes_commit_of_ne isCommitter)
          (Ledger.locks_commit_of_ne isCommitter)
          (sound.relied _ other committer holds.proper holds.invariant
            isCommitter)
  | @rollback leaver =>
      refine ⟨proper, sound.released _ _ holds.invariant, ?_⟩
      intro other
      by_cases isLeaver : other = leaver
      · subst isLeaver
        rw [Config.phases_abandon_self]
        exact .idle
      · rw [Config.phases_abandon_of_ne isLeaver]
        exact (holds.stands other).of_unmoved
          (Ledger.writes_release_of_ne isLeaver)
          (Ledger.locks_release_of_ne isLeaver)
          (Ledger.view_release_of_ne isLeaver)

/-- What holds of a database without transactions holds in every run. -/
theorem Holds.run
    {labels : List (Event Client system)}
    (sound : contract.Sound promise pool admits invariant)
    (holds : contract.Holds promise invariant config)
    (admitted : ∀ event ∈ labels, event.Admitted admits)
    (run : Run (Step pool) config labels next) :
    contract.Holds promise invariant next :=
  run.preserves_along (contract.Holds promise invariant)
    (fun _ event _ member step holds =>
      Holds.step sound holds (admitted event member) step) holds

omit [DecidableEq Client] in
/-- A contract holds on a database without running transactions. -/
theorem Holds.quiescent
    {committed : σ}
    (established :
      invariant
        (Config.quiescent committed : Config Client system).toLedger) :
    contract.Holds promise invariant
      (Config.quiescent committed : Config Client system) where
  proper := Config.proper_quiescent
  invariant := established
  stands := fun _ => .idle

end Preservation

end Contract

end Transactional
