namespace Transactional

/-!
# Programs over database statements

A transaction is a finite tree: it stops with a value, stops with a failure,
or issues one statement and continues with the answer.  The tree fixes no
database; a meaning is given by a transformer, which says for every statement
which postconditions hold of its answers.

Two readings of one program are used below.  `run` evaluates the statements one
after the other on a state.  `wp` instead computes what must hold beforehand,
for any state type, so that the same program can also be read against a record
of what a transaction knows while others are running.
-/

/-- A program issuing statements, each answered in its own type. -/
inductive Prog
    (Statement : Type u)
    (Answer : Statement → Type)
    (Failure : Type)
    (α : Type) where
  | done : α → Prog Statement Answer Failure α
  | fail : Failure → Prog Statement Answer Failure α
  | call :
      (statement : Statement) →
      (Answer statement → Prog Statement Answer Failure α) →
      Prog Statement Answer Failure α

namespace Prog

variable
  {Statement : Type u}
  {Answer : Statement → Type}
  {Failure α β γ : Type}

/-- Sequential composition: a failure skips the rest. -/
def bind :
    Prog Statement Answer Failure α →
    (α → Prog Statement Answer Failure β) →
    Prog Statement Answer Failure β
  | .done value, later => later value
  | .fail failure, _ => .fail failure
  | .call statement next, later =>
      .call statement fun answer => (next answer).bind later

/-- Handle a failure without undoing what was issued before it. -/
def handle :
    Prog Statement Answer Failure α →
    (Failure → Prog Statement Answer Failure α) →
    Prog Statement Answer Failure α
  | .done value, _ => .done value
  | .fail failure, handler => handler failure
  | .call statement next, handler =>
      .call statement fun answer => (next answer).handle handler

/-- Issue one statement and return its answer. -/
def perform
    (statement : Statement) :
    Prog Statement Answer Failure (Answer statement) :=
  .call statement .done

instance : Monad (Prog Statement Answer Failure) where
  pure := .done
  bind := bind

instance : MonadExcept Failure (Prog Statement Answer Failure) where
  throw := .fail
  tryCatch := handle

/-- Turn a computed failure into a failing program. -/
def ofExcept : Except Failure α → Prog Statement Answer Failure α
  | .ok value => .done value
  | .error failure => .fail failure

@[simp] theorem pure_eq_done (value : α) :
    (pure value : Prog Statement Answer Failure α) = .done value :=
  rfl

@[simp] theorem throw_eq_fail (failure : Failure) :
    (throw failure : Prog Statement Answer Failure α) = .fail failure :=
  rfl

@[simp] theorem bind_done
    (value : α)
    (later : α → Prog Statement Answer Failure β) :
    (Prog.done value >>= later) = later value :=
  rfl

@[simp] theorem bind_fail
    (failure : Failure)
    (later : α → Prog Statement Answer Failure β) :
    (Prog.fail failure >>= later) = .fail failure :=
  rfl

@[simp] theorem bind_call
    (statement : Statement)
    (next : Answer statement → Prog Statement Answer Failure α)
    (later : α → Prog Statement Answer Failure β) :
    (Prog.call statement next >>= later) =
      .call statement fun answer => next answer >>= later :=
  rfl

/-- Composition is associative, so `do` blocks may be regrouped freely. -/
theorem bind_assoc
    (program : Prog Statement Answer Failure α)
    (second : α → Prog Statement Answer Failure β)
    (third : β → Prog Statement Answer Failure γ) :
    (program >>= second >>= third) =
      program >>= fun value => second value >>= third := by
  induction program with
  | done value =>
      rfl
  | fail failure =>
      rfl
  | call statement next inductionHypothesis =>
      simp only [bind_call]
      exact congrArg (Prog.call statement)
        (funext inductionHypothesis)

/-- Returning the value of a program changes nothing. -/
theorem bind_pure
    (program : Prog Statement Answer Failure α) :
    (program >>= Prog.done) = program := by
  induction program with
  | done value =>
      rfl
  | fail failure =>
      rfl
  | call statement next inductionHypothesis =>
      simp only [bind_call]
      exact congrArg (Prog.call statement)
        (funext inductionHypothesis)

instance : LawfulMonad (Prog Statement Answer Failure) :=
  LawfulMonad.mk' _
    (fun program => bind_pure program)
    (fun _ _ => rfl)
    (fun program second third => bind_assoc program second third)

/-! ## Evaluation on a state -/

/-- How every statement answers on a state, and the state it leaves. -/
abbrev Evaluation
    (Statement : Type u)
    (Answer : Statement → Type)
    (σ : Type v) :=
  (statement : Statement) → σ → Answer statement × σ

/-- Evaluate every statement in turn; the state survives a failure. -/
def run
    (evaluate : Evaluation Statement Answer σ) :
    Prog Statement Answer Failure α → σ → Except Failure α × σ
  | .done value, state => (.ok value, state)
  | .fail failure, state => (.error failure, state)
  | .call statement next, state =>
      (next (evaluate statement state).1).run evaluate
        (evaluate statement state).2

/-- Evaluating a program of which part of the value is kept. -/
theorem run_map
    {evaluate : Evaluation Statement Answer σ}
    (program : Prog Statement Answer Failure α)
    (keep : α → β)
    (state : σ) :
    (keep <$> program).run evaluate state =
      ((program.run evaluate state).1.map keep,
        (program.run evaluate state).2) := by
  induction program generalizing state with
  | done value =>
      rfl
  | fail failure =>
      rfl
  | call statement next inductionHypothesis =>
      exact inductionHypothesis (evaluate statement state).1
        (evaluate statement state).2

/-! ## Weakest preconditions -/

/--
The meaning of statements over a state type: which postcondition on answers
and later states each statement establishes.
-/
abbrev Transformer
    (Statement : Type u)
    (Answer : Statement → Type)
    (σ : Type v) :=
  (statement : Statement) → (Answer statement → σ → Prop) → σ → Prop

/-- What must hold before a program so that its postconditions hold after. -/
def wp
    (transformer : Transformer Statement Answer σ) :
    Prog Statement Answer Failure α →
    (α → σ → Prop) → (Failure → σ → Prop) → σ → Prop
  | .done value, normal, _ => normal value
  | .fail failure, _, failed => failed failure
  | .call statement next, normal, failed =>
      transformer statement
        fun answer => wp transformer (next answer) normal failed

/-- A transformer that respects weaker postconditions. -/
def Transformer.Monotone
    (transformer : Transformer Statement Answer σ) : Prop :=
  ∀ (statement : Statement)
    (stronger weaker : Answer statement → σ → Prop)
    (state : σ),
    (∀ answer later, stronger answer later → weaker answer later) →
    transformer statement stronger state →
    transformer statement weaker state

section Rules

variable
  {σ : Type v}
  {transformer : Transformer Statement Answer σ}
  {failed : Failure → σ → Prop}

@[simp] theorem wp_done
    (value : α)
    (normal : α → σ → Prop) :
    wp transformer (.done value) normal failed = normal value :=
  rfl

@[simp] theorem wp_fail
    (failure : Failure)
    (normal : α → σ → Prop) :
    wp transformer (.fail failure : Prog Statement Answer Failure α)
        normal failed =
      failed failure :=
  rfl

theorem wp_call
    (statement : Statement)
    (next : Answer statement → Prog Statement Answer Failure α)
    (normal : α → σ → Prop) :
    wp transformer (.call statement next) normal failed =
      transformer statement
        fun answer => wp transformer (next answer) normal failed :=
  rfl

@[simp] theorem wp_perform
    (statement : Statement)
    (normal : Answer statement → σ → Prop) :
    wp transformer (perform statement) normal failed =
      transformer statement normal :=
  rfl

/-- A composition establishes what its second part establishes after the first. -/
@[simp] theorem wp_bind
    (program : Prog Statement Answer Failure α)
    (later : α → Prog Statement Answer Failure β)
    (normal : β → σ → Prop) :
    wp transformer (program >>= later) normal failed =
      wp transformer program
        (fun value => wp transformer (later value) normal failed)
        failed := by
  induction program with
  | done value =>
      rfl
  | fail failure =>
      rfl
  | call statement next inductionHypothesis =>
      simp only [bind_call, wp_call, inductionHypothesis]

/-- A handled program may also reach the postcondition through its handler. -/
@[simp] theorem wp_handle
    (program : Prog Statement Answer Failure α)
    (handler : Failure → Prog Statement Answer Failure α)
    (normal : α → σ → Prop) :
    wp transformer (program.handle handler) normal failed =
      wp transformer program normal
        (fun failure =>
          wp transformer (handler failure) normal failed) := by
  induction program with
  | done value =>
      rfl
  | fail failure =>
      rfl
  | call statement next inductionHypothesis =>
      simp only [handle, wp_call, inductionHypothesis]

@[simp] theorem wp_ite
    (condition : Prop)
    [Decidable condition]
    (first second : Prog Statement Answer Failure α)
    (normal : α → σ → Prop) :
    wp transformer (if condition then first else second) normal failed =
      if condition then
        wp transformer first normal failed
      else
        wp transformer second normal failed := by
  split <;> rfl

/-- A program establishes every weaker pair of postconditions too. -/
theorem wp_mono
    (monotone : Transformer.Monotone transformer)
    {program : Prog Statement Answer Failure α}
    {stronger weaker : α → σ → Prop}
    {failed' : Failure → σ → Prop}
    {state : σ}
    (holds : wp transformer program stronger failed state)
    (normalWeaker : ∀ value later, stronger value later → weaker value later)
    (failedWeaker : ∀ failure later, failed failure later → failed' failure later) :
    wp transformer program weaker failed' state := by
  induction program generalizing state with
  | done value =>
      exact normalWeaker value state holds
  | fail failure =>
      exact failedWeaker failure state holds
  | call statement next inductionHypothesis =>
      exact monotone statement _ _ state
        (fun answer later rest => inductionHypothesis answer rest)
        holds

end Rules

/-! ## Programs that issue some statements only -/

/-- Every statement a program may issue, whatever is answered, is allowed. -/
def Issues (allowed : Statement → Prop) :
    Prog Statement Answer Failure α → Prop
  | .done _ => True
  | .fail _ => True
  | .call statement next =>
      allowed statement ∧ ∀ answer, (next answer).Issues allowed

section Issues

variable
  {allowed : Statement → Prop}

@[simp] theorem issues_done (value : α) :
    (.done value : Prog Statement Answer Failure α).Issues allowed :=
  trivial

@[simp] theorem issues_fail (failure : Failure) :
    (.fail failure : Prog Statement Answer Failure α).Issues allowed :=
  trivial

/-- Every program issues some statements or others. -/
theorem issues_anything (program : Prog Statement Answer Failure α) :
    program.Issues fun _ => True := by
  induction program with
  | done value => trivial
  | fail failure => trivial
  | call statement next inductionHypothesis =>
      exact ⟨trivial, inductionHypothesis⟩

@[simp] theorem issues_perform (statement : Statement) :
    (perform statement :
        Prog Statement Answer Failure (Answer statement)).Issues allowed ↔
      allowed statement :=
  ⟨fun issues => issues.1, fun permitted => ⟨permitted, fun _ => trivial⟩⟩

@[simp] theorem issues_ofExcept (value : Except Failure α) :
    (ofExcept value : Prog Statement Answer Failure α).Issues allowed := by
  cases value with
  | ok value => trivial
  | error failure => trivial

/-- A composition issues what its parts issue. -/
theorem Issues.bind
    {program : Prog Statement Answer Failure α}
    {later : α → Prog Statement Answer Failure β}
    (first : program.Issues allowed)
    (second : ∀ value, (later value).Issues allowed) :
    (program >>= later).Issues allowed := by
  induction program with
  | done value =>
      exact second value
  | fail failure =>
      trivial
  | call statement next inductionHypothesis =>
      exact ⟨first.1, fun answer => inductionHypothesis answer (first.2 answer)⟩

/-- Allowing more statements allows more programs. -/
theorem Issues.mono
    {more : Statement → Prop}
    {program : Prog Statement Answer Failure α}
    (issues : program.Issues allowed)
    (weakening : ∀ statement, allowed statement → more statement) :
    program.Issues more := by
  induction program with
  | done value =>
      trivial
  | fail failure =>
      trivial
  | call statement next inductionHypothesis =>
      exact ⟨weakening statement issues.1,
        fun answer => inductionHypothesis answer (issues.2 answer)⟩

/--
A program that issues allowed statements keeps what they all keep, and
establishes what holds of every outcome that kept it.
-/
theorem wp_of_issues_keeping
    {σ : Type v}
    {transformer : Transformer Statement Answer σ}
    {program : Prog Statement Answer Failure α}
    {normal : α → σ → Prop}
    {failed : Failure → σ → Prop}
    {keeps : σ → Prop}
    {state : σ}
    (issues : program.Issues allowed)
    (anywhere :
      ∀ statement, allowed statement →
        ∀ (normal : Answer statement → σ → Prop) state, keeps state →
          (∀ answer later, keeps later → normal answer later) →
            transformer statement normal state)
    (returned : ∀ value later, keeps later → normal value later)
    (raised : ∀ failure later, keeps later → failed failure later)
    (kept : keeps state) :
    wp transformer program normal failed state := by
  induction program generalizing state with
  | done value =>
      exact returned value state kept
  | fail failure =>
      exact raised failure state kept
  | call statement next inductionHypothesis =>
      exact anywhere statement issues.1 _ state kept
        fun answer later keptLater =>
          inductionHypothesis answer (issues.2 answer) keptLater

end Issues

/-! ## Evaluation as a transformer -/

/-- The transformer of an evaluation: the one answer it gives. -/
def Evaluation.transformer
    (evaluate : Evaluation Statement Answer σ) :
    Transformer Statement Answer σ :=
  fun statement normal state =>
    normal (evaluate statement state).1 (evaluate statement state).2

theorem Evaluation.transformer_monotone
    (evaluate : Evaluation Statement Answer σ) :
    Transformer.Monotone evaluate.transformer :=
  fun _ _ _ _ weakening holds => weakening _ _ holds

/-- Weakest preconditions over an evaluation describe exactly its runs. -/
theorem wp_transformer_iff
    {evaluate : Evaluation Statement Answer σ}
    {program : Prog Statement Answer Failure α}
    {normal : α → σ → Prop}
    {failed : Failure → σ → Prop}
    {state : σ} :
    wp evaluate.transformer program normal failed state ↔
      match program.run evaluate state with
      | (.ok value, later) => normal value later
      | (.error failure, later) => failed failure later := by
  induction program generalizing state with
  | done value =>
      rfl
  | fail failure =>
      rfl
  | call statement next inductionHypothesis =>
      exact inductionHypothesis (evaluate statement state).1

/-- What a program establishes holds of every run that returns. -/
theorem normal_of_run
    {evaluate : Evaluation Statement Answer σ}
    {program : Prog Statement Answer Failure α}
    {normal : α → σ → Prop}
    {failed : Failure → σ → Prop}
    {state later : σ}
    {value : α}
    (holds : wp evaluate.transformer program normal failed state)
    (returned : program.run evaluate state = (.ok value, later)) :
    normal value later := by
  rw [wp_transformer_iff, returned] at holds
  exact holds

/-- What a program establishes for failures holds of every run that fails. -/
theorem failed_of_run
    {evaluate : Evaluation Statement Answer σ}
    {program : Prog Statement Answer Failure α}
    {normal : α → σ → Prop}
    {failed : Failure → σ → Prop}
    {state later : σ}
    {failure : Failure}
    (holds : wp evaluate.transformer program normal failed state)
    (raised : program.run evaluate state = (.error failure, later)) :
    failed failure later := by
  rw [wp_transformer_iff, raised] at holds
  exact holds

end Prog

end Transactional
