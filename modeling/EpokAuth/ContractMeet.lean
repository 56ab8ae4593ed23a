import EpokAuth.StatementContract

namespace Transactional

/-!
# The meet of two contracts

A program that keeps two contracts may rely on both, and owes both.  What it
promises under each of them, it promises under the contract in which they meet.
-/

variable
  {Client σ Write Resource Target Statement Failure Call : Type}
  {Answer : Statement → Type}
  {Result : Call → Type}
  {system : System σ Write Resource Target Answer Failure Result}

namespace Contract

/-- What may be relied on under a contract may be relied on under another. -/
structure Grants (contract weaker : Contract system) : Prop where
  rely :
    ∀ locks first second,
      contract.rely locks first second → weaker.rely locks first second
  sane : ∀ view, contract.sane view → weaker.sane view

variable
  {contract weaker one another : Contract system}

/-- A sweep goes on as it may under a contract that is granted. -/
theorem Grants.sweeps
    {locks : List (Lock Resource)}
    {touch : Target → σ → List Write}
    {first second : Sweep σ Write Target}
    (grants : contract.Grants weaker)
    (swept : contract.Sweeps locks touch first second) :
    weaker.Sweeps locks touch first second := by
  induction swept with
  | refl =>
      exact .refl
  | tail _ step inductionHypothesis =>
      refine inductionHypothesis.tail ?_
      cases step with
      | relied relies => exact .relied (grants.rely _ _ _ relies)
      | visited => exact .visited

/-- A program that keeps two contracts keeps the one in which they meet. -/
theorem wp_meet
    {α : Type}
    {call : Call}
    {program : Prog Statement Answer Failure α}
    {normal normal' : α → Standing σ Write Resource → Prop}
    {failed failed' : Failure → Standing σ Write Resource → Prop}
    {standing : Standing σ Write Resource}
    (grantsOne : contract.Grants one)
    (grantsAnother : contract.Grants another)
    (permits :
      ∀ standing statement,
        one.permits call standing statement →
          another.permits call standing statement →
            contract.permits call standing statement)
    (keepsOne :
      Prog.wp (one.transformer call) program normal failed standing)
    (keepsAnother :
      Prog.wp (another.transformer call) program normal' failed' standing) :
    Prog.wp (contract.transformer call) program
      (fun value later => normal value later ∧ normal' value later)
      (fun failure later => failed failure later ∧ failed' failure later)
      standing := by
  induction program generalizing standing with
  | done value =>
      exact ⟨keepsOne, keepsAnother⟩
  | fail failure =>
      exact ⟨keepsOne, keepsAnother⟩
  | call statement next inductionHypothesis =>
      intro view relies sane
      have executesOne :=
        keepsOne view (grantsOne.rely _ _ _ relies) (grantsOne.sane _ sane)
      have executesAnother :=
        keepsAnother view (grantsAnother.rely _ _ _ relies)
          (grantsAnother.sane _ sane)
      cases execution : system.engine.execution statement with
      | point locks effect =>
          rw [execution] at executesOne executesAnother
          exact ⟨permits _ _ executesOne.1 executesAnother.1,
            inductionHypothesis _ executesOne.2 executesAnother.2⟩
      | sweep targets lock touch answer =>
          rw [execution] at executesOne executesAnother
          refine ⟨permits _ _ executesOne.1 executesAnother.1, ?_⟩
          intro visited seen locks writes swept
          exact inductionHypothesis _
            (executesOne.2 visited seen locks writes
              (grantsOne.sweeps swept))
            (executesAnother.2 visited seen locks writes
              (grantsAnother.sweeps swept))

/-- A call that keeps two contracts keeps both promises where they meet. -/
theorem CallKeeps.meet
    {promise promise' : Promise σ Write Resource Failure Result}
    {call : Call}
    (grantsOne : contract.Grants one)
    (grantsAnother : contract.Grants another)
    (permits :
      ∀ standing statement,
        one.permits call standing statement →
          another.permits call standing statement →
            contract.permits call standing statement)
    (keepsOne : one.CallKeeps promise call)
    (keepsAnother : another.CallKeeps promise' call) :
    contract.CallKeeps
      (fun call answer standing =>
        promise call answer standing ∧ promise' call answer standing)
      call :=
  fun view locks =>
    wp_meet grantsOne grantsAnother permits (keepsOne view locks)
      (keepsAnother view locks)

end Contract

end Transactional
