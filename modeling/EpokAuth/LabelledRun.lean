namespace Transactional

/-!
# Labelled runs

A run is a finite sequence of labelled steps.  The lemmas below are the only
inductions over runs: what every step preserves holds after every run, and a
run that contains a label passes through the states around it.
-/

/-- A sequence of steps from one state to another, with its labels in order. -/
inductive Run
    (step : σ → Label → σ → Prop) :
    σ → List Label → σ → Prop where
  | nil (state : σ) : Run step state [] state
  | cons
      {start middle finish : σ}
      {label : Label}
      {rest : List Label} :
      step start label middle →
      Run step middle rest finish →
      Run step start (label :: rest) finish

namespace Run

variable
  {step : σ → Label → σ → Prop}
  {start middle finish : σ}
  {first second labels : List Label}

/-- A single step is a run. -/
theorem single
    {label : Label}
    (taken : step start label finish) :
    Run step start [label] finish :=
  .cons taken (.nil finish)

/-- Runs compose. -/
theorem append
    (before : Run step start first middle)
    (after : Run step middle second finish) :
    Run step start (first ++ second) finish := by
  induction before with
  | nil state =>
      exact after
  | cons taken _ inductionHypothesis =>
      exact .cons taken (inductionHypothesis after)

/-- A run over concatenated labels passes through a state between them. -/
theorem exists_middle
    (run : Run step start (first ++ second) finish) :
    ∃ middle,
      Run step start first middle ∧ Run step middle second finish := by
  induction first generalizing start with
  | nil =>
      exact ⟨start, .nil start, run⟩
  | cons label rest inductionHypothesis =>
      cases run with
      | cons taken later =>
          obtain ⟨middle, before, after⟩ := inductionHypothesis later
          exact ⟨middle, .cons taken before, after⟩

/-- A run containing a label passes through the states around that step. -/
theorem exists_step
    {label : Label}
    (run : Run step start (first ++ label :: second) finish) :
    ∃ before after,
      Run step start first before ∧
        step before label after ∧ Run step after second finish := by
  obtain ⟨before, earlier, rest⟩ := run.exists_middle
  cases rest with
  | cons taken later =>
      exact ⟨before, _, earlier, taken, later⟩

/-- What every step of a run preserves holds after the run. -/
theorem preserves
    (run : Run step start labels finish)
    (invariant : σ → Prop)
    (preserved :
      ∀ state label next,
        step state label next → invariant state → invariant next)
    (initial : invariant start) :
    invariant finish := by
  induction run with
  | nil state =>
      exact initial
  | cons taken _ inductionHypothesis =>
      exact inductionHypothesis (preserved _ _ _ taken initial)

/-- What the steps with the labels of a run preserve holds after the run. -/
theorem preserves_along
    (run : Run step start labels finish)
    (invariant : σ → Prop)
    (preserved :
      ∀ state label next, label ∈ labels →
        step state label next → invariant state → invariant next)
    (initial : invariant start) :
    invariant finish := by
  induction run with
  | nil state =>
      exact initial
  | cons taken _ inductionHypothesis =>
      have first := preserved _ _ _ List.mem_cons_self taken initial
      exact inductionHypothesis
        (fun state label next member =>
          preserved state label next (List.mem_cons_of_mem _ member))
        first

/-- What every step relates reflexively and transitively, runs relate. -/
theorem relates
    (run : Run step start labels finish)
    (relation : σ → σ → Prop)
    (reflexive : ∀ state, relation state state)
    (transitive :
      ∀ first second third,
        relation first second → relation second third → relation first third)
    (related :
      ∀ state label next, step state label next → relation state next) :
    relation start finish := by
  induction run with
  | nil state =>
      exact reflexive state
  | cons taken _ inductionHypothesis =>
      exact transitive _ _ _ (related _ _ _ taken) inductionHypothesis

/-- What every step establishes of the labels taken so far, from any prefix. -/
private theorem accumulates_from
    (history : List Label → σ → Prop)
    (extended :
      ∀ earlier state label next,
        Run step start earlier state → history earlier state →
          step state label next → history (earlier ++ [label]) next)
    (before : Run step start first middle)
    (holds : history first middle)
    (after : Run step middle second finish) :
    history (first ++ second) finish := by
  induction after generalizing first with
  | nil last =>
      rw [List.append_nil]
      exact holds
  | cons taken _ inductionHypothesis =>
      have next :=
        inductionHypothesis (before.append (single taken))
          (extended first _ _ _ before holds taken)
      rw [List.append_assoc] at next
      exact next

/-- What every step establishes of the labels taken so far holds of a run. -/
theorem accumulates
    (run : Run step start labels finish)
    (history : List Label → σ → Prop)
    (extended :
      ∀ earlier state label next,
        Run step start earlier state → history earlier state →
          step state label next → history (earlier ++ [label]) next)
    (initial : history [] start) :
    history labels finish :=
  accumulates_from history extended (.nil start) initial run

/-- Runs of deterministic steps with the same labels end in the same state. -/
theorem deterministic
    {other : σ}
    (functional :
      ∀ state label next alternative,
        step state label next → step state label alternative →
          next = alternative)
    (run : Run step start labels finish)
    (again : Run step start labels other) :
    finish = other := by
  induction run with
  | nil state =>
      cases again
      rfl
  | cons taken _ inductionHypothesis =>
      cases again with
      | cons takenToo rest =>
          obtain rfl := functional _ _ _ _ taken takenToo
          exact inductionHypothesis rest

/-- Steps may be weakened. -/
theorem mono
    {weaker : σ → Label → σ → Prop}
    (run : Run step start labels finish)
    (weakens :
      ∀ state label next, step state label next → weaker state label next) :
    Run weaker start labels finish := by
  induction run with
  | nil state =>
      exact .nil state
  | cons taken _ inductionHypothesis =>
      exact .cons (weakens _ _ _ taken) inductionHypothesis

end Run

/--
A run with the given labels takes a step with some property of the labels
before it, the state it is taken in, and its own label.
-/
def Passes
    (step : σ → Label → σ → Prop)
    (start : σ)
    (event : List Label → σ → Label → Prop)
    (labels : List Label) :
    Prop :=
  ∃ earlier label later before after,
    labels = earlier ++ label :: later ∧
      Run step start earlier before ∧
      step before label after ∧
      event earlier before label

namespace Passes

variable
  {step : σ → Label → σ → Prop}
  {start before after : σ}
  {event : List Label → σ → Label → Prop}
  {earlier labels : List Label}
  {label : Label}

/-- What a run has passed it has still passed later. -/
theorem append
    (passed : Passes step start event labels)
    (more : List Label) :
    Passes step start event (labels ++ more) := by
  obtain ⟨first, taken, second, state, next, rfl, run, stepped, holds⟩ := passed
  exact ⟨first, taken, second ++ more, state, next, by simp, run, stepped,
    holds⟩

/-- A run passes the event of its last step. -/
theorem last
    (run : Run step start earlier before)
    (taken : step before label after)
    (holds : event earlier before label) :
    Passes step start event (earlier ++ [label]) :=
  ⟨earlier, label, [], before, after, rfl, run, taken, holds⟩

end Passes

/-- Every step of a run with the given labels has some property. -/
def Always
    (step : σ → Label → σ → Prop)
    (start : σ)
    (property : List Label → σ → Label → σ → Prop)
    (labels : List Label) :
    Prop :=
  ∀ earlier label later before after,
    labels = earlier ++ label :: later →
    Run step start earlier before →
    step before label after →
    property earlier before label after

/-- Of two steps of one list of labels, one comes first or they are the same. -/
theorem split_cases
    {first second firstRest secondRest : List Label}
    {one another : Label}
    (same : first ++ one :: firstRest = second ++ another :: secondRest) :
    (first = second ∧ one = another ∧ firstRest = secondRest) ∨
      (∃ between,
        second = first ++ one :: between ∧
          firstRest = between ++ another :: secondRest) ∨
      ∃ between,
        first = second ++ another :: between ∧
          secondRest = between ++ one :: firstRest := by
  induction first generalizing second with
  | nil =>
      cases second with
      | nil =>
          obtain ⟨rfl, rfl⟩ := List.cons.inj same
          exact .inl ⟨rfl, rfl, rfl⟩
      | cons head tail =>
          obtain ⟨rfl, rfl⟩ := List.cons.inj same
          exact .inr (.inl ⟨tail, rfl, rfl⟩)
  | cons head tail inductionHypothesis =>
      cases second with
      | nil =>
          obtain ⟨rfl, rfl⟩ := List.cons.inj same
          exact .inr (.inr ⟨tail, rfl, rfl⟩)
      | cons otherHead otherTail =>
          obtain ⟨rfl, rest⟩ := List.cons.inj same
          rcases inductionHypothesis rest with
            ⟨rfl, rfl, rfl⟩ | ⟨between, rfl, rfl⟩ | ⟨between, rfl, rfl⟩
          · exact .inl ⟨rfl, rfl, rfl⟩
          · exact .inr (.inl ⟨between, rfl, rfl⟩)
          · exact .inr (.inr ⟨between, rfl, rfl⟩)

/-- The states that some run reaches. -/
def Reachable (step : σ → Label → σ → Prop) (initial state : σ) : Prop :=
  ∃ labels, Run step initial labels state

namespace Reachable

variable
  {step : σ → Label → σ → Prop}
  {initial state : σ}

theorem refl (initial : σ) : Reachable step initial initial :=
  ⟨[], .nil initial⟩

/-- Whatever is reached from a reachable state is reachable. -/
theorem extend
    {labels : List Label}
    {later : σ}
    (reached : Reachable step initial state)
    (run : Run step state labels later) :
    Reachable step initial later := by
  obtain ⟨earlier, before⟩ := reached
  exact ⟨earlier ++ labels, before.append run⟩

/-- An invariant established initially holds of every reachable state. -/
theorem invariant
    (reached : Reachable step initial state)
    (invariant : σ → Prop)
    (established : invariant initial)
    (preserved :
      ∀ state label next,
        step state label next → invariant state → invariant next) :
    invariant state := by
  obtain ⟨labels, run⟩ := reached
  exact run.preserves invariant preserved established

end Reachable

end Transactional
