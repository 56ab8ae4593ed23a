import EpokAuth.LabelledRun

namespace Transactional

/-!
# Systems over a store

A system keeps a store beside whatever else it is in the middle of.  Each of
its steps leaves the store alone, or makes one transaction, which its label
shows.  Its runs are then runs of transactions, and what every transaction
establishes of the ones before it holds of the system.
-/

/-- The store of a system, and the transactions that its labels show. -/
structure Showing (σ Label Store Executed : Type) where
  store : σ → Store
  shows : Label → Executed → Prop

section Runs

variable
  {σ Label Store Executed : Type}

/-- The steps of a system make transactions that they show, and no others. -/
def Showing.Faithful
    (showing : Showing σ Label Store Executed)
    (made : Store → Executed → Store → Prop)
    (step : σ → Label → σ → Prop) :
    Prop :=
  ∀ state label next, step state label next →
    showing.store next = showing.store state ∨
      ∃ executed,
        showing.shows label executed ∧
          made (showing.store state) executed (showing.store next)

/-- The step after some labels makes a transaction with some property. -/
def MakesAfter
    (showing : Showing σ Label Store Executed)
    (made : Store → Executed → Store → Prop)
    (step : σ → Label → σ → Prop)
    (start : σ)
    (event : Label → Store → Executed → Store → Prop)
    (earlier : List Label)
    (label : Label) :
    Prop :=
  ∃ before after executed,
    Run step start earlier before ∧
      step before label after ∧
      showing.shows label executed ∧
      made (showing.store before) executed (showing.store after) ∧
      event label (showing.store before) executed (showing.store after)

/-- A run makes a transaction with some property, and shows it. -/
def PassesMade
    (showing : Showing σ Label Store Executed)
    (made : Store → Executed → Store → Prop)
    (step : σ → Label → σ → Prop)
    (start : σ)
    (event : Label → Store → Executed → Store → Prop)
    (labels : List Label) :
    Prop :=
  ∃ earlier label later,
    labels = earlier ++ label :: later ∧
      MakesAfter showing made step start event earlier label

/-- No two steps of a run make a transaction with some property. -/
def MakesOnce
    (showing : Showing σ Label Store Executed)
    (made : Store → Executed → Store → Prop)
    (step : σ → Label → σ → Prop)
    (start : σ)
    (event : Label → Store → Executed → Store → Prop)
    (labels : List Label) :
    Prop :=
  ∀ first one firstRest second another secondRest,
    labels = first ++ one :: firstRest →
    labels = second ++ another :: secondRest →
    MakesAfter showing made step start event first one →
    MakesAfter showing made step start event second another →
    first = second

variable
  {showing : Showing σ Label Store Executed}
  {made : Store → Executed → Store → Prop}
  {step : σ → Label → σ → Prop}
  {start finish before after : σ}
  {event weaker : Label → Store → Executed → Store → Prop}
  {labels earlier : List Label}
  {label : Label}
  {executed : Executed}

/-- Less may be said of the transaction of a step. -/
theorem MakesAfter.mono
    (makes : MakesAfter showing made step start event earlier label)
    (weakens : ∀ before executed after,
      event label before executed after → weaker label before executed after) :
    MakesAfter showing made step start weaker earlier label := by
  obtain ⟨before, after, executed, run, taken, shown, makes, holds⟩ := makes
  exact ⟨before, after, executed, run, taken, shown, makes, weakens _ _ _ holds⟩

namespace PassesMade

/-- What a run has made it has still made later. -/
theorem append
    (passed : PassesMade showing made step start event labels)
    (more : List Label) :
    PassesMade showing made step start event (labels ++ more) := by
  obtain ⟨first, taken, second, rfl, makes⟩ := passed
  exact ⟨first, taken, second ++ more, by simp, makes⟩

/-- A run has made the transaction of its last step. -/
theorem last
    (run : Run step start earlier before)
    (taken : step before label after)
    (shown : showing.shows label executed)
    (makes : made (showing.store before) executed (showing.store after))
    (holds : event label (showing.store before) executed (showing.store after)) :
    PassesMade showing made step start event (earlier ++ [label]) :=
  ⟨earlier, label, [], rfl, before, after, executed, run, taken, shown, makes,
    holds⟩

/-- Less may be said of the transaction. -/
theorem mono
    (passed : PassesMade showing made step start event labels)
    (weakens : ∀ label before executed after,
      event label before executed after → weaker label before executed after) :
    PassesMade showing made step start weaker labels := by
  obtain ⟨first, taken, second, split, makes⟩ := passed
  exact ⟨first, taken, second, split, makes.mono (weakens taken)⟩

end PassesMade

/-- What a run makes once, the beginning of the run makes once. -/
theorem MakesOnce.of_append
    {more : List Label}
    (once : MakesOnce showing made step start event (labels ++ more)) :
    MakesOnce showing made step start event labels := by
  intro first one firstRest second another secondRest split splitToo makes
    makesToo
  refine once first one (firstRest ++ more) second another (secondRest ++ more)
    ?_ ?_ makes makesToo
  · rw [split, List.append_assoc, List.cons_append]
  · rw [splitToo, List.append_assoc, List.cons_append]

/-- What two events say of a transaction made once, one step does. -/
theorem MakesOnce.unique
    {one other : Label → Store → Executed → Store → Prop}
    (once : MakesOnce showing made step start event labels)
    (passed : PassesMade showing made step start one labels)
    (passedToo : PassesMade showing made step start other labels)
    (isEvent : ∀ label before executed after,
      one label before executed after → event label before executed after)
    (isEventToo : ∀ label before executed after,
      other label before executed after → event label before executed after) :
    ∃ earlier label later,
      labels = earlier ++ label :: later ∧
        MakesAfter showing made step start one earlier label ∧
        MakesAfter showing made step start other earlier label := by
  obtain ⟨first, taken, rest, split, makes⟩ := passed
  obtain ⟨second, takenToo, restToo, splitToo, makesToo⟩ := passedToo
  obtain rfl :=
    once _ _ _ _ _ _ split splitToo (makes.mono (isEvent taken))
      (makesToo.mono (isEventToo takenToo))
  have same := List.append_cancel_left (split.symm.trans splitToo)
  obtain ⟨rfl, rfl⟩ := List.cons.inj same
  exact ⟨first, taken, rest, split, makes, makesToo⟩

namespace Showing.Faithful

/-- What every transaction establishes of the run so far holds of a run. -/
theorem accumulates
    (faithful : showing.Faithful made step)
    (run : Run step start labels finish)
    (history : List Label → Store → Prop)
    (kept : ∀ earlier label store,
      history earlier store → history (earlier ++ [label]) store)
    (extended : ∀ earlier before label after executed,
      Run step start earlier before →
      step before label after →
      showing.shows label executed →
      made (showing.store before) executed (showing.store after) →
      history earlier (showing.store before) →
        history (earlier ++ [label]) (showing.store after))
    (initial : history [] (showing.store start)) :
    history labels (showing.store finish) := by
  refine run.accumulates (fun labels state => history labels (showing.store state))
    ?_ initial
  intro earlier before label after before_run holds taken
  rcases faithful _ _ _ taken with same | ⟨executed, shown, makes⟩
  · rw [same]
    exact kept _ _ _ holds
  · exact extended _ _ _ _ _ before_run taken shown makes holds

/-- A run of a system is a run of the transactions that it makes. -/
theorem exists_run
    (faithful : showing.Faithful made step)
    (run : Run step start labels finish) :
    ∃ transactions,
      Run made (showing.store start) transactions (showing.store finish) := by
  refine faithful.accumulates run
    (fun _ store => ∃ transactions,
      Run made (showing.store start) transactions store) ?_ ?_ ?_
  · exact fun _ _ _ made => made
  · rintro _ before _ after executed _ _ _ makes ⟨transactions, earlier⟩
    exact ⟨transactions ++ [executed], earlier.append (.single makes)⟩
  · exact ⟨[], .nil _⟩

end Showing.Faithful

end Runs

end Transactional
