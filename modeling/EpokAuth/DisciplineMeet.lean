import EpokAuth.ContractMeet
import EpokAuth.ServiceDiscipline

namespace EpokAuth

open Transactional

/-!
# The meet of two disciplines

Transactions that keep two disciplines keep both rules of rows, and each rule
may be relied on where the other one is argued for.
-/

namespace RowRules

variable
  {one another : RowRules}
  {locks : List (Lock Resource)}
  {first second base merged : Store}

/-- Rows change as both rules allow. -/
def meet (one another : RowRules) : RowRules where
  changes := fun row first second =>
    one.changes row first second ∧ another.changes row first second
  changes_refl := fun row seen =>
    ⟨one.changes_refl row seen, another.changes_refl row seen⟩
  changes_trans := fun row _ _ _ earlier later =>
    ⟨one.changes_trans row _ _ _ earlier.1 later.1,
      another.changes_trans row _ _ _ earlier.2 later.2⟩
  spares := fun resource row first second =>
    one.spares resource row first second ∧
      another.spares resource row first second
  spares_refl := fun resource row seen =>
    ⟨one.spares_refl resource row seen, another.spares_refl resource row seen⟩
  spares_trans := fun resource row _ _ _ earlier later =>
    ⟨one.spares_trans resource row _ _ _ earlier.1 later.1,
      another.spares_trans resource row _ _ _ earlier.2 later.2⟩

/-- What both rules allow to rely on, each of them does. -/
theorem relied_meet
    (relied : (one.meet another).protection.Relied locks first second) :
    one.protection.Relied locks first second ∧
      another.protection.Relied locks first second :=
  ⟨{ locked := relied.locked
     changed := fun row => (relied.changed row).1
     spared := fun resource held row => (relied.spared resource held row).1 },
    { locked := relied.locked
      changed := fun row => (relied.changed row).2
      spared := fun resource held row => (relied.spared resource held row).2 }⟩

/-- What is granted by each rule is granted by both. -/
theorem granted_meet
    (grantedOne : one.protection.Granted locks first second)
    (grantedAnother : another.protection.Granted locks first second) :
    (one.meet another).protection.Granted locks first second where
  changed := fun row =>
    ⟨grantedOne.changed row, grantedAnother.changed row⟩
  spared := fun resource free row =>
    ⟨grantedOne.spared resource free row,
      grantedAnother.spared resource free row⟩

/-- What is merged by both rules is merged by each of them. -/
theorem merges_meet
    (merges :
      (one.meet another).protection.Merges base first second merged) :
    one.protection.Merges base first second merged ∧
      another.protection.Merges base first second merged :=
  ⟨{ rows := merges.rows
     changed :=
       ⟨fun row => (merges.changed.1 row).1,
         fun row => (merges.changed.2 row).1⟩
     spared := fun resource =>
       (merges.spared resource).imp (fun spared row => (spared row).1)
         fun spared row => (spared row).1 },
    { rows := merges.rows
      changed :=
        ⟨fun row => (merges.changed.1 row).2,
          fun row => (merges.changed.2 row).2⟩
      spared := fun resource =>
        (merges.spared resource).imp (fun spared row => (spared row).2)
          fun spared row => (spared row).2 }⟩

end RowRules

namespace Discipline

variable
  {env : Environment}
  {one another : Discipline}
  {call : ServiceTx}

/-- Statements are issued as both disciplines permit. -/
def meet (one another : Discipline) : Discipline where
  rules := one.rules.meet another.rules
  permits := fun call standing statement =>
    one.permits call standing statement ∧
      another.permits call standing statement
  sane := fun view => one.sane view ∧ another.sane view
  concerns := one.concerns ++ another.concerns
  unconcerned := by
    intro call standing statement harmless
    refine ⟨one.unconcerned _ _ _ ?_, another.unconcerned _ _ _ ?_⟩
    · exact fun kind same member =>
        harmless kind same (List.mem_append_left _ member)
    · exact fun kind same member =>
        harmless kind same (List.mem_append_right _ member)

/-- A call that keeps two disciplines keeps their meet, with both promises. -/
theorem callKeeps_meet
    {promise promise' :
      Contract.Promise Store Write Resource Failure ServiceTx.Answer}
    (keepsOne : (one.contract env).CallKeeps promise call)
    (keepsAnother : (another.contract env).CallKeeps promise' call) :
    ((one.meet another).contract env).CallKeeps
      (fun call answer standing =>
        promise call answer standing ∧ promise' call answer standing)
      call :=
  Contract.CallKeeps.meet
    { rely := fun _ _ _ relied => (RowRules.relied_meet relied).1
      sane := fun _ sane => sane.1 }
    { rely := fun _ _ _ relied => (RowRules.relied_meet relied).2
      sane := fun _ sane => sane.2 }
    (fun _ _ permitted permittedToo => ⟨permitted, permittedToo⟩)
    keepsOne keepsAnother

/-- The protection under which the services keep a discipline. -/
abbrev protection (env : Environment) (discipline : Discipline) :
    Protection (services env).engine :=
  discipline.rules.protection

/-- What both disciplines permit is granted by the rules of both. -/
theorem protects_meet
    (protectsOne :
      Protection.Protects (one.protection env) (one.meet another).permits
        (one.meet another).sane)
    (protectsAnother :
      Protection.Protects (another.protection env) (one.meet another).permits
        (one.meet another).sane) :
    Protection.Protects ((one.meet another).protection env)
      (one.meet another).permits (one.meet another).sane where
  point := fun call standing statement locks effect executes permitted sane =>
    RowRules.granted_meet
      (protectsOne.point call standing statement locks effect executes
        permitted sane)
      (protectsAnother.point call standing statement locks effect executes
        permitted sane)
  visit :=
    fun call standing gained statement targets lock touch answer target view
        executes permitted sane =>
      RowRules.granted_meet
        (protectsOne.visit call standing gained statement targets lock touch
          answer target view executes permitted sane)
        (protectsAnother.visit call standing gained statement targets lock
          touch answer target view executes permitted sane)

end Discipline

end EpokAuth
