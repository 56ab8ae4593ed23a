import EpokAuth.CallTransactions

namespace Transactional

/-!
# The calls that have ended

The events of a run tell what each call answers when it returns, and when the
transaction of a client ends.  From them alone follows which calls have ended,
and in which order: one that returned a value ends when its client commits, and
one that raised when its client rolls back.
-/

variable
  {Client σ Write Resource Target Statement Failure Call : Type}
  {Answer : Statement → Type}
  {Result : Call → Type}
  {system : System σ Write Resource Target Answer Failure Result}

/-- A call with what its caller received. -/
structure Answered
    {Call : Type}
    (Failure : Type)
    (Result : Call → Type) where
  call : Call
  answer : Except Failure (Result call)

/-- Whether the call returned a value, rather than raise. -/
def Answered.isOk (answered : Answered Failure Result) : Bool :=
  match answered.answer with
  | .ok _ => true
  | .error _ => false

/-- What the calls of open transactions answered, and the calls that ended. -/
@[ext]
structure Endings
    {Call : Type}
    (Client Failure : Type)
    (Result : Call → Type) where
  answered : Client → Option (Answered Failure Result)
  ended : List (Client × Answered Failure Result)

/-- The answer of a call whose transaction has not ended yet. -/
def Progress.answered? : Progress Failure Result → Option (Answered Failure Result)
  | .returned call answer => some ⟨call, answer⟩
  | _ => none

namespace Endings

/-- No call has been answered. -/
def start : Endings Client Failure Result where
  answered _ := none
  ended := []

variable [DecidableEq Client]

/-- The call of a client is answered. -/
def answer
    (endings : Endings Client Failure Result)
    (client : Client)
    (answered : Answered Failure Result) :
    Endings Client Failure Result :=
  { endings with
    answered := Function.update endings.answered client (some answered) }

/-- The transaction of a client ends, and its call if it was answered so. -/
def leave
    (endings : Endings Client Failure Result)
    (client : Client)
    (ends : Answered Failure Result → Bool) :
    Endings Client Failure Result where
  answered := Function.update endings.answered client none
  ended :=
    endings.ended ++
      ((endings.answered client).toList.filter ends).map (Prod.mk client)

/-- The calls that have ended after one more event. -/
def after
    (endings : Endings Client Failure Result) :
    Event Client system → Endings Client Failure Result
  | .returns client call answer => endings.answer client ⟨call, answer⟩
  | .commits client => endings.leave client Answered.isOk
  | .rollsBack client => endings.leave client fun answered => !answered.isOk
  | _ => endings

/-- The answers are those of the calls that have returned. -/
def Follow
    (endings : Endings Client Failure Result)
    (progress : Client → Progress Failure Result) :
    Prop :=
  ∀ client, endings.answered client = (progress client).answered?

variable
  {endings : Endings Client Failure Result}
  {progress later : Client → Progress Failure Result}
  {event : Event Client system}
  {client : Client}
  {answered : Answered Failure Result}

/-- Answers go along with what a single client has come to. -/
theorem Follow.update
    (follow : endings.Follow progress)
    (moved : Progress Failure Result)
    {finished : List (Client × Answered Failure Result)} :
    Follow
      ⟨Function.update endings.answered client moved.answered?, finished⟩
      (Function.update progress client moved) := by
  intro other
  dsimp only
  by_cases same : other = client
  · rw [same, Function.update_self, Function.update_self]
  · rw [Function.update_of_ne same, Function.update_of_ne same]
    exact follow other

/-- A client that still has no answer keeps having none. -/
theorem Follow.unanswered
    (follow : endings.Follow progress)
    {moved : Progress Failure Result}
    (before : (progress client).answered? = none)
    (now : moved.answered? = none) :
    endings.Follow (Function.update progress client moved) := by
  intro other
  by_cases same : other = client
  · rw [same, Function.update_self, follow client, before, now]
  · rw [Function.update_of_ne same]
    exact follow other

/-- The answers follow every step of clients that make a single call. -/
theorem Follow.step
    (follow : endings.Follow progress)
    (bound : progress event.client ≠ .free)
    (moves : Progress.Moves progress event later) :
    (endings.after event).Follow later := by
  cases moves with
  | free isFree => exact absurd isFree bound
  | issues => exact follow
  | visits => exact follow
  | finishes => exact follow
  | calls waiting => exact follow.unanswered (by rw [waiting]; rfl) rfl
  | @returns client call answer => exact follow.update (.returned call answer)
  | @commits client call value => exact follow.update (.committed call value)
  | @interrupted client call => exact follow.update (.abandoned call none)
  | @abandons client call answer =>
      exact follow.update (.abandoned call (some answer))

/-- The call that a client was answered ends with its transaction. -/
theorem ended_leave
    {ends : Answered Failure Result → Bool}
    (isAnswered : endings.answered client = some answered)
    (isEnd : ends answered = true) :
    (endings.leave client ends).ended =
      endings.ended ++ [(client, answered)] := by
  simp [leave, isAnswered, isEnd]

/-- A call that was not answered so does not end. -/
theorem ended_leave_of_not
    {ends : Answered Failure Result → Bool}
    (noEnd : ∀ answered ∈ endings.answered client, ends answered = false) :
    (endings.leave client ends).ended = endings.ended := by
  rw [leave]
  cases isAnswered : endings.answered client with
  | none => exact List.append_nil _
  | some answered =>
      have kept := noEnd answered isAnswered
      simp [kept]

/-- A call that is answered and ends at once is the only change. -/
theorem leave_answer
    {ends : Answered Failure Result → Bool}
    (unanswered : endings.answered client = none)
    (isEnd : ends answered = true) :
    (endings.answer client answered).leave client ends =
      { endings with ended := endings.ended ++ [(client, answered)] } := by
  have isAnswered :
      (endings.answer client answered).answered client = some answered :=
    Function.update_self ..
  have restored :
      Function.update
          (Function.update endings.answered client (some answered)) client
          none =
        endings.answered := by
    rw [Function.update_idem, ← unanswered, Function.update_eq_self]
  exact Endings.ext restored (ended_leave isAnswered isEnd)

end Endings

/-- The calls that the events end, in the order in which they end them. -/
def endedCalls
    [DecidableEq Client]
    (events : List (Event Client system)) :
    List (Client × Answered Failure Result) :=
  (events.foldl Endings.after .start).ended

end Transactional
