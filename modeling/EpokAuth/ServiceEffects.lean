import EpokAuth.GoogleEffect

namespace EpokAuth

open Transactional

/-!
# Every step of a run performs moves

Whatever transaction a step completes, its effect is a sequence of enabled
moves; a transaction that raises has none.
-/

/-- A transaction run alone has an effect. -/
theorem ServiceTx.hasEffect
    {env : Environment}
    {store : Store}
    (tx : ServiceTx)
    (fresh : tx.Fresh store) :
    tx.HasEffect env store := by
  cases tx with
  | login => exact login_effect fresh
  | reauthenticatePassword => exact reauthenticatePassword_effect
  | authenticate => exact authenticate_effect
  | refresh => exact refresh_effect
  | logout => exact logout_effect
  | changePassword => exact changePassword_effect fresh
  | createAdmin => exact createAdmin_effect
  | createUser => exact createUser_effect
  | listUsers => exact listUsers_effect
  | getUser => exact getUser_effect
  | updateUser => exact updateUser_effect
  | resetPassword => exact resetPassword_effect
  | revokeUserSessions => exact revokeUserSessions_effect
  | requestLogin => exact requestLogin_effect
  | requestPasswordReset => exact requestPasswordReset_effect
  | invite => exact invite_effect
  | markDelivered => exact markDelivered_effect
  | markDeliveryFailed => exact markDeliveryFailed_effect
  | markNoticeDeliveryFailed => exact markNoticeDeliveryFailed_effect
  | activeLinkCandidate => exact activeLinkCandidate_effect
  | emailLinkLogin => exact emailLinkLogin_effect fresh
  | emailLinkResetPassword => exact emailLinkResetPassword_effect
  | activateInvitation => exact activateInvitation_effect
  | provision => exact provision_effect
  | ensureInitialAdmin => exact ensureInitialAdmin_effect
  | replaceActivation => exact replaceActivation_effect
  | activate => exact activate_effect
  | beginRegistration => exact beginRegistration_effect
  | finishRegistration => exact finishRegistration_effect
  | beginAuthentication => exact beginAuthentication_effect
  | beginReauthentication => exact beginReauthentication_effect
  | finishAuthentication => exact finishAuthentication_effect fresh
  | finishReauthentication => exact finishReauthentication_effect
  | listPasskeys => exact listPasskeys_effect
  | revokePasskey => exact revokePasskey_effect
  | consumePasskeyChallenge => exact consumePasskeyChallenge_effect
  | registrationFailure => exact registrationFailure_effect
  | authenticationFailure => exact authenticationFailure_effect
  | reauthenticationFailure => exact reauthenticationFailure_effect
  | beginGoogleChallenge => exact beginGoogleChallenge_effect
  | consumeGoogleChallenge => exact consumeGoogleChallenge_effect
  | googleLogin => exact googleLogin_effect fresh
  | loginLinkedAfterConflict => exact loginLinkedAfterConflict_effect fresh
  | linkIdentity => exact linkIdentity_effect
  | linkedAfterConflict => exact linkedAfterConflict_effect
  | recoverPasswordAccess => exact recoverPasswordAccess_effect
  | verificationFailure => exact verificationFailure_effect

/-- A failure is no cause of any change. -/
theorem not_causes_error
    {deps : Dependencies}
    {before : Store}
    {tx : ServiceTx}
    {failure : Failure}
    {userId : Uuid}
    {change : AccountChange} :
    ¬ Causes deps before { tx := tx, answer := .error failure } userId
      change := by
  intro caused
  cases caused

/-- A transaction that is rolled back has no effect. -/
theorem Effect.of_error
    {deps : Dependencies}
    {store : Store}
    {tx : ServiceTx}
    {failure : Failure} :
    Effect deps store { tx := tx, answer := .error failure } [] store :=
  .unchanged rfl fun _ _ caused => absurd caused not_causes_error

section Execution

variable
  {env : Environment}
  {store : Store}
  {tx : ServiceTx}

/-- What a body establishes holds of a transaction that returned. -/
theorem ServiceTx.execute_of_wp
    {normal : tx.Answer → Store → Prop}
    (holds : Tx.wp (tx.body env) normal (fun _ _ => True) store) :
    (∃ answer later,
        tx.execute env store = (.ok answer, later) ∧ normal answer later) ∨
      ∃ failure, tx.execute env store = (.error failure, store) := by
  rcases Tx.execute_of_wp holds with
    ⟨answer, later, executes, reached⟩ | ⟨failure, executes, _⟩
  · exact .inl ⟨answer, later, executes, reached⟩
  · exact .inr ⟨failure, executes⟩

/-- A body that never raises is committed. -/
theorem ServiceTx.execute_returns_of_wp
    {normal : tx.Answer → Store → Prop}
    (holds : Tx.wp (tx.body env) normal (fun _ _ => False) store) :
    ∃ answer later,
      tx.execute env store = (.ok answer, later) ∧ normal answer later := by
  exact Tx.execute_returns_of_wp holds

/-- A transaction that raises leaves the store as it was. -/
theorem ServiceTx.rolls_back
    {failure : Failure}
    (raised : (tx.execute env store).1 = .error failure) :
    (tx.execute env store).2 = store := by
  unfold ServiceTx.execute Tx.execute at raised ⊢
  split at raised
  · cases raised
  · rfl

/-- What a body answers or raises, the transaction answers. -/
theorem ServiceTx.answer_of_wp
    {answers : Except Failure tx.Answer → Prop}
    (holds :
      Tx.wp (tx.body env) (fun answer _ => answers (.ok answer))
        (fun failure _ => answers (.error failure)) store) :
    answers (tx.execute env store).1 := by
  rcases Tx.execute_of_wp holds with
    ⟨answer, later, executes, reached⟩ | ⟨failure, executes, reached⟩
  · rw [ServiceTx.execute, executes]
    exact reached
  · rw [ServiceTx.execute, executes]
    exact reached

end Execution

/-- A transaction that commits executed, and opened no family in use. -/
theorem ServiceStep.executes
    {env : Environment}
    {before after : Store}
    {tx : ServiceTx}
    {answer : tx.Answer}
    (step : ServiceStep env before { tx := tx, answer := .ok answer } after) :
    tx.execute env before = (.ok answer, after) ∧ tx.Fresh before := by
  generalize labelled :
    ({ tx := tx, answer := .ok answer } : Executed) = executed at step
  cases step with
  | completed other fresh =>
      obtain ⟨rfl, same⟩ := Executed.mk.inj labelled
      refine ⟨?_, fresh⟩
      rw [eq_of_heq same]
  | aborted other failure =>
      obtain ⟨rfl, same⟩ := Executed.mk.inj labelled
      cases eq_of_heq same

/-- What a body establishes holds of every step that commits it. -/
theorem ServiceStep.of_wp
    {env : Environment}
    {before after : Store}
    {tx : ServiceTx}
    {answer : tx.Answer}
    {normal : tx.Answer → Store → Prop}
    (step : ServiceStep env before { tx := tx, answer := .ok answer } after)
    (holds : Tx.wp (tx.body env) normal (fun _ _ => True) before) :
    normal answer after := by
  rcases tx.execute_of_wp holds with
    ⟨result, later, executes, established⟩ | ⟨failure, raises⟩
  · rw [step.executes.1] at executes
    obtain ⟨sameAnswer, rfl⟩ := Prod.mk.inj executes
    obtain rfl := Except.ok.inj sameAnswer
    exact established
  · rw [step.executes.1] at raises
    cases (Prod.mk.inj raises).1

/-- A step that raises leaves the store as it was. -/
theorem ServiceStep.unchanged_of_error
    {env : Environment}
    {before after : Store}
    {tx : ServiceTx}
    {failure : Failure}
    (step :
      ServiceStep env before { tx := tx, answer := .error failure } after) :
    after = before := by
  generalize labelled :
    ({ tx := tx, answer := .error failure } : Executed) = executed at step
  cases step with
  | completed other fresh =>
      obtain ⟨rfl, same⟩ := Executed.mk.inj labelled
      exact ServiceTx.rolls_back (eq_of_heq same).symm
  | aborted other _ =>
      rfl

/-- What a step did is determined by the store it met and its label. -/
theorem ServiceStep.functional
    {env : Environment}
    {before after other : Store}
    {executed : Executed}
    (step : ServiceStep env before executed after)
    (again : ServiceStep env before executed other) :
    after = other := by
  obtain ⟨tx, answer⟩ := executed
  cases answer with
  | ok answer =>
      have first := step.executes.1
      rw [again.executes.1] at first
      exact (Prod.mk.inj first).2.symm
  | error failure =>
      rw [step.unchanged_of_error, again.unchanged_of_error]

/-- The store that a run leaves is determined by the one it met and its labels. -/
theorem ServiceRun.functional
    {env : Environment}
    {before after other : Store}
    {labels : List Executed}
    (run : ServiceRun env before labels after)
    (again : ServiceRun env before labels other) :
    after = other := by
  refine Run.deterministic ?_ run again
  intro store executed next alternative
  exact ServiceStep.functional

/-- Every step of a run performs enabled moves, attributed to its cause. -/
theorem ServiceStep.effect
    {env : Environment}
    {before after : Store}
    {executed : Executed}
    (step : ServiceStep env before executed after) :
    ∃ moves, Effect env.toDependencies before executed moves after := by
  cases step with
  | completed tx fresh =>
      rcases tx.execute_of_wp (tx.hasEffect fresh) with
        ⟨answer, later, executes, effect⟩ | ⟨failure, executes⟩
      · rw [executes]
        exact effect
      · rw [executes]
        exact ⟨[], .of_error⟩
  | aborted tx failure =>
      exact ⟨[], .of_error⟩

/-- What every enabled move preserves, a run of the services preserves. -/
theorem ServiceRun.preserves_core
    {env : Environment}
    {before after : Store}
    {labels : List Executed}
    (run : ServiceRun env before labels after)
    (invariant : Core → Prop)
    (preserved :
      ∀ move core,
        Move.Enabled env.settings move core → invariant core →
          invariant (move.perform env.settings core))
    (initial : invariant before.toCore) :
    invariant after.toCore := by
  refine run.preserves (fun store => invariant store.toCore) ?_ initial
  intro store executed next step holds
  obtain ⟨moves, effect⟩ := step.effect
  exact effect.performs.preserves invariant
    (fun move _ core enabled => preserved move core enabled) holds

end EpokAuth
