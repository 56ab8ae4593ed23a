import EpokAuth.ConcurrentServices
import EpokAuth.IsolatedTransactions
import EpokAuth.ScriptedRun

namespace EpokAuth

open Transactional

/-!
# The services one transaction at a time

An adapter that admits one transaction at a time, as the one in memory does
behind its lock, executes the transactions of the services one after the other.
So whatever is known of scripts of transactions is known of such an adapter, and
each script is one of the runs of a shared database.
-/

/-! ## Statements -/

/-- No sweep of the stores depends on the order of its visits. -/
theorem Store.execution_unordered (statement : Statement) :
    (Store.engine.execution statement).Unordered Store.engine.apply := by
  cases statement with
  | revokeFamily familyId revokedAt =>
      exact Store.sessionsField.visitAll_update_swap _ _ fun _ => rfl
  | revokeUserSessions userId revokedAt =>
      exact Store.sessionsField.visitAll_update_swap _ _ fun _ => rfl
  | revokeOtherActiveEmailLinks userId purpose activeLinkId now =>
      exact Store.linksField.visitAll_update_swap _ _ fun _ => rfl
  | deleteExpiredPasskeyChallenges now =>
      exact Store.passkeyChallengesField.visitAll_delete_swap _
  | deleteExpiredGoogleChallenges now =>
      exact Store.googleChallengesField.visitAll_delete_swap _
  | deleteOldEmailLinks before =>
      exact Store.linksField.visitAll_delete_swap _
  | _ => exact trivial

/-! ## Transactions -/

section Serial

variable {env : Environment}

/-- A transaction of the services is executed as a call of theirs. -/
theorem services_execute (tx : ServiceTx) (store : Store) :
    (services env).execute tx store = tx.execute env store := by
  have runs :
      (services env).runs tx store = (tx.body env).run Store.evaluate store :=
    rfl
  cases outcome : (tx.body env).run Store.evaluate store with
  | mk answer later =>
      rw [outcome] at runs
      cases answer with
      | ok value =>
          rw [System.execute_of_ok runs, ServiceTx.execute, Tx.execute,
            outcome]
      | error failure =>
          rw [System.execute_of_error runs, ServiceTx.execute, Tx.execute,
            outcome]

/-- An answered transaction, as runs of transactions label it. -/
def asExecuted (answered : Answered Failure ServiceTx.Answer) : Executed where
  tx := answered.call
  answer := answered.answer

/-- Atomic transactions are the script of them. -/
theorem executeAll_of_atomic
    {start final : Store}
    {answered : List (Answered Failure ServiceTx.Answer)}
    (run : Run (services env).AtomicStep start answered final) :
    executeAll env (answered.map Answered.call) start =
      (answered.map asExecuted, final) := by
  induction run with
  | nil store =>
      rfl
  | @cons start middle finish answer rest step _ inductionHypothesis =>
      cases step with
      | executes tx =>
          rw [services_execute] at inductionHypothesis
          rw [List.map_cons, List.map_cons, executeAll, asExecuted,
            services_execute, inductionHypothesis]

variable {Client : Type}

/-- The script of some transactions executes each of them atomically. -/
theorem exists_atomic_run
    (script : List (Client × ServiceTx))
    (store : Store) :
    ∃ served : List (Client × Answered Failure ServiceTx.Answer),
      Run (services env).AtomicStep store (served.map Prod.snd)
          (executeAll env (script.map Prod.snd) store).2 ∧
        (served.map fun entry => (entry.1, entry.2.call)) = script ∧
          (served.map fun entry => asExecuted entry.2) =
            (executeAll env (script.map Prod.snd) store).1 := by
  induction script generalizing store with
  | nil =>
      exact ⟨[], .nil store, rfl, rfl⟩
  | cons entry rest inductionHypothesis =>
      rcases entry with ⟨client, tx⟩
      rcases inductionHypothesis (tx.execute env store).2 with
        ⟨served, run, sameScript, sameAnswers⟩
      have step : (services env).AtomicStep store _ _ := .executes tx store
      rw [services_execute] at step
      exact ⟨(client, _) :: served, .cons step run,
        congrArg (List.cons _) sameScript, congrArg (List.cons _) sameAnswers⟩

variable
  [DecidableEq Client]
  {pool : Client → ServiceTx → Prop}

/--
A run whose transactions do not overlap answers its clients, and leaves the
store, as the script of the transactions that have ended does, in the order in
which the events of the run end them.
-/
theorem isolated_transactions_serial
    {start : Store}
    {labels : List (Event Client (services env))}
    {jobs : Jobs Client (services env)}
    (run :
      Run (IsolatedStep pool) (.start start fun _ => true) labels jobs) :
    ((endedCalls labels).map Prod.fst).Nodup ∧
      (∀ client answered,
        (client, answered) ∈ endedCalls labels ↔
          (jobs.progress client).Concludes answered) ∧
        executeAll env ((endedCalls labels).map fun entry => entry.2.call)
            start =
          ((endedCalls labels).map fun entry => asExecuted entry.2,
            jobs.committed) := by
  have served := (isolated_of_run Store.execution_unordered run).served
  refine ⟨served.once, served.concluded, ?_⟩
  have serial := executeAll_of_atomic served.run
  rw [List.map_map, List.map_map] at serial
  exact serial

/-- The transactions of a script can be taken without an overlap. -/
theorem exists_isolated_script
    {script : List (Client × ServiceTx)}
    (start : Store)
    (once : (script.map Prod.fst).Nodup)
    (allowed : ∀ entry ∈ script, pool entry.1 entry.2) :
    ∃ labels,
      ∃ jobs : Jobs Client (services env),
        Run (IsolatedStep pool) (.start start fun _ => true) labels jobs ∧
          jobs.committed =
              (executeAll env (script.map Prod.snd) start).2 ∧
            ∃ served,
              (jobs.ServedBy start served ∧ endedCalls labels = served) ∧
                (served.map fun entry => (entry.1, entry.2.call)) = script ∧
                  (served.map fun entry => asExecuted entry.2) =
                    (executeAll env (script.map Prod.snd) start).1 := by
  rcases exists_atomic_run script start with
    ⟨served, run, sameScript, sameAnswers⟩
  have servedOnce : (served.map Prod.fst).Nodup := by
    rw [← sameScript, List.map_map] at once
    exact once
  have servedAllowed : ∀ entry ∈ served, pool entry.1 entry.2.call := by
    intro entry member
    refine allowed (entry.1, entry.2.call) ?_
    rw [← sameScript]
    exact List.mem_map.mpr ⟨entry, member, rfl⟩
  rcases exists_isolated_run run servedOnce servedAllowed with
    ⟨labels, jobs, isolated, committed, servedBy⟩
  exact ⟨labels, jobs, isolated, committed, served, servedBy, sameScript,
    sameAnswers⟩

/-- Every script of transactions is a run in which none of them overlap. -/
theorem serial_transactions_isolated
    {script : List (Client × ServiceTx)}
    (start : Store)
    (once : (script.map Prod.fst).Nodup)
    (allowed : ∀ entry ∈ script, pool entry.1 entry.2) :
    ∃ labels,
      ∃ jobs : Jobs Client (services env),
        Run (IsolatedStep pool) (.start start fun _ => true) labels jobs ∧
          jobs.committed =
              (executeAll env (script.map Prod.snd) start).2 ∧
            ∃ served : List (Client × Answered Failure ServiceTx.Answer),
              (served.map fun entry => (entry.1, entry.2.call)) = script ∧
                (served.map fun entry => asExecuted entry.2) =
                    (executeAll env (script.map Prod.snd) start).1 ∧
                  ∀ client answered,
                    (client, answered) ∈ served ↔
                      (jobs.progress client).Concludes answered := by
  rcases exists_isolated_script start once allowed with
    ⟨labels, jobs, run, committed, served, ⟨servedBy, -⟩, sameScript,
      sameAnswers⟩
  exact ⟨labels, jobs, run, committed, served, sameScript, sameAnswers,
    servedBy.concluded⟩

end Serial

/-! ## Two clients -/

/-- An account is created, and its password reset by another client. -/
def resetByAnother : List (Nat × ServiceTx) :=
  [ (0, .createUser 1 "user@example.test" "User" "first" [] [] true 0 {}),
    (1, .resetPassword 1 "second" 10 {}) ]

/-- Everybody may call everything. -/
def anyTransaction (_ : Nat) (_ : ServiceTx) : Prop :=
  True

theorem resetByAnother_allowed :
    ∀ entry ∈ resetByAnother, anyTransaction entry.1 entry.2 :=
  fun _ _ => trivial

theorem resetByAnother_once : (resetByAnother.map Prod.fst).Nodup := by
  decide

/-- The password that the account has in the end is the second one. -/
theorem resetByAnother_password :
    ((executeAll referenceEnvironment (resetByAnother.map Prod.snd)
        {}).2.users.get? 1).map UserAccount.passwordHash =
      some "second" := by
  decide

/-- The two transactions do not overlap in some run of their own. -/
theorem serial_transactions_isolated_resetByAnother :
    ∃ labels,
      ∃ jobs : Jobs Nat (services referenceEnvironment),
        Run (IsolatedStep anyTransaction) (.start {} fun _ => true) labels
            jobs ∧
          (jobs.committed.users.get? 1).map UserAccount.passwordHash =
            some "second" := by
  obtain ⟨labels, jobs, run, committed, -⟩ :=
    serial_transactions_isolated {} resetByAnother_once
      resetByAnother_allowed
  exact ⟨labels, jobs, run, committed ▸ resetByAnother_password⟩

/--
In some run of the two transactions the account is created first, and executing
them in that order leaves what the run leaves.
-/
theorem isolated_transactions_serial_resetByAnother :
    ∃ labels,
      ∃ jobs : Jobs Nat (services referenceEnvironment),
        Run (IsolatedStep anyTransaction) (.start {} fun _ => true) labels
            jobs ∧
          ((endedCalls labels).map fun entry => (entry.1, entry.2.call)) =
              resetByAnother ∧
            (executeAll referenceEnvironment
                ((endedCalls labels).map fun entry => entry.2.call) {}).2 =
                jobs.committed ∧
              (jobs.committed.users.get? 1).map UserAccount.passwordHash =
                some "second" := by
  obtain ⟨labels, jobs, run, committed, served, ⟨-, inOrder⟩, isScript, -⟩ :=
    exists_isolated_script {} resetByAnother_once
      resetByAnother_allowed
  obtain ⟨-, -, serial⟩ := isolated_transactions_serial run
  exact ⟨labels, jobs, run, inOrder ▸ isScript, congrArg Prod.snd serial,
    committed ▸ resetByAnother_password⟩

end EpokAuth
