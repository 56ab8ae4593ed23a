import EpokAuth.ScriptedRun
import EpokAuth.ServiceEffects

namespace EpokAuth

open Transactional

/-!
# Reporting a delivery again

A queue that redelivers a job reports the same delivery twice.  The guard of
`mark_delivered` asks for a pending link, and its negative answer revokes the
link; so the second report ends a link that the first one activated.
-/

section Reports

variable (env : Environment)

/-- Report the delivery of one link at each of some instants. -/
def reportDeliveries (linkId : Uuid) : List Instant → Store → Store
  | [], store => store
  | now :: later, store =>
      reportDeliveries linkId later
        ((ServiceTx.markDelivered linkId now).execute env store).2

/-- A link is active, and may be consumed at an instant. -/
def Usable (store : Store) (linkId : Uuid) (now : Instant) : Prop :=
  ∃ link user,
    store.links.get? linkId = some link ∧
      store.users.get? link.userId = some user ∧
      matchesUser env.toDependencies link user now = .ok true

/--
The delivery of a link was reported with success, and since then it was neither
consumed, superseded, expired nor fenced.
-/
structure Delivered
    (history : List Executed)
    (store : Store)
    (linkId : Uuid)
    (now : Instant) :
    Prop where
  reported :
    ∃ reportedAt,
      { tx := .markDelivered linkId reportedAt, answer := .ok true } ∈ history
  usable : Usable env store linkId now

/-- A link stays usable, and nothing else about accounts changes. -/
structure Unharmed
    (before after : Store)
    (linkId : Uuid)
    (now : Instant) :
    Prop where
  usable : Usable env after linkId now
  otherLinks :
    ∀ id, id ≠ linkId → after.links.get? id = before.links.get? id
  users : after.users = before.users
  sessions : after.sessions = before.sessions

end Reports

variable
  {env : Environment}
  {store : Store}
  {linkId : Uuid}
  {now : Instant}

/-- A link can no longer be delivered or consumed. -/
def Closed (store : Store) (linkId : Uuid) : Prop :=
  ∃ link,
    store.links.get? linkId = some link ∧
      link.state ≠ .pending ∧ link.state ≠ .active

/-- Only pending links are deliverable. -/
theorem deliverableLink_of_not_pending
    {deps : Dependencies}
    {link : EmailLink}
    (delivered : link.state ≠ .pending)
    (latest : Option EmailLink)
    (user : Option UserAccount) :
    deliverableLink deps (some link) latest user now = .ok none := by
  cases latest with
  | none =>
      rfl
  | some latest =>
      cases user with
      | none =>
          rfl
      | some user =>
          simp [deliverableLink, delivered, pure, Except.pure]

/-- A report about a link that is not pending leaves it closed. -/
theorem closed_of_report
    {link : EmailLink}
    (found : store.links.get? linkId = some link)
    (delivered : link.state ≠ .pending) :
    Closed ((ServiceTx.markDelivered linkId now).execute env store).2
      linkId := by
  have linkKey : link.id = linkId := Table.key_of_get? found
  have reported :
      Tx.wp ((ServiceTx.markDelivered linkId now).body env)
        (fun _ later => Closed later linkId) (fun _ _ => False) store := by
    simp only [ServiceTx.body, markDelivered, Tx.wp_bind, Tx.wp_getEmailLink,
      found, Tx.wp_getUserById, Tx.wp_getLatestEmailLink, Tx.wp_ofExcept,
      deliverableLink_of_not_pending delivered, Tx.wp_revokeEmailLink,
      Tx.wp_pure, linkKey, Option.filter_some]
    by_cases active : link.state = .active
    · -- the first report activated the link; this one revokes it
      simp only [active, decide_true, Bool.or_true, ↓reduceIte]
      refine ⟨Store.revokeLinkAt now link, ?_, by simp [Store.revokeLinkAt],
        by simp [Store.revokeLinkAt]⟩
      rw [← linkKey]
      exact Table.get?_put_self store.links (Store.revokeLinkAt now link)
    · simp only [delivered, active, decide_false, Bool.or_false,
        Bool.false_eq_true, ↓reduceIte]
      exact ⟨link, found, delivered, active⟩
  rcases ServiceTx.execute_returns_of_wp reported with
    ⟨answer, later, executes, closed⟩
  rw [executes]
  exact closed

/-- A closed link stays closed, however often its delivery is reported. -/
theorem Closed.reportDeliveries
    (closed : Closed store linkId)
    (instants : List Instant) :
    Closed (reportDeliveries env linkId instants store) linkId := by
  induction instants generalizing store with
  | nil =>
      exact closed
  | cons now later inductionHypothesis =>
      rcases closed with ⟨link, found, notPending, _⟩
      exact inductionHypothesis (closed_of_report found notPending)

/-- A closed link is not usable. -/
theorem Closed.not_usable
    (closed : Closed store linkId) :
    ¬ Usable env store linkId now := by
  rintro ⟨link, user, found, _, allowed⟩
  rcases closed with ⟨other, foundToo, _, inactive⟩
  obtain rfl := Option.some.inj (found.symm.trans foundToo)
  exact inactive (matchesUser_ok_true allowed).1

/--
Reporting the delivery of a delivered link again is harmless exactly when it is
not done: the first further report revokes the link.
-/
theorem redelivery_unharmed_iff
    {history : List Executed}
    (_ : ServiceRun env {} history store)
    (delivered : Delivered env history store linkId now)
    (instants : List Instant) :
    Unharmed env store (reportDeliveries env linkId instants store) linkId
        now ↔
      instants = [] := by
  constructor
  · intro unharmed
    cases instants with
    | nil =>
        rfl
    | cons first later =>
        rcases delivered.usable with ⟨link, user, found, _, allowed⟩
        have active := (matchesUser_ok_true allowed).1
        have closed :
            Closed (reportDeliveries env linkId (first :: later) store)
              linkId :=
          (closed_of_report found (by simp [active])).reportDeliveries later
        exact absurd unharmed.usable closed.not_usable
  · rintro rfl
    exact ⟨delivered.usable, fun _ _ => rfl, rfl, rfl⟩

/-- An account is provisioned, and the delivery of its link is reported. -/
def reportedOnce : List ServiceTx :=
  [ .provision 1 "user@example.test" "User" "unusable" [] [] 0 {}
      { linkId := 2, token := "link" },
    .markDelivered 2 10 ]

/-- The store after that report. -/
def reportedStore : Store :=
  (executeAll referenceEnvironment reportedOnce {}).2

/-- The link of the script was delivered, and is still usable. -/
private theorem delivered_reportedOnce :
    Delivered referenceEnvironment
      (executeAll referenceEnvironment reportedOnce {}).1 reportedStore 2
      20 where
  reported := ⟨10, List.mem_cons_of_mem _ List.mem_cons_self⟩
  usable :=
    ⟨(reportedStore.links.get? 2).get (by decide),
      (reportedStore.users.get? 1).get (by decide), by simp, by decide,
      by decide⟩

/-- Without a further report the link of the script is unharmed. -/
theorem redelivery_unharmed_reportedOnce :
    Unharmed referenceEnvironment reportedStore
      (reportDeliveries referenceEnvironment 2 [] reportedStore) 2 20 :=
  (redelivery_unharmed_iff (run_executeAll (by decide))
    delivered_reportedOnce []).mpr rfl

/-- A second report of the delivery revokes the link that the first activated. -/
theorem redelivery_revokes :
    ServiceRun referenceEnvironment {}
        (executeAll referenceEnvironment reportedOnce {}).1 reportedStore ∧
      Delivered referenceEnvironment
        (executeAll referenceEnvironment reportedOnce {}).1 reportedStore 2
        20 ∧
      ((reportDeliveries referenceEnvironment 2 [15]
          reportedStore).links.get? 2).map EmailLink.state =
        some .revoked ∧
      ¬ Unharmed referenceEnvironment reportedStore
        (reportDeliveries referenceEnvironment 2 [15] reportedStore) 2 20 := by
  have revoked :
      ((reportDeliveries referenceEnvironment 2 [15]
          reportedStore).links.get? 2).map EmailLink.state =
        some .revoked := by
    decide
  refine ⟨run_executeAll (by decide), delivered_reportedOnce, revoked, ?_⟩
  intro unharmed
  rcases unharmed.usable with ⟨link, user, found, _, allowed⟩
  rw [found, Option.map_some, (matchesUser_ok_true allowed).1] at revoked
  cases revoked

end EpokAuth
