import EpokAuth.BegunChallenges
import EpokAuth.ServiceEffects
import EpokAuth.StoredDigests

namespace EpokAuth

open Transactional

/-!
# The origins that challenges keep

A challenge is stored by the transaction that begins its ceremony, with the
origin this transaction was given, and nothing changes it until it is deleted.
So in every run the origin of a stored challenge is the one that was given when
its ceremony began.
-/

/-- The challenge that a transaction stores, and the origin it was given. -/
def ServiceTx.ceremony : ServiceTx → Option (Uuid × String)
  | .beginRegistration _ expectedOrigin _ draws =>
      some (draws.challengeId, expectedOrigin)
  | .beginAuthentication expectedOrigin _ draws =>
      some (draws.challengeId, expectedOrigin)
  | .beginReauthentication _ expectedOrigin _ draws =>
      some (draws.challengeId, expectedOrigin)
  | .beginGoogleChallenge _ origin _ _ _ draws =>
      some (draws.challengeId, origin)
  | _ => none

/-- Every stored challenge was begun with the origin it keeps. -/
structure ChallengesBegun
    (begun : Uuid × String → Prop)
    (store : Store) :
    Prop where
  passkeys :
    ∀ id challenge,
      store.passkeyChallenges.get? id = some challenge →
      begun (challenge.id, challenge.origin)
  google :
    ∀ id challenge,
      store.googleChallenges.get? id = some challenge →
      begun (challenge.id, challenge.origin)

/-- A statement stores only challenges that were begun. -/
def Statement.StoresBegun (begun : Uuid × String → Prop) : Statement → Prop
  | .insertPasskeyChallenge challenge => begun (challenge.id, challenge.origin)
  | .insertGoogleChallenge challenge => begun (challenge.id, challenge.origin)
  | _ => True

/-- A row write stores only challenges that were begun. -/
def Write.StoresBegun (begun : Uuid × String → Prop) : Write → Prop
  | .putPasskeyChallenge challenge => begun (challenge.id, challenge.origin)
  | .putGoogleChallenge challenge => begun (challenge.id, challenge.origin)
  | _ => True

variable
  {env : Environment}
  {begun wider : Uuid × String → Prop}
  {store view : Store}
  {statement : Statement}
  {write : Write}
  {executed : List Executed}

theorem ChallengesBegun.mono
    (kept : ChallengesBegun begun store)
    (weakening : ∀ ceremony, begun ceremony → wider ceremony) :
    ChallengesBegun wider store where
  passkeys id challenge found := weakening _ (kept.passkeys id challenge found)
  google id challenge found := weakening _ (kept.google id challenge found)

/-- A row write of a challenge that was begun keeps the origins. -/
theorem ChallengesBegun.apply
    (kept : ChallengesBegun begun view)
    (stores : write.StoresBegun begun) :
    ChallengesBegun begun (Store.apply write view) := by
  cases write with
  | putPasskeyChallenge challenge =>
      refine ⟨?_, kept.google⟩
      intro id other found
      rw [Store.apply, Table.get?_put] at found
      split at found
      · obtain rfl := Option.some.inj found
        exact stores
      · exact kept.passkeys id other found
  | putGoogleChallenge challenge =>
      refine ⟨kept.passkeys, ?_⟩
      intro id other found
      rw [Store.apply, Table.get?_put] at found
      split at found
      · obtain rfl := Option.some.inj found
        exact stores
      · exact kept.google id other found
  | erasePasskeyChallenge challengeId =>
      refine ⟨?_, kept.google⟩
      intro id other found
      rw [Store.apply, Table.get?_erase] at found
      split at found
      · cases found
      · exact kept.passkeys id other found
  | eraseGoogleChallenge challengeId =>
      refine ⟨kept.passkeys, ?_⟩
      intro id other found
      rw [Store.apply, Table.get?_erase] at found
      split at found
      · cases found
      · exact kept.google id other found
  | _ => exact ⟨kept.passkeys, kept.google⟩

open StoreExecution in
/--
A challenge that is consumed keeps its origin; every other challenge that is
written is one that the statement inserts.
-/
theorem Store.execution_storesBegun
    (stores : statement.StoresBegun begun) :
    StoreExecution.Writes
      (fun view write => ChallengesBegun begun view → write.StoresBegun begun)
      (Store.execution statement) := by
  have elsewhere :
      ∀ (view : Store) (write : Write),
        write.table ∉ [TableName.passkeyChallenges, .googleChallenges] →
        ChallengesBegun begun view → write.StoresBegun begun := by
    intro view write other _
    cases write with
    | putPasskeyChallenge challenge =>
        exact absurd (by simp [Write.table]) other
    | putGoogleChallenge challenge =>
        exact absurd (by simp [Write.table]) other
    | _ => trivial
  cases statement with
  | insertPasskeyChallenge challenge =>
      exact inserting_writes fun _ _ _ => stores
  | insertGoogleChallenge challenge =>
      exact inserting_writes fun _ _ _ => stores
  | consumePasskeyChallenge challengeId purpose now userId familyId =>
      exact returning_writes fun _ challenge found _ kept =>
        kept.passkeys _ challenge found
  | consumeGoogleChallenge challengeId purpose now userId =>
      exact returning_writes fun _ challenge found _ kept =>
        kept.google _ challenge found
  | deleteExpiredPasskeyChallenges now =>
      intro target view
      refine (touchDelete_writes Store.passkeyChallengesField _ target
        view).mono ?_
      rintro write ⟨rfl, _⟩
      exact fun _ => trivial
  | deleteExpiredGoogleChallenges now =>
      intro target view
      refine (touchDelete_writes Store.googleChallengesField _ target
        view).mono ?_
      rintro write ⟨rfl, _⟩
      exact fun _ => trivial
  | _ =>
      exact Store.execution_writes_elsewhere elsewhere
        (by simp [Statement.table])

/-- A statement run alone keeps the origins of challenges. -/
theorem ChallengesBegun.evaluate
    (kept : ChallengesBegun begun store)
    (stores : statement.StoresBegun begun) :
    ChallengesBegun begun (Store.evaluate statement store).2 :=
  StoreExecution.perform_keeps (Store.execution_storesBegun stores)
    (fun _ _ keptView may => keptView.apply (may keptView)) kept

/-! ## What a transaction stores -/

/-- Whatever is answered, a transaction stores no challenge but its own. -/
theorem ServiceTx.body_storesBegun
    (tx : ServiceTx)
    (begins : ∀ ceremony, tx.ceremony = some ceremony → begun ceremony) :
    Prog.Issues (Statement.StoresBegun begun) (tx.body env) := by
  refine tx.body_storesOwn.mono fun statement own => ?_
  cases statement with
  | insertPasskeyChallenge challenge =>
      refine begins _ ?_
      cases tx with
      | beginRegistration => cases own; rfl
      | beginAuthentication => cases own; rfl
      | beginReauthentication => cases own; rfl
      | _ => cases own
  | insertGoogleChallenge challenge =>
      refine begins _ ?_
      cases tx with
      | beginGoogleChallenge => cases own; rfl
      | _ => cases own
  | _ => trivial

/-! ## What a run keeps -/

/-- The ceremonies that committed transactions of a run began. -/
def Begun (executed : List Executed) (ceremony : Uuid × String) : Prop :=
  ∃ entry ∈ executed,
    (∃ answer, entry.answer = .ok answer) ∧
      entry.tx.ceremony = some ceremony

/-- After every run, the challenges have the origins they were begun with. -/
theorem ServiceRun.challengesBegun
    (run : ServiceRun env {} executed store) :
    ChallengesBegun (Begun executed) store := by
  refine run.accumulates
    (fun earlier state => ChallengesBegun (Begun earlier) state) ?_ ?_
  · intro earlier before entry after _ kept step
    have longer :
        ∀ entry ceremony, Begun earlier ceremony →
          Begun (earlier ++ [entry]) ceremony := by
      rintro entry ceremony ⟨other, member, committed⟩
      exact ⟨other, List.mem_append_left _ member, committed⟩
    cases step with
    | completed tx fresh =>
        let stored : Uuid × String → Prop := fun ceremony =>
          Begun earlier ceremony ∨ tx.ceremony = some ceremony
        have keeps :
            Tx.wp (tx.body env) (fun _ later => ChallengesBegun stored later)
              (fun _ _ => True) before :=
          Prog.wp_of_issues_keeping
            (tx.body_storesBegun fun ceremony begins => .inr begins)
            (fun _ stores _ _ keptView continues =>
              continues _ _ (ChallengesBegun.evaluate keptView stores))
            (fun _ _ keptView => keptView) (fun _ _ _ => trivial)
            (kept.mono fun ceremony begun => .inl begun)
        rcases tx.execute_of_wp keeps with
          ⟨answer, later, executes, keptLater⟩ | ⟨failure, executes⟩
        · rw [executes]
          refine keptLater.mono ?_
          rintro ceremony (begun | begins)
          · exact longer _ ceremony begun
          · exact
              ⟨_, List.mem_append_right _ (List.mem_singleton_self _),
                ⟨answer, rfl⟩, begins⟩
        · rw [executes]
          exact kept.mono (longer _)
    | aborted tx failure => exact kept.mono (longer _)
  · exact
      { passkeys := fun _ _ found => by cases found
        google := fun _ _ found => by cases found }

end EpokAuth
