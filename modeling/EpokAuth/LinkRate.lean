import EpokAuth.LinkRequest
import EpokAuth.LinkTrace
import EpokAuth.ScriptedRun

namespace EpokAuth

open Transactional

/-!
# The rate of issued links

A run is read together with the creation times of the links it issues to an
account for a purpose.  The stored links of that account simulate the log of a
rate limit, so no window contains more than the maximum of all links that were
ever issued; and a request that the limit refuses only removes old links.
-/

/-- The link that an executed transaction issued. -/
def Executed.issuedLink? (executed : Executed) (after : Store) :
    Option EmailLink :=
  executed.handsOut.bind fun pending => after.links.get? pending.linkId

/--
What a step adds to the readings of an account and purpose: the creation time
of a link it issues to them.  Requests for others remove old links of this
account too, so their clock readings are kept apart.
-/
def Executed.readings
    (executed : Executed)
    (userId : Uuid)
    (purpose : EmailLinkPurpose)
    (before after : Store) :
    List (Reading Instant) :=
  match executed.issuedLink? after with
  | some link =>
      if Store.requestedFor userId purpose link then
        [.admitted link.createdAt]
      else
        [.foreign link.createdAt]
  | none =>
      if executed.tx.issuing = none ∨
          executed.tx.requestsFor before = some (userId, purpose) then
        []
      else
        executed.tx.clock.toList.map .foreign

/-- A run with its readings of an account and purpose. -/
inductive Issuing
    (env : Environment)
    (userId : Uuid)
    (purpose : EmailLinkPurpose) :
    Store → List Executed → List (Reading Instant) → Store → Prop where
  | nil (store : Store) : Issuing env userId purpose store [] [] store
  | cons
      {before after finish : Store}
      {executed : Executed}
      {labels : List Executed}
      {readings : List (Reading Instant)}
      (step : ServiceStep env before executed after)
      (rest : Issuing env userId purpose after labels readings finish) :
      Issuing env userId purpose before (executed :: labels)
        (executed.readings userId purpose before after ++ readings) finish

/-- A transaction gets as far as the limit of an account and purpose. -/
inductive ServiceTx.ReachesLimit
    (settings : AuthSettings)
    (store : Store) :
    ServiceTx → Uuid → EmailLinkPurpose → Instant → Prop where
  | requestLogin
      {normalizedEmail browserNonce : String}
      {now : Instant}
      {context : RequestContext}
      {draws : LinkDraws}
      {user : UserAccount}
      (found :
        store.users.find? (fun user => user.email = normalizedEmail) =
          some user)
      (eligible : canRequest settings user .login now = true) :
      ReachesLimit settings store
        (.requestLogin normalizedEmail browserNonce now context draws) user.id
        .login now
  | requestPasswordReset
      {normalizedEmail : String}
      {now : Instant}
      {context : RequestContext}
      {draws : LinkDraws}
      {user : UserAccount}
      (found :
        store.users.find? (fun user => user.email = normalizedEmail) =
          some user)
      (eligible : canRequest settings user .passwordReset now = true) :
      ReachesLimit settings store
        (.requestPasswordReset normalizedEmail now context draws) user.id
        .passwordReset now
  | invite
      {userId : Uuid}
      {now : Instant}
      {context : RequestContext}
      {draws : LinkDraws}
      {user : UserAccount}
      (account : store.users.get? userId = some user)
      (eligible : canRequest settings user .invitation now = true) :
      ReachesLimit settings store (.invite userId now context draws) userId
        .invitation now
  | replaceActivation
      {userId : Uuid}
      {now : Instant}
      {context : RequestContext}
      {draws : LinkDraws}
      {user : UserAccount}
      (account : store.users.get? userId = some user)
      (eligible : canRequest settings user .activation now = true) :
      ReachesLimit settings store (.replaceActivation userId now context draws)
        userId .activation now
  | provision
      {id : Uuid}
      {email displayName passwordHash : String}
      {roles scopes : List String}
      {now : Instant}
      {context : RequestContext}
      {draws : LinkDraws}
      (new : store.users.get? id = none) :
      ReachesLimit settings store
        (.provision id email displayName passwordHash roles scopes now context
          draws)
        id .activation now
  | ensureInitialAdmin
      {normalizedEmail : String}
      {id : Uuid}
      {email displayName passwordHash : String}
      {scopes : List String}
      {now : Instant}
      {context : RequestContext}
      {draws : LinkDraws}
      (new : store.users.get? id = none) :
      ReachesLimit settings store
        (.ensureInitialAdmin normalizedEmail id email displayName passwordHash
          scopes now context draws)
        id .activation now

/-- The answers that hand out no link. -/
inductive Executed.HandsOutNothing : Executed → Prop where
  | requestLogin
      {normalizedEmail browserNonce : String}
      {now : Instant}
      {context : RequestContext}
      {draws : LinkDraws} :
      HandsOutNothing
        { tx := .requestLogin normalizedEmail browserNonce now context draws
          answer := .ok { pending := none } }
  | requestPasswordReset
      {normalizedEmail : String}
      {now : Instant}
      {context : RequestContext}
      {draws : LinkDraws} :
      HandsOutNothing
        { tx := .requestPasswordReset normalizedEmail now context draws
          answer := .ok { pending := none } }
  | invite
      {userId : Uuid}
      {now : Instant}
      {context : RequestContext}
      {draws : LinkDraws} :
      HandsOutNothing
        { tx := .invite userId now context draws
          answer := .ok { pending := none } }
  | replaceActivation
      {userId : Uuid}
      {now : Instant}
      {context : RequestContext}
      {draws : LinkDraws} :
      HandsOutNothing
        { tx := .replaceActivation userId now context draws
          answer := .ok { pending := none } }

/--
The links of an account and purpose are limited: no window contains more than
the maximum of all links ever issued, and a request that finds the maximum in
its window hands out nothing and only removes old links.
-/
structure LinksLimited
    (env : Environment)
    (userId : Uuid)
    (purpose : EmailLinkPurpose)
    (readings : List (Reading Instant))
    (store : Store) :
    Prop where
  bounded :
    ∀ start,
      (admittedTimes readings).countP (env.settings.linkLimit.isWithin start) ≤
        env.settings.emailLinkMaxRequestsPerWindow
  refuses :
    ∀ tx now,
      tx.ReachesLimit env.settings store userId purpose now →
      env.settings.emailLinkMaxRequestsPerWindow ≤
        (store.creations userId purpose).countP
          (env.settings.linkLimit.isRecent now) →
      Executed.HandsOutNothing
          { tx := tx, answer := (tx.execute env store).1 } ∧
        (tx.execute env store).2 = store.purged env.settings now

section Simulation

variable
  {env : Environment}
  {userId : Uuid}
  {purpose : EmailLinkPurpose}
  {store start finish before after : Store}
  {executed : Executed}
  {labels : List Executed}
  {readings : List (Reading Instant)}
  {now : Instant}

/-! ## The log of the limit -/

/-- Every step extends the log of the limit by its readings. -/
theorem ServiceStep.log
    (step : ServiceStep env before executed after)
    (log :
      env.settings.linkLimit.Log readings
        (before.creations userId purpose)) :
    env.settings.linkLimit.Log
      (readings ++ executed.readings userId purpose before after)
      (after.creations userId purpose) := by
  by_cases issues : executed.tx.issuing = none
  · have nothing : executed.issuedLink? after = none := by
      rw [Executed.issuedLink?, Executed.handsOut_of_no_issue issues]
      rfl
    rw [step.creations_kept issues, Executed.readings, nothing]
    simpa [issues] using log
  cases step.requestOutcome issues with
  | idle links nothing =>
      have same :
          after.creations userId purpose = before.creations userId purpose := by
        rw [Store.creations, links, Store.creations]
      rw [same, Executed.readings, Executed.issuedLink?, nothing]
      simp only [Option.bind_none, issues, false_or]
      split
      · simpa using log
      · cases executed.tx.clock with
        | none => simpa using log
        | some reading => exact log.foreign .none
  | @requested owner aim now requests reads outcome =>
      generalize hands : executed.handsOut = pending at outcome
      cases outcome with
      | refused full links =>
          have same :
              after.creations userId purpose =
                (before.purged env.settings now).creations userId purpose := by
            rw [Store.creations, links, Store.creations]
          rw [same, Executed.readings, Executed.issuedLink?, hands, requests,
            reads]
          simp only [Option.bind_none, issues, false_or]
          split
          · rename_i isThis
            obtain ⟨rfl, rfl⟩ := Prod.mk.inj (Option.some.inj isThis)
            rw [List.append_nil]
            exact log.refused (removes_purged _) full
          · exact log.foreign (removes_purged _)
      | @issued link pending _ room owned purposed created named absent
          links =>
          have stored : after.links.get? pending.linkId = some link := by
            rw [links, named]
            exact Table.get?_put_self _ link
          have grown :
              after.creations userId purpose =
                (before.purged env.settings now).creations userId purpose ++
                  if Store.requestedFor userId purpose link then
                    [link.createdAt]
                  else [] := by
            rw [Store.creations, links]
            exact creations_insert absent
          rw [grown, Executed.readings, Executed.issuedLink?, hands,
            Option.bind_some, stored]
          by_cases isThis : Store.requestedFor userId purpose link = true
          · have theirs := isThis
            rw [Store.requestedFor, Bool.and_eq_true, decide_eq_true_eq,
              decide_eq_true_eq, owned, purposed] at theirs
            obtain ⟨rfl, rfl⟩ := theirs
            simp only [isThis, ↓reduceIte]
            rw [created]
            exact log.admitted (removes_purged _) room
          · simp only [isThis, Bool.false_eq_true, ↓reduceIte,
              List.append_nil]
            rw [created]
            exact log.foreign (removes_purged _)

/-- The stored links of a run from nowhere are the log of the limit. -/
theorem Issuing.log_from
    (issuing : Issuing env userId purpose start labels readings finish)
    {earlier : List (Reading Instant)}
    (log :
      env.settings.linkLimit.Log earlier (start.creations userId purpose)) :
    env.settings.linkLimit.Log (earlier ++ readings)
      (finish.creations userId purpose) := by
  induction issuing generalizing earlier with
  | nil store =>
      rw [List.append_nil]
      exact log
  | cons step rest inductionHypothesis =>
      rw [← List.append_assoc]
      exact inductionHypothesis (step.log log)

theorem Issuing.log
    (issuing : Issuing env userId purpose {} labels readings finish) :
    env.settings.linkLimit.Log readings (finish.creations userId purpose) :=
  issuing.log_from .start

/-- Leaving the readings out leaves the run. -/
theorem Issuing.run
    (issuing : Issuing env userId purpose start labels readings finish) :
    ServiceRun env start labels finish := by
  induction issuing with
  | nil store => exact .nil store
  | cons step _ inductionHypothesis => exact .cons step inductionHypothesis

/-- Every run has its readings. -/
theorem ServiceRun.issuing
    (run : ServiceRun env start labels finish)
    (userId : Uuid)
    (purpose : EmailLinkPurpose) :
    ∃ readings, Issuing env userId purpose start labels readings finish := by
  induction run with
  | nil store => exact ⟨[], .nil store⟩
  | cons step _ inductionHypothesis =>
      rcases inductionHypothesis with ⟨readings, rest⟩
      exact ⟨_, .cons step rest⟩

/-! ## Refused requests -/

/-- Removing old links leaves the recent ones. -/
theorem countP_purged
    (settings : AuthSettings) :
    ((store.purged settings now).creations userId purpose).countP
        (settings.linkLimit.isRecent now) =
      (store.creations userId purpose).countP
        (settings.linkLimit.isRecent now) := by
  have behind :
      now - now ≤ settings.linkLimit.retention - settings.linkLimit.window := by
    have covers := settings.linkLimit.covers
    rw [sub_self]
    exact sub_nonneg.mpr covers
  rw [List.countP_eq_length_filter, List.countP_eq_length_filter,
    (removes_purged settings).filter_isRecent behind]

/-- An account that is not there has no links. -/
theorem ServiceReachable.creations_of_absent
    (reachable : ServiceReachable env store)
    (absent : store.users.get? userId = none) :
    store.creations userId purpose = [] := by
  rw [Store.creations, List.map_eq_nil_iff, Table.select,
    List.filter_eq_nil_iff]
  intro link member requested
  rcases reachable.linkVersions _ link (Table.mem_rows_iff.mp member) with
    ⟨user, account, _⟩
  rw [Store.requestedFor, Bool.and_eq_true, decide_eq_true_eq] at requested
  have found : store.users.get? link.userId = some user := account
  rw [requested.1, absent] at found
  cases found

/-- A transaction that only removes old links and answers with no link. -/
def ServiceTx.IsRefused
    (tx : ServiceTx)
    (settings : AuthSettings)
    (store : Store)
    (now : Instant)
    (answer : tx.Answer)
    (later : Store) :
    Prop :=
  Executed.HandsOutNothing { tx := tx, answer := .ok answer } ∧
    later = store.purged settings now

/-- A request that finds the maximum in its window is refused. -/
theorem ServiceReachable.refuses
    {tx : ServiceTx}
    (reachable : ServiceReachable env store)
    (reaches : tx.ReachesLimit env.settings store userId purpose now)
    (full :
      env.settings.emailLinkMaxRequestsPerWindow ≤
        (store.creations userId purpose).countP
          (env.settings.linkLimit.isRecent now)) :
    Executed.HandsOutNothing
        { tx := tx, answer := (tx.execute env store).1 } ∧
      (tx.execute env store).2 = store.purged env.settings now := by
  have absent :
      store.users.get? userId = none → False := by
    intro absent
    rw [reachable.creations_of_absent absent] at full
    exact absurd full
      (Nat.not_le.mpr env.settings.emailLinkMaxRequestsRange.1)
  rw [← countP_purged] at full
  have refused :
      Tx.wp (tx.body env) (tx.IsRefused env.settings store now)
        (fun _ _ => False) store := by
    cases reaches with
    | requestLogin found eligible =>
        simp only [ServiceTx.body, requestForEmail, Tx.wp_bind,
          Tx.wp_getUserByEmail, found, eligible, ↓reduceIte]
        exact wp_issueLink_refused full ⟨.requestLogin, rfl⟩
    | requestPasswordReset found eligible =>
        simp only [ServiceTx.body, requestForEmail, Tx.wp_bind,
          Tx.wp_getUserByEmail, found, eligible, ↓reduceIte]
        exact wp_issueLink_refused full ⟨.requestPasswordReset, rfl⟩
    | invite account eligible =>
        obtain rfl := Table.key_of_get? account
        simp only [ServiceTx.body, invite, Tx.wp_bind, Tx.wp_getUserById,
          account, eligible, ↓reduceIte]
        exact wp_issueLink_refused full ⟨.invite, rfl⟩
    | replaceActivation account eligible =>
        obtain rfl := Table.key_of_get? account
        simp only [ServiceTx.body, replaceActivation, Tx.wp_bind,
          Tx.wp_getUserById, account, eligible, ↓reduceIte]
        exact wp_issueLink_refused full ⟨.replaceActivation, rfl⟩
    | provision new => exact (absent new).elim
    | ensureInitialAdmin new => exact (absent new).elim
  rcases ServiceTx.execute_returns_of_wp refused with
    ⟨answer, later, executes, nothing, same⟩
  rw [executes]
  exact ⟨nothing, same⟩

end Simulation

/-! ## The limit -/

/--
In every run, whatever else happens in it, the links of an account for a purpose
are limited, as long as no clock reading is ahead of a later creation time by
more than the time that links are retained beyond the window.
-/
theorem links_limited
    {env : Environment}
    {userId : Uuid}
    {purpose : EmailLinkPurpose}
    {store : Store}
    {labels : List Executed}
    {readings : List (Reading Instant)}
    (issuing : Issuing env userId purpose {} labels readings store)
    (ordered : env.settings.linkLimit.NearlyOrdered readings) :
    LinksLimited env userId purpose readings store where
  bounded := issuing.log.within_le ordered
  refuses := fun _ _ reaches full =>
    ServiceReachable.refuses ⟨labels, issuing.run⟩ reaches full

/-! ## A scripted run -/

/-- The readings of a script that is executed. -/
def readingsAlong
    (env : Environment)
    (userId : Uuid)
    (purpose : EmailLinkPurpose) :
    List ServiceTx → Store → List (Reading Instant)
  | [], _ => []
  | tx :: rest, store =>
      let outcome := tx.execute env store
      Executed.readings { tx := tx, answer := outcome.1 } userId purpose store
          outcome.2 ++
        readingsAlong env userId purpose rest outcome.2

/-- Executing an admissible script is a run with its readings. -/
theorem issuing_executeAll
    {env : Environment}
    {userId : Uuid}
    {purpose : EmailLinkPurpose}
    {script : List ServiceTx}
    {store : Store}
    (admissible : isAdmissible env script store = true) :
    Issuing env userId purpose store (executeAll env script store).1
      (readingsAlong env userId purpose script store)
      (executeAll env script store).2 := by
  induction script generalizing store with
  | nil => exact .nil store
  | cons tx rest inductionHypothesis =>
      rw [isAdmissible, Bool.and_eq_true] at admissible
      exact .cons (.completed tx (ServiceTx.fresh_of_isFresh admissible.1))
        (inductionHypothesis admissible.2)

/-- A link is requested out of order, and a fourth one too soon. -/
def activationsReplaced : List ServiceTx :=
  [ .provision 1 "user@example.test" "User" "unusable" [] [] (seconds 100) {}
      { linkId := 2, token := "first" },
    .replaceActivation 1 (seconds 40) {} { linkId := 3, token := "second" },
    .provision 4 "other@example.test" "Other" "unusable" [] [] (seconds 90) {}
      { linkId := 5, token := "other" },
    .replaceActivation 1 (seconds 900) {} { linkId := 6, token := "third" },
    .replaceActivation 1 (seconds 60) {} { linkId := 7, token := "fourth" } ]

/-- Three of the four links are issued, and they are limited. -/
theorem links_limited_activationsReplaced :
    readingsAlong referenceEnvironment 1 .activation activationsReplaced {} =
        [ .admitted (seconds 100), .admitted (seconds 40),
          .foreign (seconds 90), .admitted (seconds 900) ] ∧
      LinksLimited referenceEnvironment 1 .activation
        (readingsAlong referenceEnvironment 1 .activation activationsReplaced
          {})
        (executeAll referenceEnvironment activationsReplaced {}).2 :=
  ⟨by decide +kernel,
    links_limited (issuing_executeAll (by decide +kernel))
      (by decide +kernel)⟩

end EpokAuth
