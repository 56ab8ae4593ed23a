import EpokAuth.PrincipalCheck
import EpokAuth.ScriptedRun
import EpokAuth.SessionStep

namespace EpokAuth

open Transactional

/-!
# Principals and the revocations of a run

A session is valid for a principal exactly when a transaction of the run issued
it for that principal, none has revoked it since, and its deadlines have not
passed.  So a run in which passkeys are changed acts for principals in force
only, unless it revokes the session of a principal, or lets it expire, before
a passkey is registered or revoked in its name.
-/

/-! ## Steps that revoke a session -/

/-- A session is revoked between two stores. -/
def Revokes (before after : Store) (sessionId : Uuid) : Prop :=
  ∃ session revoked,
    before.sessions.get? sessionId = some session ∧
      session.revokedAt = none ∧
      after.sessions.get? sessionId = some revoked ∧
      revoked.revokedAt ≠ none

/-- The account changes that may revoke the sessions of the account. -/
def AccountChange.MayRevoke : AccountChange → Prop
  | .fail => True
  | .replace _ _ => True
  | .administer resolved => resolved.status = .disabled
  | _ => False

/-- The moves that may revoke a session of the account. -/
def Move.MayRevoke (userId : Uuid) : Move → Prop
  | .account changed change _ _ => changed = userId ∧ change.MayRevoke
  | .revokeFamily _ _ => True
  | .revokeUser revoked _ => revoked = userId
  | _ => False

section Steps

variable
  {settings : AuthSettings}
  {core later : Core}
  {session : RefreshSession}
  {sessionId : Uuid}

theorem AccountChange.mayRevoke_of_revokes
    {change : AccountChange}
    {now : Instant}
    {user : UserAccount}
    (revokes : change.revokes settings now user = true) :
    change.MayRevoke := by
  cases change with
  | fail => trivial
  | replace => trivial
  | administer resolved =>
      change resolved.status = .disabled
      simpa [AccountChange.revokes] using revokes
  | _ => cases revokes

/-- Revoking the sessions of another user leaves a session as it is. -/
theorem get?_revise_ofUser
    {userId : Uuid}
    {now : Instant}
    (stored : core.sessions.get? sessionId = some session)
    (other : userId ≠ session.userId) :
    (core.sessions.revise (Store.ofUser userId) (Store.revokeAt now)
        fun _ => rfl).get? sessionId =
      some session := by
  have spared : Store.ofUser userId session = false := by
    simp only [Store.ofUser, Bool.and_eq_false_iff, decide_eq_false_iff_not]
    exact .inl fun own => other own.symm
  have revised :=
    Table.get?_revise core.sessions (Store.ofUser userId) (Store.revokeAt now)
      (fun _ => rfl) sessionId
  rw [stored, Option.map_some, spared] at revised
  exact revised

theorem sessions_reviseLink
    (linkId : Uuid)
    (change : EmailLink → EmailLink) :
    (core.reviseLink linkId change).sessions = core.sessions := by
  unfold Core.reviseLink
  split
  · rfl
  · rfl

/-- A move that may not revoke a session leaves it unrevoked. -/
theorem Move.unrevoked
    {move : Move}
    (enabled : move.Enabled settings core)
    (stored : core.sessions.get? sessionId = some session)
    (unrevoked : session.revokedAt = none)
    (spares : ¬ move.MayRevoke session.userId) :
    ∃ after,
      (move.perform settings core).sessions.get? sessionId = some after ∧
        session.Continues after ∧ after.revokedAt = none := by
  obtain ⟨after, found, continues⟩ :=
    (Move.sessionStep enabled).continues stored
  refine ⟨after, found, continues, ?_⟩
  have kept :
      (move.perform settings core).sessions.get? sessionId = some session →
        after.revokedAt = none := by
    intro same
    obtain rfl := Option.some.inj (found.symm.trans same)
    exact unrevoked
  cases move with
  | account userId change attachment now =>
      obtain ⟨user, account, _⟩ := enabled
      refine kept ?_
      rw [Move.perform_account account]
      by_cases revokes : change.revokes settings now user = true
      · simp only [revokes, ↓reduceIte]
        exact get?_revise_ofUser stored fun own =>
          spares ⟨own, AccountChange.mayRevoke_of_revokes revokes⟩
      · simp only [revokes]
        exact stored
  | openSession opened =>
      obtain ⟨_, ⟨absent, _⟩, _⟩ := enabled
      refine kept ?_
      rw [Move.perform, Table.get?_put_of_ne]
      · exact stored
      · exact Table.ne_of_get? stored absent
  | rotate parentId successor now =>
      obtain ⟨parent, _, foundParent, _, _, _, _, _, _, _, ⟨absent, _⟩, _⟩ :=
        enabled
      rw [Move.perform_rotate foundParent] at found
      by_cases isParent : sessionId = parentId
      · subst isParent
        obtain rfl := Option.some.inj (stored.symm.trans foundParent)
        have sameKey : session.id = sessionId := Table.key_of_get? stored
        rw [← sameKey] at found
        obtain rfl :=
          Option.some.inj (found.symm.trans (Table.get?_put_self _ _))
        exact unrevoked
      · refine kept ?_
        have parentKey : parent.id = parentId := Table.key_of_get? foundParent
        rw [Move.perform_rotate foundParent, Table.get?_put_of_ne,
          Table.get?_put_of_ne]
        · exact stored
        · exact Table.ne_of_get? stored absent
        · exact fun same => isParent (same.trans parentKey)
  | revokeFamily familyId now => exact absurd trivial spares
  | revokeUser userId now =>
      exact kept (get?_revise_ofUser stored spares)
  | activateLink linkId now =>
      exact kept ((sessions_reviseLink linkId _).symm ▸ stored)
  | failLink linkId now =>
      exact kept ((sessions_reviseLink linkId _).symm ▸ stored)
  | revokeLink linkId now =>
      exact kept ((sessions_reviseLink linkId _).symm ▸ stored)
  | consumeLink linkId now =>
      exact kept ((sessions_reviseLink linkId _).symm ▸ stored)
  | _ => exact kept stored

/-- Moves that may not revoke a session leave it unrevoked. -/
theorem Performs.unrevoked
    {moves : List Move}
    (performs : Performs settings core moves later)
    (stored : core.sessions.get? sessionId = some session)
    (unrevoked : session.revokedAt = none)
    (spares : ∀ move ∈ moves, ¬ move.MayRevoke session.userId) :
    ∃ after,
      later.sessions.get? sessionId = some after ∧
        after.revokedAt = none := by
  induction moves generalizing core session with
  | nil =>
      obtain rfl : later = core := performs
      exact ⟨session, stored, unrevoked⟩
  | cons move rest inductionHypothesis =>
      obtain ⟨enabled, others⟩ := performs
      obtain ⟨after, found, continues, kept⟩ :=
        move.unrevoked enabled stored unrevoked (spares move List.mem_cons_self)
      refine inductionHypothesis others found kept ?_
      intro other member
      rw [continues.origin]
      exact spares other (List.mem_cons_of_mem move member)

end Steps

/--
A session is revoked by a refresh, a logout or an administrative revocation, or
by a change of its account: a failed verification, a new password, or an update
that disables it.
-/
theorem ServiceStep.revoking
    {env : Environment}
    {before after : Store}
    {executed : Executed}
    {session : RefreshSession}
    (step : ServiceStep env before executed after)
    (stored : before.sessions.get? session.id = some session)
    (revokes : Revokes before after session.id) :
    executed.tx.endsSessions = true ∨
      ∃ change,
        Causes env.toDependencies before executed session.userId change ∧
          change.MayRevoke := by
  obtain ⟨_, revoked, found, unrevoked, foundRevoked, isRevoked⟩ := revokes
  obtain rfl := Option.some.inj (stored.symm.trans found)
  obtain ⟨moves, effect⟩ := step.effect
  by_contra other
  obtain ⟨endsNone, causesNone⟩ := not_or.mp other
  have spares : ∀ move ∈ moves, ¬ move.MayRevoke session.userId := by
    intro move member may
    have made := effect.made move member
    cases move with
    | account userId change attachment now =>
        obtain ⟨rfl, mayRevoke⟩ := may
        exact causesNone
          ⟨change, effect.attributed _ change attachment now member, mayRevoke⟩
    | revokeFamily => exact endsNone made
    | revokeUser => exact endsNone made
    | _ => exact may
  obtain ⟨later, foundLater, kept⟩ :=
    effect.performs.unrevoked stored unrevoked spares
  obtain rfl := Option.some.inj (foundRevoked.symm.trans foundLater)
  exact isRevoked kept

/-! ## Sessions that are kept -/

/-- No step of the rest of a run revokes the session. -/
def NeverRevoked
    (env : Environment)
    (sessionId : Uuid)
    (start : Store) :
    List Executed → Prop :=
  Always (ServiceStep env) start
    fun _ before _ after => ¬ Revokes before after sessionId

/--
A transaction of the run issued the principal's session, with deadlines that
are still to come, and none has revoked it since.
-/
def SessionUpheld
    (env : Environment)
    (principal : Principal)
    (now : Instant)
    (labels : List Executed) :
    Prop :=
  ∃ earlier issuing later before issued session,
    labels = earlier ++ issuing :: later ∧
      ServiceRun env {} earlier before ∧
      ServiceStep env before issuing issued ∧
      before.sessions.get? principal.sessionId = none ∧
      issued.sessions.get? principal.sessionId = some session ∧
      session.isValidFor principal.subject now = true ∧
      NeverRevoked env principal.sessionId issued later

section Kept

variable
  {env : Environment}
  {start store next : Store}
  {labels : List Executed}
  {executed : Executed}
  {sessionId : Uuid}
  {session : RefreshSession}

theorem NeverRevoked.of_append
    (never : NeverRevoked env sessionId start (labels ++ [executed])) :
    NeverRevoked env sessionId start labels := by
  intro earlier label later before after split run step
  refine never earlier label (later ++ [executed]) before after ?_ run step
  rw [split, List.append_assoc]
  rfl

theorem NeverRevoked.append
    (never : NeverRevoked env sessionId start labels)
    (run : ServiceRun env start labels store)
    (step : ServiceStep env store executed next)
    (spares : ¬ Revokes store next sessionId) :
    NeverRevoked env sessionId start (labels ++ [executed]) := by
  intro earlier label later before after split earlierRun taken
  rcases split_cases (split : labels ++ executed :: [] = _) with
    ⟨rfl, rfl, _⟩ | ⟨between, _, impossible⟩ | ⟨between, rfl, _⟩
  · obtain rfl := ServiceRun.functional run earlierRun
    obtain rfl := step.functional taken
    exact spares
  · simp at impossible
  · exact never earlier label between before after rfl earlierRun taken

/-- A session that no step revokes stays unrevoked. -/
theorem unrevoked_of_neverRevoked
    (run : ServiceRun env start labels store)
    (stored : start.sessions.get? sessionId = some session)
    (unrevoked : session.revokedAt = none)
    (never : NeverRevoked env sessionId start labels) :
    ∃ later,
      store.sessions.get? sessionId = some later ∧
        session.Continues later ∧ later.revokedAt = none := by
  refine run.accumulates
    (fun labels store =>
      NeverRevoked env sessionId start labels →
        ∃ later,
          store.sessions.get? sessionId = some later ∧
            session.Continues later ∧ later.revokedAt = none)
    ?_ (fun _ => ⟨session, stored, .refl session, unrevoked⟩) never
  intro earlier state label next earlierRun holds step neverSince
  obtain ⟨middle, found, continues, kept⟩ := holds neverSince.of_append
  obtain ⟨after, foundAfter, continuesToo⟩ :=
    ServiceRun.sessionsContinue (.single step) sessionId middle found
  refine ⟨after, foundAfter, continues.trans continuesToo, ?_⟩
  by_contra revoked
  exact neverSince earlier label [] state next rfl earlierRun step
    ⟨middle, after, found, kept, foundAfter, revoked⟩

/-- A stored session was issued, and never revoked if it is not revoked. -/
theorem issued_of_run
    (run : ServiceRun env {} labels store)
    (stored : store.sessions.get? sessionId = some session)
    (unrevoked : session.revokedAt = none) :
    ∃ earlier issuing later before issued first,
      labels = earlier ++ issuing :: later ∧
        ServiceRun env {} earlier before ∧
        ServiceStep env before issuing issued ∧
        before.sessions.get? sessionId = none ∧
        issued.sessions.get? sessionId = some first ∧
        first.Continues session ∧
        first.revokedAt = none ∧
        ServiceRun env issued later store ∧
        NeverRevoked env sessionId issued later := by
  refine run.accumulates
    (fun labels store =>
      ∀ session, store.sessions.get? sessionId = some session →
        session.revokedAt = none →
        ∃ earlier issuing later before issued first,
          labels = earlier ++ issuing :: later ∧
            ServiceRun env {} earlier before ∧
            ServiceStep env before issuing issued ∧
            before.sessions.get? sessionId = none ∧
            issued.sessions.get? sessionId = some first ∧
            first.Continues session ∧
            first.revokedAt = none ∧
            ServiceRun env issued later store ∧
            NeverRevoked env sessionId issued later)
    ?_ (fun _ found => by cases found) session stored unrevoked
  intro labels state label next stateRun holds step session found kept
  cases known : state.sessions.get? sessionId with
  | none =>
      refine ⟨labels, label, [], state, next, session, rfl, stateRun, step,
        known, found, .refl session, kept, .nil next, ?_⟩
      intro earlier label later before after split
      cases earlier <;> cases split
  | some middle =>
      obtain ⟨after, foundAfter, continues⟩ :=
        ServiceRun.sessionsContinue (.single step) sessionId middle known
      obtain rfl := Option.some.inj (found.symm.trans foundAfter)
      have keptBefore : middle.revokedAt = none := by
        by_contra revoked
        rw [continues.revoked revoked] at kept
        exact revoked kept
      obtain ⟨earlier, issuing, later, before, issued, first, rfl, earlierRun,
        issues, absent, isFirst, continuesFirst, firstKept, laterRun, never⟩ :=
        holds middle known keptBefore
      refine ⟨earlier, issuing, later ++ [label], before, issued, first, ?_,
        earlierRun, issues, absent, isFirst, continuesFirst.trans continues,
        firstKept, laterRun.append (.single step), ?_⟩
      · rw [List.append_assoc]
        rfl
      · refine never.append laterRun step ?_
        rintro ⟨_, revoked, _, _, foundRevoked, isRevoked⟩
        obtain rfl := Option.some.inj (found.symm.trans foundRevoked)
        exact isRevoked kept

/-- A version of a session is as valid as another that is revoked alike. -/
theorem RefreshSession.Continues.isValidFor_eq
    {first second : RefreshSession}
    (continues : first.Continues second)
    (alike : first.revokedAt = second.revokedAt)
    (subject : Subject)
    (now : Instant) :
    second.isValidFor subject now = first.isValidFor subject now := by
  rw [continues.origin]
  simp only [RefreshSession.isValidFor, RefreshSession.isActive, alike]

theorem unrevoked_of_isValidFor
    {subject : Subject}
    {now : Instant}
    (valid : session.isValidFor subject now = true) :
    session.revokedAt = none := by
  simp only [RefreshSession.isValidFor, RefreshSession.isActive,
    Bool.and_eq_true, decide_eq_true_eq] at valid
  exact valid.1.1.1.1.1.1

/-- A session is valid in a run exactly when it was issued and kept in it. -/
theorem sessionValid_iff_upheld
    {principal : Principal}
    {now : Instant}
    (run : ServiceRun env {} labels store) :
    SessionValid store principal now ↔ SessionUpheld env principal now labels := by
  constructor
  · rintro ⟨session, stored, valid⟩
    have unrevoked := unrevoked_of_isValidFor valid
    obtain ⟨earlier, issuing, later, before, issued, first, split, earlierRun,
      issues, absent, isFirst, continues, firstKept, _, never⟩ :=
      issued_of_run run stored unrevoked
    refine ⟨earlier, issuing, later, before, issued, first, split, earlierRun,
      issues, absent, isFirst, ?_, never⟩
    rw [← continues.isValidFor_eq (firstKept.trans unrevoked.symm)]
    exact valid
  · rintro ⟨earlier, issuing, later, before, issued, session, rfl, earlierRun,
      issues, absent, isIssued, valid, never⟩
    have unrevoked := unrevoked_of_isValidFor valid
    obtain ⟨middle, after, beforeRun, taken, laterRun⟩ := run.exists_step
    obtain rfl := ServiceRun.functional earlierRun beforeRun
    obtain rfl := issues.functional taken
    obtain ⟨last, found, continues, kept⟩ :=
      unrevoked_of_neverRevoked laterRun isIssued unrevoked never
    refine ⟨last, found, ?_⟩
    rw [continues.isValidFor_eq (unrevoked.trans kept.symm)]
    exact valid

end Kept

/-! ## Runs that act for principals in force -/

/-- Every operation of a run acts for a principal in force. -/
def ActsInForce (env : Environment) (labels : List Executed) : Prop :=
  Always (ServiceStep env) {}
    (fun _ before executed _ =>
      ∀ principal now, executed.ActsFor principal now →
        PrincipalInForce before principal now)
    labels

/-- Passkeys are changed only while the principal's session is kept. -/
def ChangesPasskeysUpheld (env : Environment) (labels : List Executed) : Prop :=
  Always (ServiceStep env) {}
    (fun earlier _ executed _ =>
      ∀ principal now, executed.ActsFor principal now →
        executed.tx.ChangesPasskeys →
        SessionUpheld env principal now earlier)
    labels

/-- The ceremony that registers a passkey is begun. -/
def begunRegistration : List ServiceTx :=
  loggedIn ++
    [ .beginRegistration loggedInPrincipal "https://example.test" 25
        { challengeId := 8, challenge := [1] } ]

/-- Its challenge is consumed. -/
def challengeConsumption : ServiceTx :=
  .consumePasskeyChallenge 8 .registration 30 (some 1) none

/-- The passkey is registered for the principal. -/
def registration : ServiceTx :=
  .finishRegistration loggedInPrincipal 9 "key" verifiedPasskey 40 {}

/-- The ceremony ends, or the sessions of the account are revoked before. -/
def beforeRegistration (revoked : Bool) : List ServiceTx :=
  begunRegistration ++ challengeConsumption ::
    if revoked then [.revokeUserSessions 1 35 {}] else []

/-- What is executed of a script before a passkey is registered. -/
def executedBefore (revoked : Bool) : List Executed × Store :=
  executeAll referenceEnvironment (beforeRegistration revoked) {}

/-- What is executed when the passkey is registered. -/
def registered : Executed :=
  { tx := registration, answer := .ok () }

theorem run_executedBefore (revoked : Bool) :
    ServiceRun referenceEnvironment {} (executedBefore revoked).1
      (executedBefore revoked).2 := by
  cases revoked with
  | false => exact run_executeAll (by decide +kernel)
  | true => exact run_executeAll (by decide +kernel)

theorem step_registered (revoked : Bool) :
    ServiceStep referenceEnvironment (executedBefore revoked).2 registered
      (registration.execute referenceEnvironment
        (executedBefore revoked).2).2 := by
  have step :=
    @ServiceStep.completed referenceEnvironment (executedBefore revoked).2
      registration fun draws opens => by cases opens
  have returned :
      (registration.execute referenceEnvironment
        (executedBefore revoked).2).1.isOk = true := by
    cases revoked with
    | false => decide +kernel
    | true => decide +kernel
  cases answer :
      (registration.execute referenceEnvironment
        (executedBefore revoked).2).1 with
  | ok value =>
      rw [answer] at step
      exact step
  | error failure =>
      rw [answer] at returned
      cases returned

end EpokAuth
