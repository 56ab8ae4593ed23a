import EpokAuth.LinearFamily
import EpokAuth.SessionEffect
import EpokAuth.StoredDigests

namespace EpokAuth

open Transactional

/-!
# Refresh and logout as a client calls them

The origin and the pair of CSRF values are checked before a transaction begins,
and the cookie is compared once more with the session inside it.  Neither check
writes anything.  The first comparison is made on the values as they arrived,
so it is undefined for a pair that is not ASCII; the second one is made on
digests.
-/

namespace SessionService

variable (env : Environment)

/-- The whole refresh: the two checks, then the transaction. -/
def refresh
    (refreshToken csrfCookie csrfHeader : String)
    (origin : Option String)
    (now : Instant)
    (context : RequestContext)
    (draws : SessionDraws)
    (store : Store) :
    Except Failure SessionBundle × Store :=
  match validateOrigin env.toDependencies origin with
  | .error failure => (.error failure, store)
  | .ok () =>
      match validateCsrfPair csrfCookie csrfHeader with
      | .error failure => (.error failure, store)
      | .ok () =>
          let outcome :=
            (ServiceTx.refresh refreshToken csrfCookie now context
              draws).execute env store
          -- a failure that the transaction committed is raised afterwards
          (outcome.1.bind id, outcome.2)

/-- The whole logout; without a refresh token there is nothing to end. -/
def logout
    (refreshToken csrfCookie csrfHeader origin : Option String)
    (now : Instant)
    (context : RequestContext)
    (store : Store) :
    Except Failure Nat × Store :=
  match validateOrigin env.toDependencies origin with
  | .error failure => (.error failure, store)
  | .ok () =>
      match refreshToken.filter fun token => token ≠ "" with
      | none => (.ok 0, store)
      | some refreshToken =>
          match validateCsrfPair (csrfCookie.getD "")
              (csrfHeader.getD "") with
          | .error failure => (.error failure, store)
          | .ok () =>
              (ServiceTx.logout refreshToken (csrfCookie.getD "") now
                context).execute env store

end SessionService

/-! ## The transactions -/

/-- A session is identified by values that no stored row mentions. -/
structure SessionDraws.Unused
    (deps : Dependencies)
    (draws : SessionDraws)
    (sessions : Table RefreshSession) :
    Prop where
  absent : sessions.get? draws.sessionId = none
  unseen : ∀ id session, sessions.get? id = some session →
    session.tokenHash ≠ deps.tokenHash draws.refreshToken
  unreferenced : ∀ id session, sessions.get? id = some session →
    session.replacedById ≠ some draws.sessionId

section Rules

variable
  {deps : Dependencies}
  {now : Instant}
  {context : RequestContext}
  {draws : SessionDraws}
  {store : Store}

/-- Values that no row mentions collide with none. -/
theorem SessionDraws.Unused.not_taken
    (unused : draws.Unused deps store.sessions)
    {userId : Uuid}
    {lineage : Lineage} :
    ((store.sessions.get? (issuedSession deps userId now lineage draws).id).isSome ||
      Store.sessionTaken (issuedSession deps userId now lineage draws)
        store) = false := by
  rw [Bool.or_eq_false_iff]
  constructor
  · exact Option.isSome_eq_false_iff.mpr (by simp [issuedSession, unused.absent])
  · rw [← Bool.not_eq_true, Store.sessionTaken, Table.isSome_find?_iff]
    rintro ⟨id, other, found, conflicts⟩
    have differs := unused.unseen id other found
    simp [issuedSession, differs] at conflicts

/-- Neither does the replaced session, once its successor is stored. -/
theorem SessionDraws.Unused.not_taken_replaced
    (unused : draws.Unused deps store.sessions)
    (distinct : DistinctTokens store.sessions)
    {session : RefreshSession}
    (found : store.sessions.get? session.id = some session)
    {userId : Uuid}
    {lineage : Lineage}
    {context : List SecurityEvent} :
    Store.sessionTaken
      { session with
        usedAt := some now
        replacedById := some draws.sessionId }
      { store with
        sessions :=
          store.sessions.put (issuedSession deps userId now lineage draws)
        events := context } = false := by
  rw [← Bool.not_eq_true, Store.sessionTaken, Table.isSome_find?_iff]
  rintro ⟨id, other, stored, conflicts⟩
  rw [Table.get?_put] at stored
  split at stored
  · obtain rfl := Option.some.inj stored
    have fresh := unused.unseen session.id session found
    simp [issuedSession, fresh.symm] at conflicts
  · have unreferenced := unused.unreferenced id other stored
    have otherKey : other.id = id := Table.key_of_get? stored
    have apart : other.id ≠ session.id →
        other.tokenHash ≠ session.tokenHash := by
      intro differs same
      exact differs (otherKey.trans (distinct id other session.id session stored
        found same))
    simp only [ne_eq, Bool.and_eq_true, decide_eq_true_eq, Bool.or_eq_true,
      Option.isSome_some, true_and] at conflicts
    rcases conflicts.2 with same | same
    · exact apart (by simpa using conflicts.1) same
    · exact unreferenced same

/-- Rotating a stored session collides only with drawn values in use. -/
theorem wp_rotate_answers
    (digested : DigestedSessions store.sessions)
    {user : UserAccount}
    {session : RefreshSession}
    (found : store.sessions.get? session.id = some session)
    {normal : SessionBundle → Store → Prop}
    {failed : Failure → Store → Prop}
    (rotated : ∀ bundle later,
      DigestedSessions later.sessions → normal bundle later)
    (collided : ∀ failure later,
      ¬ (DistinctTokens store.sessions ∧ draws.Unused deps store.sessions) →
        failed failure later) :
    Tx.wp (rotate deps user session now context draws) normal failed store := by
  simp only [rotate, Tx.wp_bind, wp_issue_session, Option.getD_some]
  split
  · rename_i taken
    refine collided _ _ fun free => ?_
    rw [free.2.not_taken] at taken
    cases taken
  rename_i admitted
  rw [Tx.wp_updateSession]
  split
  · split
    · rename_i taken
      refine collided _ _ fun free => ?_
      exact absurd taken
        (Bool.eq_false_iff.mp (free.2.not_taken_replaced free.1 found))
    · simp only [Tx.wp_bind, wp_recordSecurityEvent, Tx.wp_pure]
      refine rotated _ _ ((digested.put (deps.digest.ascii _)).put ?_)
      exact digested session.id session found
  · rename_i missing
    have absent := (Move.unused_of_admitted admitted).1
    have other := Table.ne_of_get? found absent
    refine absurd ?_ missing
    change ((store.sessions.put _).get? session.id).isSome = true
    rw [Table.get?_put_of_ne _ other, found]
    rfl

/-- Comparing with a stored digest is defined. -/
theorem wp_tokensMatch_of_ascii
    {stored token : String}
    (ascii : isAscii stored = true)
    {normal : Bool → Store → Prop}
    {failed : Failure → Store → Prop} :
    Tx.wp (tokensMatch stored (deps.tokenHash token)) normal failed store =
      normal (decide (stored = deps.tokenHash token)) store := by
  rw [tokensMatch, secureTokenEquals_tokenHash deps ascii, Tx.wp_ofExcept]

/--
The rule of refresh: it refuses the session, refuses the CSRF value and writes
nothing, or rotates.  It raises only when drawn values are in use.
-/
theorem wp_refresh_answers
    (digested : DigestedSessions store.sessions)
    {refreshToken csrfCookie : String}
    {normal : Except Failure SessionBundle → Store → Prop}
    {failed : Failure → Store → Prop}
    (refused : ∀ later, DigestedSessions later.sessions →
      normal (.error (.auth invalidSession)) later)
    (mismatched : normal (.error (.auth invalidCsrf)) store)
    (rotated : ∀ bundle later, DigestedSessions later.sessions →
      normal (.ok bundle) later)
    (collided : ∀ failure later,
      ¬ (DistinctTokens store.sessions ∧ draws.Unused deps store.sessions) →
        failed failure later) :
    Tx.wp (refresh deps refreshToken csrfCookie now context draws) normal
      failed store := by
  simp only [refresh, Tx.wp_bind, Tx.wp_getSessionByTokenHash]
  cases candidate :
      store.sessions.find? fun session =>
        session.tokenHash = deps.tokenHash refreshToken with
  | none =>
      exact refused _ digested
  | some session =>
      obtain ⟨stored, matched⟩ := Table.get?_of_find? candidate
      have matched : session.tokenHash = deps.tokenHash refreshToken := by
        simpa using matched
      have found : store.sessions.get? session.id = some session := stored
      have tokenAscii : isAscii session.tokenHash = true :=
        matched ▸ deps.digest.ascii refreshToken
      have csrfAscii := digested session.id session found
      have revoked :
          ∀ events, normal (.error (.auth invalidSession))
            { store with
              sessions :=
                store.sessions.revise (Store.inFamily session.familyId)
                  (Store.revokeAt now) fun _ => rfl
              events := events } :=
        fun _ => refused _ (digested.revise fun _ => rfl)
      simp only [Tx.wp_bind, Tx.wp_getUserById, Tx.wp_getSessionById, found,
        wp_tokensMatch_of_ascii tokenAscii, Tx.wp_ite, Tx.wp_pure]
      split
      · exact refused _ digested
      simp only [refreshSession, Tx.wp_ite, Tx.wp_bind, Tx.wp_revokeFamily,
        wp_recordSecurityEvent, Tx.wp_pure,
        wp_tokensMatch_of_ascii csrfAscii]
      split
      · exact revoked _
      split
      · exact revoked _
      split
      · exact mismatched
      cases account : store.users.get? session.userId with
      | none =>
          simp only [Tx.wp_bind, Tx.wp_revokeFamily, Tx.wp_pure]
          exact revoked _
      | some user =>
          simp only [Tx.wp_ite, Tx.wp_bind, Tx.wp_revokeFamily, Tx.wp_pure]
          split
          · exact wp_rotate_answers digested found rotated collided
          · exact revoked _

/-- The rule of logout: it raises nothing but the refusal of the CSRF value. -/
theorem wp_logout_answers
    (digested : DigestedSessions store.sessions)
    {refreshToken csrfCookie : String}
    {normal : Nat → Store → Prop}
    {failed : Failure → Store → Prop}
    (returned : ∀ count later, normal count later)
    (mismatched : failed (.auth invalidCsrf) store) :
    Tx.wp (logout deps refreshToken csrfCookie now context) normal failed
      store := by
  simp only [logout, Tx.wp_bind, Tx.wp_getSessionByTokenHash]
  cases candidate :
      store.sessions.find? fun session =>
        session.tokenHash = deps.tokenHash refreshToken with
  | none =>
      exact returned _ _
  | some session =>
      obtain ⟨stored, matched⟩ := Table.get?_of_find? candidate
      have matched : session.tokenHash = deps.tokenHash refreshToken := by
        simpa using matched
      have found : store.sessions.get? session.id = some session := stored
      have tokenAscii : isAscii session.tokenHash = true :=
        matched ▸ deps.digest.ascii refreshToken
      have csrfAscii := digested session.id session found
      simp only [Tx.wp_ite, Tx.wp_pure, Tx.wp_bind, Tx.wp_getUserById,
        Tx.wp_getSessionById, found]
      split
      · exact returned _ _
      split
      · simp only [Tx.wp_ite, Tx.wp_pure, Tx.wp_bind]
        split
        · exact returned _ _
        rename_i same _
        obtain rfl := Option.some.inj same
        simp only [Tx.wp_ite, Tx.wp_pure, Tx.wp_bind,
          wp_tokensMatch_of_ascii tokenAscii,
          wp_tokensMatch_of_ascii csrfAscii, Tx.wp_throw, Tx.wp_revokeFamily,
          wp_recordSecurityEvent]
        split
        · exact returned _ _
        split
        · exact mismatched
        · exact returned _ _
      · exact returned _ _

end Rules

/-! ## Reachable stores -/

/-- Whatever a transaction does alone, the stored hashes stay digests. -/
theorem ServiceTx.keeps_digested
    {env : Environment}
    {store : Store}
    (tx : ServiceTx)
    (digested : DigestedSessions store.sessions) :
    Tx.wp (tx.body env) (fun _ later => DigestedSessions later.sessions)
      (fun _ _ => True) store := by
  by_cases isRefresh :
      ∃ refreshToken csrfCookie now context draws,
        tx = .refresh refreshToken csrfCookie now context draws
  · obtain ⟨refreshToken, csrfCookie, now, context, draws, rfl⟩ := isRefresh
    exact wp_refresh_answers digested (fun _ kept => kept) digested
      (fun _ _ kept => kept) fun _ _ _ => trivial
  · have stores :=
      @ServiceTx.body_stores env tx
        fun _ _ _ _ _ same => isRefresh ⟨_, _, _, _, _, same⟩
    refine Prog.wp_of_issues_keeping stores ?_ (fun _ _ kept => kept)
      (fun _ _ _ => trivial) digested
    intro statement allowed normal view kept continues
    exact continues _ _ (digested_evaluate allowed kept)

/-- The CSRF hashes of every reachable store are digests. -/
theorem ServiceReachable.digested
    {env : Environment}
    {store : Store}
    (reachable : ServiceReachable env store) :
    DigestedSessions store.sessions := by
  obtain ⟨labels, run⟩ := reachable
  refine run.preserves (fun store => DigestedSessions store.sessions) ?_ ?_
  · intro before executed after step digested
    cases step with
    | completed tx fresh =>
        rcases tx.execute_of_wp (tx.keeps_digested digested) with
          ⟨answer, later, executes, kept⟩ | ⟨failure, executes⟩
        · rw [executes]
          exact kept
        · rw [executes]
          exact digested
    | aborted tx failure =>
        exact digested
  · intro id session found
    cases found

/-! ## What a caller is answered -/

section Answers

variable (env : Environment)

/--
An outcome that is safe to give to anybody: it is a result or a domain error,
and after a refused origin or CSRF value the store is as it was, so that every
later refresh and logout goes as it would have gone.
-/
structure AnswersSafely
    (store : Store)
    (outcome : Except Failure α × Store) :
    Prop where
  raises : ∀ failure, outcome.1 = .error failure →
    ∃ error, failure = .auth error
  unchanged : ∀ error, outcome.1 = .error (.auth error) →
    error.code = .invalidOrigin ∨ error.code = .invalidCsrf →
      outcome.2 = store
  undisturbed : ∀ error, outcome.1 = .error (.auth error) →
    error.code = .invalidOrigin ∨ error.code = .invalidCsrf →
      (∀ refreshToken csrfCookie csrfHeader origin now context draws,
        SessionService.refresh env refreshToken csrfCookie csrfHeader origin
            now context draws outcome.2 =
          SessionService.refresh env refreshToken csrfCookie csrfHeader origin
            now context draws store) ∧
        ∀ refreshToken csrfCookie csrfHeader origin now context,
          SessionService.logout env refreshToken csrfCookie csrfHeader origin
              now context outcome.2 =
            SessionService.logout env refreshToken csrfCookie csrfHeader
              origin now context store

variable {env}

/-- An unchanged store serves everybody as before. -/
theorem AnswersSafely.of_unchanged
    {store : Store}
    {outcome : Except Failure α × Store}
    (raises : ∀ failure, outcome.1 = .error failure →
      ∃ error, failure = .auth error)
    (unchanged : ∀ error, outcome.1 = .error (.auth error) →
      error.code = .invalidOrigin ∨ error.code = .invalidCsrf →
        outcome.2 = store) :
    AnswersSafely env store outcome where
  raises := raises
  unchanged := unchanged
  undisturbed := by
    intro error raised code
    rw [unchanged error raised code]
    exact ⟨fun _ _ _ _ _ _ _ => rfl, fun _ _ _ _ _ _ => rfl⟩

/-- A domain error raised before the transaction is safe. -/
theorem AnswersSafely.of_refused
    {store : Store}
    (error : AuthError) :
    AnswersSafely env store ((.error (.auth error) : Except Failure α), store) :=
  .of_unchanged (fun _ raised => ⟨error, (Except.error.inj raised).symm⟩)
    fun _ _ _ => rfl

/-- A pair whose comparison is defined, or not made. -/
def ComparablePair (cookie header : String) : Prop :=
  cookie = "" ∨ header = "" ∨
    (isAscii cookie = true ∧ isAscii header = true)

/-- A comparable pair is accepted, or refused with the error for it. -/
theorem validateCsrfPair_of_comparable
    {cookie header : String}
    (comparable : ComparablePair cookie header) :
    validateCsrfPair cookie header = .ok () ∨
      validateCsrfPair cookie header = .error (.auth invalidCsrf) := by
  unfold validateCsrfPair
  split
  · exact .inr rfl
  · rename_i present
    rcases comparable with empty | empty | ⟨cookieAscii, headerAscii⟩
    · exact absurd (.inl empty) present
    · exact absurd (.inr empty) present
    · rw [secureTokenEquals, compareDigest_of_ascii cookieAscii headerAscii]
      cases decide (cookie = header)
      · exact .inr rfl
      · exact .inl rfl

/-- Any other pair makes the comparison raise. -/
theorem validateCsrfPair_of_not_comparable
    {cookie header : String}
    (incomparable : ¬ ComparablePair cookie header) :
    validateCsrfPair cookie header = .error .typeError := by
  simp only [ComparablePair, not_or, not_and] at incomparable
  obtain ⟨cookiePresent, headerPresent, beyond⟩ := incomparable
  have undefined : compareDigest cookie header = .error .typeError := by
    cases cookieAscii : isAscii cookie
    · simp [compareDigest, cookieAscii]
    · simp [compareDigest, beyond cookieAscii]
  simp [validateCsrfPair, cookiePresent, headerPresent, secureTokenEquals,
    undefined]

/-- The origin is accepted, or refused with its own error. -/
theorem validateOrigin_cases
    (deps : Dependencies)
    (origin : Option String) :
    validateOrigin deps origin = .ok () ∨
      ∃ error, validateOrigin deps origin = .error (.auth error) := by
  unfold validateOrigin invalidOrigin
  split
  · split
    · exact .inr ⟨_, rfl⟩
    · exact .inl rfl
  · split
    · exact .inl rfl
    · exact .inr ⟨_, rfl⟩

variable
  {store : Store}
  {now : Instant}
  {context : RequestContext}

/-- The transaction of a refresh is always committed. -/
theorem refresh_execute_returns
    (reachable : ServiceReachable env store)
    {draws : SessionDraws}
    (unused : draws.Unused env.toDependencies store.sessions)
    (refreshToken csrfCookie : String) :
    ∃ answer later,
      (ServiceTx.refresh refreshToken csrfCookie now context draws).execute
          env store = (.ok answer, later) ∧
        ((∃ bundle, answer = .ok bundle) ∨
          answer = .error (.auth invalidSession) ∨
            (answer = .error (.auth invalidCsrf) ∧ later = store)) := by
  refine ServiceTx.execute_returns_of_wp
    (wp_refresh_answers reachable.digested ?_ ?_ ?_ ?_)
  · exact fun _ _ => .inr (.inl rfl)
  · exact .inr (.inr ⟨rfl, rfl⟩)
  · exact fun bundle _ _ => .inl ⟨bundle, rfl⟩
  · exact fun _ _ inUse => inUse ⟨reachable.distinctTokens, unused⟩

/-- A committed refresh raises afterwards what it answered with. -/
theorem refresh_execute_safe
    (reachable : ServiceReachable env store)
    {draws : SessionDraws}
    (unused : draws.Unused env.toDependencies store.sessions)
    (refreshToken csrfCookie : String) :
    let outcome :=
      (ServiceTx.refresh refreshToken csrfCookie now context draws).execute
        env store
    AnswersSafely env store (outcome.1.bind id, outcome.2) := by
  obtain ⟨answer, later, executes, answered⟩ :=
    @refresh_execute_returns _ _ now context reachable _ unused refreshToken
      csrfCookie
  intro outcome
  have same : outcome = (.ok answer, later) := executes
  rw [same]
  refine .of_unchanged ?_ ?_
  · intro failure raised
    rcases answered with ⟨bundle, rfl⟩ | rfl | ⟨rfl, _⟩
    · cases raised
    · exact ⟨_, (Except.error.inj raised).symm⟩
    · exact ⟨_, (Except.error.inj raised).symm⟩
  · intro error raised code
    rcases answered with ⟨bundle, rfl⟩ | rfl | ⟨_, unchanged⟩
    · cases raised
    · cases raised
      simp [invalidSession] at code
    · exact unchanged

theorem refresh_answers_iff
    (reachable : ServiceReachable env store)
    {draws : SessionDraws}
    (unused : draws.Unused env.toDependencies store.sessions)
    (refreshToken csrfCookie csrfHeader : String)
    (origin : Option String) :
    AnswersSafely env store
        (SessionService.refresh env refreshToken csrfCookie csrfHeader origin
          now context draws store) ↔
      (validateOrigin env.toDependencies origin = .ok () →
        ComparablePair csrfCookie csrfHeader) := by
  rcases validateOrigin_cases env.toDependencies origin with
    trusted | ⟨error, refused⟩
  · constructor
    · intro safe _
      by_contra incomparable
      have raised :
          (SessionService.refresh env refreshToken csrfCookie csrfHeader origin
            now context draws store).1 = .error .typeError := by
        rw [SessionService.refresh, trusted,
          validateCsrfPair_of_not_comparable incomparable]
      obtain ⟨error, same⟩ := safe.raises _ raised
      cases same
    · intro condition
      rcases validateCsrfPair_of_comparable (condition trusted) with
        accepted | refused
      · rw [SessionService.refresh, trusted, accepted]
        exact refresh_execute_safe reachable unused refreshToken csrfCookie
      · rw [SessionService.refresh, trusted, refused]
        exact .of_refused invalidCsrf
  · rw [SessionService.refresh, refused]
    exact ⟨fun _ => by rintro ⟨⟩, fun _ => .of_refused error⟩

/-- The transaction of a logout raises for a CSRF value only. -/
theorem logout_execute_raises
    (reachable : ServiceReachable env store)
    {refreshToken csrfCookie : String}
    {failure : Failure}
    (raised :
      ((ServiceTx.logout refreshToken csrfCookie now context).execute env
        store).1 = .error failure) :
    failure = .auth invalidCsrf := by
  have answers :=
    @ServiceTx.answer_of_wp env store
      (.logout refreshToken csrfCookie now context)
      (fun answer => ∀ other, answer = .error other →
        other = .auth invalidCsrf)
      (wp_logout_answers reachable.digested (by rintro _ _ _ ⟨⟩)
        fun _ same => (Except.error.inj same).symm)
  exact answers failure raised

theorem logout_answers_iff
    (reachable : ServiceReachable env store)
    (refreshToken csrfCookie csrfHeader origin : Option String) :
    AnswersSafely env store
        (SessionService.logout env refreshToken csrfCookie csrfHeader origin
          now context store) ↔
      (validateOrigin env.toDependencies origin = .ok () →
        (∃ token, refreshToken = some token ∧ token ≠ "") →
          ComparablePair (csrfCookie.getD "") (csrfHeader.getD "")) := by
  rcases validateOrigin_cases env.toDependencies origin with
    trusted | ⟨error, refused⟩
  swap
  · rw [SessionService.logout, refused]
    exact ⟨fun _ => by rintro ⟨⟩, fun _ => .of_refused error⟩
  cases presented : refreshToken.filter fun token => token ≠ "" with
  | none =>
      rw [SessionService.logout, trusted, presented]
      refine ⟨?_, fun _ => .of_unchanged (by rintro _ ⟨⟩) (by rintro _ ⟨⟩)⟩
      rintro _ _ ⟨token, rfl, present⟩
      simp [Option.filter, present] at presented
  | some token =>
      have isToken : ∃ token, refreshToken = some token ∧ token ≠ "" := by
        obtain ⟨same, present⟩ := Option.filter_eq_some_iff.mp presented
        exact ⟨token, same, by simpa using present⟩
      constructor
      · intro safe _ _
        by_contra incomparable
        have raised :
            (SessionService.logout env refreshToken csrfCookie csrfHeader
              origin now context store).1 = .error .typeError := by
          rw [SessionService.logout, trusted, presented,
            validateCsrfPair_of_not_comparable incomparable]
        obtain ⟨error, same⟩ := safe.raises _ raised
        cases same
      · intro condition
        rcases validateCsrfPair_of_comparable (condition trusted isToken) with
          accepted | refused
        · rw [SessionService.logout, trusted, presented, accepted]
          refine .of_unchanged
            (fun failure raised => ⟨_, logout_execute_raises reachable raised⟩)
            fun _ raised _ => ServiceTx.rolls_back raised
        · rw [SessionService.logout, trusted, presented, refused]
          exact .of_refused invalidCsrf

/--
Refresh and logout answer safely exactly when the CSRF pair they come to
compare is ASCII: an untrusted origin, an empty value, or for logout a missing
token, is answered before the comparison.  Texts are strings of Unicode scalar
values, as decoding a header gives them; a lone surrogate is none.
-/
theorem transport_answers_iff
    (reachable : ServiceReachable env store)
    {draws : SessionDraws}
    (unused : draws.Unused env.toDependencies store.sessions)
    (refreshToken csrfCookie csrfHeader : String)
    (origin : Option String)
    (endedToken endedCookie endedHeader endedOrigin : Option String) :
    (AnswersSafely env store
        (SessionService.refresh env refreshToken csrfCookie csrfHeader origin
          now context draws store) ↔
      (validateOrigin env.toDependencies origin = .ok () →
        ComparablePair csrfCookie csrfHeader)) ∧
    (AnswersSafely env store
        (SessionService.logout env endedToken endedCookie endedHeader
          endedOrigin now context store) ↔
      (validateOrigin env.toDependencies endedOrigin = .ok () →
        (∃ token, endedToken = some token ∧ token ≠ "") →
          ComparablePair (endedCookie.getD "") (endedHeader.getD ""))) :=
  ⟨refresh_answers_iff reachable unused refreshToken csrfCookie csrfHeader
      origin,
    logout_answers_iff reachable endedToken endedCookie endedHeader
      endedOrigin⟩

end Answers

/-! ## Scripted stores -/

/-- Whether no stored row mentions what was drawn. -/
def SessionDraws.isUnused
    (deps : Dependencies)
    (draws : SessionDraws)
    (sessions : Table RefreshSession) :
    Bool :=
  sessions.rows.all fun session =>
    session.id ≠ draws.sessionId &&
      session.tokenHash ≠ deps.tokenHash draws.refreshToken &&
      session.replacedById ≠ some draws.sessionId

theorem SessionDraws.unused_of_isUnused
    {deps : Dependencies}
    {draws : SessionDraws}
    {sessions : Table RefreshSession}
    (isUnused : draws.isUnused deps sessions = true) :
    draws.Unused deps sessions := by
  have apart :
      ∀ id session, sessions.get? id = some session →
        (session.id ≠ draws.sessionId ∧
          session.tokenHash ≠ deps.tokenHash draws.refreshToken) ∧
            session.replacedById ≠ some draws.sessionId := by
    intro id session found
    rw [SessionDraws.isUnused, List.all_eq_true] at isUnused
    simpa using isUnused session (Table.mem_of_get? found)
  refine ⟨?_, fun id session found => (apart id session found).1.2,
    fun id session found => (apart id session found).2⟩
  cases found : sessions.get? draws.sessionId with
  | none =>
      rfl
  | some session =>
      exact absurd (Table.key_of_get? found) (apart _ _ found).1.1

/-- The reference environment for clients that send no origin. -/
def originlessEnvironment : Environment :=
  { referenceEnvironment with
    settings :=
      { referenceEnvironment.settings with requireOrigin := false } }

/-- What the next refresh draws. -/
def nextDraws : SessionDraws where
  sessionId := 21
  familyId := 22
  refreshToken := "next"
  csrfToken := "csrf"
  tokenId := 23

/-- The holder of the latest token is answered safely. -/
theorem transport_answers_twiceRefreshed :
    AnswersSafely originlessEnvironment
      (executeAll originlessEnvironment twiceRefreshed {}).2
      (SessionService.refresh originlessEnvironment "third" "csrf" "csrf" none
        40 {} nextDraws
        (executeAll originlessEnvironment twiceRefreshed {}).2) :=
  (transport_answers_iff (reachable_executeAll (by decide))
    (SessionDraws.unused_of_isUnused (by decide)) "third" "csrf" "csrf" none
    none none none none).1.mpr fun _ => .inr (.inr ⟨by decide, by decide⟩)

/-- A pair of equal, accented values makes both operations raise. -/
theorem accented_csrf_pair_raises :
    (SessionService.refresh originlessEnvironment "third" "señal" "señal" none
        40 {} nextDraws
        (executeAll originlessEnvironment twiceRefreshed {}).2).1 =
        .error .typeError ∧
      (SessionService.logout originlessEnvironment (some "third")
        (some "señal") (some "señal") none 40 {}
        (executeAll originlessEnvironment twiceRefreshed {}).2).1 =
        .error .typeError ∧
      ¬ AnswersSafely originlessEnvironment
        (executeAll originlessEnvironment twiceRefreshed {}).2
        (SessionService.refresh originlessEnvironment "third" "señal" "señal"
          none 40 {} nextDraws
          (executeAll originlessEnvironment twiceRefreshed {}).2) := by
  have refused :
      validateCsrfPair "señal" "señal" = .error .typeError :=
    validateCsrfPair_of_not_comparable (by
      simp only [ComparablePair, not_or]
      decide)
  have raised :
      (SessionService.refresh originlessEnvironment "third" "señal" "señal"
        none 40 {} nextDraws
        (executeAll originlessEnvironment twiceRefreshed {}).2).1 =
        .error .typeError := by
    simp only [SessionService.refresh, refused]
    rfl
  refine ⟨raised, ?_, fun safe => ?_⟩
  · simp only [SessionService.logout, Option.getD_some, refused]
    rfl
  · obtain ⟨error, same⟩ := safe.raises _ raised
    cases same

end EpokAuth
