import EpokAuth.MintedSessions
import EpokAuth.ReplayRevocation
import EpokAuth.ShownTransactions

namespace EpokAuth

open Transactional

/-!
# Where sessions come from

Every stored session was answered, with its tokens, by one transaction of the
run: one that verified a credential of its account at that moment, or a refresh
that presented both tokens of the session before it.  Going back along the
refreshes, its family was opened on such a credential, at the time that the
session states as the time of authentication.
-/

/-- A transaction answered a session, and these are its tokens. -/
structure Executed.Answers
    (executed : Executed)
    (deps : Dependencies)
    (session : RefreshSession)
    (bundle : SessionBundle) :
    Prop where
  answered : ∃ answer,
    executed.answer = .ok answer ∧ executed.tx.bundle answer = some bundle
  userId : bundle.principal.userId = session.userId
  sessionId : bundle.principal.sessionId = session.id
  familyId : bundle.principal.familyId = session.familyId
  authenticatedAt :
    bundle.principal.authenticatedAt = session.authenticatedAt
  refreshToken : session.tokenHash = deps.tokenHash bundle.refreshToken
  csrfToken : session.csrfHash = deps.tokenHash bundle.csrfToken

/-- A transaction opened a family for the account of a session. -/
def Executed.Roots
    (executed : Executed)
    (env : Environment)
    (before : Store)
    (session : RefreshSession) :
    Prop :=
  ∃ user draws,
    Grounds env before executed.tx user ∧
      user.id = session.userId ∧
      executed.tx.opening = some draws ∧
      draws.familyId = session.familyId ∧
      executed.tx.clock = some session.authenticatedAt

/-- A transaction refreshed an earlier session of the family of a session. -/
def Executed.Continues
    (executed : Executed)
    (env : Environment)
    (before : Store)
    (session : RefreshSession) :
    Prop :=
  ∃ refreshToken csrfCookie now context draws parent user,
    executed.tx = .refresh refreshToken csrfCookie now context draws ∧
      PresentsTokens env.toDependencies before refreshToken csrfCookie now
        parent user ∧
      parent.userId = session.userId ∧
      parent.familyId = session.familyId ∧
      parent.authenticatedAt = session.authenticatedAt

/-- A run of the services shows its transactions as its labels. -/
def servicesShowing : Showing Store Executed Store Executed where
  store := id
  shows := Eq

theorem servicesShowing_faithful (env : Environment) :
    servicesShowing.Faithful (ServiceStep env) (ServiceStep env) :=
  fun _ label _ step => .inr ⟨label, rfl, step⟩

section Runs

variable
  {σ Label : Type}
  (showing : Showing σ Label Store Executed)
  (env : Environment)
  (step : σ → Label → σ → Prop)
  (start : σ)

/-- A session was minted in a run, and its family was opened in it. -/
structure HasOrigin
    (session : RefreshSession)
    (labels : List Label) :
    Prop where
  minted :
    PassesMade showing (ServiceStep env) step start
      (fun _ before executed _ =>
        (∃ bundle, executed.Answers env.toDependencies session bundle) ∧
          (executed.Roots env before session ∨
            executed.Continues env before session))
      labels
  root :
    PassesMade showing (ServiceStep env) step start
      (fun _ before executed _ => executed.Roots env before session) labels

variable
  {showing env step start}
  {session later : RefreshSession}
  {labels : List Label}

theorem HasOrigin.append
    (origin : HasOrigin showing env step start session labels)
    (more : List Label) :
    HasOrigin showing env step start session (labels ++ more) where
  minted := origin.minted.append more
  root := origin.root.append more

/-- A session keeps its origin through every change of its row. -/
theorem HasOrigin.continues
    (origin : HasOrigin showing env step start session labels)
    (continues : session.Continues later) :
    HasOrigin showing env step start later labels := by
  rw [continues.origin]
  refine
    { minted := origin.minted.mono ?_
      root := origin.root }
  rintro _ _ executed _ ⟨⟨bundle, answers⟩, grounds⟩
  refine ⟨⟨bundle, ?_⟩, grounds⟩
  exact
    { answered := answers.answered
      userId := answers.userId
      sessionId := answers.sessionId
      familyId := answers.familyId
      authenticatedAt := answers.authenticatedAt
      refreshToken := answers.refreshToken
      csrfToken := answers.csrfToken }

/-- An added session is answered with its tokens. -/
theorem Adds.answers
    {user : UserAccount}
    {now : Instant}
    {lineage : Lineage}
    {draws : SessionDraws}
    {bundle : SessionBundle}
    {before after : Table RefreshSession}
    {tx : ServiceTx}
    {answer : tx.Answer}
    (adds : Adds env.toDependencies user now lineage draws before bundle after)
    (answered : tx.bundle answer = some bundle) :
    Executed.Answers { tx := tx, answer := .ok answer } env.toDependencies
      (issuedSession env.toDependencies user.id now lineage draws) bundle := by
  obtain ⟨account, same, rfl⟩ := adds.answered
  exact
    { answered := ⟨answer, rfl, answered⟩
      userId := same
      sessionId := rfl
      familyId := rfl
      authenticatedAt := rfl
      refreshToken := rfl
      csrfToken := rfl }

/-- Whatever a step leaves stored was stored, or is what the step added. -/
theorem HasOrigin.of_accounts
    {tx : ServiceTx}
    {answer : tx.Answer}
    {before after : σ}
    {label : Label}
    {id : Uuid}
    (run : Run step start labels before)
    (taken : step before label after)
    (shown : showing.shows label { tx := tx, answer := .ok answer })
    (made :
      ServiceStep env (showing.store before)
        { tx := tx, answer := .ok answer } (showing.store after))
    (accounts :
      Accounts env (showing.store before) tx answer (showing.store after))
    (origins : ∀ id session,
      (showing.store before).sessions.get? id = some session →
        HasOrigin showing env step start session labels)
    (found : (showing.store after).sessions.get? id = some session) :
    HasOrigin showing env step start session (labels ++ [label]) := by
  have present : ((showing.store after).sessions.get? id).isSome :=
    Option.isSome_iff_exists.mpr ⟨session, found⟩
  -- a row that was stored before still has the origin it had
  have stayed :
      ((showing.store before).sessions.get? id).isSome →
        HasOrigin showing env step start session (labels ++ [label]) := by
    intro was
    obtain ⟨earlier, held⟩ := Option.isSome_iff_exists.mp was
    obtain ⟨moves, effect⟩ := made.effect
    obtain ⟨later, isLater, continues⟩ :=
      effect.performs.sessionsContinue id earlier held
    obtain rfl := Option.some.inj (found.symm.trans isLater)
    exact ((origins id earlier held).append _).continues continues
  unfold Accounts at accounts
  split at accounts
  · exact stayed (accounts id present)
  rename_i bundle answered
  generalize showing.store after = reached at accounts found present stayed
  cases accounts with
  | @opens tx bundle after user draws now grounds opening clock adds =>
      by_cases isAdded : id = draws.sessionId
      · subst isAdded
        obtain rfl := Option.some.inj (found.symm.trans adds.stored)
        have roots :
            Executed.Roots { tx := tx, answer := .ok answer } env
              (showing.store before)
              (issuedSession env.toDependencies user.id now
                (openLineage env.toDependencies now draws) draws) :=
          ⟨user, draws, grounds, rfl, opening, rfl, clock⟩
        exact
          { minted := .last run taken shown made
              ⟨⟨bundle, adds.answers answered⟩, .inl roots⟩
            root := .last run taken shown made roots }
      · exact stayed (adds.others id isAdded present)
  | @rotates refreshToken csrfCookie now context draws bundle after parent user
      presents adds =>
      by_cases isAdded : id = draws.sessionId
      · subst isAdded
        obtain rfl := Option.some.inj (found.symm.trans adds.stored)
        have isOwner : user.id = parent.userId :=
          Table.key_of_get? presents.account
        refine
          { minted := .last run taken shown made
              ⟨⟨bundle, adds.answers answered⟩, .inr
                ⟨refreshToken, csrfCookie, now, context, draws, parent, user,
                  rfl, presents, isOwner.symm, rfl, rfl⟩⟩
            root :=
              ((origins parent.id parent presents.stored).root.mono ?_).append
                _ }
        rintro _ _ _ _ ⟨owner, opened, grounds, isUser, family⟩
        exact ⟨owner, opened, grounds, isUser.trans isOwner.symm, family⟩
      · exact stayed (adds.others id isAdded present)

/--
Every session that a run leaves stored was minted in it: its tokens were
answered by one transaction, which verified a credential of the account or was
presented the tokens of the session before, and its family was opened on a
credential of that account at the time of authentication that it states.
-/
theorem origins_of_faithful
    {finish : σ}
    (faithful : showing.Faithful (ServiceStep env) step)
    (run : Run step start labels finish)
    (fresh : ∀ id, (showing.store start).sessions.get? id = none) :
    ∀ id session, (showing.store finish).sessions.get? id = some session →
      HasOrigin showing env step start session labels := by
  refine faithful.accumulates run
    (fun labels store => ∀ id session,
      store.sessions.get? id = some session →
        HasOrigin showing env step start session labels) ?_ ?_ ?_
  · intro earlier label store origins id session found
    exact (origins id session found).append _
  · intro earlier before label after executed run taken shown made origins id
      session found
    obtain ⟨tx, answer⟩ := executed
    cases answer with
    | error failure =>
        rw [made.unchanged_of_error] at found
        exact (origins id session found).append _
    | ok answer =>
        exact .of_accounts run taken shown made (made.of_wp tx.accounts) origins
          found
  · intro id session found
    rw [fresh] at found
    cases found

end Runs

/-- The origin of a session in a run of the services. -/
abbrev HasServiceOrigin
    (env : Environment)
    (start : Store)
    (session : RefreshSession)
    (labels : List Executed) :
    Prop :=
  HasOrigin servicesShowing env (ServiceStep env) start session labels

/--
Every session that a run of the services leaves stored has an origin in it,
whatever accounts the run started from.
-/
theorem sessions_have_origins
    {env : Environment}
    {start store : Store}
    {labels : List Executed}
    {id : Uuid}
    {session : RefreshSession}
    (run : ServiceRun env start labels store)
    (fresh : ∀ id, start.sessions.get? id = none)
    (found : store.sessions.get? id = some session) :
    HasServiceOrigin env start session labels :=
  origins_of_faithful (servicesShowing_faithful env) run fresh id session found

/-- The session that the second of two refreshes stored has its origin. -/
theorem sessions_have_origins_twiceRefreshed :
    ∃ session,
      session.replacedById = none ∧
        HasServiceOrigin referenceEnvironment {} session
          (executeAll referenceEnvironment twiceRefreshed {}).1 := by
  have stored :
      ((executeAll referenceEnvironment twiceRefreshed {}).2.sessions.find?
        fun session => session.replacedById = none).isSome := by decide
  obtain ⟨session, found⟩ := Option.isSome_iff_exists.mp stored
  obtain ⟨held, current⟩ := Table.get?_of_find? found
  exact ⟨session, of_decide_eq_true current,
    sessions_have_origins (run_executeAll (by decide)) (fun _ => rfl) held⟩

end EpokAuth
