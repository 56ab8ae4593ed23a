import EpokAuth.ServedAuthority
import EpokAuth.SessionOrigins

namespace EpokAuth

open Transactional

/-!
# What the authority of a request goes back to

The session that a bearer token speaks for was stored by some request of the
same run of the server, or by the application.  Going back along its refreshes,
it rests on a credential of the very account, verified at the time that the
principal carries as its time of authentication.
-/

section Runs

variable
  {Client : Type}
  [DecidableEq Client]

/-- A server shows the transactions that its requests perform, and those that
the application makes around them. -/
def Deployment.showing (deployment : Deployment) :
    Showing (WebState Client) (WebLabel Client) Store Executed where
  store serving := serving.state.store
  shows label executed :=
    (∃ client request,
        label =
          .performed client request
            ⟨.transaction executed.tx, executed.answer⟩) ∨
      label = .drifted ∧ deployment.applicationMakes executed.tx

/-- An effect leaves the store alone, or makes one transaction on it. -/
theorem Deployment.Performs.store_cases
    {deployment : Deployment}
    {entry : Performed Ask.Answer}
    {before after : World}
    (performs : deployment.Performs entry.effect before entry.answer after) :
    after.store = before.store ∨
      ∃ tx answer,
        entry = ⟨.transaction tx, answer⟩ ∧
          ServiceStep deployment.toEnvironment before.store
            { tx := tx, answer := answer } after.store := by
  obtain ⟨ask, answer⟩ := entry
  cases performs with
  | transaction step => exact .inr ⟨_, _, rfl, step⟩
  | _ => exact .inl rfl

/-- A performed transaction is a step of the services. -/
theorem Deployment.Performs.serviceStep
    {deployment : Deployment}
    {tx : ServiceTx}
    {answer : Except Failure tx.Answer}
    {before after : World}
    (performs : deployment.Performs (.transaction tx) before answer after) :
    ServiceStep deployment.toEnvironment before.store
      { tx := tx, answer := answer } after.store := by
  cases performs with
  | transaction made => exact made

theorem Deployment.showing_faithful (deployment : Deployment) :
    Showing.Faithful
      (deployment.showing :
        Showing (WebState Client) (WebLabel Client) Store Executed)
      (ServiceStep deployment.toEnvironment) (ServerStep deployment.server) := by
  intro before label after step
  cases step with
  | @performed client request effect next trail answer later works performs =>
      rcases @Deployment.Performs.store_cases deployment ⟨effect, answer⟩ _ _
          performs with
        same | ⟨tx, result, isTx, made⟩
      · exact .inl same
      · exact .inr ⟨⟨tx, result⟩, .inl ⟨client, request, by rw [isTx]⟩, made⟩
  | drifted drifts =>
      cases drifts with
      | clock later => exact .inl rfl
      | application makes step => exact .inr ⟨_, .inr ⟨rfl, makes⟩, step⟩
  | _ => exact .inl rfl

/-- A run in which a request performs a transaction makes it. -/
theorem passesMade_of_performed
    {deployment : Deployment}
    {initial : World}
    {client : Client}
    {request : Request}
    {tx : ServiceTx}
    {answer : Except Failure tx.Answer}
    {labels : List (WebLabel Client)}
    (performed :
      HasPerformed deployment.server initial client request
        ⟨.transaction tx, answer⟩ labels) :
    PassesMade deployment.showing (ServiceStep deployment.toEnvironment)
      (ServerStep deployment.server) (.opened initial)
      (fun label _ executed _ =>
        label = .performed client request ⟨.transaction tx, answer⟩ ∧
          executed = { tx := tx, answer := answer })
      labels := by
  obtain ⟨earlier, later, before, after, split, run, taken, performs⟩ :=
    performed.exists_step
  refine ⟨earlier, _, later, split, before, after, { tx := tx, answer := answer },
    run, taken, .inl ⟨client, request, rfl⟩, ?_, rfl, rfl⟩
  exact Deployment.Performs.serviceStep performs

/-! ### Transactions that are made once -/

/-- A step of the surroundings, rather than of a request. -/
def isDrift : WebLabel Client → Bool
  | .drifted => true
  | _ => false

/-- What is read of the transaction that a step shows. -/
def readLabel (reads : Executed → Option κ) : WebLabel Client → Option κ
  | .performed _ _ ⟨.transaction tx, answer⟩ =>
      reads { tx := tx, answer := answer }
  | _ => none

/-- Where the application keeps quiet, every transaction of a run is seen. -/
theorem makesOnce_of_nodup
    {deployment : Deployment}
    {initial : World}
    {labels : List (WebLabel Client)}
    {reads : Executed → Option κ}
    {value : κ}
    {event : WebLabel Client → Store → Executed → Store → Prop}
    (quiet : labels.any isDrift = false)
    (distinct : (labels.filterMap (readLabel reads)).Nodup)
    (isRead : ∀ label before executed after,
      event label before executed after → reads executed = some value) :
    MakesOnce deployment.showing (ServiceStep deployment.toEnvironment)
      (ServerStep deployment.server) (.opened initial) event labels := by
  have seen : ∀ earlier label later,
      labels = earlier ++ label :: later →
      MakesAfter deployment.showing (ServiceStep deployment.toEnvironment)
          (ServerStep deployment.server) (.opened initial) event earlier
          label →
        readLabel reads label = some value := by
    rintro earlier label later split
      ⟨_, _, executed, _, _, shown, _, holds⟩
    rcases shown with ⟨client, request, rfl⟩ | ⟨drifts, _⟩
    · exact isRead _ _ _ _ holds
    · subst drifts
      simp [split, isDrift] at quiet
  have notTwice : ∀ earlier between rest one another,
      labels = earlier ++ one :: (between ++ another :: rest) →
      readLabel reads one = some value →
        ¬ readLabel reads another = some value := by
    intro earlier between rest one another split isOne isOther
    rw [split, List.filterMap_append, List.filterMap_cons_some isOne,
      List.filterMap_append, List.filterMap_cons_some isOther] at distinct
    have fromOne := (List.nodup_append.mp distinct).2.1
    exact (List.nodup_cons.mp fromOne).1 (by simp)
  intro first one firstRest second another secondRest split splitToo makes
    makesToo
  have isOne := seen _ _ _ split makes
  have isOther := seen _ _ _ splitToo makesToo
  rcases split_cases (split.symm.trans splitToo) with
    ⟨same, _, _⟩ | ⟨between, rfl, rfl⟩ | ⟨between, rfl, rfl⟩
  · exact same
  · exact absurd isOther (notTwice _ _ _ _ _ split isOne)
  · exact absurd isOne (notTwice _ _ _ _ _ splitToo isOther)

/-- The origin of a session in a run of the server. -/
abbrev HasServedOrigin
    (deployment : Deployment)
    (initial : World)
    (session : RefreshSession)
    (labels : List (WebLabel Client)) :
    Prop :=
  HasOrigin deployment.showing deployment.toEnvironment
    (ServerStep deployment.server) (.opened initial) session labels

variable
  {deployment : Deployment}
  {initial : World}
  {client : Client}
  {head : HttpRequest}
  {endpoint : Endpoint}
  {labels : List (WebLabel Client)}

/-- The session of an authenticated principal has an origin in the run. -/
theorem WasAuthenticated.exists_origin
    {principal : Principal}
    (authenticated :
      WasAuthenticated deployment initial client head endpoint labels principal)
    (fresh : ∀ id, initial.store.sessions.get? id = none) :
    ∃ session,
      HasServedOrigin deployment initial session labels ∧
        session.id = principal.sessionId ∧
        session.userId = principal.userId ∧
        session.familyId = principal.familyId ∧
        session.authenticatedAt = principal.authenticatedAt := by
  obtain ⟨credentials, claims, now, user, session, _, _, _, _, looked, _,
    valid, rfl⟩ := authenticated
  obtain ⟨earlier, label, later, before, after, rfl, run, _, _, account, found⟩ :=
    looked
  have origin :=
    origins_of_faithful deployment.showing_faithful run fresh _ session found
  have isOwner : session.userId = user.id := by
    simp only [RefreshSession.isValidFor, Bool.and_eq_true,
      decide_eq_true_eq] at valid
    exact valid.1.1.2.trans (Table.key_of_get? account).symm
  exact ⟨session, origin.append (label :: later), rfl, isOwner, rfl, rfl⟩

/-- The principals that have an authority. -/
def Authority.IsOf (deployment : Deployment) (principal : Principal) :
    Authority → Prop
  | .anyone => False
  | .account userId =>
      principal.mustChangePassword = false ∧ principal.userId = userId
  | .principal other => principal = other ∧ principal.mustChangePassword = false
  | .self other => principal = other
  | .administrator =>
      principal.mustChangePassword = false ∧ HoldsAdminRole deployment principal
  | .background => False
  | .application => False

/-- A request is entitled by a principal that it was authenticated as. -/
theorem Entitled.exists_principal
    {authority : Authority}
    (entitled :
      Entitled deployment initial client head endpoint labels authority)
    (needed : authority ≠ .anyone) :
    ∃ principal,
      WasAuthenticated deployment initial client head endpoint labels
          principal ∧
        authority.IsOf deployment principal := by
  cases authority with
  | anyone => exact absurd rfl needed
  | account userId => exact entitled
  | principal principal =>
      exact ⟨principal, entitled.1, rfl, entitled.2⟩
  | self principal => exact ⟨principal, entitled, rfl⟩
  | administrator => exact entitled
  | background => exact absurd entitled id
  | application => exact absurd entitled id

/--
Whatever protected transaction a request makes, it was authenticated as a
principal that may, whose session has an origin in the run: on the way to it
every refresh presented both tokens of the session before, and its family was
opened on a credential of that account.
-/
theorem authority_rests_on_credentials
    {before after : WebState Client}
    {tx : ServiceTx}
    {answer : Except Failure tx.Answer}
    (run : ServerRun deployment.server initial labels before)
    (step :
      ServerStep deployment.server before
        (.performed client (.http head endpoint) ⟨.transaction tx, answer⟩)
        after)
    (needed : tx.authority ≠ .anyone)
    (fresh : ∀ id, initial.store.sessions.get? id = none) :
    ∃ principal session,
      WasAuthenticated deployment initial client head endpoint labels
          principal ∧
        tx.authority.IsOf deployment principal ∧
        HasServedOrigin deployment initial session labels ∧
        session.id = principal.sessionId ∧
        session.userId = principal.userId ∧
        session.familyId = principal.familyId ∧
        session.authenticatedAt = principal.authenticatedAt := by
  obtain ⟨trail, permitted, performed, _⟩ :=
    run.permitted deployment.server_conducts step
  have permitted : MayMake deployment head trail tx := permitted
  obtain ⟨principal, authenticated, isOf⟩ :=
    (Entitled.of_shows permitted.shows performed).exists_principal needed
  obtain ⟨session, origin, same⟩ := authenticated.exists_origin fresh
  exact ⟨principal, session, authenticated, isOf, origin, same⟩

/-- An administrator exists, and nobody is signed in. -/
def administratorCreated : World where
  store :=
    (executeAll referenceEnvironment
      [.createAdmin 1 "admin@example.test" "Admin" "password" 0 {}]
      {}).2
  now := 10

/-- The administrator signs in, and asks for the accounts. -/
def administratorScript : List Deployment.Next :=
  [ .asks { origin := some "https://example.test" }
      (.login "admin@example.test" "password" 0
        { sessionId := 2, familyId := 3, refreshToken := "refresh"
          csrfToken := "csrf", tokenId := 4 }),
    .asks administratorRequest (.listUsers 10 0) ]

/-- The list of accounts was asked for with a session that has an origin. -/
theorem authority_rests_on_credentials_listing :
    ∃ (labels : List (WebLabel Nat)) (principal : Principal)
        (session : RefreshSession),
      WasAuthenticated browserDeployment administratorCreated 1
          administratorRequest (.listUsers 10 0) labels principal ∧
        Authority.IsOf browserDeployment principal .administrator ∧
        HasServedOrigin browserDeployment administratorCreated session labels ∧
        session.id = principal.sessionId ∧
        session.userId = principal.userId ∧
        session.familyId = principal.familyId ∧
        session.authenticatedAt = principal.authenticatedAt := by
  obtain ⟨before, after, run, step⟩ :=
    Deployment.exists_step_of_isScript
      (by decide +kernel :
        browserDeployment.isScript true .invalid administratorScript
            administratorCreated [] =
          true)
      (rfl : _ = [_, _, _, _, _, _, _, _] ++ _ :: [_])
  exact ⟨_, authority_rests_on_credentials run step
    (by decide : ServiceTx.authority (.listUsers 10 0) ≠ .anyone) fun _ => rfl⟩

end Runs

end EpokAuth
