import EpokAuth.OriginChecks
import EpokAuth.RouteConduct
import EpokAuth.ScriptedServer
import EpokAuth.ServiceEffects

namespace EpokAuth

open Transactional

/-!
# Authority and forgery over runs of the server

Other requests go on between the effects of one, so the rows that justified a
transaction may have changed when it is made.  What holds is that they were as
they should be when the same request read them, earlier in the run: the token
was verified then, and the store held an account and a session that let the
principal act.
-/

section Runs

variable
  {Client : Type}
  [DecidableEq Client]

/-- A label of the server of a deployment. -/
abbrev WebLabel (Client : Type) : Type :=
  @Served Client Request Ask Ask.Answer Failure fun _ => HttpResponse

/-- A state of the server of a deployment. -/
abbrev WebState (Client : Type) : Type :=
  Serving Client Request Ask Ask.Answer Failure (fun _ => HttpResponse) World

variable
  (deployment : Deployment)
  (initial : World)
  (client : Client)
  (head : HttpRequest)
  (endpoint : Endpoint)

/-- The client of a request performed an effect in a world of some kind. -/
def PerformedIn
    (labels : List (WebLabel Client))
    (entry : Performed Ask.Answer)
    (world : World → Prop) :
    Prop :=
  Passes (ServerStep deployment.server) (.opened initial)
    (fun _ (before : WebState Client) label =>
      label = .performed client (.http head endpoint) entry ∧
        world before.state)
    labels

/--
A request was found to speak for a principal: it bears a token that the signer
verified, and when it looked, the store held the account and the session that
the token names, both good for its claims at the time that it had read.
-/
def WasAuthenticated
    (labels : List (WebLabel Client))
    (principal : Principal) :
    Prop :=
  ∃ credentials claims now user session,
    head.credentials = some credentials ∧
      deployment.text.casefold credentials.scheme = "bearer" ∧
      PerformedIn deployment initial client head endpoint labels
        ⟨.accessToken credentials.credentials, .ok claims⟩
        (fun world =>
          deployment.verifyAccess world.now credentials.credentials =
            .ok claims) ∧
      PerformedIn deployment initial client head endpoint labels
        ⟨.clock, now⟩ (fun world => world.now = now) ∧
      PerformedIn deployment initial client head endpoint labels
        ⟨.transaction (.authenticate claims), .ok (some user, some session)⟩
        (fun world =>
          world.store.users.get? claims.userId = some user ∧
            world.store.sessions.get? claims.sessionId = some session) ∧
      user.canAuthenticate now = true ∧
      session.isValidFor claims.subject now = true ∧
      principal = principalFromSession user session

/-- A request has the authority that a transaction needs. -/
def Entitled
    (labels : List (WebLabel Client)) :
    Authority → Prop
  | .anyone => True
  | .account userId =>
      ∃ principal,
        WasAuthenticated deployment initial client head endpoint labels
            principal ∧
          principal.mustChangePassword = false ∧ principal.userId = userId
  | .principal principal =>
      WasAuthenticated deployment initial client head endpoint labels
          principal ∧
        principal.mustChangePassword = false
  | .self principal =>
      WasAuthenticated deployment initial client head endpoint labels principal
  | .administrator =>
      ∃ principal,
        WasAuthenticated deployment initial client head endpoint labels
            principal ∧
          principal.mustChangePassword = false ∧
          HoldsAdminRole deployment principal
  | .background => False
  | .application => False

variable
  {deployment initial client head endpoint}
  {labels : List (WebLabel Client)}

/-- What was performed was performed in the world that answered it. -/
theorem PerformedIn.of_performed
    {entry : Performed Ask.Answer}
    {world : World → Prop}
    (performed :
      HasPerformed deployment.server initial client (.http head endpoint) entry
        labels)
    (answers : ∀ before after,
      deployment.Performs entry.effect before entry.answer after →
        world before) :
    PerformedIn deployment initial client head endpoint labels entry world := by
  obtain ⟨earlier, label, later, before, after, split, run, step, rfl⟩ :=
    performed
  exact ⟨earlier, _, later, before, after, split, run, step, rfl,
    answers _ _ step.performs⟩

/-- The two rows that `authenticate` answers are the ones of the store. -/
theorem wp_authenticate
    {claims : AccessClaims}
    {store : Store} :
    Tx.wp (authenticate claims)
      (fun rows _ =>
        rows =
          (store.users.get? claims.userId,
            store.sessions.get? claims.sessionId))
      (fun _ _ => True) store := by
  simp [authenticate]

/-- What a trail shows happened in the run that the trail is from. -/
theorem WasAuthenticated.of_speaksFor
    {trail : Trail Ask.Answer}
    {principal : Principal}
    (speaks : SpeaksFor deployment head trail principal)
    (performed : ∀ entry ∈ trail,
      HasPerformed deployment.server initial client (.http head endpoint) entry
        labels) :
    WasAuthenticated deployment initial client head endpoint labels
      principal := by
  obtain ⟨credentials, claims, now, user, session, shown⟩ := speaks
  refine ⟨credentials, claims, now, user, session, shown.presented,
    shown.bearer, ?_, ?_, ?_, shown.available, shown.valid, shown.speaks⟩
  · refine .of_performed (performed _ shown.verified) fun before after answers => ?_
    generalize isOk : (Except.ok claims : Except Failure AccessClaims) = answer
      at answers
    cases answers with
    | accessToken => rfl
  · refine .of_performed (performed _ shown.read) fun before after answers => ?_
    cases answers with
    | clock => rfl
  · refine .of_performed (performed _ shown.found) fun before after answers => ?_
    cases answers with
    | transaction step =>
        have rows := step.of_wp wp_authenticate
        exact ⟨(Prod.mk.inj rows).1.symm, (Prod.mk.inj rows).2.symm⟩

theorem Entitled.of_shows
    {trail : Trail Ask.Answer}
    {authority : Authority}
    (shows : Shows deployment head trail authority)
    (performed : ∀ entry ∈ trail,
      HasPerformed deployment.server initial client (.http head endpoint) entry
        labels) :
    Entitled deployment initial client head endpoint labels authority := by
  cases authority with
  | anyone => trivial
  | account userId =>
      obtain ⟨principal, speaks, rest⟩ := shows
      exact ⟨principal, .of_speaksFor speaks performed, rest⟩
  | principal principal =>
      exact ⟨.of_speaksFor shows.1 performed, shows.2⟩
  | self principal => exact .of_speaksFor shows performed
  | administrator =>
      obtain ⟨principal, speaks, rest⟩ := shows
      exact ⟨principal, .of_speaksFor speaks performed, rest⟩
  | background => exact shows
  | application => exact shows

/-! ## The theorems -/

/--
Whatever transaction a request makes, it has the authority for it, by what it
performed itself earlier in the run; a background task only reports what became
of an email, and was left by a response.
-/
theorem transactions_entitled
    {before after : WebState Client}
    {request : Request}
    {tx : ServiceTx}
    {answer : Except Failure tx.Answer}
    (run : ServerRun deployment.server initial labels before)
    (step :
      ServerStep deployment.server before
        (.performed client request ⟨.transaction tx, answer⟩) after) :
    match request with
    | .http head endpoint =>
        Entitled deployment initial client head endpoint labels tx.authority
    | .task _ =>
        tx.reportsDelivery = true ∧
          HasSpawned deployment.server initial request labels := by
  obtain ⟨trail, permitted, performed, spawned⟩ :=
    run.permitted deployment.server_conducts step
  cases request with
  | http head endpoint => exact .of_shows permitted.shows performed
  | task task => exact ⟨permitted, spawned trivial⟩

/-- An administrator is signed in. -/
def administratorSignedIn : World where
  store :=
    (executeAll referenceEnvironment
      [ .createAdmin 1 "admin@example.test" "Admin" "password" 0 {},
        .login "admin@example.test" "password" 10 {} 0
          { sessionId := 2, familyId := 3, refreshToken := "refresh"
            csrfToken := "csrf", tokenId := 4 } ]
      {}).2
  now := 20

/-- The administrator's request, with the bearer token of the session. -/
def administratorRequest : HttpRequest where
  credentials := some { scheme := "bearer", credentials := "access" }

/-- An administrator who asks for the accounts is entitled to them. -/
theorem transactions_entitled_listing :
    ∃ labels : List (WebLabel Nat),
      Entitled referenceDeployment administratorSignedIn 0
        administratorRequest (.listUsers 10 0) labels
        (ServiceTx.listUsers 10 0).authority := by
  obtain ⟨before, after, run, step⟩ :=
    Deployment.exists_step_of_isScript
      (by decide :
        referenceDeployment.isScript true .invalid
            [.asks administratorRequest (.listUsers 10 0)]
            administratorSignedIn [] =
          true)
      (rfl : _ = [_, _, _, _] ++ _ :: [_])
  exact ⟨_, transactions_entitled run step⟩

/-- The values of a browser that no other site could have sent. -/
structure NotForged
    (deployment : Deployment)
    (head : HttpRequest)
    (tx : ServiceTx) :
    Prop where
  /-- The origin is a trusted one, unless the settings admit none at all. -/
  origin : tx.anyOrigin = false →
    match head.origin with
    | none => deployment.settings.requireOrigin = false
    | some origin =>
        canonicalOrigin deployment.text origin ∈
          deployment.settings.trustedOrigins
  /-- A cookie authorises nothing unless its companion was sent as a header. -/
  csrf : tx.usesCookie = true →
    ∃ value,
      value ≠ "" ∧ head.csrfCookie = some value ∧ head.csrfHeader = some value
  /-- A link is presented by a browser that is signed in nowhere. -/
  signedOut : tx.presentsLink = true →
    (∀ token, head.refreshToken = some token → token = "") ∧
      ∀ value, head.authorization = some value → value = ""

/-- A pair of CSRF values that passes consists of one value, twice. -/
theorem eq_of_validateCsrfPair
    {cookie header : Option String}
    (passes :
      validateCsrfPair (cookie.getD "") (header.getD "") = .ok ()) :
    ∃ value, value ≠ "" ∧ cookie = some value ∧ header = some value := by
  unfold validateCsrfPair at passes
  split at passes
  · cases passes
  rename_i present
  rw [not_or] at present
  split at passes
  · cases passes
  · cases passes
  · rename_i same
    have same := eq_of_compareDigest same
    cases cookie with
    | none => exact absurd rfl present.1
    | some cookie =>
        cases header with
        | none => exact absurd rfl present.2
        | some header =>
            obtain rfl : cookie = header := same
            exact ⟨cookie, present.1, rfl, rfl⟩

/--
No transaction is made on the strength of what a browser sends by itself: the
origin is trusted, a cookie comes with its companion in a header, and a link is
consumed only where nobody is signed in.
-/
theorem transactions_not_forged
    {before after : WebState Client}
    {tx : ServiceTx}
    {answer : Except Failure tx.Answer}
    (run : ServerRun deployment.server initial labels before)
    (step :
      ServerStep deployment.server before
        (.performed client (.http head endpoint) ⟨.transaction tx, answer⟩)
        after) :
    NotForged deployment head tx := by
  obtain ⟨trail, permitted, -⟩ :=
    run.permitted deployment.server_conducts step
  have permitted : MayMake deployment head trail tx := permitted
  refine
    { origin := fun other => ?_
      csrf := fun uses => eq_of_validateCsrfPair (permitted.csrf uses)
      signedOut := fun presents => ?_ }
  · have trusted := permitted.origin other
    cases stated : head.origin with
    | none =>
        rw [stated, validateOrigin] at trusted
        split at trusted
        · cases trusted
        · rename_i optional
          exact Bool.eq_false_iff.mpr optional
    | some origin =>
        rw [stated, validateOrigin] at trusted
        split at trusted
        · rename_i listed
          exact listed
        · cases trusted
  · have signedOut := permitted.signedOut presents
    unfold requireSignedOut at signedOut
    split at signedOut
    · cases signedOut
    · rename_i nothing
      rw [Bool.not_eq_true, Bool.or_eq_false_iff] at nothing
      constructor
      · intro token stated
        simpa [stated] using nothing.1
      · intro value stated
        simpa [stated] using nothing.2

/-- A deployment that trusts one origin. -/
def browserDeployment : Deployment :=
  { referenceDeployment with
    settings :=
      { referenceEnvironment.settings with
        trustedOrigins := ["https://example.test"] }
    text := asciiUrls }

/-- The request of a browser for a new session. -/
def browserRequest : HttpRequest where
  origin := some "HTTPS://EXAMPLE.TEST/"
  refreshToken := some "refresh"
  csrfCookie := some "csrf"
  csrfHeader := some "csrf"

/-- What is drawn for the new session. -/
def refreshedDraws : SessionDraws where
  sessionId := 5
  familyId := 6
  refreshToken := "next refresh"
  csrfToken := "next csrf"
  tokenId := 7

/-- A browser that sends both values from a trusted origin is refreshed. -/
theorem transactions_not_forged_refreshing :
    NotForged browserDeployment browserRequest
      (.refresh "refresh" "csrf" 20 {} refreshedDraws) := by
  obtain ⟨before, after, run, step⟩ :=
    Deployment.exists_step_of_isScript
      (by decide +kernel :
        browserDeployment.isScript true .invalid
            [.asks browserRequest (.refresh refreshedDraws)]
            administratorSignedIn [] =
          true)
      (rfl : _ = [_, _] ++ _ :: [_])
  exact transactions_not_forged run step

end Runs

end EpokAuth
