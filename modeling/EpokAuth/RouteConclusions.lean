import EpokAuth.LinkRequest
import EpokAuth.RouteConduct
import EpokAuth.SessionGrounds

namespace EpokAuth

open Transactional

/-!
# What a response rests on

A session in a response is one that a transaction of the same request has
answered; a task that a response leaves delivers what a transaction of the same
request has issued.  Nothing else in a response carries a secret.
-/

/-- The notice to send that a committed transaction answers. -/
def ServiceTx.notice : (tx : ServiceTx) → tx.Answer → Option AuthEmail
  | .emailLinkResetPassword .., notice => notice
  | _, _ => none

section Trails

variable (trail : Trail Ask.Answer)

/-- A transaction of a trail has answered something. -/
def HasAnswered
    (reads : (tx : ServiceTx) → tx.Answer → Option α)
    (value : α) :
    Prop :=
  ∃ tx answer,
    (⟨.transaction tx, .ok answer⟩ : Performed Ask.Answer) ∈ trail ∧
      reads tx answer = some value

/-- What a task delivers was issued in a trail. -/
def HasLeft : BackgroundTask → Prop
  | .deliver pending => HasAnswered trail ServiceTx.pendingIn pending
  | .sendNotice notice => HasAnswered trail ServiceTx.notice notice

/-- A response carries the session of a bundle, in its body and two cookies. -/
structure HttpResponse.Carries
    (deployment : Deployment)
    (response : HttpResponse)
    (bundle : SessionBundle) :
    Prop where
  body : response.body = .session (SessionResponse.fromBundle bundle)
  cookies : ∃ more,
    response.cookies =
        [ AuthHttpTransport.cookie deployment.cookies
            deployment.cookies.refreshName (some bundle.refreshToken) true
            deployment.cookies.sameSite,
          AuthHttpTransport.cookie deployment.cookies
            deployment.cookies.csrfName (some bundle.csrfToken)
            deployment.cookies.csrfHttpOnly deployment.cookies.sameSite ] ++
          more ∧
      ∀ cookie ∈ more, cookie.value = none
  uncached : response.cacheDisabled = true

/-- A response without a session sets no cookie but the nonce of a browser. -/
structure HttpResponse.IsPlain
    (deployment : Deployment)
    (response : HttpResponse) :
    Prop where
  body : ∀ session, response.body ≠ .session session
  cookies : ∀ cookie ∈ response.cookies,
    cookie.value = none ∨ cookie.name = deployment.cookies.emailLinkName

/-- A response is backed by the trail of its request. -/
structure HttpResponse.Backed
    (deployment : Deployment)
    (response : HttpResponse) :
    Prop where
  session :
    response.IsPlain deployment ∨
      ∃ bundle,
        HasAnswered trail ServiceTx.bundle bundle ∧
          response.Carries deployment bundle
  tasks : ∀ task ∈ response.background, HasLeft trail task

end Trails

/-! ## Rules -/

section Rules

variable
  {deployment : Deployment}
  {trail : Trail Ask.Answer}
  {normal : α → Trail Ask.Answer → Prop}

/-- What an operation establishes of its trail, whatever it performs. -/
abbrev Operation.Leads
    (operation : Operation α)
    (normal : α → Trail Ask.Answer → Prop)
    (trail : Trail Ask.Answer) :
    Prop :=
  Prog.wp (permitting fun _ _ => True) operation normal (fun _ _ => True) trail

/-- Whatever an operation returns, what follows may establish it. -/
theorem leads_bind
    {operation : Operation β}
    {next : β → Operation α}
    (later : ∀ value longer, (next value).Leads normal longer) :
    (operation >>= next).Leads normal trail := by
  induction operation generalizing trail with
  | done value => exact later value trail
  | fail failure => trivial
  | call effect following inductionHypothesis =>
      exact ⟨trivial, fun answer => inductionHypothesis answer⟩

/-- A check only goes on when it passes. -/
theorem leads_check_bind
    {outcome : Except Failure β}
    {next : β → Operation α}
    (later : ∀ value, outcome = .ok value → (next value).Leads normal trail) :
    (Operation.check outcome >>= next).Leads normal trail := by
  rw [Operation.Leads, Prog.wp_bind, wp_check]
  split
  · exact later _ rfl
  · trivial

theorem leads_clockNow_bind
    {next : Instant → Operation α}
    (later : ∀ now, (next now).Leads normal (trail ++ [⟨.clock, now⟩])) :
    (Operation.clockNow >>= next).Leads normal trail := by
  rw [Operation.Leads, Prog.wp_bind, wp_clockNow]
  exact ⟨trivial, later⟩

theorem leads_transaction_bind
    {tx : ServiceTx}
    {next : tx.Answer → Operation α}
    (later : ∀ answer,
      (next answer).Leads normal
        (trail ++ [⟨.transaction tx, .ok answer⟩])) :
    (Operation.transaction tx >>= next).Leads normal trail := by
  rw [Operation.Leads, Prog.wp_bind, wp_transaction]
  refine ⟨trivial, fun outcome => ?_⟩
  cases outcome with
  | ok answer => exact later answer
  | error failure => trivial

theorem leads_then
    {operation : Operation β}
    {next : β → Operation α}
    (leads :
      operation.Leads (fun value longer => (next value).Leads normal longer)
        trail) :
    (operation >>= next).Leads normal trail := by
  rw [Operation.Leads, Prog.wp_bind]
  exact leads

theorem leads_onConflict
    {operation handler : Operation α}
    (first : operation.Leads normal trail)
    (second : ∀ longer, handler.Leads normal longer) :
    (operation.onConflict handler).Leads normal trail := by
  rw [Operation.Leads, Operation.onConflict, Prog.wp_handle]
  refine Prog.wp_mono (permitting_monotone _) first (fun _ _ holds => holds)
    fun failure longer _ => ?_
  cases failure with
  | storeConflict message => exact second longer
  | _ => trivial

/-- The last transaction of a trail has answered. -/
theorem hasAnswered_last
    {tx : ServiceTx}
    {answer : tx.Answer}
    {reads : (tx : ServiceTx) → tx.Answer → Option β}
    {value : β}
    (answered : reads tx answer = some value) :
    HasAnswered (trail ++ [⟨.transaction tx, .ok answer⟩]) reads value :=
  ⟨tx, answer, by simp, answered⟩

end Rules

/-! ## Sessions -/

section Sessions

variable
  {deps : Dependencies}
  {env : Environment}
  {context : RequestContext}
  {draws : SessionDraws}
  {trail : Trail Ask.Answer}
  {normal : SessionBundle → Trail Ask.Answer → Prop}

theorem AuthService.login_leads
    {email password : String}
    {salt : Nat}
    (later : ∀ bundle longer,
      HasAnswered longer ServiceTx.bundle bundle → normal bundle longer) :
    (AuthService.login deps email password context salt draws).Leads normal
      trail := by
  refine leads_clockNow_bind fun now => leads_transaction_bind fun answer => ?_
  cases answer with
  | ok bundle => exact later bundle _ (hasAnswered_last rfl)
  | error failure => trivial

theorem AuthService.refresh_leads
    {refreshToken csrfCookie csrfHeader : String}
    {origin : Option String}
    (later : ∀ bundle longer,
      HasAnswered longer ServiceTx.bundle bundle → normal bundle longer) :
    (AuthService.refresh deps refreshToken csrfCookie csrfHeader origin context
      draws).Leads normal trail := by
  refine leads_check_bind fun _ _ => leads_check_bind fun _ _ => ?_
  refine leads_clockNow_bind fun now => leads_transaction_bind fun answer => ?_
  cases answer with
  | ok bundle => exact later bundle _ (hasAnswered_last rfl)
  | error failure => trivial

theorem AuthService.changePassword_leads
    {principal : Principal}
    {currentPassword newPassword : String}
    {salts : ChangePasswordSalts}
    (later : ∀ bundle longer,
      HasAnswered longer ServiceTx.bundle bundle → normal bundle longer) :
    (AuthService.changePassword deps principal currentPassword newPassword
      context salts draws).Leads normal trail := by
  refine leads_check_bind fun _ _ => leads_clockNow_bind fun now => ?_
  rw [← bind_pure (Operation.transaction _)]
  exact leads_transaction_bind fun bundle =>
    later bundle _ (hasAnswered_last rfl)

theorem PasskeyService.finishAuthentication_leads
    {ceremonyId : Uuid}
    {credential : CredentialPayload}
    {origin : Option String}
    (later : ∀ bundle longer,
      HasAnswered longer ServiceTx.bundle bundle → normal bundle longer) :
    (PasskeyService.finishAuthentication env ceremonyId credential origin
      context draws).Leads normal trail := by
  refine leads_clockNow_bind fun now => leads_check_bind fun expected _ => ?_
  refine leads_bind fun challenge _ => ?_
  split
  · exact leads_transaction_bind fun _ => trivial
  · refine leads_transaction_bind fun answer => ?_
    cases answer with
    | ok bundle => exact later bundle _ (hasAnswered_last rfl)
    | error failure => trivial

theorem GoogleLoginService.finishLogin_leads
    {challengeId : Uuid}
    {credential : String}
    {origin : Option String}
    {draws : GoogleLoginDraws}
    {retryDraws : SessionDraws}
    (later : ∀ bundle longer,
      HasAnswered longer ServiceTx.bundle bundle → normal bundle longer) :
    (GoogleLoginService.finishLogin deps challengeId credential origin context
      draws retryDraws).Leads normal trail := by
  refine leads_clockNow_bind fun now => leads_bind fun challenge _ =>
    leads_bind fun claims _ => leads_onConflict ?_ fun _ => ?_
  · refine leads_transaction_bind fun answer => ?_
    cases answer with
    | some bundle => exact later bundle _ (hasAnswered_last rfl)
    | none => trivial
  · refine leads_transaction_bind fun answer => ?_
    cases answer with
    | some bundle => exact later bundle _ (hasAnswered_last rfl)
    | none => trivial

theorem EmailLinkService.login_leads
    {token browserNonce : String}
    (later : ∀ bundle longer,
      HasAnswered longer ServiceTx.bundle bundle → normal bundle longer) :
    (EmailLinkService.login token browserNonce context draws).Leads normal
      trail := by
  refine leads_clockNow_bind fun now => leads_transaction_bind fun answer => ?_
  cases answer with
  | some bundle => exact later bundle _ (hasAnswered_last rfl)
  | none => trivial

end Sessions

/-! ## Links and notices -/

section Links

variable
  {deployment : Deployment}
  {deps : Dependencies}
  {context : RequestContext}
  {draws : LinkDraws}
  {trail : Trail Ask.Answer}

/-- The link of an issue, if there is one, was answered by a transaction. -/
def HasIssued (trail : Trail Ask.Answer) (issue : EmailLinkIssue) : Prop :=
  ∀ pending, issue.pending = some pending →
    HasAnswered trail ServiceTx.pendingIn pending

theorem EmailLinkService.requestLogin_leads
    {email drawnNonce : String}
    {browserNonce : Option String}
    {normal : EmailLinkIssue → Trail Ask.Answer → Prop}
    (later : ∀ issue longer, HasIssued longer issue → normal issue longer) :
    (EmailLinkService.requestLogin deps email browserNonce context drawnNonce
      draws).Leads normal trail := by
  refine leads_clockNow_bind fun now => leads_transaction_bind fun issue => ?_
  exact later _ _ fun pending isPending => hasAnswered_last isPending

theorem EmailLinkService.requestPasswordReset_leads
    {email : String}
    {normal : EmailLinkIssue → Trail Ask.Answer → Prop}
    (later : ∀ issue longer, HasIssued longer issue → normal issue longer) :
    (EmailLinkService.requestPasswordReset deps email context draws).Leads
      normal trail := by
  refine leads_clockNow_bind fun now => ?_
  rw [← bind_pure (Operation.transaction _)]
  exact leads_transaction_bind fun issue =>
    later _ _ fun pending isPending => hasAnswered_last isPending

theorem EmailLinkService.invite_leads
    {userId : Uuid}
    {normal : EmailLinkIssue → Trail Ask.Answer → Prop}
    (later : ∀ issue longer, HasIssued longer issue → normal issue longer) :
    (EmailLinkService.invite userId context draws).Leads normal trail := by
  refine leads_clockNow_bind fun now => ?_
  rw [← bind_pure (Operation.transaction _)]
  exact leads_transaction_bind fun issue =>
    later _ _ fun pending isPending => hasAnswered_last isPending

theorem EmailLinkService.resetPassword_leads
    {token newPassword : String}
    {salt : Nat}
    {normal : AuthEmail → Trail Ask.Answer → Prop}
    (later : ∀ notice longer,
      HasAnswered longer ServiceTx.notice notice → normal notice longer) :
    (EmailLinkService.resetPassword deps token newPassword context salt).Leads
      normal trail := by
  refine leads_check_bind fun _ _ => leads_clockNow_bind fun now => ?_
  refine leads_bind fun found _ => ?_
  cases found with
  | false => trivial
  | true =>
      refine leads_check_bind fun passwordHash _ => ?_
      refine leads_transaction_bind fun answer => ?_
      cases answer with
      | none => trivial
      | some notice => exact later notice _ (hasAnswered_last rfl)

/-- Longer trails have answered what they had. -/
theorem HasAnswered.extend
    {longer : Trail Ask.Answer}
    {reads : (tx : ServiceTx) → tx.Answer → Option β}
    {value : β}
    (answered : HasAnswered trail reads value)
    (extends_ : trail <+: longer) :
    HasAnswered longer reads value := by
  obtain ⟨tx, answer, member, reading⟩ := answered
  exact ⟨tx, answer, extends_.subset member, reading⟩

/-- The tasks that a dispatch leaves deliver the link that it was given. -/
theorem dispatchLink_leads
    {pending : Option PendingEmailLink}
    {normal : List BackgroundTask → Trail Ask.Answer → Prop}
    (issued : ∀ link, pending = some link →
      HasAnswered trail ServiceTx.pendingIn link)
    (later : ∀ tasks longer,
      (∀ task ∈ tasks, HasLeft longer task) → normal tasks longer) :
    (dispatchLink deployment pending).Leads normal trail := by
  have nothing : ∀ longer, normal [] longer := by
    intro longer
    exact later [] longer fun task member => absurd member List.not_mem_nil
  cases pending with
  | none => exact nothing trail
  | some pending =>
      change Operation.Leads (if _ then _ else _) _ _
      split
      · refine leads_bind fun accepted _ => ?_
        cases accepted with
        | true => exact nothing _
        | false => exact leads_bind fun _ longer => nothing longer
      · refine later _ trail fun task member => ?_
        obtain rfl := List.mem_singleton.mp member
        exact issued pending rfl

theorem dispatchNotice_leads
    {notice : AuthEmail}
    {normal : List BackgroundTask → Trail Ask.Answer → Prop}
    (answered : HasAnswered trail ServiceTx.notice notice)
    (later : ∀ tasks longer,
      (∀ task ∈ tasks, HasLeft longer task) → normal tasks longer) :
    (dispatchNotice deployment notice).Leads normal trail := by
  have nothing : ∀ longer, normal [] longer := by
    intro longer
    exact later [] longer fun task member => absurd member List.not_mem_nil
  unfold dispatchNotice
  split
  · refine leads_bind fun accepted _ => ?_
    cases accepted with
    | true => exact nothing _
    | false =>
        simp only [Bool.false_eq_true, ↓reduceIte]
        cases notice.userId with
        | none => exact nothing _
        | some userId => exact leads_bind fun _ longer => nothing longer
  · refine later _ trail fun task member => ?_
    obtain rfl := List.mem_singleton.mp member
    exact answered

end Links

/-! ## Routes -/

section Routes

variable
  {deployment : Deployment}
  {request : HttpRequest}
  {trail : Trail Ask.Answer}

/-- An operation returns responses that are backed by its trail. -/
abbrev Backs (deployment : Deployment) (operation : Operation HttpResponse) :
    Prop :=
  operation.Leads (fun response longer => response.Backed longer deployment) []

/-- A response with neither session, nor cookies, nor tasks. -/
theorem backed_bare
    {response : HttpResponse}
    (body : ∀ session, response.body ≠ .session session)
    (cookies : ∀ cookie ∈ response.cookies, cookie.value = none)
    (background : response.background = []) :
    response.Backed trail deployment where
  session := .inl
    { body := body
      cookies := fun cookie member => .inl (cookies cookie member) }
  tasks := by
    intro task member
    rw [background] at member
    cases member

/-- A response with an answered session. -/
theorem backed_session
    {bundle : SessionBundle}
    (answered : HasAnswered trail ServiceTx.bundle bundle) :
    (sessionResponse deployment bundle).Backed trail deployment where
  session := .inr
    ⟨bundle, answered,
      { body := rfl
        cookies := ⟨[], rfl, fun _ member => nomatch member⟩
        uncached := rfl }⟩
  tasks := fun _ member => nomatch member

/-- A response that says no more than that a link was accepted. -/
theorem backed_accepted
    {background : List BackgroundTask}
    (left : ∀ task ∈ background, HasLeft trail task) :
    (linkAccepted background).Backed trail deployment where
  session := .inl
    { body := fun _ same => nomatch same
      cookies := fun _ member => nomatch member }
  tasks := left

namespace Route

theorem login_backs
    {email password : String}
    {salt : Nat}
    {draws : SessionDraws} :
    Backs deployment (login deployment request email password salt draws) :=
  leads_check_bind fun _ _ => leads_then
    (AuthService.login_leads fun _ _ => backed_session)

theorem refresh_backs
    {draws : SessionDraws} :
    Backs deployment (refresh deployment request draws) :=
  leads_then (AuthService.refresh_leads fun _ _ => backed_session)

theorem changePassword_backs
    {currentPassword newPassword : String}
    {salts : ChangePasswordSalts}
    {draws : SessionDraws} :
    Backs deployment
      (changePassword deployment request currentPassword newPassword salts
        draws) :=
  leads_bind fun _ _ => leads_check_bind fun _ _ => leads_then
    (AuthService.changePassword_leads fun _ _ => backed_session)

theorem finishAuthentication_backs
    {ceremonyId : Uuid}
    {credential : CredentialPayload}
    {draws : SessionDraws} :
    Backs deployment
      (finishAuthentication deployment request ceremonyId credential draws) :=
  leads_then
    (PasskeyService.finishAuthentication_leads fun _ _ => backed_session)

theorem finishGoogleLogin_backs
    {challengeId : Uuid}
    {credential : String}
    {draws : GoogleLoginDraws}
    {retryDraws : SessionDraws} :
    Backs deployment
      (finishGoogleLogin deployment request challengeId credential draws
        retryDraws) :=
  leads_then (GoogleLoginService.finishLogin_leads fun _ _ => backed_session)

theorem consumeLogin_backs
    {token : String}
    {draws : SessionDraws} :
    Backs deployment (consumeLogin deployment request token draws) := by
  refine leads_check_bind fun _ _ => leads_check_bind fun _ _ => leads_then
    (EmailLinkService.login_leads fun bundle longer answered => ?_)
  have backed : (sessionResponse deployment bundle).Backed longer deployment :=
    backed_session answered
  exact
    { session := .inr
        ⟨bundle, answered,
          { body := rfl
            cookies := ⟨[_], rfl, fun _ member => by
              obtain rfl := List.mem_singleton.mp member
              rfl⟩
            uncached := rfl }⟩
      tasks := backed.tasks }

theorem requestLogin_backs
    {email drawnNonce : String}
    {draws : LinkDraws} :
    Backs deployment
      (requestLogin deployment request email drawnNonce draws) := by
  refine leads_check_bind fun _ _ => leads_then
    (EmailLinkService.requestLogin_leads fun issue longer issued => ?_)
  refine leads_then (dispatchLink_leads issued fun background last left => ?_)
  cases issue.browserNonce with
  | none => trivial
  | some browserNonce =>
      have backed : (linkAccepted background).Backed last deployment :=
        backed_accepted left
      exact
        { session := .inl
            { body := fun _ same => nomatch same
              cookies := fun _ member => .inr (by
                obtain rfl := List.mem_singleton.mp member
                rfl) }
          tasks := backed.tasks }

theorem requestPasswordReset_backs
    {email : String}
    {draws : LinkDraws} :
    Backs deployment (requestPasswordReset deployment request email draws) :=
  leads_check_bind fun _ _ => leads_then
    (EmailLinkService.requestPasswordReset_leads fun _ _ issued => leads_then
      (dispatchLink_leads issued fun _ _ => backed_accepted))

theorem inviteUser_backs
    {userId : Uuid}
    {draws : LinkDraws} :
    Backs deployment (inviteUser deployment request userId draws) :=
  leads_bind fun _ _ => leads_check_bind fun _ _ => leads_then
    (EmailLinkService.invite_leads fun _ _ issued => leads_then
      (dispatchLink_leads issued fun _ _ => backed_accepted))

theorem consumePasswordReset_backs
    {token newPassword : String}
    {salt : Nat} :
    Backs deployment
      (consumePasswordReset deployment request token newPassword salt) := by
  refine leads_check_bind fun _ _ => leads_check_bind fun _ _ => leads_then
    (EmailLinkService.resetPassword_leads fun notice longer answered => ?_)
  refine leads_then
    (dispatchNotice_leads answered fun background last left => ?_)
  exact
    { session := .inl
        { body := fun _ same => nomatch same
          cookies := fun _ member => nomatch member }
      tasks := left }

theorem logout_backs : Backs deployment (logout deployment request) := by
  refine leads_bind fun _ _ => backed_bare (fun _ same => nomatch same)
    ?_ rfl
  intro cookie member
  rcases List.mem_cons.mp member with rfl | member
  · rfl
  · obtain rfl := List.mem_singleton.mp member
    rfl

end Route

/-- Every route returns responses that are backed by its trail. -/
theorem route_backs (endpoint : Endpoint) :
    Backs deployment (route deployment request endpoint) := by
  have bare :
      ∀ {response : HttpResponse} {longer : Trail Ask.Answer},
        (∀ session, response.body ≠ .session session) →
        response.cookies = [] →
        response.background = [] →
          response.Backed longer deployment := by
    intro response longer body cookies background
    refine backed_bare body ?_ background
    rw [cookies]
    exact fun _ member => nomatch member
  cases endpoint with
  | login => exact Route.login_backs
  | refresh => exact Route.refresh_backs
  | logout => exact Route.logout_backs
  | changePassword => exact Route.changePassword_backs
  | finishAuthentication => exact Route.finishAuthentication_backs
  | finishGoogleLogin => exact Route.finishGoogleLogin_backs
  | consumeLogin => exact Route.consumeLogin_backs
  | requestLogin => exact Route.requestLogin_backs
  | requestPasswordReset => exact Route.requestPasswordReset_backs
  | inviteUser => exact Route.inviteUser_backs
  | consumePasswordReset => exact Route.consumePasswordReset_backs
  | me =>
      exact leads_bind fun _ _ => bare (fun _ same => nomatch same) rfl rfl
  | beginAuthentication =>
      exact leads_bind fun _ _ => bare (fun _ same => nomatch same) rfl rfl
  | beginGoogleLogin =>
      exact leads_bind fun _ _ => bare (fun _ same => nomatch same) rfl rfl
  | activateInvitation =>
      exact leads_bind fun _ _ => leads_bind fun _ _ => leads_bind fun _ _ =>
        bare (fun _ same => nomatch same) rfl rfl
  | _ =>
      exact leads_bind fun _ _ => leads_bind fun _ _ =>
        bare (fun _ same => nomatch same) rfl rfl

end Routes

/-- Every response of a server is backed by what was performed for it. -/
theorem Deployment.server_backs (deployment : Deployment) :
    deployment.server.Conducts (fun _ _ _ => True)
      fun _ response trail => response.Backed trail deployment := by
  intro request
  cases request with
  | http request endpoint => exact route_backs endpoint
  | task task =>
      have bare : ∀ longer : Trail Ask.Answer,
          ({} : HttpResponse).Backed longer deployment := fun longer =>
        backed_bare (fun _ same => nomatch same)
          (fun _ member => nomatch member) rfl
      cases task with
      | deliver pending => exact leads_bind fun _ longer => bare longer
      | sendNotice notice => exact leads_bind fun _ longer => bare longer

end EpokAuth
