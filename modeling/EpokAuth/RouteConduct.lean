import EpokAuth.RouteAuthority

namespace EpokAuth

open Transactional

/-!
# Every route keeps to its permissions

A route is its dependency, and an operation that makes transactions which the
dependency has cleared.  So one lemma for each dependency, and what the
operations make, say that no route makes a transaction without showing the
authority for it first.
-/

/-! ## Rules for the asks of an operation -/

section Rules

variable
  {permits : Trail Ask.Answer → Ask → Prop}
  {failed : Failure → Trail Ask.Answer → Prop}
  {trail : Trail Ask.Answer}

@[simp] theorem wp_ask
    (question : Ask)
    (normal : question.Answer → Trail Ask.Answer → Prop) :
    Prog.wp (permitting permits) (Operation.ask question) normal failed trail =
      (permits trail question ∧
        ∀ answer, normal answer (trail ++ [⟨question, answer⟩])) :=
  rfl

@[simp] theorem wp_clockNow
    (normal : Instant → Trail Ask.Answer → Prop) :
    Prog.wp (permitting permits) Operation.clockNow normal failed trail =
      (permits trail .clock ∧
        ∀ now : Instant, normal now (trail ++ [⟨.clock, now⟩])) :=
  rfl

@[simp] theorem wp_check
    (outcome : Except Failure α)
    (normal : α → Trail Ask.Answer → Prop) :
    Prog.wp (permitting permits) (Operation.check outcome) normal failed
        trail =
      match outcome with
      | .ok value => normal value trail
      | .error failure => failed failure trail := by
  cases outcome <;> rfl

/-- A transaction is permitted, and answered in one way or another. -/
@[simp] theorem wp_transaction
    (tx : ServiceTx)
    (normal : tx.Answer → Trail Ask.Answer → Prop) :
    Prog.wp (permitting permits) (Operation.transaction tx) normal failed
        trail =
      (permits trail (.transaction tx) ∧
        ∀ outcome : Except Failure tx.Answer,
          match outcome with
          | .ok answer =>
              normal answer (trail ++ [⟨.transaction tx, .ok answer⟩])
          | .error failure =>
              failed failure
                (trail ++ [⟨.transaction tx, .error failure⟩])) := by
  refine propext (and_congr Iff.rfl (forall_congr' fun outcome => ?_))
  cases outcome <;> exact Iff.rfl

@[simp] theorem wp_verifyAccess
    (token : String)
    (normal : AccessClaims → Trail Ask.Answer → Prop) :
    Prog.wp (permitting permits) (Operation.verifyAccess token) normal failed
        trail =
      (permits trail (.accessToken token) ∧
        ∀ outcome : Except Failure AccessClaims,
          match outcome with
          | .ok claims =>
              normal claims (trail ++ [⟨.accessToken token, .ok claims⟩])
          | .error failure =>
              failed failure
                (trail ++ [⟨.accessToken token, .error failure⟩])) := by
  refine propext (and_congr Iff.rfl (forall_congr' fun outcome => ?_))
  cases outcome <;> exact Iff.rfl

/-- Whatever an operation performs is permitted. -/
abbrev Operation.Keeps
    (operation : Operation α)
    (permits : Trail Ask.Answer → Ask → Prop)
    (trail : Trail Ask.Answer) :
    Prop :=
  Prog.wp (permitting permits) operation (fun _ _ => True) (fun _ _ => True)
    trail

/-- An operation that makes allowed transactions keeps to what allows them. -/
theorem keeps_of_makes
    {allowed : ServiceTx → Prop}
    {operation : Operation α}
    (makes : operation.Makes allowed)
    (permitted : ∀ longer ask, ask.Within allowed → permits longer ask) :
    operation.Keeps permits trail := by
  induction operation generalizing trail with
  | done value => trivial
  | fail failure => trivial
  | call ask next inductionHypothesis =>
      exact ⟨permitted _ _ makes.1,
        fun answer => inductionHypothesis answer (makes.2 answer)⟩

theorem keeps_check_bind
    {outcome : Except Failure β}
    {next : β → Operation α}
    (later : ∀ value, outcome = .ok value → (next value).Keeps permits trail) :
    (Operation.check outcome >>= next).Keeps permits trail := by
  rw [Operation.Keeps, Prog.wp_bind, wp_check]
  split
  · exact later _ rfl
  · trivial

theorem keeps_clockNow_bind
    {next : Instant → Operation α}
    (permitted : permits trail .clock)
    (later : ∀ now, (next now).Keeps permits (trail ++ [⟨.clock, now⟩])) :
    (Operation.clockNow >>= next).Keeps permits trail := by
  rw [Operation.Keeps, Prog.wp_bind, wp_clockNow]
  exact ⟨permitted, later⟩

theorem keeps_transaction_bind
    {tx : ServiceTx}
    {next : tx.Answer → Operation α}
    (permitted : permits trail (.transaction tx))
    (later : ∀ answer,
      (next answer).Keeps permits
        (trail ++ [⟨.transaction tx, .ok answer⟩])) :
    (Operation.transaction tx >>= next).Keeps permits trail := by
  rw [Operation.Keeps, Prog.wp_bind, wp_transaction]
  refine ⟨permitted, fun outcome => ?_⟩
  cases outcome with
  | ok answer => exact later answer
  | error failure => trivial

/-- After an operation that keeps to it, what follows knows no less. -/
theorem keeps_bind_of_makes
    {allowed : ServiceTx → Prop}
    {operation : Operation β}
    {next : β → Operation α}
    (makes : operation.Makes allowed)
    (permitted : ∀ longer ask, ask.Within allowed → permits longer ask)
    (later : ∀ value longer, trail <+: longer →
      (next value).Keeps permits longer) :
    (operation >>= next).Keeps permits trail := by
  induction operation generalizing trail with
  | done value => exact later value trail (List.prefix_refl trail)
  | fail failure => trivial
  | call ask following inductionHypothesis =>
      refine ⟨permitted _ _ makes.1, fun answer =>
        inductionHypothesis answer (makes.2 answer) fun value longer extends_ =>
          later value longer ((List.prefix_append trail _).trans extends_)⟩

/-- However an operation ends, its trail goes on from where it began. -/
theorem keeps_extends
    {operation : Operation α}
    (keeps : operation.Keeps permits trail) :
    Prog.wp (permitting permits) operation (fun _ longer => trail <+: longer)
      (fun _ longer => trail <+: longer) trail := by
  induction operation generalizing trail with
  | done value => exact List.prefix_refl trail
  | fail failure => exact List.prefix_refl trail
  | call ask next inductionHypothesis =>
      refine ⟨keeps.1, fun answer => ?_⟩
      refine Prog.wp_mono (permitting_monotone _)
        (inductionHypothesis answer (keeps.2 answer)) ?_ ?_
      · exact fun _ _ => (List.prefix_append trail _).trans
      · exact fun _ _ => (List.prefix_append trail _).trans

/-- What a conflict is answered with may rest on what was performed before. -/
theorem keeps_onConflict
    {operation handler : Operation α}
    (first : operation.Keeps permits trail)
    (second : ∀ longer, trail <+: longer → handler.Keeps permits longer) :
    (operation.onConflict handler).Keeps permits trail := by
  rw [Operation.Keeps, Operation.onConflict, Prog.wp_handle]
  refine Prog.wp_mono (permitting_monotone _) (keeps_extends first)
    (fun _ _ _ => trivial) fun failure longer extends_ => ?_
  cases failure with
  | storeConflict message => exact second longer extends_
  | _ => trivial

/-- What a response makes of an answer performs nothing. -/
theorem keeps_map
    {operation : Operation β}
    {respond : β → α}
    (keeps : operation.Keeps permits trail) :
    (operation >>= fun value => pure (respond value)).Keeps permits trail := by
  rw [Operation.Keeps, Prog.wp_bind]
  exact Prog.wp_mono (permitting_monotone _) keeps (fun _ _ _ => trivial)
    (fun _ _ _ => trivial)

end Rules

/-! ## What a dependency finds -/

/-- An accepted access token: the rows that were found speak for it. -/
theorem authenticateResult_ok
    {claims : AccessClaims}
    {now : Instant}
    {rows : Option UserAccount × Option RefreshSession}
    {principal : Principal}
    (accepted : authenticateResult claims now rows = .ok principal) :
    ∃ user session,
      rows = (some user, some session) ∧
        user.canAuthenticate now = true ∧
        session.isValidFor claims.subject now = true ∧
        principal = principalFromSession user session := by
  unfold authenticateResult at accepted
  split at accepted
  · rename_i user session
    split at accepted
    · rename_i both
      rw [Bool.and_eq_true] at both
      obtain rfl := Except.ok.inj accepted
      exact ⟨user, session, rfl, both.1, both.2, rfl⟩
    · cases accepted
  · cases accepted

/-- A principal that passes the check holds the normalised role. -/
theorem holdsAdminRole_of_requireRoles
    {deployment : Deployment}
    {principal : Principal}
    (passes :
      requireRoles deployment.toDependencies principal
          [deployment.settings.adminRole] =
        .ok ()) :
    HoldsAdminRole deployment principal := by
  have allowed : ¬ deployment.settings.maxRoles < [deployment.settings.adminRole].length :=
    Nat.not_lt.mpr deployment.settings.maxRolesRange.1
  simp only [requireRoles, normalizeCapabilities, if_neg allowed,
    normalizeEach] at passes
  cases normal :
      normalizeCapability deployment.text deployment.settings.adminRole with
  | error failure =>
      simp [normal, bind, Except.bind] at passes
  | ok role =>
      refine ⟨role, normal, ?_⟩
      simpa [normal, bind, Except.bind] using passes

/-! ## What a dependency clears -/

section Dependencies

variable
  {deployment : Deployment}
  {request : HttpRequest}
  {endpoint : Endpoint}

/-- A route performs only what is permitted to it. -/
def Permitted
    (deployment : Deployment)
    (request : HttpRequest)
    (endpoint : Endpoint)
    (trail : Trail Ask.Answer)
    (operation : Operation α) :
    Prop :=
  Prog.wp (permitting (deployment.permits (.http request endpoint))) operation
    (fun _ _ => True) (fun _ _ => True) trail

/-- Transactions that need some authorities, and otherwise what was checked. -/
structure ServiceTx.Cleared
    (deployment : Deployment)
    (request : HttpRequest)
    (authorities : Authority → Prop)
    (tx : ServiceTx) :
    Prop where
  authority : authorities tx.authority
  origin : tx.anyOrigin = false →
    validateOrigin deployment.toDependencies request.origin = .ok ()
  signedOut : tx.presentsLink = true → requireSignedOut request = .ok ()
  csrf : tx.usesCookie = true →
    validateCsrfPair (request.csrfCookie.getD "") (request.csrfHeader.getD "") =
      .ok ()

/-- Cleared transactions are permitted to whoever shows their authorities. -/
theorem permitted_of_makes
    {authorities : Authority → Prop}
    {trail : Trail Ask.Answer}
    {operation : Operation α}
    (shown : ∀ authority, authorities authority →
      Shows deployment request trail authority)
    (makes :
      operation.Makes (ServiceTx.Cleared deployment request authorities)) :
    Permitted deployment request endpoint trail operation := by
  refine Operation.wp_of_makes makes fun tx longer cleared extends_ => ?_
  exact
    { shows := (shown _ cleared.authority).extend extends_
      origin := cleared.origin
      signedOut := cleared.signedOut
      csrf := cleared.csrf }

/-- The authorities that need none. -/
def Authority.IsAnyone (authority : Authority) : Prop :=
  authority = .anyone

/-- The authorities of a principal over what is its own. -/
def Authority.IsOwn (principal : Principal) (authority : Authority) : Prop :=
  authority = .anyone ∨ authority = .account principal.userId ∨
    authority = .principal principal

/-- A principal acts for itself. -/
def Authority.IsSelf (principal : Principal) (authority : Authority) : Prop :=
  authority = .self principal

/-- Anyone may act, or an administrator. -/
def Authority.IsAdmin (authority : Authority) : Prop :=
  authority = .anyone ∨ authority = .administrator

/-- A route without a dependency. -/
theorem permitted_anyone
    {operation : Operation α}
    (makes :
      operation.Makes
        (ServiceTx.Cleared deployment request Authority.IsAnyone)) :
    Permitted deployment request endpoint [] operation := by
  refine permitted_of_makes (fun authority isAnyone => ?_) makes
  obtain rfl : authority = .anyone := isAnyone
  trivial

/-- Reading the principal off the credentials makes the request speak for it. -/
theorem permitted_principal
    {later : Principal → Operation α}
    (continues : ∀ principal trail,
      SpeaksFor deployment request trail principal →
        Permitted deployment request endpoint trail (later principal)) :
    Permitted deployment request endpoint []
      (principalFromCredentials deployment request.credentials >>= later) := by
  unfold Permitted principalFromCredentials
  cases presented : request.credentials with
  | none => trivial
  | some credentials =>
      dsimp only
      split
      · trivial
      · rename_i isBearer
        simp only [AuthService.authenticate, bind_assoc]
        rw [Prog.wp_bind, wp_verifyAccess]
        refine ⟨trivial, fun verified => ?_⟩
        cases verified with
        | error failure => trivial
        | ok claims =>
            dsimp only
            rw [Prog.wp_bind, wp_clockNow]
            refine ⟨trivial, fun now => ?_⟩
            rw [Prog.wp_bind, wp_transaction]
            refine ⟨?_, fun rows => ?_⟩
            · exact
                { shows := trivial
                  origin := fun other => nomatch other
                  signedOut := fun other => nomatch other
                  csrf := fun other => nomatch other }
            · cases rows with
              | error failure => trivial
              | ok rows =>
                  dsimp only
                  rw [Prog.wp_bind, wp_check]
                  split
                  · rename_i principal accepted
                    refine continues principal _ ?_
                    obtain ⟨user, session, rfl, available, valid, rfl⟩ :=
                      authenticateResult_ok accepted
                    refine ⟨credentials, claims, now, user, session, ?_⟩
                    exact
                      { presented := presented
                        bearer := not_not.mp isBearer
                        verified := by simp
                        read := by simp
                        found := by simp
                        available := available
                        valid := valid
                        speaks := rfl }
                  · trivial

/-- A principal whose password need not change. -/
theorem permitted_authenticated
    {later : Principal → Operation α}
    (makes : ∀ principal,
      (later principal).Makes
        (ServiceTx.Cleared deployment request (Authority.IsOwn principal))) :
    Permitted deployment request endpoint []
      (authenticated deployment request >>= later) := by
  unfold authenticated
  rw [bind_assoc]
  refine permitted_principal fun principal trail speaks => ?_
  split
  · trivial
  · rename_i settled
    refine permitted_of_makes (fun authority isOwn => ?_) (makes principal)
    have unchanged : principal.mustChangePassword = false :=
      Bool.eq_false_iff.mpr settled
    rcases isOwn with rfl | rfl | rfl
    · trivial
    · exact ⟨principal, speaks, unchanged, rfl⟩
    · exact ⟨speaks, unchanged⟩

/-- A principal whose password may have to change. -/
theorem permitted_currentUser
    {later : Principal → Operation α}
    (makes : ∀ principal,
      (later principal).Makes
        (ServiceTx.Cleared deployment request (Authority.IsSelf principal))) :
    Permitted deployment request endpoint []
      (currentUser deployment request >>= later) := by
  refine permitted_principal fun principal trail speaks => ?_
  refine permitted_of_makes (fun authority isSelf => ?_) (makes principal)
  obtain rfl : authority = .self principal := isSelf
  exact speaks

/-- A principal with the administrative role. -/
theorem permitted_admin
    {later : Principal → Operation α}
    (makes : ∀ principal,
      (later principal).Makes
        (ServiceTx.Cleared deployment request Authority.IsAdmin)) :
    Permitted deployment request endpoint []
      (requireAdmin deployment request >>= later) := by
  unfold requireAdmin authenticated
  simp only [bind_assoc]
  refine permitted_principal fun principal trail speaks => ?_
  split
  · trivial
  · rename_i settled
    unfold Permitted
    rw [Prog.wp_bind, Prog.pure_eq_done, Prog.wp_done, Prog.wp_bind, wp_check]
    split
    · rename_i isAdmin
      have holds := holdsAdminRole_of_requireRoles isAdmin
      rw [pure_bind]
      refine permitted_of_makes (fun authority allowed => ?_) (makes principal)
      rcases allowed with rfl | rfl
      · trivial
      · exact ⟨principal, speaks, Bool.eq_false_iff.mpr settled, holds⟩
    · trivial

end Dependencies

/-! ## Origins -/

/-- The origin that the passkey service trusts, every router trusts. -/
theorem validateOrigin_of_passkey
    {deps : Dependencies}
    {origin : Option String}
    {expectedOrigin : String}
    (trusted : validatePasskeyOrigin deps origin = .ok expectedOrigin) :
    validateOrigin deps origin = .ok () := by
  cases origin with
  | none => cases trusted
  | some origin =>
      simp only [validatePasskeyOrigin] at trusted
      split at trusted
      · rename_i listed
        exact if_pos listed
      · cases trusted

theorem validateOrigin_of_google
    {deps : Dependencies}
    {origin : Option String}
    {expectedOrigin : String}
    (trusted : validateGoogleOrigin deps origin = .ok expectedOrigin) :
    validateOrigin deps origin = .ok () := by
  cases origin with
  | none => cases trusted
  | some origin =>
      simp only [validateGoogleOrigin] at trusted
      split at trusted
      · rename_i listed
        exact if_pos listed
      · cases trusted

/-! ## The routes -/

section Delivery

variable
  {deployment : Deployment}
  {allowed : ServiceTx → Prop}

theorem dispatchLink_makes
    {pending : Option PendingEmailLink}
    (failed : ∀ linkId now, allowed (.markDeliveryFailed linkId now)) :
    (dispatchLink deployment pending).Makes allowed := by
  cases pending with
  | none => exact Operation.makes_done _
  | some pending =>
      change Operation.Makes allowed (if _ then _ else _)
      split
      · refine (Operation.makes_dispatch _).bind fun accepted => ?_
        cases accepted with
        | true => exact Operation.makes_done _
        | false =>
            exact (EmailLinkService.markDeliveryFailed_makes
              (failed pending.linkId)).bind fun _ => Operation.makes_done _
      · exact Operation.makes_done _

theorem dispatchNotice_makes
    {notice : AuthEmail}
    (failed : ∀ userId now, allowed (.markNoticeDeliveryFailed userId now)) :
    (dispatchNotice deployment notice).Makes allowed := by
  unfold dispatchNotice
  split
  · refine (Operation.makes_dispatch _).bind fun accepted => ?_
    cases accepted with
    | true => exact Operation.makes_done _
    | false =>
        simp only [Bool.false_eq_true, ↓reduceIte]
        cases notice.userId with
        | none => exact Operation.makes_done _
        | some userId =>
            exact (EmailLinkService.markNoticeDeliveryFailed_makes
              (failed userId)).bind fun _ => Operation.makes_done _
  · exact Operation.makes_done _

end Delivery

section Routes

variable
  {deployment : Deployment}
  {request : HttpRequest}
  {endpoint : Endpoint}

/-- Neither a link nor a cookie is presented in a transaction. -/
def ServiceTx.IsPlain (tx : ServiceTx) : Prop :=
  tx.presentsLink = false ∧ tx.usesCookie = false

/-- Cleared by a bearer token alone. -/
theorem ServiceTx.Cleared.ofBearer
    {authorities : Authority → Prop}
    {tx : ServiceTx}
    (authority : authorities tx.authority)
    (anyOrigin : tx.anyOrigin = true)
    (plain : tx.IsPlain) :
    tx.Cleared deployment request authorities where
  authority := authority
  origin := fun other => absurd (anyOrigin.symm.trans other) (by decide)
  signedOut := fun other => absurd (plain.1.symm.trans other) (by decide)
  csrf := fun other => absurd (plain.2.symm.trans other) (by decide)

/-- Cleared once the origin was checked. -/
theorem ServiceTx.Cleared.ofOrigin
    {authorities : Authority → Prop}
    {tx : ServiceTx}
    (authority : authorities tx.authority)
    (trusted :
      validateOrigin deployment.toDependencies request.origin = .ok ())
    (plain : tx.IsPlain) :
    tx.Cleared deployment request authorities where
  authority := authority
  origin := fun _ => trusted
  signedOut := fun other => absurd (plain.1.symm.trans other) (by decide)
  csrf := fun other => absurd (plain.2.symm.trans other) (by decide)

/-- Cleared once the browser was found to be signed out, too. -/
theorem ServiceTx.Cleared.ofSignedOut
    {authorities : Authority → Prop}
    {tx : ServiceTx}
    (authority : authorities tx.authority)
    (trusted :
      validateOrigin deployment.toDependencies request.origin = .ok ())
    (signedOut : requireSignedOut request = .ok ())
    (noCookie : tx.usesCookie = false) :
    tx.Cleared deployment request authorities where
  authority := authority
  origin := fun _ => trusted
  signedOut := fun _ => signedOut
  csrf := fun other => absurd (noCookie.symm.trans other) (by decide)

/-- Cleared once the two CSRF values were found to agree, too. -/
theorem ServiceTx.Cleared.ofCookie
    {authorities : Authority → Prop}
    {tx : ServiceTx}
    (authority : authorities tx.authority)
    (trusted :
      validateOrigin deployment.toDependencies request.origin = .ok ())
    (paired :
      validateCsrfPair (request.csrfCookie.getD "")
          (request.csrfHeader.getD "") =
        .ok ())
    (noLink : tx.presentsLink = false) :
    tx.Cleared deployment request authorities where
  authority := authority
  origin := fun _ => trusted
  signedOut := fun other => absurd (noLink.symm.trans other) (by decide)
  csrf := fun _ => paired

namespace Route

/-! ### The authentication router -/

theorem login_permitted
    {email password : String}
    {salt : Nat}
    {draws : SessionDraws} :
    Permitted deployment request endpoint []
      (login deployment request email password salt draws) := by
  refine permitted_anyone ?_
  refine Operation.makes_check_bind fun _ trusted => ?_
  refine Operation.Makes.bind ?_ fun _ => Operation.makes_done _
  exact AuthService.login_makes fun _ _ => .ofOrigin rfl trusted ⟨rfl, rfl⟩

theorem refresh_permitted
    {draws : SessionDraws} :
    Permitted deployment request endpoint []
      (refresh deployment request draws) := by
  refine permitted_anyone ?_
  refine Operation.Makes.bind ?_ fun _ => Operation.makes_done _
  exact AuthService.refresh_makes fun _ trusted paired =>
    .ofCookie rfl trusted paired rfl

theorem logout_permitted :
    Permitted deployment request endpoint [] (logout deployment request) := by
  refine permitted_anyone ?_
  refine Operation.Makes.bind ?_ fun _ => Operation.makes_done _
  exact AuthService.logout_makes fun _ _ trusted paired =>
    .ofCookie rfl trusted paired rfl

theorem me_permitted :
    Permitted deployment request endpoint [] (me deployment request) :=
  permitted_currentUser fun _ => Operation.makes_done _

theorem changePassword_permitted
    {currentPassword newPassword : String}
    {salts : ChangePasswordSalts}
    {draws : SessionDraws} :
    Permitted deployment request endpoint []
      (changePassword deployment request currentPassword newPassword salts
        draws) := by
  refine permitted_currentUser fun principal => ?_
  refine Operation.makes_check_bind fun _ trusted => ?_
  refine Operation.Makes.bind ?_ fun _ => Operation.makes_done _
  exact AuthService.changePassword_makes fun _ => .ofOrigin rfl trusted ⟨rfl, rfl⟩

/-! ### The administration routers -/

theorem listUsers_permitted
    {limit offset : Int} :
    Permitted deployment request endpoint []
      (listUsers deployment request limit offset) := by
  refine permitted_admin fun _ => ?_
  refine Operation.Makes.bind ?_ fun _ => Operation.makes_done _
  exact AuthService.listUsers_makes fun _ _ => .ofBearer (.inr rfl) rfl ⟨rfl, rfl⟩

theorem createUser_permitted
    {email displayName : String}
    {roles : Option (List String)}
    {scopes : List String}
    {googleAutoLinkAllowed : Bool}
    {userId : Uuid}
    {draws : PasswordDraws} :
    Permitted deployment request endpoint []
      (createUser deployment request email displayName roles scopes
        googleAutoLinkAllowed userId draws) := by
  refine permitted_admin fun _ => ?_
  refine Operation.Makes.bind ?_ fun _ => Operation.makes_done _
  exact AuthService.createUser_makes fun _ _ _ _ _ _ _ _ =>
    .ofBearer (.inr rfl) rfl ⟨rfl, rfl⟩

theorem getUser_permitted
    {userId : Uuid} :
    Permitted deployment request endpoint []
      (getUser deployment request userId) := by
  refine permitted_admin fun _ => ?_
  refine Operation.Makes.bind ?_ fun _ => Operation.makes_done _
  exact AuthService.getUser_makes (.ofBearer (.inr rfl) rfl ⟨rfl, rfl⟩)

theorem updateUser_permitted
    {userId : Uuid}
    {update : UserUpdate} :
    Permitted deployment request endpoint []
      (updateUser deployment request userId update) := by
  refine permitted_admin fun _ => ?_
  refine Operation.Makes.bind ?_ fun _ => Operation.makes_done _
  exact AuthService.updateUser_makes fun _ => .ofBearer (.inr rfl) rfl ⟨rfl, rfl⟩

theorem resetPassword_permitted
    {userId : Uuid}
    {draws : PasswordDraws} :
    Permitted deployment request endpoint []
      (resetPassword deployment request userId draws) := by
  refine permitted_admin fun _ => ?_
  refine Operation.Makes.bind ?_ fun _ => Operation.makes_done _
  exact AuthService.resetPassword_makes fun _ _ =>
    .ofBearer (.inr rfl) rfl ⟨rfl, rfl⟩

theorem revokeSessions_permitted
    {userId : Uuid} :
    Permitted deployment request endpoint []
      (revokeSessions deployment request userId) := by
  refine permitted_admin fun _ => ?_
  refine Operation.Makes.bind ?_ fun _ => Operation.makes_done _
  exact AuthService.revokeUserSessions_makes fun _ =>
    .ofBearer (.inr rfl) rfl ⟨rfl, rfl⟩

theorem recoverGoogleAccount_permitted
    {userId : Uuid}
    {draws : PasswordDraws} :
    Permitted deployment request endpoint []
      (recoverGoogleAccount deployment request userId draws) := by
  refine permitted_admin fun _ => ?_
  refine Operation.Makes.bind ?_ fun _ => Operation.makes_done _
  exact GoogleLoginService.recoverPasswordAccess_makes fun _ _ =>
    .ofBearer (.inr rfl) rfl ⟨rfl, rfl⟩

theorem inviteUser_permitted
    {userId : Uuid}
    {draws : LinkDraws} :
    Permitted deployment request endpoint []
      (inviteUser deployment request userId draws) := by
  refine permitted_admin fun _ => ?_
  refine Operation.makes_check_bind fun _ trusted => ?_
  refine (EmailLinkService.invite_makes fun _ =>
    .ofOrigin (.inr rfl) trusted ⟨rfl, rfl⟩).bind fun issue => ?_
  refine Operation.Makes.bind ?_ fun _ => Operation.makes_done _
  exact dispatchLink_makes fun _ _ => .ofOrigin (.inl rfl) trusted ⟨rfl, rfl⟩

/-! ### The passkey router -/

theorem beginRegistration_permitted
    {draws : CeremonyDraws} :
    Permitted deployment request endpoint []
      (beginRegistration deployment request draws) := by
  refine permitted_authenticated fun principal => ?_
  refine Operation.Makes.bind ?_ fun _ => Operation.makes_done _
  exact PasskeyService.beginRegistration_makes fun _ _ trusted =>
    .ofOrigin (.inr (.inr rfl)) (validateOrigin_of_passkey trusted) ⟨rfl, rfl⟩

theorem finishRegistration_permitted
    {ceremonyId passkeyId : Uuid}
    {name : String}
    {credential : CredentialPayload} :
    Permitted deployment request endpoint []
      (finishRegistration deployment request ceremonyId name credential
        passkeyId) := by
  refine permitted_authenticated fun principal => ?_
  refine Operation.Makes.bind ?_ fun _ => Operation.makes_done _
  refine PasskeyService.finishRegistration_makes ?_ ?_ ?_
  · exact fun _ _ trusted =>
      .ofOrigin (.inr (.inl rfl)) (validateOrigin_of_passkey trusted) ⟨rfl, rfl⟩
  · exact fun _ _ trusted =>
      .ofOrigin (.inr (.inl rfl)) (validateOrigin_of_passkey trusted) ⟨rfl, rfl⟩
  · exact fun _ _ _ _ trusted =>
      .ofOrigin (.inr (.inr rfl)) (validateOrigin_of_passkey trusted) ⟨rfl, rfl⟩

theorem beginAuthentication_permitted
    {draws : CeremonyDraws} :
    Permitted deployment request endpoint []
      (beginAuthentication deployment request draws) := by
  refine permitted_anyone ?_
  refine Operation.Makes.bind ?_ fun _ => Operation.makes_done _
  exact PasskeyService.beginAuthentication_makes fun _ _ trusted =>
    .ofOrigin rfl (validateOrigin_of_passkey trusted) ⟨rfl, rfl⟩

theorem finishAuthentication_permitted
    {ceremonyId : Uuid}
    {credential : CredentialPayload}
    {draws : SessionDraws} :
    Permitted deployment request endpoint []
      (finishAuthentication deployment request ceremonyId credential
        draws) := by
  refine permitted_anyone ?_
  refine Operation.Makes.bind ?_ fun _ => Operation.makes_done _
  refine PasskeyService.finishAuthentication_makes ?_ ?_ ?_
  · exact fun _ _ trusted =>
      .ofOrigin rfl (validateOrigin_of_passkey trusted) ⟨rfl, rfl⟩
  · exact fun _ _ trusted =>
      .ofOrigin rfl (validateOrigin_of_passkey trusted) ⟨rfl, rfl⟩
  · exact fun _ _ _ trusted =>
      .ofOrigin rfl (validateOrigin_of_passkey trusted) ⟨rfl, rfl⟩

theorem listPasskeys_permitted :
    Permitted deployment request endpoint []
      (listPasskeys deployment request) := by
  refine permitted_authenticated fun principal => ?_
  refine Operation.Makes.bind ?_ fun _ => Operation.makes_done _
  exact PasskeyService.listPasskeys_makes
    (.ofBearer (.inr (.inr rfl)) rfl ⟨rfl, rfl⟩)

theorem revokePasskey_permitted
    {passkeyId : Uuid} :
    Permitted deployment request endpoint []
      (revokePasskey deployment request passkeyId) := by
  refine permitted_authenticated fun principal => ?_
  refine Operation.Makes.bind ?_ fun _ => Operation.makes_done _
  exact PasskeyService.revokePasskey_makes fun _ _ trusted =>
    .ofOrigin (.inr (.inr rfl)) (validateOrigin_of_passkey trusted) ⟨rfl, rfl⟩

/-! ### The Google router -/

theorem beginGoogleLogin_permitted
    {draws : NonceDraws} :
    Permitted deployment request endpoint []
      (beginGoogleLogin deployment request draws) := by
  refine permitted_anyone ?_
  refine Operation.Makes.bind ?_ fun _ => Operation.makes_done _
  exact GoogleLoginService.beginChallenge_makes fun _ _ _ trusted =>
    .ofOrigin rfl (validateOrigin_of_google trusted) ⟨rfl, rfl⟩

theorem finishGoogleLogin_permitted
    {challengeId : Uuid}
    {credential : String}
    {draws : GoogleLoginDraws}
    {retryDraws : SessionDraws} :
    Permitted deployment request endpoint []
      (finishGoogleLogin deployment request challengeId credential draws
        retryDraws) := by
  refine permitted_anyone ?_
  refine Operation.Makes.bind ?_ fun _ => Operation.makes_done _
  refine GoogleLoginService.finishLogin_makes ?_ ?_ ?_ ?_
  · exact fun _ _ trusted =>
      .ofOrigin rfl (validateOrigin_of_google trusted) ⟨rfl, rfl⟩
  · exact fun _ _ _ trusted =>
      .ofOrigin rfl (validateOrigin_of_google trusted) ⟨rfl, rfl⟩
  · exact fun _ _ _ trusted =>
      .ofOrigin rfl (validateOrigin_of_google trusted) ⟨rfl, rfl⟩
  · exact fun _ _ _ trusted =>
      .ofOrigin rfl (validateOrigin_of_google trusted) ⟨rfl, rfl⟩

theorem beginGoogleLink_permitted
    {draws : NonceDraws} :
    Permitted deployment request endpoint []
      (beginGoogleLink deployment request draws) := by
  refine permitted_authenticated fun principal => ?_
  refine Operation.Makes.bind ?_ fun _ => Operation.makes_done _
  exact GoogleLoginService.beginLink_makes fun _ _ _ trusted =>
    .ofOrigin (.inr (.inl rfl)) (validateOrigin_of_google trusted) ⟨rfl, rfl⟩

theorem finishGoogleLink_permitted
    {challengeId identityId : Uuid}
    {credential : String} :
    Permitted deployment request endpoint []
      (finishGoogleLink deployment request challengeId credential
        identityId) := by
  refine permitted_authenticated fun principal => ?_
  refine Operation.Makes.bind ?_ fun _ => Operation.makes_done _
  refine GoogleLoginService.finishLink_makes ?_ ?_ ?_ ?_
  · exact fun _ _ trusted =>
      .ofOrigin (.inr (.inl rfl)) (validateOrigin_of_google trusted) ⟨rfl, rfl⟩
  · exact fun _ _ _ trusted =>
      .ofOrigin (.inl rfl) (validateOrigin_of_google trusted) ⟨rfl, rfl⟩
  · exact fun _ _ _ trusted =>
      .ofOrigin (.inr (.inr rfl)) (validateOrigin_of_google trusted) ⟨rfl, rfl⟩
  · exact fun _ _ _ trusted =>
      .ofOrigin (.inr (.inr rfl)) (validateOrigin_of_google trusted) ⟨rfl, rfl⟩

/-! ### The email-link router -/

theorem requestLogin_permitted
    {email drawnNonce : String}
    {draws : LinkDraws} :
    Permitted deployment request endpoint []
      (requestLogin deployment request email drawnNonce draws) := by
  refine permitted_anyone ?_
  refine Operation.makes_check_bind fun _ trusted => ?_
  refine (EmailLinkService.requestLogin_makes fun _ _ _ =>
    .ofOrigin rfl trusted ⟨rfl, rfl⟩).bind fun issue => ?_
  refine (dispatchLink_makes fun _ _ =>
    .ofOrigin rfl trusted ⟨rfl, rfl⟩).bind fun background => ?_
  cases issue.browserNonce with
  | none => exact Operation.makes_throw _
  | some browserNonce => exact Operation.makes_done _

theorem consumeLogin_permitted
    {token : String}
    {draws : SessionDraws} :
    Permitted deployment request endpoint []
      (consumeLogin deployment request token draws) := by
  refine permitted_anyone ?_
  refine Operation.makes_check_bind fun _ trusted => ?_
  refine Operation.makes_check_bind fun _ signedOut => ?_
  refine Operation.Makes.bind ?_ fun _ => Operation.makes_done _
  exact EmailLinkService.login_makes fun _ =>
    .ofSignedOut rfl trusted signedOut rfl

theorem requestPasswordReset_permitted
    {email : String}
    {draws : LinkDraws} :
    Permitted deployment request endpoint []
      (requestPasswordReset deployment request email draws) := by
  refine permitted_anyone ?_
  refine Operation.makes_check_bind fun _ trusted => ?_
  refine (EmailLinkService.requestPasswordReset_makes fun _ _ =>
    .ofOrigin rfl trusted ⟨rfl, rfl⟩).bind fun issue => ?_
  refine Operation.Makes.bind ?_ fun _ => Operation.makes_done _
  exact dispatchLink_makes fun _ _ => .ofOrigin rfl trusted ⟨rfl, rfl⟩

theorem consumePasswordReset_permitted
    {token newPassword : String}
    {salt : Nat} :
    Permitted deployment request endpoint []
      (consumePasswordReset deployment request token newPassword salt) := by
  refine permitted_anyone ?_
  refine Operation.makes_check_bind fun _ trusted => ?_
  refine Operation.makes_check_bind fun _ signedOut => ?_
  refine (EmailLinkService.resetPassword_makes
    (.ofSignedOut rfl trusted signedOut rfl) fun _ _ =>
      .ofSignedOut rfl trusted signedOut rfl).bind fun notice => ?_
  refine Operation.Makes.bind ?_ fun _ => Operation.makes_done _
  exact dispatchNotice_makes fun _ _ => .ofOrigin rfl trusted ⟨rfl, rfl⟩

theorem activateInvitation_permitted
    {token : String}
    {draws : PasswordDraws} :
    Permitted deployment request endpoint []
      (activateInvitation deployment request token draws) := by
  refine permitted_anyone ?_
  refine Operation.makes_check_bind fun _ trusted => ?_
  refine Operation.makes_check_bind fun _ signedOut => ?_
  refine Operation.Makes.bind ?_ fun _ => Operation.makes_done _
  exact EmailLinkService.activateInvitation_makes
    (.ofSignedOut rfl trusted signedOut rfl) fun _ _ =>
      .ofSignedOut rfl trusted signedOut rfl

end Route

/-- Every route performs only what is permitted to it. -/
theorem route_permitted :
    Permitted deployment request endpoint []
      (route deployment request endpoint) := by
  cases endpoint with
  | login => exact Route.login_permitted
  | refresh => exact Route.refresh_permitted
  | logout => exact Route.logout_permitted
  | me => exact Route.me_permitted
  | changePassword => exact Route.changePassword_permitted
  | listUsers => exact Route.listUsers_permitted
  | createUser => exact Route.createUser_permitted
  | getUser => exact Route.getUser_permitted
  | updateUser => exact Route.updateUser_permitted
  | resetPassword => exact Route.resetPassword_permitted
  | revokeSessions => exact Route.revokeSessions_permitted
  | recoverGoogleAccount => exact Route.recoverGoogleAccount_permitted
  | inviteUser => exact Route.inviteUser_permitted
  | beginRegistration => exact Route.beginRegistration_permitted
  | finishRegistration => exact Route.finishRegistration_permitted
  | beginAuthentication => exact Route.beginAuthentication_permitted
  | finishAuthentication => exact Route.finishAuthentication_permitted
  | listPasskeys => exact Route.listPasskeys_permitted
  | revokePasskey => exact Route.revokePasskey_permitted
  | beginGoogleLogin => exact Route.beginGoogleLogin_permitted
  | finishGoogleLogin => exact Route.finishGoogleLogin_permitted
  | beginGoogleLink => exact Route.beginGoogleLink_permitted
  | finishGoogleLink => exact Route.finishGoogleLink_permitted
  | requestLogin => exact Route.requestLogin_permitted
  | consumeLogin => exact Route.consumeLogin_permitted
  | requestPasswordReset => exact Route.requestPasswordReset_permitted
  | consumePasswordReset => exact Route.consumePasswordReset_permitted
  | activateInvitation => exact Route.activateInvitation_permitted

end Routes

/-- A background task reports what became of an email, and nothing else. -/
theorem runTask_makes (task : BackgroundTask) :
    (runTask task).Makes fun tx => tx.reportsDelivery = true := by
  cases task with
  | deliver pending =>
      exact (EmailLinkMailer.deliver_makes (fun _ => rfl) fun _ => rfl).bind
        fun _ => Operation.makes_done _
  | sendNotice notice =>
      exact (EmailLinkMailer.sendNotice_makes fun _ _ => rfl).bind
        fun _ => Operation.makes_done _

/-- Whatever a server is asked, it keeps to its permissions. -/
theorem Deployment.server_conducts (deployment : Deployment) :
    deployment.server.Conducts deployment.permits fun _ _ _ => True := by
  intro request
  cases request with
  | http request endpoint => exact route_permitted
  | task task =>
      exact Operation.wp_of_makes (runTask_makes task)
        fun tx longer reports _ => reports

end EpokAuth
