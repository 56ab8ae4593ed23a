import EpokAuth.GrantedRoles
import EpokAuth.ServedOrigins

namespace EpokAuth

open Transactional

/-!
# Administrators are made by administrators

A server grants the role of the administrators only to requests of principals
that hold it, and a principal holds it only if its stored account did when the
request looked.  So where nobody holds the role, and the application around the
routes gives it to nobody, nobody ever comes to hold it.
-/

/-- No account of a store holds a role. -/
def NobodyHolds (role : String) (store : Store) : Prop :=
  ∀ userId user, store.users.get? userId = some user → role ∉ user.roles

/-- Only an administrator or the application grants the administrators' role. -/
theorem ServiceTx.Grants.authority
    {deps : Dependencies}
    {tx : ServiceTx}
    (grants : tx.Grants deps deps.settings.adminRole) :
    tx.authority = .administrator ∨ tx.authority = .application := by
  cases tx with
  | createAdmin => exact .inr rfl
  | ensureInitialAdmin => exact .inr rfl
  | createUser => exact .inl rfl
  | provision => exact .inr rfl
  | updateUser => exact .inl rfl
  | googleLogin =>
      -- the settings refuse open sign-ups with the administrators' role
      exact absurd grants.2.symm (deps.settings.openModeGrantsNoAdmin grants.1)
  | _ => exact grants.elim

section Runs

variable
  {Client : Type}
  [DecidableEq Client]
  {deployment : Deployment}
  {initial : World}
  {client : Client}
  {labels : List (WebLabel Client)}
  {finish : WebState Client}

/-- In every shorter run of a server nobody holds the administrators' role. -/
def NobodyBefore
    (deployment : Deployment)
    (initial : World)
    (labels : List (WebLabel Client)) :
    Prop :=
  ∀ earlier (state : WebState Client),
    earlier.length < labels.length →
    ServerRun deployment.server initial earlier state →
      NobodyHolds deployment.settings.adminRole state.state.store

section Quiet

-- the settings normalise the role when they are loaded
variable
  (canonical :
    normalizeCapability deployment.text deployment.settings.adminRole =
      .ok deployment.settings.adminRole)

include canonical

/-- Where nobody held the role, no request was authenticated as a holder. -/
theorem not_entitled_of_nobody
    {head : HttpRequest}
    {endpoint : Endpoint}
    (nobody : NobodyBefore deployment initial labels) :
    ¬ Entitled deployment initial client head endpoint labels
        .administrator := by
  rintro ⟨principal, authenticated, _, role, isRole, holds⟩
  obtain rfl := Except.ok.inj (canonical.symm.trans isRole)
  obtain ⟨_, _, _, user, _, _, _, _, _, looked, _, _, rfl⟩ := authenticated
  obtain ⟨earlier, label, later, before, after, rfl, run, _, _, account, _⟩ :=
    looked
  exact nobody earlier before (by simp) run _ user account holds

/-- Where nobody held the role, requests make nothing that needs it, or more. -/
theorem authority_of_nobody
    {before after : WebState Client}
    {request : Request}
    {tx : ServiceTx}
    {answer : Except Failure tx.Answer}
    (run : ServerRun deployment.server initial labels before)
    (step :
      ServerStep deployment.server before
        (.performed client request ⟨.transaction tx, answer⟩) after)
    (nobody : NobodyBefore deployment initial labels) :
    tx.authority ≠ .administrator ∧ tx.authority ≠ .application := by
  obtain ⟨trail, permitted, performed, _⟩ :=
    run.permitted deployment.server_conducts step
  cases request with
  | task task =>
      have reports : tx.reportsDelivery = true := permitted
      cases tx with
      | markDelivered | markDeliveryFailed | markNoticeDeliveryFailed =>
          exact ⟨Authority.noConfusion, Authority.noConfusion⟩
      | _ => cases reports
  | http head endpoint =>
      have permitted : MayMake deployment head trail tx := permitted
      have shows := permitted.shows
      refine ⟨fun isAdministrator => ?_, fun isApplication => ?_⟩
      · rw [isAdministrator] at shows
        exact not_entitled_of_nobody canonical nobody
          (Entitled.of_shows shows performed)
      · rw [isApplication] at shows
        exact shows

variable
  (quiet : ∀ tx, deployment.applicationMakes tx →
    ¬ tx.Grants deployment.toDependencies deployment.settings.adminRole)

include quiet

/-- No step gives the role to anybody, where nobody held it. -/
theorem nobodyHolds_of_step
    {before after : WebState Client}
    {label : WebLabel Client}
    (run : ServerRun deployment.server initial labels before)
    (step : ServerStep deployment.server before label after)
    (nobody : NobodyBefore deployment initial labels)
    (now : NobodyHolds deployment.settings.adminRole before.state.store) :
    NobodyHolds deployment.settings.adminRole after.state.store := by
  rcases deployment.showing_faithful _ _ _ step with same | made
  · change after.state.store = before.state.store at same
    rw [same]
    exact now
  obtain ⟨⟨tx, answer⟩, shown, made⟩ := made
  intro userId user found holds
  have grants :
      tx.Grants deployment.toDependencies deployment.settings.adminRole := by
    rcases made.roles_granted found holds with ⟨was, held, holder⟩ | grants
    · exact absurd holder (now _ was held)
    · exact grants
  rcases shown with ⟨client, request, rfl⟩ | ⟨_, makes⟩
  · obtain ⟨notAdministrator, notApplication⟩ :=
      authority_of_nobody canonical run step nobody
    rcases grants.authority with isAdministrator | isApplication
    · exact notAdministrator isAdministrator
    · exact notApplication isApplication
  · exact quiet tx makes grants

/-- Nobody holds the role after any run, whatever its length. -/
theorem nobodyHolds_of_run
    (nobody : NobodyHolds deployment.settings.adminRole initial.store)
    (run : ServerRun deployment.server initial labels finish) :
    NobodyHolds deployment.settings.adminRole finish.state.store := by
  -- a look-up happened in a shorter run, so shorter runs come first
  induction size : labels.length using Nat.strong_induction_on
    generalizing labels finish with
  | h size inductionHypothesis =>
      have before : NobodyBefore deployment initial labels := by
        intro earlier state shorter shorterRun
        exact inductionHypothesis earlier.length (size ▸ shorter) shorterRun rfl
      rcases List.eq_nil_or_concat labels with rfl | ⟨earlier, label, rfl⟩
      · cases run
        exact nobody
      · rw [List.concat_eq_append] at run before size
        obtain ⟨state, next, first, step, rest⟩ := run.exists_step
        cases rest
        refine nobodyHolds_of_step canonical quiet first step ?_
          (before earlier state (by simp) first)
        intro shorter other isShorter
        exact before shorter other (isShorter.trans (by simp))

end Quiet

/--
Where nobody holds the administrators' role, and the application gives it to
nobody, nobody comes to hold it, and no request makes a transaction that needs
an administrator.
-/
theorem administrators_made_by_administrators
    (canonical :
      normalizeCapability deployment.text deployment.settings.adminRole =
        .ok deployment.settings.adminRole)
    (quiet : ∀ tx, deployment.applicationMakes tx →
      ¬ tx.Grants deployment.toDependencies deployment.settings.adminRole)
    (nobody : NobodyHolds deployment.settings.adminRole initial.store)
    (run : ServerRun deployment.server initial labels finish) :
    NobodyHolds deployment.settings.adminRole finish.state.store ∧
      ∀ client request tx answer,
        .performed client request ⟨.transaction tx, answer⟩ ∈ labels →
          tx.authority ≠ .administrator := by
  refine ⟨nobodyHolds_of_run canonical quiet nobody run, ?_⟩
  intro client request tx answer member
  obtain ⟨earlier, later, rfl⟩ := List.mem_iff_append.mp member
  obtain ⟨before, after, first, step, _⟩ := run.exists_step
  refine (authority_of_nobody canonical first step ?_).1
  intro shorter state _ shorterRun
  exact nobodyHolds_of_run canonical quiet nobody shorterRun

/-- Somebody without any role has an account. -/
def memberCreated : World where
  store :=
    (executeAll referenceEnvironment
      [.createUser 1 "user@example.test" "User" "password" [] [] false 0 {}]
      {}).2
  now := 10

/-- The member signs in, and asks for the accounts. -/
def memberScript : List Deployment.Next :=
  [ .asks { origin := some "https://example.test" }
      (.login "user@example.test" "password" 0
        { sessionId := 2, familyId := 3, refreshToken := "refresh"
          csrfToken := "csrf", tokenId := 4 }),
    .asks administratorRequest (.listUsers 10 0) ]

/-- The member is no administrator afterwards, and was shown no accounts. -/
theorem administrators_made_by_administrators_member :
    ∃ (labels : List (WebLabel Nat)) (finish : WebState Nat),
      ServerRun browserDeployment.server memberCreated labels finish ∧
      NobodyHolds browserDeployment.settings.adminRole finish.state.store ∧
        ∀ client request tx answer,
          .performed client request ⟨.transaction tx, answer⟩ ∈ labels →
            tx.authority ≠ .administrator := by
  obtain ⟨finish, run, _⟩ :=
    Deployment.exists_run_of_isScript
      (by decide +kernel :
        browserDeployment.isScript true .invalid memberScript memberCreated [] =
          true)
  refine ⟨_, finish, run,
    administrators_made_by_administrators ?_ ?_ ?_ run⟩
  · decide +kernel
  · exact fun _ makes => makes.elim
  · intro userId user found
    have roles :
        ∀ user ∈ memberCreated.store.users.rows, "admin" ∉ user.roles := by
      decide +kernel
    exact roles user (Table.mem_of_get? found)

end Runs

end EpokAuth
