import EpokAuth.LoginTransaction

namespace EpokAuth

open Transactional

/-!
# How a Google login is audited

A login that commits has recorded its success or its failure in the same
transaction.  What raises instead has recorded nothing: an exception that the
verifier lets through, a challenge that belongs to another origin, a password
that cannot be made, and a conflict after which no usable identity is linked.
-/

namespace LoginOutcome

variable
  {outcome : LoginOutcome}
  {before after : Store}

/-- A transaction that recorded nothing and changed none of these tables. -/
structure Untouched (before after : Store) : Prop where
  events : after.events = before.events
  users : after.users = before.users
  identities : after.identities = before.identities
  sessions : after.sessions = before.sessions

theorem Untouched.refl (store : Store) : Untouched store store :=
  ⟨rfl, rfl, rfl, rfl⟩

/-- Such a transaction does not count. -/
theorem auditedOnce_after_iff (untouched : Untouched before after) :
    (outcome.after (before, after)).AuditedOnce ↔ outcome.AuditedOnce := by
  have sameEvents :
      (outcome.after (before, after)).events = outcome.events := by
    change after.events.drop before.events.length ++ outcome.events = _
    rw [untouched.events, List.drop_length, List.nil_append]
  have sameTables :
      (outcome.after (before, after)).LeavesAccounts ↔
        outcome.LeavesAccounts := by
    constructor
    · intro leaves transaction member
      exact leaves transaction (List.mem_cons_of_mem _ member)
    · intro leaves transaction member
      rcases List.mem_cons.mp member with rfl | later
      · exact ⟨untouched.users, untouched.identities, untouched.sessions⟩
      · exact leaves transaction later
  unfold AuditedOnce committed
  rw [sameEvents, sameTables]
  rfl

/-- A recorded success that is returned is audited once. -/
theorem auditedOnce_of_success
    {bundle : SessionBundle}
    (records : RecordsSuccess before after) :
    AuditedOnce
      { transactions := [(before, after)], answer := .ok bundle } := by
  obtain ⟨added, appended, successes, failures⟩ := records
  have events :
      events { transactions := [(before, after)], answer := .ok bundle } =
        added := by
    change after.events.drop before.events.length ++ [] = added
    rw [appended, List.drop_left, List.append_nil]
  unfold AuditedOnce committed
  rw [events]
  exact ⟨successes, failures⟩

/-- A recorded failure that is raised as an error is audited once. -/
theorem auditedOnce_of_failure
    {error : AuthError}
    {now : Instant}
    {context : RequestContext}
    {metadata : Option SecurityMetadata} :
    AuditedOnce
      { transactions := [(before, withFailure before now context metadata)]
        answer := .error (.auth error) } := by
  have events :
      events
        { transactions := [(before, withFailure before now context metadata)]
          answer := .error (.auth error) } =
        [SecurityEvent.fromRequest .googleLoginFailed now context none none
          metadata] := by
    change (before.events ++ _).drop before.events.length ++ [] = _
    rw [List.drop_left, List.append_nil]
  unfold AuditedOnce committed
  rw [events]
  refine ⟨⟨error, rfl⟩, rfl, ?_⟩
  intro transaction member
  obtain rfl := List.mem_singleton.mp member
  exact ⟨rfl, rfl, rfl⟩

/-- What raises without recording anything is not audited. -/
theorem not_auditedOnce_of_nothing
    {failure : Failure}
    {transactions : List (Store × Store)}
    (untouched : ∀ transaction ∈ transactions,
      Untouched transaction.1 transaction.2) :
    ¬ AuditedOnce
      { transactions := transactions, answer := .error failure } := by
  have events :
      events { transactions := transactions, answer := .error failure } = [] := by
    refine List.flatMap_eq_nil_iff.mpr fun transaction member => ?_
    rw [(untouched transaction member).events, List.drop_length]
  unfold AuditedOnce committed
  rw [events]
  rintro ⟨_, recorded, _⟩
  cases recorded

end LoginOutcome

section Call

variable
  {env : Environment}
  {call : GoogleLoginCall}
  {stores : LoginStores}
  {claims : GoogleClaims}
  {conflict : Bool}

/-- What is assumed of the stores that a login with claims meets. -/
structure LoginStores.Regular
    (env : Environment)
    (call : GoogleLoginCall)
    (stores : LoginStores) :
    Prop where
  loginUnique : UniqueRows stores.login
  retryUnique : UniqueRows stores.retry
  loginUnused : call.draws.Unused env.toDependencies stores.login
  retryUnused : call.retryDraws.Unused env.toDependencies stores.retry.sessions

/-- The attempt after a conflict is audited exactly when it succeeds. -/
theorem retryLogin_audited_iff (regular : stores.Regular env call) :
    (retryLogin env call stores claims).AuditedOnce ↔
      retrySucceeds claims call.now stores.retry = true := by
  rcases @loginLinkedAfterConflict_executes env claims call.now call.context
      stores.retry call.retryDraws regular.retryUnique regular.retryUnused with
    ⟨succeeds, bundle, later, executes, records⟩ |
      ⟨fails, answer, executes, refused⟩
  · rw [retryLogin, executes]
    exact ⟨fun _ => succeeds,
      fun _ => LoginOutcome.auditedOnce_of_success records⟩
  · rw [retryLogin, executes]
    dsimp only
    rw [refused, fails]
    refine ⟨fun audited => ?_, fun same => by cases same⟩
    refine absurd audited (LoginOutcome.not_auditedOnce_of_nothing ?_)
    intro transaction member
    obtain rfl := List.mem_singleton.mp member
    exact .refl _

/-- A conflict is audited exactly when the attempt after it succeeds. -/
theorem conflicting_audited_iff (regular : stores.Regular env call) :
    ((retryLogin env call stores claims).after
        (stores.login, stores.login)).AuditedOnce ↔
      retrySucceeds claims call.now stores.retry = true :=
  (LoginOutcome.auditedOnce_after_iff (.refl _)).trans
    (retryLogin_audited_iff regular)

/--
What a branch that inserts needs: the password and the name can be made, and a
conflict is made good by the attempt after it.
-/
def PreparesAccount
    (password displayName : Except Failure String)
    (conflicts retried : Bool) :
    Prop :=
  match password, displayName with
  | .error (.storeConflict _), _ => retried = true
  | .error _, _ => False
  | .ok _, .error (.storeConflict _) => retried = true
  | .ok _, .error _ => False
  | .ok _, .ok _ => conflicts = true → retried = true

/-- What a login with verified claims needs to be audited once. -/
def AuditsLogin
    (env : Environment)
    (call : GoogleLoginCall)
    (stores : LoginStores)
    (claims : GoogleClaims)
    (conflict : Bool) :
    Prop :=
  let password :=
    env.passwords.hash call.draws.salt call.draws.unusablePassword
  let retried := retrySucceeds claims call.now stores.retry
  match loginPath env.settings claims call.now stores.login with
  | .linked _ => True
  | .refused => True
  | .links user =>
      PreparesAccount password (.ok user.displayName)
        (conflict || ownsGoogleIdentity stores.login user.id) retried
  | .creates email =>
      PreparesAccount password (claimedDisplayName claims email) conflict
        retried

/-- What a verdict needs to be audited once. -/
def LoginVerdict.Audits
    (verdict : LoginVerdict)
    (conflicts retried : Bool) :
    Prop :=
  match verdict with
  | .logged => conflicts = true → retried = true
  | .refused => conflicts = true → retried = true
  | .conflicting => retried = true
  | .raised (.storeConflict _) => retried = true
  | .raised _ => False

theorem audits_preparedVerdict_iff
    {password displayName : Except Failure String}
    {owned retried : Bool} :
    (preparedVerdict password displayName
        (if owned then .conflicting else .logged)).Audits conflict retried ↔
      PreparesAccount password displayName (conflict || owned) retried := by
  unfold preparedVerdict PreparesAccount
  cases password with
  | error failure => cases failure <;> exact Iff.rfl
  | ok _ =>
      cases displayName with
      | error failure => cases failure <;> exact Iff.rfl
      | ok _ =>
          cases owned with
          | true =>
              rw [Bool.or_true]
              exact ⟨fun retried _ => retried, fun retried => retried rfl⟩
          | false =>
              rw [Bool.or_false]
              exact Iff.rfl

/-- The verdict on a login says whether it is audited once. -/
theorem audits_loginVerdict_iff :
    (loginVerdict env.toDependencies claims call.now call.draws
        stores.login).Audits
        (conflict &&
          (loginPath env.settings claims call.now stores.login).inserts)
        (retrySucceeds claims call.now stores.retry) ↔
      AuditsLogin env call stores claims conflict := by
  unfold loginVerdict AuditsLogin
  cases loginPath env.settings claims call.now stores.login with
  | linked identity =>
      dsimp only [LoginPath.inserts]
      rw [Bool.and_false]
      refine iff_of_true ?_ trivial
      split <;> exact fun same => by cases same
  | refused =>
      dsimp only [LoginPath.inserts]
      rw [Bool.and_false]
      exact iff_of_true (fun same => by cases same) trivial
  | links user =>
      dsimp only [LoginPath.inserts]
      rw [Bool.and_true]
      exact audits_preparedVerdict_iff
  | creates email =>
      dsimp only [LoginPath.inserts]
      rw [Bool.and_true]
      have general := @audits_preparedVerdict_iff conflict
        (env.passwords.hash call.draws.salt call.draws.unusablePassword)
        (claimedDisplayName claims email) false
        (retrySucceeds claims call.now stores.retry)
      rw [Bool.or_false] at general
      exact general

/-- A login with verified claims is audited once exactly when it may be. -/
theorem loginVerified_audited_iff (regular : stores.Regular env call) :
    (loginVerified env call stores claims conflict).AuditedOnce ↔
      AuditsLogin env call stores claims conflict := by
  have executes :=
    @googleLogin_executes env claims call.now call.context stores.login
      call.draws regular.loginUnique regular.loginUnused
  have retried := @conflicting_audited_iff env call stores claims regular
  rw [← audits_loginVerdict_iff]
  unfold loginVerified
  cases verdict : loginVerdict env.toDependencies claims call.now call.draws
      stores.login with
  | logged =>
      rw [verdict] at executes
      obtain ⟨bundle, later, outcome, records⟩ := executes
      rw [outcome]
      dsimp only
      split
      · rename_i meets
        rw [meets]
        exact retried.trans ⟨fun holds _ => holds, fun holds => holds rfl⟩
      · rename_i alone
        rw [Bool.not_eq_true] at alone
        rw [alone]
        exact iff_of_true (LoginOutcome.auditedOnce_of_success records)
          fun same => by cases same
  | refused =>
      rw [verdict] at executes
      have outcome : _ = (_, _) := executes
      rw [outcome]
      dsimp only
      split
      · rename_i meets
        rw [meets]
        exact retried.trans ⟨fun holds _ => holds, fun holds => holds rfl⟩
      · rename_i alone
        rw [Bool.not_eq_true] at alone
        rw [alone]
        exact iff_of_true LoginOutcome.auditedOnce_of_failure
          fun same => by cases same
  | conflicting =>
      rw [verdict] at executes
      obtain ⟨message, outcome⟩ := executes
      rw [outcome]
      exact retried
  | raised failure =>
      rw [verdict] at executes
      have outcome : _ = (_, _) := executes
      rw [outcome]
      have nothing : ¬ LoginOutcome.AuditedOnce
          { transactions := [(stores.login, stores.login)]
            answer := .error failure } := by
        refine LoginOutcome.not_auditedOnce_of_nothing ?_
        intro transaction member
        obtain rfl := List.mem_singleton.mp member
        exact .refl _
      cases failure with
      | storeConflict message => exact retried
      | auth error => exact iff_of_false nothing id
      | keyError => exact iff_of_false nothing id
      | typeError => exact iff_of_false nothing id
      | valueError message => exact iff_of_false nothing id
      | runtimeError message => exact iff_of_false nothing id

/-- Recording a failed verification is one event. -/
theorem verificationFailure_executes
    {store : Store}
    {providerUnavailable : Bool} :
    (ServiceTx.verificationFailure false providerUnavailable call.failedAt
        call.context).execute env store =
      (.ok (), withFailure store call.failedAt call.context
        (if providerUnavailable then
          some [("provider_unavailable", .flag true)]
        else
          none)) :=
  rfl

/-- The part of a call behind its challenge. -/
theorem loginWithChallenge_audited_iff
    {challenge : GoogleChallenge}
    (regular : stores.Regular env call) :
    (loginWithChallenge env call stores challenge conflict).AuditedOnce ↔
      (∀ payload, call.decoding = .payload payload → call.credential ≠ "" →
        call.credential.length ≤ env.settings.googleMaxCredentialChars →
          ¬ Uncheckable payload challenge.nonce) ∧
        ∀ claims,
          verifyCredential env.text env.settings call.credential
              challenge.nonce call.decoding = .accepted claims →
            AuditsLogin env call stores claims conflict := by
  have escapes := fun failure =>
    @verifyCredential_escapes_iff challenge.nonce failure env.text env.settings
      call.credential call.decoding
  unfold loginWithChallenge
  cases verdict : verifyCredential env.text env.settings call.credential
      challenge.nonce call.decoding with
  | accepted claims =>
      dsimp only
      rw [loginVerified_audited_iff regular]
      constructor
      · intro audits
        refine ⟨?_, fun other same => ?_⟩
        · intro payload decoded present short uncheckable
          have escaped := (escapes .typeError).mpr
            ⟨rfl, present, short, payload, decoded, uncheckable⟩
          cases verdict.symm.trans escaped
        · cases same
          exact audits
      · rintro ⟨_, audits⟩
        exact audits claims rfl
  | refused failure providerUnavailable =>
      obtain ⟨error, rfl⟩ := verifyCredential_refused verdict
      dsimp only
      rw [verificationFailure_executes]
      refine iff_of_true LoginOutcome.auditedOnce_of_failure ⟨?_, ?_⟩
      · intro payload decoded present short uncheckable
        have escaped := (escapes .typeError).mpr
          ⟨rfl, present, short, payload, decoded, uncheckable⟩
        cases verdict.symm.trans escaped
      · intro claims same
        cases same
  | escaped failure =>
      refine iff_of_false
        (LoginOutcome.not_auditedOnce_of_nothing
          fun transaction member => by cases member) ?_
      rintro ⟨checkable, _⟩
      obtain ⟨_, present, short, payload, decoded, uncheckable⟩ :=
        (escapes failure).mp verdict
      exact checkable payload decoded present short uncheckable

/-- Consuming a challenge touches no other table. -/
theorem consumption_untouched :
    LoginOutcome.Untouched stores.consumption
      (consumption env call stores).2 := by
  have holds :
      Tx.wp
        ((ServiceTx.consumeGoogleChallenge call.challengeId .login
          call.consumedAt none).body env)
        (fun _ later => LoginOutcome.Untouched stores.consumption later)
        (fun _ _ => True) stores.consumption := by
    simp only [ServiceTx.body, consumeGoogleChallenge,
      Tx.wp_consumeGoogleChallenge]
    split
    · exact .refl _
    · exact ⟨rfl, rfl, rfl, rfl⟩
  rcases ServiceTx.execute_of_wp holds with
    ⟨answer, later, executes, untouched⟩ | ⟨failure, executes⟩
  · rw [consumption, executes]
    exact untouched
  · rw [consumption, executes]
    exact .refl _

/-- What a call with a consumed challenge needs to be audited once. -/
structure AuditsCall
    (env : Environment)
    (clientId : String)
    (call : GoogleLoginCall)
    (stores : LoginStores)
    (challenge : GoogleChallenge)
    (conflict : Bool) :
    Prop where
  origin :
    validateGoogleOrigin env.toDependencies call.origin = .ok challenge.origin
  client : challenge.clientId = clientId
  checkable : ∀ payload,
    call.decoding = .payload payload → call.credential ≠ "" →
    call.credential.length ≤ env.settings.googleMaxCredentialChars →
      ¬ Uncheckable payload challenge.nonce
  login : ∀ claims,
    verifyCredential env.text env.settings call.credential challenge.nonce
        call.decoding = .accepted claims →
      AuditsLogin env call stores claims conflict

end Call

/-! ## Three calls -/

/-- The reference environment in the open mode, with one trusted origin. -/
def googleEnvironment : Environment :=
  { referenceEnvironment with
    settings :=
      { referenceEnvironment.settings with
        googleAccountMode := .open_
        trustedOrigins := ["https://example.test"]
        openModeGrantsNoAdmin := fun _ => by decide }
    text :=
      { plainText with
        urlsplit := fun _ =>
          some
            { scheme := "https"
              netloc := "example.test"
              hostname := some "example.test"
              port := some none
              username := none
              password := none
              path := ""
              query := ""
              fragment := "" } } }

/-- A challenge for a login. -/
def loginChallenge : GoogleChallenge where
  id := 1
  purpose := .login
  nonce := "nonce"
  origin := "https://example.test"
  clientId := "client"
  createdAt := 0
  expiresAt := seconds 300

/-- Only that challenge is stored. -/
def openChallenge : Store :=
  { googleChallenges := (∅ : Table GoogleChallenge).put loginChallenge }

/-- A payload for a new account, with the nonce it was issued for. -/
def loginPayload (nonce : String) : Payload :=
  [ ("iss", .text "https://accounts.google.com"),
    ("sub", .text "subject"),
    ("email", .text "user@gmail.com"),
    ("email_verified", .boolean true),
    ("nonce", .text nonce) ]

/-- A login with a payload that was issued for a nonce. -/
def loginCall (nonce : String) : GoogleLoginCall where
  challengeId := 1
  credential := "credential"
  origin := some "https://example.test"
  context := emptyContext
  decoding := .payload (loginPayload nonce)
  now := 0
  consumedAt := 0
  failedAt := 0
  draws :=
    { unusablePassword := "unusable"
      salt := 0
      userId := 2
      identityId := 3
      session :=
        { sessionId := 4
          familyId := 5
          refreshToken := "refresh"
          csrfToken := "csrf"
          tokenId := 6 } }
  retryDraws :=
    { sessionId := 7
      familyId := 8
      refreshToken := "another"
      csrfToken := "other"
      tokenId := 9 }

/-- Each transaction of the login meets the same store. -/
def loginStores : LoginStores where
  consumption := openChallenge
  failure := openChallenge
  login := openChallenge
  retry := openChallenge

theorem uniqueRows_openChallenge : UniqueRows openChallenge where
  emails := by
    intro user other found
    cases found
  identities := by
    intro identity other found
    cases found

theorem unused_openChallenge
    {deps : Dependencies}
    {draws : SessionDraws} :
    draws.Unused deps openChallenge.sessions where
  absent := rfl
  unseen := by
    intro id session found
    cases found
  unreferenced := by
    intro id session found
    cases found

theorem regular_loginStores (nonce : String) :
    loginStores.Regular googleEnvironment (loginCall nonce) where
  loginUnique := uniqueRows_openChallenge
  retryUnique := uniqueRows_openChallenge
  loginUnused :=
    { user := rfl
      identity := rfl
      unowned := rfl
      session := unused_openChallenge }
  retryUnused := unused_openChallenge

/-- The claims of that payload, once they are validated. -/
def loginClaims : GoogleClaims where
  issuer := googleIssuer
  subject := "subject"
  email := some "user@gmail.com"
  emailVerified := true

end EpokAuth
