import EpokAuth.LinkGenerations
import EpokAuth.Reauthentication
import EpokAuth.ScriptedRun

namespace EpokAuth

open Transactional

/-!
# Answers that tell nothing about accounts

A login with a password that no account has, and a request for a login or a
password reset link, are answered from what the caller sent alone.  So however
many of them are made, and whatever accounts there are, the answers are the
same.
-/

/-! ## Probes -/

/-- A call that tries to learn something about an account. -/
inductive Probe where
  | login
      (email password : String)
      (now : Instant)
      (context : RequestContext)
      (salt : Nat)
      (draws : SessionDraws)
  | requestLogin
      (email : String)
      (browserNonce : Option String)
      (drawnNonce : String)
      (now : Instant)
      (context : RequestContext)
      (draws : LinkDraws)
  | requestPasswordReset
      (email : String)
      (now : Instant)
      (context : RequestContext)
      (draws : LinkDraws)

/--
What the caller sees of a call.  A login that does not raise inside its
transaction is answered with or without a session, after some verifications.
-/
inductive Observation where
  | login (outcome : Except Failure (Except Failure SessionBundle × Nat))
  | request (answer : Except Failure (Option String))

section Calls

variable (env : Environment)

/-- What a call shows to its caller, and the store it leaves. -/
def Probe.perform : Probe → Store → Observation × Store
  | .login email password now context salt draws, store =>
      let executed :=
        (loginVerifying env.toDependencies
          (normalizeEmailForLogin env.text email) password now context salt
          draws).execute store
      (.login
          (executed.1.map fun (answer, verifications) =>
            (answer, verifications.length)),
        executed.2)
  | .requestLogin email browserNonce drawnNonce now context draws, store =>
      let nonce := loginNonce browserNonce drawnNonce
      let executed :=
        (ServiceTx.requestLogin (normalizeEmailForLogin env.text email) nonce
          now context draws).execute env store
      (.request
          (executed.1.map fun issue : EmailLinkIssue =>
            ({ issue with browserNonce := some nonce } :
              EmailLinkIssue).browserNonce),
        executed.2)
  | .requestPasswordReset email now context draws, store =>
      let executed :=
        (ServiceTx.requestPasswordReset (normalizeEmailForLogin env.text email)
          now context draws).execute env store
      (.request
          (executed.1.map fun issue : EmailLinkIssue => issue.browserNonce),
        executed.2)

/-- The login that is observed is the login of the service. -/
theorem execute_loginVerifying
    (normalizedEmail password : String)
    (now : Instant)
    (context : RequestContext)
    (salt : Nat)
    (draws : SessionDraws)
    (store : Store) :
    (ServiceTx.login normalizedEmail password now context salt draws).execute
        env store =
      (((loginVerifying env.toDependencies normalizedEmail password now
            context salt draws).execute store).1.map Prod.fst,
        ((loginVerifying env.toDependencies normalizedEmail password now
            context salt draws).execute store).2) :=
  Tx.execute_map _ Prod.fst store

/-- What the calls show one after the other. -/
def observations : List Probe → Store → List Observation
  | [], _ => []
  | probe :: rest, store =>
      (probe.perform env store).1 ::
        observations rest (probe.perform env store).2

end Calls

/-- What a call shows whatever accounts there are. -/
def Probe.uniform : Probe → Observation
  | .login .. => .login (.ok (.error (.auth invalidCredentials), 1))
  | .requestLogin _ browserNonce drawnNonce _ _ _ =>
      .request (.ok (some (loginNonce browserNonce drawnNonce)))
  | .requestPasswordReset .. => .request (.ok none)

/-- What is drawn for the link that a call may issue. -/
def Probe.draws : Probe → Option LinkDraws
  | .login .. => none
  | .requestLogin _ _ _ _ _ draws => some draws
  | .requestPasswordReset _ _ _ draws => some draws

/-- No stored account has the password of the call. -/
def Probe.Misses (env : Environment) (store : Store) : Probe → Prop
  | .login _ password _ _ salt _ =>
      ∀ id user, store.users.get? id = some user →
        (env.passwords.verifiedForLogin salt password
          (some user.passwordHash)).valid = false
  | _ => True

/-- No stored link has the identifier or the token that is drawn. -/
def LinkDraws.Unused
    (env : Environment)
    (store : Store)
    (draws : LinkDraws) :
    Prop :=
  ∀ id link, store.links.get? id = some link →
    link.id ≠ draws.linkId ∧
      link.tokenHash ≠ env.toDependencies.tokenHash draws.token

/-- What is drawn for two links differs. -/
def LinkDraws.Differ (env : Environment) (first second : LinkDraws) : Prop :=
  first.linkId ≠ second.linkId ∧
    env.toDependencies.tokenHash first.token ≠
      env.toDependencies.tokenHash second.token

instance (env : Environment) : DecidableRel (LinkDraws.Differ env) :=
  fun first second =>
    inferInstanceAs
      (Decidable
        (first.linkId ≠ second.linkId ∧
          env.toDependencies.tokenHash first.token ≠
            env.toDependencies.tokenHash second.token))

/-- A store in which no call has the password of an account. -/
structure Conceals (env : Environment) (probes : List Probe) (store : Store) :
    Prop where
  unique : UniqueColumns store
  misses : ∀ probe ∈ probes, probe.Misses env store
  unused : ∀ draws ∈ probes.filterMap Probe.draws, draws.Unused env store

/-- Every account still has the password it had. -/
def KeepsHashes (store later : Store) : Prop :=
  ∀ id user, later.users.get? id = some user →
    ∃ earlier,
      store.users.get? id = some earlier ∧
        earlier.passwordHash = user.passwordHash

/-- Every link was stored before, or has what was drawn. -/
def AddsOnly
    (env : Environment)
    (draws : Option LinkDraws)
    (store later : Store) :
    Prop :=
  ∀ id link, later.links.get? id = some link →
    store.links.get? id = some link ∨
      ∃ drawn,
        draws = some drawn ∧ link.id = drawn.linkId ∧
          link.tokenHash = env.toDependencies.tokenHash drawn.token

variable
  {env : Environment}
  {store later : Store}
  {user : UserAccount}
  {now : Instant}
  {context : RequestContext}
  {failed : Failure → Store → Prop}

theorem KeepsHashes.of_users
    (same : later.users = store.users) :
    KeepsHashes store later := by
  intro id user found
  exact ⟨user, same ▸ found, rfl⟩

theorem AddsOnly.of_links
    {draws : Option LinkDraws}
    (same : later.links = store.links) :
    AddsOnly env draws store later :=
  fun _ _ found => .inl (same ▸ found)

/-! ## Logins -/

/-- Counting a failure raises nothing, and changes neither hashes nor links. -/
theorem wp_recordPasswordFailure_conceals
    {settings : AuthSettings}
    {eventType : SecurityEventType}
    {found : Option UserAccount}
    {normal : Unit → Store → Prop}
    (unique : UniqueColumns store)
    (stored :
      ∀ user, found = some user → store.users.get? user.id = some user)
    (returned :
      ∀ later, KeepsHashes store later → later.links = store.links →
        normal () later) :
    Tx.wp (recordPasswordFailure settings eventType found now context) normal
      failed store := by
  cases found with
  | none =>
      simp only [recordPasswordFailure, Option.elim_none, Tx.wp_bind,
        Tx.wp_pure, wp_recordSecurityEvent]
      exact returned _ (.of_users rfl) rfl
  | some user =>
      have account := stored user rfl
      have sameId : (afterPasswordFailure settings user now).id = user.id := by
        simp only [afterPasswordFailure]
        split
        · rfl
        · rfl
      have sameEmail :
          (afterPasswordFailure settings user now).email = user.email := by
        simp only [afterPasswordFailure]
        split
        · rfl
        · rfl
      have sameHash :
          (afterPasswordFailure settings user now).passwordHash =
            user.passwordHash := by
        simp only [afterPasswordFailure]
        split
        · rfl
        · rfl
      have counted :
          ∀ later : Store,
            later.users =
              store.users.put (afterPasswordFailure settings user now) →
            KeepsHashes store later := by
        intro later users id other isStored
        rw [users, Table.get?_put] at isStored
        split at isStored
        · rename_i isUser
          obtain rfl := Option.some.inj isStored
          refine ⟨user, ?_, sameHash.symm⟩
          rw [isUser]
          exact (congrArg store.users.get? sameId).trans account
        · exact ⟨other, isStored, rfl⟩
      simp only [recordPasswordFailure, Option.elim_some, Tx.wp_bind,
        countPasswordFailure, Tx.wp_ite, wp_recordSecurityEvent, Tx.wp_pure,
        Tx.wp_updateUser, sameId, account, Option.isSome_some, ↓reduceIte,
        Tx.wp_revokeUserSessions, unique.emailTaken account sameId sameEmail,
        Bool.false_eq_true]
      split
      · split
        · exact returned _ (counted _ rfl) rfl
        · exact returned _ (counted _ rfl) rfl
      · exact returned _ (.of_users rfl) rfl

/-- A login with no account's password is answered the same for all. -/
theorem wp_loginVerifying_conceals
    {normalizedEmail password : String}
    {salt : Nat}
    {draws : SessionDraws}
    (unique : UniqueColumns store)
    (misses :
      ∀ id user, store.users.get? id = some user →
        (env.passwords.verifiedForLogin salt password
          (some user.passwordHash)).valid = false) :
    Tx.wp
      (loginVerifying env.toDependencies normalizedEmail password now context
        salt draws)
      (fun outcome later =>
        outcome.1 = .error (.auth invalidCredentials) ∧
          outcome.2.length = 1 ∧
          KeepsHashes store later ∧ later.links = store.links)
      failed store := by
  have stored :
      ∀ user,
        store.users.find? (fun user => user.email = normalizedEmail) =
          some user →
        store.users.get? user.id = some user :=
    fun user found => (Table.get?_of_find? found).1
  have invalid :
      ((env.passwords.verifyForLogin salt password
        ((store.users.find? fun user => user.email = normalizedEmail).bind
          fun user =>
            if user.passwordLoginEnabled then some user.passwordHash
            else none)).run []).1.valid = false := by
    cases found : store.users.find? fun user => user.email = normalizedEmail with
    | none => exact PasswordManager.verifiedForLogin_none _ _ _
    | some user =>
        rw [Option.bind_some]
        split
        · exact misses _ user (stored user found)
        · exact PasswordManager.verifiedForLogin_none _ _ _
  simp only [loginVerifying, Tx.wp_bind, Tx.wp_getUserByEmail, invalid,
    Bool.not_false, Bool.or_true, ↓reduceIte]
  refine wp_recordPasswordFailure_conceals unique stored ?_
  intro later hashes links
  rw [Tx.wp_pure]
  exact ⟨rfl, PasswordManager.length_verifyForLogin _ _ _ _, hashes, links⟩

/-! ## Requests -/

/-- A link with unused draws and the next generation is free. -/
theorem not_linkTaken_of_unused
    {purpose : EmailLinkPurpose}
    {browserNonce : Option String}
    {draws : LinkDraws}
    (unused : draws.Unused env store) :
    Store.linkTaken
        (issuedLink env.toDependencies user purpose
          (Store.latestEmailLink user.id purpose store) now browserNonce draws)
        store =
      false := by
  rw [← Bool.not_eq_true, Store.linkTaken, Table.isSome_find?_iff]
  rintro ⟨id, other, found, conflicts⟩
  have free := unused id other found
  rw [Bool.or_eq_true, Bool.or_eq_true, decide_eq_true_eq, decide_eq_true_eq,
    Bool.and_eq_true, Bool.and_eq_true, decide_eq_true_eq, decide_eq_true_eq,
    decide_eq_true_eq] at conflicts
  rcases conflicts with (sameId | sameToken) | ⟨⟨owner, purposed⟩, same⟩
  · exact free.1 sameId
  · exact free.2 sameToken
  · have requested : Store.requestedFor user.id purpose other = true := by
      simpa [Store.requestedFor] using ⟨owner, purposed⟩
    obtain ⟨latest, isLatest, among⟩ := generation_le_latest found requested
    simp only [issuedLink, isLatest] at same
    omega

/-- A request raises nothing, and tells the caller nothing. -/
theorem wp_requestForEmail_conceals
    {normalizedEmail url : String}
    {purpose : EmailLinkPurpose}
    {browserNonce : Option String}
    {draws : LinkDraws}
    (configured : emailLinkUrl env.settings purpose = .ok url)
    (unused : draws.Unused env store) :
    Tx.wp
      (requestForEmail env.toDependencies normalizedEmail purpose browserNonce
        now context draws)
      (fun issue later =>
        issue.browserNonce = none ∧
          later.users = store.users ∧ AddsOnly env (some draws) store later)
      failed store := by
  have retained :
      ∀ {id : Uuid} {link : EmailLink},
        (store.purged env.settings now).links.get? id = some link →
        store.links.get? id = some link :=
    fun found => (Table.get?_reject_eq_some_iff.mp found).1
  have free :=
    fun user =>
      @not_linkTaken_of_unused env (store.purged env.settings now) user now
        purpose browserNonce draws fun id link found =>
          unused id link (retained found)
  simp only [requestForEmail, Tx.wp_bind, Tx.wp_getUserByEmail]
  split
  · rw [Tx.wp_pure]
    exact ⟨rfl, rfl, .of_links rfl⟩
  · rename_i user found
    rw [Tx.wp_ite]
    split
    · simp only [issueLink, Tx.wp_bind, Tx.wp_deleteOldEmailLinks,
        Tx.wp_countEmailLinkRequests, Tx.wp_ite, Tx.wp_pure,
        Tx.wp_getLatestEmailLink, Tx.wp_insertEmailLink]
      split
      · exact
          ⟨trivial, trivial, fun id link isStored =>
            .inl (retained isStored)⟩
      · split
        · rename_i taken
          exact absurd taken (Bool.eq_false_iff.mp (free user))
        · simp only [Tx.wp_bind, wp_recordSecurityEvent, Tx.wp_ofExcept,
            configured, Tx.wp_pure]
          refine ⟨trivial, trivial, ?_⟩
          intro id link isStored
          rw [Table.get?_put] at isStored
          split at isStored
          · obtain rfl := Option.some.inj isStored
            exact .inr ⟨draws, rfl, rfl, rfl⟩
          · exact .inl (retained isStored)
    · rw [Tx.wp_pure]
      exact ⟨rfl, rfl, .of_links rfl⟩

/-! ## One call -/

/-- A call shows the same whatever accounts there are. -/
theorem Probe.perform_uniform
    {probe : Probe}
    {loginUrl resetUrl : String}
    (login : emailLinkUrl env.settings .login = .ok loginUrl)
    (reset : emailLinkUrl env.settings .passwordReset = .ok resetUrl)
    (unique : UniqueColumns store)
    (misses : probe.Misses env store)
    (unused :
      ∀ draws, probe.draws = some draws → draws.Unused env store) :
    (probe.perform env store).1 = probe.uniform ∧
      UniqueColumns (probe.perform env store).2 ∧
      KeepsHashes store (probe.perform env store).2 ∧
      AddsOnly env probe.draws store (probe.perform env store).2 := by
  cases probe with
  | login email password now context salt draws =>
      obtain ⟨⟨answer, verifications⟩, later, executes, refused, once, hashes,
          links⟩ :=
        Tx.execute_returns_of_wp
          (@wp_loginVerifying_conceals env store now context (fun _ _ => False)
            (normalizeEmailForLogin env.text email) password salt draws unique
            misses)
      have performs :
          (Probe.login email password now context salt draws).perform env
              store =
            (.login (.ok (answer, verifications.length)), later) := by
        simp only [perform, executes, Except.map]
      have uniqueLater := @UniqueColumns.execute env store unique <|
        .login (normalizeEmailForLogin env.text email) password now context
          salt draws
      rw [execute_loginVerifying, executes] at uniqueLater
      rw [performs]
      refine ⟨?_, uniqueLater, hashes, .of_links links⟩
      simp only [uniform, ← refused, ← once]
  | requestLogin email browserNonce drawnNonce now context draws =>
      obtain ⟨⟨issue, answered⟩, users, links⟩ :=
        @ServiceTx.outcome_of_wp env
          (.requestLogin (normalizeEmailForLogin env.text email)
            (loginNonce browserNonce drawnNonce) now context draws)
          store
          (fun answer later =>
            (∃ issue, answer = .ok issue) ∧ later.users = store.users ∧
              AddsOnly env (some draws) store later)
          (Tx.wp_mono (wp_requestForEmail_conceals login (unused draws rfl))
            (fun issue _ holds => ⟨⟨issue, rfl⟩, holds.2⟩)
            fun _ _ impossible => impossible)
      refine ⟨?_, unique.execute _, .of_users users, links⟩
      simp only [perform, uniform, answered]
      rfl
  | requestPasswordReset email now context draws =>
      obtain ⟨⟨issue, answered, silent⟩, users, links⟩ :=
        @ServiceTx.outcome_of_wp env
          (.requestPasswordReset (normalizeEmailForLogin env.text email) now
            context draws)
          store
          (fun answer later =>
            (∃ issue : EmailLinkIssue,
                answer = .ok issue ∧ issue.browserNonce = none) ∧
              later.users = store.users ∧
              AddsOnly env (some draws) store later)
          (Tx.wp_mono (wp_requestForEmail_conceals reset (unused draws rfl))
            (fun issue _ holds => ⟨⟨issue, rfl, holds.1⟩, holds.2⟩)
            fun _ _ impossible => impossible)
      refine ⟨?_, unique.execute _, .of_users users, links⟩
      simp only [perform, uniform, answered, Except.map, silent]

/-! ## Any number of calls -/

/-- After a call, the others still have no right password and unused draws. -/
theorem Conceals.next
    {probe : Probe}
    {rest : List Probe}
    (conceals : Conceals env (probe :: rest) store)
    (differ :
      ((probe :: rest).filterMap Probe.draws).Pairwise (LinkDraws.Differ env))
    (unique : UniqueColumns later)
    (hashes : KeepsHashes store later)
    (links : AddsOnly env probe.draws store later) :
    Conceals env rest later where
  unique := unique
  misses := by
    intro other member
    have missed := conceals.misses other (List.mem_cons_of_mem _ member)
    cases other with
    | login email password now context salt draws =>
        intro id user found
        obtain ⟨earlier, present, same⟩ := hashes id user found
        rw [← same]
        exact missed id earlier present
    | requestLogin => trivial
    | requestPasswordReset => trivial
  unused := by
    intro draws member id link found
    have isDrawn : draws ∈ (probe :: rest).filterMap Probe.draws := by
      rw [List.filterMap_cons]
      split
      · exact member
      · exact List.mem_cons_of_mem _ member
    rcases links id link found with present | ⟨drawn, isOwn, sameId, sameToken⟩
    · exact conceals.unused draws isDrawn id link present
    · rw [List.filterMap_cons_some isOwn, List.pairwise_cons] at differ
      obtain ⟨otherId, otherToken⟩ := differ.1 draws member
      rw [sameId, sameToken]
      exact ⟨otherId, otherToken⟩

/-- However many calls are made, each shows the same. -/
theorem observations_uniform
    {probes : List Probe}
    {loginUrl resetUrl : String}
    (login : emailLinkUrl env.settings .login = .ok loginUrl)
    (reset : emailLinkUrl env.settings .passwordReset = .ok resetUrl)
    (differ : (probes.filterMap Probe.draws).Pairwise (LinkDraws.Differ env))
    (conceals : Conceals env probes store) :
    observations env probes store = probes.map Probe.uniform := by
  induction probes generalizing store with
  | nil => rfl
  | cons probe rest inductionHypothesis =>
      have unused :
          ∀ draws, probe.draws = some draws → draws.Unused env store := by
        intro draws isDrawn
        refine conceals.unused draws ?_
        rw [List.filterMap_cons_some isDrawn]
        exact List.mem_cons_self
      obtain ⟨shown, unique, hashes, links⟩ :=
        probe.perform_uniform login reset conceals.unique
          (conceals.misses probe List.mem_cons_self) unused
      have later := conceals.next differ unique hashes links
      have differLater :
          (rest.filterMap Probe.draws).Pairwise (LinkDraws.Differ env) :=
        differ.sublist ((List.sublist_cons_self probe rest).filterMap _)
      rw [observations, List.map_cons, shown,
        inductionHypothesis differLater later]

/--
Calls without the right password show the same over any two stores, and each
shows what no account has a part in.
-/
theorem answers_reveal_nothing
    {env : Environment}
    {probes : List Probe}
    {first second : Store}
    {loginUrl resetUrl : String}
    (login : env.settings.emailLinkLoginUrl = some loginUrl)
    (reset : env.settings.emailLinkPasswordResetUrl = some resetUrl)
    (differ : (probes.filterMap Probe.draws).Pairwise (LinkDraws.Differ env))
    (concealsFirst : Conceals env probes first)
    (concealsSecond : Conceals env probes second) :
    observations env probes first = observations env probes second ∧
      observations env probes first = probes.map Probe.uniform := by
  have loginUrlOk : emailLinkUrl env.settings .login = .ok loginUrl := by
    simp [emailLinkUrl, login]
  have resetUrlOk :
      emailLinkUrl env.settings .passwordReset = .ok resetUrl := by
    simp [emailLinkUrl, reset]
  have shownFirst :=
    observations_uniform loginUrlOk resetUrlOk differ concealsFirst
  have shownSecond :=
    observations_uniform loginUrlOk resetUrlOk differ concealsSecond
  exact ⟨shownFirst.trans shownSecond.symm, shownFirst⟩

/-- An account that may log in with a password or with a link. -/
def probedAccount : UserAccount where
  id := 1
  email := "user@example.test"
  displayName := "User"
  passwordHash := "password"
  emailLinkLoginEnabled := true

/-- A store with one account. -/
def probedStore : Store :=
  { users := (∅ : Table UserAccount).put probedAccount }

/-- A login with a wrong password, and requests for both kinds of link. -/
def probes : List Probe :=
  [ .login "user@example.test" "guess" 0 {} 0
      { sessionId := 1
        familyId := 1
        refreshToken := ""
        csrfToken := ""
        tokenId := 1 },
    .requestLogin "user@example.test" none "nonce" 1 {}
      { linkId := 1, token := "first" },
    .requestPasswordReset "user@example.test" 2 {}
      { linkId := 2, token := "second" } ]

/-- The calls show the same with an account as without one. -/
theorem answers_reveal_nothing_probes :
    observations referenceEnvironment probes {} =
        observations referenceEnvironment probes probedStore ∧
      observations referenceEnvironment probes {} =
        probes.map Probe.uniform := by
  have empty : UniqueColumns {} :=
    { addresses := fun _ _ found => by cases found
      credentials := fun _ _ found => by cases found }
  have account :
      ∀ id user, probedStore.users.get? id = some user →
        user = probedAccount := by
    intro id user found
    change ((∅ : Table UserAccount).put probedAccount).get? id = _ at found
    rw [Table.get?_put, Table.get?_empty] at found
    split at found
    · exact (Option.some.inj found).symm
    · cases found
  refine answers_reveal_nothing rfl rfl (by decide +kernel) ?_ ?_
  · refine ⟨empty, ?_, ?_⟩
    · intro probe member
      cases probe with
      | login => exact fun _ _ found => by cases found
      | requestLogin => trivial
      | requestPasswordReset => trivial
    · exact fun _ _ _ _ found => by cases found
  · refine ⟨?_, ?_, ?_⟩
    · exact
        { addresses := empty.addresses.put fun _ found => by cases found
          credentials := empty.credentials }
    · intro probe member
      cases probe with
      | login email password now context salt draws =>
          intro id user found
          obtain rfl := account id user found
          simp only [probes, List.mem_cons, Probe.login.injEq, reduceCtorEq,
            List.not_mem_nil, or_false] at member
          obtain ⟨_, rfl, _⟩ := member
          rfl
      | requestLogin => trivial
      | requestPasswordReset => trivial
    · exact fun _ _ _ _ found => by cases found

end EpokAuth
