import EpokAuth.GoogleLogin

namespace EpokAuth

open Transactional

/-!
# What one login transaction does

A login alone in a store is decided by what it finds there: it logs in and
records its success, records its failure and changes nothing else, or raises
and is rolled back.
-/

section Transactions

variable
  {env : Environment}
  {deps : Dependencies}
  {claims : GoogleClaims}
  {now : Instant}
  {context : RequestContext}
  {store : Store}
  {failed : Failure → Store → Prop}

/-! ## What a login records -/

/-- The events added to a store contain one success and no failure. -/
def RecordsSuccess (before after : Store) : Prop :=
  ∃ added, after.events = before.events ++ added ∧
    (added.countP fun event => event.eventType = .googleLoginSucceeded) = 1 ∧
    (added.countP fun event => event.eventType = .googleLoginFailed) = 0

/-- Events of other types do not count. -/
theorem RecordsSuccess.of_append
    {middle after : Store}
    {event : SecurityEvent}
    (records : RecordsSuccess middle after)
    (appended : middle.events = store.events ++ [event])
    (succeeded : event.eventType ≠ .googleLoginSucceeded)
    (refused : event.eventType ≠ .googleLoginFailed) :
    RecordsSuccess store after := by
  obtain ⟨added, same, successes, failures⟩ := records
  refine ⟨event :: added, ?_, ?_, ?_⟩
  · rw [same, appended, List.append_assoc, List.singleton_append]
  · rw [List.countP_cons_of_neg (by simpa using succeeded)]
    exact successes
  · rw [List.countP_cons_of_neg (by simpa using refused)]
    exact failures

/-- The values of a stored identity are taken by no other. -/
theorem UniqueRows.notTaken
    {identity : ExternalIdentity}
    (unique : UniqueRows store)
    (stored : store.identities.get? identity.id = some identity) :
    Store.identityTaken identity store = false := by
  rw [← Bool.not_eq_true, Store.identityTaken, Table.isSome_find?_iff]
  rintro ⟨id, other, held, conflicts⟩
  obtain rfl : other.id = id := Table.key_of_get? held
  simp only [ne_eq, Bool.and_eq_true, Bool.or_eq_true] at conflicts
  refine of_decide_eq_true conflicts.1 ?_
  rcases conflicts.2 with ⟨issued, named⟩ | ⟨owned, issued⟩
  · exact unique.identities other identity held stored
      (of_decide_eq_true issued) (.inl (of_decide_eq_true named))
  · exact unique.identities other identity held stored
      (of_decide_eq_true issued) (.inr (of_decide_eq_true owned))

/-- Logging into an identity opens a session, or finds no usable account. -/
theorem wp_loginLinked_answers
    {identity : ExternalIdentity}
    {draws : SessionDraws}
    {normal : Option SessionBundle → Store → Prop}
    (stored : store.identities.get? identity.id = some identity)
    (single : Store.identityTaken identity store = false)
    (unused : draws.Unused deps store.sessions)
    (refused : ownerAvailable store identity now = false → normal none store)
    (logged :
      ownerAvailable store identity now = true →
        ∀ bundle later, RecordsSuccess store later → normal (some bundle) later) :
    Tx.wp (loginLinked deps identity claims now context draws) normal failed
      store := by
  simp only [loginLinked, Tx.wp_bind, Tx.wp_getUserById]
  cases account : store.users.get? identity.userId with
  | none =>
      exact refused (by rw [ownerAvailable, account]; rfl)
  | some user =>
      simp only [Tx.wp_ite, Tx.wp_pure, Tx.wp_bind,
        Tx.wp_updateExternalIdentity]
      split
      · rename_i available
        have present :
            (store.identities.get? (loggedIdentity identity claims now).id).isSome =
              true := by
          change (store.identities.get? identity.id).isSome = true
          rw [stored]
          rfl
        have free :
            ¬ Store.identityTaken (loggedIdentity identity claims now) store =
              true :=
          Bool.eq_false_iff.mp single
        rw [if_pos present, if_neg free, wp_issue_session]
        dsimp only
        rw [if_neg (Bool.eq_false_iff.mp (@SessionDraws.Unused.not_taken deps now draws
          { store with
            identities := store.identities.put
              (loggedIdentity identity claims now) } unused _ _))]
        simp only [Tx.wp_bind, wp_recordSecurityEvent, Tx.wp_pure]
        refine logged (by rw [ownerAvailable, account]; exact available) _ _ ?_
        exact ⟨_, List.append_assoc _ _ _, rfl, rfl⟩
      · rename_i unavailable
        refine refused ?_
        rw [ownerAvailable, account]
        exact Bool.eq_false_iff.mpr unavailable

/-! ## Inserting an identity -/

/-- No stored identity has the subject of the claims. -/
def Unlinked (store : Store) (claims : GoogleClaims) : Prop :=
  (store.identities.find? fun identity =>
    identity.issuer = googleIssuer && identity.subject = claims.subject) = none

/-- An unlinked subject only collides with another identity of the account. -/
theorem identityTaken_claimed
    {identityId userId : Uuid}
    (unlinked : Unlinked store claims)
    (absent : store.identities.get? identityId = none) :
    Store.identityTaken (claimedIdentity identityId userId claims now) store =
      ownsGoogleIdentity store userId := by
  rw [Bool.eq_iff_iff, Store.identityTaken, ownsGoogleIdentity,
    Table.isSome_find?_iff, Table.isSome_find?_iff]
  constructor
  · rintro ⟨id, other, found, conflicts⟩
    have noSubject := Table.find?_eq_none_iff.mp unlinked id other found
    simp only [claimedIdentity, ne_eq, Bool.and_eq_true, Bool.or_eq_true] at conflicts
    rcases conflicts.2 with ⟨issued, named⟩ | owned
    · simp [of_decide_eq_true issued, of_decide_eq_true named] at noSubject
    · exact ⟨id, other, found, Bool.and_eq_true_iff.mpr owned⟩
  · rintro ⟨id, other, found, owned⟩
    have apart : other.id ≠ identityId := by
      rintro same
      have key : other.id = id := Table.key_of_get? found
      rw [← key, same, absent] at found
      cases found
    rw [Bool.and_eq_true] at owned
    refine ⟨id, other, found, ?_⟩
    simp [claimedIdentity, apart, of_decide_eq_true owned.1,
      of_decide_eq_true owned.2]

/-- Storing an identity does not make its own values taken. -/
theorem identityTaken_put
    {identity : ExternalIdentity}
    {events : List SecurityEvent}
    (free : Store.identityTaken identity store = false) :
    Store.identityTaken identity
      { store with
        identities := store.identities.put identity
        events := events } = false := by
  rw [← Bool.not_eq_true, Store.identityTaken, Table.isSome_find?_iff] at free ⊢
  rintro ⟨id, other, found, conflicts⟩
  rw [Table.get?_put] at found
  split at found
  · obtain rfl := Option.some.inj found
    simp at conflicts
  · exact free ⟨id, other, found, conflicts⟩

/-- Inserting an identity for a usable account logs in, or meets a conflict. -/
theorem wp_insertIdentityAndLogin_answers
    {user : UserAccount}
    {draws : GoogleLoginDraws}
    {normal : SessionBundle → Store → Prop}
    (account : store.users.get? user.id = some user)
    (available : user.canAuthenticate now = true)
    (unlinked : Unlinked store claims)
    (absent : store.identities.get? draws.identityId = none)
    (unused : draws.session.Unused deps store.sessions)
    (conflicting :
      ownsGoogleIdentity store user.id = true →
        ∀ message, failed (.storeConflict message) store)
    (logged :
      ownsGoogleIdentity store user.id = false →
        ∀ bundle later, RecordsSuccess store later → normal bundle later) :
    Tx.wp (insertIdentityAndLogin deps user claims now context draws) normal
      failed store := by
  simp only [insertIdentityAndLogin, Tx.wp_bind, Tx.wp_insertExternalIdentity]
  have missing :
      (store.identities.get?
        (claimedIdentity draws.identityId user.id claims now).id).isSome =
          false := by
    change (store.identities.get? draws.identityId).isSome = false
    rw [absent]
    rfl
  rw [missing, Bool.false_or]
  have taken := @identityTaken_claimed claims now store _ user.id unlinked absent
  cases owned : ownsGoogleIdentity store user.id with
  | true =>
      rw [owned] at taken
      rw [if_pos taken]
      exact conflicting owned _
  | false =>
    rw [owned] at taken
    rw [if_neg (Bool.eq_false_iff.mp taken)]
    simp only [Tx.wp_bind, wp_recordSecurityEvent]
    refine wp_loginLinked_answers (Table.get?_put_self _ _)
      (identityTaken_put taken) unused ?_ ?_
    · intro unavailable
      change (store.users.get? user.id).any _ = false at unavailable
      rw [account] at unavailable
      cases available.symm.trans unavailable
    · intro _ bundle later records
      exact logged owned bundle later
        (records.of_append rfl (by intro same; cases same)
          (by intro same; cases same))

/-! ## Linking and creating an account -/

/-- Linking a preauthorised account logs in, or meets a conflict. -/
theorem wp_linkAndLogin_answers
    {user : UserAccount}
    {draws : GoogleLoginDraws}
    {normal : SessionBundle → Store → Prop}
    (unique : UniqueRows store)
    (account : store.users.get? user.id = some user)
    (active : user.status = .active)
    (unlinked : Unlinked store claims)
    (unused : draws.Unused deps store)
    (unhashed : ∀ failure,
      deps.passwords.hash draws.salt draws.unusablePassword =
          .error failure →
        failed failure store)
    (conflicting : ∀ encoded,
      deps.passwords.hash draws.salt draws.unusablePassword = .ok encoded →
      ownsGoogleIdentity store user.id = true →
        ∀ message later, failed (.storeConflict message) later)
    (logged : ∀ encoded,
      deps.passwords.hash draws.salt draws.unusablePassword = .ok encoded →
      ownsGoogleIdentity store user.id = false →
        ∀ bundle later, RecordsSuccess store later → normal bundle later) :
    Tx.wp (linkAndLogin deps user claims now context draws) normal failed
      store := by
  simp only [linkAndLogin, Tx.wp_bind, Tx.wp_ofExcept]
  cases hashed : deps.passwords.hash draws.salt draws.unusablePassword with
  | error failure =>
      exact unhashed failure hashed
  | ok passwordHash =>
      have present :
          (store.users.get? (user.disablePassword passwordHash now).id).isSome =
            true := by
        change (store.users.get? user.id).isSome = true
        rw [account]
        rfl
      have free :
          Store.emailTaken (user.disablePassword passwordHash now) store =
            false := by
        rw [← Bool.not_eq_true, Store.emailTaken, Table.isSome_find?_iff]
        rintro ⟨id, other, found, conflicts⟩
        obtain rfl : other.id = id := Table.key_of_get? found
        rw [Bool.and_eq_true] at conflicts
        exact of_decide_eq_true conflicts.1
          (unique.emails other user found account
            (of_decide_eq_true conflicts.2))
      have available :
          (user.disablePassword passwordHash now).canAuthenticate now = true := by
        refine UserAccount.canAuthenticate_iff.mpr ⟨active, ?_⟩
        intro lockedUntil locked
        cases locked
      simp only [Tx.wp_updateUser]
      rw [if_pos present, if_neg (Bool.eq_false_iff.mp free)]
      exact wp_insertIdentityAndLogin_answers (Table.get?_put_self _ _)
        available unlinked unused.identity unused.session
        (fun owned message => conflicting _ hashed owned message _)
        (fun unowned => logged _ hashed unowned)

/-- Creating an account logs in once its password and its name are made. -/
theorem wp_createAndLogin_answers
    {email : String}
    {draws : GoogleLoginDraws}
    {normal : SessionBundle → Store → Prop}
    (unknown : (store.users.find? fun user => user.email = email) = none)
    (unlinked : Unlinked store claims)
    (unused : draws.Unused deps store)
    (unhashed : ∀ failure,
      deps.passwords.hash draws.salt draws.unusablePassword =
          .error failure →
        failed failure store)
    (unnamed : ∀ encoded failure,
      deps.passwords.hash draws.salt draws.unusablePassword = .ok encoded →
      claimedDisplayName claims email = .error failure →
        failed failure store)
    (logged : ∀ encoded displayName,
      deps.passwords.hash draws.salt draws.unusablePassword = .ok encoded →
      claimedDisplayName claims email = .ok displayName →
        ∀ bundle later, RecordsSuccess store later → normal bundle later) :
    Tx.wp
      (do
        let user ← createOpenUser deps claims email now context draws
        insertIdentityAndLogin deps user claims now context draws)
      normal failed store := by
  simp only [createOpenUser, Tx.wp_bind]
  rw [Tx.wp_ofExcept]
  cases hashed : deps.passwords.hash draws.salt draws.unusablePassword with
  | error failure =>
      exact unhashed failure hashed
  | ok passwordHash =>
      simp only [Tx.wp_bind, Tx.wp_ofExcept]
      cases named : claimedDisplayName claims email with
      | error failure =>
          exact unnamed passwordHash failure hashed named
      | ok displayName =>
          have free :
              ((store.users.get?
                  (openAccount deps draws.userId email displayName passwordHash
                    now).id).isSome ||
                Store.emailTaken
                  (openAccount deps draws.userId email displayName passwordHash
                    now) store) = false := by
            change ((store.users.get? draws.userId).isSome || _) = false
            rw [unused.user, Option.isSome_none, Bool.false_or,
              ← Bool.not_eq_true, Store.emailTaken, Table.isSome_find?_iff]
            rintro ⟨id, other, found, conflicts⟩
            have different := Table.find?_eq_none_iff.mp unknown id other found
            rw [Bool.and_eq_true] at conflicts
            exact of_decide_eq_false different (of_decide_eq_true conflicts.2)
          have available :
              (openAccount deps draws.userId email displayName passwordHash
                now).canAuthenticate now = true :=
            UserAccount.canAuthenticate_iff.mpr
              ⟨rfl, fun _ locked => by cases locked⟩
          simp only [Tx.wp_bind, Tx.wp_insertUser]
          rw [if_neg (Bool.eq_false_iff.mp free)]
          simp only [wp_recordSecurityEvent, Tx.wp_pure]
          refine wp_insertIdentityAndLogin_answers (Table.get?_put_self _ _)
            available unlinked unused.identity unused.session ?_ ?_
          · intro owned
            cases owned.symm.trans unused.unowned
          · intro _ bundle later records
            exact logged passwordHash displayName hashed named bundle later
              (records.of_append rfl (by intro same; cases same)
                (by intro same; cases same))

/-! ## Whole transactions -/

/-- What a login returns and leaves behind under a verdict. -/
def LoginVerdict.Returns
    (verdict : LoginVerdict)
    (before : Store)
    (answer : Option SessionBundle)
    (after : Store) :
    Prop :=
  match verdict with
  | .logged => (∃ bundle, answer = some bundle) ∧ RecordsSuccess before after
  | .refused => answer = none ∧ after = before
  | .conflicting => False
  | .raised _ => False

/-- What a login raises under a verdict. -/
def LoginVerdict.Raises (verdict : LoginVerdict) (failure : Failure) : Prop :=
  match verdict with
  | .logged => False
  | .refused => False
  | .conflicting => ∃ message, failure = .storeConflict message
  | .raised other => failure = other

/-- What a branch has found out about the store. -/
def LoginPath.Found
    (claims : GoogleClaims)
    (now : Instant)
    (store : Store) :
    LoginPath → Prop
  | .linked identity =>
      (store.identities.find? fun identity =>
        identity.issuer = googleIssuer &&
          identity.subject = claims.subject) = some identity
  | .refused => True
  | .links user =>
      Unlinked store claims ∧ store.users.get? user.id = some user ∧
        canAutoLink user claims now = true
  | .creates email =>
      Unlinked store claims ∧
        (store.users.find? fun user => user.email = email) = none

theorem loginPath_found (settings : AuthSettings) :
    (loginPath settings claims now store).Found claims now store := by
  unfold loginPath
  split
  · assumption
  rename_i unlinked
  split
  · trivial
  · trivial
  split
  · split
    · rename_i user found
      split
      · rename_i permitted
        exact ⟨unlinked, (Table.get?_of_find? found).1, permitted⟩
      · trivial
    · rename_i unknown
      split
      · exact ⟨unlinked, unknown⟩
      · trivial
  · trivial

/-- A login runs the transaction of its branch. -/
theorem wp_loginIdentity
    {draws : GoogleLoginDraws}
    {normal : Option SessionBundle → Store → Prop} :
    Tx.wp (loginIdentity deps claims now context draws) normal failed store =
      match loginPath deps.settings claims now store with
      | .linked identity =>
          Tx.wp (loginLinked deps identity claims now context draws.session)
            normal failed store
      | .refused => normal none store
      | .links user =>
          Tx.wp (linkAndLogin deps user claims now context draws)
            (fun bundle => normal (some bundle)) failed store
      | .creates email =>
          Tx.wp
            (do
              let user ← createOpenUser deps claims email now context draws
              insertIdentityAndLogin deps user claims now context draws)
            (fun bundle => normal (some bundle)) failed store := by
  simp only [loginIdentity, Tx.wp_bind, Tx.wp_getExternalIdentity]
  unfold loginPath loginUnlinked
  cases store.identities.find? fun identity =>
    identity.issuer = googleIssuer && identity.subject = claims.subject with
  | some identity => rfl
  | none =>
      cases mode : deps.settings.googleAccountMode with
      | linkedOnly => rfl
      | preauthorized =>
          simp only [loginPreauthorized]
          cases claims.email with
          | none => rfl
          | some email =>
              dsimp only
              cases isAuthoritative claims with
              | false => rfl
              | true =>
                  simp only [if_true, Tx.wp_bind, Tx.wp_getUserByEmail]
                  cases store.users.find? fun user => user.email = email with
                  | none => rfl
                  | some user =>
                      dsimp only
                      cases canAutoLink user claims now with
                      | false => rfl
                      | true =>
                          simp only [if_true, Tx.wp_bind]
                          rfl
      | open_ =>
          simp only [loginOpen]
          cases claims.email with
          | none => rfl
          | some email =>
              dsimp only
              cases isAuthoritative claims with
              | false => rfl
              | true =>
                  simp only [if_true, Tx.wp_bind, Tx.wp_getUserByEmail]
                  cases store.users.find? fun user => user.email = email with
                  | none =>
                      simp only [Tx.wp_bind]
                      congr 1
                      funext user view
                      rw [Tx.wp_bind]
                      rfl
                  | some user =>
                      dsimp only
                      cases canAutoLink user claims now with
                      | false => rfl
                      | true =>
                          simp only [if_true, Tx.wp_bind]
                          rfl

/-- Logging into the identity of verified claims comes to its verdict. -/
theorem wp_loginIdentity_answers
    {draws : GoogleLoginDraws}
    (unique : UniqueRows store)
    (unused : draws.Unused deps store) :
    Tx.wp (loginIdentity deps claims now context draws)
      ((loginVerdict deps claims now draws store).Returns store)
      (fun failure _ =>
        (loginVerdict deps claims now draws store).Raises failure)
      store := by
  rw [wp_loginIdentity]
  have found := @loginPath_found claims now store deps.settings
  unfold loginVerdict
  cases path : loginPath deps.settings claims now store with
  | linked identity =>
      rw [path] at found
      dsimp only
      have stored := (Table.get?_of_find? found).1
      refine wp_loginLinked_answers stored (unique.notTaken stored)
        unused.session ?_ ?_
      · intro unavailable
        simp only [unavailable]
        exact ⟨rfl, rfl⟩
      · intro available bundle later records
        simp only [available, if_true]
        exact ⟨⟨bundle, rfl⟩, records⟩
  | refused => exact ⟨rfl, rfl⟩
  | links user =>
      rw [path] at found
      dsimp only
      obtain ⟨unlinked, account, permitted⟩ := found
      have active : user.status = .active := by
        simp only [canAutoLink, Bool.and_eq_true] at permitted
        exact (UserAccount.canAuthenticate_iff.mp permitted.1.1.1).1
      refine wp_linkAndLogin_answers unique account active unlinked unused
        ?_ ?_ ?_
      · intro failure hashed
        rw [hashed]
        rfl
      · intro encoded hashed owned message later
        rw [hashed, owned]
        exact ⟨message, rfl⟩
      · intro encoded hashed unowned bundle later records
        rw [hashed, unowned]
        exact ⟨⟨bundle, rfl⟩, records⟩
  | creates email =>
      rw [path] at found
      dsimp only
      refine wp_createAndLogin_answers found.2 found.1 unused ?_ ?_ ?_
      · intro failure hashed
        rw [hashed]
        rfl
      · intro encoded failure hashed named
        rw [hashed, named]
        rfl
      · intro encoded displayName hashed named bundle later records
        rw [hashed, named]
        exact ⟨⟨bundle, rfl⟩, records⟩

/-- A transaction comes to what its body comes to, or is rolled back. -/
theorem execute_of_wp_both
    {tx : ServiceTx}
    {normal : tx.Answer → Store → Prop}
    {raises : Failure → Prop}
    (holds :
      Tx.wp (tx.body env) normal (fun failure _ => raises failure) store) :
    (∃ answer later,
        tx.execute env store = (.ok answer, later) ∧ normal answer later) ∨
      ∃ failure, tx.execute env store = (.error failure, store) ∧
        raises failure := by
  exact Tx.execute_of_wp holds

/-- The store after a failure has been recorded. -/
def withFailure
    (store : Store)
    (now : Instant)
    (context : RequestContext)
    (metadata : Option SecurityMetadata := none) :
    Store :=
  { store with
    events := store.events ++
      [SecurityEvent.fromRequest .googleLoginFailed now context none none
        metadata] }

/-- What a login transaction answers and leaves behind under a verdict. -/
def LoginVerdict.Executes
    (verdict : LoginVerdict)
    (before : Store)
    (now : Instant)
    (context : RequestContext)
    (outcome : Except Failure (Option SessionBundle) × Store) :
    Prop :=
  match verdict with
  | .logged =>
      ∃ bundle later, outcome = (.ok (some bundle), later) ∧
        RecordsSuccess before later
  | .refused => outcome = (.ok none, withFailure before now context)
  | .conflicting =>
      ∃ message, outcome = (.error (.storeConflict message), before)
  | .raised failure => outcome = (.error failure, before)

/-- A login transaction alone in a store comes to its verdict. -/
theorem googleLogin_executes
    {draws : GoogleLoginDraws}
    (unique : UniqueRows store)
    (unused : draws.Unused env.toDependencies store) :
    (loginVerdict env.toDependencies claims now draws store).Executes store now
      context
      ((ServiceTx.googleLogin claims now context draws).execute env store) := by
  generalize verdict :
    loginVerdict env.toDependencies claims now draws store = reached
  have inner :=
    @wp_loginIdentity_answers env.toDependencies claims now context store draws
      unique unused
  rw [verdict] at inner
  have holds :
      Tx.wp ((ServiceTx.googleLogin claims now context draws).body env)
        (fun answer later =>
          match answer with
          | some bundle => reached.Returns store (some bundle) later
          | none =>
              reached.Returns store none store ∧
                later = withFailure store now context)
        (fun failure _ => reached.Raises failure) store := by
    simp only [ServiceTx.body, googleLogin, Tx.wp_bind]
    refine Tx.wp_mono inner ?_ fun _ _ raises => raises
    intro answer later returns
    cases answer with
    | some bundle => exact returns
    | none =>
        simp only [Tx.wp_bind, wp_recordSecurityEvent, Tx.wp_pure]
        cases reached with
        | refused =>
            obtain ⟨_, rfl⟩ := returns
            exact ⟨⟨rfl, rfl⟩, rfl⟩
        | logged =>
            obtain ⟨⟨_, same⟩, _⟩ := returns
            cases same
        | conflicting => exact returns.elim
        | raised _ => exact returns.elim
  rcases execute_of_wp_both holds with
    ⟨answer, later, executes, returns⟩ | ⟨failure, executes, raises⟩
  · rw [executes]
    cases reached with
    | logged =>
        cases answer with
        | some bundle => exact ⟨bundle, later, rfl, returns.2⟩
        | none =>
            obtain ⟨⟨_, same⟩, _⟩ := returns.1
            cases same
    | refused =>
        cases answer with
        | some bundle => cases returns.1
        | none =>
            obtain ⟨_, rfl⟩ := returns
            rfl
    | conflicting =>
        cases answer with
        | some bundle => exact returns.elim
        | none => exact returns.1.elim
    | raised _ =>
        cases answer with
        | some bundle => exact returns.elim
        | none => exact returns.1.elim
  · rw [executes]
    cases reached with
    | logged => exact raises.elim
    | refused => exact raises.elim
    | conflicting =>
        obtain ⟨message, rfl⟩ := raises
        exact ⟨message, rfl⟩
    | raised other =>
        obtain rfl := raises
        rfl

/-- What the attempt after a conflict does alone in a store. -/
theorem loginLinkedAfterConflict_executes
    {draws : SessionDraws}
    (unique : UniqueRows store)
    (unused : draws.Unused env.toDependencies store.sessions) :
    (retrySucceeds claims now store = true ∧
        ∃ bundle later,
          (ServiceTx.loginLinkedAfterConflict claims now context draws).execute
              env store = (.ok (some bundle), later) ∧
            RecordsSuccess store later) ∨
      (retrySucceeds claims now store = false ∧
        ∃ answer,
          (ServiceTx.loginLinkedAfterConflict claims now context draws).execute
              env store = (answer, store) ∧
            answer.bind answerLogin =
              .error (.auth invalidGoogleCredentials)) := by
  have holds :
      Tx.wp
        ((ServiceTx.loginLinkedAfterConflict claims now context draws).body env)
        (fun answer later =>
          (retrySucceeds claims now store = true ∧
              ∃ bundle, answer = some bundle ∧ RecordsSuccess store later) ∨
            (retrySucceeds claims now store = false ∧ answer = none ∧
              later = store))
        (fun failure _ =>
          retrySucceeds claims now store = false ∧
            failure = .auth invalidGoogleCredentials) store := by
    simp only [ServiceTx.body, loginLinkedAfterConflict, Tx.wp_bind,
      Tx.wp_getExternalIdentity, retrySucceeds]
    cases linked : store.identities.find? fun identity =>
      identity.issuer = googleIssuer && identity.subject = claims.subject with
    | none => exact ⟨rfl, rfl⟩
    | some identity =>
        obtain ⟨stored, _⟩ := Table.get?_of_find? linked
        refine wp_loginLinked_answers stored (unique.notTaken stored) unused
          ?_ ?_
        · intro unavailable
          exact .inr ⟨unavailable, rfl, rfl⟩
        · intro available bundle later records
          exact .inl ⟨available, bundle, rfl, records⟩
  rcases execute_of_wp_both holds with
    ⟨answer, later, executes, ⟨succeeds, bundle, rfl, records⟩ |
      ⟨fails, rfl, rfl⟩⟩ | ⟨failure, executes, fails, rfl⟩
  · exact .inl ⟨succeeds, bundle, later, executes, records⟩
  · exact .inr ⟨fails, _, executes, rfl⟩
  · exact .inr ⟨fails, _, executes, rfl⟩

end Transactions

end EpokAuth
