import EpokAuth.LinkTrace
import EpokAuth.ScriptedRun

namespace EpokAuth

open Transactional

/-!
# The version fence

A transaction that changes what the version of an account guards advances it.
A link issued before such a transaction is neither delivered nor consumed after
it.
-/

/-- A transaction that verified the password of an account. -/
inductive Executed.VerifiesPassword : Executed → Prop where
  | loggedIn
      {normalizedEmail password : String}
      {now : Instant}
      {context : RequestContext}
      {salt : Nat}
      {draws : SessionDraws}
      {bundle : SessionBundle} :
      VerifiesPassword
        { tx := .login normalizedEmail password now context salt draws
          answer := .ok (.ok bundle) }
  | reauthenticated
      {principal : Principal}
      {password : String}
      {now : Instant}
      {context : RequestContext}
      {salt : Nat}
      {proof : Reauthentication} :
      VerifiesPassword
        { tx := .reauthenticatePassword principal password now context salt
          answer := .ok (.ok proof) }

/-- A committed transaction changes what the version of an account guards. -/
inductive Executed.ChangesGuarded
    (deps : Dependencies)
    (before after : Store)
    (executed : Executed)
    (userId : Uuid) :
    Prop where
  | attributes
      {user later : UserAccount}
      (found : before.users.get? userId = some user)
      (foundLater : after.users.get? userId = some later)
      (changed : later.guardedAttributes ≠ user.guardedAttributes)
  | password
      {user later : UserAccount}
      (found : before.users.get? userId = some user)
      (foundLater : after.users.get? userId = some later)
      (changed : later.passwordHash ≠ user.passwordHash)
      (unverified : ¬ executed.VerifiesPassword)
  | replacement
      (replaces : executed.Replaces deps before userId)
  | lock
      {user later : UserAccount}
      {lockedUntil : Instant}
      (found : before.users.get? userId = some user)
      (foundLater : after.users.get? userId = some later)
      (locks : later.lockedUntil = some lockedUntil)
      (changed : user.lockedUntil ≠ some lockedUntil)
  | identity
      {id : Uuid}
      (changed :
        ¬ (OwnsIdentity after.identities userId id ↔
            OwnsIdentity before.identities userId id))
  | passkey
      {id : Uuid}
      (changed :
        ¬ (HoldsPasskey after.passkeys userId id ↔
            HoldsPasskey before.passkeys userId id))

/-- The stored link of a presented token. -/
def PresentedLink
    (deps : Dependencies)
    (store : Store)
    (token : String)
    (purpose : EmailLinkPurpose)
    (link : EmailLink) :
    Prop :=
  (store.links.find? fun other =>
      other.tokenHash = deps.tokenHash token && other.purpose = purpose) =
    some link

/--
A transaction delivers a link or consumes it with success, as its caller is
told or as the row shows.
-/
inductive Executed.Uses
    (deps : Dependencies)
    (before after : Store) :
    Executed → EmailLink → Prop where
  | delivered
      {link : EmailLink}
      {now : Instant}
      (found : before.links.get? link.id = some link) :
      Uses deps before after
        { tx := .markDelivered link.id now, answer := .ok true } link
  | loggedIn
      {token browserNonce : String}
      {now : Instant}
      {context : RequestContext}
      {draws : SessionDraws}
      {bundle : SessionBundle}
      {link : EmailLink}
      (presented : PresentedLink deps before token .login link) :
      Uses deps before after
        { tx := .emailLinkLogin token browserNonce now context draws
          answer := .ok (some bundle) }
        link
  | passwordReset
      {token passwordHash : String}
      {now : Instant}
      {context : RequestContext}
      {notice : AuthEmail}
      {link : EmailLink}
      (presented : PresentedLink deps before token .passwordReset link) :
      Uses deps before after
        { tx := .emailLinkResetPassword token passwordHash now context
          answer := .ok (some notice) }
        link
  | invited
      {token passwordHash : String}
      {now : Instant}
      {context : RequestContext}
      {user : UserAccount}
      {link : EmailLink}
      (presented : PresentedLink deps before token .invitation link) :
      Uses deps before after
        { tx := .activateInvitation token passwordHash now context
          answer := .ok (some user) }
        link
  | activated
      {token passwordHash : String}
      {now : Instant}
      {context : RequestContext}
      {user : UserAccount}
      {link : EmailLink}
      (presented : PresentedLink deps before token .activation link) :
      Uses deps before after
        { tx := .activate token passwordHash now context
          answer := .ok (some user) }
        link
  | stored
      {executed : Executed}
      {link later : EmailLink}
      (found : before.links.get? link.id = some link)
      (foundLater : after.links.get? link.id = some later)
      (used : later.state.Used)
      (changed : later.state ≠ link.state) :
      Uses deps before after executed link

/-! ## Changes advance the version -/

variable
  {env : Environment}
  {before after : Store}
  {executed : Executed}
  {userId : Uuid}

/-- Only transactions that verified a password may hash it again. -/
theorem Causes.verifiesPassword
    {deps : Dependencies}
    {change : AccountChange}
    (caused : Causes deps before executed userId change)
    (verifies : change.Verifies) :
    executed.VerifiesPassword := by
  cases caused with
  | loggedIn => exact .loggedIn
  | reauthenticated => exact .reauthenticated
  | _ => cases verifies

/-- Every step advances the version or leaves what it guards. -/
theorem ServiceStep.versioned
    (step : ServiceStep env before executed after) :
    Versioned executed.VerifiesPassword userId before.toCore
      after.toCore := by
  rcases step.effect with ⟨moves, effect⟩
  refine effect.performs.relates
    (Versioned executed.VerifiesPassword userId) Versioned.refl
    (fun _ _ _ earlier later => earlier.trans later) ?_
  intro move member state enabled
  refine Move.versioned enabled ?_
  rintro changed change attachment now rfl verifies
  exact (effect.attributed changed change attachment now
    member).verifiesPassword verifies

/-- Replacing a password advances the version. -/
theorem ServiceStep.version_lt_of_replaces
    {user : UserAccount}
    (step : ServiceStep env before executed after)
    (found : before.users.get? userId = some user)
    (replaces : executed.Replaces env.toDependencies before userId) :
    ∃ later,
      after.users.get? userId = some later ∧
        user.securityVersion < later.securityVersion := by
  rcases step.effect with ⟨moves, effect⟩
  rcases effect.replaces userId replaces with
    ⟨change, attachment, now, replacing, member⟩
  rcases effect.performs.exists_move member with
    ⟨first, rest, middle, _, performedFirst, enabled, performedRest⟩
  have grows :
      ∀ {moves : List Move} {earlier later : Core},
        Performs env.settings earlier moves later →
        Versioned True userId earlier later := by
    intro moves earlier later performed
    refine performed.relates (Versioned True userId) Versioned.refl
      (fun _ _ _ earlier later => earlier.trans later) ?_
    exact fun _ _ _ enabled =>
      Move.versioned enabled fun _ _ _ _ _ _ => trivial
  rcases (grows performedFirst).mono found with
    ⟨account, foundMiddle, firstGrew⟩
  have advanced :
      account.securityVersion <
        (change.apply env.settings now account).securityVersion := by
    rcases AccountChange.advances_or_leavesGuarded change now account with
      grew | leaves
    · exact grew
    · cases change with
      | replace reason passwordHash =>
          exact absurd trivial leaves.notAdvancing
      | autoLink passwordHash =>
          exact absurd trivial leaves.notAdvancing
      | _ => cases replacing
  rcases (grows performedRest).mono (Move.perform_account_self foundMiddle) with
    ⟨later, foundLater, restGrew⟩
  exact ⟨later, foundLater,
    (firstGrew.trans_lt advanced).trans_le restGrew⟩

/-- Changing what the version guards advances it. -/
theorem ServiceStep.version_lt_of_changesGuarded
    {user : UserAccount}
    (step : ServiceStep env before executed after)
    (found : before.users.get? userId = some user)
    (changes :
      executed.ChangesGuarded env.toDependencies before after userId) :
    ∃ later,
      after.users.get? userId = some later ∧
        user.securityVersion < later.securityVersion := by
  rcases step.versioned user found with
    ⟨later, foundLater, grew | ⟨_, unguarded⟩⟩
  · exact ⟨later, foundLater, grew⟩
  · cases changes with
    | attributes foundToo foundLaterToo changed =>
        obtain rfl := Option.some.inj (found.symm.trans foundToo)
        obtain rfl := Option.some.inj (foundLater.symm.trans foundLaterToo)
        exact absurd unguarded.attributes changed
    | password foundToo foundLaterToo changed unverified =>
        obtain rfl := Option.some.inj (found.symm.trans foundToo)
        obtain rfl := Option.some.inj (foundLater.symm.trans foundLaterToo)
        rcases unguarded.password with verified | same
        · exact absurd verified unverified
        · exact absurd same changed
    | replacement replaces =>
        exact step.version_lt_of_replaces found replaces
    | lock foundToo foundLaterToo locks changed =>
        obtain rfl := Option.some.inj (found.symm.trans foundToo)
        obtain rfl := Option.some.inj (foundLater.symm.trans foundLaterToo)
        exact absurd (unguarded.lock _ locks) changed
    | identity changed =>
        exact absurd (unguarded.identities _) changed
    | passkey changed =>
        exact absurd (unguarded.passkeys _) changed

/-! ## Links are used at the version of their account -/

/-- A link whose account has its version. -/
def Current (store : Store) (link : EmailLink) : Prop :=
  ∃ user,
    store.users.get? link.userId = some user ∧
      link.securityVersion = user.securityVersion

/-- Consuming a presented link returns something only when it is current. -/
theorem wp_consuming_current
    {deps : Dependencies}
    {token : String}
    {purpose : EmailLinkPurpose}
    {now : Instant}
    {browserNonce : Option String}
    {complete : UserAccount → Tx α}
    {refused : Option UserAccount → Tx Unit}
    {store : Store}
    {link : EmailLink}
    (records : ∀ user, OnlyRecords (refused user))
    (presented : PresentedLink deps store token purpose link) :
    Tx.wp (consuming deps token purpose now browserNonce complete refused)
      (fun result _ => ∀ value, result = some value → Current store link)
      (fun _ _ => True) store := by
  refine wp_consuming_committed records ?_ ?_
  · intro moves later _ _ value impossible
    cases impossible
  · intro consumed user consumable _ _
    obtain rfl := Option.some.inj (presented.symm.trans consumable.presented)
    exact Tx.wp_of_forall
      (fun _ _ _ _ => ⟨user, consumable.account, consumable.current⟩)
      (fun _ _ => trivial)

/-- A delivery is reported only of a link that is current. -/
theorem wp_markDelivered_current
    {deps : Dependencies}
    {now : Instant}
    {store : Store}
    {link : EmailLink}
    (found : store.links.get? link.id = some link) :
    Tx.wp (markDelivered deps link.id now)
      (fun delivered _ => delivered = true → Current store link)
      (fun _ _ => True) store := by
  simp only [markDelivered, Tx.wp_bind, Tx.wp_getEmailLink, found,
    Tx.wp_getUserById, Tx.wp_getLatestEmailLink]
  refine wp_ofExcept_committed ?_
  intro deliverable allowed
  cases deliverable with
  | none =>
      simp only [Tx.wp_bind]
      refine Tx.wp_of_forall ?_ (fun _ _ => trivial)
      intro _ _ impossible
      cases impossible
  | some deliverable =>
      rcases deliverableLink_ok_some allowed with
        ⟨_, account, isLink, _, hasAccount, _, _, bound⟩
      have version := (boundTo_ok_true bound).2.1
      obtain rfl := Option.some.inj isLink
      exact Tx.wp_of_forall (fun _ _ _ => ⟨account, hasAccount, version⟩)
        (fun _ _ => trivial)

/--
A used link was current, or its row became so in a transaction that drew its
identifier again.
-/
theorem ServiceStep.current_of_uses
    {link : EmailLink}
    (step : ServiceStep env before executed after)
    (uses : executed.Uses env.toDependencies before after link) :
    executed.tx.issuing = some link.id ∨
      ∀ user, before.users.get? link.userId = some user →
        user.securityVersion ≤ link.securityVersion := by
  have ofCurrent :
      Current before link →
        ∀ user, before.users.get? link.userId = some user →
          user.securityVersion ≤ link.securityVersion := by
    rintro ⟨account, found, current⟩ user foundToo
    obtain rfl := Option.some.inj (found.symm.trans foundToo)
    exact current.ge
  cases uses with
  | delivered found =>
      exact .inr (ofCurrent (step.of_wp (wp_markDelivered_current found) rfl))
  | loggedIn presented =>
      refine .inr (ofCurrent (step.of_wp
        (wp_consuming_current ?_ presented) _ rfl))
      intro user normal store recorded
      rw [loginFailure, wp_recordSecurityEvent]
      exact recorded _ rfl
  | passwordReset presented =>
      exact .inr (ofCurrent (step.of_wp
        (wp_consuming_current (fun _ => onlyRecords_return) presented) _ rfl))
  | invited presented =>
      exact .inr (ofCurrent (step.of_wp
        (wp_consuming_current (fun _ => onlyRecords_return) presented) _ rfl))
  | activated presented =>
      exact .inr (ofCurrent (step.of_wp
        (wp_consuming_current (fun _ => onlyRecords_return) presented) _ rfl))
  | stored found foundLater used changed =>
      rcases (step.linkTrace link.id).traced _ foundLater with
        issued | ⟨earlier, foundEarlier, owner, version, traced⟩
      · exact .inl issued
      · obtain rfl := Option.some.inj (found.symm.trans foundEarlier)
        rcases traced used with same | current
        · exact absurd same.symm changed
        · rw [← owner, ← version] at current
          exact .inr current

/-- The row of a link that is used is stored. -/
theorem Executed.Uses.stored_row
    {deps : Dependencies}
    {link : EmailLink}
    (uses : executed.Uses deps before after link) :
    before.links.get? link.id = some link := by
  cases uses with
  | delivered found => exact found
  | stored found _ _ _ => exact found
  | loggedIn presented => exact (Table.get?_of_find? presented).1
  | passwordReset presented => exact (Table.get?_of_find? presented).1
  | invited presented => exact (Table.get?_of_find? presented).1
  | activated presented => exact (Table.get?_of_find? presented).1

/-! ## The fence -/

/-- A link is issued by a transaction of a run, or was there at its start. -/
theorem ServiceRun.issued_or_kept
    {start finish : Store}
    {labels : List Executed}
    {linkId : Uuid}
    (run : ServiceRun env start labels finish) :
    ∀ link, finish.links.get? linkId = some link →
      (∃ executed ∈ labels, executed.tx.issuing = some linkId) ∨
        ∃ earlier,
          start.links.get? linkId = some earlier ∧
            earlier.userId = link.userId ∧
            earlier.securityVersion = link.securityVersion := by
  refine run.accumulates
    (fun labels current =>
      ∀ link, current.links.get? linkId = some link →
        (∃ executed ∈ labels, executed.tx.issuing = some linkId) ∨
          ∃ earlier,
            start.links.get? linkId = some earlier ∧
              earlier.userId = link.userId ∧
              earlier.securityVersion = link.securityVersion) ?_ ?_
  · intro earlier state executed next _ holds step link found
    rcases (step.linkTrace linkId).traced link found with
      issued | ⟨before, foundBefore, owner, version, _⟩
    · exact .inl ⟨executed, by simp, issued⟩
    rcases holds before foundBefore with
      ⟨issuer, member, issued⟩ | ⟨first, foundFirst, firstOwner, firstVersion⟩
    · exact .inl ⟨issuer, List.mem_append_left _ member, issued⟩
    · exact .inr ⟨first, foundFirst, firstOwner.trans owner,
        firstVersion.trans version⟩
  · intro link found
    exact .inr ⟨link, found, rfl, rfl⟩

/-- The version of an account never decreases along a run. -/
theorem ServiceRun.version_mono
    {start finish : Store}
    {labels : List Executed}
    {user : UserAccount}
    (run : ServiceRun env start labels finish)
    (found : start.users.get? userId = some user) :
    ∃ later,
      finish.users.get? userId = some later ∧
        user.securityVersion ≤ later.securityVersion := by
  refine run.relates
    (fun earlier later =>
      ∀ user, earlier.users.get? userId = some user →
        ∃ after,
          later.users.get? userId = some after ∧
            user.securityVersion ≤ after.securityVersion)
    ?_ ?_ ?_ user found
  · exact fun store user found => ⟨user, found, le_rfl⟩
  · intro first second third earlier later user found
    rcases earlier user found with ⟨middle, foundMiddle, grew⟩
    rcases later middle foundMiddle with ⟨after, foundAfter, grewAgain⟩
    exact ⟨after, foundAfter, grew.trans grewAgain⟩
  · exact fun store executed next step user found =>
      step.versioned.mono found

/--
Every step of a run keeps the version of an account or advances it, and
advances it when it changes what the version guards.  A link of the account
that is delivered or consumed after such a step was issued by no transaction
before it: one from that step on drew its identifier.
-/
theorem version_fence
    {start fenced : Store}
    {fence : Executed}
    {user : UserAccount}
    (reachable : ServiceReachable env start)
    (step : ServiceStep env start fence fenced)
    (found : start.users.get? userId = some user) :
    (∃ later,
        fenced.users.get? userId = some later ∧
          user.securityVersion ≤ later.securityVersion) ∧
      (fence.ChangesGuarded env.toDependencies start fenced userId →
        (∃ later,
            fenced.users.get? userId = some later ∧
              user.securityVersion < later.securityVersion) ∧
          ∀ between before use after link,
            ServiceRun env fenced between before →
            ServiceStep env before use after →
            use.Uses env.toDependencies before after link →
            link.userId = userId →
            ∃ issuer ∈ fence :: between ++ [use],
              issuer.tx.issuing = some link.id) := by
  refine ⟨step.versioned.mono found, ?_⟩
  intro changes
  rcases step.version_lt_of_changesGuarded found changes with
    ⟨later, foundLater, advanced⟩
  refine ⟨⟨later, foundLater, advanced⟩, ?_⟩
  intro between before use after link run useStep uses owned
  rcases useStep.current_of_uses uses with issued | current
  · exact ⟨use, by simp, issued⟩
  rcases ServiceRun.issued_or_kept (Run.cons step run) link
      uses.stored_row with
    ⟨issuer, member, issued⟩ | ⟨earlier, foundEarlier, owner, version⟩
  · exact ⟨issuer, List.mem_append_left _ member, issued⟩
  · -- the link is from before the fence, where its account was not ahead of it
    exfalso
    rcases ServiceReachable.linkVersions reachable link.id earlier
        foundEarlier with
      ⟨account, foundAccount, behind⟩
    rw [owner, owned] at foundAccount
    obtain rfl := Option.some.inj (found.symm.trans foundAccount)
    rcases ServiceRun.version_mono run foundLater with
      ⟨last, foundLast, grew⟩
    rw [owned] at current
    have notAhead : last.securityVersion ≤ earlier.securityVersion :=
      version ▸ current last foundLast
    exact absurd (advanced.trans_le (grew.trans (notAhead.trans behind)))
      (lt_irrefl _)

/-- A password reset link is delivered, and the password is reset by others. -/
def resetAfterDelivery : List ServiceTx :=
  [ .createUser 1 "user@example.test" "User" "password" [] [] false 0 {},
    .requestPasswordReset "user@example.test" 10 {}
      { linkId := 2, token := "link" },
    .markDelivered 2 20 ]

/-- The store in which the link is delivered. -/
def deliveredStore : Store :=
  (executeAll referenceEnvironment resetAfterDelivery {}).2

/-- The store in which an administrator has reset the password. -/
def fencedStore : Store :=
  ((ServiceTx.resetPassword 1 "temporary" 30 {}).execute
    referenceEnvironment deliveredStore).2

/-- Resetting the password leaves the delivered link of no use. -/
theorem version_fence_resetAfterDelivery :
    (∃ later,
        fencedStore.users.get? 1 = some later ∧ 0 < later.securityVersion) ∧
      (executeAll referenceEnvironment
          [.emailLinkResetPassword "link" "chosen" 40 {}]
          fencedStore).2.users.rows.map UserAccount.passwordHash =
        ["temporary"] := by
  have stored :
      ∃ user,
        deliveredStore.users.get? 1 = some user ∧
          user.securityVersion = 0 ∧ user.passwordHash = "password" :=
    ⟨(deliveredStore.users.get? 1).get (by decide), by simp, by decide,
      by decide⟩
  rcases stored with ⟨user, found, version, password⟩
  have step :
      ServiceStep referenceEnvironment deliveredStore
        { tx := .resetPassword 1 "temporary" 30 {}
          answer :=
            ((ServiceTx.resetPassword 1 "temporary" 30 {}).execute
              referenceEnvironment deliveredStore).1 }
        fencedStore :=
    .completed _ (ServiceTx.fresh_of_isFresh (by decide))
  have replaced :
      ∃ later,
        fencedStore.users.get? 1 = some later ∧
          later.passwordHash = "temporary" :=
    ⟨(fencedStore.users.get? 1).get (by decide), by simp, by decide⟩
  rcases replaced with ⟨later, foundLater, temporary⟩
  rw [← version]
  refine ⟨((version_fence (reachable_executeAll (by decide)) step found).2
    (.password found foundLater ?_ ?_)).1, by decide⟩
  · rw [temporary, password]
    decide
  · intro verified
    cases verified

end EpokAuth
