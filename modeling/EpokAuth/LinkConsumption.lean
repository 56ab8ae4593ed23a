import EpokAuth.EmailLinkEffect

namespace EpokAuth

open Transactional

/-!
# Effects of consuming a link

Login, password reset, invitation and activation consume a link in the same
way and differ in what they complete.  The rule below separates the two.
-/

variable
  {env : Environment}
  {deps : Dependencies}
  {token : String}
  {purpose : EmailLinkPurpose}
  {now : Instant}
  {browserNonce : Option String}
  {context : RequestContext}
  {store : Store}

/-- A link that may be consumed for its account. -/
structure Consumable
    (deps : Dependencies)
    (store : Store)
    (token : String)
    (purpose : EmailLinkPurpose)
    (link : EmailLink)
    (user : UserAccount) :
    Prop where
  found : store.links.get? link.id = some link
  presented :
    (store.links.find? fun other =>
        other.tokenHash = deps.tokenHash token && other.purpose = purpose) =
      some link
  account : store.users.get? link.userId = some user
  active : link.state = .active
  current : link.securityVersion = user.securityVersion

namespace Consumable

variable
  {link : EmailLink}
  {user : UserAccount}

/-- The link is the one of the presented token. -/
theorem tokenHash_eq
    (consumable : Consumable deps store token purpose link user) :
    link.tokenHash = deps.tokenHash token := by
  have matched := (Table.get?_of_find? consumable.presented).2
  rw [Bool.and_eq_true, decide_eq_true_eq] at matched
  exact matched.1

/-- The link serves the purpose it is consumed for. -/
theorem purpose_eq
    (consumable : Consumable deps store token purpose link user) :
    link.purpose = purpose := by
  have matched := (Table.get?_of_find? consumable.presented).2
  rw [Bool.and_eq_true, decide_eq_true_eq, decide_eq_true_eq] at matched
  exact matched.2

/-- The link belongs to the account it is consumed for. -/
theorem userId_eq
    (consumable : Consumable deps store token purpose link user) :
    user.id = link.userId :=
  Table.key_of_get? consumable.account

end Consumable

/--
The rule of looking for a consumable link: one is found and nothing changes, or
none is returned and an outdated one may have been revoked.
-/
theorem wp_consumableLink_committed
    {normal : Option EmailLink × Option UserAccount → Store → Prop}
    (rejected :
      ∀ user moves later,
        Performs deps.settings store.toCore moves later.toCore →
        (∀ tx, Move.SparesAccounts tx moves) →
        normal (none, user) later)
    (accepted :
      ∀ link user,
        Consumable deps store token purpose link user →
        normal (some link, some user) store) :
    Tx.wp (consumableLink deps token purpose now browserNonce) normal
      (fun _ _ => True) store := by
  have spared : ∀ user, normal (none, user) store := by
    intro user
    exact rejected user [] store Performs.nil (by simp)
  simp only [consumableLink, Tx.wp_ite, Tx.wp_pure, Tx.wp_bind,
    Tx.wp_getEmailLinkByTokenHash]
  split
  · exact spared none
  · cases presented :
        store.links.find? fun link =>
          link.tokenHash = deps.tokenHash token && link.purpose = purpose with
    | none =>
        exact spared none
    | some link =>
        have found : store.links.get? link.id = some link :=
          (Table.get?_of_find? presented).1
        simp only [Tx.wp_bind, Tx.wp_getUserById, Tx.wp_getEmailLink, found,
          Tx.wp_ite, Tx.wp_pure]
        split
        · exact spared _
        · rename_i isActive
          have active : link.state = .active := not_not.mp isActive
          cases account : store.users.get? link.userId with
          | none =>
              simp only [Tx.wp_bind]
              exact wp_revokeEmailLink_committed found
                fun _ moves later performs spares =>
                  rejected none moves later performs spares
          | some user =>
              simp only [Tx.wp_bind]
              refine wp_ofExcept_committed ?_
              intro isMatch matched
              simp only [Tx.wp_ite, Tx.wp_pure, Tx.wp_bind]
              split
              · exact wp_revokeEmailLink_committed found
                  fun _ moves later performs spares =>
                    rejected (some user) moves later performs spares
              · rename_i matches_
                have holds : isMatch = true := by
                  simpa using matches_
                subst holds
                have consumable :
                    Consumable deps store token purpose link user :=
                  { found := found
                    presented := presented
                    account := account
                    active := active
                    current := (matchesUser_ok_true matched).2.1 }
                split
                · refine wp_ofExcept_committed ?_
                  intro isBrowser _
                  simp only [Tx.wp_ite, Tx.wp_pure]
                  split
                  · exact accepted link user consumable
                  · exact spared _
                · exact accepted link user consumable

/-- A continuation that only records events. -/
def OnlyRecords (program : Tx Unit) : Prop :=
  ∀ (normal : Unit → Store → Prop) (store : Store),
    (∀ later, later.toCore = store.toCore → normal () later) →
    Tx.wp program normal (fun _ _ => True) store

/-- Doing nothing records nothing else. -/
theorem onlyRecords_return : OnlyRecords (return ()) :=
  fun _ store recorded => recorded store rfl

/--
The rule of consuming: nothing is returned and no account changes, or a link is
consumed and its completion follows.
-/
theorem wp_consuming_committed
    {complete : UserAccount → Tx α}
    {refused : Option UserAccount → Tx Unit}
    {normal : Option α → Store → Prop}
    (records : ∀ user, OnlyRecords (refused user))
    (rejected :
      ∀ moves later,
        Performs deps.settings store.toCore moves later.toCore →
        (∀ tx, Move.SparesAccounts tx moves) →
        normal none later)
    (completed :
      ∀ link user,
        Consumable deps store token purpose link user →
        canRequest deps.settings user purpose now = true →
        (Move.consumeLink link.id now).Enabled deps.settings store.toCore →
        Tx.wp (complete user)
          (fun result later => normal (some result) later)
          (fun _ _ => True)
          { store with
            links := store.links.put (Store.consumeLinkAt now link) }) :
    Tx.wp (consuming deps token purpose now browserNonce complete refused)
      normal (fun _ _ => True) store := by
  simp only [consuming, Tx.wp_bind]
  refine wp_consumableLink_committed ?_ ?_
  · intro user moves later performs spares
    simp only [Tx.wp_bind]
    refine records _ _ _ ?_
    intro recorded same
    rw [Tx.wp_pure]
    exact rejected moves recorded (same ▸ performs) spares
  · intro link user consumable
    have unchanged : ∀ later, later.toCore = store.toCore → normal none later := by
      intro later same
      exact rejected [] later same (by simp)
    simp only [Tx.wp_ite, Tx.wp_bind, Tx.wp_consumeEmailLink,
      consumable.found, Option.filter_some]
    split
    · rename_i permitted
      by_cases consumes : Store.isConsumable link.purpose now link = true
      · simp only [consumes, ↓reduceIte]
        have expires : now < link.expiresAt := by
          simp only [Store.isConsumable, Bool.and_eq_true,
            decide_eq_true_eq] at consumes
          exact consumes.2
        exact completed link user consumable permitted
          ⟨link, user, consumable.found, consumable.active, expires,
            consumable.account, consumable.current⟩
      · simp only [consumes, Bool.false_eq_true, ↓reduceIte]
        exact records _ _ _ unchanged
    · exact records _ _ _ unchanged

/-! ## What consuming completes -/

/-- The accounts that a link may be consumed for are permitted their purpose. -/
theorem active_of_canRequest
    {settings : AuthSettings}
    {user : UserAccount}
    (permitted :
      canRequest settings user .passwordReset now = true ∨
        canRequest settings user .invitation now = true) :
    user.status = .active := by
  rcases permitted with reset | invitation
  · simp only [canRequest, Bool.and_eq_true, decide_eq_true_eq] at reset
    exact reset.1.2
  · simp only [canRequest, Bool.and_eq_true, decide_eq_true_eq] at invitation
    exact invitation.1.2

/--
Completing a consumed link by replacing the password of its account performs
two moves.
-/
theorem wp_replacing_committed
    {link : EmailLink}
    {user : UserAccount}
    {passwordHash : String}
    {eventType : SecurityEventType}
    {result : α}
    {normal : α → Store → Prop}
    (reason : Replacement)
    (consumable : Consumable deps store token purpose link user)
    (permitted : reason.Permitted user)
    (enabled :
      (Move.consumeLink link.id now).Enabled deps.settings store.toCore)
    (completed :
      ∀ later,
        Performs deps.settings store.toCore
          ([.consumeLink link.id now] ++
            [.account user.id (.replace reason passwordHash) .nothing now])
          later.toCore →
        normal result later) :
    Tx.wp
      (do
        Tx.updateUser (reason.apply passwordHash now user)
        let _ ← Tx.revokeUserSessions user.id now
        recordSecurityEvent eventType now context (some user.id)
        return result)
      normal (fun _ _ => True)
      { store with
        links := store.links.put (Store.consumeLinkAt now link) } := by
  have account : store.users.get? user.id = some user := by
    rw [consumable.userId_eq]
    exact consumable.account
  rw [Tx.wp_bind]
  apply wp_updateUser_committed
  simp only [Tx.wp_bind, Tx.wp_revokeUserSessions, wp_recordSecurityEvent,
    Tx.wp_pure]
  refine completed _ (Performs.cons enabled
    (Core.reviseLink_of_get? consumable.found) ?_)
  exact performs_replace reason account permitted Performs.nil

theorem emailLinkLogin_effect
    {browserNonce : String}
    {draws : SessionDraws}
    (fresh :
      (ServiceTx.emailLinkLogin token browserNonce now context draws).Fresh
        store) :
    (ServiceTx.emailLinkLogin token browserNonce now context draws).HasEffect
      env store := by
  have noCause :
      ∀ answer userId change,
        Causes env.toDependencies store
          { tx := .emailLinkLogin token browserNonce now context draws
            answer := .ok answer }
          userId change →
        ¬ change.ReplacesPassword := by
    intro answer userId change caused
    cases caused
  refine wp_consuming_committed ?_ ?_ ?_
  · intro user normal later recorded
    rw [loginFailure, wp_recordSecurityEvent]
    exact recorded _ rfl
  · intro moves later performs spares
    exact ⟨moves, Effect.of_no_account performs (spares _) (noCause _)⟩
  · intro link user consumable permitted enabled
    have available : user.canAuthenticate now = true := by
      simp only [canRequest, Bool.and_eq_true] at permitted
      exact permitted.1.1.2
    have account : store.users.get? user.id = some user := by
      rw [consumable.userId_eq]
      exact consumable.account
    simp only [Tx.wp_bind]
    refine wp_issue_opening account available (fresh draws rfl) ?_
    intro bundle later session _ _ _ opens same
    simp only [Tx.wp_bind, wp_recordSecurityEvent, Tx.wp_pure]
    refine ⟨_, Effect.of_no_account
      (Performs.cons enabled (Core.reviseLink_of_get? consumable.found)
        (Performs.single opens same.symm))
      (by simp) (noCause _)⟩

theorem emailLinkResetPassword_effect
    {passwordHash : String} :
    (ServiceTx.emailLinkResetPassword token passwordHash now
      context).HasEffect env store := by
  simp only [ServiceTx.HasEffect, ServiceTx.body, emailLinkResetPassword]
  refine wp_consuming_committed ?_ ?_ ?_
  · exact fun _ => onlyRecords_return
  · intro moves later performs spares
    refine ⟨moves, Effect.of_no_account performs (spares _) ?_⟩
    intro userId change caused
    cases caused
  · intro link user consumable permitted enabled
    refine wp_replacing_committed .chosen consumable
      (active_of_canRequest (.inl permitted)) enabled ?_
    intro later performs
    refine ⟨_, Effect.of_account_among performs (by simp)
      (.passwordRecovered rfl) ?_⟩
    intro other change caused _
    cases caused with
    | passwordRecovered notified =>
        exact ⟨(Option.some.inj notified).symm, trivial⟩

theorem activateInvitation_effect
    {passwordHash : String} :
    (ServiceTx.activateInvitation token passwordHash now context).HasEffect
      env store := by
  simp only [ServiceTx.HasEffect, ServiceTx.body, activateInvitation]
  refine wp_consuming_committed ?_ ?_ ?_
  · exact fun _ => onlyRecords_return
  · intro moves later performs spares
    refine ⟨moves, Effect.of_no_account performs (spares _) ?_⟩
    intro userId change caused
    cases caused
  · intro link user consumable permitted enabled
    refine wp_replacing_committed .invitation consumable
      (active_of_canRequest (.inr permitted)) enabled ?_
    intro later performs
    refine ⟨_, Effect.of_account_among performs (by simp)
      .invitationActivated ?_⟩
    intro other change caused _
    cases caused
    exact ⟨rfl, trivial⟩

theorem activate_effect
    {passwordHash : String} :
    (ServiceTx.activate token passwordHash now context).HasEffect
      env store := by
  simp only [ServiceTx.HasEffect, ServiceTx.body, activate]
  refine wp_consuming_committed ?_ ?_ ?_
  · exact fun _ => onlyRecords_return
  · intro moves later performs spares
    refine ⟨moves, Effect.of_no_account performs (spares _) ?_⟩
    intro userId change caused
    cases caused
  · intro link user consumable _ enabled
    rw [Tx.wp_bind]
    refine wp_ofExcept_committed ?_
    intro activated activates
    obtain ⟨pending, rfl⟩ :=
      UserAccount.activateAccount_eq_ok_iff.mp activates
    refine wp_replacing_committed .activation consumable pending enabled ?_
    intro later performs
    refine ⟨_, Effect.of_account_among performs (by simp)
      (.activated consumable.found consumable.tokenHash_eq consumable.active
        consumable.purpose_eq consumable.userId_eq.symm) ?_⟩
    intro other change caused _
    cases caused
    exact ⟨rfl, trivial⟩

end EpokAuth
