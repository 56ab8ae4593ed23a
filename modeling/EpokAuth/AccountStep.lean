import EpokAuth.ServiceEffects

namespace EpokAuth

open Transactional

/-!
# What a move does to accounts and links

A move enrolls an account, changes one by an account change, or leaves the
accounts alone; and it issues, closes, activates, consumes or removes links.
-/

variable
  {settings : AuthSettings}
  {core : Core}

/-- The row of one account after one move. -/
inductive AccountStep
    (settings : AuthSettings)
    (core : Core)
    (userId : Uuid) :
    Move → Option UserAccount → Prop where
  | kept
      (move : Move) :
      AccountStep settings core userId move (core.users.get? userId)
  | enrolled
      {user : UserAccount}
      {identity : Option ExternalIdentity}
      (absent : core.users.get? userId = none)
      (new : Move.NewAccount user) :
      AccountStep settings core userId (.enroll user identity) (some user)
  | changed
      {user : UserAccount}
      {change : AccountChange}
      {attachment : Attachment}
      {now : Instant}
      (found : core.users.get? userId = some user)
      (permitted : change.Permitted now user) :
      AccountStep settings core userId
        (.account userId change attachment now)
        (some (change.apply settings now user))

/-- Every enabled move changes every account in one of these ways. -/
theorem Move.accountStep
    {move : Move}
    (enabled : move.Enabled settings core)
    (userId : Uuid) :
    AccountStep settings core userId move
      ((move.perform settings core).users.get? userId) := by
  cases move with
  | enroll user identity =>
      obtain ⟨absent, new, _⟩ := enabled
      rw [Move.perform, Table.get?_put]
      split
      · rename_i isUser
        exact .enrolled (isUser ▸ absent) new
      · exact .kept _
  | account changed change attachment now =>
      obtain ⟨user, found, permitted, _⟩ := enabled
      have userKey : user.id = changed := Table.key_of_get? found
      rw [Move.perform_account found]
      simp only [Table.get?_put]
      split
      · rename_i isChanged
        have same : userId = changed := by
          rw [isChanged, ← userKey]
          exact AccountChange.apply_id
        subst same
        exact .changed found permitted
      · exact .kept _
  | rotate sessionId successor now =>
      obtain ⟨session, _, found, _⟩ := enabled
      rw [Move.perform_rotate found]
      exact .kept _
  | activateLink linkId now =>
      obtain ⟨link, _, found, _⟩ := enabled
      rw [Move.perform, Core.reviseLink_of_get? found]
      exact .kept _
  | failLink linkId now =>
      obtain ⟨link, found, _⟩ := enabled
      rw [Move.perform, Core.reviseLink_of_get? found]
      exact .kept _
  | revokeLink linkId now =>
      obtain ⟨link, found, _⟩ := enabled
      rw [Move.perform, Core.reviseLink_of_get? found]
      exact .kept _
  | consumeLink linkId now =>
      obtain ⟨link, _, found, _⟩ := enabled
      rw [Move.perform, Core.reviseLink_of_get? found]
      exact .kept _
  | _ => exact .kept _

/-- The row of one link after one move. -/
inductive LinkStep (core : Core) (linkId : Uuid) :
    Move → Option EmailLink → Prop where
  | kept
      {move : Move} :
      LinkStep core linkId move (core.links.get? linkId)
  | removed
      {move : Move} :
      LinkStep core linkId move none
  | issued
      {link : EmailLink}
      {user : UserAccount}
      (absent : core.links.get? linkId = none)
      (pending : link.state = .pending)
      (account : core.users.get? link.userId = some user)
      (current : link.securityVersion = user.securityVersion) :
      LinkStep core linkId (.issueLink link) (some link)
  | closed
      {move : Move}
      {link closed : EmailLink}
      (found : core.links.get? linkId = some link)
      (open_ : link.state = .pending ∨ link.state = .active)
      (state : closed.state = .failed ∨ closed.state = .revoked)
      (same :
        closed =
          { link with state := closed.state, revokedAt := closed.revokedAt }) :
      LinkStep core linkId move (some closed)
  | activated
      {move : Move}
      {link : EmailLink}
      {user : UserAccount}
      {now : Instant}
      (found : core.links.get? linkId = some link)
      (pending : link.state = .pending)
      (account : core.users.get? link.userId = some user)
      (current : link.securityVersion = user.securityVersion) :
      LinkStep core linkId move (some (Store.activateLinkAt now link))
  | consumed
      {move : Move}
      {link : EmailLink}
      {user : UserAccount}
      {now : Instant}
      (found : core.links.get? linkId = some link)
      (active : link.state = .active)
      (account : core.users.get? link.userId = some user)
      (current : link.securityVersion = user.securityVersion) :
      LinkStep core linkId move (some (Store.consumeLinkAt now link))

/-- A change of one link leaves the others alone. -/
theorem linkStep_put
    {move : Move}
    {changed linkId : Uuid}
    {link after : EmailLink}
    (found : core.links.get? changed = some link)
    (sameId : after.id = link.id)
    (step : LinkStep core changed move (some after)) :
    LinkStep core linkId move ((core.links.put after).get? linkId) := by
  have linkKey : link.id = changed := Table.key_of_get? found
  rw [Table.get?_put]
  split
  · rename_i isChanged
    have same : linkId = changed := by
      rw [isChanged, ← linkKey]
      exact sameId
    subst same
    exact step
  · exact .kept

/-- Every enabled move changes every link in one of these ways. -/
theorem Move.linkStep
    {move : Move}
    (enabled : move.Enabled settings core)
    (linkId : Uuid) :
    LinkStep core linkId move
      ((move.perform settings core).links.get? linkId) := by
  cases move with
  | account userId change attachment now =>
      obtain ⟨user, found, _⟩ := enabled
      rw [Move.perform_account found]
      exact .kept
  | rotate sessionId successor now =>
      obtain ⟨session, _, found, _⟩ := enabled
      rw [Move.perform_rotate found]
      exact .kept
  | purgeLinks before =>
      cases kept :
          (core.links.reject fun link =>
            decide (link.createdAt < before)).get? linkId with
      | none =>
          rw [Move.perform, kept]
          exact .removed
      | some link =>
          rw [Move.perform, kept,
            ← (Table.get?_reject_eq_some_iff.mp kept).1]
          exact .kept
  | issueLink link =>
      obtain ⟨absent, pending, user, account, current⟩ := enabled
      rw [Move.perform, Table.get?_put]
      split
      · rename_i isLink
        exact .issued (isLink ▸ absent) pending account current
      · exact .kept
  | activateLink changed now =>
      obtain ⟨link, user, found, pending, account, current⟩ := enabled
      rw [Move.perform, Core.reviseLink_of_get? found]
      exact linkStep_put found rfl (.activated found pending account current)
  | revokeOtherLinks userId purpose activeLinkId now =>
      have revised :=
        Table.get?_revise core.links
          (Store.isOtherActive userId purpose activeLinkId)
          (Store.revokeLinkAt now) (fun _ => rfl) linkId
      rw [Move.perform]
      cases found : core.links.get? linkId with
      | none =>
          rw [found, Option.map_none] at revised
          exact revised ▸ .removed
      | some link =>
          rw [found, Option.map_some] at revised
          refine revised ▸ ?_
          split
          · rename_i chosen
            have active : link.state = .active := by
              simp only [Store.isOtherActive, Bool.and_eq_true,
                decide_eq_true_eq] at chosen
              exact chosen.2
            exact .closed found (.inr active) (.inr rfl) rfl
          · rw [← found]
            exact .kept
  | failLink changed now =>
      obtain ⟨link, found, pending⟩ := enabled
      rw [Move.perform, Core.reviseLink_of_get? found]
      exact linkStep_put found rfl
        (.closed found (.inl pending) (.inl rfl) rfl)
  | revokeLink changed now =>
      obtain ⟨link, found, open_⟩ := enabled
      rw [Move.perform, Core.reviseLink_of_get? found]
      exact linkStep_put found rfl (.closed found open_ (.inr rfl) rfl)
  | consumeLink changed now =>
      obtain ⟨link, user, found, active, _, account, current⟩ := enabled
      rw [Move.perform, Core.reviseLink_of_get? found]
      exact linkStep_put found rfl (.consumed found active account current)
  | _ => exact .kept

/-! ## Accounts persist -/

/-- An account that exists has some status. -/
def StatusAt (core : Core) (userId : Uuid) (status : UserStatus) : Prop :=
  ∃ user, core.users.get? userId = some user ∧ user.status = status

end EpokAuth
