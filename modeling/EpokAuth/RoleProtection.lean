import EpokAuth.RoleDiscipline

namespace EpokAuth

open Transactional

/-!
# What the discipline of the role protects

An account that is updated keeps its address and its share in administration;
an administrator is inserted under the advisory lock, a link under the lock of
its account.  Links stay owned and administrators founded in every view.
-/

variable
  {env : Environment}
  {settings : AuthSettings}
  {founded : Uuid → Prop}
  {call : ServiceTx}
  {standing : ServiceStanding}
  {locks : List (Lock Resource)}
  {store view base first second merged : Store}
  {statement : Statement}
  {write : Write}

/-! ## Accounts that are updated -/

/-- A row is replaced by one of the same address and share. -/
def SameRole
    (settings : AuthSettings)
    (store : Store)
    (updated : UserAccount) :
    Prop :=
  ∃ user,
    store.users.get? updated.id = some user ∧ updated.email = user.email ∧
      (updated.IsAdmin settings ↔ user.IsAdmin settings)

/-- Updates leave the role where it is. -/
theorem LeavesRole.sameRole
    {updated : UserAccount}
    (leaves : LeavesRole env founded call updated)
    (changes : ChangesAccount env call standing updated)
    (sane : RolesSane env.settings founded standing.view) :
    SameRole env.settings standing.view updated := by
  obtain ⟨user, change, now, holds, _, _, intends, rfl⟩ := changes
  have stored : standing.view.users.get? user.id = some user := holds.seen
  refine ⟨user, ?_, AccountChange.apply_email, ?_⟩
  · rw [AccountChange.apply_id]
    exact stored
  cases change with
  | administer resolved =>
      -- Only the administrative update names roles.
      cases call with
      | updateUser userId update at_ context =>
          obtain ⟨_, resolves, same⟩ := intends
          obtain rfl := AccountChange.administer.inj same
          have isUser : user.id = userId := by
            have named := leaves.named userId update at_ context rfl
            rwa [AccountChange.apply_id] at named
          have roles := (resolves_of_ok resolves).roles
          have isResolved :
              ((AccountChange.administer resolved).apply env.settings now
                user).roles = resolved.roles := by
            simp only [AccountChange.apply, applyUpdate]
            split <;> rfl
          rw [UserAccount.IsAdmin, isResolved]
          cases requested : update.roles with
          | none =>
              rw [requested] at roles
              rw [← Except.ok.inj roles]
          | some named =>
              obtain ⟨unfounded, without⟩ := leaves.spares named requested
              rw [requested] at roles
              have ordinary : ¬ user.IsAdmin env.settings := fun admin =>
                unfounded (isUser ▸ sane.founded user.id ⟨user, stored, admin⟩)
              exact iff_of_false (without _ roles) ordinary
      | login => exact absurd intends.symm verificationChange_ne_administer
      | reauthenticatePassword =>
          exact absurd intends.symm verificationChange_ne_administer
      | changePassword =>
          obtain ⟨_, _, _, _, same⟩ := intends
          cases same
      | googleLogin =>
          obtain ⟨_, _, same⟩ := intends
          cases same
      | resetPassword => cases intends
      | recoverPasswordAccess => cases intends
      | emailLinkResetPassword => cases intends
      | activateInvitation => cases intends
      | activate => cases intends
      | finishRegistration => cases intends
      | revokePasskey => cases intends
      | linkIdentity => cases intends
      | _ => exact intends.elim
  | _ =>
      rw [UserAccount.IsAdmin, AccountChange.apply_roles (by rintro _ ⟨⟩)]

/-! ## Writes that are granted -/

/-- An account is written by an insertion or an update only. -/
theorem Statement.MayWrite.putUser_cases
    {user : UserAccount}
    (may : statement.MayWrite store (.putUser user)) :
    (statement = .insertUser user ∧ store.users.get? user.id = none) ∨
      statement = .updateUser user := by
  cases statement with
  | insertUser inserted =>
      obtain ⟨same, absent⟩ := may
      obtain rfl := Write.putUser.inj same
      exact .inl ⟨rfl, absent⟩
  | updateUser updated =>
      obtain ⟨same, _⟩ := may
      obtain rfl := Write.putUser.inj same
      exact .inr rfl
  | insertSession session => cases may.1
  | updateSession session => cases may.1
  | revokeFamily familyId revokedAt =>
      obtain ⟨_, _, _, same⟩ := may
      cases same
  | revokeUserSessions userId revokedAt =>
      obtain ⟨_, _, _, same⟩ := may
      cases same
  | _ => exact absurd rfl (may.1 user)

/-- An account that is written replaces one alike, or is granted as the first. -/
theorem role_granted_putUser
    {user : UserAccount}
    (kept :
      ∀ before, store.users.get? user.id = some before →
        user.email = before.email ∧
          (user.IsAdmin settings ↔ before.IsAdmin settings))
    (adds :
      ¬ Locked locks .adminInvariant → user.IsAdmin settings →
        (store.users.get? user.id).isSome = true) :
    (roleRules settings).protection.Granted locks store
      (Store.apply (.putUser user) store) := by
  have row :
      ∀ id, (Store.apply (.putUser user) store).users.get? id =
        if id = user.id then some user else store.users.get? id :=
    fun id => Table.get?_put store.users user id
  refine RowRules.granted_of_rows ?_ ?_
  · intro other
    cases other with
    | user id =>
        change AccountKept settings (store.users.get? id) _
        simp only [StoreRow.read, row]
        split
        · rename_i isUser
          subst isUser
          intro before found
          exact ⟨user, rfl, kept before found⟩
        · exact .refl _
    | _ => trivial
  · intro resource free other
    cases resource with
    | adminInvariant =>
        cases other with
        | user id =>
            change AddsNoAdmin settings (store.users.get? id) _
            simp only [StoreRow.read, row]
            split
            · rename_i isUser
              subst isUser
              intro after isAfter admin
              obtain rfl := Option.some.inj isAfter
              rcases Option.isSome_iff_exists.mp (adds free admin) with
                ⟨before, found⟩
              exact ⟨before, found, (kept before found).2.mp admin⟩
            · exact .refl _
        | _ => trivial
    | user userId =>
        cases other with
        | link id => exact AddsNoLink.refl _
        | _ => trivial
    | _ => trivial

/-- A write of no account is granted when links are added under their locks. -/
theorem role_granted_of_users
    (sameUsers : (Store.apply write store).users = store.users)
    (links :
      ∀ userId, ¬ Locked locks (.user userId) →
        ∀ id,
          AddsNoLink userId (store.links.get? id)
            ((Store.apply write store).links.get? id)) :
    (roleRules settings).protection.Granted locks store
      (Store.apply write store) := by
  refine RowRules.granted_of_rows ?_ ?_
  · intro other
    cases other with
    | user id =>
        change AccountKept settings (store.users.get? id) _
        simp only [StoreRow.read, sameUsers]
        exact .refl _
    | _ => trivial
  · intro resource free other
    cases resource with
    | adminInvariant =>
        cases other with
        | user id =>
            change AddsNoAdmin settings (store.users.get? id) _
            simp only [StoreRow.read, sameUsers]
            exact .refl _
        | _ => trivial
    | user userId =>
        cases other with
        | link id => exact links userId free id
        | _ => trivial
    | _ => trivial

/-- Writes of other tables leave the accounts. -/
theorem users_apply
    (elsewhere : ∀ user, write ≠ .putUser user) :
    (Store.apply write store).users = store.users := by
  cases write with
  | putUser user => exact absurd rfl (elsewhere user)
  | _ => rfl

/-- A link that a permitted statement adds belongs to an account it locks. -/
theorem addsNoLink_of_mayWriteLink
    {userId id : Uuid}
    (may : statement.MayWriteLink store write)
    (locked :
      ∀ link, statement = .insertEmailLink link → link.userId ≠ userId) :
    AddsNoLink userId (store.links.get? id)
      ((Store.apply write store).links.get? id) := by
  intro link found owned
  cases may.row id with
  | kept same => exact ⟨link, same.symm.trans found, owned⟩
  | inserted issues _ _ _ isRow =>
      obtain rfl := Option.some.inj (isRow.symm.trans found)
      exact absurd owned (locked _ issues)
  | @moved before after foundBefore moves _ isRow =>
      obtain rfl := Option.some.inj (isRow.symm.trans found)
      refine ⟨before, foundBefore, ?_⟩
      rw [← owned]
      exact (EmailLink.of_asIssued EmailLink.userId (fun _ => rfl)
          moves.moves.asIssued_eq).symm
  | removed _ _ _ isRow => cases isRow.symm.trans found

/-- The one row that a permitted statement may write is granted. -/
theorem role_granted_of_mayWrite
    (held : standing.locks ⊆ locks)
    (permitted :
      (bootstrapDiscipline env founded).permits call standing statement)
    (sane : RolesSane env.settings founded view)
    (sees :
      ∀ user, statement = .insertUser user ∨ statement = .updateUser user →
        view = standing.view)
    (may : statement.MayWrite view write ∧ statement.MayWriteLink view write) :
    (roleRules env.settings).protection.Granted locks view
      (Store.apply write view) := by
  by_cases isUser : ∃ user, write = .putUser user
  · rcases isUser with ⟨user, rfl⟩
    rcases may.1.putUser_cases with ⟨rfl, absent⟩ | rfl
    · refine role_granted_putUser ?_ ?_
      · intro before found
        rw [absent] at found
        cases found
      · intro free admin
        have locked := ((permitted.2 : _ → _) admin).locked
        exact absurd (locked.mono held) free
    · obtain rfl := sees user (.inr rfl)
      obtain ⟨before, stored, email, role⟩ :=
        permitted.2.sameRole permitted.1.1 sane
      refine role_granted_putUser ?_ ?_
      · intro current found
        obtain rfl := Option.some.inj (stored.symm.trans found)
        exact ⟨email, role⟩
      · intro _ _
        rw [stored]
        rfl
  · refine role_granted_of_users (users_apply (not_exists.mp isUser)) ?_
    intro userId free id
    refine addsNoLink_of_mayWriteLink may.2 ?_
    rintro link rfl owned
    exact free (owned ▸ permitted.2.1.mono held)

/-- Permitted statements write only what the rules of the role grant. -/
theorem roleDiscipline_protects :
    Protection.Protects ((roleDiscipline env founded).protection env)
      (bootstrapDiscipline env founded).permits
      (bootstrapDiscipline env founded).sane where
  point := by
    intro call standing statement locks effect executes permitted sane
    have users := Store.execution_writes statement
    have links := Store.execution_writesLinks statement
    have isPoint : Store.execution statement = .point locks effect := executes
    rw [isPoint] at users links
    exact ((users standing.view).and (links standing.view)).apply_cases
      (.refl _ _)
      fun write may =>
        role_granted_of_mayWrite (List.subset_append_left _ _) permitted
          sane.2 (fun _ _ => rfl) may
  visit := by
    intro call standing gained statement targets lock touch answer target view
      executes permitted sane
    have users := Store.execution_writes statement
    have links := Store.execution_writesLinks statement
    have isSweep :
        Store.execution statement = .sweep targets lock touch answer :=
      executes
    rw [isSweep] at users links
    have held : standing.locks ⊆ standing.locks ++ gained ++ [lock target] :=
      List.subset_append_of_subset_left _ (List.subset_append_left _ _)
    refine ((users target view).and (links target view)).apply_cases
      (.refl _ _) fun write may =>
        role_granted_of_mayWrite held permitted sane.2 ?_ may
    rintro user (rfl | rfl)
    · cases isSweep
    · cases isSweep

/-- The services write only what both disciplines grant. -/
theorem bootstrapDiscipline_protects :
    Protection.Protects ((bootstrapDiscipline env founded).protection env)
      (bootstrapDiscipline env founded).permits
      (bootstrapDiscipline env founded).sane :=
  Discipline.protects_meet
    (accountDiscipline_protects.mono (fun _ _ _ permitted => permitted.1)
      fun _ _ => trivial)
    roleDiscipline_protects

/-! ## Sane views -/

/-- An administrator was one before a write, or is inserted by it. -/
theorem AdminAt.of_mayWrite
    {id : Uuid}
    (sane : RolesSane env.settings founded view)
    (permitted :
      (bootstrapDiscipline env founded).permits call standing statement)
    (sees :
      ∀ locks effect, Store.execution statement = .point locks effect →
        view = standing.view)
    (may : statement.MayWrite view write)
    (admin : AdminAt env.settings (Store.apply write view) id) :
    AdminAt env.settings view id ∨
      Founds env founded call { standing with view := view } id := by
  rcases admin with ⟨user, found, isAdmin⟩
  by_cases isUser : ∃ user, write = .putUser user
  · rcases isUser with ⟨updated, rfl⟩
    have row :
        (Store.apply (.putUser updated) view).users.get? id =
          if id = updated.id then some updated else view.users.get? id :=
      Table.get?_put view.users updated id
    rw [row] at found
    split at found
    · rename_i isUpdated
      obtain rfl := Option.some.inj found
      rw [isUpdated]
      rcases may.putUser_cases with ⟨rfl, _⟩ | rfl
      · obtain rfl := sees _ _ rfl
        exact .inr ((permitted.2 : _ → _) isAdmin)
      · obtain rfl := sees _ _ rfl
        obtain ⟨before, stored, _, role⟩ :=
          permitted.2.sameRole permitted.1.1 sane
        exact .inl ⟨before, stored, role.mp isAdmin⟩
    · exact .inl ⟨user, found, isAdmin⟩
  · rw [users_apply (not_exists.mp isUser)] at found
    exact .inl ⟨user, found, isAdmin⟩

/-- What a permitted statement writes keeps views sane. -/
theorem RolesSane.of_mayWrite
    (sane : RolesSane env.settings founded view)
    (permitted :
      (bootstrapDiscipline env founded).permits call standing statement)
    (sees :
      ∀ locks effect, Store.execution statement = .point locks effect →
        view = standing.view)
    (may : statement.MayWrite view write ∧ statement.MayWriteLink view write) :
    RolesSane env.settings founded (Store.apply write view) where
  owned := by
    intro id link found
    have stays :
        ∀ id, (view.users.get? id).isSome = true →
          ((Store.apply write view).users.get? id).isSome = true := by
      intro id isStored
      cases write with
      | putUser user =>
          change ((view.users.put user).get? id).isSome = true
          rw [Table.get?_put]
          split
          · rfl
          · exact isStored
      | _ => exact isStored
    cases may.2.row id with
    | kept same => exact stays _ (sane.owned id link (same.symm.trans found))
    | @inserted inserted issues _ _ _ isRow =>
        obtain rfl := Option.some.inj (isRow.symm.trans found)
        subst issues
        obtain rfl := sees _ _ rfl
        exact stays _ permitted.2.2
    | @moved before after foundBefore moves _ isRow =>
        obtain rfl := Option.some.inj (isRow.symm.trans found)
        rw [EmailLink.of_asIssued EmailLink.userId (fun _ => rfl)
            moves.moves.asIssued_eq]
        exact stays _ (sane.owned id before foundBefore)
    | removed _ _ _ isRow => cases isRow.symm.trans found
  founded := by
    intro id admin
    rcases admin.of_mayWrite sane permitted sees may.1 with before | founds
    · exact sane.founded id before
    · exact founds.founded
  single := by
    intro id other admin another
    rcases admin.of_mayWrite sane permitted sees may.1 with before | founds
    · rcases another.of_mayWrite sane permitted sees may.1 with
        beforeToo | foundsToo
      · exact sane.single id other before beforeToo
      · exact absurd ⟨id, before⟩ foundsToo.first
    · rcases another.of_mayWrite sane permitted sees may.1 with
        beforeToo | foundsToo
      · exact absurd ⟨other, beforeToo⟩ founds.first
      · exact Option.some.inj
          (founds.bootstraps.symm.trans foundsToo.bootstraps)

/-- An administrator of a merged view is one of either side. -/
theorem AdminAt.of_merges
    {id : Uuid}
    (merges : (roleRules settings).protection.Merges base first second merged)
    (admin : AdminAt settings merged id) :
    AdminAt settings first id ∨ AdminAt settings second id := by
  rcases admin with ⟨user, found, isAdmin⟩
  have sides :
      (first.users.get? id = base.users.get? id ∧
          merged.users.get? id = second.users.get? id) ∨
        (second.users.get? id = base.users.get? id ∧
          merged.users.get? id = first.users.get? id) :=
    RowRules.read_of_merges merges (.user id)
  rcases sides with ⟨_, taken⟩ | ⟨_, taken⟩
  · exact .inr ⟨user, taken.symm.trans found, isAdmin⟩
  · exact .inl ⟨user, taken.symm.trans found, isAdmin⟩

/-- An administrator stays one. -/
theorem AdminAt.of_changed
    {id : Uuid}
    (changed : (roleRules settings).protection.Changed first second)
    (admin : AdminAt settings first id) :
    AdminAt settings second id := by
  rcases admin with ⟨user, found, isAdmin⟩
  have kept :
      AccountKept settings (first.users.get? id) (second.users.get? id) :=
    RowRules.changes_of_changed changed (.user id)
  rcases kept user found with ⟨later, isLater, _, role⟩
  exact ⟨later, isLater, role.mpr isAdmin⟩

/-- Without the advisory lock, no account becomes an administrator. -/
theorem AdminAt.of_spared
    {id : Uuid}
    (spared :
      (roleRules settings).protection.Spared .adminInvariant first second)
    (admin : AdminAt settings second id) :
    AdminAt settings first id := by
  rcases admin with ⟨user, found, isAdmin⟩
  have adds :
      AddsNoAdmin settings (first.users.get? id) (second.users.get? id) :=
    RowRules.spares_of_spared spared (.user id)
  exact adds user found isAdmin

/-- Merged views are sane. -/
theorem RolesSane.of_merges
    (merges : (roleRules settings).protection.Merges base first second merged)
        (saneFirst : RolesSane settings founded first)
    (saneSecond : RolesSane settings founded second) :
    RolesSane settings founded merged where
  owned := by
    intro id link found
    have stays :
        ((first.users.get? link.userId).isSome = true ∨
            (second.users.get? link.userId).isSome = true) →
          (merged.users.get? link.userId).isSome = true := by
      intro stored
      have keptFirst :
          AccountKept settings (base.users.get? link.userId)
            (first.users.get? link.userId) :=
        RowRules.changes_of_changed merges.changed.1 (.user link.userId)
      have keptSecond :
          AccountKept settings (base.users.get? link.userId)
            (second.users.get? link.userId) :=
        RowRules.changes_of_changed merges.changed.2 (.user link.userId)
      have exists_ :
          ∀ {before after : Option UserAccount},
            AccountKept settings before after →
              before.isSome = true → after.isSome = true := by
        intro before after kept isStored
        rcases Option.isSome_iff_exists.mp isStored with ⟨user, isUser⟩
        rcases kept user isUser with ⟨later, isLater, _⟩
        rw [isLater]
        rfl
      have sides :
          (first.users.get? link.userId = base.users.get? link.userId ∧
              merged.users.get? link.userId =
                second.users.get? link.userId) ∨
            (second.users.get? link.userId = base.users.get? link.userId ∧
              merged.users.get? link.userId = first.users.get? link.userId) :=
        RowRules.read_of_merges merges (.user link.userId)
      rcases sides with ⟨unwritten, taken⟩ | ⟨unwritten, taken⟩
      · rw [taken]
        rcases stored with inFirst | inSecond
        · exact exists_ keptSecond (unwritten ▸ inFirst)
        · exact inSecond
      · rw [taken]
        rcases stored with inFirst | inSecond
        · exact inFirst
        · exact exists_ keptFirst (unwritten ▸ inSecond)
    have sides :
        (first.links.get? id = base.links.get? id ∧
            merged.links.get? id = second.links.get? id) ∨
          (second.links.get? id = base.links.get? id ∧
            merged.links.get? id = first.links.get? id) :=
      RowRules.read_of_merges merges (.link id)
    rcases sides with ⟨_, taken⟩ | ⟨_, taken⟩
    · exact stays
        (.inr (saneSecond.owned id link (taken.symm.trans found)))
    · exact stays (.inl (saneFirst.owned id link (taken.symm.trans found)))
  founded := by
    intro id admin
    rcases admin.of_merges merges with inFirst | inSecond
    · exact saneFirst.founded id inFirst
    · exact saneSecond.founded id inSecond
  single := by
    -- One of the sides spared the role; its administrators are the other's.
    have shared :
        (∀ id, AdminAt settings first id → AdminAt settings second id) ∨
          ∀ id, AdminAt settings second id → AdminAt settings first id := by
      rcases merges.spared .adminInvariant with spared | spared
      · exact .inl fun id admin =>
          (admin.of_spared spared).of_changed merges.changed.2
      · exact .inr fun id admin =>
          (admin.of_spared spared).of_changed merges.changed.1
    intro id other admin another
    rcases shared with inSecond | inFirst
    · exact saneSecond.single id other
        ((admin.of_merges merges).elim (inSecond id) fun given => given)
        ((another.of_merges merges).elim (inSecond other) fun given => given)
    · exact saneFirst.single id other
        ((admin.of_merges merges).elim (fun given => given) (inFirst id))
        ((another.of_merges merges).elim (fun given => given) (inFirst other))

/-- Whatever is permitted keeps all views sane. -/
theorem bootstrap_sane_kept :
    Protection.Preserves ((bootstrapDiscipline env founded).protection env)
      (bootstrapDiscipline env founded).permits
      (bootstrapDiscipline env founded).sane (fun _ => True)
      (bootstrapDiscipline env founded).sane where
  point := by
    intro call standing statement locks effect _ executes permitted sane _
    have users := Store.execution_writes statement
    have links := Store.execution_writesLinks statement
    have isPoint : Store.execution statement = .point locks effect := executes
    rw [isPoint] at users links
    exact ((users standing.view).and (links standing.view)).apply_cases sane
      fun write may =>
        ⟨trivial, sane.2.of_mayWrite permitted (fun _ _ _ => rfl) may⟩
  visit := by
    intro call standing gained statement targets lock touch answer target view
      executes permitted sane _ _
    have users := Store.execution_writes statement
    have links := Store.execution_writesLinks statement
    have isSweep :
        Store.execution statement = .sweep targets lock touch answer :=
      executes
    rw [isSweep] at users links
    refine ((users target view).and (links target view)).apply_cases sane
      fun write may => ⟨trivial, sane.2.of_mayWrite permitted ?_ may⟩
    intro locks effect isPoint
    rw [isSweep] at isPoint
    cases isPoint
  merge := by
    intro base first second merged merges _ saneFirst saneSecond
    exact ⟨trivial,
      .of_merges (RowRules.merges_meet merges).2 saneFirst.2 saneSecond.2⟩

end EpokAuth
