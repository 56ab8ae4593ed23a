import EpokAuth.AccountConduct
import EpokAuth.DisciplineMeet
import EpokAuth.LinkMove

namespace EpokAuth

open Transactional

/-!
# The discipline of the administrator role

Only the calls that bootstrap an administrator insert an account that holds the
role; they do so under the advisory lock, while no account holds it.  No other
call grants the role or takes it away.  Links are issued to accounts that are
locked and stored, so that an account that was just inserted has none.
-/

/-! ## How rows change -/

/-- The account holds the administrator role, whatever its status. -/
abbrev UserAccount.IsAdmin
    (settings : AuthSettings)
    (user : UserAccount) :
    Prop :=
  settings.adminRole ∈ user.roles

/-- An account stays, with its address and its share in administration. -/
def AccountKept
    (settings : AuthSettings)
    (before after : Option UserAccount) :
    Prop :=
  ∀ user, before = some user →
    ∃ later,
      after = some later ∧ later.email = user.email ∧
        (later.IsAdmin settings ↔ user.IsAdmin settings)

/-- Without the advisory lock, no administrator is added. -/
def AddsNoAdmin
    (settings : AuthSettings)
    (before after : Option UserAccount) :
    Prop :=
  ∀ user, after = some user → user.IsAdmin settings →
    ∃ earlier, before = some earlier ∧ earlier.IsAdmin settings

/-- Without the lock of its account, no link is added. -/
def AddsNoLink (userId : Uuid) (before after : Option EmailLink) : Prop :=
  ∀ link, after = some link → link.userId = userId →
    ∃ earlier, before = some earlier ∧ earlier.userId = userId

theorem AccountKept.refl
    {settings : AuthSettings}
    (row : Option UserAccount) :
    AccountKept settings row row :=
  fun user found => ⟨user, found, rfl, Iff.rfl⟩

theorem AccountKept.trans
    {settings : AuthSettings}
    {first second third : Option UserAccount}
    (earlier : AccountKept settings first second)
    (later : AccountKept settings second third) :
    AccountKept settings first third := by
  intro user found
  rcases earlier user found with ⟨middle, foundMiddle, email, role⟩
  rcases later middle foundMiddle with ⟨last, foundLast, emailToo, roleToo⟩
  exact ⟨last, foundLast, emailToo.trans email, roleToo.trans role⟩

theorem AddsNoAdmin.refl
    {settings : AuthSettings}
    (row : Option UserAccount) :
    AddsNoAdmin settings row row :=
  fun user found admin => ⟨user, found, admin⟩

theorem AddsNoAdmin.trans
    {settings : AuthSettings}
    {first second third : Option UserAccount}
    (earlier : AddsNoAdmin settings first second)
    (later : AddsNoAdmin settings second third) :
    AddsNoAdmin settings first third := by
  intro user found admin
  rcases later user found admin with ⟨middle, foundMiddle, adminToo⟩
  exact earlier middle foundMiddle adminToo

theorem AddsNoLink.refl
    {userId : Uuid}
    (row : Option EmailLink) :
    AddsNoLink userId row row :=
  fun link found owned => ⟨link, found, owned⟩

theorem AddsNoLink.trans
    {userId : Uuid}
    {first second third : Option EmailLink}
    (earlier : AddsNoLink userId first second)
    (later : AddsNoLink userId second third) :
    AddsNoLink userId first third := by
  intro link found owned
  rcases later link found owned with ⟨middle, foundMiddle, ownedToo⟩
  exact earlier middle foundMiddle ownedToo

/-- What a transaction may do to the role and to links. -/
def roleRules (settings : AuthSettings) : RowRules where
  changes := fun row =>
    match row with
    | .user _ => AccountKept settings
    | _ => fun _ _ => True
  changes_refl := by
    intro row seen
    cases row with
    | user id => exact AccountKept.refl seen
    | _ => trivial
  changes_trans := by
    intro row first second third earlier later
    cases row with
    | user id => exact AccountKept.trans earlier later
    | _ => trivial
  spares := fun resource row =>
    match resource, row with
    | .adminInvariant, .user _ => AddsNoAdmin settings
    | .user userId, .link _ => AddsNoLink userId
    | _, _ => fun _ _ => True
  spares_refl := by
    intro resource row seen
    split
    · exact AddsNoAdmin.refl _
    · exact AddsNoLink.refl _
    · trivial
  spares_trans := by
    intro resource row first second third earlier later
    split at *
    · exact AddsNoAdmin.trans earlier later
    · exact AddsNoLink.trans earlier later
    · trivial

/-! ## What is true of every view -/

/-- An account that is stored holds the administrator role. -/
def AdminAt (settings : AuthSettings) (store : Store) (id : Uuid) : Prop :=
  ∃ user, store.users.get? id = some user ∧ user.IsAdmin settings

/-- Some account holds the administrator role. -/
def HasAdmin (settings : AuthSettings) (store : Store) : Prop :=
  ∃ id, AdminAt settings store id

/-- Every link belongs to an account that is stored. -/
def LinksOwned (store : Store) : Prop :=
  ∀ id link, store.links.get? id = some link →
    (store.users.get? link.userId).isSome = true

/--
Links belong to stored accounts, and there is at most one administrator, whose
account was to be founded.
-/
structure RolesSane
    (settings : AuthSettings)
    (founded : Uuid → Prop)
    (store : Store) :
    Prop where
  owned : LinksOwned store
  founded : ∀ id, AdminAt settings store id → founded id
  single :
    ∀ id other, AdminAt settings store id → AdminAt settings store other →
      id = other

/-! ## What a transaction may issue -/

namespace ServiceTx

/-- The account of the administrator that the call would bootstrap. -/
def bootstraps : ServiceTx → Option Uuid
  | .createAdmin id .. => some id
  | .ensureInitialAdmin _ id .. => some id
  | _ => none

/--
The call grants the role to nobody, and does not name the roles of an account
that was to be founded.
-/
def SparesRoles
    (env : Environment)
    (founded : Uuid → Prop) :
    ServiceTx → Prop
  | .createUser _ _ _ _ roles .. => env.settings.adminRole ∉ roles
  | .provision _ _ _ _ roles .. => env.settings.adminRole ∉ roles
  | .updateUser userId update .. =>
      ∀ requested, update.roles = some requested →
        ¬ founded userId ∧
          ∀ roles,
            normalizeCapabilities env.text requested env.settings.maxRoles =
                .ok roles →
              env.settings.adminRole ∉ roles
  | _ => True

end ServiceTx

section Permissions

variable
  (env : Environment)
  (founded : Uuid → Prop)
  (call : ServiceTx)
  (standing : ServiceStanding)

/-- An administrator is inserted under the advisory lock, as the first one. -/
structure Founds (id : Uuid) : Prop where
  bootstraps : call.bootstraps = some id
  founded : founded id
  locked : Locked standing.locks .adminInvariant
  first : ¬ HasAdmin env.settings standing.view

/-- An account is updated by a call that leaves the role where it is. -/
structure LeavesRole (updated : UserAccount) : Prop where
  bootstraps : call.bootstraps = none
  spares : call.SparesRoles env founded
  named :
    ∀ userId update now context,
      call = .updateUser userId update now context → updated.id = userId

/-- What a call may do to accounts that have the role, or are to have it. -/
def rolePermits : Statement → Prop
  | .insertUser user =>
      user.IsAdmin env.settings → Founds env founded call standing user.id
  | .updateUser updated => LeavesRole env founded call updated
  | .insertEmailLink link =>
      Locked standing.locks (.user link.userId) ∧
        (standing.view.users.get? link.userId).isSome = true
  | _ => True

end Permissions

/-- The discipline of calls about the role of administrators. -/
def roleDiscipline
    (env : Environment)
    (founded : Uuid → Prop) :
    Discipline where
  rules := roleRules env.settings
  permits := rolePermits env founded
  sane := RolesSane env.settings founded
  concerns := [.enrolls, .updatesUser, .changesLinks]
  unconcerned := by
    intro call standing statement harmless
    have concerned :
        ∀ kind, statement.kind = some kind →
          kind ∈ ([.enrolls, .updatesUser, .changesLinks] :
            List StatementKind) → False :=
      fun kind same member => harmless kind same member
    cases statement with
    | insertUser user => exact (concerned _ rfl (by decide)).elim
    | updateUser user => exact (concerned _ rfl (by decide)).elim
    | insertEmailLink link => exact (concerned _ rfl (by decide)).elim
    | _ => trivial

/-- The services keep the disciplines of accounts and of the role. -/
abbrev bootstrapDiscipline
    (env : Environment)
    (founded : Uuid → Prop) :
    Discipline :=
  (accountDiscipline env).meet (roleDiscipline env founded)

end EpokAuth
