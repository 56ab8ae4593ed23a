import EpokAuth.DisciplinedParts
import EpokAuth.LinkMove
import EpokAuth.ServiceRun

namespace EpokAuth

open Transactional

/-!
# The discipline of email links

Links of an account are issued, delivered and consumed under the lock of the
account; only a failed delivery and the removal of old links go without it.
Whoever holds the account therefore knows all its links that are pending or
active.  What was issued under which identifier is given by a book, so that a
link is recognised by its identifier in every view.
-/

/-! ## How rows change -/

/-- An account that exists stays. -/
def UserStays (before after : Option UserAccount) : Prop :=
  before.isSome = true → after.isSome = true

/-- The row, if it was issued to an account. -/
def ownLink (userId : Uuid) (row : Option EmailLink) : Option EmailLink :=
  row.filter fun link => link.userId = userId

/-- Without the lock of its account, a link fails or is removed, at most. -/
inductive LinkSpared
    (userId : Uuid)
    (before after : Option EmailLink) :
    Prop where
  | kept (same : ownLink userId after = ownLink userId before)
  | gone (none : ownLink userId after = none)
  | failed
      {link : EmailLink}
      (now : Instant)
      (pending : link.state = .pending)
      (found : ownLink userId before = some link)
      (fails : ownLink userId after = some (Store.failLinkAt now link))

theorem ownLink_eq_some_iff
    {userId : Uuid}
    {row : Option EmailLink}
    {link : EmailLink} :
    ownLink userId row = some link ↔ row = some link ∧ link.userId = userId := by
  simp [ownLink, Option.filter_eq_some_iff]

theorem ownLink_of_other
    {userId : Uuid}
    {link : EmailLink}
    (other : link.userId ≠ userId) :
    ownLink userId (some link) = none :=
  Option.filter_some_neg (by simpa using other)

namespace LinkSpared

variable
  {userId : Uuid}
  {first second third : Option EmailLink}

theorem refl (row : Option EmailLink) : LinkSpared userId row row :=
  .kept rfl

theorem trans
    (earlier : LinkSpared userId first second)
    (later : LinkSpared userId second third) :
    LinkSpared userId first third := by
  cases later with
  | kept same =>
      cases earlier with
      | kept sameToo => exact .kept (same.trans sameToo)
      | gone none => exact .gone (same.trans none)
      | failed now pending found fails =>
          exact .failed now pending found (same.trans fails)
  | gone none =>
      exact .gone none
  | failed now pending found fails =>
      cases earlier with
      | kept same =>
          exact .failed now pending (same ▸ found) fails
      | gone none =>
          rw [none] at found
          cases found
      | failed at_ pendingToo foundToo failsToo =>
          -- a link whose delivery failed is not pending
          obtain rfl := Option.some.inj (failsToo.symm.trans found)
          cases pending

/-- A row of the account was there before, unchanged unless it failed. -/
theorem source
    {link : EmailLink}
    (spared : LinkSpared userId first second)
    (found : second = some link)
    (owned : link.userId = userId) :
    ∃ earlier,
      first = some earlier ∧ earlier.asIssued = link.asIssued ∧
        (link.state.Unused → earlier = link) := by
  have own : ownLink userId second = some link :=
    ownLink_eq_some_iff.mpr ⟨found, owned⟩
  cases spared with
  | kept same =>
      have before := ownLink_eq_some_iff.mp (same.symm.trans own)
      exact ⟨link, before.1, rfl, fun _ => rfl⟩
  | gone none =>
      cases none.symm.trans own
  | failed now pending foundFirst fails =>
      obtain rfl := Option.some.inj (fails.symm.trans own)
      have before := ownLink_eq_some_iff.mp foundFirst
      refine ⟨_, before.1, rfl, fun unused => ?_⟩
      rcases unused with isPending | isActive
      · cases isPending
      · cases isActive

/-- Rows of other accounts are spared. -/
theorem of_other
    (before :
      ∀ link, first = some link → link.userId ≠ userId)
    (after :
      ∀ link, second = some link → link.userId ≠ userId) :
    LinkSpared userId first second := by
  have other :
      ∀ {row : Option EmailLink},
        (∀ link, row = some link → link.userId ≠ userId) →
          ownLink userId row = none := by
    intro row elsewhere
    cases row with
    | none => rfl
    | some link => exact ownLink_of_other (elsewhere link rfl)
  exact .kept ((other after).trans (other before).symm)

end LinkSpared

/-- What a transaction may do to accounts and links. -/
def linkRules : RowRules where
  changes := fun row =>
    match row with
    | .user _ => UserStays
    | _ => fun _ _ => True
  changes_refl := by
    intro row seen
    cases row with
    | user id => exact fun exists_ => exists_
    | _ => trivial
  changes_trans := by
    intro row first second third earlier later
    cases row with
    | user id => exact fun exists_ => later (earlier exists_)
    | _ => trivial
  spares := fun resource row =>
    match resource, row with
    | .user userId, .link _ => LinkSpared userId
    | _, _ => fun _ _ => True
  spares_refl := by
    intro resource row seen
    split
    · exact .refl _
    · trivial
  spares_trans := by
    intro resource row first second third earlier later
    split at *
    · exact LinkSpared.trans earlier later
    · trivial

/-- The protection under which the services keep the discipline of links. -/
abbrev linkProtection (env : Environment) :
    Protection (services env).engine :=
  linkRules.protection

/-! ## What is true of every view -/

/-- Links are what was issued, to accounts that exist, one of a generation. -/
structure LinksSane (book : Uuid → EmailLink) (store : Store) : Prop where
  issued :
    ∀ id link, store.links.get? id = some link → link.asIssued = book id
  owned :
    ∀ id link, store.links.get? id = some link →
      (store.users.get? link.userId).isSome = true
  generations :
    ∀ id other link another,
      store.links.get? id = some link →
      store.links.get? other = some another →
      link.userId = another.userId →
      link.purpose = another.purpose →
      link.generation = another.generation → id = other

/-! ## What a transaction may issue -/

/-- A token that is presented for some purpose, and by which browser. -/
structure Presentation where
  token : String
  purpose : EmailLinkPurpose
  now : Instant
  browserNonce : Option String
  deriving Repr, DecidableEq

namespace ServiceTx

/-- What a transaction presents that consumes a link. -/
def presents : ServiceTx → Option Presentation
  | .emailLinkLogin token browserNonce now _ _ =>
      some ⟨token, .login, now, some browserNonce⟩
  | .emailLinkResetPassword token _ now _ =>
      some ⟨token, .passwordReset, now, none⟩
  | .activateInvitation token _ now _ => some ⟨token, .invitation, now, none⟩
  | .activate token _ now _ => some ⟨token, .activation, now, none⟩
  | _ => none

/-- The purpose of the link that a transaction issues, and its browser. -/
def requesting : ServiceTx → Option (EmailLinkPurpose × Option String)
  | .requestLogin _ browserNonce _ _ _ => some (.login, some browserNonce)
  | .requestPasswordReset .. => some (.passwordReset, none)
  | .invite .. => some (.invitation, none)
  | .provision .. => some (.activation, none)
  | .ensureInitialAdmin .. => some (.activation, none)
  | .replaceActivation .. => some (.activation, none)
  | _ => none

end ServiceTx

section Permissions

variable
  (env : Environment)
  (call : ServiceTx)
  (standing : ServiceStanding)

/-- A link and its account are held. -/
structure HoldsBoth (link : EmailLink) (user : UserAccount) : Prop where
  holdsLink : HoldsRow standing (.link link.id) (some link)
  holdsUser : HoldsRow standing (.user user.id) (some user)
  owner : link.userId = user.id

/-- No link of the account for the purpose is of a higher generation. -/
def Newest (link : EmailLink) : Prop :=
  ∀ id other,
    standing.view.links.get? id = some other →
      Store.requestedFor link.userId link.purpose other = true →
        other.generation ≤ link.generation

/-- A link is issued to an account that is held, above all its other links. -/
structure Issues
    (user : UserAccount)
    (purpose : EmailLinkPurpose)
    (latest : Option EmailLink)
    (now : Instant)
    (browserNonce : Option String)
    (draws : LinkDraws)
    (link : EmailLink) :
    Prop where
  owner : HoldsRow standing (.user user.id) (some user)
  clock : call.clock = some now
  requested : call.requesting = some (purpose, browserNonce)
  eligible : canRequest env.settings user purpose now = true
  link_eq :
    link =
      issuedLink env.toDependencies user purpose latest now browserNonce draws
  above :
    ∀ id other,
      standing.view.links.get? id = some other →
        Store.requestedFor user.id purpose other = true →
          other.generation < link.generation

/-- A link is delivered that is pending, newest and bound to its account. -/
structure Delivers
    (link : EmailLink)
    (user : UserAccount)
    (now : Instant) :
    Prop where
  reported : call = .markDelivered link.id now
  holds : HoldsBoth standing link user
  pending : link.state = .pending
  bound : boundTo env.toDependencies link user now = .ok true
  newest : Newest standing link

/-- A link that was just delivered replaces the others of its purpose. -/
structure Replaces (link : EmailLink) (now : Instant) : Prop where
  reported : call = .markDelivered link.id now
  holds : HoldsRow standing (.link link.id) (some link)
  owner : Locked standing.locks (.user link.userId)
  active : link.state = .active
  activated : Write.putLink link ∈ standing.issued
  newest : Newest standing link

/-- A link is presented by its token for its purpose. -/
structure Presents (presentation : Presentation) (link : EmailLink) :
    Prop where
  call : call.presents = some presentation
  token : link.tokenHash = env.tokenHash presentation.token
  purpose : link.purpose = presentation.purpose

/-- A link is presented that does not match its account any more. -/
structure Dismisses
    (presentation : Presentation)
    (link : EmailLink)
    (user : UserAccount) :
    Prop where
  presented : Presents env call presentation link
  holds : HoldsBoth standing link user
  active : link.state = .active
  unmatched :
    matchesUser env.toDependencies link user presentation.now = .ok false

/-- A link is presented that matches its account and the browser. -/
structure Redeems
    (presentation : Presentation)
    (link : EmailLink)
    (user : UserAccount) :
    Prop where
  presented : Presents env call presentation link
  holds : HoldsBoth standing link user
  matched :
    matchesUser env.toDependencies link user presentation.now = .ok true
  browser :
    presentation.purpose = .login →
      validBrowser env.toDependencies link presentation.browserNonce = .ok true

/-- A link is revoked when its delivery is reported, or when it is presented. -/
def Retires (linkId : Uuid) (now : Instant) : Prop :=
  (call = .markDelivered linkId now ∧
      ∃ link user, link.id = linkId ∧ HoldsBoth standing link user) ∨
    ∃ presentation link user,
      link.id = linkId ∧ presentation.now = now ∧
        Dismisses env call standing presentation link user

/-- What a call may do to links. -/
def linkPermits : Statement → Prop
  | .insertEmailLink link =>
      ∃ user purpose latest now browserNonce draws,
        Issues env call standing user purpose latest now browserNonce draws
          link
  | .activateEmailLink linkId now =>
      ∃ link user, link.id = linkId ∧ Delivers env call standing link user now
  | .failEmailLink linkId now => call = .markDeliveryFailed linkId now
  | .revokeEmailLink linkId now => Retires env call standing linkId now
  | .revokeOtherActiveEmailLinks userId purpose linkId now =>
      ∃ link,
        link.id = linkId ∧ link.userId = userId ∧ link.purpose = purpose ∧
          Replaces call standing link now
  | .consumeEmailLink linkId purpose now =>
      ∃ presentation link user,
        link.id = linkId ∧ link.purpose = purpose ∧ presentation.now = now ∧
          Redeems env call standing presentation link user
  | .deleteOldEmailLinks before =>
      ∃ now,
        call.clock = some now ∧
          before = now - seconds env.settings.emailLinkRetentionSeconds
  | _ => True

end Permissions

/-- The discipline of calls about the links they change. -/
def linkDiscipline
    (env : Environment)
    (book : Uuid → EmailLink) :
    Discipline where
  rules := linkRules
  permits := linkPermits env
  sane := LinksSane book
  concerns := [.changesLinks]
  unconcerned := by
    intro call standing statement harmless
    have concerned : statement.kind ≠ some .changesLinks :=
      fun same => harmless _ same List.mem_cons_self
    cases statement with
    | insertEmailLink link => exact absurd rfl concerned
    | activateEmailLink linkId now => exact absurd rfl concerned
    | failEmailLink linkId now => exact absurd rfl concerned
    | revokeEmailLink linkId now => exact absurd rfl concerned
    | revokeOtherActiveEmailLinks userId purpose linkId now =>
        exact absurd rfl concerned
    | consumeEmailLink linkId purpose now => exact absurd rfl concerned
    | deleteOldEmailLinks before => exact absurd rfl concerned
    | _ => trivial

end EpokAuth
