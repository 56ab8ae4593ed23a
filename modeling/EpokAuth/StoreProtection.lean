import EpokAuth.ConcurrentServices
import EpokAuth.LockProtection

namespace EpokAuth

open Transactional

/-!
# The rows of the store

Every row of every table is observed on its own, and is locked on its own.
Rules say how a transaction may change a row at all, and how it may change one
without holding some lock.
-/

/-! ## Rows -/

/-- How one write may change a table: not at all, or one row of it. -/
inductive Write.Affects
    {Row : Type}
    [Keyed Row Uuid]
    (table : Store → Table Row)
    (resource : Uuid → Resource)
    (write : Write) :
    Prop where
  | leaves (same : ∀ store, table (Store.apply write store) = table store)
  | puts
      (row : Row)
      (guards : write.resource = some (resource (key row)))
      (changed :
        ∀ store, table (Store.apply write store) = (table store).put row)
  | erases
      (id : Uuid)
      (guards : write.resource = some (resource id))
      (changed :
        ∀ store, table (Store.apply write store) = (table store).erase id)

/-- The row of a table, which writes of other rows leave alone. -/
def tableRow
    {Row : Type}
    [Keyed Row Uuid]
    (table : Store → Table Row)
    (resource : Uuid → Resource)
    (affects : ∀ write : Write, write.Affects table resource)
    (id : Uuid) :
    Observation Store.engine (resource id) (Option Row) where
  observe := fun store => (table store).get? id
  unguarded := by
    intro write store elsewhere
    change (table (Store.apply write store)).get? id = _
    cases affects write with
    | leaves same =>
        rw [same]
    | puts row guards changed =>
        rw [changed]
        refine Table.get?_put_of_ne (table store) ?_
        rintro rfl
        exact elsewhere guards
    | erases other guards changed =>
        rw [changed, Table.get?_erase, if_neg]
        rintro rfl
        exact elsewhere guards
  congr := by
    intro write first second same
    change
      (table (Store.apply write first)).get? id =
        (table (Store.apply write second)).get? id
    cases affects write with
    | leaves same' =>
        rw [same', same']
        exact same
    | puts row _ changed =>
        rw [changed, changed, Table.get?_put, Table.get?_put, same]
    | erases other _ changed =>
        rw [changed, changed, Table.get?_erase, Table.get?_erase, same]

/-- The rows of the store that concurrent transactions look at. -/
inductive StoreRow where
  | user (id : Uuid)
  | session (id : Uuid)
  | link (id : Uuid)
  | identity (id : Uuid)
  | passkey (id : Uuid)
  | passkeyChallenge (id : Uuid)
  | googleChallenge (id : Uuid)
  deriving Repr, DecidableEq

namespace StoreRow

/-- What is seen of a row. -/
abbrev Seen : StoreRow → Type
  | .user _ => Option UserAccount
  | .session _ => Option RefreshSession
  | .link _ => Option EmailLink
  | .identity _ => Option ExternalIdentity
  | .passkey _ => Option PasskeyCredential
  | .passkeyChallenge _ => Option PasskeyChallenge
  | .googleChallenge _ => Option GoogleChallenge

/-- The resource that is locked with a row. -/
def resource : StoreRow → Resource
  | .user id => .user id
  | .session id => .session id
  | .link id => .link id
  | .identity id => .identity id
  | .passkey id => .passkey id
  | .passkeyChallenge id => .passkeyChallenge id
  | .googleChallenge id => .googleChallenge id

theorem userAffects (write : Write) :
    write.Affects (fun store => store.users) .user := by
  cases write with
  | putUser user => exact .puts user rfl fun _ => rfl
  | _ => exact .leaves fun _ => rfl

theorem sessionAffects (write : Write) :
    write.Affects (fun store => store.sessions) .session := by
  cases write with
  | putSession session => exact .puts session rfl fun _ => rfl
  | _ => exact .leaves fun _ => rfl

theorem linkAffects (write : Write) :
    write.Affects (fun store => store.links) .link := by
  cases write with
  | putLink link => exact .puts link rfl fun _ => rfl
  | eraseLink id => exact .erases id rfl fun _ => rfl
  | _ => exact .leaves fun _ => rfl

theorem identityAffects (write : Write) :
    write.Affects (fun store => store.identities) .identity := by
  cases write with
  | putIdentity identity => exact .puts identity rfl fun _ => rfl
  | eraseIdentity id => exact .erases id rfl fun _ => rfl
  | _ => exact .leaves fun _ => rfl

theorem passkeyAffects (write : Write) :
    write.Affects (fun store => store.passkeys) .passkey := by
  cases write with
  | putPasskey passkey => exact .puts passkey rfl fun _ => rfl
  | _ => exact .leaves fun _ => rfl

theorem passkeyChallengeAffects (write : Write) :
    write.Affects (fun store => store.passkeyChallenges)
      .passkeyChallenge := by
  cases write with
  | putPasskeyChallenge challenge => exact .puts challenge rfl fun _ => rfl
  | erasePasskeyChallenge id => exact .erases id rfl fun _ => rfl
  | _ => exact .leaves fun _ => rfl

theorem googleChallengeAffects (write : Write) :
    write.Affects (fun store => store.googleChallenges)
      .googleChallenge := by
  cases write with
  | putGoogleChallenge challenge => exact .puts challenge rfl fun _ => rfl
  | eraseGoogleChallenge id => exact .erases id rfl fun _ => rfl
  | _ => exact .leaves fun _ => rfl

/-- The row as it is in a store. -/
def read : (row : StoreRow) → Store → row.Seen
  | .user id, store => store.users.get? id
  | .session id, store => store.sessions.get? id
  | .link id, store => store.links.get? id
  | .identity id, store => store.identities.get? id
  | .passkey id, store => store.passkeys.get? id
  | .passkeyChallenge id, store => store.passkeyChallenges.get? id
  | .googleChallenge id, store => store.googleChallenges.get? id

/-- Every row is observed on its own. -/
def observation :
    (row : StoreRow) → Observation Store.engine row.resource row.Seen
  | .user id => tableRow (fun store => store.users) .user userAffects id
  | .session id =>
      tableRow (fun store => store.sessions) .session sessionAffects id
  | .link id => tableRow (fun store => store.links) .link linkAffects id
  | .identity id =>
      tableRow (fun store => store.identities) .identity identityAffects id
  | .passkey id =>
      tableRow (fun store => store.passkeys) .passkey passkeyAffects id
  | .passkeyChallenge id =>
      tableRow (fun store => store.passkeyChallenges) .passkeyChallenge
        passkeyChallengeAffects id
  | .googleChallenge id =>
      tableRow (fun store => store.googleChallenges) .googleChallenge
        googleChallengeAffects id

/-- Observing a row is reading it. -/
theorem observe_observation (row : StoreRow) (store : Store) :
    row.observation.observe store = row.read store := by
  cases row <;> rfl

end StoreRow

/-- How the rows of the store may be changed. -/
structure RowRules where
  changes : (row : StoreRow) → row.Seen → row.Seen → Prop
  changes_refl : ∀ row seen, changes row seen seen
  changes_trans :
    ∀ row first second third,
      changes row first second → changes row second third →
        changes row first third
  spares : Resource → (row : StoreRow) → row.Seen → row.Seen → Prop
  spares_refl : ∀ resource row seen, spares resource row seen seen
  spares_trans :
    ∀ resource row first second third,
      spares resource row first second → spares resource row second third →
        spares resource row first third

/-- The protection by some rules. -/
def RowRules.protection (rules : RowRules) : Protection Store.engine where
  Row := StoreRow
  Seen := StoreRow.Seen
  resource := StoreRow.resource
  observation := StoreRow.observation
  changes := rules.changes
  changes_refl := rules.changes_refl
  changes_trans := rules.changes_trans
  spares := rules.spares
  spares_refl := rules.spares_refl
  spares_trans := rules.spares_trans

namespace RowRules

variable
  {rules : RowRules}
  {locks : List (Lock Resource)}
  {resource : Resource}
  {first second base merged : Store}

theorem observe_protection (row : StoreRow) (store : Store) :
    rules.protection.observe row store = row.read store :=
  row.observe_observation store

/-- A locked row is left alone. -/
theorem read_of_relied
    (relied : rules.protection.Relied locks first second)
    (row : StoreRow)
    (locked : Locked locks row.resource) :
    row.read second = row.read first := by
  have same := relied.locked row locked
  simp only [observe_protection] at same
  exact same

theorem changes_of_changed
    (changed : rules.protection.Changed first second)
    (row : StoreRow) :
    rules.changes row (row.read first) (row.read second) := by
  have permitted := changed row
  simp only [observe_protection] at permitted
  exact permitted

theorem spares_of_spared
    (spared : rules.protection.Spared resource first second)
    (row : StoreRow) :
    rules.spares resource row (row.read first) (row.read second) := by
  have permitted := spared row
  simp only [observe_protection] at permitted
  exact permitted

/-- Rows that change by the rules are granted. -/
theorem granted_of_rows
    (changes :
      ∀ row : StoreRow, rules.changes row (row.read first) (row.read second))
    (spares :
      ∀ resource, ¬ Locked locks resource →
        ∀ row : StoreRow,
          rules.spares resource row (row.read first) (row.read second)) :
    rules.protection.Granted locks first second where
  changed := by
    intro row
    have permitted := changes row
    rw [← row.observe_observation, ← row.observe_observation] at permitted
    exact permitted
  spared := by
    intro resource free row
    have permitted := spares resource free row
    rw [← row.observe_observation, ← row.observe_observation] at permitted
    exact permitted

/-- Merged rows come from one side, which alone changed them. -/
theorem read_of_merges
    (merges : rules.protection.Merges base first second merged)
    (row : StoreRow) :
    (row.read first = row.read base ∧ row.read merged = row.read second) ∨
      (row.read second = row.read base ∧
        row.read merged = row.read first) := by
  have sided := merges.rows row
  simp only [observe_protection] at sided
  exact sided

end RowRules

end EpokAuth
