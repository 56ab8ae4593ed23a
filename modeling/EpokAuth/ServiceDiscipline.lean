import EpokAuth.Footprint
import EpokAuth.StoreProtection

namespace EpokAuth

open Transactional

/-!
# Disciplines of the services

A discipline says which statements a transaction may issue where it stands.
Statements of kinds that it is not concerned with may be issued anywhere.  The
rules below read a transaction body against what its client saw and locked,
while others commit in between; a body proof carries the rows it holds from one
statement to the next.
-/

/-- Where the client of a service transaction stands. -/
abbrev ServiceStanding := Standing Store Write Resource

/-- What transactions may issue, and what they may rely on. -/
structure Discipline where
  rules : RowRules
  permits : ServiceTx → ServiceStanding → Statement → Prop
  sane : Store → Prop
  concerns : List StatementKind
  unconcerned :
    ∀ call standing statement,
      (∀ kind, statement.kind = some kind → kind ∉ concerns) →
        permits call standing statement

/-- The contract of the services under a discipline. -/
def Discipline.contract (discipline : Discipline) (env : Environment) :
    Contract (services env) :=
  Protection.contract discipline.rules.protection discipline.permits
    discipline.sane

/-- A client sees a row that it locks. -/
structure HoldsRow
    (standing : ServiceStanding)
    (row : StoreRow)
    (seen : row.Seen) :
    Prop where
  locked : Locked standing.locks row.resource
  seen : row.read standing.view = seen

/-- A client has issued some writes since, and holds at least its locks. -/
structure Follows
    (discipline : Discipline)
    (written : List Write)
    (earlier later : ServiceStanding) :
    Prop where
  locks : earlier.locks ⊆ later.locks
  issued : later.issued = earlier.issued ++ written
  view :
    ∃ seen,
      discipline.rules.protection.Relied earlier.locks earlier.view seen ∧
        discipline.sane seen ∧
        later.view = applyAll Store.apply written seen

/--
A client has swept a table since: it chose its rows from what it saw, and has
visited all of them.
-/
structure FollowsSweep
    (discipline : Discipline)
    (env : Environment)
    (targets : Store → List Uuid)
    (touch : Uuid → Store → List Write)
    (earlier later : ServiceStanding) :
    Prop where
  locks : earlier.locks ⊆ later.locks
  sweeps :
    ∃ seen written,
      Follows discipline [] earlier (earlier.seeing seen) ∧
        later.issued = earlier.issued ++ written ∧
        (discipline.contract env).Sweeps earlier.locks touch
          ⟨targets seen, seen, []⟩ ⟨[], later.view, written⟩

/-! ## Rows that are held -/

/-- Writes elsewhere leave a row as it is. -/
theorem StoreRow.read_applyAll
    {writes : List Write}
    (row : StoreRow)
    (elsewhere : ∀ write ∈ writes, write.resource ≠ some row.resource)
    (store : Store) :
    row.read (applyAll Store.apply writes store) = row.read store := by
  rw [← row.observe_observation, ← row.observe_observation]
  exact row.observation.applyAll_of_unguarded elsewhere store

/-- A sweep that writes elsewhere leaves a locked row as it is. -/
theorem StoreRow.read_of_sweeps
    {discipline : Discipline}
    {env : Environment}
    {locks : List (Lock Resource)}
    {touch : Uuid → Store → List Write}
    {first second : Sweep Store Write Uuid}
    (row : StoreRow)
    (locked : Locked locks row.resource)
    (elsewhere :
      ∀ target store, ∀ write ∈ touch target store,
        write.resource ≠ some row.resource)
    (swept : (discipline.contract env).Sweeps locks touch first second) :
    row.read second.view = row.read first.view := by
  induction swept with
  | refl =>
      rfl
  | tail _ step inductionHypothesis =>
      rw [← inductionHypothesis]
      cases step with
      | relied relies =>
          exact RowRules.read_of_relied relies row locked
      | visited =>
          exact row.read_applyAll (elsewhere _ _) _

namespace HoldsRow

variable
  {discipline : Discipline}
  {env : Environment}
  {earlier later : ServiceStanding}
  {row : StoreRow}
  {seen : row.Seen}

/-- A row is still held after writes of other rows. -/
theorem follows
    {written : List Write}
    (holds : HoldsRow earlier row seen)
    (follows : Follows discipline written earlier later)
    (elsewhere : ∀ write ∈ written, write.resource ≠ some row.resource) :
    HoldsRow later row seen where
  locked := holds.locked.mono follows.locks
  seen := by
    rcases follows.view with ⟨middle, relied, _, same⟩
    rw [same, row.read_applyAll elsewhere,
      RowRules.read_of_relied relied row holds.locked]
    exact holds.seen

/-- A row is still held after statements that write nothing. -/
theorem reads
    (holds : HoldsRow earlier row seen)
    (follows : Follows discipline [] earlier later) :
    HoldsRow later row seen :=
  holds.follows follows fun _ member => absurd member List.not_mem_nil

/-- A row is still held after an event is recorded. -/
theorem records
    {event : SecurityEvent}
    (holds : HoldsRow earlier row seen)
    (follows : Follows discipline [.appendEvent event] earlier later) :
    HoldsRow later row seen := by
  refine holds.follows follows ?_
  intro write member guard
  obtain rfl := List.mem_singleton.mp member
  cases guard

/-- A row is still held after one write of another row. -/
theorem writes
    {write : Write}
    (holds : HoldsRow earlier row seen)
    (follows : Follows discipline [write] earlier later)
    (elsewhere : write.resource ≠ some row.resource) :
    HoldsRow later row seen := by
  refine holds.follows follows ?_
  intro other member
  obtain rfl := List.mem_singleton.mp member
  exact elsewhere

/-- A row is still held after a sweep of another table. -/
theorem sweeps
    {targets : Store → List Uuid}
    {touch : Uuid → Store → List Write}
    (holds : HoldsRow earlier row seen)
    (follows : FollowsSweep discipline env targets touch earlier later)
    (elsewhere :
      ∀ target store, ∀ write ∈ touch target store,
        write.resource ≠ some row.resource) :
    HoldsRow later row seen where
  locked := holds.locked.mono follows.locks
  seen := by
    rcases follows.sweeps with ⟨start, written, seeing, _, swept⟩
    have kept := StoreRow.read_of_sweeps row holds.locked elsewhere swept
    exact kept.trans (holds.reads seeing).seen

/-- Two looks at one held row see the same. -/
theorem unique
    {other : row.Seen}
    (holds : HoldsRow earlier row seen)
    (holdsToo : HoldsRow earlier row other) :
    seen = other :=
  holds.seen.symm.trans holdsToo.seen

end HoldsRow

/-! ## Rules -/

/-- A body upholds a discipline and ends in its postconditions. -/
def Tx.Upholds
    (discipline : Discipline)
    (env : Environment)
    (call : ServiceTx)
    (body : Tx α)
    (normal : α → ServiceStanding → Prop)
    (failed : Failure → ServiceStanding → Prop)
    (standing : ServiceStanding) :
    Prop :=
  Prog.wp ((discipline.contract env).transformer call) body normal failed
    standing

section Rules

variable
  {discipline : Discipline}
  {env : Environment}
  {call : ServiceTx}
  {failed : Failure → ServiceStanding → Prop}
  {standing : ServiceStanding}

open Tx (Upholds)

@[simp] theorem upholds_pure
    (value : α)
    (normal : α → ServiceStanding → Prop) :
    Upholds discipline env call (pure value) normal failed standing =
      normal value standing :=
  rfl

@[simp] theorem upholds_throw
    (failure : Failure)
    (normal : α → ServiceStanding → Prop) :
    Upholds discipline env call (throw failure) normal failed standing =
      failed failure standing :=
  rfl

@[simp] theorem upholds_ofExcept
    (value : Except Failure α)
    (normal : α → ServiceStanding → Prop) :
    Upholds discipline env call (Prog.ofExcept value) normal failed standing =
      match value with
      | .ok value => normal value standing
      | .error failure => failed failure standing := by
  cases value <;> rfl

@[simp] theorem upholds_bind
    (body : Tx α)
    (later : α → Tx β)
    (normal : β → ServiceStanding → Prop) :
    Upholds discipline env call (body >>= later) normal failed standing =
      Upholds discipline env call body
        (fun value => Upholds discipline env call (later value) normal failed)
        failed standing :=
  congrFun (Prog.wp_bind body later normal) standing

theorem upholds_ite
    {condition : Prop}
    [Decidable condition]
    {first second : Tx α}
    {normal : α → ServiceStanding → Prop}
    (holds :
      condition → Upholds discipline env call first normal failed standing)
    (fails :
      ¬ condition → Upholds discipline env call second normal failed standing) :
    Upholds discipline env call (if condition then first else second) normal
      failed standing := by
  split
  · rename_i isTrue
    exact holds isTrue
  · rename_i isFalse
    exact fails isFalse

theorem upholds_mono
    {body : Tx α}
    {stronger weaker : α → ServiceStanding → Prop}
    {failed' : Failure → ServiceStanding → Prop}
    (upholds :
      Upholds discipline env call body stronger failed standing)
    (normalWeaker :
      ∀ value later, stronger value later → weaker value later)
    (failedWeaker :
      ∀ failure later, failed failure later → failed' failure later) :
    Upholds discipline env call body weaker failed' standing :=
  Prog.wp_mono ((discipline.contract env).transformer_monotone call) upholds
    normalWeaker failedWeaker

/-- A statement of a kind that is no concern may be issued anywhere. -/
theorem Discipline.permits_of_kind
    {statement : Statement}
    (harmless :
      ∀ kind, statement.kind = some kind → kind ∉ discipline.concerns) :
    discipline.permits call standing statement :=
  discipline.unconcerned call standing statement harmless

/--
A body that is no concern upholds whatever holds of all outcomes; what was
issued before it stays issued.
-/
theorem upholds_of_within_issued
    {kinds : List StatementKind}
    {body : Tx α}
    {normal : α → ServiceStanding → Prop}
    (within : Tx.StaysWithin kinds body)
    (disjoint : ∀ kind ∈ kinds, kind ∉ discipline.concerns)
    (returned :
      ∀ value later, standing.issued ⊆ later.issued → normal value later)
    (raised :
      ∀ failure later, standing.issued ⊆ later.issued →
        failed failure later) :
    Upholds discipline env call body normal failed standing := by
  refine
    @Prog.wp_of_issues_keeping _ _ _ _ _ _ _ _ _ _
      (fun later => standing.issued ⊆ later.issued) _ within ?_ returned
      raised (List.Subset.refl _)
  intro statement permitted normal state kept everywhere view _ _
  have harmless :
      ∀ kind, statement.kind = some kind → kind ∉ discipline.concerns :=
    fun kind same => disjoint kind (permitted kind same)
  cases execution : (services env).engine.execution statement with
  | point locks effect =>
      exact ⟨discipline.permits_of_kind harmless,
        everywhere _ _ (List.subset_append_of_subset_left _ kept)⟩
  | sweep targets lock touch answer =>
      exact ⟨discipline.permits_of_kind harmless, fun _ _ _ _ _ =>
        everywhere _ _ (List.subset_append_of_subset_left _ kept)⟩

/-- A body that is no concern upholds whatever holds of all outcomes. -/
theorem upholds_of_within
    {kinds : List StatementKind}
    {body : Tx α}
    {normal : α → ServiceStanding → Prop}
    (within : Tx.StaysWithin kinds body)
    (disjoint : ∀ kind ∈ kinds, kind ∉ discipline.concerns)
    (returned : ∀ value later, normal value later)
    (raised : ∀ failure later, failed failure later) :
    Upholds discipline env call body normal failed standing :=
  upholds_of_within_issued within disjoint (fun _ _ _ => returned _ _)
    fun _ _ _ => raised _ _

/-- A body whose statements are permitted anywhere upholds what always holds. -/
theorem upholds_of_issues
    {allowed : Statement → Prop}
    {body : Tx α}
    {normal : α → ServiceStanding → Prop}
    (issues : Prog.Issues allowed body)
    (permits :
      ∀ statement standing, allowed statement →
        discipline.permits call standing statement)
    (returned : ∀ value later, normal value later)
    (raised : ∀ failure later, failed failure later) :
    Upholds discipline env call body normal failed standing := by
  refine
    @Prog.wp_of_issues_keeping _ _ _ _ _ _ _ _ _ _ (fun _ => True) _ issues
      ?_ (fun _ _ _ => returned _ _) (fun _ _ _ => raised _ _) trivial
  intro statement isAllowed normal state _ everywhere view _ _
  cases execution : (services env).engine.execution statement with
  | point locks effect =>
      exact ⟨permits _ _ isAllowed, everywhere _ _ trivial⟩
  | sweep targets lock touch answer =>
      exact ⟨permits _ _ isAllowed, fun _ _ _ _ _ => everywhere _ _ trivial⟩

/-- The rule of a point statement. -/
theorem upholds_point
    {statement : Statement}
    {locks : Store → List (Lock Resource)}
    {effect : Store → Answer statement × List Write}
    {normal : Answer statement → ServiceStanding → Prop}
    (executes : Store.execution statement = .point locks effect)
    (permitted :
      ∀ seen, Follows discipline [] standing (standing.seeing seen) →
        discipline.permits call (standing.seeing seen) statement)
    (continues :
      ∀ seen later,
        Follows discipline [] standing (standing.seeing seen) →
        Follows discipline (effect seen).2 standing later →
        later.view = applyAll Store.apply (effect seen).2 seen →
        locks seen ⊆ later.locks →
        normal (effect seen).1 later) :
    Upholds discipline env call (Tx.issue statement) normal failed
      standing := by
  intro view relied sane
  have seeing : Follows discipline [] standing (standing.seeing view) :=
    { locks := List.Subset.refl _
      issued := (List.append_nil _).symm
      view := ⟨view, relied, sane, rfl⟩ }
  change Contract.executes _ call statement normal (standing.seeing view)
    (Store.execution statement)
  rw [executes]
  refine ⟨permitted view seeing, continues view _ seeing ?_ rfl ?_⟩
  · exact
      { locks := List.subset_append_left _ _
        issued := rfl
        view := ⟨view, relied, sane, rfl⟩ }
  · exact List.subset_append_right _ _

/-- The rule of a read without a lock. -/
theorem upholds_read
    {statement : Statement}
    {read : Store → Answer statement}
    {normal : Answer statement → ServiceStanding → Prop}
    (executes :
      Store.execution statement =
        .point (fun _ => []) fun store => (read store, []))
    (harmless : statement.kind = none)
    (continues :
      ∀ later, Follows discipline [] standing later →
        normal (read later.view) later) :
    Upholds discipline env call (Tx.issue statement) normal failed
      standing := by
  refine upholds_point executes (fun _ _ => discipline.permits_of_kind ?_) ?_
  · intro kind same
    rw [harmless] at same
    cases same
  · intro seen later _ follows same _
    have unchanged : later.view = seen := same
    rw [← unchanged]
    exact continues later follows

/-- The rule of a read that locks what it finds. -/
theorem upholds_fetch
    {statement : Statement}
    {locks : Store → List (Lock Resource)}
    {read : Store → Answer statement}
    {normal : Answer statement → ServiceStanding → Prop}
    (executes :
      Store.execution statement =
        .point locks fun store => (read store, []))
    (harmless : statement.kind = none)
    (continues :
      ∀ later, Follows discipline [] standing later →
        locks later.view ⊆ later.locks → normal (read later.view) later) :
    Upholds discipline env call (Tx.issue statement) normal failed
      standing := by
  refine upholds_point executes (fun _ _ => discipline.permits_of_kind ?_) ?_
  · intro kind same
    rw [harmless] at same
    cases same
  · intro seen later _ follows same held
    have unchanged : later.view = seen := same
    rw [← unchanged] at held ⊢
    exact continues later follows held

/-- The rule of a sweep. -/
theorem upholds_sweep
    {statement : Statement}
    {targets : Store → List Uuid}
    {lock : Uuid → Lock Resource}
    {touch : Uuid → Store → List Write}
    {answer : Nat → Answer statement}
    {normal : Answer statement → ServiceStanding → Prop}
    (executes : Store.execution statement = .sweep targets lock touch answer)
    (permitted :
      ∀ seen, Follows discipline [] standing (standing.seeing seen) →
        discipline.permits call (standing.seeing seen) statement)
    (continues :
      ∀ visited later,
        FollowsSweep discipline env targets touch standing later →
        normal (answer visited) later) :
    Upholds discipline env call (Tx.issue statement) normal failed
      standing := by
  intro view relied sane
  have seeing : Follows discipline [] standing (standing.seeing view) :=
    { locks := List.Subset.refl _
      issued := (List.append_nil _).symm
      view := ⟨view, relied, sane, rfl⟩ }
  change Contract.executes _ call statement normal (standing.seeing view)
    (Store.execution statement)
  rw [executes]
  refine ⟨permitted view seeing, ?_⟩
  intro visited seen locks writes swept
  exact continues visited _
    { locks := List.subset_append_left _ _
      sweeps := ⟨view, writes, seeing, rfl, swept⟩ }

/-- The rule of a method that writes one row, or raises some failures. -/
theorem upholds_attempt_raising
    {statement : Statement}
    {raises : Answer statement → Except Failure Unit}
    {locks : Store → List (Lock Resource)}
    {effect : Store → Answer statement × List Write}
    {raised : Failure → Prop}
    {accepts : Store → Prop}
    {write : Write}
    {normal : Unit → ServiceStanding → Prop}
    (executes : Store.execution statement = .point locks effect)
    (outcomes :
      ∀ view,
        (∃ failure,
            raises (effect view).1 = .error failure ∧
              (effect view).2 = [] ∧ raised failure) ∨
          (raises (effect view).1 = .ok () ∧ (effect view).2 = [write] ∧
            accepts view))
    (permitted :
      ∀ seen, Follows discipline [] standing (standing.seeing seen) →
        discipline.permits call (standing.seeing seen) statement)
    (continues :
      ∀ seen later,
        Follows discipline [] standing (standing.seeing seen) →
        Follows discipline [write] standing later →
        later.view = Store.apply write seen →
        (∀ resource, write.resource = some resource →
          Locked later.locks resource) →
        accepts seen → normal () later)
    (refused :
      ∀ failure later, Follows discipline [] standing later →
        raised failure → failed failure later) :
    Upholds discipline env call (Tx.attempt statement raises) normal failed
      standing := by
  rw [Tx.attempt, upholds_bind]
  refine upholds_point executes permitted ?_
  intro seen later seeing follows same held
  rw [upholds_ofExcept]
  have guarded :
      (Store.execution statement).Guarded Write.resource :=
    Store.engine_guards statement
  rw [executes] at guarded
  rcases outcomes seen with
    ⟨failure, raises_, unwritten, isRaised⟩ | ⟨returned, written, accepted⟩
  · rw [raises_]
    rw [unwritten] at follows
    exact refused failure later follows isRaised
  · rw [returned]
    rw [written] at follows same
    refine continues seen later seeing follows same ?_ accepted
    intro resource guards
    have member : write ∈ (effect seen).2 := by
      rw [written]
      exact List.mem_cons_self
    exact (guarded seen write member resource guards).mono held

/-- The rule of a method that writes one row or raises. -/
theorem upholds_attempt
    {statement : Statement}
    {raises : Answer statement → Except Failure Unit}
    {locks : Store → List (Lock Resource)}
    {effect : Store → Answer statement × List Write}
    {accepts : Store → Prop}
    {write : Write}
    {normal : Unit → ServiceStanding → Prop}
    (executes : Store.execution statement = .point locks effect)
    (outcomes :
      ∀ view,
        (∃ failure,
            raises (effect view).1 = .error failure ∧ (effect view).2 = []) ∨
          (raises (effect view).1 = .ok () ∧ (effect view).2 = [write] ∧
            accepts view))
    (permitted :
      ∀ seen, Follows discipline [] standing (standing.seeing seen) →
        discipline.permits call (standing.seeing seen) statement)
    (continues :
      ∀ seen later,
        Follows discipline [] standing (standing.seeing seen) →
        Follows discipline [write] standing later →
        later.view = Store.apply write seen →
        (∀ resource, write.resource = some resource →
          Locked later.locks resource) →
        accepts seen → normal () later)
    (refused :
      ∀ failure later, Follows discipline [] standing later →
        failed failure later) :
    Upholds discipline env call (Tx.attempt statement raises) normal failed
      standing := by
  refine
    @upholds_attempt_raising _ _ _ _ _ _ _ _ _ (fun _ => True) _ _ _ executes
      ?_ permitted continues fun failure later follows _ =>
        refused failure later follows
  intro view
  refine (outcomes view).imp_left ?_
  rintro ⟨failure, raised, unwritten⟩
  exact ⟨failure, raised, unwritten, trivial⟩

/-- The lock of a read for an update excludes other writers. -/
theorem locked_of_forUpdate
    {resource : Resource}
    {locks : List (Lock Resource)}
    (held : [forUpdateLock resource] ⊆ locks) :
    Locked locks resource :=
  ⟨_, held List.mem_cons_self, rfl, by simp [forUpdateLock]⟩

/-! ### Reads for an update -/

theorem upholds_getUserById_locked
    {userId : Uuid}
    {normal : Option UserAccount → ServiceStanding → Prop}
    (absent :
      ∀ later, Follows discipline [] standing later →
        later.view.users.get? userId = none → normal none later)
    (found :
      ∀ user later, Follows discipline [] standing later →
        HoldsRow later (.user user.id) (some user) → user.id = userId →
        normal (some user) later) :
    Upholds discipline env call (Tx.getUserById userId true) normal failed
      standing := by
  refine upholds_fetch rfl rfl ?_
  intro later follows held
  dsimp only at held ⊢
  cases account : later.view.users.get? userId with
  | none =>
      exact absent later follows account
  | some user =>
      rw [account] at held
      obtain rfl := Table.key_of_get? account
      exact found user later follows ⟨locked_of_forUpdate held, account⟩ rfl

theorem upholds_getUserByEmail_locked
    {email : String}
    {normal : Option UserAccount → ServiceStanding → Prop}
    (absent :
      ∀ later, Follows discipline [] standing later → normal none later)
    (found :
      ∀ user later, Follows discipline [] standing later →
        HoldsRow later (.user user.id) (some user) → user.email = email →
        normal (some user) later) :
    Upholds discipline env call (Tx.getUserByEmail email true) normal failed
      standing := by
  refine upholds_fetch rfl rfl ?_
  intro later follows held
  dsimp only at held ⊢
  cases account :
      later.view.users.find? fun user => decide (user.email = email) with
  | none =>
      exact absent later follows
  | some user =>
      rw [account] at held
      have stored := Table.get?_of_find? account
      exact found user later follows
        ⟨locked_of_forUpdate held, stored.1⟩ (of_decide_eq_true stored.2)

theorem upholds_getSessionById_locked
    {sessionId : Uuid}
    {normal : Option RefreshSession → ServiceStanding → Prop}
    (absent :
      ∀ later, Follows discipline [] standing later → normal none later)
    (found :
      ∀ session later, Follows discipline [] standing later →
        HoldsRow later (.session session.id) (some session) →
        session.id = sessionId → normal (some session) later) :
    Upholds discipline env call (Tx.getSessionById sessionId true) normal
      failed standing := by
  refine upholds_fetch rfl rfl ?_
  intro later follows held
  dsimp only at held ⊢
  cases stored : later.view.sessions.get? sessionId with
  | none =>
      exact absent later follows
  | some session =>
      rw [stored] at held
      obtain rfl := Table.key_of_get? stored
      exact found session later follows ⟨locked_of_forUpdate held, stored⟩
        rfl

theorem upholds_getPasskeyById_locked
    {passkeyId userId : Uuid}
    {normal : Option PasskeyCredential → ServiceStanding → Prop}
    (absent :
      ∀ later, Follows discipline [] standing later → normal none later)
    (found :
      ∀ credential later, Follows discipline [] standing later →
        HoldsRow later (.passkey credential.id) (some credential) →
        credential.userId = userId → normal (some credential) later) :
    Upholds discipline env call (Tx.getPasskeyById passkeyId userId true)
      normal failed standing := by
  refine upholds_fetch rfl rfl ?_
  intro later follows held
  dsimp only at held ⊢
  cases stored :
      (later.view.passkeys.get? passkeyId).filter fun credential =>
        decide (credential.userId = userId) with
  | none =>
      exact absent later follows
  | some credential =>
      rw [stored] at held
      obtain ⟨isStored, owned⟩ := Option.filter_eq_some_iff.mp stored
      obtain rfl := Table.key_of_get? isStored
      exact found credential later follows
        ⟨locked_of_forUpdate held, isStored⟩ (of_decide_eq_true owned)

theorem upholds_getPasskeyByCredentialId_locked
    {credentialId : List UInt8}
    {normal : Option PasskeyCredential → ServiceStanding → Prop}
    (absent :
      ∀ later, Follows discipline [] standing later → normal none later)
    (found :
      ∀ credential later, Follows discipline [] standing later →
        HoldsRow later (.passkey credential.id) (some credential) →
        credential.credentialId = credentialId →
        normal (some credential) later) :
    Upholds discipline env call
      (Tx.getPasskeyByCredentialId credentialId true) normal failed
      standing := by
  refine upholds_fetch rfl rfl ?_
  intro later follows held
  dsimp only at held ⊢
  cases stored :
      later.view.passkeys.find? fun credential =>
        decide (credential.credentialId = credentialId) with
  | none =>
      exact absent later follows
  | some credential =>
      rw [stored] at held
      have isStored := Table.get?_of_find? stored
      exact found credential later follows
        ⟨locked_of_forUpdate held, isStored.1⟩ (of_decide_eq_true isStored.2)

theorem upholds_getExternalIdentity_locked
    {issuer subject : String}
    {normal : Option ExternalIdentity → ServiceStanding → Prop}
    (absent :
      ∀ later, Follows discipline [] standing later → normal none later)
    (found :
      ∀ identity later, Follows discipline [] standing later →
        HoldsRow later (.identity identity.id) (some identity) →
        identity.issuer = issuer → identity.subject = subject →
        normal (some identity) later) :
    Upholds discipline env call (Tx.getExternalIdentity issuer subject true)
      normal failed standing := by
  refine upholds_fetch rfl rfl ?_
  intro later follows held
  dsimp only at held ⊢
  cases stored :
      later.view.identities.find? fun identity =>
        decide (identity.issuer = issuer) &&
          decide (identity.subject = subject) with
  | none =>
      exact absent later follows
  | some identity =>
      rw [stored] at held
      have isStored := Table.get?_of_find? stored
      have matching := isStored.2
      rw [Bool.and_eq_true, decide_eq_true_eq, decide_eq_true_eq] at matching
      exact found identity later follows
        ⟨locked_of_forUpdate held, isStored.1⟩ matching.1 matching.2

theorem upholds_getExternalIdentityForUser_locked
    {userId : Uuid}
    {issuer : String}
    {normal : Option ExternalIdentity → ServiceStanding → Prop}
    (absent :
      ∀ later, Follows discipline [] standing later → normal none later)
    (found :
      ∀ identity later, Follows discipline [] standing later →
        HoldsRow later (.identity identity.id) (some identity) →
        identity.userId = userId → identity.issuer = issuer →
        normal (some identity) later) :
    Upholds discipline env call
      (Tx.getExternalIdentityForUser userId issuer true) normal failed
      standing := by
  refine upholds_fetch rfl rfl ?_
  intro later follows held
  dsimp only at held ⊢
  cases stored :
      later.view.identities.find? fun identity =>
        decide (identity.userId = userId) &&
          decide (identity.issuer = issuer) with
  | none =>
      exact absent later follows
  | some identity =>
      rw [stored] at held
      have isStored := Table.get?_of_find? stored
      have matching := isStored.2
      rw [Bool.and_eq_true, decide_eq_true_eq, decide_eq_true_eq] at matching
      exact found identity later follows
        ⟨locked_of_forUpdate held, isStored.1⟩ matching.1 matching.2

theorem upholds_getEmailLink_locked
    {linkId : Uuid}
    {normal : Option EmailLink → ServiceStanding → Prop}
    (absent :
      ∀ later, Follows discipline [] standing later → normal none later)
    (found :
      ∀ link later, Follows discipline [] standing later →
        HoldsRow later (.link link.id) (some link) → link.id = linkId →
        normal (some link) later) :
    Upholds discipline env call (Tx.getEmailLink linkId true) normal failed
      standing := by
  refine upholds_fetch rfl rfl ?_
  intro later follows held
  dsimp only at held ⊢
  cases stored : later.view.links.get? linkId with
  | none =>
      exact absent later follows
  | some link =>
      rw [stored] at held
      obtain rfl := Table.key_of_get? stored
      exact found link later follows ⟨locked_of_forUpdate held, stored⟩ rfl

/-! ### Methods that write one row -/

/-- An insertion raises, or writes a row that was absent. -/
theorem inserting_outcomes
    {exists_ : Store → Bool}
    {message : String}
    {write : Write}
    (view : Store) :
    let effect : Except Failure Unit × List Write :=
      if exists_ view then
        (.error (.storeConflict message), [])
      else
        (.ok (), [write])
    (∃ failure, effect.1 = .error failure ∧ effect.2 = []) ∨
      (effect.1 = .ok () ∧ effect.2 = [write] ∧ exists_ view = false) := by
  cases taken : exists_ view with
  | false =>
      exact .inr ⟨rfl, rfl, rfl⟩
  | true =>
      exact .inl ⟨_, rfl, rfl⟩

/-- The failure is a conflict of the store. -/
def Failure.IsConflict (failure : Failure) : Prop :=
  ∃ message, failure = .storeConflict message

/-- An insertion raises a conflict, or writes a row that was absent. -/
theorem inserting_conflicts
    {exists_ : Store → Bool}
    {message : String}
    {write : Write}
    (view : Store) :
    let effect : Except Failure Unit × List Write :=
      if exists_ view then
        (.error (.storeConflict message), [])
      else
        (.ok (), [write])
    (∃ failure, effect.1 = .error failure ∧ effect.2 = [] ∧
        failure.IsConflict) ∨
      (effect.1 = .ok () ∧ effect.2 = [write] ∧ exists_ view = false) := by
  cases taken : exists_ view with
  | false =>
      exact .inr ⟨rfl, rfl, rfl⟩
  | true =>
      exact .inl ⟨_, rfl, rfl, message, rfl⟩

/-- An update raises, or writes a row that was present. -/
theorem updating_outcomes
    {present conflicting : Store → Bool}
    {message : String}
    {write : Write}
    (view : Store) :
    let effect : Except Failure Unit × List Write :=
      if present view then
        if conflicting view then
          (.error (.storeConflict message), [])
        else
          (.ok (), [write])
      else
        (.error .keyError, [])
    (∃ failure, effect.1 = .error failure ∧ effect.2 = []) ∨
      (effect.1 = .ok () ∧ effect.2 = [write] ∧ present view = true) := by
  cases found : present view with
  | false =>
      exact .inl ⟨_, rfl, rfl⟩
  | true =>
      cases taken : conflicting view with
      | false =>
          exact .inr ⟨rfl, rfl, rfl⟩
      | true =>
          exact .inl ⟨_, rfl, rfl⟩

theorem upholds_updateUser
    {user : UserAccount}
    {normal : Unit → ServiceStanding → Prop}
    (permitted :
      ∀ later, Follows discipline [] standing later →
        discipline.permits call later (.updateUser user))
    (continues :
      ∀ later, Follows discipline [.putUser user] standing later →
        HoldsRow later (.user user.id) (some user) → normal () later)
    (refused :
      ∀ failure later, Follows discipline [] standing later →
        failed failure later) :
    Upholds discipline env call (Tx.updateUser user) normal failed
      standing := by
  refine upholds_attempt rfl updating_outcomes
    (fun _ seeing => permitted _ seeing) ?_ refused
  intro seen later _ follows same locked _
  refine continues later follows ⟨locked _ rfl, ?_⟩
  rw [same]
  exact Table.get?_put_self _ _

theorem upholds_insertSession
    {session : RefreshSession}
    {normal : Unit → ServiceStanding → Prop}
    (permitted :
      ∀ later, Follows discipline [] standing later →
        discipline.permits call later (.insertSession session))
    (continues :
      ∀ later, Follows discipline [.putSession session] standing later →
        (∀ other : RefreshSession,
          HoldsRow standing (.session other.id) (some other) →
            HoldsRow later (.session other.id) (some other)) →
        normal () later)
    (refused :
      ∀ failure later, Follows discipline [] standing later →
        failed failure later) :
    Upholds discipline env call (Tx.insertSession session) normal failed
      standing := by
  refine upholds_attempt rfl inserting_outcomes
    (fun _ seeing => permitted _ seeing) ?_ refused
  intro seen later seeing follows _ _ free
  refine continues later follows ?_
  intro other holds
  refine holds.writes follows ?_
  -- The inserted row was absent where the held one was present.
  intro sameRow
  have isOther : session.id = other.id := by
    simpa [Write.resource, StoreRow.resource] using sameRow
  have stored : seen.sessions.get? other.id = some other :=
    (holds.reads seeing).seen
  rw [Bool.or_eq_false_iff] at free
  rw [isOther, stored] at free
  cases free.1

theorem upholds_updateSession
    {session : RefreshSession}
    {normal : Unit → ServiceStanding → Prop}
    (permitted :
      ∀ later, Follows discipline [] standing later →
        discipline.permits call later (.updateSession session))
    (continues :
      ∀ later, Follows discipline [.putSession session] standing later →
        normal () later)
    (refused :
      ∀ failure later, Follows discipline [] standing later →
        failed failure later) :
    Upholds discipline env call (Tx.updateSession session) normal failed
      standing :=
  upholds_attempt rfl updating_outcomes
    (fun _ seeing => permitted _ seeing)
    (fun _ later _ follows _ _ _ => continues later follows) refused

theorem upholds_updatePasskey
    {credential : PasskeyCredential}
    {normal : Unit → ServiceStanding → Prop}
    (permitted :
      ∀ later, Follows discipline [] standing later →
        discipline.permits call later (.updatePasskey credential))
    (continues :
      ∀ later, Follows discipline [.putPasskey credential] standing later →
        normal () later)
    (refused :
      ∀ failure later, Follows discipline [] standing later →
        failed failure later) :
    Upholds discipline env call (Tx.updatePasskey credential) normal failed
      standing :=
  upholds_attempt rfl updating_outcomes
    (fun _ seeing => permitted _ seeing)
    (fun _ later _ follows _ _ _ => continues later follows) refused

theorem upholds_insertExternalIdentity
    {identity : ExternalIdentity}
    {normal : Unit → ServiceStanding → Prop}
    (permitted :
      ∀ later, Follows discipline [] standing later →
        discipline.permits call later (.insertExternalIdentity identity))
    (continues :
      ∀ later, Follows discipline [.putIdentity identity] standing later →
        HoldsRow later (.identity identity.id) (some identity) →
        normal () later)
    (refused :
      ∀ failure later, Follows discipline [] standing later →
        failed failure later) :
    Upholds discipline env call (Tx.insertExternalIdentity identity) normal
      failed standing := by
  refine upholds_attempt rfl inserting_outcomes
    (fun _ seeing => permitted _ seeing) ?_ refused
  intro seen later _ follows same locked _
  refine continues later follows ⟨locked _ rfl, ?_⟩
  rw [same]
  exact Table.get?_put_self _ _

theorem upholds_updateExternalIdentity
    {identity : ExternalIdentity}
    {normal : Unit → ServiceStanding → Prop}
    (permitted :
      ∀ later, Follows discipline [] standing later →
        discipline.permits call later (.updateExternalIdentity identity))
    (continues :
      ∀ later, Follows discipline [.putIdentity identity] standing later →
        normal () later)
    (refused :
      ∀ failure later, Follows discipline [] standing later →
        failed failure later) :
    Upholds discipline env call (Tx.updateExternalIdentity identity) normal
      failed standing :=
  upholds_attempt rfl updating_outcomes
    (fun _ seeing => permitted _ seeing)
    (fun _ later _ follows _ _ _ => continues later follows) refused

/-- Recording an event leaves all rows as they are. -/
theorem upholds_record
    {eventType : SecurityEventType}
    {now : Instant}
    {context : RequestContext}
    {userId sessionId : Option Uuid}
    {metadata : Option SecurityMetadata}
    {normal : Unit → ServiceStanding → Prop}
    (continues :
      ∀ later event, Follows discipline [.appendEvent event] standing later →
        normal () later) :
    Upholds discipline env call
      (recordSecurityEvent eventType now context userId sessionId metadata)
      normal failed standing := by
  refine upholds_point rfl (fun _ _ => discipline.permits_of_kind ?_) ?_
  · intro kind same
    cases same
  · intro seen later _ follows _ _
    exact continues later _ follows

end Rules

end EpokAuth
