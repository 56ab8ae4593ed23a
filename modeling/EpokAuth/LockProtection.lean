import EpokAuth.StatementContract

namespace Transactional

/-!
# What locks protect

Rows are observed one by one.  A row that a client locks is left alone by
everybody else.  A lock may also protect rows that it does not lock, when every
statement that changes them is issued under that lock: then clients that do not
hold it spare these rows, and its holder may rely on that.

Clients that spare what they do not lock keep doing so whoever commits, and a
commit changes nothing that another client relies on.  The views after a commit
are merged row by row, so a property of views survives commits when it survives
merging.
-/

variable
  {Client σ Write Resource Target Statement Failure Call : Type}
  {Answer : Statement → Type}
  {Result : Call → Type}

/-- How rows may be changed, by anybody and by clients without some lock. -/
structure Protection
    (engine : Engine σ Write Resource Target Statement Answer) where
  Row : Type
  Seen : Row → Type
  resource : Row → Resource
  observation : (row : Row) → Observation engine (resource row) (Seen row)
  /-- What anybody may do to a row in a transaction. -/
  changes : (row : Row) → Seen row → Seen row → Prop
  changes_refl : ∀ row seen, changes row seen seen
  changes_trans :
    ∀ row first second third,
      changes row first second → changes row second third →
        changes row first third
  /-- What clients may do to a row without holding a lock on a resource. -/
  spares : Resource → (row : Row) → Seen row → Seen row → Prop
  spares_refl : ∀ resource row seen, spares resource row seen seen
  spares_trans :
    ∀ resource row first second third,
      spares resource row first second → spares resource row second third →
        spares resource row first third

namespace Protection

variable
  {engine : Engine σ Write Resource Target Statement Answer}
  (protection : Protection engine)

/-- What is seen of a row. -/
def observe (row : protection.Row) (view : σ) : protection.Seen row :=
  (protection.observation row).observe view

/-- Rows change as anybody may change them. -/
def Changed (first second : σ) : Prop :=
  ∀ row,
    protection.changes row (protection.observe row first)
      (protection.observe row second)

/-- Rows change as clients without a lock may change them. -/
def Spared (resource : Resource) (first second : σ) : Prop :=
  ∀ row,
    protection.spares resource row (protection.observe row first)
      (protection.observe row second)

/-- What the holder of some locks may rely on while others commit. -/
structure Relied
    (locks : List (Lock Resource))
    (first second : σ) :
    Prop where
  locked :
    ∀ row, Locked locks (protection.resource row) →
      protection.observe row second = protection.observe row first
  changed : protection.Changed first second
  spared :
    ∀ resource, Locked locks resource →
      protection.Spared resource first second

/-- What the holder of some locks grants to everybody else. -/
structure Granted
    (locks : List (Lock Resource))
    (first second : σ) :
    Prop where
  changed : protection.Changed first second
  spared :
    ∀ resource, ¬ Locked locks resource →
      protection.Spared resource first second

/-- Every client grants the others what it owes them. -/
def Honoured (ledger : Ledger Client σ Write Resource) : Prop :=
  ∀ client,
    protection.Granted (ledger.locks client) ledger.committed
      (ledger.view engine client)

/-- Rows of two descendants of one state are merged. -/
structure Merges (base first second merged : σ) : Prop where
  rows :
    ∀ row,
      (protection.observe row first = protection.observe row base ∧
          protection.observe row merged = protection.observe row second) ∨
        (protection.observe row second = protection.observe row base ∧
          protection.observe row merged = protection.observe row first)
  changed : protection.Changed base first ∧ protection.Changed base second
  spared :
    ∀ resource,
      protection.Spared resource base first ∨
        protection.Spared resource base second

section Relations

variable
  {protection}
  {locks more : List (Lock Resource)}
  {resource : Resource}
  {first second third : σ}

theorem Changed.refl (view : σ) : protection.Changed view view :=
  fun row => protection.changes_refl row _

theorem Changed.trans
    (earlier : protection.Changed first second)
    (later : protection.Changed second third) :
    protection.Changed first third :=
  fun row => protection.changes_trans row _ _ _ (earlier row) (later row)

theorem Spared.refl (resource : Resource) (view : σ) :
    protection.Spared resource view view :=
  fun row => protection.spares_refl resource row _

theorem Spared.trans
    (earlier : protection.Spared resource first second)
    (later : protection.Spared resource second third) :
    protection.Spared resource first third :=
  fun row =>
    protection.spares_trans resource row _ _ _ (earlier row) (later row)

theorem Relied.refl (locks : List (Lock Resource)) (view : σ) :
    protection.Relied locks view view where
  locked := fun _ _ => rfl
  changed := .refl view
  spared := fun resource _ => .refl resource view

theorem Relied.trans
    (earlier : protection.Relied locks first second)
    (later : protection.Relied locks second third) :
    protection.Relied locks first third where
  locked := fun row held =>
    (later.locked row held).trans (earlier.locked row held)
  changed := earlier.changed.trans later.changed
  spared := fun resource held =>
    (earlier.spared resource held).trans (later.spared resource held)

/-- Fewer locks allow to rely on less. -/
theorem Relied.antitone
    (relied : protection.Relied more first second)
    (fewer : locks ⊆ more) :
    protection.Relied locks first second where
  locked := fun row held => relied.locked row (held.mono fewer)
  changed := relied.changed
  spared := fun resource held => relied.spared resource (held.mono fewer)

theorem Granted.refl (locks : List (Lock Resource)) (view : σ) :
    protection.Granted locks view view where
  changed := .refl view
  spared := fun resource _ => .refl resource view

/-- Who holds more locks owes less. -/
theorem Granted.trans
    (earlier : protection.Granted locks first second)
    (later : protection.Granted (locks ++ more) second third) :
    protection.Granted (locks ++ more) first third where
  changed := earlier.changed.trans later.changed
  spared := by
    intro resource free
    have freeBefore : ¬ Locked locks resource :=
      fun held => free (held.mono (List.subset_append_left _ _))
    exact (earlier.spared resource freeBefore).trans
      (later.spared resource free)

end Relations

/-! ## Commits -/

section Commits

variable
  [DecidableEq Client]
  [DecidableEq Resource]
  {protection}
  {ledger : Ledger Client σ Write Resource}
  {client other : Client}

/-- The view of a client after a commit merges its view with the committed one. -/
theorem merges_commit
    (proper : ledger.Proper engine)
    (honoured : protection.Honoured ledger)
    (different : client ≠ other) :
    protection.Merges ledger.committed (ledger.view engine client)
      (ledger.view engine other)
      ((ledger.commit engine other).view engine client) where
  rows := by
    intro row
    rcases (protection.observation row).view_commit_cases proper different with
      ⟨_, kept, unseen⟩ | ⟨unwritten, taken⟩
    · exact .inr ⟨unseen, kept⟩
    · exact .inl ⟨unwritten, taken⟩
  changed := ⟨(honoured client).changed, (honoured other).changed⟩
  spared := by
    intro resource
    by_cases held : Locked (ledger.locks client) resource
    · right
      exact (honoured other).spared resource
        (proper.not_both_locked different held)
    · exact .inl ((honoured client).spared resource held)

/-- A commit changes nothing that another client relies on. -/
theorem relied_commit
    (proper : ledger.Proper engine)
    (honoured : protection.Honoured ledger)
    (different : client ≠ other) :
    protection.Relied (ledger.locks client) (ledger.view engine client)
      ((ledger.commit engine other).view engine client) where
  locked := by
    intro row held
    exact ((protection.observation row).view_commit_of_locked proper different
      held).1
  changed := by
    intro row
    rcases (merges_commit proper honoured different).rows row with
      ⟨unwritten, taken⟩ | ⟨_, kept⟩
    · rw [unwritten, taken]
      exact (honoured other).changed row
    · rw [kept]
      exact protection.changes_refl row _
  spared := by
    intro resource held row
    rcases (merges_commit proper honoured different).rows row with
      ⟨unwritten, taken⟩ | ⟨_, kept⟩
    · rw [unwritten, taken]
      exact (honoured other).spared resource
        (proper.not_both_locked different held) row
    · rw [kept]
      exact protection.spares_refl resource row _

/-- What a client granted before a commit, it grants after it. -/
theorem granted_commit
    (proper : ledger.Proper engine)
    (honoured : protection.Honoured ledger)
    (different : client ≠ other) :
    protection.Granted (ledger.locks client) (ledger.view engine other)
      ((ledger.commit engine other).view engine client) where
  changed := by
    intro row
    rcases (merges_commit proper honoured different).rows row with
      ⟨_, taken⟩ | ⟨unseen, kept⟩
    · rw [taken]
      exact protection.changes_refl row _
    · rw [unseen, kept]
      exact (honoured client).changed row
  spared := by
    intro resource free row
    rcases (merges_commit proper honoured different).rows row with
      ⟨_, taken⟩ | ⟨unseen, kept⟩
    · rw [taken]
      exact protection.spares_refl resource row _
    · rw [unseen, kept]
      exact (honoured client).spared resource free row

/-- Commits keep what clients grant. -/
theorem Honoured.commit
    (proper : ledger.Proper engine)
    (honoured : protection.Honoured ledger) :
    protection.Honoured (ledger.commit engine client) := by
  intro holder
  by_cases isClient : holder = client
  · subst isClient
    rw [Ledger.committed_commit, Ledger.view_commit_self]
    exact .refl _ _
  · rw [Ledger.locks_commit_of_ne isClient, Ledger.committed_commit]
    exact granted_commit proper honoured isClient

omit [DecidableEq Resource] in
/-- Who gives everything up owes nothing. -/
theorem Honoured.release
    (honoured : protection.Honoured ledger) :
    protection.Honoured (ledger.release client) := by
  intro holder
  by_cases isClient : holder = client
  · subst isClient
    rw [Ledger.committed_release, Ledger.view_release_self]
    exact .refl _ _
  · rw [Ledger.locks_release_of_ne isClient, Ledger.committed_release,
      Ledger.view_release_of_ne isClient]
    exact honoured holder

omit [DecidableEq Resource] in
/-- A client may write what it owes to nobody. -/
theorem Honoured.extend
    {locks : List (Lock Resource)}
    {writes : List Write}
    (honoured : protection.Honoured ledger)
    (granted :
      protection.Granted (ledger.locks client ++ locks)
        (ledger.view engine client)
        (applyAll engine.apply writes (ledger.view engine client))) :
    protection.Honoured (ledger.extend client locks writes) := by
  intro holder
  by_cases isClient : holder = client
  · subst isClient
    rw [Ledger.locks_extend_self, Ledger.committed_extend,
      Ledger.view_extend_self]
    exact (honoured holder).trans granted
  · rw [Ledger.locks_extend_of_ne isClient, Ledger.committed_extend,
      Ledger.view_extend_of_ne isClient]
    exact honoured holder

end Commits

/-! ## Contracts -/

section Contracts

variable
  {system : System σ Write Resource Target Answer Failure Result}
  (protection : Protection system.engine)

/-- The contract under which clients may rely on what is protected. -/
def contract
    (permits : Call → Standing σ Write Resource → Statement → Prop)
    (sane : σ → Prop) :
    Contract system where
  permits := permits
  sane := sane
  rely := protection.Relied
  rely_refl := .refl
  rely_trans := fun _ _ _ _ => .trans
  rely_antitone := fun _ _ _ _ fewer relied => relied.antitone fewer

variable
  (permits : Call → Standing σ Write Resource → Statement → Prop)
  (sane : σ → Prop)

/-- Permitted statements write only what their clients may write. -/
structure Protects : Prop where
  point :
    ∀ call standing statement locks effect,
      system.engine.execution statement = .point locks effect →
      permits call standing statement → sane standing.view →
      protection.Granted (standing.locks ++ locks standing.view)
        standing.view
        (applyAll system.engine.apply (effect standing.view).2 standing.view)
  visit :
    ∀ call standing gained statement targets lock touch answer target view,
      system.engine.execution statement = .sweep targets lock touch answer →
      permits call standing statement → sane view →
      protection.Granted (standing.locks ++ gained ++ [lock target]) view
        (applyAll system.engine.apply (touch target view) view)

/-- Who is permitted less writes no more. -/
theorem Protects.mono
    {protection : Protection system.engine}
    {permits fewer : Call → Standing σ Write Resource → Statement → Prop}
    {sane saner : σ → Prop}
    (protects : protection.Protects permits sane)
    (permitted :
      ∀ call standing statement,
        fewer call standing statement → permits call standing statement)
    (isSane : ∀ view, saner view → sane view) :
    protection.Protects fewer saner where
  point := fun call standing statement locks effect executes permit saneView =>
    protects.point call standing statement locks effect executes
      (permitted _ _ _ permit) (isSane _ saneView)
  visit :=
    fun call standing gained statement targets lock touch answer target view
        executes permit saneView =>
      protects.visit call standing gained statement targets lock touch answer
        target view executes (permitted _ _ _ permit) (isSane _ saneView)

/-- Permitted statements keep a property of views, and so does merging. -/
structure Preserves
    (admits : Statement → Prop)
    (property : σ → Prop) :
    Prop where
  point :
    ∀ call standing statement locks effect,
      admits statement →
      system.engine.execution statement = .point locks effect →
      permits call standing statement → sane standing.view →
      property standing.view →
      property
        (applyAll system.engine.apply (effect standing.view).2 standing.view)
  visit :
    ∀ call standing gained statement targets lock touch answer target view,
      system.engine.execution statement = .sweep targets lock touch answer →
      permits call standing statement → sane view → property view →
      protection.Granted (standing.locks ++ gained ++ [lock target]) view
        (applyAll system.engine.apply (touch target view) view) →
      property (applyAll system.engine.apply (touch target view) view)
  merge :
    ∀ base first second merged,
      protection.Merges base first second merged →
      property base → property first → property second → property merged

/-- Clients grant what they owe, and a property holds of all views. -/
structure Everywhere
    (property : σ → Prop)
    (ledger : Ledger Client σ Write Resource) :
    Prop where
  honoured : protection.Honoured ledger
  committed : property ledger.committed
  views : ∀ client, property (ledger.view system.engine client)

end Contracts

section Soundness

variable
  [DecidableEq Client]
  [DecidableEq Resource]
  {system : System σ Write Resource Target Answer Failure Result}
  {protection : Protection system.engine}
  {permits : Call → Standing σ Write Resource → Statement → Prop}
  {admits : Statement → Prop}
  {sane property : σ → Prop}
  {promise : Contract.Promise σ Write Resource Failure Result}
  {pool : Client → Call → Prop}
  {ledger : Ledger Client σ Write Resource}
  {client : Client}

omit [DecidableEq Resource] in
/-- A client may write what keeps the property. -/
theorem Everywhere.extend
    {locks : List (Lock Resource)}
    {writes : List Write}
    (everywhere : protection.Everywhere property ledger)
    (granted :
      protection.Granted (ledger.locks client ++ locks)
        (ledger.view system.engine client)
        (applyAll system.engine.apply writes
          (ledger.view system.engine client)))
    (kept :
      property
        (applyAll system.engine.apply writes
          (ledger.view system.engine client))) :
    protection.Everywhere property (ledger.extend client locks writes) where
  honoured := everywhere.honoured.extend granted
  committed := everywhere.committed
  views := by
    intro holder
    by_cases isClient : holder = client
    · subst isClient
      rw [Ledger.view_extend_self]
      exact kept
    · rw [Ledger.view_extend_of_ne isClient]
      exact everywhere.views holder

omit [DecidableEq Resource] in
/-- Giving everything up keeps the property. -/
theorem Everywhere.release
    (everywhere : protection.Everywhere property ledger) :
    protection.Everywhere property (ledger.release client) where
  honoured := everywhere.honoured.release
  committed := everywhere.committed
  views := by
    intro holder
    by_cases isClient : holder = client
    · subst isClient
      rw [Ledger.view_release_self]
      exact everywhere.committed
    · rw [Ledger.view_release_of_ne isClient]
      exact everywhere.views holder

/-- Commits keep the property when merging does. -/
theorem Everywhere.commit
    (everywhere : protection.Everywhere property ledger)
    (proper : ledger.Proper system.engine)
    (merge :
      ∀ base first second merged,
        protection.Merges base first second merged →
        property base → property first → property second →
          property merged) :
    protection.Everywhere property
      (ledger.commit system.engine client) where
  honoured := everywhere.honoured.commit proper
  committed := everywhere.views client
  views := by
    intro holder
    by_cases isClient : holder = client
    · subst isClient
      rw [Ledger.view_commit_self]
      exact everywhere.views holder
    · exact merge _ _ _ _
        (merges_commit proper everywhere.honoured isClient)
        everywhere.committed (everywhere.views holder)
        (everywhere.views client)

omit [DecidableEq Client] [DecidableEq Resource] in
/-- Without running transactions, clients owe nothing. -/
theorem everywhere_quiescent
    {committed : σ}
    (established : property committed) :
    protection.Everywhere property
      (Config.quiescent committed : Config Client system).toLedger where
  honoured := fun _ => .refl _ committed
  committed := established
  views := fun _ => established

/--
A protected contract that all calls keep is sound for every property that
permitted statements and merging keep.
-/
theorem sound
    (calls :
      ∀ client call, pool client call →
        (protection.contract permits sane).CallKeeps promise call)
    (protects : protection.Protects permits sane)
    (entails : ∀ view, property view → sane view)
    (preserves : protection.Preserves permits sane admits property) :
    (protection.contract permits sane).Sound promise pool admits
      (protection.Everywhere property) where
  calls := calls
  sane := fun _ client everywhere => entails _ (everywhere.views client)
  relied := fun _ _ _ proper everywhere different =>
    relied_commit proper everywhere.honoured different
  point := by
    intro ledger client call issued statement locks effect _ everywhere
      admitted executes _ permitted
    have sane := entails _ (everywhere.views client)
    exact everywhere.extend
      (protects.point call _ statement locks effect executes permitted sane)
      (preserves.point call _ statement locks effect admitted executes
        permitted sane (everywhere.views client))
  visit := by
    intro ledger client call standing gained statement targets lock touch
      answer target _ everywhere executes _ permitted locked
    have sane := entails _ (everywhere.views client)
    have granted :=
      protects.visit call standing gained statement targets lock touch answer
        target _ executes permitted sane
    refine everywhere.extend ?_
      (preserves.visit call standing gained statement targets lock touch
        answer target _ executes permitted sane (everywhere.views client)
        granted)
    rw [locked]
    exact granted
  committed := fun _ _ proper everywhere =>
    everywhere.commit proper preserves.merge
  released := fun _ _ everywhere => everywhere.release

end Soundness

end Protection

end Transactional
