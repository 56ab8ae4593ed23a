import EpokAuth.BegunChallenges
import EpokAuth.ConcurrentServices
import EpokAuth.IssuedStatements
import EpokAuth.RowUse
import EpokAuth.StoreProtection

namespace EpokAuth

open Transactional

/-!
# What becomes of a challenge

A challenge is stored by the call that begins its ceremony, consumed, and
removed; nothing else happens to it.  The passkey and the Google challenges
share this life, so that it is stated once for both.
-/

/-- A row that is consumed by stamping it with the time. -/
class Challenge (Row : Type) where
  consumedAt : Row → Option Instant
  consumed : Instant → Row → Row
  consumedAt_consumed :
    ∀ now challenge, consumedAt (consumed now challenge) = some now
  consumed_consumed :
    ∀ now earlier challenge,
      consumed now (consumed earlier challenge) = consumed now challenge

instance : Challenge PasskeyChallenge where
  consumedAt := PasskeyChallenge.consumedAt
  consumed now challenge := { challenge with consumedAt := some now }
  consumedAt_consumed _ _ := rfl
  consumed_consumed _ _ _ := rfl

instance : Challenge GoogleChallenge where
  consumedAt := GoogleChallenge.consumedAt
  consumed now challenge := { challenge with consumedAt := some now }
  consumedAt_consumed _ _ := rfl
  consumed_consumed _ _ _ := rfl

section Rows

variable
  {Row : Type}
  [Challenge Row]
  {stored wider : Row → Prop}
  {before after : Option Row}

/-- A challenge that is missing or consumed. -/
def Unusable (row : Option Row) : Prop :=
  ∀ challenge, row = some challenge → Challenge.consumedAt challenge ≠ none

/-- A challenge, if there is one, is as stored or was consumed since. -/
def Stems (stored : Row → Prop) (row : Option Row) : Prop :=
  ∀ challenge,
    row = some challenge →
      ∃ original,
        stored original ∧
          (challenge = original ∨
            ∃ now, challenge = Challenge.consumed now original)

/-- How one act changes what is seen of a challenge. -/
inductive ChallengeChange (stored : Row → Prop) :
    Option Row → Option Row → Prop where
  | kept (before : Option Row) : ChallengeChange stored before before
  | stored {challenge : Row} (isStored : stored challenge) :
      ChallengeChange stored none (some challenge)
  | consumed (now : Instant) (challenge : Row) :
      ChallengeChange stored (some challenge)
        (some (Challenge.consumed now challenge))
  | removed (before : Option Row) : ChallengeChange stored before none

theorem Stems.mono
    (stems : Stems stored before)
    (weakening : ∀ challenge, stored challenge → wider challenge) :
    Stems wider before := by
  intro challenge isChallenge
  rcases stems challenge isChallenge with ⟨original, isStored, same⟩
  exact ⟨original, weakening original isStored, same⟩

theorem ChallengeChange.mono
    (change : ChallengeChange stored before after)
    (weakening : ∀ challenge, stored challenge → wider challenge) :
    ChallengeChange wider before after := by
  cases change with
  | kept => exact .kept _
  | stored isStored => exact .stored (weakening _ isStored)
  | consumed => exact .consumed _ _
  | removed => exact .removed _

/-- A challenge becomes usable only when it is stored where there was none. -/
theorem ChallengeChange.stored_of_usable
    (change : ChallengeChange stored before after)
    (unusable : Unusable before)
    (usable : ¬ Unusable after) :
    ∃ challenge, stored challenge := by
  cases change with
  | kept => exact absurd unusable usable
  | stored isStored => exact ⟨_, isStored⟩
  | consumed now challenge =>
      refine absurd ?_ usable
      intro other isOther missing
      obtain rfl := Option.some.inj isOther
      cases (Challenge.consumedAt_consumed now challenge).symm.trans missing
  | removed =>
      refine absurd ?_ usable
      intro other isOther
      cases isOther

theorem exists_of_usable
    (usable : ¬ Unusable before) :
    ∃ challenge,
      before = some challenge ∧ Challenge.consumedAt challenge = none := by
  simpa [Unusable] using usable

/-- One act keeps that a challenge is as stored or was consumed since. -/
theorem Stems.change
    (stems : Stems stored before)
    (change : ChallengeChange stored before after) :
    Stems stored after := by
  cases change with
  | kept => exact stems
  | stored isStored =>
      intro challenge isChallenge
      obtain rfl := Option.some.inj isChallenge
      exact ⟨_, isStored, .inl rfl⟩
  | consumed now challenge =>
      intro other isOther
      obtain rfl := Option.some.inj isOther
      rcases stems challenge rfl with ⟨original, isStored, rfl | ⟨earlier, rfl⟩⟩
      · exact ⟨challenge, isStored, .inr ⟨now, rfl⟩⟩
      · exact ⟨original, isStored,
          .inr ⟨now, Challenge.consumed_consumed now earlier original⟩⟩
  | removed =>
      intro other isOther
      cases isOther

/-- A usable challenge is as it was stored. -/
theorem Stems.stored_of_usable
    {challenge : Row}
    (stems : Stems stored (some challenge))
    (usable : Challenge.consumedAt challenge = none) :
    stored challenge := by
  rcases stems challenge rfl with ⟨original, isStored, rfl | ⟨now, rfl⟩⟩
  · exact isStored
  · cases (Challenge.consumedAt_consumed now original).symm.trans usable

/-! ### Tables of challenges -/

variable
  [Keyed Row Uuid]
  {table : Table Row}
  {challenge : Row}

/-- A challenge is inserted where there is none, or one that is there consumed. -/
def MayPut
    (inserts : Row → Prop)
    (table : Table Row)
    (challenge : Row) :
    Prop :=
  (inserts challenge ∧ table.get? (key challenge : Uuid) = none) ∨
    ∃ now earlier,
      table.get? (key challenge : Uuid) = some earlier ∧
        challenge = Challenge.consumed now earlier

theorem MayPut.change
    (may : MayPut stored table challenge)
    (id : Uuid) :
    ChallengeChange (fun row => stored row ∧ key row = id) (table.get? id)
      ((table.put challenge).get? id) := by
  rw [Table.get?_put]
  split
  · rename_i isKey
    rcases may with ⟨isStored, absent⟩ | ⟨now, earlier, found, isConsumed⟩
    · rw [isKey, absent]
      exact .stored ⟨isStored, rfl⟩
    · rw [isKey, found, isConsumed]
      exact .consumed now earlier
  · exact .kept _

/-- A usable challenge that is consumed was there, and is unusable then. -/
theorem consumed_of_filter
    {condition : Row → Bool}
    {id : Uuid}
    (now : Instant)
    (chosen : (table.get? id).filter condition = some challenge)
    (usable :
      ∀ row, condition row = true → Challenge.consumedAt row = none)
    (sameKey :
      (key (Challenge.consumed now challenge) : Uuid) = key challenge) :
    ¬ Unusable (table.get? id) ∧
      (table.get? id = some challenge ∧ condition challenge = true) ∧
      Unusable ((table.put (Challenge.consumed now challenge)).get? id) := by
  have found := Option.filter_eq_some_iff.mp chosen
  refine ⟨fun unusable => ?_, found, ?_⟩
  · exact unusable challenge found.1 (usable challenge found.2)
  · have isKey : key challenge = id := Table.key_of_get? found.1
    rw [← isKey, ← sameKey, Table.get?_put_self]
    intro other isOther
    obtain rfl := Option.some.inj isOther
    rw [Challenge.consumedAt_consumed]
    simp

theorem change_erase (erased id : Uuid) :
    ChallengeChange stored (table.get? id) ((table.erase erased).get? id) := by
  rw [Table.get?_erase]
  split
  · exact .removed _
  · exact .kept _

end Rows

/-! ## What statements do to challenges -/

/-- What a statement may write of challenges where it sees a store. -/
def Statement.MayWriteChallenge
    (statement : Statement)
    (view : Store) :
    Write → Prop
  | .putPasskeyChallenge challenge =>
      MayPut (fun row => statement = .insertPasskeyChallenge row)
        view.passkeyChallenges challenge
  | .putGoogleChallenge challenge =>
      MayPut (fun row => statement = .insertGoogleChallenge row)
        view.googleChallenges challenge
  | _ => True

open StoreExecution in
/-- Every statement writes of challenges what it may. -/
theorem Store.execution_writesChallenges (statement : Statement) :
    StoreExecution.Writes statement.MayWriteChallenge
      (Store.execution statement) := by
  have elsewhere :
      ∀ (view : Store) (write : Write),
        write.table ∉ [TableName.passkeyChallenges, .googleChallenges] →
        statement.MayWriteChallenge view write := by
    intro view write other
    cases write with
    | putPasskeyChallenge challenge =>
        exact absurd (by simp [Write.table]) other
    | putGoogleChallenge challenge =>
        exact absurd (by simp [Write.table]) other
    | _ => trivial
  cases statement with
  | insertPasskeyChallenge challenge =>
      refine inserting_writes fun view free => .inl ⟨rfl, ?_⟩
      refine Table.get?_eq_none_of_find? free fun other isOther => ?_
      have same : other.id = challenge.id := isOther
      simp [same]
  | insertGoogleChallenge challenge =>
      refine inserting_writes fun view free => .inl ⟨rfl, ?_⟩
      refine Table.get?_eq_none_of_find? free fun other isOther => ?_
      have same : other.id = challenge.id := isOther
      simp [same]
  | consumePasskeyChallenge challengeId purpose now userId familyId =>
      refine returning_writes fun view challenge found _ => ?_
      obtain rfl := Table.key_of_get? found
      exact .inr ⟨now, challenge, found, rfl⟩
  | consumeGoogleChallenge challengeId purpose now userId =>
      refine returning_writes fun view challenge found _ => ?_
      obtain rfl := Table.key_of_get? found
      exact .inr ⟨now, challenge, found, rfl⟩
  | deleteExpiredPasskeyChallenges now =>
      intro target view
      refine (touchDelete_writes Store.passkeyChallengesField _ target
        view).mono ?_
      rintro write ⟨rfl, _⟩
      trivial
  | deleteExpiredGoogleChallenges now =>
      intro target view
      refine (touchDelete_writes Store.googleChallengesField _ target
        view).mono ?_
      rintro write ⟨rfl, _⟩
      trivial
  | _ =>
      exact Store.execution_writes_elsewhere elsewhere
        (by simp [Statement.table])

/-- A written row changes what is seen of each passkey challenge in few ways. -/
theorem Statement.MayWriteChallenge.passkeyChange
    {statement : Statement}
    {view : Store}
    {write : Write}
    (may : statement.MayWriteChallenge view write)
    (id : Uuid) :
    ChallengeChange
      (fun challenge =>
        statement = .insertPasskeyChallenge challenge ∧ key challenge = id)
      (view.passkeyChallenges.get? id)
      ((Store.apply write view).passkeyChallenges.get? id) := by
  cases write with
  | putPasskeyChallenge challenge =>
      have put :
          MayPut (fun row => statement = .insertPasskeyChallenge row)
            view.passkeyChallenges challenge :=
        may
      exact put.change id
  | erasePasskeyChallenge challengeId => exact change_erase challengeId id
  | _ => exact .kept _

/-- A written row changes what is seen of each Google challenge in few ways. -/
theorem Statement.MayWriteChallenge.googleChange
    {statement : Statement}
    {view : Store}
    {write : Write}
    (may : statement.MayWriteChallenge view write)
    (id : Uuid) :
    ChallengeChange
      (fun challenge =>
        statement = .insertGoogleChallenge challenge ∧ key challenge = id)
      (view.googleChallenges.get? id)
      ((Store.apply write view).googleChallenges.get? id) := by
  cases write with
  | putGoogleChallenge challenge =>
      have put :
          MayPut (fun row => statement = .insertGoogleChallenge row)
            view.googleChallenges challenge :=
        may
      exact put.change id
  | eraseGoogleChallenge challengeId => exact change_erase challengeId id
  | _ => exact .kept _

/-! ## Both tables of challenges -/

/-- A table of challenges, with the calls that begin and consume them. -/
structure ChallengeTable
    (env : Environment)
    (Row : Type)
    [Challenge Row]
    [Keyed Row Uuid] where
  table : Store → Table Row
  resource : Uuid → Resource
  observation :
    (id : Uuid) → Observation (services env).engine (resource id) (Option Row)
  insertion : Row → Statement
  begun : ServiceTx → Option Row
  use : (id : Uuid) → SingleUse (observation id)
  observes :
    ∀ id store, (observation id).observe store = (table store).get? id
  empty : ∀ id, (table {}).get? id = none
  point :
    ∀ challenge, ∃ locks effect,
      Store.execution (insertion challenge) = .point locks effect
  own :
    ∀ call challenge,
      (insertion challenge).StoresOwn env call → begun call = some challenge
  changes :
    ∀ statement view write id,
      statement.MayWriteChallenge view write →
        ChallengeChange
          (fun challenge => statement = insertion challenge ∧ key challenge = id)
          ((table view).get? id)
          ((table (Store.apply write view)).get? id)
  spent : ∀ id, (use id).spent = Unusable

/-- What the answer of a consumption tells of a passkey challenge. -/
def TakesPasskeyChallenge :
    (call : ServiceTx) → call.Answer → Option PasskeyChallenge → Prop
  | .consumePasskeyChallenge _ purpose now userId familyId, answer, seen =>
      ∃ challenge,
        seen = some challenge ∧
          Store.consumePasskeyChallengeCondition purpose now userId familyId
              challenge = true ∧
            answer = some { challenge with consumedAt := some now }
  | _, _, _ => False

/-- What the answer of a consumption tells of a Google challenge. -/
def TakesGoogleChallenge :
    (call : ServiceTx) → call.Answer → Option GoogleChallenge → Prop
  | .consumeGoogleChallenge _ purpose now userId, answer, seen =>
      ∃ challenge,
        seen = some challenge ∧
          Store.consumeGoogleChallengeCondition purpose now userId
              challenge = true ∧
            answer = some { challenge with consumedAt := some now }
  | _, _, _ => False

/-- The call consumed the passkey challenge with an identifier. -/
def UsesPasskeyChallenge (id : Uuid) :
    (call : ServiceTx) → call.Answer → Prop
  | .consumePasskeyChallenge ceremonyId _ _ _ _, answer =>
      ceremonyId = id ∧ answer.isSome = true
  | _, _ => False

/-- The call consumed the Google challenge with an identifier. -/
def UsesGoogleChallenge (id : Uuid) :
    (call : ServiceTx) → call.Answer → Prop
  | .consumeGoogleChallenge challengeId _ _ _, answer =>
      challengeId = id ∧ answer.isSome = true
  | _, _ => False

theorem usable_of_passkeyCondition
    {purpose : PasskeyCeremonyPurpose}
    {now : Instant}
    {userId familyId : Option Uuid}
    (challenge : PasskeyChallenge)
    (admitted :
      Store.consumePasskeyChallengeCondition purpose now userId familyId
        challenge = true) :
    Challenge.consumedAt challenge = none := by
  simp only [Store.consumePasskeyChallengeCondition, Bool.and_eq_true,
    decide_eq_true_eq] at admitted
  exact admitted.1.2

theorem usable_of_googleCondition
    {purpose : GoogleChallengePurpose}
    {now : Instant}
    {userId : Option Uuid}
    (challenge : GoogleChallenge)
    (admitted :
      Store.consumeGoogleChallengeCondition purpose now userId challenge =
        true) :
    Challenge.consumedAt challenge = none := by
  simp only [Store.consumeGoogleChallengeCondition, Bool.and_eq_true,
    decide_eq_true_eq] at admitted
  exact admitted.1.2

/-- A passkey challenge as the services see it. -/
def passkeyChallengeRow (env : Environment) (id : Uuid) :
    Observation (services env).engine (.passkeyChallenge id)
      (Option PasskeyChallenge) :=
  StoreRow.observation (.passkeyChallenge id)

/-- A Google challenge as the services see it. -/
def googleChallengeRow (env : Environment) (id : Uuid) :
    Observation (services env).engine (.googleChallenge id)
      (Option GoogleChallenge) :=
  StoreRow.observation (.googleChallenge id)

/-- A consumption uses a passkey challenge by its one statement. -/
def passkeyChallengeUse (env : Environment) (id : Uuid) :
    SingleUse (passkeyChallengeRow env id) where
  spent := Unusable
  uses := UsesPasskeyChallenge id
  takes := TakesPasskeyChallenge
  statement := by
    intro call value uses
    cases call with
    | consumePasskeyChallenge ceremonyId purpose now userId familyId =>
        obtain ⟨rfl, _⟩ := uses
        refine ⟨.consumePasskeyChallenge ceremonyId purpose now userId familyId,
          .done, _, _, rfl, rfl, fun view => ⟨_, rfl, ?_⟩⟩
        rintro ⟨_, isSome⟩
        dsimp only at isSome ⊢
        split at isSome
        · cases isSome
        · rename_i challenge chosen
          obtain ⟨usable, found, unusable⟩ :=
            consumed_of_filter now chosen usable_of_passkeyCondition rfl
          exact ⟨usable, ⟨challenge, found.1, found.2, rfl⟩, unusable,
            locked_head (by simp)⟩
    | _ => cases uses

/-- A consumption uses a Google challenge by its one statement. -/
def googleChallengeUse (env : Environment) (id : Uuid) :
    SingleUse (googleChallengeRow env id) where
  spent := Unusable
  uses := UsesGoogleChallenge id
  takes := TakesGoogleChallenge
  statement := by
    intro call value uses
    cases call with
    | consumeGoogleChallenge challengeId purpose now userId =>
        obtain ⟨rfl, _⟩ := uses
        refine ⟨.consumeGoogleChallenge challengeId purpose now userId,
          .done, _, _, rfl, rfl, fun view => ⟨_, rfl, ?_⟩⟩
        rintro ⟨_, isSome⟩
        dsimp only at isSome ⊢
        split at isSome
        · cases isSome
        · rename_i challenge chosen
          obtain ⟨usable, found, unusable⟩ :=
            consumed_of_filter now chosen usable_of_googleCondition rfl
          exact ⟨usable, ⟨challenge, found.1, found.2, rfl⟩, unusable,
            locked_head (by simp)⟩
    | _ => cases uses

/-- Passkey challenges, as challenges that are begun and used. -/
def passkeyChallengeTable (env : Environment) :
    ChallengeTable env PasskeyChallenge where
  table := Store.passkeyChallenges
  resource := .passkeyChallenge
  observation := passkeyChallengeRow env
  insertion := .insertPasskeyChallenge
  begun := ServiceTx.passkeyCeremony env.toDependencies
  use := passkeyChallengeUse env
  observes _ _ := rfl
  empty _ := rfl
  point _ := ⟨_, _, rfl⟩
  own _ _ own := own
  changes _ _ _ id may := may.passkeyChange id
  spent _ := rfl

/-- Google challenges, as challenges that are begun and used. -/
def googleChallengeTable (env : Environment) :
    ChallengeTable env GoogleChallenge where
  table := Store.googleChallenges
  resource := .googleChallenge
  observation := googleChallengeRow env
  insertion := .insertGoogleChallenge
  begun := ServiceTx.googleFlow env.toDependencies
  use := googleChallengeUse env
  observes _ _ := rfl
  empty _ := rfl
  point _ := ⟨_, _, rfl⟩
  own _ _ own := own
  changes _ _ _ id may := may.googleChange id
  spent _ := rfl

/-! ## Challenges along a run -/

variable
  {Client : Type}
  [DecidableEq Client]
  {env : Environment}
  {pool : Client → ServiceTx → Prop}
  {config next : Config Client (services env)}
  {client : Client}
  {event : Event Client (services env)}
  {labels earlier middle : List (Event Client (services env))}

/-- What a statement produces is what it may write. -/
theorem StoreExecution.Writes.produced
    {may : Store → Write → Prop}
    {statement : Statement}
    {view : Store}
    {written : List Write}
    (writes : StoreExecution.Writes may (Store.execution statement))
    (produces : (services env).Produces statement view written) :
    WritesOne (may view) written := by
  cases produces with
  | @point locks effect executes =>
      have isPoint : Store.execution statement = .point locks effect := executes
      rw [isPoint] at writes
      exact writes view
  | @visit targets lock touch answer executes target =>
      have isSweep :
          Store.execution statement = .sweep targets lock touch answer :=
        executes
      rw [isSweep] at writes
      exact writes target view

/-- Before and during a run, clients issue what their calls may. -/
theorem storesOwn_of_run
    (run : Run (Step pool) (.quiescent {}) labels config) :
    ∀ client, (config.phases client).Issues (Statement.StoresOwn env) :=
  issues_of_run run (fun _ => rfl) ServiceTx.body_storesOwn

namespace ChallengeTable

variable
  {Row : Type}
  [Challenge Row]
  [Keyed Row Uuid]
  (challenges : ChallengeTable env Row)

/-- A client stores a challenge where it saw none, as its call begins it. -/
structure Stores
    (challenge : Row)
    (before : Config Client (services env))
    (event : Event Client (services env))
    (after : Config Client (services env)) :
    Prop where
  begins :
    ∃ client call,
      event = .issues client (challenges.insertion challenge) ∧
        (before.phases client).call? = some call ∧
        challenges.begun call = some challenge ∧
        (challenges.table (before.sees client)).get? (key challenge : Uuid) =
          none ∧
        (challenges.table (after.sees client)).get? (key challenge : Uuid) =
          some challenge

/-- A challenge was stored since some point. -/
abbrev WasStored
    (pool : Client → ServiceTx → Prop)
    (start : Config Client (services env))
    (labels : List (Event Client (services env)))
    (challenge : Row) :
    Prop :=
  TookSince pool start (fun _ => False) (challenges.Stores challenge) labels

variable {challenges}

/-- An act changes what its client sees of each challenge in few ways. -/
theorem change_of_step
    (step : Step pool config event next)
    (issues : ∀ client, (config.phases client).Issues (Statement.StoresOwn env))
    (acts : event.Acts client)
    (id : Uuid) :
    ChallengeChange
      (fun challenge =>
        challenges.Stores challenge config event next ∧ key challenge = id)
      ((challenges.table (config.sees client)).get? id)
      ((challenges.table (next.sees client)).get? id) := by
  cases step.acted issues acts with
  | quiet sees =>
      rw [sees]
      exact .kept _
  | @writes call statement writes inCall issued takes produces sees =>
      rcases (Store.execution_writesChallenges statement).produced produces with
        rfl | ⟨write, rfl, may⟩
      · rw [sees]
        exact .kept _
      · have change := challenges.changes _ _ _ id may
        have seesWrite :
            next.sees client = Store.apply write (config.sees client) :=
          sees
        rw [← seesWrite] at change
        generalize isBefore :
          (challenges.table (config.sees client)).get? id = before at change
        generalize isAfter :
          (challenges.table (next.sees client)).get? id = after at change
        cases change with
        | kept => exact .kept _
        | consumed => exact .consumed _ _
        | removed => exact .removed _
        | @stored challenge isStored =>
            obtain ⟨rfl, rfl⟩ := isStored
            obtain ⟨locks, effect, isPoint⟩ := challenges.point challenge
            have executes :
                (services env).engine.execution
                    (challenges.insertion challenge) =
                  .point locks effect :=
              isPoint
            rw [System.TakesEffect, executes] at takes
            exact .stored
              ⟨⟨client, call, takes, inCall, challenges.own _ _ issued,
                isBefore, isAfter⟩, rfl⟩

/-- In every run, a challenge is as stored in it or was consumed since. -/
theorem stems_of_run
    (run : Run (Step pool) (.quiescent {}) labels config)
    (client : Client)
    (id : Uuid) :
    Stems
      (fun challenge =>
        challenges.WasStored pool (.quiescent {}) labels challenge ∧
          key challenge = id)
      ((challenges.table (config.sees client)).get? id) := by
  have observed :=
    observed_of_run (challenges.observation id) run Config.proper_quiescent
      (fun labels row =>
        Stems
          (fun challenge =>
            challenges.WasStored pool (.quiescent {}) labels challenge ∧
              key challenge = id)
          row)
      ?_ ?_ ?_
  · rw [← challenges.observes]
    exact observed.2 client
  · intro earlier event row stems
    exact stems.mono fun challenge was => ⟨was.1.extend not_false, was.2⟩
  · intro earlier state event after actor before step acts stems
    rw [challenges.observes] at stems ⊢
    have extended :
        Stems
          (fun challenge =>
            challenges.WasStored pool (.quiescent {}) (earlier ++ [event])
                challenge ∧
              key challenge = id)
          ((challenges.table (state.sees actor)).get? id) :=
      stems.mono fun challenge was => ⟨was.1.extend not_false, was.2⟩
    refine extended.change ?_
    refine (change_of_step step (storesOwn_of_run before) acts id).mono ?_
    intro challenge stored
    exact ⟨.last before step stored.1, stored.2⟩
  · have unstored :
        Stems
          (fun challenge =>
            challenges.WasStored pool (.quiescent {}) [] challenge ∧
              key challenge = id)
          ((challenges.observation id).observe {}) := by
      intro challenge isChallenge
      rw [challenges.observes, challenges.empty] at isChallenge
      cases isChallenge
    exact ⟨unstored, fun _ => unstored⟩

/-- A challenge that is consumed is one that was stored. -/
theorem taken_of_returned
    {call : ServiceTx}
    {value : call.Answer}
    {id : Uuid}
    (run : Run (Step pool) (.quiescent {}) labels config)
    (returns : Step pool config (.returns client call (.ok value)) next)
    (used : (challenges.use id).uses call value) :
    ∃ challenge,
      challenges.WasStored pool (.quiescent {}) labels challenge ∧
        key challenge = id ∧
        (challenges.use id).takes call value (some challenge) := by
  have took := SingleUse.used_of_returned run (fun _ => rfl) returns used
  obtain ⟨before, event, after, state, later, rfl, toState, _, _, usedThere⟩ :=
    took
  have unspent := usedThere.unspent
  have takes := usedThere.takes
  rw [challenges.spent, challenges.observes] at unspent
  rw [challenges.observes] at takes
  have stems :
      Stems
        (fun challenge =>
          challenges.WasStored pool (.quiescent {}) before challenge ∧
            key challenge = id)
        ((challenges.table (state.sees client)).get? id) :=
    stems_of_run toState client id
  obtain ⟨challenge, found, usable⟩ := exists_of_usable unspent
  have isFound : (challenges.table (state.sees client)).get? id = some challenge :=
    found
  rw [isFound] at stems takes
  obtain ⟨wasStored, isKey⟩ := stems.stored_of_usable usable
  exact ⟨challenge, wasStored.append fun _ _ => not_false, isKey, takes⟩

/--
Of two consumptions of one identifier, the first is void, or a challenge was
stored under the identifier in between.
-/
theorem stored_again
    {call again : ServiceTx}
    {value : call.Answer}
    {otherValue : again.Answer}
    {other : Client}
    {id : Uuid}
    (run :
      Run (Step pool) (.quiescent {})
        (earlier ++ .returns client call (.ok value) ::
          (middle ++ [.returns other again (.ok otherValue)]))
        config)
    (used : (challenges.use id).uses call value)
    (usedAgain : (challenges.use id).uses again otherValue) :
    RolledBackFirst client middle ∨
      ∃ returned,
        Run (Step pool) (.quiescent {})
            (earlier ++ [.returns client call (.ok value)]) returned ∧
          ∃ challenge,
            challenges.WasStored pool returned middle challenge ∧
              key challenge = id := by
  rcases SingleUse.used_once run Config.proper_quiescent (fun _ => rfl) used
      usedAgain with
    rolledBack | ⟨returned, runReturned, renewed⟩
  · exact .inl rolledBack
  · refine .inr ⟨returned, runReturned, ?_⟩
    obtain ⟨before, event, after, state, next, rfl, toState, step, free,
      renews⟩ := renewed
    obtain ⟨actor, acts, spent, lost⟩ := renews
    rw [challenges.spent, challenges.observes] at spent lost
    have change :
        ChallengeChange
          (fun challenge =>
            challenges.Stores challenge state event next ∧ key challenge = id)
          ((challenges.table (state.sees actor)).get? id)
          ((challenges.table (next.sees actor)).get? id) :=
      change_of_step step (storesOwn_of_run (runReturned.append toState)) acts id
    obtain ⟨challenge, stores, isKey⟩ := change.stored_of_usable spent lost
    exact ⟨challenge, ⟨before, event, after, state, next, rfl, toState, step,
      free, stores⟩, isKey⟩

end ChallengeTable

end EpokAuth
