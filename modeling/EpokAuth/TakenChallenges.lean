import EpokAuth.ChallengeHistory
import EpokAuth.ServiceEffects
import EpokAuth.ShownTransactions
import EpokAuth.StoredDigests

namespace EpokAuth

open Transactional

/-!
# Which challenges are taken

A challenge is taken by a transaction that consumes it and answers it.  Where
no identifier is drawn for two challenges, what is taken was begun before, in
the same run and as it is taken, and it is taken once.
-/

/-- A table of challenges, with what a transaction tells of one it has taken. -/
structure TakenTable
    (env : Environment)
    (Row : Type)
    [Challenge Row]
    [Keyed Row Uuid]
    extends ChallengeTable env Row where
  taken : (tx : ServiceTx) → tx.Answer → Option (Uuid × Row)
  takes :
    ∀ {before after : Store} {tx : ServiceTx} {answer : tx.Answer} {id : Uuid}
      {challenge : Row},
      ServiceStep env before { tx := tx, answer := .ok answer } after →
      taken tx answer = some (id, challenge) →
        ∃ now original,
          (table before).get? id = some original ∧
            Challenge.consumedAt original = none ∧
            challenge = Challenge.consumed now original ∧
            (table after).get? id = some challenge

/-- The passkey challenge that a transaction has taken. -/
def ServiceTx.takenPasskey :
    (tx : ServiceTx) → tx.Answer → Option (Uuid × PasskeyChallenge)
  | .consumePasskeyChallenge ceremonyId _ _ _ _, answer =>
      answer.map fun challenge => (ceremonyId, challenge)
  | _, _ => none

/-- The Google challenge that a transaction has taken. -/
def ServiceTx.takenGoogle :
    (tx : ServiceTx) → tx.Answer → Option (Uuid × GoogleChallenge)
  | .consumeGoogleChallenge challengeId _ _ _, answer =>
      answer.map fun challenge => (challengeId, challenge)
  | _, _ => none

/-- A consumption that answers a challenge has met it usable, and left it used. -/
theorem wp_consumePasskey_taken
    {store : Store}
    {ceremonyId : Uuid}
    {purpose : PasskeyCeremonyPurpose}
    {now : Instant}
    {userId familyId : Option Uuid} :
    Tx.wp (consumeChallenge ceremonyId purpose now userId familyId)
      (fun answer later => ∀ challenge, answer = some challenge →
        ∃ original,
          store.passkeyChallenges.get? ceremonyId = some original ∧
            Challenge.consumedAt original = none ∧
            challenge = Challenge.consumed now original ∧
            later.passkeyChallenges.get? ceremonyId = some challenge)
      (fun _ _ => True) store := by
  unfold consumeChallenge
  rw [Tx.wp_consumePasskeyChallenge]
  split
  · exact fun _ nothing => absurd nothing.symm (Option.some_ne_none _)
  · rename_i original chosen
    rintro challenge isAnswer
    obtain rfl := Option.some.inj isAnswer
    obtain ⟨found, admitted⟩ := Option.filter_eq_some_iff.mp chosen
    obtain rfl := Table.key_of_get? found
    exact ⟨original, found, usable_of_passkeyCondition original admitted, rfl,
      Table.get?_put_self _ _⟩

theorem wp_consumeGoogle_taken
    {store : Store}
    {challengeId : Uuid}
    {purpose : GoogleChallengePurpose}
    {now : Instant}
    {userId : Option Uuid} :
    Tx.wp (consumeGoogleChallenge challengeId purpose now userId)
      (fun answer later => ∀ challenge, answer = some challenge →
        ∃ original,
          store.googleChallenges.get? challengeId = some original ∧
            Challenge.consumedAt original = none ∧
            challenge = Challenge.consumed now original ∧
            later.googleChallenges.get? challengeId = some challenge)
      (fun _ _ => True) store := by
  unfold consumeGoogleChallenge
  rw [Tx.wp_consumeGoogleChallenge]
  split
  · exact fun _ nothing => absurd nothing.symm (Option.some_ne_none _)
  · rename_i original chosen
    rintro challenge isAnswer
    obtain rfl := Option.some.inj isAnswer
    obtain ⟨found, admitted⟩ := Option.filter_eq_some_iff.mp chosen
    obtain rfl := Table.key_of_get? found
    exact ⟨original, found, usable_of_googleCondition original admitted, rfl,
      Table.get?_put_self _ _⟩

/-- Passkey challenges, with the transactions that consume them. -/
def takenPasskeyTable (env : Environment) :
    TakenTable env PasskeyChallenge where
  toChallengeTable := passkeyChallengeTable env
  taken := ServiceTx.takenPasskey
  takes := by
    intro before after tx answer id challenge step taken
    cases tx with
    | consumePasskeyChallenge ceremonyId purpose now userId familyId =>
        obtain ⟨other, isAnswer, same⟩ := Option.map_eq_some_iff.mp taken
        obtain ⟨rfl, rfl⟩ := Prod.mk.inj same
        exact ⟨now, step.of_wp wp_consumePasskey_taken _ isAnswer⟩
    | _ => cases taken

/-- Google challenges, with the transactions that consume them. -/
def takenGoogleTable (env : Environment) :
    TakenTable env GoogleChallenge where
  toChallengeTable := googleChallengeTable env
  taken := ServiceTx.takenGoogle
  takes := by
    intro before after tx answer id challenge step taken
    cases tx with
    | consumeGoogleChallenge challengeId purpose now userId =>
        obtain ⟨other, isAnswer, same⟩ := Option.map_eq_some_iff.mp taken
        obtain ⟨rfl, rfl⟩ := Prod.mk.inj same
        exact ⟨now, step.of_wp wp_consumeGoogle_taken _ isAnswer⟩
    | _ => cases taken

/-! ## What a transaction does to a challenge -/

section Steps

variable
  {env : Environment}
  {Row : Type}
  [Challenge Row]
  [Keyed Row Uuid]
  (challenges : TakenTable env Row)
  {before after : Store}
  {tx : ServiceTx}
  {answer : tx.Answer}
  {id : Uuid}

/-- A transaction begins the ceremony of a challenge. -/
def TakenTable.Begins (tx : ServiceTx) (challenge : Row) : Prop :=
  challenges.begun tx = some challenge

/-- A challenge is as it was, as it was consumed, or as it was begun. -/
structure TakenTable.Changed
    (tx : ServiceTx)
    (id : Uuid)
    (before after : Option Row) :
    Prop where
  stems : ∀ stored : Row → Prop,
    Stems stored before →
      Stems
        (fun challenge =>
          stored challenge ∨ challenges.Begins tx challenge ∧ key challenge = id)
        after
  spent : Unusable before →
    Unusable after ∨
      ∃ challenge, challenges.Begins tx challenge ∧ key challenge = id

/-- One row write changes a challenge no further. -/
theorem TakenTable.Changed.apply
    {statement : Statement}
    {view : Store}
    {write : Write}
    {row : Option Row}
    (changed : challenges.Changed tx id row ((challenges.table view).get? id))
    (own : statement.StoresOwn env tx)
    (may : statement.MayWriteChallenge view write) :
    challenges.Changed tx id row
      ((challenges.table (Store.apply write view)).get? id) := by
  have begins : ∀ challenge,
      statement = challenges.insertion challenge ∧ key challenge = id →
        challenges.Begins tx challenge ∧ key challenge = id := by
    rintro challenge ⟨rfl, isKey⟩
    exact ⟨challenges.own tx challenge own, isKey⟩
  have change := (challenges.changes statement view write id may).mono begins
  refine { stems := ?_, spent := ?_ }
  · intro stored stems
    exact (changed.stems stored stems).change
      (change.mono fun challenge begun => .inr begun)
  · intro unusable
    rcases changed.spent unusable with spent | begun
    · by_cases still :
          Unusable ((challenges.table (Store.apply write view)).get? id)
      · exact .inl still
      · exact .inr (change.stored_of_usable spent still)
    · exact .inr begun

/-- Every transaction changes a challenge in these ways only. -/
theorem ServiceStep.challengeChanged
    (step : ServiceStep env before { tx := tx, answer := .ok answer } after)
    (id : Uuid) :
    challenges.Changed tx id ((challenges.table before).get? id)
      ((challenges.table after).get? id) := by
  refine step.of_wp
    (@Prog.wp_of_issues_keeping _ _ _ _ _ _ _ _ _ _
      (fun later : Store =>
        challenges.Changed tx id ((challenges.table before).get? id)
          ((challenges.table later).get? id))
      _ tx.body_storesOwn ?_ (fun _ _ kept => kept) (fun _ _ _ => trivial) ?_)
  · intro statement own normal view kept continues
    refine continues _ _ ?_
    refine
      @StoreExecution.perform_keeps _ _ _
        (fun later =>
          challenges.Changed tx id ((challenges.table before).get? id)
            ((challenges.table later).get? id))
        view (Store.execution_writesChallenges statement) ?_ kept
    intro view write keptView may
    exact keptView.apply challenges own may
  · exact
      { stems := fun stored stems => stems.mono fun _ holds => .inl holds
        spent := .inl }

end Steps

/-! ## Where taken challenges come from -/

section Runs

variable
  {env : Environment}
  {Row : Type}
  [Challenge Row]
  [Keyed Row Uuid]
  {σ Label : Type}
  (challenges : TakenTable env Row)
  (showing : Showing σ Label Store Executed)
  (step : σ → Label → σ → Prop)
  (start : σ)
  (id : Uuid)

/-- No two transactions begin a challenge with the identifier. -/
abbrev TakenTable.BegunOnce (labels : List Label) : Prop :=
  MakesOnce showing (ServiceStep env) step start
    (fun _ _ executed _ =>
      ∃ challenge, challenges.Begins executed.tx challenge ∧ key challenge = id)
    labels

/-- A run has begun a challenge. -/
abbrev TakenTable.WasBegun (challenge : Row) (labels : List Label) : Prop :=
  PassesMade showing (ServiceStep env) step start
    (fun _ _ executed _ =>
      (∃ answer, executed.answer = .ok answer) ∧
        challenges.Begins executed.tx challenge ∧ key challenge = id)
    labels

variable
  {challenges showing step start id}
  {labels : List Label}
  {finish : σ}

/-- A begun challenge has been begun later on, too. -/
theorem TakenTable.WasBegun.append
    {challenge : Row}
    (begun : challenges.WasBegun showing step start id challenge labels)
    (more : List Label) :
    challenges.WasBegun showing step start id challenge (labels ++ more) :=
  PassesMade.append begun more

/-- A challenge that a run has begun is not begun by its next step. -/
theorem TakenTable.BegunOnce.not_again
    {before after : σ}
    {label : Label}
    {executed : Executed}
    {original challenge : Row}
    (once : challenges.BegunOnce showing step start id (labels ++ [label]))
    (begun : challenges.WasBegun showing step start id original labels)
    (run : Run step start labels before)
    (taken : step before label after)
    (shown : showing.shows label executed)
    (made :
      ServiceStep env (showing.store before) executed (showing.store after))
    (isKey : key challenge = id) :
    ¬ challenges.Begins executed.tx challenge := by
  intro begins
  obtain ⟨earlier, first, rest, rfl, makes⟩ := begun
  have same : earlier = earlier ++ first :: rest :=
    once earlier first (rest ++ [label]) _ label [] (by simp) rfl
      (makes.mono fun _ _ _ holds => ⟨original, holds.2⟩)
      ⟨before, after, executed, run, taken, shown, made, challenge, begins,
        isKey⟩
  simp at same

/-- What a run leaves stored of a challenge was begun in it. -/
theorem TakenTable.stems_of_faithful
    (faithful : showing.Faithful (ServiceStep env) step)
    (run : Run step start labels finish)
    (fresh : (challenges.table (showing.store start)).get? id = none) :
    Stems (challenges.WasBegun showing step start id · labels)
      ((challenges.table (showing.store finish)).get? id) := by
  refine faithful.accumulates run
    (fun labels store =>
      Stems (challenges.WasBegun showing step start id · labels)
        ((challenges.table store).get? id)) ?_ ?_ ?_
  · intro earlier label store stems
    exact stems.mono fun _ begun => begun.append _
  · intro earlier before label after executed run taken shown made stems
    obtain ⟨tx, answer⟩ := executed
    cases answer with
    | error failure =>
        rw [made.unchanged_of_error]
        exact stems.mono fun _ begun => begun.append _
    | ok answer =>
        refine ((made.challengeChanged challenges id).stems _ stems).mono ?_
        rintro challenge (begun | ⟨begins, isKey⟩)
        · exact begun.append _
        · exact .last run taken shown made ⟨⟨answer, rfl⟩, begins, isKey⟩
  · intro challenge found
    rw [fresh] at found
    cases found

/-- A challenge that is taken was begun before, as it is taken. -/
theorem TakenTable.begun_of_taken
    {before after : Store}
    {tx : ServiceTx}
    {answer : tx.Answer}
    {challenge : Row}
    (stems :
      Stems (challenges.WasBegun showing step start id · labels)
        ((challenges.table before).get? id))
    (made : ServiceStep env before { tx := tx, answer := .ok answer } after)
    (taken : challenges.taken tx answer = some (id, challenge)) :
    ∃ now original,
      challenge = Challenge.consumed now original ∧
        challenges.WasBegun showing step start id original labels := by
  obtain ⟨now, original, found, usable, consumed, _⟩ :=
    challenges.takes made taken
  rw [found] at stems
  exact ⟨now, original, consumed, stems.stored_of_usable usable⟩

/-- What is begun once in a run is begun once in the beginning of it. -/
theorem TakenTable.BegunOnce.of_append
    {more : List Label}
    (once : challenges.BegunOnce showing step start id (labels ++ more)) :
    challenges.BegunOnce showing step start id labels :=
  MakesOnce.of_append once

/-- A challenge that was taken stays unusable for the rest of the run. -/
theorem TakenTable.spent_of_taken
    {first between : List Label}
    {one : Label}
    {before after : σ}
    {tx : ServiceTx}
    {answer : tx.Answer}
    {challenge : Row}
    (faithful : showing.Faithful (ServiceStep env) step)
    (fresh : (challenges.table (showing.store start)).get? id = none)
    (once : challenges.BegunOnce showing step start id (first ++ one :: between))
    (run : Run step start first before)
    (stepped : step before one after)
    (made :
      ServiceStep env (showing.store before)
        { tx := tx, answer := .ok answer } (showing.store after))
    (taken : challenges.taken tx answer = some (id, challenge))
    (rest : Run step after between finish) :
    Unusable ((challenges.table (showing.store finish)).get? id) := by
  obtain ⟨_, original, _, begun⟩ :=
    TakenTable.begun_of_taken
      (TakenTable.stems_of_faithful faithful run fresh) made taken
  have begunBy : ∀ later, challenges.WasBegun showing step start id original
      (first ++ one :: later) := fun later => begun.append _
  refine faithful.accumulates rest
    (fun sofar store =>
      challenges.BegunOnce showing step start id (first ++ one :: sofar) →
        Unusable ((challenges.table store).get? id)) ?_ ?_ ?_ once
  · intro sofar label store unusable once
    rw [← List.cons_append, ← List.append_assoc] at once
    exact unusable once.of_append
  · intro sofar state label next executed reached taken shown made unusable once
    rw [← List.cons_append, ← List.append_assoc] at once
    have unusable := unusable once.of_append
    obtain ⟨tx, answer⟩ := executed
    cases answer with
    | error failure => exact made.unchanged_of_error.symm ▸ unusable
    | ok answer =>
        rcases (made.challengeChanged challenges id).spent unusable with
          spent | ⟨again, begins, isKey⟩
        · exact spent
        · exact absurd begins
            (once.not_again (begunBy sofar) (run.append (.cons stepped reached))
              taken shown made isKey)
  · intro _
    obtain ⟨now, original, _, _, consumed, found⟩ := challenges.takes made taken
    intro other isOther
    obtain rfl := Option.some.inj (found.symm.trans isOther)
    rw [consumed, Challenge.consumedAt_consumed]
    exact Option.some_ne_none now

end Runs

end EpokAuth
