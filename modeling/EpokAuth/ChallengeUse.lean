import EpokAuth.ChallengeHistory
import EpokAuth.OriginChecks
import EpokAuth.ScriptedSchedule
import EpokAuth.TokenReading

namespace EpokAuth

open Transactional

/-!
# Ceremony challenges are used once

A call that finishes a ceremony checks what it can, consumes the challenge in a
transaction of its own, and then decides whether it accepts the challenge.  The
consumption binds the purpose, the user, the family and the time; the origin
and the client are compared only afterwards, when the challenge is used up.
-/

/-- The passkey calls that finish a ceremony, up to the verification. -/
inductive PasskeyFinish where
  | registration
      (principal : Principal)
      (ceremonyId : Uuid)
      (name : String)
      (origin : Option String)
      (now : Instant)
  | authentication
      (ceremonyId : Uuid)
      (origin : Option String)
      (now : Instant)
  | reauthentication
      (principal : Principal)
      (ceremonyId : Uuid)
      (origin : Option String)
      (now : Instant)
  deriving Repr, DecidableEq

namespace PasskeyFinish

/-- The challenge that a ceremony is to consume. -/
def ceremonyId : PasskeyFinish → Uuid
  | .registration _ ceremonyId _ _ _ => ceremonyId
  | .authentication ceremonyId _ _ => ceremonyId
  | .reauthentication _ ceremonyId _ _ => ceremonyId

/-- What the ceremony is for. -/
def purpose : PasskeyFinish → PasskeyCeremonyPurpose
  | .registration .. => .registration
  | .authentication .. => .authentication
  | .reauthentication .. => .reauthentication

/-- The account that the challenge must be bound to. -/
def userId : PasskeyFinish → Option Uuid
  | .registration principal _ _ _ _ => some principal.userId
  | .authentication .. => none
  | .reauthentication principal _ _ _ => some principal.userId

/-- The family that the challenge must be bound to. -/
def familyId : PasskeyFinish → Option Uuid
  | .registration .. => none
  | .authentication .. => none
  | .reauthentication principal _ _ _ => some principal.familyId

/-- The origin of the request. -/
def origin : PasskeyFinish → Option String
  | .registration _ _ _ origin _ => origin
  | .authentication _ origin _ => origin
  | .reauthentication _ _ origin _ => origin

/-- When the clock was read. -/
def now : PasskeyFinish → Instant
  | .registration _ _ _ _ now => now
  | .authentication _ _ now => now
  | .reauthentication _ _ _ now => now

/-- What is checked before the consumption, with the origin that is expected. -/
def expectedOrigin (deps : Dependencies) :
    PasskeyFinish → Except Failure String
  | .registration principal _ name origin now => do
      requireRecentPasskeyAuthentication deps principal now
      let expectedOrigin ← validatePasskeyOrigin deps origin
      let _ ← normalizePasskeyName name
      return expectedOrigin
  | .authentication _ origin _ => validatePasskeyOrigin deps origin
  | .reauthentication _ _ origin _ => validatePasskeyOrigin deps origin

/-- The transaction that consumes the challenge. -/
def consumption (finish : PasskeyFinish) : ServiceTx :=
  .consumePasskeyChallenge finish.ceremonyId finish.purpose finish.now
    finish.userId finish.familyId

/-- The decision on what the consumption answered. -/
def accepted
    (expectedOrigin : String)
    (challenge : Option PasskeyChallenge) :
    Except Failure PasskeyChallenge :=
  match challenge with
  | none => .error invalidChallenge
  | some challenge =>
      if challenge.origin ≠ expectedOrigin then
        .error invalidChallenge
      else
        .ok challenge

/-- The call goes on to verify a response to the challenge. -/
def Accepts
    (deps : Dependencies)
    (finish : PasskeyFinish)
    (answer : Option PasskeyChallenge)
    (challenge : PasskeyChallenge) :
    Prop :=
  ∃ expectedOrigin,
    finish.expectedOrigin deps = .ok expectedOrigin ∧
      accepted expectedOrigin answer = .ok challenge

end PasskeyFinish

/-- The Google calls that finish a flow, up to the verification. -/
inductive GoogleFinish where
  | login
      (challengeId : Uuid)
      (origin : Option String)
      (now : Instant)
  | link
      (principal : Principal)
      (challengeId : Uuid)
      (origin : Option String)
      (checkedAt now : Instant)
  deriving Repr, DecidableEq

namespace GoogleFinish

/-- The challenge that a login or a link is to consume. -/
def challengeId : GoogleFinish → Uuid
  | .login challengeId _ _ => challengeId
  | .link _ challengeId _ _ _ => challengeId

/-- What the challenge must be for. -/
def purpose : GoogleFinish → GoogleChallengePurpose
  | .login .. => .login
  | .link .. => .link

/-- The account that the challenge must be bound to. -/
def userId : GoogleFinish → Option Uuid
  | .login .. => none
  | .link principal _ _ _ _ => some principal.userId

/-- The origin of the request. -/
def origin : GoogleFinish → Option String
  | .login _ origin _ => origin
  | .link _ _ origin _ _ => origin

/-- When the clock was read. -/
def now : GoogleFinish → Instant
  | .login _ _ now => now
  | .link _ _ _ _ now => now

/-- What is checked before the consumption, with the origin that is expected. -/
def expectedOrigin (deps : Dependencies) : GoogleFinish → Except Failure String
  | .login _ origin _ => validateGoogleOrigin deps origin
  | .link principal _ origin checkedAt _ => do
      requireRecentGoogleAuthentication deps.settings principal checkedAt
      validateGoogleOrigin deps origin

/-- The transaction that consumes the challenge. -/
def consumption (finish : GoogleFinish) : ServiceTx :=
  .consumeGoogleChallenge finish.challengeId finish.purpose finish.now
    finish.userId

/-- The call goes on to verify a credential for the challenge. -/
def Accepts
    (deps : Dependencies)
    (finish : GoogleFinish)
    (answer : Option GoogleChallenge)
    (challenge : GoogleChallenge) :
    Prop :=
  ∃ expectedOrigin clientId,
    finish.expectedOrigin deps = .ok expectedOrigin ∧
      googleClient deps = .ok clientId ∧
      acceptedChallenge expectedOrigin clientId answer = .ok challenge

end GoogleFinish

/-- The call is bound to the challenge as it was stored. -/
structure PasskeyFinish.BoundTo
    (deps : Dependencies)
    (finish : PasskeyFinish)
    (original : PasskeyChallenge) :
    Prop where
  ceremony : original.id = finish.ceremonyId
  purpose : original.purpose = finish.purpose
  user : original.userId = finish.userId
  family : original.familyId = finish.familyId
  inTime : finish.now < original.expiresAt
  origin :
    ∃ posted,
      finish.origin = some posted ∧
        original.origin = canonicalOrigin deps.text posted

/-- The call is bound to the challenge as it was stored. -/
structure GoogleFinish.BoundTo
    (deps : Dependencies)
    (finish : GoogleFinish)
    (original : GoogleChallenge) :
    Prop where
  challenge : original.id = finish.challengeId
  purpose : original.purpose = finish.purpose
  user : original.userId = finish.userId
  inTime : finish.now < original.expiresAt
  client : deps.settings.googleClientId = some original.clientId
  origin :
    ∃ posted,
      finish.origin = some posted ∧
        original.origin = canonicalOrigin deps.text posted

variable
  {Client : Type}
  {env : Environment}

/-- The consumption of a passkey call returns. -/
def PasskeyFinish.consumes
    (finish : PasskeyFinish)
    (client : Client)
    (answer : Option PasskeyChallenge) :
    Event Client (services env) :=
  .returns client finish.consumption (.ok answer)

/-- The consumption of a Google call returns. -/
def GoogleFinish.consumes
    (finish : GoogleFinish)
    (client : Client)
    (answer : Option GoogleChallenge) :
    Event Client (services env) :=
  .returns client finish.consumption (.ok answer)

variable [DecidableEq Client]

/--
Whoever accepts a challenge is bound to one that was stored before, unchanged
but for its consumption; and when the transaction of a consumption is committed,
a later consumption finds a challenge only if one was stored in between.
-/
structure ChallengesSingleUse
    (pool : Client → ServiceTx → Prop)
    (labels : List (Event Client (services env))) :
    Prop where
  passkey_bound :
    ∀ earlier later client (finish : PasskeyFinish) answer challenge,
      labels = earlier ++ finish.consumes client answer :: later →
      finish.Accepts env.toDependencies answer challenge →
        ∃ original,
          (passkeyChallengeTable env).WasStored pool (.quiescent {}) earlier
              original ∧
            finish.BoundTo env.toDependencies original ∧
            challenge = { original with consumedAt := some finish.now }
  passkey_once :
    ∀ earlier middle later client other
      (finish again : PasskeyFinish) consumed consumedAgain,
      labels =
        earlier ++ finish.consumes client (some consumed) ::
          (middle ++ again.consumes other (some consumedAgain) :: later) →
      again.ceremonyId = finish.ceremonyId →
      CommittedFirst client
        (middle ++ again.consumes other (some consumedAgain) :: later) →
        ∃ returned,
          Run (Step pool) (.quiescent {})
              (earlier ++ [finish.consumes client (some consumed)]) returned ∧
            ∃ original,
              (passkeyChallengeTable env).WasStored pool returned middle
                  original ∧
                original.id = finish.ceremonyId
  google_bound :
    ∀ earlier later client (finish : GoogleFinish) answer challenge,
      labels = earlier ++ finish.consumes client answer :: later →
      finish.Accepts env.toDependencies answer challenge →
        ∃ original,
          (googleChallengeTable env).WasStored pool (.quiescent {}) earlier
              original ∧
            finish.BoundTo env.toDependencies original ∧
            challenge = { original with consumedAt := some finish.now }
  google_once :
    ∀ earlier middle later client other
      (finish again : GoogleFinish) consumed consumedAgain,
      labels =
        earlier ++ finish.consumes client (some consumed) ::
          (middle ++ again.consumes other (some consumedAgain) :: later) →
      again.challengeId = finish.challengeId →
      CommittedFirst client
        (middle ++ again.consumes other (some consumedAgain) :: later) →
        ∃ returned,
          Run (Step pool) (.quiescent {})
              (earlier ++ [finish.consumes client (some consumed)]) returned ∧
            ∃ original,
              (googleChallengeTable env).WasStored pool returned middle
                  original ∧
                original.id = finish.challengeId

section Proofs

variable
  {pool : Client → ServiceTx → Prop}
  {config : Config Client (services env)}
  {labels earlier middle later : List (Event Client (services env))}
  {client other : Client}

/-- Between two consumptions of one challenge, a challenge was stored. -/
theorem stored_between
    {Row : Type}
    [Challenge Row]
    [Keyed Row Uuid]
    {challenges : ChallengeTable env Row}
    {id : Uuid}
    {call again : ServiceTx}
    {value : call.Answer}
    {otherValue : again.Answer}
    (run :
      Run (Step pool) (.quiescent {})
        (earlier ++ .returns client call (.ok value) ::
          (middle ++ .returns other again (.ok otherValue) :: later))
        config)
    (used : (challenges.use id).uses call value)
    (usedAgain : (challenges.use id).uses again otherValue)
    (committed :
      CommittedFirst client
        (middle ++ .returns other again (.ok otherValue) :: later)) :
    ∃ returned,
      Run (Step pool) (.quiescent {})
          (earlier ++ [.returns client call (.ok value)]) returned ∧
        ∃ original,
          challenges.WasStored pool returned middle original ∧
            key original = id := by
  have split :
      earlier ++ .returns client call (.ok value) ::
          (middle ++ .returns other again (.ok otherValue) :: later) =
        (earlier ++ .returns client call (.ok value) ::
            (middle ++ [.returns other again (.ok otherValue)])) ++ later := by
    simp
  rw [split] at run
  obtain ⟨state, toState, _⟩ := run.exists_middle
  rcases ChallengeTable.stored_again toState used usedAgain with
    rolledBack | stored
  · exact absurd committed (rolledBack.not_committedFirst _)
  · exact stored

/-- A passkey check that passes was given the origin that it expects. -/
theorem posted_of_validatePasskeyOrigin
    {deps : Dependencies}
    {origin : Option String}
    {expectedOrigin : String}
    (passes : validatePasskeyOrigin deps origin = .ok expectedOrigin) :
    ∃ posted,
      origin = some posted ∧ expectedOrigin = canonicalOrigin deps.text posted := by
  cases origin with
  | none => cases passes
  | some posted =>
      exact ⟨posted, rfl, (eq_canonicalOrigin_of_validatePasskeyOrigin passes).1⟩

/-- A Google check that passes was given the origin that it expects. -/
theorem posted_of_validateGoogleOrigin
    {deps : Dependencies}
    {origin : Option String}
    {expectedOrigin : String}
    (passes : validateGoogleOrigin deps origin = .ok expectedOrigin) :
    ∃ posted,
      origin = some posted ∧ expectedOrigin = canonicalOrigin deps.text posted := by
  cases origin with
  | none => cases passes
  | some posted =>
      unfold validateGoogleOrigin at passes
      dsimp only at passes
      split at passes
      · exact ⟨posted, rfl, (Except.ok.inj passes).symm⟩
      · cases passes

theorem PasskeyFinish.posted
    {deps : Dependencies}
    {finish : PasskeyFinish}
    {expectedOrigin : String}
    (passes : finish.expectedOrigin deps = .ok expectedOrigin) :
    ∃ posted,
      finish.origin = some posted ∧
        expectedOrigin = canonicalOrigin deps.text posted := by
  cases finish with
  | registration principal ceremonyId name origin now =>
      obtain ⟨_, _, rest⟩ := except_bind_ok_iff.mp passes
      obtain ⟨expected, isExpected, rest⟩ := except_bind_ok_iff.mp rest
      obtain ⟨_, _, isResult⟩ := except_bind_ok_iff.mp rest
      cases isResult
      exact posted_of_validatePasskeyOrigin isExpected
  | authentication ceremonyId origin now =>
      exact posted_of_validatePasskeyOrigin passes
  | reauthentication principal ceremonyId origin now =>
      exact posted_of_validatePasskeyOrigin passes

theorem GoogleFinish.posted
    {deps : Dependencies}
    {finish : GoogleFinish}
    {expectedOrigin : String}
    (passes : finish.expectedOrigin deps = .ok expectedOrigin) :
    ∃ posted,
      finish.origin = some posted ∧
        expectedOrigin = canonicalOrigin deps.text posted := by
  cases finish with
  | login challengeId origin now => exact posted_of_validateGoogleOrigin passes
  | link principal challengeId origin checkedAt now =>
      obtain ⟨_, _, isExpected⟩ := except_bind_ok_iff.mp passes
      exact posted_of_validateGoogleOrigin isExpected

/-- What is accepted was consumed, with the origin that is expected. -/
theorem PasskeyFinish.of_accepted
    {expectedOrigin : String}
    {answer : Option PasskeyChallenge}
    {challenge : PasskeyChallenge}
    (accepts : accepted expectedOrigin answer = .ok challenge) :
    answer = some challenge ∧ challenge.origin = expectedOrigin := by
  cases answer with
  | none => cases accepts
  | some consumed =>
      simp only [accepted] at accepts
      split at accepts
      · cases accepts
      · rename_i same
        obtain rfl := Except.ok.inj accepts
        exact ⟨rfl, not_not.mp same⟩

/-- What is accepted was consumed, for the origin and client expected. -/
theorem of_acceptedChallenge
    {expectedOrigin clientId : String}
    {answer : Option GoogleChallenge}
    {challenge : GoogleChallenge}
    (accepts : acceptedChallenge expectedOrigin clientId answer = .ok challenge) :
    answer = some challenge ∧
      challenge.origin = expectedOrigin ∧ challenge.clientId = clientId := by
  cases answer with
  | none => cases accepts
  | some consumed =>
      simp only [acceptedChallenge] at accepts
      split at accepts
      · rename_i same
        obtain rfl := Except.ok.inj accepts
        exact ⟨rfl, same⟩
      · cases accepts

theorem googleClientId_of_googleClient
    {deps : Dependencies}
    {clientId : String}
    (isClient : googleClient deps = .ok clientId) :
    deps.settings.googleClientId = some clientId := by
  unfold googleClient at isClient
  split at isClient
  · cases isClient
  · rename_i isSome
    rw [isSome, Except.ok.inj isClient]

/-- An accepted passkey challenge was stored, and binds the call. -/
theorem passkey_bound_of_run
    {finish : PasskeyFinish}
    {answer : Option PasskeyChallenge}
    {challenge : PasskeyChallenge}
    (run :
      Run (Step pool) (.quiescent {})
        (earlier ++ finish.consumes client answer :: later) config)
    (accepts : finish.Accepts env.toDependencies answer challenge) :
    ∃ original,
      (passkeyChallengeTable env).WasStored pool (.quiescent {}) earlier
          original ∧
        finish.BoundTo env.toDependencies original ∧
        challenge = { original with consumedAt := some finish.now } := by
  obtain ⟨expectedOrigin, passes, isAccepted⟩ := accepts
  obtain ⟨rfl, sameOrigin⟩ := PasskeyFinish.of_accepted isAccepted
  obtain ⟨posted, isPosted, rfl⟩ := finish.posted passes
  obtain ⟨state, _, toState, returns, _⟩ := run.exists_step
  have used :
      ((passkeyChallengeTable env).use finish.ceremonyId).uses
        finish.consumption (some challenge) :=
    ⟨rfl, rfl⟩
  obtain ⟨original, was, isKey, takes⟩ :=
    ChallengeTable.taken_of_returned toState returns used
  obtain ⟨taken, isTaken, admitted, isConsumed⟩ := takes
  obtain rfl := Option.some.inj isTaken
  obtain rfl := Option.some.inj isConsumed
  simp only [Store.consumePasskeyChallengeCondition, Bool.and_eq_true,
    decide_eq_true_eq] at admitted
  exact ⟨original, was,
    { ceremony := isKey
      purpose := admitted.1.1.1.1
      user := admitted.1.1.1.2
      family := admitted.1.1.2
      inTime := admitted.2
      origin := ⟨posted, isPosted, sameOrigin⟩ },
    rfl⟩

/-- An accepted Google challenge was stored, and binds the call. -/
theorem google_bound_of_run
    {finish : GoogleFinish}
    {answer : Option GoogleChallenge}
    {challenge : GoogleChallenge}
    (run :
      Run (Step pool) (.quiescent {})
        (earlier ++ finish.consumes client answer :: later) config)
    (accepts : finish.Accepts env.toDependencies answer challenge) :
    ∃ original,
      (googleChallengeTable env).WasStored pool (.quiescent {}) earlier
          original ∧
        finish.BoundTo env.toDependencies original ∧
        challenge = { original with consumedAt := some finish.now } := by
  obtain ⟨expectedOrigin, clientId, passes, isClient, isAccepted⟩ := accepts
  obtain ⟨rfl, sameOrigin, rfl⟩ := of_acceptedChallenge isAccepted
  obtain ⟨posted, isPosted, rfl⟩ := finish.posted passes
  obtain ⟨state, _, toState, returns, _⟩ := run.exists_step
  have used :
      ((googleChallengeTable env).use finish.challengeId).uses
        finish.consumption (some challenge) :=
    ⟨rfl, rfl⟩
  obtain ⟨original, was, isKey, takes⟩ :=
    ChallengeTable.taken_of_returned toState returns used
  obtain ⟨taken, isTaken, admitted, isConsumed⟩ := takes
  obtain rfl := Option.some.inj isTaken
  obtain rfl := Option.some.inj isConsumed
  simp only [Store.consumeGoogleChallengeCondition, Bool.and_eq_true,
    decide_eq_true_eq] at admitted
  exact ⟨original, was,
    { challenge := isKey
      purpose := admitted.1.1.1
      user := admitted.1.1.2
      inTime := admitted.2
      client := googleClientId_of_googleClient isClient
      origin := ⟨posted, isPosted, sameOrigin⟩ },
    rfl⟩

end Proofs

/-- In every run, ceremony challenges are used once, by calls they bind. -/
theorem challenges_single_use
    {pool : Client → ServiceTx → Prop}
    {config : Config Client (services env)}
    {labels : List (Event Client (services env))}
    (run : Run (Step pool) (.quiescent {}) labels config) :
    ChallengesSingleUse pool labels where
  passkey_bound := by
    rintro earlier later client finish answer challenge rfl accepts
    exact passkey_bound_of_run run accepts
  passkey_once := by
    rintro earlier middle later client other finish again consumed
      consumedAgain rfl same committed
    have used :
        ((passkeyChallengeTable env).use finish.ceremonyId).uses
          finish.consumption (some consumed) :=
      ⟨rfl, rfl⟩
    have usedAgain :
        ((passkeyChallengeTable env).use finish.ceremonyId).uses
          again.consumption (some consumedAgain) :=
      ⟨same, rfl⟩
    exact stored_between run used usedAgain committed
  google_bound := by
    rintro earlier later client finish answer challenge rfl accepts
    exact google_bound_of_run run accepts
  google_once := by
    rintro earlier middle later client other finish again consumed
      consumedAgain rfl same committed
    have used :
        ((googleChallengeTable env).use finish.challengeId).uses
          finish.consumption (some consumed) :=
      ⟨rfl, rfl⟩
    have usedAgain :
        ((googleChallengeTable env).use finish.challengeId).uses
          again.consumption (some consumedAgain) :=
      ⟨same, rfl⟩
    exact stored_between run used usedAgain committed

/-! ## Two clients finish one ceremony -/

/-- An environment in which ceremonies of both kinds can be finished. -/
def challengeEnvironment : Environment :=
  { originEnvironment with
    settings :=
      { originEnvironment.settings with
        trustedOrigins := ["https://example.test"]
        googleClientId := some "client" } }

/-- A login with a passkey is finished. -/
def racedFinish : PasskeyFinish :=
  .authentication 6 (some "HTTPS://EXAMPLE.TEST/") 20

/-- The challenge that is consumed. -/
def racedChallenge : PasskeyChallenge :=
  { passkeyChallenge challengeEnvironment.toDependencies .authentication
      "https://example.test" 10 none none
      { challengeId := 6, challenge := [1] } with
    consumedAt := some 20 }

/-- Two clients finish one login, statement by statement. -/
def raced :
    List (Event Bool (services challengeEnvironment)) ×
      Config Bool (services challengeEnvironment) :=
  obeyAll [false, true] (fun _ _ => true)
    (transaction false
        (.beginAuthentication "https://example.test" 10
          { challengeId := 6, challenge := [1] })
        4 ++
      [ .call false racedFinish.consumption, .call true racedFinish.consumption,
        .proceed false, .proceed false, .commit false, .proceed true,
        .proceed true, .commit true ])
    (.quiescent {})

/-- The client that comes first accepts the challenge, the other finds none. -/
theorem challenges_single_use_raced :
    raced.1[9]? = some (racedFinish.consumes false (some racedChallenge)) ∧
      raced.1[12]? = some (racedFinish.consumes true none) ∧
      racedFinish.Accepts challengeEnvironment.toDependencies
        (some racedChallenge) racedChallenge ∧
      ChallengesSingleUse (fun _ _ => True) raced.1 := by
  have run :
      Run (Step fun _ _ => True) (.quiescent {}) raced.1 raced.2 :=
    run_obeyAll (by decide) (fun _ _ _ => trivial) _ _
  refine ⟨rfl, rfl, ⟨"https://example.test", ?_, ?_⟩,
    challenges_single_use run⟩
  · decide +kernel
  · decide +kernel

end EpokAuth
