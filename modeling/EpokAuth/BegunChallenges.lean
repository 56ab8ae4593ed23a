import EpokAuth.Footprint

namespace EpokAuth

open Transactional

/-!
# The challenges that transactions store

A challenge is stored by the transaction that begins its ceremony and by no
other; what the challenge says is what that transaction was given.
-/

section Ceremonies

variable (deps : Dependencies)

/-- The passkey challenge that a transaction stores. -/
def ServiceTx.passkeyCeremony : ServiceTx → Option PasskeyChallenge
  | .beginRegistration principal expectedOrigin now draws =>
      some
        (passkeyChallenge deps .registration expectedOrigin now
          (some principal.userId) none draws)
  | .beginAuthentication expectedOrigin now draws =>
      some
        (passkeyChallenge deps .authentication expectedOrigin now none none
          draws)
  | .beginReauthentication principal expectedOrigin now draws =>
      some
        (passkeyChallenge deps .reauthentication expectedOrigin now
          (some principal.userId) (some principal.familyId) draws)
  | _ => none

/-- The Google challenge that a transaction stores. -/
def ServiceTx.googleFlow : ServiceTx → Option GoogleChallenge
  | .beginGoogleChallenge purpose origin clientId userId now draws =>
      some (googleChallenge deps purpose origin clientId userId now draws)
  | _ => none

end Ceremonies

/-- The statement stores no challenge but the one its transaction begins. -/
def Statement.StoresOwn (env : Environment) (tx : ServiceTx) :
    Statement → Prop
  | .insertPasskeyChallenge challenge =>
      tx.passkeyCeremony env.toDependencies = some challenge
  | .insertGoogleChallenge challenge =>
      tx.googleFlow env.toDependencies = some challenge
  | _ => True

variable
  {env : Environment}
  {tx : ServiceTx}
  {α : Type}
  {kinds : List StatementKind}
  {body : Tx α}
  {now : Instant}

/-- A transaction that does not touch challenges stores none. -/
theorem storesOwn_of_within
    (within : Tx.StaysWithin kinds body)
    (passkeys : .passkeyChallenges ∉ kinds)
    (google : .googleChallenges ∉ kinds) :
    Prog.Issues (Statement.StoresOwn env tx) body := by
  refine Prog.Issues.mono within fun statement allowed => ?_
  cases statement with
  | insertPasskeyChallenge challenge => exact absurd (allowed _ rfl) passkeys
  | insertGoogleChallenge challenge => exact absurd (allowed _ rfl) google
  | _ => trivial

theorem storeChallenge_storesOwn
    {challenge : PasskeyChallenge}
    (begins : tx.passkeyCeremony env.toDependencies = some challenge) :
    Prog.Issues (Statement.StoresOwn env tx) (storeChallenge challenge now) :=
  Prog.Issues.bind ⟨trivial, fun _ => trivial⟩ fun _ =>
    Prog.Issues.bind ⟨begins, fun _ => trivial⟩ fun _ => Prog.issues_ofExcept _

theorem beginChallenge_storesOwn
    {challenge : GoogleChallenge}
    (begins : tx.googleFlow env.toDependencies = some challenge) :
    Prog.Issues (Statement.StoresOwn env tx) (beginChallenge challenge now) := by
  refine Prog.Issues.bind ?_ fun _ =>
    Prog.Issues.bind ⟨trivial, fun _ => trivial⟩ fun _ =>
      Prog.Issues.bind ⟨begins, fun _ => trivial⟩ fun _ =>
        Prog.issues_ofExcept _
  unfold requireChallengeUser
  split
  · trivial
  · refine Prog.Issues.bind ⟨trivial, fun _ => trivial⟩ fun user => ?_
    split
    · trivial
    · split
      · trivial
      · trivial

/-- Whatever is answered, a transaction stores no challenge but its own. -/
theorem ServiceTx.body_storesOwn (tx : ServiceTx) :
    Prog.Issues (Statement.StoresOwn env tx) (tx.body env) := by
  cases tx with
  | beginRegistration principal expectedOrigin now draws =>
      refine Prog.Issues.bind ⟨trivial, fun _ => trivial⟩ fun user => ?_
      split
      · trivial
      · refine Prog.Issues.bind ⟨trivial, fun _ => trivial⟩ fun existing => ?_
        split
        · trivial
        · exact Prog.Issues.bind (storeChallenge_storesOwn rfl) fun _ => trivial
  | beginAuthentication expectedOrigin now draws =>
      exact Prog.Issues.bind (storeChallenge_storesOwn rfl) fun _ => trivial
  | beginReauthentication principal expectedOrigin now draws =>
      exact Prog.Issues.bind
        (storesOwn_of_within requirePrincipalUser_within (by simp) (by simp))
        fun _ => Prog.Issues.bind (storeChallenge_storesOwn rfl) fun _ => trivial
  | beginGoogleChallenge purpose origin clientId userId now draws =>
      exact beginChallenge_storesOwn rfl
  | consumePasskeyChallenge => exact ⟨trivial, fun _ => trivial⟩
  | consumeGoogleChallenge => exact ⟨trivial, fun _ => trivial⟩
  | _ =>
      exact storesOwn_of_within (ServiceTx.body_within _)
        (by simp [ServiceTx.kinds]) (by simp [ServiceTx.kinds])

end EpokAuth
