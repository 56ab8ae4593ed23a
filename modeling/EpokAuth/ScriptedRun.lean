import EpokAuth.ServiceRun

namespace EpokAuth

open Transactional

/-!
# Scripted runs

A script lists transactions, each of which completes before the next begins.
Executing a script yields a run of the services whenever the families it opens
are new, which is checked along the way.  The reference environment evaluates
such scripts: its hashes are transparent and its verifiers accept what names
itself.
-/

namespace ServiceTx

/-- Whether the family a transaction may start is not in use. -/
def isFresh (tx : ServiceTx) (store : Store) : Bool :=
  tx.opening.all fun draws =>
    store.sessions.rows.all fun session => session.familyId ≠ draws.familyId

/-- The check decides that a started family is not in use. -/
theorem fresh_of_isFresh
    {tx : ServiceTx}
    {store : Store}
    (isFresh : tx.isFresh store = true) :
    tx.Fresh store := by
  intro draws opens id session found
  rw [ServiceTx.isFresh, opens, Option.all_some, List.all_eq_true] at isFresh
  simpa using isFresh session (Table.mem_of_get? found)

end ServiceTx

section Script

variable (env : Environment)

/-- Execute transactions one after the other. -/
def executeAll : List ServiceTx → Store → List Executed × Store
  | [], store => ([], store)
  | tx :: rest, store =>
      let outcome := tx.execute env store
      let later := executeAll rest outcome.2
      ({ tx := tx, answer := outcome.1 } :: later.1, later.2)

/-- Whether every family that a script opens is new when it is opened. -/
def isAdmissible : List ServiceTx → Store → Bool
  | [], _ => true
  | tx :: rest, store =>
      tx.isFresh store && isAdmissible rest (tx.execute env store).2

variable {env}

/-- Executing an admissible script is a run of the services. -/
theorem run_executeAll
    {script : List ServiceTx}
    {store : Store}
    (admissible : isAdmissible env script store = true) :
    ServiceRun env store (executeAll env script store).1
      (executeAll env script store).2 := by
  induction script generalizing store with
  | nil =>
      exact .nil store
  | cons tx rest inductionHypothesis =>
      rw [isAdmissible, Bool.and_eq_true] at admissible
      exact .cons (.completed tx (ServiceTx.fresh_of_isFresh admissible.1))
        (inductionHypothesis admissible.2)

/-- The labels of a script name its transactions. -/
theorem map_tx_executeAll
    (script : List ServiceTx)
    (store : Store) :
    (executeAll env script store).1.map Executed.tx = script := by
  induction script generalizing store with
  | nil =>
      rfl
  | cons tx rest inductionHypothesis =>
      rw [executeAll, List.map_cons, inductionHypothesis]

/-- Every label of a script's run carries a transaction of the script. -/
theorem mem_of_split_executeAll
    {script : List ServiceTx}
    {store : Store}
    {first second : List Executed}
    {executed : Executed}
    (split :
      (executeAll env script store).1 = first ++ executed :: second) :
    executed.tx ∈ script := by
  have names :
      (executeAll env script store).1.map Executed.tx = script :=
    map_tx_executeAll script store
  rw [← names, split, List.map_append, List.map_cons]
  exact List.mem_append_right _ List.mem_cons_self

/-- The store after an admissible script is reachable. -/
theorem reachable_executeAll
    {script : List ServiceTx}
    (admissible : isAdmissible env script {} = true) :
    ServiceReachable env (executeAll env script {}).2 :=
  ⟨_, run_executeAll admissible⟩

end Script

/-! ## The reference environment -/

/-- Replace the characters that a digest may not contain. -/
def asciiOnly (character : Char) : Char :=
  if character.toNat < 128 then character else '?'

/-- A digest that shows what it was computed from. -/
def transparentDigest : Digest where
  hexdigest value := String.ofList (value.toList.map asciiOnly)
  ascii := by
    intro value
    simp only [isAscii, String.toList_ofList, List.all_eq_true, List.mem_map,
      decide_eq_true_eq]
    rintro _ ⟨character, _, rfl⟩
    unfold asciiOnly
    split
    · assumption
    · decide

/-- A hasher that stores the password itself. -/
def transparentPasswords : PasswordManager where
  rules := []
  passwordHash :=
    { hash := fun _ password => password
      verifyAndUpdate := fun _ password encoded => (password = encoded, none) }
  dummyHash := "dummy"

/-- Text functions that keep every text as it is. -/
def plainText : TextLibrary where
  casefold := id
  validateEmail := some
  idna := some
  urlsplit := fun _ => none

/-- An authenticator that accepts every credential named by its payload. -/
def transparentAdapter : PasskeyAdapter where
  registrationOptions := fun _ _ _ => ""
  authenticationOptions := fun _ => ""
  credentialId := fun payload =>
    some (payload.toList.map fun character => character.toNat.toUInt8)
  verifyRegistration := fun payload _ _ =>
    some
      { credentialId :=
          payload.toList.map fun character => character.toNat.toUInt8
        publicKey := []
        signCount := 0
        aaguid := ""
        transports := []
        deviceType := "single_device"
        backedUp := false }
  verifyAuthentication := fun _ _ _ stored =>
    some
      { credentialId := stored.credentialId
        signCount := stored.signCount + 1
        deviceType := stored.deviceType
        backedUp := stored.backedUp }

/-- The environment in which scripts are evaluated. -/
def referenceEnvironment : Environment where
  settings :=
    { googleClientId := some "client"
      googleAccountMode := .preauthorized
      emailLinkLoginUrl := some "https://example.test/login"
      emailLinkPasswordResetUrl := some "https://example.test/reset"
      emailLinkInvitationUrl := some "https://example.test/invitation"
      emailLinkActivationUrl := some "https://example.test/activation" }
  text := plainText
  passwords := transparentPasswords
  digest := transparentDigest
  signer :=
    { issue := fun _ _ _ => "access"
      verify := fun _ => .error .typeError }
  adapter := transparentAdapter
  verifyGoogle := fun _ _ _ => .rejected

/-! ## An account with a session -/

/-- The principal of a login with a temporary password. -/
def temporaryPrincipal : Principal where
  userId := 1
  sessionId := 12
  familyId := 13
  email := "user@example.test"
  displayName := "User"
  roles := []
  scopes := []
  mustChangePassword := true
  authenticatedAt := 5

/-- The principal once the password was changed. -/
def loggedInPrincipal : Principal :=
  { temporaryPrincipal with
    sessionId := 2
    familyId := 3
    mustChangePassword := false
    authenticatedAt := 10 }

/-- An account whose owner has chosen a password, with a new session. -/
def loggedIn : List ServiceTx :=
  [ .createUser 1 "user@example.test" "User" "a temporary password" [] [] false
      0 {},
    .login "user@example.test" "a temporary password" 5 {} 0
      { sessionId := 12, familyId := 13, refreshToken := "temporary"
        csrfToken := "csrf", tokenId := 14 },
    .changePassword temporaryPrincipal "a temporary password"
      "a passphrase of its owner" 10 {} { current := 0, same := 0, hash := 0 }
      { sessionId := 2, familyId := 3, refreshToken := "first"
        csrfToken := "csrf", tokenId := 4 } ]

/-- A passkey that an authenticator verified. -/
def verifiedPasskey : VerifiedPasskeyRegistration where
  credentialId := [1]
  publicKey := [2]
  signCount := 0
  aaguid := ""
  transports := []
  deviceType := "single_device"
  backedUp := false

end EpokAuth
