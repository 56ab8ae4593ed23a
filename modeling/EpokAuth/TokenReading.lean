import EpokAuth.AccessToken

namespace EpokAuth

open TextEncoding

/-!
# What reading a token may answer

Every way through the reader ends in claims whose dates passed all checks, in
an exception that is turned into a refusal, or in the one exception that is
not: a date conversion that the platform refuses with an `OSError`.
-/

/-! ## Computations that may raise -/

section Except

variable
  {ε α β : Type}
  {first : Except ε α}
  {later : α → Except ε β}

theorem except_bind_ok_iff {value : β} :
    (first >>= later) = .ok value ↔
      ∃ middle, first = .ok middle ∧ later middle = .ok value := by
  cases first with
  | error error =>
      constructor
      · intro same
        cases same
      · rintro ⟨middle, same, _⟩
        cases same
  | ok middle =>
      exact ⟨fun same => ⟨middle, rfl, same⟩, fun ⟨_, rfl, same⟩ => same⟩

theorem except_bind_error_iff {error : ε} :
    (first >>= later) = .error error ↔
      first = .error error ∨
        ∃ middle, first = .ok middle ∧ later middle = .error error := by
  cases first with
  | error earlier =>
      change (.error earlier : Except ε β) = .error error ↔ _
      simp
  | ok middle =>
      change later middle = .error error ↔ _
      simp

end Except

/-! ## The checks of the dates -/

theorem addTimedelta_ok_iff
    {instant sum difference : Int} :
    addTimedelta instant difference = .ok sum ↔
      Representable (instant + difference) ∧ sum = instant + difference := by
  unfold addTimedelta
  split
  · rename_i inRange
    rw [Except.ok.injEq]
    exact ⟨fun same => ⟨inRange, same.symm⟩, fun same => same.2.symm⟩
  · rename_i outside
    exact ⟨fun same => (by cases same), fun same => absurd same.1 outside⟩

theorem timedelta_ok_iff
    {count : Nat}
    {difference : Int} :
    timedelta count = .ok difference ↔
      count ≤ 86399999999999 ∧ difference = seconds count := by
  unfold timedelta
  split
  · rename_i inRange
    rw [Except.ok.injEq]
    exact ⟨fun same => ⟨inRange, same.symm⟩, fun same => same.2.symm⟩
  · rename_i outside
    exact ⟨fun same => (by cases same), fun same => absurd same.1 outside⟩

theorem rejectIf_ok_iff
    {condition : Prop}
    [Decidable condition]
    {value : Unit} :
    rejectIf condition = .ok value ↔ ¬ condition := by
  unfold rejectIf
  split <;> simp_all

/-- Dates that pass every check, none of which overflows. -/
structure DatesAccepted
    (signer : HMACJWTSigner)
    (dates : TokenDates)
    (now : Int) :
    Prop where
  started : dates.issuedAt ≤ now + seconds signer.leewaySeconds
  usable : dates.notBefore ≤ now + seconds signer.leewaySeconds
  consistent :
    (dates.notBefore - dates.issuedAt).natAbs ≤
      (seconds signer.leewaySeconds).natAbs
  authenticated :
    dates.authenticatedAt ≤ dates.issuedAt + seconds signer.leewaySeconds
  lifetime :
    dates.expiresAt - dates.issuedAt ≤
      seconds (signer.accessTtlSeconds + signer.leewaySeconds)
  unexpired : now - seconds signer.leewaySeconds < dates.expiresAt
  ordered : dates.issuedAt < dates.expiresAt
  differences :
    signer.accessTtlSeconds + signer.leewaySeconds ≤ 86399999999999
  latest : Representable (now + seconds signer.leewaySeconds)
  latestAuthentication :
    Representable (dates.issuedAt + seconds signer.leewaySeconds)
  earliest : Representable (now - seconds signer.leewaySeconds)

/-- The checks pass exactly on dates that are accepted. -/
theorem checkDates_ok_iff
    {signer : HMACJWTSigner}
    {dates : TokenDates}
    {now : Int} :
    signer.checkDates dates now = .ok () ↔ DatesAccepted signer dates now := by
  simp only [HMACJWTSigner.checkDates, except_bind_ok_iff, rejectIf_ok_iff,
    timedelta_ok_iff, addTimedelta_ok_iff, not_or, not_lt, not_le]
  constructor
  · rintro ⟨_, ⟨_, rfl⟩, _, ⟨latest, rfl⟩, _, ⟨started, usable⟩, _, consistent,
      _, ⟨latestAuthentication, rfl⟩, _, authenticated, _, ⟨differences, rfl⟩,
      _, lifetime, _, ⟨earliest, rfl⟩, unexpired, ordered⟩
    exact
      { started, usable, consistent, authenticated, lifetime, unexpired,
        ordered, differences, latest, latestAuthentication, earliest }
  · intro accepted
    have leeway : signer.leewaySeconds ≤ 86399999999999 :=
      le_trans (Nat.le_add_left _ _) accepted.differences
    exact ⟨_, ⟨leeway, rfl⟩, _, ⟨accepted.latest, rfl⟩, (),
      ⟨accepted.started, accepted.usable⟩, (), accepted.consistent, _,
      ⟨accepted.latestAuthentication, rfl⟩, (), accepted.authenticated, _,
      ⟨accepted.differences, rfl⟩, (), accepted.lifetime, _,
      ⟨accepted.earliest, rfl⟩, accepted.unexpired, accepted.ordered⟩

/-- A failing check raises no error of the platform. -/
theorem checkDates_error
    {signer : HMACJWTSigner}
    {dates : TokenDates}
    {now : Int}
    {error : PythonError}
    (raised : signer.checkDates dates now = .error error) :
    error.isCaught = true := by
  have added :
      ∀ {instant difference : Int},
        addTimedelta instant difference = .error error →
          error.isCaught = true := by
    intro instant difference same
    unfold addTimedelta at same
    split at same <;> cases same
    rfl
  have taken :
      ∀ {count : Nat}, timedelta count = .error error →
        error.isCaught = true := by
    intro count same
    unfold timedelta at same
    split at same <;> cases same
    rfl
  have rejected :
      ∀ {condition : Prop} [Decidable condition],
        rejectIf condition = .error error → error.isCaught = true := by
    intro condition _ same
    unfold rejectIf at same
    split at same <;> cases same
    rfl
  simp only [HMACJWTSigner.checkDates, except_bind_error_iff] at raised
  rcases raised with same | ⟨_, _, same | ⟨_, _, same | ⟨_, _, same |
    ⟨_, _, same | ⟨_, _, same | ⟨_, _, same | ⟨_, _, same | ⟨_, _, same |
      ⟨_, _, same⟩⟩⟩⟩⟩⟩⟩⟩⟩
  · exact taken same
  · exact added same
  · exact rejected same
  · exact rejected same
  · exact added same
  · exact rejected same
  · exact taken same
  · exact rejected same
  · exact added same
  · exact rejected same

/-! ## The parts of a payload -/

section Parts

variable
  {platform : TokenPlatform}
  {payload : Payload}
  {name : String}
  {error : PythonError}

theorem readClaim_error (raised : readClaim payload name = .error error) :
    error.isCaught = true := by
  unfold readClaim at raised
  split at raised <;> cases raised
  rfl

theorem readKind_error (raised : readKind payload = .error error) :
    error.isCaught = true := by
  unfold readKind at raised
  split at raised
  · rename_i earlier missing
    cases raised
    exact readClaim_error missing
  · cases raised
  · cases raised
    rfl

theorem pythonStr_error
    {value : Json}
    (raised : pythonStr platform value = .error error) :
    error.isCaught = true := by
  unfold pythonStr at raised
  split at raised
  · cases raised
  · split at raised <;> cases raised
    rfl

theorem readTokenId_error (raised : readTokenId platform payload = .error error) :
    error.isCaught = true := by
  simp only [readTokenId, except_bind_error_iff] at raised
  rcases raised with missing | ⟨value, _, unprinted | ⟨printed, _, malformed⟩⟩
  · exact readClaim_error missing
  · exact pythonStr_error unprinted
  · split at malformed <;> cases malformed
    rfl

theorem readUuid_error
    (raised : readUuid platform payload name = .error error) :
    error.isCaught = true := by
  simp only [readUuid, except_bind_error_iff] at raised
  rcases raised with missing | ⟨value, _, unprinted | ⟨printed, _, malformed⟩⟩
  · exact readClaim_error missing
  · exact pythonStr_error unprinted
  · split at malformed <;> cases malformed
    rfl

theorem numericDate_error (raised : numericDate payload name = .error error) :
    error.isCaught = true := by
  unfold numericDate at raised
  split at raised
  · rename_i earlier missing
    cases raised
    exact readClaim_error missing
  · cases raised
  · cases raised
    rfl
  · cases raised
    rfl
  · split at raised <;> cases raised
    rfl
  · cases raised
    rfl

theorem readDate_ok_iff {date : Int} :
    readDate platform payload name = .ok date ↔
      ∃ count, numericDate payload name = .ok count ∧
        platform.fromtimestamp count = .ok date :=
  except_bind_ok_iff

theorem readDate_osError_iff :
    readDate platform payload name = .error .osError ↔
      ∃ count, numericDate payload name = .ok count ∧
        platform.fromtimestamp count = .error .osError := by
  rw [readDate, except_bind_error_iff]
  refine or_iff_right fun raised => ?_
  cases numericDate_error raised

/-- A date that converts is the number of seconds it was given as. -/
theorem readDate_eq
    {date : Int}
    (read : readDate platform payload name = .ok date) :
    ∃ count, numericDate payload name = .ok count ∧
      date = count * 1000000 := by
  obtain ⟨count, numeric, converted⟩ := readDate_ok_iff.mp read
  refine ⟨count, numeric, ?_⟩
  by_cases inRange : Representable (count * 1000000)
  · rw [platform.fromtimestamp_exact count inRange] at converted
    exact (Except.ok.inj converted).symm
  · rcases platform.fromtimestamp_raises count inRange with same | same | same <;>
      · rw [same] at converted
        cases converted

variable (platform payload)

/--
One of the named dates is a whole number that the platform refuses with an
`OSError`, and every date before it converts.
-/
def ReachesOsError : (names : List String) → Prop
  | [] => False
  | name :: rest =>
      ∃ count, numericDate payload name = .ok count ∧
        (platform.fromtimestamp count = .error .osError ∨
          ((∃ date, platform.fromtimestamp count = .ok date) ∧
            ReachesOsError rest))

/-- The names of the dates, in the order they are read. -/
def dateNames : List String :=
  ["iat", "nbf", "exp", "auth_time"]

variable {platform payload}

/-- Reading a date and then the others. -/
theorem readDate_bind_osError_iff
    {later : Int → Except PythonError α}
    {names : List String}
    (continues : ∀ date,
      later date = .error .osError ↔ ReachesOsError platform payload names) :
    (readDate platform payload name >>= later) = .error .osError ↔
      ReachesOsError platform payload (name :: names) := by
  rw [except_bind_error_iff, readDate_osError_iff]
  constructor
  · rintro (⟨count, numeric, refused⟩ | ⟨date, read, raised⟩)
    · exact ⟨count, numeric, .inl refused⟩
    · obtain ⟨count, numeric, converted⟩ := readDate_ok_iff.mp read
      exact ⟨count, numeric,
        .inr ⟨⟨date, converted⟩, (continues date).mp raised⟩⟩
  · rintro ⟨count, numeric, refused | ⟨⟨date, converted⟩, reaches⟩⟩
    · exact .inl ⟨count, numeric, refused⟩
    · exact .inr ⟨date, readDate_ok_iff.mpr ⟨count, numeric, converted⟩,
        (continues date).mpr reaches⟩

theorem readDates_osError_iff :
    readDates platform payload = .error .osError ↔
      ReachesOsError platform payload dateNames := by
  refine readDate_bind_osError_iff fun issuedAt => ?_
  refine readDate_bind_osError_iff fun notBefore => ?_
  refine readDate_bind_osError_iff fun expiresAt => ?_
  refine readDate_bind_osError_iff fun authenticatedAt => ?_
  exact ⟨fun same => (by cases same), False.elim⟩

end Parts

/-! ## Whole tokens -/

/-- Only one exception is not turned into a refusal. -/
theorem PythonError.isCaught_eq_false_iff {error : PythonError} :
    error.isCaught = false ↔ error = .osError := by
  cases error <;> decide

section Verify

variable
  {platform : TokenPlatform}
  {signer : HMACJWTSigner}
  {payload : Payload}
  {token : String}
  {now : Int}

/-- The platform's exception escapes from the conversion of a date only. -/
theorem readClaims_osError_iff :
    signer.readClaims platform payload now = .error .osError ↔
      readKind payload = .ok () ∧
        (∃ tokenId, readTokenId platform payload = .ok tokenId) ∧
          ReachesOsError platform payload dateNames := by
  have uncaught : ∀ {error : PythonError},
      error.isCaught = true → error ≠ .osError := by
    rintro _ caught rfl
    cases caught
  simp only [HMACJWTSigner.readClaims, except_bind_error_iff,
    readDates_osError_iff]
  constructor
  · rintro (kind | ⟨_, kind, identifier | ⟨tokenId, read, reaches |
      ⟨dates, _, checks | ⟨_, _, user | ⟨_, _, session | ⟨_, _, family |
        ⟨_, _, built⟩⟩⟩⟩⟩⟩⟩)
    · exact absurd rfl (uncaught (readKind_error kind))
    · exact absurd rfl (uncaught (readTokenId_error identifier))
    · exact ⟨kind, ⟨tokenId, read⟩, reaches⟩
    · exact absurd rfl (uncaught (checkDates_error checks))
    · exact absurd rfl (uncaught (readUuid_error user))
    · exact absurd rfl (uncaught (readUuid_error session))
    · exact absurd rfl (uncaught (readUuid_error family))
    · cases built
  · rintro ⟨kind, ⟨tokenId, read⟩, reaches⟩
    exact .inr ⟨(), kind, .inr ⟨tokenId, read, .inl reaches⟩⟩

variable (platform signer payload now)

/-- Claims that say what the payload says, and lie within the policy. -/
structure SoundClaims (claims : AccessClaims) : Prop where
  tokenId : isTokenId claims.tokenId = true
  dates : ∃ issuedAt notBefore expiresAt authenticatedAt : Int,
    numericDate payload "iat" = .ok issuedAt ∧
      numericDate payload "nbf" = .ok notBefore ∧
      numericDate payload "exp" = .ok expiresAt ∧
      numericDate payload "auth_time" = .ok authenticatedAt ∧
      claims.issuedAt = issuedAt * 1000000 ∧
      claims.expiresAt = expiresAt * 1000000 ∧
      claims.authenticatedAt = authenticatedAt * 1000000 ∧
      issuedAt * 1000000 ≤ now + seconds signer.leewaySeconds ∧
      (notBefore - issuedAt).natAbs ≤ signer.leewaySeconds ∧
      authenticatedAt ≤ issuedAt + signer.leewaySeconds ∧
      issuedAt < expiresAt ∧
      expiresAt ≤
        issuedAt + signer.accessTtlSeconds + signer.leewaySeconds ∧
      now - seconds signer.leewaySeconds < expiresAt * 1000000

variable {platform signer payload now}

/-- Claims that are returned are sound. -/
theorem soundClaims_of_readClaims
    {claims : AccessClaims}
    (read : signer.readClaims platform payload now = .ok claims) :
    SoundClaims signer payload now claims := by
  simp only [HMACJWTSigner.readClaims, except_bind_ok_iff] at read
  obtain ⟨_, _, tokenId, identified, dates, converted, _, checked, userId, _,
    sessionId, _, familyId, _, built⟩ := read
  obtain rfl := Except.ok.inj built
  have accepted := checkDates_ok_iff.mp checked
  simp only [readDates, except_bind_ok_iff] at converted
  obtain ⟨iat, readIat, nbf, readNbf, exp, readExp, auth, readAuth, same⟩ :=
    converted
  obtain rfl := Except.ok.inj same
  obtain ⟨issuedAt, numericIat, rfl⟩ := readDate_eq readIat
  obtain ⟨notBefore, numericNbf, rfl⟩ := readDate_eq readNbf
  obtain ⟨expiresAt, numericExp, rfl⟩ := readDate_eq readExp
  obtain ⟨authenticatedAt, numericAuth, rfl⟩ := readDate_eq readAuth
  have wellFormed : isTokenId tokenId = true := by
    simp only [readTokenId, except_bind_ok_iff] at identified
    obtain ⟨_, _, printed, _, same⟩ := identified
    split at same
    · rename_i holds
      exact Except.ok.inj same ▸ holds
    · cases same
  -- The same facts, in whole seconds.
  have consistent :
      (notBefore * 1000000 - issuedAt * 1000000).natAbs ≤
        ((signer.leewaySeconds : Int) * 1000000).natAbs :=
    accepted.consistent
  have authenticated :
      authenticatedAt * 1000000 ≤
        issuedAt * 1000000 + (signer.leewaySeconds : Int) * 1000000 :=
    accepted.authenticated
  have lifetime :
      expiresAt * 1000000 - issuedAt * 1000000 ≤
        ((signer.accessTtlSeconds + signer.leewaySeconds : Nat) : Int) *
          1000000 :=
    accepted.lifetime
  have ordered : issuedAt * 1000000 < expiresAt * 1000000 := accepted.ordered
  exact ⟨wellFormed, issuedAt, notBefore, expiresAt, authenticatedAt,
    numericIat, numericNbf, numericExp, numericAuth, rfl, rfl, rfl,
    accepted.started, by omega, by omega, by omega, by omega,
    accepted.unexpired⟩

/-- The handler returns what the reader returns. -/
theorem refuseCaught_ok_iff
    {outcome : Except PythonError AccessClaims}
    {claims : AccessClaims} :
    refuseCaught outcome = .ok claims ↔ outcome = .ok claims := by
  cases outcome with
  | ok returned =>
      simp [refuseCaught]
  | error error =>
      simp only [refuseCaught]
      split <;> simp

/-- A token within the size limit that decodes is read. -/
theorem verify_of_decoded
    (present : token ≠ "")
    (short : token.length ≤ signer.maxTokenChars)
    (decoded :
      platform.decode signer.issuer signer.audience token = some payload) :
    signer.verify platform token now =
      refuseCaught (signer.readClaims platform payload now) := by
  have wellSized : ¬ (token = "" ∨ signer.maxTokenChars < token.length) :=
    not_or.mpr ⟨present, Nat.not_lt.mpr short⟩
  rw [HMACJWTSigner.verify, if_neg wellSized, decoded]

variable (platform signer token now)

/-- A token is refused, or its payload yields sound claims. -/
def VerifiesSoundly : Prop :=
  signer.verify platform token now = .error (.refused invalidSession) ∨
    ∃ payload claims,
      platform.decode signer.issuer signer.audience token = some payload ∧
        signer.verify platform token now = .ok claims ∧
        SoundClaims signer payload now claims

variable {platform signer token now}

/--
Verification answers a string with a refusal or with sound claims, exactly when
it meets no date that the platform refuses with an `OSError`: every other
exception that the reader can raise is turned into the refusal.
-/
theorem verifies_soundly_iff :
    VerifiesSoundly platform signer token now ↔
      ∀ payload,
        platform.decode signer.issuer signer.audience token = some payload →
        token ≠ "" → token.length ≤ signer.maxTokenChars →
        readKind payload = .ok () →
        (∃ tokenId, readTokenId platform payload = .ok tokenId) →
          ¬ ReachesOsError platform payload dateNames := by
  constructor
  · intro sound payload decoded present short kind identified reaches
    have raised : signer.readClaims platform payload now = .error .osError :=
      readClaims_osError_iff.mpr ⟨kind, identified, reaches⟩
    have escaped := @verify_of_decoded _ _ _ _ now present short decoded
    rw [raised] at escaped
    rcases sound with refused | ⟨_, _, _, returned, _⟩
    · cases escaped.symm.trans refused
    · cases escaped.symm.trans returned
  · intro condition
    by_cases malformed : token = "" ∨ signer.maxTokenChars < token.length
    · exact .inl (if_pos malformed)
    obtain ⟨present, short⟩ := not_or.mp malformed
    cases decoded : platform.decode signer.issuer signer.audience token with
    | none =>
        left
        rw [HMACJWTSigner.verify, if_neg malformed, decoded]
    | some payload =>
        have outcome :=
          @verify_of_decoded _ _ _ _ now present (Nat.not_lt.mp short) decoded
        cases read : signer.readClaims platform payload now with
        | ok claims =>
            rw [read] at outcome
            exact .inr ⟨payload, claims, decoded, outcome,
              soundClaims_of_readClaims read⟩
        | error error =>
            rw [read] at outcome
            cases caught : error.isCaught with
            | true =>
                left
                simpa [refuseCaught, caught] using outcome
            | false =>
                obtain rfl := PythonError.isCaught_eq_false_iff.mp caught
                obtain ⟨kind, identified, reaches⟩ :=
                  readClaims_osError_iff.mp read
                exact absurd reaches
                  (condition payload decoded present (Nat.not_lt.mp short)
                    kind identified)

end Verify

/-! ## A platform that converts dates as a Unix system does -/

/-- The seconds whose years fit the system's calendar. -/
def InCalendar (count : Int) : Prop :=
  -67768040609740800 ≤ count ∧ count ≤ 67768036191676799

instance (count : Int) : Decidable (InCalendar count) :=
  inferInstanceAs (Decidable (_ ∧ _))

/--
Years beyond 9999 are a `ValueError` as long as they fit the system's calendar,
an `OSError` when they do not, and an `OverflowError` beyond its integers.
-/
def unixFromtimestamp (count : Int) : Except PythonError Int :=
  if Representable (count * 1000000) then
    .ok (count * 1000000)
  else if InCalendar count then
    .error .valueError
  else if -2 ^ 63 ≤ count ∧ count < 2 ^ 63 then
    .error .osError
  else
    .error .overflowError

/-- A platform of this kind, with a decoder and a constant signature. -/
def unixPlatform (decode : String → Option Payload) : TokenPlatform where
  sign := fun _ => List.replicate 32 0
  sign_length := fun _ => List.length_replicate
  decode := fun _ _ token => decode token
  fromtimestamp := unixFromtimestamp
  fromtimestamp_exact := fun _ inRange => if_pos inRange
  fromtimestamp_raises := by
    intro count outside
    unfold unixFromtimestamp
    rw [if_neg outside]
    split
    · exact .inl rfl
    · split
      · exact .inr (.inr rfl)
      · exact .inr (.inl rfl)
  print := fun _ => none
  decimalDigit := fun _ => none

/-- A payload whose issue date lies beyond the system's calendar. -/
def farFuturePayload : Payload :=
  [ ("sub", .text "00000000-0000-0000-0000-000000000001"),
    ("sid", .text "00000000-0000-0000-0000-000000000002"),
    ("fid", .text "00000000-0000-0000-0000-000000000003"),
    ("type", .text "access"),
    ("jti", .text "0123456789abcdef0123456789abcdef"),
    ("iat", .integer 100000000000000000),
    ("nbf", .integer 100000000000000000),
    ("exp", .integer 100000000000000300),
    ("auth_time", .integer 100000000000000000),
    ("iss", .text "tests"),
    ("aud", .text "tests-api") ]

/-- The exception for that date escapes from verification. -/
theorem far_future_date_escapes :
    (HMACJWTSigner.mk "tests" "tests-api" 300 5 8192).verify
        (unixPlatform fun _ => some farFuturePayload) "token" 0 =
        .error (.escaped .osError) ∧
      ¬ VerifiesSoundly (unixPlatform fun _ => some farFuturePayload)
        (HMACJWTSigner.mk "tests" "tests-api" 300 5 8192) "token" 0 := by
  have escaped :
      (HMACJWTSigner.mk "tests" "tests-api" 300 5 8192).verify
        (unixPlatform fun _ => some farFuturePayload) "token" 0 =
        .error (.escaped .osError) := by
    rfl
  refine ⟨escaped, ?_⟩
  rintro (refused | ⟨_, _, _, returned, _⟩)
  · cases escaped.symm.trans refused
  · cases escaped.symm.trans returned

end EpokAuth
