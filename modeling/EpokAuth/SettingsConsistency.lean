import EpokAuth.PasswordPolicy
import EpokAuth.TokenWindow

namespace EpokAuth

open TextEncoding

/-!
# Settings against what is generated under them

The settings bound the length of a password and the size of a token, and say how
many random bytes a temporary password is made of and which texts a token
carries.  Each field is checked on its own.  The encodings fix the length of
what is generated, so the settings agree with each other exactly when these
lengths lie within the limits.
-/

/-! ## Lengths of encoded texts -/

/-- Characters that need no escape are encoded one by one. -/
theorem length_escaped_of_plain
    {characters : List Char}
    (plain : ∀ character ∈ characters, escape character = [character]) :
    (escaped (String.ofList characters)).length = characters.length := by
  rw [escaped, String.toList_ofList]
  induction characters with
  | nil =>
      rfl
  | cons first rest inductionHypothesis =>
      rw [List.flatMap_cons, plain first List.mem_cons_self]
      have later := inductionHypothesis fun character member =>
        plain character (List.mem_cons_of_mem first member)
      simp [later]

theorem escape_of_mem_hexDigits :
    ∀ character ∈ '-' :: hexDigits, escape character = [character] := by
  have all :
      (('-' :: hexDigits).all fun character =>
        escape character == [character]) = true := by
    decide
  intro character member
  exact eq_of_beq (List.all_eq_true.mp all character member)

@[simp] theorem length_escaped_hexadecimal (value : Nat) :
    (escaped (String.ofList (hexadecimal 32 value))).length = 32 := by
  rw [length_escaped_of_plain, length_hexadecimal]
  intro character member
  exact escape_of_mem_hexDigits character
    (List.mem_cons_of_mem _ (mem_hexadecimal member))

@[simp] theorem length_escaped_uuidText (id : Uuid) :
    (escaped (uuidText id)).length = 36 := by
  have characters : uuidText id = String.ofList (uuidText id).toList :=
    (String.ofList_toList).symm
  rw [characters, length_escaped_of_plain, String.length_toList,
    length_uuidText]
  intro character member
  exact escape_of_mem_hexDigits character (mem_uuidText member)

/-- The names of the claims, and their kind, are plain. -/
theorem length_escaped_name :
    (["sub", "sid", "fid", "type", "jti", "iat", "nbf", "exp", "auth_time",
      "iss", "aud", "access"].map fun name => (escaped name).length) =
      [3, 3, 3, 4, 3, 3, 3, 3, 9, 3, 3, 6] := by
  decide

/-- The decimal digits of an integer, and its sign. -/
def decimalLength (value : Int) : Nat :=
  (toString value).length

section Payload

variable
  {signer : HMACJWTSigner}
  {principal : Principal}
  {tokenId : Uuid}
  {now expiresAt : Int}

/-- Everything but the dates and the configured texts has a fixed length. -/
theorem length_claims :
    (renderObject (signer.claims principal tokenId now expiresAt)).length =
      245 + 2 * decimalLength (wholeSeconds now) +
        decimalLength (wholeSeconds expiresAt) +
        decimalLength (wholeSeconds principal.authenticatedAt) +
        (escaped signer.issuer).length + (escaped signer.audience).length := by
  have named := length_escaped_name
  simp only [List.map_cons, List.map_nil, List.cons.injEq] at named
  simp only [HMACJWTSigner.claims, length_renderObject, List.map_cons,
    List.map_nil, List.sum_cons, List.sum_nil, renderEntry, Scalar.render,
    List.length_append, List.length_cons, List.length_nil, length_quoted,
    named, length_escaped_uuidText, length_escaped_hexadecimal, decimalLength,
    String.length_toList]
  omega

end Payload

/-! ## Dates have at most twelve characters -/

theorem decimalLength_le
    {value : Int}
    (low : -100000000000 < value)
    (high : value < 1000000000000) :
    decimalLength value ≤ 12 := by
  cases value with
  | ofNat count =>
      have small : count < 10 ^ 12 := Int.ofNat_lt.mp high
      exact length_toString_le (by decide) small
  | negSucc count =>
      have small : count + 1 < 10 ^ 11 := by
        have opposite := Int.neg_lt_neg low
        rw [Int.neg_negSucc] at opposite
        exact Int.ofNat_lt.mp opposite
      have digits : (Nat.repr (count + 1)).length ≤ 11 :=
        (Nat.length_repr_le_iff (by decide)).mpr small
      change ("-" ++ Nat.repr (count + 1)).length ≤ 12
      rw [String.length_append]
      change 1 + _ ≤ 12
      omega

theorem decimalLength_eq
    {value : Int}
    (low : 100000000000 ≤ value)
    (high : value < 1000000000000) :
    decimalLength value = 12 := by
  refine le_antisymm (decimalLength_le (by omega) high) ?_
  obtain ⟨count, rfl⟩ := @Int.eq_ofNat_of_zero_le value (by omega)
  by_contra short
  have small : count < 10 ^ 11 :=
    (Nat.length_repr_le_iff (by decide)).mp (Nat.le_of_lt_succ (Nat.lt_of_not_le short))
  omega

/-- The whole seconds of an instant in the range of dates. -/
theorem decimalLength_wholeSeconds
    {instant : Int}
    (inRange : Representable instant) :
    decimalLength (wholeSeconds instant) ≤ 12 := by
  have low : -62135596800000000 ≤ instant := inRange.1
  have high : instant ≤ 253402300799999999 := inRange.2
  have quotient :=
    @DoubleRounding.truncatedQuotient_le_succ instant.natAbs 1000000
      (by decide)
  unfold wholeSeconds
  dsimp only
  split
  · exact decimalLength_le (by omega) (by omega)
  · exact decimalLength_le (by omega) (by omega)

/-! ## Temporary passwords -/

/-- Case folding of an ASCII text lowers its letters. -/
def TextLibrary.FoldsAscii (text : TextLibrary) : Prop :=
  ∀ value, isAscii value = true →
    text.casefold value = String.ofList (value.toList.map Char.toLower)

/-- URL-safe text made of random bytes. -/
def tokenUrlsafe (bytes : List UInt8) : String :=
  String.ofList (base64Url bytes)

@[simp] theorem length_tokenUrlsafe (bytes : List UInt8) :
    (tokenUrlsafe bytes).length = (4 * bytes.length + 2) / 3 := by
  rw [tokenUrlsafe, String.length_ofList, length_base64Url]

theorem base64Alphabet_plain :
    ∀ character ∈ base64Alphabet,
      character.toNat < 128 ∧ character.toLower.toNat < 128 ∧
        character.toLower ≠ ' ' := by
  have all :
      (base64Alphabet.all fun character =>
        decide (character.toNat < 128 ∧ character.toLower.toNat < 128 ∧
          character.toLower ≠ ' ')) = true := by
    decide
  intro character member
  exact of_decide_eq_true (List.all_eq_true.mp all character member)

theorem isAscii_ofList_iff {characters : List Char} :
    isAscii (String.ofList characters) = true ↔
      ∀ character ∈ characters, character.toNat < 128 := by
  rw [isAscii, String.toList_ofList, List.all_eq_true]
  simp only [decide_eq_true_eq]

/-- Denied passwords of this length contain a blank. -/
theorem blank_of_mem_deniedPasswords :
    ∀ denied ∈ deniedPasswords, 22 ≤ denied.length → ' ' ∈ denied.toList := by
  decide

section Password

variable
  {text : TextLibrary}
  {minimum maximum : Nat}
  {passwordHash : PasswordHash}
  {dummySalt : Nat}
  {bytes : List UInt8}

theorem casefold_tokenUrlsafe
    (folds : text.FoldsAscii) :
    text.casefold (tokenUrlsafe bytes) =
      String.ofList ((base64Url bytes).map Char.toLower) := by
  have ascii : isAscii (tokenUrlsafe bytes) = true :=
    isAscii_ofList_iff.mpr fun character member =>
      (base64Alphabet_plain character (mem_base64Url member)).1
  rw [folds _ ascii, tokenUrlsafe, String.toList_ofList]

/-- A temporary password is refused for its length only. -/
theorem validate_tokenUrlsafe
    (folds : text.FoldsAscii)
    (long : 16 ≤ bytes.length)
    (legal : LegalLength minimum maximum (tokenUrlsafe bytes)) :
    (recommendedManager text minimum maximum passwordHash dummySalt).validate
        (tokenUrlsafe bytes) = .ok () := by
  have folded := @casefold_tokenUrlsafe _ bytes folds
  have lowered : ∀ character ∈ (base64Url bytes).map Char.toLower,
      character.toNat < 128 ∧ character ≠ ' ' := by
    intro character member
    obtain ⟨original, inside, rfl⟩ := List.mem_map.mp member
    exact (base64Alphabet_plain original (mem_base64Url inside)).2
  have ascii : isAscii (text.casefold (tokenUrlsafe bytes)) = true := by
    rw [folded]
    exact isAscii_ofList_iff.mpr fun character member =>
      (lowered character member).1
  have allowed : ¬ Denied text (tokenUrlsafe bytes) := by
    intro denied
    have size : 22 ≤ (text.casefold (tokenUrlsafe bytes)).length := by
      rw [folded, String.length_ofList, List.length_map, length_base64Url]
      omega
    have blank := blank_of_mem_deniedPasswords _ denied size
    rw [folded, String.toList_ofList] at blank
    exact (lowered ' ' blank).2 rfl
  rw [validate_of_legal legal, commonPasswordRule_of_ascii ascii,
    if_neg allowed]

end Password

/-! ## Settings that agree with each other -/

/-- What the validators leave of the texts that tokens carry. -/
def IsTokenName (value : String) : Prop :=
  strip value = value ∧ 1 ≤ value.length ∧ value.length ≤ 200 ∧
    hasControl value = false

instance (value : String) : Decidable (IsTokenName value) :=
  inferInstanceAs (Decidable (_ ∧ _ ∧ _ ∧ _))

/-- Settings with the texts of tokens validated too. -/
structure ValidatedSettings extends AuthSettings where
  issuerName : IsTokenName issuer
  audienceName : IsTokenName audience

/-- The signer that the services build. -/
def AuthSettings.signer (settings : AuthSettings) : HMACJWTSigner where
  issuer := settings.issuer
  audience := settings.audience
  accessTtlSeconds := settings.accessTtlSeconds
  leewaySeconds := settings.jwtLeewaySeconds
  maxTokenChars := settings.maxAccessTokenChars

/-- The password manager that the services build. -/
abbrev AuthSettings.passwords
    (settings : AuthSettings)
    (text : TextLibrary)
    (passwordHash : PasswordHash)
    (dummySalt : Nat) :
    PasswordManager :=
  recommendedManager text settings.passwordMinLength settings.passwordMaxLength
    passwordHash dummySalt

/-- Whatever is generated under the settings passes the limits they set. -/
structure GeneratesWithinLimits
    (settings : ValidatedSettings)
    (text : TextLibrary)
    (passwordHash : PasswordHash)
    (dummySalt : Nat)
    (platform : TokenPlatform) :
    Prop where
  passwords : ∀ bytes : List UInt8,
    bytes.length = settings.temporaryPasswordBytes →
      ∀ salt, ∃ encoded,
        (settings.passwords text passwordHash dummySalt).hash salt
          (tokenUrlsafe bytes) = .ok encoded
  tokens : ∀ principal tokenId (now : Int) token expiresAt,
    Representable now →
    Representable principal.authenticatedAt →
    settings.signer.issue platform principal tokenId now =
        .ok (token, expiresAt) →
      token.length ≤ settings.maxAccessTokenChars

section Consistency

variable
  {settings : ValidatedSettings}
  {text : TextLibrary}
  {passwordHash : PasswordHash}
  {dummySalt : Nat}
  {platform : TokenPlatform}

/-- The size of the largest token that is issued under the settings. -/
def AuthSettings.largestToken (settings : AuthSettings) : Nat :=
  (4 * (293 + (escaped settings.issuer).length +
    (escaped settings.audience).length) + 2) / 3 + 81

/-- A token is as long as its payload makes it. -/
theorem length_issued
    {signer : HMACJWTSigner}
    {principal : Principal}
    {tokenId : Uuid}
    {now expiresAt : Int}
    {token : String}
    (issued : signer.issue platform principal tokenId now =
      .ok (token, expiresAt)) :
    Representable expiresAt ∧
      expiresAt = now + seconds signer.accessTtlSeconds ∧
      token.length =
        (4 * (renderObject
          (signer.claims principal tokenId now expiresAt)).length + 2) / 3 +
          81 := by
  simp only [HMACJWTSigner.issue, except_bind_ok_iff, timedelta_ok_iff,
    addTimedelta_ok_iff] at issued
  obtain ⟨_, ⟨_, rfl⟩, _, ⟨inRange, rfl⟩, same⟩ := issued
  obtain ⟨rfl, rfl⟩ := Prod.mk.inj (Except.ok.inj same)
  exact ⟨inRange, rfl, length_encodeToken platform _⟩

theorem issued_length_le
    {principal : Principal}
    {tokenId : Uuid}
    {now expiresAt : Int}
    {token : String}
    (representable : Representable now)
    (authenticated : Representable principal.authenticatedAt)
    (issued : settings.signer.issue platform principal tokenId now =
      .ok (token, expiresAt)) :
    token.length ≤ settings.largestToken := by
  obtain ⟨expires, -, length⟩ := length_issued issued
  have issuedDigits := decimalLength_wholeSeconds representable
  have expiryDigits := decimalLength_wholeSeconds expires
  have authenticationDigits := decimalLength_wholeSeconds authenticated
  rw [length, length_claims, AuthSettings.largestToken]
  change (4 * (_ + (escaped settings.issuer).length +
    (escaped settings.audience).length) + 2) / 3 + 81 ≤ _
  omega

/-- The instant 100000000000 seconds after 1970. -/
def distantInstant : Int :=
  100000000000 * 1000000

/-- Dates of twelve digits make the largest token. -/
theorem exists_largest_token :
    ∃ token expiresAt,
      settings.signer.issue platform (somePrincipal distantInstant) 4
          distantInstant = .ok (token, expiresAt) ∧
        token.length = settings.largestToken := by
  have ttl : settings.signer.accessTtlSeconds ≤ 24 * 60 * 60 :=
    settings.accessTtlRange.2
  have sum :
      distantInstant + seconds settings.signer.accessTtlSeconds =
        100000000000 * 1000000 +
          (settings.signer.accessTtlSeconds : Int) * 1000000 :=
    rfl
  have inRange :
      Representable
        (distantInstant + seconds settings.signer.accessTtlSeconds) := by
    rw [sum]
    constructor <;> omega
  have issued :
      settings.signer.issue platform (somePrincipal distantInstant) 4
          distantInstant =
        .ok (encodeToken platform
          (settings.signer.claims (somePrincipal distantInstant) 4
            distantInstant
            (distantInstant + seconds settings.signer.accessTtlSeconds)),
          distantInstant + seconds settings.signer.accessTtlSeconds) :=
    except_bind_ok_iff.mpr ⟨_, timedelta_ok_iff.mpr ⟨by omega, rfl⟩,
      except_bind_ok_iff.mpr ⟨_, addTimedelta_ok_iff.mpr ⟨inRange, rfl⟩, rfl⟩⟩
  refine ⟨_, _, issued, ?_⟩
  obtain ⟨_, _, length⟩ := length_issued issued
  have start : decimalLength (wholeSeconds distantInstant) = 12 := by
    decide +kernel
  have finish :
      decimalLength
        (wholeSeconds
          (distantInstant + seconds settings.signer.accessTtlSeconds)) =
        12 := by
    rw [sum]
    have low := @div_le_wholeSeconds
      (100000000000 * 1000000 +
        (settings.signer.accessTtlSeconds : Int) * 1000000) (by omega)
    have high := @wholeSeconds_le_succ
      (100000000000 * 1000000 +
        (settings.signer.accessTtlSeconds : Int) * 1000000) (by omega)
    exact decimalLength_eq (by omega) (by omega)
  have authenticated :
      decimalLength
        (wholeSeconds (somePrincipal distantInstant).authenticatedAt) = 12 :=
    start
  rw [length, length_claims, start, finish, authenticated,
    AuthSettings.largestToken]
  change (4 * (_ + (escaped settings.issuer).length +
    (escaped settings.audience).length) + 2) / 3 + 81 = _
  omega

/--
Everything that is generated passes the limits of the settings exactly when
the length of a temporary password lies between the two bounds, and the
largest token is not larger than the limit on tokens.
-/
theorem generates_within_limits_iff
    (folds : text.FoldsAscii) :
    GeneratesWithinLimits settings text passwordHash dummySalt platform ↔
      settings.passwordMinLength ≤
          (4 * settings.temporaryPasswordBytes + 2) / 3 ∧
        (4 * settings.temporaryPasswordBytes + 2) / 3 ≤
          settings.passwordMaxLength ∧
        settings.largestToken ≤ settings.maxAccessTokenChars := by
  constructor
  · intro generates
    have legal :
        LegalLength settings.passwordMinLength settings.passwordMaxLength
          (tokenUrlsafe (List.replicate settings.temporaryPasswordBytes 0)) := by
      by_contra illegal
      obtain ⟨encoded, hashed⟩ :=
        generates.passwords
          (List.replicate settings.temporaryPasswordBytes 0)
          List.length_replicate 0
      rw [PasswordManager.hash, validate_of_length illegal] at hashed
      cases hashed
    rw [LegalLength, length_tokenUrlsafe, List.length_replicate] at legal
    obtain ⟨token, expiresAt, issued, largest⟩ :=
      @exists_largest_token settings platform
    have fits := generates.tokens _ _ _ _ _ (by decide) (by decide) issued
    exact ⟨legal.1, legal.2, largest ▸ fits⟩
  · rintro ⟨low, high, size⟩
    refine
      { passwords := fun bytes count salt => ?_
        tokens := fun principal tokenId now token expiresAt representable
            authenticated issued =>
          (issued_length_le representable authenticated issued).trans size }
    have legal :
        LegalLength settings.passwordMinLength settings.passwordMaxLength
          (tokenUrlsafe bytes) := by
      rw [LegalLength, length_tokenUrlsafe, count]
      exact ⟨low, high⟩
    have long : 16 ≤ bytes.length := count ▸ settings.temporaryPasswordRange.1
    exact ⟨_, hash_of_validate (validate_tokenUrlsafe folds long legal) salt⟩

/-- A token within the limits is not refused for its size: it comes to be read. -/
theorem GeneratesWithinLimits.verify_issued
    (generates :
      GeneratesWithinLimits settings text passwordHash dummySalt platform)
    {principal : Principal}
    {tokenId : Uuid}
    {now expiresAt later : Int}
    {token : String}
    {payload : Payload}
    (representable : Representable now)
    (authenticated : Representable principal.authenticatedAt)
    (issued :
      settings.signer.issue platform principal tokenId now =
        .ok (token, expiresAt))
    (decoded :
      platform.decode settings.issuer settings.audience token = some payload) :
    settings.signer.verify platform token later =
      refuseCaught (settings.signer.readClaims platform payload later) := by
  have present : token ≠ "" := by
    rintro rfl
    have length := (length_issued issued).2.2
    rw [String.length_empty] at length
    omega
  exact verify_of_decoded present
    (generates.tokens principal tokenId now token expiresAt representable
      authenticated issued)
    decoded

end Consistency

/-! ## Two configurations -/

/-- Text functions that fold the case of ASCII texts. -/
def asciiText : TextLibrary where
  casefold := fun value => String.ofList (value.toList.map Char.toLower)
  validateEmail := some
  idna := some
  urlsplit := fun _ => none

/-- The settings of the reference environment. -/
def referenceSettings : ValidatedSettings :=
  { referenceEnvironment.settings with
    issuerName := by decide
    audienceName := by decide }

/-- The reference settings agree with each other. -/
theorem generates_within_limits_reference :
    GeneratesWithinLimits referenceSettings asciiText labelledHash 0
      (unixPlatform fun _ => none) :=
  (generates_within_limits_iff fun _ _ => rfl).mpr
    ⟨by decide, by decide, by decide⟩

/-- A minimum that the validators allow for passwords of 24 random bytes. -/
def longPasswordSettings : ValidatedSettings :=
  { referenceSettings with
    passwordMinLength := 64
    passwordMinRange :=
      ⟨Nat.le_of_ble_eq_true rfl, Nat.le_of_ble_eq_true rfl⟩
    passwordLengthsOrdered := Nat.le_of_ble_eq_true rfl }

/-- A limit that the validators allow for tokens with a long issuer. -/
def smallTokenSettings : ValidatedSettings :=
  { referenceSettings with
    issuer := String.ofList (List.replicate 200 'a')
    issuerName := by decide +kernel
    maxAccessTokenChars := 512
    maxAccessTokenRange :=
      ⟨Nat.le_of_ble_eq_true rfl, Nat.le_of_ble_eq_true rfl⟩ }

/--
Temporary passwords of 32 characters are too short where 64 are asked for, and
a token with an issuer of 200 characters is larger than 512 characters.
-/
theorem settings_disagree :
    ((longPasswordSettings.passwords asciiText labelledHash 0).hash 0
        (tokenUrlsafe (List.replicate 24 0)) =
      .error (passwordInvalid
        "Password must contain between 64 and 128 characters.")) ∧
      (∃ token expiresAt,
        smallTokenSettings.signer.issue (unixPlatform fun _ => none)
            (somePrincipal distantInstant) 4 distantInstant =
          .ok (token, expiresAt) ∧
        token.length = 756) ∧
      ¬ GeneratesWithinLimits longPasswordSettings asciiText labelledHash 0
        (unixPlatform fun _ => none) ∧
      ¬ GeneratesWithinLimits smallTokenSettings asciiText labelledHash 0
        (unixPlatform fun _ => none) := by
  have refused :
      (longPasswordSettings.passwords asciiText labelledHash 0).hash 0
          (tokenUrlsafe (List.replicate 24 0)) =
        .error (passwordInvalid
          "Password must contain between 64 and 128 characters.") := by
    have illegal :
        ¬ LegalLength longPasswordSettings.passwordMinLength
          longPasswordSettings.passwordMaxLength
          (tokenUrlsafe (List.replicate 24 0)) := by
      rw [LegalLength, length_tokenUrlsafe]
      decide
    rw [PasswordManager.hash, validate_of_length illegal]
    rfl
  have large : smallTokenSettings.largestToken = 756 := by
    decide +kernel
  obtain ⟨token, expiresAt, issued, length⟩ :=
    @exists_largest_token smallTokenSettings (unixPlatform fun _ => none)
  refine
    ⟨refused, ⟨token, expiresAt, issued, length.trans large⟩, ?_, ?_⟩
  · intro generates
    obtain ⟨encoded, hashed⟩ :=
      generates.passwords (List.replicate 24 0) List.length_replicate 0
    cases refused.symm.trans hashed
  · intro generates
    have fits := generates.tokens _ _ _ _ _ (by decide) (by decide) issued
    rw [length, large] at fits
    revert fits
    decide

end EpokAuth
