import EpokAuth.SessionService
import EpokAuth.TokenReading

namespace EpokAuth

open TextEncoding

/-!
# When an issued token is accepted

A token is issued with three instants cut off to whole seconds, and is accepted
while the clock lies in the window that these seconds and the leeway span.  The
seconds are computed in floating point: for an instant far in the future the
quotient is rounded up to the next second when its fraction is close to one.
-/

/-! ## Whole seconds -/

section WholeSeconds

variable
  {instant other : Int}

/-- An instant after 1970 as a number of microseconds. -/
private theorem wholeSeconds_eq (after : 0 ≤ instant) :
    wholeSeconds instant =
        (DoubleRounding.truncatedQuotient instant.natAbs 1000000 : Nat) ∧
      instant / 1000000 = ((instant.natAbs / 1000000 : Nat) : Int) := by
  refine ⟨if_neg (Int.not_lt.mpr after), ?_⟩
  obtain ⟨count, rfl⟩ := Int.eq_ofNat_of_zero_le after
  rfl

theorem div_le_wholeSeconds (after : 0 ≤ instant) :
    instant / 1000000 ≤ wholeSeconds instant := by
  obtain ⟨whole, quotient⟩ := wholeSeconds_eq after
  rw [whole, quotient]
  exact Int.ofNat_le.mpr
    (DoubleRounding.div_le_truncatedQuotient (by decide))

theorem wholeSeconds_le_succ (after : 0 ≤ instant) :
    wholeSeconds instant ≤ instant / 1000000 + 1 := by
  obtain ⟨whole, quotient⟩ := wholeSeconds_eq after
  rw [whole, quotient]
  exact Int.ofNat_le.mpr
    (DoubleRounding.truncatedQuotient_le_succ (by decide))

theorem wholeSeconds_mono
    (after : 0 ≤ instant)
    (le : instant ≤ other) :
    wholeSeconds instant ≤ wholeSeconds other := by
  rw [(wholeSeconds_eq after).1, (wholeSeconds_eq (after.trans le)).1]
  have magnitudes : instant.natAbs ≤ other.natAbs := by
    obtain ⟨first, rfl⟩ := Int.eq_ofNat_of_zero_le after
    obtain ⟨second, rfl⟩ := Int.eq_ofNat_of_zero_le (after.trans le)
    exact Int.ofNat_le.mp le
  exact Int.ofNat_le.mpr
    (DoubleRounding.truncatedQuotient_mono (by decide) magnitudes)

/--
The microseconds before a second that floating point takes for that second: the
further the second is from 1970, the fewer bits are left for its fraction.
-/
def roundedUp (second : Int) : Int :=
  if second < 2 ^ 34 then 0
  else if second < 2 ^ 35 then 1
  else if second < 2 ^ 36 then 3
  else if second < 2 ^ 37 then 7
  else 15

/-- The bits behind the point that the seconds of some years leave. -/
private theorem fractionBits_of_bounds
    {whole place : Nat}
    (low : 2 ^ place ≤ whole)
    (high : whole < 2 ^ (place + 1)) :
    DoubleRounding.fractionBits whole = 52 - place := by
  have positive : whole ≠ 0 :=
    Nat.pos_iff_ne_zero.mp ((Nat.two_pow_pos place).trans_le low)
  rw [DoubleRounding.fractionBits,
    (Nat.log2_eq_iff positive).mpr ⟨low, high⟩]

/-- Early seconds leave enough bits for every fraction. -/
private theorem fractionBits_of_lt
    {whole : Nat}
    (early : whole < 2 ^ 34) :
    19 ≤ DoubleRounding.fractionBits whole := by
  have logarithm : Nat.log2 whole < 34 := by
    rcases Nat.eq_zero_or_pos whole with zero | positive
    · rw [zero]
      decide
    · exact (Nat.log2_lt (Nat.pos_iff_ne_zero.mp positive)).mpr early
  unfold DoubleRounding.fractionBits
  omega

/-- Within the range of dates, only the last microseconds are rounded up. -/
theorem wholeSeconds_eq_div_iff
    (after : 0 ≤ instant)
    (early : instant < 2 ^ 38 * 1000000) :
    wholeSeconds instant = instant / 1000000 ↔
      instant % 1000000 + roundedUp (instant / 1000000) < 1000000 := by
  obtain ⟨whole, quotient⟩ := wholeSeconds_eq after
  obtain ⟨count, rfl⟩ := Int.eq_ofNat_of_zero_le after
  rw [whole, quotient, Int.ofNat_inj]
  change
    DoubleRounding.truncatedQuotient count 1000000 = count / 1000000 ↔
      (count : Int) % 1000000 + roundedUp ((count : Int) / 1000000) < 1000000
  have exact_ (bits : 0 < DoubleRounding.fractionBits (count / 1000000)) :=
    DoubleRounding.truncatedQuotient_eq_div_iff
      (by decide : 0 < 1000000) bits
  unfold roundedUp
  split
  · have bits : 19 ≤ DoubleRounding.fractionBits (count / 1000000) :=
      fractionBits_of_lt (by omega)
    have fine : 2 ^ 19 ≤ 2 ^ DoubleRounding.fractionBits (count / 1000000) :=
      Nat.pow_le_pow_right (by decide) bits
    have scaled :=
      Nat.mul_le_mul fine
        (by omega : 1 ≤ 1000000 - count % 1000000)
    rw [exact_ (by omega), Nat.mul_assoc]
    omega
  · split
    · have bits : DoubleRounding.fractionBits (count / 1000000) = 52 - 34 :=
        fractionBits_of_bounds (by omega) (by omega)
      rw [exact_ (by omega), bits]
      omega
    · split
      · have bits : DoubleRounding.fractionBits (count / 1000000) = 52 - 35 :=
          fractionBits_of_bounds (by omega) (by omega)
        rw [exact_ (by omega), bits]
        omega
      · split
        · have bits : DoubleRounding.fractionBits (count / 1000000) = 52 - 36 :=
            fractionBits_of_bounds (by omega) (by omega)
          rw [exact_ (by omega), bits]
          omega
        · have bits : DoubleRounding.fractionBits (count / 1000000) = 52 - 37 :=
            fractionBits_of_bounds (by omega) (by omega)
          rw [exact_ (by omega), bits]
          omega

/-- Until the year 2514 nothing is rounded up. -/
theorem roundedUp_of_early
    {second : Int}
    (early : second < 2 ^ 34) :
    roundedUp second = 0 :=
  if_pos early

end WholeSeconds

/-! ## Reading what was issued -/

section Window

variable
  {platform : TokenPlatform}
  {signer : HMACJWTSigner}
  {principal : Principal}
  {tokenId : Uuid}
  {now expiresAt t : Int}
  {token : String}

/-- The payload of an issued token, as it is decoded again. -/
def issuedPayload
    (signer : HMACJWTSigner)
    (principal : Principal)
    (tokenId : Uuid)
    (now expiresAt : Int) :
    Payload :=
  (signer.claims principal tokenId now expiresAt).map fun entry =>
    (entry.1, ofScalar entry.2)

/-- The dates of an issued token. -/
def issuedDates
    (principal : Principal)
    (now expiresAt : Int) :
    TokenDates where
  issuedAt := wholeSeconds now * 1000000
  notBefore := wholeSeconds now * 1000000
  expiresAt := wholeSeconds expiresAt * 1000000
  authenticatedAt := wholeSeconds principal.authenticatedAt * 1000000

/-- The principal's identifiers are UUIDs. -/
structure Principal.InRange (principal : Principal) : Prop where
  user : principal.userId.InRange
  session : principal.sessionId.InRange
  family : principal.familyId.InRange

theorem isTokenId_hexadecimal (tokenId : Uuid) :
    isTokenId (String.ofList (hexadecimal 32 tokenId)) = true := by
  rw [isTokenId, Bool.and_eq_true, String.length_ofList,
    length_hexadecimal, String.toList_ofList, List.all_eq_true]
  refine ⟨rfl, fun character member => ?_⟩
  exact List.elem_iff.mpr (mem_hexadecimal member)

theorem readDate_of_claim
    {payload : Payload}
    {name : String}
    {count date : Int}
    (claimed : readClaim payload name = .ok (.integer count)) :
    readDate platform payload name = .ok date ↔
      Representable (count * 1000000) ∧ count * 1000000 = date := by
  have numeric : numericDate payload name = .ok count := by
    rw [numericDate, claimed]
  rw [readDate_ok_iff]
  constructor
  · rintro ⟨other, same, converted⟩
    obtain rfl := Except.ok.inj (numeric.symm.trans same)
    by_cases inRange : Representable (count * 1000000)
    · rw [platform.fromtimestamp_exact count inRange] at converted
      exact ⟨inRange, Except.ok.inj converted⟩
    · rcases platform.fromtimestamp_raises count inRange with
          raised | raised | raised <;>
        · rw [raised] at converted
          cases converted
  · rintro ⟨inRange, rfl⟩
    exact ⟨count, numeric, platform.fromtimestamp_exact count inRange⟩

theorem readUuid_of_claim
    {payload : Payload}
    {name : String}
    {id : Uuid}
    (claimed : readClaim payload name = .ok (.text (uuidText id)))
    (inRange : id.InRange) :
    readUuid platform payload name = .ok id := by
  refine except_bind_ok_iff.mpr ⟨_, claimed, ?_⟩
  refine except_bind_ok_iff.mpr ⟨uuidText id, rfl, ?_⟩
  simp only [parseUuid_uuidText _ inRange]

/-- What a principal's token says when it is read. -/
def issuedClaims
    (principal : Principal)
    (tokenId : Uuid)
    (now expiresAt : Int) :
    AccessClaims where
  userId := principal.userId
  sessionId := principal.sessionId
  familyId := principal.familyId
  issuedAt := wholeSeconds now * 1000000
  expiresAt := wholeSeconds expiresAt * 1000000
  tokenId := String.ofList (hexadecimal 32 tokenId)
  authenticatedAt := wholeSeconds principal.authenticatedAt * 1000000

/-- The dates are read exactly when all of them convert. -/
theorem readDates_issued_ok_iff
    {dates : TokenDates} :
    readDates platform
        (issuedPayload signer principal tokenId now expiresAt) = .ok dates ↔
      Representable (wholeSeconds now * 1000000) ∧
        Representable (wholeSeconds expiresAt * 1000000) ∧
        Representable (wholeSeconds principal.authenticatedAt * 1000000) ∧
        issuedDates principal now expiresAt = dates := by
  have readIat := fun date => @readDate_of_claim platform
    (issuedPayload signer principal tokenId now expiresAt) "iat" _ date rfl
  have readNbf := fun date => @readDate_of_claim platform
    (issuedPayload signer principal tokenId now expiresAt) "nbf" _ date rfl
  have readExp := fun date => @readDate_of_claim platform
    (issuedPayload signer principal tokenId now expiresAt) "exp" _ date rfl
  have readAuth := fun date => @readDate_of_claim platform
    (issuedPayload signer principal tokenId now expiresAt) "auth_time" _ date
    rfl
  simp only [readDates, except_bind_ok_iff, readIat, readNbf, readExp,
    readAuth]
  constructor
  · rintro ⟨_, ⟨issued, rfl⟩, _, ⟨_, rfl⟩, _, ⟨expires, rfl⟩, _,
      ⟨authenticated, rfl⟩, built⟩
    exact ⟨issued, expires, authenticated, Except.ok.inj built⟩
  · rintro ⟨issued, expires, authenticated, rfl⟩
    exact ⟨_, ⟨issued, rfl⟩, _, ⟨issued, rfl⟩, _, ⟨expires, rfl⟩, _,
      ⟨authenticated, rfl⟩, rfl⟩

/-- Reading succeeds exactly when the dates convert and are accepted. -/
theorem readClaims_issued_ok_iff
    (ids : principal.InRange)
    {claims : AccessClaims} :
    signer.readClaims platform
        (issuedPayload signer principal tokenId now expiresAt) t =
        .ok claims ↔
      Representable (wholeSeconds now * 1000000) ∧
        Representable (wholeSeconds expiresAt * 1000000) ∧
        Representable (wholeSeconds principal.authenticatedAt * 1000000) ∧
        DatesAccepted signer (issuedDates principal now expiresAt) t ∧
        claims = issuedClaims principal tokenId now expiresAt := by
  have kind :
      readKind (issuedPayload signer principal tokenId now expiresAt) =
        .ok () :=
    rfl
  have claimed :
      readClaim (issuedPayload signer principal tokenId now expiresAt) "jti" =
        .ok (.text (String.ofList (hexadecimal 32 tokenId))) :=
    rfl
  have identified :
      readTokenId platform
          (issuedPayload signer principal tokenId now expiresAt) =
        .ok (String.ofList (hexadecimal 32 tokenId)) := by
    refine except_bind_ok_iff.mpr ⟨_, claimed, ?_⟩
    refine except_bind_ok_iff.mpr
      ⟨String.ofList (hexadecimal 32 tokenId), rfl, ?_⟩
    rw [if_pos (isTokenId_hexadecimal tokenId)]
  have user := @readUuid_of_claim platform
    (issuedPayload signer principal tokenId now expiresAt) "sub" _ rfl ids.user
  have session := @readUuid_of_claim platform
    (issuedPayload signer principal tokenId now expiresAt) "sid" _ rfl
    ids.session
  have family := @readUuid_of_claim platform
    (issuedPayload signer principal tokenId now expiresAt) "fid" _ rfl
    ids.family
  constructor
  · intro read
    simp only [HMACJWTSigner.readClaims, except_bind_ok_iff] at read
    obtain ⟨_, _, _, readId, _, readAll, _, checked, _, readUser, _,
      readSession, _, readFamily, built⟩ := read
    obtain ⟨issued, expires, authenticated, rfl⟩ :=
      readDates_issued_ok_iff.mp readAll
    obtain rfl := Except.ok.inj (identified.symm.trans readId)
    obtain rfl := Except.ok.inj (user.symm.trans readUser)
    obtain rfl := Except.ok.inj (session.symm.trans readSession)
    obtain rfl := Except.ok.inj (family.symm.trans readFamily)
    exact ⟨issued, expires, authenticated, checkDates_ok_iff.mp checked,
      (Except.ok.inj built).symm⟩
  · rintro ⟨issued, expires, authenticated, accepted, rfl⟩
    have dates := (@readDates_issued_ok_iff platform signer principal tokenId
      now expiresAt _).mpr ⟨issued, expires, authenticated, rfl⟩
    exact except_bind_ok_iff.mpr ⟨_, kind,
      except_bind_ok_iff.mpr ⟨_, identified,
        except_bind_ok_iff.mpr ⟨_, dates,
          except_bind_ok_iff.mpr ⟨_, checkDates_ok_iff.mpr accepted,
            except_bind_ok_iff.mpr ⟨_, user,
              except_bind_ok_iff.mpr ⟨_, session,
                except_bind_ok_iff.mpr ⟨_, family, rfl⟩⟩⟩⟩⟩⟩⟩

/-! ## The window -/

/-- What is assumed of one issued token. -/
structure Issued
    (platform : TokenPlatform)
    (signer : HMACJWTSigner)
    (principal : Principal)
    (tokenId : Uuid)
    (now expiresAt : Int)
    (token : String) :
    Prop where
  issued : signer.issue platform principal tokenId now = .ok (token, expiresAt)
  decodes :
    platform.decode signer.issuer signer.audience token =
      some (issuedPayload signer principal tokenId now expiresAt)
  short : token.length ≤ signer.maxTokenChars
  ids : principal.InRange
  lasting : 0 < signer.accessTtlSeconds
  after : 0 ≤ principal.authenticatedAt
  authenticated : principal.authenticatedAt ≤ now

/--
What a token promises its holder: it is accepted in the window that its whole
seconds span, it names the principal it was issued to, and the session that the
principal was built from accepts its claims.
-/
structure RoundTrips
    (platform : TokenPlatform)
    (signer : HMACJWTSigner)
    (principal : Principal)
    (now : Int)
    (token : String) :
    Prop where
  window : ∀ t : Int, Representable t →
    ((∃ claims, signer.verify platform token t = .ok claims) ↔
      now / 1000000 * 1000000 ≤ t + seconds signer.leewaySeconds ∧
        t - seconds signer.leewaySeconds <
          (now / 1000000 + signer.accessTtlSeconds) * 1000000)
  names : ∀ (t : Int) claims, signer.verify platform token t = .ok claims →
    claims.userId = principal.userId ∧
      claims.sessionId = principal.sessionId ∧
      claims.familyId = principal.familyId ∧
      ∀ user session,
        principalFromSession user session = principal →
        session.userId = user.id →
        session.isActive t = true →
          session.isValidFor claims.subject t = true
  authenticates : ∀ (t : Int) user session,
    principalFromSession user session = principal →
    session.userId = user.id →
    now ≤ t →
    t < (now / 1000000 + signer.accessTtlSeconds) * 1000000 →
    user.canAuthenticate t = true →
    session.isActive t = true →
      ∃ claims, signer.verify platform token t = .ok claims ∧
        authenticateResult claims t (some user, some session) = .ok principal

/--
The microseconds of the issue time are not rounded up at either end of the
window, and the leeway on both sides of it stays in the range of dates.
-/
structure WindowIsExact (signer : HMACJWTSigner) (now : Int) : Prop where
  issue : now % 1000000 + roundedUp (now / 1000000) < 1000000
  before :
    -62135596800 ≤ now / 1000000 - 2 * (signer.leewaySeconds : Int)
  behind :
    now / 1000000 + signer.accessTtlSeconds +
      2 * (signer.leewaySeconds : Int) ≤ 253402300800
  /-- A window that ends with the range hides what becomes of its end. -/
  expiry :
    now % 1000000 +
        roundedUp (now / 1000000 + signer.accessTtlSeconds) < 1000000 ∨
      now / 1000000 + signer.accessTtlSeconds +
        2 * (signer.leewaySeconds : Int) = 253402300800

/-- A window that ends before the year 2514 is exact far from the year 1. -/
theorem WindowIsExact.of_early
    (early : now / 1000000 + signer.accessTtlSeconds < 2 ^ 34)
    (before : -62135596800 ≤ now / 1000000 - 2 * (signer.leewaySeconds : Int))
    (behind :
      now / 1000000 + signer.accessTtlSeconds +
        2 * (signer.leewaySeconds : Int) ≤ 253402300800) :
    WindowIsExact signer now where
  issue := by
    rw [roundedUp_of_early (by omega)]
    omega
  before := before
  behind := behind
  expiry := by
    rw [roundedUp_of_early early]
    omega

namespace Issued

variable
  (issued : Issued platform signer principal tokenId now expiresAt token)

include issued

theorem after_epoch : 0 ≤ now :=
  issued.after.trans issued.authenticated

/-- The lifetime is added to the issue time before it is cut off. -/
theorem expiresAt_eq :
    expiresAt = now + seconds signer.accessTtlSeconds ∧
      expiresAt ≤ 253402300799999999 := by
  have built := issued.issued
  simp only [HMACJWTSigner.issue, except_bind_ok_iff, timedelta_ok_iff,
    addTimedelta_ok_iff] at built
  obtain ⟨_, ⟨_, rfl⟩, _, ⟨inRange, rfl⟩, same⟩ := built
  obtain rfl := (Prod.mk.inj (Except.ok.inj same)).2
  exact ⟨rfl, inRange.2⟩

/-- A token has two dots. -/
theorem present : token ≠ "" := by
  have built := issued.issued
  simp only [HMACJWTSigner.issue, except_bind_ok_iff] at built
  obtain ⟨_, _, _, _, same⟩ := built
  obtain rfl := (Prod.mk.inj (Except.ok.inj same)).1
  intro empty
  have characters := congrArg String.toList empty
  rw [encodeToken, String.toList_ofList] at characters
  have dots := congrArg List.length characters
  simp at dots

/-- The issue date, cut off, is the second of the issue time or the next. -/
theorem issuedAt_bounds :
    now / 1000000 ≤ wholeSeconds now ∧
      wholeSeconds now ≤ now / 1000000 + 1 :=
  ⟨div_le_wholeSeconds issued.after_epoch,
    wholeSeconds_le_succ issued.after_epoch⟩

theorem expiresAt_bounds :
    now / 1000000 + signer.accessTtlSeconds ≤ wholeSeconds expiresAt ∧
      wholeSeconds expiresAt ≤
        now / 1000000 + signer.accessTtlSeconds + 1 := by
  have start : (0 : Int) ≤ now := issued.after_epoch
  have sum : (expiresAt : Int) = now + (signer.accessTtlSeconds : Int) * 1000000 :=
    issued.expiresAt_eq.1
  have after : (0 : Int) ≤ expiresAt := by omega
  have whole :
      (expiresAt : Int) / 1000000 =
        now / 1000000 + signer.accessTtlSeconds := by
    omega
  rw [← whole]
  exact ⟨div_le_wholeSeconds after, wholeSeconds_le_succ after⟩

/-- The authentication date is within a second, and not after the issue date. -/
theorem authenticatedAt_bounds :
    0 ≤ wholeSeconds principal.authenticatedAt ∧
      wholeSeconds principal.authenticatedAt ≤ wholeSeconds now ∧
      (principal.authenticatedAt -
          wholeSeconds principal.authenticatedAt * 1000000).natAbs ≤
        (seconds 1).natAbs := by
  have start : (0 : Int) ≤ principal.authenticatedAt := issued.after
  have low := div_le_wholeSeconds issued.after
  have high := wholeSeconds_le_succ issued.after
  refine ⟨?_, wholeSeconds_mono issued.after issued.authenticated, ?_⟩
  · exact (Int.ediv_nonneg start (by decide)).trans low
  · have unit : (seconds 1).natAbs = 1000000 := rfl
    rw [unit]
    omega

/-- The issue time is cut off unless floating point rounds it up. -/
theorem issuedAt_exact_iff :
    wholeSeconds now = now / 1000000 ↔
      now % 1000000 + roundedUp (now / 1000000) < 1000000 := by
  have start : (0 : Int) ≤ now := issued.after_epoch
  have sum : (expiresAt : Int) = now + (signer.accessTtlSeconds : Int) * 1000000 :=
    issued.expiresAt_eq.1
  have early : (expiresAt : Int) ≤ 253402300799999999 := issued.expiresAt_eq.2
  exact wholeSeconds_eq_div_iff start (by omega)

/-- The expiry has the microseconds of the issue time. -/
theorem expiresAt_exact_iff :
    wholeSeconds expiresAt = now / 1000000 + signer.accessTtlSeconds ↔
      now % 1000000 +
        roundedUp (now / 1000000 + signer.accessTtlSeconds) < 1000000 := by
  have start : (0 : Int) ≤ now := issued.after_epoch
  have sum : (expiresAt : Int) = now + (signer.accessTtlSeconds : Int) * 1000000 :=
    issued.expiresAt_eq.1
  have early : (expiresAt : Int) ≤ 253402300799999999 := issued.expiresAt_eq.2
  have whole :
      (expiresAt : Int) / 1000000 =
        now / 1000000 + signer.accessTtlSeconds := by
    omega
  have fraction : (expiresAt : Int) % 1000000 = now % 1000000 := by
    omega
  rw [← whole, ← fraction]
  exact wholeSeconds_eq_div_iff (by omega) (by omega)

/-- The window ends before the range of dates does. -/
theorem window_inRange :
    0 ≤ now / 1000000 ∧
      (now / 1000000 + signer.accessTtlSeconds) * 1000000 ≤
        253402300799999999 := by
  have start : (0 : Int) ≤ now := issued.after_epoch
  have sum : (expiresAt : Int) = now + (signer.accessTtlSeconds : Int) * 1000000 :=
    issued.expiresAt_eq.1
  have latest : (expiresAt : Int) ≤ 253402300799999999 := issued.expiresAt_eq.2
  omega

/-- The dates but the expiry always convert. -/
theorem dates_representable :
    Representable (wholeSeconds now * 1000000) ∧
      Representable (wholeSeconds principal.authenticatedAt * 1000000) := by
  have bounds := issued.issuedAt_bounds
  have authenticated := issued.authenticatedAt_bounds
  have window := issued.window_inRange
  have lasting := issued.lasting
  constructor <;> constructor <;> omega

/-- Verification is the check of the dates, and of the range of the expiry. -/
theorem verify_ok_iff
    {claims : AccessClaims} :
    signer.verify platform token t = .ok claims ↔
      Representable (wholeSeconds expiresAt * 1000000) ∧
        DatesAccepted signer (issuedDates principal now expiresAt) t ∧
        claims = issuedClaims principal tokenId now expiresAt := by
  have dates := issued.dates_representable
  rw [verify_of_decoded issued.present issued.short issued.decodes,
    refuseCaught_ok_iff, readClaims_issued_ok_iff issued.ids]
  constructor
  · rintro ⟨_, expires, _, accepted⟩
    exact ⟨expires, accepted⟩
  · rintro ⟨expires, accepted⟩
    exact ⟨dates.1, expires, dates.2, accepted⟩

/-- Acceptance in terms of whole seconds. -/
theorem accepted_iff :
    (∃ claims, signer.verify platform token t = .ok claims) ↔
      wholeSeconds expiresAt * 1000000 ≤ 253402300799999999 ∧
        wholeSeconds now * 1000000 ≤ t + signer.leewaySeconds * 1000000 ∧
        wholeSeconds expiresAt ≤
          wholeSeconds now + signer.accessTtlSeconds + signer.leewaySeconds ∧
        t - signer.leewaySeconds * 1000000 <
          wholeSeconds expiresAt * 1000000 ∧
        wholeSeconds now < wholeSeconds expiresAt ∧
        signer.accessTtlSeconds + signer.leewaySeconds ≤ 86399999999999 ∧
        t + signer.leewaySeconds * 1000000 ≤ 253402300799999999 ∧
        (wholeSeconds now + signer.leewaySeconds) * 1000000 ≤
          253402300799999999 ∧
        -62135596800000000 ≤ t - signer.leewaySeconds * 1000000 := by
  have issue := issued.issuedAt_bounds
  have expiry := issued.expiresAt_bounds
  have authenticated := issued.authenticatedAt_bounds
  have window := issued.window_inRange
  constructor
  · rintro ⟨claims, accepted⟩
    obtain ⟨expires, dates, -⟩ := issued.verify_ok_iff.mp accepted
    have lifetime :
        wholeSeconds expiresAt * 1000000 - wholeSeconds now * 1000000 ≤
          ((signer.accessTtlSeconds + signer.leewaySeconds : Nat) : Int) *
            1000000 :=
      dates.lifetime
    have ordered :
        wholeSeconds now * 1000000 < wholeSeconds expiresAt * 1000000 :=
      dates.ordered
    have latest :
        wholeSeconds now * 1000000 +
            (signer.leewaySeconds : Int) * 1000000 ≤ 253402300799999999 :=
      dates.latestAuthentication.2
    exact ⟨expires.2, dates.started, by omega, dates.unexpired, by omega,
      dates.differences, dates.latest.2, by omega, dates.earliest.1⟩
  · rintro ⟨expires, started, lifetime, unexpired, ordered, differences, latest,
      latestAuthentication, earliest⟩
    refine ⟨_, issued.verify_ok_iff.mpr ⟨⟨by omega, expires⟩, ?_, rfl⟩⟩
    exact
      { started := started
        usable := started
        consistent := by
          change (wholeSeconds now * 1000000 -
            wholeSeconds now * 1000000).natAbs ≤ _
          rw [Int.sub_self]
          exact Nat.zero_le _
        authenticated := by
          change wholeSeconds principal.authenticatedAt * 1000000 ≤
            wholeSeconds now * 1000000 +
              (signer.leewaySeconds : Int) * 1000000
          omega
        lifetime := by
          change
            wholeSeconds expiresAt * 1000000 - wholeSeconds now * 1000000 ≤
              ((signer.accessTtlSeconds + signer.leewaySeconds : Nat) : Int) *
                1000000
          omega
        unexpired := unexpired
        ordered := by
          change
            wholeSeconds now * 1000000 < wholeSeconds expiresAt * 1000000
          omega
        differences := differences
        latest := ⟨by
          change (-62135596800000000 : Int) ≤
            t + (signer.leewaySeconds : Int) * 1000000
          omega, latest⟩
        latestAuthentication := by
          change Representable (wholeSeconds now * 1000000 +
            (signer.leewaySeconds : Int) * 1000000)
          constructor <;> omega
        earliest := ⟨earliest, by
          change t - (signer.leewaySeconds : Int) * 1000000 ≤
            (253402300799999999 : Int)
          omega⟩ }

/-- In an exact window a clock reading is accepted exactly when it should be. -/
theorem accepted_iff_of_exact
    (exact_ : WindowIsExact signer now) :
    (∃ claims, signer.verify platform token t = .ok claims) ↔
      now / 1000000 * 1000000 ≤ t + seconds signer.leewaySeconds ∧
        t - seconds signer.leewaySeconds <
          (now / 1000000 + signer.accessTtlSeconds) * 1000000 := by
  have expiry := issued.expiresAt_bounds
  have window := issued.window_inRange
  have lasting := issued.lasting
  have issue := issued.issuedAt_exact_iff.mpr exact_.issue
  have before := exact_.before
  have behind := exact_.behind
  have last := exact_.expiry
  rw [← issued.expiresAt_exact_iff] at last
  change _ ↔ now / 1000000 * 1000000 ≤
      t + (signer.leewaySeconds : Int) * 1000000 ∧
    t - (signer.leewaySeconds : Int) * 1000000 <
      (now / 1000000 + signer.accessTtlSeconds) * 1000000
  rw [issued.accepted_iff, issue]
  constructor
  · rintro ⟨_, started, _, unexpired, _, _, latest, _, _⟩
    exact ⟨started, by omega⟩
  · rintro ⟨started, unexpired⟩
    refine ⟨?_, started, ?_, ?_, ?_, ?_, ?_, ?_, ?_⟩ <;> omega

/-- A window that holds what it promises is exact. -/
theorem exact_of_accepted_iff
    (accepts : ∀ t : Int, Representable t →
      ((∃ claims, signer.verify platform token t = .ok claims) ↔
        now / 1000000 * 1000000 ≤ t + seconds signer.leewaySeconds ∧
          t - seconds signer.leewaySeconds <
            (now / 1000000 + signer.accessTtlSeconds) * 1000000)) :
    WindowIsExact signer now := by
  have issue := issued.issuedAt_bounds
  have expiry := issued.expiresAt_bounds
  have window := issued.window_inRange
  have lasting := issued.lasting
  have accepts : ∀ t : Int,
      -62135596800000000 ≤ t → t ≤ 253402300799999999 →
      (_ ↔ now / 1000000 * 1000000 ≤
          t + (signer.leewaySeconds : Int) * 1000000 ∧
        t - (signer.leewaySeconds : Int) * 1000000 <
          (now / 1000000 + signer.accessTtlSeconds) * 1000000) :=
    fun t low high => issued.accepted_iff.symm.trans (accepts t ⟨low, high⟩)
  -- The first and the last reading of the window tell about the range.
  have first :=
    (accepts (max (-62135596800000000)
      ((now / 1000000 - signer.leewaySeconds) * 1000000))
      (by omega) (by omega)).mpr (by omega)
  have last :=
    (accepts (min 253402300799999999
      ((now / 1000000 + signer.accessTtlSeconds + signer.leewaySeconds) *
        1000000 - 1))
      (by omega) (by omega)).mpr (by omega)
  have before :
      -62135596800 ≤ now / 1000000 - 2 * (signer.leewaySeconds : Int) := by
    omega
  have behind :
      now / 1000000 + signer.accessTtlSeconds +
        2 * (signer.leewaySeconds : Int) ≤ 253402300800 := by
    omega
  have sameIssue : wholeSeconds now = now / 1000000 := by omega
  refine
    ⟨issued.issuedAt_exact_iff.mp sameIssue, before, behind, ?_⟩
  rw [← issued.expiresAt_exact_iff]
  by_contra rounded
  rcases Nat.eq_zero_or_pos signer.leewaySeconds with none_ | some_
  · -- Without leeway an expiry that is rounded up exceeds the lifetime.
    have start := (accepts (now / 1000000 * 1000000) (by omega) (by omega)).mpr
      (by omega)
    omega
  · -- With leeway the second behind the window is accepted.
    have late := (accepts ((now / 1000000 + signer.accessTtlSeconds +
      signer.leewaySeconds) * 1000000) (by omega) (by omega)).mp (by omega)
    omega

/-- The session that the principal was built from accepts what is read. -/
theorem session_accepts
    {claims : AccessClaims}
    {user : UserAccount}
    {session : RefreshSession}
    (accepted : signer.verify platform token t = .ok claims)
    (built : principalFromSession user session = principal)
    (owned : session.userId = user.id)
    (active : session.isActive t = true) :
    session.isValidFor claims.subject t = true := by
  obtain ⟨_, _, rfl⟩ := issued.verify_ok_iff.mp accepted
  subst built
  simp only [RefreshSession.isValidFor, active, Bool.true_and,
    Bool.and_eq_true, decide_eq_true_eq]
  exact ⟨⟨⟨rfl, owned⟩, rfl⟩, issued.authenticatedAt_bounds.2.2⟩

end Issued

/--
An issued token is accepted exactly in its window, and stands for the session
it was issued to, if and only if floating point leaves both ends of the window
alone and the leeway around the window stays in the range of dates.
-/
theorem roundTrips_iff
    (issued : Issued platform signer principal tokenId now expiresAt token) :
    RoundTrips platform signer principal now token ↔
      WindowIsExact signer now := by
  constructor
  · intro trips
    exact issued.exact_of_accepted_iff trips.window
  · intro exact_
    refine
      { window := fun t _ => issued.accepted_iff_of_exact exact_
        names := ?_
        authenticates := ?_ }
    · intro t claims accepted
      obtain ⟨_, _, same⟩ := issued.verify_ok_iff.mp accepted
      refine ⟨by rw [same]; rfl, by rw [same]; rfl, by rw [same]; rfl, ?_⟩
      intro user session built owned active
      exact issued.session_accepts accepted built owned active
    · intro t user session built owned fresh unexpired usable active
      have inWindow :
          now / 1000000 * 1000000 ≤
              t + (signer.leewaySeconds : Int) * 1000000 ∧
            t - (signer.leewaySeconds : Int) * 1000000 <
              (now / 1000000 + signer.accessTtlSeconds) * 1000000 := by
        omega
      obtain ⟨claims, accepted⟩ :=
        (issued.accepted_iff_of_exact exact_).mpr inWindow
      refine ⟨claims, accepted, ?_⟩
      have valid := issued.session_accepts accepted built owned active
      rw [authenticateResult, usable, valid, ← built]
      rfl

end Window

/-! ## Two issue times -/

/-- A signer with no leeway. -/
def strictSigner : HMACJWTSigner where
  issuer := "tests"
  audience := "tests-api"
  accessTtlSeconds := 300
  leewaySeconds := 0

/-- A principal that authenticated at an instant. -/
def somePrincipal (authenticatedAt : Int) : Principal where
  userId := 1
  sessionId := 2
  familyId := 3
  email := "user@example.com"
  displayName := "User"
  roles := []
  scopes := []
  mustChangePassword := false
  authenticatedAt := authenticatedAt

/-- The token of that signer. -/
def issuedToken (now : Int) : String :=
  encodeToken (unixPlatform fun _ => none)
    (strictSigner.claims (somePrincipal now) 4 now (now + 300 * 1000000))

/-- A platform that decodes this token and no other. -/
def decodesIssued (now : Int) : TokenPlatform :=
  unixPlatform fun token =>
    if token = issuedToken now then
      some (issuedPayload strictSigner (somePrincipal now) 4 now
        (now + 300 * 1000000))
    else
      none

theorem decode_decodesIssued
    {now : Int}
    {issuer audience token : String} :
    (decodesIssued now).decode issuer audience token =
      if token = issuedToken now then
        some (issuedPayload strictSigner (somePrincipal now) 4 now
          (now + 300 * 1000000))
      else
        none := by
  rw [decodesIssued, unixPlatform]

theorem length_issuedToken
    {now : Int}
    (short :
      (renderObject (strictSigner.claims (somePrincipal now) 4 now
        (now + 300 * 1000000))).length ≤ 1000) :
    (issuedToken now).length ≤ strictSigner.maxTokenChars := by
  rw [issuedToken, length_encodeToken]
  change _ ≤ 8192
  omega

theorem inRange_of_lt {id : Nat} (small : id < 16) : Uuid.InRange id :=
  small.trans_le (Nat.le_self_pow (by decide) 16)

theorem issued_strict
    {now : Int}
    (after : 0 ≤ now)
    (early : now + 300 * 1000000 ≤ 253402300799999999)
    (short : (issuedToken now).length ≤ strictSigner.maxTokenChars) :
    Issued (decodesIssued now) strictSigner (somePrincipal now) 4 now
      (now + 300 * 1000000) (issuedToken now) := by
  have lifetime : timedelta strictSigner.accessTtlSeconds =
      .ok (300 * 1000000) :=
    rfl
  have expiry : addTimedelta now (300 * 1000000) =
      .ok (now + 300 * 1000000) :=
    addTimedelta_ok_iff.mpr ⟨⟨by omega, early⟩, rfl⟩
  have sameToken :
      encodeToken (decodesIssued now)
          (strictSigner.claims (somePrincipal now) 4 now
            (now + 300 * 1000000)) =
        issuedToken now := by
    rw [issuedToken, encodeToken, encodeToken, decodesIssued, unixPlatform,
      unixPlatform]
  refine
    { issued := ?_
      decodes := ?_
      short := short
      ids :=
        ⟨@inRange_of_lt 1 (by decide), @inRange_of_lt 2 (by decide),
          @inRange_of_lt 3 (by decide)⟩
      lasting := ?_
      after := after
      authenticated := le_rfl }
  · refine except_bind_ok_iff.mpr ⟨_, lifetime, ?_⟩
    refine except_bind_ok_iff.mpr ⟨_, expiry, ?_⟩
    exact congrArg (fun token => Except.ok (token, now + 300 * 1000000)) sameToken
  · rw [decode_decodesIssued, if_pos rfl]
  · change 0 < 300
    norm_num

/-- A token issued in the year 2026 is accepted in its window. -/
theorem roundTrips_strict :
    RoundTrips (decodesIssued 1767225600750000) strictSigner
      (somePrincipal 1767225600750000) 1767225600750000
      (issuedToken 1767225600750000) :=
  (roundTrips_iff
    (issued_strict (by decide) (by decide)
      (length_issuedToken (by decide +kernel)))).mpr
    (.of_early (by decide) (by decide) (by decide))

/-- A token issued in the year 2514 is not accepted when it is issued. -/
theorem rounded_token_refused :
    (¬ ∃ claims, strictSigner.verify (decodesIssued 17179869184999999)
        (issuedToken 17179869184999999) 17179869184999999 = .ok claims) ∧
      ¬ RoundTrips (decodesIssued 17179869184999999) strictSigner
        (somePrincipal 17179869184999999) 17179869184999999
        (issuedToken 17179869184999999) := by
  have issued :=
    @issued_strict 17179869184999999 (by decide) (by decide)
      (length_issuedToken (by decide +kernel))
  have refused : ¬ ∃ claims,
      strictSigner.verify (decodesIssued 17179869184999999)
        (issuedToken 17179869184999999) 17179869184999999 = .ok claims := by
    rw [issued.accepted_iff]
    rintro ⟨_, started, _⟩
    revert started
    decide +kernel
  refine ⟨refused, fun trips => refused ?_⟩
  exact (trips.window 17179869184999999 (by decide)).mpr (by decide)

end EpokAuth
