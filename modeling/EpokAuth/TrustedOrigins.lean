import EpokAuth.ChallengeOrigins
import EpokAuth.OriginForm

namespace EpokAuth

/-!
# Trusted origins

The validator of the settings stores the canonical forms of the configured
origins, and a request's origin is trusted when its canonical form is stored.
As a canonical form is a printed site, an origin is trusted exactly when it
denotes the same site as some configured one, and the origin that a challenge
keeps is the canonical form of every origin that denotes the same site.
-/

/-! ## The validator -/

/-- Trusted origins are configured as one text or one by one. -/
inductive ConfiguredOrigins where
  | text (value : String)
  | entries (values : List String)
  deriving Repr, DecidableEq

/-- The origins of a comma-separated text, or of a list. -/
def parseOrigins : ConfiguredOrigins → List String
  | .text value =>
      ((value.toList.splitOn ',').map fun part =>
          strip (String.ofList part)).filter fun part => part ≠ ""
  | .entries values => values

section Validator

variable (text : TextLibrary)

/-- The canonical form of one configured origin, stripped and not empty. -/
def normalizeTrustedOrigin (origin : String) : Except Failure String :=
  if origin.toList.contains '*' then
    .error (.valueError "trusted_origins cannot contain wildcards")
  else
    match text.urlsplit origin with
    | none => .error invalidUrl
    | some parsed =>
        let host := text.casefold (parsed.hostname.getD "")
        if parsed.scheme = "" ∨ host = "" ∨
            parsed.username.isSome = true ∨
            parsed.password.isSome = true ∨
            ["", "/"].contains parsed.path = false ∨
            parsed.query ≠ "" ∨ parsed.fragment ≠ "" then
          .error
            (.valueError
              "trusted_origins must be scheme-and-host origins without paths")
        else
          let scheme := text.casefold parsed.scheme
          let isLocal := ["localhost", "127.0.0.1", "::1"].contains host
          if scheme ≠ "https" ∧ ¬(scheme = "http" ∧ isLocal = true) then
            .error
              (.valueError
                "trusted origins must use HTTPS, except localhost origins")
          else
            let canonical := canonicalOrigin text origin
            if canonical = "" then
              .error
                (.valueError "trusted_origins must contain valid ports")
            else
              .ok canonical

/-- Every configured origin that is not blank, in canonical form. -/
def normalizeEntries : List String → Except Failure (List String)
  | [] => .ok []
  | raw :: rest =>
      let origin := stripOrigin raw
      if origin = "" then
        normalizeEntries rest
      else
        match normalizeTrustedOrigin text origin with
        | .error failure => .error failure
        | .ok canonical =>
            match normalizeEntries rest with
            | .error failure => .error failure
            | .ok others => .ok (canonical :: others)

/-- The canonical forms of the origins, none of them twice. -/
def normalizeOrigins (value : List String) :
    Except Failure (List String) :=
  match normalizeEntries text value with
  | .error failure => .error failure
  | .ok normalized =>
      if normalized.Nodup then
        .ok normalized
      else
        .error
          (.valueError "trusted_origins must not contain duplicates")

end Validator

/-! ## What is stored -/

section Stored

variable
  {text : TextLibrary}
  {origin canonical entry : String}
  {configured stored : List String}

/-- An origin is stored in canonical form, which is not empty. -/
theorem canonical_of_normalizeTrustedOrigin
    (normalized : normalizeTrustedOrigin text origin = .ok canonical) :
    canonical = canonicalOrigin text origin ∧ canonical ≠ "" := by
  unfold normalizeTrustedOrigin at normalized
  split at normalized
  · cases normalized
  · split at normalized
    · cases normalized
    · dsimp only at normalized
      split at normalized
      · cases normalized
      · split at normalized
        · cases normalized
        · split at normalized
          · cases normalized
          · rename_i inhabited
            obtain rfl := Except.ok.inj normalized
            exact ⟨rfl, inhabited⟩

/-- What is stored is the canonical form of what is configured. -/
theorem mem_normalizeEntries_iff
    (normalized : normalizeEntries text configured = .ok stored) :
    entry ∈ stored ↔
      ∃ raw ∈ configured,
        stripOrigin raw ≠ "" ∧
          entry = canonicalOrigin text (stripOrigin raw) ∧ entry ≠ "" := by
  induction configured generalizing stored with
  | nil =>
      obtain rfl := Except.ok.inj normalized
      simp
  | cons raw rest inductionHypothesis =>
      rw [normalizeEntries] at normalized
      split at normalized
      · rename_i blank
        rw [inductionHypothesis normalized, List.exists_mem_cons_iff]
        simp [blank]
      · rename_i inhabited
        split at normalized
        · cases normalized
        · rename_i canonical first
          split at normalized
          · cases normalized
          · rename_i others later
            obtain rfl := Except.ok.inj normalized
            obtain ⟨rfl, named⟩ := canonical_of_normalizeTrustedOrigin first
            rw [List.mem_cons, inductionHypothesis later,
              List.exists_mem_cons_iff]
            refine or_congr ⟨?_, ?_⟩ Iff.rfl
            · rintro rfl
              exact ⟨inhabited, rfl, named⟩
            · exact fun both => both.2.1

theorem mem_normalizeOrigins_iff
    (normalized : normalizeOrigins text configured = .ok stored) :
    entry ∈ stored ↔
      ∃ raw ∈ configured,
        stripOrigin raw ≠ "" ∧
          entry = canonicalOrigin text (stripOrigin raw) ∧ entry ≠ "" := by
  unfold normalizeOrigins at normalized
  split at normalized
  · cases normalized
  · rename_i entries each
    split at normalized
    · obtain rfl := Except.ok.inj normalized
      exact mem_normalizeEntries_iff each
    · cases normalized

end Stored

/-! ## Origins of one site -/

/-- Two origins denote the same site. -/
def SameSite (text : TextLibrary) (first second : String) : Prop :=
  ∃ site, Denotes text first site ∧ Denotes text second site

/-- An origin denotes the same site as some configured one. -/
def Trusts
    (text : TextLibrary)
    (configured : List String)
    (origin : String) :
    Prop :=
  ∃ raw ∈ configured, SameSite text (stripOrigin raw) origin

section Sites

variable
  {text : TextLibrary}
  (urls : StandardUrls text)
  {first second origin : String}
  {site other : Site}
  {configured stored : List String}

theorem Site.print_ne_empty (site : Site) : site.print ≠ "" := by
  intro empty
  have nothing := congrArg String.toList empty
  rw [Site.print_eq] at nothing
  simp at nothing

include urls in
/-- An origin denotes one site at most. -/
theorem Denotes.unique
    (denotes : Denotes text origin site)
    (another : Denotes text origin other) :
    site = other :=
  Site.print_injective (denotes.valid urls) (another.valid urls)
    (denotes.canonicalOrigin_eq.symm.trans another.canonicalOrigin_eq)

include urls in
/-- Two origins have the same canonical form if they denote the same site. -/
theorem canonicalOrigin_eq_iff :
    (canonicalOrigin text first ≠ "" ∧
        canonicalOrigin text first = canonicalOrigin text second) ↔
      SameSite text first second := by
  constructor
  · rintro ⟨inhabited, same⟩
    obtain ⟨site, denotes⟩ := denotes_of_canonicalOrigin inhabited
    obtain ⟨other, another⟩ :=
      denotes_of_canonicalOrigin (same ▸ inhabited)
    rw [denotes.canonicalOrigin_eq, another.canonicalOrigin_eq] at same
    obtain rfl :=
      Site.print_injective (denotes.valid urls) (another.valid urls) same
    exact ⟨site, denotes, another⟩
  · rintro ⟨site, denotes, another⟩
    rw [denotes.canonicalOrigin_eq, another.canonicalOrigin_eq]
    exact ⟨Site.print_ne_empty site, rfl⟩

include urls in
/-- The canonical form of a readable and trimmed site is a fixed point. -/
theorem Denotes.canonicalOrigin_idem
    (denotes : Denotes text origin site)
    (readable : site.Readable)
    (trimmed : site.Trimmed) :
    canonicalOrigin text (canonicalOrigin text origin) =
      canonicalOrigin text origin := by
  have again := denotes.print urls readable trimmed
  rw [denotes.canonicalOrigin_eq, again.canonicalOrigin_eq]

include urls in
/-- The empty text denotes no site. -/
theorem not_denotes_empty : ¬ Denotes text "" site := by
  rintro ⟨parsed, splits, reads⟩
  have empty : stripOrigin "" = "" := by decide
  rw [empty, urls.urlsplit_eq] at splits
  obtain rfl := Option.some.inj splits
  refine reads.named (reads.host.symm.trans ?_)
  rw [urls.casefold_eq]
  rfl

include urls in
/-- The canonical form of an origin is stored if the origin is trusted. -/
theorem canonicalOrigin_mem_iff
    (normalized : normalizeOrigins text configured = .ok stored) :
    canonicalOrigin text origin ∈ stored ↔ Trusts text configured origin := by
  rw [mem_normalizeOrigins_iff normalized]
  refine exists_congr fun raw => and_congr_right fun _ => ?_
  rw [← canonicalOrigin_eq_iff urls]
  constructor
  · rintro ⟨_, same, inhabited⟩
    exact ⟨same ▸ inhabited, same.symm⟩
  · rintro ⟨inhabited, same⟩
    refine ⟨?_, same.symm, same ▸ inhabited⟩
    intro blank
    rw [blank] at inhabited
    obtain ⟨site, denotes⟩ := denotes_of_canonicalOrigin inhabited
    exact not_denotes_empty urls denotes

end Sites

/-! ## The checks of the services -/

section Checks

variable
  {deps : Dependencies}
  (urls : StandardUrls deps.text)
  {configured : List String}
  {origin header saved : String}
  {site : Site}

include urls in
theorem validateOrigin_eq_ok_iff
    (normalized :
      normalizeOrigins deps.text configured =
        .ok deps.settings.trustedOrigins) :
    validateOrigin deps (some origin) = .ok () ↔
      Trusts deps.text configured origin := by
  rw [← canonicalOrigin_mem_iff urls normalized, validateOrigin]
  constructor
  · intro accepted
    split at accepted
    · assumption
    · cases accepted
  · intro trusted
    rw [if_pos trusted]

include urls in
theorem validateGoogleOrigin_eq_ok_iff
    (normalized :
      normalizeOrigins deps.text configured =
        .ok deps.settings.trustedOrigins) :
    validateGoogleOrigin deps (some origin) = .ok saved ↔
      Trusts deps.text configured origin ∧
        saved = canonicalOrigin deps.text origin := by
  rw [← canonicalOrigin_mem_iff urls normalized, validateGoogleOrigin]
  constructor
  · intro accepted
    split at accepted
    · rename_i trusted
      exact ⟨trusted, (Except.ok.inj accepted).symm⟩
    · cases accepted
  · rintro ⟨trusted, rfl⟩
    rw [if_pos trusted]

/-- What the passkey check accepts is saved in canonical form. -/
theorem eq_canonicalOrigin_of_validatePasskeyOrigin
    (accepted : validatePasskeyOrigin deps (some origin) = .ok saved) :
    saved = canonicalOrigin deps.text origin ∧
      canonicalOrigin deps.text origin ∈ deps.settings.trustedOrigins := by
  unfold validatePasskeyOrigin at accepted
  dsimp only at accepted
  split at accepted
  · rename_i trusted
    refine ⟨?_, trusted⟩
    split at accepted
    · cases accepted
    · split at accepted
      · cases accepted
      · split at accepted
        · exact (Except.ok.inj accepted).symm
        · cases accepted
  · cases accepted

include urls in
/--
The passkey check accepts the origins whose canonical form is stored and can be
split again, for a host that is the relying party's or one below it.
-/
theorem validatePasskeyOrigin_of_denotes
    (denotes : Denotes deps.text origin site) :
    validatePasskeyOrigin deps (some origin) = .ok saved ↔
      canonicalOrigin deps.text origin ∈ deps.settings.trustedOrigins ∧
        saved = canonicalOrigin deps.text origin ∧
        site.Readable ∧
        ∃ rpId,
          deps.settings.passkeyRpId = some rpId ∧
            belongsToRelyingParty site.host rpId = true := by
  by_cases readable : site.Readable
  · obtain ⟨parsed, splits, reads⟩ :=
      urls.reads_print (denotes.valid urls) (denotes.folded urls) readable
    rw [← denotes.canonicalOrigin_eq] at splits
    rw [validatePasskeyOrigin]
    simp only [splits, reads.host]
    constructor
    · intro accepted
      split at accepted
      · rename_i trusted
        refine ⟨trusted, ?_⟩
        cases isRp : deps.settings.passkeyRpId with
        | none =>
            rw [isRp] at accepted
            cases accepted
        | some rpId =>
            simp only [isRp] at accepted
            split at accepted
            · rename_i belongs
              exact ⟨(Except.ok.inj accepted).symm, readable, rpId, rfl,
                belongs⟩
            · cases accepted
      · cases accepted
    · rintro ⟨trusted, rfl, _, rpId, isRp, belongs⟩
      simp only [isRp, if_pos trusted, if_pos belongs]
  · have unsplit :=
      urls.urlsplit_print_of_unreadable (denotes.valid urls) readable
    rw [← denotes.canonicalOrigin_eq] at unsplit
    constructor
    · intro accepted
      rw [validatePasskeyOrigin] at accepted
      simp only [unsplit] at accepted
      split at accepted
      · cases accepted
      · cases accepted
    · exact fun ⟨_, _, isReadable, _⟩ => absurd isReadable readable

include urls in
/--
The passkey check accepts the trusted origins of a readable host that is the
relying party's or one below it.
-/
theorem validatePasskeyOrigin_eq_ok_iff
    (normalized :
      normalizeOrigins deps.text configured =
        .ok deps.settings.trustedOrigins) :
    validatePasskeyOrigin deps (some origin) = .ok saved ↔
      Trusts deps.text configured origin ∧
        saved = canonicalOrigin deps.text origin ∧
        ∃ site rpId,
          Denotes deps.text origin site ∧
            site.Readable ∧
            deps.settings.passkeyRpId = some rpId ∧
            belongsToRelyingParty site.host rpId = true := by
  rw [← canonicalOrigin_mem_iff urls normalized]
  constructor
  · intro accepted
    have trusted := (eq_canonicalOrigin_of_validatePasskeyOrigin accepted).2
    obtain ⟨raw, _, site, _, denotes⟩ :=
      (canonicalOrigin_mem_iff urls normalized).mp trusted
    obtain ⟨_, isSaved, readable, rpId, isRp, belongs⟩ :=
      (validatePasskeyOrigin_of_denotes urls denotes).mp accepted
    exact ⟨trusted, isSaved, site, rpId, denotes, readable, isRp, belongs⟩
  · rintro ⟨trusted, isSaved, site, rpId, denotes, readable, isRp, belongs⟩
    exact (validatePasskeyOrigin_of_denotes urls denotes).mpr
      ⟨trusted, isSaved, readable, rpId, isRp, belongs⟩

include urls in
/-- What a check saves is the canonical form of every origin of the site. -/
theorem canonicalOrigin_eq_saved_iff
    (normalized :
      normalizeOrigins deps.text configured =
        .ok deps.settings.trustedOrigins)
    (accepted :
      validatePasskeyOrigin deps (some header) = .ok saved ∨
        validateGoogleOrigin deps (some header) = .ok saved) :
    canonicalOrigin deps.text origin = saved ↔
      SameSite deps.text header origin := by
  have isSaved :
      saved = canonicalOrigin deps.text header ∧
        Trusts deps.text configured header := by
    rcases accepted with accepted | accepted
    · obtain ⟨isSaved, trusted⟩ :=
        eq_canonicalOrigin_of_validatePasskeyOrigin accepted
      exact ⟨isSaved, (canonicalOrigin_mem_iff urls normalized).mp trusted⟩
    · exact
        ((validateGoogleOrigin_eq_ok_iff urls normalized).mp accepted).symm
  obtain ⟨rfl, raw, _, site, _, denotes⟩ := isSaved
  have inhabited : canonicalOrigin deps.text header ≠ "" := by
    rw [denotes.canonicalOrigin_eq]
    exact site.print_ne_empty
  rw [← canonicalOrigin_eq_iff urls]
  exact ⟨fun same => ⟨inhabited, same.symm⟩, fun both => both.2.symm⟩

end Checks

end EpokAuth
