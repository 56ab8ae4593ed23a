import EpokAuth.ScriptedRun
import EpokAuth.StoredCapabilities
import EpokAuth.TrustedOrigins

namespace EpokAuth

/-!
# Canonical origins are a normal form

Two origins have the same canonical form exactly when they denote the same
site, and so the validator of the settings, the checks of requests and the
challenges of ceremonies agree on every origin.  The canonical form is a fixed
point unless the host of the site ends with a blank, or has a bracket.  For a
ceremony with passkeys the host must also be the relying party's, and without
a bracket.
-/

/-- Origins are compared by the sites they denote, wherever they are used. -/
structure OriginsNormalForm
    (env : Environment)
    (configured : List String) :
    Prop where
  same : ∀ first second,
    (canonicalOrigin env.text first ≠ "" ∧
        canonicalOrigin env.text first = canonicalOrigin env.text second) ↔
      SameSite env.text first second
  fixed : ∀ origin site,
    Denotes env.text origin site → site.Readable → site.Trimmed →
      canonicalOrigin env.text (canonicalOrigin env.text origin) =
        canonicalOrigin env.text origin
  stored : ∀ entry ∈ env.settings.trustedOrigins,
    ∃ raw ∈ configured, ∃ site,
      Denotes env.text (stripOrigin raw) site ∧
        entry = canonicalOrigin env.text (stripOrigin raw) ∧
        (site.Readable → site.Trimmed →
          canonicalOrigin env.text entry = entry)
  sessions : ∀ origin,
    validateOrigin env.toDependencies (some origin) = .ok () ↔
      Trusts env.text configured origin
  google : ∀ origin saved,
    validateGoogleOrigin env.toDependencies (some origin) = .ok saved ↔
      Trusts env.text configured origin ∧
        saved = canonicalOrigin env.text origin
  passkeys : ∀ origin saved,
    validatePasskeyOrigin env.toDependencies (some origin) = .ok saved ↔
      Trusts env.text configured origin ∧
        saved = canonicalOrigin env.text origin ∧
        ∃ site rpId,
          Denotes env.text origin site ∧
            site.Readable ∧
            env.settings.passkeyRpId = some rpId ∧
            belongsToRelyingParty site.host rpId = true
  begun : ∀ executed store,
    ServiceRun env {} executed store → ChallengesBegun (Begun executed) store
  later : ∀ header saved,
    (validatePasskeyOrigin env.toDependencies (some header) = .ok saved ∨
        validateGoogleOrigin env.toDependencies (some header) = .ok saved) →
      ∀ origin,
        canonicalOrigin env.text origin = saved ↔
          SameSite env.text header origin

/--
Whenever the validator stores the trusted origins, origins are compared by the
sites they denote.
-/
theorem origins_normal_form
    {env : Environment}
    {value : ConfiguredOrigins}
    (urls : StandardUrls env.text)
    (normalized :
      normalizeOrigins env.text (parseOrigins value) =
        .ok env.settings.trustedOrigins) :
    OriginsNormalForm env (parseOrigins value) where
  same := fun _ _ => canonicalOrigin_eq_iff urls
  fixed := fun _ _ denotes => denotes.canonicalOrigin_idem urls
  stored := by
    intro entry isStored
    obtain ⟨raw, member, _, rfl, inhabited⟩ :=
      (mem_normalizeOrigins_iff normalized).mp isStored
    obtain ⟨site, denotes⟩ := denotes_of_canonicalOrigin inhabited
    exact ⟨raw, member, site, denotes, rfl, denotes.canonicalOrigin_idem urls⟩
  sessions := fun _ => validateOrigin_eq_ok_iff urls normalized
  google := fun _ _ => validateGoogleOrigin_eq_ok_iff urls normalized
  passkeys := fun _ _ => validatePasskeyOrigin_eq_ok_iff urls normalized
  begun := fun _ _ run => run.challengesBegun
  later := fun _ _ accepted _ =>
    canonicalOrigin_eq_saved_iff urls normalized accepted

/-! ## ASCII URLs -/

/-- The splitter's tables for ASCII URLs, with one address. -/
def asciiTables : UrlTables where
  lower := fun value => String.ofList (value.toList.map Char.toLower)
  hidesDelimiter := fun _ => false
  isIpv6Address := fun host => host = "::1"

/-- Text functions for ASCII texts and URLs. -/
def asciiUrls : TextLibrary :=
  { asciiText with urlsplit := UrlSplit.urlsplit asciiTables }

/-- An ASCII letter in lower case has no other lower case. -/
theorem toLower_toLower (character : Char) :
    character.toLower.toLower = character.toLower := by
  by_cases small : character.toNat < 65 ∨ 90 < character.toNat
  · rw [toLower_eq_self small, toLower_eq_self small]
  · have code : character.toLower.toNat = character.toNat + 32 :=
      toNat_toLower (by omega) (by omega)
    exact toLower_eq_self (.inr (by omega))

/-- The text functions for ASCII texts are those of the standard library. -/
def asciiStandardUrls : StandardUrls asciiUrls where
  fold := asciiFolding.fold
  casefold_eq := asciiFolding.casefold_eq
  fold_ascii := asciiFolding.fold_ascii
  fold_space := asciiFolding.fold_space
  fold_inhabited := asciiFolding.fold_inhabited
  not_space_of_mem_fold := asciiFolding.not_space_of_mem_fold
  tables := asciiTables
  urlsplit_eq := fun _ => rfl
  casefold_lower := by
    intro value
    change
      String.ofList
          ((String.ofList (value.toList.map Char.toLower)).toList.map
            Char.toLower) =
        String.ofList (value.toList.map Char.toLower)
    rw [String.toList_ofList, List.map_map]
    refine congrArg String.ofList (List.map_congr_left fun character _ => ?_)
    exact toLower_toLower character
  fold_fold := by
    intro character
    exact congrArg (fun lower => [lower]) (toLower_toLower character)
  isAlpha_of_mem_fold := by
    intro character large folded member ascii
    rw [List.mem_singleton.mp member,
      toLower_eq_self (.inr (by omega))] at ascii
    omega
  hidesDelimiter_fold := fun _ _ _ _ => rfl
  colon_mem_address := by
    intro host address
    rw [of_decide_eq_true address]
    decide
  head_address := by
    intro host address
    rw [of_decide_eq_true address]
    decide
  address_casefold := by
    intro host address
    rw [of_decide_eq_true address]
    rfl

/-- An environment that trusts one origin, which may not hold passkeys. -/
def originEnvironment : Environment :=
  { referenceEnvironment with
    settings :=
      { referenceEnvironment.settings with
        trustedOrigins := ["https://example.com"]
        passkeyRpId := some "example.test" }
    text := asciiUrls }

/-- The origins of an environment with one origin are a normal form. -/
theorem origins_normal_form_originEnvironment :
    OriginsNormalForm originEnvironment
      (parseOrigins (.text "HTTPS://EXAMPLE.COM:443/, ")) :=
  @origins_normal_form originEnvironment (.text "HTTPS://EXAMPLE.COM:443/, ")
    asciiStandardUrls (by decide +kernel)

/--
A blank before a port ends the canonical form, and is lost when that is read
again, as is one before a final slash when a trusted origin is stored.  A
trusted origin is refused when its host is not the relying party's.
-/
theorem origins_not_normal_form :
    canonicalOrigin asciiUrls "https://example.com :443" =
        "https://example.com " ∧
      canonicalOrigin asciiUrls "https://example.com " =
        "https://example.com" ∧
      normalizeOrigins asciiUrls ["https://example.com :443"] =
        .ok ["https://example.com "] ∧
      normalizeOrigins asciiUrls ["https://example.com /"] =
        .ok ["https://example.com"] ∧
      validateOrigin originEnvironment.toDependencies
          (some "https://example.com /") =
        .error (invalidOrigin "Origin is not trusted." (some 403)) ∧
      validateOrigin originEnvironment.toDependencies
          (some "https://example.com") =
        .ok () ∧
      validatePasskeyOrigin originEnvironment.toDependencies
          (some "https://example.com") =
        .error validatePasskeyOrigin.incompatible := by
  decide +kernel

end EpokAuth
