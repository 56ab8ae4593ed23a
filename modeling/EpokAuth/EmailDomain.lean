import EpokAuth.Validation

namespace EpokAuth

/-!
# The domain of a normalised address

The key of an account is its whole address after case folding, and is the
address its mail is sent to.  Case folding maps every character on its own, and
some letters that are valid in a domain to others, so the key may name another
domain than the address did.
-/

/-! ## Texts around a mark -/

section Mark

variable
  {α : Type}
  [DecidableEq α]
  {mark : α}
  {before after : List α}

/-- The part of a list behind the last mark. -/
def behindLast (mark : α) (values : List α) : List α :=
  (values.reverse.takeWhile fun value => value != mark).reverse

theorem behindLast_append (unmarked : mark ∉ after) :
    behindLast mark (before ++ mark :: after) = after := by
  have kept :
      (after.reverse ++ mark :: before.reverse).takeWhile
          (fun value => value != mark) =
        after.reverse := by
    rw [List.takeWhile_append_of_pos]
    · simp
    · intro value member
      rw [bne_iff_ne]
      rintro rfl
      exact unmarked (List.mem_reverse.mp member)
  rw [behindLast, List.reverse_append, List.reverse_cons, List.append_assoc,
    List.singleton_append, kept, List.reverse_reverse]

/-- A marked list is split at its last mark. -/
theorem exists_before_last
    {values : List α}
    (marked : mark ∈ values) :
    ∃ before, values = before ++ mark :: behindLast mark values ∧
      mark ∉ behindLast mark values := by
  induction values with
  | nil =>
      cases marked
  | cons first rest inductionHypothesis =>
      by_cases later : mark ∈ rest
      · obtain ⟨before, split, unmarked⟩ := inductionHypothesis later
        have same : behindLast mark (first :: rest) = behindLast mark rest := by
          rw [split, ← List.cons_append, behindLast_append unmarked,
            behindLast_append unmarked]
        rw [same]
        exact ⟨first :: before, by rw [List.cons_append, ← split], unmarked⟩
      · obtain rfl : mark = first :=
          (List.mem_cons.mp marked).resolve_right later
        have same : behindLast mark (mark :: rest) = rest :=
          @behindLast_append α _ mark [] rest later
        rw [same]
        exact ⟨[], rfl, later⟩

omit [DecidableEq α] in
/-- Characters that map to at least one each are kept only one by one. -/
theorem flatMap_eq_self_iff
    {map : α → List α}
    (inhabited : ∀ value, map value ≠ [])
    {values : List α} :
    values.flatMap map = values ↔ ∀ value ∈ values, map value = [value] := by
  have grows : ∀ others : List α, others.length ≤ (others.flatMap map).length := by
    intro others
    induction others with
    | nil =>
        exact Nat.zero_le _
    | cons first rest inductionHypothesis =>
        have some_ := List.length_pos_iff.mpr (inhabited first)
        rw [List.flatMap_cons, List.length_append, List.length_cons]
        omega
  induction values with
  | nil =>
      simp
  | cons first rest inductionHypothesis =>
      rw [List.flatMap_cons, List.forall_mem_cons]
      constructor
      · intro same
        -- No image is longer than one, or the whole would be too long.
        have lengths := congrArg List.length same
        rw [List.length_append, List.length_cons] at lengths
        have long := grows rest
        have some_ := List.length_pos_iff.mpr (inhabited first)
        obtain ⟨image, single⟩ := List.length_eq_one_iff.mp
          (show (map first).length = 1 by omega)
        rw [single, List.singleton_append, List.cons.injEq] at same
        exact ⟨by rw [single, same.1], inductionHypothesis.mp same.2⟩
      · rintro ⟨one, others⟩
        rw [one, List.singleton_append, inductionHypothesis.mpr others]

end Mark

/-! ## Addresses -/

/--
What addresses rely on besides the modelled code: case folding character by
character, the names of domains in the DNS, of which every valid domain in its
Unicode form has its own, and a validator that returns such a domain.
-/
structure EmailLibrary where
  text : TextLibrary
  fold : Char → List Char
  casefold_eq : ∀ value,
    text.casefold value = String.ofList (value.toList.flatMap fold)
  fold_inhabited : ∀ character, fold character ≠ []
  fold_mark : fold '@' = ['@']
  mark_of_mem_fold : ∀ character, '@' ∈ fold character → character = '@'
  dnsName : List Char → Option (List Char)
  dnsName_injective : ∀ {first second name},
    dnsName first = some name → dnsName second = some name → first = second
  validated : ∀ {value normalized},
    text.validateEmail value = some normalized →
      ∃ localPart domain,
        normalized.toList = localPart ++ '@' :: domain ∧
          '@' ∉ domain ∧ (dnsName domain).isSome

/-- The domain of an address. -/
def domainOf (address : String) : List Char :=
  behindLast '@' address.toList

section Domains

variable
  (library : EmailLibrary)
  {value other normalized : String}

/-- Case folding keeps the mark where it is. -/
theorem mark_not_mem_fold
    {characters : List Char}
    (unmarked : '@' ∉ characters) :
    '@' ∉ characters.flatMap library.fold := by
  intro member
  obtain ⟨character, inside, folded⟩ := List.mem_flatMap.mp member
  exact unmarked (library.mark_of_mem_fold character folded ▸ inside)

/-- The domain of a key is the case folding of the domain. -/
theorem domainOf_casefold
    (validated : library.text.validateEmail value = some normalized) :
    domainOf (library.text.casefold normalized) =
      (domainOf normalized).flatMap library.fold := by
  obtain ⟨localPart, domain, parts, unmarked, _⟩ := library.validated validated
  rw [domainOf, domainOf, library.casefold_eq, String.toList_ofList, parts,
    List.flatMap_append, List.flatMap_cons, library.fold_mark,
    List.singleton_append, behindLast_append unmarked]
  exact behindLast_append (mark_not_mem_fold library unmarked)

/-- An address that is accepted has a domain with a name. -/
theorem exists_dnsName
    (validated : library.text.validateEmail value = some normalized) :
    ∃ name, library.dnsName (domainOf normalized) = some name := by
  obtain ⟨localPart, domain, parts, unmarked, named⟩ :=
    library.validated validated
  rw [domainOf, parts, behindLast_append unmarked]
  exact Option.isSome_iff_exists.mp named

/-- The key of an address that is accepted. -/
theorem normalizeEmail_of_validated
    (validated : library.text.validateEmail (strip value) = some normalized) :
    normalizeEmail library.text value =
      .ok (library.text.casefold normalized) := by
  rw [normalizeEmail, validated]

/-- The key of an accepted address names the domain that the address names. -/
def KeepsDomain (value : String) : Prop :=
  ∀ normalized key,
    library.text.validateEmail (strip value) = some normalized →
    normalizeEmail library.text value = .ok key →
      library.dnsName (domainOf key) = library.dnsName (domainOf normalized)

/-- Accepted addresses at different domains have different keys. -/
def SeparatesDomains (value other : String) : Prop :=
  ∀ normalized normalizedOther,
    library.text.validateEmail (strip value) = some normalized →
    library.text.validateEmail (strip other) = some normalizedOther →
    library.dnsName (domainOf normalized) ≠
        library.dnsName (domainOf normalizedOther) →
      normalizeEmail library.text value ≠ normalizeEmail library.text other

/-- Case folding changes no character of the domain of an accepted address. -/
def FoldsNothing (value : String) : Prop :=
  ∀ normalized,
    library.text.validateEmail (strip value) = some normalized →
      ∀ character ∈ domainOf normalized, library.fold character = [character]

variable {library}

/-- A domain is kept exactly when case folding changes none of its characters. -/
theorem keepsDomain_iff :
    KeepsDomain library value ↔ FoldsNothing library value := by
  constructor
  · intro keeps normalized validated
    obtain ⟨name, named⟩ := exists_dnsName library validated
    have same := keeps _ _ validated (normalizeEmail_of_validated library validated)
    rw [domainOf_casefold library validated, named] at same
    exact (flatMap_eq_self_iff library.fold_inhabited).mp
      (library.dnsName_injective same named)
  · intro folds normalized key validated made
    obtain rfl := Except.ok.inj
      ((normalizeEmail_of_validated library validated).symm.trans made)
    rw [domainOf_casefold library validated,
      (flatMap_eq_self_iff library.fold_inhabited).mpr
        (folds normalized validated)]

/-- Keys that are kept are the keys of one domain only. -/
theorem separates_of_keepsDomain
    (keeps : KeepsDomain library value)
    (keepsOther : KeepsDomain library other) :
    SeparatesDomains library value other := by
  intro normalized normalizedOther validated validatedOther apart same
  have key := normalizeEmail_of_validated library validated
  have keyOther := normalizeEmail_of_validated library validatedOther
  have kept := keeps _ _ validated key
  have keptOther := keepsOther _ _ validatedOther (same ▸ key)
  exact apart (kept.symm.trans keptOther)

/--
Two addresses keep their domains in their keys, and apart from each other,
exactly when case folding changes no character of the two domains.
-/
theorem email_domains_kept_iff (value other : String) :
    (KeepsDomain library value ∧ KeepsDomain library other ∧
        SeparatesDomains library value other) ↔
      FoldsNothing library value ∧ FoldsNothing library other := by
  rw [← keepsDomain_iff, ← keepsDomain_iff]
  constructor
  · rintro ⟨keeps, keepsOther, _⟩
    exact ⟨keeps, keepsOther⟩
  · rintro ⟨keeps, keepsOther⟩
    exact ⟨keeps, keepsOther, separates_of_keepsDomain keeps keepsOther⟩

end Domains

/-! ## Two addresses with one key -/

/-- Full case folding of the letters that matter here. -/
def foldCharacter (character : Char) : List Char :=
  if 'A' ≤ character ∧ character ≤ 'Z' then
    [Char.ofNat (character.toNat + 32)]
  else if character = 'ß' then
    ['s', 's']
  else if character = 'ς' then
    ['σ']
  else
    [character]

theorem foldCharacter_spec (character : Char) :
    foldCharacter character ≠ [] ∧
      ('@' ∈ foldCharacter character → character = '@') := by
  have letters : ∀ code < 91, 65 ≤ code → '@' ≠ Char.ofNat (code + 32) := by
    decide
  unfold foldCharacter
  split
  · rename_i upper
    refine ⟨List.cons_ne_nil _ _, fun member => ?_⟩
    have low : 65 ≤ character.toNat := upper.1
    have high : character.toNat ≤ 90 := upper.2
    exact absurd (List.mem_singleton.mp member)
      (letters character.toNat (by omega) low)
  · split
    · exact ⟨List.cons_ne_nil _ _, fun member => absurd member (by decide)⟩
    · split
      · exact ⟨List.cons_ne_nil _ _, fun member => absurd member (by decide)⟩
      · exact ⟨List.cons_ne_nil _ _, fun member =>
          (List.mem_singleton.mp member).symm⟩

/-- The names of domains in lower-case ASCII, and of one that is not. -/
def sampleDnsName (domain : List Char) : Option (List Char) :=
  if domain = "straße.de".toList then
    some "xn--strae-oqa.de".toList
  else if "xn--".toList.isPrefixOf domain = false ∧
      (domain.all fun character =>
        isLowerAlphanumeric character || character == '-' ||
          character == '.') = true then
    some domain
  else
    none

theorem sampleDnsName_injective
    {first second name : List Char}
    (named : sampleDnsName first = some name)
    (namedToo : sampleDnsName second = some name) :
    first = second := by
  have encoded : ∀ {domain : List Char},
      "xn--".toList.isPrefixOf domain = false →
        domain ≠ "xn--strae-oqa.de".toList := by
    rintro _ plain rfl
    revert plain
    decide
  unfold sampleDnsName at named namedToo
  split at named
  · rename_i here
    split at namedToo
    · rename_i hereToo
      rw [here, hereToo]
    · split at namedToo
      · rename_i plain
        exact absurd
          ((Option.some.inj namedToo).trans (Option.some.inj named).symm)
          (encoded plain.1)
      · cases namedToo
  · split at named
    · rename_i plain
      split at namedToo
      · exact absurd
          ((Option.some.inj named).trans (Option.some.inj namedToo).symm)
          (encoded plain.1)
      · split at namedToo
        · exact (Option.some.inj named).trans (Option.some.inj namedToo).symm
        · cases namedToo
    · cases named

/-- Accept a text that ends in a domain with a name, as it is. -/
def sampleText : TextLibrary where
  casefold := fun value =>
    String.ofList (value.toList.flatMap foldCharacter)
  validateEmail := fun value =>
    if '@' ∈ value.toList ∧ (sampleDnsName (domainOf value)).isSome then
      some value
    else
      none
  idna := some
  urlsplit := fun _ => none

/-- That text library, with its folding and its names of domains. -/
def sampleLibrary : EmailLibrary where
  text := sampleText
  fold := foldCharacter
  casefold_eq := fun _ => rfl
  fold_inhabited := fun character => (foldCharacter_spec character).1
  fold_mark := by decide
  mark_of_mem_fold := fun character => (foldCharacter_spec character).2
  dnsName := sampleDnsName
  dnsName_injective := sampleDnsName_injective
  validated := by
    intro value normalized validated
    change (if _ then some value else none) = some normalized at validated
    split at validated
    · rename_i accepted
      obtain rfl := Option.some.inj validated
      obtain ⟨before, parts, unmarked⟩ := exists_before_last accepted.1
      exact ⟨before, domainOf value, parts, unmarked, accepted.2⟩
    · cases validated

/-- Case folding leaves the domain of an ordinary address alone. -/
theorem sample_foldsNothing
    {value : String}
    (accepted : sampleText.validateEmail (strip value) = some value)
    (plain :
      ((domainOf value).all fun character =>
        foldCharacter character == [character]) =
        true) :
    FoldsNothing sampleLibrary value := by
  intro normalized validated character member
  change sampleText.validateEmail (strip value) = some normalized at validated
  rw [accepted, Option.some.injEq] at validated
  rw [← validated] at member
  exact eq_of_beq (List.all_eq_true.mp plain character member)

/-- Two ordinary addresses keep their domains in their keys. -/
theorem email_domains_kept_ordinary :
    KeepsDomain sampleLibrary "User@example.com" ∧
      KeepsDomain sampleLibrary "user@example.org" ∧
      SeparatesDomains sampleLibrary "User@example.com" "user@example.org" :=
  (email_domains_kept_iff "User@example.com" "user@example.org").mpr
    ⟨sample_foldsNothing (by decide) (by decide),
      sample_foldsNothing (by decide) (by decide)⟩

/-- The addresses of a user at two domains have one key. -/
theorem sharp_s_merges_domains :
    sampleText.validateEmail "user@straße.de" = some "user@straße.de" ∧
      sampleText.validateEmail "user@strasse.de" = some "user@strasse.de" ∧
      sampleDnsName (domainOf "user@straße.de") =
        some "xn--strae-oqa.de".toList ∧
      sampleDnsName (domainOf "user@strasse.de") = some "strasse.de".toList ∧
      normalizeEmail sampleText "user@straße.de" = .ok "user@strasse.de" ∧
      normalizeEmail sampleText "user@strasse.de" = .ok "user@strasse.de" ∧
      ¬ KeepsDomain sampleLibrary "user@straße.de" ∧
      ¬ SeparatesDomains sampleLibrary "user@straße.de" "user@strasse.de" := by
  have accepted :
      sampleText.validateEmail "user@straße.de" = some "user@straße.de" := by
    decide
  have acceptedToo :
      sampleText.validateEmail "user@strasse.de" = some "user@strasse.de" := by
    decide
  have named :
      sampleDnsName (domainOf "user@straße.de") =
        some "xn--strae-oqa.de".toList := by
    decide
  have namedToo :
      sampleDnsName (domainOf "user@strasse.de") =
        some "strasse.de".toList := by
    decide
  have key :
      normalizeEmail sampleText "user@straße.de" = .ok "user@strasse.de" := by
    rfl
  have keyToo :
      normalizeEmail sampleText "user@strasse.de" = .ok "user@strasse.de" := by
    rfl
  refine ⟨accepted, acceptedToo, named, namedToo, key, keyToo, ?_, ?_⟩
  · intro keeps
    have same := keeps _ _ accepted key
    exact absurd (namedToo.symm.trans (same.trans named)) (by decide)
  · intro separates
    refine separates _ _ accepted acceptedToo ?_ (key.trans keyToo.symm)
    intro same
    exact absurd (named.symm.trans (same.trans namedToo)) (by decide)

end EpokAuth
