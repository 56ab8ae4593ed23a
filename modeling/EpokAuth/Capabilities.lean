import EpokAuth.SettingsConsistency
import EpokAuth.Trimming
import Mathlib.Data.String.Basic

namespace EpokAuth

open Transactional

/-!
# The spelling of capabilities

A set of capabilities is stored as a strictly increasing list of well-formed
names.  What is stored depends only on how the given names are spelled once
surrounding blanks and case are disregarded, and on how many names were given.
-/

/-- A stored set of capabilities. -/
structure CanonicalCapabilities
    (maximum : Nat)
    (capabilities : List String) :
    Prop where
  increasing : capabilities.Pairwise (· < ·)
  wellFormed : ∀ name ∈ capabilities, isCapability name = true
  bounded : capabilities.length ≤ maximum

/-- The spelling of a name without surrounding blanks and case. -/
def spelling (text : TextLibrary) (value : String) : String :=
  text.casefold (strip value)

/-- The set that a list of names spells. -/
def spelledSet (text : TextLibrary) (values : List String) : List String :=
  (values.map (spelling text)).dedup.insertionSort fun first second =>
    first ≤ second

/--
Case folding, character by character: it lowers the ASCII letters and leaves
the other ASCII characters and all blanks alone, and makes no blank of another
character.
-/
structure CaseFolding (text : TextLibrary) where
  fold : Char → List Char
  casefold_eq : ∀ value,
    text.casefold value = String.ofList (value.toList.flatMap fold)
  fold_ascii : ∀ character, character.toNat < 128 →
    fold character = [character.toLower]
  fold_space : ∀ character, isSpace character = true →
    fold character = [character]
  fold_inhabited : ∀ character, fold character ≠ []
  not_space_of_mem_fold : ∀ character, isSpace character = false →
    ∀ folded ∈ fold character, isSpace folded = false

/-- A name with blanks around it. -/
def Pads (name padded : String) : Prop :=
  ∃ before after : List Char,
    (∀ character ∈ before, isSpace character = true) ∧
      (∀ character ∈ after, isSpace character = true) ∧
      padded.toList = before ++ name.toList ++ after

/-- Names that differ only in case and in the blanks around them. -/
def SpelledAlike (text : TextLibrary) (value other : String) : Prop :=
  ∃ name otherName,
    Pads name value ∧ Pads otherName other ∧
      text.casefold name = text.casefold otherName

/--
Normalising is idempotent, and it disregards order, repetition, case and
surrounding blanks as long as no more names are given than are permitted.
-/
structure NormalCapabilities (text : TextLibrary) : Prop where
  idempotent :
    ∀ values maximum normal,
      normalizeCapabilities text values maximum = .ok normal →
        normalizeCapabilities text normal maximum = .ok normal
  insensitive :
    ∀ values others maximum,
      values.length ≤ maximum →
      others.length ≤ maximum →
      (∀ value ∈ values, ∃ other ∈ others, SpelledAlike text value other) →
      (∀ other ∈ others, ∃ value ∈ values, SpelledAlike text value other) →
        normalizeCapabilities text values maximum =
          normalizeCapabilities text others maximum

/-! ## Increasing lists -/

section Increasing

variable
  [LinearOrder α]
  {values others : List α}

/-- A list sorted without repetitions is strictly increasing. -/
theorem increasing_sorted (values : List α) :
    (values.dedup.insertionSort fun first second => first ≤ second).Pairwise
      (· < ·) := by
  have sorted :=
    List.pairwise_insertionSort (fun first second : α => first ≤ second)
      values.dedup
  have distinct :=
    (List.perm_insertionSort (fun first second : α => first ≤ second)
      values.dedup).nodup_iff.mpr values.nodup_dedup
  exact (sorted.and distinct).imp fun both => lt_of_le_of_ne both.1 both.2

theorem mem_sorted {value : α} :
    value ∈
        (values.dedup.insertionSort fun first second => first ≤ second) ↔
      value ∈ values := by
  rw [List.mem_insertionSort, List.mem_dedup]

/-- Sorted lists without repetitions are determined by their elements. -/
theorem sorted_congr
    (same : ∀ value, value ∈ values ↔ value ∈ others) :
    (values.dedup.insertionSort fun first second => first ≤ second) =
      others.dedup.insertionSort fun first second => first ≤ second := by
  refine (increasing_sorted values).eq_of_mem_iff (increasing_sorted others) ?_
  intro value
  rw [mem_sorted, mem_sorted, same value]

/-- A strictly increasing list is sorted already. -/
theorem sorted_of_increasing
    (increasing : values.Pairwise (· < ·)) :
    (values.dedup.insertionSort fun first second => first ≤ second) =
      values :=
  (increasing_sorted values).eq_of_mem_iff increasing fun _ => mem_sorted

theorem length_sorted_le :
    (values.dedup.insertionSort fun first second => first ≤ second).length ≤
      values.length := by
  rw [List.length_insertionSort]
  exact values.dedup_sublist.length_le

end Increasing

/-! ## Normalisation -/

section Normalising

variable
  {text : TextLibrary}
  {value other : String}
  {values others normal : List String}
  {maximum : Nat}

/-- A name that is accepted is stored as it is spelled. -/
theorem normalizeCapability_ok_iff :
    normalizeCapability text value = .ok other ↔
      isCapability (spelling text value) = true ∧
        other = spelling text value := by
  rw [normalizeCapability, ← spelling]
  split
  · rename_i accepted
    rw [Except.ok.injEq]
    exact ⟨fun same => ⟨accepted, same.symm⟩, fun both => both.2.symm⟩
  · rename_i refused
    constructor
    · intro impossible
      cases impossible
    · intro both
      exact absurd both.1 refused

/-- Either every name is accepted, or the syntax of one is reported. -/
theorem normalizeEach_eq :
    normalizeEach text values =
      if ∀ value ∈ values, isCapability (spelling text value) = true then
        .ok (values.map (spelling text))
      else
        .error (inputInvalid "Capability syntax is not valid.") := by
  induction values with
  | nil => simp [normalizeEach]
  | cons value rest inductionHypothesis =>
      rw [normalizeEach, inductionHypothesis, normalizeCapability, ← spelling]
      simp only [List.forall_mem_cons, List.map_cons]
      by_cases accepted : isCapability (spelling text value) = true
      · by_cases others :
          ∀ value ∈ rest, isCapability (spelling text value) = true
        · rw [if_pos accepted, if_pos others, if_pos ⟨accepted, others⟩]
        · rw [if_pos accepted, if_neg others]
          exact (if_neg fun both => others both.2).symm
      · have refused :
            ¬ (isCapability (spelling text value) = true ∧
              ∀ value ∈ rest, isCapability (spelling text value) = true) :=
          fun both => accepted both.1
        rw [if_neg accepted, if_neg refused]

/-- What names are stored as, or which complaint is raised about them. -/
theorem normalizeCapabilities_eq :
    normalizeCapabilities text values maximum =
      if maximum < values.length then
        .error (inputInvalid "Too many capabilities.")
      else if ∀ value ∈ values, isCapability (spelling text value) = true then
        .ok (spelledSet text values)
      else
        .error (inputInvalid "Capability syntax is not valid.") := by
  rw [normalizeCapabilities, normalizeEach_eq]
  by_cases accepted :
      ∀ value ∈ values, isCapability (spelling text value) = true
  · rw [if_pos accepted, if_pos accepted, spelledSet]
  · rw [if_neg accepted, if_neg accepted]

/-- Names are accepted when they are few enough and each is well formed. -/
theorem normalizeCapabilities_ok_iff :
    normalizeCapabilities text values maximum = .ok normal ↔
      values.length ≤ maximum ∧
        (∀ value ∈ values, isCapability (spelling text value) = true) ∧
        normal = spelledSet text values := by
  rw [normalizeCapabilities_eq]
  split
  · rename_i many
    constructor
    · intro impossible
      cases impossible
    · intro both
      exact absurd both.1 (Nat.not_le.mpr many)
  · rename_i few
    split
    · rename_i accepted
      rw [Except.ok.injEq]
      exact ⟨fun same => ⟨Nat.not_lt.mp few, accepted, same.symm⟩,
        fun both => both.2.2.symm⟩
    · rename_i refused
      constructor
      · intro impossible
        cases impossible
      · intro both
        exact absurd both.2.1 refused

theorem mem_spelledSet :
    other ∈ spelledSet text values ↔
      ∃ value ∈ values, spelling text value = other := by
  rw [spelledSet, mem_sorted, List.mem_map]

/-- Whatever is stored is a canonical set. -/
theorem canonical_of_normalizeCapabilities
    (accepted : normalizeCapabilities text values maximum = .ok normal) :
    CanonicalCapabilities maximum normal := by
  obtain ⟨few, wellFormed, rfl⟩ := normalizeCapabilities_ok_iff.mp accepted
  refine ⟨increasing_sorted _, ?_, ?_⟩
  · intro name member
    obtain ⟨value, given, rfl⟩ := mem_spelledSet.mp member
    exact wellFormed value given
  · have size := @length_sorted_le String _ (values.map (spelling text))
    rw [List.length_map] at size
    exact size.trans few

/-- Names that spell the same set are stored, or refused, alike. -/
theorem normalizeCapabilities_congr
    (few : values.length ≤ maximum)
    (fewOthers : others.length ≤ maximum)
    (same :
      ∀ name, (∃ value ∈ values, spelling text value = name) ↔
        ∃ value ∈ others, spelling text value = name) :
    normalizeCapabilities text values maximum =
      normalizeCapabilities text others maximum := by
  have sameSet : spelledSet text values = spelledSet text others := by
    refine sorted_congr fun name => ?_
    rw [List.mem_map, List.mem_map]
    exact same name
  have sameSyntax :
      (∀ value ∈ values, isCapability (spelling text value) = true) ↔
        ∀ value ∈ others, isCapability (spelling text value) = true := by
    constructor
    · intro accepted value given
      obtain ⟨source, givenToo, spelled⟩ := (same _).mpr ⟨value, given, rfl⟩
      exact spelled ▸ accepted source givenToo
    · intro accepted value given
      obtain ⟨source, givenToo, spelled⟩ := (same _).mp ⟨value, given, rfl⟩
      exact spelled ▸ accepted source givenToo
  rw [normalizeCapabilities_eq, normalizeCapabilities_eq,
    if_neg (Nat.not_lt.mpr few), if_neg (Nat.not_lt.mpr fewOthers), sameSet]
  simp only [sameSyntax]

end Normalising

/-! ## Spellings -/

section Spelling

variable
  {text : TextLibrary}
  {character : Char}
  {value other : String}
  {values normal : List String}
  {maximum : Nat}

/-- The codes of lower-case letters and digits. -/
theorem isLowerAlphanumeric_iff :
    isLowerAlphanumeric character = true ↔
      (97 ≤ character.toNat ∧ character.toNat ≤ 122) ∨
        (48 ≤ character.toNat ∧ character.toNat ≤ 57) := by
  simp only [isLowerAlphanumeric, Bool.or_eq_true, Bool.and_eq_true,
    decide_eq_true_eq, Char.le_def, UInt32.le_iff_toNat_le]
  rfl

/-- Lowering changes the capital ASCII letters only. -/
theorem toLower_eq_self
    (small : character.toNat < 65 ∨ 90 < character.toNat) :
    character.toLower = character := by
  refine dif_neg ?_
  rintro ⟨least, most⟩
  have least : 65 ≤ character.toNat := least
  have most : character.toNat ≤ 90 := most
  omega

theorem toNat_toLower
    (least : 65 ≤ character.toNat)
    (most : character.toNat ≤ 90) :
    character.toLower.toNat = character.toNat + 32 := by
  have step : ('a'.val - 'A'.val).toNat = 32 := by decide
  have code : character.val.toNat = character.toNat := rfl
  refine (congrArg Char.toNat (dif_pos ⟨least, most⟩)).trans ?_
  change (character.val + ('a'.val - 'A'.val)).toNat = _
  rw [UInt32.toNat_add, step, code]
  omega

theorem isSpace_eq_false
    (printable : 33 ≤ character.toNat)
    (ascii : character.toNat < 128) :
    isSpace character = false := by
  simp only [isSpace, Bool.or_eq_false_iff, Bool.and_eq_false_iff,
    decide_eq_false_iff_not, beq_eq_false_iff_ne, ne_eq]
  omega

/-- A character of a capability is neither folded nor trimmed. -/
theorem plain_of_capabilityCharacter
    (permitted :
      (isLowerAlphanumeric character ||
        [':', '.', '_', '-'].contains character) = true) :
    character.toNat < 128 ∧ character.toLower = character ∧
      isSpace character = false := by
  have code :
      (97 ≤ character.toNat ∧ character.toNat ≤ 122) ∨
        (45 ≤ character.toNat ∧ character.toNat ≤ 58) ∨
          character.toNat = 95 := by
    rcases Bool.or_eq_true_iff.mp permitted with letter | mark
    · have codes := isLowerAlphanumeric_iff.mp letter
      omega
    · have marks : character ∈ [':', '.', '_', '-'] :=
        List.contains_iff_mem.mp mark
      simp only [List.mem_cons, List.not_mem_nil, or_false] at marks
      rcases marks with rfl | rfl | rfl | rfl <;> decide
  refine ⟨by omega, toLower_eq_self (by omega), isSpace_eq_false ?_ ?_⟩
  · omega
  · omega

/-- The characters of a capability. -/
theorem capabilityCharacter_of_mem
    (wellFormed : isCapability value = true)
    (member : character ∈ value.toList) :
    (isLowerAlphanumeric character ||
      [':', '.', '_', '-'].contains character) = true := by
  unfold isCapability at wellFormed
  split at wellFormed
  · cases wellFormed
  · rename_i first rest characters
    rw [characters] at member
    simp only [Bool.and_eq_true, List.all_eq_true] at wellFormed
    rcases List.mem_cons.mp member with rfl | inRest
    · rw [wellFormed.1.1, Bool.true_or]
    · exact wellFormed.2 character inRest

/-- Stripping is trimming blanks. -/
theorem strip_eq (value : String) :
    strip value =
      String.ofList (Trimming.trim isSpace value.toList) :=
  rfl

/-- Blanks around a name are not part of its spelling. -/
theorem Pads.spelling_eq
    (pads : Pads value other) :
    spelling text other = spelling text value := by
  obtain ⟨before, after, leading, trailing, padded⟩ := pads
  rw [spelling, spelling, strip_eq, strip_eq, padded,
    Trimming.trim_pad leading trailing]

/-- Case folding commutes with stripping. -/
theorem CaseFolding.spelling_eq
    (folding : CaseFolding text) :
    spelling text value = strip (text.casefold value) := by
  rw [spelling, strip_eq, strip_eq, folding.casefold_eq, folding.casefold_eq,
    String.toList_ofList, String.toList_ofList,
    Trimming.trim_flatMap folding.fold_space folding.fold_inhabited
      folding.not_space_of_mem_fold]

/-- Names that differ in case and in surrounding blanks are spelled alike. -/
theorem SpelledAlike.spelling_eq
    (alike : SpelledAlike text value other)
    (folding : CaseFolding text) :
    spelling text value = spelling text other := by
  obtain ⟨name, otherName, pads, padsOther, same⟩ := alike
  rw [pads.spelling_eq, padsOther.spelling_eq, folding.spelling_eq,
    folding.spelling_eq, same]

/-- A well-formed capability is spelled as it is. -/
theorem CaseFolding.spelling_of_isCapability
    (folding : CaseFolding text)
    (wellFormed : isCapability value = true) :
    spelling text value = value := by
  have plain :
      ∀ character ∈ value.toList,
        character.toNat < 128 ∧ character.toLower = character ∧
          isSpace character = false :=
    fun character member =>
      plain_of_capabilityCharacter
        (capabilityCharacter_of_mem wellFormed member)
  have folded : value.toList.flatMap folding.fold = value.toList := by
    rw [← List.flatMap_singleton' value.toList, List.flatMap_assoc]
    refine List.flatMap_congr fun character member => ?_
    rw [List.flatMap_cons, List.flatMap_nil, List.append_nil,
      folding.fold_ascii character (plain character member).1,
      (plain character member).2.1]
  rw [folding.spelling_eq, folding.casefold_eq, folded, strip_eq,
    String.toList_ofList,
    Trimming.trim_eq_self fun character member => (plain character member).2.2,
    String.ofList_toList]

/-- A canonical set is stored as it is. -/
theorem CanonicalCapabilities.normalize
    (canonical : CanonicalCapabilities maximum values)
    (folding : CaseFolding text) :
    normalizeCapabilities text values maximum = .ok values := by
  have spelled : values.map (spelling text) = values := by
    have same : values.map (spelling text) = values.map id :=
      List.map_congr_left fun name member =>
        folding.spelling_of_isCapability (canonical.wellFormed name member)
    rw [same, List.map_id]
  refine normalizeCapabilities_ok_iff.mpr ⟨canonical.bounded, ?_, ?_⟩
  · intro value given
    have wellFormed := canonical.wellFormed value given
    rw [folding.spelling_of_isCapability wellFormed]
    exact wellFormed
  · rw [spelledSet, spelled, sorted_of_increasing canonical.increasing]

/-- Normalising yields a normal form. -/
theorem CaseFolding.normalCapabilities
    (folding : CaseFolding text) :
    NormalCapabilities text where
  idempotent := by
    intro values maximum normal accepted
    exact (canonical_of_normalizeCapabilities accepted).normalize folding
  insensitive := by
    intro values others maximum few fewOthers covered covers
    refine normalizeCapabilities_congr few fewOthers fun name => ⟨?_, ?_⟩
    · rintro ⟨value, given, rfl⟩
      obtain ⟨other, givenToo, alike⟩ := covered value given
      exact ⟨other, givenToo, (alike.spelling_eq folding).symm⟩
    · rintro ⟨other, given, rfl⟩
      obtain ⟨value, givenToo, alike⟩ := covers other given
      exact ⟨value, givenToo, alike.spelling_eq folding⟩

end Spelling

end EpokAuth
