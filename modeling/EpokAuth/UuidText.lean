import EpokAuth.Models
import EpokAuth.TextEncoding
import EpokAuth.Validation

namespace EpokAuth

open TextEncoding

/-!
# Identifiers as text

A UUID is printed as 32 hexadecimal digits in five groups.  Reading one is more
generous: it drops braces, hyphens and two markers, and hands the 32 characters
that are left to the reader of integers, which accepts every decimal digit of
Unicode, underscores between digits and a base marker.
-/

/-- The range of a UUID. -/
def Uuid.InRange (id : Uuid) : Prop :=
  id < 16 ^ 32

/-- Groups of 8, 4, 4, 4 and the remaining digits. -/
def grouped (digits : List Char) : List Char :=
  digits.take 8 ++ '-' :: (digits.drop 8).take 4 ++
    '-' :: (digits.drop 12).take 4 ++ '-' :: (digits.drop 16).take 4 ++
      '-' :: digits.drop 20

/-- The printed form of an identifier. -/
def uuidText (id : Uuid) : String :=
  String.ofList (grouped (hexadecimal 32 id))

/-- Remove the occurrences of a pattern from left to right. -/
def removeAll (pattern : List Char) : List Char → (skip : Nat) → List Char
  | [], _ => []
  | _ :: rest, skip + 1 => removeAll pattern rest skip
  | character :: rest, 0 =>
      if pattern.isPrefixOf (character :: rest) then
        removeAll pattern rest (pattern.length - 1)
      else
        character :: removeAll pattern rest 0

/-- Digits in base 16; an underscore may stand between two of them. -/
def readDigits
    (digit : Char → Option Nat) :
    List Char → (value : Nat) → (afterDigit : Bool) → Option Nat
  | [], value, afterDigit => if afterDigit then some value else none
  | character :: rest, value, afterDigit =>
      if character = '_' then
        if afterDigit then readDigits digit rest value false else none
      else
        (digit character).bind fun next =>
          readDigits digit rest (value * 16 + next) true

/--
The ASCII text that the reader of integers makes of a text: decimal digits and
spaces of other scripts become ASCII ones, and nothing else is let through.
-/
def toAsciiDigit
    (decimalDigit : Char → Option Nat)
    (character : Char) :
    Char :=
  if character.toNat < 127 then
    character
  else if isSpace character then
    ' '
  else
    match decimalDigit character with
    | some value => Nat.digitChar value
    | none => '?'

/-- The blanks that the reader of integers skips. -/
def isAsciiBlank (character : Char) : Bool :=
  character = ' ' || (9 ≤ character.toNat && character.toNat ≤ 13)

/-- Drop the marker of base 16, and an underscore after it. -/
def dropBaseMarker : List Char → List Char
  | '0' :: marker :: rest =>
      if marker = 'x' ∨ marker = 'X' then
        if rest.head? = some '_' then rest.tail else rest
      else
        '0' :: marker :: rest
  | digits => digits

/-- Read an integer in base 16. -/
def pythonInt16
    (decimalDigit : Char → Option Nat)
    (value : String) :
    Option Nat :=
  let ascii := String.ofList (value.toList.map (toAsciiDigit decimalDigit))
  let trimmed := (stripWhere isAsciiBlank ascii).toList
  let unsigned :=
    if trimmed.head? = some '+' then trimmed.tail else trimmed
  readDigits hexValue (dropBaseMarker unsigned) 0 false

/-- Read a UUID. -/
def parseUuid
    (decimalDigit : Char → Option Nat)
    (value : String) :
    Option Uuid :=
  let unmarked :=
    removeAll "uuid:".toList (removeAll "urn:".toList value.toList 0) 0
  let bare :=
    stripWhere (fun character => character = '\x7b' || character = '\x7d')
      (String.ofList unmarked)
  let digits := bare.toList.filter fun character => character ≠ '-'
  if digits.length = 32 then
    pythonInt16 decimalDigit (String.ofList digits)
  else
    none

/-! ## A printed identifier reads back -/

/-- Grouping adds hyphens and nothing else. -/
theorem mem_grouped
    {digits : List Char}
    {character : Char}
    (member : character ∈ grouped digits) :
    character ∈ '-' :: digits := by
  have dropped (count : Nat) (inside : character ∈ digits.drop count) :
      character ∈ '-' :: digits :=
    List.mem_cons_of_mem _ (List.drop_subset count _ inside)
  have taken (count : Nat) (inside : character ∈ (digits.drop count).take 4) :
      character ∈ '-' :: digits :=
    dropped count (List.take_subset 4 _ inside)
  simp only [grouped, List.append_assoc, List.cons_append, List.mem_append,
    List.mem_cons] at member
  rcases member with here | rfl | here | rfl | here | rfl | here | rfl | here
  · exact List.mem_cons_of_mem _ (List.take_subset 8 _ here)
  · exact List.mem_cons_self
  · exact taken 8 here
  · exact List.mem_cons_self
  · exact taken 12 here
  · exact List.mem_cons_self
  · exact taken 16 here
  · exact List.mem_cons_self
  · exact dropped 20 here

theorem length_grouped
    {digits : List Char}
    (size : digits.length = 32) :
    (grouped digits).length = 36 := by
  simp [grouped, size]

/-- Without the hyphens, the digits are left. -/
theorem filter_grouped
    {digits : List Char}
    (plain : '-' ∉ digits) :
    ((grouped digits).filter fun character => character ≠ '-') = digits := by
  have spared :
      ∀ part : List Char, part ⊆ digits →
        (part.filter fun character => decide (character ≠ '-')) = part := by
    intro part inside
    refine List.filter_eq_self.mpr fun character member => ?_
    exact decide_eq_true fun same => plain (same ▸ inside member)
  have dropped (count : Nat) : digits.drop count ⊆ digits :=
    List.drop_subset count _
  have taken (count : Nat) : (digits.drop count).take 4 ⊆ digits :=
    fun _ member => dropped count (List.take_subset 4 _ member)
  have parts :
      digits.take 8 ++ ((digits.drop 8).take 4 ++ ((digits.drop 12).take 4 ++
        ((digits.drop 16).take 4 ++ digits.drop 20))) = digits := by
    have join (count : Nat) :
        (digits.drop count).take 4 ++ digits.drop (count + 4) =
          digits.drop count := by
      rw [← List.drop_drop, List.take_append_drop]
    rw [join 16, join 12, join 8, List.take_append_drop]
  simp only [grouped, List.append_assoc, List.cons_append,
    List.filter_append, List.filter_cons, spared _ (List.take_subset 8 _),
    spared _ (taken 8), spared _ (taken 12), spared _ (taken 16),
    spared _ (dropped 20), ne_eq, not_true_eq_false, decide_false,
    Bool.false_eq_true, if_false, parts]

@[simp] theorem length_uuidText (id : Uuid) : (uuidText id).length = 36 := by
  rw [uuidText, String.length_ofList]
  exact length_grouped (length_hexadecimal 32 id)

/-- The digits of an identifier and the hyphens between them. -/
theorem mem_uuidText
    {id : Uuid}
    {character : Char}
    (member : character ∈ (uuidText id).toList) :
    character ∈ '-' :: hexDigits := by
  rw [uuidText, String.toList_ofList] at member
  rcases List.mem_cons.mp (mem_grouped member) with hyphen | digit
  · exact hyphen ▸ List.mem_cons_self
  · exact List.mem_cons_of_mem _ (mem_hexadecimal digit)

/-- A pattern whose first character does not occur removes nothing. -/
theorem removeAll_of_not_mem
    {first : Char}
    {pattern text : List Char}
    (absent : first ∉ text) :
    removeAll (first :: pattern) text 0 = text := by
  induction text with
  | nil =>
      rfl
  | cons character rest inductionHypothesis =>
      rw [List.mem_cons, not_or] at absent
      rw [removeAll, inductionHypothesis absent.2, if_neg]
      simp [absent.1]

/-- Nothing is stripped from a text without the characters to strip. -/
theorem stripWhere_of_forall
    {property : Char → Bool}
    {value : String}
    (none : ∀ character ∈ value.toList, property character = false) :
    stripWhere property value = value := by
  have kept :
      ∀ text : List Char, (∀ character ∈ text, property character = false) →
        text.dropWhile property = text := by
    intro text spared
    cases text with
    | nil => rfl
    | cons character rest =>
        rw [List.dropWhile_cons, spared character List.mem_cons_self]
        rfl
  rw [stripWhere, kept _ none, kept _, List.reverse_reverse,
    String.ofList_toList]
  intro character member
  exact none character (List.mem_reverse.mp member)

/-- Digits without an underscore read as in any base-16 reader. -/
theorem readDigits_eq_readHex
    {text : List Char}
    (plain : '_' ∉ text)
    (value : Nat) :
    readDigits hexValue text value true = readHex text value := by
  induction text generalizing value with
  | nil =>
      rfl
  | cons character rest inductionHypothesis =>
      rw [List.mem_cons, not_or] at plain
      rw [readDigits, readHex, if_neg (Ne.symm plain.1)]
      exact congrArg _ (funext fun next => inductionHypothesis plain.2 _)

/-- What the readers ask of each of the sixteen digits. -/
private theorem hexDigits_plain :
    ∀ character ∈ hexDigits,
      character ≠ '_' ∧ character.toNat < 127 ∧
        isAsciiBlank character = false ∧ character ≠ '+' ∧ character ≠ 'x' ∧
          character ≠ 'X' ∧ character ≠ '-' := by
  have all :
      (hexDigits.all fun character =>
        decide
          (character ≠ '_' ∧ character.toNat < 127 ∧
            isAsciiBlank character = false ∧ character ≠ '+' ∧
              character ≠ 'x' ∧ character ≠ 'X' ∧ character ≠ '-')) = true := by
    decide
  intro character member
  exact of_decide_eq_true (List.all_eq_true.mp all character member)

/-- The integer reader reads 32 digits as the number they stand for. -/
theorem pythonInt16_hexadecimal
    (decimalDigit : Char → Option Nat)
    (id : Uuid) :
    pythonInt16 decimalDigit (String.ofList (hexadecimal 32 id)) =
      some (id % 16 ^ 32) := by
  have plain :
      ∀ character ∈ hexadecimal 32 id, _ := fun character member =>
    hexDigits_plain character (mem_hexadecimal member)
  have ascii :
      (hexadecimal 32 id).map (toAsciiDigit decimalDigit) =
        hexadecimal 32 id := by
    refine (List.map_congr_left fun character member => ?_).trans
      (List.map_id _)
    exact if_pos (plain character member).2.1
  have trimmed :
      stripWhere isAsciiBlank (String.ofList (hexadecimal 32 id)) =
        String.ofList (hexadecimal 32 id) := by
    refine stripWhere_of_forall fun character member => ?_
    rw [String.toList_ofList] at member
    exact (plain character member).2.2.1
  rw [pythonInt16, String.toList_ofList, ascii, trimmed, String.toList_ofList]
  cases shape : hexadecimal 32 id with
  | nil =>
      have size := length_hexadecimal 32 id
      rw [shape] at size
      cases size
  | cons first rest =>
      rw [shape] at plain
      have firstPlain := plain first List.mem_cons_self
      have unsigned : (first :: rest).head? ≠ some '+' := by
        simpa using firstPlain.2.2.2.1
      have unmarked : dropBaseMarker (first :: rest) = first :: rest := by
        unfold dropBaseMarker
        split
        · rename_i marker others same
          have markerPlain := plain marker (by rw [same]; simp)
          rw [if_neg, same]
          exact not_or.mpr
            ⟨markerPlain.2.2.2.2.1, markerPlain.2.2.2.2.2.1⟩
        · rfl
      have plainRest : '_' ∉ rest := fun member =>
        (plain '_' (List.mem_cons_of_mem _ member)).1 rfl
      rw [if_neg unsigned, unmarked, readDigits, if_neg firstPlain.1]
      have read := readHex_hexadecimal 32 id 0
      rw [shape, readHex] at read
      rw [← Nat.zero_add (id % 16 ^ 32), ← Nat.zero_mul (16 ^ 32), ← read]
      exact congrArg _ (funext fun next => readDigits_eq_readHex plainRest _)

/-- Reading what was printed gives the identifier back. -/
theorem parseUuid_uuidText
    (decimalDigit : Char → Option Nat)
    {id : Uuid}
    (inRange : id.InRange) :
    parseUuid decimalDigit (uuidText id) = some id := by
  have absent :
      ∀ character, character ∉ '-' :: hexDigits →
        character ∉ (uuidText id).toList :=
    fun character outside member => outside (mem_uuidText member)
  have unmarked (rest : List Char) :
      removeAll ('u' :: rest) (uuidText id).toList 0 =
        (uuidText id).toList :=
    removeAll_of_not_mem (absent 'u' (by decide))
  have digits :
      (('-' :: hexDigits).all fun character =>
        !(character = '\x7b' || character = '\x7d')) = true := by
    decide
  have braces :
      ∀ character ∈ '-' :: hexDigits,
        (character = '\x7b' || character = '\x7d') = false := by
    intro character member
    exact Bool.not_eq_true' _ ▸ List.all_eq_true.mp digits character member
  have bare :
      stripWhere (fun character => character = '\x7b' || character = '\x7d')
        (uuidText id) = uuidText id :=
    stripWhere_of_forall fun character member =>
      braces character (mem_uuidText member)
  have digits :
      ((uuidText id).toList.filter fun character => character ≠ '-') =
        hexadecimal 32 id := by
    rw [uuidText, String.toList_ofList]
    refine filter_grouped fun hyphen => ?_
    have plain :=
      hexDigits_plain '-' (mem_hexadecimal hyphen)
    exact plain.2.2.2.2.2.2 rfl
  have urn : "urn:".toList = 'u' :: ['r', 'n', ':'] := rfl
  have uuid : "uuid:".toList = 'u' :: ['u', 'i', 'd', ':'] := rfl
  rw [parseUuid, urn, uuid, unmarked, unmarked, String.ofList_toList, bare,
    digits, if_pos (length_hexadecimal 32 id), pythonInt16_hexadecimal,
    Nat.mod_eq_of_lt inRange]

end EpokAuth
