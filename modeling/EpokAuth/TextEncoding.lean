import Mathlib.Tactic.Ring

namespace TextEncoding

/-!
# Encodings of bytes and values as ASCII text

Hexadecimal digits of a fixed width, unpadded base64 with the URL-safe
alphabet, and the compact JSON text of an object whose values are texts and
integers.  What the encodings are used for needs their lengths and the
characters they produce, and that hexadecimal digits read back.
-/

/-! ## Hexadecimal -/

/-- The digits that hexadecimal texts are written with. -/
def hexDigits : List Char :=
  "0123456789abcdef".toList

/-- The digit of a value below sixteen. -/
def hexDigit (value : Nat) : Char :=
  hexDigits.getD value '0'

/-- The value of a digit, in either case. -/
def hexValue (character : Char) : Option Nat :=
  if '0' ≤ character ∧ character ≤ '9' then
    some (character.toNat - '0'.toNat)
  else if 'a' ≤ character ∧ character ≤ 'f' then
    some (character.toNat - 'a'.toNat + 10)
  else if 'A' ≤ character ∧ character ≤ 'F' then
    some (character.toNat - 'A'.toNat + 10)
  else
    none

/-- The lowest digits of a number, the most significant one first. -/
def hexadecimal : (width value : Nat) → List Char
  | 0, _ => []
  | width + 1, value =>
      hexadecimal width (value / 16) ++ [hexDigit (value % 16)]

/-- Read digits, each continuing the number read before it. -/
def readHex : List Char → Nat → Option Nat
  | [], value => some value
  | character :: rest, value =>
      (hexValue character).bind fun digit => readHex rest (value * 16 + digit)

/-- Every digit is one of sixteen characters and reads back as its value. -/
private theorem hexDigit_spec :
    ∀ value < 16,
      hexDigit value ∈ hexDigits ∧ hexValue (hexDigit value) = some value := by
  decide

@[simp] theorem length_hexadecimal (width value : Nat) :
    (hexadecimal width value).length = width := by
  induction width generalizing value with
  | zero =>
      rfl
  | succ width inductionHypothesis =>
      simp [hexadecimal, inductionHypothesis]

theorem mem_hexadecimal
    {width value : Nat}
    {character : Char}
    (member : character ∈ hexadecimal width value) :
    character ∈ hexDigits := by
  induction width generalizing value with
  | zero =>
      cases member
  | succ width inductionHypothesis =>
      rcases List.mem_append.mp member with earlier | last
      · exact inductionHypothesis earlier
      · obtain rfl := List.mem_singleton.mp last
        exact (hexDigit_spec _ (Nat.mod_lt _ (by decide))).1

theorem readHex_append
    (first second : List Char)
    (value : Nat) :
    readHex (first ++ second) value =
      (readHex first value).bind fun middle => readHex second middle := by
  induction first generalizing value with
  | nil =>
      rfl
  | cons character rest inductionHypothesis =>
      simp only [List.cons_append, readHex]
      cases hexValue character with
      | none => rfl
      | some digit => exact inductionHypothesis _

/-- The digits of a number read back as the number, up to their width. -/
theorem readHex_hexadecimal (width value start : Nat) :
    readHex (hexadecimal width value) start =
      some (start * 16 ^ width + value % 16 ^ width) := by
  induction width generalizing value with
  | zero =>
      simp [hexadecimal, readHex, Nat.mod_one]
  | succ width inductionHypothesis =>
      have last := (hexDigit_spec _ (Nat.mod_lt value (by decide))).2
      rw [hexadecimal, readHex_append, inductionHypothesis, Option.bind_some,
        readHex, last]
      simp only [Option.bind_some, readHex, Option.some.injEq]
      have split :
          value % 16 ^ (width + 1) =
            value / 16 % 16 ^ width * 16 + value % 16 := by
        rw [pow_succ, Nat.mul_comm, Nat.mod_mul]
        ring
      rw [split, pow_succ]
      ring

/-! ## Unpadded base64 with the URL-safe alphabet -/

/-- The characters of URL-safe texts. -/
def base64Alphabet : List Char :=
  "ABCDEFGHIJKLMNOPQRSTUVWXYZabcdefghijklmnopqrstuvwxyz0123456789-_".toList

/-- The character of six bits. -/
def sextet (value : Nat) : Char :=
  base64Alphabet.getD (value % 64) 'A'

/-- Bytes as a URL-safe text without padding. -/
def base64Url : List UInt8 → List Char
  | [] => []
  | [first] =>
      [sextet (first.toNat / 4), sextet (first.toNat % 4 * 16)]
  | [first, second] =>
      [ sextet (first.toNat / 4),
        sextet (first.toNat % 4 * 16 + second.toNat / 16),
        sextet (second.toNat % 16 * 4) ]
  | first :: second :: third :: rest =>
      sextet (first.toNat / 4) ::
        sextet (first.toNat % 4 * 16 + second.toNat / 16) ::
          sextet (second.toNat % 16 * 4 + third.toNat / 64) ::
            sextet (third.toNat % 64) :: base64Url rest

theorem sextet_mem (value : Nat) : sextet value ∈ base64Alphabet := by
  have inside : value % 64 < base64Alphabet.length :=
    Nat.mod_lt value (by decide)
  rw [sextet, List.getD_eq_getElem?_getD, List.getElem?_eq_getElem inside]
  exact List.getElem_mem inside

/-- Three bytes take four characters, and a rest takes one more than it has. -/
theorem length_base64Url (bytes : List UInt8) :
    (base64Url bytes).length = (4 * bytes.length + 2) / 3 := by
  induction bytes using base64Url.induct with
  | case1 => simp [base64Url]
  | case2 first => simp [base64Url]
  | case3 first second => simp [base64Url]
  | case4 first second third rest inductionHypothesis =>
      simp only [base64Url, List.length_cons, inductionHypothesis]
      omega

theorem mem_base64Url
    {bytes : List UInt8}
    {character : Char}
    (member : character ∈ base64Url bytes) :
    character ∈ base64Alphabet := by
  induction bytes using base64Url.induct with
  | case1 => cases member
  | case2 first =>
      simp only [base64Url, List.mem_cons, List.not_mem_nil, or_false] at member
      rcases member with rfl | rfl <;> exact sextet_mem _
  | case3 first second =>
      simp only [base64Url, List.mem_cons, List.not_mem_nil, or_false] at member
      rcases member with rfl | rfl | rfl <;> exact sextet_mem _
  | case4 first second third rest inductionHypothesis =>
      simp only [base64Url, List.mem_cons] at member
      rcases member with rfl | rfl | rfl | rfl | later
      · exact sextet_mem _
      · exact sextet_mem _
      · exact sextet_mem _
      · exact sextet_mem _
      · exact inductionHypothesis later

/-! ## Compact JSON -/

/-- A character between quotes: printable ASCII as it is, the rest escaped. -/
def escape (character : Char) : List Char :=
  let code := character.toNat
  if character = '"' then ['\\', '"']
  else if character = '\\' then ['\\', '\\']
  else if code = 8 then ['\\', 'b']
  else if code = 9 then ['\\', 't']
  else if code = 10 then ['\\', 'n']
  else if code = 12 then ['\\', 'f']
  else if code = 13 then ['\\', 'r']
  else if 32 ≤ code ∧ code < 127 then [character]
  else if code < 0x10000 then '\\' :: 'u' :: hexadecimal 4 code
  else
    -- a character beyond the basic plane is written as a surrogate pair
    '\\' :: 'u' :: hexadecimal 4 (0xD800 + (code - 0x10000) / 0x400) ++
      '\\' :: 'u' :: hexadecimal 4 (0xDC00 + (code - 0x10000) % 0x400)

/-- The characters of a text between its quotes. -/
def escaped (value : String) : List Char :=
  value.toList.flatMap escape

/-- A text in quotes. -/
def quoted (value : String) : List Char :=
  '"' :: escaped value ++ ['"']

/-- A value of a flat object. -/
inductive Scalar where
  | text (value : String)
  | integer (value : Int)
  deriving Repr, DecidableEq

/-- A value as compact JSON. -/
def Scalar.render : Scalar → List Char
  | .text value => quoted value
  | .integer value => (toString value).toList

/-- A name with its value. -/
def renderEntry (entry : String × Scalar) : List Char :=
  quoted entry.1 ++ ':' :: entry.2.render

/-- Entries after the first one follow a comma. -/
def renderEntries : List (String × Scalar) → List Char
  | [] => []
  | [entry] => renderEntry entry
  | entry :: rest => renderEntry entry ++ ',' :: renderEntries rest

/-- A flat object as compact JSON. -/
def renderObject (entries : List (String × Scalar)) : List Char :=
  '{' :: renderEntries entries ++ ['}']

@[simp] theorem length_quoted (value : String) :
    (quoted value).length = (escaped value).length + 2 := by
  simp [quoted]

/-- Two braces, the entries, and a comma between any two of them. -/
theorem length_renderObject
    {first : String × Scalar}
    {rest : List (String × Scalar)} :
    (renderObject (first :: rest)).length =
      ((first :: rest).map fun entry => (renderEntry entry).length).sum +
        rest.length + 2 := by
  have entries :
      (renderEntries (first :: rest)).length =
        ((first :: rest).map fun entry => (renderEntry entry).length).sum +
          rest.length := by
    induction rest generalizing first with
    | nil =>
        simp [renderEntries]
    | cons second others inductionHypothesis =>
        simp only [renderEntries, List.length_append, List.length_cons,
          inductionHypothesis, List.map_cons, List.sum_cons]
        omega
  simp only [renderObject, List.cons_append, List.length_cons,
    List.length_append, List.length_nil, entries]

/-- An integer below a power of ten has at most that many digits. -/
theorem length_toString_le
    {value : Nat}
    {width : Nat}
    (positive : 0 < width)
    (bound : value < 10 ^ width) :
    (toString (value : Int)).length ≤ width :=
  (Nat.length_repr_le_iff positive).mpr bound

end TextEncoding
