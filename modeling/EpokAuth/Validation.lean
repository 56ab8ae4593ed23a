import EpokAuth.Errors
import Mathlib.Data.List.Dedup
import Mathlib.Data.List.Sort

namespace EpokAuth

/-!
# Input normalisation

Email addresses, names, capabilities and origins are brought into one spelling
before they are compared or stored.  The tables of Unicode case folding, the
address validator, the internationalised-domain codec and the URL splitter are
external to the source and enter as one record of functions.
-/

/-- The parts of a URL, as the standard splitter reports them. -/
structure SplitUrl where
  scheme : String
  netloc : String
  hostname : Option String
  /-- Reading the port of a URL fails when it is not a number in range. -/
  port : Option (Option Nat)
  username : Option String
  password : Option String
  path : String
  query : String
  fragment : String
  deriving Repr, DecidableEq

/-- Functions on text that the source takes from libraries. -/
structure TextLibrary where
  casefold : String → String
  validateEmail : String → Option String
  idna : String → Option String
  urlsplit : String → Option SplitUrl

/-- The characters removed by `strip` and separating words in `split`. -/
def isSpace (character : Char) : Bool :=
  let code := character.toNat
  (9 ≤ code && code ≤ 13) || (28 ≤ code && code ≤ 32) ||
    code == 0x85 || code == 0xA0 || code == 0x1680 ||
    (0x2000 ≤ code && code ≤ 0x200A) || code == 0x2028 ||
    code == 0x2029 || code == 0x202F || code == 0x205F || code == 0x3000

/-- Remove leading and trailing characters with a property. -/
def stripWhere (property : Char → Bool) (value : String) : String :=
  String.ofList
    ((((value.toList.dropWhile property).reverse).dropWhile
      property).reverse)

/-- `str.strip` without an argument. -/
def strip (value : String) : String :=
  stripWhere isSpace value

/-- Remove trailing occurrences of one character. -/
def rstripChar (removed : Char) (value : String) : String :=
  String.ofList
    ((value.toList.reverse.dropWhile fun character =>
      character == removed).reverse)

/-- The words of a text: maximal runs without white space. -/
def words : List Char → List (List Char)
  | [] => []
  | character :: rest =>
      if isSpace character then
        words rest
      else
        match rest, words rest with
        | next :: _, word :: others =>
            if isSpace next then
              [character] :: word :: others
            else
              (character :: word) :: others
        | _, others => [character] :: others

/-- Join the words of a text by single blanks. -/
def collapseSpaces (value : String) : String :=
  String.ofList ([' '].intercalate (words value.toList))

/-- A text contains a control character. -/
def hasControl (value : String) : Bool :=
  value.toList.any fun character => character.toNat < 32

/-- An input is refused, with the reason. -/
def inputInvalid (detail : String) : Failure :=
  .auth { code := .inputInvalid, detail := detail, statusCode := some 422 }

section Normalisation

variable (text : TextLibrary)

/-- The key of an account: its validated address with the case folded. -/
def normalizeEmail (value : String) : Except Failure String :=
  match text.validateEmail (strip value) with
  | none => .error (inputInvalid "Email is not valid.")
  | some normalized => .ok (text.casefold normalized)

/-- The key to look an account up by, for any text at all. -/
def normalizeEmailForLogin (value : String) : String :=
  match normalizeEmail text value with
  | .ok normalized => normalized
  | .error _ => ((text.casefold (strip value)).take 320).toString

/-- A name with single spaces, if it is a legal one. -/
def normalizeDisplayName (value : String) : Except Failure String :=
  let normalized := collapseSpaces value
  if 1 ≤ normalized.length ∧ normalized.length ≤ 200 ∧
      hasControl normalized = false then
    .ok normalized
  else
    .error (inputInvalid "Display name is not valid.")

/-- A lower-case ASCII letter, or a digit. -/
def isLowerAlphanumeric (character : Char) : Bool :=
  ('a' ≤ character && character ≤ 'z') ||
    ('0' ≤ character && character ≤ '9')

/-- Split a text at one character, keeping empty parts. -/
def splitAtChar (separator : Char) : List Char → List (List Char)
  | [] => [[]]
  | character :: rest =>
      if character = separator then
        [] :: splitAtChar separator rest
      else
        match splitAtChar separator rest with
        | [] => [[character]]
        | part :: others => (character :: part) :: others

/-- One label of a domain name. -/
def isDomainLabel (label : List Char) : Bool :=
  1 ≤ label.length && label.length ≤ 63 &&
    label.head? != some '-' && label.getLast? != some '-' &&
    label.all fun character =>
      isLowerAlphanumeric character || character == '-'

/-- Whether a text occurs in another one. -/
def contains (pattern value : String) : Bool :=
  value.toList.tails.any fun suffix => pattern.toList.isPrefixOf suffix

/-- The ASCII name of a domain. -/
def normalizeDomain (value : String) : Except Failure String :=
  let candidate := text.casefold (rstripChar '.' (strip value))
  if candidate = "" ∨ contains "://" candidate = true ∨
      (candidate.toList.any fun character =>
        "/:#?@".toList.contains character) = true then
    .error (.valueError
      "domain must not contain scheme, port, user info, or path")
  else
    match text.idna candidate with
    | none => .error (.valueError "domain is not valid")
    | some normalized =>
        if 253 < normalized.length ∨
            ((splitAtChar '.' normalized.toList).all isDomainLabel) =
              false then
          .error (.valueError "domain is not valid")
        else
          .ok normalized

/-- The capability grammar: one letter or digit, then up to 99 more characters. -/
def isCapability (value : String) : Bool :=
  match value.toList with
  | [] => false
  | first :: rest =>
      isLowerAlphanumeric first && rest.length ≤ 99 &&
        rest.all fun character =>
          isLowerAlphanumeric character ||
            [':', '.', '_', '-'].contains character

/-- A capability in lower case, without spaces around it. -/
def normalizeCapability (value : String) : Except Failure String :=
  let normalized := text.casefold (strip value)
  if isCapability normalized then
    .ok normalized
  else
    .error (.valueError "capability syntax is not valid")

/-- Normalise every value, or fail at the first that is not one. -/
def normalizeEach : List String → Except Failure (List String)
  | [] => .ok []
  | value :: rest =>
      match normalizeCapability text value, normalizeEach rest with
      | .ok normalized, .ok others => .ok (normalized :: others)
      | _, _ =>
          .error (inputInvalid "Capability syntax is not valid.")

/-- Some capabilities in order, each of them once. -/
def normalizeCapabilities
    (values : List String)
    (maximum : Nat) :
    Except Failure (List String) :=
  if maximum < values.length then
    .error (inputInvalid "Too many capabilities.")
  else
    match normalizeEach text values with
    | .error failure => .error failure
    | .ok normalized =>
        .ok (normalized.dedup.insertionSort fun first second =>
          first ≤ second)

/-- The canonical spelling of an origin; empty when it is not one. -/
def canonicalOrigin (origin : String) : String :=
  match text.urlsplit (rstripChar '/' (strip origin)) with
  | none => ""
  | some parsed =>
      match parsed.port with
      | none => ""
      | some port =>
          let host := text.casefold (parsed.hostname.getD "")
          let scheme := text.casefold parsed.scheme
          if ["http", "https"].contains scheme = false ∨ host = "" ∨
              parsed.username.isSome = true ∨
              parsed.password.isSome = true ∨
              ["", "/"].contains parsed.path = false ∨
              parsed.query ≠ "" ∨ parsed.fragment ≠ "" then
            ""
          else
            let defaultPort :=
              (scheme == "https" && (port == none || port == some 443)) ||
                (scheme == "http" && (port == none || port == some 80))
            let authority :=
              if host.toList.contains ':' then "[" ++ host ++ "]" else host
            if defaultPort then
              scheme ++ "://" ++ authority
            else
              scheme ++ "://" ++ authority ++ ":" ++
                (match port with
                  | none => "None"
                  | some number => toString number)

end Normalisation

end EpokAuth
