import EpokAuth.Validation
import Mathlib.Data.List.TakeWhile

namespace EpokAuth

/-!
# Splitting URLs

The splitter of the standard library, as far as an origin is read with it: it
drops leading controls and the characters that no URL contains, cuts off the
scheme and the network location, checks the location, and reads user, host and
port from it on demand.
-/

/--
The tables of the splitter: lower case, the characters outside ASCII whose
compatibility form contains a delimiter, and the addresses of version 6.
-/
structure UrlTables where
  lower : String → String
  hidesDelimiter : Char → Bool
  isIpv6Address : String → Bool

namespace UrlSplit

/-! ## Cutting texts -/

/-- A text before and after one occurrence of a separator, if there is one. -/
structure Cut where
  before : List Char
  found : Bool
  after : List Char

/-- Cut a text at the first occurrence of a separator. -/
def partition (separator : Char) (text : List Char) : Cut where
  before := text.takeWhile (· != separator)
  found := text.contains separator
  after := (text.dropWhile (· != separator)).drop 1

/-- Cut a text at the last occurrence of a separator. -/
def rpartition (separator : Char) (text : List Char) : Cut where
  before := ((text.reverse.dropWhile (· != separator)).drop 1).reverse
  found := text.contains separator
  after := (text.reverse.takeWhile (· != separator)).reverse

/-! ## The parts of a URL -/

/-- The characters that are removed from the front of a URL. -/
def isControlOrSpace (character : Char) : Bool :=
  character.toNat ≤ 32

/-- The characters that are removed wherever they stand in a URL. -/
def isUnsafe (character : Char) : Bool :=
  character == '\t' || character == '\r' || character == '\n'

/-- A character that a scheme may have. -/
def isSchemeChar (character : Char) : Bool :=
  character.isAlphanum || character == '+' || character == '-' ||
    character == '.'

/-- The scheme in lower case, and what follows it. -/
def splitScheme (url : List Char) : List Char × List Char :=
  let cut := partition ':' url
  match cut.before with
  | [] => ([], url)
  | first :: _ =>
      if cut.found && first.isAlpha && cut.before.all isSchemeChar then
        (cut.before.map Char.toLower, cut.after)
      else
        ([], url)

/-- A network location ends before its first delimiter. -/
def endsNetloc (character : Char) : Bool :=
  character == '/' || character == '?' || character == '#'

/-- The network location, and what follows it. -/
def splitNetloc (url : List Char) : List Char × List Char :=
  match url with
  | '/' :: '/' :: rest =>
      (rest.takeWhile fun character => !endsNetloc character,
        rest.dropWhile fun character => !endsNetloc character)
  | _ => ([], url)

/-! ## The network location -/

/-- The host as it is written, and the text of the port. -/
def hostinfo (netloc : List Char) : List Char × List Char :=
  let info := (rpartition '@' netloc).after
  let bracket := partition '[' info
  if bracket.found then
    let host := partition ']' bracket.after
    (host.before, (partition ':' host.after).after)
  else
    let host := partition ':' info
    (host.before, host.after)

/-- The user and the password before the last `@`. -/
def userinfo (netloc : List Char) : Option String × Option String :=
  let cut := rpartition '@' netloc
  if cut.found then
    let user := partition ':' cut.before
    (some (String.ofList user.before),
      if user.found then some (String.ofList user.after) else none)
  else
    (none, none)

/-- A hexadecimal digit in either case. -/
def isHexDigit (character : Char) : Bool :=
  character.isDigit || ('a' ≤ character && character ≤ 'f') ||
    ('A' ≤ character && character ≤ 'F')

/-- A version in hexadecimal, a dot, and some text. -/
def isFutureAddress (text : List Char) : Bool :=
  !(text.takeWhile isHexDigit).isEmpty &&
    match text.dropWhile isHexDigit with
    | '.' :: rest => !rest.isEmpty && !rest.contains '\n'
    | _ => false

section Tables

variable (tables : UrlTables)

/-- Brackets hold an address of version 6 or of a future version. -/
def isBracketedHost (host : List Char) : Bool :=
  match host with
  | 'v' :: rest => isFutureAddress rest
  | _ => tables.isIpv6Address (String.ofList host)

/-- Nothing stands before the brackets, nor between them and a port. -/
def isBracketedNetloc (netloc : List Char) : Bool :=
  let info := (rpartition '@' netloc).after
  let bracket := partition '[' info
  if bracket.found then
    let host := partition ']' bracket.after
    bracket.before.isEmpty &&
      (host.after.isEmpty || host.after.head? == some ':') &&
      isBracketedHost tables host.before
  else
    isBracketedHost tables (partition ':' info).before

/-- Brackets come in pairs, around an address. -/
def checkBrackets (netloc : List Char) : Bool :=
  if netloc.contains '[' && netloc.contains ']' then
    isBracketedNetloc tables netloc
  else
    !netloc.contains '[' && !netloc.contains ']'

/-- No character of a location has a delimiter in its compatibility form. -/
def checkNetloc (netloc : List Char) : Bool :=
  netloc.all fun character =>
    character.toNat < 128 || !tables.hidesDelimiter character

/-- The host in lower case, but for the zone of an address. -/
def hostname (netloc : List Char) : Option String :=
  let host := (hostinfo netloc).1
  if host.isEmpty then
    none
  else
    let zone := partition '%' host
    some
      (tables.lower (String.ofList zone.before) ++
        String.ofList (host.dropWhile (· != '%')))

/-- The most digits from which an integer is read. -/
def maxIntDigits : Nat := 4300

/-- The port, if there is one; reading it fails when it is no port number. -/
def port (netloc : List Char) : Option (Option Nat) :=
  let digits := (hostinfo netloc).2
  if digits.isEmpty then
    some none
  else if digits.all Char.isDigit && digits.length ≤ maxIntDigits then
    let number := Nat.ofDigitChars 10 digits 0
    if number ≤ 65535 then some (some number) else none
  else
    none

/-- `urllib.parse.urlsplit`, or nothing where it raises. -/
def urlsplit (url : String) : Option SplitUrl :=
  let cleaned :=
    (url.toList.dropWhile isControlOrSpace).filter fun character =>
      !isUnsafe character
  let (scheme, rest) := splitScheme cleaned
  let (netloc, rest) := splitNetloc rest
  let fragment := partition '#' rest
  let query := partition '?' fragment.before
  if checkBrackets tables netloc && checkNetloc tables netloc then
    some
      { scheme := String.ofList scheme
        netloc := String.ofList netloc
        hostname := hostname tables netloc
        port := port netloc
        username := (userinfo netloc).1
        password := (userinfo netloc).2
        path := String.ofList query.before
        query := String.ofList query.after
        fragment := String.ofList fragment.after }
  else
    none

end Tables

/-! ## Where a text is cut -/

section Cutting

variable
  {separator character : Char}
  {text before after : List Char}

/-- No character of a text without a separator is that separator. -/
theorem bne_of_notMem
    (free : separator ∉ text) :
    ∀ character ∈ text, (character != separator) = true := by
  intro character member
  simp only [bne_iff_ne, ne_eq]
  rintro rfl
  exact free member

/-- A text is cut at the first separator in it. -/
theorem partition_append
    (free : separator ∉ before) :
    partition separator (before ++ separator :: after) =
      { before := before, found := true, after := after } := by
  have passes := bne_of_notMem free
  simp [partition, List.takeWhile_append_of_pos passes,
    List.dropWhile_append_of_pos passes]

/-- A text without a separator is not cut. -/
theorem partition_of_notMem
    (free : separator ∉ text) :
    partition separator text =
      { before := text, found := false, after := [] } := by
  have passes := bne_of_notMem free
  have whole : text.takeWhile (· != separator) = text :=
    List.takeWhile_eq_self_iff.mpr passes
  have nothing : text.dropWhile (· != separator) = [] :=
    List.dropWhile_eq_nil_iff.mpr passes
  simp [partition, whole, nothing, free]

theorem rpartition_of_notMem
    (free : separator ∉ text) :
    rpartition separator text =
      { before := [], found := false, after := text } := by
  have passes :
      ∀ character ∈ text.reverse, (character != separator) = true :=
    bne_of_notMem fun member => free (List.mem_reverse.mp member)
  have whole : text.reverse.takeWhile (· != separator) = text.reverse :=
    List.takeWhile_eq_self_iff.mpr passes
  have nothing : text.reverse.dropWhile (· != separator) = [] :=
    List.dropWhile_eq_nil_iff.mpr passes
  simp [rpartition, whole, nothing, free]

/-- The separator is not in the text before it. -/
theorem notMem_partition_before :
    separator ∉ (partition separator text).before := by
  intro member
  have passes := List.mem_takeWhile_imp member
  simp at passes

theorem mem_of_mem_partition_before
    (member : character ∈ (partition separator text).before) :
    character ∈ text :=
  (List.takeWhile_sublist _).subset member

theorem mem_of_mem_partition_after
    (member : character ∈ (partition separator text).after) :
    character ∈ text :=
  (List.dropWhile_sublist _).subset ((List.drop_sublist _ _).subset member)

end Cutting

/-! ## Addresses of a future version -/

/-- A future address is a version, a dot and some text on one line. -/
theorem isFutureAddress_iff
    {text : List Char} :
    isFutureAddress text = true ↔
      ∃ version rest,
        text = version ++ '.' :: rest ∧
          version ≠ [] ∧
          (∀ digit ∈ version, isHexDigit digit = true) ∧
          rest ≠ [] ∧
          '\n' ∉ rest := by
  rw [isFutureAddress, Bool.and_eq_true]
  constructor
  · rintro ⟨versioned, follows⟩
    split at follows
    · rename_i rest isRest
      rw [Bool.and_eq_true] at follows
      refine ⟨text.takeWhile isHexDigit, rest, ?_, ?_, ?_, ?_, ?_⟩
      · rw [← isRest, List.takeWhile_append_dropWhile]
      · simpa using versioned
      · exact fun digit member => List.mem_takeWhile_imp member
      · simpa using follows.1
      · simpa using follows.2
    · cases follows
  · rintro ⟨version, rest, rfl, versioned, hexadecimal, follows, oneLine⟩
    have dot : isHexDigit '.' = false := by decide
    rw [List.takeWhile_append_of_pos hexadecimal,
      List.dropWhile_append_of_pos hexadecimal]
    simp [dot, versioned, follows, oneLine]

/-! ## What is read from a URL -/

section Reading

variable
  {tables : UrlTables}
  {url : String}
  {parsed : SplitUrl}
  {netloc : List Char}

/-- A host as it is written in a network location. -/
structure WrittenHost (tables : UrlTables) (host : List Char) : Prop where
  plain :
    ∀ character ∈ host,
      endsNetloc character = false ∧ isUnsafe character = false
  checked : checkNetloc tables host = true
  userless : '@' ∉ host
  closed : ']' ∉ host
  form : (':' ∉ host ∧ '[' ∉ host) ∨ isBracketedHost tables host = true

/-- Every character of a host is one of the network location. -/
theorem mem_of_mem_hostinfo
    {character : Char}
    (userless : '@' ∉ netloc)
    (member : character ∈ (hostinfo netloc).1) :
    character ∈ netloc := by
  simp only [hostinfo, rpartition_of_notMem userless] at member
  split at member
  · exact mem_of_mem_partition_after (mem_of_mem_partition_before member)
  · exact mem_of_mem_partition_before member

/-- A location that passes the checks and names no user holds a host. -/
theorem writtenHost_of_checked
    (plain :
      ∀ character ∈ netloc,
        endsNetloc character = false ∧ isUnsafe character = false)
    (userless : '@' ∉ netloc)
    (brackets : checkBrackets tables netloc = true)
    (checked : checkNetloc tables netloc = true) :
    WrittenHost tables (hostinfo netloc).1 := by
  have within : ∀ character ∈ (hostinfo netloc).1, character ∈ netloc :=
    fun _ member => mem_of_mem_hostinfo userless member
  have bracketed :
      ']' ∉ (hostinfo netloc).1 ∧
        ((':' ∉ (hostinfo netloc).1 ∧ '[' ∉ (hostinfo netloc).1) ∨
          isBracketedHost tables (hostinfo netloc).1 = true) := by
    by_cases opens : '[' ∈ netloc
    · have found : (partition '[' netloc).found = true :=
        List.contains_iff_mem.mpr opens
      have valid : isBracketedNetloc tables netloc = true := by
        rw [checkBrackets] at brackets
        split at brackets
        · exact brackets
        · rw [List.contains_iff_mem.mpr opens] at brackets
          cases brackets
      simp only [isBracketedNetloc, rpartition_of_notMem userless, found,
        ↓reduceIte, Bool.and_eq_true] at valid
      simp only [hostinfo, rpartition_of_notMem userless, found, ↓reduceIte]
      exact ⟨notMem_partition_before, .inr valid.2⟩
    · have found : (partition '[' netloc).found = false := by
        simpa [partition] using opens
      have closes : ']' ∉ netloc := by
        intro closes
        simp [checkBrackets, opens, closes] at brackets
      simp only [hostinfo, rpartition_of_notMem userless, found,
        Bool.false_eq_true, ↓reduceIte]
      exact ⟨fun member => closes (mem_of_mem_partition_before member),
        .inl ⟨notMem_partition_before,
          fun member => opens (mem_of_mem_partition_before member)⟩⟩
  exact
    { plain := fun character member => plain character (within _ member)
      checked :=
        List.all_eq_true.mpr fun character member =>
          List.all_eq_true.mp checked character (within _ member)
      userless := fun member => userless (within _ member)
      closed := bracketed.1
      form := bracketed.2 }

/-- The characters of a network location end it nowhere. -/
def PlainText (text : List Char) : Prop :=
  ∀ character ∈ text,
    endsNetloc character = false ∧ isUnsafe character = false

/-- A URL that is split and names no user has a checked network location. -/
theorem netloc_of_urlsplit
    (splits : urlsplit tables url = some parsed)
    (userless : parsed.username = none) :
    ∃ netloc,
      parsed.hostname = hostname tables netloc ∧
        parsed.port = port netloc ∧
        PlainText netloc ∧
        '@' ∉ netloc ∧
        checkBrackets tables netloc = true ∧
        checkNetloc tables netloc = true := by
  have cleaned :
      ∀ character ∈ (url.toList.dropWhile isControlOrSpace).filter
          (fun character => !isUnsafe character),
        isUnsafe character = false := by
    intro character member
    simpa using (List.mem_filter.mp member).2
  rw [urlsplit] at splits
  generalize (url.toList.dropWhile isControlOrSpace).filter
    (fun character => !isUnsafe character) = text at splits cleaned
  dsimp only at splits
  split at splits
  · rename_i checks
    obtain rfl := Option.some.inj splits
    rw [Bool.and_eq_true] at checks
    refine ⟨_, rfl, rfl, ?_, ?_, checks.1, checks.2⟩
    · intro character member
      have inRest : character ∈ (splitScheme text).2 ∧
          endsNetloc character = false := by
        simp only [splitNetloc] at member
        split at member
        · rename_i rest isRest
          rw [isRest]
          have passes := List.mem_takeWhile_imp member
          refine ⟨?_, by simpa using passes⟩
          exact List.mem_cons_of_mem _ (List.mem_cons_of_mem _
            ((List.takeWhile_sublist _).subset member))
        · cases member
      refine ⟨inRest.2, cleaned character ?_⟩
      have member := inRest.1
      simp only [splitScheme] at member
      split at member
      · exact member
      · split at member
        · exact mem_of_mem_partition_after member
        · exact member
    · intro member
      have found :
          (rpartition '@' (splitNetloc (splitScheme text).2).1).found = true :=
        List.contains_iff_mem.mpr member
      simp [userinfo, found] at userless
  · cases splits

end Reading

/-! ## What is read from a printed URL -/

section Printing

variable
  {tables : UrlTables}
  {scheme : String}
  {netloc host digits : List Char}

/-- A URL that ends with its network location is split if that is checked. -/
theorem urlsplit_print
    (known : scheme = "http" ∨ scheme = "https")
    (plain : PlainText netloc)
    (userless : '@' ∉ netloc) :
    urlsplit tables (scheme ++ "://" ++ String.ofList netloc) =
      if checkBrackets tables netloc && checkNetloc tables netloc then
        some
          { scheme := scheme
            netloc := String.ofList netloc
            hostname := hostname tables netloc
            port := port netloc
            username := none
            password := none
            path := ""
            query := ""
            fragment := "" }
      else
        none := by
  have text :
      (scheme ++ "://" ++ String.ofList netloc).toList =
        scheme.toList ++ ':' :: '/' :: '/' :: netloc := by
    simp [String.toList_append]
  have clean :
      netloc.filter (fun character => !isUnsafe character) = netloc :=
    List.filter_eq_self.mpr fun character member => by
      simp [(plain character member).2]
  have whole :
      netloc.takeWhile (fun character => !endsNetloc character) = netloc :=
    List.takeWhile_eq_self_iff.mpr fun character member => by
      simp [(plain character member).1]
  have nothing :
      netloc.dropWhile (fun character => !endsNetloc character) = [] :=
    List.dropWhile_eq_nil_iff.mpr fun character member => by
      simp [(plain character member).1]
  have cleaned :
      ((scheme ++ "://" ++ String.ofList netloc).toList.dropWhile
            isControlOrSpace).filter
          (fun character => !isUnsafe character) =
        scheme.toList ++ ':' :: '/' :: '/' :: netloc := by
    rw [text]
    rcases known with rfl | rfl
    · simpa [isControlOrSpace, isUnsafe] using clean
    · simpa [isControlOrSpace, isUnsafe] using clean
  have schemes :
      splitScheme (scheme.toList ++ ':' :: '/' :: '/' :: netloc) =
        (scheme.toList, '/' :: '/' :: netloc) := by
    rcases known with rfl | rfl
    · rw [splitScheme, partition_append (by decide)]
      rfl
    · rw [splitScheme, partition_append (by decide)]
      rfl
  rw [urlsplit, cleaned]
  dsimp only
  rw [schemes]
  simp only [splitNetloc, whole, nothing]
  simp [userinfo, rpartition_of_notMem userless, partition]

/-- A port behind its colon, or no port. -/
def portText (digits : List Char) : List Char :=
  if digits.isEmpty then [] else ':' :: digits

/-- A port is written in digits only. -/
theorem notMem_of_isDigit
    {character : Char}
    (numeric : ∀ digit ∈ digits, digit.isDigit = true)
    (other : character.isDigit = false) :
    character ∉ digits := by
  intro member
  rw [numeric character member] at other
  cases other

theorem notMem_portText
    {character : Char}
    (numeric : ∀ digit ∈ digits, digit.isDigit = true)
    (other : character.isDigit = false)
    (isOther : character ≠ ':') :
    character ∉ portText digits := by
  unfold portText
  split
  · exact List.not_mem_nil
  · simp [isOther, notMem_of_isDigit numeric other]

/-- The text of a port has neither brackets nor the mark of a user. -/
theorem portText_free
    (numeric : ∀ digit ∈ digits, digit.isDigit = true) :
    '@' ∉ portText digits ∧ '[' ∉ portText digits ∧ ']' ∉ portText digits :=
  ⟨@notMem_portText _ '@' numeric rfl (by decide),
    @notMem_portText _ '[' numeric rfl (by decide),
    @notMem_portText _ ']' numeric rfl (by decide)⟩

/-- A host without colons stands before the text of its port. -/
theorem partition_host_portText
    (colonless : ':' ∉ host) :
    (partition ':' (host ++ portText digits)).before = host ∧
      (partition ':' (host ++ portText digits)).after = digits := by
  unfold portText
  split
  · rename_i empty
    rw [List.append_nil, partition_of_notMem colonless,
      List.isEmpty_iff.mp empty]
    exact ⟨rfl, rfl⟩
  · rw [partition_append colonless]
    exact ⟨rfl, rfl⟩

/-- A host without brackets stands before the port. -/
theorem hostinfo_plain
    (numeric : ∀ digit ∈ digits, digit.isDigit = true)
    (userless : '@' ∉ host)
    (colonless : ':' ∉ host)
    (bracketless : '[' ∉ host) :
    hostinfo (host ++ portText digits) = (host, digits) := by
  have noUser : '@' ∉ host ++ portText digits := by
    simp [userless, portText_free numeric]
  have noBracket : '[' ∉ host ++ portText digits := by
    simp [bracketless, portText_free numeric]
  simp only [hostinfo, rpartition_of_notMem noUser,
    partition_of_notMem noBracket, Bool.false_eq_true, ↓reduceIte,
    partition_host_portText colonless]

theorem checkBrackets_plain
    (numeric : ∀ digit ∈ digits, digit.isDigit = true)
    (bracketless : '[' ∉ host)
    (closed : ']' ∉ host) :
    checkBrackets tables (host ++ portText digits) = true := by
  have opens : '[' ∉ host ++ portText digits := by
    simp [bracketless, portText_free numeric]
  have closes : ']' ∉ host ++ portText digits := by
    simp [closed, portText_free numeric]
  simp [checkBrackets, opens, closes]

/-- Outside brackets, an opening bracket fails the check. -/
theorem checkBrackets_unclosed
    (numeric : ∀ digit ∈ digits, digit.isDigit = true)
    (opened : '[' ∈ host)
    (closed : ']' ∉ host) :
    checkBrackets tables (host ++ portText digits) = false := by
  have opens : '[' ∈ host ++ portText digits :=
    List.mem_append_left _ opened
  have closes : ']' ∉ host ++ portText digits := by
    simp [closed, portText_free numeric]
  simp [checkBrackets, opens, closes]

/-- A host in brackets stands between them. -/
theorem hostinfo_bracketed
    (numeric : ∀ digit ∈ digits, digit.isDigit = true)
    (userless : '@' ∉ host)
    (closed : ']' ∉ host) :
    hostinfo ('[' :: (host ++ ']' :: portText digits)) = (host, digits) := by
  have noUser : '@' ∉ '[' :: (host ++ ']' :: portText digits) := by
    simp [userless, portText_free numeric]
  have opens :
      partition '[' ('[' :: (host ++ ']' :: portText digits)) =
        { before := [], found := true, after := host ++ ']' :: portText digits } :=
    partition_append List.not_mem_nil
  simp only [hostinfo, rpartition_of_notMem noUser, opens, ↓reduceIte,
    partition_append closed]
  exact congrArg (Prod.mk host)
    (@partition_host_portText [] digits List.not_mem_nil).2

theorem checkBrackets_bracketed
    (numeric : ∀ digit ∈ digits, digit.isDigit = true)
    (userless : '@' ∉ host)
    (closed : ']' ∉ host)
    (valid : isBracketedHost tables host = true) :
    checkBrackets tables ('[' :: (host ++ ']' :: portText digits)) = true := by
  have noUser : '@' ∉ '[' :: (host ++ ']' :: portText digits) := by
    simp [userless, portText_free numeric]
  have opens :
      partition '[' ('[' :: (host ++ ']' :: portText digits)) =
        { before := [], found := true, after := host ++ ']' :: portText digits } :=
    partition_append List.not_mem_nil
  have follows :
      ((portText digits).isEmpty ||
          (portText digits).head? == some ':') =
        true := by
    unfold portText
    split
    · rfl
    · rfl
  simp [checkBrackets, isBracketedNetloc, rpartition_of_notMem noUser, opens,
    partition_append closed, valid, follows]

end Printing

end UrlSplit

end EpokAuth
