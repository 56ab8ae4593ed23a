import EpokAuth.Capabilities
import EpokAuth.UrlSplit

namespace EpokAuth

open UrlSplit

/-!
# The form of an origin

An origin denotes a site: a scheme, a host and a port.  Its canonical form is
the site as it is printed, so two origins have the same canonical form exactly
when they denote the same site.  What is printed denotes the site again, unless
the host ends with a blank that nothing follows, or has an opening bracket and
is printed without brackets.
-/

/--
The text functions of the standard library: its URL splitter, and case folding
that works character by character.  Folding undoes lowering and is done once;
it makes ASCII letters of other characters, but no other ASCII characters, and
neither hides a delimiter nor spoils an address.
-/
structure StandardUrls (text : TextLibrary) extends CaseFolding text where
  tables : UrlTables
  urlsplit_eq : ∀ url, text.urlsplit url = urlsplit tables url
  casefold_lower : ∀ value,
    text.casefold (tables.lower value) = text.casefold value
  fold_fold : ∀ character,
    (fold character).flatMap fold = fold character
  isAlpha_of_mem_fold : ∀ character, 128 ≤ character.toNat →
    ∀ folded ∈ fold character, folded.toNat < 128 → folded.isAlpha = true
  hidesDelimiter_fold : ∀ character, tables.hidesDelimiter character = false →
    ∀ folded ∈ fold character, tables.hidesDelimiter folded = false
  colon_mem_address : ∀ host, tables.isIpv6Address host = true →
    ':' ∈ host.toList
  head_address : ∀ host, tables.isIpv6Address host = true →
    host.toList.head? ≠ some 'v'
  address_casefold : ∀ host, tables.isIpv6Address host = true →
    tables.isIpv6Address (text.casefold host) = true

/-- A scheme, a host and a port. -/
structure Site where
  scheme : String
  host : String
  port : Nat
  deriving Repr, DecidableEq

/-- The port of a scheme when none is given. -/
def defaultPort (scheme : String) : Nat :=
  if scheme = "https" then 443 else 80

/-- A host as it stands in an origin. -/
def authority (host : String) : String :=
  if host.toList.contains ':' then "[" ++ host ++ "]" else host

/-- A site as an origin. -/
def Site.print (site : Site) : String :=
  if site.port = defaultPort site.scheme then
    site.scheme ++ "://" ++ authority site.host
  else
    site.scheme ++ "://" ++ authority site.host ++ ":" ++ toString site.port

/-- The URL that is read where an origin is given. -/
def stripOrigin (origin : String) : String :=
  rstripChar '/' (strip origin)

/-- A URL denotes a site, and nothing more. -/
structure ReadsSite (text : TextLibrary) (parsed : SplitUrl) (site : Site) :
    Prop where
  known : site.scheme = "http" ∨ site.scheme = "https"
  scheme : text.casefold parsed.scheme = site.scheme
  host : text.casefold (parsed.hostname.getD "") = site.host
  named : site.host ≠ ""
  port :
    ∃ port, parsed.port = some port ∧
      site.port = port.getD (defaultPort site.scheme)
  userless : parsed.username = none
  passwordless : parsed.password = none
  path : parsed.path = "" ∨ parsed.path = "/"
  query : parsed.query = ""
  fragment : parsed.fragment = ""

/-- An origin denotes a site. -/
def Denotes (text : TextLibrary) (origin : String) (site : Site) : Prop :=
  ∃ parsed,
    text.urlsplit (stripOrigin origin) = some parsed ∧
      ReadsSite text parsed site

section Forms

variable
  {text : TextLibrary}
  {origin other : String}
  {parsed : SplitUrl}
  {site : Site}

/-! ## Canonical forms are printed sites -/

/-- The canonical form of an origin that denotes a site is the site. -/
theorem Denotes.canonicalOrigin_eq
    (denotes : Denotes text origin site) :
    canonicalOrigin text origin = site.print := by
  obtain ⟨parsed, splits, reads⟩ := denotes
  obtain ⟨port, isPort, portIs⟩ := reads.port
  have known : ["http", "https"].contains site.scheme = true := by
    rcases reads.known with isHttp | isHttps
    · rw [isHttp]; decide
    · rw [isHttps]; decide
  have path : ["", "/"].contains parsed.path = true := by
    rcases reads.path with isEmpty | isSlash
    · rw [isEmpty]; decide
    · rw [isSlash]; decide
  have isDefault :
      ((site.scheme == "https" && (port == none || port == some 443)) ||
          (site.scheme == "http" && (port == none || port == some 80))) =
        decide (site.port = defaultPort site.scheme) := by
    rw [portIs]
    rcases reads.known with isHttp | isHttps
    · rw [isHttp]
      cases port with
      | none => rfl
      | some number => simp [defaultPort, beq_eq_decide]
    · rw [isHttps]
      cases port with
      | none => rfl
      | some number => simp [defaultPort, beq_eq_decide]
  change text.urlsplit (rstripChar '/' (strip origin)) = some parsed at splits
  unfold canonicalOrigin
  rw [splits]
  simp only [isPort, reads.scheme, reads.host, known, reads.named,
    reads.userless, reads.passwordless, path, reads.query, reads.fragment,
    Option.isSome_none, Bool.true_eq_false, Bool.false_eq_true, ne_eq,
    not_true_eq_false, or_self, ↓reduceIte, isDefault, decide_eq_true_eq]
  rw [Site.print]
  split
  · rfl
  · rename_i explicit
    cases port with
    | none => exact absurd portIs explicit
    | some number =>
        rw [portIs]
        rfl

/-- An origin with a canonical form denotes a site. -/
theorem denotes_of_canonicalOrigin
    (canonical : canonicalOrigin text origin ≠ "") :
    ∃ site, Denotes text origin site := by
  unfold canonicalOrigin at canonical
  cases splits : text.urlsplit (rstripChar '/' (strip origin)) with
  | none =>
      rw [splits] at canonical
      exact absurd rfl canonical
  | some parsed =>
      rw [splits] at canonical
      cases isPort : parsed.port with
      | none =>
          simp only [isPort] at canonical
          exact absurd rfl canonical
      | some port =>
          simp only [isPort] at canonical
          split at canonical
          · exact absurd rfl canonical
          · rename_i accepted
            simp only [not_or, Bool.not_eq_false, Bool.not_eq_true, ne_eq,
              not_not, Option.isSome_eq_false_iff,
              Option.isNone_iff_eq_none] at accepted
            obtain ⟨known, named, userless, passwordless, path, query,
              fragment⟩ := accepted
            refine ⟨
              { scheme := text.casefold parsed.scheme
                host := text.casefold (parsed.hostname.getD "")
                port :=
                  port.getD (defaultPort (text.casefold parsed.scheme)) },
              parsed, splits, ?_⟩
            exact
              { known := by simpa using List.contains_iff_mem.mp known
                scheme := rfl
                host := rfl
                named := named
                port := ⟨port, isPort, rfl⟩
                userless := userless
                passwordless := passwordless
                path := by simpa using List.contains_iff_mem.mp path
                query := query
                fragment := fragment }

end Forms

/-! ## Folded hosts -/

/-- The codes of ASCII letters. -/
theorem isAlpha_iff
    {character : Char} :
    character.isAlpha = true ↔
      (65 ≤ character.toNat ∧ character.toNat ≤ 90) ∨
        (97 ≤ character.toNat ∧ character.toNat ≤ 122) := by
  change
    (decide (character.val ≥ 'A'.val ∧ character.val ≤ 'Z'.val) ||
        (decide (character.val ≥ 'a'.val) &&
          decide (character.val ≤ 'z'.val))) = true ↔ _
  simp only [Bool.or_eq_true, Bool.and_eq_true, decide_eq_true_eq, ge_iff_le,
    UInt32.le_iff_toNat_le]
  rfl

/-- The codes of hexadecimal digits. -/
theorem isHexDigit_iff
    {character : Char} :
    isHexDigit character = true ↔
      (48 ≤ character.toNat ∧ character.toNat ≤ 57) ∨
        (97 ≤ character.toNat ∧ character.toNat ≤ 102) ∨
        (65 ≤ character.toNat ∧ character.toNat ≤ 70) := by
  change
    (((decide (character.val ≥ '0'.val) && decide (character.val ≤ '9'.val)) ||
        (decide ('a' ≤ character) && decide (character ≤ 'f'))) ||
        (decide ('A' ≤ character) && decide (character ≤ 'F'))) = true ↔ _
  simp only [Bool.or_eq_true, Bool.and_eq_true, decide_eq_true_eq, ge_iff_le,
    Char.le_def, UInt32.le_iff_toNat_le, or_assoc]
  rfl

/-- An ASCII character that is no letter has no lower case. -/
theorem toLower_eq_self_of_mark
    {character : Char}
    (mark : character.isAlpha = false) :
    character.toLower = character := by
  refine toLower_eq_self ?_
  by_contra capital
  rw [← Bool.not_eq_true, isAlpha_iff] at mark
  omega

namespace StandardUrls

variable
  {text : TextLibrary}
  (urls : StandardUrls text)
  {value first second : String}
  {list : List Char}
  {character folded : Char}

theorem toList_casefold (value : String) :
    (text.casefold value).toList = value.toList.flatMap urls.fold := by
  rw [urls.casefold_eq, String.toList_ofList]

include urls in
theorem casefold_append (first second : String) :
    text.casefold (first ++ second) =
      text.casefold first ++ text.casefold second := by
  rw [urls.casefold_eq, urls.casefold_eq, urls.casefold_eq,
    String.toList_append, List.flatMap_append, String.ofList_append]

include urls in
/-- Folding is done once. -/
theorem casefold_casefold (value : String) :
    text.casefold (text.casefold value) = text.casefold value := by
  rw [urls.casefold_eq (text.casefold value), urls.toList_casefold,
    List.flatMap_assoc, urls.casefold_eq]
  simp only [urls.fold_fold]

include urls in
/-- An ASCII character that is no letter only stems from itself. -/
theorem eq_of_mem_fold
    (member : folded ∈ urls.fold character)
    (ascii : folded.toNat < 128)
    (mark : folded.isAlpha = false) :
    folded = character := by
  by_cases small : character.toNat < 128
  · rw [urls.fold_ascii character small, List.mem_singleton] at member
    by_cases capital : character.toNat < 65 ∨ 90 < character.toNat
    · rw [member, toLower_eq_self capital]
    · have code : character.toLower.toNat = character.toNat + 32 :=
        toNat_toLower (by omega) (by omega)
      rw [member, ← Bool.not_eq_true, isAlpha_iff] at mark
      omega
  · have letter :=
      urls.isAlpha_of_mem_fold character (Nat.not_lt.mp small) folded member
        ascii
    rw [letter] at mark
    cases mark

/-- Folding neither adds nor removes ASCII characters that are no letters. -/
theorem mem_flatMap_fold_iff
    (ascii : folded.toNat < 128)
    (mark : folded.isAlpha = false) :
    folded ∈ list.flatMap urls.fold ↔ folded ∈ list := by
  rw [List.mem_flatMap]
  constructor
  · rintro ⟨character, member, isFolded⟩
    rw [urls.eq_of_mem_fold isFolded ascii mark]
    exact member
  · intro member
    refine ⟨folded, member, ?_⟩
    rw [urls.fold_ascii folded ascii, toLower_eq_self_of_mark mark]
    exact List.mem_singleton_self _

/-- Folding a text free of some marks leaves it free of them. -/
theorem fold_free
    {marked : Char → Bool}
    (marks :
      ∀ character, marked character = true →
        character.toNat < 128 ∧ character.isAlpha = false)
    (free : ∀ character ∈ list, marked character = false) :
    ∀ character ∈ list.flatMap urls.fold, marked character = false := by
  intro character member
  rw [← Bool.not_eq_true]
  intro isMarked
  have mark := marks character isMarked
  rw [free character ((urls.mem_flatMap_fold_iff mark.1 mark.2).mp member)]
    at isMarked
  cases isMarked

/-- A folded text has no delimiter and no character to be removed either. -/
theorem plainText_fold
    (plain : PlainText list) :
    PlainText (list.flatMap urls.fold) := by
  have delimiters :
      ∀ character, endsNetloc character = true →
        character.toNat < 128 ∧ character.isAlpha = false := by
    intro character ends
    have isMark : character = '/' ∨ character = '?' ∨ character = '#' := by
      simpa [endsNetloc, or_assoc] using ends
    rcases isMark with rfl | rfl | rfl <;> decide
  have removed :
      ∀ character, isUnsafe character = true →
        character.toNat < 128 ∧ character.isAlpha = false := by
    intro character unsafe_
    have isMark :
        character = '\t' ∨ character = '\r' ∨ character = '\n' := by
      simpa [isUnsafe, or_assoc] using unsafe_
    rcases isMark with rfl | rfl | rfl <;> decide
  intro character member
  exact
    ⟨urls.fold_free delimiters (fun other inList => (plain other inList).1)
        character member,
      urls.fold_free removed (fun other inList => (plain other inList).2)
        character member⟩

/-- Folding hides no delimiter. -/
theorem checkNetloc_fold
    (checked : checkNetloc urls.tables list = true) :
    checkNetloc urls.tables (list.flatMap urls.fold) = true := by
  rw [checkNetloc, List.all_eq_true] at checked ⊢
  intro folded member
  obtain ⟨character, inList, isFolded⟩ := List.mem_flatMap.mp member
  have passes := checked character inList
  rw [Bool.or_eq_true, decide_eq_true_eq, Bool.not_eq_true'] at passes ⊢
  by_cases ascii : character.toNat < 128
  · refine .inl ?_
    rw [urls.fold_ascii character ascii, List.mem_singleton] at isFolded
    by_cases capital : character.toNat < 65 ∨ 90 < character.toNat
    · rw [isFolded, toLower_eq_self capital]
      exact ascii
    · have code : character.toLower.toNat = character.toNat + 32 :=
        toNat_toLower (by omega) (by omega)
      rw [isFolded]
      omega
  · exact .inr
      (urls.hidesDelimiter_fold character (passes.resolve_left ascii) folded
        isFolded)

/-- A hexadecimal digit is folded to one. -/
theorem isHexDigit_fold
    (digit : isHexDigit character = true)
    (member : folded ∈ urls.fold character) :
    isHexDigit folded = true := by
  rw [isHexDigit_iff] at digit ⊢
  rw [urls.fold_ascii character (by omega), List.mem_singleton] at member
  by_cases capital : character.toNat < 65 ∨ 90 < character.toNat
  · rw [member, toLower_eq_self capital]
    exact digit
  · have code : character.toLower.toNat = character.toNat + 32 :=
      toNat_toLower (by omega) (by omega)
    rw [member, code]
    omega

/-- A text is not folded to nothing. -/
theorem flatMap_fold_ne_nil
    (inhabited : list ≠ []) :
    list.flatMap urls.fold ≠ [] := by
  cases list with
  | nil => exact absurd rfl inhabited
  | cons head tail =>
      rw [List.flatMap_cons]
      exact List.append_ne_nil_of_left_ne_nil (urls.fold_inhabited head) _

/-- What may stand in brackets may also stand there when it is folded. -/
theorem isBracketedHost_fold
    (valid : isBracketedHost urls.tables list = true) :
    isBracketedHost urls.tables (list.flatMap urls.fold) = true := by
  rw [isBracketedHost.eq_def] at valid
  split at valid
  · rename_i rest
    have version : urls.fold 'v' = ['v'] := urls.fold_ascii 'v' (by decide)
    rw [List.flatMap_cons, version, List.singleton_append]
    change isFutureAddress (rest.flatMap urls.fold) = true
    rw [isFutureAddress_iff] at valid ⊢
    obtain ⟨version, text, rfl, versioned, hexadecimal, follows, oneLine⟩ :=
      valid
    have dot : urls.fold '.' = ['.'] := urls.fold_ascii '.' (by decide)
    refine ⟨version.flatMap urls.fold, text.flatMap urls.fold, ?_, ?_, ?_, ?_,
      ?_⟩
    · rw [List.flatMap_append, List.flatMap_cons, dot, List.singleton_append]
    · exact urls.flatMap_fold_ne_nil versioned
    · intro digit member
      obtain ⟨character, inVersion, isFolded⟩ := List.mem_flatMap.mp member
      exact urls.isHexDigit_fold (hexadecimal character inVersion) isFolded
    · exact urls.flatMap_fold_ne_nil follows
    · rw [urls.mem_flatMap_fold_iff (by decide) (by decide)]
      exact oneLine
  · rename_i notVersion
    have address : urls.tables.isIpv6Address
        (String.ofList (list.flatMap urls.fold)) = true := by
      have folded := urls.address_casefold _ valid
      rw [urls.casefold_eq, String.toList_ofList] at folded
      exact folded
    have head := urls.head_address _ address
    rw [String.toList_ofList] at head
    rw [isBracketedHost.eq_def]
    split
    · rename_i rest isRest
      rw [isRest] at head
      exact absurd rfl head
    · exact address

/-- A written host that is folded is a written host. -/
theorem writtenHost_fold
    (written : WrittenHost urls.tables list) :
    WrittenHost urls.tables (list.flatMap urls.fold) where
  plain := urls.plainText_fold written.plain
  checked := urls.checkNetloc_fold written.checked
  userless := by
    rw [urls.mem_flatMap_fold_iff (by decide) (by decide)]
    exact written.userless
  closed := by
    rw [urls.mem_flatMap_fold_iff (by decide) (by decide)]
    exact written.closed
  form := by
    rw [urls.mem_flatMap_fold_iff (by decide) (by decide),
      urls.mem_flatMap_fold_iff (by decide) (by decide)]
    exact written.form.imp_right urls.isBracketedHost_fold

end StandardUrls

/-! ## Printed sites -/

/-- The digits of a port, unless the port is understood. -/
def Site.digits (site : Site) : List Char :=
  if site.port = defaultPort site.scheme then []
  else Nat.toDigits 10 site.port

/-- A site without its scheme. -/
def Site.netloc (site : Site) : List Char :=
  if ':' ∈ site.host.toList then
    '[' :: (site.host.toList ++ ']' :: portText site.digits)
  else
    site.host.toList ++ portText site.digits

/-- What an origin that is split by the standard library may denote. -/
structure Site.Valid (tables : UrlTables) (site : Site) : Prop where
  known : site.scheme = "http" ∨ site.scheme = "https"
  named : site.host ≠ ""
  written : WrittenHost tables site.host.toList
  bounded : site.port ≤ 65535

namespace Site

variable
  {tables : UrlTables}
  {site other : Site}

theorem isDigit_of_mem_digits :
    ∀ digit ∈ site.digits, digit.isDigit = true := by
  intro digit member
  unfold digits at member
  split at member
  · cases member
  · exact Nat.isDigit_of_mem_toDigits (by decide) (by decide) member

theorem toDigits_ne_nil (number : Nat) : Nat.toDigits 10 number ≠ [] := by
  intro empty
  have inverse := @Nat.ofDigitChars_ten_toDigits number
  rw [empty, Nat.ofDigitChars_nil] at inverse
  rw [← inverse] at empty
  cases empty

/-- A port that is written is read again. -/
theorem digits_eq_nil_iff :
    site.digits = [] ↔ site.port = defaultPort site.scheme := by
  unfold digits
  split
  · rename_i understood
    exact iff_of_true rfl understood
  · rename_i explicit
    exact iff_of_false (toDigits_ne_nil _) explicit

/-- The text of the port is that of its number. -/
theorem portText_digits :
    portText site.digits =
      if site.port = defaultPort site.scheme then []
      else ':' :: (toString site.port).toList := by
  unfold portText digits
  split
  · rfl
  · rename_i explicit
    rw [if_neg (by simp), Nat.toString_eq_repr,
      Nat.toList_repr]

theorem toList_authority (host : String) :
    (authority host).toList =
      if ':' ∈ host.toList then '[' :: (host.toList ++ [']'])
      else host.toList := by
  by_cases colon : ':' ∈ host.toList
  · simp [authority, colon]
  · simp [authority, colon]

theorem print_eq :
    site.print = site.scheme ++ "://" ++ String.ofList site.netloc := by
  refine String.toList_inj.mp ?_
  unfold print netloc
  rw [portText_digits]
  by_cases understood : site.port = defaultPort site.scheme
  · by_cases colon : ':' ∈ site.host.toList
    · simp [understood, colon, toList_authority]
    · simp [understood, colon, toList_authority]
  · by_cases colon : ':' ∈ site.host.toList
    · simp [understood, colon, toList_authority]
    · simp [understood, colon, toList_authority]

/-- The digits of a port and its scheme tell the port. -/
theorem port_eq :
    site.port =
      if site.digits = [] then defaultPort site.scheme
      else Nat.ofDigitChars 10 site.digits 0 := by
  by_cases understood : site.port = defaultPort site.scheme
  · rw [if_pos (digits_eq_nil_iff.mpr understood)]
    exact understood
  · rw [if_neg fun empty => understood (digits_eq_nil_iff.mp empty), digits,
      if_neg understood, Nat.ofDigitChars_ten_toDigits]

/-- A location tells its host and the digits of its port. -/
theorem netloc_injective
    (valid : site.Valid tables)
    (otherValid : other.Valid tables)
    (same : site.netloc = other.netloc) :
    site.host = other.host ∧ site.digits = other.digits := by
  have closing :
      ∀ {site other : Site},
        other.Valid tables →
        ':' ∉ other.host.toList →
        '[' :: (site.host.toList ++ ']' :: portText site.digits) ≠
          other.host.toList ++ portText other.digits := by
    intro site other valid colonless same
    have closes :
        ']' ∈ other.host.toList ++ portText other.digits := by
      rw [← same]
      simp
    rcases List.mem_append.mp closes with inHost | inPort
    · exact valid.written.closed inHost
    · exact (portText_free isDigit_of_mem_digits).2.2 inPort
  unfold netloc at same
  split at same
  · split at same
    · have cut := congrArg (partition ']') (List.cons.inj same).2
      rw [partition_append valid.written.closed,
        partition_append otherValid.written.closed] at cut
      have hosts := congrArg Cut.before cut
      have ports : portText site.digits = portText other.digits :=
        congrArg Cut.after cut
      have digits := congrArg (fun text => (partition ':' ([] ++ text)).after)
        ports
      rw [(partition_host_portText List.not_mem_nil).2,
        (partition_host_portText List.not_mem_nil).2] at digits
      exact ⟨String.toList_inj.mp hosts, digits⟩
    · rename_i colonless
      exact absurd same (closing otherValid colonless)
  · rename_i colonless
    split at same
    · exact absurd same.symm (closing valid colonless)
    · rename_i otherColonless
      have cut := congrArg (partition ':') same
      have hosts := congrArg Cut.before cut
      have digits := congrArg Cut.after cut
      rw [(partition_host_portText colonless).1,
        (partition_host_portText otherColonless).1] at hosts
      rw [(partition_host_portText colonless).2,
        (partition_host_portText otherColonless).2] at digits
      exact ⟨String.toList_inj.mp hosts, digits⟩

/-- A printed site tells its scheme, its host and its port. -/
theorem print_injective
    (valid : site.Valid tables)
    (otherValid : other.Valid tables)
    (same : site.print = other.print) :
    site = other := by
  have colonless :
      ∀ {site : Site}, site.Valid tables → ':' ∉ site.scheme.toList := by
    intro site valid
    rcases valid.known with isHttp | isHttps
    · rw [isHttp]; decide
    · rw [isHttps]; decide
  have text :
      ∀ site : Site,
        site.print.toList =
          site.scheme.toList ++ ':' :: ('/' :: '/' :: site.netloc) := by
    intro site
    rw [print_eq]
    simp
  have cut := congrArg (fun printed => partition ':' printed.toList) same
  rw [text, text, partition_append (colonless valid),
    partition_append (colonless otherValid)] at cut
  have schemes : site.scheme = other.scheme :=
    String.toList_inj.mp (congrArg Cut.before cut)
  have locations : site.netloc = other.netloc :=
    (List.cons.inj (List.cons.inj (congrArg Cut.after cut)).2).2
  obtain ⟨hosts, digits⟩ := netloc_injective valid otherValid locations
  have ports : site.port = other.port := by
    rw [port_eq, digits, schemes, ← port_eq]
  cases site
  cases other
  simp only at schemes hosts ports
  rw [schemes, hosts, ports]

end Site

/-! ## What is printed is read again -/

/-- A host that is read from a URL again when it is printed. -/
def Site.Readable (site : Site) : Prop :=
  ':' ∈ site.host.toList ∨ '[' ∉ site.host.toList

/-- A host whose last character is no blank, unless something follows it. -/
def Site.Trimmed (site : Site) : Prop :=
  ':' ∈ site.host.toList ∨
    site.port ≠ defaultPort site.scheme ∨
    ∀ last, site.host.toList.getLast? = some last → isSpace last = false

section Reading

variable
  {text : TextLibrary}
  (urls : StandardUrls text)
  {origin other : String}
  {site : Site}

/-- The host of a location, once folded, is the host as written, folded. -/
theorem StandardUrls.casefold_hostname (netloc : List Char) :
    text.casefold ((hostname urls.tables netloc).getD "") =
      String.ofList ((hostinfo netloc).1.flatMap urls.fold) := by
  unfold hostname
  dsimp only
  split
  · rename_i empty
    rw [List.isEmpty_iff.mp empty, Option.getD_none, urls.casefold_eq]
    rfl
  · rw [Option.getD_some, urls.casefold_append, urls.casefold_lower,
      ← urls.casefold_append, ← String.ofList_append, urls.casefold_eq,
      String.toList_ofList]
    refine congrArg
      (fun host : List Char => String.ofList (host.flatMap urls.fold)) ?_
    exact List.takeWhile_append_dropWhile

include urls in
/-- The host that an origin denotes is folded. -/
theorem Denotes.folded
    (denotes : Denotes text origin site) :
    text.casefold site.host = site.host := by
  obtain ⟨parsed, _, reads⟩ := denotes
  rw [← reads.host, urls.casefold_casefold]

/-- A port that is read from a location is in range. -/
theorem port_le
    {netloc : List Char}
    {number : Nat}
    (isPort : UrlSplit.port netloc = some (some number)) :
    number ≤ 65535 := by
  unfold UrlSplit.port at isPort
  dsimp only at isPort
  split at isPort
  · cases isPort
  · split at isPort
    · split at isPort
      · rename_i inRange
        obtain rfl := Option.some.inj (Option.some.inj isPort)
        exact inRange
      · cases isPort
    · cases isPort

/-- An origin denotes a valid site only. -/
theorem Denotes.valid
    (denotes : Denotes text origin site) :
    site.Valid urls.tables := by
  obtain ⟨parsed, splits, reads⟩ := denotes
  rw [urls.urlsplit_eq] at splits
  obtain ⟨netloc, isHost, isPort, plain, userless, brackets, checked⟩ :=
    netloc_of_urlsplit splits reads.userless
  have host :
      site.host.toList = (hostinfo netloc).1.flatMap urls.fold := by
    rw [← reads.host, isHost, urls.casefold_hostname, String.toList_ofList]
  refine
    { known := reads.known
      named := reads.named
      written := ?_
      bounded := ?_ }
  · rw [host]
    exact urls.writtenHost_fold
      (writtenHost_of_checked plain userless brackets checked)
  · obtain ⟨port, hasPort, portIs⟩ := reads.port
    rw [portIs]
    cases port with
    | none =>
        rw [Option.getD_none, defaultPort]
        split
        · decide
        · decide
    | some number => exact port_le (isPort.symm.trans hasPort)

/-- What surrounds the host in a location is plain ASCII. -/
theorem Site.mem_netloc
    {character : Char}
    (member : character ∈ site.netloc) :
    character ∈ site.host.toList ∨
      (character.toNat < 128 ∧ endsNetloc character = false ∧
        isUnsafe character = false ∧ character ≠ '@') := by
  have digitPlain :
      character.isDigit = true →
        character.toNat < 128 ∧ endsNetloc character = false ∧
          isUnsafe character = false ∧ character ≠ '@' := by
    intro digit
    have codes : isHexDigit character = true := by
      rw [isHexDigit, digit, Bool.true_or, Bool.true_or]
    have other :
        ∀ mark : Char, mark.isDigit = false → character ≠ mark := by
      rintro mark none_ rfl
      rw [digit] at none_
      cases none_
    rw [isHexDigit_iff] at codes
    refine ⟨by omega, ?_, ?_, other '@' rfl⟩
    · simp [endsNetloc, other '/' rfl, other '?' rfl, other '#' rfl]
    · simp [isUnsafe, other '\t' rfl, other '\r' rfl, other '\n' rfl]
  have inPort :
      character ∈ portText site.digits →
        character.toNat < 128 ∧ endsNetloc character = false ∧
          isUnsafe character = false ∧ character ≠ '@' := by
    intro inText
    unfold portText at inText
    split at inText
    · cases inText
    · rcases List.mem_cons.mp inText with rfl | inDigits
      · decide
      · exact digitPlain (Site.isDigit_of_mem_digits _ inDigits)
  unfold Site.netloc at member
  split at member
  · rcases List.mem_cons.mp member with rfl | member
    · exact .inr (by decide)
    · rcases List.mem_append.mp member with inHost | member
      · exact .inl inHost
      · rcases List.mem_cons.mp member with rfl | member
        · exact .inr (by decide)
        · exact .inr (inPort member)
  · rcases List.mem_append.mp member with inHost | member
    · exact .inl inHost
    · exact .inr (inPort member)

/-- The location of a valid site is plain, and names no user. -/
theorem Site.Valid.plain_netloc
    {tables : UrlTables}
    (valid : site.Valid tables) :
    PlainText site.netloc ∧ '@' ∉ site.netloc ∧
      checkNetloc tables site.netloc = true := by
  refine ⟨?_, ?_, ?_⟩
  · intro character member
    rcases Site.mem_netloc member with inHost | ⟨_, inside, safe, _⟩
    · exact valid.written.plain character inHost
    · exact ⟨inside, safe⟩
  · intro member
    rcases Site.mem_netloc member with inHost | ⟨_, _, _, other⟩
    · exact valid.written.userless inHost
    · exact other rfl
  · refine List.all_eq_true.mpr fun character member => ?_
    rcases Site.mem_netloc member with inHost | ⟨ascii, _⟩
    · exact List.all_eq_true.mp valid.written.checked character inHost
    · simp [ascii]

/-- The port of a valid site has few digits. -/
theorem Site.Valid.length_digits_le
    {tables : UrlTables}
    (valid : site.Valid tables) :
    site.digits.length ≤ maxIntDigits := by
  unfold digits
  split
  · exact Nat.zero_le _
  · have few : (Nat.toDigits 10 site.port).length ≤ 5 := by
      rw [Nat.length_toDigits_le_iff (by decide) (by decide)]
      exact Nat.lt_of_le_of_lt valid.bounded (by decide)
    exact few.trans (by decide)

/-- The port of a valid site is read from its digits. -/
theorem Site.Valid.read_port
    {tables : UrlTables}
    (valid : site.Valid tables)
    (info : hostinfo site.netloc = (site.host.toList, site.digits)) :
    ∃ port, UrlSplit.port site.netloc = some port ∧
      site.port = port.getD (defaultPort site.scheme) := by
  unfold UrlSplit.port
  rw [info]
  have isPort := @Site.port_eq site
  by_cases understood : site.digits = []
  · rw [if_pos understood] at isPort
    exact ⟨none, by rw [understood]; rfl, isPort⟩
  · rw [if_neg understood] at isPort
    have numeric : site.digits.all Char.isDigit = true :=
      List.all_eq_true.mpr Site.isDigit_of_mem_digits
    refine ⟨some site.port, ?_, rfl⟩
    simp [understood, numeric, valid.length_digits_le, valid.bounded, ← isPort]

/-- The location of a readable site is read as its host and its port. -/
theorem Site.Valid.read_netloc
    {tables : UrlTables}
    (valid : site.Valid tables)
    (readable : site.Readable) :
    checkBrackets tables site.netloc = true ∧
      hostinfo site.netloc = (site.host.toList, site.digits) := by
  have written := valid.written
  have numeric := @Site.isDigit_of_mem_digits site
  unfold Site.netloc
  by_cases colon : ':' ∈ site.host.toList
  · rw [if_pos colon]
    have bracketed :
        isBracketedHost tables site.host.toList = true :=
      written.form.resolve_left fun plain => plain.1 colon
    exact ⟨checkBrackets_bracketed numeric written.userless written.closed
        bracketed,
      hostinfo_bracketed numeric written.userless written.closed⟩
  · rw [if_neg colon]
    have bracketless := readable.resolve_left colon
    exact ⟨checkBrackets_plain numeric bracketless written.closed,
      hostinfo_plain numeric written.userless colon bracketless⟩

/-- A printed site that is readable denotes itself when it is read. -/
theorem StandardUrls.reads_print
    (valid : site.Valid urls.tables)
    (folded : text.casefold site.host = site.host)
    (readable : site.Readable) :
    ∃ parsed,
      text.urlsplit site.print = some parsed ∧ ReadsSite text parsed site := by
  obtain ⟨plain, userless, checked⟩ := valid.plain_netloc
  obtain ⟨brackets, info⟩ := valid.read_netloc readable
  have splits := @urlsplit_print urls.tables _ _ valid.known plain userless
  rw [brackets, checked, ← Site.print_eq, ← urls.urlsplit_eq] at splits
  have host :
      text.casefold ((hostname urls.tables site.netloc).getD "") =
        site.host := by
    rw [urls.casefold_hostname, info, ← urls.toList_casefold,
      String.ofList_toList, folded]
  have scheme : text.casefold site.scheme = site.scheme := by
    rw [urls.casefold_eq]
    rcases valid.known with isHttp | isHttps
    · rw [isHttp]
      simp [urls.fold_ascii]
    · rw [isHttps]
      simp [urls.fold_ascii]
  exact ⟨_, splits,
    { known := valid.known
      scheme := scheme
      host := host
      named := valid.named
      port := valid.read_port info
      userless := rfl
      passwordless := rfl
      path := .inl rfl
      query := rfl
      fragment := rfl }⟩

/-- A printed site that is not readable is not split at all. -/
theorem StandardUrls.urlsplit_print_of_unreadable
    (valid : site.Valid urls.tables)
    (unreadable : ¬ site.Readable) :
    text.urlsplit site.print = none := by
  obtain ⟨colonless, opened⟩ := not_or.mp unreadable
  obtain ⟨plain, userless, _⟩ := valid.plain_netloc
  have unclosed : checkBrackets urls.tables site.netloc = false := by
    unfold Site.netloc
    rw [if_neg colonless]
    exact checkBrackets_unclosed Site.isDigit_of_mem_digits
      (not_not.mp opened) valid.written.closed
  have splits := @urlsplit_print urls.tables _ _ valid.known plain userless
  rw [unclosed, ← Site.print_eq, ← urls.urlsplit_eq] at splits
  exact splits

/-- The location of a trimmed site ends with neither a blank nor a slash. -/
theorem Site.Valid.last_netloc
    {tables : UrlTables}
    {last : Char}
    (valid : site.Valid tables)
    (trimmed : site.Trimmed)
    (isLast : site.netloc.getLast? = some last) :
    isSpace last = false ∧ last ≠ '/' := by
  have notSlash : last ≠ '/' := by
    rintro rfl
    have inside := (valid.plain_netloc.1 '/' (List.mem_of_getLast? isLast)).1
    cases inside
  refine ⟨?_, notSlash⟩
  have inDigits :
      ∀ character ∈ site.digits, isSpace character = false := by
    intro character member
    have digit := Site.isDigit_of_mem_digits character member
    have codes : isHexDigit character = true := by
      rw [isHexDigit, digit, Bool.true_or, Bool.true_or]
    rw [isHexDigit_iff] at codes
    exact isSpace_eq_false (by omega) (by omega)
  have inPort :
      ∀ character ∈ portText site.digits, isSpace character = false := by
    intro character member
    unfold portText at member
    split at member
    · cases member
    · rcases List.mem_cons.mp member with rfl | member
      · decide
      · exact inDigits character member
  unfold Site.netloc at isLast
  by_cases colon : ':' ∈ site.host.toList
  · rw [if_pos colon, ← List.cons_append, List.getLast?_append] at isLast
    have inTail : last ∈ ']' :: portText site.digits := by
      rw [List.getLast?_cons, Option.some_or] at isLast
      rw [← Option.some.inj isLast]
      cases ends : (portText site.digits).getLast? with
      | none => exact List.mem_cons_self
      | some other =>
          exact List.mem_cons_of_mem _ (List.mem_of_getLast? ends)
    rcases List.mem_cons.mp inTail with rfl | member
    · decide
    · exact inPort last member
  · rw [if_neg colon, List.getLast?_append] at isLast
    cases ends : (portText site.digits).getLast? with
    | some other =>
        rw [ends, Option.some_or] at isLast
        rw [← Option.some.inj isLast]
        exact inPort other (List.mem_of_getLast? ends)
    | none =>
        rw [ends, Option.none_or] at isLast
        have understood : site.port = defaultPort site.scheme := by
          rw [← Site.digits_eq_nil_iff]
          by_contra explicit
          rw [List.getLast?_eq_none_iff, portText, if_neg] at ends
          · cases ends
          · simpa using explicit
        rcases trimmed with bracketed | explicit | unblank
        · exact absurd bracketed colon
        · exact absurd understood explicit
        · exact unblank last isLast

/-- A location that holds nothing holds no host. -/
theorem Site.host_of_netloc
    (empty : site.netloc = []) :
    site.host.toList = [] := by
  unfold Site.netloc at empty
  split at empty
  · cases empty
  · exact (List.append_eq_nil_iff.mp empty).1

/-- An origin is printed so that stripping leaves it alone. -/
theorem Site.Valid.stripOrigin_print
    {tables : UrlTables}
    (valid : site.Valid tables)
    (trimmed : site.Trimmed) :
    stripOrigin site.print = site.print := by
  have text :
      site.print.toList =
        site.scheme.toList ++ ':' :: '/' :: '/' :: site.netloc := by
    rw [Site.print_eq]
    simp
  have first :
      ∀ head, site.print.toList.head? = some head → isSpace head = false := by
    intro head isHead
    rw [text] at isHead
    rcases valid.known with isHttp | isHttps
    · rw [isHttp] at isHead
      obtain rfl := Option.some.inj isHead
      decide
    · rw [isHttps] at isHead
      obtain rfl := Option.some.inj isHead
      decide
  have final :
      ∀ last, site.print.toList.getLast? = some last →
        isSpace last = false ∧ last ≠ '/' := by
    intro last isLast
    have inhabited : site.netloc ≠ [] := by
      intro empty
      exact valid.named (String.toList_inj.mp (Site.host_of_netloc empty))
    have parts :
        site.print.toList =
          (site.scheme.toList ++ [':', '/', '/']) ++ site.netloc := by
      rw [text, List.append_assoc]
      rfl
    rw [parts, List.getLast?_append_of_ne_nil _ inhabited] at isLast
    exact valid.last_netloc trimmed isLast
  have stripped : strip site.print = site.print := by
    rw [strip_eq, Trimming.trim_eq_self_of_ends first
      fun last isLast => (final last isLast).1, String.ofList_toList]
  rw [stripOrigin, stripped, rstripChar,
    Trimming.dropWhile_eq_self_of_head, List.reverse_reverse,
    String.ofList_toList]
  intro last isLast
  rw [List.head?_reverse] at isLast
  exact beq_eq_false_iff_ne.mpr (final last isLast).2

include urls in
/-- What is printed of a site that stays readable and trimmed denotes it. -/
theorem Denotes.print
    (denotes : Denotes text origin site)
    (readable : site.Readable)
    (trimmed : site.Trimmed) :
    Denotes text site.print site := by
  have valid := denotes.valid urls
  rw [Denotes, valid.stripOrigin_print trimmed]
  exact urls.reads_print valid (denotes.folded urls) readable

end Reading

end EpokAuth
