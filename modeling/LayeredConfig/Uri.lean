import LayeredConfig.Fault
import LayeredConfig.Text.Utf8
import LayeredConfig.Text.Character

set_option autoImplicit false

/-!
# Addresses

Addresses with a scheme, and the parameters in their queries. An address in brackets has to be one
of IPv6, and no character of the authority may look like a delimiter.

## Main definitions

* `Uri` — the parts of an address.
* `Uri.ofText`, `Uri.text` — their written form.
* `Uri.parameter?` — a parameter of the query.
-/

namespace LayeredConfig

/-- The parts of an address. -/
structure Uri where
  /-- The scheme, in lower case. -/
  scheme : String
  /-- The authority: what names the server. -/
  authority : String
  /-- The path. -/
  path : String
  /-- The query, without its question mark. -/
  query : String
  /-- The fragment, without its number sign. -/
  fragment : String
deriving DecidableEq, Repr

namespace Uri

/-! ## Hosts in brackets -/

/-- Whether a character is a hexadecimal digit. -/
def isHexDigit (c : Char) : Bool :=
  (Text.hexValue? c).isSome

/-- Whether a text is an octet in decimal, without zeros in front. -/
def isOctet (cs : List Char) : Bool :=
  !cs.isEmpty && cs.all Text.isAsciiDigit && cs.length ≤ 3 && Text.ofDigits cs ≤ 255
    && (cs.length = 1 || cs.head? ≠ some '0')

/-- Whether a text is an address of IPv4. -/
def isIpv4 (cs : List Char) : Bool :=
  let parts := Text.splitOn '.' cs
  parts.length = 4 && parts.all isOctet

/-- Whether a text is a group of an address of IPv6. -/
def isGroup (cs : List Char) : Bool :=
  !cs.isEmpty && cs.length ≤ 4 && cs.all isHexDigit

/-- Whether groups are those of an address of IPv6. One empty group may stand for as many zeros as
are missing; at an end it is written twice. -/
def areGroups (groups : List (List Char)) : Bool :=
  let inner := (groups.drop 1).dropLast
  match inner.count [] with
  | 0 => groups.length = 8 && groups.all isGroup
  | 1 =>
    let before := groups.take (1 + (inner.takeWhile (· ≠ [])).length)
    let after := groups.drop (before.length + 1)
    let before := if before = [[]] then [] else before
    let after := if after = [[]] then [] else after
    before.length + after.length < 8 && before.all isGroup && after.all isGroup
  | _ => false

/-- Whether a text is an address of IPv6, with an optional zone behind a percent sign. The last two
groups may be written as an address of IPv4. -/
def isIpv6 (cs : List Char) : Bool :=
  let (address, zone) := Text.cut '%' cs
  let groups := Text.splitOn ':' address
  let last := groups.getLast?.getD []
  (!cs.contains '%' || (!zone.isEmpty && !zone.contains '%')) && 3 ≤ groups.length
    && (if last.contains '.' then
          isIpv4 last && areGroups (groups.dropLast ++ [['0'], ['0']])
        else areGroups groups)

/-- Whether a text is an address of a future version of IP. -/
def isFutureIp (cs : List Char) : Bool :=
  let (version, rest) := Text.cut '.' (cs.drop 1)
  !version.isEmpty && version.all isHexDigit && !rest.isEmpty

/-- What is wrong with a host in brackets, if anything. -/
def hostFault (cs : List Char) : Option String :=
  if cs.head? = some 'v' then
    if isFutureIp cs then none else some "IPvFuture address is invalid"
  else if isIpv4 cs then some "An IPv4 address cannot be in brackets"
  else if isIpv6 cs then none
  else
    some (Text.quoted (String.ofList cs) ++ " does not appear to be an IPv4 or IPv6 address")

/-- Characters that look like one of the delimiters of an address, or are written with one. -/
def lookalikes : List Char :=
  ['\u2047', '\u2048', '\u2049', '\u2100', '\u2101', '\u2105', '\u2106', '\u2a74', '\ufe13',
    '\ufe16', '\ufe55', '\ufe56', '\ufe5f', '\ufe6b', '\uff03', '\uff0f', '\uff1a', '\uff1f',
    '\uff20']

/-- What is wrong with an authority, if anything. -/
def authorityFault (cs : List Char) : Option String :=
  let opened := cs.contains '['
  let closed := cs.contains ']'
  if opened != closed then some "Invalid IPv6 URL"
  else
    (if opened then hostFault (Text.cut ']' (Text.cut '[' cs).2).1 else none) <|>
      (if cs.any lookalikes.contains then
        some ("netloc '" ++ String.ofList cs ++
          "' contains invalid characters under NFKC normalization")
      else none)

/-! ## Parts -/

/-- Whether a character may stand in a scheme. -/
def isSchemeChar (c : Char) : Bool :=
  c.isAlphanum || c = '+' || c = '-' || c = '.'

/-- Splits off the scheme, if there is one. -/
def cutScheme (cs : List Char) : List Char × List Char :=
  let (scheme, rest) := Text.cut ':' cs
  if cs.contains ':' && (scheme.head?.map Char.isAlpha).getD false && scheme.all isSchemeChar then
    (scheme.map Char.toLower, rest)
  else ([], cs)

/-- Whether a character ends the authority. -/
def endsAuthority (c : Char) : Bool :=
  c = '/' || c = '?' || c = '#'

/-- The parts of the address that a text writes. Tabs and ends of lines do not count. -/
def ofText (s : String) : Except Fault Uri :=
  let cs := (s.toList.dropWhile (·.toNat ≤ 0x20)).filter fun c => c ≠ '\t' && c ≠ '\n' && c ≠ '\r'
  let (scheme, rest) := cutScheme cs
  let (authority, rest) := match rest with
    | '/' :: '/' :: rest =>
      (rest.takeWhile (!endsAuthority ·), rest.dropWhile (!endsAuthority ·))
    | _ => ([], rest)
  match authorityFault authority with
  | some diagnostic => .error (.invalid diagnostic)
  | none =>
    let (rest, fragment) := Text.cut '#' rest
    let (path, query) := Text.cut '?' rest
    .ok ⟨String.ofList scheme, String.ofList authority, String.ofList path, String.ofList query,
      String.ofList fragment⟩

/-- The text of an address. Slashes stand before the authority, if there is one. -/
def text (u : Uri) : String :=
  let path :=
    if u.authority.isEmpty ∧ ¬ "//".isPrefixOf u.path then u.path
    else
      let slash := if u.path.isEmpty ∨ "/".isPrefixOf u.path then "" else "/"
      "//" ++ u.authority ++ slash ++ u.path
  (if u.scheme.isEmpty then "" else u.scheme ++ ":") ++ path ++
    (if u.query.isEmpty then "" else "?" ++ u.query) ++
    (if u.fragment.isEmpty then "" else "#" ++ u.fragment)

/-! ## Parameters -/

/-- The characters that octets encode, with a substitute for octets that are not UTF-8. The first
argument bounds the number of faults. -/
def decodeLossy : (fuel : Nat) → List Nat → List Char
  | 0, _ => []
  | fuel + 1, octets =>
    match Text.decodeUtf8 octets with
    | .ok cs => cs
    | .error e =>
      let good := match Text.decodeUtf8 (octets.take e.position) with
        | .ok cs => cs
        | .error _ => []
      good ++ '\ufffd' :: decodeLossy fuel (octets.drop (e.position + e.count))

/-- The octets of a text in ASCII, escapes resolved. -/
def octetsOf : List Char → List Nat
  | '%' :: a :: b :: cs =>
    match Text.hexValue? a, Text.hexValue? b with
    | some high, some low => (16 * high + low) :: octetsOf cs
    | _, _ => '%'.toNat :: octetsOf (a :: b :: cs)
  | c :: cs => c.toNat :: octetsOf cs
  | [] => []
termination_by cs => cs.length

/-- A text with its escapes resolved: they write octets in UTF-8. Characters beyond ASCII separate
the octets around them. The first argument bounds the number of such characters. -/
def unescape : (fuel : Nat) → List Char → List Char
  | 0, cs => cs
  | fuel + 1, cs =>
    let ascii := cs.takeWhile fun c => c.toNat < 0x80
    let octets := octetsOf ascii
    decodeLossy (octets.length + 1) octets ++
      match cs.drop ascii.length with
      | [] => []
      | c :: rest => c :: unescape fuel rest

/-- A name or a value in a query: a plus sign stands for a blank. -/
def unquote (cs : List Char) : String :=
  String.ofList (unescape (cs.length + 1) (cs.map fun c => if c = '+' then ' ' else c))

/-- The parameters of the query, in order. Those without a value do not count. -/
def parameters (u : Uri) : List (String × String) :=
  (Text.splitOn '&' u.query.toList).filterMap fun part =>
    let (name, value) := Text.cut '=' part
    if value.isEmpty then none else some (unquote name, unquote value)

/-- The first parameter with a name. -/
def parameter? (u : Uri) (name : String) : Option String :=
  u.parameters.lookup name

end Uri

end LayeredConfig
