import ServiceClient.Failure
import ServiceClient.Text.Percent

/-!
# URLs

A URL split into scheme, authority, path, query and fragment, without interpreting escapes. A
URL with other characters than ASCII can be brought to a plain form. An authority is refused if
one of its characters is a variant of a mark that ends authorities or parts of them.

* `Url.parse`: the parts of a URL.
* `Url.hostName?`, `Url.port?`: the parts of the authority.
* `Url.pathOnly`: the path without the parameters of its last segment.
* `Url.normalize`: escapes what may not stand in a URL.
-/

namespace ServiceClient

/-- The parts of a URL. Parts that are missing are empty. -/
structure Url where
  scheme : String
  authority : String
  path : String
  query : String
  fragment : String
deriving DecidableEq, Repr, Inhabited

namespace Url

def isSchemeChar (c : Char) : Bool := c.isAlphanum || c = '+' || c = '-' || c = '.'

/-- Splits off a scheme in front of a colon. -/
def takeScheme (s : List Char) : List Char × List Char :=
  match splitFirst (· = ':') s with
  | (c :: rest, some after) =>
    if c.isAlpha && rest.all isSchemeChar then ((c :: rest).map Char.toLower, after) else ([], s)
  | _ => ([], s)

/-- Splits off an authority behind two slashes. -/
def takeAuthority (s : List Char) : List Char × List Char :=
  match s with
  | '/' :: '/' :: rest =>
    let stops (c : Char) : Bool := c = '/' || c = '?' || c = '#'
    (rest.takeWhile fun c => !stops c, rest.dropWhile fun c => !stops c)
  | _ => ([], s)

/-- Whether a piece of an IPv6 address is one to four hexadecimal digits. -/
def isGroup (s : List Char) : Bool :=
  !s.isEmpty && s.length ≤ 4 && s.all fun c => (hexValue? c).isSome

/-- Whether a piece is a number from 0 to 255 without leading zeros. -/
def isOctet (s : List Char) : Bool :=
  !s.isEmpty && s.length ≤ 3 && s.all Char.isDigit && Nat.ofDigitChars 10 s 0 < 256 &&
    !(s.head? = some '0' && 1 < s.length)

def isIpv4 (s : List Char) : Bool :=
  let pieces := splitAll (· = '.') s
  pieces.length = 4 && pieces.all isOctet

/-- Counts the groups of colon-separated pieces, the last of which may be an IPv4 address. -/
def countGroups (pieces : List (List Char)) : Option Nat :=
  match pieces.reverse with
  | [] => some 0
  | last :: rest =>
    if rest.all isGroup then
      if isGroup last then some (rest.length + 1)
      else if isIpv4 last then some (rest.length + 2)
      else none
    else none

/-- The parts of a text around the first `::`. -/
def splitGap : List Char → Option (List Char × List Char)
  | ':' :: ':' :: rest => some ([], rest)
  | c :: rest => (splitGap rest).map fun (before, after) => (c :: before, after)
  | [] => none

/-- Whether a text is an IPv6 address, with an optional zone. -/
def isIpv6 (s : List Char) : Bool :=
  let (address, zone) := splitFirst (· = '%') s
  let pieces (s : List Char) : List (List Char) := if s.isEmpty then [] else splitAll (· = ':') s
  let zoneOk := match zone with
    | some z => !z.isEmpty && !z.contains '%'
    | none => true
  zoneOk && match splitGap address with
    | none => countGroups (pieces address) == some 8
    | some (before, after) =>
      match countGroups (pieces before), countGroups (pieces after) with
      | some a, some b => a + b < 8 && (splitGap after).isNone && before.all (· != '.')
      | _, _ => false

/-- Whether a text is an address of a future version: a `v`, the version and a dot in front of
the rest. -/
def isFuture (s : List Char) : Bool :=
  match s with
  | 'v' :: rest =>
    let isHex (c : Char) : Bool := (hexValue? c).isSome
    match rest.dropWhile isHex with
    | '.' :: _ :: _ => !(rest.takeWhile isHex).isEmpty
    | _ => false
  | _ => false

/-- Checks an address between brackets. -/
def checkAddress (address : List Char) : Except Failure Unit :=
  if address.head? = some 'v' then
    if isFuture address then .ok () else .error (.url .futureAddress)
  else if isIpv6 address then .ok ()
  else if isIpv4 address then .error (.url .bracketedIpv4)
  else .error (.url (.address (quoteText (String.ofList address))))

/-- Checks the brackets of an authority and the address between them. -/
def checkBrackets (authority : List Char) : Except Failure Unit :=
  if authority.contains '[' != authority.contains ']' then .error (.url .bracketMismatch)
  else if authority.contains '[' then
    let inner := (splitFirst (· = '[') authority).2.getD []
    checkAddress (splitFirst (· = ']') inner).1
  else .ok ()

/-- The characters whose compatibility form (NFKC) has one of the marks `/`, `?`, `#`, `@` and
`:`, such as U+2100 for `a/c`. -/
def markVariants : List Char :=
  ['\u2047', '\u2048', '\u2049', '\u2100', '\u2101', '\u2105', '\u2106', '\u2a74', '\ufe13',
    '\ufe16', '\ufe55', '\ufe56', '\ufe5f', '\ufe6b', '\uff03', '\uff0f', '\uff1a', '\uff1f',
    '\uff20']

/-- Checks that an authority would have no more marks in its compatibility form. -/
def checkMarks (authority : List Char) : Except Failure Unit :=
  if authority.any markVariants.contains then
    .error (.url (.compatibility (String.ofList authority)))
  else .ok ()

/-- Characters that are dropped in front of a URL. -/
def isLeading (c : Char) : Bool := c.toNat ≤ 32

/-- Characters that are dropped anywhere in a URL. -/
def isDropped (c : Char) : Bool := c = '\t' || c = '\r' || c = '\n'

/-- The parts of a URL, without the blanks in front of it and the line breaks in it. It has none if
its authority has brackets that hold no address, be it one of IPv6 or of a later version, or would
have more marks in its compatibility form. -/
def parse (url : String) : Except Failure Url := do
  let s := (url.toList.dropWhile isLeading).filter fun c => !isDropped c
  let (scheme, s) := takeScheme s
  let (authority, s) := takeAuthority s
  checkBrackets authority
  let (s, fragment) := splitFirst (· = '#') s
  let (path, query) := splitFirst (· = '?') s
  checkMarks authority
  return {
    scheme := String.ofList scheme
    authority := String.ofList authority
    path := String.ofList path
    query := String.ofList (query.getD [])
    fragment := String.ofList (fragment.getD []) }

/-- The authority without user information. -/
def hostAndPort (u : Url) : List Char := (splitLast (· = '@') u.authority.toList).2

/-- The user information of the authority, if there is any. -/
def userInfo? (u : Url) : Option (List Char) := (splitLast (· = '@') u.authority.toList).1

/-- Host and port as they are written. -/
def hostAndPortTexts (u : Url) : List Char × List Char :=
  let s := u.hostAndPort
  match splitFirst (· = '[') s with
  | (_, some bracketed) =>
    let (host, after) := splitFirst (· = ']') bracketed
    (host, ((splitFirst (· = ':') (after.getD [])).2).getD [])
  | (_, none) =>
    let (host, port) := splitFirst (· = ':') s
    (host, port.getD [])

/-- The host in lower case, up to the zone of an address. -/
def hostName? (u : Url) : Option String :=
  let (host, _) := u.hostAndPortTexts
  if host.isEmpty then none
  else
    let name := host.takeWhile (· != '%')
    some (String.ofList (lowerChars name ++ host.dropWhile (· != '%')))

/-- The port, if one is written. -/
def port? (u : Url) : Except Failure (Option Nat) :=
  let (_, port) := u.hostAndPortTexts
  if port.isEmpty then .ok none
  else if port.all Char.isDigit then
    let n := Nat.ofDigitChars 10 port 0
    if maxIntegerDigits < port.length then .error (.url (.longPort port.length))
    else if n ≤ 65535 then .ok (some n) else .error (.url .portRange)
  else .error (.url (.portText (quoteText (String.ofList port))))

/-- The schemes whose URLs always have an authority. -/
def authoritySchemes : List String :=
  ["ftp", "http", "gopher", "nntp", "telnet", "imap", "wais", "file", "mms", "https", "shttp",
    "snews", "prospero", "rtsp", "rtsps", "rtspu", "rsync", "svn", "svn+ssh", "sftp", "nfs",
    "git", "git+ssh", "ws", "wss"]

/-- The schemes whose last path segment can have parameters. -/
def parameterSchemes : List String :=
  ["", "ftp", "hdl", "prospero", "http", "imap", "https", "shttp", "rtsp", "rtsps", "rtspu",
    "sip", "sips", "mms", "sftp", "tel"]

/-- The URL of the parts. -/
def text (u : Url) : String :=
  let path :=
    if u.authority ≠ "" ∨ authoritySchemes.contains u.scheme ∨ u.path.startsWith "//" then
      "//" ++ u.authority ++
        (if u.path ≠ "" ∧ !u.path.startsWith "/" then "/" ++ u.path else u.path)
    else u.path
  (if u.scheme = "" then "" else u.scheme ++ ":") ++ path ++
    (if u.query = "" then "" else "?" ++ u.query) ++
    (if u.fragment = "" then "" else "#" ++ u.fragment)

/-- The path without the parameters of its last segment. -/
def pathOnly (u : Url) : String :=
  if parameterSchemes.contains u.scheme then
    let (before, last) := splitLast (· = '/') u.path.toList
    let kept := last.takeWhile (· != ';')
    match before with
    | some before => String.ofList (before ++ '/' :: kept)
    | none => String.ofList kept
  else u.path

def safePath (c : Char) : Bool := "%!$&'()*+,/:;=@".toList.contains c

def safeQuery (c : Char) : Bool := "%!$&'()*+,/:;=?@".toList.contains c

def safeFragment (c : Char) : Bool := "%!#$&'()*+,/:;=?@".toList.contains c

def safeUser (c : Char) : Bool := "%!$&'()*+,;=".toList.contains c

/-- The user information with other characters escaped. -/
def normalUser (info : List Char) : String :=
  let (name, password) := splitFirst (· = ':') info
  let escape (s : List Char) : String := Percent.encode safeUser (String.ofList s)
  if name.isEmpty then ""
  else
    let password := password.getD []
    escape name ++ (if password.isEmpty then "" else ":" ++ escape password) ++ "@"

/-- A URL with a host in lower case and in ASCII and all else escaped that may not stand in its
part. A port of zero is dropped. -/
def normalize (url : String) : Except Failure String := do
  let u ← parse url
  let name := (u.hostName?.getD "").toList
  let host := String.ofList (← (HostName.toAscii name).mapError fun f => .url (.label f))
  let host := if host.toList.contains ':' then "[" ++ host ++ "]" else host
  let port ← u.port?
  let port := match port with
    | some n => if n = 0 then "" else ":" ++ toString n
    | none => ""
  let user := (u.userInfo?.map normalUser).getD ""
  return text {
    scheme := u.scheme
    authority := user ++ host ++ port
    path := Percent.encode safePath u.path
    query := Percent.encode safeQuery u.query
    fragment := Percent.encode safeFragment u.fragment }

end Url

end ServiceClient
