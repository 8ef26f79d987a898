import SessionTokens.Url.Host

/-! # Reading URLs

A URL has a scheme, perhaps an authority with credentials, host and port, a path, and perhaps a
query. Texts are kept as they are written: what is escaped stays so until somebody asks for it.
-/

namespace SessionTokens

open Text

/-- A URL. -/
structure Url where
  scheme : String
  username : List Char
  password : Option (List Char)
  host : Url.Host
  port : Option Nat
  path : List Char
  query : Option (List Char)
  deriving DecidableEq, Repr

namespace Url

/-- The kinds of schemes. -/
inductive SchemeKind where
  /-- The schemes of the web: an authority is required and a backslash is a slash. -/
  | web
  | file
  | other
  deriving DecidableEq, Repr

/-- The kind of a scheme. -/
def schemeKind (scheme : String) : SchemeKind :=
  if ["http", "https", "ws", "wss", "ftp"].contains scheme then .web
  else if scheme == "file" then .file
  else .other

/-- Whether a character is a control character or a blank. -/
def isControlOrBlank (c : Char) : Bool := c.toNat ≤ 0x20

/-- Whether a character is passed over wherever it stands. -/
def isPassedOver (c : Char) : Bool := c == '\t' || c == '\n' || c == '\r'

/-- The characters of a URL that count: those around it that do not, and tabs and line ends within
it, are passed over. -/
def significant (text : List Char) : List Char :=
  let text := text.dropWhile isControlOrBlank
  let text := (text.reverse.dropWhile isControlOrBlank).reverse
  text.filter fun c => !isPassedOver c

/-- Whether a character may be part of a scheme. -/
def isSchemeChar (c : Char) : Bool :=
  c.isAlphanum || c == '+' || c == '-' || c == '.'

/-- Takes the scheme and its colon. -/
def takeScheme (text : List Char) : Option (String × List Char) :=
  match text with
  | c :: _ =>
      if c.isAlpha then
        match text.dropWhile isSchemeChar with
        | ':' :: rest => some (String.ofList ((text.takeWhile isSchemeChar).map foldAscii), rest)
        | _ => none
      else none
  | [] => none

/-- Whether a character ends an authority. -/
def endsAuthority (kind : SchemeKind) (c : Char) : Bool :=
  c == '/' || c == '?' || c == '#' || (kind != .other && c == '\\')

/-- The user name and the password of credentials. An empty password is none. -/
def splitCredentials (credentials : List Char) : List Char × Option (List Char) :=
  let (name, password) := splitFirst ':' credentials
  (name, password.filter fun password => !password.isEmpty)

/-- The host part of an authority: what comes before the first colon outside of brackets. -/
def takeHostText : Bool → List Char → List Char × List Char
  | _, [] => ([], [])
  | bracketed, c :: rest =>
      if c == ':' && !bracketed then ([], c :: rest)
      else
        let bracketed := if c == '[' then true else if c == ']' then false else bracketed
        let (host, rest) := takeHostText bracketed rest
        (c :: host, rest)

/-- Reads the digits of a port. -/
def readPortDigits (port : Nat) : List Char → Except UrlError Nat
  | [] => .ok port
  | c :: rest =>
      match digitValue? c with
      | none => .error .invalidPort
      | some digit =>
          let port := port * 10 + digit
          if 65535 < port then .error .invalidPort else readPortDigits port rest

/-- Reads what follows the host: nothing, or a colon and a port, which may be missing. A backslash
always ends a port. -/
def readPort : List Char → Except UrlError (Option Nat)
  | ':' :: rest =>
      match rest.takeWhile (· != '\\') with
      | [] => .ok none
      | digits => (readPortDigits 0 digits).map some
  | _ => .ok none

/-- Splits a path off from the query behind it, leaving a fragment out. -/
def splitQuery (text : List Char) : List Char × Option (List Char) :=
  splitFirst '?' (splitFirst '#' text).1

/-- Reads the authority of a URL. -/
def readAuthority (kind : SchemeKind) (scheme : String) (text : List Char) :
    Except UrlError Url := do
  let authority := text.takeWhile fun c => !endsAuthority kind c
  let (path, query) := splitQuery (text.drop authority.length)
  let (credentials, place) := match splitLast '@' authority with
    | some (credentials, place) => (some credentials, place)
    | none => (none, authority)
  if credentials == some [] && place.isEmpty && authority.length < text.length then
    throw .emptyHost
  let (username, password) := splitCredentials (credentials.getD [])
  let (hostText, rest) := takeHostText false place
  if hostText.isEmpty && kind == .web then throw .emptyHost
  let host ← if kind == .web then readDomain hostText else readOpaqueHost hostText
  if host == .none && rest.head? == some ':' then throw .emptyHost
  let port ← readPort rest
  if host == .none && (!username.isEmpty || password.isSome) then throw .emptyHost
  return { scheme, username, password, host, port, path, query }

/-- The URL of a scheme without an authority. -/
def withoutAuthority (scheme : String) (text : List Char) : Url :=
  let (path, query) := splitQuery text
  { scheme, username := [], password := none, host := .none, port := none, path, query }

/-- Whether a text names a drive, which is no host. -/
def isDrive (text : List Char) : Bool :=
  match text with
  | [c, mark] => c.isAlpha && (mark == ':' || mark == '|')
  | _ => false

/-- Reads the URL of a file, whose host may be missing and has no port. -/
def readFile (text : List Char) : Except UrlError Url := do
  let isSlash (c : Char) : Bool := c == '/' || c == '\\'
  match text with
  | a :: b :: rest =>
      if isSlash a && isSlash b then
        let hostText := rest.takeWhile fun c => !endsAuthority .file c
        let (path, query) := splitQuery (rest.drop hostText.length)
        let host ←
          if hostText.isEmpty || isDrive hostText then .ok .none else readDomain hostText
        return { withoutAuthority "file" path with host, query }
      else return withoutAuthority "file" text
  | _ => return withoutAuthority "file" text

/-- Reads a URL. -/
def read (text : String) : Except UrlError Url :=
  match takeScheme (significant text.toList) with
  | none => .error .relative
  | some (scheme, rest) =>
      match schemeKind scheme with
      | .file => readFile rest
      | .web => readAuthority .web scheme (rest.dropWhile fun c => c == '/' || c == '\\')
      | .other =>
          match rest with
          | '/' :: '/' :: rest => readAuthority .other scheme rest
          | rest => .ok (withoutAuthority scheme rest)

/-! ## Queries -/

/-- The bytes of a component of a query, in which a plus sign is a blank. -/
def decodeComponent (text : List Char) : List Char :=
  Utf8.decodeLossy (percentDecode (text.map fun c => if c == '+' then ' ' else c))

/-- The name and the value of a component. -/
def splitComponent (text : List Char) : String × String :=
  let (name, value) := splitFirst '=' text
  (String.ofList (decodeComponent name), String.ofList (decodeComponent (value.getD [])))

/-- The names and values of a query. -/
def pairs (url : Url) : List (String × String) :=
  match url.query with
  | none => []
  | some query => ((splitAll '&' query).filter fun text => !text.isEmpty).map splitComponent

end Url

end SessionTokens
