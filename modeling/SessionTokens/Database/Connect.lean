import SessionTokens.Database.Charset
import SessionTokens.Database.Error
import SessionTokens.Database.Socket
import SessionTokens.Text.Fold
import SessionTokens.Text.Quoted
import SessionTokens.Url.Reader

/-! # Connecting to a database

A URL says where the database is and how to talk to it: the authority names the server and the user,
the query sets options. A socket among the options takes the place of host and port.
-/

namespace SessionTokens

open Text Url

/-- How much a connection has to be encrypted. -/
inductive EncryptionMode where
  | disabled
  | preferred
  | required
  | verifyAuthority
  | verifyIdentity
  deriving DecidableEq, Repr

/-- Reads an encryption mode in any case. -/
def EncryptionMode.read? (text : String) : Option EncryptionMode :=
  match String.ofList (text.toList.map foldAscii) with
  | "disabled" => some .disabled
  | "preferred" => some .preferred
  | "required" => some .required
  | "verify_ca" => some .verifyAuthority
  | "verify_identity" => some .verifyIdentity
  | _ => none

/-- Where a database is and how to talk to it. -/
structure ConnectOptions where
  host : Host := .none
  port : Option Nat := none
  username : List Char := "root".toList
  password : Option (List Char) := none
  socket : Option String := none
  charset : String := "utf8mb4"
  collation : Option String := none
  encryption : EncryptionMode := .preferred
  statementCache : Nat := 100
  deriving DecidableEq, Repr

namespace ConnectOptions

/-- A credential without its escapes, which has to be a text. -/
def credential (escaped : List Char) : Except String (List Char) :=
  (Utf8.decode (percentDecode escaped)).mapError Utf8.Fault.message

/-- Sets an option of the query. An unknown option is passed over. -/
def set (options : ConnectOptions) (name value : String) : Except String ConnectOptions :=
  match name with
  | "sslmode" | "ssl-mode" =>
      match EncryptionMode.read? value with
      | some encryption => .ok { options with encryption }
      | none =>
          .error (DatabaseError.message (.configuration
            s!"unknown value {quoted value} for \x60ssl_mode\x60"))
  | "statement-cache-capacity" =>
      match readInteger .unsigned64 value.toList with
      | .ok capacity => .ok { options with statementCache := capacity.toNat }
      | .error problem => .error problem.message
  | "socket" => .ok { options with socket := some value }
  | "charset" => .ok { options with charset := value }
  | "collation" => .ok { options with collation := some value }
  | _ => .ok options

/-- Sets options one after the other. -/
def setAll : List (String × String) → ConnectOptions → Except String ConnectOptions
  | [], options => .ok options
  | (name, value) :: rest, options => options.set name value >>= setAll rest

/-- The options of a URL, or what is wrong with it. -/
def ofUrl (text : String) : Except String ConnectOptions := do
  let url ← (Url.read text).mapError UrlError.message
  let defaults : ConnectOptions := {}
  let username ← if url.username.isEmpty then .ok defaults.username else credential url.username
  let password ← match url.password with
    | none => .ok none
    | some password => (credential password).map some
  setAll url.pairs { host := url.host, port := url.port, username, password }

/-- The name among the options that the database does not know, if there is one. -/
def unsupported? (options : ConnectOptions) : Option String :=
  match isCharset options.charset, options.collation.filter fun name => !isCollation name with
  | false, _ => some s!"unsupported MySQL charset: {options.charset}"
  | true, some collation => some s!"unsupported MySQL collation: {collation}"
  | true, none => none

/-- How connecting fails where no database is running. Where a connection is refused, and where no
server answers, it is tried until the time is up. -/
def failure (options : ConnectOptions) : DatabaseError :=
  match options.unsupported?, options.socket.map socketError with
  | some problem, _ => .configuration problem
  | none, none => .poolTimedOut
  | none, some .refused => .poolTimedOut
  | none, some problem => .communication problem.message

end ConnectOptions

/-- The seconds that no clock counts up to. -/
def endOfTime : Nat := 9223372036853727232

/-- How opening a pool fails where no database is running, if it is given some seconds of time. It is
not even begun when the time is up at once, and it cannot be begun when there is no end of the
time. -/
def poolFailure? (url : String) (seconds : Nat) : Option InfrastructureError :=
  match ConnectOptions.ofUrl url with
  | .error problem =>
      some (.configuration
        ("Invalid database URL: " ++ DatabaseError.message (.configuration problem)))
  | .ok options =>
      if seconds = 0 then some (.database .poolTimedOut)
      else if endOfTime ≤ seconds then none
      else some (.database options.failure)

end SessionTokens
