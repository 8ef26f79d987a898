import SessionTokens.Text.Fold
import SessionTokens.Text.Hexadecimal
import SessionTokens.Text.Integer
import SessionTokens.Text.Split
import SessionTokens.Text.Utf8
import SessionTokens.Url.Domain

/-! # The host of a URL

A host is a name or an IP address. How a name is read depends on the scheme: for the schemes of the
web it is a domain, in which a last label that is a number makes an IPv4 address of the whole; for
all others it is any text without separators.
-/

namespace SessionTokens.Url

open Text

/-- Why a text is no URL. -/
inductive UrlError where
  | relative
  | emptyHost
  | invalidPort
  | invalidIpv4
  | invalidIpv6
  | invalidDomain
  | invalidDomainCharacter
  deriving DecidableEq, Repr

/-- The wording of a URL error. -/
def UrlError.message : UrlError → String
  | .relative => "relative URL without a base"
  | .emptyHost => "empty host"
  | .invalidPort => "invalid port number"
  | .invalidIpv4 => "invalid IPv4 address"
  | .invalidIpv6 => "invalid IPv6 address"
  | .invalidDomain => "invalid international domain name"
  | .invalidDomainCharacter => "invalid domain character"

/-- The bytes of a text in which a percent sign and two hexadecimal digits stand for a byte. -/
def percentDecode : List Char → List UInt8
  | [] => []
  | [a] => Utf8.encodeChar a
  | [a, b] => Utf8.encodeChar a ++ Utf8.encodeChar b
  | a :: b :: c :: rest =>
      match hexValue? b, hexValue? c with
      | some high, some low =>
          if a == '%' then UInt8.ofNat (high * 16 + low) :: percentDecode rest
          else Utf8.encodeChar a ++ percentDecode (b :: c :: rest)
      | _, _ => Utf8.encodeChar a ++ percentDecode (b :: c :: rest)

/-- The host of a URL. -/
inductive Host where
  | none
  | name (text : List Char)
  | ipv4
  | ipv6
  deriving DecidableEq, Repr

/-! ## IPv4 -/

/-- A number of an IPv4 address, which is hexadecimal, octal or decimal by how it begins. The inner
option is empty when the number has more than 32 bits. -/
def ipv4Number? (text : List Char) : Option (Option Nat) :=
  let inBase (base : Nat) (digits : List Char) : Option (Option Nat) :=
    (digits.mapM fun c => (hexValue? c).filter (· < base)).map fun values =>
      let number := valueIn base values
      if number < 4294967296 then some number else none
  match text with
  | [] => none
  | '0' :: 'x' :: digits | '0' :: 'X' :: digits => inBase 16 digits
  | '0' :: c :: digits => inBase 8 (c :: digits)
  | digits => inBase 10 digits

/-- The labels of a domain, without an empty one at its end. -/
def labels (domain : List Char) : List (List Char) :=
  match (splitAll '.' domain).reverse with
  | [] :: rest => rest.reverse
  | rest => rest.reverse

/-- Whether the last label of a domain is a number. -/
def endsInNumber (domain : List Char) : Bool :=
  match (labels domain).getLast? with
  | none => false
  | some last =>
      (!last.isEmpty && last.all isDigit) || (ipv4Number? last).isSome

/-- Whether numbers make an IPv4 address: all but the last have eight bits, and the last has the bits
that are left. -/
def isIpv4 : List Nat → Bool
  | [] => false
  | numbers =>
      let before := numbers.dropLast
      decide (numbers.length ≤ 4) && before.all (· ≤ 255) &&
        decide (numbers.getLastD 0 < Nat.pow 256 (4 - before.length))

/-- Reads an IPv4 address. -/
def readIpv4 (domain : List Char) : Except UrlError Host :=
  match (labels domain).mapM fun label => (ipv4Number? label).join with
  | some numbers => if isIpv4 numbers then .ok .ipv4 else .error .invalidIpv4
  | none => .error .invalidIpv4

/-! ## IPv6 -/

/-- Takes the four decimal numbers at the end of an IPv6 address, of which some were taken. -/
def endsInIpv4 : Nat → List Char → Bool
  | 0, _ => false
  | more + 1, text =>
      let digits := text.takeWhile isDigit
      let number := decimalValue digits
      let fits := !digits.isEmpty && (digits.length == 1 || digits.head? != some '0') &&
        decide (number ≤ 255)
      match text.drop digits.length with
      | [] => fits && more == 0
      | '.' :: rest => fits && endsInIpv4 more rest
      | _ => false

/-- Whether a text goes on as an IPv6 address of which some pieces were taken; `gap` says that one
run of zeros was left out. The fuel bounds the number of pieces. -/
def goesOnAsIpv6 : Nat → Nat → Bool → List Char → Bool
  | 0, _, _, _ => false
  | _, pieces, gap, [] => pieces == 8 || (gap && decide (pieces ≤ 8))
  | fuel + 1, pieces, gap, ':' :: rest =>
      !gap && decide (pieces < 8) && goesOnAsIpv6 fuel (pieces + 1) true rest
  | fuel + 1, pieces, gap, text =>
      let digits := text.takeWhile (hexValue? · |>.isSome)
      let piece := digits.take 4
      decide (pieces < 8) &&
        match text.drop piece.length with
        | [] => pieces + 1 == 8 || gap
        | '.' :: _ =>
            !piece.isEmpty && decide (pieces ≤ 6) && endsInIpv4 4 text && (pieces == 6 || gap)
        | ':' :: rest => !rest.isEmpty && goesOnAsIpv6 fuel (pieces + 1) gap rest
        | _ => false

/-- Whether a text is an IPv6 address. -/
def isIpv6 (text : List Char) : Bool :=
  match text with
  | ':' :: ':' :: rest => goesOnAsIpv6 9 1 true rest
  | ':' :: _ => false
  | [] => false
  | text => goesOnAsIpv6 9 0 false text

/-- Reads an IPv6 address in its brackets. -/
def readBracketed (text : List Char) : Except UrlError Host :=
  if text.getLast? == some ']' && isIpv6 ((text.drop 1).dropLast) then .ok .ipv6
  else .error .invalidIpv6

/-! ## Names -/

/-- Reads the host of a scheme that is not of the web. -/
def readOpaqueHost (text : List Char) : Except UrlError Host :=
  match text with
  | [] => .ok .none
  | '[' :: _ => readBracketed text
  | text => if text.any isSeparator then .error .invalidDomainCharacter else .ok (.name text)

/-- Reads the host of a scheme of the web. -/
def readDomain (text : List Char) : Except UrlError Host :=
  match text with
  | '[' :: _ => readBracketed text
  | text =>
      match Utf8.decode (percentDecode text) with
      | .error _ => .error .invalidDomain
      | .ok domain =>
          match domainLabels? domain with
          | none => .error .invalidDomain
          | some labels =>
              match List.intercalate ['.'] labels with
              | [] => .error .emptyHost
              | domain => if endsInNumber domain then readIpv4 domain else .ok (.name domain)

end SessionTokens.Url
