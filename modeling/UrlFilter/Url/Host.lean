import UrlFilter.Text.Utf8
import UrlFilter.Url.Address
import UrlFilter.Url.Domain

/-!
# Hosts

The host of a URL is a domain name, a network address, or a plain name.  Which of them a text stands
for depends on the scheme.  The schemes of the web have domain names: percent signs are resolved,
the name is brought into its ASCII form, and a name that ends in a number is an address of version
4. Any other scheme has plain names, which are kept as they are.  In both, a text in brackets is an
address of version 6.
-/

namespace UrlFilter

namespace Url

/-- Why a text is no URL. -/
inductive Fault where
  /-- The text starts with no scheme. -/
  | noScheme
  /-- The host has to be there and is not. -/
  | emptyHost
  /-- The port is no number of 16 bits. -/
  | invalidPort
  /-- The host ends in a number and is no address of version 4. -/
  | invalidIpv4
  /-- The host is in brackets and is no address of version 6. -/
  | invalidIpv6
  /-- A plain name holds a character with a meaning of its own. -/
  | invalidCharacter
  /-- The host is no domain name. -/
  | invalidDomain
  deriving DecidableEq, Repr

/-- The words for a fault. -/
def Fault.message : Fault → String
  | noScheme => "relative URL without a base"
  | emptyHost => "empty host"
  | invalidPort => "invalid port number"
  | invalidIpv4 => "invalid IPv4 address"
  | invalidIpv6 => "invalid IPv6 address"
  | invalidCharacter => "invalid domain character"
  | invalidDomain => "invalid international domain name"

/-- The host of a URL. -/
inductive Host where
  /-- A domain name in ASCII. -/
  | domain (name : Text)
  /-- An address of version 4. -/
  | ipv4 (address : Nat)
  /-- An address of version 6: its eight pieces. -/
  | ipv6 (pieces : List Nat)
  /-- A name without further structure. -/
  | plain (name : Text)
  deriving DecidableEq, Repr

namespace Host

/-! ## Percent signs -/

/-- The value of a hexadecimal digit. -/
def hexByte? (b : UInt8) : Option UInt8 :=
  (Ipv4.digit? 16 (Char.ofNat b.toNat)).map UInt8.ofNat

/-- Bytes in which each percent sign with two hexadecimal digits behind it is resolved. -/
def percentDecodeBytes : Bytes → Bytes
  | 0x25 :: a :: b :: r =>
    match hexByte? a, hexByte? b with
    | some h, some l => (16 * h + l) :: percentDecodeBytes r
    | _, _ => 0x25 :: percentDecodeBytes (a :: b :: r)
  | b :: r => b :: percentDecodeBytes r
  | [] => []

/-- A text with its percent signs resolved, if the result is a text. -/
def percentDecode (t : Text) : Option Text :=
  if t.contains '%' then (Utf8.decode (percentDecodeBytes (Utf8.encode t))).toOption else some t

/-! ## Reading -/

/-- The characters that a plain name may not hold. -/
def isReserved (c : Char) : Bool :=
  ['\x00', '\t', '\n', '\r', ' ', '#', '/', ':', '<', '>', '?', '@', '[', '\\', ']', '^',
    '|'].contains c

/-- The host of a text between brackets, of which the first has been read. -/
def parseBracketed (t : Text) : Except Fault Host :=
  match ([']'].isSuffixOf? t).bind Ipv6.parse? with
  | some pieces => .ok (.ipv6 pieces)
  | none => .error .invalidIpv6

/-- The host of a domain name in ASCII. -/
def ofDomain (name : Text) : Except Fault Host :=
  if name.isEmpty then .error .emptyHost
  else if Ipv4.endsInNumber name then
    match Ipv4.parse? name with
    | some address => .ok (.ipv4 address)
    | none => .error .invalidIpv4
  else .ok (.domain name)

/-- The host of a text in a URL whose scheme has domain names. -/
def parseDomain : Text → Except Fault Host
  | '[' :: r => parseBracketed r
  | t =>
    match (percentDecode t).bind Domain.toAscii with
    | some name => ofDomain name
    | none => .error .invalidDomain

/-- The host of a text in any other URL; there may be none. -/
def parsePlain : Text → Except Fault (Option Host)
  | [] => .ok none
  | '[' :: r => (parseBracketed r).map some
  | t => if t.any isReserved then .error .invalidCharacter else .ok (some (.plain t))

end Host

end Url

end UrlFilter
