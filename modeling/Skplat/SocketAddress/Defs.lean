import Skplat.Data.Scanf

/-!
# Socket addresses and their texts

A `socket_address` of `network/socket_address.cc` keeps a `sockaddr` with its text and the
text of the host alone.  One constructor reads a URL with `sscanf` into a buffer of 40
bytes, another one takes the text of a host and a port.  An address under the first 32
bits of the NAT64 prefix is printed as the prefix with a dotted IPv4 address.

`inet_ntop` and `inet_pton` are parameters.  Addresses are in network order, so the first
byte of an address is the highest one here.
-/

namespace Skplat.Network

open Scanf

/-- `inet_ntop` and `inet_pton` for both families. -/
structure Inet where
  ntop4 : BitVec 32 → List Char
  ntop6 : BitVec 128 → List Char
  pton4 : List Char → Option (BitVec 32)
  pton6 : List Char → Option (BitVec 128)

/-! ## Addresses -/

/-- A `sockaddr` of each family.  Ports are in host order. -/
inductive Sockaddr
  /-- `AF_UNSPEC`. -/
  | unspec
  /-- `AF_INET`. -/
  | inet (addr : BitVec 32) (port : BitVec 16)
  /-- `AF_INET6`. -/
  | inet6 (addr : BitVec 128) (port : BitVec 16) (flowinfo scopeId : BitVec 32)
  deriving DecidableEq, Repr

/-- `s6_addr32[3]`. -/
def lastWord (addr : BitVec 128) : BitVec 32 :=
  addr.extractLsb' 0 32

/-- `IN6_IS_ADDR_NAT64`. -/
def in6IsAddrNat64 (addr : BitVec 128) : Bool :=
  addr.extractLsb' 96 32 == 0x0064ff9b

/-- `IN6_SET_ADDR_V4MAPPED`. -/
def in6SetAddrV4mapped (addr : BitVec 32) : BitVec 128 :=
  0#80 ++ 0xffff#16 ++ addr

/-- `IN6_SET_ADDR_NAT64`. -/
def in6SetAddrNat64 (addr : BitVec 32) : BitVec 128 :=
  0x0064ff9b#32 ++ 0#64 ++ addr

/-- The last word is the IPv4 address. -/
theorem lastWord_in6SetAddrV4mapped (addr : BitVec 32) :
    lastWord (in6SetAddrV4mapped addr) = addr :=
  BitVec.extractLsb'_append_eq_right

theorem lastWord_in6SetAddrNat64 (addr : BitVec 32) :
    lastWord (in6SetAddrNat64 addr) = addr :=
  BitVec.extractLsb'_append_eq_right

/-- `kWellKnownNat64Prefix`. -/
def kWellKnownNat64Prefix : List Char :=
  ['6', '4', ':', 'f', 'f', '9', 'b', ':', ':']

/-- `"::FFFF:"`. -/
def mappedPrefix : List Char :=
  [':', ':', 'F', 'F', 'F', 'F', ':']

/-- Whether `strncasecmp` with the length of the first text finds no difference. -/
def startsWithCase (front text : List Char) : Bool :=
  (text.take front.length).map Char.toLower == front.map Char.toLower

/-- `%u`. -/
def portText (port : BitVec 16) : List Char :=
  Nat.toDigits 10 port.toNat

/-- A `socket_address`. -/
structure SocketAddress where
  /-- `addr_`. -/
  addr : Sockaddr
  /-- `ip_`. -/
  ipText : List Char
  /-- `url_`. -/
  urlText : List Char
  deriving DecidableEq, Repr

namespace SocketAddress

variable (inet : Inet)

/-- `snprintf` into `url_`. -/
def printUrl (text : List Char) : List Char :=
  text.take 127

/-- The text that `__init` puts into `ip_` for an IPv6 address. -/
def ipText6 (addr : BitVec 128) : List Char :=
  if in6IsAddrNat64 addr then
    kWellKnownNat64Prefix ++ inet.ntop4 (lastWord addr)
  else inet.ntop6 addr

/-- `__init()`, which all constructors call. -/
def init : Sockaddr → SocketAddress
  | .unspec => ⟨.unspec, [], []⟩
  | .inet addr port =>
      { addr := .inet addr port
        ipText := inet.ntop4 addr
        urlText := printUrl (inet.ntop4 addr ++ ':' :: portText port) }
  | .inet6 addr port flowinfo scopeId =>
      { addr := .inet6 addr port flowinfo scopeId
        ipText := ipText6 inet addr
        urlText := printUrl
          ('[' :: (ipText6 inet addr ++ ']' :: ':' :: portText port)) }

/-! ## Constructors from texts -/

/-- `[0-9.]`. -/
def isDotted (char : Char) : Bool :=
  char.isDigit || char == '.'

/-- `[0-9a-fA-F:.]`. -/
def isHexText (char : Char) : Bool :=
  char.isDigit || decide ('a' ≤ char ∧ char ≤ 'f') || decide ('A' ≤ char ∧ char ≤ 'F') ||
    char == ':' || char == '.'

theorem isHexText_of_isDotted {char : Char} (dotted : isDotted char = true) :
    isHexText char = true := by
  rw [isDotted, Bool.or_eq_true] at dotted
  rcases dotted with digit | dot
  · simp [isHexText, digit]
  · simp [isHexText, dot]

/-- `"%15[0-9.]:%8hu"`. -/
def dottedFormat : List Directive :=
  [.scanset 15 isDotted, .literal ':', .ushort 8]

/-- `"[%40[0-9a-fA-F:.]]:%8hu"`. -/
def bracketFormat : List Directive :=
  [.literal '[', .scanset 40 isHexText, .literal ']', .literal ':', .ushort 8]

/-- `"%40[0-9a-fA-F:.]"`. -/
def bareFormat : List Directive :=
  [.scanset 40 isHexText]

/-- The text that is stored in `ip_s`. -/
def ipField : List Item → List Char
  | .text chars :: _ => chars
  | _ => []

/-- `port_u`, which is zero at first. -/
def portField : List Item → BitVec 16
  | [_, .number value] => value
  | _ => 0

/-- The two attempts at an IPv6 address. -/
def scan6 (url : List Char) : List Item :=
  if scan bracketFormat url ≠ [] then scan bracketFormat url else scan bareFormat url

/-- Number of bytes that are stored in `ip_s`. -/
def storedBytes (url : List Char) : Nat :=
  if scan dottedFormat url ≠ [] then (ipField (scan dottedFormat url)).length + 1
  else if scan6 url ≠ [] then (ipField (scan6 url)).length + 1
  else 0

/-- The size of `ip_s`. -/
def ipSize : Nat := 40

/-- `socket_address(_url)`, or none if it writes behind `ip_s`.  `inet_pton` leaves an
address that it cannot read alone. -/
def ofUrl (url : List Char) : Option SocketAddress :=
  if storedBytes url ≤ ipSize then
    if scan dottedFormat url ≠ [] then
      some (init inet (.inet
        ((inet.pton4 (ipField (scan dottedFormat url))).getD 0)
        (portField (scan dottedFormat url))))
    else if scan6 url ≠ [] then
      some (init inet (.inet6
        ((inet.pton6 (ipField (scan6 url))).getD 0) (portField (scan6 url)) 0 0))
    else some (init inet .unspec)
  else none

/-- `socket_address(_ip, _port)`. -/
def ofIp (ip : List Char) (port : BitVec 16) : SocketAddress :=
  match inet.pton4 ip with
  | some addr => init inet (.inet addr port)
  | none =>
      match inet.pton6 ip with
      | some addr => init inet (.inet6 addr port 0 0)
      | none => init inet .unspec

/-! ## The other functions -/

variable (address : SocketAddress)

/-- `url()`. -/
def url : List Char :=
  address.urlText

/-- `ip()`. -/
def ip : List Char :=
  match address.addr with
  | .unspec => []
  | .inet _ _ => address.ipText
  | .inet6 _ _ _ _ =>
      if startsWithCase mappedPrefix address.ipText then address.ipText.drop 7
      else if startsWithCase kWellKnownNat64Prefix address.ipText then
        address.ipText.drop 9
      else address.ipText

/-- `ipv6()`. -/
def ipv6 : List Char :=
  address.ipText

/-- `port()`. -/
def port : BitVec 16 :=
  match address.addr with
  | .unspec => 0
  | .inet _ port => port
  | .inet6 _ port _ _ => port

/-- `v4tov4mapped_address()`. -/
def v4tov4mappedAddress : SocketAddress :=
  match address.addr with
  | .inet addr port => init inet (.inet6 (in6SetAddrV4mapped addr) port 0 0)
  | _ => address

/-- `v4tonat64_address()`.  `address_fix` changes nothing. -/
def v4tonat64Address : SocketAddress :=
  match address.addr with
  | .inet addr port => init inet (.inet6 (in6SetAddrNat64 addr) port 0 0)
  | _ => address

end SocketAddress

/-! ## What is documented about the parameters -/

namespace Inet

open Network.SocketAddress

/-- The documented behaviour of `inet_ntop` and `inet_pton`. -/
structure Documented (inet : Inet) : Prop where
  /-- What is printed is read back. -/
  pton4_ntop4 : ∀ addr, inet.pton4 (inet.ntop4 addr) = some addr
  pton6_ntop6 : ∀ addr, inet.pton6 (inet.ntop6 addr) = some addr
  /-- An IPv4 text is four numbers of up to three digits with dots between them. -/
  dotted : ∀ text addr, inet.pton4 text = some addr →
    (∀ char ∈ text, isDotted char = true) ∧ text ≠ [] ∧ text.length ≤ 15
  /-- An IPv6 text has colons, and otherwise hexadecimal digits and dots. -/
  colons : ∀ text addr, inet.pton6 text = some addr →
    (∀ char ∈ text, isHexText char = true) ∧ ':' ∈ text
  /-- Eight groups of four digits are the longest text that is printed. -/
  length_ntop6 : ∀ addr, (inet.ntop6 addr).length ≤ 39
  /-- An IPv4-mapped address is printed with the IPv4 address. -/
  mapped : ∀ addr, inet.ntop6 (in6SetAddrV4mapped addr) =
    [':', ':', 'f', 'f', 'f', 'f', ':'] ++ inet.ntop4 addr
  /-- The last 32 bits may be written as an IPv4 address, and two colons stand for
  zeros. -/
  nat64 : ∀ addr, inet.pton6 (kWellKnownNat64Prefix ++ inet.ntop4 addr) =
    some (in6SetAddrNat64 addr)

end Inet
end Skplat.Network
