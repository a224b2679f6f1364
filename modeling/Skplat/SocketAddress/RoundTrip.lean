import Skplat.SocketAddress.Parsers

/-!
# Addresses and their texts

The text of an address and the text of its host are read back as the address, with one
exception: an IPv6 address under the first 32 bits of the NAT64 prefix is printed as if
the next 64 bits were zero.
-/

namespace Skplat.Network

/-- `s6_addr32[1]` and `s6_addr32[2]`. -/
def middleWords (addr : BitVec 128) : BitVec 64 :=
  addr.extractLsb' 32 64

/-- Words in front of the last one. -/
theorem extractLsb'_append_lastWord
    {width : Nat} (front : BitVec width) (last : BitVec 32) (start size : Nat) :
    (front ++ last).extractLsb' (32 + start) size = front.extractLsb' start size := by
  ext i inside
  simp only [BitVec.getElem_extractLsb', BitVec.getLsbD_append]
  rw [if_neg (by omega)]
  congr 1
  omega

theorem middleWords_in6SetAddrNat64 (addr : BitVec 32) :
    middleWords (in6SetAddrNat64 addr) = 0 :=
  (extractLsb'_append_lastWord _ addr 0 64).trans BitVec.extractLsb'_append_eq_right

theorem in6IsAddrNat64_in6SetAddrNat64 (addr : BitVec 32) :
    in6IsAddrNat64 (in6SetAddrNat64 addr) = true :=
  beq_iff_eq.mpr ((extractLsb'_append_lastWord _ addr 64 32).trans
    BitVec.extractLsb'_append_eq_left)

theorem in6IsAddrNat64_in6SetAddrV4mapped (addr : BitVec 32) :
    in6IsAddrNat64 (in6SetAddrV4mapped addr) = false := by
  have first : (in6SetAddrV4mapped addr).extractLsb' 96 32 = 0 :=
    extractLsb'_append_lastWord _ addr 64 32
  rw [in6IsAddrNat64, first]
  decide

/-- The words make up the address. -/
theorem append_words (addr : BitVec 128) :
    addr.extractLsb' 96 32 ++ middleWords addr ++ lastWord addr = addr := by
  have front : addr.extractLsb' 96 32 ++ addr.extractLsb' 32 64 =
      addr.extractLsb' 32 (32 + 64) :=
    BitVec.extractLsb'_append_extractLsb'_eq_extractLsb' rfl
  have whole : addr.extractLsb' 32 (32 + 64) ++ addr.extractLsb' 0 32 =
      addr.extractLsb' 0 (32 + 64 + 32) :=
    BitVec.extractLsb'_append_extractLsb'_eq_extractLsb' rfl
  rw [middleWords, lastWord, front]
  exact whole.trans BitVec.extractLsb'_eq_self

/-- Under the first word of the prefix an address is made of the prefix and its last word
iff the words in between are zero. -/
theorem in6SetAddrNat64_lastWord_iff
    {addr : BitVec 128} (isNat64 : in6IsAddrNat64 addr = true) :
    in6SetAddrNat64 (lastWord addr) = addr ↔ middleWords addr = 0 := by
  constructor
  · intro same
    rw [← same]
    exact middleWords_in6SetAddrNat64 _
  · intro zero
    have first : addr.extractLsb' 96 32 = 0x0064ff9b := beq_iff_eq.mp isNat64
    have words := append_words addr
    rw [first, zero] at words
    exact words

namespace SocketAddress

variable {inet : Inet}

/-- The texts of an address are read back as the address. -/
structure RoundTrips (inet : Inet) (address : SocketAddress) : Prop where
  /-- `socket_address(sa.url())`. -/
  url : (ofUrl inet address.url).map SocketAddress.addr = some address.addr
  /-- `socket_address(sa.ipv6(), sa.port())`. -/
  ip : (ofIp inet address.ipv6 address.port).addr = address.addr

/-- The address that the text of an IPv6 address stands for. -/
def readBack (addr : BitVec 128) : BitVec 128 :=
  if in6IsAddrNat64 addr then in6SetAddrNat64 (lastWord addr) else addr

theorem readBack_eq_self_iff (addr : BitVec 128) :
    readBack addr = addr ↔ (in6IsAddrNat64 addr = true → middleWords addr = 0) := by
  unfold readBack
  split
  · rename_i isNat64
    rw [in6SetAddrNat64_lastWord_iff isNat64]
    exact ⟨fun zero _ => zero, fun zero => zero isNat64⟩
  · rename_i other
    exact iff_of_true rfl fun isNat64 => absurd isNat64 other

/-- The text of an IPv6 address is short and is read. -/
theorem pton6_ipText6 (documented : inet.Documented) (addr : BitVec 128) :
    inet.pton6 (ipText6 inet addr) = some (readBack addr) ∧
      (ipText6 inet addr).length ≤ 39 := by
  unfold ipText6 readBack
  split
  · have short := (documented.dotted _ _
      (documented.pton4_ntop4 (lastWord addr))).2.2
    refine ⟨documented.nat64 _, ?_⟩
    rw [List.length_append]
    simp only [kWellKnownNat64Prefix, List.length_cons, List.length_nil]
    omega
  · exact ⟨documented.pton6_ntop6 addr, documented.length_ntop6 addr⟩

/-- Nothing is cut off a text that is short. -/
theorem printUrl_of_le {text : List Char} (short : text.length ≤ 127) :
    printUrl text = text :=
  List.take_of_length_le short

theorem roundTrips_inet
    (documented : inet.Documented) (addr : BitVec 32) (port : BitVec 16) :
    RoundTrips inet (init inet (.inet addr port)) := by
  have read := documented.pton4_ntop4 addr
  obtain ⟨dotted, nonempty, short⟩ := documented.dotted _ _ read
  have portShort := length_portText_le port
  have whole : (init inet (.inet addr port)).url =
      inet.ntop4 addr ++ ':' :: portText port := by
    refine printUrl_of_le ?_
    rw [List.length_append, List.length_cons]
    omega
  constructor
  · rw [whole, ofUrl_dotted dotted nonempty short, read]
    rfl
  · change (ofIp inet (inet.ntop4 addr) port).addr = _
    rw [ofIp_of_pton4 read]

/-- An IPv6 address makes the round trip iff it is the one that its text stands for. -/
theorem roundTrips_inet6_iff
    (documented : inet.Documented) (addr : BitVec 128) (port : BitVec 16) :
    RoundTrips inet (init inet (.inet6 addr port 0 0)) ↔ readBack addr = addr := by
  obtain ⟨read, short⟩ := pton6_ipText6 documented addr
  obtain ⟨hex, colon⟩ := documented.colons _ _ read
  have portShort := length_portText_le port
  have whole : (init inet (.inet6 addr port 0 0)).url =
      '[' :: (ipText6 inet addr ++ ']' :: ':' :: portText port) := by
    refine printUrl_of_le ?_
    simp only [List.length_append, List.length_cons]
    omega
  have byUrl : ofUrl inet (init inet (.inet6 addr port 0 0)).url =
      some (init inet (.inet6 (readBack addr) port 0 0)) := by
    rw [whole, ofUrl_bracket hex (List.ne_nil_of_mem colon) (by omega), read]
    rfl
  have byIp : ofIp inet (init inet (.inet6 addr port 0 0)).ipv6
      (init inet (.inet6 addr port 0 0)).port =
        init inet (.inet6 (readBack addr) port 0 0) := ofIp_of_pton6 documented read
  constructor
  · intro trips
    have same := trips.ip
    rw [byIp, addr_init, addr_init] at same
    exact (Sockaddr.inet6.inj same).1
  · intro same
    exact ⟨by rw [byUrl, same]; rfl, by rw [byIp, same]⟩

/-- `ip()` of an IPv6 address. -/
theorem ip_init_inet6 (addr : BitVec 128) (port : BitVec 16) :
    (init inet (.inet6 addr port 0 0)).ip =
      if startsWithCase mappedPrefix (ipText6 inet addr) then (ipText6 inet addr).drop 7
      else if startsWithCase kWellKnownNat64Prefix (ipText6 inet addr) then
        (ipText6 inet addr).drop 9
      else ipText6 inet addr := rfl

/-- `ip()` of an IPv4-mapped address. -/
theorem ip_mapped (documented : inet.Documented) (addr : BitVec 32) (port : BitVec 16) :
    (init inet (.inet6 (in6SetAddrV4mapped addr) port 0 0)).ip = inet.ntop4 addr := by
  have text : ipText6 inet (in6SetAddrV4mapped addr) =
      [':', ':', 'f', 'f', 'f', 'f', ':'] ++ inet.ntop4 addr := by
    rw [ipText6, in6IsAddrNat64_in6SetAddrV4mapped, if_neg Bool.false_ne_true]
    exact documented.mapped addr
  have starts : startsWithCase mappedPrefix
      ([':', ':', 'f', 'f', 'f', 'f', ':'] ++ inet.ntop4 addr) = true := by
    change ([':', ':', 'f', 'f', 'f', 'f', ':'].map Char.toLower ==
      mappedPrefix.map Char.toLower) = true
    decide
  rw [ip_init_inet6, text, if_pos starts]
  rfl

/-- `ip()` of an address under the NAT64 prefix. -/
theorem ip_nat64 (addr : BitVec 32) (port : BitVec 16) :
    (init inet (.inet6 (in6SetAddrNat64 addr) port 0 0)).ip = inet.ntop4 addr := by
  have text : ipText6 inet (in6SetAddrNat64 addr) =
      kWellKnownNat64Prefix ++ inet.ntop4 addr := by
    rw [ipText6, in6IsAddrNat64_in6SetAddrNat64, if_pos rfl, lastWord_in6SetAddrNat64]
  have notMapped : startsWithCase mappedPrefix
      (kWellKnownNat64Prefix ++ inet.ntop4 addr) = false := by
    change ((kWellKnownNat64Prefix.take 7).map Char.toLower ==
      mappedPrefix.map Char.toLower) = false
    decide
  have starts : startsWithCase kWellKnownNat64Prefix
      (kWellKnownNat64Prefix ++ inet.ntop4 addr) = true := by
    change (kWellKnownNat64Prefix.map Char.toLower ==
      kWellKnownNat64Prefix.map Char.toLower) = true
    decide
  rw [ip_init_inet6, text, notMapped, if_neg Bool.false_ne_true, if_pos starts]
  rfl

/-- Every IPv4 address makes the round trip, an IPv6 address does so iff it is not under
the first word of the NAT64 prefix or has zeros behind it, and an IPv4 address keeps its
host and port when it becomes an IPv6 address. -/
theorem addresses_roundTrip_iff (inet : Inet) (documented : inet.Documented) :
    (∀ addr port, RoundTrips inet (init inet (.inet addr port))) ∧
    (∀ addr port, RoundTrips inet (init inet (.inet6 addr port 0 0)) ↔
      (in6IsAddrNat64 addr = true → middleWords addr = 0)) ∧
    ∀ addr port,
      ((init inet (.inet addr port)).v4tov4mappedAddress inet).ip =
        (init inet (.inet addr port)).ip ∧
      ((init inet (.inet addr port)).v4tov4mappedAddress inet).port = port ∧
      ((init inet (.inet addr port)).v4tonat64Address inet).ip =
        (init inet (.inet addr port)).ip ∧
      ((init inet (.inet addr port)).v4tonat64Address inet).port = port := by
  refine ⟨roundTrips_inet documented, fun addr port => ?_, fun addr port => ?_⟩
  · rw [roundTrips_inet6_iff documented, readBack_eq_self_iff]
  · exact ⟨ip_mapped documented addr port, rfl, ip_nat64 addr port, rfl⟩

/-- `10.0.0.1` and `64:ff9b::10.0.0.1` make the round trip. -/
theorem addresses_roundTrip_iff_plain :
    RoundTrips .plain (init .plain (.inet 0x0a000001 80)) ∧
      RoundTrips .plain (init .plain
        (.inet6 0x0064ff9b00000000000000000a000001 80 0 0)) := by
  obtain ⟨inet4, inet6, _⟩ := addresses_roundTrip_iff .plain Inet.documented_plain
  exact ⟨inet4 _ _, (inet6 _ _).mpr (by decide)⟩

/-- `64:ff9b:1::1.2.3.4` is read back as `64:ff9b::1.2.3.4`. -/
theorem roundTrip_loses_words :
    (ofUrl .plain (init .plain
      (.inet6 0x0064ff9b000100000000000001020304 80 0 0)).url).map SocketAddress.addr =
        some (.inet6 0x0064ff9b000000000000000001020304 80 0 0) ∧
      ¬RoundTrips .plain (init .plain
        (.inet6 0x0064ff9b000100000000000001020304 80 0 0)) := by
  have read : (ofUrl .plain (init .plain
      (.inet6 0x0064ff9b000100000000000001020304 80 0 0)).url).map SocketAddress.addr =
        some (.inet6 0x0064ff9b000000000000000001020304 80 0 0) := by
    decide
  refine ⟨read, fun trips => ?_⟩
  have same := trips.url
  rw [read, Option.some.injEq] at same
  exact absurd same (by decide)

end SocketAddress
end Skplat.Network
