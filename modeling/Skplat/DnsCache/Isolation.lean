import Skplat.Data.Numeral
import Skplat.LruCache.Defs
import Skplat.NetworkDatabase.XDns

/-!
# The keys of `DnsCache`

`DnsCache::getAddrs` looks for the addresses of a host and a service in an `LruCache`,
then in the database, then asks the resolver, and keeps what it has got in the cache.
The key in the cache is the host followed by the service, so two pairs share an entry
when their concatenations are equal.

The database and the resolver are functions that do not change.  A call has no result
when `LruCache` uses an index it must not use.
-/

namespace Skplat
namespace DnsCache

/-- What the database and the resolver answer. -/
structure Sources where
  /-- `NetworkDatabase::getAddrByHost`. -/
  getAddrByHost : String → List SocketAddress
  /-- `getaddrinfo`, which may fail. -/
  getaddrinfo : String → Option String → Option (List SocketAddress)

/-- A host and a service, or a null pointer. -/
abbrev Pair := String × Option String

/-- `tmpKey`, and `mKey` in `getAddrInfo`. -/
def tmpKey (pair : Pair) : String :=
  pair.1 ++ pair.2.getD ""

/-- `atoi`, on the bytes of a string. -/
def atoi (text : String) : Int :=
  Numeral.atoi text.toUTF8.toList

/-- `strncasecmp(service, word, length of word) == 0`. -/
def startsWithNoCase (service word : String) : Bool :=
  (service.toList.take word.length).map Char.toLower = word.toList

/-- The port that `getAddrs` sets in the addresses from the database. -/
def port : Option String → Int
  | none => 80
  | some service =>
      if atoi service = 0 then
        if startsWithNoCase service "https" then 443
        else if startsWithNoCase service "http" then 80
        else 80
      else atoi service

/-- `SocketAddress::setPort`. -/
def setPort (port : Int) (sa : SocketAddress) : SocketAddress :=
  { sa with mPort := UInt16.ofInt port }

/-- `mHostCache`. -/
abbrev HostCache (cap : ℕ) := LruCache.Cache String (List SocketAddress) cap

/-- What `LruCache` gets in a call of `getAddrs`: three readings of the clock, and the
free bucket for a new entry. -/
structure Choice (cap : ℕ) where
  first : Int
  idx : Fin cap
  now : Int
  last : Int

variable {cap : ℕ}

/-- `mHostCache.add`. -/
def addToCache (cache : HostCache cap) (key : String) (addrs : List SocketAddress)
    (choice : Choice cap) : Option (HostCache cap) :=
  (cache.makeRoom key).bind fun room =>
    if room.mContain choice.idx = none then room.put key addrs choice.idx choice.now
    else none

/-- `getHostByCache`. -/
def getHostByCache (cache : HostCache cap) (key : String) (now : Int) :
    List SocketAddress × HostCache cap :=
  ((cache.get key now).1.getD [], (cache.get key now).2)

/-- `getAddrInfo`. -/
def getAddrInfo (sources : Sources) (cache : HostCache cap) (pair : Pair)
    (choice : Choice cap) : Option (HostCache cap) :=
  match sources.getaddrinfo pair.1 pair.2 with
  | none => some cache
  | some addrs => addToCache cache (tmpKey pair) addrs choice

/-- The part of `getAddrs` that fills the cache. -/
def fill (sources : Sources) (cache : HostCache cap) (pair : Pair) (choice : Choice cap) :
    Option (HostCache cap) :=
  if sources.getAddrByHost pair.1 = [] then getAddrInfo sources cache pair choice
  else
    addToCache cache (tmpKey pair)
      ((sources.getAddrByHost pair.1).map (setPort (port pair.2))) choice

/-- `getAddrs`. -/
def getAddrs (sources : Sources) (cache : HostCache cap) (pair : Pair)
    (choice : Choice cap) : Option (List SocketAddress × HostCache cap) :=
  let found := getHostByCache cache (tmpKey pair) choice.first
  if found.1 ≠ [] then some found
  else
    (fill sources found.2 pair choice).map fun filled =>
      getHostByCache filled (tmpKey pair) choice.last

/-- What the database, or else the resolver, has for a pair, with the port of its
service. -/
def Sources.obtained (sources : Sources) (pair : Pair) : List SocketAddress :=
  if sources.getAddrByHost pair.1 = [] then
    (sources.getaddrinfo pair.1 pair.2).getD []
  else (sources.getAddrByHost pair.1).map (setPort (port pair.2))

/-- The cache, the pairs asked for, and what they got. -/
structure State (cap : ℕ) where
  cache : HostCache cap
  answers : List (Pair × List SocketAddress)

/-- A call of `getAddrs`. -/
structure Action (cap : ℕ) where
  pair : Pair
  choice : Choice cap

/-- Calls on a cache that is empty at first. -/
def system (sources : Sources) (cap : ℕ) (capacity : Int) :
    Machine (State cap) (Action cap) where
  initial state := state = ⟨.new capacity, []⟩
  step state action :=
    (getAddrs sources state.cache action.pair action.choice).map fun result =>
      ⟨result.2, state.answers ++ [(action.pair, result.1)]⟩

namespace State

/-- Every call got what was obtained for its own host and service. -/
def Isolated (sources : Sources) (state : State cap) : Prop :=
  ∀ answer ∈ state.answers, answer.2 = sources.obtained answer.1

/-- No earlier call was for another pair with the same concatenation. -/
def Distinguished (state : State cap) (action : Action cap) : Prop :=
  ∀ answer ∈ state.answers, tmpKey answer.1 = tmpKey action.pair →
    answer.1 = action.pair

instance (state : State cap) : DecidablePred state.Distinguished :=
  fun action => inferInstanceAs (Decidable (∀ answer ∈ state.answers,
    tmpKey answer.1 = tmpKey action.pair → answer.1 = action.pair))

end State

/-- The entries of the cache were obtained for some of these pairs. -/
def Filled (sources : Sources) (pairs : List Pair) (cache : HostCache cap) : Prop :=
  ∀ idx key addrs, cache.mContain idx = some (key, addrs) →
    ∃ pair ∈ pairs, tmpKey pair = key ∧ addrs = sources.obtained pair

namespace Filled

variable {sources : Sources} {pairs : List Pair} {cache : HostCache cap} {pair : Pair}

/-- More pairs. -/
theorem mono
    (filled : Filled sources pairs cache)
    {more : List Pair}
    (included : ∀ pair ∈ pairs, pair ∈ more) :
    Filled sources more cache := by
  intro idx key addrs present
  obtain ⟨other, member, rest⟩ := filled idx key addrs present
  exact ⟨other, included other member, rest⟩

/-- Adding what was obtained for a pair. -/
theorem addToCache
    (filled : Filled sources pairs cache)
    {choice : Choice cap} {next : HostCache cap}
    (member : pair ∈ pairs)
    (added : DnsCache.addToCache cache (tmpKey pair) (sources.obtained pair) choice =
      some next) :
    Filled sources pairs next ∧ next.Holds (tmpKey pair) := by
  obtain ⟨room, made, isPut⟩ := Option.bind_eq_some_iff.mp added
  split at isPut
  · have contain := LruCache.Cache.mContain_of_put isPut
    constructor
    · intro idx key addrs present
      rw [contain] at present
      obtain ⟨_, isNew⟩ | ⟨_, inRoom⟩ := update_cases present
      · cases isNew
        exact ⟨pair, member, rfl, rfl⟩
      · exact filled idx key addrs (LruCache.Cache.mContain_of_makeRoom made inRoom)
    · exact ⟨choice.idx, _, by rw [contain, Function.update_self]⟩
  · cases isPut

/-- Filling the cache: the key is there afterwards, unless nothing was obtained. -/
theorem fill
    (filled : Filled sources pairs cache)
    {choice : Choice cap} {next : HostCache cap}
    (member : pair ∈ pairs)
    (isFilled : DnsCache.fill sources cache pair choice = some next) :
    Filled sources pairs next ∧
      (next.Holds (tmpKey pair) ∨ sources.obtained pair = []) := by
  unfold DnsCache.fill at isFilled
  split at isFilled
  · rename_i noRows
    unfold getAddrInfo at isFilled
    split at isFilled
    · rename_i failed
      cases isFilled
      refine ⟨filled, Or.inr ?_⟩
      rw [Sources.obtained, if_pos noRows, failed]
      rfl
    · rename_i addrs resolved
      have isObtained : sources.obtained pair = addrs := by
        rw [Sources.obtained, if_pos noRows, resolved]
        rfl
      rw [← isObtained] at isFilled
      exact (filled.addToCache member isFilled).imp_right Or.inl
  · rename_i rows
    have isObtained : sources.obtained pair =
        (sources.getAddrByHost pair.1).map (setPort (port pair.2)) := by
      rw [Sources.obtained, if_neg rows]
    rw [← isObtained] at isFilled
    exact (filled.addToCache member isFilled).imp_right Or.inl

/-- The cache answers with what was obtained for the pair, if no other pair has its
key. -/
theorem getHostByCache
    (filled : Filled sources pairs cache)
    (alone : ∀ other ∈ pairs, tmpKey other = tmpKey pair → other = pair)
    (now : Int) :
    (DnsCache.getHostByCache cache (tmpKey pair) now).1 = sources.obtained pair ∨
      (¬cache.Holds (tmpKey pair) ∧
        (DnsCache.getHostByCache cache (tmpKey pair) now).1 = []) := by
  unfold DnsCache.getHostByCache
  obtain ⟨idx, addrs, present, isValue⟩ | ⟨absent, isNull⟩ :=
    cache.get_cases (tmpKey pair) now
  · obtain ⟨other, member, sameKey, isObtained⟩ := filled idx _ addrs present
    left
    rw [isValue, Option.getD_some, isObtained, alone other member sameKey]
  · right
    exact ⟨absent, by rw [isNull]; rfl⟩

/-- A call of `getAddrs` answers with what was obtained for its pair. -/
theorem getAddrs
    (filled : Filled sources pairs cache)
    {choice : Choice cap} {result : List SocketAddress × HostCache cap}
    (member : pair ∈ pairs)
    (alone : ∀ other ∈ pairs, tmpKey other = tmpKey pair → other = pair)
    (returned : DnsCache.getAddrs sources cache pair choice = some result) :
    Filled sources pairs result.2 ∧ result.1 = sources.obtained pair := by
  have touched : ∀ {other : HostCache cap} (now : Int), Filled sources pairs other →
      Filled sources pairs (DnsCache.getHostByCache other (tmpKey pair) now).2 := by
    intro other now isFilled idx key addrs present
    rw [DnsCache.getHostByCache, LruCache.Cache.mContain_get] at present
    exact isFilled idx key addrs present
  simp only [DnsCache.getAddrs] at returned
  split at returned
  · rename_i nonempty
    cases returned
    refine ⟨touched _ filled, ?_⟩
    obtain isObtained | ⟨_, isEmpty⟩ := filled.getHostByCache alone choice.first
    · exact isObtained
    · exact absurd isEmpty nonempty
  · obtain ⟨next, isFilled, isResult⟩ := Option.map_eq_some_iff.mp returned
    cases isResult
    obtain ⟨nextFilled, held⟩ := (touched choice.first filled).fill member isFilled
    refine ⟨touched _ nextFilled, ?_⟩
    obtain isObtained | ⟨absent, isEmpty⟩ := nextFilled.getHostByCache alone choice.last
    · exact isObtained
    · cases held with
      | inl present => exact absurd present absent
      | inr nothing => rw [isEmpty, nothing]

end Filled

/-- In every run in which no two different pairs asked for have the same concatenation,
each call gets what was obtained for its own host and service. -/
theorem isolated_of_distinguished
    {sources : Sources} {capacity : Int} {state : State cap}
    (reached : (system sources cap capacity).ReachableUnder State.Distinguished state) :
    state.Isolated sources := by
  have inv : Filled sources (state.answers.map Prod.fst) state.cache ∧
      state.Isolated sources := by
    apply reached.invariant
    · rintro state start
      rw [start]
      exact ⟨fun _ _ _ present => (by cases present), fun _ absent => (by cases absent)⟩
    · intro state action next _ ⟨filled, isolated⟩ distinguished stepped
      obtain ⟨result, returned, isNext⟩ := Option.map_eq_some_iff.mp stepped
      cases isNext
      have more : Filled sources (state.answers.map Prod.fst ++ [action.pair])
          state.cache :=
        filled.mono fun pair present => List.mem_append_left _ present
      have alone : ∀ other ∈ state.answers.map Prod.fst ++ [action.pair],
          tmpKey other = tmpKey action.pair → other = action.pair := by
        intro other present sameKey
        rw [List.mem_append, List.mem_singleton] at present
        cases present with
        | inl earlier =>
            obtain ⟨answer, isAnswer, rfl⟩ := List.mem_map.mp earlier
            exact distinguished answer isAnswer sameKey
        | inr same => exact same
      obtain ⟨nextFilled, isObtained⟩ := more.getAddrs (by simp) alone returned
      constructor
      · rw [List.map_append]
        exact nextFilled
      · intro answer present
        rw [List.mem_append, List.mem_singleton] at present
        cases present with
        | inl earlier => exact isolated answer earlier
        | inr new => rw [new, isObtained]
  exact inv.2

/-- The address of a host with a numeric name, as the resolver returns it. -/
def resolved (host : String) (port : UInt16) : SocketAddress :=
  ⟨host, "", host, port, .v4, 0, 0⟩

/-- A database with one host, and a resolver for numeric names and services. -/
def numeric : Sources where
  getAddrByHost host :=
    if host = "a.com" then [⟨"10.0.0.9", "", host, 65535, .v4, 0, 0⟩] else []
  getaddrinfo host service :=
    some [resolved host (UInt16.ofInt ((service.map atoi).getD 0))]

/-- Two services of the host in the database, one of them twice, and a host that is
resolved. -/
def differentKeys : List (Action 47) :=
  [⟨("a.com", some "http"), ⟨1, 0, 1, 1⟩⟩, ⟨("a.com", some "https"), ⟨2, 1, 2, 2⟩⟩,
    ⟨("10.0.0.1", some "180"), ⟨3, 2, 3, 3⟩⟩, ⟨("a.com", some "http"), ⟨4, 3, 4, 4⟩⟩]

/-- Each call gets the port of its service. -/
theorem isolated_differentKeys :
    ∃ state, (system numeric 47 20).ReachableUnder State.Distinguished state ∧
      state.answers.map (fun answer => answer.2.map SocketAddress.mPort) =
        [[80], [443], [180], [80]] ∧
      state.Isolated numeric := by
  obtain ⟨state, reached, holds⟩ := Machine.ReachableUnder.exists_of_execUnder
    (.initial rfl :
      (system numeric 47 20).ReachableUnder State.Distinguished ⟨.new 20, []⟩)
    (by decide +kernel : ((system numeric 47 20).execUnder State.Distinguished
      ⟨.new 20, []⟩ differentKeys).map (fun state =>
        decide (state.answers.map (fun answer => answer.2.map SocketAddress.mPort) =
          [[80], [443], [180], [80]])) = some true)
  exact ⟨state, reached, of_decide_eq_true holds, isolated_of_distinguished reached⟩

/-- Two hosts and two services with the same concatenation. -/
def sameKey : List (Action 47) :=
  [⟨("10.0.0.1", some "180"), ⟨1, 0, 1, 1⟩⟩, ⟨("10.0.0.11", some "80"), ⟨2, 1, 2, 2⟩⟩]

/-- The second call gets the address and the port of the first one. -/
theorem notIsolated_sameKey :
    ∃ state, (system numeric 47 20).exec ⟨.new 20, []⟩ sameKey = some state ∧
      (system numeric 47 20).Reachable state ∧
      (("10.0.0.11", some "80"), [resolved "10.0.0.1" 180]) ∈ state.answers ∧
      numeric.obtained ("10.0.0.11", some "80") = [resolved "10.0.0.11" 80] ∧
      ¬state.Isolated numeric := by
  obtain ⟨state, executed, reached, holds⟩ := Machine.exists_reachable_of_exec
    (show (system numeric 47 20).initial ⟨.new 20, []⟩ from rfl)
    (by decide +kernel : ((system numeric 47 20).exec ⟨.new 20, []⟩ sameKey).map
      (fun state => decide ((("10.0.0.11", some "80"), [resolved "10.0.0.1" 180]) ∈
        state.answers)) = some true)
  have present := of_decide_eq_true holds
  have own : numeric.obtained ("10.0.0.11", some "80") = [resolved "10.0.0.11" 80] := by
    decide +kernel
  refine ⟨state, executed, reached, present, own, ?_⟩
  intro isolated
  have equal := isolated _ present
  rw [own] at equal
  exact absurd equal (by decide +kernel)

end DnsCache
end Skplat
