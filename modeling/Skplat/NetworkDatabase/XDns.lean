import Skplat.Machine.Basic
import Mathlib.Data.List.Sort
import Mathlib.Data.List.Nodup
import Mathlib.Algebra.Ring.Int.Defs
import Mathlib.Algebra.Ring.Nat

/-!
# The table `xdns`

`NetworkDatabase` keeps the addresses of hosts in a table without a unique constraint.
`xDnsInsert` deletes the row of the same host and ip before it inserts, and the other
operations are single statements.  SQLite executes each statement as it reads, so a
statement is modelled by its effect on the rows, in the order of their insertion.

`xDnsUpdateHostIp` writes the column `ip` without looking for a row that has the new
value already.
-/

namespace Skplat

/-- `SocketAddress::ADDRESS_TYPE`. -/
inductive AddressType
  | invalid
  | v4
  | v6
  deriving DecidableEq, Repr

/-- The number of an address type. -/
def AddressType.toInt : AddressType → Int
  | .invalid => 0
  | .v4 => 1
  | .v6 => 2

/-- `SocketAddress`, without the copy of the ip and the port in `mAddr`. -/
structure SocketAddress where
  mCharIpv4 : String
  mCharIpv6 : String
  mHost : String
  mPort : UInt16
  mType : AddressType
  mFetchType : UInt16
  mConnProf : Int
  deriving DecidableEq, Repr

namespace SocketAddress

/-- `SocketAddress(const char *host, const char *ip)`.  The assertion that `ip` is not
null stops the program. -/
def ofHostIp (host ip : Option String) : Option SocketAddress :=
  ip.map fun ip =>
    { mCharIpv4 := if ':' ∈ ip.toList then "" else ip
      mCharIpv6 := if ':' ∈ ip.toList then ip else ""
      mHost := host.getD ip
      mPort := 65535
      mType := if ':' ∈ ip.toList then .v6 else .v4
      mFetchType := 0
      mConnProf := 0 }

/-- `getIp`. -/
def getIp (sa : SocketAddress) : String :=
  if sa.mType = .v4 then sa.mCharIpv4 else sa.mCharIpv6

/-- The ip given to the constructor is the one that `getIp` returns. -/
theorem getIp_of_ofHostIp
    {host ip : Option String} {sa : SocketAddress}
    (built : ofHostIp host ip = some sa) :
    ip = some sa.getIp := by
  obtain ⟨text, rfl, rfl⟩ := Option.map_eq_some_iff.mp built
  by_cases colon : ':' ∈ text.toList
  · simp [getIp, colon]
  · simp [getIp, colon]

end SocketAddress

namespace NetworkDatabase

/-- A row of `xdns`. -/
structure Row where
  host : String
  ip : String
  ipType : Int
  fetchType : Int
  connProfile : Int
  deriving DecidableEq, Repr

/-- The columns that should identify a row. -/
def Row.key (row : Row) : String × String := (row.host, row.ip)

/-- The rows of `xdns`. -/
abbrev Table := List Row

/-- `ColumnEntry::getString` of a text: the text `NULL` stands for a null pointer. -/
def getString (text : String) : Option String :=
  if text = "NULL" then none else some text

namespace Table

/-- `select count(*) from xdns where host = … AND ip = …`, read as an `int`. -/
def count (table : Table) (host ip : String) : Int :=
  Int.bmod (table.countP fun row => row.key = (host, ip)) (2 ^ 32)

/-- `delete from xdns where host = … and ip = …`. -/
def delete (table : Table) (host ip : String) : Table :=
  table.filter fun row => row.key ≠ (host, ip)

/-- `update xdns set ip = …, conn_profile = -1 where host = … and ip = …`. -/
def updateIp (table : Table) (host ip newIp : String) : Table :=
  table.map fun row =>
    if row.key = (host, ip) then { row with ip := newIp, connProfile := -1 } else row

/-- `update xdns set conn_profile = … where host = … and ip = …`. -/
def updateProfile (table : Table) (connProfile : Int) (host ip : String) : Table :=
  table.map fun row =>
    if row.key = (host, ip) then { row with connProfile := connProfile } else row

/-- `xDnsExist`. -/
def xDnsExist (table : Table) (sa : SocketAddress) : Int :=
  if table.count sa.mHost sa.getIp > 0 then table.count sa.mHost sa.getIp else 0

/-- `xDnsDelete` on two pointers. -/
def xDnsDelete (table : Table) (host ip : Option String) : Table :=
  match ip with
  | none => table
  | some ip => table.delete (host.getD ip) ip

/-- `xDnsInsert`. -/
def xDnsInsert (table : Table) (sa : SocketAddress) : Table :=
  (if table.xDnsExist sa ≠ 0 then table.xDnsDelete (some sa.mHost) (some sa.getIp)
    else table) ++
    [{ host := sa.mHost
       ip := sa.getIp
       ipType := sa.mType.toInt
       fetchType := sa.mFetchType.toNat
       connProfile := sa.mConnProf }]

/-- `xDnsUpdateProf`. -/
def xDnsUpdateProf (table : Table) (host ip : Option String) (connProfile : Int) : Table :=
  match ip with
  | none => table
  | some ip => table.updateProfile connProfile (host.getD ip) ip

/-- `xDnsUpdateHostIp`. -/
def xDnsUpdateHostIp (table : Table) (host ip newIp : Option String) : Table :=
  match host, ip, newIp with
  | some host, some ip, some newIp => table.updateIp host ip newIp
  | _, _, _ => table

/-- `xDnsVCallback`: the address of a row. -/
def xDnsVCallback (row : Row) : Option SocketAddress :=
  (SocketAddress.ofHostIp (getString row.host) (getString row.ip)).map fun sa =>
    { sa with mFetchType := UInt16.ofInt row.fetchType, mConnProf := row.connProfile }

/-- `getAddrByHost` on an empty vector: the rows of the host, ordered by
`conn_profile`. -/
def getAddrByHost (table : Table) (host : String) : Option (List SocketAddress) :=
  ((table.filter fun row => row.host = host).insertionSort fun first second =>
    first.connProfile ≤ second.connProfile).mapM xDnsVCallback

end Table

/-- A call that changes the table. -/
inductive Action
  | xDnsInsert (sa : SocketAddress)
  | xDnsUpdateHostIp (host ip newIp : Option String)
  | xDnsUpdateProf (host ip : Option String) (connProfile : Int)
  | xDnsDelete (host ip : Option String)
  deriving DecidableEq, Repr

/-- The table after a call. -/
def Table.apply (table : Table) : Action → Table
  | .xDnsInsert sa => table.xDnsInsert sa
  | .xDnsUpdateHostIp host ip newIp => table.xDnsUpdateHostIp host ip newIp
  | .xDnsUpdateProf host ip connProfile => table.xDnsUpdateProf host ip connProfile
  | .xDnsDelete host ip => table.xDnsDelete host ip

/-- The calls on a table that is empty at first. -/
def system : Machine Table Action where
  initial table := table = []
  step table action := some (table.apply action)

namespace Table

/-- No two rows have the same host and ip. -/
def Unique (table : Table) : Prop :=
  (table.map Row.key).Nodup

instance (table : Table) : Decidable table.Unique :=
  inferInstanceAs (Decidable (table.map Row.key).Nodup)

/-- There is one row for a host and an ip, and no host has an address twice. -/
structure NoDuplicates (table : Table) : Prop where
  rows : table.Unique
  addresses : ∀ host addresses, table.getAddrByHost host = some addresses →
    (addresses.map SocketAddress.getIp).Nodup

/-- `xDnsUpdateHostIp` does not give a row the new ip when another row of the host has
it already. -/
def KeepsApart (table : Table) : Action → Prop
  | .xDnsUpdateHostIp (some host) (some ip) (some newIp) =>
      ip = newIp ∨ (host, ip) ∉ table.map Row.key ∨ (host, newIp) ∉ table.map Row.key
  | _ => True

instance (table : Table) : DecidablePred table.KeepsApart
  | .xDnsUpdateHostIp (some host) (some ip) (some newIp) =>
      inferInstanceAs (Decidable (ip = newIp ∨ (host, ip) ∉ table.map Row.key ∨
        (host, newIp) ∉ table.map Row.key))
  | .xDnsUpdateHostIp none _ _ | .xDnsUpdateHostIp (some _) none _
  | .xDnsUpdateHostIp (some _) (some _) none
  | .xDnsInsert _ | .xDnsUpdateProf _ _ _ | .xDnsDelete _ _ => isTrue trivial

/-- Which renamings of one member keep a list without repetitions. -/
theorem nodup_map_replace_iff
    {Key : Type*} [DecidableEq Key]
    {keys : List Key}
    (distinct : keys.Nodup)
    (old new : Key) :
    (keys.map fun key => if key = old then new else key).Nodup ↔
      old = new ∨ old ∉ keys ∨ new ∉ keys := by
  rw [List.nodup_map_iff_inj_on distinct]
  constructor
  · intro injective
    by_contra clash
    simp only [not_or, not_not] at clash
    obtain ⟨different, oldPresent, newPresent⟩ := clash
    apply different
    apply injective old oldPresent new newPresent
    rw [if_pos rfl, ite_self]
  · intro apart first firstPresent second secondPresent equal
    grind

namespace Unique

variable {table : Table}

/-- A unique row is counted once. -/
theorem count_eq
    (unique : table.Unique)
    (host ip : String) :
    table.count host ip = if (host, ip) ∈ table.map Row.key then 1 else 0 := by
  have counted : (table.countP fun row => row.key = (host, ip)) =
      if (host, ip) ∈ table.map Row.key then 1 else 0 := by
    rw [← List.Nodup.count unique, List.count_eq_countP, List.countP_map]
    apply List.countP_congr
    intro row _
    simp
  unfold Table.count
  rw [counted]
  split
  · rfl
  · rfl

/-- Deleting rows keeps the others apart. -/
theorem delete
    (unique : table.Unique)
    (host ip : String) :
    (table.delete host ip).Unique := by
  have sublist : List.Sublist (table.delete host ip) table := List.filter_sublist
  exact (sublist.map Row.key).nodup unique

/-- Deleting with pointers. -/
theorem xDnsDelete
    (unique : table.Unique)
    (host ip : Option String) :
    (table.xDnsDelete host ip).Unique := by
  cases ip with
  | none => exact unique
  | some ip => exact unique.delete _ ip

/-- A row with a new host and ip can be appended. -/
theorem append
    (unique : table.Unique)
    {row : Row}
    (absent : row.key ∉ table.map Row.key) :
    Table.Unique (table ++ [row]) := by
  unfold Table.Unique
  rw [List.map_append, List.nodup_append]
  refine ⟨unique, List.nodup_singleton _, ?_⟩
  intro key present other isRow same
  rw [List.map_singleton, List.mem_singleton] at isRow
  rw [same, isRow] at present
  exact absent present

/-- `xDnsInsert` replaces the row of the same host and ip. -/
theorem xDnsInsert
    (unique : table.Unique)
    (sa : SocketAddress) :
    (table.xDnsInsert sa).Unique := by
  unfold Table.xDnsInsert Table.xDnsExist
  rw [unique.count_eq]
  by_cases present : (sa.mHost, sa.getIp) ∈ table.map Row.key
  · simp only [if_pos present]
    rw [if_pos (by decide)]
    apply (unique.xDnsDelete _ _).append
    intro kept
    obtain ⟨row, remains, isKey⟩ := List.mem_map.mp kept
    have other := (List.mem_filter.mp remains).2
    exact of_decide_eq_true other isKey
  · simp only [if_neg present]
    rw [if_neg (by decide)]
    exact unique.append present

/-- `xDnsUpdateProf` writes no column of the key. -/
theorem xDnsUpdateProf
    (unique : table.Unique)
    (host ip : Option String)
    (connProfile : Int) :
    (table.xDnsUpdateProf host ip connProfile).Unique := by
  cases ip with
  | none => exact unique
  | some ip =>
      have sameKeys : (table.updateProfile connProfile (host.getD ip) ip).map Row.key =
          table.map Row.key := by
        unfold Table.updateProfile
        rw [List.map_map]
        apply List.map_congr_left
        intro row _
        rw [Function.comp_apply]
        split
        · rfl
        · rfl
      unfold Table.Unique Table.xDnsUpdateProf
      rw [sameKeys]
      exact unique

/-- When the update of an ip keeps the rows apart. -/
theorem updateIp_iff
    (unique : table.Unique)
    (host ip newIp : String) :
    (table.updateIp host ip newIp).Unique ↔
      ip = newIp ∨ (host, ip) ∉ table.map Row.key ∨
        (host, newIp) ∉ table.map Row.key := by
  have keys : (table.updateIp host ip newIp).map Row.key =
      (table.map Row.key).map fun key =>
        if key = (host, ip) then (host, newIp) else key := by
    unfold Table.updateIp
    rw [List.map_map, List.map_map]
    apply List.map_congr_left
    intro row _
    simp only [Function.comp_apply]
    split
    · rename_i isKey
      rw [Row.key, Prod.mk.injEq] at isKey
      rw [Row.key, isKey.1]
    · rfl
  unfold Table.Unique
  rw [keys, nodup_map_replace_iff unique, Prod.mk.injEq, and_iff_right rfl]

/-- The step of a run. -/
theorem apply_iff
    (unique : table.Unique)
    (action : Action) :
    (table.apply action).Unique ↔ table.KeepsApart action := by
  cases action with
  | xDnsInsert sa => exact iff_of_true (unique.xDnsInsert sa) trivial
  | xDnsUpdateHostIp host ip newIp =>
      match host, ip, newIp with
      | some host, some ip, some newIp => exact unique.updateIp_iff host ip newIp
      | none, _, _ => exact iff_of_true unique trivial
      | some _, none, _ => exact iff_of_true unique trivial
      | some _, some _, none => exact iff_of_true unique trivial
  | xDnsUpdateProf host ip connProfile =>
      exact iff_of_true (unique.xDnsUpdateProf host ip connProfile) trivial
  | xDnsDelete host ip => exact iff_of_true (unique.xDnsDelete host ip) trivial

end Unique

/-- The ip of a row's address is the row's ip. -/
theorem getIp_xDnsVCallback
    {row : Row} {sa : SocketAddress}
    (built : xDnsVCallback row = some sa) :
    sa.getIp = row.ip := by
  obtain ⟨plain, isPlain, rfl⟩ := Option.map_eq_some_iff.mp built
  have isIp : getString row.ip = some plain.getIp :=
    SocketAddress.getIp_of_ofHostIp isPlain
  unfold getString at isIp
  split at isIp
  · cases isIp
  · exact (Option.some.inj isIp).symm

/-- The addresses of some rows carry the ips of these rows. -/
theorem map_getIp_of_mapM
    {rows : List Row} {addresses : List SocketAddress}
    (built : rows.mapM xDnsVCallback = some addresses) :
    addresses.map SocketAddress.getIp = rows.map Row.ip := by
  induction rows generalizing addresses with
  | nil =>
      cases built
      rfl
  | cons row rest inductionHypothesis =>
      rw [List.mapM_cons] at built
      obtain ⟨first, isFirst, built⟩ := Option.bind_eq_some_iff.mp built
      obtain ⟨others, areOthers, built⟩ := Option.bind_eq_some_iff.mp built
      cases built
      rw [List.map_cons, List.map_cons, getIp_xDnsVCallback isFirst,
        inductionHypothesis areOthers]

/-- A table without duplicates gives each address once. -/
theorem Unique.noDuplicates
    {table : Table}
    (unique : table.Unique) :
    table.NoDuplicates where
  rows := unique
  addresses := by
    intro host addresses built
    rw [map_getIp_of_mapM built]
    have ofHost : ((table.filter fun row => row.host = host).map Row.ip).Nodup := by
      have kept : ((table.filter fun row => row.host = host).map Row.key).Nodup :=
        (List.filter_sublist.map Row.key).nodup unique
      have paired : (table.filter fun row => row.host = host).map Row.key =
          ((table.filter fun row => row.host = host).map Row.ip).map (Prod.mk host) := by
        rw [List.map_map]
        apply List.map_congr_left
        intro row present
        have isHost : row.host = host := of_decide_eq_true (List.mem_filter.mp present).2
        rw [Function.comp_apply, Row.key, isHost]
      rw [paired] at kept
      exact List.Nodup.of_map _ kept
    exact ((List.perm_insertionSort _ _).map Row.ip).nodup_iff.mpr ofHost

end Table

/-- In every run in which `xDnsUpdateHostIp` never gives a row an ip that another row of
the host has, the rows stay apart. -/
theorem unique_of_keepsApart
    {table : Table}
    (reached : system.ReachableUnder Table.KeepsApart table) :
    table.Unique := by
  refine reached.invariant (fun start isStart => ?_) fun _ action _ _ sound apart stepped => ?_
  · rw [isStart]
    exact List.nodup_nil
  · cases stepped
    exact (sound.apply_iff action).mpr apart

/-- In these runs no host and ip occur twice, and no address is returned twice. -/
theorem noDuplicates_of_keepsApart
    {table : Table}
    (reached : system.ReachableUnder Table.KeepsApart table) :
    table.NoDuplicates :=
  (unique_of_keepsApart reached).noDuplicates

/-- The first call that breaks the condition makes a duplicate. -/
theorem not_unique_of_not_keepsApart
    {table next : Table}
    {action : Action}
    (reached : system.ReachableUnder Table.KeepsApart table)
    (clash : ¬table.KeepsApart action)
    (stepped : system.step table action = some next) :
    ¬next.Unique := by
  cases stepped
  intro unique
  exact clash (((unique_of_keepsApart reached).apply_iff action).mp unique)

/-- Two addresses of a host; the first one is replaced by a third and inserted again. -/
def replaced : List Action :=
  [.xDnsInsert ⟨"1.1.1.1", "", "a.com", 80, .v4, 0, 0⟩,
    .xDnsInsert ⟨"2.2.2.2", "", "a.com", 80, .v4, 0, 0⟩,
    .xDnsUpdateHostIp (some "a.com") (some "1.1.1.1") (some "3.3.3.3"),
    .xDnsUpdateProf (some "a.com") (some "3.3.3.3") 12,
    .xDnsInsert ⟨"2.2.2.2", "", "a.com", 443, .v4, 0, 7⟩]

/-- Each of the two addresses is there once. -/
theorem noDuplicates_replaced :
    ∃ table, system.ReachableUnder Table.KeepsApart table ∧
      table.map Row.ip = ["3.3.3.3", "2.2.2.2"] ∧ table.NoDuplicates := by
  obtain ⟨table, reached, holds⟩ := Machine.ReachableUnder.exists_of_execUnder
    (.initial rfl : system.ReachableUnder Table.KeepsApart [])
    (by decide +kernel : (system.execUnder Table.KeepsApart [] replaced).map
      (fun table => decide (table.map Row.ip = ["3.3.3.3", "2.2.2.2"])) = some true)
  exact ⟨table, reached, of_decide_eq_true holds, noDuplicates_of_keepsApart reached⟩

/-- Two addresses of a host; the first one is replaced by the second. -/
def collided : List Action :=
  [.xDnsInsert ⟨"1.1.1.1", "", "a.com", 80, .v4, 0, 0⟩,
    .xDnsInsert ⟨"2.2.2.2", "", "a.com", 80, .v4, 0, 0⟩,
    .xDnsUpdateHostIp (some "a.com") (some "1.1.1.1") (some "2.2.2.2")]

/-- The address is there twice, and `getAddrByHost` returns it twice. -/
theorem duplicate_collided :
    ∃ table, system.exec [] collided = some table ∧ system.Reachable table ∧
      table.map Row.key = [("a.com", "2.2.2.2"), ("a.com", "2.2.2.2")] ∧
      (table.getAddrByHost "a.com").map (List.map SocketAddress.getIp) =
        some ["2.2.2.2", "2.2.2.2"] ∧
      ¬table.NoDuplicates := by
  obtain ⟨table, executed, reached, holds⟩ := Machine.exists_reachable_of_exec
    (show system.initial [] from rfl)
    (by decide +kernel : (system.exec [] collided).map (fun table =>
      decide (table.map Row.key = [("a.com", "2.2.2.2"), ("a.com", "2.2.2.2")] ∧
        (table.getAddrByHost "a.com").map (List.map SocketAddress.getIp) =
          some ["2.2.2.2", "2.2.2.2"] ∧ ¬table.Unique)) = some true)
  obtain ⟨keys, addresses, notUnique⟩ := of_decide_eq_true holds
  exact ⟨table, executed, reached, keys, addresses,
    fun noDuplicates => notUnique noDuplicates.rows⟩

end NetworkDatabase
end Skplat
