import Skplat.SocketSelect.Breaker

/-!
# A socket select

A `SocketSelect` is a vector of `pollfd` entries in front of `poll`, which always
watches the read end of a breaker.  The breaker is shared by reference, so the
functions that touch its state take it and return it.  The result of `poll` is
chosen by the environment.
-/

namespace Skplat

/-! ## Event masks of `poll.h` -/

def pollIn : BitVec 16 := 0x1
def pollPri : BitVec 16 := 0x2
def pollOut : BitVec 16 := 0x4
def pollErr : BitVec 16 := 0x8
def pollHup : BitVec 16 := 0x10
def pollNval : BitVec 16 := 0x20

/-- `struct pollfd`. -/
structure PollFd where
  fd : Int
  events : BitVec 16
  revents : BitVec 16
  deriving DecidableEq, Repr

/-- What a call of `poll` leaves behind. -/
structure PollResult where
  /-- The returned value. -/
  ret : Int
  /-- `errno` after the call. -/
  errno : Int
  /-- The `revents` written at each position of the vector. -/
  revents : Nat → BitVec 16

/-- The fields of a `SocketSelect`. -/
structure SocketSelect where
  /-- `breaker_.BreakerFD()`. -/
  breakerFd : Int
  /-- `vfds_`. -/
  vfds : List PollFd
  /-- `ret_`. -/
  ret : Int
  /-- `errno_`. -/
  errno : Int
  /-- `autoclear_`. -/
  autoclear : Bool
  deriving DecidableEq, Repr

namespace SocketSelect

/-- The constructor. -/
def new (breakerFd : Int) (autoclear : Bool) : SocketSelect where
  breakerFd := breakerFd
  vfds := []
  ret := 0
  errno := 0
  autoclear := autoclear

/-- The entry that watches a breaker. -/
def breakerEntry (fd : Int) : PollFd :=
  ⟨fd, pollIn ||| pollPri ||| pollErr, 0⟩

/-- `PreSelect()`. -/
def preSelect (select : SocketSelect) : SocketSelect :=
  { select with vfds := [breakerEntry select.breakerFd], ret := 0, errno := 0 }

/-- `Consign()`. -/
def consign (select consignor : SocketSelect) : SocketSelect :=
  { select with
    vfds := select.vfds ++
      breakerEntry consignor.breakerFd :: consignor.vfds }

/-! ## Registering descriptors -/

/-- Add events to the first entry of a descriptor, or append an entry. -/
def setEvents (fd : Int) (events : BitVec 16) : List PollFd → List PollFd
  | [] => [⟨fd, events, 0⟩]
  | entry :: rest =>
      if entry.fd = fd then
        { entry with events := entry.events ||| events } :: rest
      else entry :: setEvents fd events rest

/-- `Read_FD_SET()`. -/
def readFdSet (select : SocketSelect) (fd : Int) : SocketSelect :=
  { select with vfds := setEvents fd (pollIn ||| pollErr) select.vfds }

/-- `Write_FD_SET()`. -/
def writeFdSet (select : SocketSelect) (fd : Int) : SocketSelect :=
  { select with vfds := setEvents fd (pollOut ||| pollErr) select.vfds }

/-- `Exception_FD_SET()`. -/
def exceptionFdSet (select : SocketSelect) (fd : Int) : SocketSelect :=
  { select with vfds := setEvents fd pollErr select.vfds }

/-! ## Polling -/

/-- `Select()`, with the result of `poll` and of the `read` of `Clear`. -/
def select
    (select : SocketSelect)
    (breaker : SocketSelectBreaker)
    (poll : PollResult)
    (read : Int) : SocketSelect × SocketSelectBreaker :=
  ({ select with
      vfds := select.vfds.mapIdx fun index entry =>
        { entry with revents := poll.revents index }
      ret := poll.ret
      errno := if 0 > poll.ret then poll.errno else select.errno },
    if select.autoclear then breaker.clear read else breaker)

/-! ## Asking for results -/

/-- The bits of a mask in the first entry of a descriptor. -/
def isSet (mask : BitVec 16) (fd : Int) : List PollFd → BitVec 16
  | [] => 0
  | entry :: rest =>
      if entry.fd = fd then entry.revents &&& mask else isSet mask fd rest

/-- `Read_FD_ISSET()`. -/
def readFdIsSet (select : SocketSelect) (fd : Int) : BitVec 16 :=
  isSet (pollIn ||| pollHup) fd select.vfds

/-- `Write_FD_ISSET()`. -/
def writeFdIsSet (select : SocketSelect) (fd : Int) : BitVec 16 :=
  isSet pollOut fd select.vfds

/-- `Exception_FD_ISSET()`. -/
def exceptionFdIsSet (select : SocketSelect) (fd : Int) : BitVec 16 :=
  isSet (pollErr ||| pollNval) fd select.vfds

/-- `IsException()`. -/
def isException (select : SocketSelect) : Bool :=
  select.exceptionFdIsSet select.breakerFd != 0

/-- `IsBreak()`. -/
def isBreak (select : SocketSelect) : Bool :=
  isSet pollIn select.breakerFd select.vfds != 0

/-! ## Reporting to a consignor -/

/-- The body of the inner loop of `Report()`.  Its second component is the local
`y`, a copy of the consignor's entry. -/
def reportEntry (own : PollFd) (eventCount : Nat) (copy : PollFd) :
    Nat × PollFd :=
  if own.fd = copy.fd ∧ own.events = copy.events ∧ 0 ≠ own.revents then
    (eventCount + 1, { copy with revents := own.revents })
  else (eventCount, copy)

/-- `event_count` after the two loops of `Report()`. -/
def reportCount
    (vfds consigned : List PollFd)
    (eventCount : Nat) : Nat :=
  vfds.foldl
    (fun count own =>
      consigned.foldl (fun count copy => (reportEntry own count copy).1) count)
    eventCount

/-- The consignor and its breaker when `Report()` returns true. -/
def settle
    (select consignor : SocketSelect)
    (breaker : SocketSelectBreaker)
    (read ret : Int) : SocketSelect × SocketSelectBreaker :=
  ({ consignor with ret := ret, errno := select.errno },
    if consignor.autoclear then breaker.clear read else breaker)

/-- `Report()`, with the breaker of the consignor and the result of the `read`
of its `Clear`. -/
def report
    (select consignor : SocketSelect)
    (breaker : SocketSelectBreaker)
    (timeout read : Int) : Bool × SocketSelect × SocketSelectBreaker :=
  let eventCount :=
    reportCount select.vfds consignor.vfds (if breaker.broken then 1 else 0)
  if 0 > select.ret then
    (true, select.settle consignor breaker read select.ret)
  else if 0 = select.ret ∧ 0 ≥ timeout then
    (true, select.settle consignor breaker read 0)
  else if 0 < eventCount then
    (true, select.settle consignor breaker read
      (if 0 < select.ret then select.ret else 1))
  else (false, consignor, breaker)

end SocketSelect
end Skplat
