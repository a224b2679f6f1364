import Skplat.Data.MachineInt
import Skplat.Machine.Basic
import Skplat.TcpClientFsm.Defs
import Skplat.TcpFsm.Streams

/-!
# Blocking calls on a nonblocking socket

`block_socket_send` and `block_socket_recv` of `network/block_socket.cc` poll the socket
and a breaker, and transfer what the socket takes or has, until everything is done, the
time is over or something happens.  Both are state machines here: a turn is one pass of
the loop, with the results of its system calls, and the state also keeps the history of
the call.
-/

namespace Skplat
namespace BlockSocket

open MachineInt (toInt32)

/-- What both calls are given, and the locals that never change. -/
structure Args where
  /-- `_sock`. -/
  sock : Int
  /-- `_breaker.BreakerFD()`. -/
  breakerFd : Int
  /-- `_breaker`. -/
  breaker : SocketSelectBreaker
  /-- `_timeout`, an `int`. -/
  timeout : Int
  /-- `start`. -/
  start : Int
  timeout_lt : timeout < 2 ^ 31
  deriving DecidableEq, Repr

/-- What a call returns. -/
structure Exit where
  result : Int
  /-- `_errcode`. -/
  errcode : Int
  deriving DecidableEq, Repr

namespace Args

variable (args : Args)

/-- `SocketSelect sel(_breaker)`. -/
def sel : SocketSelect :=
  .new args.breakerFd false

/-- `cost_time` at a reading of the clock. -/
def costTime (tick : Int) : Int :=
  toInt32 (tick - args.start)

/-- What the next `Select` passes to `poll`. -/
def selectTimeout (costTime : Int) : Int :=
  if 0 ≤ args.timeout then
    if args.timeout > costTime then toInt32 (args.timeout - costTime) else 0
  else -1

/-- `PreSelect`, the registration of the socket and `Select`. -/
def pollSocket
    (register : SocketSelect → Int → SocketSelect)
    (sel : SocketSelect) (poll : PollResult) : SocketSelect :=
  (((register sel.preSelect args.sock).exceptionFdSet args.sock).select
    args.breaker poll 0).1

/-- The result of `pollSocket` does not depend on what the select saw before. -/
theorem pollSocket_eq
    {register : SocketSelect → Int → SocketSelect} {sel : SocketSelect}
    (same : sel.preSelect = args.sel.preSelect) (poll : PollResult) :
    args.pollSocket register sel poll = args.pollSocket register args.sel poll := by
  rw [pollSocket, same, ← pollSocket]

end Args
end BlockSocket
end Skplat
