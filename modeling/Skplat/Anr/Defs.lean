import Mathlib.Data.List.Infix
import Skplat.Data.Heap
import Skplat.Machine.Basic

/-!
# The watch for threads that do not answer

`__register_anr` puts an entry with a deadline into a heap, `__unregister_anr` removes it, and
a checker thread adds the CPU time of each of its rounds to all entries and reports the front
of the heap when it is due.  All of them work under one mutex, which the checker gives up while
it waits in the middle of a round.

A step is a section under the mutex: a registration, a removal, the first part of a round up to
the wait, and the second part after it.  What the clocks show and why a wait ends are choices
of the action, for any wait may end at any time.  The CPU clock of the process goes on by steps
of its own.
-/

namespace Skplat
namespace Anr

/-- `check_content`. -/
structure CheckContent where
  ptr : UInt64
  file : List UInt8
  func : List UInt8
  line : Int
  timeout : Int
  tid : Int
  start_time : UInt64
  end_time : UInt64
  start_tickcount : UInt64
  /-- In milliseconds. -/
  used_cpu_time : UInt64
  deriving DecidableEq, Repr

/-- `operator<`, by which the front of a heap has the earliest end. -/
def CheckContent.less (content ref : CheckContent) : Bool :=
  decide (content.end_time > ref.end_time)

/-- The arguments of a call of `__register_anr` and what it reads. -/
structure Registration where
  ptr : UInt64
  file : List UInt8
  func : List UInt8
  line : Int
  timeout : Int
  /-- `GetTid()`. -/
  tid : Int
  /-- `clock_app_monotonic()`. -/
  start_time : UInt64
  /-- `gettickcount()`. -/
  start_tickcount : UInt64
  deriving DecidableEq, Repr

/-- The entry that is made for a call. -/
def Registration.content (registration : Registration) : CheckContent where
  ptr := registration.ptr
  file := registration.file
  func := registration.func
  line := registration.line
  timeout := registration.timeout
  tid := registration.tid
  start_time := registration.start_time
  end_time := registration.start_time + UInt64.ofInt registration.timeout
  start_tickcount := registration.start_tickcount
  used_cpu_time := 0

/-- The algorithms for the heap of entries. -/
abbrev HeapAlgorithms := Heap.Algorithms CheckContent.less

/-- `__unregister_anr_impl`. -/
def unregisterAnrImpl
    (algorithms : HeapAlgorithms) (ptr : UInt64) (heap : List CheckContent) :
    List CheckContent :=
  if heap.any fun content => content.ptr == ptr then
    algorithms.makeHeap (heap.eraseP fun content => content.ptr == ptr)
  else heap

/-- `__register_anr`. -/
def registerAnr
    (algorithms : HeapAlgorithms) (registration : Registration)
    (heap : List CheckContent) : List CheckContent :=
  let heap := unregisterAnrImpl algorithms registration.ptr heap
  if 0 ≥ registration.timeout then heap
  else algorithms.pushHeap (heap ++ [registration.content])

/-! ## The checker -/

/-- `kEachRoundSleepTime`. -/
def kEachRoundSleepTime : Int := 15 * 1000

/-- `kTimeDeviation`. -/
def kTimeDeviation : Int := 500

/-- What the checker has read when it waits. -/
structure Round where
  round_tick_start : UInt64
  use_cpu_time_1 : UInt64
  /-- The period of the wait, if it has one. -/
  wait_timeout : Option Int
  deriving DecidableEq, Repr

/-- Where the checker is. -/
inductive Checker
  /-- Before a round. -/
  | running
  /-- In the wait of a round, without the mutex. -/
  | waiting (round : Round)
  /-- It has returned. -/
  | exited
  deriving DecidableEq, Repr

/-- The round in which the checker waits. -/
def Checker.round : Checker → Option Round
  | .waiting round => some round
  | _ => none

theorem Checker.round_eq_some_iff {checker : Checker} {round : Round} :
    checker.round = some round ↔ checker = .waiting round := by
  cases checker with
  | waiting other => exact ⟨fun same => by cases same; rfl, fun same => by cases same; rfl⟩
  | running => exact ⟨nofun, nofun⟩
  | exited => exact ⟨nofun, nofun⟩

/-- How long the checker waits for an entry. -/
def waitTimeout (front : CheckContent) (now : UInt64) : Int :=
  let wait_timeout := (front.end_time - now).toInt64.toInt
  let wait_timeout := if wait_timeout < 0 then 0 else wait_timeout
  if kEachRoundSleepTime < wait_timeout then kEachRoundSleepTime else wait_timeout

/-- The test whether the front is reported. -/
def checkHit (iOS_style : Bool) (front : CheckContent) (now : UInt64) : Bool :=
  if iOS_style then decide (UInt64.ofInt front.timeout ≤ front.used_cpu_time)
  else decide (front.end_time ≤ now)

/-- The CPU time of a round is added to an entry. -/
def CheckContent.addCpuTime (content : CheckContent) (used : UInt64) : CheckContent :=
  { content with used_cpu_time := content.used_cpu_time + used }

/-! ## The system -/

/-- What has happened to entries, with the CPU clock where it matters. -/
inductive Event
  | registered (registration : Registration) (clock : UInt64)
  | unregistered (ptr : UInt64)
  | reported (content : CheckContent) (clock : UInt64)
  deriving DecidableEq, Repr

/-- The shared variables, the checker, the CPU clock, and the events with the latest first. -/
structure State where
  sg_check_heap : List CheckContent
  sg_exit : Bool
  iOS_style : Bool
  checker : Checker
  clock : UInt64
  history : List Event
  deriving DecidableEq, Repr

/-- The steps. -/
inductive Action
  /-- The process uses CPU time. -/
  | consume (clock : UInt64)
  | register (registration : Registration)
  | unregister (ptr : UInt64)
  /-- The destructor of `__startup`. -/
  | exit
  /-- A round up to the wait, with what `clock_app_monotonic` shows. -/
  | beginRound (round_tick_start now : UInt64)
  /-- The wait ends, and so does the round. -/
  | endRound (timedOut : Bool) (now checkedAt : UInt64)
  deriving DecidableEq, Repr

/-- A round up to the wait. -/
def beginRound (state : State) (round_tick_start now : UInt64) : State :=
  { state with
    checker :=
      if state.sg_exit then .exited
      else .waiting {
        round_tick_start := round_tick_start
        use_cpu_time_1 := state.clock
        wait_timeout := state.sg_check_heap.head?.map fun front => waitTimeout front now } }

/-- Whether the wait has taken much longer than its period. -/
def isLate (round : Round) (timedOut : Bool) (now : UInt64) : Bool :=
  let round_tick_elapse := (now - round.round_tick_start).toInt64.toInt
  match round.wait_timeout with
  | none => false
  | some wait_timeout =>
      decide (wait_timeout > 0) && timedOut &&
        decide (round_tick_elapse > wait_timeout + kTimeDeviation)

/-- The entries after the loop that adds the CPU time of a round. -/
def State.charged (state : State) (round : Round) : List CheckContent :=
  state.sg_check_heap.map fun content =>
    content.addCpuTime (state.clock - round.use_cpu_time_1)

/-- A round after the wait. -/
def endRound
    (algorithms : HeapAlgorithms) (state : State) (round : Round) (timedOut : Bool)
    (now checkedAt : UInt64) : State :=
  let iOS_style := state.iOS_style || isLate round timedOut now
  let heap := state.charged round
  let state := { state with
    sg_check_heap := heap
    iOS_style := iOS_style
    checker := .running }
  match heap with
  | [] => state
  | front :: _ =>
      if checkHit iOS_style front checkedAt then
        { state with
          sg_check_heap := (algorithms.popHeap heap).dropLast
          history := .reported front state.clock :: state.history }
      else state

/-- One step. -/
def step (algorithms : HeapAlgorithms) (state : State) : Action → Option State
  | .consume clock => if state.clock ≤ clock then some { state with clock := clock } else none
  | .register registration =>
      some { state with
        sg_check_heap := registerAnr algorithms registration state.sg_check_heap
        history := .registered registration state.clock :: state.history }
  | .unregister ptr =>
      some { state with
        sg_check_heap := unregisterAnrImpl algorithms ptr state.sg_check_heap
        history := .unregistered ptr :: state.history }
  | .exit => some { state with sg_exit := true }
  | .beginRound round_tick_start now =>
      if state.checker = .running then some (beginRound state round_tick_start now) else none
  | .endRound timedOut now checkedAt =>
      state.checker.round.map fun round =>
        endRound algorithms state round timedOut now checkedAt

/-- Before the first call. -/
def init (clock : UInt64) : State where
  sg_check_heap := []
  sg_exit := false
  iOS_style := false
  checker := .running
  clock := clock
  history := []

/-- The threads that call, and the checker. -/
def system (algorithms : HeapAlgorithms) : Machine State Action where
  initial := fun state => ∃ clock, state = init clock
  step := step algorithms

/-! ## What is watched -/

/-- The pointer of an event. -/
def Event.ptr : Event → UInt64
  | .registered registration _ => registration.ptr
  | .unregistered ptr => ptr
  | .reported content _ => content.ptr

/-- The watch that begins with an event: the call, and the CPU clock at it. -/
def Event.watch : Event → Option (Registration × UInt64)
  | .registered registration clock =>
      if 0 < registration.timeout then some (registration, clock) else none
  | _ => none

/-- What a pointer is watched for, by the last event of the pointer. -/
def watched (history : List Event) (ptr : UInt64) : Option (Registration × UInt64) :=
  (history.find? fun event => event.ptr == ptr).bind Event.watch

end Anr
end Skplat
