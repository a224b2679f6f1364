import Skplat.Udp.Steps
import Mathlib.Data.List.Forall2

/-!
# The asynchronous queue

The loop reads the front of `list_buffer_` under the mutex, keeps the pointer
across `poll`, and removes the element only after its `sendto`.  A break makes it
start over with the same front, an error ends it, and other threads append at the
back.  So the datagrams handed to `sendto` are the queued ones in their order,
each once and with its own bytes, until a loop ends with an error.  And the loop
never sleeps over a queued datagram: it waits to read only if the list was empty,
and every later `SendAsync` breaks it.
-/

namespace Skplat
namespace Udp

variable {n : Nat} {Dest : Type}

/-- `sendto` was given this datagram's bytes and, if it has one, its
destination. -/
def Datagram.HandedAs
    (datagram : Datagram Dest)
    (handed : Dest × List UInt8) : Prop :=
  handed.2 = datagram.bytes ∧
    ∀ dest, datagram.target = some dest → handed.1 = dest

/-- The datagram in a list element. -/
def Node.datagram (node : Node Dest) : Datagram Dest :=
  ⟨node.addr, node.data.content⟩

/-- What `sendto` was given is a prefix of what was queued, and what left the list
is what `sendto` was given, except that the last one may be still in the list. -/
structure HandedInOrder (state : State n Dest) : Prop where
  /-- In order, each once, and unchanged. -/
  handed : List.Forall₂ Datagram.HandedAs
    (state.queued.take state.handed.length) state.handed
  /-- Nothing left the list unsent. -/
  sent : state.popped ≤ state.handed.length
  /-- At most the front of the list has been sent. -/
  once : state.handed.length ≤ state.popped + 1
  /-- The rest is still in the list. -/
  kept : state.listBuffer.map Node.datagram = state.queued.drop state.popped
  /-- No freed element was used. -/
  intact : state.dangling = false

/-- Every datagram of a server has a destination. -/
def Addressed (state : State n Dest) : Prop :=
  state.kind = .server →
    ∀ datagram ∈ state.queued, datagram.target.isSome = true

/-- The call has pushed its datagram and not yet called `Break`. -/
def CallPc.isSending : CallPc Dest → Bool
  | .pushed | .started => true
  | _ => false

/-- Without an error, a failed `Break`, a failed creation of the thread or a call
on its way, a loop that is blocked for reading over an empty pipe, or not running
at all before the destructor, has nothing to send. -/
def NothingStuck (state : State n Dest) : Prop :=
  state.failed = false → state.breakFailed = false →
    state.createFailed = false → state.destructor = .notCalled →
    (∀ call, (state.calls call).isSending = false) →
    (state.loop = .polling .read ∧ state.pipe.bytes = 0 ∨
      state.loop = .notRunning) →
    state.listBuffer = []

/-! ## Order -/

/-- The mode that the loop works in. -/
def LoopPc.mode : LoopPc Dest → Option (Mode Dest)
  | .polling mode | .clearing mode _ | .testing mode _ => some mode
  | .sending buf len addr => some (.write buf len addr)
  | _ => none

/-- Elements that were sent but not yet removed. -/
def LoopPc.ahead : LoopPc Dest → Nat
  | .sent => 1
  | _ => 0

/-- The loop's pointer leads to the front of the list. -/
def PointsToFront (listBuffer : List (Node Dest)) : Option (Mode Dest) → Prop
  | some (.write buf len addr) =>
      ∃ front rest, listBuffer = front :: rest ∧ front.id = buf ∧
        front.data.length = len ∧ front.addr = addr
  | _ => True

/-- The invariant of the queue. -/
structure Queueing (state : State n Dest) : Prop where
  kept : state.listBuffer.map Node.datagram = state.queued.drop state.popped
  handed : List.Forall₂ Datagram.HandedAs
    (state.queued.take state.handed.length) state.handed
  counts : state.handed.length = state.popped + state.loop.ahead
  front : PointsToFront state.listBuffer state.loop.mode
  intact : state.dangling = false

theorem PointsToFront.append
    {listBuffer : List (Node Dest)} {mode : Option (Mode Dest)}
    (front : PointsToFront listBuffer mode)
    (node : Node Dest) :
    PointsToFront (listBuffer ++ [node]) mode := by
  match mode with
  | some (.write buf len addr) =>
      obtain ⟨first, rest, list, facts⟩ := front
      exact ⟨first, rest ++ [node], by rw [list, List.cons_append], facts⟩
  | some .read | none => trivial

theorem pointsToFront_modeOf (state : State n Dest) :
    PointsToFront state.listBuffer (some state.modeOf) := by
  unfold State.modeOf
  split
  · trivial
  · rename_i front rest list
    exact ⟨front, rest, list, rfl, rfl, rfl⟩

@[simp] theorem datagram_nodeOf
    (state : State n Dest) (datagram : Datagram Dest) :
    (state.nodeOf datagram).datagram = datagram := by
  unfold Node.datagram State.nodeOf
  rw [AutoBuffer.content_write_new]

@[simp] theorem sendDatagram_failed
    (state : State n Dest) (buf len : Nat) (addr : Option Dest) :
    (state.sendDatagram buf len addr).failed = state.failed := by
  unfold State.sendDatagram
  split <;> rfl

namespace Queueing

variable {state next : State n Dest}

theorem new (kind : Kind) (fdSocket : Bool) (addr : Dest) (created : Bool) :
    Queueing (State.new kind fdSocket addr created : State n Dest) where
  kept := rfl
  handed := .nil
  counts := by
    cases kind
    · rfl
    · cases created <;> cases fdSocket <;> rfl
  front := by
    cases kind
    · trivial
    · cases created <;> cases fdSocket <;> trivial
  intact := rfl

theorem length_le
    (queueing : Queueing state) :
    state.handed.length ≤ state.queued.length := by
  have lengths := queueing.handed.length_eq
  rw [List.length_take] at lengths
  omega

theorem popped_le
    (queueing : Queueing state) :
    state.popped ≤ state.queued.length := by
  have bound := queueing.length_le
  have counts := queueing.counts
  omega

/-- The loop moves on and the queue stays as it is. -/
theorem of_loop
    (queueing : Queueing state)
    (sameList : next.listBuffer = state.listBuffer)
    (sameQueued : next.queued = state.queued)
    (sameHanded : next.handed = state.handed)
    (samePopped : next.popped = state.popped)
    (sameDangling : next.dangling = state.dangling)
    (sameAhead : next.loop.ahead = state.loop.ahead)
    (front : PointsToFront state.listBuffer next.loop.mode) :
    Queueing next := by
  refine ⟨?_, ?_, ?_, ?_, sameDangling.trans queueing.intact⟩
  · rw [sameList, sameQueued, samePopped]
    exact queueing.kept
  · rw [sameQueued, sameHanded]
    exact queueing.handed
  · rw [sameHanded, samePopped, sameAhead]
    exact queueing.counts
  · rw [sameList]
    exact front

/-- Nothing that concerns the queue changes. -/
theorem of_same
    (queueing : Queueing state)
    (sameList : next.listBuffer = state.listBuffer)
    (sameQueued : next.queued = state.queued)
    (sameHanded : next.handed = state.handed)
    (samePopped : next.popped = state.popped)
    (sameDangling : next.dangling = state.dangling)
    (sameLoop : next.loop = state.loop) :
    Queueing next :=
  queueing.of_loop sameList sameQueued sameHanded samePopped sameDangling
    (congrArg LoopPc.ahead sameLoop) (sameLoop ▸ queueing.front)

/-- `SendAsync` appends a datagram. -/
theorem push
    (queueing : Queueing state)
    {datagram : Datagram Dest}
    (list : next.listBuffer = state.listBuffer ++ [state.nodeOf datagram])
    (queued : next.queued = state.queued ++ [datagram])
    (sameHanded : next.handed = state.handed)
    (samePopped : next.popped = state.popped)
    (sameDangling : next.dangling = state.dangling)
    (sameLoop : next.loop = state.loop) :
    Queueing next := by
  refine ⟨?_, ?_, ?_, ?_, sameDangling.trans queueing.intact⟩
  · rw [list, queued, samePopped, List.map_append, queueing.kept,
      List.drop_append_of_le_length queueing.popped_le]
    simp
  · rw [queued, sameHanded,
      List.take_append_of_le_length queueing.length_le]
    exact queueing.handed
  · rw [sameHanded, samePopped, sameLoop]
    exact queueing.counts
  · rw [list, sameLoop]
    exact queueing.front.append _

/-- `sendto` takes the front of the list. -/
theorem sendDatagram
    (queueing : Queueing state)
    {buf len : Nat} {addr : Option Dest}
    (sending : state.loop = .sending buf len addr) :
    Queueing (state.sendDatagram buf len addr) := by
  have points := queueing.front
  rw [sending] at points
  obtain ⟨front, rest, list, identity, length, address⟩ := points
  have found : state.listBuffer.find? (fun node => node.id == buf) =
      some front := by
    rw [list, List.find?_cons_of_pos (by simp [identity])]
  have nothingAhead : state.handed.length = state.popped := by
    have counts := queueing.counts
    rw [sending] at counts
    exact counts
  have kept := queueing.kept
  rw [list, List.map_cons, ← nothingAhead] at kept
  have inside : state.handed.length < state.queued.length := by
    have lengths := congrArg List.length kept
    simp only [List.length_cons, List.length_drop] at lengths
    omega
  have nextQueued :
      state.queued[state.handed.length] = front.datagram := by
    have heads := kept.trans (List.drop_eq_getElem_cons inside)
    rw [List.cons.injEq] at heads
    exact heads.1.symm
  unfold State.sendDatagram
  rw [found]
  refine ⟨queueing.kept, ?_, ?_, trivial, queueing.intact⟩
  · rw [List.length_append, List.length_singleton,
      ← List.take_append_getElem inside]
    refine List.rel_append queueing.handed (.cons ?_ .nil)
    rw [nextQueued]
    refine ⟨?_, ?_⟩
    · rw [← length]
      rfl
    · intro dest target
      rw [← address, show front.addr = some dest from target]
      rfl
  · simp [nothingAhead, LoopPc.ahead]

/-- The loop removes the front. -/
theorem pop
    (queueing : Queueing state)
    (sent : state.loop = .sent)
    {front : Node Dest} {rest : List (Node Dest)}
    (list : state.listBuffer = front :: rest) :
    Queueing { state with
      listBuffer := rest, popped := state.popped + 1, loop := .top } := by
  have counts := queueing.counts
  rw [sent] at counts
  refine ⟨?_, queueing.handed, counts, trivial, queueing.intact⟩
  have kept := congrArg List.tail queueing.kept
  rw [list, List.map_cons, List.tail_cons, List.tail_drop] at kept
  exact kept

/-- A sent element is still in the list. -/
theorem nonempty
    (queueing : Queueing state)
    (sent : state.loop = .sent) :
    state.listBuffer ≠ [] := by
  intro empty
  have counts := queueing.counts
  have bound := queueing.length_le
  have lengths := congrArg List.length queueing.kept
  rw [sent] at counts
  simp only [LoopPc.ahead] at counts
  simp only [empty, List.map_nil, List.length_nil, List.length_drop] at lengths
  omega

/-- One step, unless the loop ends with an error. -/
theorem step
    (queueing : state.failed = false → Queueing state)
    {action : Action n Dest}
    (fires : Fires state action next)
    (sound : next.failed = false) :
    Queueing next := by
  cases fires with
  | unchanged alive => exact queueing sound
  | checked idle alive target =>
      exact (queueing sound).of_same rfl rfl rfl rfl rfl rfl
  | pushed pc free => exact (queueing sound).push rfl rfl rfl rfl rfl rfl
  | launched pc ended =>
      exact (queueing sound).of_loop rfl rfl rfl rfl rfl
        (by rw [ended]; rfl) trivial
  | notLaunched pc ended =>
      exact (queueing sound).of_same rfl rfl rfl rfl rfl rfl
  | started pc running =>
      exact (queueing sound).of_same rfl rfl rfl rfl rfl rfl
  | sendBroke pc => exact (queueing sound).of_same rfl rfl rfl rfl rfl rfl
  | userBroke alive => exact (queueing sound).of_same rfl rfl rfl rfl rfl rfl
  | readdressed alive =>
      exact (queueing sound).of_same rfl rfl rfl rfl rfl rfl
  | destroyed alive idle ended =>
      exact (queueing sound).of_same rfl rfl rfl rfl rfl rfl
  | destroying alive idle =>
      exact (queueing sound).of_same rfl rfl rfl rfl rfl rfl
  | eventCleared running =>
      exact (queueing sound).of_same rfl rfl rfl rfl rfl rfl
  | destructorBroke cleared =>
      exact (queueing sound).of_same rfl rfl rfl rfl rfl rfl
  | joined joining ended =>
      exact (queueing sound).of_same rfl rfl rfl rfl rfl rfl
  | moved source moves =>
      have front := (queueing sound).front
      rw [source] at front
      refine (queueing sound).of_loop rfl rfl rfl rfl rfl ?_ ?_
      · rw [source]
        cases moves <;> rfl
      · cases moves with
        | read free => exact pointsToFront_modeOf state
        | pollReturn possible => exact front
        | _ => trivial
  | cleared clearing =>
      have front := (queueing sound).front
      rw [clearing] at front
      exact (queueing sound).of_loop rfl rfl rfl rfl rfl
        (by rw [clearing]; rfl) front
  | testedError testing => cases sound
  | @tested _ mode polled pc testing decides =>
      have front := (queueing sound).front
      rw [testing] at front
      refine (queueing sound).of_loop rfl rfl rfl rfl rfl ?_ ?_
      · rw [testing]
        cases decides <;> rfl
      · cases decides with
        | sending quiet writes =>
            rw [writes] at front
            exact front
        | _ => trivial
  | sent sending =>
      have stillSound : state.failed = false := by simpa using sound
      exact (queueing stillSound).sendDatagram sending
  | failed source => cases sound
  | poppedNone pc empty => exact absurd empty ((queueing sound).nonempty pc)
  | popped pc nonempty => exact (queueing sound).pop pc nonempty

end Queueing

/-! ## Destinations -/

/-- Queued datagrams and those on their way have a destination in a server. -/
def Targeted (state : State n Dest) : Prop :=
  state.kind = .server →
    (∀ datagram ∈ state.queued, datagram.target.isSome = true) ∧
      ∀ call datagram, state.calls call = .checked datagram →
        datagram.target.isSome = true

namespace Targeted

variable {state next : State n Dest}

theorem of_same
    (targeted : Targeted state)
    (sameKind : next.kind = state.kind)
    (sameQueued : next.queued = state.queued)
    (sameCalls : next.calls = state.calls) :
    Targeted next := by
  unfold Targeted
  rw [sameKind, sameQueued, sameCalls]
  exact targeted

/-- A call moves on. -/
theorem of_call
    (targeted : Targeted state)
    {call : Fin n} {pc : CallPc Dest}
    (sameKind : next.kind = state.kind)
    (queued : state.kind = .server → ∀ datagram ∈ next.queued,
      datagram.target.isSome = true)
    (calls : next.calls = Function.update state.calls call pc)
    (checked : state.kind = .server → ∀ datagram, pc = .checked datagram →
      datagram.target.isSome = true) :
    Targeted next := by
  intro isServer
  rw [sameKind] at isServer
  refine ⟨queued isServer, ?_⟩
  intro other datagram point
  rw [calls] at point
  rcases update_cases point with ⟨-, moved⟩ | ⟨-, before⟩
  · exact checked isServer datagram moved
  · exact (targeted isServer).2 other datagram before

theorem step
    (targeted : Targeted state)
    {action : Action n Dest}
    (fires : Fires state action next) :
    Targeted next := by
  cases fires with
  | checked idle alive target =>
      refine targeted.of_call rfl (fun isServer => (targeted isServer).1) rfl ?_
      rintro isServer _ ⟨⟩
      exact target isServer
  | @pushed call datagram pc free =>
      refine targeted.of_call rfl ?_ rfl (by simp)
      intro isServer other present
      rcases List.mem_append.mp present with old | new
      · exact (targeted isServer).1 other old
      · rw [List.mem_singleton] at new
        rw [new]
        exact (targeted isServer).2 call datagram pc
  | launched pc ended =>
      exact targeted.of_call rfl (fun isServer => (targeted isServer).1) rfl
        (by simp)
  | notLaunched pc ended =>
      exact targeted.of_call rfl (fun isServer => (targeted isServer).1) rfl
        (by simp)
  | started pc running =>
      exact targeted.of_call rfl (fun isServer => (targeted isServer).1) rfl
        (by simp)
  | sendBroke pc =>
      exact targeted.of_call rfl (fun isServer => (targeted isServer).1) rfl
        (by simp)
  | sent sending =>
      unfold State.sendDatagram
      split <;> exact targeted.of_same rfl rfl rfl
  | _ => exact targeted.of_same rfl rfl rfl

end Targeted

/-! ## Wake-ups -/

/-- The datagrams in the list are announced to the loop. -/
def Announced (state : State n Dest) : Prop :=
  state.breakFailed = true ∨ 0 < state.pipe.bytes ∨
    ∃ call, (state.calls call).isSending = true

/-- The reasons for which no loop looks after the list. -/
def Abandoned (state : State n Dest) : Prop :=
  state.failed = true ∨ state.createFailed = true ∨
    state.destructor ≠ .notCalled

/-- No datagram waits unnoticed. -/
structure Waking (state : State n Dest) : Prop where
  /-- The breaker's flag tells the truth. -/
  pipe : state.pipe.Agrees
  /-- Datagrams queued after the loop chose to read are announced. -/
  reading : state.loop = .polling .read → state.listBuffer ≠ [] →
    Announced state
  /-- A call that has pushed starts the missing thread. -/
  ended : state.loop = .notRunning → state.listBuffer ≠ [] →
    Abandoned state ∨ ∃ call, state.calls call = .pushed
  /-- A loop leaves for a reason. -/
  leaving : state.loop = .leaving ∨ state.loop = .onError → Abandoned state
  /-- Only the destructor clears `event_`. -/
  event : state.event = false → state.destructor ≠ .notCalled

namespace Waking

variable {state next : State n Dest}

theorem new (kind : Kind) (fdSocket : Bool) (addr : Dest) (created : Bool) :
    Waking (State.new kind fdSocket addr created : State n Dest) where
  pipe := Breaker.agrees_new
  reading := by simp [State.new]
  ended := by simp [State.new]
  leaving := by
    cases kind
    · simp [State.new]
    · cases created <;> cases fdSocket <;> simp [State.new]
  event := by simp [State.new]

/-- After a `Break` everything is announced. -/
theorem announced_breakPoll
    (waking : Waking state)
    {written : Bool}
    (pipe : next.pipe = state.pipe.breakPipe written)
    (failed : next.breakFailed =
      (state.breakFailed || !(state.pipe.breakPipe written).broken)) :
    Announced next := by
  have agrees := waking.pipe.breakPipe_any written
  cases broken : (state.pipe.breakPipe written).broken with
  | true =>
      refine Or.inr (Or.inl ?_)
      rw [pipe]
      exact agrees.flag.mp broken
  | false => exact Or.inl (by simp [failed, broken])

/-- The loop goes where it neither sleeps nor ends. -/
theorem of_busy
    (waking : Waking state)
    (pipe : next.pipe.Agrees)
    (sameEvent : next.event = state.event)
    (sameDestructor : next.destructor = state.destructor)
    (awake : next.loop ≠ .polling .read)
    (running : next.loop ≠ .notRunning)
    (staying : next.loop ≠ .leaving ∧ next.loop ≠ .onError) :
    Waking next := by
  refine ⟨pipe, fun reads => absurd reads awake,
    fun ended => absurd ended running, ?_, ?_⟩
  · intro leaves
    exact absurd leaves (not_or.mpr staying)
  · rw [sameEvent, sameDestructor]
    exact waking.event

/-- A call moves on.  What it pushed it announces, and it leaves the point where
it starts the thread only if one runs or none can be created. -/
theorem of_call
    (waking : Waking state)
    {call : Fin n} {pc : CallPc Dest}
    (sameLoop : next.loop = state.loop)
    (samePipe : next.pipe = state.pipe)
    (sameEvent : next.event = state.event)
    (sameDestructor : next.destructor = state.destructor)
    (sameBreakFailed : next.breakFailed = state.breakFailed)
    (abandoned : Abandoned state → Abandoned next)
    (calls : next.calls = Function.update state.calls call pc)
    (list : next.listBuffer = state.listBuffer ∨ pc = .pushed)
    (sending : (state.calls call).isSending = true → pc.isSending = true)
    (pushed : state.calls call = .pushed →
      state.loop ≠ .notRunning ∨ Abandoned next) :
    Waking next := by
  refine ⟨samePipe ▸ waking.pipe, ?_, ?_, ?_, ?_⟩
  · intro reads nonempty
    rcases list with same | isPushed
    · rw [sameLoop] at reads
      rw [same] at nonempty
      unfold Announced
      rw [sameBreakFailed, samePipe, calls]
      rcases waking.reading reads nonempty with failed | byte | present
      · exact Or.inl failed
      · exact Or.inr (Or.inl byte)
      · exact Or.inr (Or.inr
          (exists_update (CallPc.isSending · = true) present sending))
    · refine Or.inr (Or.inr ⟨call, ?_⟩)
      rw [calls, Function.update_self, isPushed]
      rfl
  · intro ended nonempty
    rw [sameLoop] at ended
    rcases list with same | isPushed
    · rw [same] at nonempty
      rcases waking.ended ended nonempty with gone | ⟨pushing, point⟩
      · exact Or.inl (abandoned gone)
      · by_cases own : pushing = call
        · subst own
          exact Or.inl ((pushed point).resolve_left (not_not.mpr ended))
        · refine Or.inr ⟨pushing, ?_⟩
          rw [calls, Function.update_of_ne own]
          exact point
    · refine Or.inr ⟨call, ?_⟩
      rw [calls, Function.update_self, isPushed]
  · rw [sameLoop]
    exact fun leaves => abandoned (waking.leaving leaves)
  · rw [sameEvent, sameDestructor]
    exact waking.event

/-- The destructor moves on. -/
theorem of_destructor
    (pipe : next.pipe.Agrees)
    (called : next.destructor ≠ .notCalled)
    (announced : next.loop = .polling .read → next.listBuffer ≠ [] →
      Announced next) :
    Waking next := by
  have abandoned : Abandoned next := Or.inr (Or.inr called)
  exact ⟨pipe, announced, fun _ _ => Or.inl abandoned, fun _ => abandoned,
    fun _ => called⟩

/-- Moves of the loop. -/
theorem of_moves
    (waking : Waking state)
    {source pc : LoopPc Dest}
    (sourceEq : state.loop = source)
    (moves : Moves state source pc) :
    Waking { state with loop := pc } := by
  cases moves with
  | read free =>
      refine ⟨waking.pipe, ?_, by simp, by simp, waking.event⟩
      intro reads nonempty
      rw [LoopPc.polling.injEq] at reads
      unfold State.modeOf at reads
      split at reads
      · rename_i empty
        exact absurd empty nonempty
      · cases reads
  | stopped unobserved =>
      have abandoned : Abandoned state :=
        Or.inr (Or.inr (waking.event unobserved))
      exact ⟨waking.pipe, by simp, by simp, fun _ => abandoned, waking.event⟩
  | errorDone =>
      have abandoned := waking.leaving (Or.inr sourceEq)
      exact ⟨waking.pipe, by simp, by simp, fun _ => abandoned, waking.event⟩
  | exit =>
      have abandoned := waking.leaving (Or.inl sourceEq)
      exact ⟨waking.pipe, by simp, fun _ _ => Or.inl abandoned, by simp,
        waking.event⟩
  | _ =>
      exact waking.of_busy waking.pipe rfl rfl (by simp) (by simp) (by simp)

/-- The loop ends with an error. -/
theorem of_fail
    (waking : Waking state)
    (samePipe : next.pipe = state.pipe)
    (sameEvent : next.event = state.event)
    (sameDestructor : next.destructor = state.destructor)
    (onError : next.loop = .onError)
    (failed : next.failed = true) :
    Waking next := by
  refine ⟨samePipe ▸ waking.pipe, by simp [onError], by simp [onError],
    fun _ => Or.inl failed, ?_⟩
  rw [sameEvent, sameDestructor]
  exact waking.event

theorem step
    (waking : Waking state)
    {action : Action n Dest}
    (fires : Fires state action next) :
    Waking next := by
  cases fires with
  | unchanged alive => exact waking
  | checked idle alive target =>
      exact waking.of_call rfl rfl rfl rfl rfl id rfl (Or.inl rfl)
        (by simp [idle, CallPc.isSending]) (by simp [idle])
  | pushed pc free =>
      exact waking.of_call rfl rfl rfl rfl rfl id rfl (Or.inr rfl)
        (by simp [pc, CallPc.isSending]) (by simp [pc])
  | launched pc ended =>
      exact waking.of_busy waking.pipe rfl rfl (by simp [State.setCall])
        (by simp [State.setCall]) (by simp [State.setCall])
  | notLaunched pc ended =>
      exact waking.of_call rfl rfl rfl rfl rfl
        (Or.imp_right fun _ => Or.inl rfl) rfl (Or.inl rfl)
        (by simp [CallPc.isSending]) (fun _ => Or.inr (Or.inr (Or.inl rfl)))
  | started pc running =>
      exact waking.of_call rfl rfl rfl rfl rfl id rfl (Or.inl rfl)
        (by simp [CallPc.isSending]) (fun _ => Or.inl running)
  | @sendBroke call written pc =>
      refine ⟨waking.pipe.breakPipe_any written, fun _ _ =>
        waking.announced_breakPoll rfl rfl, ?_, waking.leaving, waking.event⟩
      intro ended nonempty
      refine (waking.ended ended nonempty).imp id fun present => ?_
      have notOwn : state.calls call ≠ .pushed := by simp [pc]
      exact exists_update (· = CallPc.pushed) present (absurd · notOwn)
  | @userBroke written alive =>
      exact ⟨waking.pipe.breakPipe_any written, fun _ _ =>
        waking.announced_breakPoll rfl rfl, waking.ended, waking.leaving,
        waking.event⟩
  | readdressed alive =>
      exact ⟨waking.pipe, waking.reading, waking.ended, waking.leaving,
        waking.event⟩
  | destroyed alive idle ended =>
      exact of_destructor waking.pipe (by simp) waking.reading
  | destroying alive idle =>
      exact of_destructor waking.pipe (by simp) waking.reading
  | eventCleared running =>
      exact of_destructor waking.pipe (by simp) waking.reading
  | @destructorBroke written cleared =>
      exact of_destructor (waking.pipe.breakPipe_any written) (by simp)
        fun _ _ => waking.announced_breakPoll rfl rfl
  | joined joining ended =>
      exact of_destructor waking.pipe (by simp) waking.reading
  | moved source moves => exact waking.of_moves source moves
  | cleared clearing =>
      exact waking.of_busy waking.pipe.clear.1 rfl rfl (by simp) (by simp)
        (by simp)
  | testedError testing => exact waking.of_fail rfl rfl rfl rfl rfl
  | tested testing decides =>
      cases decides <;>
        exact waking.of_busy waking.pipe rfl rfl (by simp) (by simp) (by simp)
  | sent sending =>
      unfold State.sendDatagram
      split <;>
        exact waking.of_busy waking.pipe rfl rfl (by simp) (by simp) (by simp)
  | failed source => exact waking.of_fail rfl rfl rfl rfl rfl
  | poppedNone pc empty =>
      exact waking.of_busy waking.pipe rfl rfl (by simp) (by simp) (by simp)
  | popped pc nonempty =>
      exact waking.of_busy waking.pipe rfl rfl (by simp) (by simp) (by simp)

end Waking

/-! ## Runs -/

section Runs

variable [DecidableEq Dest] {state : State n Dest}

theorem queueing_of_reachable
    (reached : (system n Dest).Reachable state)
    (sound : state.failed = false) :
    Queueing state :=
  invariant_of_fires (fun _ _ _ _ _ => .new _ _ _ _)
    (fun _ queueing _ fires sound => Queueing.step queueing fires sound)
    reached sound

theorem targeted_of_reachable
    (reached : (system n Dest).Reachable state) :
    Targeted state :=
  invariant_of_fires (fun _ _ _ _ _ => by simp [State.new])
    (fun _ targeted _ fires => Targeted.step targeted fires) reached

theorem waking_of_reachable
    (reached : (system n Dest).Reachable state) :
    Waking state :=
  invariant_of_fires Waking.new (fun _ waking _ fires => waking.step fires)
    reached

theorem nothingStuck_of_reachable
    (reached : (system n Dest).Reachable state) :
    NothingStuck state := by
  have waking := waking_of_reachable reached
  intro sound broken created alive quiet asleep
  by_contra nonempty
  rcases asleep with ⟨reads, empty⟩ | ended
  · rcases waking.reading reads nonempty with failed | byte | ⟨call, sending⟩
    · simp [broken] at failed
    · omega
    · simp [quiet call] at sending
  · rcases waking.ended ended nonempty with abandoned | ⟨call, pushed⟩
    · simp [Abandoned, sound, created, alive] at abandoned
    · have sending := quiet call
      simp [pushed, CallPc.isSending] at sending

/-- In every reachable state of a client or a server, until a loop has ended with
an error: `sendto` was given the queued datagrams in their order, each once with
its own bytes and, in a server, its own destination; nothing left the list
unsent; and no datagram waits unnoticed. -/
theorem handedInOrder_of_reachable
    (state : State n Dest)
    (reached : (system n Dest).Reachable state)
    (sound : state.failed = false) :
    HandedInOrder state ∧ Addressed state ∧ NothingStuck state := by
  have queueing := queueing_of_reachable reached sound
  refine ⟨?_, ?_, nothingStuck_of_reachable reached⟩
  · have counts := queueing.counts
    have atMostOne : state.loop.ahead ≤ 1 := by
      cases state.loop <;> simp [LoopPc.ahead]
    exact ⟨queueing.handed, by omega, by omega, queueing.kept, queueing.intact⟩
  · intro isServer
    exact (targeted_of_reachable reached isServer).1

end Runs

/-- A server is given two datagrams; a break comes between the choice of the
first and its `sendto`. -/
def sendsAcrossBreak : List (Action 1 Nat) :=
  [.sendCheck onlyCall 7 [1, 2], .sendPush onlyCall, .sendStart onlyCall true,
    .sendBreak onlyCall true, .loopRead, .sendCheck onlyCall 8 [3],
    .sendPush onlyCall, .sendStart onlyCall true, .sendBreak onlyCall true,
    .pollReturn (.ready false false true), .clear, .test, .eventTest, .loopRead,
    .pollReturn (.ready false false true), .clear, .test, .sendto true, .popFront,
    .loopRead, .pollReturn (.ready false false true), .clear, .test, .sendto true,
    .popFront]

theorem handedInOrder_sendsAcrossBreak :
    ∃ state : State 1 Nat,
      (system 1 Nat).Reachable state ∧ state.failed = false ∧
      state.handed = [(7, [1, 2]), (8, [3])] ∧ state.listBuffer = [] ∧
      HandedInOrder state ∧ Addressed state ∧ NothingStuck state := by
  have start : (system 1 Nat).initial (State.new .server true 0 true) :=
    ⟨_, _, _, _, rfl⟩
  obtain ⟨state, -, reached, test⟩ := Machine.exists_reachable_of_exec start
    (by decide : ((system 1 Nat).exec (State.new .server true 0 true)
      sendsAcrossBreak).map
        (fun state => decide (state.failed = false ∧
          state.handed = [(7, [1, 2]), (8, [3])] ∧
          state.listBuffer = [])) = some true)
  obtain ⟨sound, handed, empty⟩ := of_decide_eq_true test
  exact ⟨state, reached, sound, handed, empty,
    handedInOrder_of_reachable state reached sound⟩

end Udp
end Skplat
