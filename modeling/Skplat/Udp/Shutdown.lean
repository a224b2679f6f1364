import Skplat.Udp.Steps

/-!
# Breaking the loop of a UDP client

The loop's selector clears the breaker in each `Select`, after `poll` and before
`IsBreak`, which looks at what `poll` reported.  A `Break` that comes after such a
`poll` and before its `Clear` is erased unseen; if it was the destructor's, the
loop blocks again over an empty pipe and the join never ends.  A run without a
`Break` in this window reports every `Break` in the select in progress or the
next one, and its destructor always ends.
-/

namespace Skplat
namespace Udp

variable {n : Nat} {Dest : Type}

/-- The loop is between a `poll` that did not report the breaker pipe and the
`Clear` of the same select. -/
def LoopPc.inWindow : LoopPc Dest → Bool
  | .clearing _ polled => !polled.breakIn
  | _ => false

/-- No `Break` returns true in the window. -/
def BreaksOutsideWindow (state : State n Dest) : Action n Dest → Prop
  | .sendBreak _ written | .userBreak written | .destroyBreak written =>
      (state.pipe.breakPipe written).broken = true →
        state.loop.inWindow = false
  | _ => True

instance (state : State n Dest) : DecidablePred (BreaksOutsideWindow state)
  | .sendBreak _ written | .userBreak written | .destroyBreak written =>
      inferInstanceAs (Decidable ((state.pipe.breakPipe written).broken = true →
        state.loop.inWindow = false))
  | .sendCheck _ _ _ | .sendPush _ | .sendStart _ _ | .setIpPort _
  | .destroy | .destroyClear | .destroyJoin | .loopRead | .pollReturn _
  | .clear | .test | .sendto _ | .popFront | .recvfrom _ | .eventTest
  | .errorDone | .exit => .isTrue trivial

/-- Once `Break` has returned true in the destructor, the loop thread does not
block over an empty pipe. -/
def ShutdownWakes (state : State n Dest) : Prop :=
  state.destructor = .joining true →
    ∀ mode, state.loop = .polling mode → 0 < state.pipe.bytes

/-- How many steps the loop thread of a broken client has ahead, at most. -/
def LoopPc.stepsAhead : LoopPc Dest → Nat
  | .notRunning => 0
  | .leaving => 1
  | .onError | .broke => 2
  | .testing _ ⟨_, true⟩ => 3
  | .clearing _ _ => 4
  | .polling _ => 5
  | .top => 6
  | .sent | .receiving => 7
  | .sending _ _ _ => 8
  | .testing _ ⟨_, false⟩ => 9

/-- Once `Break` has returned true in the destructor, a step is possible until
the join ends, and each one brings it nearer. -/
def JoinEnds [DecidableEq Dest] (state : State n Dest) : Prop :=
  state.destructor = .joining true →
    (∃ action, (state.step action).isSome = true) ∧
      ∀ action next, state.step action = some next →
        next.destructor = .joined ∨
          next.loop.stepsAhead < state.loop.stepsAhead

namespace State

variable {state : State n Dest}

@[simp] theorem breakPoll_loop (written : Bool) :
    (state.breakPoll written).loop = state.loop := rfl

end State

/-! ## Reporting -/

/-- The loop is outside the part of a select in which the pipe has already been
looked at. -/
def LoopPc.beforePoll : LoopPc Dest → Bool
  | .clearing _ _ | .testing _ _ => false
  | _ => true

/-- Every `Break` that was not reported yet will be reported in time. -/
structure Reporting (state : State n Dest) : Prop where
  /-- The breaker's flag tells the truth. -/
  pipe : state.pipe.Agrees
  /-- Nothing was missed. -/
  reported : state.missed = false
  /-- The next `poll` will see it. -/
  waiting : state.loop.beforePoll = true → state.pending ≠ none →
    0 < state.pipe.bytes
  /-- The `Clear` ahead erases nothing unseen. -/
  clearing : ∀ mode polled, state.loop = .clearing mode polled →
    polled.breakIn = false → state.pending = none
  /-- What was broken since the `Clear` may be missed once. -/
  testing : ∀ mode polled, state.loop = .testing mode polled →
    polled.breakIn = false →
    state.pending = none ∨ (state.pending = some 1 ∧ 0 < state.pipe.bytes)

namespace Reporting

variable {state next : State n Dest}

theorem new (kind : Kind) (fdSocket : Bool) (addr : Dest) (created : Bool) :
    Reporting (State.new kind fdSocket addr created : State n Dest) where
  pipe := Breaker.agrees_new
  reported := rfl
  waiting := by simp [State.new]
  clearing := by simp [State.new]
  testing := by simp [State.new]

/-- The loop moves before its next `poll`, and nothing else changes. -/
theorem of_loop
    (reporting : Reporting state)
    (samePipe : next.pipe = state.pipe)
    (samePending : next.pending = state.pending)
    (sameMissed : next.missed = state.missed)
    (before : state.loop.beforePoll = true)
    (after : next.loop.beforePoll = true) :
    Reporting next := by
  refine ⟨samePipe ▸ reporting.pipe, sameMissed.trans reporting.reported,
    ?_, ?_, ?_⟩
  · intro _ unreported
    rw [samePipe]
    exact reporting.waiting before (samePending ▸ unreported)
  · intro mode polled clearing
    simp [clearing, LoopPc.beforePoll] at after
  · intro mode polled testing
    simp [testing, LoopPc.beforePoll] at after

/-- Something changes that does not concern the breaker. -/
theorem of_same
    (reporting : Reporting state)
    (samePipe : next.pipe = state.pipe)
    (samePending : next.pending = state.pending)
    (sameMissed : next.missed = state.missed)
    (sameLoop : next.loop = state.loop) :
    Reporting next := by
  obtain ⟨pipe, reported, waiting, clearing, testing⟩ := reporting
  rw [← samePipe] at pipe waiting testing
  rw [← sameMissed] at reported
  rw [← samePending] at waiting
  rw [← sameLoop] at waiting
  refine ⟨pipe, reported, waiting, ?_, ?_⟩
  · intro mode polled inClearing
    rw [samePending]
    exact clearing mode polled (sameLoop ▸ inClearing)
  · intro mode polled inTesting
    rw [samePending]
    exact testing mode polled (sameLoop ▸ inTesting)

/-- `Break` outside the window. -/
theorem of_break
    (reporting : Reporting state)
    {written : Bool}
    (outside : (state.pipe.breakPipe written).broken = true →
      state.loop.inWindow = false) :
    Reporting (state.breakPoll written) := by
  have agrees := reporting.pipe.breakPipe_any written
  cases broken : (state.pipe.breakPipe written).broken with
  | false =>
      apply reporting.of_same
      · exact Breaker.breakPipe_eq_self broken
      · simp [State.breakPoll, broken]
      · rfl
      · rfl
  | true =>
      have byte : 0 < (state.pipe.breakPipe written).bytes :=
        agrees.flag.mp broken
      have pending : (state.breakPoll written).pending =
          some (min (state.pending.getD state.allowance) state.allowance) := by
        simp [State.breakPoll, broken]
      refine ⟨agrees, reporting.reported, fun _ _ => byte, ?_, ?_⟩
      · intro mode polled clearing quiet
        have window := outside broken
        rw [State.breakPoll_loop] at clearing
        simp [clearing, LoopPc.inWindow, quiet] at window
      · intro mode polled testing quiet
        rw [State.breakPoll_loop] at testing
        have allowed : state.allowance = 1 := by
          simp [State.allowance, testing, LoopPc.inSelect]
        refine Or.inr ⟨?_, byte⟩
        rw [pending, allowed]
        rcases reporting.testing mode polled testing quiet with none | ⟨one, -⟩
        · simp [none]
        · simp [one]

/-- Moves of the loop. -/
theorem of_moves
    (reporting : Reporting state)
    {source pc : LoopPc Dest}
    (sourceEq : state.loop = source)
    (moves : Moves state source pc) :
    Reporting { state with loop := pc } := by
  cases moves with
  | @pollReturn mode outcome possible =>
      refine ⟨reporting.pipe, reporting.reported, by simp [LoopPc.beforePoll],
        ?_, by simp⟩
      rintro _ _ ⟨⟩ empty
      by_contra unreported
      have byte := reporting.waiting (by rw [sourceEq]; rfl) unreported
      simp [byte] at empty
  | _ =>
      exact reporting.of_loop rfl rfl rfl (by rw [sourceEq]; rfl) rfl

/-- What `IsBreak` of a select leaves behind. -/
theorem reportBreak
    (reporting : Reporting state)
    {mode : Mode Dest} {polled : Polled}
    (testing : state.loop = .testing mode polled) :
    (state.reportBreak polled.breakIn).missed = false ∧
      ((state.reportBreak polled.breakIn).pending ≠ none →
        0 < state.pipe.bytes) := by
  cases isBreak : polled.breakIn with
  | true => simp [State.reportBreak, reporting.reported]
  | false =>
      rcases reporting.testing mode polled testing isBreak with none | ⟨one, byte⟩
      · simp [State.reportBreak, none, reporting.reported]
      · simp [State.reportBreak, one, byte, reporting.reported]

/-- The loop leaves the tests. -/
theorem of_tested
    (reporting : Reporting state)
    {mode : Mode Dest} {polled : Polled}
    (testing : state.loop = .testing mode polled)
    (samePipe : next.pipe = state.pipe)
    (pending : next.pending = (state.reportBreak polled.breakIn).pending)
    (missed : next.missed = (state.reportBreak polled.breakIn).missed)
    (after : next.loop.beforePoll = true) :
    Reporting next := by
  obtain ⟨reported, waiting⟩ := reporting.reportBreak testing
  refine ⟨samePipe ▸ reporting.pipe, missed.trans reported, ?_, ?_, ?_⟩
  · intro _ unreported
    rw [samePipe]
    exact waiting (pending ▸ unreported)
  · intro _ _ clearing
    simp [clearing, LoopPc.beforePoll] at after
  · intro _ _ inTesting
    simp [inTesting, LoopPc.beforePoll] at after

/-- One step outside the window. -/
theorem step
    (reporting : Reporting state)
    {action : Action n Dest}
    (outside : BreaksOutsideWindow state action)
    (fires : Fires state action next) :
    Reporting next := by
  cases fires with
  | unchanged alive => exact reporting
  | checked idle alive target => exact reporting.of_same rfl rfl rfl rfl
  | pushed pc free => exact reporting.of_same rfl rfl rfl rfl
  | launched pc ended =>
      exact reporting.of_loop rfl rfl rfl (by rw [ended]; rfl) rfl
  | notLaunched pc ended => exact reporting.of_same rfl rfl rfl rfl
  | started pc running => exact reporting.of_same rfl rfl rfl rfl
  | sendBroke pc => exact (reporting.of_break outside).of_same rfl rfl rfl rfl
  | userBroke alive => exact reporting.of_break outside
  | readdressed alive => exact reporting.of_same rfl rfl rfl rfl
  | destroyed alive idle ended => exact reporting.of_same rfl rfl rfl rfl
  | destroying alive idle => exact reporting.of_same rfl rfl rfl rfl
  | eventCleared running => exact reporting.of_same rfl rfl rfl rfl
  | destructorBroke cleared =>
      exact (reporting.of_break outside).of_same rfl rfl rfl rfl
  | joined joining ended => exact reporting.of_same rfl rfl rfl rfl
  | moved source moves => exact reporting.of_moves source moves
  | @cleared _ mode polled clearing =>
      obtain ⟨agrees, -⟩ := reporting.pipe.clear
      refine ⟨agrees, reporting.reported, by simp [LoopPc.beforePoll], by simp,
        ?_⟩
      rintro _ _ ⟨⟩ quiet
      exact Or.inl (reporting.clearing mode polled clearing quiet)
  | testedError testing =>
      exact reporting.of_tested testing rfl rfl rfl rfl
  | tested testing decides =>
      refine reporting.of_tested testing rfl rfl rfl ?_
      cases decides <;> rfl
  | @sent _ buf len addr sending =>
      unfold State.sendDatagram
      split
      · exact reporting.of_loop rfl rfl rfl (by rw [sending]; rfl) rfl
      · exact reporting.of_loop rfl rfl rfl (by rw [sending]; rfl) rfl
  | failed source =>
      refine reporting.of_loop rfl rfl rfl ?_ rfl
      rcases source with receiving | ⟨buf, len, addr, sending⟩
      · rw [receiving]
        rfl
      · rw [sending]
        rfl
  | poppedNone pc empty =>
      exact reporting.of_loop rfl rfl rfl (by rw [pc]; rfl) rfl
  | popped pc nonempty =>
      exact reporting.of_loop rfl rfl rfl (by rw [pc]; rfl) rfl

end Reporting

/-! ## Stopping -/

/-- The loop thread ends without looking at the breaker pipe again. -/
def LoopPc.stops : LoopPc Dest → Bool
  | .notRunning | .leaving | .onError | .broke => true
  | .clearing _ polled | .testing _ polled => polled.breakIn
  | _ => false

/-- What the destructor has done so far. -/
structure Stopping (state : State n Dest) : Prop where
  /-- Its callers had finished. -/
  idle : state.destructor ≠ .notCalled → ∀ call, state.calls call = .idle
  /-- `mutex_` is held by a call on its way. -/
  mutex : ∀ call, state.mutex = some call →
    state.calls call = .pushed ∨ state.calls call = .started
  /-- `event_` is `NULL`. -/
  event : (state.destructor = .cleared ∨
    ∃ broke, state.destructor = .joining broke) → state.event = false
  /-- The loop has been told or will be told by the pipe. -/
  told : state.destructor = .joining true →
    state.loop.stops = true ∨ 0 < state.pipe.bytes
  /-- No `Clear` is about to erase it. -/
  clearing : state.destructor = .joining true → state.loop.inWindow = false

namespace Stopping

variable {state next : State n Dest}

theorem new (kind : Kind) (fdSocket : Bool) (addr : Dest) (created : Bool) :
    Stopping (State.new kind fdSocket addr created : State n Dest) where
  idle := by simp [State.new]
  mutex := by simp [State.new]
  event := by simp [State.new]
  told := by simp [State.new]
  clearing := by simp [State.new]

/-- A call moves on while no destructor runs. -/
theorem of_call
    (stopping : Stopping state)
    {call : Fin n} {pc : CallPc Dest}
    (busy : state.calls call ≠ .idle ∨ state.destructor = .notCalled)
    (calls : next.calls = Function.update state.calls call pc)
    (sameDestructor : next.destructor = state.destructor)
    (mutex : next.mutex = none ∨
      ((next.mutex = some call ∨ next.mutex = state.mutex) ∧
        (pc = .pushed ∨ pc = .started)) ∨
      (next.mutex = state.mutex ∧
        state.calls call ≠ .pushed ∧ state.calls call ≠ .started)) :
    Stopping next := by
  have alive : next.destructor = .notCalled := by
    rw [sameDestructor]
    rcases busy with moving | alive
    · by_contra called
      exact moving (stopping.idle called call)
    · exact alive
  refine ⟨fun called => absurd alive called, ?_, by simp [alive],
    by simp [alive], by simp [alive]⟩
  intro holder held
  rw [calls]
  by_cases own : holder = call
  · subst own
    rw [Function.update_self]
    rcases mutex with free | ⟨-, point⟩ | ⟨same, notOwn⟩
    · simp [free] at held
    · exact point
    · have before := stopping.mutex holder (same ▸ held)
      exact absurd before (not_or.mpr notOwn)
  · rw [Function.update_of_ne own]
    rcases mutex with free | ⟨taken | same, -⟩ | ⟨same, -⟩
    · simp [free] at held
    · rw [taken, Option.some.injEq] at held
      exact absurd held.symm own
    · exact stopping.mutex holder (same ▸ held)
    · exact stopping.mutex holder (same ▸ held)

/-- The loop moves on. -/
theorem of_loop
    (stopping : Stopping state)
    (sameCalls : next.calls = state.calls)
    (sameMutex : next.mutex = state.mutex)
    (sameEvent : next.event = state.event)
    (sameDestructor : next.destructor = state.destructor)
    (told : state.destructor = .joining true →
      next.loop.stops = true ∨ 0 < next.pipe.bytes)
    (clearing : state.destructor = .joining true →
      next.loop.inWindow = false) :
    Stopping next := by
  refine ⟨?_, ?_, ?_, ?_, ?_⟩
  · rw [sameDestructor, sameCalls]
    exact stopping.idle
  · rw [sameMutex, sameCalls]
    exact stopping.mutex
  · rw [sameDestructor, sameEvent]
    exact stopping.event
  · rw [sameDestructor]
    exact told
  · rw [sameDestructor]
    exact clearing

/-- The loop goes from one point outside its selects to another. -/
theorem of_busy
    (stopping : Stopping state)
    (sameCalls : next.calls = state.calls)
    (sameMutex : next.mutex = state.mutex)
    (sameEvent : next.event = state.event)
    (sameDestructor : next.destructor = state.destructor)
    (samePipe : next.pipe = state.pipe)
    (before : state.loop.stops = true → next.loop.stops = true)
    (after : next.loop.inWindow = false) :
    Stopping next := by
  apply stopping.of_loop sameCalls sameMutex sameEvent sameDestructor
  · intro joining
    rw [samePipe]
    exact (stopping.told joining).imp before id
  · intro _
    exact after

/-- The destructor moves on without a `Break`. -/
theorem of_destructor
    (stopping : Stopping state)
    (sameCalls : next.calls = state.calls)
    (sameMutex : next.mutex = state.mutex)
    (idle : ∀ call, state.calls call = .idle)
    (event : next.event = false ∨
      (next.destructor ≠ .cleared ∧ ∀ broke, next.destructor ≠ .joining broke))
    (notJoining : next.destructor ≠ .joining true) :
    Stopping next := by
  refine ⟨fun _ => sameCalls ▸ idle, ?_, ?_,
    fun joining => absurd joining notJoining,
    fun joining => absurd joining notJoining⟩
  · rw [sameMutex, sameCalls]
    exact stopping.mutex
  · rintro (cleared | ⟨broke, joining⟩)
    · exact event.resolve_right fun other => other.1 cleared
    · exact event.resolve_right fun other => other.2 broke joining

/-- Moves of the loop. -/
theorem of_moves
    (stopping : Stopping state)
    {source pc : LoopPc Dest}
    (sourceEq : state.loop = source)
    (moves : Moves state source pc) :
    Stopping { state with loop := pc } := by
  cases moves with
  | pollReturn possible =>
      have wakes : state.destructor = .joining true → 0 < state.pipe.bytes := by
        intro joining
        have told := stopping.told joining
        simpa [sourceEq, LoopPc.stops] using told
      refine stopping.of_loop rfl rfl rfl rfl ?_ ?_
      · intro joining
        exact Or.inr (wakes joining)
      · intro joining
        simp [LoopPc.inWindow, wakes joining]
  | resumed observed =>
      have notJoining : state.destructor ≠ .joining true := by
        intro joining
        have null := stopping.event (Or.inr ⟨true, joining⟩)
        simp [observed] at null
      exact stopping.of_loop rfl rfl rfl rfl
        (fun joining => absurd joining notJoining) (fun _ => rfl)
  | _ =>
      exact stopping.of_busy rfl rfl rfl rfl rfl
        (by simp [sourceEq, LoopPc.stops]) rfl

/-- The loop leaves the tests. -/
theorem of_tested
    (stopping : Stopping state)
    {mode : Mode Dest} {polled : Polled}
    (testing : state.loop = .testing mode polled)
    (sameCalls : next.calls = state.calls)
    (sameMutex : next.mutex = state.mutex)
    (sameEvent : next.event = state.event)
    (sameDestructor : next.destructor = state.destructor)
    (samePipe : next.pipe = state.pipe)
    (after : next.loop.inWindow = false)
    (obeys : polled.breakIn = true → next.loop.stops = true) :
    Stopping next := by
  apply stopping.of_busy sameCalls sameMutex sameEvent sameDestructor samePipe
  · intro stops
    rw [testing] at stops
    exact obeys stops
  · exact after

/-- One step outside the window. -/
theorem step
    (stopping : Stopping state)
    (pipe : state.pipe.Agrees)
    {action : Action n Dest}
    (outside : BreaksOutsideWindow state action)
    (fires : Fires state action next) :
    Stopping next := by
  cases fires with
  | unchanged alive => exact stopping
  | checked idle alive target =>
      exact stopping.of_call (Or.inr alive) rfl rfl
        (Or.inr (Or.inr ⟨rfl, by simp [idle], by simp [idle]⟩))
  | pushed pc free =>
      exact stopping.of_call (Or.inl (by simp [pc])) rfl rfl
        (Or.inr (Or.inl ⟨Or.inl rfl, Or.inl rfl⟩))
  | launched pc ended =>
      exact stopping.of_call (Or.inl (by simp [pc])) rfl rfl
        (Or.inr (Or.inl ⟨Or.inr rfl, Or.inr rfl⟩))
  | notLaunched pc ended =>
      exact stopping.of_call (Or.inl (by simp [pc])) rfl rfl
        (Or.inr (Or.inl ⟨Or.inr rfl, Or.inr rfl⟩))
  | started pc running =>
      exact stopping.of_call (Or.inl (by simp [pc])) rfl rfl
        (Or.inr (Or.inl ⟨Or.inr rfl, Or.inr rfl⟩))
  | sendBroke pc =>
      exact stopping.of_call (Or.inl (by simp [pc])) rfl rfl (Or.inl rfl)
  | userBroke alive =>
      exact stopping.of_loop rfl rfl rfl rfl (by simp [alive]) (by simp [alive])
  | readdressed alive =>
      exact stopping.of_loop rfl rfl rfl rfl stopping.told stopping.clearing
  | destroyed alive idle ended =>
      exact stopping.of_destructor rfl rfl idle (Or.inr (by simp)) (by simp)
  | destroying alive idle =>
      exact stopping.of_destructor rfl rfl idle (Or.inr (by simp)) (by simp)
  | eventCleared running =>
      exact stopping.of_destructor rfl rfl
        (stopping.idle (by simp [running])) (Or.inl rfl) (by simp)
  | @destructorBroke written cleared =>
      have agrees := pipe.breakPipe_any written
      refine ⟨fun _ => stopping.idle (by simp [cleared]), stopping.mutex,
        fun _ => stopping.event (Or.inl cleared), ?_, ?_⟩
      · intro joining
        rw [DestructorPc.joining.injEq] at joining
        exact Or.inr (agrees.flag.mp joining)
      · intro joining
        rw [DestructorPc.joining.injEq] at joining
        exact outside joining
  | joined joining ended =>
      exact stopping.of_destructor rfl rfl
        (stopping.idle (by simp [joining])) (Or.inr (by simp)) (by simp)
  | moved source moves => exact stopping.of_moves source moves
  | @cleared _ mode polled clearing =>
      refine stopping.of_loop rfl rfl rfl rfl ?_ (fun _ => rfl)
      intro joining
      have seen := stopping.clearing joining
      rw [clearing] at seen
      exact Or.inl (by simpa [LoopPc.inWindow, LoopPc.stops] using seen)
  | testedError testing =>
      exact stopping.of_tested testing rfl rfl rfl rfl rfl rfl (fun _ => rfl)
  | tested testing decides =>
      refine stopping.of_tested testing rfl rfl rfl rfl rfl ?_ ?_
      · cases decides <;> rfl
      · intro isBreak
        cases decides with
        | broke => rfl
        | sending quiet => simp [isBreak] at quiet
        | receiving quiet => simp [isBreak] at quiet
  | sent sending =>
      unfold State.sendDatagram
      split <;>
        exact stopping.of_busy rfl rfl rfl rfl rfl
          (by simp [sending, LoopPc.stops]) rfl
  | failed source =>
      exact stopping.of_busy rfl rfl rfl rfl rfl (fun _ => rfl) rfl
  | poppedNone pc empty =>
      exact stopping.of_busy rfl rfl rfl rfl rfl
        (by simp [pc, LoopPc.stops]) rfl
  | popped pc nonempty =>
      exact stopping.of_busy rfl rfl rfl rfl rfl
        (by simp [pc, LoopPc.stops]) rfl

/-- A step of the loop thread of a broken client brings its end nearer. -/
theorem stepsAhead_lt
    (stopping : Stopping state)
    (joining : state.destructor = .joining true)
    {action : Action n Dest}
    (fires : Fires state action next) :
    next.destructor = .joined ∨
      next.loop.stepsAhead < state.loop.stepsAhead := by
  have idle := stopping.idle (by simp [joining])
  cases fires with
  | unchanged alive => simp [joining] at alive
  | checked _ alive => simp [joining] at alive
  | pushed pc => simp [idle] at pc
  | launched pc => simp [idle] at pc
  | notLaunched pc => simp [idle] at pc
  | started pc => simp [idle] at pc
  | sendBroke pc => simp [idle] at pc
  | userBroke alive => simp [joining] at alive
  | readdressed alive => simp [joining] at alive
  | destroyed alive => simp [joining] at alive
  | destroying alive => simp [joining] at alive
  | eventCleared running => simp [joining] at running
  | destructorBroke cleared => simp [joining] at cleared
  | joined _ ended => exact Or.inl rfl
  | moved source moves =>
      refine Or.inr ?_
      rw [source]
      cases moves with
      | resumed observed =>
          have null := stopping.event (Or.inr ⟨true, joining⟩)
          simp [observed] at null
      | _ => simp [LoopPc.stepsAhead]
  | @cleared _ mode polled clearing =>
      have seen := stopping.clearing joining
      obtain ⟨outcome, breakIn⟩ := polled
      rw [clearing] at seen ⊢
      cases breakIn with
      | true => simp [LoopPc.stepsAhead]
      | false => cases seen
  | @testedError _ mode polled testing =>
      obtain ⟨outcome, breakIn⟩ := polled
      rw [testing]
      cases breakIn <;> simp [LoopPc.stepsAhead, State.fail]
  | @tested _ mode polled _ testing decides =>
      obtain ⟨outcome, breakIn⟩ := polled
      rw [testing]
      cases decides with
      | broke => cases breakIn <;> simp [LoopPc.stepsAhead]
      | sending quiet =>
          cases quiet
          simp [LoopPc.stepsAhead]
      | receiving quiet =>
          cases quiet
          simp [LoopPc.stepsAhead]
  | sent sending =>
      rw [sending]
      unfold State.sendDatagram
      split <;> simp [LoopPc.stepsAhead]
  | failed source =>
      rcases source with receiving | ⟨buf, len, addr, sending⟩
      · simp [receiving, LoopPc.stepsAhead, State.fail]
      · simp [sending, LoopPc.stepsAhead, State.fail]
  | poppedNone pc empty => simp [pc, LoopPc.stepsAhead]
  | popped pc nonempty => simp [pc, LoopPc.stepsAhead]

variable [DecidableEq Dest]

/-- Until the join ends the loop thread can take a step. -/
theorem exists_step
    (stopping : Stopping state)
    (joining : state.destructor = .joining true) :
    ∃ action, (state.step action).isSome = true := by
  have idle := stopping.idle (by simp [joining])
  have free : state.mutex = none := by
    cases held : state.mutex with
    | none => rfl
    | some call =>
        have moving := stopping.mutex call held
        simp [idle] at moving
  cases pc : state.loop with
  | notRunning =>
      exact ⟨.destroyJoin, by
        simp [State.step, State.stepCall, State.stepDestructor, joining, pc]⟩
  | top =>
      exact ⟨.loopRead, by
        simp [State.step, State.stepCall, State.stepDestructor, State.stepLoop,
          pc, free]⟩
  | polling mode =>
      have byte : 0 < state.pipe.bytes := by
        simpa [pc, LoopPc.stops] using stopping.told joining
      exact ⟨.pollReturn (.ready false false false), by
        simp [State.step, State.stepCall, State.stepDestructor, State.stepLoop,
          pc, State.canPoll, byte]⟩
  | clearing mode polled =>
      exact ⟨.clear, by
        simp [State.step, State.stepCall, State.stepDestructor, State.stepLoop,
          pc]⟩
  | testing mode polled =>
      exact ⟨.test, by
        simp [State.step, State.stepCall, State.stepDestructor, State.stepLoop,
          pc]⟩
  | sending buf len addr =>
      exact ⟨.sendto false, by
        simp [State.step, State.stepCall, State.stepDestructor, State.stepLoop,
          pc]⟩
  | sent =>
      refine ⟨.popFront, ?_⟩
      cases list : state.listBuffer <;>
        simp [State.step, State.stepCall, State.stepDestructor, State.stepLoop,
          pc, free, list]
  | receiving =>
      exact ⟨.recvfrom false, by
        simp [State.step, State.stepCall, State.stepDestructor, State.stepLoop,
          pc]⟩
  | broke =>
      have null := stopping.event (Or.inr ⟨true, joining⟩)
      exact ⟨.eventTest, by
        simp [State.step, State.stepCall, State.stepDestructor, State.stepLoop,
          pc, null]⟩
  | onError =>
      exact ⟨.errorDone, by
        simp [State.step, State.stepCall, State.stepDestructor, State.stepLoop,
          pc]⟩
  | leaving =>
      exact ⟨.exit, by
        simp [State.step, State.stepCall, State.stepDestructor, State.stepLoop,
          pc]⟩

end Stopping

/-! ## Runs -/

section Runs

variable [DecidableEq Dest]

theorem reporting_of_reachableUnder
    {state : State n Dest}
    (reached : (system n Dest).ReachableUnder BreaksOutsideWindow state) :
    Reporting state :=
  invariant_of_fires Reporting.new
    (fun _ reporting outside fires => reporting.step outside fires) reached

theorem stopping_of_reachableUnder
    {state : State n Dest}
    (reached : (system n Dest).ReachableUnder BreaksOutsideWindow state) :
    Stopping state :=
  invariant_of_fires Stopping.new
    (fun prior stopping outside fires =>
      stopping.step (reporting_of_reachableUnder prior).pipe outside fires)
    reached

/-- In every run in which no `Break` returns true between a `poll` that did not
report the breaker and the `Clear` of the same select: once the destructor's
`Break` has returned true the loop thread does not block over an empty pipe, the
join ends, and no `Break` is missed by both the select in progress and the next
one. -/
theorem shutdownWakes_of_breaksOutsideWindow
    (state : State n Dest)
    (reached : (system n Dest).ReachableUnder BreaksOutsideWindow state) :
    ShutdownWakes state ∧ JoinEnds state ∧ state.missed = false := by
  have reporting := reporting_of_reachableUnder reached
  have stopping := stopping_of_reachableUnder reached
  refine ⟨?_, ?_, reporting.reported⟩
  · intro joining mode polling
    simpa [polling, LoopPc.stops] using stopping.told joining
  · intro joining
    refine ⟨stopping.exists_step joining, ?_⟩
    intro action next stepped
    exact stopping.stepsAhead_lt joining (State.step_fires stepped)

end Runs

/-- A client with one caller sends a datagram, goes on to wait for one, and is
destroyed while it waits. -/
def destroyedWhileWaiting : List (Action 1 Unit) :=
  [.sendCheck onlyCall () [1], .sendPush onlyCall, .sendStart onlyCall true,
    .sendBreak onlyCall true, .loopRead, .pollReturn (.ready false false true),
    .clear, .test, .eventTest, .loopRead, .pollReturn (.ready false false true),
    .clear, .test, .sendto true, .popFront, .loopRead, .destroy, .destroyClear,
    .destroyBreak true]

/-- The same client, with a datagram arriving just before the destructor's
`Break`. -/
def destroyedInWindow : List (Action 1 Unit) :=
  [.sendCheck onlyCall () [1], .sendPush onlyCall, .sendStart onlyCall true,
    .sendBreak onlyCall true, .loopRead, .pollReturn (.ready false false true),
    .clear, .test, .eventTest, .loopRead, .pollReturn (.ready false false true),
    .clear, .test, .sendto true, .popFront, .loopRead,
    .pollReturn (.ready false false true), .destroy, .destroyClear,
    .destroyBreak true, .clear, .test, .recvfrom true, .loopRead]

theorem shutdownWakes_destroyedWhileWaiting :
    ∃ state : State 1 Unit,
      (system 1 Unit).ReachableUnder BreaksOutsideWindow state ∧
      state.destructor = .joining true ∧ state.loop = .polling .read ∧
      ShutdownWakes state ∧ JoinEnds state ∧ state.missed = false := by
  have start : (system 1 Unit).ReachableUnder BreaksOutsideWindow
      (State.new .client true () false) := .initial ⟨_, _, _, _, rfl⟩
  obtain ⟨state, reached, test⟩ := start.exists_of_execUnder
    (by decide : ((system 1 Unit).execUnder BreaksOutsideWindow
      (State.new .client true () false) destroyedWhileWaiting).map
        (fun state => decide (state.destructor = .joining true ∧
          state.loop = .polling .read)) = some true)
  obtain ⟨joining, polling⟩ := of_decide_eq_true test
  exact ⟨state, reached, joining, polling,
    shutdownWakes_of_breaksOutsideWindow state reached⟩

/-- The destructor's `Break` is erased unseen and the loop blocks for good; one
more datagram, and the next select has missed it too. -/
theorem not_shutdownWakes_destroyedInWindow :
    (∃ state : State 1 Unit,
      (system 1 Unit).exec (State.new .client true () false)
        destroyedInWindow = some state ∧
      (system 1 Unit).Reachable state ∧
      state.destructor = .joining true ∧ state.loop = .polling .read ∧
      state.pipe.bytes = 0 ∧ ¬ShutdownWakes state) ∧
    ∃ state : State 1 Unit,
      (system 1 Unit).exec (State.new .client true () false)
        (destroyedInWindow ++
          [.pollReturn (.ready false false true), .clear, .test]) =
            some state ∧
      (system 1 Unit).Reachable state ∧ state.missed = true := by
  have start : (system 1 Unit).initial (State.new .client true () false) :=
    ⟨_, _, _, _, rfl⟩
  refine ⟨?_, ?_⟩
  · obtain ⟨state, executed, reached, test⟩ := Machine.exists_reachable_of_exec
      start
      (by decide : ((system 1 Unit).exec (State.new .client true () false)
        destroyedInWindow).map
          (fun state => decide (state.destructor = .joining true ∧
            state.loop = .polling .read ∧ state.pipe.bytes = 0)) = some true)
    obtain ⟨joining, polling, empty⟩ := of_decide_eq_true test
    refine ⟨state, executed, reached, joining, polling, empty, ?_⟩
    intro wakes
    have byte := wakes joining .read polling
    omega
  · obtain ⟨state, executed, reached, test⟩ := Machine.exists_reachable_of_exec
      start
      (by decide : ((system 1 Unit).exec (State.new .client true () false)
        (destroyedInWindow ++
          [.pollReturn (.ready false false true), .clear, .test])).map
          (fun state => state.missed) = some true)
    exact ⟨state, executed, reached, test⟩

end Udp
end Skplat
