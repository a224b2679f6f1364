import Skplat.TcpClient.Steps

/-!
# Wake-ups of the socket thread

`Write`, `Read` and `Disconnect` change a flag or the list and then break the
socket thread's `poll`; the thread drains the breaker after `poll` and reads the
flags and the list again before the next one.  So whenever the thread is blocked
with an empty breaker pipe it has seen every change, except one whose call is
still on its way to its `Break`.
-/

namespace Skplat
namespace TcpClient

/-- A blocked socket thread with an empty breaker pipe has seen everything. -/
def PollMissesNothing (state : State) : Prop :=
  ∀ inRead inWrite, state.loop = .polling inRead inWrite →
    state.pipe.bytes = 0 →
    state.willDisconnect = false ∧
      (state.lstBuffer ≠ [] → inWrite = true) ∧
      (state.haveReadDate = false → inRead = true)

/-- The call has pushed its buffer and not yet called `Break`. -/
def CallPc.isWriteBreaking : CallPc → Bool
  | .writeBreaking _ => true
  | _ => false

/-- The call has cleared `have_read_date_` and not yet called `Break`. -/
def CallPc.isReadBreaking : CallPc → Bool
  | .readBreaking => true
  | _ => false

/-- The call has set `will_disconnect_` and not yet called `Break`. -/
def CallPc.isDisconnectBreaking : CallPc → Bool
  | .disconnectBreaking => true
  | _ => false

/-- A blocked socket thread with an empty breaker pipe has seen everything but
the changes whose calls still have their `Break` ahead. -/
def PollMissesOnlyPending (state : State) : Prop :=
  ∀ inRead inWrite, state.loop = .polling inRead inWrite →
    state.pipe.bytes = 0 →
    (state.willDisconnect = false ∨
        ∃ call, (state.calls call).isDisconnectBreaking = true) ∧
      (state.lstBuffer ≠ [] → inWrite = true ∨
        ∃ call, (state.calls call).isWriteBreaking = true) ∧
      (state.haveReadDate = false → inRead = true ∨
        ∃ call, (state.calls call).isReadBreaking = true)

/-! ## Signals -/

/-- A change is signalled by a byte in the pipe or by a call that is about to
write one. -/
def Signalled (state : State) (breaking : CallPc → Bool) : Prop :=
  0 < state.pipe.bytes ∨ ∃ call, breaking (state.calls call) = true

namespace Signalled

variable {state next : State} {breaking : CallPc → Bool}

theorem congr
    (signalled : Signalled state breaking)
    (samePipe : next.pipe = state.pipe)
    (sameCalls : next.calls = state.calls) :
    Signalled next breaking := by
  rw [Signalled, samePipe, sameCalls]
  exact signalled

/-- Moving a call that was not on its way to this `Break`. -/
theorem setCall
    (signalled : Signalled state breaking)
    {call : Nat} (pc : CallPc)
    (other : breaking (state.calls call) = false)
    (samePipe : next.pipe = state.pipe)
    (calls : next.calls = Function.update state.calls call pc) :
    Signalled next breaking := by
  rcases signalled with byte | ⟨pending, isBreaking⟩
  · exact Or.inl (samePipe ▸ byte)
  · refine Or.inr ⟨pending, ?_⟩
    have different : pending ≠ call := by
      rintro rfl
      rw [other] at isBreaking
      cases isBreaking
    rw [calls, Function.update_of_ne different]
    exact isBreaking

/-- A call that has just made its change. -/
theorem of_setCall
    {call : Nat} {pc : CallPc}
    (isBreaking : breaking pc = true)
    (calls : next.calls = Function.update state.calls call pc) :
    Signalled next breaking := by
  refine Or.inr ⟨call, ?_⟩
  rw [calls, Function.update_self]
  exact isBreaking

end Signalled

/-- The test of `will_disconnect_` lies ahead, or the thread has ended. -/
def LoopPc.testsDisconnect : LoopPc → Bool
  | .connectTesting | .testing _ | .finished | .undefined => true
  | _ => false

/-- The invariant: every change that the socket thread has not seen is
signalled. -/
structure Signals (state : State) : Prop where
  /-- The breaker's flag tells the truth. -/
  pipe : state.pipe.Agrees
  /-- A disconnect is signalled until the thread is about to test for it. -/
  disconnect : state.willDisconnect = true →
    state.loop.testsDisconnect = false →
    Signalled state CallPc.isDisconnectBreaking
  /-- Buffers pushed after the write set was fixed are signalled. -/
  write : ∀ inRead inWrite, state.loop = .polling inRead inWrite →
    state.lstBuffer ≠ [] → inWrite = true ∨
      Signalled state CallPc.isWriteBreaking
  /-- Reads after the read set was fixed are signalled. -/
  read : ∀ inRead, (state.loop = .readTested inRead ∨
      ∃ inWrite, state.loop = .polling inRead inWrite) →
    state.haveReadDate = false → inRead = true ∨
      Signalled state CallPc.isReadBreaking

namespace Signals

variable {state next : State}

theorem new : Signals State.new where
  pipe := Breaker.agrees_new
  disconnect := by simp [State.new]
  write := by simp [State.new]
  read := by simp [State.new]

/-- After a `Break` everything is signalled. -/
theorem of_break
    (signals : Signals state)
    (pipe : next.pipe = state.pipe.breakPipe true) :
    Signals next := by
  obtain ⟨agrees, byte⟩ := signals.pipe.breakPipe
  rw [← pipe] at agrees byte
  exact ⟨agrees, fun _ _ => Or.inl byte, fun _ _ _ _ => Or.inr (Or.inl byte),
    fun _ _ _ => Or.inr (Or.inl byte)⟩

/-- A call moves on, and what it changes is announced by its new point. -/
theorem of_setCall
    (signals : Signals state)
    {call : Nat} {pc : CallPc}
    (quiet : (state.calls call).isDisconnectBreaking = false ∧
      (state.calls call).isWriteBreaking = false ∧
      (state.calls call).isReadBreaking = false)
    (samePipe : next.pipe = state.pipe)
    (sameLoop : next.loop = state.loop)
    (calls : next.calls = Function.update state.calls call pc)
    (disconnect : next.willDisconnect = state.willDisconnect ∨
      pc.isDisconnectBreaking = true)
    (write : next.lstBuffer = state.lstBuffer ∨ pc.isWriteBreaking = true)
    (read : next.haveReadDate = state.haveReadDate ∨
      pc.isReadBreaking = true) :
    Signals next := by
  refine ⟨samePipe ▸ signals.pipe, ?_, ?_, ?_⟩
  · intro requested outside
    rcases disconnect with same | announced
    · exact (signals.disconnect (same ▸ requested)
        (sameLoop ▸ outside)).setCall pc quiet.1 samePipe calls
    · exact .of_setCall announced calls
  · intro inRead inWrite polling nonempty
    rcases write with same | announced
    · refine (signals.write inRead inWrite (sameLoop ▸ polling)
        (same ▸ nonempty)).imp id fun signalled => ?_
      exact signalled.setCall pc quiet.2.1 samePipe calls
    · exact Or.inr (.of_setCall announced calls)
  · intro inRead fixed unread
    rcases read with same | announced
    · refine (signals.read inRead (sameLoop ▸ fixed)
        (same ▸ unread)).imp id fun signalled => ?_
      exact signalled.setCall pc quiet.2.2 samePipe calls
    · exact Or.inr (.of_setCall announced calls)

/-- The thread moves on outside its waits. -/
theorem of_loop
    (signals : Signals state)
    (samePipe : next.pipe = state.pipe)
    (sameCalls : next.calls = state.calls)
    (sameDisconnect : next.willDisconnect = state.willDisconnect)
    (tested : next.willDisconnect = true → next.loop.testsDisconnect = false →
      state.loop.testsDisconnect = false)
    (notWaiting : ∀ inRead, next.loop ≠ .readTested inRead ∧
      ∀ inWrite, next.loop ≠ .polling inRead inWrite) :
    Signals next := by
  refine ⟨samePipe ▸ signals.pipe, ?_, ?_, ?_⟩
  · intro requested outside
    exact (signals.disconnect (sameDisconnect ▸ requested)
      (tested requested outside)).congr samePipe sameCalls
  · intro inRead inWrite polling
    exact absurd polling ((notWaiting inRead).2 inWrite)
  · intro inRead fixed
    rcases fixed with readTested | ⟨inWrite, polling⟩
    · exact absurd readTested (notWaiting inRead).1
    · exact absurd polling ((notWaiting inRead).2 inWrite)

/-- Moves of the thread. -/
theorem of_moves
    (signals : Signals state)
    {source pc : LoopPc} {status : Status}
    (sourceEq : state.loop = source)
    (moves : Moves state source pc) :
    Signals { state with status := status, loop := pc } := by
  cases moves with
  | readTest =>
      refine ⟨signals.pipe, ?_, by simp, ?_⟩
      · intro requested _
        exact signals.disconnect requested (by rw [sourceEq]; rfl)
      · rintro _ (⟨⟨⟩⟩ | ⟨_, ⟨⟩⟩) unread
        exact Or.inl (by simpa using unread)
  | @writeTest inRead =>
      refine ⟨signals.pipe, ?_, ?_, ?_⟩
      · intro requested _
        exact signals.disconnect requested (by rw [sourceEq]; rfl)
      · rintro _ _ ⟨⟩ nonempty
        exact Or.inl (by simpa using nonempty)
      · rintro _ (⟨⟨⟩⟩ | ⟨_, ⟨⟩⟩) unread
        exact signals.read inRead (Or.inl sourceEq) unread
  | connectTest connected =>
      exact signals.of_loop rfl rfl rfl (by simp [connected]) (by simp)
  | disconnectTest connected =>
      exact signals.of_loop rfl rfl rfl (by simp [connected]) (by simp)
  | connectCancelled => exact signals.of_loop rfl rfl rfl (by simp
      [LoopPc.testsDisconnect]) (by simp)
  | stop => exact signals.of_loop rfl rfl rfl (by simp
      [LoopPc.testsDisconnect]) (by simp)
  | _ =>
      exact signals.of_loop rfl rfl rfl
        (by simp [sourceEq, LoopPc.testsDisconnect]) (by simp)

/-- One step keeps every unseen change signalled. -/
theorem step
    (signals : Signals state)
    {action : Action}
    (fires : Fires state action next) :
    Signals next := by
  cases fires with
  | unchanged => exact signals
  | begins idle begins =>
      exact signals.of_setCall (by simp [idle, CallPc.isDisconnectBreaking,
        CallPc.isWriteBreaking, CallPc.isReadBreaking]) rfl rfl rfl
        (Or.inl rfl) (Or.inl rfl) (Or.inl rfl)
  | pushed writing free =>
      exact signals.of_setCall (by simp [writing, CallPc.isDisconnectBreaking,
        CallPc.isWriteBreaking, CallPc.isReadBreaking]) rfl rfl rfl
        (Or.inl rfl) (Or.inr rfl) (Or.inl rfl)
  | received reading =>
      exact signals.of_setCall (by simp [reading, CallPc.isDisconnectBreaking,
        CallPc.isWriteBreaking, CallPc.isReadBreaking]) rfl rfl rfl
        (Or.inl rfl) (Or.inl rfl) (Or.inr rfl)
  | disconnected disconnecting =>
      exact signals.of_setCall (by simp [disconnecting,
        CallPc.isDisconnectBreaking, CallPc.isWriteBreaking,
        CallPc.isReadBreaking]) rfl rfl rfl
        (Or.inr rfl) (Or.inl rfl) (Or.inl rfl)
  | writeBroke breaking => exact signals.of_break rfl
  | broke source breaking => exact signals.of_break rfl
  | moved source moves => exact signals.of_moves source moves
  | cleared source clears =>
      refine ⟨signals.pipe.clear.1, ?_, ?_, ?_⟩
      · cases clears <;> simp [LoopPc.testsDisconnect]
      · cases clears <;> simp
      · cases clears <;> simp
  | haveData reading =>
      exact signals.of_loop rfl rfl rfl
        (by simp [reading, LoopPc.testsDisconnect]) (by simp)
  | closed reading =>
      exact signals.of_loop rfl rfl rfl
        (by simp [State.finish, LoopPc.testsDisconnect]) (by simp [State.finish])
  | sent writing list inside =>
      exact signals.of_loop rfl rfl rfl
        (by simp [writing, LoopPc.testsDisconnect]) (by simp)
  | popped writing list allSent =>
      exact signals.of_loop rfl rfl rfl
        (by simp [writing, LoopPc.testsDisconnect]) (by simp)
  | wrote onWrote =>
      exact signals.of_loop rfl rfl rfl
        (by simp [onWrote, LoopPc.testsDisconnect]) (by simp)
  | allWrote onAllWrote =>
      exact signals.of_loop rfl rfl rfl
        (by simp [onAllWrote, LoopPc.testsDisconnect]) (by simp)

end Signals

theorem signals_of_reachable
    {state : State}
    (reached : system.Reachable state) :
    Signals state :=
  invariant_of_fires .new (fun signals fires => signals.step fires) reached

/-- In every reachable state a socket thread blocked in `poll` over an empty pipe
misses at most changes whose calls still have their `Break` ahead, and nothing
when there is no such call. -/
theorem pollMissesOnlyPending_of_reachable
    (state : State)
    (reached : system.Reachable state) :
    PollMissesOnlyPending state ∧
      ((∀ call, (state.calls call).isDisconnectBreaking = false ∧
          (state.calls call).isWriteBreaking = false ∧
          (state.calls call).isReadBreaking = false) →
        PollMissesNothing state) := by
  have signals := signals_of_reachable reached
  have pending : PollMissesOnlyPending state := by
    intro inRead inWrite polling empty
    have byCall : ∀ {breaking : CallPc → Bool}, Signalled state breaking →
        ∃ call, breaking (state.calls call) = true :=
      fun signalled => signalled.resolve_left (by omega)
    refine ⟨?_, ?_, ?_⟩
    · cases requested : state.willDisconnect with
      | false => exact Or.inl rfl
      | true =>
          exact Or.inr (byCall (signals.disconnect requested
            (by rw [polling]; rfl)))
    · exact fun nonempty =>
        (signals.write inRead inWrite polling nonempty).imp id byCall
    · exact fun unread =>
        (signals.read inRead (Or.inr ⟨inWrite, polling⟩) unread).imp id byCall
  refine ⟨pending, ?_⟩
  intro noneBreaking inRead inWrite polling empty
  obtain ⟨disconnect, write, read⟩ := pending inRead inWrite polling empty
  refine ⟨disconnect.resolve_right ?_, fun nonempty =>
    (write nonempty).resolve_right ?_, fun unread =>
    (read unread).resolve_right ?_⟩
  · rintro ⟨call, breaking⟩
    simp [(noneBreaking call).1] at breaking
  · rintro ⟨call, breaking⟩
    simp [(noneBreaking call).2.1] at breaking
  · rintro ⟨call, breaking⟩
    simp [(noneBreaking call).2.2] at breaking

/-- Connect and block in the first `poll`. -/
def connectAndPoll : List Action :=
  connectActions ++ [.readTest, .writeTest]

/-- A write is pushed, breaks the `poll` and is in the next write set. -/
def writeThenPoll : List Action :=
  connectAndPoll ++
    [.writeCheck 0 threeBytes false, .writePush 0, .writeBreak 0,
      .pollReturn (.ready false false false), .clear, .disconnectTest,
      .readBranch .again, .writeBranch 0 false, .readTest, .writeTest]

theorem pollMissesOnlyPending_of_reachable_writeThenPoll :
    ∃ state, system.Reachable state ∧ state.loop = .polling true true ∧
      state.pipe.bytes = 0 ∧ state.lstBuffer ≠ [] ∧
      PollMissesOnlyPending state := by
  obtain ⟨state, _, reached, test⟩ := Machine.exists_reachable_of_exec
    (rfl : system.initial State.new)
    (by decide : (system.exec State.new writeThenPoll).map
      (fun state => decide (state.loop = .polling true true ∧
        state.pipe.bytes = 0 ∧ state.lstBuffer ≠ [])) = some true)
  obtain ⟨polling, empty, nonempty⟩ := of_decide_eq_true test
  exact ⟨state, reached, polling, empty, nonempty,
    (pollMissesOnlyPending_of_reachable state reached).1⟩

/-- A write has pushed its buffer while the thread is blocked and is about to
call `Break`. -/
def pushWhilePolling : List Action :=
  connectAndPoll ++
    [.writeCheck 0 threeBytes false, .writePush 0]

theorem pollMissesNothing_pushWhilePolling :
    ∃ state, system.exec State.new pushWhilePolling = some state ∧
      system.Reachable state ∧ state.loop = .polling true false ∧
      state.pipe.bytes = 0 ∧ state.lstBuffer ≠ [] ∧
      ¬ PollMissesNothing state := by
  obtain ⟨state, executed, reached, test⟩ := Machine.exists_reachable_of_exec
    (rfl : system.initial State.new)
    (by decide : (system.exec State.new pushWhilePolling).map
      (fun state => decide (state.loop = .polling true false ∧
        state.pipe.bytes = 0 ∧ state.lstBuffer ≠ [])) = some true)
  obtain ⟨polling, empty, nonempty⟩ := of_decide_eq_true test
  refine ⟨state, executed, reached, polling, empty, nonempty, ?_⟩
  intro missesNothing
  have inWrite := (missesNothing true false polling empty).2.1 nonempty
  cases inWrite

end TcpClient
end Skplat
