import Skplat.TcpClient.System

/-!
# What one step of the TCP client can do

Inversion of the executable step function, in the shape in which the invariant
proofs use it: steps that only move the socket thread, steps that drain the
breaker, and the few steps that change shared data.
-/

namespace Skplat
namespace TcpClient

/-- Steps of the socket thread that change no shared data but the status. -/
inductive Moves (state : State) : LoopPc → LoopPc → Prop
  | connect : Moves state .notStarted .connecting
  | connectFail : Moves state .connecting .finished
  | connectSelect : Moves state .connecting .connectPolling
  | connectPollReturn {failure : Option Status} :
      Moves state .connectPolling (.connectClearing failure)
  | connectCancelled : Moves state .connectTesting .finished
  | connectTest :
      state.willDisconnect = false →
      Moves state .connectTesting .onConnect
  | connected : Moves state .onConnect .top
  | readTest : Moves state .top (.readTested (!state.haveReadDate))
  | writeTest {inRead : Bool} :
      Moves state (.readTested inRead)
        (.polling inRead (!state.lstBuffer.isEmpty))
  | pollReturn {inRead inWrite : Bool} {result : PollResult} :
      (∀ exception readable, result = .ready exception readable true →
        inWrite = true) →
      Moves state (.polling inRead inWrite) (.clearing result)
  | stop {result : PollResult} : Moves state (.testing result) .finished
  | disconnectTest {exception readable writable : Bool} :
      state.willDisconnect = false →
      Moves state (.testing (.ready exception readable writable))
        (.reading readable writable)
  | skipRead {readable writable : Bool} :
      Moves state (.reading readable writable) (.writing writable)
  | readFail {readable writable : Bool} :
      Moves state (.reading readable writable) .finished
  | readDone {writable : Bool} :
      Moves state (.onRead writable) (.writing writable)
  | skipWrite {writable : Bool} : Moves state (.writing writable) .top
  | writeFail {writable : Bool} : Moves state (.writing writable) .finished
  | frontOfEmpty :
      state.lstBuffer = [] → Moves state (.writing true) .undefined
  | allTestEmpty :
      state.lstBuffer = [] →
      Moves state .allTesting (.onAllWrote state.accepted.length)
  | allTestMore : Moves state .allTesting .top

/-- Steps of the socket thread that call `Clear`. -/
inductive Clears : LoopPc → LoopPc → Prop
  | connectFail {status : Status} :
      Clears (.connectClearing (some status)) .finished
  | connectClear : Clears (.connectClearing none) .connectTesting
  | clear {result : PollResult} : Clears (.clearing result) (.testing result)

/-- The first point of a call. -/
inductive Begins : CallPc → Prop
  | write {data : Payload} {post : Bool} : Begins (.writing data post)
  | read : Begins .reading
  | disconnect : Begins .disconnecting

/-- The step relation. -/
inductive Fires (state : State) : Action → State → Prop
  | unchanged {action : Action} : Fires state action state
  | begins {action : Action} {call : Nat} {pc : CallPc} :
      state.calls call = .idle → Begins pc →
      Fires state action (state.setCall call pc)
  | pushed {call : Nat} {data : Payload} {post : Bool} :
      state.calls call = .writing data post →
      state.writeMutex = none →
      Fires state (.writePush call)
        ({ state with
          lstBuffer := state.lstBuffer ++ [State.bufferOf data.val post]
          writedbufid := toInt32 (state.writedbufid + 1)
          writeMutex := some call
          accepted := state.accepted ++ [data.val] }.setCall call
            (.writeBreaking state.accepted.length))
  | writeBroke {call index : Nat} :
      state.calls call = .writeBreaking index →
      Fires state (.writeBreak call)
        ({ state with
          writeMutex := none
          returned := state.returned ++
            [(state.writedbufid, index)] }.sendBreak.setCall call .idle)
  | received {call : Nat} :
      state.calls call = .reading →
      Fires state (.readRecv call)
        ({ state with
          haveReadDate := false
          readDisconnectMutex := some call }.setCall call .readBreaking)
  | disconnected {call : Nat} :
      state.calls call = .disconnecting →
      Fires state (.disconnectSet call)
        ({ state with
          willDisconnect := true
          readDisconnectMutex := some call }.setCall call .disconnectBreaking)
  | broke {action : Action} {call : Nat} {source : CallPc} :
      state.calls call = source →
      source = .readBreaking ∨ source = .disconnectBreaking →
      Fires state action
        ({ state with
          readDisconnectMutex := none }.sendBreak.setCall call .idle)
  | moved {action : Action} {source pc : LoopPc} {status : Status} :
      state.loop = source → Moves state source pc →
      Fires state action { state with status := status, loop := pc }
  | cleared {action : Action} {source pc : LoopPc} {status : Status} :
      state.loop = source → Clears source pc →
      Fires state action
        { state with status := status, pipe := state.pipe.clear, loop := pc }
  | haveData {action : Action} {writable : Bool} :
      state.loop = .reading true writable →
      Fires state action
        { state with haveReadDate := true, loop := .onRead writable }
  | closed {action : Action} {writable : Bool} :
      state.loop = .reading true writable →
      Fires state action
        ({ state with haveReadDate := false }.finish .kTcpDisConnected)
  | sent {action : Action} {buffer : AutoBuffer} {rest : List AutoBuffer}
      {count : Nat} :
      state.loop = .writing true →
      state.lstBuffer = buffer :: rest →
      buffer.pos.toNat + count ≤ buffer.length →
      Fires state action
        { state with
          lstBuffer := buffer.seek count .seekCur :: rest
          sent := state.sent ++ buffer.bytesAtPos count
          loop := .top }
  | popped {action : Action} {buffer : AutoBuffer} {rest : List AutoBuffer} :
      state.loop = .writing true →
      state.lstBuffer = buffer :: rest →
      buffer.pos = buffer.length →
      Fires state action
        { state with
          lstBuffer := rest
          loop := .onWrote (buffer.length % 2 ^ 32) }
  | wrote {len : Nat} :
      state.loop = .onWrote len →
      Fires state .wroteDone
        { state with
          writeId := toInt32 (state.writeId + 1)
          wrote := state.wrote ++ [(toInt32 (state.writeId + 1), len)]
          loop := .allTesting }
  | allWrote {checked : Nat} :
      state.loop = .onAllWrote checked →
      Fires state .allWroteDone
        { state with
          allWrote := state.allWrote ++ [(checked, state.accepted.length)]
          loop := .top }

namespace State

variable {state next : State}

/-- Counts that `send` can return survive the conversion to `int`. -/
theorem toInt32_of_le_sendMax
    {result : Int}
    (lower : -1 ≤ result) (upper : result ≤ sendMax) :
    toInt32 result = result := by
  have bound : (sendMax : Int) < 2 ^ 31 := by decide
  exact toInt32_eq_self (by omega) (by omega)

private theorem stepCall_fires
    {action : Action}
    (stepped : state.stepCall action = some next) :
    Fires state action next := by
  cases action with
  | writeCheck call data post =>
      simp only [stepCall] at stepped
      split at stepped
      · rename_i idle
        split at stepped
        · cases stepped
          exact .begins idle .write
        · cases stepped
          exact .unchanged
      · cases stepped
  | writePush call =>
      simp only [stepCall] at stepped
      split at stepped
      · rename_i data post pc
        split at stepped
        · rename_i free
          cases stepped
          exact .pushed pc free
        · cases stepped
      · cases stepped
  | writeBreak call =>
      simp only [stepCall] at stepped
      split at stepped
      · rename_i index pc
        cases stepped
        exact .writeBroke pc
      · cases stepped
  | readCheck call =>
      simp only [stepCall] at stepped
      split at stepped
      · rename_i idle
        split at stepped
        · cases stepped
          exact .begins idle .read
        · cases stepped
          exact .unchanged
      · cases stepped
  | readRecv call =>
      simp only [stepCall] at stepped
      split at stepped
      · rename_i enabled
        cases stepped
        exact .received enabled.1
      · cases stepped
  | readBreak call =>
      simp only [stepCall] at stepped
      split at stepped
      · rename_i breaking
        cases stepped
        exact .broke breaking (Or.inl rfl)
      · cases stepped
  | disconnectCheck call =>
      simp only [stepCall] at stepped
      split at stepped
      · rename_i idle
        split at stepped
        · cases stepped
          exact .unchanged
        · cases stepped
          exact .begins idle .disconnect
      · cases stepped
  | disconnectSet call =>
      simp only [stepCall] at stepped
      split at stepped
      · rename_i enabled
        cases stepped
        exact .disconnected enabled.1
      · cases stepped
  | disconnectBreak call =>
      simp only [stepCall] at stepped
      split at stepped
      · rename_i breaking
        cases stepped
        exact .broke breaking (Or.inr rfl)
      · cases stepped
  | _ => cases stepped

private theorem stepConnect_fires
    {action : Action}
    (stepped : state.stepConnect action = some next) :
    Fires state action next := by
  cases action with
  | connect =>
      simp only [stepConnect] at stepped
      split at stepped
      · rename_i enabled
        cases stepped
        exact .moved enabled.1 .connect
      · cases stepped
  | connectFail status =>
      simp only [stepConnect] at stepped
      split at stepped
      · rename_i enabled
        cases stepped
        exact .moved enabled.1 .connectFail
      · cases stepped
  | connectSelect =>
      simp only [stepConnect] at stepped
      split at stepped
      · rename_i connecting
        cases stepped
        exact .moved connecting .connectSelect
      · cases stepped
  | connectPollReturn failure =>
      simp only [stepConnect] at stepped
      split at stepped
      · rename_i enabled
        cases stepped
        exact .moved enabled.1 .connectPollReturn
      · cases stepped
  | connectClear =>
      simp only [stepConnect] at stepped
      split at stepped
      · rename_i failure pc
        cases failure with
        | none =>
            cases stepped
            exact .cleared pc .connectClear
        | some status =>
            cases stepped
            exact .cleared pc .connectFail
      · cases stepped
  | connectTest =>
      simp only [stepConnect] at stepped
      split at stepped
      · rename_i testing
        split at stepped
        · cases stepped
          exact .moved testing .connectCancelled
        · rename_i connected
          cases stepped
          exact .moved testing (.connectTest (by simpa using connected))
      · cases stepped
  | connected =>
      simp only [stepConnect] at stepped
      split at stepped
      · rename_i onConnect
        cases stepped
        exact .moved onConnect .connected
      · cases stepped
  | _ => cases stepped

private theorem sendFront_fires
    {buffer : AutoBuffer} {rest : List AutoBuffer} {result : Int} {again : Bool}
    {action : Action}
    (writing : state.loop = .writing true)
    (list : state.lstBuffer = buffer :: rest)
    (stepped : state.sendFront buffer rest result again = some next) :
    Fires state action next := by
  have cursor := buffer.cursor
  simp only [sendFront] at stepped
  split at stepped
  · rename_i unsent
    split at stepped
    · rename_i bounds
      have exactLen := toInt32_of_le_sendMax bounds.1 bounds.2.2
      rw [exactLen] at stepped
      by_cases positive : 0 < result
      · obtain ⟨count, rfl⟩ := Int.eq_ofNat_of_zero_le positive.le
        rw [if_neg (by omega), if_pos positive] at stepped
        cases stepped
        exact .sent writing list (by omega)
      · have nothing : result.toNat = 0 := by omega
        simp only [nothing, AutoBuffer.bytesAtPos, List.take_zero,
          List.append_nil, if_neg positive] at stepped
        split at stepped
        · cases stepped
          exact .moved writing .writeFail
        · cases stepped
          exact .moved writing .skipWrite
    · cases stepped
  · rename_i allSent
    cases stepped
    exact .popped writing list (by omega)

private theorem stepLoop_fires
    {action : Action}
    (stepped : state.stepLoop action = some next) :
    Fires state action next := by
  cases action with
  | readTest =>
      simp only [stepLoop] at stepped
      split at stepped
      · rename_i atTop
        cases stepped
        exact .moved atTop .readTest
      · cases stepped
  | writeTest =>
      simp only [stepLoop] at stepped
      split at stepped
      · rename_i inRead pc
        split at stepped
        · cases stepped
          exact .moved pc .writeTest
        · cases stepped
      · cases stepped
  | pollReturn result =>
      simp only [stepLoop] at stepped
      split at stepped
      · rename_i inRead inWrite pc
        cases stepped
        exact .moved pc (.pollReturn (by simp))
      · rename_i inRead inWrite exception readable writable pc
        split at stepped
        · rename_i possible
          cases stepped
          refine .moved pc (.pollReturn ?_)
          rintro _ _ ⟨⟩
          exact possible.1 rfl
        · cases stepped
      · cases stepped
  | clear =>
      simp only [stepLoop] at stepped
      split at stepped
      · rename_i result pc
        cases stepped
        exact .cleared pc .clear
      · cases stepped
  | disconnectTest =>
      simp only [stepLoop] at stepped
      split at stepped
      · rename_i pc
        cases stepped
        exact .moved pc .stop
      · rename_i exception readable writable pc
        split at stepped
        · cases stepped
          exact .moved pc .stop
        · rename_i connected
          split at stepped
          · cases stepped
            exact .moved pc .stop
          · cases stepped
            exact .moved pc (.disconnectTest (by simpa using connected))
      · cases stepped
  | readBranch result =>
      simp only [stepLoop] at stepped
      split at stepped
      · rename_i writable pc
        cases stepped
        exact .moved pc .skipRead
      · rename_i writable pc
        split at stepped
        · cases result with
          | data =>
              cases stepped
              exact .haveData pc
          | closed =>
              cases stepped
              exact .closed pc
          | again =>
              cases stepped
              exact .moved pc .skipRead
          | failed =>
              cases stepped
              exact .moved pc .readFail
        · cases stepped
      · cases stepped
  | readDone =>
      simp only [stepLoop] at stepped
      split at stepped
      · rename_i writable pc
        cases stepped
        exact .moved pc .readDone
      · cases stepped
  | writeBranch result again =>
      simp only [stepLoop] at stepped
      split at stepped
      · rename_i pc
        cases stepped
        exact .moved pc .skipWrite
      · rename_i pc
        split at stepped
        · split at stepped
          · rename_i list
            cases stepped
            exact .moved pc (.frontOfEmpty list)
          · rename_i buffer rest list
            exact sendFront_fires pc list stepped
        · cases stepped
      · cases stepped
  | wroteDone =>
      simp only [stepLoop] at stepped
      split at stepped
      · rename_i len pc
        cases stepped
        exact .wrote pc
      · cases stepped
  | allTest =>
      simp only [stepLoop] at stepped
      split at stepped
      · rename_i enabled
        split at stepped
        · rename_i empty
          cases stepped
          exact .moved enabled.1 (.allTestEmpty (by simpa using empty))
        · cases stepped
          exact .moved enabled.1 .allTestMore
      · cases stepped
  | allWroteDone =>
      simp only [stepLoop] at stepped
      split at stepped
      · rename_i checked pc
        cases stepped
        exact .allWrote pc
      · cases stepped
  | _ => cases stepped

/-- Every step of the executable system is one of the described steps. -/
theorem step_fires
    {action : Action}
    (stepped : state.step action = some next) :
    Fires state action next := by
  cases byCall : state.stepCall action with
  | some called =>
      simp only [step, byCall, Option.some.injEq] at stepped
      exact stepped ▸ stepCall_fires byCall
  | none =>
      cases byConnect : state.stepConnect action with
      | some connected =>
          simp only [step, byCall, byConnect, Option.some.injEq] at stepped
          exact stepped ▸ stepConnect_fires byConnect
      | none =>
          simp only [step, byCall, byConnect] at stepped
          exact stepLoop_fires stepped

end State

/-- What holds of a new client and survives every described step holds in every
reachable state. -/
theorem invariant_of_fires
    {property : State → Prop}
    (atStart : property State.new)
    (preserved : ∀ {state next : State} {action : Action},
      property state → Fires state action next → property next)
    {state : State}
    (reached : system.Reachable state) :
    property state := by
  refine reached.invariant ?_ ?_
  · rintro _ rfl
    exact atStart
  · intro state action next _ held _ stepped
    exact preserved held (State.step_fires stepped)

end TcpClient
end Skplat
