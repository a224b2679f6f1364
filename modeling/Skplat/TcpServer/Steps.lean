import Skplat.TcpServer.System

/-!
# What one step of a TCP server can do

Inversion of the executable step function.
-/

namespace Skplat
namespace TcpServer

variable {n : Nat}

/-- Steps of the listening thread that change nothing else. -/
inductive Moves (state : State n) : ListenPc → ListenPc → Prop
  | created : Moves state .onCreate .top
  | select : Moves state .top
      (.polling (decide (state.breaker.pipes = .closed)))
  | pollReturn {stale : Bool} {result : Polled} :
      state.canPoll stale result = true →
      Moves state (.polling stale) (.polled result)
  | readable {breakerException breakIn socketException readable : Bool} :
      Moves state
        (.polled (.ready breakerException breakIn socketException readable))
        .accepting
  | accept : Moves state .accepting .onAccept
  | accepted : Moves state .onAccept .top
  | errorDone : Moves state .onError .notRunning

/-- The step relation. -/
inductive Fires (state : State n) : Action n → State n → Prop
  | launched {action : Action n} {call : Fin n} :
      state.calls call = .idle → state.mutex = none →
      state.listener = .notRunning →
      Fires state action
        ({ state.disturb with
          breaker := state.breaker.clear (readResult state.breaker.pipes)
          listener := .created
          threads := state.threads + 1
          brokenSince := false
          granted := true }.setCall call .waiting)
  | notLaunched {call : Fin n} :
      state.listener = .notRunning →
      Fires state (.start call false)
        ({ state.disturb with
          breaker := state.breaker.clear
            (readResult state.breaker.pipes) }.setCall call .waiting)
  | found {action : Action n} {call : Fin n} :
      state.calls call = .idle → state.listener ≠ .notRunning →
      Fires state action
        ({ state.disturb with mutex := some call }.setCall call .startFound)
  | startReturned {call : Fin n} :
      state.calls call = .startFound →
      Fires state (.startReturn call)
        ({ state with
          mutex := none
          granted := state.granted || state.listenSock }.setCall call .idle)
  | woken {action : Action n} {call : Fin n} :
      state.calls call = .waiting →
      Fires state action (state.setCall call .notified)
  | resumed {action : Action n} {call : Fin n} :
      state.calls call = .notified →
      Fires state action (state.setCall call .idle)
  | stopBroke {action : Action n} {call : Fin n} {written : Int} :
      state.calls call = .idle →
      Fires state action
        ({ state with
          breaker := state.breaker.breakPipe written
          brokenSince := true
          granted := false }.setCall call (.stopTesting true))
  | stopFailed {action : Action n} {call : Fin n} {written : Int} :
      state.calls call = .idle →
      Fires state action
        ({ state with
          breaker := state.breaker.breakPipe written
          brokenSince := true
          granted := false
          mutex := some call }.setCall call .stopClosing)
  | pipeClosed {action : Action n} {call : Fin n} :
      state.calls call = .stopClosing →
      Fires state action
        ({ state with
          breaker := state.breaker.close
          listener := state.listener.swapPipe }.setCall call .stopReCreating)
  | reCreated {action : Action n} {call : Fin n} {result : CreateResult} :
      state.calls call = .stopReCreating →
      Fires state action
        ({ state with
          breaker := state.breaker.reCreate result
          mutex := none
          listener := state.listener.swapPipe }.setCall call
            (.stopTesting true))
  | stopFound {action : Action n} {call : Fin n} {undisturbed : Bool} :
      state.calls call = .stopTesting undisturbed →
      Fires state action (state.setCall call (.stopJoining undisturbed))
  | stopReturned {action : Action n} {call : Fin n} {undisturbed : Bool} :
      (state.calls call = .stopTesting undisturbed ∨
        state.calls call = .stopJoining undisturbed) →
      state.listener = .notRunning →
      Fires state action (state.stopReturn call undisturbed)
  | joinRefused {call : Fin n} {self undisturbed : Bool} :
      state.calls call = .stopJoining undisturbed →
      state.listener ≠ .notRunning →
      (self = true ∨
        ∃ other, (state.calls other).joins state.threads = true) →
      Fires state (.stopJoin call self) (state.stopReturn call undisturbed)
  | joining {action : Action n} {call : Fin n} {undisturbed : Bool} :
      state.calls call = .stopJoining undisturbed →
      Fires state action
        (state.setCall call (.joining state.threads undisturbed))
  | joined {action : Action n} {call : Fin n} {thread : Nat}
      {undisturbed : Bool} :
      state.calls call = .joining thread undisturbed →
      (thread ≠ state.threads ∨ state.listener = .notRunning) →
      Fires state action (state.stopReturn call undisturbed)
  | listening {action : Action n} :
      state.listener = .created →
      Fires state action
        { state.notifyAll with listenSock := true, listener := .onCreate }
  | setUpFailed {action : Action n} :
      state.listener = .created →
      Fires state action
        { state.notifyAll with listener := .left, granted := false }
  | moved {action : Action n} {source pc : ListenPc} :
      state.listener = source → Moves state source pc →
      Fires state action { state with listener := pc }
  | brokeOff {action : Action n} {breakerException socketException readable : Bool} :
      state.listener =
        .polled (.ready breakerException true socketException readable) →
      Fires state action { state with listener := .left }
  | leaves {action : Action n} :
      (state.listener = .accepting ∨
        ∃ result, state.listener = .polled result) →
      Fires state action state.leave
  | closed {action : Action n} :
      state.listener = .left →
      Fires state action
        { state with
          listenSock := false
          listener := .onError
          undone := state.undone || (state.listenSock && state.granted) }

namespace State

variable {state next : State n}

private theorem stepStart_fires
    {action : Action n}
    (stepped : state.stepStart action = some next) :
    Fires state action next := by
  cases action with
  | start call created =>
      simp only [stepStart, Option.ite_none_right_eq_some] at stepped
      obtain ⟨⟨idle, free⟩, stepped⟩ := stepped
      split at stepped
      · rename_i ended
        cases created with
        | true =>
            cases stepped
            exact .launched idle free ended
        | false =>
            cases stepped
            exact .notLaunched ended
      · rename_i running
        cases stepped
        exact .found idle running
  | startReturn call =>
      simp only [stepStart, Option.ite_none_right_eq_some,
        Option.some.injEq] at stepped
      obtain ⟨pc, rfl⟩ := stepped
      exact .startReturned pc
  | spuriousWake call =>
      simp only [stepStart, Option.ite_none_right_eq_some,
        Option.some.injEq] at stepped
      obtain ⟨pc, rfl⟩ := stepped
      exact .woken pc
  | wake call =>
      simp only [stepStart, Option.ite_none_right_eq_some,
        Option.some.injEq] at stepped
      obtain ⟨⟨pc, -⟩, rfl⟩ := stepped
      exact .resumed pc
  | _ => cases stepped

private theorem stepStop_fires
    {action : Action n}
    (stepped : state.stepStop action = some next) :
    Fires state action next := by
  cases action with
  | stop call written =>
      simp only [stepStop, Option.ite_none_right_eq_some] at stepped
      obtain ⟨⟨idle, -⟩, stepped⟩ := stepped
      split at stepped
      · cases stepped
        exact .stopBroke idle
      · cases stepped
        exact .stopFailed idle
  | stopClose call =>
      simp only [stepStop, Option.ite_none_right_eq_some,
        Option.some.injEq] at stepped
      obtain ⟨pc, rfl⟩ := stepped
      exact .pipeClosed pc
  | stopReCreate call result =>
      simp only [stepStop, Option.ite_none_right_eq_some,
        Option.some.injEq] at stepped
      obtain ⟨pc, rfl⟩ := stepped
      exact .reCreated pc
  | stopTest call =>
      simp only [stepStop] at stepped
      split at stepped
      · rename_i undisturbed pc
        split at stepped
        · rename_i ended
          cases stepped
          exact .stopReturned (Or.inl pc) ended
        · cases stepped
          exact .stopFound pc
      · cases stepped
  | stopJoin call self =>
      simp only [stepStop] at stepped
      split at stepped
      · rename_i undisturbed pc
        split at stepped
        · cases stepped
        split at stepped
        · rename_i refused
          cases stepped
          by_cases ended : state.listener = .notRunning
          · exact .stopReturned (Or.inr pc) ended
          · refine .joinRefused pc ended ?_
            rcases refused with own | gone | joins
            · exact Or.inl own
            · exact absurd gone ended
            · exact Or.inr joins
        · cases stepped
          exact .joining pc
      · cases stepped
  | joined call =>
      simp only [stepStop] at stepped
      split at stepped
      · rename_i thread undisturbed pc
        simp only [Option.ite_none_right_eq_some, Option.some.injEq] at stepped
        obtain ⟨ended, rfl⟩ := stepped
        exact .joined pc ended
      · cases stepped
  | _ => cases stepped

private theorem test_fires
    {action : Action n}
    {breakerException breakIn socketException readable : Bool}
    (polled : state.listener =
      .polled (.ready breakerException breakIn socketException readable))
    (stepped : state.stepListen .test = some next) :
    Fires state action next := by
  have leaves : Fires state action state.leave :=
    .leaves (Or.inr ⟨_, polled⟩)
  simp only [stepListen, polled] at stepped
  split at stepped
  · cases stepped
    exact leaves
  split at stepped
  · rename_i isBreak
    cases stepped
    rw [isBreak] at polled
    exact .brokeOff polled
  split at stepped
  · cases stepped
    exact leaves
  split at stepped
  · cases stepped
    exact .moved polled .readable
  · cases stepped
    exact leaves

private theorem stepListen_fires
    {action : Action n}
    (stepped : state.stepListen action = some next) :
    Fires state action next := by
  cases action with
  | setUp result =>
      simp only [stepListen, Option.ite_none_right_eq_some] at stepped
      obtain ⟨⟨pc, -⟩, stepped⟩ := stepped
      cases result with
      | listening =>
          cases stepped
          exact .listening pc
      | _ =>
          cases stepped
          exact .setUpFailed pc
  | created =>
      simp only [stepListen, Option.ite_none_right_eq_some,
        Option.some.injEq] at stepped
      obtain ⟨pc, rfl⟩ := stepped
      exact .moved pc .created
  | select =>
      simp only [stepListen, Option.ite_none_right_eq_some,
        Option.some.injEq] at stepped
      obtain ⟨pc, rfl⟩ := stepped
      exact .moved pc .select
  | pollReturn result =>
      simp only [stepListen] at stepped
      split at stepped
      · rename_i stale pc
        simp only [Option.ite_none_right_eq_some, Option.some.injEq] at stepped
        obtain ⟨possible, rfl⟩ := stepped
        exact .moved pc (.pollReturn possible)
      · cases stepped
  | test =>
      cases pc : state.listener with
      | polled result =>
          cases result with
          | failed =>
              simp only [stepListen, pc, Option.some.injEq] at stepped
              rw [← stepped]
              exact .leaves (Or.inr ⟨_, pc⟩)
          | ready => exact test_fires pc stepped
      | _ => simp [stepListen, pc] at stepped
  | accept accepted =>
      simp only [stepListen, Option.ite_none_right_eq_some] at stepped
      obtain ⟨pc, stepped⟩ := stepped
      split at stepped
      · cases stepped
        exact .moved pc .accept
      · cases stepped
        exact .leaves (Or.inl pc)
  | accepted =>
      simp only [stepListen, Option.ite_none_right_eq_some,
        Option.some.injEq] at stepped
      obtain ⟨pc, rfl⟩ := stepped
      exact .moved pc .accepted
  | close =>
      simp only [stepListen, Option.ite_none_right_eq_some,
        Option.some.injEq] at stepped
      obtain ⟨pc, rfl⟩ := stepped
      exact .closed pc
  | errorDone =>
      simp only [stepListen, Option.ite_none_right_eq_some,
        Option.some.injEq] at stepped
      obtain ⟨pc, rfl⟩ := stepped
      exact .moved pc .errorDone
  | _ => cases stepped

theorem step_fires
    {action : Action n}
    (stepped : state.step action = some next) :
    Fires state action next := by
  unfold step at stepped
  rcases Option.or_eq_some_iff.mp stepped with byStart | ⟨-, others⟩
  · exact stepStart_fires byStart
  rcases Option.or_eq_some_iff.mp others with byStop | ⟨-, byListen⟩
  · exact stepStop_fires byStop
  · exact stepListen_fires byListen

end State
end TcpServer
end Skplat
