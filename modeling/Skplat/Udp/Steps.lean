import Skplat.Udp.System

/-!
# What one step of a UDP client or server can do

Inversion of the executable step function.
-/

namespace Skplat
namespace Udp

variable {n : Nat} {Dest : Type}

/-- Steps of the loop thread that change nothing else. -/
inductive Moves (state : State n Dest) : LoopPc Dest → LoopPc Dest → Prop
  | read : state.mutex = none → Moves state .top (.polling state.modeOf)
  | pollReturn {mode : Mode Dest} {outcome : PollOutcome} :
      State.canPoll state.pipe.bytes outcome = true →
      Moves state (.polling mode)
        (.clearing mode ⟨outcome, 0 < state.pipe.bytes⟩)
  | received : Moves state .receiving .top
  | resumed : state.event = true → Moves state .broke .top
  | stopped : state.event = false → Moves state .broke .leaving
  | errorDone : Moves state .onError .leaving
  | exit : Moves state .leaving .notRunning

/-- What the tests of `__DoSelect` decide. -/
inductive Decides (mode : Mode Dest) (polled : Polled) : LoopPc Dest → Prop
  | broke : polled.breakIn = true → Decides mode polled .broke
  | sending {buf len : Nat} {addr : Option Dest} :
      polled.breakIn = false → mode = .write buf len addr →
      Decides mode polled (.sending buf len addr)
  | receiving :
      polled.breakIn = false → mode = .read →
      Decides mode polled .receiving

/-- The step relation. -/
inductive Fires (state : State n Dest) : Action n Dest → State n Dest → Prop
  | unchanged {action : Action n Dest} :
      state.destructor = .notCalled → Fires state action state
  | checked {action : Action n Dest} {call : Fin n}
      {datagram : Datagram Dest} :
      state.calls call = .idle → state.destructor = .notCalled →
      (state.kind = .server → datagram.target.isSome = true) →
      Fires state action (state.setCall call (.checked datagram))
  | pushed {call : Fin n} {datagram : Datagram Dest} :
      state.calls call = .checked datagram → state.mutex = none →
      Fires state (.sendPush call)
        ({ state with
          listBuffer := state.listBuffer ++ [state.nodeOf datagram]
          mutex := some call
          queued := state.queued ++ [datagram] }.setCall call .pushed)
  | launched {action : Action n Dest} {call : Fin n} :
      state.calls call = .pushed → state.loop = .notRunning →
      Fires state action ({ state with loop := .top }.setCall call .started)
  | notLaunched {action : Action n Dest} {call : Fin n} :
      state.calls call = .pushed → state.loop = .notRunning →
      Fires state action
        ({ state with createFailed := true }.setCall call .started)
  | started {action : Action n Dest} {call : Fin n} :
      state.calls call = .pushed → state.loop ≠ .notRunning →
      Fires state action (state.setCall call .started)
  | sendBroke {call : Fin n} {written : Bool} :
      state.calls call = .started →
      Fires state (.sendBreak call written)
        (({ state with mutex := none }.breakPoll written).setCall call .idle)
  | userBroke {written : Bool} :
      state.destructor = .notCalled →
      Fires state (.userBreak written) (state.breakPoll written)
  | readdressed {action : Action n Dest} {addr : Dest} :
      state.destructor = .notCalled →
      Fires state action { state with addr := addr }
  | destroyed {action : Action n Dest} :
      state.destructor = .notCalled → (∀ call, state.calls call = .idle) →
      state.loop = .notRunning →
      Fires state action { state with destructor := .joined }
  | destroying {action : Action n Dest} :
      state.destructor = .notCalled → (∀ call, state.calls call = .idle) →
      Fires state action { state with destructor := .isRunning }
  | eventCleared {action : Action n Dest} :
      state.destructor = .isRunning →
      Fires state action { state with event := false, destructor := .cleared }
  | destructorBroke {written : Bool} :
      state.destructor = .cleared →
      Fires state (.destroyBreak written)
        { state.breakPoll written with
          destructor := .joining (state.breakPoll written).pipe.broken }
  | joined {action : Action n Dest} {broke : Bool} :
      state.destructor = .joining broke → state.loop = .notRunning →
      Fires state action { state with destructor := .joined }
  | moved {action : Action n Dest} {source pc : LoopPc Dest} :
      state.loop = source → Moves state source pc →
      Fires state action { state with loop := pc }
  | cleared {action : Action n Dest} {mode : Mode Dest} {polled : Polled} :
      state.loop = .clearing mode polled →
      Fires state action
        { state with pipe := state.pipe.clear, loop := .testing mode polled }
  | testedError {action : Action n Dest} {mode : Mode Dest}
      {polled : Polled} :
      state.loop = .testing mode polled →
      Fires state action
        { state with
          pending := (state.reportBreak polled.breakIn).pending
          missed := (state.reportBreak polled.breakIn).missed }.fail
  | tested {action : Action n Dest} {mode : Mode Dest} {polled : Polled}
      {pc : LoopPc Dest} :
      state.loop = .testing mode polled → Decides mode polled pc →
      Fires state action
        { state with
          pending := (state.reportBreak polled.breakIn).pending
          missed := (state.reportBreak polled.breakIn).missed
          loop := pc }
  | sent {action : Action n Dest} {buf len : Nat} {addr : Option Dest} :
      state.loop = .sending buf len addr →
      Fires state action (state.sendDatagram buf len addr)
  | failed {action : Action n Dest} :
      (state.loop = .receiving ∨
        ∃ buf len addr, state.loop = .sending buf len addr) →
      Fires state action state.fail
  | poppedNone {action : Action n Dest} :
      state.loop = .sent → state.listBuffer = [] →
      Fires state action { state with dangling := true, loop := .top }
  | popped {action : Action n Dest} {front : Node Dest}
      {rest : List (Node Dest)} :
      state.loop = .sent → state.listBuffer = front :: rest →
      Fires state action
        { state with
          listBuffer := rest, popped := state.popped + 1, loop := .top }

namespace State

variable {state next : State n Dest}

/-- Evaluating `IsBreak` changes only the account of unreported breaks. -/
theorem reportBreak_frame (state : State n Dest) (isBreak : Bool) :
    state.reportBreak isBreak =
      { state with
        pending := (state.reportBreak isBreak).pending
        missed := (state.reportBreak isBreak).missed } := by
  unfold reportBreak
  split
  · rfl
  · split <;> rfl

theorem doSelect_cases (state : State n Dest) (mode : Mode Dest) (polled : Polled) :
    state.doSelect mode polled = state.fail ∨
      ∃ pc, Decides mode polled pc ∧
        state.doSelect mode polled = { state with loop := pc } := by
  obtain ⟨outcome, breakIn⟩ := polled
  cases outcome with
  | failed => exact Or.inl rfl
  | ready breakerError socketError event =>
      unfold doSelect
      dsimp only
      split
      · exact Or.inl rfl
      split
      · rename_i isBreak
        exact Or.inr ⟨_, .broke isBreak, rfl⟩
      rename_i noBreak
      have quiet : breakIn = false := by simpa using noBreak
      split
      · exact Or.inl rfl
      split
      · cases mode with
        | read => exact Or.inr ⟨_, .receiving quiet rfl, rfl⟩
        | write buf len addr => exact Or.inr ⟨_, .sending quiet rfl, rfl⟩
      · exact Or.inl rfl

variable [DecidableEq Dest]

private theorem stepCall_fires
    {action : Action n Dest}
    (stepped : state.stepCall action = some next) :
    Fires state action next := by
  cases action with
  | sendCheck call target bytes =>
      simp only [stepCall, Option.ite_none_right_eq_some] at stepped
      obtain ⟨⟨idle, alive⟩, stepped⟩ := stepped
      split at stepped
      · cases stepped
        exact .unchanged alive
      · cases stepped
        refine .checked idle alive ?_
        intro isServer
        simp [isServer]
  | sendPush call =>
      simp only [stepCall] at stepped
      split at stepped
      · rename_i datagram pc
        simp only [Option.ite_none_right_eq_some, Option.some.injEq] at stepped
        obtain ⟨free, rfl⟩ := stepped
        exact .pushed pc free
      · cases stepped
  | sendStart call created =>
      simp only [stepCall, Option.ite_none_right_eq_some] at stepped
      obtain ⟨pc, stepped⟩ := stepped
      split at stepped
      · rename_i ended
        split at stepped
        · cases stepped
          exact .launched pc ended
        · cases stepped
          exact .notLaunched pc ended
      · rename_i running
        cases stepped
        exact .started pc running
  | sendBreak call written =>
      simp only [stepCall, Option.ite_none_right_eq_some,
        Option.some.injEq] at stepped
      obtain ⟨pc, rfl⟩ := stepped
      exact .sendBroke pc
  | userBreak written =>
      simp only [stepCall, Option.ite_none_right_eq_some,
        Option.some.injEq] at stepped
      obtain ⟨alive, rfl⟩ := stepped
      exact .userBroke alive
  | setIpPort addr =>
      simp only [stepCall, Option.ite_none_right_eq_some,
        Option.some.injEq] at stepped
      obtain ⟨alive, rfl⟩ := stepped
      exact .readdressed alive
  | _ => cases stepped

private theorem stepDestructor_fires
    {action : Action n Dest}
    (stepped : state.stepDestructor action = some next) :
    Fires state action next := by
  cases action with
  | destroy =>
      simp only [stepDestructor, Option.ite_none_right_eq_some] at stepped
      obtain ⟨⟨alive, idle⟩, stepped⟩ := stepped
      split at stepped
      · rename_i ended
        cases stepped
        exact .destroyed alive idle ended
      · cases stepped
        exact .destroying alive idle
  | destroyClear =>
      simp only [stepDestructor, Option.ite_none_right_eq_some,
        Option.some.injEq] at stepped
      obtain ⟨running, rfl⟩ := stepped
      exact .eventCleared running
  | destroyBreak written =>
      simp only [stepDestructor, Option.ite_none_right_eq_some,
        Option.some.injEq] at stepped
      obtain ⟨cleared, rfl⟩ := stepped
      exact .destructorBroke cleared
  | destroyJoin =>
      simp only [stepDestructor] at stepped
      split at stepped
      · rename_i broke joining
        simp only [Option.ite_none_right_eq_some, Option.some.injEq] at stepped
        obtain ⟨ended, rfl⟩ := stepped
        exact .joined joining ended
      · cases stepped
  | _ => cases stepped

private theorem stepLoop_fires
    {action : Action n Dest}
    (stepped : state.stepLoop action = some next) :
    Fires state action next := by
  cases action with
  | loopRead =>
      simp only [stepLoop, Option.ite_none_right_eq_some,
        Option.some.injEq] at stepped
      obtain ⟨⟨atTop, free⟩, rfl⟩ := stepped
      exact .moved atTop (.read free)
  | pollReturn outcome =>
      simp only [stepLoop] at stepped
      split at stepped
      · rename_i mode pc
        simp only [Option.ite_none_right_eq_some, Option.some.injEq] at stepped
        obtain ⟨possible, rfl⟩ := stepped
        exact .moved pc (.pollReturn possible)
      · cases stepped
  | clear =>
      simp only [stepLoop] at stepped
      split at stepped
      · rename_i mode polled pc
        cases stepped
        exact .cleared pc
      · cases stepped
  | test =>
      simp only [stepLoop] at stepped
      split at stepped
      · rename_i mode polled pc
        cases stepped
        obtain error | ⟨target, decides, result⟩ :=
          (state.reportBreak polled.breakIn).doSelect_cases mode polled
        · rw [error, reportBreak_frame]
          exact .testedError pc
        · rw [result, reportBreak_frame]
          exact .tested pc decides
      · cases stepped
  | sendto accepted =>
      simp only [stepLoop] at stepped
      split at stepped
      · rename_i buf len addr pc
        split at stepped
        · cases stepped
          exact .sent pc
        · cases stepped
          exact .failed (Or.inr ⟨buf, len, addr, pc⟩)
      · cases stepped
  | popFront =>
      simp only [stepLoop, Option.ite_none_right_eq_some] at stepped
      obtain ⟨⟨pc, -⟩, stepped⟩ := stepped
      split at stepped
      · rename_i empty
        cases stepped
        exact .poppedNone pc empty
      · rename_i front rest nonempty
        cases stepped
        exact .popped pc nonempty
  | recvfrom received =>
      simp only [stepLoop, Option.ite_none_right_eq_some] at stepped
      obtain ⟨pc, stepped⟩ := stepped
      split at stepped
      · cases stepped
        exact .moved pc .received
      · cases stepped
        exact .failed (Or.inl pc)
  | eventTest =>
      simp only [stepLoop, Option.ite_none_right_eq_some] at stepped
      obtain ⟨pc, stepped⟩ := stepped
      split at stepped
      · rename_i observed
        cases stepped
        exact .moved pc (.resumed observed)
      · rename_i unobserved
        cases stepped
        exact .moved pc (.stopped (by simpa using unobserved))
  | errorDone =>
      simp only [stepLoop, Option.ite_none_right_eq_some,
        Option.some.injEq] at stepped
      obtain ⟨pc, rfl⟩ := stepped
      exact .moved pc .errorDone
  | exit =>
      simp only [stepLoop, Option.ite_none_right_eq_some,
        Option.some.injEq] at stepped
      obtain ⟨pc, rfl⟩ := stepped
      exact .moved pc .exit
  | _ => cases stepped

theorem step_fires
    {action : Action n Dest}
    (stepped : state.step action = some next) :
    Fires state action next := by
  unfold step at stepped
  rcases Option.or_eq_some_iff.mp stepped with byCall | ⟨-, others⟩
  · exact stepCall_fires byCall
  rcases Option.or_eq_some_iff.mp others with byDestructor | ⟨-, byLoop⟩
  · exact stepDestructor_fires byDestructor
  · exact stepLoop_fires byLoop

end State

/-- The invariant rule in terms of the step relation. -/
theorem invariant_of_fires
    [DecidableEq Dest]
    {guard : State n Dest → Action n Dest → Prop}
    {property : State n Dest → Prop}
    (atStart : ∀ kind fdSocket addr created,
      property (State.new kind fdSocket addr created))
    (preserved : ∀ {state next action},
      (system n Dest).ReachableUnder guard state →
      property state → guard state action → Fires state action next →
      property next)
    {state : State n Dest}
    (reached : (system n Dest).ReachableUnder guard state) :
    property state := by
  apply reached.invariant
  · rintro start ⟨kind, fdSocket, addr, created, rfl⟩
    exact atStart kind fdSocket addr created
  · intro source action following prior holds permitted stepped
    exact preserved prior holds permitted (State.step_fires stepped)

end Udp
end Skplat
