import Skplat.MsgQueue.InHand

/-!
# Wake-ups of the timer loop

A scan that finds nothing due computes a wait time, releases the mutex and takes
it again before it waits.  A notification in that window reaches nobody, and the
loop then sleeps with the stale wait time.  When no push falls into the window,
the loop only ever sleeps over messages that its last scan has seen.
-/

namespace Skplat
namespace MsgQueue

/-- The loop is about to wait, or waits, with a positive timeout and nothing has
notified it. -/
def LoopPc.Waits : LoopPc → Prop
  | .test .enterTimerLoop waitTime => 0 < waitTime
  | .enter .enterTimerLoop waitTime => 0 < waitTime
  | .asleep .enterTimerLoop waitTime false => 0 < waitTime
  | _ => False

/-- The loop is between a scan that left a positive wait time and the wait. -/
def LoopPc.InWindow : LoopPc → Prop
  | .test .enterTimerLoop waitTime => 0 < waitTime
  | .enter .enterTimerLoop waitTime => 0 < waitTime
  | _ => False

instance : DecidablePred LoopPc.InWindow
  | .test .enterTimerLoop waitTime => inferInstanceAs (Decidable (0 < waitTime))
  | .enter .enterTimerLoop waitTime => inferInstanceAs (Decidable (0 < waitTime))
  | .test .doTask _ | .test .enterLoop _ | .enter .doTask _
  | .enter .enterLoop _ | .idle | .asleep _ _ _ | .handling _ _ _ | .finishing
  | .notifying | .undefined => .isFalse id

/-- No message is pushed between a scan and the wait it leads to. -/
def PushesOutsideWindow (state : State 1) : Action 1 → Prop
  | .sendPush _ _ | .quitPush _ _ => ¬ (state.loops 0).InWindow
  | _ => True

instance (state : State 1) : DecidablePred (PushesOutsideWindow state)
  | .sendPush _ _ | .quitPush _ _ =>
      inferInstanceAs (Decidable (¬ (state.loops 0).InWindow))
  | .sendCheck _ _ | .edit _ | .addHandler _ _ | .waitBegin _ _ | .waitCheck _
  | .quitBegin _ | .quitCheck _ | .quitWait _ | .loopBegin _ _ | .loopTest _
  | .loopEnter _ _ | .loopWake _ _ | .loopReturn _ | .loopFinish _
  | .loopNotify _ => .isTrue trivial

/-- Every queued message was seen by the loop's last complete scan, which found
none of them immediate. -/
structure Settled (state : State 1) : Prop where
  /-- Nothing was pushed since the last complete scan. -/
  scanned : ∀ seq ∈ state.queue.seqs, seq < state.scanMark 0
  /-- Nothing queued is immediate. -/
  delayed : ∀ msg ∈ state.queue.lstMsg, msg.timer.type = .kAfter

/-- A timer loop asleep un-notified with a positive timeout misses nothing. -/
def NoLostWakeUp (state : State 1) : Prop :=
  ∀ waitTime, state.loops 0 = .asleep .enterTimerLoop waitTime false →
    0 < waitTime → Settled state

namespace Settled

variable {state next : State 1}

theorem trims
    (settled : Settled state)
    (trims : Queue.Trims state.queue next.queue)
    (sameMark : next.scanMark = state.scanMark) :
    Settled next where
  scanned := by
    rw [sameMark]
    intro seq present
    exact settled.scanned seq (trims.seqs.subset present)
  delayed := by
    intro msg present
    obtain ⟨earlier, earlierPresent, _, sameMsg⟩ := trims.exists_mem present
    rw [← sameMsg]
    exact settled.delayed earlier earlierPresent

theorem of_empty (empty : state.queue.lstMsg = []) : Settled state where
  scanned := by simp [Queue.seqs, empty]
  delayed := by simp [empty]

end Settled

theorem LoopPc.inWindow_of_waits_notifyMsg
    {pc : LoopPc}
    (waits : pc.notifyMsg.Waits) :
    pc.InWindow := by
  cases pc with
  | test loop waitTime => cases loop <;> exact waits
  | enter loop waitTime => cases loop <;> exact waits
  | asleep loop waitTime notified => cases loop <;> exact waits.elim
  | _ => exact waits.elim

/-- A section that looks for the next message. -/
theorem Entered.settled
    {state : State 1} {queue : Queue} {loop : LoopKind} {waitTime : Int}
    {outcome : Outcome}
    (entered : Entered queue loop waitTime outcome)
    (ordered : Ordered state)
    (sameMsgs : queue.lstMsg = state.queue.lstMsg)
    (sameSeq : queue.msgSeq = state.queue.msgSeq)
    (settled : loop = .enterTimerLoop → 0 < waitTime → Settled state)
    (waits : outcome.pc.Waits) :
    Settled (state.commit 0 outcome) := by
  cases entered with
  | @sleep newWait cause =>
      rcases cause with empty | ⟨timer, _, positive⟩
      · exact .of_empty empty
      · exact (settled timer positive).trims (.of_eq sameMsgs sameSeq) rfl
  | rest timer nonempty delayed =>
      refine ⟨?_, delayed⟩
      intro seq present
      simp only [State.commit, if_true, Function.update_self] at present ⊢
      rw [sameSeq]
      refine ordered.below seq ?_
      simpa [Queue.seqs, sameMsgs] using present
  | pick selected dispatched =>
      cases dispatched with
      | handle running chosen => exact waits.elim
      | finish nobody => cases loop <;> simp [LoopPc.Waits] at waits
  | undefined task empty => exact waits.elim

/-- The invariant: whenever the loop is bound to wait, it misses nothing. -/
theorem Settled.step
    {state next : State 1} {action : Action 1}
    (settled : (state.loops 0).Waits → Settled state)
    (ordered : Ordered state)
    (outside : PushesOutsideWindow state action)
    (fires : Fires state action next)
    (waits : (next.loops 0).Waits) :
    Settled next := by
  cases fires with
  | client source move => exact (settled waits).trims (.refl _) rfl
  | @push action client woken msg source pc events pushed source call pushedBy =>
      have notified : pushed.loops 0 = (state.loops 0).notifyMsg :=
        pushedBy.loops_single
      have inWindow : (state.loops 0).InWindow := by
        refine LoopPc.inWindow_of_waits_notifyMsg ?_
        rw [← notified]
        exact waits
      cases call <;> exact absurd inWindow outside
  | quitBegin idle => exact (settled waits).trims (.of_eq rfl rfl) rfl
  | @edit edit => exact (settled waits).trims (edit.apply_trims _) rfl
  | addHandler =>
      exact (settled waits).trims (Queue.addHandler_trims _ _ _) rfl
  | @loopMove action thread source pc sourceEq move =>
      obtain rfl : thread = 0 := Subsingleton.elim _ _
      simp only [State.setLoop, Function.update_self] at waits
      have waited : (state.loops 0).Waits := by
        rw [sourceEq]
        cases move with
        | @begin thread loop => cases loop <;> simp [LoopPc.Waits] at waits
        | @pass thread loop waitTime passes => cases loop <;> exact waits
        | leave fails => exact waits.elim
      exact (settled waited).trims (.refl _) rfl
  | @loopSection action thread source outcome sourceEq ran =>
      obtain rfl : thread = 0 := Subsingleton.elim _ _
      simp only [State.commit, Function.update_self] at waits
      cases ran with
      | enter entered =>
          refine entered.settled ordered rfl rfl ?_ waits
          rintro rfl positive
          exact settled (by rw [sourceEq]; exact positive)
      | wake entered defined =>
          exact entered.settled ordered rfl rfl (by simp) waits
      | @resume thread loop msg node outcome returned =>
          cases returned with
          | undefined cause => exact waits.elim
          | resume queued after dispatched =>
              cases dispatched with
              | handle running chosen => exact waits.elim
              | finish nobody => cases loop <;> simp [LoopPc.Waits] at waits
  | @loopFinish thread finishing =>
      obtain rfl : thread = 0 := Subsingleton.elim _ _
      simp [State.setLoop, LoopPc.Waits] at waits
  | @loopNotify thread notifying =>
      obtain rfl : thread = 0 := Subsingleton.elim _ _
      simp [State.setLoop, LoopPc.Waits] at waits

/-- In every run that pushes nothing between a scan and its wait, a timer loop
asleep un-notified with a positive timeout misses nothing. -/
theorem noLostWakeUp_of_pushesOutsideWindow
    (state : State 1)
    (reached : (system 1).ReachableUnder PushesOutsideWindow state) :
    NoLostWakeUp state := by
  have settled : (state.loops 0).Waits → Settled state := by
    have atStart : ∀ start : State 1, (system 1).initial start →
        (start.loops 0).Waits → Settled start := by
      rintro _ rfl waits
      exact waits.elim
    refine reached.invariant atStart ?_
    intro state action next earlier settled outside stepped
    exact .step settled (ordered_of_reachable earlier) outside
      (State.step_fires stepped)
  intro waitTime asleep positive
  exact settled (by rw [asleep]; exact positive)

/-- A delayed message is scanned, and the loop sleeps over it. -/
def sleepOverDelayed : List (Action 1) :=
  [.addHandler 7 false, .sendCheck 0 (.ofIdAfter 10 7 100 0), .sendPush 0 none,
    .loopBegin 0 .enterTimerLoop, .loopTest 0, .loopEnter 0 fun _ => 0,
    .loopTest 0, .loopEnter 0 fun _ => 0]

theorem noLostWakeUp_of_pushesOutsideWindow_sleepOverDelayed :
    ∃ state : State 1, (system 1).ReachableUnder PushesOutsideWindow state ∧
      state.loops 0 = .asleep .enterTimerLoop 100 false ∧
      state.queue.seqs = [0] ∧ Settled state := by
  obtain ⟨state, reached, test⟩ :=
    Machine.ReachableUnder.exists_of_execUnder
      (.initial rfl :
        (system 1).ReachableUnder PushesOutsideWindow (State.new 1))
      (by decide : ((system 1).execUnder PushesOutsideWindow (State.new 1)
        sleepOverDelayed).map (fun state => decide
          (state.loops 0 = .asleep .enterTimerLoop 100 false ∧
            state.queue.seqs = [0])) = some true)
  obtain ⟨asleep, queued⟩ := of_decide_eq_true test
  exact ⟨state, reached, asleep, queued,
    noLostWakeUp_of_pushesOutsideWindow state reached 100 asleep (by decide)⟩

/-- An immediate message is pushed between the scan and the wait. -/
def pushInWindow : List (Action 1) :=
  [.addHandler 7 false, .sendCheck 0 (.ofIdAfter 10 7 100 0), .sendPush 0 none,
    .loopBegin 0 .enterTimerLoop, .loopTest 0, .loopEnter 0 fun _ => 0,
    .sendCheck 1 (.ofId 11 7), .sendPush 1 none,
    .loopTest 0, .loopEnter 0 fun _ => 0]

/-- The loop begins to wait 100 milliseconds although message 1, which is
immediate, was pushed after its last complete scan. -/
theorem noLostWakeUp_pushInWindow :
    ∃ state : State 1, (system 1).exec (State.new 1) pushInWindow = some state ∧
      (system 1).Reachable state ∧
      state.loops 0 = .asleep .enterTimerLoop 100 false ∧
      (∃ msg ∈ state.queue.lstMsg, state.scanMark 0 ≤ msg.msgSeq ∧
        msg.timer.type = .kImmediately) ∧
      ¬ NoLostWakeUp state := by
  obtain ⟨state, executed, reached, test⟩ := Machine.exists_reachable_of_exec
    (rfl : (system 1).initial (State.new 1))
    (by decide : ((system 1).exec (State.new 1) pushInWindow).map
      (fun state => decide
        (state.loops 0 = .asleep .enterTimerLoop 100 false ∧
          ∃ msg ∈ state.queue.lstMsg, state.scanMark 0 ≤ msg.msgSeq ∧
            msg.timer.type = .kImmediately)) = some true)
  obtain ⟨asleep, msg, present, late, immediate⟩ := of_decide_eq_true test
  refine ⟨state, executed, reached, asleep, ⟨msg, present, late, immediate⟩, ?_⟩
  intro noLost
  have delayed := (noLost 100 asleep (by decide)).delayed msg present
  rw [immediate] at delayed
  cases delayed

end MsgQueue
end Skplat
