import Skplat.MsgQueue.Trims

/-!
# Waking the loop to quit

The inner wait of `enter_timer_loop` does not test `exit`.  `quit` relies on its
own message to get the loop out of it, so the message must be accepted, must not
fall between a scan and its wait, and must not be taken away before the loop has
seen it.  Under these conditions the loop never sleeps on after a quit.
-/

namespace Skplat
namespace MsgQueue

/-- The timer loop has passed the `exit` test and can reach `msg_cond.wait`, or
is in it. -/
def LoopPc.AtWait : LoopPc → Prop
  | .enter .enterTimerLoop _ => True
  | .asleep .enterTimerLoop _ _ => True
  | _ => False

/-- The timer loop is going to wait with the wait time of an earlier scan. -/
def LoopPc.Stale : LoopPc → Prop
  | .enter .enterTimerLoop waitTime => 0 < waitTime
  | _ => False

/-- Without another push, the timer loop sleeps or is going to sleep before it
tests `exit` again. -/
def LoopPc.CanSleep (queue : Queue) : LoopPc → Prop
  | .enter .enterTimerLoop waitTime => 0 < waitTime ∨ queue.lstMsg = []
  | .asleep .enterTimerLoop _ notified =>
      notified = false ∨ queue.lstMsg = []
  | _ => False

instance : DecidablePred LoopPc.AtWait
  | .enter .enterTimerLoop _ | .asleep .enterTimerLoop _ _ => .isTrue trivial
  | .enter .doTask _ | .enter .enterLoop _ | .asleep .doTask _ _
  | .asleep .enterLoop _ _ | .idle | .test _ _ | .handling _ _ _ | .finishing
  | .notifying | .undefined => .isFalse id

instance : DecidablePred LoopPc.Stale
  | .enter .enterTimerLoop waitTime => inferInstanceAs (Decidable (0 < waitTime))
  | .enter .doTask _ | .enter .enterLoop _ | .asleep _ _ _ | .idle | .test _ _
  | .handling _ _ _ | .finishing | .notifying | .undefined => .isFalse id

instance (queue : Queue) : DecidablePred (LoopPc.CanSleep queue)
  | .enter .enterTimerLoop waitTime =>
      inferInstanceAs (Decidable (0 < waitTime ∨ queue.lstMsg = []))
  | .asleep .enterTimerLoop _ notified =>
      inferInstanceAs (Decidable (notified = false ∨ queue.lstMsg = []))
  | .enter .doTask _ | .enter .enterLoop _ | .asleep .doTask _ _
  | .asleep .enterLoop _ _ | .idle | .test _ _ | .handling _ _ _ | .finishing
  | .notifying | .undefined => .isFalse id

/-- The message of `quit` is accepted unless the loop is awake anyway, is not
pushed over a stale wait time, and stays until the loop is out of its wait. -/
def QuitUndisturbed (state : State 1) : Action 1 → Prop
  | .quitCheck _ => state.queue.hasHandler defaultHandlerId = true ∨
      ¬ (state.loops 0).CanSleep state.queue
  | .quitPush _ _ => ¬ (state.loops 0).Stale
  | .edit edit => Event.quitSent ∈ state.trace → (state.loops 0).AtWait →
      (edit.apply state.queue).lstMsg ≠ []
  | _ => True

instance (state : State 1) : DecidablePred (QuitUndisturbed state)
  | .quitCheck _ => inferInstanceAs (Decidable
      (state.queue.hasHandler defaultHandlerId = true ∨
        ¬ (state.loops 0).CanSleep state.queue))
  | .quitPush _ _ => inferInstanceAs (Decidable (¬ (state.loops 0).Stale))
  | .edit edit => inferInstanceAs (Decidable
      (Event.quitSent ∈ state.trace → (state.loops 0).AtWait →
        (edit.apply state.queue).lstMsg ≠ []))
  | .sendCheck _ _ | .sendPush _ _ | .addHandler _ _ | .waitBegin _ _
  | .waitCheck _ | .quitBegin _ | .quitWait _ | .loopBegin _ _ | .loopTest _
  | .loopEnter _ _ | .loopWake _ _ | .loopReturn _ | .loopFinish _
  | .loopNotify _ => .isTrue trivial

/-- After `quit` has executed its `send_msg`, the timer loop is not asleep
un-notified with a positive timeout. -/
def QuitWakes (state : State 1) : Prop :=
  Event.quitSent ∈ state.trace → ∀ waitTime,
    state.loops 0 = .asleep .enterTimerLoop waitTime false → ¬ 0 < waitTime

/-- A call inside `quit` has set `exit`. -/
def QuitRequested {n : Nat} (state : State n) : Prop :=
  ∀ client, (state.clients client = .quitting ∨
      state.clients client = .quitSending) →
    state.queue.exit = true

theorem ClientPc.notifyDone_quitting (pc : ClientPc) :
    (pc.notifyDone = .quitting ∨ pc.notifyDone = .quitSending) ↔
      (pc = .quitting ∨ pc = .quitSending) := by
  cases pc <;> simp [ClientPc.notifyDone]

/-- No step withdraws an exit request. -/
theorem Fires.exit
    {n : Nat} {state next : State n} {action : Action n}
    (fires : Fires state action next)
    (requested : state.queue.exit = true) :
    next.queue.exit = true := by
  cases fires with
  | push source call pushed =>
      simpa [State.log, pushed.queue, State.setClient, Queue.push]
        using requested
  | edit => simpa using requested
  | addHandler =>
      simp only [Queue.addHandler]
      split <;> exact requested
  | loopSection source ran => exact ran.frame.exit.trans requested
  | quitBegin idle => rfl
  | _ => exact requested

theorem QuitRequested.step
    {n : Nat} {state next : State n} {action : Action n}
    (requests : QuitRequested state)
    (fires : Fires state action next) :
    QuitRequested next := by
  have moved : ∀ (moved : Nat) (pc : ClientPc),
      (pc = .quitting ∨ pc = .quitSending → next.queue.exit = true) →
      next.clients = Function.update state.clients moved pc →
      QuitRequested next := by
    intro moved pc request clients client quitting
    rw [clients] at quitting
    rcases update_cases (rfl : Function.update state.clients moved pc client =
      _) with ⟨_, isPc⟩ | ⟨_, old⟩
    · exact request (isPc ▸ quitting)
    · exact fires.exit (requests client (old ▸ quitting))
  have fired := fires
  cases fires with
  | @client action client source pc events sourceEq move =>
      refine moved client pc ?_ rfl
      intro quitting
      cases move with
      | quitChecked registered => exact requests client (Or.inl sourceEq)
      | _ => simp at quitting
  | @push action client woken msg source pc events pushed source call pushedBy =>
      refine moved client pc (by cases call <;> simp) ?_
      simp [State.log, pushedBy.clients, State.setClient]
  | @quitBegin client idle => exact moved client .quitting (fun _ => rfl) rfl
  | loopSection source ran =>
      intro client quitting
      refine fired.exit (requests client ?_)
      simp only [State.commit] at quitting
      split at quitting
      · exact (ClientPc.notifyDone_quitting _).mp quitting
      · exact quitting
  | loopNotify notifying =>
      intro client quitting
      exact fired.exit (requests client
        ((ClientPc.notifyDone_quitting _).mp quitting))
  | _ => exact fun client quitting => fired.exit (requests client quitting)

theorem quitRequested_of_reachable
    {n : Nat} {guard : State n → Action n → Prop} {state : State n}
    (reached : (system n).ReachableUnder guard state) :
    QuitRequested state := by
  refine reached.invariant ?_ ?_
  · rintro _ rfl client quitting
    simp [State.new] at quitting
  · intro state action next _ requests _ stepped
    exact requests.step (State.step_fires stepped)

/-- The invariant: after the send the loop cannot sleep before it tests
`exit`. -/
structure Woken (state : State 1) : Prop where
  /-- The exit request is set. -/
  exit : state.queue.exit = true
  /-- The loop is not going to sleep. -/
  awake : ¬ (state.loops 0).CanSleep state.queue

namespace Woken

variable {state next : State 1}

/-- A shorter list keeps the loop awake as long as it is not emptied. -/
theorem awake_of_nonempty
    {queue after : Queue} {pc : LoopPc}
    (awake : ¬ pc.CanSleep queue)
    (nonempty : pc.AtWait → after.lstMsg ≠ []) :
    ¬ pc.CanSleep after := by
  intro sleeps
  cases pc with
  | enter loop waitTime =>
      cases loop with
      | enterTimerLoop =>
          rcases sleeps with stale | empty
          · exact awake (Or.inl stale)
          · exact nonempty trivial empty
      | _ => exact sleeps
  | asleep loop waitTime notified =>
      cases loop with
      | enterTimerLoop =>
          rcases sleeps with unnotified | empty
          · exact awake (Or.inl unnotified)
          · exact nonempty trivial empty
      | _ => exact sleeps
  | _ => exact sleeps

/-- A push wakes the loop unless it is committed to a stale wait time. -/
theorem awake_of_push
    {queue : Queue} {pc : LoopPc} {msg : Msg}
    (fresh : ¬ pc.Stale) :
    ¬ pc.notifyMsg.CanSleep (queue.push msg) := by
  intro sleeps
  cases pc with
  | enter loop waitTime =>
      cases loop with
      | enterTimerLoop =>
          rcases sleeps with stale | empty
          · exact fresh stale
          · simp [Queue.push] at empty
      | _ => exact sleeps
  | asleep loop waitTime notified =>
      cases loop with
      | enterTimerLoop =>
          rcases sleeps with unnotified | empty
          · cases unnotified
          · simp [Queue.push] at empty
      | _ => exact sleeps
  | _ => exact sleeps

theorem canSleep_congr
    {queue after : Queue} {pc : LoopPc}
    (sameMsgs : after.lstMsg = queue.lstMsg) :
    pc.CanSleep after ↔ pc.CanSleep queue := by
  unfold LoopPc.CanSleep
  rw [sameMsgs]

theorem stale_canSleep
    {queue : Queue} {pc : LoopPc}
    (stale : pc.Stale) :
    pc.CanSleep queue := by
  cases pc with
  | enter loop waitTime =>
      cases loop with
      | enterTimerLoop => exact Or.inl stale
      | _ => exact stale
  | _ => exact stale.elim

theorem awake_of_entered
    {queue after : Queue} {loop : LoopKind} {waitTime : Int}
    {outcome : Outcome}
    (entered : Entered queue loop waitTime outcome)
    (busy : loop = .enterTimerLoop → ¬ (0 < waitTime ∨ queue.lstMsg = [])) :
    ¬ outcome.pc.CanSleep after := by
  cases entered with
  | sleep cause =>
      cases loop with
      | enterTimerLoop =>
          have := busy rfl
          rcases cause with empty | ⟨_, _, positive⟩
          · exact absurd (Or.inr empty) this
          · exact absurd (Or.inl positive) this
      | _ => exact fun sleeps => sleeps
  | rest timer nonempty delayed => exact fun sleeps => sleeps
  | pick selected dispatched =>
      cases dispatched <;> exact fun sleeps => sleeps
  | undefined task empty => exact fun sleeps => sleeps

theorem awake_of_section
    {action : Action 1} {outcome : Outcome}
    (woken : Woken state)
    (ran : LoopSection state.queue action 0 (state.loops 0) outcome) :
    ¬ outcome.pc.CanSleep outcome.queue := by
  have awake := woken.awake
  generalize state.loops 0 = source at ran awake
  cases ran with
  | enter entered =>
      refine awake_of_entered entered ?_
      rintro rfl
      exact awake
  | wake entered defined =>
      refine awake_of_entered entered ?_
      rintro rfl (stale | empty)
      · exact lt_irrefl _ stale
      · exact awake (Or.inr empty)
  | resume returned =>
      cases returned with
      | undefined cause => exact fun sleeps => sleeps
      | resume queued after dispatched =>
          cases dispatched <;> exact fun sleeps => sleeps

theorem step
    {action : Action 1}
    (woken : Event.quitSent ∈ state.trace → Woken state)
    (requests : QuitRequested state)
    (undisturbed : QuitUndisturbed state action)
    (fires : Fires state action next)
    (sent : Event.quitSent ∈ next.trace) :
    Woken next := by
  have fired := fires
  cases fires with
  | @client action client source pc events sourceEq move =>
      have ofEarlier : Event.quitSent ∈ state.trace →
          Woken ((state.setClient client pc).log events) :=
        fun earlier => ⟨(woken earlier).exit, (woken earlier).awake⟩
      cases move with
      | quitRefused refused =>
          refine ⟨requests client (Or.inl sourceEq), ?_⟩
          rcases undisturbed with registered | awake
          · simp [refused] at registered
          · exact awake
      | _ => exact ofEarlier (by simpa [State.log, State.setClient] using sent)
  | @push action client reached msg source pc events pushed sourceEq call
      pushedBy =>
      have fresh : ¬ (state.loops 0).Stale ∧ state.queue.exit = true := by
        cases call with
        | quit => exact ⟨undisturbed, requests client (Or.inr sourceEq)⟩
        | send =>
            have earlier := woken (by
              simpa [State.log, pushedBy.trace, State.setClient] using sent)
            exact ⟨fun stale => earlier.awake (stale_canSleep stale),
              earlier.exit⟩
      refine ⟨fired.exit fresh.2, ?_⟩
      have notified : pushed.loops 0 = (state.loops 0).notifyMsg :=
        pushedBy.loops_single
      simp only [State.log, notified, pushedBy.queue]
      exact awake_of_push fresh.1
  | quitBegin idle =>
      exact ⟨rfl, (canSleep_congr rfl).not.mpr (woken sent).awake⟩
  | @edit edit =>
      exact ⟨fired.exit (woken sent).exit,
        awake_of_nonempty (woken sent).awake (undisturbed sent)⟩
  | addHandler =>
      refine ⟨fired.exit (woken sent).exit, ?_⟩
      exact (canSleep_congr (Queue.addHandler_lstMsg _ _ _)).not.mpr
        (woken sent).awake
  | @loopMove action thread source pc sourceEq move =>
      obtain rfl : thread = 0 := Subsingleton.elim _ _
      have exit := (woken sent).exit
      refine ⟨exit, ?_⟩
      simp only [State.setLoop, Function.update_self]
      cases move with
      | begin => exact fun sleeps => sleeps
      | @pass thread loop waitTime passes =>
          cases loop <;> simp [State.testPasses, exit] at passes
      | leave fails => exact fun sleeps => sleeps
  | @loopSection action thread source outcome sourceEq ran =>
      obtain rfl : thread = 0 := Subsingleton.elim _ _
      have earlier : Event.quitSent ∈ state.trace := by
        rcases List.mem_append.mp sent with before | now
        · exact before
        · exact absurd (ran.events_ofLoop _ now) (by simp [Event.ofClient])
      refine ⟨fired.exit (woken earlier).exit, ?_⟩
      simp only [State.commit, Function.update_self]
      exact (woken earlier).awake_of_section (sourceEq ▸ ran)
  | @loopFinish thread finishing =>
      obtain rfl : thread = 0 := Subsingleton.elim _ _
      refine ⟨(woken sent).exit, ?_⟩
      simp [State.setLoop, LoopPc.CanSleep]
  | @loopNotify thread notifying =>
      obtain rfl : thread = 0 := Subsingleton.elim _ _
      refine ⟨(woken sent).exit, ?_⟩
      simp [State.setLoop, LoopPc.CanSleep]

end Woken

/-- In every run in which the message of `quit` is undisturbed, the timer loop
does not sleep on after the quit. -/
theorem quitWakes_of_quitUndisturbed
    (state : State 1)
    (reached : (system 1).ReachableUnder QuitUndisturbed state) :
    QuitWakes state := by
  have woken : Event.quitSent ∈ state.trace → Woken state := by
    have atStart : ∀ start : State 1, (system 1).initial start →
        Event.quitSent ∈ start.trace → Woken start := by
      rintro _ rfl sent
      simp [State.new] at sent
    refine reached.invariant atStart ?_
    intro state action next earlier woken undisturbed stepped
    exact Woken.step woken (quitRequested_of_reachable earlier) undisturbed
      (State.step_fires stepped)
  intro sent waitTime asleep _
  refine (woken sent).awake ?_
  rw [asleep]
  exact Or.inl rfl

/-- The idle loop sleeps, and `quit` notifies it. -/
def quitIdleLoop : List (Action 1) :=
  [.addHandler 0 false, .loopBegin 0 .enterTimerLoop, .loopTest 0,
    .loopEnter 0 fun _ => 0, .quitBegin 0, .quitCheck 0, .quitPush 0 (some 0)]

theorem quitWakes_of_quitUndisturbed_quitIdleLoop :
    ∃ state : State 1, (system 1).ReachableUnder QuitUndisturbed state ∧
      Event.quitSent ∈ state.trace ∧
      state.loops 0 = .asleep .enterTimerLoop 600000 true ∧
      QuitWakes state := by
  obtain ⟨state, reached, test⟩ :=
    Machine.ReachableUnder.exists_of_execUnder
      (.initial rfl : (system 1).ReachableUnder QuitUndisturbed (State.new 1))
      (by decide : ((system 1).execUnder QuitUndisturbed (State.new 1)
        quitIdleLoop).map (fun state => decide
          (Event.quitSent ∈ state.trace ∧
            state.loops 0 = .asleep .enterTimerLoop 600000 true)) = some true)
  obtain ⟨sent, asleep⟩ := of_decide_eq_true test
  exact ⟨state, reached, sent, asleep,
    quitWakes_of_quitUndisturbed state reached⟩

/-- The default handler is removed before `quit`, whose message is refused. -/
def quitWithoutDefault : List (Action 1) :=
  [.addHandler 0 false, .loopBegin 0 .enterTimerLoop, .loopTest 0,
    .loopEnter 0 fun _ => 0, .edit (.removeHandler 0), .quitBegin 0,
    .quitCheck 0]

/-- The message of `quit` is cancelled before the notified loop wakes. -/
def quitCancelled : List (Action 1) :=
  quitIdleLoop ++ [.edit (.cancelMsgOfHandler 0), .loopWake 0 fun _ => 0]

/-- The message of `quit` falls between a scan and its wait. -/
def quitInWindow : List (Action 1) :=
  [.addHandler 0 false, .sendCheck 1 (.ofIdAfter 10 0 100 0), .sendPush 1 none,
    .loopBegin 0 .enterTimerLoop, .loopTest 0, .loopEnter 0 fun _ => 0,
    .loopTest 0, .quitBegin 0, .quitCheck 0, .quitPush 0 none,
    .loopEnter 0 fun _ => 0]

/-- The loop sleeps un-notified with a positive timeout after the send. -/
def sleepsOn (state : State 1) : Bool :=
  state.trace.contains .quitSent &&
    match state.loops 0 with
    | .asleep .enterTimerLoop waitTime false => 0 < waitTime
    | _ => false

theorem not_quitWakes_of_exec
    {actions : List (Action 1)}
    (replay : ((system 1).exec (State.new 1) actions).map sleepsOn =
      some true) :
    ∃ state : State 1, (system 1).exec (State.new 1) actions = some state ∧
      (system 1).Reachable state ∧ ¬ QuitWakes state := by
  obtain ⟨state, executed, reached, sleeps⟩ :=
    Machine.exists_reachable_of_exec
      (rfl : (system 1).initial (State.new 1)) replay
  refine ⟨state, executed, reached, ?_⟩
  intro wakes
  simp only [sleepsOn, Bool.and_eq_true, List.contains_eq_mem,
    decide_eq_true_eq] at sleeps
  obtain ⟨sent, asleep⟩ := sleeps
  split at asleep
  · rename_i waitTime pc
    exact wakes sent waitTime pc (of_decide_eq_true asleep)
  · cases asleep

theorem quitWakes_sleepsOn :
    (∃ state : State 1, (system 1).exec (State.new 1) quitWithoutDefault =
      some state ∧ (system 1).Reachable state ∧ ¬ QuitWakes state) ∧
    (∃ state : State 1, (system 1).exec (State.new 1) quitCancelled =
      some state ∧ (system 1).Reachable state ∧ ¬ QuitWakes state) ∧
    ∃ state : State 1, (system 1).exec (State.new 1) quitInWindow =
      some state ∧ (system 1).Reachable state ∧ ¬ QuitWakes state := by
  refine ⟨?_, ?_, ?_⟩
  · exact not_quitWakes_of_exec (by decide)
  · exact not_quitWakes_of_exec (by decide)
  · exact not_quitWakes_of_exec (by decide)

end MsgQueue
end Skplat
