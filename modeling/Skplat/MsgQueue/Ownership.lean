import Skplat.MsgQueue.HandOver

/-!
# Who may take a message out

While a handler runs, its message belongs to the loop that picked it.  The
timer loop announces this by `is_handling`, which the cancel overloads respect;
`do_task` and `enter_loop` announce nothing, and `remove_handler` ignores the
flag.  When no call hits the message or the handler node in a loop's hands, the
loop removes exactly what it picked, every message is handed to its handler at
most once, and nothing is lost.
-/

namespace Skplat
namespace MsgQueue

/-- What an edit leaves alone, by the point at which the loop stands.  It matches
no message in hand, except that a cancel overload may match the message which
the timer loop has marked; it does not unregister the running handler; and it
does not empty the list between the test and the lock of `do_task`. -/
def Edit.Spares (edit : Edit) (queue : Queue) : LoopPc → Prop
  | .handling loop msg node =>
      (edit.Matches msg → loop = .enterTimerLoop ∧ edit.SparesHandling) ∧
        ∀ handler ∈ queue.lstHandler, handler.node = node →
          ¬ edit.Unregisters handler.handlerId
  | .enter .doTask _ => (edit.apply queue).lstMsg ≠ []
  | _ => True

instance (edit : Edit) (queue : Queue) : DecidablePred (edit.Spares queue)
  | .handling loop msg node => inferInstanceAs (Decidable
      ((edit.Matches msg → loop = .enterTimerLoop ∧ edit.SparesHandling) ∧
        ∀ handler ∈ queue.lstHandler, handler.node = node →
          ¬ edit.Unregisters handler.handlerId))
  | .enter .doTask _ =>
      inferInstanceAs (Decidable ((edit.apply queue).lstMsg ≠ []))
  | .enter .enterLoop _ | .enter .enterTimerLoop _ | .idle | .test _ _
  | .asleep _ _ _ | .finishing | .notifying | .undefined => .isTrue trivial

/-- No edit hits what the loop has in hand. -/
def SparesInHand (state : State 1) : Action 1 → Prop
  | .edit edit => edit.Spares state.queue (state.loops 0)
  | _ => True

instance (state : State 1) : DecidablePred (SparesInHand state)
  | .edit edit =>
      inferInstanceAs (Decidable (edit.Spares state.queue (state.loops 0)))
  | .sendCheck _ _ | .sendPush _ _ | .addHandler _ _ | .waitBegin _ _
  | .waitCheck _ | .quitBegin _ | .quitCheck _ | .quitPush _ _ | .quitWait _
  | .loopBegin _ _ | .loopTest _ | .loopEnter _ _ | .loopWake _ _
  | .loopReturn _ | .loopFinish _ | .loopNotify _ => .isTrue trivial

/-- The condition under which a single loop owns what it has picked. -/
def KeepsOwnership (state : State 1) (action : Action 1) : Prop :=
  PushesRegistered state action ∧ SparesInHand state action

instance (state : State 1) : DecidablePred (KeepsOwnership state) :=
  fun _ => inferInstanceAs (Decidable (_ ∧ _))

/-- What a single loop guarantees about the messages it picks. -/
structure Owned (state : State 1) : Prop where
  /-- The loop never touches a deleted node, message or handler. -/
  running : state.loops 0 ≠ .undefined
  /-- A picked message stays queued until the loop removes it. -/
  queued : ∀ loop msg node, state.loops 0 = .handling loop msg node →
    msg.msgSeq ∈ state.queue.seqs
  /-- The loop's own removal takes out exactly the picked message. -/
  removed : ∀ seq taken exit, Event.removed seq taken exit ∈ state.trace →
    taken = [seq]
  /-- No message is picked twice. -/
  pickedOnce : (pickedSeqs state.trace).Nodup
  /-- No message is handed to its handler twice. -/
  handedOnce : (handedSeqs state.trace).Nodup

/-- A message that a step takes out was removed by the loop after it had been
handed to its handler or after an exit was requested, or by an edit that matched
it while it was not in hand. -/
def LeavesProperly (state : State 1) (action : Action 1) (next : State 1) :
    Prop :=
  ∀ msg ∈ state.queue.lstMsg, msg.msgSeq ∉ next.queue.seqs →
    (∃ events exit, next.trace = state.trace ++ events ∧
      Event.removed msg.msgSeq [msg.msgSeq] exit ∈ events ∧
      (exit = true ∨ msg.msgSeq ∈ handedSeqs state.trace)) ∨
    ∃ edit, action = .edit edit ∧ edit.Matches msg ∧
      ¬ (state.loops 0).Holds msg.msgSeq

/-! ## The invariant -/

theorem handedSeqs_of_client
    {events : List Event}
    (byClient : ∀ event ∈ events, event.ofClient = true) :
    handedSeqs events = [] := by
  rw [handedSeqs, List.filterMap_eq_nil_iff]
  intro event present
  have quiet := byClient event present
  cases event <;> simp_all [Event.ofClient]

/-- Ownership together with what carries it from step to step. -/
structure Owns (state : State 1) : Prop where
  /-- The loop's behaviour is defined. -/
  running : state.loops 0 ≠ .undefined
  /-- `do_task` takes the front of a nonempty list. -/
  entering : ∀ waitTime, state.loops 0 = .enter .doTask waitTime →
    state.queue.lstMsg ≠ []
  /-- The dispatch in progress is intact. -/
  handOver : ∀ loop msg node, state.loops 0 = .handling loop msg node →
    HandOver state.queue state.trace loop msg node
  /-- Only picked messages are handed over. -/
  picked : ∀ seq ∈ handedSeqs state.trace, seq ∈ pickedSeqs state.trace
  /-- Nothing is handed over twice. -/
  handedOnce : (handedSeqs state.trace).Nodup

namespace Owns

variable {state next : State 1}

/-- Steps of the other threads and steps of the loop outside its sections. -/
theorem of_quiet
    (owns : Owns state)
    {events : List Event}
    (grown : next.trace = state.trace ++ events)
    (byClient : ∀ event ∈ events, event.ofClient = true)
    (running : next.loops 0 ≠ .undefined)
    (entering : ∀ waitTime, next.loops 0 = .enter .doTask waitTime →
      next.queue.lstMsg ≠ [])
    (handOver : ∀ loop msg node, next.loops 0 = .handling loop msg node →
      HandOver next.queue next.trace loop msg node) :
    Owns next := by
  have sameHanded : handedSeqs next.trace = handedSeqs state.trace := by
    rw [grown, handedSeqs_append, handedSeqs_of_client byClient,
      List.append_nil]
  refine ⟨running, entering, handOver, ?_, sameHanded ▸ owns.handedOnce⟩
  rw [sameHanded]
  intro seq handed
  rw [grown, pickedSeqs_append]
  exact List.mem_append_left _ (owns.picked seq handed)

/-- Sections of the loop. -/
theorem of_hands
    (owns : Owns state)
    {seq : Int} {outcome : Outcome}
    (hands : Hands state.trace seq outcome) :
    Owns (state.commit 0 outcome) := by
  refine ⟨?_, ?_, ?_, ?_, ?_⟩
  · simpa [State.commit] using hands.continues.1
  · intro waitTime entering
    simp only [State.commit, Function.update_self] at entering
    exact absurd entering (hands.continues.2 .doTask waitTime)
  · intro loop msg node handling
    simp only [State.commit, Function.update_self] at handling
    exact hands.handOver loop msg node handling
  · intro other handed
    simp only [State.commit, handedSeqs_append, List.mem_append] at handed
    rcases handed with earlier | now
    · simp only [State.commit, pickedSeqs_append]
      exact List.mem_append_left _ (owns.picked other earlier)
    · rcases hands.handed with nothing | ⟨only, _, picked⟩
      · simp [nothing] at now
      · rw [only, List.mem_singleton] at now
        exact now ▸ picked
  · simp only [State.commit, handedSeqs_append]
    rcases hands.handed with nothing | ⟨only, fresh, _⟩
    · rw [nothing, List.append_nil]
      exact owns.handedOnce
    · rw [only, List.nodup_append]
      refine ⟨owns.handedOnce, by simp, ?_⟩
      rintro other earlier last lastEq rfl
      exact fresh (List.mem_singleton.mp lastEq ▸ earlier)

end Owns

/-- A section that neither dispatches nor goes wrong. -/
theorem hands_of_quiet
    {trace : List Event} {outcome : Outcome}
    (noEvents : outcome.events = [])
    (continues : outcome.pc ≠ .undefined ∧
      ∀ loop waitTime, outcome.pc ≠ .enter loop waitTime)
    (notHandling : ∀ loop msg node, outcome.pc ≠ .handling loop msg node) :
    Hands trace 0 outcome where
  handOver := fun loop msg node handling =>
    absurd handling (notHandling loop msg node)
  continues := continues
  handed := Or.inl (by simp [noEvents, handedSeqs])
  removed := by simp [noEvents]

namespace Owns

variable {state next : State 1}

theorem entered_hands
    (owns : Owns state)
    (registered : state.queue.Registered)
    (distinct : state.queue.HandlersDistinct)
    (pickedOnce : PickedOnce state)
    {queue : Queue} {loop : LoopKind} {waitTime : Int} {outcome : Outcome}
    (free : ∀ seq, ¬ (state.loops 0).Holds seq)
    (entered : Entered queue loop waitTime outcome)
    (defined : outcome.pc ≠ .undefined)
    (sameMsgs : queue.lstMsg = state.queue.lstMsg)
    (sameHandlers : queue.lstHandler = state.queue.lstHandler)
    (sameNode : queue.nextNode = state.queue.nextNode) :
    ∃ seq, Hands state.trace seq outcome := by
  cases entered with
  | sleep cause => exact ⟨0, hands_of_quiet rfl (by simp) (by simp)⟩
  | rest timer nonempty delayed =>
      exact ⟨0, hands_of_quiet rfl (by simp) (by simp)⟩
  | undefined task empty => exact absurd rfl defined
  | @pick msg outcome selected dispatched =>
      have present : msg ∈ state.queue.lstMsg := sameMsgs ▸ selected.present
      have unhanded : msg.msgSeq ∉ handedSeqs state.trace := by
        intro handed
        exact free msg.msgSeq (pickedOnce.current msg.msgSeq
          (owns.picked msg.msgSeq handed)
          (Queue.mem_seqs.mpr ⟨msg, present, rfl⟩))
      have ahead : ∃ handler ∈ queue.lstHandler,
          handler.handlerId = msg.handlerId := by
        rw [sameHandlers]
        exact Queue.hasHandler_iff.mp (registered msg present)
      refine ⟨msg.msgSeq, dispatched.hands (List.nil_append _).symm
        (distinct.sublist (by rw [sameHandlers]) sameNode) ?_
        (List.mem_map.mpr ⟨msg, selected.present, rfl⟩)
        (iff_of_true ahead unhanded) ?_ ?_⟩
      · simp [pickedSeqs]
      · simp [handedSeqs]
      · simp

theorem section_hands
    (owns : Owns state)
    (registered : state.queue.Registered)
    (distinct : state.queue.HandlersDistinct)
    (pickedOnce : PickedOnce state)
    {action : Action 1} {outcome : Outcome}
    (ran : LoopSection state.queue action 0 (state.loops 0) outcome) :
    ∃ seq, Hands state.trace seq outcome := by
  generalize sourceEq : state.loops 0 = source at ran
  cases ran with
  | @enter thread clock loop waitTime outcome entered =>
      refine owns.entered_hands registered distinct pickedOnce
        (by simp [sourceEq, LoopPc.Holds]) entered ?_ rfl rfl rfl
      cases entered with
      | undefined task empty =>
          subst task
          exact absurd empty (owns.entering waitTime sourceEq)
      | pick selected dispatched => cases dispatched <;> simp
      | _ => simp
  | wake entered defined =>
      exact owns.entered_hands registered distinct pickedOnce
        (by simp [sourceEq, LoopPc.Holds]) entered defined rfl rfl rfl
  | @resume thread loop msg node outcome returned =>
      have handOver := owns.handOver loop msg node sourceEq
      obtain ⟨before, after, list, atNode, ahead⟩ :=
        handOver.handlersAfter_eq distinct
      cases returned with
      | undefined cause =>
          have lost := cause (Queue.mem_seqs_of_mem_keys handOver.queued)
          rw [atNode] at lost
          cases lost
      | @resume rest outcome queued found dispatched =>
          obtain rfl : after = rest := by
            rw [atNode] at found
            exact Option.some.inj found
          refine ⟨msg.msgSeq, dispatched.hands
            (by simpa using list : _ = before ++ after)
            (distinct.sublist (by simp) (by simp)) ?_ ?_ ahead ?_ ?_⟩
          · simpa using handOver.picked
          · rw [Queue.markHandling_keys]
            exact handOver.queued
          · simp [handedSeqs]
          · simp

/-- One permitted step keeps the loop in possession. -/
theorem step
    (owns : Owns state)
    (inHand : InHand state)
    (registered : state.queue.Registered)
    (distinct : state.queue.HandlersDistinct)
    (pickedOnce : PickedOnce state)
    {action : Action 1}
    (spares : SparesInHand state action)
    (fires : Fires state action next) :
    Owns next := by
  have noEvents : ∀ event ∈ ([] : List Event), event.ofClient = true := by
    simp
  cases fires with
  | @client action client source pc events source move =>
      have byClient : ∀ event ∈ events, event.ofClient = true := by
        cases move <;> simp [Event.ofClient]
      refine owns.of_quiet rfl byClient owns.running owns.entering ?_
      intro loop msg node handling
      have handOver := owns.handOver loop msg node handling
      exact handOver.of_frame handOver.queued (fun _ present _ => present) rfl
        (handedSeqs_of_client byClient)
  | @push action client woken pushedMsg source pc events pushed source call
      pushedBy =>
      have sameLoop : pushed.loops 0 = (state.loops 0).notifyMsg :=
        pushedBy.loops_single
      have sameQueue : pushed.queue = state.queue.push pushedMsg :=
        pushedBy.queue
      have grown : (pushed.log events).trace = state.trace ++
          ([.accepted state.queue.msgSeq] ++ events) := by
        simp [State.log, pushedBy.trace, State.setClient]
      have byClient : ∀ event ∈ [Event.accepted state.queue.msgSeq] ++ events,
          event.ofClient = true := by
        cases call <;> simp [Event.ofClient]
      refine owns.of_quiet grown byClient ?_ ?_ ?_
      · simpa [State.log, sameLoop] using owns.running
      · simp [State.log, sameQueue, Queue.push]
      · intro loop msg node handling
        have handlingBefore : state.loops 0 = .handling loop msg node := by
          simpa [State.log, sameLoop] using handling
        have handOver := owns.handOver loop msg node handlingBefore
        have below := (inHand 0 loop msg node handlingBefore).below
        rw [grown]
        simp only [State.log, sameQueue]
        exact handOver.push below pushedMsg (handedSeqs_of_client byClient)
  | quitBegin idle =>
      refine owns.of_quiet (List.append_nil _).symm noEvents owns.running
        owns.entering ?_
      intro loop msg node handling
      have handOver := owns.handOver loop msg node handling
      exact ⟨handOver.picked, handOver.queued, handOver.marked,
        handOver.position⟩
  | @edit edit =>
      simp only [SparesInHand] at spares
      refine owns.of_quiet (List.append_nil _).symm noEvents owns.running ?_ ?_
      · intro waitTime entering
        rw [entering] at spares
        exact spares
      · intro loop msg node handling
        rw [handling] at spares
        exact (owns.handOver loop msg node handling).edit spares.1 spares.2
  | @addHandler handlerId broadcast =>
      refine owns.of_quiet (List.append_nil _).symm noEvents owns.running ?_ ?_
      · simpa using owns.entering
      · intro loop msg node handling
        exact (owns.handOver loop msg node handling).addHandler registered
          handlerId broadcast
  | @loopMove action thread source pc sourceEq move =>
      obtain rfl : thread = 0 := Subsingleton.elim _ _
      refine owns.of_quiet (List.append_nil _).symm noEvents ?_ ?_ ?_
      · cases move <;> simp [State.setLoop]
      · cases move with
        | pass passes =>
            rintro _ entering
            simp only [State.setLoop, Function.update_self,
              LoopPc.enter.injEq] at entering
            simp only [entering.1, State.testPasses, Bool.and_eq_true,
              Bool.not_eq_true', List.isEmpty_eq_false_iff] at passes
            exact passes.1
        | _ => simp [State.setLoop]
      · cases move <;> simp [State.setLoop]
  | @loopSection action thread source outcome sourceEq ran =>
      obtain rfl : thread = 0 := Subsingleton.elim _ _
      obtain ⟨seq, hands⟩ := owns.section_hands registered distinct pickedOnce
        (sourceEq ▸ ran)
      exact owns.of_hands hands
  | @loopFinish thread finishing =>
      obtain rfl : thread = 0 := Subsingleton.elim _ _
      refine owns.of_quiet (List.append_nil _).symm noEvents ?_ ?_ ?_ <;>
        simp [State.setLoop]
  | @loopNotify thread notifying =>
      obtain rfl : thread = 0 := Subsingleton.elim _ _
      refine owns.of_quiet (List.append_nil _).symm noEvents ?_ ?_ ?_ <;>
        simp [State.setLoop]

end Owns

theorem owns_of_reachable
    {state : State 1}
    (reached : (system 1).ReachableUnder KeepsOwnership state) :
    Owns state := by
  refine reached.invariant ?_ ?_
  · rintro _ rfl
    exact ⟨by simp [State.new], by simp [State.new], by simp [State.new],
      by simp [State.new, handedSeqs], by simp [State.new, handedSeqs]⟩
  · intro state action next earlier owns keeps stepped
    exact owns.step (inHand_of_reachable earlier)
      (registered_of_reachable (fun _ _ keeps => keeps.1) earlier)
      (handlersDistinct_of_reachable earlier) (pickedOnce_of_reachable earlier)
      keeps.2 (State.step_fires stepped)

/-! ## How messages leave -/

/-- A section takes out at most the message whose removal it records. -/
theorem LoopSection.removed_of_not_mem
    {n : Nat} {state : State n} {action : Action n} {thread : Fin n}
    {source : LoopPc} {outcome : Outcome} {seq : Int}
    (ordered : Ordered state)
    (inHand : InHand state)
    (sourceEq : state.loops thread = source)
    (ran : LoopSection state.queue action thread source outcome)
    (queued : seq ∈ state.queue.seqs)
    (gone : seq ∉ outcome.queue.seqs) :
    ∃ taken exit, Event.removed seq taken exit ∈ outcome.events := by
  have ofDispatched : ∀ {queue loop msg rest lead outcome},
      Dispatched queue loop msg rest lead outcome →
      queue.seqs = state.queue.seqs → msg.msgSeq ∈ queue.seqs →
      (loop ≠ .enterTimerLoop → ∀ other ∈ queue.seqs, msg.msgSeq ≤ other) →
      seq ∉ outcome.queue.seqs →
      ∃ taken exit, Event.removed seq taken exit ∈ outcome.events := by
    intro queue loop msg rest lead outcome dispatched sameSeqs present front gone
    rw [← sameSeqs] at queued
    have increasing : queue.seqs.Pairwise (· < ·) :=
      sameSeqs ▸ ordered.increasing
    cases dispatched with
    | handle running chosen => simp [queued] at gone
    | finish nobody =>
        have nodup : queue.seqs.Nodup := sameSeqs ▸ ordered.nodup
        rw [Queue.removePicked_seqs increasing present front,
          nodup.mem_erase_iff] at gone
        obtain rfl : seq = msg.msgSeq :=
          by_contra fun different => gone ⟨different, queued⟩
        exact ⟨_, _, List.mem_append_right _ (List.mem_singleton.mpr rfl)⟩
  have ofEntered : ∀ {queue loop waitTime outcome},
      Entered queue loop waitTime outcome →
      queue.seqs = state.queue.seqs → seq ∉ outcome.queue.seqs →
      ∃ taken exit, Event.removed seq taken exit ∈ outcome.events := by
    intro queue loop waitTime outcome entered sameSeqs gone
    cases entered with
    | @pick msg outcome selected dispatched =>
        exact ofDispatched dispatched sameSeqs
          (Queue.mem_seqs.mpr ⟨msg, selected.present, rfl⟩)
          (selected.least (sameSeqs ▸ ordered.increasing)) gone
    | _ => exact absurd (sameSeqs ▸ queued) gone
  cases ran with
  | enter entered => exact ofEntered entered rfl gone
  | wake entered defined => exact ofEntered entered rfl gone
  | @resume thread loop msg node outcome returned =>
      cases returned with
      | undefined cause => exact absurd queued gone
      | resume present after dispatched =>
          exact ofDispatched dispatched (by simp) (by simpa using present)
            (by simpa using (inHand thread loop msg node sourceEq).front) gone

theorem Owns.leavesProperly
    {state next : State 1} {action : Action 1}
    (owns : Owns state)
    (ordered : Ordered state)
    (inHand : InHand state)
    (registered : state.queue.Registered)
    (distinct : state.queue.HandlersDistinct)
    (pickedOnce : PickedOnce state)
    (spares : SparesInHand state action)
    (fires : Fires state action next) :
    LeavesProperly state action next := by
  intro msg present gone
  have queued : msg.msgSeq ∈ state.queue.seqs :=
    Queue.mem_seqs.mpr ⟨msg, present, rfl⟩
  cases fires with
  | push source call pushed =>
      simp [State.log, pushed.queue, State.setClient, queued] at gone
  | @edit edit =>
      have erased : msg ∉ (edit.apply state.queue).lstMsg := fun kept =>
        gone (Queue.mem_seqs.mpr ⟨msg, kept, rfl⟩)
      refine Or.inr ⟨edit, rfl, (Edit.matches_of_erased present erased).1, ?_⟩
      intro holds
      cases pc : state.loops 0 with
      | handling loop inHandMsg node =>
          rw [pc] at holds
          have handOver := owns.handOver loop inHandMsg node pc
          simp only [SparesInHand, pc, Edit.Spares] at spares
          have kept := handOver.mem_keys_edit spares.1
          rw [← show inHandMsg.msgSeq = msg.msgSeq from holds] at gone
          exact gone (Queue.mem_seqs_of_mem_keys kept)
      | undefined => exact owns.running pc
      | _ => simp [pc, LoopPc.Holds] at holds
  | addHandler =>
      rw [Queue.seqs, Queue.addHandler_lstMsg] at gone
      exact absurd queued gone
  | @loopSection action thread source outcome sourceEq ran =>
      obtain rfl : thread = 0 := Subsingleton.elim _ _
      obtain ⟨taken, exit, removed⟩ :=
        ran.removed_of_not_mem ordered inHand sourceEq queued gone
      obtain ⟨seq, hands⟩ := owns.section_hands registered distinct pickedOnce
        (sourceEq ▸ ran)
      obtain ⟨rfl, reason⟩ := hands.removed _ taken exit removed
      obtain rfl := ran.taken_eq ordered inHand sourceEq removed
      exact Or.inl ⟨outcome.events, exit, rfl, removed, reason⟩
  | _ => exact absurd queued gone

/-- In every run that spares what the loop has in hand, the loop owns the
messages it picks, and messages leave the queue only by its removal or by an
edit that matches them while they are not in hand. -/
theorem owned_of_keepsOwnership
    (state : State 1)
    (reached : (system 1).ReachableUnder KeepsOwnership state) :
    Owned state ∧
      ∀ action next, KeepsOwnership state action →
        (system 1).step state action = some next →
        LeavesProperly state action next := by
  have owns := owns_of_reachable reached
  have pickedOnce := pickedOnce_of_reachable reached
  refine ⟨⟨owns.running, ?_, taken_eq_of_reachable reached, pickedOnce.nodup,
    owns.handedOnce⟩, ?_⟩
  · intro loop msg node handling
    exact Queue.mem_seqs_of_mem_keys (owns.handOver loop msg node handling).queued
  · intro action next keeps stepped
    exact owns.leavesProperly (ordered_of_reachable reached)
      (inHand_of_reachable reached)
      (registered_of_reachable (fun _ _ keeps => keeps.1) reached)
      (handlersDistinct_of_reachable reached) pickedOnce keeps.2
      (State.step_fires stepped)

/-- The timer loop handles a message, a cancel overload spares it, and the loop
removes it. -/
def sparedCancel : List (Action 1) :=
  [.addHandler 7 false, .sendCheck 0 (.ofId 10 7), .sendPush 0 none,
    .loopBegin 0 .enterTimerLoop, .loopTest 0, .loopEnter 0 fun _ => 0,
    .edit (.cancelMsgSeq 0), .loopReturn 0]

theorem owned_of_keepsOwnership_sparedCancel :
    ∃ state : State 1, (system 1).ReachableUnder KeepsOwnership state ∧
      state.trace = [.accepted 0, .picked 0, .handled 0 7 7,
        .removed 0 [0] false] ∧
      Owned state := by
  obtain ⟨state, reached, history⟩ :=
    Machine.ReachableUnder.exists_of_execUnder
      (.initial rfl : (system 1).ReachableUnder KeepsOwnership (State.new 1))
      (by decide : ((system 1).execUnder KeepsOwnership (State.new 1)
        sparedCancel).map (fun state => decide (state.trace =
          [.accepted 0, .picked 0, .handled 0 7 7, .removed 0 [0] false])) =
            some true)
  exact ⟨state, reached, of_decide_eq_true history,
    (owned_of_keepsOwnership state reached).1⟩

/-- A handler run by `do_task` cancels the message it was called with. -/
def cancelUnderDoTask : List (Action 1) :=
  [.addHandler 7 false, .sendCheck 0 (.ofId 10 7), .sendPush 0 none,
    .loopBegin 0 .doTask, .loopTest 0, .loopEnter 0 fun _ => 0,
    .edit (.cancelMsgSeq 0)]

/-- A handler run by the timer loop is unregistered by another thread. -/
def removeUnderTimerLoop : List (Action 1) :=
  [.addHandler 7 false, .sendCheck 0 (.ofId 10 7), .sendPush 0 none,
    .loopBegin 0 .enterTimerLoop, .loopTest 0, .loopEnter 0 fun _ => 0,
    .edit (.removeHandler 7)]

/-- The loop has message 0 in hand and the list no longer holds it. -/
def lostInHand (state : State 1) : Bool :=
  match state.loops 0 with
  | .handling _ msg _ => msg.msgSeq = 0 && !state.queue.seqs.contains 0
  | _ => false

theorem not_owned_of_exec
    {actions : List (Action 1)}
    (replay : ((system 1).exec (State.new 1) actions).map lostInHand =
      some true) :
    ∃ state : State 1, (system 1).exec (State.new 1) actions = some state ∧
      (system 1).Reachable state ∧ ¬ Owned state := by
  obtain ⟨state, executed, reached, lost⟩ :=
    Machine.exists_reachable_of_exec
      (rfl : (system 1).initial (State.new 1)) replay
  refine ⟨state, executed, reached, ?_⟩
  intro owned
  unfold lostInHand at lost
  split at lost
  · rename_i loop msg node handling
    simp only [Bool.and_eq_true, decide_eq_true_eq, Bool.not_eq_true',
      List.contains_eq_mem, decide_eq_false_iff_not] at lost
    exact lost.2 (lost.1 ▸ owned.queued loop msg node handling)
  · cases lost

theorem owned_lostInHand :
    (∃ state : State 1, (system 1).exec (State.new 1) cancelUnderDoTask =
      some state ∧ (system 1).Reachable state ∧ ¬ Owned state) ∧
    ∃ state : State 1, (system 1).exec (State.new 1) removeUnderTimerLoop =
      some state ∧ (system 1).Reachable state ∧ ¬ Owned state := by
  refine ⟨?_, ?_⟩
  · exact not_owned_of_exec (by decide)
  · exact not_owned_of_exec (by decide)

end MsgQueue
end Skplat
