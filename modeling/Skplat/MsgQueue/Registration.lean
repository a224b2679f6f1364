import Skplat.MsgQueue.InHand

/-!
# Queued messages and registered handlers

`send_msg` looks its handler up before it takes the mutex.  A `remove_handler`
that falls between the look-up and the push leaves a message that nobody will
handle.  When every push still finds the handler registered, every queued
message has a registered handler and, short of an exit, no message is popped
unseen.
-/

namespace Skplat
namespace MsgQueue

/-- The handler a call has looked up for the message it is about to push. -/
def ClientPc.pendingHandler : ClientPc → Option Int
  | .sending msg => some msg.handlerId
  | .quitSending => some defaultHandlerId
  | _ => none

/-- A push happens while the handler that the call looked up is registered. -/
def PushesRegistered {n : Nat} (state : State n) : Action n → Prop
  | .sendPush client _ | .quitPush client _ =>
      ∀ handlerId ∈ (state.clients client).pendingHandler,
        state.queue.hasHandler handlerId = true
  | _ => True

instance {n : Nat} (state : State n) : DecidablePred (PushesRegistered state)
  | .sendPush client _ => inferInstanceAs (Decidable
      (∀ handlerId ∈ (state.clients client).pendingHandler,
        state.queue.hasHandler handlerId = true))
  | .quitPush client _ => inferInstanceAs (Decidable
      (∀ handlerId ∈ (state.clients client).pendingHandler,
        state.queue.hasHandler handlerId = true))
  | .sendCheck _ _ | .edit _ | .addHandler _ _ | .waitBegin _ _ | .waitCheck _
  | .quitBegin _ | .quitCheck _ | .quitWait _ | .loopBegin _ _ | .loopTest _
  | .loopEnter _ _ | .loopWake _ _ | .loopReturn _ | .loopFinish _
  | .loopNotify _ => .isTrue trivial

/-- Every queued message has a registered handler, and every message that a loop
took out while no exit was requested had been seen by a handler. -/
def HandlersRegistered {n : Nat} (state : State n) : Prop :=
  (∀ msg ∈ state.queue.lstMsg, ∃ handler ∈ state.queue.lstHandler,
      handler.handlerId = msg.handlerId) ∧
    ∀ seq taken, Event.removed seq taken false ∈ state.trace →
      ∀ other ∈ taken, Seen state.trace other

theorem Queue.hasHandler_iff {queue : Queue} {handlerId : Int} :
    queue.hasHandler handlerId = true ↔
      ∃ handler ∈ queue.lstHandler, handler.handlerId = handlerId := by
  simp only [Queue.hasHandler, List.any_eq_true, beq_iff_eq]
  constructor
  · rintro ⟨handler, present, same⟩
    exact ⟨handler, present, same.symm⟩
  · rintro ⟨handler, present, same⟩
    exact ⟨handler, present, same.symm⟩

/-- Every queued message has a registered handler. -/
def Queue.Registered (queue : Queue) : Prop :=
  ∀ msg ∈ queue.lstMsg, queue.hasHandler msg.handlerId = true

/-- A push call carries the message of the handler it looked up. -/
theorem PushCall.pushesRegistered_iff
    {n : Nat} {state : State n} {action : Action n} {client : Nat}
    {woken : Option (Fin n)} {source pc : ClientPc} {msg : Msg}
    {events : List Event}
    (sourceEq : state.clients client = source)
    (call : PushCall action client woken source msg pc events) :
    PushesRegistered state action ↔
      state.queue.hasHandler msg.handlerId = true := by
  cases call with
  | send => simp [PushesRegistered, sourceEq, ClientPc.pendingHandler]
  | quit =>
      simp [PushesRegistered, sourceEq, ClientPc.pendingHandler, Msg.ofId]

/-- Messages that survive an edit keep their handlers. -/
theorem Edit.not_unregisters_of_mem
    {edit : Edit} {queue : Queue} {msg : QueuedMsg}
    (present : msg ∈ (edit.apply queue).lstMsg) :
    ¬ edit.Unregisters msg.handlerId := by
  cases edit with
  | removeHandler handlerId =>
      simp only [apply, Queue.removeHandler, List.mem_filter] at present
      simpa [Unregisters] using present.2
  | clear => simp [apply, Queue.clear] at present
  | _ => exact fun unregisters => unregisters

theorem Edit.hasHandler_apply
    {edit : Edit} {queue : Queue} {handlerId : Int}
    (registered : queue.hasHandler handlerId = true)
    (kept : ¬ edit.Unregisters handlerId) :
    (edit.apply queue).hasHandler handlerId = true := by
  obtain ⟨handler, present, rfl⟩ := Queue.hasHandler_iff.mp registered
  exact Queue.hasHandler_iff.mpr
    ⟨handler, Edit.mem_apply_lstHandler.mpr ⟨present, kept⟩, rfl⟩

theorem Queue.hasHandler_addHandler
    {queue : Queue} {handlerId added : Int} {broadcast : Bool}
    (registered : queue.hasHandler handlerId = true) :
    (queue.addHandler added broadcast).hasHandler handlerId = true := by
  obtain ⟨handler, present, rfl⟩ := hasHandler_iff.mp registered
  rw [hasHandler_iff]
  refine ⟨handler, ?_, rfl⟩
  simp only [addHandler]
  split
  · exact present
  · exact List.mem_append_left _ present

namespace Queue.Registered

variable {queue next : Queue}

/-- Taking messages out keeps the others' handlers. -/
theorem trims
    (registered : queue.Registered)
    (trims : Queue.Trims queue next)
    (sameHandlers : next.lstHandler = queue.lstHandler) :
    next.Registered := by
  intro msg present
  obtain ⟨earlier, earlierPresent, _, sameMsg⟩ := trims.exists_mem present
  rw [Queue.hasHandler, sameHandlers, ← sameMsg]
  exact registered earlier earlierPresent

/-- A push keeps registration exactly when the new message has a handler. -/
theorem push_iff
    (registered : queue.Registered)
    (msg : Msg) :
    (queue.push msg).Registered ↔ queue.hasHandler msg.handlerId = true := by
  have sameLookup : ∀ handlerId,
      (queue.push msg).hasHandler handlerId = queue.hasHandler handlerId :=
    fun _ => rfl
  constructor
  · intro after
    have last := after
      { msg with msgSeq := queue.msgSeq, isHandling := false }
      (by simp [Queue.push])
    rwa [sameLookup] at last
  · intro found queued present
    rw [sameLookup]
    rcases List.mem_append.mp present with earlier | last
    · exact registered queued earlier
    · rw [List.mem_singleton.mp last]
      exact found

theorem edit
    (registered : queue.Registered)
    (edit : Edit) :
    (edit.apply queue).Registered := by
  intro msg present
  have earlier := (edit.apply_lstMsg_sublist queue).subset present
  exact Edit.hasHandler_apply (registered msg earlier)
    (Edit.not_unregisters_of_mem present)

theorem addHandler
    (registered : queue.Registered)
    (handlerId : Int) (broadcast : Bool) :
    (queue.addHandler handlerId broadcast).Registered := by
  intro msg present
  rw [Queue.addHandler_lstMsg] at present
  exact Queue.hasHandler_addHandler (registered msg present)

/-- One step keeps registration exactly when it pushes no orphan. -/
theorem step_iff
    {n : Nat} {state next : State n} {action : Action n}
    (registered : state.queue.Registered)
    (fires : Fires state action next) :
    next.queue.Registered ↔ PushesRegistered state action := by
  cases fires with
  | client source move =>
      exact iff_of_true registered (by cases move <;> trivial)
  | push source call pushed =>
      rw [call.pushesRegistered_iff source]
      simp only [State.log, pushed.queue]
      exact registered.push_iff _
  | quitBegin idle => exact iff_of_true registered trivial
  | edit => exact iff_of_true (registered.edit _) trivial
  | addHandler => exact iff_of_true (registered.addHandler _ _) trivial
  | loopMove source move =>
      exact iff_of_true registered (by cases move <;> trivial)
  | loopSection source ran =>
      exact iff_of_true (registered.trims ran.frame.trims ran.frame.lstHandler)
        (by cases ran <;> trivial)
  | loopFinish finishing => exact iff_of_true registered trivial
  | loopNotify notifying => exact iff_of_true registered trivial

end Queue.Registered

theorem registered_of_reachable
    {n : Nat} {guard : State n → Action n → Prop} {state : State n}
    (pushes : ∀ state action, guard state action →
      PushesRegistered state action)
    (reached : (system n).ReachableUnder guard state) :
    state.queue.Registered := by
  have atStart : ∀ start : State n, (system n).initial start →
      start.queue.Registered := by
    rintro _ rfl msg present
    simp [State.new, Queue.new] at present
  refine reached.invariant atStart ?_
  intro state action next _ registered permitted stepped
  exact (registered.step_iff (State.step_fires stepped)).mpr
    (pushes state action permitted)

/-! ## What a loop takes out -/

/-- Messages taken out by a section that saw no exit request had been seen. -/
theorem LoopSection.taken_seen
    {n : Nat} {state : State n} {action : Action n} {thread : Fin n}
    {source : LoopPc} {outcome : Outcome} {seq other : Int} {taken : List Int}
    (registered : state.queue.Registered)
    (ordered : Ordered state)
    (inHand : InHand state)
    (sourceEq : state.loops thread = source)
    (ran : LoopSection state.queue action thread source outcome)
    (removed : Event.removed seq taken false ∈ outcome.events)
    (present : other ∈ taken) :
    Seen state.trace other := by
  have ofEntered : ∀ {queue loop waitTime outcome},
      Entered queue loop waitTime outcome →
      queue.lstMsg = state.queue.lstMsg →
      queue.lstHandler = state.queue.lstHandler →
      Event.removed seq taken false ∈ outcome.events → False := by
    intro queue loop waitTime outcome entered sameMsgs sameHandlers removed
    cases entered with
    | @pick msg outcome selected dispatched =>
        cases dispatched with
        | handle running chosen => simp at removed
        | finish nobody =>
            simp only [List.cons_append, List.nil_append, List.mem_cons,
              List.not_mem_nil, or_false, reduceCtorEq, false_or,
              Event.removed.injEq] at removed
            have lookup := registered msg (sameMsgs ▸ selected.present)
            obtain ⟨handler, handlerPresent, same⟩ :=
              Queue.hasHandler_iff.mp lookup
            have refuses := nobody removed.2.2.symm handler
              (sameHandlers ▸ handlerPresent)
            simp [Handler.accepts, same] at refuses
    | _ => simp at removed
  cases ran with
  | enter entered => exact (ofEntered entered rfl rfl removed).elim
  | wake entered defined => exact (ofEntered entered rfl rfl removed).elim
  | @resume thread loop msg node outcome returned =>
      have held := inHand thread loop msg node sourceEq
      cases returned with
      | undefined cause => simp at removed
      | resume queued after dispatched =>
          cases dispatched with
          | handle running chosen => simp at removed
          | finish nobody =>
              have onlyPicked := held.taken_eq ordered.increasing queued
              simp only [List.nil_append, List.mem_singleton,
                Event.removed.injEq] at removed
              rw [removed.2.1, onlyPicked, List.mem_singleton] at present
              rw [present]
              exact held.seen

/-- Messages that a loop took out while no exit was requested had been seen. -/
def RemovalsSeen {n : Nat} (state : State n) : Prop :=
  ∀ seq taken, Event.removed seq taken false ∈ state.trace →
    ∀ other ∈ taken, Seen state.trace other

theorem RemovalsSeen.step
    {n : Nat} {state next : State n} {action : Action n}
    (removals : RemovalsSeen state)
    (registered : state.queue.Registered)
    (ordered : Ordered state)
    (inHand : InHand state)
    (fires : Fires state action next) :
    RemovalsSeen next := by
  intro seq taken removed other present
  obtain ⟨events, grown, made⟩ := fires.trace_append
  rw [grown] at removed ⊢
  refine Seen.append ?_ events
  rcases List.mem_append.mp removed with earlier | now
  · exact removals seq taken earlier other present
  · rcases made with byClient | ⟨thread, outcome, ran, _, rfl⟩
    · exact absurd (byClient _ now) (by simp [Event.ofClient])
    · exact ran.taken_seen registered ordered inHand rfl now present

theorem handlersRegistered_iff {n : Nat} {state : State n} :
    HandlersRegistered state ↔
      state.queue.Registered ∧ RemovalsSeen state := by
  simp only [HandlersRegistered, Queue.Registered, RemovalsSeen,
    Queue.hasHandler_iff]

theorem removalsSeen_of_reachable
    {n : Nat} {guard : State n → Action n → Prop} {state : State n}
    (pushes : ∀ state action, guard state action →
      PushesRegistered state action)
    (reached : (system n).ReachableUnder guard state) :
    RemovalsSeen state := by
  refine reached.invariant ?_ ?_
  · rintro _ rfl seq taken removed
    simp [State.new] at removed
  · intro state action next earlier removals _ stepped
    exact removals.step (registered_of_reachable pushes earlier)
      (ordered_of_reachable earlier) (inHand_of_reachable earlier)
      (State.step_fires stepped)

/-- While every push still finds its handler registered, every queued message
has a registered handler and no message is popped unseen; the first push that
does not breaks the invariant. -/
theorem handlersRegistered_of_pushesRegistered
    (n : Nat) (state : State n)
    (reached : (system n).ReachableUnder PushesRegistered state) :
    HandlersRegistered state ∧
      ∀ action next, (system n).step state action = some next →
        (HandlersRegistered next ↔ PushesRegistered state action) := by
  have registered := registered_of_reachable (fun _ _ pushes => pushes) reached
  have removals := removalsSeen_of_reachable (fun _ _ pushes => pushes) reached
  refine ⟨handlersRegistered_iff.mpr ⟨registered, removals⟩, ?_⟩
  intro action next stepped
  have fires := State.step_fires stepped
  have after := removals.step registered (ordered_of_reachable reached)
    (inHand_of_reachable reached) fires
  rw [handlersRegistered_iff, ← registered.step_iff fires]
  exact and_iff_left after

/-- A send handled by one timer loop, with its handler registered throughout. -/
def handledSend : List (Action 1) :=
  [.addHandler 7 false, .sendCheck 0 (.ofId 10 7), .sendPush 0 none,
    .loopBegin 0 .enterTimerLoop, .loopTest 0, .loopEnter 0 fun _ => 0]

theorem handlersRegistered_of_pushesRegistered_handledSend :
    ∃ state : State 1, (system 1).ReachableUnder PushesRegistered state ∧
      state.queue.seqs = [0] ∧ HandlersRegistered state := by
  obtain ⟨state, reached, queued⟩ :=
    Machine.ReachableUnder.exists_of_execUnder
      (.initial rfl : (system 1).ReachableUnder PushesRegistered (State.new 1))
      (by decide : ((system 1).execUnder PushesRegistered (State.new 1)
        handledSend).map (fun state => decide (state.queue.seqs = [0])) =
          some true)
  exact ⟨state, reached, of_decide_eq_true queued,
    (handlersRegistered_of_pushesRegistered 1 state reached).1⟩

/-- The handler is removed between the look-up and the push, and the loop then
pops the message without any handler call. -/
def orphanedSend : List (Action 1) :=
  [.addHandler 7 false, .sendCheck 0 (.ofId 10 7),
    .edit (.removeHandler 7), .sendPush 0 none,
    .loopBegin 0 .enterTimerLoop, .loopTest 0, .loopEnter 0 fun _ => 0]

/-- Before the loop runs the message is queued without a handler, and
afterwards it is gone without having been seen. -/
theorem handlersRegistered_orphanedSend :
    (∃ state : State 1, (system 1).Reachable state ∧
      ∃ msg ∈ state.queue.lstMsg,
        ∀ handler ∈ state.queue.lstHandler,
          handler.handlerId ≠ msg.handlerId) ∧
    ∃ state : State 1, (system 1).Reachable state ∧
      Event.removed 0 [0] false ∈ state.trace ∧ ¬ Seen state.trace 0 := by
  have start : (system 1).initial (State.new 1) := rfl
  constructor
  · obtain ⟨state, _, reached, orphaned⟩ :=
      Machine.exists_reachable_of_exec start
        (by decide : ((system 1).exec (State.new 1) (orphanedSend.take 4)).map
          (fun state => decide (∃ msg ∈ state.queue.lstMsg,
            ∀ handler ∈ state.queue.lstHandler,
              handler.handlerId ≠ msg.handlerId)) = some true)
    exact ⟨state, reached, of_decide_eq_true orphaned⟩
  · obtain ⟨state, _, reached, history⟩ :=
      Machine.exists_reachable_of_exec start
        (by decide : ((system 1).exec (State.new 1) orphanedSend).map
          (fun state => decide (state.trace =
            [.accepted 0, .picked 0, .removed 0 [0] false])) = some true)
    refine ⟨state, reached, ?_, ?_⟩
    · rw [of_decide_eq_true history]
      simp
    · rintro ⟨msgHandler, handler, seen⟩
      rw [of_decide_eq_true history] at seen
      simp at seen

end MsgQueue
end Skplat
