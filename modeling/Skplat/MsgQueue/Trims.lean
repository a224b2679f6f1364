import Skplat.MsgQueue.Steps

/-!
# Edits and loop sections only take messages out

Apart from `send_msg`, every step leaves a sublist of the queued messages and
keeps the counter.  This module proves that frame fact once, together with what
an edit may erase, and the invariants of the later modules are built on it.
-/

namespace Skplat
namespace MsgQueue

namespace Queue

/-- The queued messages without their `is_handling` flags. -/
def keys (queue : Queue) : List (Int × Msg) :=
  queue.lstMsg.map fun msg => (msg.msgSeq, msg.toMsg)

theorem seqs_eq_map_keys (queue : Queue) :
    queue.seqs = queue.keys.map Prod.fst := by
  simp [seqs, keys, Function.comp_def]

theorem mem_seqs {queue : Queue} {seq : Int} :
    seq ∈ queue.seqs ↔ ∃ msg ∈ queue.lstMsg, msg.msgSeq = seq := by
  simp [seqs]

/-- A later queue whose messages form a sublist of the earlier ones. -/
structure Trims (queue next : Queue) : Prop where
  /-- Nothing is added, reordered or rewritten. -/
  keys : next.keys.Sublist queue.keys
  /-- No sequence number is consumed. -/
  msgSeq : next.msgSeq = queue.msgSeq

namespace Trims

theorem refl (queue : Queue) : Trims queue queue :=
  ⟨List.Sublist.refl _, rfl⟩

/-- A change outside the message list and the counter trims nothing. -/
theorem of_eq
    {queue next : Queue}
    (sameMsgs : next.lstMsg = queue.lstMsg)
    (sameSeq : next.msgSeq = queue.msgSeq) :
    Trims queue next := by
  refine ⟨?_, sameSeq⟩
  rw [Queue.keys, Queue.keys, sameMsgs]

theorem of_sublist
    {queue next : Queue}
    (shorter : next.lstMsg.Sublist queue.lstMsg)
    (sameSeq : next.msgSeq = queue.msgSeq) :
    Trims queue next :=
  ⟨shorter.map _, sameSeq⟩

theorem trans
    {first second third : Queue}
    (earlier : Trims first second)
    (later : Trims second third) :
    Trims first third :=
  ⟨later.keys.trans earlier.keys, later.msgSeq.trans earlier.msgSeq⟩

theorem seqs
    {queue next : Queue}
    (trims : Trims queue next) :
    next.seqs.Sublist queue.seqs := by
  rw [seqs_eq_map_keys, seqs_eq_map_keys]
  exact trims.keys.map _

/-- Every remaining message was queued before. -/
theorem exists_mem
    {queue next : Queue}
    (trims : Trims queue next)
    {msg : QueuedMsg}
    (present : msg ∈ next.lstMsg) :
    ∃ earlier ∈ queue.lstMsg,
      earlier.msgSeq = msg.msgSeq ∧ earlier.toMsg = msg.toMsg := by
  have key : (msg.msgSeq, msg.toMsg) ∈ next.keys :=
    List.mem_map.mpr ⟨msg, present, rfl⟩
  obtain ⟨earlier, earlierPresent, equal⟩ :=
    List.mem_map.mp (trims.keys.subset key)
  simp only [Prod.mk.injEq] at equal
  exact ⟨earlier, earlierPresent, equal.1, equal.2⟩

end Trims

@[simp] theorem addHandler_lstMsg
    (queue : Queue) (handlerId : Int) (broadcast : Bool) :
    (queue.addHandler handlerId broadcast).lstMsg = queue.lstMsg := by
  simp only [addHandler]
  split <;> rfl

theorem addHandler_trims
    (queue : Queue) (handlerId : Int) (broadcast : Bool) :
    Trims queue (queue.addHandler handlerId broadcast) := by
  refine .of_eq (queue.addHandler_lstMsg handlerId broadcast) ?_
  simp only [addHandler]
  split <;> rfl

/-! ## Edits -/

theorem cancelLoop_sublist
    (hit : QueuedMsg → Bool) (breakOnHandling breakOnErase : Bool)
    (msgs : List QueuedMsg) :
    (cancelLoop hit breakOnHandling breakOnErase msgs).Sublist msgs := by
  induction msgs with
  | nil => exact List.Sublist.refl _
  | cons msg rest inductionHypothesis =>
      rw [cancelLoop]
      split
      · split
        · split
          · exact List.sublist_cons_self msg rest
          · exact inductionHypothesis.cons msg
        · split
          · exact List.Sublist.refl _
          · exact inductionHypothesis.cons_cons msg
      · exact inductionHypothesis.cons_cons msg

/-- A cancel scan erases only hits that are not being handled. -/
theorem hit_of_not_mem_cancelLoop
    {hit : QueuedMsg → Bool} {breakOnHandling breakOnErase : Bool}
    {msgs : List QueuedMsg} {msg : QueuedMsg}
    (present : msg ∈ msgs)
    (erased : msg ∉ cancelLoop hit breakOnHandling breakOnErase msgs) :
    hit msg = true ∧ msg.isHandling = false := by
  induction msgs with
  | nil => simp at present
  | cons head rest inductionHypothesis =>
      rw [cancelLoop] at erased
      rcases List.mem_cons.mp present with equal | inRest
      · subst equal
        split at erased
        · rename_i isHit
          split at erased
          · rename_i free
            exact ⟨isHit, by simpa using free⟩
          · split at erased <;> simp at erased
        · simp at erased
      · split at erased
        · split at erased
          · split at erased
            · exact absurd inRest erased
            · exact inductionHypothesis inRest erased
          · split at erased
            · exact absurd present erased
            · exact inductionHypothesis inRest fun kept =>
                erased (List.mem_cons_of_mem _ kept)
        · exact inductionHypothesis inRest fun kept =>
            erased (List.mem_cons_of_mem _ kept)

end Queue

namespace Edit

@[simp] theorem apply_msgSeq (edit : Edit) (queue : Queue) :
    (edit.apply queue).msgSeq = queue.msgSeq := by
  cases edit with
  | cancelMsgSeq seq =>
      simp only [apply, Queue.cancelMsgSeq]
      split <;> rfl
  | _ => rfl

@[simp] theorem apply_exit (edit : Edit) (queue : Queue) :
    (edit.apply queue).exit = queue.exit := by
  cases edit with
  | cancelMsgSeq seq =>
      simp only [apply, Queue.cancelMsgSeq]
      split <;> rfl
  | _ => rfl

@[simp] theorem apply_exitDone (edit : Edit) (queue : Queue) :
    (edit.apply queue).exitDone = queue.exitDone := by
  cases edit with
  | cancelMsgSeq seq =>
      simp only [apply, Queue.cancelMsgSeq]
      split <;> rfl
  | _ => rfl

theorem apply_lstMsg_sublist (edit : Edit) (queue : Queue) :
    (edit.apply queue).lstMsg.Sublist queue.lstMsg := by
  cases edit with
  | cancelMsgSeq seq =>
      simp only [apply, Queue.cancelMsgSeq]
      split
      · exact List.Sublist.refl _
      · exact Queue.cancelLoop_sublist _ _ _ _
  | cancelMsg msgId handlerId => exact Queue.cancelLoop_sublist _ _ _ _
  | cancelMsgOfHandler handlerId => exact Queue.cancelLoop_sublist _ _ _ _
  | cancelMsgId msgId handlerId => exact Queue.cancelLoop_sublist _ _ _ _
  | removeHandler handlerId => exact List.filter_sublist
  | clear => exact List.nil_sublist _

theorem apply_trims (edit : Edit) (queue : Queue) :
    Queue.Trims queue (edit.apply queue) :=
  .of_sublist (edit.apply_lstMsg_sublist queue) (edit.apply_msgSeq queue)

/-- The edit spares messages that are being handled. -/
def SparesHandling : Edit → Prop
  | .removeHandler _ => False
  | .clear => False
  | _ => True

instance : DecidablePred SparesHandling
  | .removeHandler _ | .clear => .isFalse id
  | .cancelMsgSeq _ | .cancelMsg _ _ | .cancelMsgOfHandler _
  | .cancelMsgId _ _ => .isTrue trivial

/-- An edit erases only messages its argument matches, and a cancel overload
erases none that is being handled. -/
theorem matches_of_erased
    {edit : Edit} {queue : Queue} {msg : QueuedMsg}
    (present : msg ∈ queue.lstMsg)
    (erased : msg ∉ (edit.apply queue).lstMsg) :
    edit.Matches msg ∧ (edit.SparesHandling → msg.isHandling = false) := by
  cases edit with
  | cancelMsgSeq seq =>
      simp only [apply, Queue.cancelMsgSeq] at erased
      split at erased
      · exact absurd present erased
      · have hit := Queue.hit_of_not_mem_cancelLoop present erased
        exact ⟨by simpa [Matches] using hit.1, fun _ => hit.2⟩
  | cancelMsg msgId handlerId =>
      have hit := Queue.hit_of_not_mem_cancelLoop present erased
      exact ⟨by simpa [Matches] using hit.1, fun _ => hit.2⟩
  | cancelMsgOfHandler handlerId =>
      have hit := Queue.hit_of_not_mem_cancelLoop present erased
      exact ⟨by simpa [Matches] using hit.1, fun _ => hit.2⟩
  | cancelMsgId msgId handlerId =>
      have hit := Queue.hit_of_not_mem_cancelLoop present erased
      exact ⟨by simpa [Matches] using hit.1, fun _ => hit.2⟩
  | removeHandler handlerId =>
      refine ⟨?_, fun spares => spares.elim⟩
      simpa [apply, Queue.removeHandler, present, Matches] using erased
  | clear => exact ⟨trivial, fun spares => spares.elim⟩

/-- Handlers that an edit leaves registered. -/
theorem apply_lstHandler (edit : Edit) (queue : Queue) :
    (edit.apply queue).lstHandler = queue.lstHandler.filter
      fun handler => decide (¬ edit.Unregisters handler.handlerId) := by
  cases edit with
  | cancelMsgSeq seq =>
      simp only [apply, Queue.cancelMsgSeq]
      split <;> simp [Unregisters]
  | removeHandler handlerId =>
      simp only [apply, Queue.removeHandler, Unregisters]
      apply List.filter_congr
      intro handler _
      by_cases same : handlerId = handler.handlerId <;> simp [same]
  | clear => simp [apply, Queue.clear, Unregisters]
  | _ => simp [apply, Queue.cancelMsg, Queue.cancelMsgOfHandler,
      Queue.cancelMsgId, Unregisters]

theorem mem_apply_lstHandler
    {edit : Edit} {queue : Queue} {handler : Handler} :
    handler ∈ (edit.apply queue).lstHandler ↔
      handler ∈ queue.lstHandler ∧ ¬ edit.Unregisters handler.handlerId := by
  simp [apply_lstHandler]

@[simp] theorem apply_nextNode (edit : Edit) (queue : Queue) :
    (edit.apply queue).nextNode = queue.nextNode := by
  cases edit with
  | cancelMsgSeq seq =>
      simp only [apply, Queue.cancelMsgSeq]
      split <;> rfl
  | _ => rfl

end Edit

/-! ## Loop sections -/

namespace Queue

theorem markHandling_keys
    (queue : Queue) (loop : LoopKind) (seq : Int) (flag : Bool) :
    (queue.markHandling loop seq flag).keys = queue.keys := by
  cases loop with
  | doTask => rfl
  | enterLoop => rfl
  | enterTimerLoop =>
      simp only [markHandling, setHandling, keys, List.map_map]
      apply List.map_congr_left
      intro msg _
      simp only [Function.comp_apply]
      split <;> rfl

@[simp] theorem markHandling_msgSeq
    (queue : Queue) (loop : LoopKind) (seq : Int) (flag : Bool) :
    (queue.markHandling loop seq flag).msgSeq = queue.msgSeq := by
  cases loop <;> rfl

@[simp] theorem markHandling_exit
    (queue : Queue) (loop : LoopKind) (seq : Int) (flag : Bool) :
    (queue.markHandling loop seq flag).exit = queue.exit := by
  cases loop <;> rfl

@[simp] theorem markHandling_exitDone
    (queue : Queue) (loop : LoopKind) (seq : Int) (flag : Bool) :
    (queue.markHandling loop seq flag).exitDone = queue.exitDone := by
  cases loop <;> rfl

@[simp] theorem markHandling_nextNode
    (queue : Queue) (loop : LoopKind) (seq : Int) (flag : Bool) :
    (queue.markHandling loop seq flag).nextNode = queue.nextNode := by
  cases loop <;> rfl

@[simp] theorem markHandling_seqs
    (queue : Queue) (loop : LoopKind) (seq : Int) (flag : Bool) :
    (queue.markHandling loop seq flag).seqs = queue.seqs := by
  rw [seqs_eq_map_keys, markHandling_keys, seqs_eq_map_keys]

@[simp] theorem removePicked_lstHandler
    (queue : Queue) (loop : LoopKind) (seq : Int) :
    (queue.removePicked loop seq).lstHandler = queue.lstHandler := by
  cases loop <;> rfl

@[simp] theorem removePicked_msgSeq
    (queue : Queue) (loop : LoopKind) (seq : Int) :
    (queue.removePicked loop seq).msgSeq = queue.msgSeq := by
  cases loop <;> rfl

@[simp] theorem removePicked_exit
    (queue : Queue) (loop : LoopKind) (seq : Int) :
    (queue.removePicked loop seq).exit = queue.exit := by
  cases loop <;> rfl

@[simp] theorem removePicked_exitDone
    (queue : Queue) (loop : LoopKind) (seq : Int) :
    (queue.removePicked loop seq).exitDone = queue.exitDone := by
  cases loop <;> rfl

@[simp] theorem removePicked_nextNode
    (queue : Queue) (loop : LoopKind) (seq : Int) :
    (queue.removePicked loop seq).nextNode = queue.nextNode := by
  cases loop <;> rfl

theorem markHandling_trims
    (queue : Queue) (loop : LoopKind) (seq : Int) (flag : Bool) :
    Trims queue (queue.markHandling loop seq flag) := by
  refine ⟨?_, queue.markHandling_msgSeq loop seq flag⟩
  rw [markHandling_keys]

theorem removePicked_trims
    (queue : Queue) (loop : LoopKind) (seq : Int) :
    Trims queue (queue.removePicked loop seq) := by
  refine .of_sublist ?_ (queue.removePicked_msgSeq loop seq)
  cases loop with
  | doTask => exact List.tail_sublist _
  | enterLoop => exact List.tail_sublist _
  | enterTimerLoop => exact List.eraseP_sublist

end Queue

/-- The parts of the queue that no loop section changes, besides trimming the
message list. -/
structure SectionFrame (queue next : Queue) : Prop where
  /-- Messages are at most taken out. -/
  trims : Queue.Trims queue next
  /-- Handlers stay registered. -/
  lstHandler : next.lstHandler = queue.lstHandler
  /-- No handler node is allocated. -/
  nextNode : next.nextNode = queue.nextNode
  /-- The exit request stays. -/
  exit : next.exit = queue.exit

theorem Dispatched.frame
    {queue : Queue} {loop : LoopKind} {msg : QueuedMsg}
    {rest : List Handler} {lead : List Event} {outcome : Outcome}
    (dispatched : Dispatched queue loop msg rest lead outcome) :
    SectionFrame queue outcome.queue := by
  cases dispatched with
  | handle running chosen =>
      exact ⟨queue.markHandling_trims loop _ true, by simp, by simp, by simp⟩
  | finish nobody =>
      exact ⟨queue.removePicked_trims loop _, by simp, by simp, by simp⟩

theorem Entered.frame
    {queue : Queue} {loop : LoopKind} {waitTime : Int} {outcome : Outcome}
    (entered : Entered queue loop waitTime outcome) :
    SectionFrame queue outcome.queue := by
  cases entered with
  | sleep cause => exact ⟨.refl queue, rfl, rfl, rfl⟩
  | rest timer queued delayed => exact ⟨.refl queue, rfl, rfl, rfl⟩
  | pick selected dispatched => exact dispatched.frame
  | undefined task queued => exact ⟨.refl queue, rfl, rfl, rfl⟩

theorem Returned.frame
    {queue : Queue} {loop : LoopKind} {msg : QueuedMsg} {node : Nat}
    {outcome : Outcome}
    (returned : Returned queue loop msg node outcome) :
    SectionFrame queue outcome.queue := by
  cases returned with
  | resume present after dispatched =>
      have frame := dispatched.frame
      refine ⟨(queue.markHandling_trims loop _ false).trans frame.trims,
        ?_, ?_, ?_⟩
      · rw [frame.lstHandler, Queue.markHandling_lstHandler]
      · rw [frame.nextNode, Queue.markHandling_nextNode]
      · rw [frame.exit, Queue.markHandling_exit]
  | undefined cause => exact ⟨.refl queue, rfl, rfl, rfl⟩

/-- Every loop section only trims the message list. -/
theorem LoopSection.frame
    {n : Nat} {queue : Queue} {action : Action n} {thread : Fin n}
    {pc : LoopPc} {outcome : Outcome}
    (ran : LoopSection queue action thread pc outcome) :
    SectionFrame queue outcome.queue := by
  cases ran with
  | enter entered =>
      have frame := entered.frame
      have cleared : Queue.Trims queue { queue with exitDone := false } :=
        .of_eq rfl rfl
      exact ⟨cleared.trans frame.trims, frame.lstHandler, frame.nextNode,
        frame.exit⟩
  | wake entered defined => exact entered.frame
  | resume returned => exact returned.frame

theorem Dispatched.exitDone
    {queue : Queue} {loop : LoopKind} {msg : QueuedMsg}
    {rest : List Handler} {lead : List Event} {outcome : Outcome}
    (dispatched : Dispatched queue loop msg rest lead outcome) :
    outcome.queue.exitDone = queue.exitDone := by
  cases dispatched <;> simp

theorem Entered.exitDone
    {queue : Queue} {loop : LoopKind} {waitTime : Int} {outcome : Outcome}
    (entered : Entered queue loop waitTime outcome) :
    outcome.queue.exitDone = queue.exitDone := by
  cases entered with
  | pick selected dispatched => exact dispatched.exitDone
  | _ => rfl

/-- A loop section never sets `exit_done`, and the one at the top of an
iteration clears it. -/
theorem LoopSection.exitDone
    {n : Nat} {queue : Queue} {action : Action n} {thread : Fin n}
    {pc : LoopPc} {outcome : Outcome}
    (ran : LoopSection queue action thread pc outcome)
    (locked : (∃ loop waitTime, pc = .enter loop waitTime) ∨
      queue.exitDone = false) :
    outcome.queue.exitDone = false := by
  cases ran with
  | enter entered => exact entered.exitDone
  | wake entered defined =>
      exact entered.exitDone.trans (locked.resolve_left (by simp))
  | resume returned =>
      have clear := locked.resolve_left (by simp)
      cases returned with
      | undefined cause => exact clear
      | resume present after dispatched =>
          rw [dispatched.exitDone, Queue.markHandling_exitDone, clear]

/-! ## History -/

/-- Events recorded by client calls, all others being recorded by loops. -/
def Event.ofClient : Event → Bool
  | .accepted _ | .refused | .quitSent => true
  | _ => false

theorem Dispatched.events_ofLoop
    {queue : Queue} {loop : LoopKind} {msg : QueuedMsg}
    {rest : List Handler} {lead : List Event} {outcome : Outcome}
    (dispatched : Dispatched queue loop msg rest lead outcome)
    (leadOfLoop : ∀ event ∈ lead, event.ofClient = false) :
    ∀ event ∈ outcome.events, event.ofClient = false := by
  intro event present
  cases dispatched with
  | handle running chosen =>
      rcases List.mem_append.mp present with inLead | last
      · exact leadOfLoop event inLead
      · rw [List.mem_singleton.mp last]
        rfl
  | finish nobody =>
      rcases List.mem_append.mp present with inLead | last
      · exact leadOfLoop event inLead
      · rw [List.mem_singleton.mp last]
        rfl

/-- Loop sections record none of the clients' events. -/
theorem LoopSection.events_ofLoop
    {n : Nat} {queue : Queue} {action : Action n} {thread : Fin n}
    {pc : LoopPc} {outcome : Outcome}
    (ran : LoopSection queue action thread pc outcome) :
    ∀ event ∈ outcome.events, event.ofClient = false := by
  have ofEntered : ∀ {queue loop waitTime outcome},
      Entered queue loop waitTime outcome →
      ∀ event ∈ outcome.events, event.ofClient = false := by
    intro queue loop waitTime outcome entered
    cases entered with
    | pick selected dispatched =>
        exact dispatched.events_ofLoop (by simp [Event.ofClient])
    | _ => simp
  cases ran with
  | enter entered => exact ofEntered entered
  | wake entered defined => exact ofEntered entered
  | resume returned =>
      cases returned with
      | resume present after dispatched =>
          exact dispatched.events_ofLoop (by simp)
      | undefined cause => simp

/-- The history only grows, by events of client calls or of one loop section. -/
theorem Fires.trace_append
    {n : Nat} {state next : State n} {action : Action n}
    (fires : Fires state action next) :
    ∃ events, next.trace = state.trace ++ events ∧
      ((∀ event ∈ events, event.ofClient = true) ∨
        ∃ thread outcome,
          LoopSection state.queue action thread (state.loops thread) outcome ∧
            next = state.commit thread outcome ∧ events = outcome.events) := by
  cases fires with
  | client source move =>
      refine ⟨_, rfl, Or.inl ?_⟩
      cases move <;> simp [Event.ofClient]
  | @push action client woken msg source pc events pushed source call pushedBy =>
      refine ⟨[.accepted state.queue.msgSeq] ++ events, ?_, Or.inl ?_⟩
      · simp [State.log, pushedBy.trace, State.setClient]
      · cases call <;> simp [Event.ofClient]
  | loopSection source ran =>
      exact ⟨_, rfl, Or.inr ⟨_, _, source ▸ ran, rfl, rfl⟩⟩
  | _ => exact ⟨[], by simp [State.setClient, State.setLoop, State.notifyDone],
      Or.inl (by simp)⟩

/-- Sequence numbers returned by `send_msg`, oldest first. -/
def acceptedSeqs (trace : List Event) : List Int :=
  trace.filterMap fun
    | .accepted seq => some seq
    | _ => none

@[simp] theorem acceptedSeqs_append (first second : List Event) :
    acceptedSeqs (first ++ second) = acceptedSeqs first ++ acceptedSeqs second :=
  List.filterMap_append

theorem LoopSection.acceptedSeqs_events
    {n : Nat} {queue : Queue} {action : Action n} {thread : Fin n}
    {pc : LoopPc} {outcome : Outcome}
    (ran : LoopSection queue action thread pc outcome) :
    acceptedSeqs outcome.events = [] := by
  rw [acceptedSeqs, List.filterMap_eq_nil_iff]
  intro event present
  have ofLoop := ran.events_ofLoop event present
  cases event <;> simp_all [Event.ofClient]

/-- A step either pushes one message, which takes the counter's value and is
returned to the sender, or only trims the message list. -/
theorem Fires.trims_or_push
    {n : Nat} {state next : State n} {action : Action n}
    (fires : Fires state action next) :
    (Queue.Trims state.queue next.queue ∧
      acceptedSeqs next.trace = acceptedSeqs state.trace) ∨
    ((∃ msg, next.queue = state.queue.push msg) ∧
      acceptedSeqs next.trace =
        acceptedSeqs state.trace ++ [state.queue.msgSeq]) := by
  cases fires with
  | client source move =>
      refine Or.inl ⟨.refl _, ?_⟩
      cases move <;> simp [State.log, State.setClient, acceptedSeqs]
  | push source call pushed =>
      refine Or.inr ⟨⟨_, pushed.queue⟩, ?_⟩
      cases call <;>
        simp [State.log, pushed.trace, State.setClient, acceptedSeqs]
  | quitBegin idle => exact Or.inl ⟨.of_eq rfl rfl, rfl⟩
  | edit => exact Or.inl ⟨Edit.apply_trims _ _, rfl⟩
  | addHandler => exact Or.inl ⟨Queue.addHandler_trims _ _ _, rfl⟩
  | loopMove source move => exact Or.inl ⟨.refl _, rfl⟩
  | loopSection source ran =>
      refine Or.inl ⟨ran.frame.trims, ?_⟩
      rw [State.commit, acceptedSeqs_append, ran.acceptedSeqs_events,
        List.append_nil]
  | loopFinish finishing => exact Or.inl ⟨.of_eq rfl rfl, rfl⟩
  | loopNotify notifying => exact Or.inl ⟨.of_eq rfl rfl, rfl⟩

end MsgQueue
end Skplat
