import Skplat.MsgQueue.Registration

/-!
# The handler iteration

A dispatch walks `lst_handler` and leaves the mutex at every handler it calls.
Identifiers and nodes of the list are distinct, so the iterator kept across a
call is determined by the node it points to.  A single loop picks every message
at most once.
-/

namespace Skplat
namespace MsgQueue

/-- Registered handlers have distinct identifiers and distinct nodes. -/
structure Queue.HandlersDistinct (queue : Queue) : Prop where
  /-- `add_handler` drops a registered identifier. -/
  ids : (queue.lstHandler.map Handler.handlerId).Nodup
  /-- Nodes are allocated once. -/
  nodes : (queue.lstHandler.map Handler.node).Nodup
  /-- Every node has been allocated. -/
  allocated : ∀ handler ∈ queue.lstHandler, handler.node < queue.nextNode

namespace Queue.HandlersDistinct

variable {queue next : Queue}

/-- Taking handlers out keeps the others distinct. -/
theorem sublist
    (distinct : queue.HandlersDistinct)
    (fewer : next.lstHandler.Sublist queue.lstHandler)
    (sameNode : next.nextNode = queue.nextNode) :
    next.HandlersDistinct where
  ids := distinct.ids.sublist (fewer.map _)
  nodes := distinct.nodes.sublist (fewer.map _)
  allocated := fun handler present =>
    sameNode ▸ distinct.allocated handler (fewer.subset present)

theorem addHandler
    (distinct : queue.HandlersDistinct)
    (handlerId : Int) (broadcast : Bool) :
    (queue.addHandler handlerId broadcast).HandlersDistinct := by
  unfold Queue.addHandler
  split
  · exact distinct
  · rename_i unregistered
    simp only [List.any_eq_true, beq_iff_eq, not_exists, not_and]
      at unregistered
    refine ⟨?_, ?_, ?_⟩
    · rw [List.map_append, List.nodup_append]
      refine ⟨distinct.ids, by simp, ?_⟩
      rintro other present last lastEq rfl
      obtain ⟨handler, handlerPresent, rfl⟩ := List.mem_map.mp present
      exact unregistered handler handlerPresent
        (List.mem_singleton.mp lastEq).symm
    · rw [List.map_append, List.nodup_append]
      refine ⟨distinct.nodes, by simp, ?_⟩
      rintro other present last lastEq rfl
      obtain ⟨handler, handlerPresent, rfl⟩ := List.mem_map.mp present
      have below := distinct.allocated handler handlerPresent
      have same : handler.node = queue.nextNode :=
        List.mem_singleton.mp lastEq
      omega
    · intro handler present
      rcases List.mem_append.mp present with earlier | last
      · exact (distinct.allocated handler earlier).trans (Nat.lt_succ_self _)
      · rw [List.mem_singleton.mp last]
        exact Nat.lt_succ_self _

theorem step
    {n : Nat} {state next : State n} {action : Action n}
    (distinct : state.queue.HandlersDistinct)
    (fires : Fires state action next) :
    next.queue.HandlersDistinct := by
  cases fires with
  | push source call pushed =>
      simp only [State.log, pushed.queue]
      exact distinct.sublist (.refl _) rfl
  | @edit edit =>
      refine distinct.sublist ?_ (edit.apply_nextNode _)
      rw [edit.apply_lstHandler]
      exact List.filter_sublist
  | addHandler => exact distinct.addHandler _ _
  | loopSection source ran =>
      exact distinct.sublist (by simp [State.commit, ran.frame.lstHandler])
        ran.frame.nextNode
  | _ => exact distinct.sublist (.refl _) rfl

end Queue.HandlersDistinct

theorem handlersDistinct_of_reachable
    {n : Nat} {guard : State n → Action n → Prop} {state : State n}
    (reached : (system n).ReachableUnder guard state) :
    state.queue.HandlersDistinct := by
  have atStart : ∀ start : State n, (system n).initial start →
      start.queue.HandlersDistinct := by
    rintro _ rfl
    exact ⟨by simp [State.new, Queue.new], by simp [State.new, Queue.new],
      by simp [State.new, Queue.new]⟩
  refine reached.invariant atStart ?_
  intro state action next _ distinct _ stepped
  exact distinct.step (State.step_fires stepped)

/-- The iterator finds the handlers behind its node. -/
theorem handlersAfter_append
    {before after : List Handler} {current : Handler}
    (nodes : ((before ++ current :: after).map Handler.node).Nodup) :
    handlersAfter current.node (before ++ current :: after) = some after := by
  induction before with
  | nil => simp [handlersAfter]
  | cons head rest inductionHypothesis =>
      rw [List.cons_append, List.map_cons, List.nodup_cons] at nodes
      have different : head.node ≠ current.node := by
        intro same
        exact nodes.1 (by simp [same])
      rw [List.cons_append, handlersAfter, if_neg different]
      exact inductionHypothesis nodes.2

/-! ## Picks -/

/-- No message is picked twice. -/
structure PickedOnce (state : State 1) : Prop where
  /-- Picks are distinct. -/
  nodup : (pickedSeqs state.trace).Nodup
  /-- The counter is ahead of every pick. -/
  below : ∀ seq ∈ pickedSeqs state.trace, seq < state.queue.msgSeq
  /-- Only the message in hand is both picked and still queued. -/
  current : ∀ seq ∈ pickedSeqs state.trace, seq ∈ state.queue.seqs →
    (state.loops 0).Holds seq

namespace PickedOnce

variable {state next : State 1}

/-- Steps that pick nothing and release nothing that is still queued. -/
theorem of_frame
    (picked : PickedOnce state)
    (samePicks : pickedSeqs next.trace = pickedSeqs state.trace)
    (counter : state.queue.msgSeq ≤ next.queue.msgSeq)
    (current : ∀ seq < state.queue.msgSeq, seq ∈ next.queue.seqs →
      seq ∈ state.queue.seqs ∧
        ((state.loops 0).Holds seq → (next.loops 0).Holds seq)) :
    PickedOnce next where
  nodup := samePicks ▸ picked.nodup
  below := fun seq present =>
    (picked.below seq (samePicks ▸ present)).trans_le counter
  current := by
    rw [samePicks]
    intro seq present queued
    have earlier := current seq (picked.below seq present) queued
    exact earlier.2 (picked.current seq present earlier.1)

/-- The section that picks a message. -/
theorem pick
    (picked : PickedOnce state)
    (ordered : Ordered state)
    {queue : Queue} {loop : LoopKind} {msg : QueuedMsg} {outcome : Outcome}
    (free : ∀ seq, ¬ (state.loops 0).Holds seq)
    (sameMsgs : queue.lstMsg = state.queue.lstMsg)
    (sameSeq : queue.msgSeq = state.queue.msgSeq)
    (selected : Selects queue loop msg)
    (dispatched : Dispatched queue loop msg queue.lstHandler
      [.picked msg.msgSeq] outcome) :
    PickedOnce (state.commit 0 outcome) := by
  have sameSeqs : queue.seqs = state.queue.seqs := by
    rw [Queue.seqs, sameMsgs, Queue.seqs]
  have increasing : queue.seqs.Pairwise (· < ·) :=
    sameSeqs ▸ ordered.increasing
  have present : msg.msgSeq ∈ queue.seqs :=
    Queue.mem_seqs.mpr ⟨msg, selected.present, rfl⟩
  have unpicked : ∀ seq ∈ queue.seqs, seq ∉ pickedSeqs state.trace := by
    intro seq queued before
    exact free seq (picked.current seq before (sameSeqs ▸ queued))
  have picks : pickedSeqs (state.commit 0 outcome).trace =
      pickedSeqs state.trace ++ [msg.msgSeq] := by
    rw [State.commit, pickedSeqs_append, dispatched.pickedSeqs_events]
    rfl
  have counter : outcome.queue.msgSeq = state.queue.msgSeq :=
    dispatched.frame.trims.msgSeq.trans sameSeq
  refine ⟨?_, ?_, ?_⟩
  · rw [picks, List.nodup_append]
    refine ⟨picked.nodup, by simp, ?_⟩
    rintro seq before last lastEq rfl
    rw [List.mem_singleton.mp lastEq] at before
    exact unpicked msg.msgSeq present before
  · rw [picks]
    intro seq before
    simp only [State.commit, counter]
    rcases List.mem_append.mp before with earlier | last
    · exact picked.below seq earlier
    · rw [List.mem_singleton.mp last]
      exact ordered.below msg.msgSeq (sameSeqs ▸ present)
  · rw [picks]
    intro seq before remaining
    simp only [State.commit] at remaining
    have queued := dispatched.frame.trims.seqs.subset remaining
    rcases List.mem_append.mp before with earlier | last
    · exact absurd earlier (unpicked seq queued)
    · obtain rfl := List.mem_singleton.mp last
      simp only [State.commit, Function.update_self]
      cases dispatched with
      | handle running chosen => rfl
      | finish nobody =>
          exact absurd remaining (Queue.not_mem_removePicked increasing present
            (selected.least increasing))

theorem entered
    (picked : PickedOnce state)
    (ordered : Ordered state)
    {queue : Queue} {loop : LoopKind} {waitTime : Int} {outcome : Outcome}
    (free : ∀ seq, ¬ (state.loops 0).Holds seq)
    (entered : Entered queue loop waitTime outcome)
    (sameMsgs : queue.lstMsg = state.queue.lstMsg)
    (sameSeq : queue.msgSeq = state.queue.msgSeq) :
    PickedOnce (state.commit 0 outcome) := by
  have quiet : outcome.events = [] → outcome.queue = queue →
      PickedOnce (state.commit 0 outcome) := by
    intro noEvents sameQueue
    refine picked.of_frame (by simp [State.commit, noEvents])
      (by simp [State.commit, sameQueue, sameSeq]) ?_
    intro seq _ queued
    refine ⟨?_, fun held => absurd held (free seq)⟩
    simpa [State.commit, sameQueue, Queue.seqs, sameMsgs] using queued
  cases entered with
  | pick selected dispatched =>
      exact picked.pick ordered free sameMsgs sameSeq selected dispatched
  | _ => exact quiet rfl rfl

theorem resumed
    (picked : PickedOnce state)
    (ordered : Ordered state)
    (inHand : InHand state)
    {loop : LoopKind} {msg : QueuedMsg} {node : Nat} {outcome : Outcome}
    (sourceEq : state.loops 0 = .handling loop msg node)
    (returned : Returned state.queue loop msg node outcome) :
    PickedOnce (state.commit 0 outcome) := by
  have held := inHand 0 loop msg node sourceEq
  have samePicks : pickedSeqs (state.commit 0 outcome).trace =
      pickedSeqs state.trace := by
    rw [State.commit, pickedSeqs_append]
    cases returned with
    | undefined cause => simp [pickedSeqs]
    | resume queued after dispatched =>
        rw [dispatched.pickedSeqs_events]
        simp [pickedSeqs]
  refine picked.of_frame samePicks
    (by simp [State.commit, returned.frame.trims.msgSeq]) ?_
  intro seq _ remaining
  simp only [State.commit, Function.update_self] at remaining ⊢
  refine ⟨returned.frame.trims.seqs.subset remaining, ?_⟩
  rw [sourceEq]
  rintro rfl
  cases returned with
  | undefined cause => trivial
  | resume queued after dispatched =>
      cases dispatched with
      | handle running chosen => rfl
      | finish nobody =>
          exact absurd remaining
            (held.not_mem_removePicked ordered.increasing queued)

theorem step
    (picked : PickedOnce state)
    (ordered : Ordered state)
    (inHand : InHand state)
    {action : Action 1}
    (fires : Fires state action next) :
    PickedOnce next := by
  cases fires with
  | client source move =>
      refine picked.of_frame ?_ le_rfl fun _ _ queued => ⟨queued, id⟩
      cases move <;> simp [State.log, State.setClient, pickedSeqs]
  | @push action client woken msg source pc events pushed source call pushedBy =>
      refine picked.of_frame ?_ ?_ ?_
      · cases call <;>
          simp [State.log, pushedBy.trace, State.setClient, pickedSeqs]
      · simp only [State.log, pushedBy.queue, State.setClient, Queue.push]
        omega
      · intro seq below queued
        simp only [State.log, pushedBy.queue, State.setClient,
          Queue.push_seqs] at queued
        rcases List.mem_append.mp queued with earlier | last
        · refine ⟨earlier, fun holds => ?_⟩
          simpa [State.log, pushedBy.loops_single, State.setClient] using holds
        · rw [List.mem_singleton.mp last] at below
          exact absurd below (lt_irrefl _)
  | quitBegin idle =>
      exact picked.of_frame rfl le_rfl fun _ _ queued => ⟨queued, id⟩
  | @edit edit =>
      exact picked.of_frame rfl (edit.apply_msgSeq _).ge fun _ _ queued =>
        ⟨(edit.apply_trims _).seqs.subset queued, id⟩
  | @addHandler handlerId broadcast =>
      have trims := state.queue.addHandler_trims handlerId broadcast
      exact picked.of_frame rfl trims.msgSeq.ge fun _ _ queued =>
        ⟨trims.seqs.subset queued, id⟩
  | @loopMove action thread source pc sourceEq move =>
      obtain rfl : thread = 0 := Subsingleton.elim _ _
      refine picked.of_frame rfl le_rfl fun seq _ queued => ⟨queued, ?_⟩
      rw [sourceEq]
      cases move <;> exact fun holds => holds.elim
  | @loopSection action thread source outcome sourceEq ran =>
      obtain rfl : thread = 0 := Subsingleton.elim _ _
      cases ran with
      | enter entered =>
          exact picked.entered ordered (by simp [sourceEq, LoopPc.Holds])
            entered rfl rfl
      | wake entered defined =>
          exact picked.entered ordered (by simp [sourceEq, LoopPc.Holds])
            entered rfl rfl
      | resume returned => exact picked.resumed ordered inHand sourceEq returned
  | @loopFinish thread finishing =>
      obtain rfl : thread = 0 := Subsingleton.elim _ _
      exact picked.of_frame rfl le_rfl fun _ _ queued =>
        ⟨queued, by simp [finishing, LoopPc.Holds]⟩
  | @loopNotify thread notifying =>
      obtain rfl : thread = 0 := Subsingleton.elim _ _
      exact picked.of_frame rfl le_rfl fun _ _ queued =>
        ⟨queued, by simp [notifying, LoopPc.Holds]⟩

end PickedOnce

/-- A single loop picks every message at most once. -/
theorem pickedOnce_of_reachable
    {guard : State 1 → Action 1 → Prop} {state : State 1}
    (reached : (system 1).ReachableUnder guard state) :
    PickedOnce state := by
  refine reached.invariant ?_ ?_
  · rintro _ rfl
    exact ⟨by simp [State.new, pickedSeqs], by simp [State.new, pickedSeqs],
      by simp [State.new, pickedSeqs]⟩
  · intro state action next earlier picked _ stepped
    exact picked.step (ordered_of_reachable earlier)
      (inHand_of_reachable earlier) (State.step_fires stepped)

end MsgQueue
end Skplat
