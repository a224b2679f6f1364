import Skplat.MsgQueue.Dispatch

/-!
# Handing a message over

While a handler runs, the loop keeps the message and an iterator into
`lst_handler`.  This module follows the two through the steps of other threads
and through the rest of the dispatch: the message's own handler lies ahead of
the iterator exactly as long as the message has not been handed to it.
-/

namespace Skplat
namespace MsgQueue

/-- Messages in the order in which they were handed to their own handlers. -/
def handedSeqs (trace : List Event) : List Int :=
  trace.filterMap fun
    | .handled seq msgHandler handler =>
        if msgHandler = handler then some seq else none
    | _ => none

@[simp] theorem handedSeqs_append (first second : List Event) :
    handedSeqs (first ++ second) = handedSeqs first ++ handedSeqs second :=
  List.filterMap_append

/-- The state of a dispatch whose handler is running. -/
structure HandOver
    (queue : Queue) (trace : List Event)
    (loop : LoopKind) (msg : QueuedMsg) (node : Nat) : Prop where
  /-- The message has been picked. -/
  picked : msg.msgSeq ∈ pickedSeqs trace
  /-- It is queued. -/
  queued : (msg.msgSeq, msg.toMsg) ∈ queue.keys
  /-- The timer loop has marked it. -/
  marked : loop = .enterTimerLoop → ∀ other ∈ queue.lstMsg,
    other.msgSeq = msg.msgSeq → other.isHandling = true
  /-- The iterator is valid, and its own handler lies ahead exactly as long as
  the message has not been handed to it. -/
  position : ∃ before current after,
    queue.lstHandler = before ++ current :: after ∧ current.node = node ∧
      ((∃ handler ∈ after, handler.handlerId = msg.handlerId) ↔
        msg.msgSeq ∉ handedSeqs trace)

theorem Queue.mem_seqs_of_mem_keys
    {queue : Queue} {seq : Int} {msg : Msg}
    (present : (seq, msg) ∈ queue.keys) :
    seq ∈ queue.seqs := by
  rw [seqs_eq_map_keys]
  exact List.mem_map_of_mem present

theorem Edit.matches_congr
    {edit : Edit} {msg other : QueuedMsg}
    (sameSeq : msg.msgSeq = other.msgSeq)
    (sameMsg : msg.toMsg = other.toMsg) :
    edit.Matches msg ↔ edit.Matches other := by
  cases edit <;> simp [Matches, sameSeq, sameMsg]

namespace HandOver

variable {queue next : Queue} {trace events : List Event}
variable {loop : LoopKind} {msg : QueuedMsg} {node : Nat}

/-- Steps that leave the handlers alone and hand nothing over. -/
theorem of_frame
    (handOver : HandOver queue trace loop msg node)
    (kept : (msg.msgSeq, msg.toMsg) ∈ next.keys)
    (marks : ∀ other ∈ next.lstMsg, other.msgSeq = msg.msgSeq →
      other ∈ queue.lstMsg)
    (sameHandlers : next.lstHandler = queue.lstHandler)
    (quiet : handedSeqs events = []) :
    HandOver next (trace ++ events) loop msg node where
  picked := by
    rw [pickedSeqs_append]
    exact List.mem_append_left _ handOver.picked
  queued := kept
  marked := fun timer other present same =>
    handOver.marked timer other (marks other present same) same
  position := by
    rw [sameHandlers, handedSeqs_append, quiet, List.append_nil]
    exact handOver.position

theorem push
    (handOver : HandOver queue trace loop msg node)
    (below : msg.msgSeq < queue.msgSeq)
    (pushed : Msg)
    (quiet : handedSeqs events = []) :
    HandOver (queue.push pushed) (trace ++ events) loop msg node := by
  refine handOver.of_frame ?_ ?_ rfl quiet
  · simp only [Queue.keys, Queue.push, List.map_append]
    exact List.mem_append_left _ handOver.queued
  · intro other present same
    rcases List.mem_append.mp present with earlier | last
    · exact earlier
    · rw [List.mem_singleton.mp last] at same
      exact absurd same.symm (ne_of_lt below)

/-- An edit that spares the message in hand keeps it queued. -/
theorem mem_keys_edit
    (handOver : HandOver queue trace loop msg node)
    {edit : Edit}
    (spared : edit.Matches msg → loop = .enterTimerLoop ∧ edit.SparesHandling) :
    (msg.msgSeq, msg.toMsg) ∈ (edit.apply queue).keys := by
  obtain ⟨other, present, same⟩ := List.mem_map.mp handOver.queued
  simp only [Prod.mk.injEq] at same
  by_cases kept : other ∈ (edit.apply queue).lstMsg
  · exact List.mem_map.mpr ⟨other, kept, by simp [same.1, same.2]⟩
  · obtain ⟨matched, free⟩ := Edit.matches_of_erased present kept
    obtain ⟨timer, spares⟩ :=
      spared ((Edit.matches_congr same.1 same.2).mp matched)
    have marked := handOver.marked timer other present same.1
    rw [free spares] at marked
    cases marked

theorem edit
    (handOver : HandOver queue trace loop msg node)
    {edit : Edit}
    (spared : edit.Matches msg → loop = .enterTimerLoop ∧ edit.SparesHandling)
    (keepsNode : ∀ handler ∈ queue.lstHandler, handler.node = node →
      ¬ edit.Unregisters handler.handlerId) :
    HandOver (edit.apply queue) trace loop msg node := by
  have kept := handOver.mem_keys_edit spared
  refine ⟨handOver.picked, kept, ?_, ?_⟩
  · intro timer other present same
    exact handOver.marked timer other
      ((edit.apply_lstMsg_sublist queue).subset present) same
  · obtain ⟨before, current, after, list, atNode, ahead⟩ := handOver.position
    have keepsCurrent : ¬ edit.Unregisters current.handlerId :=
      keepsNode current (by simp [list]) atNode
    have keepsOwn : ¬ edit.Unregisters msg.handlerId := by
      obtain ⟨other, present, same⟩ := List.mem_map.mp kept
      simp only [Prod.mk.injEq] at same
      rw [← same.2]
      exact Edit.not_unregisters_of_mem present
    let keeps : Handler → Bool :=
      fun handler => decide (¬ edit.Unregisters handler.handlerId)
    refine ⟨before.filter keeps, current, after.filter keeps, ?_, atNode, ?_⟩
    · rw [edit.apply_lstHandler, list, List.filter_append,
        List.filter_cons_of_pos (by simpa [keeps] using keepsCurrent)]
    · rw [← ahead]
      constructor
      · rintro ⟨handler, present, own⟩
        exact ⟨handler, List.mem_of_mem_filter present, own⟩
      · rintro ⟨handler, present, own⟩
        refine ⟨handler, List.mem_filter.mpr ⟨present, ?_⟩, own⟩
        simpa [keeps, own] using keepsOwn

theorem addHandler
    (handOver : HandOver queue trace loop msg node)
    (registered : queue.Registered)
    (handlerId : Int) (broadcast : Bool) :
    HandOver (queue.addHandler handlerId broadcast) trace loop msg node := by
  unfold Queue.addHandler
  split
  · exact handOver
  · rename_i unregistered
    refine ⟨handOver.picked, handOver.queued, handOver.marked, ?_⟩
    obtain ⟨before, current, after, list, atNode, ahead⟩ := handOver.position
    refine ⟨before, current, after ++ [⟨handlerId, broadcast, queue.nextNode⟩],
      by simp [list], atNode, ?_⟩
    have different : handlerId ≠ msg.handlerId := by
      rintro rfl
      obtain ⟨other, present, same⟩ := List.mem_map.mp handOver.queued
      simp only [Prod.mk.injEq] at same
      have found := registered other present
      rw [same.2] at found
      exact unregistered found
    rw [← ahead]
    simp [or_and_right, exists_or, different]

/-- The iterator kept across the handler call is valid. -/
theorem handlersAfter_eq
    (handOver : HandOver queue trace loop msg node)
    (distinct : queue.HandlersDistinct) :
    ∃ before after, queue.lstHandler = before ++ after ∧
      handlersAfter node queue.lstHandler = some after ∧
      ((∃ handler ∈ after, handler.handlerId = msg.handlerId) ↔
        msg.msgSeq ∉ handedSeqs trace) := by
  obtain ⟨before, current, after, list, rfl, ahead⟩ := handOver.position
  refine ⟨before ++ [current], after, by simp [list], ?_, ahead⟩
  have nodes := distinct.nodes
  rw [list] at nodes ⊢
  exact handlersAfter_append nodes

end HandOver

theorem Queue.markHandling_marked
    (queue : Queue) {loop : LoopKind} (timer : loop = .enterTimerLoop)
    (seq : Int) :
    ∀ other ∈ (queue.markHandling loop seq true).lstMsg,
      other.msgSeq = seq → other.isHandling = true := by
  subst timer
  intro other present same
  obtain ⟨earlier, _, rfl⟩ := List.mem_map.mp present
  split at same <;> simp_all

/-- What one dispatch hands over, given that the handlers still to visit contain
the message's own handler exactly when it has not been handed over before. -/
structure Hands (trace : List Event) (seq : Int) (outcome : Outcome) :
    Prop where
  /-- The dispatch leaves the message in hand with a valid iterator. -/
  handOver : ∀ loop inHand node, outcome.pc = .handling loop inHand node →
    HandOver outcome.queue (trace ++ outcome.events) loop inHand node
  /-- The behaviour stays defined and no emptiness test is pending. -/
  continues : outcome.pc ≠ .undefined ∧
    ∀ loop waitTime, outcome.pc ≠ .enter loop waitTime
  /-- Nothing is handed over a second time, and only this message is. -/
  handed : handedSeqs outcome.events = [] ∨
    handedSeqs outcome.events = [seq] ∧ seq ∉ handedSeqs trace ∧
      seq ∈ pickedSeqs (trace ++ outcome.events)
  /-- A removal is of this message, after a hand-over or an exit request. -/
  removed : ∀ gone taken exit, Event.removed gone taken exit ∈ outcome.events →
    gone = seq ∧ (exit = true ∨ seq ∈ handedSeqs trace)

/-- The handlers skipped in front of the chosen one do not include the message's
own. -/
theorem own_ahead_of_find
    {msg : Msg} {rest : List Handler} {handler : Handler}
    (chosen : rest.find? (fun handler => handler.accepts msg) = some handler) :
    ∃ skipped after, rest = skipped ++ handler :: after ∧
      ((∃ other ∈ rest, other.handlerId = msg.handlerId) ↔
        handler.handlerId = msg.handlerId ∨
          ∃ other ∈ after, other.handlerId = msg.handlerId) := by
  obtain ⟨accepts, skipped, after, restEq, refused⟩ :=
    List.find?_eq_some_iff_append.mp chosen
  have skippedOther : ∀ other ∈ skipped, other.handlerId ≠ msg.handlerId := by
    intro other present same
    have refuses := refused other present
    simp [Handler.accepts, same] at refuses
  refine ⟨skipped, after, restEq, ?_⟩
  rw [restEq]
  constructor
  · rintro ⟨other, present, own⟩
    rcases List.mem_append.mp present with inSkipped | inTail
    · exact absurd own (skippedOther other inSkipped)
    · rcases List.mem_cons.mp inTail with rfl | inAfter
      · exact Or.inl own
      · exact Or.inr ⟨other, inAfter, own⟩
  · rintro (own | ⟨other, present, own⟩)
    · exact ⟨handler, by simp, own⟩
    · exact ⟨other, by simp [present], own⟩

theorem Dispatched.hands
    {queue : Queue} {loop : LoopKind} {msg : QueuedMsg}
    {before rest : List Handler} {lead trace : List Event} {outcome : Outcome}
    (dispatched : Dispatched queue loop msg rest lead outcome)
    (list : queue.lstHandler = before ++ rest)
    (distinct : queue.HandlersDistinct)
    (picked : msg.msgSeq ∈ pickedSeqs (trace ++ lead))
    (queued : (msg.msgSeq, msg.toMsg) ∈ queue.keys)
    (ahead : (∃ handler ∈ rest, handler.handlerId = msg.handlerId) ↔
      msg.msgSeq ∉ handedSeqs trace)
    (noHands : handedSeqs lead = [])
    (noRemovals : ∀ seq taken exit, Event.removed seq taken exit ∉ lead) :
    Hands trace msg.msgSeq outcome := by
  cases dispatched with
  | @handle handler running chosen =>
      obtain ⟨skipped, after, restEq, aheadAfter⟩ := own_ahead_of_find chosen
      have handedNow : handedSeqs (lead ++
          [.handled msg.msgSeq msg.handlerId handler.handlerId]) =
          if msg.handlerId = handler.handlerId then [msg.msgSeq] else [] := by
        rw [handedSeqs_append, noHands]
        by_cases own : msg.handlerId = handler.handlerId <;>
          simp [handedSeqs, own]
      have pickedNow : msg.msgSeq ∈ pickedSeqs (trace ++ (lead ++
          [.handled msg.msgSeq msg.handlerId handler.handlerId])) := by
        rw [← List.append_assoc, pickedSeqs_append]
        exact List.mem_append_left _ picked
      refine ⟨?_, by simp, ?_, ?_⟩
      · rintro _ _ _ ⟨⟩
        refine ⟨pickedNow, by rwa [Queue.markHandling_keys],
          fun timer => queue.markHandling_marked timer msg.msgSeq, ?_⟩
        refine ⟨before ++ skipped, handler, after, ?_, rfl, ?_⟩
        · simp [list, restEq]
        · rw [handedSeqs_append, handedNow]
          by_cases own : handler.handlerId = msg.handlerId
          · have alone : ¬ ∃ other ∈ after,
                other.handlerId = msg.handlerId := by
              rintro ⟨other, present, same⟩
              have ids := distinct.ids
              rw [list, restEq, ← List.append_assoc, List.map_append,
                List.nodup_append, List.map_cons, List.nodup_cons] at ids
              exact ids.2.1.1 (List.mem_map.mpr
                ⟨other, present, same.trans own.symm⟩)
            simp [own, alone]
          · rw [if_neg (Ne.symm own), List.append_nil, ← ahead, aheadAfter]
            simp [own]
      · rw [handedNow]
        by_cases own : msg.handlerId = handler.handlerId
        · exact Or.inr ⟨by simp [own],
            ahead.mp (aheadAfter.mpr (Or.inl own.symm)), pickedNow⟩
        · exact Or.inl (by simp [own])
      · intro gone taken exit removed
        rcases List.mem_append.mp removed with inLead | last
        · exact absurd inLead (noRemovals gone taken exit)
        · simp at last
  | finish nobody =>
      refine ⟨by simp, by simp, ?_, ?_⟩
      · rw [handedSeqs_append, noHands]
        exact Or.inl (by simp [handedSeqs])
      · intro gone taken exit removed
        rcases List.mem_append.mp removed with inLead | last
        · exact absurd inLead (noRemovals gone taken exit)
        · simp only [List.mem_singleton, Event.removed.injEq] at last
          refine ⟨last.1, ?_⟩
          cases stopping : queue.exit with
          | true => exact Or.inl (last.2.2.trans stopping)
          | false =>
              refine Or.inr (by_contra fun unhanded => ?_)
              obtain ⟨handler, present, own⟩ := ahead.mpr unhanded
              have refuses := nobody stopping handler present
              simp [Handler.accepts, own] at refuses

end MsgQueue
end Skplat
