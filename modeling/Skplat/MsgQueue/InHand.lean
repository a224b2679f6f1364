import Skplat.MsgQueue.Order

/-!
# The message in a loop's hands

While a handler runs, its loop keeps a message it has picked.  These facts
about that message need no assumption on the other threads: it carries an
issued sequence number, some handler has been called with it, and for the two
front loops nothing queued comes before it.
-/

namespace Skplat
namespace MsgQueue

/-- Some handler was called with the message. -/
def Seen (trace : List Event) (seq : Int) : Prop :=
  ∃ msgHandler handler, Event.handled seq msgHandler handler ∈ trace

theorem Seen.append
    {trace : List Event} {seq : Int}
    (seen : Seen trace seq) (events : List Event) :
    Seen (trace ++ events) seq := by
  obtain ⟨msgHandler, handler, present⟩ := seen
  exact ⟨msgHandler, handler, List.mem_append_left events present⟩

/-- What is known of a message whose handler is running. -/
structure Held
    (queue : Queue) (trace : List Event)
    (loop : LoopKind) (msg : QueuedMsg) : Prop where
  /-- Its sequence number has been issued. -/
  below : msg.msgSeq < queue.msgSeq
  /-- A front loop picked the least message. -/
  front : loop ≠ .enterTimerLoop → ∀ other ∈ queue.seqs, msg.msgSeq ≤ other
  /-- A handler has been called with it. -/
  seen : Seen trace msg.msgSeq

namespace Held

variable {queue next : Queue} {trace : List Event}
variable {loop : LoopKind} {msg : QueuedMsg}

theorem trims
    (held : Held queue trace loop msg)
    (trims : Queue.Trims queue next) (events : List Event) :
    Held next (trace ++ events) loop msg where
  below := trims.msgSeq ▸ held.below
  front := fun notTimer other present =>
    held.front notTimer other (trims.seqs.subset present)
  seen := held.seen.append events

theorem push
    (held : Held queue trace loop msg)
    (pushed : Msg) (events : List Event) :
    Held (queue.push pushed) (trace ++ events) loop msg where
  below := by
    have := held.below
    simp only [Queue.push]
    omega
  front := by
    intro notTimer other present
    rw [Queue.push_seqs] at present
    rcases List.mem_append.mp present with earlier | last
    · exact held.front notTimer other earlier
    · rw [List.mem_singleton.mp last]
      exact held.below.le
  seen := held.seen.append events

end Held

/-- Every message in the hands of a loop satisfies `Held`. -/
def InHand {n : Nat} (state : State n) : Prop :=
  ∀ thread loop msg node, state.loops thread = .handling loop msg node →
    Held state.queue state.trace loop msg

theorem Dispatched.held
    {queue : Queue} {loop handlingLoop : LoopKind} {msg inHand : QueuedMsg}
    {rest : List Handler} {lead trace : List Event} {outcome : Outcome}
    {node : Nat}
    (dispatched : Dispatched queue loop msg rest lead outcome)
    (below : msg.msgSeq < queue.msgSeq)
    (front : loop ≠ .enterTimerLoop → ∀ other ∈ queue.seqs, msg.msgSeq ≤ other)
    (handling : outcome.pc = .handling handlingLoop inHand node) :
    Held outcome.queue (trace ++ outcome.events) handlingLoop inHand := by
  cases dispatched with
  | handle running chosen =>
      cases handling
      refine ⟨by simpa using below, by simpa using front, ?_⟩
      exact ⟨_, _, List.mem_append_right _ (List.mem_append_right _
        (List.mem_singleton.mpr rfl))⟩
  | finish nobody => cases handling

/-- Whatever a front loop selects is the least queued message. -/
theorem Selects.least
    {queue : Queue} {loop : LoopKind} {msg : QueuedMsg}
    (selected : Selects queue loop msg)
    (increasing : queue.seqs.Pairwise (· < ·))
    (notTimer : loop ≠ .enterTimerLoop) :
    ∀ other ∈ queue.seqs, msg.msgSeq ≤ other := by
  have front := selected.front fun timer => absurd timer notTimer
  obtain ⟨rest, list⟩ := List.head?_eq_some_iff.mp front
  rw [Queue.seqs, list, List.map_cons] at increasing ⊢
  intro other present
  rcases List.mem_cons.mp present with equal | inRest
  · exact equal.ge
  · exact ((List.pairwise_cons.mp increasing).1 other inRest).le

theorem Entered.held
    {queue : Queue} {loop handlingLoop : LoopKind} {waitTime : Int}
    {outcome : Outcome} {inHand : QueuedMsg} {node : Nat} {trace : List Event}
    (entered : Entered queue loop waitTime outcome)
    (increasing : queue.seqs.Pairwise (· < ·))
    (below : ∀ seq ∈ queue.seqs, seq < queue.msgSeq)
    (handling : outcome.pc = .handling handlingLoop inHand node) :
    Held outcome.queue (trace ++ outcome.events) handlingLoop inHand := by
  cases entered with
  | sleep cause => cases handling
  | rest timer nonempty delayed => cases handling
  | undefined task empty => cases handling
  | @pick msg outcome selected dispatched =>
      have present : msg.msgSeq ∈ queue.seqs :=
        Queue.mem_seqs.mpr ⟨msg, selected.present, rfl⟩
      exact dispatched.held (below msg.msgSeq present)
        (selected.least increasing) handling

theorem LoopSection.held
    {n : Nat} {state : State n} {action : Action n} {thread : Fin n}
    {source : LoopPc} {outcome : Outcome}
    {loop : LoopKind} {msg : QueuedMsg} {node : Nat}
    (inHand : InHand state)
    (ordered : Ordered state)
    (sourceEq : state.loops thread = source)
    (ran : LoopSection state.queue action thread source outcome)
    (handling : outcome.pc = .handling loop msg node) :
    Held outcome.queue (state.trace ++ outcome.events) loop msg := by
  cases ran with
  | enter entered => exact entered.held ordered.increasing ordered.below handling
  | wake entered defined => exact entered.held ordered.increasing ordered.below handling
  | @resume thread oldLoop oldMsg oldNode outcome returned =>
      have held := inHand thread oldLoop oldMsg oldNode sourceEq
      cases returned with
      | undefined cause => cases handling
      | resume present after dispatched =>
          exact dispatched.held (by simpa using held.below)
            (by simpa using held.front) handling

theorem InHand.step
    {n : Nat} {state next : State n} {action : Action n}
    (inHand : InHand state)
    (ordered : Ordered state)
    (fires : Fires state action next) :
    InHand next := by
  have setLoop : ∀ (thread : Fin n) (pc : LoopPc) (queue : Queue),
      Queue.Trims state.queue queue →
      (∀ loop msg node, pc ≠ .handling loop msg node) →
      ∀ other loop msg node,
        Function.update state.loops thread pc other = .handling loop msg node →
        Held queue state.trace loop msg := by
    intro thread pc queue trims quiet other loop msg node handling
    rcases update_cases handling with ⟨_, isPc⟩ | ⟨_, old⟩
    · exact absurd isPc (quiet loop msg node)
    · simpa using (inHand other loop msg node old).trims trims []
  intro other loop msg node handling
  cases fires with
  | client source move =>
      exact (inHand other loop msg node handling).trims (.refl _) _
  | @push action client woken pushedMsg source pc events pushed source call
      pushedBy =>
      have handlingBefore : state.loops other = .handling loop msg node := by
        rcases pushedBy.loops other with same | notified
        · exact same.symm.trans handling
        · have notifiedPc := notified.symm.trans handling
          simpa [State.setClient] using notifiedPc
      have held := (inHand other loop msg node handlingBefore).push pushedMsg
        ([.accepted state.queue.msgSeq] ++ events)
      rw [← List.append_assoc] at held
      simpa [State.log, pushedBy.queue, pushedBy.trace, State.setClient]
        using held
  | quitBegin idle =>
      have held := (inHand other loop msg node handling).trims
        (.of_eq rfl rfl :
          Queue.Trims state.queue { state.queue with exit := true }) []
      simpa [State.setClient] using held
  | @edit edit =>
      have held := (inHand other loop msg node handling).trims
        (edit.apply_trims state.queue) []
      simpa using held
  | @addHandler handlerId broadcast =>
      have held := (inHand other loop msg node handling).trims
        (state.queue.addHandler_trims handlerId broadcast) []
      simpa using held
  | @loopMove action thread source pc source move =>
      refine setLoop thread pc state.queue (.refl _) ?_ other loop msg node
        handling
      cases move <;> simp
  | @loopSection action thread source outcome sourceEq ran =>
      rcases update_cases handling with ⟨rfl, isPc⟩ | ⟨_, old⟩
      · exact ran.held inHand ordered sourceEq isPc
      · exact (inHand other loop msg node old).trims ran.frame.trims _
  | @loopFinish thread finishing =>
      exact setLoop thread .notifying { state.queue with exitDone := true }
        (.of_eq rfl rfl) (by simp) other loop msg node handling
  | @loopNotify thread notifying =>
      exact setLoop thread .idle state.queue (.refl _) (by simp) other loop msg
        node handling

/-- The facts hold in every reachable state. -/
theorem inHand_of_reachable
    {n : Nat} {guard : State n → Action n → Prop} {state : State n}
    (reached : (system n).ReachableUnder guard state) :
    InHand state := by
  refine reached.invariant ?_ ?_
  · rintro _ rfl thread loop msg node handling
    cases handling
  · intro state action next earlier inHand _ stepped
    exact inHand.step (ordered_of_reachable earlier) (State.step_fires stepped)

/-- The sequence numbers a removal takes out are exactly the picked one. -/
theorem Queue.taken_eq
    {queue : Queue} {loop : LoopKind} {seq : Int}
    (increasing : queue.seqs.Pairwise (· < ·))
    (present : seq ∈ queue.seqs)
    (front : loop ≠ .enterTimerLoop → ∀ other ∈ queue.seqs, seq ≤ other) :
    (queue.seqs.filter fun other =>
      !(queue.removePicked loop seq).seqs.contains other) = [seq] := by
  have nodup : queue.seqs.Nodup := increasing.imp fun less => ne_of_lt less
  have sameTest : ∀ other ∈ queue.seqs,
      (!(queue.removePicked loop seq).seqs.contains other) = (other == seq) := by
    intro other otherPresent
    rw [removePicked_seqs increasing present front]
    by_cases same : other = seq
    · simp [same, nodup.mem_erase_iff]
    · simp [same, nodup.mem_erase_iff, otherPresent]
  rw [List.filter_congr sameTest, List.filter_beq,
    List.count_eq_one_of_mem nodup present]
  rfl

/-- The picked message is gone after its removal. -/
theorem Queue.not_mem_removePicked
    {queue : Queue} {loop : LoopKind} {seq : Int}
    (increasing : queue.seqs.Pairwise (· < ·))
    (present : seq ∈ queue.seqs)
    (front : loop ≠ .enterTimerLoop → ∀ other ∈ queue.seqs, seq ≤ other) :
    seq ∉ (queue.removePicked loop seq).seqs := by
  have nodup : queue.seqs.Nodup := increasing.imp fun less => ne_of_lt less
  rw [removePicked_seqs increasing present front, nodup.mem_erase_iff]
  exact fun remaining => remaining.1 rfl

theorem Held.not_mem_removePicked
    {queue : Queue} {trace : List Event} {loop : LoopKind} {msg : QueuedMsg}
    (held : Held queue trace loop msg)
    (increasing : queue.seqs.Pairwise (· < ·))
    (queued : msg.msgSeq ∈ queue.seqs) :
    msg.msgSeq ∉ ((queue.markHandling loop msg.msgSeq false).removePicked loop
      msg.msgSeq).seqs :=
  Queue.not_mem_removePicked (by simpa using increasing) (by simpa using queued)
    (by simpa using held.front)

/-- `Queue.taken_eq` for the removal that follows a handler call. -/
theorem Held.taken_eq
    {queue : Queue} {trace : List Event} {loop : LoopKind} {msg : QueuedMsg}
    (held : Held queue trace loop msg)
    (increasing : queue.seqs.Pairwise (· < ·))
    (queued : msg.msgSeq ∈ queue.seqs) :
    ((queue.markHandling loop msg.msgSeq false).seqs.filter fun other =>
      !((queue.markHandling loop msg.msgSeq false).removePicked loop
        msg.msgSeq).seqs.contains other) = [msg.msgSeq] :=
  Queue.taken_eq (by simpa using increasing) (by simpa using queued)
    (by simpa using held.front)

/-- Every removal by a loop takes out exactly the picked message. -/
theorem LoopSection.taken_eq
    {n : Nat} {state : State n} {action : Action n} {thread : Fin n}
    {source : LoopPc} {outcome : Outcome}
    {seq : Int} {taken : List Int} {exit : Bool}
    (ordered : Ordered state)
    (inHand : InHand state)
    (sourceEq : state.loops thread = source)
    (ran : LoopSection state.queue action thread source outcome)
    (removed : Event.removed seq taken exit ∈ outcome.events) :
    taken = [seq] := by
  have ofEntered : ∀ {queue loop waitTime outcome},
      Entered queue loop waitTime outcome →
      queue.seqs = state.queue.seqs →
      Event.removed seq taken exit ∈ outcome.events → taken = [seq] := by
    intro queue loop waitTime outcome entered sameSeqs removed
    have increasing : queue.seqs.Pairwise (· < ·) :=
      sameSeqs ▸ ordered.increasing
    cases entered with
    | @pick msg outcome selected dispatched =>
        cases dispatched with
        | handle running chosen => simp at removed
        | finish nobody =>
            have onlyPicked := Queue.taken_eq increasing
              (Queue.mem_seqs.mpr ⟨msg, selected.present, rfl⟩)
              (selected.least increasing)
            simp only [List.cons_append, List.nil_append, List.mem_cons,
              List.not_mem_nil, or_false, reduceCtorEq, false_or,
              Event.removed.injEq] at removed
            rw [removed.2.1, onlyPicked, removed.1]
    | _ => simp at removed
  cases ran with
  | enter entered => exact ofEntered entered rfl removed
  | wake entered defined => exact ofEntered entered rfl removed
  | @resume thread loop msg node outcome returned =>
      have held := inHand thread loop msg node sourceEq
      cases returned with
      | undefined cause => simp at removed
      | resume queued after dispatched =>
          cases dispatched with
          | handle running chosen => simp at removed
          | finish nobody =>
              simp only [List.nil_append, List.mem_singleton,
                Event.removed.injEq] at removed
              rw [removed.2.1, held.taken_eq ordered.increasing queued,
                removed.1]

/-- Removals of every run are exact. -/
theorem taken_eq_of_reachable
    {n : Nat} {guard : State n → Action n → Prop} {state : State n}
    (reached : (system n).ReachableUnder guard state) :
    ∀ seq taken exit, Event.removed seq taken exit ∈ state.trace →
      taken = [seq] := by
  have atStart : ∀ start : State n, (system n).initial start →
      ∀ seq taken exit, Event.removed seq taken exit ∈ start.trace →
        taken = [seq] := by
    rintro _ rfl
    simp [State.new]
  refine reached.invariant atStart ?_
  intro state action next earlier allExact _ stepped seq taken exit removed
  obtain ⟨events, grown, made⟩ := (State.step_fires stepped).trace_append
  rw [grown] at removed
  rcases List.mem_append.mp removed with before | now
  · exact allExact seq taken exit before
  · rcases made with byClient | ⟨thread, outcome, ran, _, rfl⟩
    · exact absurd (byClient _ now) (by simp [Event.ofClient])
    · exact ran.taken_eq (ordered_of_reachable earlier)
        (inHand_of_reachable earlier) rfl now

end MsgQueue
end Skplat
