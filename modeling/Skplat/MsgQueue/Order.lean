import Skplat.MsgQueue.Trims
import Mathlib.Tactic.Common

/-!
# Sequence numbers and dispatch order

The sequence numbers in `lst_msg` increase from front to back and stay below
the counter, whatever the threads do, and `send_msg` returns increasing values.
A single loop that is only sent immediate messages picks them in that order.

The counter is an unbounded integer here: the source's `int64_t` counter is
assumed not to reach `2^63`.
-/

namespace Skplat
namespace MsgQueue

/-- Queue order and returned sequence numbers. -/
structure Ordered {n : Nat} (state : State n) : Prop where
  /-- Front to back the sequence numbers increase. -/
  increasing : state.queue.seqs.Pairwise (· < ·)
  /-- The counter is ahead of every queued message. -/
  below : ∀ seq ∈ state.queue.seqs, seq < state.queue.msgSeq
  /-- Returned sequence numbers increase. -/
  accepted : (acceptedSeqs state.trace).Pairwise (· < ·)
  /-- The counter is ahead of every returned sequence number. -/
  acceptedBelow : ∀ seq ∈ acceptedSeqs state.trace, seq < state.queue.msgSeq

theorem ordered_new (n : Nat) : Ordered (State.new n) where
  increasing := .nil
  below := by simp [State.new, Queue.new, Queue.seqs]
  accepted := .nil
  acceptedBelow := by simp [State.new, acceptedSeqs]

@[simp] theorem Queue.push_seqs (queue : Queue) (msg : Msg) :
    (queue.push msg).seqs = queue.seqs ++ [queue.msgSeq] := by
  simp [Queue.seqs, Queue.push]

/-- Appending a value above an increasing list keeps it increasing. -/
theorem pairwise_lt_append_singleton
    {values : List Int} {bound : Int}
    (increasing : values.Pairwise (· < ·))
    (below : ∀ value ∈ values, value < bound) :
    (values ++ [bound]).Pairwise (· < ·) := by
  refine List.pairwise_append.mpr ⟨increasing, List.pairwise_singleton _ _, ?_⟩
  intro value present last lastPresent
  rw [List.mem_singleton.mp lastPresent]
  exact below value present

/-- After the value at the counter is appended, the next counter is above. -/
theorem append_singleton_below
    {values : List Int} {bound : Int}
    (below : ∀ value ∈ values, value < bound) :
    ∀ value ∈ values ++ [bound], value < bound + 1 := by
  intro value present
  rcases List.mem_append.mp present with earlier | last
  · have := below value earlier
    omega
  · rw [List.mem_singleton.mp last]
    omega

theorem Ordered.step
    {n : Nat} {state next : State n} {action : Action n}
    (ordered : Ordered state)
    (fires : Fires state action next) :
    Ordered next := by
  rcases fires.trims_or_push with ⟨trims, sameAccepted⟩ | ⟨⟨msg, pushed⟩, grown⟩
  · refine ⟨ordered.increasing.sublist trims.seqs, ?_, ?_, ?_⟩
    · intro seq present
      rw [trims.msgSeq]
      exact ordered.below seq (trims.seqs.subset present)
    · rw [sameAccepted]
      exact ordered.accepted
    · rw [sameAccepted, trims.msgSeq]
      exact ordered.acceptedBelow
  · have counter : next.queue.msgSeq = state.queue.msgSeq + 1 := by
      rw [pushed]
      rfl
    refine ⟨?_, ?_, ?_, ?_⟩
    · rw [pushed, Queue.push_seqs]
      exact pairwise_lt_append_singleton ordered.increasing ordered.below
    · rw [counter, pushed, Queue.push_seqs]
      exact append_singleton_below ordered.below
    · rw [grown]
      exact pairwise_lt_append_singleton ordered.accepted ordered.acceptedBelow
    · rw [grown, counter]
      exact append_singleton_below ordered.acceptedBelow

/-- Every reachable queue is ordered, with any number of loop threads. -/
theorem ordered_of_reachable
    {n : Nat} {guard : State n → Action n → Prop} {state : State n}
    (reached : (system n).ReachableUnder guard state) :
    Ordered state := by
  refine reached.invariant ?_ ?_
  · rintro _ rfl
    exact ordered_new n
  · intro state action next _ ordered _ stepped
    exact ordered.step (State.step_fires stepped)

theorem Ordered.nodup
    {n : Nat} {state : State n}
    (ordered : Ordered state) :
    state.queue.seqs.Nodup :=
  ordered.increasing.imp fun less => ne_of_lt less

/-! ## Dispatch order of a single loop -/

/-- Sequence numbers in the order in which loops picked them. -/
def pickedSeqs (trace : List Event) : List Int :=
  trace.filterMap fun
    | .picked seq => some seq
    | _ => none

@[simp] theorem pickedSeqs_append (first second : List Event) :
    pickedSeqs (first ++ second) = pickedSeqs first ++ pickedSeqs second :=
  List.filterMap_append

/-- The only messages sent are immediate ones. -/
def SendsImmediate {n : Nat} (_ : State n) : Action n → Prop
  | .sendCheck _ msg => msg.timer.type = .kImmediately
  | _ => True

/-- The loop has picked the message and not yet removed it, or its behaviour
has become undefined. -/
def LoopPc.Holds : LoopPc → Int → Prop
  | .handling _ msg _, seq => msg.msgSeq = seq
  | .undefined, _ => True
  | _, _ => False

@[simp] theorem LoopPc.notifyMsg_holds (pc : LoopPc) (seq : Int) :
    pc.notifyMsg.Holds seq ↔ pc.Holds seq := by
  cases pc <;> rfl

/-- Invariant behind the dispatch order. -/
structure PicksInOrder (state : State 1) : Prop where
  /-- Calls about to push carry immediate messages. -/
  sends : ∀ client msg, state.clients client = .sending msg →
    msg.timer.type = .kImmediately
  /-- Queued messages are immediate. -/
  queued : ∀ msg ∈ state.queue.lstMsg, msg.timer.type = .kImmediately
  /-- Picks happen in increasing order. -/
  increasing : (pickedSeqs state.trace).Pairwise (· < ·)
  /-- The counter is ahead of every pick. -/
  below : ∀ seq ∈ pickedSeqs state.trace, seq < state.queue.msgSeq
  /-- Every queued message comes after every pick, except the one in hand. -/
  ahead : ∀ seq ∈ pickedSeqs state.trace, ∀ later ∈ state.queue.seqs,
    seq < later ∨ seq = later ∧ (state.loops 0).Holds later
  /-- The message in hand was picked. -/
  current : ∀ loop msg node, state.loops 0 = .handling loop msg node →
    msg.msgSeq ∈ pickedSeqs state.trace

/-- The loops' own removal erases exactly the picked sequence number: the timer
loop by its iterator, the other loops because they picked the least one. -/
theorem Queue.removePicked_seqs
    {queue : Queue} {loop : LoopKind} {seq : Int}
    (increasing : queue.seqs.Pairwise (· < ·))
    (present : seq ∈ queue.seqs)
    (front : loop ≠ .enterTimerLoop → ∀ other ∈ queue.seqs, seq ≤ other) :
    (queue.removePicked loop seq).seqs = queue.seqs.erase seq := by
  have ofFront : (∀ other ∈ queue.seqs, seq ≤ other) →
      queue.seqs.tail = queue.seqs.erase seq := by
    intro least
    cases list : queue.seqs with
    | nil => rfl
    | cons head tail =>
        rw [list] at increasing present least
        have headEq : head = seq := by
          have seqLe := least head (by simp)
          rcases List.mem_cons.mp present with equal | inTail
          · exact equal.symm
          · have headLess := (List.pairwise_cons.mp increasing).1 seq inTail
            omega
        rw [headEq, List.tail_cons, List.erase_cons_head]
  cases loop with
  | doTask =>
      rw [← ofFront (front (by simp))]
      simp [removePicked, seqs]
  | enterLoop =>
      rw [← ofFront (front (by simp))]
      simp [removePicked, seqs]
  | enterTimerLoop =>
      simp only [removePicked, seqs, List.erase_eq_eraseP, List.eraseP_map]
      congr 2
      funext msg
      simp [Bool.beq_comm]

/-- Removing the least message leaves only later ones. -/
theorem Queue.lt_of_mem_removePicked
    {queue : Queue} {loop : LoopKind} {seq later : Int}
    (increasing : queue.seqs.Pairwise (· < ·))
    (present : seq ∈ queue.seqs)
    (least : ∀ other ∈ queue.seqs, seq ≤ other)
    (remaining : later ∈ (queue.removePicked loop seq).seqs) :
    seq < later := by
  have nodup : queue.seqs.Nodup := increasing.imp fun less => ne_of_lt less
  rw [removePicked_seqs increasing present fun _ => least,
    nodup.mem_erase_iff] at remaining
  have atLeast := least later remaining.2
  have different := remaining.1
  omega

/-- Picks of one section. -/
theorem Dispatched.pickedSeqs_events
    {queue : Queue} {loop : LoopKind} {msg : QueuedMsg}
    {rest : List Handler} {lead : List Event} {outcome : Outcome}
    (dispatched : Dispatched queue loop msg rest lead outcome) :
    pickedSeqs outcome.events = pickedSeqs lead := by
  cases dispatched with
  | handle running chosen => simp [pickedSeqs]
  | finish nobody => simp [pickedSeqs]

/-- A dispatch that calls a handler keeps its message in hand. -/
theorem Dispatched.pc_handling
    {queue : Queue} {loop handlingLoop : LoopKind} {msg inHand : QueuedMsg}
    {rest : List Handler} {lead : List Event} {outcome : Outcome} {node : Nat}
    (dispatched : Dispatched queue loop msg rest lead outcome)
    (handling : outcome.pc = .handling handlingLoop inHand node) :
    inHand = msg := by
  cases dispatched with
  | handle running chosen =>
      injection handling with _ same _
      exact same.symm
  | finish nobody => cases handling

/-- Dispatching the least queued message leaves it in hand or behind. -/
theorem Dispatched.ahead
    {queue : Queue} {loop : LoopKind} {msg : QueuedMsg}
    {rest : List Handler} {lead : List Event} {outcome : Outcome}
    (dispatched : Dispatched queue loop msg rest lead outcome)
    (increasing : queue.seqs.Pairwise (· < ·))
    (present : msg.msgSeq ∈ queue.seqs)
    (least : ∀ other ∈ queue.seqs, msg.msgSeq ≤ other) :
    ∀ later ∈ outcome.queue.seqs,
      msg.msgSeq < later ∨ msg.msgSeq = later ∧ outcome.pc.Holds later := by
  intro later remaining
  cases dispatched with
  | handle running chosen =>
      rw [Queue.markHandling_seqs] at remaining
      rcases lt_or_eq_of_le (least later remaining) with less | equal
      · exact Or.inl less
      · exact Or.inr ⟨equal, equal⟩
  | finish nobody =>
      exact Or.inl
        (Queue.lt_of_mem_removePicked increasing present least remaining)

@[simp] theorem ClientPc.notifyDone_eq_sending
    (pc : ClientPc) (msg : Msg) :
    pc.notifyDone = .sending msg ↔ pc = .sending msg := by
  cases pc <;> simp [ClientPc.notifyDone]

/-- A loop section moves no call to or from its push. -/
theorem State.commit_sending
    {n : Nat} {state : State n} {thread : Fin n} {outcome : Outcome}
    {client : Nat} {msg : Msg} :
    (state.commit thread outcome).clients client = .sending msg ↔
      state.clients client = .sending msg := by
  simp only [State.commit]
  split <;> simp

theorem picksInOrder_new : PicksInOrder (State.new 1) where
  sends := by simp [State.new]
  queued := by simp [State.new, Queue.new]
  increasing := .nil
  below := by simp [State.new, pickedSeqs]
  ahead := by simp [State.new, pickedSeqs]
  current := by simp [State.new]

namespace PicksInOrder

variable {state next : State 1}

/-- Steps that pick nothing, and keep in hand what was in hand. -/
theorem of_frame
    (picks : PicksInOrder state)
    (trims : Queue.Trims state.queue next.queue)
    (samePicks : pickedSeqs next.trace = pickedSeqs state.trace)
    (sends : ∀ client msg, next.clients client = .sending msg →
      msg.timer.type = .kImmediately)
    (holds : ∀ seq, (state.loops 0).Holds seq → (next.loops 0).Holds seq)
    (current : ∀ loop msg node, next.loops 0 = .handling loop msg node →
      msg.msgSeq ∈ pickedSeqs state.trace) :
    PicksInOrder next where
  sends := sends
  queued := by
    intro msg present
    obtain ⟨earlier, earlierPresent, _, sameMsg⟩ := trims.exists_mem present
    rw [← sameMsg]
    exact picks.queued earlier earlierPresent
  increasing := samePicks ▸ picks.increasing
  below := by
    rw [samePicks, trims.msgSeq]
    exact picks.below
  ahead := by
    rw [samePicks]
    intro seq picked later present
    rcases picks.ahead seq picked later (trims.seqs.subset present) with
      less | ⟨equal, held⟩
    · exact Or.inl less
    · exact Or.inr ⟨equal, holds later held⟩
  current := by
    rw [samePicks]
    exact current

/-- When the loop holds nothing, every pick lies before every queued message. -/
theorem lt_of_free
    (picks : PicksInOrder state)
    (free : ∀ seq, ¬ (state.loops 0).Holds seq)
    {seq later : Int}
    (picked : seq ∈ pickedSeqs state.trace)
    (present : later ∈ state.queue.seqs) :
    seq < later := by
  rcases picks.ahead seq picked later present with less | ⟨_, held⟩
  · exact less
  · exact absurd held (free later)

/-- A section that looks for the next message while nothing is in hand. -/
theorem entered
    (picks : PicksInOrder state)
    (ordered : Ordered state)
    {queue : Queue} {loop : LoopKind} {waitTime : Int} {outcome : Outcome}
    (entered : Entered queue loop waitTime outcome)
    (sameMsgs : queue.lstMsg = state.queue.lstMsg)
    (sameSeq : queue.msgSeq = state.queue.msgSeq)
    (free : ∀ seq, ¬ (state.loops 0).Holds seq) :
    PicksInOrder (state.commit 0 outcome) := by
  have sameSeqs : queue.seqs = state.queue.seqs := by
    rw [Queue.seqs, Queue.seqs, sameMsgs]
  have trims : Queue.Trims state.queue outcome.queue :=
    (Queue.Trims.of_eq sameMsgs sameSeq).trans entered.frame.trims
  have sends : ∀ client msg,
      (state.commit 0 outcome).clients client = .sending msg →
      msg.timer.type = .kImmediately := by
    intro client msg sending
    exact picks.sends client msg (State.commit_sending.mp sending)
  cases entered with
  | sleep cause =>
      exact picks.of_frame trims (by simp [State.commit]) sends
        (fun seq held => absurd held (free seq)) (by simp [State.commit])
  | rest timer nonempty delayed =>
      exact picks.of_frame trims (by simp [State.commit]) sends
        (fun seq held => absurd held (free seq)) (by simp [State.commit])
  | undefined task empty =>
      exact picks.of_frame trims (by simp [State.commit]) sends
        (fun seq held => absurd held (free seq)) (by simp [State.commit])
  | @pick msg outcome selected dispatched =>
      have front : queue.lstMsg.head? = some msg :=
        selected.front fun _ queued present =>
          picks.queued queued (sameMsgs ▸ present)
      have present : msg.msgSeq ∈ state.queue.seqs :=
        sameSeqs ▸ Queue.mem_seqs.mpr ⟨msg, selected.present, rfl⟩
      have increasing : queue.seqs.Pairwise (· < ·) :=
        sameSeqs ▸ ordered.increasing
      have least : ∀ other ∈ queue.seqs, msg.msgSeq ≤ other := by
        obtain ⟨rest, list⟩ := List.head?_eq_some_iff.mp front
        rw [Queue.seqs, list, List.map_cons] at increasing ⊢
        intro other otherPresent
        rcases List.mem_cons.mp otherPresent with equal | inRest
        · exact equal.ge
        · exact ((List.pairwise_cons.mp increasing).1 other inRest).le
      have grown : pickedSeqs (state.commit 0 outcome).trace =
          pickedSeqs state.trace ++ [msg.msgSeq] := by
        rw [State.commit, pickedSeqs_append, dispatched.pickedSeqs_events]
        rfl
      refine ⟨sends, ?_, ?_, ?_, ?_, ?_⟩
      · intro queued queuedPresent
        obtain ⟨earlier, earlierPresent, _, sameMsg⟩ :=
          trims.exists_mem queuedPresent
        rw [← sameMsg]
        exact picks.queued earlier earlierPresent
      · rw [grown]
        exact pairwise_lt_append_singleton picks.increasing
          fun seq picked => picks.lt_of_free free picked present
      · rw [grown]
        intro seq picked
        change seq < outcome.queue.msgSeq
        rw [trims.msgSeq]
        rcases List.mem_append.mp picked with earlier | last
        · exact picks.below seq earlier
        · rw [List.mem_singleton.mp last]
          exact ordered.below msg.msgSeq present
      · rw [grown]
        intro seq picked later remaining
        rcases List.mem_append.mp picked with earlier | last
        · exact Or.inl (picks.lt_of_free free earlier
            (trims.seqs.subset remaining))
        · rw [List.mem_singleton.mp last]
          simpa [State.commit] using
            dispatched.ahead increasing (sameSeqs ▸ present) least later
              remaining
      · rw [grown]
        intro handlingLoop inHand node handling
        have same : inHand = msg :=
          dispatched.pc_handling (by simpa [State.commit] using handling)
        simp [same]

/-- A section that continues with the message in hand. -/
theorem resumed
    (picks : PicksInOrder state)
    (ordered : Ordered state)
    {loop : LoopKind} {msg : QueuedMsg} {node : Nat} {outcome : Outcome}
    (inHand : state.loops 0 = .handling loop msg node)
    (returned : Returned state.queue loop msg node outcome) :
    PicksInOrder (state.commit 0 outcome) := by
  have picked : msg.msgSeq ∈ pickedSeqs state.trace :=
    picks.current loop msg node inHand
  have trims : Queue.Trims state.queue outcome.queue := returned.frame.trims
  have sends : ∀ client msg,
      (state.commit 0 outcome).clients client = .sending msg →
      msg.timer.type = .kImmediately := by
    intro client msg sending
    exact picks.sends client msg (State.commit_sending.mp sending)
  cases returned with
  | undefined cause =>
      exact picks.of_frame trims (by simp [State.commit]) sends
        (fun seq _ => by simp [State.commit, LoopPc.Holds])
        (by simp [State.commit])
  | resume present after dispatched =>
      have least : ∀ other ∈
          (state.queue.markHandling loop msg.msgSeq false).seqs,
          msg.msgSeq ≤ other := by
        intro other otherPresent
        rw [Queue.markHandling_seqs] at otherPresent
        rcases picks.ahead _ picked other otherPresent with less | ⟨equal, _⟩
        · exact less.le
        · exact equal.le
      have increasing :
          (state.queue.markHandling loop msg.msgSeq false).seqs.Pairwise
            (· < ·) := by
        rw [Queue.markHandling_seqs]
        exact ordered.increasing
      have samePicks : pickedSeqs (state.commit 0 outcome).trace =
          pickedSeqs state.trace := by
        rw [State.commit, pickedSeqs_append, dispatched.pickedSeqs_events]
        simp [pickedSeqs]
      refine ⟨sends, ?_, ?_, ?_, ?_, ?_⟩
      · intro queued queuedPresent
        obtain ⟨earlier, earlierPresent, _, sameMsg⟩ :=
          trims.exists_mem queuedPresent
        rw [← sameMsg]
        exact picks.queued earlier earlierPresent
      · rw [samePicks]
        exact picks.increasing
      · rw [samePicks]
        intro seq seqPicked
        change seq < outcome.queue.msgSeq
        rw [trims.msgSeq]
        exact picks.below seq seqPicked
      · rw [samePicks]
        intro seq seqPicked later remaining
        rcases picks.ahead seq seqPicked later (trims.seqs.subset remaining) with
          less | ⟨equal, held⟩
        · exact Or.inl less
        · have current : msg.msgSeq = later := by
            simpa [inHand, LoopPc.Holds] using held
          rcases dispatched.ahead increasing (by simpa using present) least
              later remaining with
            less | ⟨_, stillHeld⟩
          · omega
          · exact Or.inr ⟨equal, by simpa [State.commit] using stillHeld⟩
      · rw [samePicks]
        intro handlingLoop inHandNow nodeNow handling
        have same : inHandNow = msg :=
          dispatched.pc_handling (by simpa [State.commit] using handling)
        rw [same]
        exact picked

/-- A push of an immediate message. -/
theorem pushed
    (picks : PicksInOrder state)
    {action : Action 1} {client : Nat} {woken : Option (Fin 1)} {msg : Msg}
    {source pc : ClientPc} {events : List Event} {pushed : State 1}
    (sourceEq : state.clients client = source)
    (call : PushCall action client woken source msg pc events)
    (pushedBy : Pushed (state.setClient client pc) msg pushed) :
    PicksInOrder (pushed.log events) := by
  have pushedImmediate : msg.timer.type = .kImmediately := by
    cases call with
    | send => exact picks.sends client msg sourceEq
    | quit => rfl
  have samePicks : pickedSeqs (pushed.log events).trace =
      pickedSeqs state.trace := by
    cases call <;>
      simp [State.log, pushedBy.trace, State.setClient, pickedSeqs]
  have sameHolds : ∀ seq, ((pushed.log events).loops 0).Holds seq ↔
      (state.loops 0).Holds seq := by
    intro seq
    simp [State.log, pushedBy.loops_single, State.setClient]
  have queue : (pushed.log events).queue = state.queue.push msg :=
    pushedBy.queue
  refine ⟨?_, ?_, ?_, ?_, ?_, ?_⟩
  · intro other otherMsg sending
    simp only [State.log, pushedBy.clients, State.setClient] at sending
    rcases update_cases sending with ⟨_, rfl⟩ | ⟨_, old⟩
    · cases call
    · exact picks.sends other otherMsg old
  · rw [queue]
    intro queued present
    rcases List.mem_append.mp present with earlier | last
    · exact picks.queued queued earlier
    · rw [List.mem_singleton.mp last]
      exact pushedImmediate
  · rw [samePicks]
    exact picks.increasing
  · rw [samePicks, queue]
    intro seq picked
    have := picks.below seq picked
    simp only [Queue.push]
    omega
  · rw [samePicks, queue, Queue.push_seqs]
    intro seq picked later present
    rw [sameHolds]
    rcases List.mem_append.mp present with earlier | last
    · exact picks.ahead seq picked later earlier
    · rw [List.mem_singleton.mp last]
      exact Or.inl (picks.below seq picked)
  · rw [samePicks]
    intro loop inHand node handling
    simp only [State.log, pushedBy.loops_single, State.setClient] at handling
    cases pc : state.loops 0 with
    | handling oldLoop oldMsg oldNode =>
        rw [pc] at handling
        cases handling
        exact picks.current _ _ _ pc
    | _ => simp [pc, LoopPc.notifyMsg] at handling

theorem step
    (picks : PicksInOrder state)
    (ordered : Ordered state)
    {action : Action 1}
    (immediate : SendsImmediate state action)
    (fires : Fires state action next) :
    PicksInOrder next := by
  cases fires with
  | @client action client source pc events sourceEq move =>
      refine picks.of_frame (.refl _) ?_ ?_ (fun _ held => held) picks.current
      · cases move <;> simp [State.log, State.setClient, pickedSeqs]
      · intro other msg sending
        rcases update_cases sending with ⟨_, rfl⟩ | ⟨_, old⟩
        · cases move with
          | sendChecked registered => exact immediate
        · exact picks.sends other msg old
  | push sourceEq call pushedBy => exact picks.pushed sourceEq call pushedBy
  | @quitBegin client idle =>
      refine picks.of_frame (.of_eq rfl rfl) rfl ?_ (fun _ held => held)
        picks.current
      intro other msg sending
      rcases update_cases sending with ⟨_, isPc⟩ | ⟨_, old⟩
      · cases isPc
      · exact picks.sends other msg old
  | edit =>
      exact picks.of_frame (Edit.apply_trims _ _) rfl picks.sends
        (fun _ held => held) picks.current
  | addHandler =>
      exact picks.of_frame (Queue.addHandler_trims _ _ _) rfl picks.sends
        (fun _ held => held) picks.current
  | @loopMove action thread source pc sourceEq move =>
      obtain rfl : thread = 0 := Subsingleton.elim _ _
      have free : ∀ seq, ¬ (state.loops 0).Holds seq := by
        rw [sourceEq]
        cases move <;> simp [LoopPc.Holds]
      refine picks.of_frame (.refl _) rfl picks.sends
        (fun seq held => absurd held (free seq)) ?_
      cases move <;> simp [State.setLoop]
  | @loopSection action thread source outcome sourceEq ran =>
      obtain rfl : thread = 0 := Subsingleton.elim _ _
      cases ran with
      | enter entered =>
          exact picks.entered ordered entered rfl rfl
            (by simp [sourceEq, LoopPc.Holds])
      | wake entered defined =>
          exact picks.entered ordered entered rfl rfl
            (by simp [sourceEq, LoopPc.Holds])
      | resume returned => exact picks.resumed ordered sourceEq returned
  | @loopFinish thread finishing =>
      obtain rfl : thread = 0 := Subsingleton.elim _ _
      exact picks.of_frame (.of_eq rfl rfl) rfl picks.sends
        (by simp [finishing, LoopPc.Holds]) (by simp [State.setLoop])
  | @loopNotify thread notifying =>
      obtain rfl : thread = 0 := Subsingleton.elim _ _
      refine picks.of_frame (.of_eq rfl rfl) rfl ?_
        (by simp [notifying, LoopPc.Holds]) (by simp [State.setLoop])
      intro client msg sending
      exact picks.sends client msg
        (by simpa [State.setLoop, State.notifyDone] using sending)

end PicksInOrder

/-- A single loop that is only sent immediate messages picks in order. -/
theorem picksInOrder_of_reachable
    {state : State 1}
    (reached : (system 1).ReachableUnder SendsImmediate state) :
    PicksInOrder state := by
  refine reached.invariant ?_ ?_
  · rintro _ rfl
    exact picksInOrder_new
  · intro state action next earlier picks immediate stepped
    exact picks.step (ordered_of_reachable earlier) immediate
      (State.step_fires stepped)

/-- In every reachable state, with any number of loop threads, the queued
sequence numbers increase from front to back below the counter and `send_msg`
has returned increasing values.  With one loop thread and immediate messages
only, messages are picked in increasing order. -/
theorem sequenceNumbers_ordered :
    (∀ (n : Nat) (state : State n), (system n).Reachable state →
      state.queue.seqs.Pairwise (· < ·) ∧
        (∀ seq ∈ state.queue.seqs, seq < state.queue.msgSeq) ∧
        (acceptedSeqs state.trace).Pairwise (· < ·)) ∧
    ∀ state : State 1, (system 1).ReachableUnder SendsImmediate state →
      (pickedSeqs state.trace).Pairwise (· < ·) := by
  refine ⟨?_, fun state reached => (picksInOrder_of_reachable reached).increasing⟩
  intro n state reached
  have ordered := ordered_of_reachable reached
  exact ⟨ordered.increasing, ordered.below, ordered.accepted⟩

/-- Two immediate sends dispatched by one timer loop. -/
def twoSends : List (Action 1) :=
  [.addHandler 7 false,
    .sendCheck 0 (.ofId 10 7), .sendPush 0 none,
    .sendCheck 1 (.ofId 11 7), .sendPush 1 none,
    .loopBegin 0 .enterTimerLoop, .loopTest 0, .loopEnter 0 fun _ => 0,
    .loopReturn 0, .loopTest 0, .loopEnter 0 fun _ => 0]

theorem sequenceNumbers_ordered_twoSends :
    ∃ state : State 1, (system 1).ReachableUnder SendsImmediate state ∧
      pickedSeqs state.trace = [0, 1] ∧
      (pickedSeqs state.trace).Pairwise (· < ·) ∧
      state.queue.seqs.Pairwise (· < ·) := by
  obtain ⟨state, reached, picked⟩ :=
    Machine.ReachableUnder.exists_of_exec
      (.initial rfl : (system 1).ReachableUnder SendsImmediate (State.new 1))
      (by simp [twoSends, SendsImmediate, Msg.ofId] :
        ∀ action ∈ twoSends, ∀ current, SendsImmediate current action)
      (by decide : ((system 1).exec (State.new 1) twoSends).map
        (fun state => decide (pickedSeqs state.trace = [0, 1])) = some true)
  exact ⟨state, reached, of_decide_eq_true picked,
    sequenceNumbers_ordered.2 state reached,
    (sequenceNumbers_ordered.1 1 state reached.reachable).1⟩

end MsgQueue
end Skplat
