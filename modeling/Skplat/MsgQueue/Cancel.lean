import Skplat.MsgQueue.Order

/-!
# The cancel overloads

All four overloads walk `lst_msg` and erase the messages that match their argument
and are not being handled.  `cancel_msg(msg_id, handler_id)` stops after its first
erasure and three of them stop at a match that is being handled, so they leave
behind whatever matches after that.
-/

namespace Skplat
namespace MsgQueue
namespace Queue

variable {hit : QueuedMsg → Bool} {msgs : List QueuedMsg}

/-- What a cancellation is for: the messages that do not match or are being
handled. -/
def uncancelled (hit : QueuedMsg → Bool) (msgs : List QueuedMsg) :
    List QueuedMsg :=
  msgs.filter fun msg => !hit msg || msg.isHandling

/-- Matches behind the first one are being handled. -/
def LaterHitsHandled (hit : QueuedMsg → Bool) (msgs : List QueuedMsg) : Prop :=
  ∀ msg ∈ (msgs.filter hit).tail, msg.isHandling = true

instance (hit : QueuedMsg → Bool) (msgs : List QueuedMsg) :
    Decidable (LaterHitsHandled hit msgs) :=
  inferInstanceAs (Decidable (∀ msg ∈ (msgs.filter hit).tail, _))

/-- Nothing is cancelled where all matches are being handled. -/
theorem uncancelled_eq_self_iff :
    uncancelled hit msgs = msgs ↔
      ∀ msg ∈ msgs.filter hit, msg.isHandling = true := by
  simp only [uncancelled, List.filter_eq_self, List.mem_filter,
    Bool.or_eq_true, Bool.not_eq_true']
  constructor
  · rintro kept msg ⟨present, isHit⟩
    rcases kept msg present with notHit | handled
    · rw [isHit] at notHit
      cases notHit
    · exact handled
  · intro handled msg present
    cases isHit : hit msg with
    | false => exact Or.inl rfl
    | true => exact Or.inr (handled msg ⟨present, isHit⟩)

theorem cancelLoop_eq_self
    (handled : ∀ msg ∈ msgs.filter hit, msg.isHandling = true)
    (breakOnHandling breakOnErase : Bool) :
    cancelLoop hit breakOnHandling breakOnErase msgs = msgs := by
  induction msgs with
  | nil => rfl
  | cons msg rest inductionHypothesis =>
      rw [cancelLoop]
      by_cases isHit : hit msg = true
      · rw [List.filter_cons_of_pos isHit, List.forall_mem_cons] at handled
        rw [if_pos isHit, handled.1, inductionHypothesis handled.2]
        simp
      · rw [List.filter_cons_of_neg isHit] at handled
        rw [if_neg isHit, inductionHypothesis handled]

/-- The scan that never stops erases exactly the cancelled messages. -/
theorem cancelLoop_never :
    cancelLoop hit false false msgs = uncancelled hit msgs := by
  induction msgs with
  | nil => rfl
  | cons msg rest inductionHypothesis =>
      rw [cancelLoop, inductionHypothesis]
      cases isHit : hit msg <;> cases handled : msg.isHandling <;>
        simp [uncancelled, isHit, handled]

/-- The scan that stops at every match erases exactly the cancelled messages iff
later matches are being handled. -/
theorem cancelLoop_always_iff :
    cancelLoop hit true true msgs = uncancelled hit msgs ↔
      LaterHitsHandled hit msgs := by
  induction msgs with
  | nil => simp [cancelLoop, uncancelled, LaterHitsHandled]
  | cons msg rest inductionHypothesis =>
      have behind : uncancelled hit rest = rest ↔
          ∀ msg ∈ rest.filter hit, msg.isHandling = true := uncancelled_eq_self_iff
      cases isHit : hit msg with
      | false =>
          simp only [cancelLoop, uncancelled, LaterHitsHandled, isHit,
            List.filter_cons, Bool.not_false, Bool.true_or, if_true,
            Bool.false_eq_true, if_false, List.cons.injEq, true_and]
          exact inductionHypothesis
      | true =>
          rw [LaterHitsHandled, List.filter_cons_of_pos isHit, List.tail_cons,
            ← behind]
          cases handled : msg.isHandling with
          | false =>
              simp only [cancelLoop, uncancelled, isHit, handled,
                List.filter_cons, Bool.not_true, Bool.not_false, Bool.or_self,
                if_true, Bool.false_eq_true, if_false]
              exact eq_comm
          | true =>
              simp only [cancelLoop, uncancelled, isHit, handled,
                List.filter_cons, Bool.not_true, Bool.or_true, if_true,
                Bool.false_eq_true, if_false, List.cons.injEq, true_and]
              exact eq_comm

/-- The scan that stops at a match that is being handled. -/
theorem cancelLoop_of_laterHitsHandled
    (later : LaterHitsHandled hit msgs) :
    cancelLoop hit true false msgs = uncancelled hit msgs := by
  induction msgs with
  | nil => rfl
  | cons msg rest inductionHypothesis =>
      rw [cancelLoop]
      by_cases isHit : hit msg = true
      · rw [LaterHitsHandled, List.filter_cons_of_pos isHit, List.tail_cons]
          at later
        have restKept := uncancelled_eq_self_iff.mpr later
        rw [if_pos isHit, cancelLoop_eq_self later]
        cases handled : msg.isHandling <;>
          simpa [uncancelled, isHit, handled] using restKept.symm
      · rw [LaterHitsHandled, List.filter_cons_of_neg isHit] at later
        rw [if_neg isHit, inductionHypothesis later]
        simp [uncancelled, isHit]

/-- Sequence numbers as the queue hands them out. -/
structure Coherent (queue : Queue) : Prop where
  /-- They increase from front to back. -/
  increasing : queue.seqs.Pairwise (· < ·)
  /-- The counter is ahead of them. -/
  below : ∀ seq ∈ queue.seqs, seq < queue.msgSeq

instance (queue : Queue) : Decidable queue.Coherent :=
  decidable_of_iff
    (queue.seqs.Pairwise (· < ·) ∧ ∀ seq ∈ queue.seqs, seq < queue.msgSeq)
    ⟨fun ⟨increasing, below⟩ => ⟨increasing, below⟩,
      fun coherent => ⟨coherent.increasing, coherent.below⟩⟩

/-- Every queue that a run reaches is coherent. -/
theorem coherent_of_reachable
    {n : Nat} {guard : State n → Action n → Prop} {state : State n}
    (reached : (system n).ReachableUnder guard state) :
    state.queue.Coherent :=
  ⟨(ordered_of_reachable reached).increasing,
    (ordered_of_reachable reached).below⟩

namespace Coherent

variable {queue : Queue}

/-- At most one message has a sequence number. -/
theorem laterHitsHandled (coherent : queue.Coherent) (seq : Int) :
    LaterHitsHandled (fun msg => msg.msgSeq == seq) queue.lstMsg := by
  have increasing : (queue.lstMsg.filter fun msg => msg.msgSeq == seq).Pairwise
      fun earlier later => earlier.msgSeq < later.msgSeq :=
    (List.pairwise_map.mp coherent.increasing).filter _
  have same : ∀ msg ∈ queue.lstMsg.filter fun msg => msg.msgSeq == seq,
      msg.msgSeq = seq := by
    intro msg present
    simpa using (List.mem_filter.mp present).2
  intro msg behind
  cases hits : queue.lstMsg.filter fun msg => msg.msgSeq == seq with
  | nil => simp [hits] at behind
  | cons first rest =>
      rw [hits, List.tail_cons] at behind
      rw [hits] at increasing same
      have before := (List.pairwise_cons.mp increasing).1 msg behind
      have firstSeq := same first List.mem_cons_self
      have msgSeq := same msg (List.mem_cons_of_mem first behind)
      omega

/-- `cancel_msg_seq` erases the message with the number. -/
theorem cancelMsgSeq (coherent : queue.Coherent) (seq : Int) :
    (queue.cancelMsgSeq seq).lstMsg =
      uncancelled (fun msg => msg.msgSeq == seq) queue.lstMsg := by
  unfold Queue.cancelMsgSeq
  split
  · rename_i beyond
    refine (uncancelled_eq_self_iff.mpr ?_).symm
    intro msg isHit
    obtain ⟨present, same⟩ := List.mem_filter.mp isHit
    have below := coherent.below msg.msgSeq (mem_seqs.mpr ⟨msg, present, rfl⟩)
    have equal : msg.msgSeq = seq := by simpa using same
    omega
  · exact cancelLoop_of_laterHitsHandled (coherent.laterHitsHandled seq)

end Coherent

/-- The message is the one that `cancel_msg` names. -/
def named (msgId handlerId : Int) (msg : QueuedMsg) : Bool :=
  msgId == msg.msgId && handlerId == msg.handlerId

/-- The two overloads with a message and a handler identifier leave the same queue,
and every overload erases exactly the messages that match its argument and are not
being handled. -/
structure CancelsAgree
    (queue : Queue) (seq msgId handlerId : Int) : Prop where
  /-- `cancel_msg(Msg&)` and `cancel_msg(msg_id, handler_id)`. -/
  overloads : queue.cancelMsg msgId handlerId = queue.cancelMsgId msgId handlerId
  /-- `cancel_msg_seq(seq)`. -/
  ofSeq : (queue.cancelMsgSeq seq).lstMsg =
    uncancelled (fun msg => msg.msgSeq == seq) queue.lstMsg
  /-- `cancel_msg(Msg&)`. -/
  ofMsg : (queue.cancelMsg msgId handlerId).lstMsg =
    uncancelled (named msgId handlerId) queue.lstMsg
  /-- `cancel_msg(handler_id)`. -/
  ofHandler : (queue.cancelMsgOfHandler handlerId).lstMsg =
    uncancelled (fun msg => handlerId == msg.handlerId) queue.lstMsg
  /-- `cancel_msg(msg_id, handler_id)`. -/
  ofId : (queue.cancelMsgId msgId handlerId).lstMsg =
    uncancelled (named msgId handlerId) queue.lstMsg

/-- The overloads agree and cancel everything they name iff of the messages with
the given identifiers every one but the first is being handled. -/
theorem cancelsAgree_iff
    (queue : Queue) (coherent : queue.Coherent) (seq msgId handlerId : Int) :
    CancelsAgree queue seq msgId handlerId ↔
      LaterHitsHandled (named msgId handlerId) queue.lstMsg := by
  constructor
  · intro agree
    exact cancelLoop_always_iff.mp agree.ofId
  · intro later
    have ofMsg : (queue.cancelMsg msgId handlerId).lstMsg =
        uncancelled (named msgId handlerId) queue.lstMsg :=
      cancelLoop_of_laterHitsHandled later
    have ofId : (queue.cancelMsgId msgId handlerId).lstMsg =
        uncancelled (named msgId handlerId) queue.lstMsg :=
      cancelLoop_always_iff.mpr later
    refine ⟨?_, coherent.cancelMsgSeq seq, ofMsg, cancelLoop_never, ofId⟩
    calc queue.cancelMsg msgId handlerId
        = { queue with
            lstMsg := uncancelled (named msgId handlerId) queue.lstMsg } := by
          rw [← ofMsg]
          rfl
      _ = queue.cancelMsgId msgId handlerId := by
          rw [← ofId]
          rfl

/-- A queue with messages 10 and 11 for handler 7. -/
def twoIds : Queue :=
  ((new.addHandler 7 false).push (.ofId 10 7)).push (.ofId 11 7)

/-- Cancelling one of two different messages. -/
theorem cancelsAgree_twoIds : CancelsAgree twoIds 0 10 7 :=
  (cancelsAgree_iff twoIds (by decide) 0 10 7).mpr (by decide)

/-- A queue with message 10 for handler 7 twice. -/
def sameTwice : Queue :=
  ((new.addHandler 7 false).push (.ofId 10 7)).push (.ofId 10 7)

/-- One overload erases both messages and the other one only the first.  While the
first is being handled, `cancel_msg(Msg&)` leaves the second one, too. -/
theorem cancels_differ :
    (sameTwice.cancelMsg 10 7).seqs = [] ∧
      (sameTwice.cancelMsgId 10 7).seqs = [1] ∧
      ((sameTwice.setHandling 0 true).cancelMsg 10 7).seqs = [0, 1] ∧
      ¬ CancelsAgree sameTwice 0 10 7 ∧
      ¬ CancelsAgree (sameTwice.setHandling 0 true) 0 10 7 := by
  refine ⟨by decide, by decide, by decide, ?_, ?_⟩
  · intro agree
    exact absurd agree.overloads (by decide)
  · intro agree
    exact absurd agree.ofMsg (by decide)

end Queue
end MsgQueue
end Skplat
