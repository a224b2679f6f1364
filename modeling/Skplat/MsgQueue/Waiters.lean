import Skplat.MsgQueue.Trims

/-!
# Threads waiting for messages to be done

The three waits sleep on `done_cond` as long as a matching message is queued.
The loops notify after every removal; the cancel overloads, `remove_handler` and
`clear` do not.  A waiter is stranded exactly when one of those takes the last
message it waits for.
-/

namespace Skplat
namespace MsgQueue

/-- Some queued message matches the predicate of a wait. -/
def WaitFor.Pending (goal : WaitFor) (queue : Queue) : Prop :=
  ∃ msg ∈ queue.lstMsg, goal.found msg = true

/-- Every call asleep un-notified on `done_cond` has a matching message. -/
def NoneStranded {n : Nat} (state : State n) : Prop :=
  ∀ client goal, state.clients client = .asleep goal false →
    goal.Pending state.queue

/-- An edit takes no sleeping waiter its last matching message. -/
def KeepsLastMatch {n : Nat} (state : State n) : Action n → Prop
  | .edit edit => ∀ client goal, state.clients client = .asleep goal false →
      goal.Pending state.queue → goal.Pending (edit.apply state.queue)
  | _ => True

theorem WaitFor.pending_of_keys
    {goal : WaitFor} {queue next : Queue}
    (pending : goal.Pending queue)
    (kept : ∀ key ∈ queue.keys, key ∈ next.keys) :
    goal.Pending next := by
  obtain ⟨msg, present, found⟩ := pending
  obtain ⟨other, otherPresent, same⟩ := List.mem_map.mp
    (kept (msg.msgSeq, msg.toMsg) (List.mem_map.mpr ⟨msg, present, rfl⟩))
  simp only [Prod.mk.injEq] at same
  refine ⟨other, otherPresent, ?_⟩
  cases goal <;> simpa [WaitFor.found, same.1, same.2] using found

/-- A section that takes a message out notifies every waiter. -/
theorem LoopSection.notifies_or_keeps
    {n : Nat} {queue : Queue} {action : Action n} {thread : Fin n}
    {source : LoopPc} {outcome : Outcome}
    (ran : LoopSection queue action thread source outcome) :
    outcome.notifyDone = true ∨ outcome.queue.keys = queue.keys := by
  have ofEntered : ∀ {current loop waitTime outcome},
      Entered current loop waitTime outcome → current.keys = queue.keys →
      outcome.notifyDone = true ∨ outcome.queue.keys = queue.keys := by
    intro current loop waitTime outcome entered same
    cases entered with
    | pick selected dispatched =>
        cases dispatched with
        | handle running chosen =>
            exact Or.inr ((Queue.markHandling_keys _ _ _ _).trans same)
        | finish nobody => exact Or.inl rfl
    | _ => exact Or.inr same
  cases ran with
  | enter entered => exact ofEntered entered rfl
  | wake entered defined => exact ofEntered entered rfl
  | resume returned =>
      cases returned with
      | undefined cause => exact Or.inr rfl
      | resume queued after dispatched =>
          cases dispatched with
          | handle running chosen =>
              exact Or.inr (by simp only [Queue.markHandling_keys])
          | finish nobody => exact Or.inl rfl

@[simp] theorem ClientPc.notifyDone_ne_asleep
    (pc : ClientPc) (goal : WaitFor) :
    pc.notifyDone ≠ .asleep goal false := by
  cases pc <;> simp [ClientPc.notifyDone]

namespace NoneStranded

variable {n : Nat} {state next : State n} {action : Action n}

/-- Steps that keep every message and put nobody to sleep. -/
theorem of_frame
    (noneStranded : NoneStranded state)
    (kept : ∀ key ∈ state.queue.keys, key ∈ next.queue.keys)
    (asleep : ∀ client goal, next.clients client = .asleep goal false →
      state.clients client = .asleep goal false ∨ goal.Pending state.queue) :
    NoneStranded next := by
  intro client goal sleeping
  rcases asleep client goal sleeping with before | pending
  · exact WaitFor.pending_of_keys (noneStranded client goal before) kept
  · exact WaitFor.pending_of_keys pending kept

/-- Moving one call. -/
theorem asleep_setClient
    {moved : Nat} {pc : ClientPc}
    (pcPending : ∀ goal, pc = .asleep goal false → goal.Pending state.queue) :
    ∀ client goal,
      Function.update state.clients moved pc client = .asleep goal false →
      state.clients client = .asleep goal false ∨ goal.Pending state.queue := by
  intro client goal sleeping
  rcases update_cases sleeping with ⟨_, isPc⟩ | ⟨_, old⟩
  · exact Or.inr (pcPending goal isPc)
  · exact Or.inl old

/-- One step strands nobody exactly when it keeps every last match. -/
theorem step_iff
    (noneStranded : NoneStranded state)
    (fires : Fires state action next) :
    NoneStranded next ↔ KeepsLastMatch state action := by
  cases fires with
  | @client action client source pc events source move =>
      refine iff_of_true (noneStranded.of_frame (fun _ kept => kept)
        (asleep_setClient ?_)) (by cases move <;> trivial)
      intro goal sleeping
      cases move with
      | waitFound found =>
          cases sleeping
          exact List.any_eq_true.mp found
      | _ => cases sleeping
  | @push action client woken msg source pc events pushed source call pushedBy =>
      refine iff_of_true (noneStranded.of_frame ?_ ?_)
        (by cases call <;> trivial)
      · intro key present
        simp only [State.log, pushedBy.queue, State.setClient, Queue.keys,
          Queue.push, List.map_append]
        exact List.mem_append_left _ present
      · simp only [State.log, pushedBy.clients, State.setClient]
        exact asleep_setClient (by cases call <;> simp)
  | quitBegin idle =>
      refine iff_of_true (noneStranded.of_frame (fun _ kept => kept) ?_) trivial
      exact asleep_setClient (by simp)
  | @edit edit =>
      constructor
      · intro after client goal sleeping _
        exact after client goal sleeping
      · intro keeps client goal sleeping
        exact keeps client goal sleeping (noneStranded client goal sleeping)
  | addHandler =>
      refine iff_of_true (noneStranded.of_frame ?_
        fun _ _ sleeping => Or.inl sleeping) trivial
      simp [Queue.keys]
  | loopMove source move =>
      exact iff_of_true (noneStranded.of_frame (fun _ kept => kept)
        fun _ _ sleeping => Or.inl sleeping) (by cases move <;> trivial)
  | loopSection source ran =>
      refine iff_of_true ?_ (by cases ran <;> trivial)
      rcases ran.notifies_or_keeps with notified | same
      · intro client goal sleeping
        simp [State.commit, notified] at sleeping
      · refine noneStranded.of_frame (fun _ kept => same ▸ kept) ?_
        intro client goal sleeping
        simp only [State.commit] at sleeping
        split at sleeping
        · simp at sleeping
        · exact Or.inl sleeping
  | loopFinish finishing =>
      exact iff_of_true (noneStranded.of_frame (fun _ kept => kept)
        fun _ _ sleeping => Or.inl sleeping) trivial
  | loopNotify notifying =>
      refine iff_of_true ?_ trivial
      intro client goal sleeping
      simp [State.setLoop, State.notifyDone] at sleeping

end NoneStranded

/-- In every run whose edits keep the last match of every sleeping waiter no
waiter is stranded, and the first edit that does not strands one. -/
theorem noneStranded_of_keepsLastMatch
    (n : Nat) (state : State n)
    (reached : (system n).ReachableUnder KeepsLastMatch state) :
    NoneStranded state ∧
      ∀ action next, (system n).step state action = some next →
        (NoneStranded next ↔ KeepsLastMatch state action) := by
  have noneStranded : NoneStranded state := by
    refine reached.invariant ?_ ?_
    · rintro _ rfl client goal sleeping
      cases sleeping
    · intro state action next _ noneStranded keeps stepped
      exact (noneStranded.step_iff (State.step_fires stepped)).mpr keeps
  refine ⟨noneStranded, ?_⟩
  intro action next stepped
  exact noneStranded.step_iff (State.step_fires stepped)

/-- A call waits for a message, and the loop handles it. -/
def waitForHandled : List (Action 1) :=
  [.addHandler 7 false, .sendCheck 0 (.ofId 10 7), .sendPush 0 none,
    .waitBegin 1 (.seqDone 0), .waitCheck 1]

theorem noneStranded_of_keepsLastMatch_waitForHandled :
    ∃ state : State 1, (system 1).ReachableUnder KeepsLastMatch state ∧
      state.clients 1 = .asleep (.seqDone 0) false ∧
      (WaitFor.seqDone 0).Pending state.queue := by
  obtain ⟨state, reached, asleep⟩ :=
    Machine.ReachableUnder.exists_of_exec
      (.initial rfl : (system 1).ReachableUnder KeepsLastMatch (State.new 1))
      (by simp [waitForHandled, KeepsLastMatch] :
        ∀ action ∈ waitForHandled, ∀ current, KeepsLastMatch current action)
      (by decide : ((system 1).exec (State.new 1) waitForHandled).map
        (fun state => decide (state.clients 1 = .asleep (.seqDone 0) false)) =
          some true)
  have sleeping := of_decide_eq_true asleep
  exact ⟨state, reached, sleeping,
    (noneStranded_of_keepsLastMatch 1 state reached).1 1 (.seqDone 0) sleeping⟩

/-- The message is cancelled while the call sleeps. -/
def cancelWhileWaiting : List (Action 1) :=
  waitForHandled ++ [.edit (.cancelMsgSeq 0)]

theorem noneStranded_cancelWhileWaiting :
    ∃ state : State 1,
      (system 1).exec (State.new 1) cancelWhileWaiting = some state ∧
      (system 1).Reachable state ∧
      state.clients 1 = .asleep (.seqDone 0) false ∧
      state.queue.lstMsg = [] ∧ ¬ NoneStranded state := by
  obtain ⟨state, executed, reached, test⟩ := Machine.exists_reachable_of_exec
    (rfl : (system 1).initial (State.new 1))
    (by decide : ((system 1).exec (State.new 1) cancelWhileWaiting).map
      (fun state => decide (state.clients 1 = .asleep (.seqDone 0) false ∧
        state.queue.lstMsg = [])) = some true)
  obtain ⟨sleeping, empty⟩ := of_decide_eq_true test
  refine ⟨state, executed, reached, sleeping, empty, ?_⟩
  intro noneStranded
  obtain ⟨msg, present, _⟩ := noneStranded 1 (.seqDone 0) sleeping
  simp [empty] at present

end MsgQueue
end Skplat
