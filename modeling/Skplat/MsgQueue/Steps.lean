import Skplat.MsgQueue.System

/-!
# What one step of the message queue can do

Inversion of the executable step function.  Loop sections are described by
`Dispatched`, `Entered` and `Returned`, client steps by `ClientMove`, and whole
steps by `Fires`.  The invariant proofs split on these relations and never
unfold the step function.
-/

namespace Skplat
namespace MsgQueue

/-- Results of continuing the handler iteration over `rest`, after the events
`lead` of the same section. -/
inductive Dispatched
    (queue : Queue) (loop : LoopKind) (msg : QueuedMsg)
    (rest : List Handler) (lead : List Event) : Outcome → Prop
  | handle {handler : Handler} :
      queue.exit = false →
      rest.find? (fun handler => handler.accepts msg.toMsg) = some handler →
      Dispatched queue loop msg rest lead
        { queue := queue.markHandling loop msg.msgSeq true
          pc := .handling loop msg handler.node
          events := lead ++
            [.handled msg.msgSeq msg.handlerId handler.handlerId] }
  | finish :
      (queue.exit = false →
        ∀ handler ∈ rest, handler.accepts msg.toMsg = false) →
      Dispatched queue loop msg rest lead
        { queue := queue.removePicked loop msg.msgSeq
          pc := .test loop 0
          events := lead ++ [.removed msg.msgSeq
            (queue.seqs.filter fun seq =>
              !(queue.removePicked loop msg.msgSeq).seqs.contains seq)
            queue.exit]
          notifyDone := true }

theorem dispatch_dispatched
    (queue : Queue) (loop : LoopKind) (msg : QueuedMsg)
    (rest : List Handler) (lead : List Event) :
    Dispatched queue loop msg rest lead
      { queue.dispatch loop msg rest with
        events := lead ++ (queue.dispatch loop msg rest).events } := by
  cases stopping : queue.exit with
  | true =>
      rw [Queue.dispatch, stopping, if_pos rfl]
      have finished : Dispatched queue loop msg rest lead _ :=
        .finish (by simp [stopping])
      simpa [Queue.finishDispatch, stopping] using finished
  | false =>
      cases chosen :
          rest.find? (fun handler => handler.accepts msg.toMsg) with
      | none =>
          have finished : Dispatched queue loop msg rest lead _ :=
            .finish fun _ => by simpa using List.find?_eq_none.mp chosen
          simpa [Queue.dispatch, Queue.finishDispatch, stopping, chosen]
            using finished
      | some handler =>
          simpa [Queue.dispatch, stopping, chosen] using
            (Dispatched.handle stopping chosen :
              Dispatched queue loop msg rest lead _)

/-- The loop takes this message next. -/
structure Selects
    (queue : Queue) (loop : LoopKind) (msg : QueuedMsg) : Prop where
  /-- The message is queued. -/
  present : msg ∈ queue.lstMsg
  /-- It is the front message, except that the timer loop may pass over
  delayed messages. -/
  front : (loop = .enterTimerLoop →
      ∀ queued ∈ queue.lstMsg, queued.timer.type = .kImmediately) →
    queue.lstMsg.head? = some msg

/-- Results of the sections that look for the next message. -/
inductive Entered
    (queue : Queue) (loop : LoopKind) (waitTime : Int) : Outcome → Prop
  | sleep {waits : Int} :
      (queue.lstMsg = [] ∨
        loop = .enterTimerLoop ∧ waits = waitTime ∧ 0 < waitTime) →
      Entered queue loop waitTime
        { queue := queue, pc := .asleep loop waits false }
  | rest {newWait : Int} :
      loop = .enterTimerLoop →
      queue.lstMsg ≠ [] →
      (∀ queued ∈ queue.lstMsg, queued.timer.type = .kAfter) →
      Entered queue loop waitTime
        { queue := queue, pc := .test .enterTimerLoop newWait, scanned := true }
  | pick {msg : QueuedMsg} {outcome : Outcome} :
      Selects queue loop msg →
      Dispatched queue loop msg queue.lstHandler [.picked msg.msgSeq] outcome →
      Entered queue loop waitTime outcome
  | undefined :
      loop = .doTask →
      queue.lstMsg = [] →
      Entered queue loop waitTime { queue := queue, pc := .undefined }

theorem pick_entered
    {queue : Queue} {loop : LoopKind} {msg : QueuedMsg}
    (waitTime : Int)
    (selected : Selects queue loop msg) :
    Entered queue loop waitTime (queue.pick loop msg) :=
  .pick selected
    (dispatch_dispatched queue loop msg queue.lstHandler [.picked msg.msgSeq])

/-- The front loops select the head of the list. -/
theorem selects_front
    {queue : Queue} {loop : LoopKind} {msg : QueuedMsg} {rest : List QueuedMsg}
    (queued : queue.lstMsg = msg :: rest) :
    Selects queue loop msg where
  present := by simp [queued]
  front := by simp [queued]

/-- A picked message is in the scanned list, and a scan that picks nothing saw
only delayed messages. -/
theorem scan_cases
    (clock : Nat → Nat) (reading : Nat) (waitTime waitTimeMin : Int)
    (msgs : List QueuedMsg) :
    (∃ msg ∈ msgs, (scan clock reading waitTime waitTimeMin msgs).1 = some msg) ∨
      (scan clock reading waitTime waitTimeMin msgs).1 = none ∧
        ∀ msg ∈ msgs, msg.timer.type = .kAfter := by
  induction msgs generalizing reading waitTime waitTimeMin with
  | nil => exact Or.inr ⟨rfl, by simp⟩
  | cons msg rest inductionHypothesis =>
      have later := fun reading waitTime waitTimeMin =>
        inductionHypothesis reading waitTime waitTimeMin
      cases kind : msg.timer.type with
      | kImmediately =>
          exact Or.inl ⟨msg, by simp, by simp [scan, kind]⟩
      | kAfter =>
          have extend : ∀ reading waitTime waitTimeMin,
              (∃ found ∈ msg :: rest,
                (scan clock reading waitTime waitTimeMin rest).1 = some found) ∨
              (scan clock reading waitTime waitTimeMin rest).1 = none ∧
                ∀ queued ∈ msg :: rest, queued.timer.type = .kAfter := by
            intro reading waitTime waitTimeMin
            rcases later reading waitTime waitTimeMin with
              ⟨found, present, picked⟩ | ⟨picked, delayed⟩
            · exact Or.inl ⟨found, by simp [present], picked⟩
            · refine Or.inr ⟨picked, ?_⟩
              intro queued present
              rcases List.mem_cons.mp present with equal | inRest
              · rw [equal, kind]
              · exact delayed queued inRest
          simp only [scan, kind]
          split
          · exact Or.inl ⟨msg, by simp, rfl⟩
          · split
            · exact Or.inl ⟨msg, by simp, rfl⟩
            · split
              · exact extend _ _ _
              · exact extend _ _ _

/-- When only immediate messages are queued the scan picks the front one. -/
theorem scan_immediate
    (clock : Nat → Nat) (reading : Nat) (waitTime waitTimeMin : Int)
    (msg : QueuedMsg) (rest : List QueuedMsg)
    (immediate : msg.timer.type = .kImmediately) :
    scan clock reading waitTime waitTimeMin (msg :: rest) = (some msg, 0) := by
  simp [scan, immediate]

theorem scanSection_entered
    (queue : Queue) (waitTime enterWait : Int) (clock : Nat → Nat)
    (queued : queue.lstMsg ≠ []) :
    Entered queue .enterTimerLoop enterWait
      (queue.scanSection waitTime clock) := by
  unfold Queue.scanSection
  have cases := scan_cases clock 0 waitTime 0 queue.lstMsg
  cases scanned : scan clock 0 waitTime 0 queue.lstMsg with
  | mk picked newWait =>
      rw [scanned] at cases
      cases picked with
      | none =>
          rcases cases with ⟨_, _, picked⟩ | ⟨_, delayed⟩
          · cases picked
          · exact .rest rfl queued delayed
      | some msg =>
          rcases cases with ⟨found, present, picked⟩ | ⟨picked, _⟩
          · cases picked
            apply pick_entered
            refine ⟨present, fun immediate => ?_⟩
            cases list : queue.lstMsg with
            | nil => exact absurd list queued
            | cons head rest =>
                have first := scan_immediate clock 0 waitTime 0 head rest
                  (immediate rfl head (by simp [list]))
                rw [list, first] at scanned
                cases scanned
                rfl
          · cases picked

theorem pickFront_entered
    (queue : Queue) (loop : LoopKind) (waitTime : Int)
    (queued : queue.lstMsg ≠ []) :
    Entered queue loop waitTime (queue.pickFront loop) := by
  cases list : queue.lstMsg with
  | nil => exact absurd list queued
  | cons msg rest =>
      have selected : Selects queue loop msg := selects_front list
      have picked := pick_entered waitTime selected
      simpa [Queue.pickFront, list] using picked

theorem enterSection_entered
    (queue : Queue) (loop : LoopKind) (waitTime : Int) (clock : Nat → Nat) :
    Entered { queue with exitDone := false } loop waitTime
      (queue.enterSection loop waitTime clock) := by
  by_cases queued : queue.lstMsg = []
  · cases loop with
    | doTask =>
        simpa [Queue.enterSection, Queue.pickFront, queued] using
          (Entered.undefined rfl queued :
            Entered { queue with exitDone := false } .doTask waitTime _)
    | enterLoop =>
        simpa [Queue.enterSection, queued] using
          (Entered.sleep (Or.inl queued) :
            Entered { queue with exitDone := false } .enterLoop waitTime _)
    | enterTimerLoop =>
        simpa [Queue.enterSection, queued] using
          (Entered.sleep (Or.inl queued) :
            Entered { queue with exitDone := false } .enterTimerLoop waitTime _)
  · have nonempty : queue.lstMsg.isEmpty = false := by
      simpa using queued
    cases loop with
    | doTask => exact pickFront_entered _ .doTask waitTime queued
    | enterLoop =>
        simpa [Queue.enterSection, nonempty] using
          pickFront_entered { queue with exitDone := false } .enterLoop
            waitTime queued
    | enterTimerLoop =>
        by_cases waiting : 0 < waitTime
        · simpa [Queue.enterSection, nonempty, waiting] using
            (Entered.sleep (Or.inr ⟨rfl, rfl, waiting⟩) :
              Entered { queue with exitDone := false } .enterTimerLoop
                waitTime _)
        · simpa [Queue.enterSection, nonempty, waiting] using
            scanSection_entered { queue with exitDone := false } waitTime
              waitTime clock queued

theorem wakeSection_entered
    (queue : Queue) (loop : LoopKind) (clock : Nat → Nat) :
    Entered queue loop 0 (queue.wakeSection loop clock) := by
  by_cases queued : queue.lstMsg = []
  · have sleeps : ∀ waits,
        Entered queue loop 0 { queue := queue, pc := .asleep loop waits false } :=
      fun _ => .sleep (Or.inl queued)
    cases loop <;> simpa [Queue.wakeSection, queued] using sleeps _
  · have nonempty : queue.lstMsg.isEmpty = false := by
      simpa using queued
    have front := pickFront_entered queue loop 0 queued
    cases loop with
    | doTask => simpa [Queue.wakeSection, nonempty] using front
    | enterLoop => simpa [Queue.wakeSection, nonempty] using front
    | enterTimerLoop =>
        simpa [Queue.wakeSection, nonempty] using
          scanSection_entered queue 0 0 clock queued

/-- A woken loop never takes the front of an empty list. -/
theorem wakeSection_defined
    (queue : Queue) (loop : LoopKind) (clock : Nat → Nat) :
    (queue.wakeSection loop clock).pc ≠ .undefined := by
  by_cases queued : queue.lstMsg = []
  · cases loop <;> simp [Queue.wakeSection, queued]
  · have entered := wakeSection_entered queue loop clock
    generalize queue.wakeSection loop clock = outcome at entered
    cases entered with
    | sleep cause => simp
    | rest timer nonempty delayed => simp
    | pick selected dispatched => cases dispatched <;> simp
    | undefined task empty => exact absurd empty queued

/-- Results of the section after a handler call. -/
inductive Returned
    (queue : Queue) (loop : LoopKind) (msg : QueuedMsg) (node : Nat) :
    Outcome → Prop
  | resume {rest : List Handler} {outcome : Outcome} :
      msg.msgSeq ∈ queue.seqs →
      handlersAfter node queue.lstHandler = some rest →
      Dispatched (queue.markHandling loop msg.msgSeq false) loop msg rest []
        outcome →
      Returned queue loop msg node outcome
  | undefined :
      (msg.msgSeq ∈ queue.seqs → handlersAfter node queue.lstHandler = none) →
      Returned queue loop msg node { queue := queue, pc := .undefined }

@[simp] theorem Queue.markHandling_lstHandler
    (queue : Queue) (loop : LoopKind) (seq : Int) (flag : Bool) :
    (queue.markHandling loop seq flag).lstHandler = queue.lstHandler := by
  cases loop <;> rfl

theorem returnSection_returned
    (queue : Queue) (loop : LoopKind) (msg : QueuedMsg) (node : Nat) :
    Returned queue loop msg node (queue.returnSection loop msg node) := by
  unfold Queue.returnSection
  by_cases present : msg.msgSeq ∈ queue.seqs
  · rw [if_pos present]
    simp only [Queue.markHandling_lstHandler]
    cases after : handlersAfter node queue.lstHandler with
    | none => exact .undefined fun _ => after
    | some rest =>
        have dispatched := dispatch_dispatched
          (queue.markHandling loop msg.msgSeq false) loop msg rest []
        exact .resume present after dispatched
  · rw [if_neg present]
    exact .undefined fun queued => absurd queued present

/-- Client steps that neither edit the queue nor notify anybody: the call moves
from one point to another and may leave events. -/
inductive ClientMove {n : Nat} (queue : Queue) :
    Action n → Nat → ClientPc → ClientPc → List Event → Prop
  | sendChecked {client : Nat} {msg : Msg} :
      queue.hasHandler msg.handlerId = true →
      ClientMove queue (.sendCheck client msg) client .idle (.sending msg) []
  | sendRefused {client : Nat} {msg : Msg} :
      queue.hasHandler msg.handlerId = false →
      ClientMove queue (.sendCheck client msg) client .idle .idle [.refused]
  | waitBegun {client : Nat} {goal : WaitFor} :
      ClientMove queue (.waitBegin client goal) client .idle (.waiting goal) []
  | waitSkipped {client : Nat} {goal : WaitFor} :
      ClientMove queue (.waitBegin client goal) client .idle .idle []
  | waitFound {client : Nat} {goal : WaitFor} {pc : ClientPc} :
      queue.lstMsg.any goal.found = true →
      ClientMove queue (.waitCheck client) client pc (.asleep goal false) []
  | waitDone {client : Nat} {pc : ClientPc} :
      ClientMove queue (.waitCheck client) client pc .idle []
  | quitChecked {client : Nat} :
      queue.hasHandler defaultHandlerId = true →
      ClientMove queue (.quitCheck client) client .quitting .quitSending []
  | quitRefused {client : Nat} :
      queue.hasHandler defaultHandlerId = false →
      ClientMove queue (.quitCheck client) client .quitting .quitWaiting
        [.refused, .quitSent]
  | quitWaited {client : Nat} {pc : ClientPc} :
      queue.exitDone = false →
      ClientMove queue (.quitWait client) client pc (.quitAsleep false) []
  | quitDone {client : Nat} {pc : ClientPc} :
      queue.exitDone = true →
      ClientMove queue (.quitWait client) client pc .quitReturned []

/-- The two calls that push a message, with the point they continue at and the
events they add. -/
inductive PushCall {n : Nat} :
    Action n → Nat → Option (Fin n) → ClientPc → Msg → ClientPc →
    List Event → Prop
  | send {client : Nat} {woken : Option (Fin n)} {msg : Msg} :
      PushCall (.sendPush client woken) client woken (.sending msg) msg .idle []
  | quit {client : Nat} {woken : Option (Fin n)} :
      PushCall (.quitPush client woken) client woken .quitSending
        (.ofId invalidMsgId defaultHandlerId) .quitWaiting [.quitSent]

/-- What a successful push does, whichever sleeping loop it reaches. -/
structure Pushed {n : Nat} (state : State n) (msg : Msg) (next : State n) :
    Prop where
  /-- The message is appended. -/
  queue : next.queue = state.queue.push msg
  /-- Client calls stay where they are. -/
  clients : next.clients = state.clients
  /-- No loop scans. -/
  scanMark : next.scanMark = state.scanMark
  /-- The returned sequence number is recorded. -/
  trace : next.trace = state.trace ++ [.accepted state.queue.msgSeq]
  /-- A loop is left alone or notified. -/
  loops : ∀ thread, next.loops thread = state.loops thread ∨
    next.loops thread = (state.loops thread).notifyMsg
  /-- Some sleeping loop is reached if there is one. -/
  reached : (∃ thread, next.loops thread = (state.loops thread).notifyMsg ∧
      (state.loops thread).sleeping = true) ∨
    ∀ thread, (state.loops thread).sleeping = false

theorem State.push_pushed
    {n : Nat} {state next : State n} {msg : Msg} {woken : Option (Fin n)}
    (pushed : state.push msg woken = some next) :
    Pushed state msg next := by
  cases woken with
  | none =>
      simp only [State.push, State.notifyMsg] at pushed
      split at pushed
      · rename_i awake
        cases pushed
        exact ⟨rfl, rfl, rfl, rfl, fun _ => Or.inl rfl, Or.inr awake⟩
      · cases pushed
  | some woken =>
      simp only [State.push, State.notifyMsg] at pushed
      split at pushed
      · rename_i asleep
        cases pushed
        refine ⟨rfl, rfl, rfl, rfl, ?_,
          Or.inl ⟨woken, by simp [State.setLoop, State.log], asleep⟩⟩
        intro thread
        by_cases same : thread = woken
        · subst same
          exact Or.inr (by simp [State.setLoop, State.log])
        · exact Or.inl (by simp [State.setLoop, State.log, same])
      · cases pushed

@[simp] theorem LoopPc.notifyMsg_eq_handling
    {pc : LoopPc} {loop : LoopKind} {msg : QueuedMsg} {node : Nat} :
    pc.notifyMsg = .handling loop msg node ↔ pc = .handling loop msg node := by
  cases pc <;> simp [LoopPc.notifyMsg]

@[simp] theorem LoopPc.notifyMsg_eq_undefined {pc : LoopPc} :
    pc.notifyMsg = .undefined ↔ pc = .undefined := by
  cases pc <;> simp [LoopPc.notifyMsg]

/-- With a single loop thread every push notifies it. -/
theorem Pushed.loops_single
    {state next : State 1} {msg : Msg}
    (pushed : Pushed state msg next) :
    next.loops 0 = (state.loops 0).notifyMsg := by
  rcases pushed.reached with ⟨thread, notified, _⟩ | awake
  · rw [Subsingleton.elim 0 thread]
    exact notified
  · rcases pushed.loops 0 with same | notified
    · rw [same]
      have quiet := awake 0
      cases pc : state.loops 0 with
      | asleep loop waitTime flag =>
          cases flag with
          | true => rfl
          | false => simp [pc, LoopPc.sleeping] at quiet
      | _ => rfl
    · exact notified

/-- Loop steps outside the mutex that only move the thread. -/
inductive LoopMove {n : Nat} (queue : Queue) :
    Action n → Fin n → LoopPc → LoopPc → Prop
  | begin {thread : Fin n} {loop : LoopKind} :
      LoopMove queue (.loopBegin thread loop) thread .idle (.test loop 0)
  | pass {thread : Fin n} {loop : LoopKind} {waitTime : Int} :
      State.testPasses queue loop = true →
      LoopMove queue (.loopTest thread) thread (.test loop waitTime)
        (.enter loop waitTime)
  | leave {thread : Fin n} {loop : LoopKind} {waitTime : Int} :
      State.testPasses queue loop = false →
      LoopMove queue (.loopTest thread) thread (.test loop waitTime) .finishing

/-- Mutex-held loop sections, by the point at which they begin. -/
inductive LoopSection {n : Nat} (queue : Queue) :
    Action n → Fin n → LoopPc → Outcome → Prop
  | enter
      {thread : Fin n} {clock : Nat → Nat} {loop : LoopKind} {waitTime : Int}
      {outcome : Outcome} :
      Entered { queue with exitDone := false } loop waitTime outcome →
      LoopSection queue (.loopEnter thread clock) thread (.enter loop waitTime)
        outcome
  | wake
      {thread : Fin n} {clock : Nat → Nat} {loop : LoopKind} {waitTime : Int}
      {notified : Bool} {outcome : Outcome} :
      Entered queue loop 0 outcome →
      outcome.pc ≠ .undefined →
      LoopSection queue (.loopWake thread clock) thread
        (.asleep loop waitTime notified) outcome
  | resume
      {thread : Fin n} {loop : LoopKind} {msg : QueuedMsg} {node : Nat}
      {outcome : Outcome} :
      Returned queue loop msg node outcome →
      LoopSection queue (.loopReturn thread) thread (.handling loop msg node)
        outcome

/-- The whole step relation. -/
inductive Fires {n : Nat} (state : State n) : Action n → State n → Prop
  | client
      {action : Action n} {client : Nat} {source pc : ClientPc}
      {events : List Event} :
      state.clients client = source →
      ClientMove state.queue action client source pc events →
      Fires state action ((state.setClient client pc).log events)
  | push
      {action : Action n} {client : Nat} {woken : Option (Fin n)}
      {msg : Msg} {source pc : ClientPc} {events : List Event}
      {pushed : State n} :
      state.clients client = source →
      PushCall action client woken source msg pc events →
      Pushed (state.setClient client pc) msg pushed →
      Fires state action (pushed.log events)
  | quitBegin {client : Nat} :
      state.clients client = .idle →
      Fires state (.quitBegin client)
        ({ state with queue := { state.queue with exit := true } }.setClient
          client .quitting)
  | edit {edit : Edit} :
      Fires state (.edit edit) { state with queue := edit.apply state.queue }
  | addHandler {handlerId : Int} {broadcast : Bool} :
      Fires state (.addHandler handlerId broadcast)
        { state with queue := state.queue.addHandler handlerId broadcast }
  | loopMove {action : Action n} {thread : Fin n} {source pc : LoopPc} :
      state.loops thread = source →
      LoopMove state.queue action thread source pc →
      Fires state action (state.setLoop thread pc)
  | loopSection
      {action : Action n} {thread : Fin n} {source : LoopPc}
      {outcome : Outcome} :
      state.loops thread = source →
      LoopSection state.queue action thread source outcome →
      Fires state action (state.commit thread outcome)
  | loopFinish {thread : Fin n} :
      state.loops thread = .finishing →
      Fires state (.loopFinish thread)
        ({ state with queue := { state.queue with exitDone := true } }.setLoop
          thread .notifying)
  | loopNotify {thread : Fin n} :
      state.loops thread = .notifying →
      Fires state (.loopNotify thread) (state.notifyDone.setLoop thread .idle)

namespace State

variable {n : Nat} {state next : State n}

private theorem stepClient_fires
    {action : Action n}
    (stepped : state.stepClient action = some next) :
    Fires state action next := by
  unfold stepClient at stepped
  cases action with
  | sendCheck client msg =>
      cases pc : state.clients client with
      | idle =>
          simp only [pc] at stepped
          split at stepped
          · rename_i registered
            cases stepped
            simpa [log] using Fires.client pc (.sendChecked registered)
          · rename_i unregistered
            cases stepped
            exact .client pc (.sendRefused (by simpa using unregistered))
      | _ => simp [pc] at stepped
  | sendPush client woken =>
      cases pc : state.clients client with
      | sending msg =>
          simp only [pc] at stepped
          have pushed := push_pushed stepped
          simpa [log] using Fires.push pc (.send : PushCall _ _ woken _ _ _ _)
            pushed
      | _ => simp [pc] at stepped
  | waitBegin client goal =>
      cases pc : state.clients client with
      | idle =>
          have begun : Fires state (.waitBegin client goal) _ :=
            .client pc .waitBegun
          have skipped : Fires state (.waitBegin client goal) _ :=
            .client pc .waitSkipped
          simp only [log, List.append_nil] at begun skipped
          cases goal with
          | seqDone seq =>
              simp only [pc] at stepped
              split at stepped
              · cases stepped
                exact skipped
              · cases stepped
                exact begun
          | allMsgDone handler =>
              simp only [pc, Option.some.injEq] at stepped
              exact stepped ▸ begun
          | msgDone msgId handlerId =>
              simp only [pc, Option.some.injEq] at stepped
              exact stepped ▸ begun
      | _ => simp [pc] at stepped
  | waitCheck client =>
      have finish : ∀ goal,
          (if state.queue.lstMsg.any goal.found then
              some (state.setClient client (.asleep goal false))
            else some (state.setClient client .idle)) = some next →
          Fires state (.waitCheck client) next := by
        intro goal checked
        split at checked
        · rename_i found
          cases checked
          simpa [log] using Fires.client rfl (.waitFound found)
        · cases checked
          simpa [log] using Fires.client rfl .waitDone
      cases pc : state.clients client with
      | waiting goal =>
          simp only [pc] at stepped
          exact finish goal stepped
      | asleep goal notified =>
          simp only [pc] at stepped
          exact finish goal stepped
      | _ => simp [pc] at stepped
  | quitBegin client =>
      cases pc : state.clients client with
      | idle =>
          simp only [pc, Option.some.injEq] at stepped
          exact stepped ▸ .quitBegin pc
      | _ => simp [pc] at stepped
  | quitCheck client =>
      cases pc : state.clients client with
      | quitting =>
          simp only [pc] at stepped
          split at stepped
          · rename_i registered
            cases stepped
            simpa [log] using Fires.client pc (.quitChecked registered)
          · rename_i unregistered
            cases stepped
            exact .client pc (.quitRefused (by simpa using unregistered))
      | _ => simp [pc] at stepped
  | quitPush client woken =>
      cases pc : state.clients client with
      | quitSending =>
          simp only [pc, Option.map_eq_some_iff] at stepped
          obtain ⟨pushed, accepted, rfl⟩ := stepped
          exact .push pc (.quit : PushCall _ _ woken _ _ _ _)
            (push_pushed accepted)
      | _ => simp [pc] at stepped
  | quitWait client =>
      have finish :
          (if state.queue.exitDone then
              some (state.setClient client .quitReturned)
            else some (state.setClient client (.quitAsleep false))) =
              some next →
          Fires state (.quitWait client) next := by
        intro checked
        split at checked
        · rename_i done
          cases checked
          simpa [log] using Fires.client rfl (.quitDone done)
        · rename_i pending
          cases checked
          simpa [log] using
            Fires.client rfl (.quitWaited (by simpa using pending))
      cases pc : state.clients client with
      | quitWaiting =>
          simp only [pc] at stepped
          exact finish stepped
      | quitAsleep notified =>
          simp only [pc] at stepped
          exact finish stepped
      | _ => simp [pc] at stepped
  | _ => simp at stepped

private theorem stepLoop_fires
    {action : Action n}
    (stepped : state.stepLoop action = some next) :
    Fires state action next := by
  unfold stepLoop at stepped
  cases action with
  | loopBegin thread loop =>
      cases pc : state.loops thread with
      | idle =>
          simp only [pc, Option.some.injEq] at stepped
          exact stepped ▸ .loopMove pc .begin
      | _ => simp [pc] at stepped
  | loopTest thread =>
      cases pc : state.loops thread with
      | test loop waitTime =>
          simp only [pc] at stepped
          split at stepped
          · rename_i passes
            cases stepped
            exact .loopMove pc (.pass passes)
          · rename_i fails
            cases stepped
            exact .loopMove pc (.leave (by simpa using fails))
      | _ => simp [pc] at stepped
  | loopEnter thread clock =>
      cases pc : state.loops thread with
      | enter loop waitTime =>
          simp only [pc, Option.some.injEq] at stepped
          exact stepped ▸ .loopSection pc
            (.enter (enterSection_entered state.queue loop waitTime clock))
      | _ => simp [pc] at stepped
  | loopWake thread clock =>
      cases pc : state.loops thread with
      | asleep loop waitTime notified =>
          simp only [pc, Option.some.injEq] at stepped
          exact stepped ▸ .loopSection pc
            (.wake (wakeSection_entered state.queue loop clock)
              (wakeSection_defined state.queue loop clock))
      | _ => simp [pc] at stepped
  | loopReturn thread =>
      cases pc : state.loops thread with
      | handling loop msg node =>
          simp only [pc, Option.some.injEq] at stepped
          exact stepped ▸ .loopSection pc
            (.resume (returnSection_returned state.queue loop msg node))
      | _ => simp [pc] at stepped
  | loopFinish thread =>
      cases pc : state.loops thread with
      | finishing =>
          simp only [pc, Option.some.injEq] at stepped
          exact stepped ▸ .loopFinish pc
      | _ => simp [pc] at stepped
  | loopNotify thread =>
      cases pc : state.loops thread with
      | notifying =>
          simp only [pc, Option.some.injEq] at stepped
          exact stepped ▸ .loopNotify pc
      | _ => simp [pc] at stepped
  | _ => simp at stepped

/-- Every step of the executable system is one of the described steps. -/
theorem step_fires
    {action : Action n}
    (stepped : state.step action = some next) :
    Fires state action next := by
  cases action with
  | edit edit =>
      simp only [step, Option.some.injEq] at stepped
      exact stepped ▸ .edit
  | addHandler handlerId broadcast =>
      simp only [step, Option.some.injEq] at stepped
      exact stepped ▸ .addHandler
  | sendCheck | sendPush | waitBegin | waitCheck | quitBegin | quitCheck
  | quitPush | quitWait => exact stepClient_fires stepped
  | loopBegin | loopTest | loopEnter | loopWake | loopReturn | loopFinish
  | loopNotify => exact stepLoop_fires stepped

end State
end MsgQueue
end Skplat
