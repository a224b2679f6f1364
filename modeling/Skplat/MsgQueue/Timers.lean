import Mathlib.Order.Bounds.Basic
import Mathlib.Order.MinMax
import Skplat.MsgQueue.Loops

/-!
# The scan of the timer loop

`enter_timer_loop` scans `lst_msg` from the front and reads the clock once for
every delayed message it meets.  It stops at the first message that is due.  When
none is due the scan leaves a wait time, which is compared with the first
remaining delay only: `wait_time_min` is set once and never lowered.
-/

namespace Skplat
namespace MsgQueue

/-! ## Selection -/

/-- The message is due at a reading of the clock. -/
def DueAt (clock : Nat → Nat) (reading : Nat) (msg : QueuedMsg) : Prop :=
  msg.timer.type = .kImmediately ∨
    msg.timer.after ≤ gettickspan msg.recordTime (clock reading)

instance (clock : Nat → Nat) (reading : Nat) (msg : QueuedMsg) :
    Decidable (DueAt clock reading msg) :=
  inferInstanceAs (Decidable (_ ∨ _))

/-- The first message that is due when the scan examines it.  The scan reads the
clock once for every message in front of it. -/
structure FirstDue
    (clock : Nat → Nat) (msgs : List QueuedMsg)
    (index : Nat) (msg : QueuedMsg) : Prop where
  /-- The place of the message. -/
  place : msgs[index]? = some msg
  /-- It is due. -/
  due : DueAt clock index msg
  /-- The scan passed everything in front of it. -/
  first : ∀ earlier < index, ∀ other, msgs[earlier]? = some other →
    ¬ DueAt clock earlier other

/-- No message is due when the scan examines it. -/
def NoneDue (clock : Nat → Nat) (msgs : List QueuedMsg) : Prop :=
  ∀ index msg, msgs[index]? = some msg → ¬ DueAt clock index msg

/-- The readings that are left behind the first message. -/
def laterReadings (clock : Nat → Nat) : Nat → Nat :=
  fun reading => clock (reading + 1)

theorem FirstDue.cons
    {clock : Nat → Nat} {msgs : List QueuedMsg} {index : Nat}
    {head msg : QueuedMsg}
    (notDue : ¬ DueAt clock 0 head)
    (firstDue : FirstDue (laterReadings clock) msgs index msg) :
    FirstDue clock (head :: msgs) (index + 1) msg where
  place := by simpa using firstDue.place
  due := firstDue.due
  first := by
    intro earlier before other place
    cases earlier with
    | zero =>
        cases place
        exact notDue
    | succ earlier =>
        exact firstDue.first earlier (by omega) other (by simpa using place)

theorem noneDue_cons
    {clock : Nat → Nat} {head : QueuedMsg} {msgs : List QueuedMsg} :
    NoneDue clock (head :: msgs) ↔
      ¬ DueAt clock 0 head ∧ NoneDue (laterReadings clock) msgs := by
  constructor
  · intro noneDue
    refine ⟨noneDue 0 head rfl, ?_⟩
    intro index msg place
    exact noneDue (index + 1) msg (by simpa using place)
  · rintro ⟨notDue, later⟩ index msg place
    cases index with
    | zero =>
        cases place
        exact notDue
    | succ index => exact later index msg (by simpa using place)

instance decidableNoneDue (clock : Nat → Nat) :
    (msgs : List QueuedMsg) → Decidable (NoneDue clock msgs)
  | [] => .isTrue (by simp [NoneDue])
  | _ :: rest =>
      have := decidableNoneDue (laterReadings clock) rest
      decidable_of_iff _ noneDue_cons.symm

/-- What is left of a delay at a reading of the clock. -/
def remainingAt (clock : Nat → Nat) (reading : Nat) (msg : QueuedMsg) : Int :=
  msg.timer.after - gettickspan msg.recordTime (clock reading)

/-- The scan starts over with the readings that are left. -/
theorem scan_laterReadings
    (clock : Nat → Nat) (reading : Nat) (waitTime waitTimeMin : Int)
    (msgs : List QueuedMsg) :
    scan clock (reading + 1) waitTime waitTimeMin msgs =
      scan (laterReadings clock) reading waitTime waitTimeMin msgs := by
  induction msgs generalizing reading waitTime waitTimeMin with
  | nil => rfl
  | cons msg rest inductionHypothesis =>
      simp only [scan, inductionHypothesis]
      rfl

theorem scan_of_due
    {clock : Nat → Nat} {msg : QueuedMsg}
    (due : DueAt clock 0 msg)
    (waitTime waitTimeMin : Int) (rest : List QueuedMsg) :
    scan clock 0 waitTime waitTimeMin (msg :: rest) = (some msg, 0) := by
  cases kind : msg.timer.type with
  | kImmediately => simp [scan, kind]
  | kAfter =>
      have elapsed : msg.timer.after ≤ gettickspan msg.recordTime (clock 0) :=
        due.resolve_left (by simp [kind])
      simp [scan, kind, elapsed]

/-- A message that is not due takes one reading and leaves its remaining delay, or
the one kept in `wait_time_min` when that is smaller. -/
theorem scan_of_not_due
    {clock : Nat → Nat} {msg : QueuedMsg}
    (notDue : ¬ DueAt clock 0 msg)
    (waitTime waitTimeMin : Int) (rest : List QueuedMsg) :
    0 < remainingAt clock 0 msg ∧
      scan clock 0 waitTime waitTimeMin (msg :: rest) =
        if waitTimeMin = 0 then
          scan (laterReadings clock) 0 (remainingAt clock 0 msg)
            (remainingAt clock 0 msg) rest
        else
          scan (laterReadings clock) 0
            (min waitTimeMin (remainingAt clock 0 msg)) waitTimeMin rest := by
  obtain ⟨notImmediate, notElapsed⟩ := not_or.mp notDue
  have kind : msg.timer.type = .kAfter := by
    cases kind : msg.timer.type with
    | kAfter => rfl
    | kImmediately => exact absurd kind notImmediate
  have positive : 0 < remainingAt clock 0 msg := by
    unfold remainingAt
    omega
  refine ⟨positive, ?_⟩
  have smaller : (if waitTimeMin < remainingAt clock 0 msg then waitTimeMin
      else remainingAt clock 0 msg) = min waitTimeMin (remainingAt clock 0 msg) := by
    split <;> omega
  simp only [scan, kind, notElapsed, if_false, scan_laterReadings]
  change (if remainingAt clock 0 msg < 0 then _ else _) = _
  rw [if_neg (by omega), ← smaller]
  rfl

/-- A scan selects the first due message, or none is due. -/
theorem scan_selects
    (clock : Nat → Nat) (waitTime waitTimeMin : Int) (msgs : List QueuedMsg) :
    (∃ index msg, FirstDue clock msgs index msg ∧
        (scan clock 0 waitTime waitTimeMin msgs).1 = some msg) ∨
      NoneDue clock msgs ∧ (scan clock 0 waitTime waitTimeMin msgs).1 = none := by
  induction msgs generalizing clock waitTime waitTimeMin with
  | nil => exact Or.inr ⟨by simp [NoneDue], rfl⟩
  | cons head rest inductionHypothesis =>
      by_cases due : DueAt clock 0 head
      · refine Or.inl ⟨0, head, ⟨rfl, due, by simp⟩, ?_⟩
        rw [scan_of_due due]
      · have later : ∀ waitTime waitTimeMin,
            (∃ index msg, FirstDue clock (head :: rest) index msg ∧
              (scan (laterReadings clock) 0 waitTime waitTimeMin rest).1 =
                some msg) ∨
            NoneDue clock (head :: rest) ∧
              (scan (laterReadings clock) 0 waitTime waitTimeMin rest).1 =
                none := by
          intro waitTime waitTimeMin
          rcases inductionHypothesis (laterReadings clock) waitTime waitTimeMin
            with ⟨index, msg, firstDue, selected⟩ | ⟨noneDue, selected⟩
          · exact Or.inl ⟨index + 1, msg, firstDue.cons due, selected⟩
          · exact Or.inr ⟨noneDue_cons.mpr ⟨due, noneDue⟩, selected⟩
        rw [(scan_of_not_due due waitTime waitTimeMin rest).2]
        split
        · exact later _ _
        · exact later _ _

/-- Only one message is the first due one. -/
theorem FirstDue.unique
    {clock : Nat → Nat} {msgs : List QueuedMsg} {index other : Nat}
    {msg otherMsg : QueuedMsg}
    (firstDue : FirstDue clock msgs index msg)
    (otherDue : FirstDue clock msgs other otherMsg) :
    index = other ∧ msg = otherMsg := by
  have same : index = other := by
    rcases Nat.lt_trichotomy index other with before | same | behind
    · exact absurd firstDue.due (otherDue.first index before msg firstDue.place)
    · exact same
    · exact absurd otherDue.due
        (firstDue.first other behind otherMsg otherDue.place)
  subst same
  exact ⟨rfl, Option.some.inj (firstDue.place.symm.trans otherDue.place)⟩

/-- The scan selects exactly the first due message. -/
theorem scan_fst_eq_some_iff
    {clock : Nat → Nat} {waitTime waitTimeMin : Int} {msgs : List QueuedMsg}
    {msg : QueuedMsg} :
    (scan clock 0 waitTime waitTimeMin msgs).1 = some msg ↔
      ∃ index, FirstDue clock msgs index msg := by
  rcases scan_selects clock waitTime waitTimeMin msgs with
    ⟨index, first, firstDue, selected⟩ | ⟨noneDue, selected⟩
  · rw [selected, Option.some.injEq]
    constructor
    · rintro rfl
      exact ⟨index, firstDue⟩
    · rintro ⟨other, otherDue⟩
      exact (firstDue.unique otherDue).2
  · rw [selected]
    constructor
    · rintro ⟨⟩
    · rintro ⟨index, firstDue⟩
      exact absurd firstDue.due (noneDue index msg firstDue.place)

/-- What a section of the timer loop picks is what a scan selected. -/
theorem scanned_of_picked
    {queue : Queue} {waitTime : Int} {clock : Nat → Nat} {seq : Int}
    (picked : .picked seq ∈ (queue.scanSection waitTime clock).events) :
    ∃ msg, msg.msgSeq = seq ∧
      (scan clock 0 waitTime 0 queue.lstMsg).1 = some msg := by
  unfold Queue.scanSection at picked
  split at picked
  · rename_i msg _ scanned
    refine ⟨msg, ?_, by rw [scanned]⟩
    rcases List.mem_cons.mp picked with same | dispatched
    · cases same
      rfl
    · unfold Queue.dispatch Queue.finishDispatch at dispatched
      split at dispatched <;> simp at dispatched
  · simp at picked

/-- The scan of `enter_timer_loop` selects a message iff one is due when it is
examined, and then it selects the first such message; the loop hands out no other
message. -/
theorem timerLoop_selects (queue : Queue) (waitTime : Int) (clock : Nat → Nat) :
    (((scan clock 0 waitTime 0 queue.lstMsg).1.isSome = true ↔
        ∃ index msg, queue.lstMsg[index]? = some msg ∧ DueAt clock index msg) ∧
      ∀ msg, (scan clock 0 waitTime 0 queue.lstMsg).1 = some msg →
        ∃ index, FirstDue clock queue.lstMsg index msg) ∧
    ∀ seq, .picked seq ∈
        (queue.enterSection .enterTimerLoop waitTime clock).events ++
          (queue.wakeSection .enterTimerLoop clock).events →
      ∃ index msg, msg.msgSeq = seq ∧ FirstDue clock queue.lstMsg index msg := by
  refine ⟨⟨?_, fun msg selected => scan_fst_eq_some_iff.mp selected⟩, ?_⟩
  · constructor
    · intro selected
      obtain ⟨msg, found⟩ := Option.isSome_iff_exists.mp selected
      obtain ⟨index, firstDue⟩ := scan_fst_eq_some_iff.mp found
      exact ⟨index, msg, firstDue.place, firstDue.due⟩
    · rintro ⟨index, msg, place, due⟩
      rcases scan_selects clock waitTime 0 queue.lstMsg with
        ⟨_, first, _, selected⟩ | ⟨noneDue, _⟩
      · rw [selected]
        rfl
      · exact absurd due (noneDue index msg place)
  · intro seq picked
    have selected : ∃ waitTime msg, msg.msgSeq = seq ∧
        (scan clock 0 waitTime 0 queue.lstMsg).1 = some msg := by
      rcases List.mem_append.mp picked with entered | woken
      · simp only [Queue.enterSection] at entered
        split at entered
        · simp at entered
        · split at entered
          · simp at entered
          · have scanned : ∃ msg, msg.msgSeq = seq ∧
                (scan clock 0 waitTime 0
                  { queue with exitDone := false }.lstMsg).1 = some msg :=
              scanned_of_picked entered
            exact ⟨waitTime, scanned⟩
      · simp only [Queue.wakeSection] at woken
        split at woken
        · simp at woken
        · exact ⟨0, scanned_of_picked woken⟩
    obtain ⟨_, msg, sameSeq, scanned⟩ := selected
    obtain ⟨index, firstDue⟩ := scan_fst_eq_some_iff.mp scanned
    exact ⟨index, msg, sameSeq, firstDue⟩

/-! ## Wait time -/

/-- The remaining delays as the scan reads them. -/
def remaining (clock : Nat → Nat) (msgs : List QueuedMsg) : List Int :=
  msgs.mapIdx fun index msg => remainingAt clock index msg

theorem remaining_cons
    (clock : Nat → Nat) (msg : QueuedMsg) (rest : List QueuedMsg) :
    remaining clock (msg :: rest) =
      remainingAt clock 0 msg :: remaining (laterReadings clock) rest := by
  rw [remaining, List.mapIdx_cons]
  rfl

/-- With `wait_time_min` set, only the last message counts besides it. -/
theorem scan_snd_of_min
    {clock : Nat → Nat} {msgs : List QueuedMsg}
    (noneDue : NoneDue clock msgs)
    {waitTimeMin : Int} (isSet : 0 < waitTimeMin) (waitTime : Int) :
    (scan clock 0 waitTime waitTimeMin msgs).2 =
      match (remaining clock msgs).getLast? with
      | none => waitTime
      | some last => min waitTimeMin last := by
  induction msgs generalizing clock waitTime with
  | nil => rfl
  | cons msg rest inductionHypothesis =>
      obtain ⟨notDue, later⟩ := noneDue_cons.mp noneDue
      rw [(scan_of_not_due notDue waitTime waitTimeMin rest).2,
        if_neg (by omega), inductionHypothesis later, remaining_cons,
        List.getLast?_cons]
      cases (remaining (laterReadings clock) rest).getLast? with
      | none => rfl
      | some last => rfl

/-- The wait time that a scan without a due message leaves is the smaller one of
the first and the last remaining delay. -/
theorem scan_snd
    {clock : Nat → Nat} {msg : QueuedMsg} {rest : List QueuedMsg}
    (noneDue : NoneDue clock (msg :: rest)) (waitTime : Int) :
    (scan clock 0 waitTime 0 (msg :: rest)).2 =
      min (remainingAt clock 0 msg)
        (((remaining (laterReadings clock) rest).getLast?).getD
          (remainingAt clock 0 msg)) := by
  obtain ⟨notDue, later⟩ := noneDue_cons.mp noneDue
  obtain ⟨positive, scanned⟩ := scan_of_not_due notDue waitTime 0 rest
  rw [scanned, if_pos rfl, scan_snd_of_min later positive]
  cases (remaining (laterReadings clock) rest).getLast? with
  | none => simp
  | some last => rfl

/-- A message with the least remaining delay stands first or last. -/
def EarliestAtEnds (clock : Nat → Nat) (msgs : List QueuedMsg) : Prop :=
  ∃ least, ((remaining clock msgs).head? = some least ∨
      (remaining clock msgs).getLast? = some least) ∧
    ∀ other ∈ remaining clock msgs, least ≤ other

/-- The smaller one of the first and the last value of a list is the least one iff a
least one stands at one of the ends. -/
theorem isLeast_min_ends_iff
    {values : List Int} {first last : Int}
    (isFirst : values.head? = some first) (isLast : values.getLast? = some last) :
    IsLeast {value | value ∈ values} (min first last) ↔
      ∃ least, (values.head? = some least ∨ values.getLast? = some least) ∧
        ∀ other ∈ values, least ≤ other := by
  have firstMem : first ∈ values := List.mem_of_head? isFirst
  have lastMem : last ∈ values := List.mem_of_getLast? isLast
  rw [isFirst, isLast]
  constructor
  · rintro ⟨_, below⟩
    refine ⟨min first last, ?_, fun other present => below present⟩
    rcases min_choice first last with same | same
    · exact Or.inl (congrArg some same.symm)
    · exact Or.inr (congrArg some same.symm)
  · rintro ⟨least, atEnd, below⟩
    rcases atEnd with isEnd | isEnd
    · cases isEnd
      rw [min_eq_left (below _ lastMem)]
      exact ⟨firstMem, fun other present => below other present⟩
    · cases isEnd
      rw [min_eq_right (below _ firstMem)]
      exact ⟨lastMem, fun other present => below other present⟩

/-- The wait time left by a scan is the least remaining delay iff that is the delay
of the first or of the last message. -/
theorem isLeast_scan_snd_iff
    {clock : Nat → Nat} {msgs : List QueuedMsg}
    (nonempty : msgs ≠ []) (noneDue : NoneDue clock msgs) (waitTime : Int) :
    IsLeast {delay | delay ∈ remaining clock msgs}
        (scan clock 0 waitTime 0 msgs).2 ↔ EarliestAtEnds clock msgs := by
  cases msgs with
  | nil => exact absurd rfl nonempty
  | cons msg rest =>
      rw [scan_snd noneDue waitTime]
      apply isLeast_min_ends_iff
      · rw [remaining_cons]
        rfl
      · rw [remaining_cons, List.getLast?_cons]

/-- A scan that finds nothing due leaves a positive wait time. -/
theorem scan_snd_pos
    {clock : Nat → Nat} {msgs : List QueuedMsg}
    (nonempty : msgs ≠ []) (noneDue : NoneDue clock msgs) (waitTime : Int) :
    0 < (scan clock 0 waitTime 0 msgs).2 := by
  cases msgs with
  | nil => exact absurd rfl nonempty
  | cons msg rest =>
      have positive := (scan_of_not_due (noneDue 0 msg rfl) waitTime 0 rest).1
      rw [scan_snd noneDue waitTime]
      refine lt_min positive ?_
      cases found : (remaining (laterReadings clock) rest).getLast? with
      | none => exact positive
      | some last =>
          obtain ⟨index, inside, place⟩ :=
            List.getElem_of_mem (List.mem_of_getLast? found)
          simp only [remaining, List.length_mapIdx] at inside
          simp only [remaining, List.getElem_mapIdx] at place
          have notDue := (noneDue_cons.mp noneDue).2 index rest[index] (by simp)
          have left : 0 < remainingAt (fun _ => laterReadings clock index) 0 rest[index] :=
            (scan_of_not_due notDue 0 0 []).1
          exact place ▸ left

/-- The wait time left by the scan of `enter_timer_loop` is the least remaining
delay, and the loop sleeps so long. -/
structure WaitsForEarliest
    (queue : Queue) (waitTime : Int) (clock : Nat → Nat) : Prop where
  /-- It is the minimum over all queued messages. -/
  least : IsLeast {delay | delay ∈ remaining clock queue.lstMsg}
    (scan clock 0 waitTime 0 queue.lstMsg).2
  /-- The next section waits for that time. -/
  sleeps : ∀ (next : Queue) (laterClock : Nat → Nat), next.lstMsg ≠ [] →
    (queue.scanSection waitTime clock).pc =
        .test .enterTimerLoop (scan clock 0 waitTime 0 queue.lstMsg).2 ∧
      (next.enterSection .enterTimerLoop
          (scan clock 0 waitTime 0 queue.lstMsg).2 laterClock).pc =
        .asleep .enterTimerLoop (scan clock 0 waitTime 0 queue.lstMsg).2 false

/-- When nothing is due the loop waits for the earliest deadline iff a message with
that deadline stands first or last. -/
theorem waitsForEarliest_iff
    (queue : Queue) (waitTime : Int) (clock : Nat → Nat)
    (nonempty : queue.lstMsg ≠ []) (noneDue : NoneDue clock queue.lstMsg) :
    WaitsForEarliest queue waitTime clock ↔
      EarliestAtEnds clock queue.lstMsg := by
  rw [← isLeast_scan_snd_iff nonempty noneDue waitTime]
  constructor
  · exact WaitsForEarliest.least
  · intro least
    refine ⟨least, ?_⟩
    intro next laterClock stillQueued
    have positive := scan_snd_pos nonempty noneDue waitTime
    constructor
    · rcases scan_selects clock waitTime 0 queue.lstMsg with
        ⟨index, msg, firstDue, _⟩ | ⟨_, nothing⟩
      · exact absurd firstDue.due (noneDue index msg firstDue.place)
      · unfold Queue.scanSection
        split
        · rename_i scanned
          rw [scanned] at nothing
          cases nothing
        · rename_i newWaitTime scanned
          rw [scanned]
    · simp [Queue.enterSection, stillQueued, positive]

/-- A queue of delayed messages recorded at tick 0. -/
def delayedMsgs (delays : List Int) : Queue :=
  { Queue.new with
    lstMsg := delays.map fun after =>
      { Msg.ofIdAfter 10 7 after 0 with msgSeq := after, isHandling := false } }

/-- The message with the earliest deadline is the last one. -/
theorem waitsForEarliest_last :
    WaitsForEarliest (delayedMsgs [9, 7, 3]) 0 (fun _ => 0) :=
  (waitsForEarliest_iff (delayedMsgs [9, 7, 3]) 0 (fun _ => 0) (by decide)
    (by decide)).mpr ⟨3, Or.inr (by decide), by decide⟩

/-- The message with the earliest deadline is in the middle, and the loop sleeps
past it. -/
theorem oversleeps_middle :
    NoneDue (fun _ => 0) (delayedMsgs [9, 3, 7]).lstMsg ∧
      scan (fun _ => 0) 0 0 0 (delayedMsgs [9, 3, 7]).lstMsg = (none, 7) ∧
      3 ∈ remaining (fun _ => 0) (delayedMsgs [9, 3, 7]).lstMsg ∧
      ¬ WaitsForEarliest (delayedMsgs [9, 3, 7]) 0 (fun _ => 0) := by
  have scanned : scan (fun _ => 0) 0 0 0 (delayedMsgs [9, 3, 7]).lstMsg =
      (none, 7) := by decide
  have present : 3 ∈ remaining (fun _ => 0) (delayedMsgs [9, 3, 7]).lstMsg := by
    decide
  refine ⟨by decide, scanned, present, ?_⟩
  intro waits
  have least := waits.least.2 present
  rw [scanned] at least
  omega

end MsgQueue
end Skplat
