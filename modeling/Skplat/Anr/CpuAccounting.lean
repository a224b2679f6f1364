import Skplat.Anr.HeapOrder

/-!
# The CPU time of an entry

A round adds the CPU time between its begin and its end to all entries, also to those that were
registered while the checker was waiting.  So an entry is charged with time before its
registration exactly if the process had used CPU time in the round when it was registered.
-/

namespace Skplat
namespace Anr

variable {algorithms : HeapAlgorithms} {heap other : List CheckContent}
variable {history : List Event} {registration : Registration}
variable {clock : UInt64} {state next : State} {action : Action}
variable {Meets Weaker : UInt64 → UInt64 → Prop}

/-- Something is true of the CPU time of each entry and the CPU clock at its registration. -/
def EachUsed (history : List Event) (heap : List CheckContent)
    (Meets : UInt64 → UInt64 → Prop) : Prop :=
  ∀ content ∈ heap, ∀ watch ∈ watched history content.ptr,
    Meets content.used_cpu_time watch.2

/-- Entries that were reported had at most the CPU time since their registration. -/
def ReportsAccounted (history : List Event) : Prop :=
  ∀ content clock earlier, .reported content clock :: earlier <:+ history →
    ∀ watch ∈ watched earlier content.ptr,
      content.used_cpu_time.toNat + watch.2.toNat ≤ clock.toNat

/-- An entry has at most the CPU time that the process used since its registration, and so had
each entry when it was reported. -/
structure Accounted (state : State) : Prop where
  entries : EachUsed state.history state.sg_check_heap fun used since =>
    used.toNat + since.toNat ≤ state.clock.toNat
  reports : ReportsAccounted state.history

/-- When a round ends, all entries were registered before the process used CPU time in it. -/
def LivedThrough (state : State) (action : Action) : Prop :=
  match action with
  | .endRound _ _ _ =>
      ∀ round ∈ state.checker.round,
        EachUsed state.history state.sg_check_heap fun _ since =>
          since ≤ round.use_cpu_time_1
  | _ => True

instance (state : State) : DecidablePred (LivedThrough state)
  | .endRound _ _ _ =>
      inferInstanceAs (Decidable (∀ round ∈ state.checker.round,
        ∀ content ∈ state.sg_check_heap, ∀ watch ∈ watched state.history content.ptr,
          watch.2 ≤ round.use_cpu_time_1))
  | .consume _ | .register _ | .unregister _ | .exit | .beginRound _ _ =>
      inferInstanceAs (Decidable True)

/-! ## Entries that come and go -/

theorem EachUsed.mono
    (each : EachUsed history heap Meets)
    (weaker : ∀ used since, Meets used since → Weaker used since) :
    EachUsed history heap Weaker :=
  fun content present watch isWatched => weaker _ _ (each content present watch isWatched)

/-- The entries that an event does not concern. -/
theorem EachUsed.apart
    (each : EachUsed history heap Meets) (event : Event)
    (apart : ∀ content ∈ other, content ∈ heap ∧ content.ptr ≠ event.ptr) :
    EachUsed (event :: history) other Meets := by
  intro content present watch isWatched
  obtain ⟨inHeap, otherPtr⟩ := apart content present
  rw [watched_cons_of_ne (Ne.symm otherPtr)] at isWatched
  exact each content inHeap watch isWatched

theorem EachUsed.filter
    (each : EachUsed history heap Meets) (event : Event)
    (same : other.Perm (heap.filter fun content => content.ptr != event.ptr)) :
    EachUsed (event :: history) other Meets := by
  refine each.apart event fun content present => ?_
  obtain ⟨inHeap, otherPtr⟩ := List.mem_filter.mp (same.mem_iff.mp present)
  exact ⟨inHeap, bne_iff_ne.mp otherPtr⟩

/-- A new entry has no CPU time. -/
theorem EachUsed.register
    (each : EachUsed history heap Meets)
    (same : other.Perm ((heap.filter fun content => content.ptr != registration.ptr) ++
      if 0 < registration.timeout then [registration.content] else []))
    (fresh : Meets 0 clock) :
    EachUsed (.registered registration clock :: history) other Meets := by
  intro content present watch isWatched
  obtain old | new := List.mem_append.mp (same.mem_iff.mp present)
  · exact each.filter (.registered registration clock) (List.Perm.refl _) content old watch
      isWatched
  · split at new
    · rename_i positive
      have isNew : watched (.registered registration clock :: history)
          registration.content.ptr = some (registration, clock) :=
        (watched_cons_self _ history).trans (if_pos positive)
      rw [List.mem_singleton.mp new] at isWatched ⊢
      rw [isNew] at isWatched
      cases isWatched
      exact fresh
    · cases new

theorem ReportsAccounted.cons
    (accounted : ReportsAccounted history) {event : Event}
    (noReport : ∀ content clock, event ≠ .reported content clock) :
    ReportsAccounted (event :: history) := by
  intro content clock earlier isSuffix
  obtain same | inHistory := List.suffix_cons_iff.mp isSuffix
  · exact absurd (List.cons.inj same).1.symm (noReport content clock)
  · exact accounted content clock earlier inHistory

theorem ReportsAccounted.report
    (accounted : ReportsAccounted history) {front : CheckContent}
    (inTime : ∀ watch ∈ watched history front.ptr,
      front.used_cpu_time.toNat + watch.2.toNat ≤ clock.toNat) :
    ReportsAccounted (.reported front clock :: history) := by
  intro content later earlier isSuffix
  obtain same | inHistory := List.suffix_cons_iff.mp isSuffix
  · obtain ⟨isFront, rfl⟩ := List.cons.inj same
    cases isFront
    exact inTime
  · exact accounted content later earlier inHistory

/-! ## Runs -/

/-- What is known of an entry: between rounds its CPU time was used since its registration, and
during a wait this is so at the begin of the round, or it is new and has none. -/
def Charged (checker : Checker) (clock used since : UInt64) : Prop :=
  match checker with
  | .waiting round =>
      used.toNat + since.toNat ≤ round.use_cpu_time_1.toNat ∨
        (round.use_cpu_time_1 < since ∧ since ≤ clock ∧ used = 0)
  | _ => used.toNat + since.toNat ≤ clock.toNat

/-- What every state has that is reached by rounds with nothing but old entries. -/
structure Charges (state : State) : Prop where
  ordered : Ordered state
  begun : ∀ round, state.checker = .waiting round → round.use_cpu_time_1 ≤ state.clock
  entries : EachUsed state.history state.sg_check_heap (Charged state.checker state.clock)
  reports : ReportsAccounted state.history

variable {round : Round} {used since : UInt64}

/-- A new entry has no CPU time, and its registration is now. -/
theorem charged_new (checker : Checker) (clock : UInt64)
    (begun : ∀ round, checker = .waiting round → round.use_cpu_time_1 ≤ clock) :
    Charged checker clock 0 clock := by
  cases checker with
  | waiting round =>
      have started := UInt64.le_iff_toNat_le.mp (begun round rfl)
      by_cases same : round.use_cpu_time_1 = clock
      · refine Or.inl ?_
        rw [same]
        exact Nat.le_of_eq (Nat.zero_add _)
      · refine Or.inr ⟨UInt64.lt_iff_toNat_lt.mpr ?_, UInt64.le_refl clock, rfl⟩
        exact Nat.lt_of_le_of_ne started fun values => same (UInt64.toNat_inj.mp values)
  | running => exact Nat.le_of_eq (Nat.zero_add _)
  | exited => exact Nat.le_of_eq (Nat.zero_add _)

/-- The clock goes on. -/
theorem Charged.later {checker : Checker} {now : UInt64}
    (charged : Charged checker clock used since) (later : clock ≤ now) :
    Charged checker now used since := by
  cases checker with
  | waiting round =>
      obtain old | ⟨new, before, unused⟩ := charged
      · exact Or.inl old
      · exact Or.inr ⟨new, UInt64.le_trans before later, unused⟩
  | running => exact Nat.le_trans charged (UInt64.le_iff_toNat_le.mp later)
  | exited => exact Nat.le_trans charged (UInt64.le_iff_toNat_le.mp later)

/-- In any state an entry has at most the CPU time since its registration. -/
theorem Charged.accounted {checker : Checker}
    (charged : Charged checker clock used since)
    (begun : ∀ round, checker = .waiting round → round.use_cpu_time_1 ≤ clock) :
    used.toNat + since.toNat ≤ clock.toNat := by
  cases checker with
  | waiting round =>
      have started := UInt64.le_iff_toNat_le.mp (begun round rfl)
      obtain old | ⟨_, before, rfl⟩ := charged
      · exact Nat.le_trans old started
      · rw [UInt64.toNat_zero, Nat.zero_add]
        exact UInt64.le_iff_toNat_le.mp before
  | running => exact charged
  | exited => exact charged

theorem Charges.accounted (charges : Charges state) : Accounted state where
  entries := charges.entries.mono fun _ _ charged => charged.accounted charges.begun
  reports := charges.reports

/-- The end of a round leaves an entry with at most the CPU time since its registration exactly
if no CPU time had been used in the round when it was registered. -/
theorem Charged.endRound_iff
    (charged : Charged (.waiting round) clock used since)
    (started : round.use_cpu_time_1 ≤ clock) :
    (used + (clock - round.use_cpu_time_1)).toNat + since.toNat ≤ clock.toNat ↔
      since ≤ round.use_cpu_time_1 := by
  have elapsed := UInt64.toNat_sub_of_le _ _ started
  have small := clock.toNat_lt
  rw [UInt64.le_iff_toNat_le] at started
  rw [UInt64.toNat_add, elapsed, UInt64.le_iff_toNat_le]
  obtain inTime | ⟨new, _, rfl⟩ := charged
  · rw [Nat.mod_eq_of_lt (by omega)]
    omega
  · rw [UInt64.lt_iff_toNat_lt] at new
    rw [UInt64.toNat_zero, Nat.mod_eq_of_lt (by omega)]
    omega

theorem charges_init (clock : UInt64) : Charges (init clock) where
  ordered := ordered_init clock
  begun := by
    intro round isWaiting
    cases isWaiting
  entries := by
    intro content present
    cases present
  reports := by
    intro content clock earlier isSuffix
    cases List.suffix_nil.mp isSuffix

theorem Charges.consume (charges : Charges state) (later : state.clock ≤ clock) :
    Charges { state with clock := clock } where
  ordered := ⟨charges.ordered.isHeap, charges.ordered.tracks⟩
  begun round isWaiting := UInt64.le_trans (charges.begun round isWaiting) later
  entries := charges.entries.mono fun _ _ charged => charged.later later
  reports := charges.reports

theorem Charges.register
    (charges : Charges state) (algorithms : HeapAlgorithms) (registration : Registration) :
    Charges { state with
      sg_check_heap := registerAnr algorithms registration state.sg_check_heap
      history := .registered registration state.clock :: state.history } where
  ordered := charges.ordered.register algorithms registration
  begun := charges.begun
  entries := charges.entries.register
    (registerAnr_spec algorithms registration charges.ordered.tracks.once
      charges.ordered.isHeap).1
    (charged_new state.checker state.clock charges.begun)
  reports := charges.reports.cons fun _ _ => nofun

theorem Charges.unregister
    (charges : Charges state) (algorithms : HeapAlgorithms) (ptr : UInt64) :
    Charges { state with
      sg_check_heap := unregisterAnrImpl algorithms ptr state.sg_check_heap
      history := .unregistered ptr :: state.history } where
  ordered := charges.ordered.unregister algorithms ptr
  begun := charges.begun
  entries := charges.entries.filter (.unregistered ptr)
    (unregisterAnrImpl_spec algorithms ptr charges.ordered.tracks.once
      charges.ordered.isHeap).1
  reports := charges.reports.cons fun _ _ => nofun

theorem Charges.beginRound
    (charges : Charges state) (isRunning : state.checker = .running)
    (round_tick_start now : UInt64) :
    Charges (beginRound state round_tick_start now) where
  ordered := ⟨charges.ordered.isHeap, charges.ordered.tracks⟩
  begun := by
    intro round isWaiting
    rw [Anr.beginRound] at isWaiting
    dsimp only at isWaiting
    split at isWaiting
    · cases isWaiting
    · cases isWaiting
      exact UInt64.le_refl state.clock
  entries := by
    refine charges.entries.mono fun used since charged => ?_
    rw [isRunning] at charged
    rw [Anr.beginRound]
    dsimp only
    split
    · exact charged
    · exact Or.inl charged
  reports := charges.reports

/-- The CPU time of all entries at the end of a round. -/
theorem Charges.charged_endRound_iff
    (charges : Charges state) (isWaiting : state.checker = .waiting round) :
    (EachUsed state.history (state.charged round) fun used since =>
        used.toNat + since.toNat ≤ state.clock.toNat) ↔
      EachUsed state.history state.sg_check_heap fun _ since =>
        since ≤ round.use_cpu_time_1 := by
  have started := charges.begun round isWaiting
  have entries := charges.entries
  rw [isWaiting] at entries
  constructor
  · intro inTime content inHeap watch isWatched
    exact ((entries content inHeap watch isWatched).endRound_iff started).mp
      (inTime _ (List.mem_map_of_mem inHeap) watch isWatched)
  · intro lived content present watch isWatched
    obtain ⟨before, inHeap, rfl⟩ := List.mem_map.mp present
    exact ((entries before inHeap watch isWatched).endRound_iff started).mpr
      (lived before inHeap watch isWatched)

theorem Charges.endRound
    (charges : Charges state) (isWaiting : state.checker = .waiting round)
    (lived : EachUsed state.history state.sg_check_heap fun _ since =>
      since ≤ round.use_cpu_time_1)
    (algorithms : HeapAlgorithms) (timedOut : Bool) (now checkedAt : UInt64) :
    Charges (endRound algorithms state round timedOut now checkedAt) := by
  have ordered := charges.ordered.endRound algorithms round timedOut now checkedAt
  have charged := (charges.charged_endRound_iff isWaiting).mpr lived
  obtain ⟨iOS_style, kept | ⟨front, others, present, sameOthers, _, reported⟩⟩ :=
    charges.ordered.endRound_cases algorithms round timedOut now checkedAt
  · rw [kept] at ordered ⊢
    exact ⟨ordered, nofun, charged, charges.reports⟩
  · rw [reported] at ordered ⊢
    exact ⟨ordered, nofun, charged.filter (.reported front state.clock) sameOthers,
      charges.reports.report (charged front present)⟩

/-- An entry at the end of a round is kept or reported, so its CPU time can be seen. -/
theorem Ordered.charged_of_accounted
    (ordered : Ordered state) {timedOut : Bool} {now checkedAt : UInt64}
    (accounted : Accounted (Anr.endRound algorithms state round timedOut now checkedAt)) :
    EachUsed state.history (state.charged round) fun used since =>
      used.toNat + since.toNat ≤ state.clock.toNat := by
  intro content present watch isWatched
  obtain ⟨iOS_style, kept | ⟨front, others, inFront, sameOthers, _, reported⟩⟩ :=
    ordered.endRound_cases algorithms round timedOut now checkedAt
  · rw [kept] at accounted
    exact accounted.entries content present watch isWatched
  · rw [reported] at accounted
    by_cases samePtr : content.ptr = front.ptr
    · -- it is the entry that is reported
      have isFront := List.inj_on_of_nodup_map (ordered.tracks_charged round).once
        present inFront samePtr
      rw [isFront]
      exact accounted.reports front state.clock state.history (List.suffix_refl _) watch
        (samePtr ▸ isWatched)
    · have apart : (Event.reported front state.clock).ptr ≠ content.ptr := Ne.symm samePtr
      have remains := sameOthers.mem_iff.mpr
        (List.mem_filter.mpr ⟨present, bne_iff_ne.mpr samePtr⟩)
      exact accounted.entries content remains watch
        ((watched_cons_of_ne apart).trans isWatched)

theorem Charges.step
    (charges : Charges state) (lived : LivedThrough state action)
    (stepped : (system algorithms).step state action = some next) : Charges next := by
  cases action with
  | consume clock =>
      obtain ⟨later, same⟩ := Option.ite_none_right_eq_some.mp stepped
      cases same
      exact charges.consume later
  | register registration =>
      cases stepped
      exact charges.register algorithms registration
  | unregister ptr =>
      cases stepped
      exact charges.unregister algorithms ptr
  | exit =>
      cases stepped
      exact ⟨⟨charges.ordered.isHeap, charges.ordered.tracks⟩, charges.begun, charges.entries,
        charges.reports⟩
  | beginRound round_tick_start now =>
      obtain ⟨isRunning, same⟩ := Option.ite_none_right_eq_some.mp stepped
      cases same
      exact charges.beginRound isRunning round_tick_start now
  | endRound timedOut now checkedAt =>
      obtain ⟨round, isRound, rfl⟩ := Option.map_eq_some_iff.mp stepped
      exact charges.endRound (Checker.round_eq_some_iff.mp isRound) (lived round isRound)
        algorithms timedOut now checkedAt

theorem charges_of_reachableUnder
    (reached : (system algorithms).ReachableUnder LivedThrough state) : Charges state := by
  refine reached.invariant ?_ ?_
  · rintro _ ⟨clock, rfl⟩
    exact charges_init clock
  · intro state action next _ charges lived stepped
    exact charges.step lived stepped

/-- A step after which no entry has too much CPU time has not charged a new entry. -/
theorem Charges.livedThrough
    (charges : Charges state) (stepped : (system algorithms).step state action = some next)
    (accounted : Accounted next) : LivedThrough state action := by
  cases action with
  | endRound timedOut now checkedAt =>
      intro round isRound
      have ended := Option.map_eq_some_iff.mp stepped
      rw [isRound] at ended
      obtain ⟨_, isSame, rfl⟩ := ended
      obtain rfl := Option.some.inj isSame
      exact (charges.charged_endRound_iff (Checker.round_eq_some_iff.mp isRound)).mp
        (charges.ordered.charged_of_accounted accounted)
  | _ => trivial

/-- In every run in which no round ends with an entry that was registered after CPU time was
used in it, no entry ever has more CPU time than was used since its registration.  The first
round that does end so breaks this. -/
theorem accounted_of_livedThrough
    (algorithms : HeapAlgorithms) (state : State)
    (reached : (system algorithms).ReachableUnder LivedThrough state) :
    Accounted state ∧ ∀ action next, (system algorithms).step state action = some next →
      (Accounted next ↔ LivedThrough state action) := by
  have charges := charges_of_reachableUnder reached
  refine ⟨charges.accounted, fun action next stepped => ⟨?_, fun lived => ?_⟩⟩
  · exact charges.livedThrough stepped
  · exact (charges.step lived stepped).accounted

/-- An entry has exactly the CPU time of the round that it waited through. -/
theorem accounted_of_livedThrough_oneRound :
    ∃ state, Accounted state ∧ state.clock = 100 ∧
      state.sg_check_heap.map CheckContent.used_cpu_time = [100] := by
  have run : ((system (Heap.sorting less_strictWeakOrder)).execUnder LivedThrough (init 0) [
      .register ⟨1, [], [], 0, 900000, 0, 0, 0⟩,
      .beginRound 0 0,
      .consume 100,
      .endRound true 15000 15000]).map (fun state =>
        decide (state.clock = 100 ∧
          state.sg_check_heap.map CheckContent.used_cpu_time = [100])) = some true := by
    decide
  have start : (system (Heap.sorting less_strictWeakOrder)).initial (init 0) := ⟨0, rfl⟩
  obtain ⟨state, reached, isEnd⟩ :=
    Machine.ReachableUnder.exists_of_execUnder (.initial start) run
  exact ⟨state, (accounted_of_livedThrough _ state reached).1, of_decide_eq_true isEnd⟩

/-- A registration in a wait. -/
def lateRegistration : Registration :=
  ⟨2, [], [], 0, 500, 0, 25000, 0⟩

/-- After a wait that took too long, an entry is reported at once for the CPU time that was used
before its registration. -/
theorem not_accounted_registeredInRound :
    ∃ state, (system (Heap.sorting less_strictWeakOrder)).Reachable state ∧
      ¬Accounted state := by
  have run : ((system (Heap.sorting less_strictWeakOrder)).exec (init 0) [
      .register ⟨1, [], [], 0, 900000, 0, 0, 0⟩,
      .beginRound 0 0,
      .endRound true 20000 20000,
      .unregister 1,
      .beginRound 20000 20000,
      .consume 1000,
      .register lateRegistration,
      .endRound false 25000 25000]).map (fun state =>
        decide (state.history.head? =
            some (.reported (lateRegistration.content.addCpuTime 1000) 1000) ∧
          watched state.history.tail 2 = some (lateRegistration, 1000))) = some true := by
    decide
  have start : (system (Heap.sorting less_strictWeakOrder)).initial (init 0) := ⟨0, rfl⟩
  obtain ⟨state, -, reached, isEnd⟩ := Machine.exists_reachable_of_exec start run
  obtain ⟨isReport, isWatched⟩ := of_decide_eq_true isEnd
  refine ⟨state, reached, fun accounted => ?_⟩
  have isSuffix : .reported (lateRegistration.content.addCpuTime 1000) 1000 ::
      state.history.tail <:+ state.history := by
    rw [← List.eq_cons_of_mem_head? isReport]
  exact absurd (accounted.reports _ _ _ isSuffix _ isWatched) (by decide)

end Anr
end Skplat
