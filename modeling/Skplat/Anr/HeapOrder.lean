import Skplat.Anr.Defs

/-!
# The entries and their order

The vector of entries is a heap after every section, its front is due first, and the entries
are those that are watched, each once.
-/

namespace Skplat
namespace Anr

open Heap (IsHeap StrictWeakOrder)

variable {algorithms : HeapAlgorithms} {heap other : List CheckContent}
variable {history : List Event} {registration : Registration} {content : CheckContent}
variable {ptr clock : UInt64} {state next : State} {action : Action}

/-- `operator<` is an order as the algorithms require it. -/
theorem less_strictWeakOrder : StrictWeakOrder CheckContent.less where
  irrefl content := decide_eq_false (UInt64.lt_irrefl content.end_time)
  asymm first second isLess := by
    simp only [CheckContent.less, decide_eq_true_eq, decide_eq_false_iff_not, gt_iff_lt,
      UInt64.lt_iff_toNat_lt] at isLess ⊢
    omega
  trans_false first second third := by
    simp only [CheckContent.less, decide_eq_false_iff_not, gt_iff_lt, UInt64.lt_iff_toNat_lt]
    omega

/-- An entry as it was made. -/
def CheckContent.restart (content : CheckContent) : CheckContent :=
  { content with used_cpu_time := 0 }

/-- The entries are what is watched, each pointer once. -/
structure Tracks (heap : List CheckContent) (history : List Event) : Prop where
  once : (heap.map CheckContent.ptr).Nodup
  sound : ∀ content ∈ heap, ∃ registration clock,
    watched history content.ptr = some (registration, clock) ∧
      registration.content = content.restart
  complete : ∀ ptr watch, watched history ptr = some watch →
    ∃ content ∈ heap, content.ptr = ptr

/-! ## What is watched -/

/-- A pointer is watched if there is a registration of it with a positive timeout, and no event
of the pointer after it. -/
theorem watched_eq_some_iff :
    watched history ptr = some (registration, clock) ↔
      ∃ later earlier, history = later ++ .registered registration clock :: earlier ∧
        registration.ptr = ptr ∧ 0 < registration.timeout ∧
        ∀ event ∈ later, event.ptr ≠ ptr := by
  rw [watched, Option.bind_eq_some_iff]
  constructor
  · rintro ⟨event, isLast, isWatch⟩
    obtain ⟨isPtr, later, earlier, rfl, apart⟩ := List.find?_eq_some_iff_append.mp isLast
    cases event with
    | registered last lastClock =>
        rw [Event.watch, Option.ite_none_right_eq_some, Option.some.injEq] at isWatch
        obtain ⟨positive, same⟩ := isWatch
        obtain ⟨rfl, rfl⟩ := Prod.mk.inj same
        refine ⟨later, earlier, rfl, beq_iff_eq.mp isPtr, positive, ?_⟩
        intro event present
        simpa using apart event present
    | unregistered _ => cases isWatch
    | reported _ _ => cases isWatch
  · rintro ⟨later, earlier, rfl, samePtr, positive, apart⟩
    refine ⟨.registered registration clock, List.find?_eq_some_iff_append.mpr
      ⟨beq_iff_eq.mpr samePtr, later, earlier, rfl, ?_⟩, if_pos positive⟩
    intro event present
    simpa using apart event present

theorem watched_cons_of_ne {event : Event} (apart : event.ptr ≠ ptr) :
    watched (event :: history) ptr = watched history ptr := by
  rw [watched, List.find?_cons_of_neg (by simpa using apart), watched]

/-- The last event of a pointer. -/
theorem watched_cons_self (event : Event) (history : List Event) :
    watched (event :: history) event.ptr = event.watch := by
  rw [watched, List.find?_cons_of_pos (by simp), Option.bind_some]

/-! ## Entries that come and go -/

theorem Tracks.perm (tracks : Tracks heap history) (same : other.Perm heap) :
    Tracks other history where
  once := (same.map CheckContent.ptr).nodup_iff.mpr tracks.once
  sound content present := tracks.sound content (same.mem_iff.mp present)
  complete ptr watch isWatched := by
    obtain ⟨content, present, isPtr⟩ := tracks.complete ptr watch isWatched
    exact ⟨content, same.mem_iff.mpr present, isPtr⟩

/-- The entries after an event by which its pointer is not watched any more. -/
theorem Tracks.forget
    (tracks : Tracks heap history) (event : Event) (forgotten : event.watch = none) :
    Tracks (heap.filter fun content => content.ptr != event.ptr) (event :: history) where
  once := by
    refine tracks.once.sublist (List.Sublist.map _ List.filter_sublist)
  sound content present := by
    obtain ⟨inHeap, apart⟩ := List.mem_filter.mp present
    rw [watched_cons_of_ne (Ne.symm (bne_iff_ne.mp apart))]
    exact tracks.sound content inHeap
  complete ptr watch isWatched := by
    by_cases samePtr : event.ptr = ptr
    · rw [← samePtr, watched_cons_self, forgotten] at isWatched
      cases isWatched
    · rw [watched_cons_of_ne samePtr] at isWatched
      obtain ⟨content, present, rfl⟩ := tracks.complete ptr watch isWatched
      exact ⟨content, List.mem_filter.mpr ⟨present, bne_iff_ne.mpr (Ne.symm samePtr)⟩, rfl⟩

/-- The entries after a registration with a positive timeout. -/
theorem Tracks.watch
    (tracks : Tracks heap history) (positive : 0 < registration.timeout) (clock : UInt64) :
    Tracks ((heap.filter fun content => content.ptr != registration.ptr) ++
      [registration.content]) (.registered registration clock :: history) where
  once := by
    rw [List.map_append, List.nodup_append]
    refine ⟨tracks.once.sublist (List.Sublist.map _ List.filter_sublist),
      List.pairwise_singleton _ _, ?_⟩
    intro left isLeft right isRight
    obtain ⟨content, present, rfl⟩ := List.mem_map.mp isLeft
    rw [List.map_singleton, List.mem_singleton] at isRight
    rw [isRight]
    exact bne_iff_ne.mp (List.mem_filter.mp present).2
  sound content present := by
    obtain present | present := List.mem_append.mp present
    · obtain ⟨inHeap, apart⟩ := List.mem_filter.mp present
      rw [watched_cons_of_ne (Ne.symm (bne_iff_ne.mp apart))]
      exact tracks.sound content inHeap
    · rw [List.mem_singleton.mp present]
      exact ⟨registration, clock, (watched_cons_self _ history).trans (if_pos positive), rfl⟩
  complete ptr watch isWatched := by
    by_cases samePtr : (Event.registered registration clock).ptr = ptr
    · exact ⟨registration.content, List.mem_append_right _ (List.mem_singleton.mpr rfl),
        samePtr⟩
    · rw [watched_cons_of_ne samePtr] at isWatched
      obtain ⟨content, present, rfl⟩ := tracks.complete ptr watch isWatched
      exact ⟨content, List.mem_append_left _ (List.mem_filter.mpr
        ⟨present, bne_iff_ne.mpr (Ne.symm samePtr)⟩), rfl⟩

/-- CPU time does not matter for what is watched. -/
theorem Tracks.addCpuTime (tracks : Tracks heap history) (used : UInt64) :
    Tracks (heap.map fun content => content.addCpuTime used) history where
  once := by
    rw [List.map_map]
    exact tracks.once
  sound content present := by
    obtain ⟨before, inHeap, rfl⟩ := List.mem_map.mp present
    exact tracks.sound before inHeap
  complete ptr watch isWatched := by
    obtain ⟨content, present, isPtr⟩ := tracks.complete ptr watch isWatched
    exact ⟨content.addCpuTime used, List.mem_map_of_mem present, isPtr⟩

/-! ## The sections under the mutex -/

/-- Of distinct pointers the first occurrence is the only one. -/
theorem eraseP_eq_filter (once : (heap.map CheckContent.ptr).Nodup) (ptr : UInt64) :
    (heap.eraseP fun content => content.ptr == ptr) =
      heap.filter fun content => content.ptr != ptr := by
  induction heap with
  | nil => rfl
  | cons content heap inductionHypothesis =>
      rw [List.map_cons, List.nodup_cons] at once
      by_cases isPtr : content.ptr = ptr
      · rw [List.eraseP_cons_of_pos (by simpa using isPtr),
          List.filter_cons_of_neg (by simpa using isPtr)]
        refine (List.filter_eq_self.mpr fun later present => ?_).symm
        refine bne_iff_ne.mpr fun samePtr => once.1 ?_
        rw [isPtr, ← samePtr]
        exact List.mem_map_of_mem present
      · rw [List.eraseP_cons_of_neg (by simpa using isPtr),
          List.filter_cons_of_pos (by simpa using isPtr), inductionHypothesis once.2]

/-- The front of distinct pointers is the entry of its pointer. -/
theorem rest_eq_filter {front : CheckContent} {rest : List CheckContent}
    (once : ((front :: rest).map CheckContent.ptr).Nodup) :
    rest = (front :: rest).filter fun content => content.ptr != front.ptr := by
  rw [← eraseP_eq_filter once, List.eraseP_cons_of_pos (by simp)]

theorem unregisterAnrImpl_spec
    (algorithms : HeapAlgorithms) (ptr : UInt64)
    (once : (heap.map CheckContent.ptr).Nodup) (isHeap : IsHeap CheckContent.less heap) :
    (unregisterAnrImpl algorithms ptr heap).Perm
        (heap.filter fun content => content.ptr != ptr) ∧
      IsHeap CheckContent.less (unregisterAnrImpl algorithms ptr heap) := by
  rw [unregisterAnrImpl]
  split
  · rw [eraseP_eq_filter once]
    exact algorithms.makeHeap_spec _
  · rename_i absent
    rw [List.filter_eq_self.mpr]
    · exact ⟨List.Perm.refl heap, isHeap⟩
    · simpa using absent

theorem registerAnr_spec
    (algorithms : HeapAlgorithms) (registration : Registration)
    (once : (heap.map CheckContent.ptr).Nodup) (isHeap : IsHeap CheckContent.less heap) :
    (registerAnr algorithms registration heap).Perm
        ((heap.filter fun content => content.ptr != registration.ptr) ++
          if 0 < registration.timeout then [registration.content] else []) ∧
      IsHeap CheckContent.less (registerAnr algorithms registration heap) := by
  obtain ⟨others, othersHeap⟩ :=
    unregisterAnrImpl_spec algorithms registration.ptr once isHeap
  rw [registerAnr]
  by_cases positive : 0 < registration.timeout
  · rw [if_neg (by omega), if_pos positive]
    obtain ⟨pushed, pushedHeap⟩ :=
      algorithms.pushHeap_spec _ registration.content othersHeap
    exact ⟨pushed.trans (others.append_right _), pushedHeap⟩
  · rw [if_pos (by omega), if_neg positive, List.append_nil]
    exact ⟨others, othersHeap⟩

/-! ## All runs -/

/-- The vector is a heap of what is watched. -/
structure Ordered (state : State) : Prop where
  isHeap : IsHeap CheckContent.less state.sg_check_heap
  tracks : Tracks state.sg_check_heap state.history

theorem ordered_init (clock : UInt64) : Ordered (init clock) where
  isHeap := Heap.isHeap_nil _
  tracks :=
    { once := .nil
      sound := fun _ present => by cases present
      complete := fun _ _ isWatched => by cases isWatched }

theorem Ordered.register
    (ordered : Ordered state) (algorithms : HeapAlgorithms) (registration : Registration) :
    Ordered { state with
      sg_check_heap := registerAnr algorithms registration state.sg_check_heap
      history := .registered registration state.clock :: state.history } := by
  obtain ⟨entries, isHeap⟩ :=
    registerAnr_spec algorithms registration ordered.tracks.once ordered.isHeap
  refine ⟨isHeap, ?_⟩
  by_cases positive : 0 < registration.timeout
  · rw [if_pos positive] at entries
    exact (ordered.tracks.watch positive state.clock).perm entries
  · rw [if_neg positive, List.append_nil] at entries
    exact (ordered.tracks.forget (.registered registration state.clock)
      (if_neg positive)).perm entries

theorem Ordered.unregister
    (ordered : Ordered state) (algorithms : HeapAlgorithms) (ptr : UInt64) :
    Ordered { state with
      sg_check_heap := unregisterAnrImpl algorithms ptr state.sg_check_heap
      history := .unregistered ptr :: state.history } := by
  obtain ⟨entries, isHeap⟩ :=
    unregisterAnrImpl_spec algorithms ptr ordered.tracks.once ordered.isHeap
  exact ⟨isHeap, (ordered.tracks.forget (.unregistered ptr) rfl).perm entries⟩

theorem Ordered.isHeap_charged (ordered : Ordered state) (round : Round) :
    IsHeap CheckContent.less (state.charged round) :=
  ordered.isHeap.map _ fun _ _ => rfl

theorem Ordered.tracks_charged (ordered : Ordered state) (round : Round) :
    Tracks (state.charged round) state.history :=
  ordered.tracks.addCpuTime _

/-- A round after the wait keeps all entries, or it reports one of them and keeps the
others. -/
theorem Ordered.endRound_cases
    (ordered : Ordered state) (algorithms : HeapAlgorithms) (round : Round)
    (timedOut : Bool) (now checkedAt : UInt64) :
    ∃ iOS_style,
      endRound algorithms state round timedOut now checkedAt =
          { state with
            sg_check_heap := state.charged round
            iOS_style := iOS_style
            checker := .running } ∨
        ∃ front others, front ∈ state.charged round ∧
          others.Perm ((state.charged round).filter fun content => content.ptr != front.ptr) ∧
          IsHeap CheckContent.less others ∧
          endRound algorithms state round timedOut now checkedAt =
            { state with
              sg_check_heap := others
              iOS_style := iOS_style
              checker := .running
              history := .reported front state.clock :: state.history } := by
  refine ⟨state.iOS_style || isLate round timedOut now, ?_⟩
  have isHeap := ordered.isHeap_charged round
  have tracks := ordered.tracks_charged round
  rw [endRound]
  dsimp only
  split
  · rename_i empty
    rw [empty]
    exact Or.inl rfl
  · rename_i front rest isFront
    rw [isFront] at isHeap tracks ⊢
    split
    · obtain ⟨others, popped, sameOthers, othersHeap⟩ :=
        algorithms.popHeap_spec front rest isHeap
      refine Or.inr ⟨front, others, List.mem_cons_self, ?_, othersHeap, ?_⟩
      · rw [← rest_eq_filter tracks.once]
        exact sameOthers
      · rw [popped, List.dropLast_concat]
    · exact Or.inl rfl

theorem Ordered.endRound
    (ordered : Ordered state) (algorithms : HeapAlgorithms) (round : Round)
    (timedOut : Bool) (now checkedAt : UInt64) :
    Ordered (endRound algorithms state round timedOut now checkedAt) := by
  have tracks := ordered.tracks_charged round
  obtain ⟨iOS_style, kept | ⟨front, others, _, sameOthers, othersHeap, reported⟩⟩ :=
    ordered.endRound_cases algorithms round timedOut now checkedAt
  · rw [kept]
    exact ⟨ordered.isHeap_charged round, tracks⟩
  · rw [reported]
    exact ⟨othersHeap, (tracks.forget (.reported front state.clock) rfl).perm sameOthers⟩

theorem Ordered.step
    (ordered : Ordered state) (stepped : (system algorithms).step state action = some next) :
    Ordered next := by
  cases action with
  | consume clock =>
      obtain ⟨_, same⟩ := Option.ite_none_right_eq_some.mp stepped
      cases same
      exact ⟨ordered.isHeap, ordered.tracks⟩
  | register registration =>
      cases stepped
      exact ordered.register algorithms registration
  | unregister ptr =>
      cases stepped
      exact ordered.unregister algorithms ptr
  | exit =>
      cases stepped
      exact ⟨ordered.isHeap, ordered.tracks⟩
  | beginRound round_tick_start now =>
      obtain ⟨_, same⟩ := Option.ite_none_right_eq_some.mp stepped
      cases same
      exact ⟨ordered.isHeap, ordered.tracks⟩
  | endRound timedOut now checkedAt =>
      obtain ⟨round, _, rfl⟩ := Option.map_eq_some_iff.mp stepped
      exact ordered.endRound algorithms round timedOut now checkedAt

theorem ordered_of_reachable (reached : (system algorithms).Reachable state) :
    Ordered state := by
  refine reached.invariant ?_ ?_
  · rintro _ ⟨clock, rfl⟩
    exact ordered_init clock
  · intro state action next _ ordered _ stepped
    exact ordered.step stepped

/-- The vector is a heap, its front ends first, every pointer occurs once, and the entries are
those of the registrations with a positive timeout after which there was no event of their
pointer. -/
structure HeapOrder (state : State) : Prop where
  isHeap : IsHeap CheckContent.less state.sg_check_heap
  front : ∀ front, state.sg_check_heap.head? = some front →
    ∀ content ∈ state.sg_check_heap, front.end_time ≤ content.end_time
  once : (state.sg_check_heap.map CheckContent.ptr).Nodup
  entries : ∀ entry, (∃ content ∈ state.sg_check_heap, content.restart = entry) ↔
    ∃ registration clock later earlier,
      state.history = later ++ .registered registration clock :: earlier ∧
        0 < registration.timeout ∧ (∀ event ∈ later, event.ptr ≠ registration.ptr) ∧
        registration.content = entry

/-- In every reached state the vector is a heap of exactly the entries that are registered. -/
theorem heapOrder_of_reachable
    (algorithms : HeapAlgorithms) (state : State)
    (reached : (system algorithms).Reachable state) : HeapOrder state := by
  obtain ⟨isHeap, tracks⟩ := ordered_of_reachable reached
  refine ⟨isHeap, ?_, tracks.once, ?_⟩
  · intro front isFront content present
    have notLess := isHeap.less_front less_strictWeakOrder isFront present
    rw [CheckContent.less, decide_eq_false_iff_not] at notLess
    exact UInt64.not_lt.mp notLess
  · intro entry
    constructor
    · rintro ⟨content, present, rfl⟩
      obtain ⟨registration, clock, isWatched, same⟩ := tracks.sound content present
      obtain ⟨later, earlier, isHistory, samePtr, positive, apart⟩ :=
        watched_eq_some_iff.mp isWatched
      exact ⟨registration, clock, later, earlier, isHistory, positive,
        fun event isLater => samePtr ▸ apart event isLater, same⟩
    · rintro ⟨registration, clock, later, earlier, isHistory, positive, apart, rfl⟩
      have isWatched : watched state.history registration.ptr = some (registration, clock) :=
        watched_eq_some_iff.mpr ⟨later, earlier, isHistory, rfl, positive, apart⟩
      obtain ⟨content, present, isPtr⟩ := tracks.complete _ _ isWatched
      obtain ⟨other, otherClock, otherWatched, same⟩ := tracks.sound content present
      rw [isPtr, isWatched] at otherWatched
      obtain ⟨rfl, _⟩ := Prod.mk.inj (Option.some.inj otherWatched)
      exact ⟨content, present, same.symm⟩

/-- An entry that is registered again gets behind, and the one that is due is reported in a round,
in which the others get its CPU time. -/
theorem heapOrder_of_reachable_registeredAgain :
    ∃ state, HeapOrder state ∧ state.sg_check_heap.map CheckContent.ptr = [1, 2] ∧
      state.sg_check_heap.map CheckContent.used_cpu_time = [50, 50] ∧
      state.history.head?.map Event.ptr = some 3 := by
  have run : ((system (Heap.sorting less_strictWeakOrder)).exec (init 0) [
      .register ⟨1, [], [], 0, 900, 0, 100, 0⟩,
      .register ⟨2, [], [], 0, 800, 0, 100, 0⟩,
      .register ⟨2, [], [], 0, 950, 0, 150, 0⟩,
      .register ⟨3, [], [], 0, 700, 0, 100, 0⟩,
      .beginRound 200 200,
      .consume 50,
      .endRound true 801 802]).map (fun state =>
        decide (state.sg_check_heap.map CheckContent.ptr = [1, 2] ∧
          state.sg_check_heap.map CheckContent.used_cpu_time = [50, 50] ∧
          state.history.head?.map Event.ptr = some 3)) = some true := by
    decide
  have start : (system (Heap.sorting less_strictWeakOrder)).initial (init 0) := ⟨0, rfl⟩
  obtain ⟨state, -, reached, isEnd⟩ := Machine.exists_reachable_of_exec start run
  exact ⟨state, heapOrder_of_reachable _ state reached, of_decide_eq_true isEnd⟩

end Anr
end Skplat
