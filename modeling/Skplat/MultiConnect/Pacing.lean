import Skplat.MultiConnect.Attempts
import Mathlib.Data.List.Chain
import Mathlib.Data.List.Nodup

/-!
# How many attempts run, and how fast they are started

The number of machines with a socket never exceeds `max_connect_`: at the top of
the main loop every started machine that is left has one, so the count that the
code takes there is the number of machines that are left.

The distance of two starts is measured with unsigned differences that are converted
to `int`.  With intervals and a run below 2^30 milliseconds no conversion changes a
value, and then the distance is at least `interval_`, or `error_interval_` if an
attempt failed in between.
-/

namespace Skplat
namespace MultiConnect

open TcpClient (toInt32)
open TcpClientFsm (AfterCalls)

variable {Addr : Type} {config : Config Addr} {state next : State Addr}

/-! ## The cap -/

theorem countP_or_le
    {Item : Type*}
    (first second : Item → Bool)
    (items : List Item) :
    items.countP (fun item => first item || second item) ≤
      items.countP first + items.countP second := by
  induction items with
  | nil => rfl
  | cons item rest inductionHypothesis =>
      simp only [List.countP_cons]
      cases first item <;> cases second item <;> simp <;> omega

/-- The started machines that are left. -/
def State.leftCount (state : State Addr) : Nat :=
  (List.range state.vecSize).countP fun i =>
    decide (i < state.index) && (state.slots i).check.isSome

/-- A step that starts no machine and creates none. -/
theorem leftCount_le
    (size : next.vecSize = state.vecSize)
    (index : next.index = state.index)
    (left : ∀ i, (next.slots i).check.isSome = true →
      (state.slots i).check.isSome = true) :
    next.leftCount ≤ state.leftCount := by
  unfold State.leftCount
  rw [size, index]
  refine List.countP_mono_left fun i _ here => ?_
  simp only [Bool.and_eq_true] at here ⊢
  exact ⟨here.1, left i here.2⟩

/-- A machine that is left after the update of another slot. -/
theorem isSome_update
    {k : Nat}
    {slot : Slot Addr}
    (left : slot.check.isSome = true → (state.slots k).check.isSome = true)
    (i : Nat)
    (here : (Function.update state.slots k slot i).check.isSome = true) :
    (state.slots i).check.isSome = true := by
  by_cases same : i = k
  · rw [same, Function.update_self] at here
    rw [same]
    exact left here
  · rwa [Function.update_of_ne same] at here

/-- At the top of the loop every started machine that is left has a socket. -/
theorem isconnecting_of_left
    {i : Nat}
    {check : ConnectCheckFsm Addr}
    (sound : Sound state)
    (ordered : Ordered config state)
    (pc : state.pc = .top)
    (below : i < state.index)
    (present : (state.slots i).check = some check) :
    (state.slots i).isconnecting = true := by
  have settled := ordered.settled (by rw [pc]; exact id)
  have idle := sound.idle (sound.notChosen (by rw [pc]; rfl)) i (by rw [pc]; trivial)
  have running := (sound.slots i).running check present idle
  have started : check.base.status ≠ .eStart := fun start => by
    have := (ordered.status i check present).mp start
    omega
  have lives := ((sound.slots i).lives.present present).1
  have opened : check.base.sock ≠ none := by
    refine lives.opened ?_
    cases status : check.base.status with
    | eStart => exact absurd status started
    | eConnecting => exact Or.inl status
    | eReadWrite => exact Or.inr status
    | eEnd => exact absurd status running
  simp only [Slot.isconnecting, present]
  exact Option.isSome_iff_ne_none.mpr opened

/-- A machine with a socket was started. -/
theorem below_of_isconnecting
    {i : Nat}
    (sound : Sound state)
    (ordered : Ordered config state)
    (connecting : (state.slots i).isconnecting = true) :
    i < state.index ∧ (state.slots i).check.isSome = true := by
  cases present : (state.slots i).check with
  | none => simp [Slot.isconnecting, present] at connecting
  | some check =>
      refine ⟨?_, rfl⟩
      by_contra notBelow
      have past := ordered.attemptsLe.trans (Nat.le_of_not_lt notBelow)
      have start := (ordered.status i check present).mpr past
      obtain ⟨-, -, noSocket, -⟩ :=
        ((sound.slots i).lives.present present).1.fresh start
      have closed : check.base.sock = none := noSocket
      simp [Slot.isconnecting, present, closed] at connecting

theorem leftCount_start
    (sound : Sound state)
    (ordered : Ordered config state)
    (pc : state.pc = .top)
    (same : ∀ i, next.slots i = state.slots i)
    (size : next.vecSize = state.vecSize)
    (index : next.index = state.index + 1) :
    next.leftCount ≤ state.runingCount + 1 := by
  unfold State.leftCount State.runingCount
  rw [size, index]
  calc (List.range state.vecSize).countP
        (fun i => decide (i < state.index + 1) && (next.slots i).check.isSome)
      ≤ (List.range state.vecSize).countP
          (fun i => (state.slots i).isconnecting || i == state.index) := by
        refine List.countP_mono_left fun i _ here => ?_
        simp only [Bool.and_eq_true, decide_eq_true_eq, same] at here
        obtain ⟨check, present⟩ := Option.isSome_iff_exists.mp here.2
        rcases Nat.lt_succ_iff_lt_or_eq.mp here.1 with below | last
        · rw [isconnecting_of_left sound ordered pc below present]
          rfl
        · simp [last]
    _ ≤ (List.range state.vecSize).countP
          (fun i => (state.slots i).isconnecting) +
            (List.range state.vecSize).countP (· == state.index) :=
        countP_or_le _ _ _
    _ ≤ _ := Nat.add_le_add_left
        (List.nodup_iff_count_le_one.mp List.nodup_range state.index) _

/-- At most `max_connect_` started machines are left. -/
def Capped (config : Config Addr) (state : State Addr) : Prop :=
  state.leftCount ≤ config.maxConnect

theorem capped_step
    {action : Action}
    (capped : Capped config state)
    (sound : Sound state)
    (ordered : Ordered config state)
    (fires : Fires config state action next) :
    Capped config next := by
  have keep : next.vecSize = state.vecSize → next.index = state.index →
      (∀ i, (next.slots i).check.isSome = true →
        (state.slots i).check.isSome = true) → Capped config next :=
    fun size index left => (leftCount_le size index left).trans capped
  cases fires with
  | created pc _ =>
      unfold Capped State.leftCount
      dsimp only
      rw [List.range_succ, List.countP_append]
      have last : ¬state.vecSize < state.index := Nat.not_lt.mpr ordered.indexLe
      simp only [List.countP_singleton, decide_eq_false last, Bool.false_and,
        Bool.false_eq_true, if_false, Nat.add_zero]
      refine le_trans (List.countP_mono_left fun i inside here => ?_) capped
      rwa [Function.update_of_ne (List.mem_range.mp inside).ne] at here
  | started pc may =>
      unfold Capped
      exact le_trans (leftCount_start sound ordered pc (fun _ => rfl) rfl rfl)
        may.2.2
  | preSelected _ _ present _ | kept _ _ present _ _ _ =>
      exact keep rfl rfl (isSome_update fun _ => by rw [present]; rfl)
  | removed _ _ present _ _ | chosen _ _ present _ _ | cleaned _ _ present =>
      exact keep rfl rfl (isSome_update fun _ => by rw [present]; rfl)
  | entered _ _ | waited _ _ | interrupted _ _ _ | selected _ _ | moved _ =>
      exact keep rfl rfl fun _ => id

theorem runingCount_le
    (reached : (system config).Reachable state) :
    state.runingCount ≤ config.maxConnect := by
  have sound := Sound.of_reachable reached
  have ordered := Ordered.of_reachable reached
  have capped : Capped config state := by
    refine reached.invariant ?_ ?_
    · rintro state rfl
      exact Nat.zero_le _
    · intro state action next prior capped _ stepped
      exact capped_step capped (Sound.of_reachable prior)
        (Ordered.of_reachable prior) (State.step_fires stepped)
  refine le_trans (List.countP_mono_left fun i _ connecting => ?_) capped
  obtain ⟨below, left⟩ := below_of_isconnecting sound ordered connecting
  simp [below, left]

/-! ## Failures between two starts -/

/-- The slot has a machine that ended. -/
def Slot.Ended (slot : Slot Addr) : Prop :=
  ∃ check, slot.check = some check ∧ check.base.status = .eEnd

/-- `lasterror` tells whether an attempt failed since the last start, or a failed
machine is still to be removed. -/
structure Blames (state : State Addr) : Prop where
  failed : state.lasterror ≠ 0 → state.failed = true
  reason : state.pc.leaving = false → state.failed = true →
    state.lasterror ≠ 0 ∨ ∃ i, (state.slots i).Ended

theorem blames_new (config : Config Addr) : Blames (State.new config) where
  failed := fun nonzero => absurd rfl nonzero
  reason := fun _ failed => by cases failed

/-- An ended machine stays ended. -/
theorem ended_afterSelect
    {i : Nat}
    {check : ConnectCheckFsm Addr}
    {observer : Bool}
    {answers : Answers}
    {calls : AfterCalls}
    {now : Nat}
    {after : ConnectCheckFsm Addr × Output}
    (sound : Sound state)
    (present : (state.slots i).check = some check)
    (selected :
      check.afterSelect observer answers state.sel calls now = after)
    (ended : check.base.status = .eEnd) :
    after.1.base.status = .eEnd := by
  have before := ((sound.slots i).lives.present present).1
  have later := (sound.slots i).afterSelect_lives present selected
  have rises : check.base.status.rank ≤ after.1.base.status.rank :=
    later.latest _ (List.mem_append_left _ before.reached)
  rw [ended] at rises
  cases status : after.1.base.status with
  | eEnd => rfl
  | eStart | eConnecting | eReadWrite =>
      rw [status] at rises
      exact absurd rises (by decide)

/-- An update of a slot whose machine had not ended. -/
theorem Blames.update
    {k : Nat}
    {slot : Slot Addr}
    (blames : Blames state)
    (staying : state.pc.leaving = false)
    (running : ¬(state.slots k).Ended)
    (failed : state.failed = true) :
    state.lasterror ≠ 0 ∨ ∃ i, (Function.update state.slots k slot i).Ended := by
  refine (blames.reason staying failed).imp id fun ended => ?_
  exact exists_update Slot.Ended ended fun here => absurd here running

theorem blames_step
    {action : Action}
    (blames : Blames state)
    (sound : Sound state)
    (sized : Sized config state)
    (fires : Fires config state action next) :
    Blames next := by
  cases fires with
  | created pc _ =>
      refine ⟨blames.failed, fun _ => blames.update (by rw [pc]; rfl) ?_⟩
      rintro ⟨check, present, -⟩
      rw [sized.beyond _ le_rfl] at present
      cases present
  | started _ _ =>
      exact ⟨fun nonzero => absurd rfl nonzero, fun _ failed => by cases failed⟩
  | entered pc _ | waited pc _ | selected pc _ =>
      exact ⟨blames.failed, fun _ => blames.reason (by rw [pc]; rfl)⟩
  | interrupted _ _ _ => exact ⟨blames.failed, fun staying => by cases staying⟩
  | @preSelected k check calls pc _ present _ =>
      have running : ¬(state.slots k).Ended := by
        rintro ⟨other, same, ended⟩
        exact sound.notEnded_preSelecting pc same ended
      refine ⟨fun nonzero => ?_, fun _ failed => ?_⟩
      · simp only [State.preSelect, blames.failed nonzero, Bool.true_or]
      · simp only [State.preSelect, Bool.or_eq_true, beq_iff_eq] at failed
        rcases failed with before | ended
        · exact blames.update (by rw [pc]; rfl) running before
        · refine Or.inr ⟨k, ?_⟩
          simp only [State.preSelect, Function.update_self]
          exact ⟨_, rfl, ended⟩
  | @kept k _ _ _ _ _ pc _ present selected running _ =>
      refine ⟨blames.failed, fun _ => blames.update (by rw [pc]; rfl) ?_⟩
      rintro ⟨other, same, ended⟩
      cases present.symm.trans same
      exact running (Or.inl (ended_afterSelect sound present selected ended))
  | removed _ _ _ _ _ =>
      exact ⟨fun _ => rfl, fun _ _ => Or.inl (by simp [State.remove])⟩
  | @chosen k _ _ _ _ _ pc _ present selected won =>
      refine ⟨blames.failed, fun _ => blames.update (by rw [pc]; rfl) ?_⟩
      rintro ⟨other, same, ended⟩
      cases present.symm.trans same
      have still := ended_afterSelect sound present selected ended
      rw [won.1] at still
      cases still
  | cleaned _ _ _ => exact ⟨blames.failed, fun staying => by cases staying⟩
  | moved moves =>
      refine ⟨blames.failed, ?_⟩
      have reason := blames.reason
      generalize state.pc = pc at moves reason
      intro staying
      cases moves with
      | finished _ | cleanSkipped _ | returned _ => cases staying
      | preSkipped _ | timed | afterSkipped _ | looped _ | again _ =>
          exact reason rfl

/-- At the top of the loop `lasterror` tells whether an attempt failed since the
last start. -/
theorem failed_iff_lasterror
    (reached : (system config).Reachable state)
    (pc : state.pc = .top) :
    state.failed = true ↔ state.lasterror ≠ 0 := by
  have blames : Blames state := by
    refine reached.invariant ?_ ?_
    · rintro state rfl
      exact blames_new config
    · intro state action next prior blames _ stepped
      exact blames_step blames (Sound.of_reachable prior)
        (Sized.of_reachable prior) (State.step_fires stepped)
  refine ⟨fun failed => ?_, blames.failed⟩
  rcases blames.reason (by rw [pc]; rfl) failed with nonzero | ⟨i, check, present, ended⟩
  · exact nonzero
  · have sound := Sound.of_reachable reached
    have idle := sound.idle (sound.notChosen (by rw [pc]; rfl)) i
      (by rw [pc]; trivial)
    exact absurd ended ((sound.slots i).running check present idle)

/-! ## The distance of two starts -/

/-- The readings of the clock that pace the starts do not decrease, and the run is
shorter than 2^30 milliseconds. -/
def SteadyClock (state : State Addr) : Action → Prop
  | .enter curtime => curtime < 2 ^ 64
  | .start curtime startTime =>
      state.clock ≤ curtime ∧ curtime ≤ startTime ∧
        startTime < state.origin + 2 ^ 30
  | _ => True

instance (state : State Addr) : DecidablePred (SteadyClock state)
  | .enter curtime => inferInstanceAs (Decidable (curtime < 2 ^ 64))
  | .start curtime startTime =>
      inferInstanceAs (Decidable (state.clock ≤ curtime ∧ curtime ≤ startTime ∧
        startTime < state.origin + 2 ^ 30))
  | .create _ | .preSelect _ | .timeout _ | .select _ | .afterSelect _ _ _
  | .test | .cleanup => inferInstanceAs (Decidable True)

/-- The interval that is due before a start. -/
def Config.wait (config : Config Addr) (afterFailure : Bool) : Nat :=
  if afterFailure then config.errorInterval else config.interval

/-- Consecutive starts are far enough apart. -/
def Spaced (config : Config Addr) (starts : List Start) : Prop :=
  starts.IsChain fun earlier later =>
    earlier.time + config.wait later.afterFailure ≤ later.time

/-- Conversion to `int` forgets multiples of 2^64. -/
theorem toInt32_add_mul (value count : Int) :
    toInt32 (value + count * 2 ^ 64) = toInt32 value := by
  have multiple : count * 2 ^ 64 = count * 2 ^ 32 * (2 ^ 32 : Nat) := by
    omega
  rw [toInt32, toInt32, multiple, Int.add_mul_bmod_self_right]

/-- The difference of two close readings survives the conversion. -/
theorem nextConnectTimeout_eq
    {curtime : Nat}
    {last count : Int}
    (laststart : (state.laststartConnecttime : Int) = last + count * 2 ^ 64)
    (interval : config.interval < 2 ^ 30)
    (errorInterval : config.errorInterval < 2 ^ 30)
    (before : last ≤ curtime)
    (near : (curtime : Int) - last < 2 ^ 31) :
    state.nextConnectTimeout config curtime =
      config.wait (decide (state.lasterror ≠ 0)) - (curtime - last) := by
  have wait : ((if state.lasterror = 0 then config.interval
      else config.errorInterval : Nat) : Int) =
        config.wait (decide (state.lasterror ≠ 0)) := by
    unfold Config.wait
    by_cases zero : state.lasterror = 0 <;> simp [zero]
  have small : config.wait (decide (state.lasterror ≠ 0)) < 2 ^ 30 := by
    unfold Config.wait
    split
    · exact errorInterval
    · exact interval
  unfold State.nextConnectTimeout
  rw [wait, laststart]
  have rearranged : (config.wait (decide (state.lasterror ≠ 0)) : Int) -
      (curtime - (last + count * 2 ^ 64)) =
        config.wait (decide (state.lasterror ≠ 0)) - (curtime - last) +
          count * 2 ^ 64 := by
    omega
  rw [rearranged, toInt32_add_mul]
  exact TcpClient.toInt32_eq_self (by omega) (by omega)

/-- An empty list of addresses is answered at once. -/
def ReturnsEmpty (config : Config Addr) (state : State Addr) : Prop :=
  config.addresses = [] → state.pc = .returned

theorem returnsEmpty_step
    {action : Action}
    (returns : ReturnsEmpty config state)
    (fires : Fires config state action next) :
    ReturnsEmpty config next := by
  intro empty
  have returned := returns empty
  cases fires with
  | created pc _ | entered pc _ | started pc _ | waited pc _
  | preSelected pc _ _ _ | interrupted pc _ _ | selected pc _
  | kept pc _ _ _ _ _ | removed pc _ _ _ _ | chosen pc _ _ _ _
  | cleaned pc _ _ =>
      rw [returned] at pc
      cases pc
  | moved moves =>
      rw [returned] at moves
      cases moves

theorem nonempty_of_top
    (reached : (system config).Reachable state)
    (pc : state.pc = .top) :
    config.addresses ≠ [] := by
  have returns : ReturnsEmpty config state := by
    refine reached.invariant ?_ ?_
    · rintro state rfl empty
      simp [State.new, empty]
    · intro state action next _ returns _ stepped
      exact returnsEmpty_step returns (State.step_fires stepped)
  intro empty
  rw [returns empty] at pc
  cases pc

/-- The account of the starts. -/
structure Paced (config : Config Addr) (state : State Addr) : Prop where
  creating : state.pc.created = false →
    state.iterations = 0 ∧ state.lasterror = 0
  count : state.starts.length = state.index
  counted : state.iterations = 0 → state.starts = []
  origin : state.origin ≤ state.clock ∧ state.origin < 2 ^ 64
  /-- Before the first start the clock is set back by the larger interval. -/
  setBack : state.pc.created = true → config.addresses ≠ [] →
    state.starts = [] →
    state.lasterror = 0 ∧
      state.laststartConnecttime = (state.origin +
        (2 ^ 64 - max config.interval config.errorInterval)) % 2 ^ 64
  lastStart : ∀ last, state.starts.getLast? = some last →
    state.laststartConnecttime = last.time ∧ state.origin ≤ last.time ∧
      last.time ≤ state.clock
  spaced : Spaced config state.starts
  first : 0 < config.maxConnect → 0 < state.iterations →
    ∃ first rest, state.starts = first :: rest ∧ first.iteration = 1

namespace Paced

theorem new (config : Config Addr) : Paced config (State.new config) where
  creating := fun _ => ⟨rfl, rfl⟩
  count := rfl
  counted := fun _ => rfl
  origin := ⟨le_rfl, by simp [State.new]⟩
  setBack := fun created nonempty => by
    simp [State.new, nonempty, Pc.created] at created
  lastStart := fun last found => by cases found
  spaced := .nil
  first := fun _ positive => absurd positive (Nat.lt_irrefl 0)

/-- A reading that was set back, with the wrap-around of 64 bits. -/
theorem setBack_eq
    {origin largest : Nat}
    (inRange : origin < 2 ^ 64)
    (small : largest < 2 ^ 30) :
    ∃ count : Int, (((origin + (2 ^ 64 - largest)) % 2 ^ 64 : Nat) : Int) =
      (origin - largest : Int) + count * 2 ^ 64 := by
  rcases Nat.lt_or_ge origin largest with wraps | fits
  · exact ⟨1, by omega⟩
  · exact ⟨0, by omega⟩

/-- The first iteration may start an attempt. -/
theorem mayStart_first
    {curtime startTime : Nat}
    (paced : Paced config state)
    (reached : (system config).Reachable state)
    (interval : config.interval < 2 ^ 30)
    (errorInterval : config.errorInterval < 2 ^ 30)
    (steady : SteadyClock state (.start curtime startTime))
    (pc : state.pc = .top)
    (positive : 0 < config.maxConnect)
    (firstTime : state.iterations = 0) :
    state.MayStart config curtime := by
  obtain ⟨later, ordered, short⟩ := steady
  have none := paced.counted firstTime
  have index : state.index = 0 := by
    rw [← paced.count, none]
    rfl
  have nonempty := nonempty_of_top reached pc
  obtain ⟨size, -⟩ := (Sized.of_reachable reached).size (by rw [pc]; rfl)
  refine ⟨?_, ?_, ?_⟩
  · rw [index, size]
    exact List.length_pos_iff.mpr nonempty
  · obtain ⟨zero, setBack⟩ := paced.setBack (by rw [pc]; rfl) nonempty none
    obtain ⟨originLe, originSmall⟩ := paced.origin
    have largest : max config.interval config.errorInterval < 2 ^ 30 :=
      max_lt interval errorInterval
    obtain ⟨count, laststart⟩ := setBack_eq originSmall largest
    rw [← setBack] at laststart
    rw [nextConnectTimeout_eq laststart interval errorInterval (by omega)
      (by omega)]
    have wait : config.wait (decide (state.lasterror ≠ 0)) = config.interval := by
      simp [Config.wait, zero]
    have larger : config.interval ≤ max config.interval config.errorInterval :=
      le_max_left _ _
    rw [wait]
    omega
  · have idle : state.runingCount = 0 := by
      refine List.countP_eq_zero.mpr fun i _ connecting => ?_
      have := (below_of_isconnecting (Sound.of_reachable reached)
        (Ordered.of_reachable reached) connecting).1
      omega
    rw [idle]
    exact positive

/-- A start keeps its distance from the one before. -/
theorem spaced_started
    {curtime startTime : Nat}
    {last : Start}
    (paced : Paced config state)
    (reached : (system config).Reachable state)
    (interval : config.interval < 2 ^ 30)
    (errorInterval : config.errorInterval < 2 ^ 30)
    (steady : SteadyClock state (.start curtime startTime))
    (pc : state.pc = .top)
    (may : state.MayStart config curtime)
    (found : state.starts.getLast? = some last) :
    last.time + config.wait state.failed ≤ startTime := by
  obtain ⟨later, ordered, short⟩ := steady
  obtain ⟨laststart, afterOrigin, beforeClock⟩ := paced.lastStart last found
  have due := may.2.1
  have exactly : (state.laststartConnecttime : Int) = last.time + 0 * 2 ^ 64 := by
    omega
  have blamed : decide (state.lasterror ≠ 0) = state.failed := by
    have agree := failed_iff_lasterror reached pc
    cases failed : state.failed with
    | true => exact decide_eq_true (agree.mp failed)
    | false =>
        refine decide_eq_false fun nonzero => ?_
        rw [agree.mpr nonzero] at failed
        cases failed
  rw [nextConnectTimeout_eq exactly interval errorInterval (by omega) (by omega),
    blamed] at due
  omega

/-- The next attempt is started. -/
theorem started
    {curtime startTime : Nat}
    {timeout : Int}
    {sel : SocketSelect}
    (paced : Paced config state)
    (spaced : ∀ last, state.starts.getLast? = some last →
      last.time + config.wait state.failed ≤ startTime)
    (later : state.clock ≤ curtime)
    (ordered : curtime ≤ startTime) :
    Paced config { state with
      sel := sel
      iterations := state.iterations + 1
      pc := .preSelecting 0
      timeout := timeout
      laststartConnecttime := startTime
      lasterror := 0
      trycount := state.index + 1
      index := state.index + 1
      clock := startTime
      starts := state.starts ++
        [⟨startTime, state.failed, state.iterations + 1⟩]
      failed := false } := by
  obtain ⟨originLe, originSmall⟩ := paced.origin
  have afterOrigin : state.origin ≤ startTime :=
    originLe.trans (later.trans ordered)
  exact {
    creating := fun notYet => by cases notYet
    count := by simp [paced.count]
    counted := fun zero => absurd zero (Nat.succ_ne_zero _)
    origin := ⟨afterOrigin, originSmall⟩
    setBack := fun _ _ none => by simp at none
    lastStart := fun last found => by
      simp only [List.getLast?_concat, Option.some.injEq] at found
      rw [← found]
      exact ⟨rfl, afterOrigin, le_rfl⟩
    spaced := by
      refine paced.spaced.append (.singleton _) ?_
      intro last found new isNew
      cases isNew
      exact spaced last found
    first := fun positive _ => by
      rcases Nat.eq_zero_or_pos state.iterations with firstTime | later
      · rw [paced.counted firstTime, firstTime]
        exact ⟨_, [], rfl, rfl⟩
      · obtain ⟨first, rest, starts, isFirst⟩ := paced.first positive later
        rw [starts]
        exact ⟨first, _, rfl, isFirst⟩ }

/-- No attempt is started in this iteration. -/
theorem waited
    {curtime : Nat}
    {timeout : Int}
    {sel : SocketSelect}
    (paced : Paced config state)
    (pc : state.pc = .top)
    (notFirst : 0 < config.maxConnect → 0 < state.iterations)
    (later : state.clock ≤ curtime) :
    Paced config { state with
      sel := sel
      iterations := state.iterations + 1
      pc := .preSelecting 0
      timeout := timeout
      clock := curtime } := by
  obtain ⟨originLe, originSmall⟩ := paced.origin
  exact { paced with
    creating := fun notYet => by cases notYet
    counted := fun zero => absurd zero (Nat.succ_ne_zero _)
    origin := ⟨originLe.trans later, originSmall⟩
    setBack := fun _ => paced.setBack (by rw [pc]; rfl)
    lastStart := fun last found => by
      obtain ⟨laststart, afterOrigin, beforeClock⟩ := paced.lastStart last found
      exact ⟨laststart, afterOrigin, beforeClock.trans later⟩
    first := fun positive _ => paced.first positive (notFirst positive) }

theorem step
    {action : Action}
    (paced : Paced config state)
    (reached : (system config).Reachable state)
    (interval : config.interval < 2 ^ 30)
    (errorInterval : config.errorInterval < 2 ^ 30)
    (steady : SteadyClock state action)
    (fires : Fires config state action next) :
    Paced config next := by
  cases fires with
  | created pc _ =>
      exact { paced with
        creating := fun _ => paced.creating (by rw [pc]; rfl)
        setBack := fun created => by cases created }
  | entered pc _ =>
      obtain ⟨fresh, noError⟩ := paced.creating (by rw [pc]; rfl)
      have none := paced.counted fresh
      exact { paced with
        creating := fun notYet => by cases notYet
        origin := ⟨le_rfl, steady⟩
        setBack := fun _ _ _ => ⟨noError, rfl⟩
        lastStart := fun last found => by
          rw [none] at found
          cases found }
  | started pc may =>
      refine paced.started (fun last found => ?_) steady.1 steady.2.1
      exact paced.spaced_started reached interval errorInterval steady pc may found
  | waited pc mayNot =>
      refine paced.waited pc (fun positive => ?_) steady.1
      refine Nat.pos_of_ne_zero fun firstTime => mayNot ?_
      exact paced.mayStart_first reached interval errorInterval steady pc positive
        firstTime
  | removed pc below _ _ _ =>
      exact { paced with
        creating := fun notYet => by cases notYet
        setBack := fun _ _ none => by
          have index := paced.count
          have empty : state.starts = [] := none
          rw [empty] at index
          exact absurd (index ▸ below) (Nat.not_lt_zero _) }
  | preSelected pc _ _ _ | interrupted pc _ _ | selected pc _
  | kept pc _ _ _ _ _ | chosen pc _ _ _ _ | cleaned pc _ _ =>
      exact { paced with
        creating := fun notYet => by cases notYet
        setBack := fun _ => paced.setBack (by rw [pc]; rfl) }
  | moved moves =>
      have setBack := paced.setBack
      have before : state.pc.created = true := by
        generalize state.pc = pc at moves
        cases moves <;> rfl
      exact { paced with
        creating := fun notYet => by
          generalize state.pc = pc at moves
          cases moves <;> cases notYet
        setBack := fun _ => paced.setBack before }

theorem of_reachable
    (interval : config.interval < 2 ^ 30)
    (errorInterval : config.errorInterval < 2 ^ 30)
    (reached : (system config).ReachableUnder SteadyClock state) :
    Paced config state := by
  refine reached.invariant ?_ ?_
  · rintro state rfl
    exact Paced.new config
  · intro state action next prior paced steady stepped
    exact paced.step prior.reachable interval errorInterval steady
      (State.step_fires stepped)

end Paced

/-- With intervals and a run below 2^30 milliseconds, and a clock that does not
decrease: at most `max_connect_` machines have a socket, the addresses are started
in order, consecutive starts keep their distance, and the first start is in the
first iteration. -/
theorem capAndPacing_of_steadyClock
    {config : Config Addr}
    {state : State Addr}
    (interval : config.interval < 2 ^ 30)
    (errorInterval : config.errorInterval < 2 ^ 30)
    (reached : (system config).ReachableUnder SteadyClock state) :
    state.runingCount ≤ config.maxConnect ∧
      state.attempts <+: config.addresses ∧
      Spaced config state.starts ∧
      (0 < config.maxConnect → 0 < state.iterations →
        ∃ first rest, state.starts = first :: rest ∧ first.iteration = 1) := by
  have paced := Paced.of_reachable interval errorInterval reached
  have ordered := Ordered.of_reachable reached.reachable
  refine ⟨runingCount_le reached.reachable, ?_, paced.spaced, paced.first⟩
  rw [ordered.attempts]
  exact List.take_prefix _ _

/-- Two attempts that fail: the second waits for `error_interval_`. -/
def slowRetry : Config Nat := { twoAddresses with errorInterval := 50 }

/-- The second attempt starts 50 milliseconds after the first. -/
def twoStarts : List Action :=
  [.create false, .create true, .enter 100, .start 100 100, .preSelect noSocket,
    .timeout 100, .select nothing, .afterSelect noError agrees 100,
    .afterSelect noError agrees 100, .test, .start 150 150]

/-- Cap and pacing where no socket can be created. -/
theorem capAndPacing_twoStarts :
    ∃ state, (system slowRetry).ReachableUnder SteadyClock state ∧
      state.starts = [⟨100, false, 1⟩, ⟨150, true, 2⟩] ∧
      Spaced slowRetry state.starts := by
  obtain ⟨state, reached, holds⟩ := Machine.ReachableUnder.exists_of_execUnder
    (.initial rfl : (system slowRetry).ReachableUnder SteadyClock (State.new slowRetry))
    (by decide +kernel : ((system slowRetry).execUnder SteadyClock (State.new slowRetry)
      twoStarts).map (fun state =>
        state.starts == [⟨100, false, 1⟩, ⟨150, true, 2⟩]) = some true)
  obtain ⟨-, -, spaced, -⟩ :=
    capAndPacing_of_steadyClock (by decide) (by decide) reached
  exact ⟨state, reached, beq_iff_eq.mp holds, spaced⟩

end MultiConnect
end Skplat
