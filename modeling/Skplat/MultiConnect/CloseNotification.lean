import Skplat.MultiConnect.LifeCycle
import Skplat.TcpClientFsm.Loop

/-!
# The notifications of a closed connection

The machines of `TryConnect` behave like a machine in a loop of its own: as long as
no error is misread, `_OnClose` is called at most once for each, and the observer is
told of a connection without an error only if there was one.
-/

namespace Skplat
namespace MultiConnect

open TcpClientFsm (AfterCalls)

variable {Addr : Type} {config : Config Addr} {state next : State Addr}

/-- The errors of the calls of `OnConnected` for a slot. -/
def Slot.told (config : Config Addr) (slot : Slot Addr) : List Int :=
  if config.observer then slot.record.connectedErrors else []

/-- The machine whose turn it is. -/
def State.current (state : State Addr) : Option (ConnectCheckFsm Addr) :=
  match state.pc with
  | .preSelecting i | .afterSelecting i => (state.slots i).check
  | _ => none

/-- No error is reported in a way that a machine misreads. -/
def Reported (state : State Addr) : Action → Prop
  | .preSelect calls =>
      ∀ check ∈ state.current, check.base.Nonblocking calls
  | .afterSelect calls _ _ =>
      ∀ check ∈ state.current, check.base.zeroGiven state.sel calls = false
  | _ => True

instance (state : State Addr) : DecidablePred (Reported state)
  | .preSelect calls =>
      inferInstanceAs (Decidable
        (∀ check ∈ state.current, check.base.Nonblocking calls))
  | .afterSelect calls _ _ =>
      inferInstanceAs (Decidable
        (∀ check ∈ state.current, check.base.zeroGiven state.sel calls = false))
  | .create _ | .enter _ | .start _ _ | .timeout _ | .select _ | .test
  | .cleanup => inferInstanceAs (Decidable True)

/-- `AfterSelect` of the machine whose turn it is. -/
theorem behaves_afterSelect
    {i : Nat}
    {check : ConnectCheckFsm Addr}
    {calls : AfterCalls}
    {answers : Answers}
    {now : Nat}
    {after : ConnectCheckFsm Addr × Output}
    (sound : Sound state)
    (behaves : (state.slots i).Holds Behaves)
    (reported : Reported state (.afterSelect calls answers now))
    (pc : state.pc = .afterSelecting i)
    (present : (state.slots i).check = some check)
    (selected :
      check.afterSelect config.observer answers state.sel calls now = after) :
    (state.slots i).taken = none ∧
      Behaves after.1.base.standing
        ((state.slots i).record.note false after.1.base.status after.2) := by
  obtain ⟨has, untaken⟩ := behaves.present present
  obtain ⟨done, plain⟩ := ConnectCheckFsm.afterSelects has.lives.opened selected
  rw [reported check (by simp [State.current, pc, present])] at done
  rw [plain]
  exact ⟨untaken, has.afterSelect ((sound.slots i).turn present) done⟩

theorem behaves_step
    {action : Action}
    (sound : Sound state)
    (behaves : ∀ i, (state.slots i).Holds Behaves)
    (reported : Reported state action)
    (fires : Fires config state action next) :
    ∀ i, (next.slots i).Holds Behaves := by
  have updated : ∀ {i : Nat} {slot : Slot Addr}, slot.Holds Behaves →
      ∀ j, (Function.update state.slots i slot j).Holds Behaves :=
    fun new => (Function.forall_update_iff _ fun _ => Slot.Holds Behaves).mpr
      ⟨new, fun j _ => behaves j⟩
  cases fires with
  | created _ _ => exact updated (Slot.holds_new behaves_new _ _ _ _)
  | @preSelected i check calls pc below present possible =>
      obtain ⟨has, untaken⟩ := (behaves i).present present
      have notEnded := sound.notEnded_preSelecting pc present
      have nonblocking := reported check (by simp [State.current, pc, present])
      exact updated (Slot.holds_called untaken
        (has.preSelect notEnded nonblocking state.sel))
  | kept pc _ present selected _ _ =>
      obtain ⟨untaken, has⟩ :=
        behaves_afterSelect sound (behaves _) reported pc present selected
      exact updated (Slot.holds_called untaken has)
  | removed pc _ present selected _ =>
      obtain ⟨untaken, has⟩ :=
        behaves_afterSelect sound (behaves _) reported pc present selected
      exact updated
        (Slot.holds_delete (fun has done => has.close done) untaken has)
  | chosen pc _ present selected _ =>
      obtain ⟨-, has⟩ :=
        behaves_afterSelect sound (behaves _) reported pc present selected
      exact updated (Slot.holds_take has)
  | cleaned _ _ present =>
      obtain ⟨has, untaken⟩ := (behaves _).present present
      exact updated
        (Slot.holds_delete (fun has done => has.close done) untaken has)
  | entered _ _ | started _ _ | waited _ _ | interrupted _ _ _ | selected _ _
  | moved _ => exact behaves

theorem behaves_of_reachable
    (reached : (system config).ReachableUnder Reported state) :
    ∀ i, (state.slots i).Holds Behaves := by
  induction reached with
  | initial start =>
      cases start
      exact fun _ => Slot.holds_empty behaves_new
  | step prior reported stepped inductionHypothesis =>
      exact behaves_step (Sound.of_reachable prior.reachable) inductionHypothesis
        reported (State.step_fires stepped)

/-- If no error is misread, `_OnClose` is called at most once for a machine, and
the observer of `TryConnect` is told of each connection at most once, without an
error only if the machine entered `EReadWrite`. -/
theorem closeNotification_of_reported
    {looped : Looped}
    {config : Config Addr}
    {state : State Addr}
    (lived : Looped.system.ReachableUnder Looped.Reported looped)
    (reached : (system config).ReachableUnder Reported state) :
    looped.record.closeCalls ≤ 1 ∧
      ∀ i, (state.slots i).record.closeCalls ≤ 1 ∧
        ((state.slots i).told config).length ≤ 1 ∧
        (0 ∈ (state.slots i).told config →
          .eReadWrite ∈ (state.slots i).record.statuses) := by
  refine ⟨(Looped.behaves_of_reachable lived).notifies.atMostOnce, fun i => ?_⟩
  obtain ⟨standing, behaves, -⟩ := behaves_of_reachable reached i
  refine ⟨behaves.notifies.atMostOnce, ?_⟩
  unfold Slot.told
  split
  · exact ⟨behaves.lives.connectedOnce, behaves.notifies.honest⟩
  · exact ⟨Nat.zero_le 1, fun told => by cases told⟩

/-- A machine that runs into its timeout and is closed. -/
def timesOut : List LoopAction :=
  [.preSelect ((SocketSelect.new 3 false).preSelect) (connecting 7),
    .afterSelect ((SocketSelect.new 3 false).preSelect) noError,
    .close true]

/-- The notifications of a machine that runs into its timeout, and of a run
in which the first address connects. -/
theorem closeNotification_firstConnects :
    ∃ looped state, Looped.system.ReachableUnder Looped.Reported looped ∧
      (system twoAddresses).ReachableUnder Reported state ∧
      looped.record.closeCalls = 1 ∧ looped.record.closeCalls ≤ 1 ∧
      (state.slots 0).told twoAddresses = [0] ∧
      .eReadWrite ∈ (state.slots 0).record.statuses := by
  obtain ⟨looped, lived, once⟩ := Machine.ReachableUnder.exists_of_execUnder
    (.initial rfl : Looped.system.ReachableUnder Looped.Reported .new)
    (by decide +kernel : (Looped.system.execUnder Looped.Reported .new
      timesOut).map (fun looped => looped.record.closeCalls == 1) =
        some true)
  obtain ⟨state, reached, holds⟩ := Machine.ReachableUnder.exists_of_execUnder
    (.initial rfl : (system twoAddresses).ReachableUnder Reported
      (State.new twoAddresses))
    (by decide +kernel : ((system twoAddresses).execUnder Reported
      (State.new twoAddresses) firstConnects).map
        (fun state => (state.slots 0).told twoAddresses == [0]) = some true)
  rw [beq_iff_eq] at once holds
  obtain ⟨atMostOnce, slots⟩ := closeNotification_of_reported lived reached
  obtain ⟨-, -, honest⟩ := slots 0
  exact ⟨looped, state, lived, reached, once, atMostOnce, holds,
    honest (by simp [holds])⟩

/-! ## Errors that are misread -/

/-- `socket_set_nobio` fails with `EBADF`. -/
def nobioFails : ConnectCalls := { connecting 7 with nobioErrno := some 9 }

/-- The descriptor after that of the breaker reports an exception. -/
def exceptional : PollResult :=
  ⟨1, 0, fun position => if position = 1 then pollErr else 0⟩

/-- `socket_set_nobio` fails for the first address. -/
def firstNotNonblocking : List Action :=
  [.create false, .create true, .enter 100, .start 100 100, .preSelect nobioFails,
    .timeout 100, .select nothing, .afterSelect noError agrees 100]

/-- The first address reports an exception with the `SO_ERROR` zero. -/
def firstExceptional : List Action :=
  [.create false, .create true, .enter 100, .start 100 100,
    .preSelect (connecting 7), .timeout 100, .select exceptional,
    .afterSelect noError agrees 100]

/-- A failed `socket_set_nobio` is notified twice, and so is an exception with the
`SO_ERROR` zero, for which the observer is told of a connection that there is not. -/
theorem notifiedTwice_firstAddress :
    (∃ looped, Looped.system.Reachable looped ∧ looped.record.closeCalls = 2) ∧
      (∃ state, (system twoAddresses).Reachable state ∧
        (state.slots 0).record.closeCalls = 2) ∧
      ∃ state, (system twoAddresses).Reachable state ∧
        (state.slots 0).record.closeCalls = 2 ∧
        0 ∈ (state.slots 0).told twoAddresses ∧
        .eReadWrite ∉ (state.slots 0).record.statuses := by
  refine ⟨?_, ?_, ?_⟩
  · obtain ⟨looped, -, lived, holds⟩ := Machine.exists_reachable_of_exec
      (rfl : Looped.system.initial .new)
      (by decide +kernel : (Looped.system.exec .new
        [.preSelect ((SocketSelect.new 3 false).preSelect) nobioFails,
          .afterSelect ((SocketSelect.new 3 false).preSelect) noError]).map
          (fun looped => looped.record.closeCalls == 2) = some true)
    exact ⟨looped, lived, beq_iff_eq.mp holds⟩
  · obtain ⟨state, -, reached, holds⟩ := Machine.exists_reachable_of_exec
      (rfl : (system twoAddresses).initial (State.new twoAddresses))
      (by decide +kernel : ((system twoAddresses).exec (State.new twoAddresses)
        firstNotNonblocking).map
          (fun state => (state.slots 0).record.closeCalls == 2) = some true)
    exact ⟨state, reached, beq_iff_eq.mp holds⟩
  · obtain ⟨state, -, reached, holds⟩ := Machine.exists_reachable_of_exec
      (rfl : (system twoAddresses).initial (State.new twoAddresses))
      (by decide +kernel : ((system twoAddresses).exec (State.new twoAddresses)
        firstExceptional).map (fun state =>
          (state.slots 0).record.closeCalls == 2 &&
            decide (0 ∈ (state.slots 0).told twoAddresses ∧
              .eReadWrite ∉ (state.slots 0).record.statuses)) = some true)
    simp only [Bool.and_eq_true, beq_iff_eq, decide_eq_true_eq] at holds
    exact ⟨state, reached, holds⟩

end MultiConnect
end Skplat
