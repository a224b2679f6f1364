import Skplat.MultiConnect.Attempts

/-!
# The sockets of a connection attempt

A descriptor that was created here is open exactly while one slot has it: its
machine, or `TryConnect` after it took the socket from the machine.  When
`TryConnect` returns no machine is left, so every socket was closed once, except
the one that is returned.
-/

namespace Skplat
namespace MultiConnect

open TcpClient (toInt32)
open TcpClientFsm (AfterCalls)

variable {Addr : Type} {config : Config Addr} {state next : State Addr}

/-! ## Open descriptors -/

/-- The open descriptors are the sockets of the slots. -/
structure Tracks (isOpen : Int → Bool) (sockets : Nat → Option Int) : Prop where
  isOpen : ∀ sock, isOpen sock = true ↔ ∃ i, sockets i = some sock
  distinct : ∀ i j sock, sockets i = some sock → sockets j = some sock → i = j

namespace Tracks

variable {isOpen : Int → Bool} {sockets : Nat → Option Int}

theorem create
    {k : Nat}
    {sock : Int}
    (tracks : Tracks isOpen sockets)
    (empty : sockets k = none)
    (fresh : isOpen sock = false) :
    Tracks (Function.update isOpen sock true)
      (Function.update sockets k (some sock)) := by
  have unused : ∀ i, sockets i ≠ some sock := fun i used => by
    rw [(tracks.isOpen sock).mpr ⟨i, used⟩] at fresh
    cases fresh
  refine ⟨fun other => ?_, fun i j other first second => ?_⟩
  · by_cases same : other = sock
    · subst same
      simp only [Function.update_self, true_iff]
      exact ⟨k, by rw [Function.update_self]⟩
    · rw [Function.update_of_ne same, tracks.isOpen]
      refine exists_congr fun i => ?_
      by_cases here : i = k
      · subst here
        simp [empty, Ne.symm same]
      · rw [Function.update_of_ne here]
  · rcases update_cases first with ⟨rfl, new⟩ | ⟨-, old⟩
    · cases new
      rcases update_cases second with ⟨rfl, -⟩ | ⟨-, used⟩
      · rfl
      · exact absurd used (unused j)
    · rcases update_cases second with ⟨rfl, new⟩ | ⟨-, other⟩
      · cases new
        exact absurd old (unused i)
      · exact tracks.distinct i j _ old other

theorem close
    {k : Nat}
    {sock : Int}
    (tracks : Tracks isOpen sockets)
    (held : sockets k = some sock) :
    Tracks (Function.update isOpen sock false)
      (Function.update sockets k none) := by
  refine ⟨fun other => ?_, fun i j other first second => ?_⟩
  · by_cases same : other = sock
    · subst same
      simp only [Function.update_self, Bool.false_eq_true, false_iff]
      rintro ⟨i, still⟩
      rcases update_cases still with ⟨-, gone⟩ | ⟨different, used⟩
      · cases gone
      · exact different (tracks.distinct i k _ used held)
    · rw [Function.update_of_ne same, tracks.isOpen]
      refine exists_congr fun i => ?_
      by_cases here : i = k
      · subst here
        simp [held, Ne.symm same]
      · rw [Function.update_of_ne here]
  · rcases update_cases first with ⟨-, gone⟩ | ⟨-, old⟩
    · cases gone
    rcases update_cases second with ⟨-, gone⟩ | ⟨-, other⟩
    · cases gone
    · exact tracks.distinct i j _ old other

end Tracks

/-- The socket of each slot. -/
def State.sockets (state : State Addr) : Nat → Option Int :=
  Slot.socket ∘ state.slots

theorem sockets_update
    (slots : Nat → Slot Addr)
    (k : Nat)
    (slot : Slot Addr) :
    Slot.socket ∘ Function.update slots k slot =
      Function.update (Slot.socket ∘ slots) k slot.socket :=
  Function.comp_update _ _ _ _

theorem sockets_update_same
    {slots : Nat → Slot Addr}
    {k : Nat}
    {slot : Slot Addr}
    (same : slot.socket = (slots k).socket) :
    Slot.socket ∘ Function.update slots k slot = Slot.socket ∘ slots := by
  rw [sockets_update, same]
  exact Function.update_eq_self k (Slot.socket ∘ slots)

/-- The open descriptors after a machine was deleted. -/
theorem State.openAfterDelete_eq
    (state : State Addr)
    (check : ConnectCheckFsm Addr) :
    state.openAfterDelete check =
      match check.base.sock with
      | some sock => Function.update state.isOpen sock false
      | none => state.isOpen := by
  unfold openAfterDelete TcpClientFsm.close
  cases socket : check.base.sock with
  | none => simp [settle, socket, Output.calls]
  | some sock =>
      dsimp only
      split
      · rfl
      · rfl

/-- The descriptors of `TryConnect` are tracked. -/
def OpenTracked (state : State Addr) : Prop :=
  Tracks state.isOpen state.sockets

theorem openTracked_delete
    {k : Nat}
    {check : ConnectCheckFsm Addr}
    {slot : Slot Addr}
    (tracked : OpenTracked state)
    (held : (state.slots k).socket = check.base.sock)
    (deleted : slot.socket = none) :
    Tracks (state.openAfterDelete check)
      (Slot.socket ∘ Function.update state.slots k slot) := by
  rw [state.openAfterDelete_eq]
  cases socket : check.base.sock with
  | none =>
      rw [sockets_update_same (by rw [deleted, held, socket])]
      exact tracked
  | some sock =>
      rw [sockets_update, deleted]
      exact tracked.close (held.trans socket)

/-! ## The result -/

/-- The machine at this index was connected and verified when its socket was
taken, and that socket is the result. -/
def State.ResultAt (state : State Addr) (i : Nat) : Prop :=
  i < state.trycount ∧ ∃ slots check, state.chosen = some (i, slots) ∧
    (slots i).check = some check ∧ check.base.status = .eReadWrite ∧
    check.checkStatus = .eCheckOk ∧ state.retsocket = check.base.sock

/-- An update by a slot from which no socket was taken. -/
theorem taken_update
    {slots : Nat → Slot Addr}
    {k i : Nat}
    {slot : Slot Addr}
    (untaken : slot.taken = none)
    (other : (slots i).taken = none) :
    (Function.update slots k slot i).taken = none := by
  rw [Function.apply_update (fun _ => Slot.taken)]
  by_cases same : i = k
  · rw [same, Function.update_self]
    exact untaken
  · rw [Function.update_of_ne same]
    exact other

/-- The result is the socket that was taken from the chosen machine. -/
structure Resulted (state : State Addr) : Prop where
  notChosen : state.chosen = none →
    state.retsocket = none ∧ ∀ i, (state.slots i).taken = none
  chosen : ∀ i slots, state.chosen = some (i, slots) →
    state.usedIndex = toInt32 i ∧ state.ResultAt i ∧
      (state.slots i).check = none ∧ (state.slots i).taken = state.retsocket ∧
      ∀ j, j ≠ i → (state.slots j).taken = none

namespace Resulted

theorem new (config : Config Addr) : Resulted (State.new config) where
  notChosen := fun _ => ⟨rfl, fun _ => rfl⟩
  chosen := fun i slots chosen => by cases chosen

theorem of_notChosen
    (notChosen : state.chosen = none)
    (invalid : state.retsocket = none)
    (untaken : ∀ i, (state.slots i).taken = none) :
    Resulted state where
  notChosen := fun _ => ⟨invalid, untaken⟩
  chosen := fun i slots chosen => by
    rw [notChosen] at chosen
    cases chosen

/-- The loop takes a socket. -/
theorem choose
    {k : Nat}
    {slot : Slot Addr}
    {check : ConnectCheckFsm Addr}
    (untaken : ∀ i, (state.slots i).taken = none)
    (tried : k < state.trycount)
    (present : slot.check = some check)
    (won : check.Won) :
    Resulted (state.choose k slot check) := by
  have result : State.ResultAt (state.choose k slot check) k := by
    refine ⟨tried, _, check, rfl, ?_, won.1, won.2, rfl⟩
    rw [Function.update_self]
    exact present
  refine ⟨fun none => (by cases none), fun i slots chosen => ?_⟩
  cases chosen
  refine ⟨?_, result, ?_, ?_, ?_⟩
  · simp only [State.choose]
  · simp only [State.choose, Function.update_self]
    rfl
  · simp only [State.choose, Function.update_self]
    rfl
  · intro j different
    simp only [State.choose, Function.update_of_ne different]
    exact untaken j

/-- The last loop deletes a machine. -/
theorem cleanup
    {k : Nat}
    {check : ConnectCheckFsm Addr}
    (resulted : Resulted state)
    (present : (state.slots k).check = some check) :
    Resulted (state.cleanup k check) := by
  refine ⟨fun notChosen => ?_, fun i slots chosen => ?_⟩
  · obtain ⟨invalid, untaken⟩ := resulted.notChosen notChosen
    exact ⟨invalid, fun i => taken_update (untaken k) (untaken i)⟩
  · obtain ⟨index, result, gone, taken, others⟩ := resulted.chosen i slots chosen
    have different : i ≠ k := by
      rintro rfl
      rw [present] at gone
      cases gone
    refine ⟨index, result, ?_, ?_, ?_⟩
    · simp only [State.cleanup, Function.update_of_ne different]
      exact gone
    · simp only [State.cleanup, Function.update_of_ne different]
      exact taken
    · intro j other
      exact taken_update (others k different.symm) (others j other)

theorem step
    {action : Action}
    (resulted : Resulted state)
    (sound : Sound state)
    (ordered : Ordered config state)
    (fires : Fires config state action next) :
    Resulted next := by
  cases fires with
  | created pc _ =>
      have notChosen := sound.notChosen (by rw [pc]; rfl)
      obtain ⟨invalid, untaken⟩ := resulted.notChosen notChosen
      exact of_notChosen notChosen invalid fun i => taken_update rfl (untaken i)
  | entered pc _ | started pc _ | waited pc _ | interrupted pc _ _
  | selected pc _ =>
      have notChosen := sound.notChosen (by rw [pc]; rfl)
      obtain ⟨invalid, untaken⟩ := resulted.notChosen notChosen
      exact of_notChosen notChosen invalid untaken
  | preSelected pc _ _ _ | kept pc _ _ _ _ _ | removed pc _ _ _ _ =>
      have notChosen := sound.notChosen (by rw [pc]; rfl)
      obtain ⟨invalid, untaken⟩ := resulted.notChosen notChosen
      exact of_notChosen notChosen invalid fun i =>
        taken_update (untaken _) (untaken i)
  | chosen pc below _ _ won =>
      have notChosen := sound.notChosen (by rw [pc]; rfl)
      exact choose (resulted.notChosen notChosen).2 (ordered.trycount ▸ below) rfl
        won
  | cleaned _ _ present => exact resulted.cleanup present
  | moved moves => exact ⟨resulted.notChosen, resulted.chosen⟩

theorem of_reachable
    (reached : (system config).Reachable state) :
    Resulted state := by
  refine reached.invariant ?_ ?_
  · rintro state rfl
    exact Resulted.new config
  · intro state action next prior resulted _ stepped
    exact resulted.step (Sound.of_reachable prior) (Ordered.of_reachable prior)
      (State.step_fires stepped)

end Resulted

/-! ## Every run -/

theorem openTracked_preSelect
    {k : Nat}
    {check : ConnectCheckFsm Addr}
    {calls : ConnectCalls}
    (tracked : OpenTracked state)
    (sound : Sound state)
    (present : (state.slots k).check = some check)
    (possible : state.canOpen config
      (check.base.preSelect state.sel calls).2.2.created = true) :
    OpenTracked (state.preSelect k check calls) := by
  have done := check.base.preSelects state.sel calls
  have lives := ((sound.slots k).lives.present present).1
  have held : (state.slots k).socket = check.base.sock := by
    simp only [Slot.socket, present]
  unfold OpenTracked State.preSelect State.sockets
  dsimp only
  by_cases start : check.base.status = .eStart
  · have opens := done.opens start
    obtain ⟨-, -, noSocket, -⟩ := lives.fresh start
    have empty : (state.slots k).socket = none := held.trans noSocket
    have created : (check.base.preSelect state.sel calls).2.2.created =
        (check.base.preSelect state.sel calls).1.sock := opens.created
    rw [created] at possible
    cases socket : (check.base.preSelect state.sel calls).1.sock with
    | none =>
        have unchanged : settle state.isOpen
            (check.base.preSelect state.sel calls).2.2 = state.isOpen := by
          simp [settle, created, opens.closed, socket]
        rw [unchanged, sockets_update_same (by rw [Slot.socket_called, socket, empty])]
        exact tracked
    | some sock =>
        have opened : settle state.isOpen
            (check.base.preSelect state.sel calls).2.2 =
              Function.update state.isOpen sock true := by
          simp [settle, created, opens.closed, socket]
        rw [socket] at possible
        simp only [State.canOpen, Bool.and_eq_true, beq_iff_eq] at possible
        rw [opened, sockets_update]
        simp only [Slot.socket, Slot.called, socket]
        exact tracked.create empty possible.1
  · obtain ⟨same, silent⟩ := done.eq_of_started start
    have sameSocket : (check.base.preSelect state.sel calls).1.sock =
        check.base.sock := congrArg Standing.sock same
    rw [silent, sockets_update_same (by
      rw [Slot.socket_called, sameSocket, held])]
    exact tracked

theorem openTracked_step
    {action : Action}
    (tracked : OpenTracked state)
    (sound : Sound state)
    (sized : Sized config state)
    (resulted : Resulted state)
    (fires : Fires config state action next) :
    OpenTracked next := by
  have held : ∀ {k : Nat} {check : ConnectCheckFsm Addr},
      (state.slots k).check = some check →
      (state.slots k).socket = check.base.sock := by
    intro k check present
    simp only [Slot.socket, present]
  cases fires with
  | created pc _ =>
      have untaken :=
        (resulted.notChosen (sound.notChosen (by rw [pc]; rfl))).2 state.vecSize
      have empty : (state.slots state.vecSize).socket = none := by
        simp only [Slot.socket, sized.beyond _ le_rfl, untaken]
      unfold OpenTracked State.sockets
      rw [sockets_update_same (by rw [empty]; rfl)]
      exact tracked
  | preSelected _ _ present possible =>
      exact openTracked_preSelect tracked sound present possible
  | kept _ _ present selected _ _ =>
      have same := (sound.slots _).afterSelect_sock present selected
      unfold OpenTracked State.sockets
      rw [sockets_update_same (by rw [Slot.socket_called, same, held present])]
      exact tracked
  | removed _ _ present selected _ =>
      have same := (sound.slots _).afterSelect_sock present selected
      exact openTracked_delete tracked ((held present).trans same.symm)
        ((sound.slots _).lives.present present).2
  | chosen _ _ present selected _ =>
      have same := (sound.slots _).afterSelect_sock present selected
      unfold OpenTracked State.sockets State.choose
      rw [sockets_update_same (by rw [Slot.socket_take, same, held present])]
      exact tracked
  | cleaned _ _ present =>
      exact openTracked_delete tracked (held present)
        ((sound.slots _).lives.present present).2
  | entered _ _ | started _ _ | waited _ _ | interrupted _ _ _ | selected _ _
  | moved _ => exact tracked

theorem openTracked_of_reachable
    (reached : (system config).Reachable state) :
    OpenTracked state := by
  refine reached.invariant ?_ ?_
  · rintro state rfl
    exact ⟨fun sock => by simp [State.new, State.sockets, Slot.socket, Slot.empty],
      fun i j sock first => by cases first⟩
  · intro state action next prior tracked _ stepped
    exact openTracked_step tracked (Sound.of_reachable prior)
      (Sized.of_reachable prior) (Resulted.of_reachable prior)
      (State.step_fires stepped)

/-- The machines below the counter of the last loop are deleted. -/
structure Cleaned (state : State Addr) : Prop where
  below : ∀ k, state.pc = .cleaning k → ∀ i < k, (state.slots i).check = none
  returned : state.pc = .returned → ∀ i, (state.slots i).check = none

theorem cleaned_step
    {action : Action}
    (cleaned : Cleaned state)
    (sized : Sized config state)
    (fires : Fires config state action next) :
    Cleaned next := by
  cases fires with
  | @cleaned k _ pc _ _ =>
      refine ⟨fun j nextPc i small => ?_, fun nextPc => by cases nextPc⟩
      cases nextPc
      by_cases same : i = k
      · subst same
        simp only [State.cleanup, Function.update_self]
        rfl
      · simp only [State.cleanup, Function.update_of_ne same]
        exact cleaned.below k pc i (by omega)
  | interrupted _ _ _ =>
      refine ⟨fun j nextPc i small => ?_, fun nextPc => by cases nextPc⟩
      cases nextPc
      exact absurd small (Nat.not_lt_zero i)
  | moved moves =>
      obtain ⟨below, returned⟩ := cleaned
      generalize state.pc = pc at moves below returned
      cases moves with
      | finished _ =>
          refine ⟨fun j nextPc i small => ?_, fun nextPc => by cases nextPc⟩
          cases nextPc
          exact absurd small (Nat.not_lt_zero i)
      | @cleanSkipped k absent =>
          refine ⟨fun j nextPc i small => ?_, fun nextPc => by cases nextPc⟩
          cases nextPc
          by_cases same : i = k
          · rw [same]
            exact absent
          · exact below k rfl i (by omega)
      | @returned k past =>
          refine ⟨fun j nextPc => (by cases nextPc), fun _ i => ?_⟩
          rcases Nat.lt_or_ge i k with small | large
          · exact below k rfl i small
          · exact sized.beyond i (past.trans large)
      | preSkipped _ | timed | afterSkipped _ | looped _ | again _ =>
          exact ⟨fun j nextPc => (by cases nextPc), fun nextPc => by cases nextPc⟩
  | _ => exact ⟨fun j nextPc => (by cases nextPc), fun nextPc => by cases nextPc⟩

theorem cleaned_of_reachable
    (reached : (system config).Reachable state) :
    Cleaned state := by
  refine reached.invariant ?_ ?_
  · rintro state rfl
    exact ⟨fun k _ i _ => rfl, fun _ i => rfl⟩
  · intro state action next prior cleaned _ stepped
    exact cleaned_step cleaned (Sized.of_reachable prior)
      (State.step_fires stepped)

/-- Every socket that a machine created was closed exactly once, except the
result, which is still open. -/
structure Accounted (state : State Addr) : Prop where
  createdOnce : ∀ i, (state.slots i).record.created.length ≤ 1
  closedOnce : ∀ i, (∀ slots, state.chosen ≠ some (i, slots)) →
    (state.slots i).record.closed = (state.slots i).record.created
  notClosed : ∀ i slots, state.chosen = some (i, slots) →
    (state.slots i).record.created = state.retsocket.toList ∧
      (state.slots i).record.closed = []
  isOpen : ∀ sock, state.isOpen sock = true ↔ state.retsocket = some sock

/-- What a slot created is what it closed and what it still has. -/
theorem account
    (sound : Sound state)
    (i : Nat) :
    (state.slots i).record.created =
      (state.slots i).record.closed ++ (state.slots i).socket.toList := by
  obtain ⟨standing, lives, same, -⟩ := (sound.slots i).lives
  rw [← same]
  exact lives.account

theorem accounted_of_returned
    (reached : (system config).Reachable state)
    (returned : state.pc = .returned) :
    Accounted state := by
  have sound := Sound.of_reachable reached
  have resulted := Resulted.of_reachable reached
  have gone := (cleaned_of_reachable reached).returned returned
  have sockets : ∀ i, (state.slots i).socket = (state.slots i).taken := fun i => by
    simp only [Slot.socket, gone i]
  have untaken : ∀ i, (∀ slots, state.chosen ≠ some (i, slots)) →
      (state.slots i).taken = none := by
    intro i notThis
    cases chosen : state.chosen with
    | none => exact (resulted.notChosen chosen).2 i
    | some choice =>
        obtain ⟨k, slots⟩ := choice
        refine (resulted.chosen k slots chosen).2.2.2.2 i ?_
        rintro rfl
        exact notThis slots chosen
  have once : ∀ i, (state.slots i).record.created.length ≤ 1 := fun i => by
    obtain ⟨standing, lives, -⟩ := (sound.slots i).lives
    exact lives.createdOnce
  refine ⟨once, fun i notThis => ?_, fun i slots chosen => ?_, fun sock => ?_⟩
  · have created := account sound i
    rw [sockets, untaken i notThis] at created
    simpa using created.symm
  · have created := account sound i
    have single := once i
    obtain ⟨-, -, -, taken, -⟩ := resulted.chosen i slots chosen
    have valid := (sound.chosen (by rw [chosen]; simp)).1
    obtain ⟨sock, result⟩ := Option.ne_none_iff_exists'.mp valid
    rw [sockets, taken, result] at created
    rw [created] at single
    have nothing : (state.slots i).record.closed = [] := by
      simpa using single
    rw [created, nothing, result]
    exact ⟨rfl, rfl⟩
  · rw [(openTracked_of_reachable reached).isOpen]
    cases chosen : state.chosen with
    | none =>
        obtain ⟨invalid, untakenAll⟩ := resulted.notChosen chosen
        simp [State.sockets, sockets, untakenAll, invalid]
    | some choice =>
        obtain ⟨k, slots⟩ := choice
        obtain ⟨-, -, -, taken, others⟩ := resulted.chosen k slots chosen
        constructor
        · rintro ⟨i, held⟩
          have fromSlot : (state.slots i).taken = some sock :=
            (sockets i).symm.trans held
          by_cases same : i = k
          · rw [← taken, ← same]
            exact fromSlot
          · rw [others i same] at fromSlot
            cases fromSlot
        · intro result
          exact ⟨k, (sockets k).trans (taken.trans result)⟩

theorem valid_iff
    (sound : Sound state)
    (resulted : Resulted state) :
    state.retsocket ≠ none ↔
      ∃ i : Nat, state.usedIndex = toInt32 i ∧ state.ResultAt i := by
  constructor
  · intro valid
    cases chosen : state.chosen with
    | none => exact absurd (resulted.notChosen chosen).1 valid
    | some choice =>
        obtain ⟨i, slots⟩ := choice
        obtain ⟨index, result, -⟩ := resulted.chosen i slots chosen
        exact ⟨i, index, result⟩
  · rintro ⟨i, -, -, slots, check, chosen, -⟩
    exact (sound.chosen (by rw [chosen]; simp)).1

/-- When `TryConnect` returns, every socket created by one of its machines was
closed exactly once, except the result, which was never closed.  The result is
valid iff `Index()` is, as an `int`, the index of a started machine that was
connected and verified when its socket became the result. -/
theorem socketsAccounted_of_returned
    {config : Config Addr}
    {state : State Addr}
    (reached : (system config).Reachable state)
    (returned : state.pc = .returned) :
    Accounted state ∧
      (state.retsocket ≠ none ↔
        ∃ i : Nat, state.usedIndex = toInt32 i ∧ state.ResultAt i) ∧
      (config.addresses.length ≤ 2 ^ 31 →
        (state.retsocket ≠ none ↔
          ∃ i : Nat, state.usedIndex = i ∧ state.ResultAt i)) := by
  have sound := Sound.of_reachable reached
  have sized := Sized.of_reachable reached
  have ordered := Ordered.of_reachable reached
  have valid := valid_iff sound (Resulted.of_reachable reached)
  refine ⟨accounted_of_returned reached returned, valid, fun short => ?_⟩
  rw [valid]
  refine exists_congr fun i => and_congr_left fun result => ?_
  have below : i < 2 ^ 31 := by
    have started := result.1
    have size := (sized.size (by rw [returned]; rfl)).1
    have bound := ordered.indexLe
    rw [ordered.trycount] at started
    omega
  rw [TcpClient.toInt32_eq_self (by omega) (by omega)]

/-- The accounting where the first address connects. -/
theorem socketsAccounted_firstConnects :
    ∃ state, (system twoAddresses).Reachable state ∧ state.pc = .returned ∧
      state.retsocket = some 7 ∧ Accounted state := by
  obtain ⟨state, -, reached, holds⟩ := Machine.exists_reachable_of_exec
    (rfl : (system twoAddresses).initial (State.new twoAddresses))
    (by decide +kernel : ((system twoAddresses).exec (State.new twoAddresses)
      firstConnects).map (fun state =>
        state.pc == .returned && state.retsocket == some 7) = some true)
  simp only [Bool.and_eq_true, beq_iff_eq] at holds
  exact ⟨state, reached, holds.1, holds.2,
    (socketsAccounted_of_returned reached holds.1).1⟩

end MultiConnect
end Skplat
