import Skplat.TcpServer.Steps

/-!
# The start/stop protocol of a TCP server

Three things can go wrong.  `Thread::start` reports a new thread before it knows
whether `pthread_create` succeeded, and then `StartAndWait` waits for a thread
that does not exist.  A `StopAndWait` whose join is refused, because another call
is joining or because it runs on the listening thread itself, returns while the
thread is running.  And a `StartAndWait` that finds the thread running takes its
socket as a success, although the thread may have been told to stop or be on its
way out already.  Runs in which none of this happens keep the protocol.
-/

namespace Skplat
namespace TcpServer

variable {n : Nat}

/-- The thread is created, no join is refused, and a `StartAndWait` that finds a
valid socket finds a thread in its loop that nobody has broken. -/
def WellTimed (state : State n) : Action n → Prop
  | .start _ created => state.listener = .notRunning → created = true
  | .startReturn _ => state.listenSock = true →
      state.brokenSince = false ∧ state.listener ≠ .left
  | .stopJoin _ self => state.listener ≠ .notRunning →
      self = false ∧
        ∀ other, (state.calls other).joins state.threads = false
  | _ => True

instance (state : State n) : DecidablePred (WellTimed state)
  | .start _ created => inferInstanceAs
      (Decidable (state.listener = .notRunning → created = true))
  | .startReturn _ => inferInstanceAs
      (Decidable (state.listenSock = true →
        state.brokenSince = false ∧ state.listener ≠ .left))
  | .stopJoin _ self => inferInstanceAs
      (Decidable (state.listener ≠ .notRunning →
        self = false ∧
          ∀ other, (state.calls other).joins state.threads = false))
  | .spuriousWake _ | .wake _ | .stop _ _ | .stopClose _
  | .stopReCreate _ _ | .stopTest _ | .joined _ | .setUp _ | .created | .select
  | .pollReturn _ | .test | .accept _ | .accepted | .close | .errorDone =>
      .isTrue trivial

/-- A call is blocked on `cond_` only before the set-up section of the listening
thread. -/
def WaitsForSetUp (state : State n) : Prop :=
  ∀ call, state.calls call = .waiting → state.listener = .created

/-! ## Waiting -/

section Waiting

variable {state next : State n}

@[simp] theorem disturb_eq_waiting (pc : CallPc) :
    pc.disturb = .waiting ↔ pc = .waiting := by
  cases pc <;> simp [CallPc.disturb]

@[simp] theorem notify_ne_waiting (pc : CallPc) : pc.notify ≠ .waiting := by
  cases pc <;> simp [CallPc.notify]

namespace WaitsForSetUp

/-- A call moves on to a point where it does not wait. -/
theorem of_call
    (waits : WaitsForSetUp state)
    {call : Fin n} {pc : CallPc}
    (busy : pc ≠ .waiting)
    (calls : next.calls = Function.update state.calls call pc)
    (listener : state.listener = .created → next.listener = .created) :
    WaitsForSetUp next := by
  intro other waiting
  rw [calls] at waiting
  rcases update_cases waiting with ⟨-, moved⟩ | ⟨-, before⟩
  · exact absurd moved busy
  · exact listener (waits other before)

/-- The listening thread moves on after its set-up. -/
theorem of_listener
    (waits : WaitsForSetUp state)
    (sameCalls : next.calls = state.calls)
    (after : state.listener ≠ .created) :
    WaitsForSetUp next := by
  intro other waiting
  rw [sameCalls] at waiting
  exact absurd (waits other waiting) after

theorem swapPipe_eq_created
    {pc : ListenPc}
    (created : pc = .created) :
    pc.swapPipe = .created := by
  rw [created]
  rfl

theorem step
    (waits : WaitsForSetUp state)
    {action : Action n}
    (timed : WellTimed state action)
    (fires : Fires state action next) :
    WaitsForSetUp next := by
  cases fires with
  | launched => exact fun _ _ => rfl
  | notLaunched ended => exact absurd (timed ended) (by simp)
  | found idle running =>
      intro other waiting
      rcases update_cases waiting with ⟨-, moved⟩ | ⟨-, before⟩
      · cases moved
      · exact waits other ((disturb_eq_waiting _).mp before)
  | startReturned pc => exact waits.of_call (by simp) rfl id
  | woken pc => exact waits.of_call (by simp) rfl id
  | resumed pc => exact waits.of_call (by simp) rfl id
  | stopBroke idle => exact waits.of_call (by simp) rfl id
  | stopFailed idle => exact waits.of_call (by simp) rfl id
  | pipeClosed pc => exact waits.of_call (by simp) rfl swapPipe_eq_created
  | reCreated pc => exact waits.of_call (by simp) rfl swapPipe_eq_created
  | stopFound pc => exact waits.of_call (by simp) rfl id
  | stopReturned pc ended => exact waits.of_call (by simp) rfl id
  | joinRefused pc running refused => exact waits.of_call (by simp) rfl id
  | joining pc => exact waits.of_call (by simp) rfl id
  | joined pc ended => exact waits.of_call (by simp) rfl id
  | listening pc =>
      intro other waiting
      exact absurd waiting (notify_ne_waiting _)
  | setUpFailed pc =>
      intro other waiting
      exact absurd waiting (notify_ne_waiting _)
  | moved source moves =>
      refine waits.of_listener rfl ?_
      rw [source]
      cases moves <;> simp
  | brokeOff polled => exact waits.of_listener rfl (by simp [polled])
  | leaves inLoop =>
      refine waits.of_listener rfl ?_
      rcases inLoop with accepting | ⟨result, polled⟩
      · simp [accepting]
      · simp [polled]
  | closed left => exact waits.of_listener rfl (by simp [left])

end WaitsForSetUp
end Waiting

/-! ## Stopping -/

/-- The listening thread has a socket. -/
def ListenPc.mayListen : ListenPc → Bool
  | .notRunning | .created | .onError => false
  | _ => true

/-- What a returning `StopAndWait` relies on. -/
structure Stopping (state : State n) : Prop where
  /-- Outside its loop the thread has no socket. -/
  closed : state.listener.mayListen = false → state.listenSock = false
  /-- An undisturbed join is about the current thread. -/
  joins : ∀ call thread, state.calls call = .joining thread true →
    thread = state.threads
  /-- No `StopAndWait` returned too early. -/
  stopped : state.unstopped = false

namespace Stopping

variable {state next : State n}

theorem mayListen_swapPipe (pc : ListenPc) :
    pc.swapPipe.mayListen = pc.mayListen := by
  cases pc <;> rfl

/-- A call moves on. -/
theorem of_call
    (stopping : Stopping state)
    {call : Fin n} {pc : CallPc}
    (listenSock : next.listenSock = state.listenSock)
    (listener : next.listener.mayListen = state.listener.mayListen)
    (threads : next.threads = state.threads)
    (calls : next.calls = Function.update state.calls call pc)
    (joins : ∀ thread, pc = .joining thread true → thread = state.threads)
    (unstopped : next.unstopped = false) :
    Stopping next := by
  refine ⟨?_, ?_, unstopped⟩
  · rw [listenSock, listener]
    exact stopping.closed
  · intro other thread joining
    rw [threads]
    rw [calls] at joining
    rcases update_cases joining with ⟨-, moved⟩ | ⟨-, before⟩
    · exact joins thread moved
    · exact stopping.joins other thread before

/-- A call that is not joining moves on. -/
theorem of_quiet
    (stopping : Stopping state)
    {call : Fin n} {pc : CallPc}
    (listenSock : next.listenSock = state.listenSock)
    (listener : next.listener.mayListen = state.listener.mayListen)
    (threads : next.threads = state.threads)
    (calls : next.calls = Function.update state.calls call pc)
    (quiet : ∀ thread, pc ≠ .joining thread true)
    (unstopped : next.unstopped = state.unstopped) :
    Stopping next :=
  stopping.of_call listenSock listener threads calls
    (fun thread joining => absurd joining (quiet thread))
    (unstopped.trans stopping.stopped)

/-- `StopAndWait` returns after the end of the thread, or disturbed. -/
theorem of_return
    (stopping : Stopping state)
    {call : Fin n} {undisturbed : Bool}
    (ended : undisturbed = true → state.listener = .notRunning) :
    Stopping (state.stopReturn call undisturbed) := by
  refine stopping.of_call rfl rfl rfl rfl (by simp) ?_
  have stopped := stopping.stopped
  cases undisturbed with
  | false => simp [State.stopReturn, State.setCall, stopped]
  | true =>
      have gone := ended rfl
      have closed := stopping.closed (by rw [gone]; rfl)
      simp [State.stopReturn, State.setCall, stopped, gone, closed]

/-- A `StartAndWait` begins. -/
theorem of_disturb
    (stopping : Stopping state)
    {call : Fin n} {pc : CallPc}
    (listenSock : next.listenSock = state.listenSock)
    (listener : next.listener.mayListen = state.listener.mayListen)
    (calls : next.calls = Function.update state.disturb.calls call pc)
    (quiet : ∀ thread, pc ≠ .joining thread true)
    (unstopped : next.unstopped = state.unstopped) :
    Stopping next := by
  refine ⟨?_, ?_, unstopped.trans stopping.stopped⟩
  · rw [listenSock, listener]
    exact stopping.closed
  · intro other thread joining
    rw [calls] at joining
    rcases update_cases joining with ⟨-, moved⟩ | ⟨-, before⟩
    · exact absurd moved (quiet thread)
    · cases pc : state.calls other <;>
        simp [State.disturb, pc, CallPc.disturb] at before

/-- The listening thread moves on. -/
theorem of_listener
    (stopping : Stopping state)
    (sameCalls : next.calls = state.calls)
    (threads : next.threads = state.threads)
    (unstopped : next.unstopped = state.unstopped)
    (closed : next.listener.mayListen = false → next.listenSock = false) :
    Stopping next := by
  refine ⟨closed, ?_, unstopped.trans stopping.stopped⟩
  rw [sameCalls, threads]
  exact stopping.joins

/-- The set-up section notifies the waiting calls. -/
theorem of_notify
    (stopping : Stopping state)
    (calls : next.calls = state.notifyAll.calls)
    (threads : next.threads = state.threads)
    (unstopped : next.unstopped = state.unstopped)
    (listens : next.listener.mayListen = true) :
    Stopping next := by
  refine ⟨by simp [listens], ?_, unstopped.trans stopping.stopped⟩
  intro other thread joining
  rw [threads]
  rw [calls] at joining
  cases pc : state.calls other with
  | joining =>
      simp only [State.notifyAll, pc, CallPc.notify] at joining
      exact stopping.joins other thread (pc.trans joining)
  | _ => simp [State.notifyAll, pc, CallPc.notify] at joining

theorem step
    (stopping : Stopping state)
    {action : Action n}
    (timed : WellTimed state action)
    (fires : Fires state action next) :
    Stopping next := by
  cases fires with
  | launched idle free ended =>
      exact stopping.of_disturb rfl (by rw [ended]; rfl) rfl (by simp) rfl
  | notLaunched ended => exact absurd (timed ended) (by simp)
  | found idle running =>
      exact stopping.of_disturb rfl rfl rfl (by simp) rfl
  | startReturned pc => exact stopping.of_quiet rfl rfl rfl rfl (by simp) rfl
  | woken pc => exact stopping.of_quiet rfl rfl rfl rfl (by simp) rfl
  | resumed pc => exact stopping.of_quiet rfl rfl rfl rfl (by simp) rfl
  | stopBroke idle => exact stopping.of_quiet rfl rfl rfl rfl (by simp) rfl
  | stopFailed idle => exact stopping.of_quiet rfl rfl rfl rfl (by simp) rfl
  | pipeClosed pc =>
      exact stopping.of_quiet rfl (mayListen_swapPipe _) rfl rfl (by simp) rfl
  | reCreated pc =>
      exact stopping.of_quiet rfl (mayListen_swapPipe _) rfl rfl (by simp) rfl
  | stopFound pc => exact stopping.of_quiet rfl rfl rfl rfl (by simp) rfl
  | stopReturned pc ended => exact stopping.of_return fun _ => ended
  | joinRefused pc running refused =>
      obtain ⟨notSelf, alone⟩ := timed running
      rcases refused with own | ⟨other, joins⟩
      · simp [notSelf] at own
      · simp [alone other] at joins
  | joining pc =>
      refine stopping.of_call rfl rfl rfl rfl ?_ stopping.stopped
      rintro thread ⟨⟩
      rfl
  | @joined _ call thread undisturbed pc ended =>
      refine stopping.of_return ?_
      rintro rfl
      exact ended.resolve_left (not_not.mpr (stopping.joins call thread pc))
  | listening pc => exact stopping.of_notify rfl rfl rfl rfl
  | setUpFailed pc => exact stopping.of_notify rfl rfl rfl rfl
  | moved source moves =>
      have closed := stopping.closed
      rw [source] at closed
      refine stopping.of_listener rfl rfl rfl ?_
      cases moves with
      | errorDone => exact fun _ => closed rfl
      | _ => simp [ListenPc.mayListen]
  | brokeOff polled =>
      exact stopping.of_listener rfl rfl rfl (by simp [ListenPc.mayListen])
  | leaves inLoop =>
      exact stopping.of_listener rfl rfl rfl
        (by simp [State.leave, ListenPc.mayListen])
  | closed left => exact stopping.of_listener rfl rfl rfl fun _ => rfl

end Stopping

/-! ## Keeping the socket -/

/-- The pipe holds at most one byte, and only with `broken_` set. -/
structure AtMostOneByte (breaker : SocketSelectBreaker) : Prop where
  single : pendingBytes breaker.pipes ≤ 1
  flag : 0 < pendingBytes breaker.pipes → breaker.broken = true

namespace AtMostOneByte

variable {breaker : SocketSelectBreaker}

theorem of_empty
    (empty : pendingBytes breaker.pipes = 0) :
    AtMostOneByte breaker :=
  ⟨by omega, by omega⟩

theorem breakPipe
    (sound : AtMostOneByte breaker)
    (written : Int) :
    AtMostOneByte (breaker.breakPipe written) := by
  cases broken : breaker.broken with
  | true =>
      simp only [SocketSelectBreaker.breakPipe, broken, if_true]
      exact sound
  | false =>
      have empty : pendingBytes breaker.pipes = 0 := by
        by_contra byte
        have flag := sound.flag (by omega)
        simp [broken] at flag
      simp only [SocketSelectBreaker.breakPipe, broken]
      cases pipes : breaker.pipes with
      | opened bytes =>
          rw [pipes] at empty
          simp only [pendingBytes] at empty
          subst empty
          by_cases one : written = 1
          · subst one
            exact ⟨le_refl 1, fun _ => rfl⟩
          · apply of_empty
            simp [SocketSelectBreaker.Pipes.write, one, pendingBytes]
      | _ => exact of_empty rfl

/-- `Clear` empties the pipe. -/
theorem pendingBytes_clear
    (sound : AtMostOneByte breaker) :
    pendingBytes (breaker.clear (readResult breaker.pipes)).pipes = 0 := by
  have single := sound.single
  cases pipes : breaker.pipes with
  | opened bytes =>
      rw [pipes] at single
      cases bytes with
      | zero => simp [SocketSelectBreaker.clear, readResult, pipes, pendingBytes]
      | succ more =>
          have none : more = 0 := by
            simp only [pendingBytes] at single
            omega
          subst none
          simp [SocketSelectBreaker.clear, readResult, pipes, pendingBytes,
            SocketSelectBreaker.Pipes.read]
  | _ => simp [SocketSelectBreaker.clear, readResult, pipes, pendingBytes]

theorem pendingBytes_close (breaker : SocketSelectBreaker) :
    pendingBytes breaker.close.pipes = 0 := by
  cases pipes : breaker.pipes <;>
    simp [SocketSelectBreaker.close, pipes, pendingBytes]

theorem pendingBytes_reCreate
    (breaker : SocketSelectBreaker) (result : CreateResult) :
    pendingBytes (breaker.reCreate result).pipes = 0 := by
  cases result <;> rfl

end AtMostOneByte

/-- Nothing that happened before a grant ends it. -/
structure Keeping (state : State n) : Prop where
  /-- The breaker holds at most one byte. -/
  breaker : AtMostOneByte state.breaker
  /-- A byte in the pipe of a running thread was written since its start. -/
  clear : state.brokenSince = false → state.listener ≠ .notRunning →
    pendingBytes state.breaker.pipes = 0
  /-- So was a byte that its `poll` saw. -/
  seen : ∀ breakerException socketException readable,
    state.listener =
      .polled (.ready breakerException true socketException readable) →
    state.brokenSince = true
  /-- A grant is about an unbroken thread in its loop. -/
  granted : state.granted = true →
    state.brokenSince = false ∧ state.listener ≠ .left
  /-- No grant was undone. -/
  kept : state.undone = false

namespace Keeping

variable {state next : State n}

/-- Nothing that concerns grants changes. -/
theorem of_same
    (keeping : Keeping state)
    (breaker : next.breaker = state.breaker)
    (listener : next.listener = state.listener)
    (brokenSince : next.brokenSince = state.brokenSince)
    (granted : next.granted = true → state.granted = true ∨
      (state.brokenSince = false ∧ state.listener ≠ .left))
    (undone : next.undone = state.undone) :
    Keeping next := by
  refine ⟨breaker ▸ keeping.breaker, ?_, ?_, ?_, undone.trans keeping.kept⟩
  · rw [brokenSince, listener, breaker]
    exact keeping.clear
  · rw [brokenSince, listener]
    exact keeping.seen
  · rw [brokenSince, listener]
    intro grant
    exact (granted grant).elim keeping.granted id

/-- `Break` is called. -/
theorem of_broken
    (keeping : Keeping state)
    (breaker : AtMostOneByte next.breaker)
    (brokenSince : next.brokenSince = true)
    (granted : next.granted = false)
    (undone : next.undone = state.undone) :
    Keeping next := by
  refine ⟨breaker, by simp [brokenSince], ?_, by simp [granted],
    undone.trans keeping.kept⟩
  intro _ _ _ _
  exact brokenSince

/-- The listening thread moves on. -/
theorem of_listener
    (keeping : Keeping state)
    (breaker : next.breaker = state.breaker)
    (brokenSince : next.brokenSince = state.brokenSince)
    (undone : next.undone = false)
    (running : state.listener ≠ .notRunning)
    (seen : ∀ breakerException socketException readable,
      next.listener =
        .polled (.ready breakerException true socketException readable) →
      state.brokenSince = true)
    (granted : next.granted = true →
      state.granted = true ∧ next.listener ≠ .left) :
    Keeping next := by
  refine ⟨breaker ▸ keeping.breaker, ?_, ?_, ?_, undone⟩
  · rw [brokenSince, breaker]
    exact fun unbroken _ => keeping.clear unbroken running
  · rw [brokenSince]
    exact seen
  · rw [brokenSince]
    intro grant
    obtain ⟨before, inLoop⟩ := granted grant
    exact ⟨(keeping.granted before).1, inLoop⟩

/-- What a `poll` of a running thread sees was written since its start. -/
theorem broken_of_canPoll
    (keeping : Keeping state)
    (running : state.listener ≠ .notRunning)
    {stale breakerException socketException readable : Bool}
    (possible : state.canPoll stale
      (.ready breakerException true socketException readable) = true) :
    state.brokenSince = true := by
  by_contra unbroken
  have empty := keeping.clear (by simpa using unbroken) running
  cases stale <;> simp [State.canPoll, empty] at possible

/-- The pipe is closed or replaced. -/
theorem of_swap
    (keeping : Keeping state)
    (empty : pendingBytes next.breaker.pipes = 0)
    (listener : next.listener = state.listener.swapPipe)
    (brokenSince : next.brokenSince = state.brokenSince)
    (granted : next.granted = state.granted)
    (undone : next.undone = state.undone) :
    Keeping next := by
  refine ⟨.of_empty empty, fun _ _ => empty, ?_, ?_, undone.trans keeping.kept⟩
  · rw [listener]
    cases pc : state.listener <;> simp [ListenPc.swapPipe]
  · rw [granted, brokenSince, listener]
    intro grant
    obtain ⟨unbroken, inLoop⟩ := keeping.granted grant
    refine ⟨unbroken, ?_⟩
    cases pc : state.listener <;> simp_all [ListenPc.swapPipe]

/-- A new thread is granted to the call that starts it. -/
theorem of_launch
    (keeping : Keeping state)
    (empty : pendingBytes next.breaker.pipes = 0)
    (listener : next.listener = .created)
    (brokenSince : next.brokenSince = false)
    (undone : next.undone = state.undone) :
    Keeping next := by
  refine ⟨.of_empty empty, fun _ _ => empty, by simp [listener], ?_,
    undone.trans keeping.kept⟩
  intro _
  exact ⟨brokenSince, by simp [listener]⟩

/-- Moves of the listening thread. -/
theorem of_moves
    (keeping : Keeping state)
    {source pc : ListenPc}
    (sourceEq : state.listener = source)
    (moves : Moves state source pc) :
    Keeping { state with listener := pc } := by
  have running : state.listener ≠ .notRunning := by
    rw [sourceEq]
    cases moves <;> simp
  have granted : ({ state with listener := pc } : State n).granted = true →
      state.granted = true ∧ pc ≠ .left := by
    intro grant
    refine ⟨grant, ?_⟩
    cases moves <;> simp
  refine keeping.of_listener rfl rfl keeping.kept running ?_ granted
  intro breakerException socketException readable polled
  cases moves with
  | pollReturn possible =>
      cases polled
      exact keeping.broken_of_canPoll running possible
  | _ => cases polled

theorem step
    (keeping : Keeping state)
    {action : Action n}
    (timed : WellTimed state action)
    (fires : Fires state action next) :
    Keeping next := by
  cases fires with
  | launched idle free ended =>
      exact keeping.of_launch keeping.breaker.pendingBytes_clear rfl rfl rfl
  | notLaunched ended => exact absurd (timed ended) (by simp)
  | found idle running => exact keeping.of_same rfl rfl rfl Or.inl rfl
  | startReturned pc =>
      refine keeping.of_same rfl rfl rfl ?_ rfl
      intro grant
      simp only [State.setCall, Bool.or_eq_true] at grant
      exact grant.imp id timed
  | woken pc => exact keeping.of_same rfl rfl rfl Or.inl rfl
  | resumed pc => exact keeping.of_same rfl rfl rfl Or.inl rfl
  | @stopBroke _ _ written idle =>
      exact keeping.of_broken (keeping.breaker.breakPipe written) rfl rfl rfl
  | @stopFailed _ _ written idle =>
      exact keeping.of_broken (keeping.breaker.breakPipe written) rfl rfl rfl
  | pipeClosed pc =>
      exact keeping.of_swap (AtMostOneByte.pendingBytes_close _) rfl rfl rfl rfl
  | reCreated pc =>
      exact keeping.of_swap (AtMostOneByte.pendingBytes_reCreate _ _)
        rfl rfl rfl rfl
  | stopFound pc => exact keeping.of_same rfl rfl rfl Or.inl rfl
  | stopReturned pc ended => exact keeping.of_same rfl rfl rfl Or.inl rfl
  | joinRefused pc running refused =>
      exact keeping.of_same rfl rfl rfl Or.inl rfl
  | joining pc => exact keeping.of_same rfl rfl rfl Or.inl rfl
  | joined pc ended => exact keeping.of_same rfl rfl rfl Or.inl rfl
  | listening pc =>
      exact keeping.of_listener rfl rfl keeping.kept (by simp [pc]) (by simp)
        fun grant => ⟨grant, by simp⟩
  | setUpFailed pc =>
      exact keeping.of_listener rfl rfl keeping.kept (by simp [pc]) (by simp)
        (by simp)
  | moved source moves => exact keeping.of_moves source moves
  | brokeOff polled =>
      have broken := keeping.seen _ _ _ polled
      refine keeping.of_listener rfl rfl keeping.kept (by simp [polled])
        (by simp) ?_
      intro grant
      have unbroken := (keeping.granted grant).1
      simp [broken] at unbroken
  | leaves inLoop =>
      have running : state.listener ≠ .notRunning := by
        rcases inLoop with accepting | ⟨result, polled⟩
        · simp [accepting]
        · simp [polled]
      exact keeping.of_listener rfl rfl keeping.kept running
        (by simp [State.leave]) (by simp [State.leave])
  | closed left =>
      have ungranted : state.granted = false := by
        by_contra grant
        exact (keeping.granted (by simpa using grant)).2 left
      refine keeping.of_listener rfl rfl ?_ (by simp [left]) (by simp) ?_
      · simp [keeping.kept, ungranted]
      · simp [ungranted]

end Keeping

/-! ## Runs -/

section Runs

variable {state : State n}

end Runs

end TcpServer
end Skplat
