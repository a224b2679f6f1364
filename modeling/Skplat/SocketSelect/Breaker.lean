import Skplat.Machine.Basic
import Skplat.Utils.SocketSelectBreaker
import Mathlib.Algebra.Ring.Nat

/-!
# The life of a breaker

`SocketSelectBreaker` caches in `broken_` whether its pipe holds a byte.  `Break`
and `Clear` keep the cache true, but `Close` sets it without looking at the pipe
and `ReCreate` installs an empty pipe without resetting it.  So the cache is true
in every sequence of calls whose successful `ReCreate` calls all find `broken_`
unset, and the first one that does not makes it false.

Results of system calls are chosen by the action, as far as the kernel can
produce them on a pipe that the breaker owns.  After `Close` the descriptor
numbers stay behind and may belong to anybody.
-/

namespace Skplat

/-- The descriptors `pipes_`. -/
inductive Pipes
  | absent
  | opened (bytes : Nat)
  | closed
  deriving DecidableEq, Repr

/-- Outcome of the system calls of `ReCreate`. -/
inductive CreateResult
  | pipeFailed
  | getFlagsFailed
  | setFlagsFailed
  | created
  deriving DecidableEq, Repr

/-- The fields of a `SocketSelectBreaker`. -/
structure SocketSelectBreaker where
  /-- `pipes_`, with the unread bytes of an open pipe. -/
  pipes : Pipes
  /-- `create_success_`. -/
  createSuccess : Bool
  /-- `broken_`. -/
  broken : Bool
  deriving DecidableEq, Repr

/-- One call. -/
inductive BreakerCall
  | breakCall (written : Int)
  | clearCall (read : Int)
  | closeCall
  | reCreateCall (result : CreateResult)
  deriving DecidableEq, Repr

namespace SocketSelectBreaker

/-- `ReCreate()`. -/
def reCreate (breaker : SocketSelectBreaker) : CreateResult → SocketSelectBreaker
  | .pipeFailed | .getFlagsFailed | .setFlagsFailed =>
      { breaker with pipes := .absent, createSuccess := false }
  | .created => { breaker with pipes := .opened 0, createSuccess := true }

/-- The constructor. -/
def new (result : CreateResult) : SocketSelectBreaker :=
  reCreate ⟨.absent, true, false⟩ result

/-- Results that a one-byte `write` to the pipe can have. -/
def Pipes.canWrite : Pipes → Int → Bool
  | .absent, written => written < 0
  | .opened _, written => -1 ≤ written && written ≤ 1
  | .closed, _ => true

/-- The pipe after a `write` with this result. -/
def Pipes.write : Pipes → Int → Pipes
  | .opened bytes, written =>
      .opened (if written = 1 then bytes + 1 else bytes)
  | pipes, _ => pipes

/-- `Break()`, with the result of its `write`.  It returns the new value of
`broken_`. -/
def breakPipe (breaker : SocketSelectBreaker) (written : Int) :
    SocketSelectBreaker :=
  if breaker.broken then breaker
  else
    { breaker with
      pipes := Pipes.write breaker.pipes written
      broken := !(written < 0 || written ≠ 1) }

/-- Results that a `read` of 128 bytes from the pipe can have. -/
def Pipes.canRead : Pipes → Int → Bool
  | .absent, read => read < 0
  | .opened bytes, read =>
      read < 0 || (0 < bytes && read == (min bytes 128 : Nat))
  | .closed, _ => true

/-- The pipe after a `read` with this result. -/
def Pipes.read : Pipes → Int → Pipes
  | .opened bytes, read => .opened (bytes - read.toNat)
  | pipes, _ => pipes

/-- `Clear()`, with the result of its `read`. -/
def clear (breaker : SocketSelectBreaker) (read : Int) : SocketSelectBreaker :=
  if read < 0 then breaker
  else { breaker with pipes := Pipes.read breaker.pipes read, broken := false }

/-- `Close()`. -/
def close (breaker : SocketSelectBreaker) : SocketSelectBreaker :=
  { breaker with
    pipes := match breaker.pipes with
      | .absent => .absent
      | _ => .closed
    broken := true }

/-- One call.  Without a write because of `broken_`, its result is not asked
for. -/
def step (breaker : SocketSelectBreaker) :
    BreakerCall → Option SocketSelectBreaker
  | .breakCall written =>
      if breaker.broken || Pipes.canWrite breaker.pipes written then
        some (breaker.breakPipe written)
      else none
  | .clearCall read =>
      if Pipes.canRead breaker.pipes read then some (breaker.clear read)
      else none
  | .closeCall => some breaker.close
  | .reCreateCall result => some (breaker.reCreate result)

/-- An open pipe with its flag. -/
def view (breaker : SocketSelectBreaker) : Option Breaker :=
  match breaker.pipes with
  | .opened bytes => some ⟨bytes, breaker.broken⟩
  | _ => none

end SocketSelectBreaker

/-- A breaker as a system of calls. -/
def breakerSystem : Machine SocketSelectBreaker BreakerCall where
  initial := fun breaker => ∃ result, breaker = .new result
  step := SocketSelectBreaker.step

/-- Whenever the breaker holds an open pipe, `broken_` is set exactly when the
pipe holds an unread byte. -/
def FlagTellsTruth (breaker : SocketSelectBreaker) : Prop :=
  ∀ bytes, breaker.pipes = .opened bytes →
    (breaker.broken = true ↔ 0 < bytes)

/-- A successful `ReCreate` finds `broken_` unset. -/
def ReCreatesUnbroken (breaker : SocketSelectBreaker) : BreakerCall → Prop
  | .reCreateCall .created => breaker.broken = false
  | _ => True

instance (breaker : SocketSelectBreaker) :
    DecidablePred (ReCreatesUnbroken breaker)
  | .reCreateCall .created =>
      inferInstanceAs (Decidable (breaker.broken = false))
  | .reCreateCall .pipeFailed | .reCreateCall .getFlagsFailed
  | .reCreateCall .setFlagsFailed | .breakCall _ | .clearCall _
  | .closeCall => .isTrue trivial

/-- The call is not `Clear`. -/
def BreakerCall.keepsBytes : BreakerCall → Bool
  | .clearCall _ => false
  | _ => true

namespace SocketSelectBreaker

variable {breaker next : SocketSelectBreaker}

/-! ## Calls on an open pipe -/

theorem view_breakPipe
    {open_ : Breaker}
    (isOpen : breaker.view = some open_)
    (written : Int) :
    (breaker.breakPipe written).view =
      some (open_.breakPipe (decide (written = 1))) := by
  obtain ⟨pipes, createSuccess, broken⟩ := breaker
  cases pipes with
  | opened bytes =>
      cases isOpen
      cases broken with
      | true => rfl
      | false =>
          by_cases one : written = 1
          · subst one
            rfl
          · simp [breakPipe, view, Pipes.write, Breaker.breakPipe, one]
  | _ => cases isOpen

theorem view_clear
    {open_ : Breaker}
    (isOpen : breaker.view = some open_)
    {read : Int}
    (possible : Pipes.canRead breaker.pipes read = true) :
    (breaker.clear read).view = some open_ ∨
      (breaker.clear read).view = some open_.clear := by
  obtain ⟨pipes, createSuccess, broken⟩ := breaker
  cases pipes with
  | opened bytes =>
      cases isOpen
      by_cases failed : read < 0
      · exact Or.inl (by simp [clear, view, failed])
      · simp only [Pipes.canRead, failed, decide_false, Bool.false_or,
          Bool.and_eq_true, decide_eq_true_eq, beq_iff_eq] at possible
        have count : bytes - read.toNat = bytes - 128 := by omega
        refine Or.inr ?_
        simp [clear, view, failed, Pipes.read, Breaker.clear, count,
          Nat.ne_of_gt possible.1]
  | _ => cases isOpen

theorem view_eq_some_iff
    {open_ : Breaker} :
    breaker.view = some open_ ↔
      breaker.pipes = .opened open_.bytes ∧ breaker.broken = open_.broken := by
  obtain ⟨pipes, createSuccess, broken⟩ := breaker
  obtain ⟨bytes, flag⟩ := open_
  cases pipes <;> simp [view]

/-! ## What a sequence of calls preserves -/

/-- Every open pipe agrees with its flag. -/
def Sound (breaker : SocketSelectBreaker) : Prop :=
  ∀ open_, breaker.view = some open_ → open_.Agrees

theorem Sound.flagTellsTruth
    (sound : breaker.Sound) :
    FlagTellsTruth breaker := by
  intro bytes isOpen
  have visible : breaker.view = some ⟨bytes, breaker.broken⟩ :=
    view_eq_some_iff.mpr ⟨isOpen, rfl⟩
  exact (sound _ visible).flag

theorem sound_of_pipes_not_opened
    (absent : ∀ bytes, breaker.pipes ≠ .opened bytes) :
    breaker.Sound := by
  intro open_ visible
  exact absurd (view_eq_some_iff.mp visible).1 (absent _)

theorem pipes_breakPipe_eq_opened
    {written : Int}
    {bytes : Nat}
    (isOpen : (breaker.breakPipe written).pipes = .opened bytes) :
    ∃ old, breaker.pipes = .opened old := by
  obtain ⟨pipes, createSuccess, broken⟩ := breaker
  cases pipes with
  | opened old => exact ⟨old, rfl⟩
  | _ => cases broken <;> cases isOpen

theorem pipes_clear_eq_opened
    {read : Int}
    {bytes : Nat}
    (isOpen : (breaker.clear read).pipes = .opened bytes) :
    ∃ old, breaker.pipes = .opened old := by
  obtain ⟨pipes, createSuccess, broken⟩ := breaker
  cases pipes with
  | opened old => exact ⟨old, rfl⟩
  | _ =>
      unfold clear at isOpen
      split at isOpen <;> cases isOpen

theorem Sound.breakPipe
    (sound : breaker.Sound)
    (written : Int) :
    (breaker.breakPipe written).Sound := by
  intro open_ visible
  obtain ⟨old, isOpen⟩ :=
    pipes_breakPipe_eq_opened (view_eq_some_iff.mp visible).1
  have before : breaker.view = some ⟨old, breaker.broken⟩ :=
    view_eq_some_iff.mpr ⟨isOpen, rfl⟩
  rw [view_breakPipe before, Option.some.injEq] at visible
  rw [← visible]
  exact (sound _ before).breakPipe_any _

theorem Sound.clear
    (sound : breaker.Sound)
    {read : Int}
    (possible : Pipes.canRead breaker.pipes read = true) :
    (breaker.clear read).Sound := by
  intro open_ visible
  obtain ⟨old, isOpen⟩ :=
    pipes_clear_eq_opened (view_eq_some_iff.mp visible).1
  have before : breaker.view = some ⟨old, breaker.broken⟩ :=
    view_eq_some_iff.mpr ⟨isOpen, rfl⟩
  have agrees : (⟨old, breaker.broken⟩ : Breaker).Agrees := sound _ before
  rcases view_clear before possible with unread | drained
  · rw [unread, Option.some.injEq] at visible
    exact visible ▸ agrees
  · rw [drained, Option.some.injEq] at visible
    exact visible ▸ agrees.clear.1

theorem sound_close (breaker : SocketSelectBreaker) : breaker.close.Sound := by
  apply sound_of_pipes_not_opened
  intro bytes
  obtain ⟨pipes, createSuccess, broken⟩ := breaker
  cases pipes <;> simp [close]

theorem sound_reCreate
    (result : CreateResult)
    (unbroken : result = .created → breaker.broken = false) :
    (breaker.reCreate result).Sound := by
  cases result with
  | created =>
      intro open_ visible
      have fresh := view_eq_some_iff.mp visible
      simp only [reCreate, Pipes.opened.injEq, unbroken rfl] at fresh
      exact ⟨by simp [← fresh.1, ← fresh.2], by omega⟩
  | _ => exact sound_of_pipes_not_opened (by simp [reCreate])

theorem Sound.step
    (sound : breaker.Sound)
    {call : BreakerCall}
    (unbroken : ReCreatesUnbroken breaker call)
    (stepped : breaker.step call = some next) :
    next.Sound := by
  cases call with
  | breakCall written =>
      simp only [SocketSelectBreaker.step] at stepped
      split at stepped
      · cases stepped
        exact sound.breakPipe written
      · cases stepped
  | clearCall read =>
      simp only [SocketSelectBreaker.step] at stepped
      split at stepped
      · rename_i possible
        cases stepped
        exact sound.clear possible
      · cases stepped
  | closeCall =>
      cases stepped
      exact sound_close breaker
  | reCreateCall result =>
      cases stepped
      apply sound_reCreate
      rintro rfl
      exact unbroken

theorem sound_of_reachableUnder
    (reached : breakerSystem.ReachableUnder ReCreatesUnbroken breaker) :
    breaker.Sound := by
  apply reached.invariant
  · rintro state ⟨result, rfl⟩
    exact sound_reCreate result fun _ => rfl
  · intro state call following _ sound unbroken stepped
    exact sound.step unbroken stepped

/-- A successful `ReCreate` that finds `broken_` set breaks the agreement. -/
theorem flagTellsTruth_step_iff
    (sound : breaker.Sound)
    {call : BreakerCall}
    (stepped : breaker.step call = some next) :
    FlagTellsTruth next ↔ ReCreatesUnbroken breaker call := by
  constructor
  · intro truth
    match call with
    | .reCreateCall .created =>
        cases stepped
        have empty := truth 0 rfl
        simpa [reCreate, ReCreatesUnbroken] using empty
    | .reCreateCall .pipeFailed | .reCreateCall .getFlagsFailed
    | .reCreateCall .setFlagsFailed | .breakCall _ | .clearCall _
    | .closeCall => trivial
  · intro unbroken
    exact (sound.step unbroken stepped).flagTellsTruth

theorem step_broken
    {call : BreakerCall}
    (broken : breaker.broken = true)
    (keeps : call.keepsBytes = true)
    (stepped : breaker.step call = some next) :
    next.broken = true := by
  cases call with
  | breakCall written =>
      simp only [step, broken, Bool.true_or, if_true, breakPipe] at stepped
      cases stepped
      exact broken
  | clearCall read => cases keeps
  | closeCall =>
      cases stepped
      rfl
  | reCreateCall result =>
      cases stepped
      cases result <;> exact broken

theorem execUnder_broken
    {calls : List BreakerCall}
    (broken : breaker.broken = true)
    (keeps : ∀ call ∈ calls, call.keepsBytes = true)
    (executed :
      breakerSystem.execUnder ReCreatesUnbroken breaker calls = some next) :
    next.broken = true := by
  induction calls generalizing breaker with
  | nil =>
      simp only [Machine.execUnder, Option.some.injEq] at executed
      exact executed ▸ broken
  | cons call rest inductionHypothesis =>
      simp only [Machine.execUnder] at executed
      split at executed
      · obtain ⟨middle, stepped, remaining⟩ :=
          Option.bind_eq_some_iff.mp executed
        have still : middle.broken = true :=
          step_broken broken (keeps call (by simp)) stepped
        exact inductionHypothesis still
          (fun later present => keeps later (by simp [present])) remaining
      · cases executed

/-- In every sequence of calls whose successful `ReCreate` calls find `broken_`
unset, the flag tells whether the open pipe holds a byte; the next call keeps
this exactly when it meets the same condition; and once `Break` returned true the
pipe stays readable until the next `Clear`. -/
theorem flagTellsTruth_of_reCreatesUnbroken
    (reached : breakerSystem.ReachableUnder ReCreatesUnbroken breaker) :
    FlagTellsTruth breaker ∧
      (∀ call next, breakerSystem.step breaker call = some next →
        (FlagTellsTruth next ↔ ReCreatesUnbroken breaker call)) ∧
      ∀ written next, breakerSystem.step breaker (.breakCall written) = some next →
        next.broken = true →
        ∀ calls later, (∀ call ∈ calls, call.keepsBytes = true) →
          breakerSystem.execUnder ReCreatesUnbroken next calls = some later →
          ∀ bytes, later.pipes = .opened bytes → 0 < bytes := by
  have sound := sound_of_reachableUnder reached
  refine ⟨sound.flagTellsTruth, ?_, ?_⟩
  · intro call next stepped
    exact flagTellsTruth_step_iff sound stepped
  · intro written next stepped broken calls later keeps executed bytes isOpen
    have permitted : ReCreatesUnbroken breaker (.breakCall written) := trivial
    have nextReached : breakerSystem.ReachableUnder ReCreatesUnbroken next :=
      .step reached permitted stepped
    have laterSound := sound_of_reachableUnder (nextReached.execUnder executed)
    have laterBroken := execUnder_broken broken keeps executed
    exact (laterSound.flagTellsTruth bytes isOpen).mp laterBroken

/-- A byte is written and read, the pipes are made again, and another byte is
written.  To make them again then is what must not be done. -/
theorem flagTellsTruth_after_break :
    ∃ breaker, breakerSystem.ReachableUnder ReCreatesUnbroken breaker ∧
      breaker.pipes = .opened 1 ∧ FlagTellsTruth breaker ∧
      ∀ next, breakerSystem.step breaker (.reCreateCall .created) = some next →
        ¬FlagTellsTruth next := by
  have start : breakerSystem.ReachableUnder ReCreatesUnbroken (.new .created) :=
    .initial ⟨.created, rfl⟩
  obtain ⟨breaker, reached, test⟩ := start.exists_of_execUnder
    (by decide : (breakerSystem.execUnder ReCreatesUnbroken (.new .created)
      [.breakCall 1, .clearCall 1, .reCreateCall .created, .breakCall 1]).map
        (fun breaker => decide (breaker.pipes = .opened 1 ∧
          breaker.broken = true)) = some true)
  obtain ⟨isOpen, broken⟩ := of_decide_eq_true test
  obtain ⟨truth, exactly, -⟩ := flagTellsTruth_of_reCreatesUnbroken reached
  refine ⟨breaker, reached, isOpen, truth, fun next stepped still => ?_⟩
  have unbroken : breaker.broken = false := (exactly _ next stepped).mp still
  exact Bool.false_ne_true (unbroken.symm.trans broken)

/-- The calls of `TcpServer::StopAndWait` whose `Break` fails: `Close` and
`ReCreate` leave an empty pipe with `broken_` set, so the next `Break` returns
true and writes nothing. -/
theorem not_flagTellsTruth_after_reCreate :
    ∃ breaker,
      breakerSystem.exec (.new .created)
        [.breakCall (-1), .closeCall, .reCreateCall .created, .breakCall 1] =
          some breaker ∧
      breakerSystem.Reachable breaker ∧
      breaker.pipes = .opened 0 ∧ breaker.broken = true ∧
      ¬FlagTellsTruth breaker := by
  have start : breakerSystem.initial (.new .created) := ⟨.created, rfl⟩
  obtain ⟨breaker, executed, reached, test⟩ := Machine.exists_reachable_of_exec
    start
    (by decide : (breakerSystem.exec (.new .created)
      [.breakCall (-1), .closeCall, .reCreateCall .created, .breakCall 1]).map
        (fun breaker => decide (breaker.pipes = .opened 0 ∧
          breaker.broken = true)) = some true)
  obtain ⟨isOpen, broken⟩ := of_decide_eq_true test
  refine ⟨breaker, executed, reached, isOpen, broken, ?_⟩
  intro truth
  exact absurd ((truth 0 isOpen).mp broken) (Nat.lt_irrefl 0)

end SocketSelectBreaker
end Skplat
