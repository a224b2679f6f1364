import Mathlib.Data.List.Basic
import Skplat.HttpTransfer.Defs

/-!
# Connecting to one of several addresses

`SocksConnect::connect` starts an attempt for each address and waits for all of them with
one `select`.  What the outside does is an input: how each attempt ends and when, when the
call is interrupted, and whether `select` fails.  Times are in microseconds from the call of
`select` on; what happened before it has the time 0.
-/

namespace Skplat
namespace SocksConnect

open HttpTransfer (ok unknownError timeoutError abortError)

/-- The states of a socket. -/
inductive SockState
  | init
  | connecting
  | connected
  | close
  | failed
  deriving DecidableEq, Repr

/-- How an attempt that is in progress ends. -/
structure Resolution where
  time : Nat
  /-- `SO_ERROR`, which is 0 if the socket is connected. -/
  error : Nat
  /-- `getsockopt` fails. -/
  optFails : Bool
  deriving DecidableEq, Repr

/-- What `::connect` gives, when it is not interrupted by a signal. -/
inductive Attempt
  | connected
  | failed
  | inProgress (resolution : Resolution)
  deriving DecidableEq, Repr

/-- What happens to the attempts for an address. -/
structure Address where
  /-- How many calls give `EINTR` before. -/
  interrupts : Nat
  attempt : Attempt
  deriving DecidableEq, Repr

/-- What else happens during a call. -/
structure Surroundings where
  /-- When the pipe becomes readable. -/
  abort : Option Nat
  selectFails : Bool
  /-- How long `select` takes to return after an event. -/
  latency : Nat
  deriving DecidableEq, Repr

/-- The members that `connect` assigns. -/
structure Socks where
  mStates : List SockState
  mConnFdIdx : Int
  mError : Bool
  deriving DecidableEq, Repr

/-- `mStates[i] = state`. -/
def Socks.setState (socks : Socks) (i : Nat) (state : SockState) : Socks :=
  { socks with mStates := socks.mStates.set i state }

/-- A socket is connected, and `connect` returns `OK`. -/
def Socks.setConnected (socks : Socks) (i : Nat) : Socks :=
  { socks.setState i .connected with mConnFdIdx := i, mError := false }

/-- The passes for an address that a signal interrupts. -/
def interruptedPasses (i : Nat) : Nat → Socks → Socks
  | 0, socks => socks
  | passes + 1, socks => interruptedPasses i passes (socks.setState i .connecting)

/-- The loop that starts the attempts: whether it returns, and `errCount` otherwise. -/
def connectLoop (i : Nat) : List Address → Socks → Nat → Socks × Option Nat
  | [], socks, errCount => (socks, some errCount)
  | addr :: rest, socks, errCount =>
      let socks := (interruptedPasses i addr.interrupts socks).setState i .connecting
      match addr.attempt with
      | .connected => (socks.setConnected i, none)
      -- the socket is put into `wrSet`
      | .inProgress _ => connectLoop (i + 1) rest socks errCount
      | .failed => connectLoop (i + 1) rest (socks.setState i .failed) (errCount + 1)

/-- When an attempt in progress ends. -/
def Address.time (addr : Address) : Option Nat :=
  match addr.attempt with
  | .inProgress resolution => some resolution.time
  | _ => none

/-- The first event that `select` waits for. -/
def firstEvent (addrs : List Address) (abort : Option Nat) : Option Nat :=
  (abort.toList ++ addrs.filterMap Address.time).min?

/-- What `select` gives. -/
inductive Selected
  | failed
  | timeout
  /-- It returns at a time. -/
  | ready (now : Nat)
  deriving DecidableEq, Repr

/-- A time is in a period of milliseconds, where -1 is no limit. -/
def InTime (timeout : Int) (time : Nat) : Prop :=
  timeout = -1 ∨ time ≤ timeout * 1000

instance (timeout : Int) (time : Nat) : Decidable (InTime timeout time) :=
  inferInstanceAs (Decidable (_ ∨ _))

/-- `select`, which does not accept other negative periods.  When it is called, an attempt
is in progress. -/
def select (timeout : Int) (addrs : List Address) (surroundings : Surroundings) : Selected :=
  if surroundings.selectFails ∨ (timeout < 0 ∧ timeout ≠ -1) then .failed
  else
    match firstEvent addrs surroundings.abort with
    | none => .timeout
    | some time =>
        if InTime timeout time then .ready (time + surroundings.latency) else .timeout

/-- The loop over the sockets that are ready: whether it returns `OK`. -/
def checkLoop (now i : Nat) : List Address → Socks → Socks × Bool
  | [], socks => (socks, false)
  | addr :: rest, socks =>
      match addr.attempt with
      | .inProgress resolution =>
          if resolution.time ≤ now then
            if resolution.optFails then
              checkLoop now (i + 1) rest (socks.setState i .failed)
            else if resolution.error ≠ 0 then
              checkLoop now (i + 1) rest (socks.setState i .failed)
            else (socks.setConnected i, true)
          else checkLoop now (i + 1) rest socks
      | _ => checkLoop now (i + 1) rest socks

/-- `connect`: what it returns, if it returns something, and the members after it. -/
def connect (timeout : Int) (addrs : List Address) (surroundings : Surroundings)
    (socks : Socks) : Option Int × Socks :=
  match connectLoop 0 addrs socks 0 with
  | (socks, none) => (some ok, socks)
  | (socks, some errCount) =>
      if errCount = addrs.length then (some unknownError, { socks with mError := true })
      else
        match select timeout addrs surroundings with
        | .failed => (some unknownError, { socks with mError := true })
        | .timeout => (some timeoutError, { socks with mError := true })
        | .ready now =>
            if ∃ time ∈ surroundings.abort, time ≤ now then (some abortError, socks)
            else
              match checkLoop now 0 addrs socks with
              | (socks, true) => (some ok, socks)
              -- nothing is returned
              | (socks, false) => (none, socks)

variable {timeout : Int} {addrs : List Address} {surroundings : Surroundings}
variable {socks : Socks} {addr : Address} {now : Nat}

/-! ## The loops -/

/-- The loop that starts the attempts returns if and only if one is successful at once. -/
theorem connectLoop_snd (i : Nat) (addrs : List Address) (socks : Socks) (errCount : Nat) :
    (connectLoop i addrs socks errCount).2 =
      if ∃ addr ∈ addrs, addr.attempt = .connected then none
      else some (errCount + addrs.countP fun addr => addr.attempt = .failed) := by
  induction addrs generalizing i socks errCount with
  | nil => rfl
  | cons addr rest inductionHypothesis =>
      rw [connectLoop]
      cases attempt : addr.attempt with
      | connected => simp [attempt]
      | failed =>
          dsimp only
          rw [inductionHypothesis]
          simp [attempt, Nat.add_assoc, Nat.add_comm 1]
      | inProgress resolution =>
          dsimp only
          rw [inductionHypothesis]
          simp [attempt]

/-- The index that is stored when it returns. -/
theorem exists_of_connectLoop
    {i errCount : Nat} (returned : (connectLoop i addrs socks errCount).2 = none) :
    ∃ k addr, addrs[k]? = some addr ∧ addr.attempt = .connected ∧
      (connectLoop i addrs socks errCount).1.mConnFdIdx = (i + k : Nat) := by
  induction addrs generalizing i socks errCount with
  | nil => cases returned
  | cons addr rest inductionHypothesis =>
      rw [connectLoop] at returned ⊢
      cases attempt : addr.attempt with
      | connected => exact ⟨0, addr, rfl, attempt, rfl⟩
      | failed =>
          rw [attempt] at returned
          obtain ⟨k, found, inRest, connected, index⟩ := inductionHypothesis returned
          exact ⟨k + 1, found, inRest, connected, by rw [index]; congr 1; omega⟩
      | inProgress resolution =>
          rw [attempt] at returned
          obtain ⟨k, found, inRest, connected, index⟩ := inductionHypothesis returned
          exact ⟨k + 1, found, inRest, connected, by rw [index]; congr 1; omega⟩

/-- The loop over the sockets sees that a socket is connected. -/
def Address.isSeen (now : Nat) (addr : Address) : Bool :=
  match addr.attempt with
  | .inProgress resolution =>
      decide (resolution.time ≤ now) && !resolution.optFails && resolution.error == 0
  | _ => false

/-- One pass of that loop. -/
theorem checkLoop_cons
    (now i : Nat) (addr : Address) (rest : List Address) (socks : Socks) :
    (addr.isSeen now = true ∧
      checkLoop now i (addr :: rest) socks = (socks.setConnected i, true)) ∨
    (addr.isSeen now = false ∧ ∃ next,
      checkLoop now i (addr :: rest) socks = checkLoop now (i + 1) rest next) := by
  rw [checkLoop, Address.isSeen]
  cases addr.attempt with
  | connected => exact Or.inr ⟨rfl, _, rfl⟩
  | failed => exact Or.inr ⟨rfl, _, rfl⟩
  | inProgress resolution =>
      dsimp only
      by_cases ready : resolution.time ≤ now
      · rw [if_pos ready]
        by_cases fails : resolution.optFails = true
        · rw [if_pos fails]
          exact Or.inr ⟨by simp [fails], _, rfl⟩
        · rw [if_neg fails]
          by_cases error : resolution.error = 0
          · rw [if_neg (not_not_intro error)]
            exact Or.inl ⟨by simp [ready, fails, error], rfl⟩
          · rw [if_pos error]
            exact Or.inr ⟨by simp [error], _, rfl⟩
      · rw [if_neg ready]
        exact Or.inr ⟨by simp [ready], _, rfl⟩

/-- The loop over the sockets returns if and only if it sees a connected one. -/
theorem checkLoop_snd (now i : Nat) (addrs : List Address) (socks : Socks) :
    (checkLoop now i addrs socks).2 = addrs.any (Address.isSeen now) := by
  induction addrs generalizing i socks with
  | nil => rfl
  | cons addr rest inductionHypothesis =>
      rw [List.any_cons]
      rcases checkLoop_cons now i addr rest socks with ⟨seen, pass⟩ | ⟨unseen, next, pass⟩
      · rw [pass, seen, Bool.true_or]
      · rw [pass, inductionHypothesis, unseen, Bool.false_or]

theorem exists_of_checkLoop
    {i : Nat} (returned : (checkLoop now i addrs socks).2 = true) :
    ∃ k addr, addrs[k]? = some addr ∧ addr.isSeen now = true ∧
      (checkLoop now i addrs socks).1.mConnFdIdx = (i + k : Nat) := by
  induction addrs generalizing i socks with
  | nil => cases returned
  | cons addr rest inductionHypothesis =>
      rcases checkLoop_cons now i addr rest socks with ⟨seen, pass⟩ | ⟨_, next, pass⟩
      · rw [pass]
        exact ⟨0, addr, rfl, seen, rfl⟩
      · rw [pass] at returned ⊢
        obtain ⟨k, found, inRest, seen, index⟩ := inductionHypothesis returned
        exact ⟨k + 1, found, inRest, seen, by rw [index]; congr 1; omega⟩

/-! ## The whole call -/

/-- What the call returns. -/
theorem connect_fst (timeout : Int) (addrs : List Address) (surroundings : Surroundings)
    (socks : Socks) :
    (connect timeout addrs surroundings socks).1 =
      if ∃ addr ∈ addrs, addr.attempt = .connected then some ok
      else if ∀ addr ∈ addrs, addr.attempt = .failed then some unknownError
      else
        match select timeout addrs surroundings with
        | .failed => some unknownError
        | .timeout => some timeoutError
        | .ready now =>
            if ∃ time ∈ surroundings.abort, time ≤ now then some abortError
            else if addrs.any (Address.isSeen now) then some ok else none := by
  have started := connectLoop_snd 0 addrs socks 0
  rw [connect]
  split
  · rename_i after loop
    rw [loop] at started
    split at started
    · rename_i immediate
      rw [if_pos immediate]
    · cases started
  · rename_i after errCount loop
    rw [loop] at started
    split at started
    · cases started
    · rename_i later
      have allFailed : errCount = addrs.length ↔ ∀ addr ∈ addrs, addr.attempt = .failed := by
        rw [Option.some.inj started, Nat.zero_add, List.countP_eq_length]
        simp
      rw [if_neg later]
      simp only [allFailed]
      split
      · rfl
      · cases select timeout addrs surroundings with
        | failed => rfl
        | timeout => rfl
        | ready now =>
            dsimp only
            split
            · rfl
            · rw [← checkLoop_snd now 0 addrs after]
              split
              · rename_i checked
                rw [checked]
                rfl
              · rename_i checked
                rw [checked]
                rfl

/-- When the call returns, if it waits. -/
def returnTime (addrs : List Address) (surroundings : Surroundings) : Nat :=
  (firstEvent addrs surroundings.abort).getD 0 + surroundings.latency

theorem eq_returnTime (ready : select timeout addrs surroundings = .ready now) :
    now = returnTime addrs surroundings := by
  rw [select] at ready
  split at ready
  · cases ready
  · rw [returnTime]
    split at ready
    · cases ready
    · rename_i time first
      rw [first]
      split at ready
      · exact (Selected.ready.inj ready).symm
      · cases ready

/-- A socket is connected at a time. -/
def Address.ConnectedAt (now : Nat) (addr : Address) : Prop :=
  addr.attempt = .connected ∨
    ∃ resolution, addr.attempt = .inProgress resolution ∧ resolution.error = 0 ∧
      resolution.time ≤ now

/-- An address connects before the end of a period. -/
def Address.ConnectsBefore (timeout : Int) (addr : Address) : Prop :=
  addr.attempt = .connected ∨
    ∃ resolution, addr.attempt = .inProgress resolution ∧ resolution.error = 0 ∧
      (timeout = -1 ∨ resolution.time < timeout * 1000)

theorem Address.isSeen_iff :
    addr.isSeen now = true ↔
      ∃ resolution, addr.attempt = .inProgress resolution ∧ resolution.time ≤ now ∧
        resolution.optFails = false ∧ resolution.error = 0 := by
  rw [Address.isSeen]
  cases addr.attempt with
  | connected => simp
  | failed => simp
  | inProgress resolution => simp [and_assoc]

/-- If the call returns `OK`, `mConnFdIdx` is the index of a connected socket. -/
theorem connected_of_connect
    (returned : (connect timeout addrs surroundings socks).1 = some ok) :
    ∃ i addr, (connect timeout addrs surroundings socks).2.mConnFdIdx = (i : Nat) ∧
      addrs[i]? = some addr ∧ addr.ConnectedAt (returnTime addrs surroundings) := by
  rw [connect] at returned ⊢
  split
  · rename_i after loop
    have started : (connectLoop 0 addrs socks 0).2 = none := by rw [loop]
    obtain ⟨k, addr, found, connected, index⟩ := exists_of_connectLoop started
    rw [loop, Nat.zero_add] at index
    exact ⟨k, addr, index, found, Or.inl connected⟩
  · rename_i after errCount loop
    rw [loop] at returned
    dsimp only at returned
    by_cases allFailed : errCount = addrs.length
    · rw [if_pos allFailed] at returned
      exact absurd (Option.some.inj returned) (by decide)
    · rw [if_neg allFailed] at returned ⊢
      cases selected : select timeout addrs surroundings with
      | failed =>
          rw [selected] at returned
          exact absurd (Option.some.inj returned) (by decide)
      | timeout =>
          rw [selected] at returned
          exact absurd (Option.some.inj returned) (by decide)
      | ready now =>
          rw [selected] at returned
          dsimp only at returned ⊢
          by_cases aborted : ∃ time ∈ surroundings.abort, time ≤ now
          · rw [if_pos aborted] at returned
            exact absurd (Option.some.inj returned) (by decide)
          · rw [if_neg aborted] at returned ⊢
            split at returned
            · rename_i last checked
              have found : (checkLoop now 0 addrs after).2 = true := by rw [checked]
              obtain ⟨k, addr, inList, seen, index⟩ := exists_of_checkLoop found
              rw [checked, Nat.zero_add] at index
              obtain ⟨resolution, attempt, inTime, _, noError⟩ := Address.isSeen_iff.mp seen
              exact ⟨k, addr, index, inList,
                Or.inr ⟨resolution, attempt, noError, eq_returnTime selected ▸ inTime⟩⟩
            · cases returned

/-- What is said of a call: it returns something, it returns `OK` only for a connected
socket, and it does so if an address connects in time and nobody aborts. -/
structure Behaves (timeout : Int) (addrs : List Address) (surroundings : Surroundings)
    (socks : Socks) : Prop where
  defined : ∃ result, (connect timeout addrs surroundings socks).1 = some result
  connected : (connect timeout addrs surroundings socks).1 = some ok →
    ∃ i addr, (connect timeout addrs surroundings socks).2.mConnFdIdx = (i : Nat) ∧
      addrs[i]? = some addr ∧ addr.ConnectedAt (returnTime addrs surroundings)
  succeeds : surroundings.abort = none →
    (∃ addr ∈ addrs, addr.ConnectsBefore timeout) →
    (connect timeout addrs surroundings socks).1 = some ok

/-- An attempt succeeds at once, all attempts fail at once, or `select` does not return with
failed attempts alone. -/
def EventsSuffice (timeout : Int) (addrs : List Address) (surroundings : Surroundings) :
    Prop :=
  (∃ addr ∈ addrs, addr.attempt = .connected) ∨
    (∀ addr ∈ addrs, addr.attempt = .failed) ∨
    match select timeout addrs surroundings with
    | .failed =>
        surroundings.abort = none → ¬∃ addr ∈ addrs, addr.ConnectsBefore timeout
    | .timeout => True
    | .ready now =>
        (∃ time ∈ surroundings.abort, time ≤ now) ∨ ∃ addr ∈ addrs, addr.isSeen now = true

/-- If `select` is at its timeout, no attempt was successful before it. -/
theorem not_connectsBefore_of_timeout
    (selected : select timeout addrs surroundings = .timeout)
    (noneAtOnce : ¬∃ addr ∈ addrs, addr.attempt = .connected) :
    ¬∃ addr ∈ addrs, addr.ConnectsBefore timeout := by
  rintro ⟨addr, present, atOnce | ⟨resolution, attempt, noError, inTime⟩⟩
  · exact noneAtOnce ⟨addr, present, atOnce⟩
  · have isEvent : resolution.time ∈
        surroundings.abort.toList ++ addrs.filterMap Address.time := by
      refine List.mem_append_right _ (List.mem_filterMap.mpr ⟨addr, present, ?_⟩)
      rw [Address.time, attempt]
    rw [select] at selected
    split at selected
    · cases selected
    · split at selected
      · rename_i noEvent
        rw [firstEvent, List.min?_eq_none_iff] at noEvent
        rw [noEvent] at isEvent
        cases isEvent
      · rename_i time first
        rw [firstEvent, List.min?_eq_some_iff] at first
        have earlier := first.2 resolution.time isEvent
        rw [if_pos] at selected
        · cases selected
        · rcases inTime with unlimited | before
          · exact Or.inl unlimited
          · exact Or.inr (by omega)

/-- If attempts are left when all were started, what `select` says decides. -/
theorem behaves_iff_of_waiting
    (noneAtOnce : ¬∃ addr ∈ addrs, addr.attempt = .connected)
    (notAllFailed : ¬∀ addr ∈ addrs, addr.attempt = .failed) :
    Behaves timeout addrs surroundings socks ↔
      match select timeout addrs surroundings with
      | .failed =>
          surroundings.abort = none → ¬∃ addr ∈ addrs, addr.ConnectsBefore timeout
      | .timeout => True
      | .ready now =>
          (∃ time ∈ surroundings.abort, time ≤ now) ∨ ∃ addr ∈ addrs, addr.isSeen now = true := by
  have result := connect_fst timeout addrs surroundings socks
  have connected := @connected_of_connect timeout addrs surroundings socks
  rw [if_neg noneAtOnce, if_neg notAllFailed] at result
  cases selected : select timeout addrs surroundings with
  | failed =>
      rw [selected] at result
      constructor
      · intro behaves noAbort connects
        rw [behaves.succeeds noAbort connects] at result
        exact absurd (Option.some.inj result) (by decide)
      · intro none
        exact ⟨⟨_, result⟩, connected, fun noAbort connects =>
          absurd connects (none noAbort)⟩
  | timeout =>
      rw [selected] at result
      have late := not_connectsBefore_of_timeout selected noneAtOnce
      exact iff_of_true ⟨⟨_, result⟩, connected, fun _ connects => absurd connects late⟩
        trivial
  | ready now =>
      rw [selected] at result
      dsimp only at result ⊢
      by_cases aborted : ∃ time ∈ surroundings.abort, time ≤ now
      · rw [if_pos aborted] at result
        refine iff_of_true ⟨⟨_, result⟩, connected, ?_⟩ (Or.inl aborted)
        intro noAbort
        obtain ⟨time, isAbort, _⟩ := aborted
        rw [noAbort] at isAbort
        cases isAbort
      · rw [if_neg aborted] at result
        rw [or_iff_right aborted, ← List.any_eq_true]
        by_cases seen : addrs.any (Address.isSeen now) = true
        · rw [if_pos seen] at result
          exact iff_of_true ⟨⟨_, result⟩, connected, fun _ _ => result⟩ seen
        · rw [if_neg seen] at result
          refine iff_of_false ?_ seen
          intro behaves
          obtain ⟨code, returned⟩ := behaves.defined
          rw [result] at returned
          cases returned

/-- The call does what is said of it if and only if the first event suffices. -/
theorem behaves_iff (timeout : Int) (addrs : List Address) (surroundings : Surroundings)
    (socks : Socks) :
    Behaves timeout addrs surroundings socks ↔
      EventsSuffice timeout addrs surroundings := by
  have result := connect_fst timeout addrs surroundings socks
  have connected := @connected_of_connect timeout addrs surroundings socks
  rw [EventsSuffice]
  by_cases atOnce : ∃ addr ∈ addrs, addr.attempt = .connected
  · rw [if_pos atOnce] at result
    exact iff_of_true ⟨⟨ok, result⟩, connected, fun _ _ => result⟩ (Or.inl atOnce)
  · rw [if_neg atOnce] at result
    rw [or_iff_right atOnce]
    by_cases allFailed : ∀ addr ∈ addrs, addr.attempt = .failed
    · rw [if_pos allFailed] at result
      refine iff_of_true ⟨⟨_, result⟩, connected, ?_⟩ (Or.inl allFailed)
      rintro - ⟨addr, present, immediate | ⟨resolution, attempt, _⟩⟩
      · exact absurd ⟨addr, present, immediate⟩ atOnce
      · rw [allFailed addr present] at attempt
        cases attempt
    · rw [or_iff_right allFailed]
      exact behaves_iff_of_waiting atOnce allFailed

/-- The first attempt is refused, and the second one is successful a moment later. -/
theorem connect_after_refusal :
    ¬Behaves 1000
      [{ interrupts := 0
         attempt := .inProgress { time := 10, error := 111, optFails := false } },
       { interrupts := 0
         attempt := .inProgress { time := 20, error := 0, optFails := false } }]
      { abort := none, selectFails := false, latency := 0 }
      { mStates := [.init, .init], mConnFdIdx := -1, mError := false } := by
  intro behaves
  obtain ⟨code, returned⟩ := behaves.defined
  cases returned

end SocksConnect
end Skplat
