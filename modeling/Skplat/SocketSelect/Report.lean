import Skplat.SocketSelect.Defs
import Mathlib.Data.List.Nodup

/-!
# Reporting through another select

A consigned select does not call `poll`; the select that took it over polls a
combined vector and hands the results back with `Report`.  The inner loop of
`Report` writes `revents` into `y`, which is a copy of the consignor's entry, so
the consignor keeps the zero `revents` that its entries were registered with.
Its results are those of a `poll` of its own exactly when that `poll` would have
reported none of the bits they look at.
-/

namespace Skplat
namespace SocketSelect

/-- One call of `Read_FD_SET`, `Write_FD_SET` or `Exception_FD_SET`. -/
inductive FdSet
  | read (fd : Int)
  | write (fd : Int)
  | exception (fd : Int)
  deriving DecidableEq, Repr

/-- The call on a select. -/
def fdSet (select : SocketSelect) : FdSet → SocketSelect
  | .read fd => select.readFdSet fd
  | .write fd => select.writeFdSet fd
  | .exception fd => select.exceptionFdSet fd

/-- A call that builds the vector of a select. -/
inductive BuildCall
  | fdSet (call : FdSet)
  | consign (consignor : SocketSelect)
  deriving DecidableEq, Repr

/-- The call on a select. -/
def build (select : SocketSelect) : BuildCall → SocketSelect
  | .fdSet call => select.fdSet call
  | .consign consignor => select.consign consignor

/-- A consignor after `PreSelect` and some registrations. -/
def consignorOf (start : SocketSelect) (calls : List FdSet) : SocketSelect :=
  calls.foldl fdSet start.preSelect

/-- A select after `PreSelect` and some calls. -/
def builtOf (start : SocketSelect) (calls : List BuildCall) : SocketSelect :=
  calls.foldl build start.preSelect

/-- Where the entries of a consignor begin in the vector of a select that
consigned it after these calls. -/
def consignedAt (start : SocketSelect) (before : List BuildCall) : Nat :=
  (builtOf start before).vfds.length + 1

/-- The consignor had it polled itself and obtained, for each of its entries, the
`revents` that the other select obtained for it. -/
def polledItself
    (consignor polled : SocketSelect)
    (offset : Nat) : SocketSelect :=
  { consignor with
    vfds := List.zipWith
      (fun entry result => { entry with revents := result.revents })
      consignor.vfds (polled.vfds.drop offset) }

/-- The two selects answer every question about these descriptors alike. -/
def SameAnswers (first second : SocketSelect) (fds : List Int) : Prop :=
  ∀ fd ∈ fds,
    first.readFdIsSet fd = second.readFdIsSet fd ∧
      first.writeFdIsSet fd = second.writeFdIsSet fd ∧
      first.exceptionFdIsSet fd = second.exceptionFdIsSet fd

/-- The bits that the three questions look at. -/
def askedBits : BitVec 16 :=
  (pollIn ||| pollHup) ||| (pollOut ||| (pollErr ||| pollNval))

/-- `poll` reported nothing of interest for the entries of a consignor. -/
def NothingReported
    (consignor polled : SocketSelect)
    (offset : Nat) : Prop :=
  ∀ result ∈ (polled.vfds.drop offset).take consignor.vfds.length,
    result.revents &&& askedBits = 0

/-! ## Vectors -/

/-- The descriptors of a vector. -/
def fds (vfds : List PollFd) : List Int := vfds.map (·.fd)

theorem fds_setEvents
    (fd : Int)
    (events : BitVec 16)
    (vfds : List PollFd) :
    fds (setEvents fd events vfds) =
      if fd ∈ fds vfds then fds vfds else fds vfds ++ [fd] := by
  induction vfds with
  | nil => simp [fds, setEvents]
  | cons entry rest inductionHypothesis =>
      unfold fds at inductionHypothesis ⊢
      by_cases same : entry.fd = fd
      · simp [setEvents, same]
      · have different : fd ≠ entry.fd := fun equal => same equal.symm
        simp only [setEvents, same, if_false, List.map_cons,
          inductionHypothesis, List.mem_cons, different, false_or]
        split <;> simp

theorem take_fds_setEvents
    (fd : Int)
    (events : BitVec 16)
    (vfds : List PollFd) :
    fds vfds <+: fds (setEvents fd events vfds) := by
  rw [fds_setEvents]
  split
  · exact List.prefix_rfl
  · exact List.prefix_append _ _

theorem revents_setEvents
    {fd : Int}
    {events : BitVec 16}
    {vfds : List PollFd}
    (zero : ∀ entry ∈ vfds, entry.revents = 0) :
    ∀ entry ∈ setEvents fd events vfds, entry.revents = 0 := by
  induction vfds with
  | nil => simp [setEvents]
  | cons head rest inductionHypothesis =>
      have headZero : head.revents = 0 := zero head (by simp)
      have restZero : ∀ entry ∈ rest, entry.revents = 0 :=
        fun entry present => zero entry (by simp [present])
      unfold setEvents
      split
      · simpa [headZero] using restZero
      · simpa [headZero] using inductionHypothesis restZero

theorem isSet_eq_zero
    {vfds : List PollFd}
    (zero : ∀ entry ∈ vfds, entry.revents = 0)
    (mask : BitVec 16)
    (fd : Int) :
    isSet mask fd vfds = 0 := by
  induction vfds with
  | nil => rfl
  | cons head rest inductionHypothesis =>
      have headZero : head.revents = 0 := zero head (by simp)
      have restZero := inductionHypothesis
        fun entry present => zero entry (by simp [present])
      simp [isSet, headZero, restZero]

theorem isSet_eq_of_mem
    {vfds : List PollFd}
    (distinct : (fds vfds).Nodup)
    {entry : PollFd}
    (present : entry ∈ vfds)
    (mask : BitVec 16) :
    isSet mask entry.fd vfds = entry.revents &&& mask := by
  induction vfds with
  | nil => simp at present
  | cons head rest inductionHypothesis =>
      simp only [fds, List.map_cons, List.nodup_cons] at distinct
      rcases List.mem_cons.mp present with rfl | later
      · simp [isSet]
      · have different : head.fd ≠ entry.fd := by
          intro same
          exact distinct.1 (same ▸ List.mem_map_of_mem later)
        simp only [isSet, different, if_false]
        exact inductionHypothesis distinct.2 later

/-! ## Building the two vectors -/

theorem fds_vfds_fdSet (select : SocketSelect) (call : FdSet) :
    ∃ fd events, (select.fdSet call).vfds = setEvents fd events select.vfds := by
  cases call with
  | read fd => exact ⟨fd, _, rfl⟩
  | write fd => exact ⟨fd, _, rfl⟩
  | exception fd => exact ⟨fd, _, rfl⟩

/-- A vector as registrations leave it: no descriptor twice, nothing reported. -/
structure Registered (vfds : List PollFd) : Prop where
  distinct : (fds vfds).Nodup
  zero : ∀ entry ∈ vfds, entry.revents = 0

theorem Registered.setEvents
    {vfds : List PollFd}
    (registered : Registered vfds)
    (fd : Int)
    (events : BitVec 16) :
    Registered (setEvents fd events vfds) := by
  refine ⟨?_, revents_setEvents registered.zero⟩
  rw [fds_setEvents]
  split
  · exact registered.distinct
  · rename_i absent
    rw [List.nodup_append]
    refine ⟨registered.distinct, List.nodup_singleton fd, ?_⟩
    intro first firstPresent second secondPresent same
    rw [List.mem_singleton] at secondPresent
    exact absent (secondPresent ▸ same ▸ firstPresent)

theorem registered_consignorOf (start : SocketSelect) (calls : List FdSet) :
    Registered (consignorOf start calls).vfds := by
  have atStart : Registered start.preSelect.vfds :=
    ⟨by simp [fds, preSelect], by simp [preSelect, breakerEntry]⟩
  unfold consignorOf
  generalize start.preSelect = select at atStart
  induction calls generalizing select with
  | nil => exact atStart
  | cons call rest inductionHypothesis =>
      apply inductionHypothesis
      obtain ⟨fd, events, built⟩ := fds_vfds_fdSet select call
      rw [built]
      exact atStart.setEvents fd events

theorem fds_prefix_build (select : SocketSelect) (call : BuildCall) :
    fds select.vfds <+: fds (select.build call).vfds := by
  cases call with
  | fdSet call =>
      obtain ⟨fd, events, built⟩ := fds_vfds_fdSet select call
      simp only [build]
      rw [built]
      exact take_fds_setEvents fd events select.vfds
  | consign consignor =>
      simp only [build, consign, fds, List.map_append]
      exact List.prefix_append _ _

theorem fds_prefix_builds (select : SocketSelect) (calls : List BuildCall) :
    fds select.vfds <+: fds (calls.foldl build select).vfds := by
  induction calls generalizing select with
  | nil => exact List.prefix_rfl
  | cons call rest inductionHypothesis =>
      exact (fds_prefix_build select call).trans
        (inductionHypothesis (select.build call))

/-- The entries of a consignor stand in the combined vector, in their order,
whatever was built around them. -/
theorem fds_take_drop_builtOf
    (start consignor : SocketSelect)
    (before after : List BuildCall) :
    fds (((builtOf start (before ++ .consign consignor :: after)).vfds.drop
        (consignedAt start before)).take consignor.vfds.length) =
      fds consignor.vfds := by
  have grows := fds_prefix_builds
    ((builtOf start before).consign consignor) after
  obtain ⟨rest, whole⟩ := grows
  unfold builtOf consignedAt at *
  rw [List.foldl_append, List.foldl_cons]
  unfold fds at *
  rw [List.map_take, List.map_drop]
  simp only [build]
  rw [← whole]
  simp only [consign, List.map_append, List.map_cons, List.append_assoc,
    List.cons_append]
  rw [List.drop_append, List.drop_of_length_le (by simp [builtOf])]
  simp [builtOf]

/-! ## Reporting -/

theorem vfds_report
    (select consignor : SocketSelect)
    (breaker : SocketSelectBreaker)
    (timeout read : Int) :
    (select.report consignor breaker timeout read).2.1.vfds =
      consignor.vfds := by
  unfold report settle
  dsimp only
  split_ifs <;> rfl

theorem vfds_select
    (select : SocketSelect)
    (breaker : SocketSelectBreaker)
    (poll : PollResult)
    (read : Int) :
    fds (select.select breaker poll read).1.vfds = fds select.vfds := by
  unfold fds SocketSelect.select
  apply List.ext_getElem <;> simp

theorem fds_polledItself
    {consignor polled : SocketSelect}
    {offset : Nat}
    (enough : consignor.vfds.length ≤ (polled.vfds.drop offset).length) :
    fds (consignor.polledItself polled offset).vfds = fds consignor.vfds := by
  unfold fds polledItself
  apply List.ext_getElem
  · simp only [List.length_map, List.length_zipWith]
    exact Nat.min_eq_left enough
  · simp

theorem forall_polledItself_iff
    (consignor polled : SocketSelect)
    (offset : Nat)
    (property : BitVec 16 → Prop) :
    (∀ entry ∈ (consignor.polledItself polled offset).vfds,
        property entry.revents) ↔
      ∀ result ∈ (polled.vfds.drop offset).take consignor.vfds.length,
        property result.revents := by
  have same :
      (consignor.polledItself polled offset).vfds.map (·.revents) =
        ((polled.vfds.drop offset).take consignor.vfds.length).map
          (·.revents) := by
    unfold polledItself
    apply List.ext_getElem
    · simp
    · simp
  have both : ∀ vfds : List PollFd,
      (∀ entry ∈ vfds, property entry.revents) ↔
        ∀ revents ∈ vfds.map (·.revents), property revents := by
    simp
  rw [both, both, same]

/-- Nothing among the asked bits is set exactly when the three questions are
answered with zero. -/
theorem and_askedBits_eq_zero_iff (revents : BitVec 16) :
    revents &&& askedBits = 0 ↔
      revents &&& (pollIn ||| pollHup) = 0 ∧ revents &&& pollOut = 0 ∧
        revents &&& (pollErr ||| pollNval) = 0 := by
  unfold askedBits
  rw [BitVec.and_or_distrib_left]
  apply BitVec.or_eq_zero_iff.trans
  apply and_congr_right
  intro _
  rw [BitVec.and_or_distrib_left]
  exact BitVec.or_eq_zero_iff

/-- The answers of an unreported vector and of a polled one agree exactly when
nothing was reported. -/
theorem sameAnswers_iff
    {unreported polled : SocketSelect}
    (zero : ∀ entry ∈ unreported.vfds, entry.revents = 0)
    (distinct : (fds polled.vfds).Nodup) :
    SameAnswers unreported polled (fds polled.vfds) ↔
      ∀ entry ∈ polled.vfds, entry.revents &&& askedBits = 0 := by
  unfold SameAnswers fds readFdIsSet writeFdIsSet exceptionFdIsSet
  simp only [List.forall_mem_map, isSet_eq_zero zero]
  apply forall₂_congr
  intro entry present
  rw [isSet_eq_of_mem distinct present, isSet_eq_of_mem distinct present,
    isSet_eq_of_mem distinct present, and_askedBits_eq_zero_iff]
  simp only [eq_comm]

/-- For every consignor built by `PreSelect` and registrations, every select that
consigned it among any other calls, and every result of `poll`: the entries of the
consignor are found in the polled vector, and after `Report`, whatever it
returns, the consignor answers as if it had polled itself exactly when `poll`
reported none of the asked bits for them. -/
theorem sameAnswers_report_iff
    (consignorStart selectStart : SocketSelect)
    (calls : List FdSet)
    (before after : List BuildCall)
    (selectBreaker consignorBreaker : SocketSelectBreaker)
    (poll : PollResult)
    (timeout read consignorRead : Int) :
    let consignor := consignorOf consignorStart calls
    let offset := consignedAt selectStart before
    let polled := ((builtOf selectStart
      (before ++ .consign consignor :: after)).select
        selectBreaker poll read).1
    let reported :=
      (polled.report consignor consignorBreaker timeout consignorRead).2.1
    fds ((polled.vfds.drop offset).take consignor.vfds.length) =
        fds consignor.vfds ∧
      (SameAnswers reported (consignor.polledItself polled offset)
          (fds consignor.vfds) ↔
        NothingReported consignor polled offset) := by
  intro consignor offset polled reported
  have registered : Registered consignor.vfds :=
    registered_consignorOf consignorStart calls
  have position :
      fds ((polled.vfds.drop offset).take consignor.vfds.length) =
        fds consignor.vfds := by
    have inside := fds_take_drop_builtOf selectStart consignor before after
    unfold fds at inside ⊢
    rw [List.map_take, List.map_drop] at inside ⊢
    have same : polled.vfds.map (·.fd) = _ :=
      vfds_select _ selectBreaker poll read
    rw [same]
    exact inside
  have enough :
      consignor.vfds.length ≤ (polled.vfds.drop offset).length := by
    have lengths := congrArg List.length position
    simp only [fds, List.length_map, List.length_take] at lengths
    omega
  refine ⟨position, ?_⟩
  have zero : ∀ entry ∈ reported.vfds, entry.revents = 0 := by
    rw [vfds_report]
    exact registered.zero
  have sameFds := fds_polledItself enough
  have distinct :
      (fds (consignor.polledItself polled offset).vfds).Nodup := by
    rw [sameFds]
    exact registered.distinct
  rw [← sameFds, sameAnswers_iff zero distinct]
  exact forall_polledItself_iff consignor polled offset
    fun revents => revents &&& askedBits = 0

/-- A consignor with descriptor 5 next to its breaker 3. -/
def consignorOfFive : SocketSelect :=
  consignorOf (.new 3 false) [.read 5]

/-- The select with breaker 7 that consigned it and whose `poll` found descriptor
5 readable. -/
def polledForFive : SocketSelect :=
  ((builtOf (.new 7 false) [.consign consignorOfFive]).select (.new .created)
    ⟨1, 0, fun index => if index = 3 then pollIn else 0⟩ (-1)).1

/-- Descriptor 5 is readable, `Report` returns true, and the consignor does not
know. -/
theorem not_sameAnswers_report_readable :
    (polledForFive.report consignorOfFive (.new .created) 1000 (-1)).1 = true ∧
      0 ≤ polledForFive.ret ∧
      (polledForFive.report consignorOfFive (.new .created) 1000
        (-1)).2.1.readFdIsSet 5 = 0 ∧
      (consignorOfFive.polledItself polledForFive
        (consignedAt (.new 7 false) [])).readFdIsSet 5 = pollIn ∧
      ¬SameAnswers
        (polledForFive.report consignorOfFive (.new .created) 1000 (-1)).2.1
        (consignorOfFive.polledItself polledForFive
          (consignedAt (.new 7 false) [])) (fds consignorOfFive.vfds) := by
  refine ⟨by decide, by decide, by decide, by decide, ?_⟩
  intro same
  have readable := (same 5 (by decide)).1
  exact absurd readable (by decide)

end SocketSelect
end Skplat
