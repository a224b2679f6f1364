import Skplat.SocketSelect.Report

/-!
# The entries of a select

`PreSelect` leaves the entry of the breaker, and each registration adds its events
to the entry of its descriptor or appends one.  So every descriptor has one entry,
whatever is registered and in whatever order, the descriptor of the breaker
included, and the questions asked after `poll` are about that entry.
-/

namespace Skplat
namespace SocketSelect

/-- The descriptor of a registration. -/
def FdSet.fd : FdSet → Int
  | .read fd | .write fd | .exception fd => fd

/-- The events that a registration asks for. -/
def FdSet.events : FdSet → BitVec 16
  | .read _ => pollIn ||| pollErr
  | .write _ => pollOut ||| pollErr
  | .exception _ => pollErr

theorem vfds_fdSet (select : SocketSelect) (call : FdSet) :
    (select.fdSet call).vfds = setEvents call.fd call.events select.vfds := by
  cases call <;> rfl

@[simp] theorem breakerFd_fdSet (select : SocketSelect) (call : FdSet) :
    (select.fdSet call).breakerFd = select.breakerFd := by
  cases call <;> rfl

theorem mem_fds_setEvents
    {fd other : Int} {events : BitVec 16} {vfds : List PollFd} :
    other ∈ fds (setEvents fd events vfds) ↔ other = fd ∨ other ∈ fds vfds := by
  rw [fds_setEvents]
  split
  · rename_i present
    constructor
    · exact Or.inr
    · rintro (rfl | before)
      · exact present
      · exact before
  · rw [List.mem_append, List.mem_singleton]
    exact or_comm

/-- An entry of a descriptor watches for an event. -/
def Watches (vfds : List PollFd) (fd : Int) (bit : Nat) : Prop :=
  ∃ entry ∈ vfds, entry.fd = fd ∧ entry.events.getLsbD bit = true

theorem watches_cons
    {entry : PollFd} {rest : List PollFd} {fd : Int} {bit : Nat} :
    Watches (entry :: rest) fd bit ↔
      (entry.fd = fd ∧ entry.events.getLsbD bit = true) ∨
        Watches rest fd bit := by
  simp [Watches]

theorem watches_setEvents
    {fd other : Int} {events : BitVec 16} {vfds : List PollFd} {bit : Nat} :
    Watches (setEvents fd events vfds) other bit ↔
      Watches vfds other bit ∨ fd = other ∧ events.getLsbD bit = true := by
  induction vfds with
  | nil => simp [setEvents, Watches]
  | cons entry rest inductionHypothesis =>
      rw [setEvents]
      split
      · rename_i same
        rw [watches_cons, watches_cons, BitVec.getLsbD_or, Bool.or_eq_true, same]
        tauto
      · rw [watches_cons, watches_cons, inductionHypothesis]
        exact or_assoc.symm

/-- Registrations add their descriptors. -/
theorem mem_fds_fdSets
    {select : SocketSelect} {calls : List FdSet} {fd : Int} :
    fd ∈ fds (calls.foldl fdSet select).vfds ↔
      fd ∈ fds select.vfds ∨ fd ∈ calls.map FdSet.fd := by
  induction calls generalizing select with
  | nil => simp
  | cons call rest inductionHypothesis =>
      rw [List.foldl_cons, inductionHypothesis, vfds_fdSet, mem_fds_setEvents,
        List.map_cons, List.mem_cons]
      tauto

/-- Registrations add their events. -/
theorem watches_fdSets
    (select : SocketSelect) (calls : List FdSet) (fd : Int) (bit : Nat) :
    Watches (calls.foldl fdSet select).vfds fd bit ↔
      Watches select.vfds fd bit ∨
        ∃ call ∈ calls, call.fd = fd ∧ call.events.getLsbD bit = true := by
  induction calls generalizing select with
  | nil => simp
  | cons call rest inductionHypothesis =>
      rw [List.foldl_cons, inductionHypothesis, vfds_fdSet, watches_setEvents,
        List.exists_mem_cons_iff]
      tauto

/-- The registrations that `PreSelect` and some calls make: which descriptors have an
entry and which events it asks for. -/
structure Entries
    (vfds : List PollFd) (breakerFd : Int) (calls : List FdSet) : Prop where
  /-- No descriptor has two entries. -/
  distinct : (fds vfds).Nodup
  /-- The descriptors are the breaker's and the registered ones. -/
  fds : ∀ fd, fd ∈ fds vfds ↔ fd = breakerFd ∨ fd ∈ calls.map FdSet.fd
  /-- The events of an entry are those asked for by any registration. -/
  events : ∀ entry ∈ vfds, ∀ bit, entry.events.getLsbD bit = true ↔
    (entry.fd = breakerFd ∧
        (breakerEntry breakerFd).events.getLsbD bit = true) ∨
      ∃ call ∈ calls, call.fd = entry.fd ∧ call.events.getLsbD bit = true

/-- Two entries of one descriptor are the same. -/
theorem eq_of_fd_eq
    {vfds : List PollFd} (distinct : (fds vfds).Nodup)
    {first second : PollFd}
    (firstPresent : first ∈ vfds) (secondPresent : second ∈ vfds)
    (same : first.fd = second.fd) :
    first = second :=
  List.inj_on_of_nodup_map distinct firstPresent secondPresent same

theorem entries_consignorOf (start : SocketSelect) (calls : List FdSet) :
    Entries (consignorOf start calls).vfds start.breakerFd calls where
  distinct := (registered_consignorOf start calls).distinct
  fds := by
    intro fd
    rw [consignorOf, mem_fds_fdSets]
    simp [SocketSelect.fds, preSelect, breakerEntry]
  events := by
    intro entry present bit
    have distinct := (registered_consignorOf start calls).distinct
    have watched := watches_fdSets start.preSelect calls entry.fd bit
    have ownEntry : Watches (consignorOf start calls).vfds entry.fd bit ↔
        entry.events.getLsbD bit = true := by
      constructor
      · rintro ⟨other, otherPresent, same, isSet⟩
        rwa [eq_of_fd_eq distinct otherPresent present same] at isSet
      · exact fun isSet => ⟨entry, present, rfl, isSet⟩
    have breaker : Watches start.preSelect.vfds entry.fd bit ↔
        entry.fd = start.breakerFd ∧
          (breakerEntry start.breakerFd).events.getLsbD bit = true := by
      simp only [preSelect, Watches, List.mem_singleton, exists_eq_left]
      exact and_congr_left fun _ => eq_comm
    rw [← ownEntry, ← breaker]
    exact watched

/-- What the entry at a place of the vector reports once `poll` has filled it in. -/
structure ReportsEntry
    (polled : SocketSelect) (fd : Int) (revents : BitVec 16) : Prop where
  read : polled.readFdIsSet fd = revents &&& (pollIn ||| pollHup)
  write : polled.writeFdIsSet fd = revents &&& pollOut
  exception : polled.exceptionFdIsSet fd = revents &&& (pollErr ||| pollNval)
  /-- The two questions about the breaker. -/
  breaker : fd = polled.breakerFd →
    polled.isBreak = (revents &&& pollIn != 0) ∧
      polled.isException = (revents &&& (pollErr ||| pollNval) != 0)

/-- A vector without duplicates answers from the only entry of a descriptor. -/
theorem reportsEntry_of_distinct
    {polled : SocketSelect} (distinct : (fds polled.vfds).Nodup)
    {entry : PollFd} (present : entry ∈ polled.vfds) :
    ReportsEntry polled entry.fd entry.revents where
  read := isSet_eq_of_mem distinct present _
  write := isSet_eq_of_mem distinct present _
  exception := isSet_eq_of_mem distinct present _
  breaker := by
    intro isBreaker
    rw [isBreak, isException, exceptionFdIsSet, ← isBreaker,
      isSet_eq_of_mem distinct present, isSet_eq_of_mem distinct present]
    exact ⟨rfl, rfl⟩

/-- After `PreSelect` and any registrations every registered descriptor and the
breaker's have exactly one entry, whose events are the union of those asked for,
and there are no others.  After `poll` the questions about a descriptor are answered
from that entry. -/
theorem registered_once (start : SocketSelect) (calls : List FdSet) :
    Entries (consignorOf start calls).vfds start.breakerFd calls ∧
      ∀ (breaker : SocketSelectBreaker) (poll : PollResult) (read : Int)
        (index : Nat) (entry : PollFd),
        (consignorOf start calls).vfds[index]? = some entry →
        ReportsEntry ((consignorOf start calls).select breaker poll read).1
          entry.fd (poll.revents index) := by
  have entries := entries_consignorOf start calls
  refine ⟨entries, ?_⟩
  intro breaker poll read index entry place
  have distinct :
      (fds ((consignorOf start calls).select breaker poll read).1.vfds).Nodup := by
    rw [vfds_select]
    exact entries.distinct
  have present : { entry with revents := poll.revents index } ∈
      ((consignorOf start calls).select breaker poll read).1.vfds := by
    refine List.mem_of_getElem? (i := index) ?_
    simp [SocketSelect.select, place]
  exact reportsEntry_of_distinct distinct present

end SocketSelect
end Skplat
