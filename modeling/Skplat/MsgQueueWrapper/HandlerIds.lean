import Skplat.Machine.Basic
import Skplat.MsgQueue.Defs
import Mathlib.Data.BitVec

/-!
# Handler identifiers of a wrapper

`MsgQueueWrapper::new_handlerid` packs bits 16 to 31 of the queue's address with
the low 16 bits of a counter.  The counter wraps, and `MsgQueue::add_handler`
silently drops a handler whose identifier is taken.  An identifier is good
exactly when it is not zero and no other live handler was numbered with the same
low bits.
-/

namespace Skplat
namespace MsgQueueWrapper

open MsgQueue (defaultHandlerId)

/-- `new_handlerid` on a queue at the given address.  The mask `0xffff<<16` is a
negative `int`, so the expression keeps the upper half of the address until the
result is truncated to `int`. -/
def newHandlerid (addr : BitVec 64) (seq : BitVec 32) : Int :=
  (((addr &&& 0xffffffffffff0000#64) |||
    (seq &&& 0xffff#32).setWidth 64).setWidth 32).toInt

/-- Handler objects: the one `init_msg_queue` creates and the others. -/
inductive HandlerPtr
  | default
  | object (address : Nat)
  deriving DecidableEq, Repr

/-- The part of a wrapper and its queue that decides about handler
identifiers. -/
structure Registry where
  /-- Address of the queue, once there is one. -/
  msgQueue : Option (BitVec 64)
  /-- `handler_seq`. -/
  handlerSeq : BitVec 32
  /-- The `handler_id` of each handler object. -/
  handlerId : HandlerPtr → Int
  /-- `lst_handler`. -/
  lstHandler : List HandlerPtr
  /-- The object and the returned identifier, right after an `add_handler`. -/
  returned : Option (HandlerPtr × Int)

namespace Registry

/-- `init_msg_queue`, with the address at which the queue is allocated. -/
def initMsgQueue (registry : Registry) (addr : BitVec 64) : Registry :=
  match registry.msgQueue with
  | some _ => registry
  | none =>
      { msgQueue := some addr
        handlerSeq := 1#32
        handlerId :=
          Function.update registry.handlerId .default defaultHandlerId
        lstHandler := [.default]
        returned := none }

/-- `MsgQueue::add_handler`. -/
def register (registry : Registry) (ptr : HandlerPtr) : Registry :=
  if registry.lstHandler.any fun other =>
      registry.handlerId ptr == registry.handlerId other then
    registry
  else { registry with lstHandler := registry.lstHandler ++ [ptr] }

/-- Take the next identifier and set it on the object. -/
def number
    (registry : Registry) (addr : BitVec 64) (ptr : HandlerPtr) : Registry :=
  { registry with
    handlerSeq := registry.handlerSeq + 1#32
    handlerId := Function.update registry.handlerId ptr
      (newHandlerid addr registry.handlerSeq) }

/-- Both overloads of `add_handler`: number the object, register it and return
its identifier. -/
def addHandler
    (registry : Registry) (addr : BitVec 64) (ptr : HandlerPtr) : Registry :=
  let numbered := (registry.initMsgQueue addr).number addr ptr
  { numbered.register ptr with
    returned := some (ptr, numbered.handlerId ptr) }

/-- `remove_handler`. -/
def removeHandler (registry : Registry) (handlerId : Int) : Registry :=
  match registry.msgQueue with
  | none => { registry with returned := none }
  | some _ =>
      { registry with
        lstHandler := registry.lstHandler.filter
          fun ptr => !(handlerId == registry.handlerId ptr)
        returned := none }

end Registry

/-- Calls on a wrapper: `add_handler(Handler*)`, `add_handler()` with the address
of the new object, and `remove_handler`. -/
inductive Call
  | addHandler (address : Nat)
  | addNewHandler (address : Nat)
  | removeHandler (handlerId : Int)
  deriving DecidableEq, Repr

/-- One call.  A newly allocated object is not in the list. -/
def Registry.step (addr : BitVec 64) (registry : Registry) :
    Call → Option Registry
  | .addHandler address => some (registry.addHandler addr (.object address))
  | .addNewHandler address =>
      if .object address ∈ registry.lstHandler then none
      else some (registry.addHandler addr (.object address))
  | .removeHandler handlerId => some (registry.removeHandler handlerId)

/-- A wrapper whose queue will be allocated at the given address. -/
def registrySystem (addr : BitVec 64) : Machine Registry Call where
  initial := fun registry =>
    registry.msgQueue = none ∧ registry.lstHandler = [] ∧
      registry.returned = none
  step := Registry.step addr

/-- What the identifiers promise. -/
structure WellIssued (registry : Registry) : Prop where
  /-- Live handlers have distinct identifiers. -/
  distinct : (registry.lstHandler.map registry.handlerId).Nodup
  /-- None but the default handler has the default identifier. -/
  notDefault : ∀ address, .object address ∈ registry.lstHandler →
    registry.handlerId (.object address) ≠ defaultHandlerId
  /-- The object just added is registered under the returned identifier. -/
  registered : ∀ ptr handlerId, registry.returned = some (ptr, handlerId) →
    ptr ∈ registry.lstHandler ∧ registry.handlerId ptr = handlerId

/-- The next identifier is not zero, and no other live handler has the counter's
low 16 bits. -/
def Registry.FreshFor
    (registry : Registry) (addr : BitVec 64) (address : Nat) : Prop :=
  let started := registry.initMsgQueue addr
  (addr &&& 0xffff0000#64 ≠ 0 ∨ started.handlerSeq &&& 0xffff#32 ≠ 0) ∧
    ∀ other ∈ started.lstHandler, other ≠ .default → other ≠ .object address →
      started.handlerId other % 65536 ≠ started.handlerSeq.toNat % 65536

instance (registry : Registry) (addr : BitVec 64) :
    DecidablePred (registry.FreshFor addr) :=
  fun _ => inferInstanceAs (Decidable (_ ∧ _))

/-- Every `add_handler` finds a fresh identifier. -/
def AddsFresh (addr : BitVec 64) (registry : Registry) : Call → Prop
  | .addHandler address | .addNewHandler address =>
      registry.FreshFor addr address
  | .removeHandler _ => True

instance (addr : BitVec 64) (registry : Registry) :
    DecidablePred (AddsFresh addr registry)
  | .addHandler address | .addNewHandler address =>
      inferInstanceAs (Decidable (registry.FreshFor addr address))
  | .removeHandler _ => .isTrue trivial

/-! ## The packed identifier -/

/-- The identifier as a 32-bit word. -/
theorem newHandlerid_eq (addr : BitVec 64) (seq : BitVec 32) :
    newHandlerid addr seq =
      ((addr.setWidth 32 &&& 0xffff0000#32) ||| (seq &&& 0xffff#32)).toInt := by
  unfold newHandlerid
  rw [BitVec.setWidth_or, BitVec.setWidth_and,
    BitVec.setWidth_setWidth_of_le _ (by decide), BitVec.setWidth_eq]
  rfl

/-- The low 16 bits are those of the counter. -/
theorem newHandlerid_emod (addr : BitVec 64) (seq : BitVec 32) :
    newHandlerid addr seq % 65536 = seq.toNat % 65536 := by
  have low : ((addr.setWidth 32 &&& 0xffff0000#32) ||| (seq &&& 0xffff#32)) &&&
      0xffff#32 = seq &&& 0xffff#32 := by
    rw [BitVec.and_or_distrib_right, BitVec.and_assoc, BitVec.and_assoc,
      show (0xffff0000#32 &&& 0xffff#32) = 0#32 by decide, BitVec.and_self]
    simp
  have lowNat := congrArg BitVec.toNat low
  rw [BitVec.toNat_and, BitVec.toNat_and,
    show (0xffff#32).toNat = 2 ^ 16 - 1 by decide,
    Nat.and_two_pow_sub_one_eq_mod, Nat.and_two_pow_sub_one_eq_mod] at lowNat
  rw [newHandlerid_eq, BitVec.toInt_eq_toNat_cond]
  split <;> omega

/-- Identifiers of one queue agree exactly when the counters agree in their low
16 bits. -/
theorem newHandlerid_eq_iff (addr : BitVec 64) (seq other : BitVec 32) :
    newHandlerid addr seq = newHandlerid addr other ↔
      seq.toNat % 65536 = other.toNat % 65536 := by
  constructor
  · intro same
    have := newHandlerid_emod addr seq
    rw [same, newHandlerid_emod] at this
    omega
  · intro same
    have sameLow : seq &&& 0xffff#32 = other &&& 0xffff#32 := by
      apply BitVec.eq_of_toNat_eq
      rw [BitVec.toNat_and, BitVec.toNat_and,
        show (0xffff#32).toNat = 2 ^ 16 - 1 by decide,
        Nat.and_two_pow_sub_one_eq_mod, Nat.and_two_pow_sub_one_eq_mod]
      exact same
    rw [newHandlerid_eq, newHandlerid_eq, sameLow]

/-- The identifier is the default one exactly when all its bits vanish. -/
theorem newHandlerid_eq_default_iff (addr : BitVec 64) (seq : BitVec 32) :
    newHandlerid addr seq = defaultHandlerId ↔
      addr &&& 0xffff0000#64 = 0 ∧ seq &&& 0xffff#32 = 0 := by
  have address : addr.setWidth 32 &&& 0xffff0000#32 = 0#32 ↔
      addr &&& 0xffff0000#64 = 0 := by
    have small : (addr &&& 0xffff0000#64).toNat < 2 ^ 32 := by
      rw [BitVec.toNat_and]
      exact lt_of_le_of_lt Nat.and_le_right (by decide)
    have narrow : addr.setWidth 32 &&& 0xffff0000#32 =
        (addr &&& 0xffff0000#64).setWidth 32 := by
      rw [BitVec.setWidth_and]
      rfl
    rw [narrow, ← BitVec.toNat_inj, ← BitVec.toNat_inj, BitVec.toNat_setWidth,
      Nat.mod_eq_of_lt small]
    rfl
  rw [newHandlerid_eq, defaultHandlerId, ← BitVec.toInt_zero, BitVec.toInt_inj,
    BitVec.or_eq_zero_iff, address]
  rfl

/-! ## Runs -/

/-- Where the live identifiers come from. -/
structure Issued (addr : BitVec 64) (registry : Registry) : Prop where
  /-- Without a queue nothing is registered. -/
  started : registry.msgQueue = none → registry.lstHandler = []
  /-- The default handler keeps its identifier. -/
  byDefault : .default ∈ registry.lstHandler →
    registry.handlerId .default = defaultHandlerId
  /-- Every other live handler was numbered by the counter. -/
  numbered : ∀ address, .object address ∈ registry.lstHandler →
    ∃ seq, registry.handlerId (.object address) = newHandlerid addr seq
  /-- Live handlers have distinct identifiers. -/
  distinct : (registry.lstHandler.map registry.handlerId).Nodup
  /-- None but the default handler has the default identifier. -/
  notDefault : ∀ address, .object address ∈ registry.lstHandler →
    registry.handlerId (.object address) ≠ defaultHandlerId

namespace Registry

variable {addr : BitVec 64} {registry : Registry}

theorem issued_initMsgQueue (issued : Issued addr registry) :
    Issued addr (registry.initMsgQueue addr) := by
  unfold initMsgQueue
  cases registry.msgQueue with
  | some _ => exact issued
  | none => constructor <;> simp

theorem initMsgQueue_msgQueue (registry : Registry) (addr : BitVec 64) :
    (registry.initMsgQueue addr).msgQueue ≠ none := by
  unfold initMsgQueue
  cases queue : registry.msgQueue with
  | some _ =>
      rw [queue]
      exact Option.some_ne_none _
  | none => exact Option.some_ne_none _

@[simp] theorem register_handlerId (ptr : HandlerPtr) :
    (registry.register ptr).handlerId = registry.handlerId := by
  unfold register
  split <;> rfl

@[simp] theorem register_msgQueue (ptr : HandlerPtr) :
    (registry.register ptr).msgQueue = registry.msgQueue := by
  unfold register
  split <;> rfl

/-- Registering keeps the list or appends an object whose identifier is not
taken. -/
theorem register_lstHandler (ptr : HandlerPtr) :
    ((∃ other ∈ registry.lstHandler,
        registry.handlerId ptr = registry.handlerId other) ∧
      (registry.register ptr).lstHandler = registry.lstHandler) ∨
    (ptr ∉ registry.lstHandler ∧
      (registry.register ptr).lstHandler = registry.lstHandler ++ [ptr]) := by
  unfold register
  split
  · rename_i taken
    simp only [List.any_eq_true, beq_iff_eq] at taken
    exact Or.inl ⟨taken, rfl⟩
  · rename_i free
    simp only [List.any_eq_true, beq_iff_eq, not_exists, not_and] at free
    exact Or.inr ⟨fun present => free ptr present rfl, rfl⟩

/-- The identifier that the next `add_handler` issues is good for the object. -/
structure Good
    (started : Registry) (addr : BitVec 64) (address : Nat) : Prop where
  /-- It is not the default identifier. -/
  notDefault : newHandlerid addr started.handlerSeq ≠ defaultHandlerId
  /-- No other live handler has it. -/
  free : ∀ other, other ≠ address → .object other ∈ started.lstHandler →
    started.handlerId (.object other) ≠ newHandlerid addr started.handlerSeq

/-- Freshness of the low bits makes the whole identifier good. -/
theorem freshFor_iff (issued : Issued addr registry) (address : Nat) :
    registry.FreshFor addr address ↔
      (registry.initMsgQueue addr).Good addr address := by
  have started := issued_initMsgQueue issued
  have nonzero : newHandlerid addr (registry.initMsgQueue addr).handlerSeq ≠
      defaultHandlerId ↔ addr &&& 0xffff0000#64 ≠ 0 ∨
        (registry.initMsgQueue addr).handlerSeq &&& 0xffff#32 ≠ 0 := by
    rw [Ne, newHandlerid_eq_default_iff, not_and_or]
  have sameLow : ∀ other,
      .object other ∈ (registry.initMsgQueue addr).lstHandler →
      ((registry.initMsgQueue addr).handlerId (.object other) % 65536 =
          (registry.initMsgQueue addr).handlerSeq.toNat % 65536 ↔
        (registry.initMsgQueue addr).handlerId (.object other) =
          newHandlerid addr (registry.initMsgQueue addr).handlerSeq) := by
    intro other live
    obtain ⟨seq, same⟩ := started.numbered other live
    rw [same, newHandlerid_eq_iff, newHandlerid_emod]
    omega
  constructor
  · intro fresh
    refine ⟨nonzero.mpr fresh.1, ?_⟩
    intro other different live same
    exact fresh.2 (.object other) live (by simp) (by simpa using different)
      ((sameLow other live).mpr same)
  · intro good
    refine ⟨nonzero.mp good.notDefault, ?_⟩
    intro ptr live notDefault different same
    cases ptr with
    | default => exact notDefault rfl
    | object other =>
        exact good.free other (by simpa using different) live
          ((sameLow other live).mp same)

/-- Numbering leaves the identifiers of other objects alone. -/
theorem number_handlerId_of_ne
    {ptr other : HandlerPtr}
    (different : other ≠ ptr) :
    (registry.number addr ptr).handlerId other = registry.handlerId other :=
  Function.update_of_ne different _ _

/-- A good identifier belongs to the numbered object alone. -/
theorem eq_of_number_handlerId
    {address : Nat} {ptr : HandlerPtr}
    (issued : Issued addr registry)
    (good : registry.Good addr address)
    (live : ptr ∈ registry.lstHandler)
    (same : (registry.number addr (.object address)).handlerId ptr =
      newHandlerid addr registry.handlerSeq) :
    ptr = .object address := by
  by_contra different
  rw [number_handlerId_of_ne different] at same
  cases ptr with
  | default =>
      rw [issued.byDefault live] at same
      exact good.notDefault same.symm
  | object other =>
      exact good.free other (fun equal => different (by rw [equal])) live same

/-- Under a good identifier the numbered object gets into the list. -/
theorem mem_register_number
    {address : Nat}
    (issued : Issued addr registry)
    (good : registry.Good addr address)
    (ptr : HandlerPtr) :
    ptr ∈ ((registry.number addr (.object address)).register
      (.object address)).lstHandler ↔
        ptr ∈ registry.lstHandler ∨ ptr = .object address := by
  rcases (registry.number addr (.object address)).register_lstHandler
    (.object address) with ⟨⟨other, present, same⟩, list⟩ | ⟨_, list⟩
  · rw [list]
    have isOwn := eq_of_number_handlerId issued good present
      (same.symm.trans (Function.update_self _ _ _))
    constructor
    · exact Or.inl
    · rintro (before | rfl)
      · exact before
      · exact isOwn ▸ present
  · rw [list, List.mem_append, List.mem_singleton]
    rfl

/-- No object is registered twice. -/
theorem nodup_register_number
    (issued : Issued addr registry)
    (ptr : HandlerPtr) :
    ((registry.number addr ptr).register ptr).lstHandler.Nodup := by
  have before : registry.lstHandler.Nodup := issued.distinct.of_map
  rcases (registry.number addr ptr).register_lstHandler ptr with
    ⟨_, list⟩ | ⟨absent, list⟩
  · rw [list]
    exact before
  · rw [list, List.nodup_append]
    refine ⟨before, by simp, ?_⟩
    rintro other present last lastEq rfl
    exact absent (List.mem_singleton.mp lastEq ▸ present)

/-- Under a good identifier the live identifiers stay distinct. -/
theorem distinct_register_number
    {address : Nat}
    (issued : Issued addr registry)
    (good : registry.Good addr address) :
    (((registry.number addr (.object address)).register
      (.object address)).lstHandler.map
        (registry.number addr (.object address)).handlerId).Nodup := by
  have own : (registry.number addr (.object address)).handlerId
      (.object address) = newHandlerid addr registry.handlerSeq :=
    Function.update_self _ _ _
  have live := mem_register_number issued good
  refine (nodup_register_number issued _).map_on ?_
  intro ptr ptrPresent other otherPresent same
  by_cases ptrOwn : ptr = .object address
  · subst ptrOwn
    rw [own] at same
    rcases (live other).mp otherPresent with before | rfl
    · exact (eq_of_number_handlerId issued good before same.symm).symm
    · rfl
  · have ptrBefore := ((live ptr).mp ptrPresent).resolve_right ptrOwn
    by_cases otherOwn : other = .object address
    · subst otherOwn
      rw [own] at same
      exact eq_of_number_handlerId issued good ptrBefore same
    · have otherBefore := ((live other).mp otherPresent).resolve_right otherOwn
      rw [number_handlerId_of_ne ptrOwn, number_handlerId_of_ne otherOwn] at same
      exact List.inj_on_of_nodup_map issued.distinct ptrBefore otherBefore same

theorem issued_addHandler
    {address : Nat}
    (issued : Issued addr registry)
    (good : (registry.initMsgQueue addr).Good addr address) :
    Issued addr (registry.addHandler addr (.object address)) ∧
      .object address ∈
        (registry.addHandler addr (.object address)).lstHandler := by
  have started := issued_initMsgQueue issued
  have queue := registry.initMsgQueue_msgQueue addr
  unfold addHandler
  generalize registry.initMsgQueue addr = begun at started queue good
  have own : (begun.number addr (.object address)).handlerId
      (.object address) = newHandlerid addr begun.handlerSeq :=
    Function.update_self _ _ _
  have live := mem_register_number started good
  refine ⟨⟨?_, ?_, ?_, ?_, ?_⟩, (live _).mpr (Or.inr rfl)⟩
  · intro noQueue
    exact absurd (by simpa [number] using noQueue) queue
  · intro present
    simp only [register_handlerId]
    rw [number_handlerId_of_ne (by simp)]
    exact started.byDefault (by simpa using (live .default).mp present)
  · intro other present
    simp only [register_handlerId]
    by_cases same : other = address
    · exact ⟨begun.handlerSeq, by rw [same, own]⟩
    · have different : HandlerPtr.object other ≠ .object address := by
        simpa using same
      rw [number_handlerId_of_ne different]
      exact started.numbered other
        (((live _).mp present).resolve_right different)
  · simp only [register_handlerId]
    exact distinct_register_number started good
  · intro other present
    simp only [register_handlerId]
    by_cases same : other = address
    · rw [same, own]
      exact good.notDefault
    · have different : HandlerPtr.object other ≠ .object address := by
        simpa using same
      rw [number_handlerId_of_ne different]
      exact started.notDefault other
        (((live _).mp present).resolve_right different)

theorem issued_removeHandler
    (issued : Issued addr registry)
    (handlerId : Int) :
    Issued addr (registry.removeHandler handlerId) := by
  unfold removeHandler
  cases queue : registry.msgQueue with
  | none =>
      exact ⟨fun _ => issued.started queue, issued.byDefault, issued.numbered,
        issued.distinct, issued.notDefault⟩
  | some _ =>
      have kept : ∀ {ptr}, ptr ∈ registry.lstHandler.filter
          (fun ptr => !(handlerId == registry.handlerId ptr)) →
          ptr ∈ registry.lstHandler := List.mem_of_mem_filter
      refine ⟨?_, ?_, ?_, ?_, ?_⟩
      · simp
      · exact fun present => issued.byDefault (kept present)
      · exact fun address present => issued.numbered address (kept present)
      · exact issued.distinct.sublist (List.filter_sublist.map _)
      · exact fun address present => issued.notDefault address (kept present)

theorem wellIssued_iff (issued : Issued addr registry) :
    WellIssued registry ↔ ∀ ptr handlerId,
      registry.returned = some (ptr, handlerId) →
        ptr ∈ registry.lstHandler ∧ registry.handlerId ptr = handlerId :=
  ⟨fun well => well.registered,
    fun registered => ⟨issued.distinct, issued.notDefault, registered⟩⟩

/-- An `add_handler` keeps its promises exactly when it finds a fresh
identifier. -/
theorem wellIssued_addHandler_iff
    (issued : Issued addr registry)
    (address : Nat) :
    WellIssued (registry.addHandler addr (.object address)) ↔
      registry.FreshFor addr address := by
  rw [freshFor_iff issued]
  constructor
  · intro well
    have own : (registry.addHandler addr (.object address)).handlerId
        (.object address) = newHandlerid addr
          (registry.initMsgQueue addr).handlerSeq := by
      simp [addHandler, number]
    have live := (well.registered (.object address) _ rfl).1
    refine ⟨own ▸ well.notDefault address live, ?_⟩
    intro other different present same
    have differs : HandlerPtr.object other ≠ .object address := by
      simpa using different
    have otherLive : .object other ∈
        (registry.addHandler addr (.object address)).lstHandler := by
      simp only [addHandler]
      rcases ((registry.initMsgQueue addr).number addr
        (.object address)).register_lstHandler (.object address) with
        ⟨_, list⟩ | ⟨_, list⟩
      · rw [list]
        exact present
      · rw [list]
        exact List.mem_append_left _ present
    have otherId : (registry.addHandler addr (.object address)).handlerId
        (.object other) = newHandlerid addr
          (registry.initMsgQueue addr).handlerSeq := by
      simpa [addHandler, number, Function.update_of_ne differs] using same
    exact differs (List.inj_on_of_nodup_map well.distinct otherLive live
      (otherId.trans own.symm))
  · intro good
    obtain ⟨issuedAfter, live⟩ := issued_addHandler issued good
    rw [wellIssued_iff issuedAfter]
    intro ptr handlerId returned
    simp only [addHandler, Option.some.injEq, Prod.mk.injEq] at returned
    obtain ⟨rfl, rfl⟩ := returned
    exact ⟨live, by simp [addHandler]⟩

theorem wellIssued_step_iff
    {call : Call} {next : Registry}
    (issued : Issued addr registry)
    (stepped : registry.step addr call = some next) :
    WellIssued next ↔ AddsFresh addr registry call := by
  cases call with
  | addHandler address =>
      cases stepped
      exact wellIssued_addHandler_iff issued address
  | addNewHandler address =>
      simp only [step] at stepped
      split at stepped
      · cases stepped
      · cases stepped
        exact wellIssued_addHandler_iff issued address
  | removeHandler handlerId =>
      cases stepped
      refine iff_of_true ?_ trivial
      rw [wellIssued_iff (issued_removeHandler issued handlerId)]
      unfold removeHandler
      cases registry.msgQueue <;> simp

theorem issued_step
    {call : Call} {next : Registry}
    (issued : Issued addr registry)
    (fresh : AddsFresh addr registry call)
    (stepped : registry.step addr call = some next) :
    Issued addr next := by
  cases call with
  | addHandler address =>
      cases stepped
      exact (issued_addHandler issued ((freshFor_iff issued address).mp fresh)).1
  | addNewHandler address =>
      simp only [step] at stepped
      split at stepped
      · cases stepped
      · cases stepped
        exact (issued_addHandler issued
          ((freshFor_iff issued address).mp fresh)).1
  | removeHandler handlerId =>
      cases stepped
      exact issued_removeHandler issued handlerId

end Registry

/-- For every address of the queue and every run of calls, the identifiers keep
their promises as long as every `add_handler` finds a fresh one, and the first
call that does not breaks them. -/
theorem wellIssued_of_addsFresh
    (addr : BitVec 64) (registry : Registry)
    (reached : (registrySystem addr).ReachableUnder (AddsFresh addr) registry) :
    WellIssued registry ∧
      ∀ call next, (registrySystem addr).step registry call = some next →
        (WellIssued next ↔ AddsFresh addr registry call) := by
  have both : Issued addr registry ∧ WellIssued registry := by
    have atStart : ∀ start : Registry, (registrySystem addr).initial start →
        Issued addr start ∧ WellIssued start := by
      rintro start ⟨_, empty, nothing⟩
      have issued : Issued addr start := by
        constructor <;> simp [empty]
      exact ⟨issued, (Registry.wellIssued_iff issued).mpr (by simp [nothing])⟩
    refine reached.invariant atStart ?_
    intro state call next _ both fresh stepped
    exact ⟨Registry.issued_step both.1 fresh stepped,
      (Registry.wellIssued_step_iff both.1 stepped).mpr fresh⟩
  exact ⟨both.2, fun call next stepped =>
    Registry.wellIssued_step_iff both.1 stepped⟩

/-- A wrapper before its first call. -/
def Registry.new : Registry where
  msgQueue := none
  handlerSeq := 0
  handlerId := fun _ => -1
  lstHandler := []
  returned := none

/-- The address used in the runs below. -/
def someAddr : BitVec 64 := 0x7f0012345678#64

theorem initial_new : (registrySystem someAddr).initial Registry.new :=
  ⟨rfl, rfl, rfl⟩

/-- Two handlers are added and the first of them is removed. -/
def addTwo : List Call :=
  [.addNewHandler 1, .addHandler 2, .removeHandler 0x12340001,
    .addNewHandler 3]

theorem wellIssued_of_addsFresh_addTwo :
    ∃ registry,
      (registrySystem someAddr).ReachableUnder (AddsFresh someAddr) registry ∧
      registry.lstHandler = [.default, .object 2, .object 3] ∧
      registry.returned = some (.object 3, 0x12340003) ∧
      WellIssued registry := by
  obtain ⟨registry, reached, test⟩ :=
    Machine.ReachableUnder.exists_of_execUnder
      (.initial initial_new :
        (registrySystem someAddr).ReachableUnder (AddsFresh someAddr) .new)
      (by decide +kernel :
        ((registrySystem someAddr).execUnder (AddsFresh someAddr) .new
          addTwo).map (fun registry => decide
            (registry.lstHandler = [.default, .object 2, .object 3] ∧
              registry.returned = some (.object 3, 0x12340003))) = some true)
  obtain ⟨live, returned⟩ := of_decide_eq_true test
  exact ⟨registry, reached, live, returned,
    (wellIssued_of_addsFresh someAddr registry reached).1⟩

/-! ## Wrapping the counter -/

/-- Keep one handler and add and remove another one again and again. -/
def keepAndChurn (rounds : Nat) : List Call :=
  .addNewHandler 1 :: (List.range rounds).flatMap fun round =>
    [.addNewHandler 2,
      .removeHandler (newHandlerid someAddr (BitVec.ofNat 32 (round + 2)))]

/-- The state between two rounds. -/
structure Churned (rounds : Nat) (registry : Registry) : Prop where
  /-- The queue exists. -/
  msgQueue : registry.msgQueue = some someAddr
  /-- One identifier per added handler has been issued. -/
  handlerSeq : registry.handlerSeq = BitVec.ofNat 32 (rounds + 2)
  /-- Only the kept handler is live. -/
  lstHandler : registry.lstHandler = [.default, .object 1]
  /-- The default identifier. -/
  byDefault : registry.handlerId .default = defaultHandlerId
  /-- The identifier of the kept handler. -/
  kept : registry.handlerId (.object 1) = newHandlerid someAddr 1#32

theorem Churned.initMsgQueue
    {rounds : Nat} {registry : Registry}
    (churned : Churned rounds registry) :
    registry.initMsgQueue someAddr = registry := by
  simp [Registry.initMsgQueue, churned.msgQueue]

/-- An object that is not live can be added. -/
theorem Churned.step
    {rounds : Nat} {registry : Registry}
    (churned : Churned rounds registry) :
    (registrySystem someAddr).step registry (.addNewHandler 2) =
      some (registry.addHandler someAddr (.object 2)) := by
  simp [registrySystem, Registry.step, churned.lstHandler]

/-- Identifiers after the addition: the new object has the next one. -/
theorem Churned.handlerId_addHandler
    {rounds : Nat} {registry : Registry}
    (churned : Churned rounds registry) :
    (registry.addHandler someAddr (.object 2)).handlerId =
      Function.update registry.handlerId (.object 2)
        (newHandlerid someAddr (BitVec.ofNat 32 (rounds + 2))) := by
  simp [Registry.addHandler, Registry.number, churned.initMsgQueue,
    churned.handlerSeq]

/-- One round leaves the kept handler and moves the counter. -/
theorem Churned.round
    {rounds : Nat} {registry : Registry}
    (churned : Churned rounds registry)
    (bound : rounds < 65535) :
    ∃ next, (registrySystem someAddr).exec registry
        [.addNewHandler 2, .removeHandler
          (newHandlerid someAddr (BitVec.ofNat 32 (rounds + 2)))] = some next ∧
      Churned (rounds + 1) next := by
  have notDefault : newHandlerid someAddr (BitVec.ofNat 32 (rounds + 2)) ≠
      defaultHandlerId := by
    rw [Ne, newHandlerid_eq_default_iff]
    exact fun zero => absurd zero.1 (by decide)
  have notKept : newHandlerid someAddr (BitVec.ofNat 32 (rounds + 2)) ≠
      newHandlerid someAddr 1#32 := by
    rw [Ne, newHandlerid_eq_iff, BitVec.toNat_ofNat]
    have : (1#32).toNat = 1 := rfl
    omega
  have ids := churned.handlerId_addHandler
  have queue : (registry.addHandler someAddr (.object 2)).msgQueue =
      some someAddr := by
    simp [Registry.addHandler, Registry.number, churned.initMsgQueue,
      churned.msgQueue]
  have counter : (registry.addHandler someAddr (.object 2)).handlerSeq =
      BitVec.ofNat 32 (rounds + 3) := by
    have next : BitVec.ofNat 32 (rounds + 2) + 1#32 =
        BitVec.ofNat 32 (rounds + 3) := (BitVec.ofNat_add (rounds + 2) 1).symm
    simp only [Registry.addHandler, Registry.register, churned.initMsgQueue]
    split <;> simp only [Registry.number, churned.handlerSeq, next]
  have live : (registry.addHandler someAddr (.object 2)).lstHandler =
      [.default, .object 1, .object 2] := by
    simp [Registry.addHandler, Registry.register, Registry.number,
      churned.initMsgQueue, churned.lstHandler, churned.handlerSeq,
      churned.byDefault, churned.kept, notDefault, notKept]
  refine ⟨_, by rw [Machine.exec_cons, churned.step]; rfl, ?_⟩
  simp only [Registry.removeHandler, queue]
  constructor
  · rfl
  · exact counter
  · simp [live, ids, churned.byDefault, churned.kept, notDefault, notKept]
  · simp [ids, churned.byDefault]
  · simp [ids, churned.kept]

/-- Up to 65535 rounds the kept handler is the only live one. -/
theorem exec_keepAndChurn (rounds : Nat) (bound : rounds ≤ 65535) :
    ∃ registry, (registrySystem someAddr).exec .new (keepAndChurn rounds) =
      some registry ∧ Churned rounds registry := by
  induction rounds with
  | zero =>
      exact ⟨_, rfl, rfl, rfl, rfl, rfl, rfl⟩
  | succ rounds inductionHypothesis =>
      obtain ⟨registry, executed, churned⟩ :=
        inductionHypothesis (by omega)
      obtain ⟨next, lastRound, churnedNext⟩ := churned.round (by omega)
      refine ⟨next, ?_, churnedNext⟩
      have split : keepAndChurn (rounds + 1) = keepAndChurn rounds ++
          [.addNewHandler 2, .removeHandler
            (newHandlerid someAddr (BitVec.ofNat 32 (rounds + 2)))] := by
        simp [keepAndChurn, List.range_succ]
      rw [split, Machine.exec_append, executed]
      exact lastRound

/-- After 65535 rounds the counter has wrapped: the next handler gets the
identifier of the kept one and is dropped. -/
theorem wellIssued_keepAndChurn :
    ∃ registry,
      (registrySystem someAddr).exec .new
        (keepAndChurn 65535 ++ [.addNewHandler 2]) = some registry ∧
      (registrySystem someAddr).Reachable registry ∧
      registry.returned = some (.object 2, registry.handlerId (.object 1)) ∧
      .object 2 ∉ registry.lstHandler ∧
      ¬ WellIssued registry := by
  obtain ⟨registry, executed, churned⟩ := exec_keepAndChurn 65535 le_rfl
  have whole : (registrySystem someAddr).exec .new
      (keepAndChurn 65535 ++ [.addNewHandler 2]) =
        some (registry.addHandler someAddr (.object 2)) := by
    rw [Machine.exec_append, executed]
    simp [churned.step]
  have start : (registrySystem someAddr).Reachable .new := .initial initial_new
  have wrapped : newHandlerid someAddr (BitVec.ofNat 32 (65535 + 2)) =
      newHandlerid someAddr 1#32 := by
    rw [newHandlerid_eq_iff]
    rfl
  have ids := churned.handlerId_addHandler
  rw [wrapped] at ids
  have returned : (registry.addHandler someAddr (.object 2)).returned =
      some (.object 2, newHandlerid someAddr 1#32) := by
    simp [Registry.addHandler, Registry.number, churned.initMsgQueue,
      churned.handlerSeq, wrapped]
  have dropped : .object 2 ∉
      (registry.addHandler someAddr (.object 2)).lstHandler := by
    simp [Registry.addHandler, Registry.register, Registry.number,
      churned.initMsgQueue, churned.lstHandler, churned.handlerSeq,
      churned.byDefault, churned.kept, wrapped]
  refine ⟨_, whole, start.exec (fun _ _ _ => trivial) whole, ?_, dropped, ?_⟩
  · rw [returned, ids]
    simp [churned.kept]
  · intro well
    exact dropped (well.registered _ _ returned).1

end MsgQueueWrapper
end Skplat
