import Skplat.RefBase.Counts

/-!
# References keep the object

Each step of a reference keeps the counts right.
-/

namespace Skplat
namespace RefBase

open MachineInt

namespace State

variable {lifetime : Lifetime} {state next : State} {index : Nat} {old replaced : Place}
variable {allowed : Bool}

theorem initialStrongValue_eq : initialStrongValue = 268435456 := rfl

end State

namespace Kind

theorem weakly_of_isFrom {kind : Kind} {place : Place} (isFrom : kind.isFrom place = true) :
    place.weakly = 1 := by
  cases kind <;> cases place <;> first | rfl | cases isFrom

theorem strongly_of_isFrom {kind : Kind} {place : Place} (isFrom : kind.isFrom place = true)
    (uses : kind.usesObject = true) : place.strongly = 1 := by
  cases kind with
  | share | observe => cases place <;> first | rfl | cases isFrom
  | copyWeak | promote => cases uses

/-- After `incWeak` a reference is counted in `mWeak` only. -/
theorem counted_weakly (kind : Kind) (source : Option Nat) :
    (kind.counted source).weakly = 1 ∧ (kind.counted source).ends = 0 ∧
      (kind.counted source).creates = 0 ∧ (kind.counted source).strongly = 0 ∧
      (kind.counted source).adjusts = 0 ∧ (kind.counted source).isFirst = 0 ∧
      (kind.counted source).isLast = 0 := by
  cases kind <;> exact ⟨rfl, rfl, rfl, rfl, rfl, rfl, rfl⟩

end Kind

namespace State

/-- `mWeak` and what it counts are the same. -/
theorem Sound.of_weakly (sound : Sound lifetime state) (noFault : next.fault = false)
    (linked : next.Linked) (totals : Totals state next old replaced)
    (same : replaced.weakly = old.weakly ∧ replaced.ends = old.ends ∧
      replaced.creates = old.creates)
    (mWeak : next.mWeak = state.mWeak) (refsAlive : next.refsAlive = state.refsAlive)
    (mStrong : next.StrongCount)
    (objectAlive : next.objectAlive = true ↔
      if lifetime = .weak ∨ next.mStrong = initialStrongValue then state.refsAlive = true
      else 0 < next.total Place.strongly + next.total Place.isLast)
    (last : lifetime = .strong → next.total Place.isLast = 0 ∨
      next.total Place.isLast = 1 ∧ next.total Place.strongly = 0) :
    Sound lifetime next := by
  obtain ⟨sameWeakly, sameEnds, sameCreates⟩ := same
  have weakly : next.total Place.weakly = state.total Place.weakly := by
    have moved := totals.weakly
    omega
  have ends : next.total Place.ends = state.total Place.ends := by
    have moved := totals.ends
    omega
  have creates : next.total Place.creates = state.total Place.creates := by
    have moved := totals.creates
    omega
  refine ⟨noFault, Nat.lt_of_le_of_lt totals.live sound.few, linked, ?_, mStrong, ?_, ?_, ?_, last⟩
  · rw [mWeak, weakly]
    exact sound.mWeak
  · rw [ends, weakly, creates]
    exact sound.ended
  · rw [refsAlive, weakly, ends, creates]
    exact sound.refsAlive
  · rw [refsAlive]
    exact objectAlive

/-- `mStrong` and what it counts are the same. -/
theorem Sound.of_strongly (sound : Sound lifetime state) (noFault : next.fault = false)
    (linked : next.Linked) (totals : Totals state next old replaced)
    (same : replaced.strongly = old.strongly ∧ replaced.adjusts = old.adjusts ∧
      replaced.isFirst = old.isFirst ∧ replaced.isLast = old.isLast)
    (mStrong : next.mStrong = state.mStrong)
    (objectAlive : next.objectAlive = state.objectAlive)
    (firstRefs : next.firstRefs = state.firstRefs)
    (refs : next.refsAlive = state.refsAlive)
    (mWeak : next.mWeak = next.total Place.weakly)
    (ended : 0 < next.total Place.ends → next.total Place.weakly = 0 ∧
      next.total Place.creates = 0 ∧ next.total Place.ends = 1)
    (refsAlive : next.refsAlive = true ↔
      0 < next.total Place.weakly + next.total Place.ends + next.total Place.creates) :
    Sound lifetime next := by
  obtain ⟨sameStrongly, sameAdjusts, sameFirst, sameLast⟩ := same
  have strongly : next.total Place.strongly = state.total Place.strongly := by
    have moved := totals.strongly
    omega
  have adjusts : next.total Place.adjusts = state.total Place.adjusts := by
    have moved := totals.adjusts
    omega
  have isFirst : next.total Place.isFirst = state.total Place.isFirst := by
    have moved := totals.isFirst
    omega
  have isLast : next.total Place.isLast = state.total Place.isLast := by
    have moved := totals.isLast
    omega
  refine ⟨noFault, Nat.lt_of_le_of_lt totals.live sound.few, linked, mWeak, ?_, ended,
    refsAlive, ?_, ?_⟩
  · cases sound.mStrong with
    | fresh isInitial none notLast notFirst =>
        exact .fresh (mStrong.trans isInitial) (strongly.trans none) (isLast.trans notLast)
          (by rw [isFirst, firstRefs]; exact notFirst)
    | first isCount one notLast notFirst =>
        exact .first (by rw [mStrong, strongly]; exact isCount) (adjusts.trans one)
          (isLast.trans notLast) (by rw [isFirst, firstRefs]; exact notFirst)
    | counted isCount none once =>
        exact .counted (by rw [mStrong, strongly]; exact isCount) (adjusts.trans none)
          (by rw [isFirst, firstRefs]; exact once)
  · rw [objectAlive, mStrong, refs, strongly, isLast]
    exact sound.objectAlive
  · rw [isLast, strongly]
    exact sound.last

namespace Sound

/-- While there is a counted reference, `mRefs` is not freed. -/
theorem refs_of_weakly (sound : Sound lifetime state) (present : old ∈ state.places)
    (counts : old.weakly = 1) : state.refsAlive = true := by
  have some := le_total_of_mem present Place.weakly
  exact sound.refsAlive.mpr (by omega)

/-- While there is an `sp`, the object is not destroyed. -/
theorem object_of_strongly (sound : Sound lifetime state) (present : old ∈ state.places)
    (counts : old.strongly = 1) : state.objectAlive = true := by
  have some := le_total_of_mem present Place.strongly
  have bounded := strongly_add_isLast_le state
  refine sound.objectAlive.mpr ?_
  split
  · exact sound.refsAlive.mpr (by omega)
  · omega

/-- With an extended lifetime the object is not destroyed while there is a reference. -/
theorem object_of_weakly (sound : Sound .weak state) (present : old ∈ state.places)
    (counts : old.weakly = 1) : state.objectAlive = true := by
  refine sound.objectAlive.mpr ?_
  rw [if_pos (Or.inl rfl)]
  exact sound.refs_of_weakly present counts

theorem touch (sound : Sound lifetime state) {object : Bool} (refs : state.refsAlive = true)
    (alive : object = true → state.objectAlive = true) : (state.touch object).fault = false := by
  rw [State.touch, sound.noFault, refs]
  cases object with
  | false => rfl
  | true =>
      rw [alive rfl]
      rfl

/-- What is known while a reference is counted. -/
theorem phase (sound : Sound lifetime state) :
    state.total Place.strongly + state.total Place.isLast ≤ state.total Place.weakly ∧
      state.total Place.adjusts + state.total Place.isFirst ≤ state.total Place.strongly ∧
      state.total Place.weakly < 2 ^ 28 :=
  ⟨strongly_add_isLast_le state, adjusts_add_isFirst_le state,
    Nat.lt_of_le_of_lt (weakly_le state) sound.few⟩

/-- `incWeak`. -/
theorem starting (sound : Sound lifetime state) {kind : Kind} {source : Option Nat}
    (found : state.places[index]? = some (.starting kind source))
    (advances : state.advance lifetime index allowed (.starting kind source) = some next) :
    Sound lifetime next := by
  cases advances
  have present := List.mem_of_getElem? found
  have stays := sound.linked.stays _ present
  obtain ⟨refs, object, counts⟩ : state.refsAlive = true ∧
      (kind.usesObject = true → state.objectAlive = true) ∧
      0 < state.total Place.weakly + state.total Place.creates := by
    cases source with
    | none =>
        have one := le_total_of_mem present Place.creates
        have isInitial := (sound.linked.fresh _ present rfl).2
        have refs := sound.refsAlive.mpr (Nat.lt_of_lt_of_le one (Nat.le_add_left _ _))
        refine ⟨refs, fun _ => sound.objectAlive.mpr ?_, Nat.lt_of_lt_of_le one (by omega)⟩
        rw [if_pos (Or.inr isInitial)]
        exact refs
    | some source =>
        obtain ⟨lender, isLender, isFrom⟩ := stays
        have lends := List.mem_of_getElem? isLender
        have counted := kind.weakly_of_isFrom isFrom
        have one := le_total_of_mem lends Place.weakly
        refine ⟨sound.refs_of_weakly lends counted, fun uses => ?_, by omega⟩
        exact sound.object_of_strongly lends (kind.strongly_of_isFrom isFrom uses)
  have bounds := sound.phase
  have notEnded : state.total Place.ends = 0 := by
    have ended := sound.ended
    omega
  have totals : Totals state (((state.touch kind.usesObject).addWeak 1).placeAt index
      (kind.counted source)) (.starting kind source) (kind.counted source) :=
    totals_set found rfl nofun
  have isCounted := kind.counted_weakly source
  obtain ⟨weakly, -, -, -, -, ends, creates, -⟩ := id totals
  rw [isCounted.1] at weakly
  rw [isCounted.2.1] at ends
  rw [isCounted.2.2.1] at creates
  simp only [Place.weakly, Place.ends] at weakly ends
  refine sound.of_strongly (sound.touch refs object) ?_ totals isCounted.2.2.2 rfl rfl rfl rfl
    ?_ ?_ ?_
  · refine sound.linked.set found rfl (fun isFresh => ⟨?_, rfl⟩) (by rintro ⟨⟩ ⟨⟩) ?_ ?_ ?_
    · cases kind <;> cases source <;> first | rfl | cases isFresh
    · cases kind with
      | share =>
          cases source with
          | none => trivial
          | some source =>
              obtain ⟨lender, isLender, isFrom⟩ := stays
              cases lender <;> first | exact isLender | cases isFrom
      | _ => trivial
    · cases kind with
      | share => exact Or.inl rfl
      | _ => exact Or.inr rfl
    · intro curCount isExchanging
      cases kind <;> cases isExchanging
  · change toInt32 (state.mWeak + 1) = _
    have isCount := sound.mWeak
    rw [toInt32_of_nonneg (by omega) (by omega)]
    omega
  · omega
  · exact iff_of_true refs (by omega)

/-- A thread goes on in `attemptIncStrong`, and all counts are the same. -/
theorem goesOn (sound : Sound lifetime state) (found : state.places[index]? = some old)
    {object : Bool} (counts : old.weakly = 1)
    (alive : object = true → state.objectAlive = true)
    (same : replaced.weakly = old.weakly ∧ replaced.strongly = old.strongly ∧
      replaced.adjusts = old.adjusts ∧ replaced.isFirst = old.isFirst ∧
      replaced.isLast = old.isLast ∧ replaced.ends = old.ends ∧
      replaced.creates = old.creates)
    (linked : ((state.touch object).placeAt index replaced).Linked) :
    Sound lifetime ((state.touch object).placeAt index replaced) := by
  obtain ⟨weakly, strongly, adjusts, isFirst, isLast, ends, creates⟩ := same
  have present := List.mem_of_getElem? found
  have totals : Totals state ((state.touch object).placeAt index replaced) old replaced :=
    totals_set found rfl (by rintro rfl; cases counts)
  have sameWeakly : ((state.touch object).placeAt index replaced).total Place.weakly =
      state.total Place.weakly := by
    have moved := totals.weakly
    omega
  have sameEnds : ((state.touch object).placeAt index replaced).total Place.ends =
      state.total Place.ends := by
    have moved := totals.ends
    omega
  have sameCreates : ((state.touch object).placeAt index replaced).total Place.creates =
      state.total Place.creates := by
    have moved := totals.creates
    omega
  refine sound.of_strongly (sound.touch (sound.refs_of_weakly present counts) alive) linked totals
    ⟨strongly, adjusts, isFirst, isLast⟩ rfl rfl rfl rfl ?_ ?_ ?_
  · rw [sameWeakly]
    exact sound.mWeak
  · rw [sameWeakly, sameEnds, sameCreates]
    exact sound.ended
  · rw [sameWeakly, sameEnds, sameCreates]
    exact sound.refsAlive

/-- The steps of `attemptIncStrong` that only read. -/
theorem loading (sound : Sound lifetime state)
    (found : state.places[index]? = some .loading)
    (advances : state.advance lifetime index allowed .loading = some next) :
    Sound lifetime next := by
  cases advances
  refine sound.goesOn found rfl nofun ?_ ?_
  · split <;> exact ⟨rfl, rfl, rfl, rfl, rfl, rfl, rfl⟩
  · refine sound.linked.set found rfl ?_ nofun ?_ ?_ ?_
    · split <;> exact nofun
    · split <;> trivial
    · split <;> exact Or.inl rfl
    · intro curCount isExchanging
      split at isExchanging
      · cases isExchanging
        assumption
      · cases isExchanging

theorem deciding (sound : Sound lifetime state) {curCount : Int}
    (found : state.places[index]? = some (.deciding curCount))
    (advances : state.advance lifetime index allowed (.deciding curCount) = some next) :
    Sound lifetime next := by
  cases advances
  refine sound.goesOn found rfl (fun uses => ?_) ?_ ?_
  · obtain rfl : lifetime = .weak := of_decide_eq_true uses
    exact sound.object_of_weakly (List.mem_of_getElem? found) rfl
  · split <;> exact ⟨rfl, rfl, rfl, rfl, rfl, rfl, rfl⟩
  · refine sound.linked.set found rfl ?_ nofun ?_ ?_ ?_
    · split <;> exact nofun
    · split <;> trivial
    · split <;> exact Or.inl rfl
    · split <;> exact nofun

theorem unneeded (sound : Sound lifetime state)
    (found : state.places[index]? = some .unneeded)
    (advances : state.advance lifetime index allowed .unneeded = some next) :
    Sound lifetime next := by
  cases advances
  refine sound.goesOn found rfl (fun _ => ?_) ⟨rfl, rfl, rfl, rfl, rfl, rfl, rfl⟩ ?_
  · exact sound.object_of_strongly (List.mem_of_getElem? found) rfl
  · exact sound.linked.set found rfl nofun nofun trivial (Or.inl rfl) nofun

theorem range (sound : Sound lifetime state) :
    0 ≤ state.mStrong ∧ state.mStrong < 2 ^ 30 := by
  have bounds := sound.phase
  have initial := initialStrongValue_eq
  cases sound.mStrong <;> omega

/-- While `mStrong` is not zero, the object lives. -/
theorem object_of_positive (sound : Sound lifetime state) (refs : state.refsAlive = true)
    (positive : lifetime = .strong → state.mStrong ≠ 0) : state.objectAlive = true := by
  refine sound.objectAlive.mpr ?_
  split
  · exact refs
  · rename_i counts
    have notZero := positive (by cases lifetime <;> simp_all)
    have bounds := sound.phase
    cases sound.mStrong with
    | fresh isInitial => exact absurd (Or.inr isInitial) counts
    | first _ one => omega
    | counted isCount => omega

/-- An `sp` is counted: `mStrong` is incremented while it is not zero, or the lifetime is
extended. -/
theorem increments (sound : Sound lifetime state) (found : state.places[index]? = some old)
    (counts : old.weakly = 1 ∧ old.strongly = 0 ∧ old.adjusts = 0 ∧ old.isFirst = 0 ∧
      old.isLast = 0 ∧ old.ends = 0 ∧ old.creates = 0)
    (isReplaced : state.mStrong = initialStrongValue ∧ replaced = .adjusting ∨
      state.mStrong ≠ initialStrongValue ∧ (replaced = .strong ∨ replaced = .unneeded))
    (positive : lifetime = .strong → state.mStrong ≠ 0)
    (notLent : ∀ kind : Kind, kind.isFrom old = true → state.unused index = true) :
    Sound lifetime (((state.touch false).addStrong 1).placeAt index replaced) := by
  obtain ⟨weakly, strongly, adjusts, isFirst, isLast, ends, creates⟩ := counts
  have present := List.mem_of_getElem? found
  have refs := sound.refs_of_weakly present weakly
  have alive := sound.object_of_positive refs positive
  have bounds := sound.phase
  have totals : Totals state (((state.touch false).addStrong 1).placeAt index replaced) old
      replaced := totals_set found rfl (by rintro rfl; cases weakly)
  have linked : (((state.touch false).addStrong 1).placeAt index replaced).Linked := by
    obtain ⟨-, rfl⟩ | ⟨-, rfl | rfl⟩ := isReplaced <;>
      exact sound.linked.set found rfl nofun notLent trivial (Or.inr rfl) nofun
  have same : replaced.weakly = 1 ∧ replaced.ends = 0 ∧ replaced.creates = 0 ∧
      replaced.strongly = 1 ∧ replaced.isFirst = 0 ∧ replaced.isLast = 0 := by
    obtain ⟨-, rfl⟩ | ⟨-, rfl | rfl⟩ := isReplaced <;> exact ⟨rfl, rfl, rfl, rfl, rfl, rfl⟩
  have movedStrongly := totals.strongly
  have movedAdjusts := totals.adjusts
  have movedFirst := totals.isFirst
  have movedLast := totals.isLast
  have last := sound.last
  have phase := sound.mStrong
  have initial := initialStrongValue_eq
  have count : (((state.touch false).addStrong 1).placeAt index replaced).mStrong =
      state.mStrong + 1 := by
    have inRange := sound.range
    change toInt32 (state.mStrong + 1) = _
    exact toInt32_of_nonneg (by omega) (by omega)
  refine sound.of_weakly (sound.touch refs nofun) linked totals
    ⟨same.1.trans weakly.symm, same.2.1.trans ends.symm, same.2.2.1.trans creates.symm⟩ rfl rfl
    ?_ (iff_of_true alive ?_) fun isStrong => ?_
  · obtain ⟨isInitial, rfl⟩ | ⟨notInitial, isReplaced⟩ := isReplaced
    · have one : Place.adjusting.adjusts = 1 := rfl
      cases phase with
      | fresh _ none notLast notFirst =>
          exact .first (by omega) (by omega) (by omega) (by change _ + state.firstRefs = 0; omega)
      | first isCount => omega
      | counted isCount => omega
    · have none : replaced.adjusts = 0 := by obtain rfl | rfl := isReplaced <;> rfl
      cases phase with
      | fresh isInitial => exact absurd isInitial notInitial
      | first isCount one notLast notFirst =>
          exact .first (by omega) (by omega) (by omega) (by change _ + state.firstRefs = 0; omega)
      | counted isCount notAdjusts once =>
          exact .counted (by omega) (by omega) (by change _ + state.firstRefs = 1; omega)
  · split
    · exact refs
    · omega
  · have notZero := positive isStrong
    have notLast := last isStrong
    cases phase <;> omega

theorem raising (sound : Sound lifetime state) {source : Option Nat}
    (found : state.places[index]? = some (.raising source))
    (advances : state.advance lifetime index allowed (.raising source) = some next) :
    Sound lifetime next := by
  cases advances
  have present := List.mem_of_getElem? found
  have bounds := sound.phase
  have initial := initialStrongValue_eq
  refine sound.increments found ⟨rfl, rfl, rfl, rfl, rfl, rfl, rfl⟩ ?_ (fun _ => ?_) nofun
  · by_cases isInitial : state.mStrong = initialStrongValue
    · exact Or.inl ⟨isInitial, if_pos isInitial⟩
    · exact Or.inr ⟨isInitial, Or.inl (if_neg isInitial)⟩
  · cases source with
    | none =>
        rw [(sound.linked.fresh _ present rfl).2]
        decide
    | some source =>
        have lends := List.mem_of_getElem? (sound.linked.stays _ present)
        have one : 1 ≤ _ := le_total_of_mem lends Place.strongly
        cases sound.mStrong <;> omega

theorem exchanging (sound : Sound lifetime state) {curCount : Int}
    (found : state.places[index]? = some (.exchanging curCount))
    (advances : state.advance lifetime index allowed (.exchanging curCount) = some next) :
    Sound lifetime next := by
  obtain ⟨positive, notInitial⟩ := sound.linked.exchanging curCount (List.mem_of_getElem? found)
  rw [State.advance] at advances
  split at advances
  · rename_i same
    cases advances
    refine sound.increments found ⟨rfl, rfl, rfl, rfl, rfl, rfl, rfl⟩ ?_ (fun _ => ?_) nofun
    · exact Or.inr ⟨same ▸ notInitial, Or.inl rfl⟩
    · omega
  · cases advances
    refine sound.goesOn found rfl nofun ⟨rfl, rfl, rfl, rfl, rfl, rfl, rfl⟩ ?_
    exact sound.linked.set found rfl nofun nofun trivial (Or.inl rfl) nofun

theorem attempting (sound : Sound lifetime state)
    (found : state.places[index]? = some .attempting)
    (positive : lifetime = .strong → state.mStrong ≠ 0)
    (advances : state.advance lifetime index allowed .attempting = some next) :
    Sound lifetime next := by
  cases advances
  refine sound.increments found ⟨rfl, rfl, rfl, rfl, rfl, rfl, rfl⟩ ?_ positive nofun
  by_cases isInitial : state.mStrong = initialStrongValue
  · exact Or.inl ⟨isInitial, if_pos isInitial⟩
  · rw [if_neg isInitial]
    refine Or.inr ⟨isInitial, ?_⟩
    split
    · exact Or.inr rfl
    · exact Or.inl rfl

/-- `INITIAL_STRONG_VALUE` is subtracted. -/
theorem adjusting (sound : Sound lifetime state)
    (found : state.places[index]? = some .adjusting)
    (advances : state.advance lifetime index allowed .adjusting = some next) :
    Sound lifetime next := by
  cases advances
  have present := List.mem_of_getElem? found
  have refs := sound.refs_of_weakly present rfl
  have alive := sound.object_of_strongly present rfl
  have bounds := sound.phase
  have one : 1 ≤ _ := le_total_of_mem present Place.adjusts
  have totals : Totals state (((state.touch false).addStrong
      (-initialStrongValue)).placeAt index .firstRef) .adjusting .firstRef :=
    totals_set found rfl nofun
  have linked : (((state.touch false).addStrong
      (-initialStrongValue)).placeAt index .firstRef).Linked :=
    sound.linked.set found rfl (by rintro ⟨⟩) (by rintro ⟨⟩ ⟨⟩) trivial (Or.inl rfl)
      (by rintro _ ⟨⟩)
  obtain ⟨-, strongly, adjusts, isFirst, isLast, -, -, -⟩ := id totals
  simp only [Place.strongly, Place.adjusts, Place.isFirst, Place.isLast]
    at strongly adjusts isFirst isLast
  have initial := initialStrongValue_eq
  have count : (((state.touch false).addStrong (-initialStrongValue)).placeAt index
      .firstRef).mStrong = state.mStrong - initialStrongValue := by
    have inRange := sound.range
    change toInt32 (state.mStrong + -initialStrongValue) = _
    rw [toInt32_eq_self_iff.mpr (by omega)]
    rfl
  refine sound.of_weakly (sound.touch refs (by rintro ⟨⟩)) linked totals ⟨rfl, rfl, rfl⟩ rfl
    rfl ?_
    (iff_of_true alive ?_) fun _ => ?_
  · cases sound.mStrong with
    | fresh _ none => omega
    | first isCount only notLast notFirst =>
        exact .counted (by omega) (by omega) (by change _ + state.firstRefs = 1; omega)
    | counted _ none => omega
  · split
    · exact refs
    · omega
  · cases sound.mStrong <;> omega

/-- `onFirstRef` is called. -/
theorem firstRef (sound : Sound lifetime state)
    (found : state.places[index]? = some .firstRef)
    (advances : state.advance lifetime index allowed .firstRef = some next) :
    Sound lifetime next := by
  have places : next.places = state.places.set index .strong := by
    cases advances
    rfl
  obtain ⟨mStrong, firstRefs, objectAlive, refsAlive, mWeak⟩ :
      next.mStrong = state.mStrong ∧ next.firstRefs = state.firstRefs + 1 ∧
        next.objectAlive = state.objectAlive ∧ next.refsAlive = state.refsAlive ∧
        next.mWeak = state.mWeak := by
    cases advances
    exact ⟨rfl, rfl, rfl, rfl, rfl⟩
  have present := List.mem_of_getElem? found
  have refs := sound.refs_of_weakly present rfl
  have alive := sound.object_of_strongly present rfl
  have noFault : next.fault = false := by
    cases advances
    exact sound.touch refs fun _ => alive
  have one : 1 ≤ _ := le_total_of_mem present Place.isFirst
  have bounds := sound.phase
  have last := sound.last
  have totals := totals_set found places nofun
  have linked := sound.linked.set found places nofun nofun trivial (Or.inl rfl) nofun
  obtain ⟨-, strongly, adjusts, isFirst, isLast, -, -, -⟩ := id totals
  simp only [Place.strongly, Place.adjusts, Place.isFirst, Place.isLast]
    at strongly adjusts isFirst isLast
  refine sound.of_weakly noFault linked totals ⟨rfl, rfl, rfl⟩ mWeak refsAlive ?_
    (iff_of_true (objectAlive.trans alive) ?_) fun isStrong => ?_
  · cases sound.mStrong with
    | fresh _ _ _ notFirst => omega
    | first _ _ _ notFirst => omega
    | counted isCount notAdjusts once => exact .counted (by omega) (by omega) (by omega)
  · split
    · exact refs
    · omega
  · have notLast := last isStrong
    omega

/-- The first half of `decStrong`. -/
theorem releasing (sound : Sound lifetime state)
    (found : state.places[index]? = some .releasing)
    (advances : state.advance lifetime index allowed .releasing = some next) :
    Sound lifetime next := by
  obtain ⟨replaced, isReplaced, places⟩ : ∃ replaced : Place,
      replaced = (if state.mStrong = 1 then .lastStrong else .dropping) ∧
        next.places = state.places.set index replaced := by
    cases advances
    exact ⟨_, rfl, rfl⟩
  obtain ⟨mStrong, firstRefs, objectAlive, refsAlive, mWeak⟩ :
      next.mStrong = toInt32 (state.mStrong + -1) ∧ next.firstRefs = state.firstRefs ∧
        next.objectAlive = state.objectAlive ∧ next.refsAlive = state.refsAlive ∧
        next.mWeak = state.mWeak := by
    cases advances
    exact ⟨rfl, rfl, rfl, rfl, rfl⟩
  have present := List.mem_of_getElem? found
  have refs := sound.refs_of_weakly present rfl
  have alive := sound.object_of_strongly present rfl
  have noFault : next.fault = false := by
    cases advances
    exact sound.touch refs fun _ => alive
  have inRange := sound.range
  rw [toInt32_eq_self_iff.mpr (by omega)] at mStrong
  have one : 1 ≤ _ := le_total_of_mem present Place.strongly
  have bounds := sound.phase
  have last := sound.last
  have initial := initialStrongValue_eq
  have totals := totals_set found places nofun
  have after := adjusts_add_isFirst_le next
  have same : replaced.weakly = 1 ∧ replaced.ends = 0 ∧ replaced.creates = 0 ∧
      replaced.strongly = 0 ∧ replaced.adjusts = 0 ∧ replaced.isFirst = 0 ∧
      replaced.isLast = if state.mStrong = 1 then 1 else 0 := by
    rw [isReplaced]
    split <;> exact ⟨rfl, rfl, rfl, rfl, rfl, rfl, rfl⟩
  have linked : next.Linked := by
    refine sound.linked.set found places ?_ nofun ?_ ?_ ?_
    all_goals rw [isReplaced]
    · split <;> exact nofun
    · split <;> trivial
    · split <;> exact Or.inl rfl
    · split <;> exact nofun
  obtain ⟨-, strongly, adjusts, isFirst, isLast, -, -, -⟩ := id totals
  rw [same.2.2.2.1] at strongly
  rw [same.2.2.2.2.1] at adjusts
  rw [same.2.2.2.2.2.1] at isFirst
  rw [same.2.2.2.2.2.2] at isLast
  simp only [Place.strongly, Place.adjusts, Place.isFirst, Place.isLast]
    at strongly adjusts isFirst isLast
  refine sound.of_weakly noFault linked totals ⟨same.1, same.2.1, same.2.2.1⟩ mWeak refsAlive ?_
    (iff_of_true (objectAlive.trans alive) ?_) fun isStrong => ?_
  · cases sound.mStrong with
    | fresh _ none => omega
    | first isCount only notLast notFirst =>
        rw [if_neg (by omega)] at isLast
        exact .first (by omega) (by omega) (by omega) (by omega)
    | counted isCount notAdjusts once => exact .counted (by omega) (by omega) (by omega)
  · split
    · exact refs
    · cases sound.mStrong with
      | fresh _ none => omega
      | first isCount only => omega
      | counted isCount =>
          split at isLast <;> omega
  · have notLast := last isStrong
    cases sound.mStrong with
    | fresh _ none => omega
    | first isCount only =>
        rw [if_neg (by omega)] at isLast
        omega
    | counted isCount =>
        split at isLast <;> omega

/-- A reference that deletes the object is left only when `mStrong` counts the `sp`. -/
theorem counted_of_isLast (sound : Sound lifetime state) (last : 0 < state.total Place.isLast) :
    state.mStrong ≠ initialStrongValue := by
  have bounds := sound.phase
  have initial := initialStrongValue_eq
  cases sound.mStrong <;> omega

/-- The second half of `decStrong`. -/
theorem lastStrong (sound : Sound lifetime state)
    (found : state.places[index]? = some .lastStrong)
    (advances : state.advance lifetime index allowed .lastStrong = some next) :
    Sound lifetime next := by
  have present := List.mem_of_getElem? found
  have one : 1 ≤ _ := le_total_of_mem present Place.isLast
  have refs := sound.refs_of_weakly present rfl
  have notInitial := sound.counted_of_isLast one
  have alive : state.objectAlive = true := by
    refine sound.objectAlive.mpr ?_
    split
    · exact refs
    · omega
  have places : next.places = state.places.set index .dropping := by
    cases advances
    cases lifetime <;> rfl
  obtain ⟨mStrong, firstRefs, mWeak⟩ : next.mStrong = state.mStrong ∧
      next.firstRefs = state.firstRefs ∧ next.mWeak = state.mWeak := by
    cases advances
    cases lifetime <;> exact ⟨rfl, rfl, rfl⟩
  have touched : (state.touch true).fault = false := sound.touch refs fun _ => alive
  obtain ⟨noFault, refsAlive, objectAlive⟩ : next.fault = false ∧
      next.refsAlive = state.refsAlive ∧
        next.objectAlive = decide (lifetime = .weak) := by
    cases advances
    cases lifetime with
    | weak => exact ⟨touched, rfl, alive⟩
    | strong =>
        refine ⟨?_, ?_, rfl⟩
        · change ((state.touch true).fault || !state.refsAlive || true && !state.objectAlive) =
            false
          rw [touched, refs, alive]
          rfl
        · change (state.refsAlive && !(state.mStrong = initialStrongValue || false)) = _
          simp [notInitial]
  have last := sound.last
  have totals := totals_set found places nofun
  have linked : next.Linked :=
    sound.linked.set found places (by rintro ⟨⟩) (by rintro ⟨⟩ ⟨⟩) trivial (Or.inl rfl)
      (by rintro _ ⟨⟩)
  obtain ⟨-, strongly, adjusts, isFirst, isLast, -, -, -⟩ := id totals
  simp only [Place.strongly, Place.adjusts, Place.isFirst, Place.isLast]
    at strongly adjusts isFirst isLast
  refine sound.of_weakly noFault linked totals ⟨rfl, rfl, rfl⟩ mWeak refsAlive ?_ ?_
    fun isStrong => ?_
  · cases sound.mStrong with
    | fresh _ _ notLast => omega
    | first _ _ notLast => omega
    | counted isCount notAdjusts once => exact .counted (by omega) (by omega) (by omega)
  · rw [objectAlive, mStrong]
    cases lifetime with
    | weak => exact iff_of_true rfl refs
    | strong =>
        have only := last rfl
        refine iff_of_false Bool.false_ne_true ?_
        rw [if_neg (by simp [notInitial])]
        omega
  · have only := last isStrong
    omega

/-- The first half of `decWeak`. -/
theorem dropping (sound : Sound lifetime state)
    (found : state.places[index]? = some .dropping)
    (advances : state.advance lifetime index allowed .dropping = some next) :
    Sound lifetime next := by
  obtain ⟨replaced, isReplaced, places⟩ : ∃ replaced : Place,
      replaced = (if state.mWeak = 1 then .lastWeak else .gone) ∧
        next.places = state.places.set index replaced := by
    cases advances
    exact ⟨_, rfl, rfl⟩
  obtain ⟨mWeak, firstRefs, objectAlive, refsAlive, mStrong⟩ :
      next.mWeak = toInt32 (state.mWeak + -1) ∧ next.firstRefs = state.firstRefs ∧
        next.objectAlive = state.objectAlive ∧ next.refsAlive = state.refsAlive ∧
        next.mStrong = state.mStrong := by
    cases advances
    exact ⟨rfl, rfl, rfl, rfl, rfl⟩
  have present := List.mem_of_getElem? found
  have refs := sound.refs_of_weakly present rfl
  have noFault : next.fault = false := by
    cases advances
    exact sound.touch refs nofun
  have one : 1 ≤ _ := le_total_of_mem present Place.weakly
  have bounds := sound.phase
  have isCount := sound.mWeak
  have ended := sound.ended
  have notCreates := sound.linked.creates_eq_zero present rfl
  rw [toInt32_eq_self_iff.mpr (by omega)] at mWeak
  have totals := totals_set found places nofun
  have same : replaced.weakly = 0 ∧ replaced.creates = 0 ∧ replaced.strongly = 0 ∧
      replaced.adjusts = 0 ∧ replaced.isFirst = 0 ∧ replaced.isLast = 0 ∧
      replaced.ends = if state.mWeak = 1 then 1 else 0 := by
    rw [isReplaced]
    split <;> exact ⟨rfl, rfl, rfl, rfl, rfl, rfl, rfl⟩
  have linked : next.Linked := by
    refine sound.linked.set found places ?_ nofun ?_ ?_ ?_
    all_goals rw [isReplaced]
    · split <;> exact nofun
    · split <;> trivial
    · split <;> exact Or.inl rfl
    · split <;> exact nofun
  obtain ⟨weakly, -, -, -, -, ends, creates, -⟩ := id totals
  rw [same.1] at weakly
  rw [same.2.1] at creates
  rw [same.2.2.2.2.2.2] at ends
  simp only [Place.weakly, Place.ends, Place.creates] at weakly ends creates
  refine sound.of_strongly noFault linked totals
    ⟨same.2.2.1, same.2.2.2.1, same.2.2.2.2.1, same.2.2.2.2.2.1⟩ mStrong objectAlive firstRefs
    refsAlive (by omega) ?_ (iff_of_true (refsAlive.trans refs) ?_)
  · split at ends <;> omega
  · split at ends <;> omega

/-- The second half of `decWeak`. -/
theorem lastWeak (sound : Sound lifetime state)
    (found : state.places[index]? = some .lastWeak)
    (advances : state.advance lifetime index allowed .lastWeak = some next) :
    Sound lifetime next := by
  have present := List.mem_of_getElem? found
  have one : 1 ≤ _ := le_total_of_mem present Place.ends
  obtain ⟨notWeakly, notCreates, only⟩ := sound.ended one
  have bounds := sound.phase
  have refs : state.refsAlive = true := sound.refsAlive.mpr (by omega)
  have initial := initialStrongValue_eq
  have isCount := sound.mWeak
  have places : next.places = state.places.set index .gone := by
    cases advances
    cases lifetime with
    | strong =>
        rw [State.endWeak]
        split <;> rfl
    | weak => rfl
  obtain ⟨mStrong, firstRefs, mWeak⟩ : next.mStrong = state.mStrong ∧
      next.firstRefs = state.firstRefs ∧ next.mWeak = state.mWeak := by
    cases advances
    cases lifetime with
    | strong =>
        rw [State.endWeak]
        split <;> exact ⟨rfl, rfl, rfl⟩
    | weak => exact ⟨rfl, rfl, rfl⟩
  obtain ⟨noFault, refsAlive, objectAlive⟩ : next.fault = false ∧ next.refsAlive = false ∧
      next.objectAlive = false := by
    cases advances
    have alive := sound.objectAlive
    cases lifetime with
    | strong =>
        rw [State.endWeak]
        split
        · rename_i isInitial
          rw [if_pos (Or.inr isInitial)] at alive
          refine ⟨sound.touch refs fun _ => alive.mpr refs, ?_, rfl⟩
          change (state.refsAlive &&
            !(decide (state.mStrong = initialStrongValue) || _)) = false
          simp [isInitial]
        · rename_i notInitial
          refine ⟨sound.touch refs nofun, rfl, ?_⟩
          change state.objectAlive = false
          rw [← Bool.not_eq_true, alive, if_neg (by simp [notInitial])]
          omega
    | weak =>
        rw [if_pos (Or.inl rfl)] at alive
        refine ⟨sound.touch refs fun _ => alive.mpr refs, ?_, rfl⟩
        have zero : state.mWeak = 0 := by omega
        change (state.refsAlive &&
          !(decide (state.mStrong = initialStrongValue) || true && decide (state.mWeak = 0))) =
            false
        simp [zero]
  have totals := totals_set found places nofun
  have linked := sound.linked.set found places nofun nofun trivial (Or.inl rfl) nofun
  obtain ⟨weakly, strongly, adjusts, isFirst, isLast, ends, creates, live⟩ := totals
  simp only [Place.weakly, Place.strongly, Place.adjusts, Place.isFirst, Place.isLast,
    Place.ends, Place.creates] at weakly strongly adjusts isFirst isLast ends creates
  refine ⟨noFault, Nat.lt_of_le_of_lt live sound.few, linked, by omega, ?_, by omega, ?_, ?_,
    by omega⟩
  · cases sound.mStrong with
    | fresh isInitial none notLast notFirst =>
        exact .fresh (by omega) (by omega) (by omega) (by omega)
    | first isCount one => omega
    | counted isCount none once => exact .counted (by omega) (by omega) (by omega)
  · exact iff_of_false (by simp [refsAlive]) (by omega)
  · refine iff_of_false (by simp [objectAlive]) ?_
    split
    · simp [refsAlive]
    · omega

/-- A copy is begun. -/
theorem copy (sound : Sound lifetime state) {kind : Kind} {source : Nat} {lender : Place}
    (isLender : state.places[source]? = some lender) (isFrom : kind.isFrom lender = true)
    (few : state.total Place.isLive + 1 < 2 ^ 28) :
    Sound lifetime { state with places := state.places ++ [.starting kind (some source)] } := by
  have lends := List.mem_of_getElem? isLender
  have notFresh : lender.isFresh = false := by
    cases kind <;> cases lender <;> first | rfl | cases isFrom
  have noFresh : ∀ place ∈ state.places, ¬place.isFresh = true := by
    intro place present isFresh
    have alone := (sound.linked.fresh place present isFresh).1
    rw [eq_of_length_one alone present lends, notFresh] at isFresh
    cases isFresh
  have totals : ∀ count : Place → Nat, count (.starting kind (some source)) = 0 →
      State.total { state with places := state.places ++ [.starting kind (some source)] }
        count = state.total count := by
    intro count nothing
    simp [total, nothing]
  have linked : State.Linked
      { state with places := state.places ++ [.starting kind (some source)] } := by
    have kept : ∀ {other : Nat} {place : Place}, state.places[other]? = some place →
        (state.places ++ [.starting kind (some source)])[other]? = some place := by
      intro other place found
      obtain ⟨inside, -⟩ := List.getElem?_eq_some_iff.mp found
      rw [List.getElem?_append_left inside]
      exact found
    refine ⟨fun place present isFresh => ?_, fun place present => ?_, fun curCount present => ?_⟩
    · obtain old | new := List.mem_append.mp present
      · exact absurd isFresh (noFresh place old)
      · rw [List.mem_singleton.mp new] at isFresh
        cases isFresh
    · obtain old | new := List.mem_append.mp present
      · have stays := sound.linked.stays place old
        cases place with
        | starting _ other =>
            cases other with
            | none => trivial
            | some other =>
                obtain ⟨found, isFound, fits⟩ := stays
                exact ⟨found, kept isFound, fits⟩
        | raising other =>
            cases other with
            | none => trivial
            | some other => exact kept stays
        | _ => trivial
      · rw [List.mem_singleton.mp new]
        exact ⟨lender, kept isLender, isFrom⟩
    · obtain old | new := List.mem_append.mp present
      · exact sound.linked.exchanging curCount old
      · cases List.mem_singleton.mp new
  have mStrong : State.StrongCount
      { state with places := state.places ++ [.starting kind (some source)] } := by
    cases sound.mStrong with
    | fresh isInitial none notLast notFirst =>
        refine .fresh isInitial ?_ ?_ ?_
        all_goals rw [totals _ rfl]
        · exact none
        · exact notLast
        · exact notFirst
    | first isCount one notLast notFirst =>
        refine .first ?_ ?_ ?_ ?_
        all_goals rw [totals _ rfl]
        · exact isCount
        · exact one
        · exact notLast
        · exact notFirst
    | counted isCount none once =>
        refine .counted ?_ ?_ ?_
        all_goals rw [totals _ rfl]
        · exact isCount
        · exact none
        · exact once
  refine ⟨sound.noFault, ?_, linked, ?_, mStrong, ?_, ?_, ?_, ?_⟩
  · simpa [total, Place.isLive] using few
  · rw [totals _ rfl]
    exact sound.mWeak
  · rw [totals _ rfl, totals _ rfl, totals _ rfl]
    exact sound.ended
  · rw [totals _ rfl, totals _ rfl, totals _ rfl]
    exact sound.refsAlive
  · rw [totals _ rfl, totals _ rfl]
    exact sound.objectAlive
  · rw [totals _ rfl, totals _ rfl]
    exact sound.last

/-- A reference is dropped. -/
theorem release (sound : Sound lifetime state) (unused : state.unused index = true)
    (found : state.places[index]? = some old)
    (isReplaced : old = .strong ∧ replaced = .releasing ∨ old = .weak ∧ replaced = .dropping) :
    Sound lifetime (state.placeAt index replaced) := by
  have present := List.mem_of_getElem? found
  have counts : old.weakly = 1 := by obtain ⟨rfl, -⟩ | ⟨rfl, -⟩ := isReplaced <;> rfl
  -- no access, and all is counted alike
  have refs := sound.refs_of_weakly present counts
  have same : state.touch false = state := by
    have unchanged : (state.fault || !state.refsAlive || false && !state.objectAlive) =
        state.fault := by
      rw [refs, sound.noFault]
      rfl
    rw [State.touch, unchanged]
  have moved : Sound lifetime ((state.touch false).placeAt index replaced) := by
    refine sound.goesOn found counts nofun ?_ (sound.linked.set found rfl ?_ (fun _ _ => unused)
      ?_ ?_ ?_)
    all_goals obtain ⟨rfl, rfl⟩ | ⟨rfl, rfl⟩ := isReplaced
    all_goals first
      | exact ⟨rfl, rfl, rfl, rfl, rfl, rfl, rfl⟩
      | trivial
      | exact nofun
  rw [same] at moved
  exact moved

theorem new (kind : Kind) : Sound lifetime (.new kind) := by
  have linked : State.Linked (.new kind) := by
    refine ⟨fun place present _ => ⟨rfl, rfl⟩, fun place present => ?_, fun curCount present => ?_⟩
    · rw [List.mem_singleton.mp present]
      trivial
    · cases List.mem_singleton.mp present
  refine ⟨rfl, (by decide : 1 < 2 ^ 28), linked, rfl, .fresh rfl rfl rfl rfl, nofun, ?_, ?_,
    fun _ => Or.inl rfl⟩
  · exact iff_of_true rfl (by decide : 0 < 0 + 0 + 1)
  · have isInitial : (State.new kind).mStrong = initialStrongValue := rfl
    refine iff_of_true rfl ?_
    rw [if_pos (Or.inr isInitial)]
    rfl

end Sound

/-- There are not too many references at a time, and `attemptIncStrong` that has read
`INITIAL_STRONG_VALUE` increments `mStrong` before all `sp` of other threads are gone. -/
def Fits (lifetime : Lifetime) (state : State) : Action → Prop
  | .copy _ _ => state.total Place.isLive + 1 < 2 ^ 28
  | .release _ => True
  | .advance index _ => lifetime = .strong → state.places[index]? = some .attempting →
      state.mStrong ≠ 0

instance (lifetime : Lifetime) (state : State) : DecidablePred (Fits lifetime state)
  | .copy _ _ => inferInstanceAs (Decidable (state.total Place.isLive + 1 < 2 ^ 28))
  | .release _ => isTrue trivial
  | .advance index _ => inferInstanceAs (Decidable (lifetime = .strong →
      state.places[index]? = some .attempting → state.mStrong ≠ 0))

theorem Sound.step (sound : Sound lifetime state) {action : Action}
    (fits : Fits lifetime state action) (stepped : state.step lifetime action = some next) :
    Sound lifetime next := by
  cases action with
  | copy source kind =>
      rw [State.step] at stepped
      split at stepped
      · obtain ⟨isFrom, same⟩ := Option.ite_none_right_eq_some.mp stepped
        cases same
        exact sound.copy (by assumption) isFrom fits
      · cases stepped
  | release index =>
      rw [State.step] at stepped
      obtain ⟨unused, same⟩ := Option.ite_none_right_eq_some.mp stepped
      split at same
      · cases same
        exact sound.release unused (by assumption) (Or.inl ⟨rfl, rfl⟩)
      · cases same
        exact sound.release unused (by assumption) (Or.inr ⟨rfl, rfl⟩)
      · cases same
  | advance index allowed =>
      obtain ⟨place, found, advances⟩ := Option.bind_eq_some_iff.mp stepped
      cases place with
      | starting kind source => exact sound.starting found advances
      | raising source => exact sound.raising found advances
      | adjusting => exact sound.adjusting found advances
      | firstRef => exact sound.firstRef found advances
      | loading => exact sound.loading found advances
      | exchanging curCount => exact sound.exchanging found advances
      | deciding curCount => exact sound.deciding found advances
      | attempting =>
          exact sound.attempting found (fun isStrong => fits isStrong found) advances
      | unneeded => exact sound.unneeded found advances
      | releasing => exact sound.releasing found advances
      | lastStrong => exact sound.lastStrong found advances
      | dropping => exact sound.dropping found advances
      | lastWeak => exact sound.lastWeak found advances
      | strong | weak | gone => cases advances

/-- After the increment of a count that was zero a reference to a deleted object is kept. -/
theorem not_sound_of_attempting (sound : Sound .strong state)
    (found : state.places[index]? = some .attempting) (zero : state.mStrong = 0)
    (advances : state.advance .strong index allowed .attempting = some next) :
    ¬Sound .strong next := by
  intro soundNext
  have places : next.places = state.places.set index .strong := by
    cases advances
    rw [zero]
    rfl
  have sameAlive : next.objectAlive = state.objectAlive := by
    cases advances
    rfl
  obtain ⟨inside, -⟩ := List.getElem?_eq_some_iff.mp found
  have present : Place.strong ∈ next.places := by
    rw [places]
    exact List.mem_set inside _
  have alive := soundNext.object_of_strongly present rfl
  rw [sameAlive, sound.objectAlive, zero, if_neg (by decide)] at alive
  have one : 1 ≤ _ := le_total_of_mem present Place.strongly
  have last := soundNext.last rfl
  have isLast := (totals_set found places nofun).isLast
  simp only [Place.isLast] at isLast
  have initial := initialStrongValue_eq
  have counted : state.total Place.strongly = 0 := by
    have bounds := sound.phase
    cases sound.mStrong <;> omega
  omega

/-- If there are never 2^28 references at a time and `attemptIncStrong` never increments a zero
count, in every reached state the counts are right, nothing that was destroyed was accessed, an
`sp` keeps the object and a `wp` keeps `mRefs`, both are destroyed once all references are
gone, and `onFirstRef` was called at most once.  An increment keeps this up iff the count is
not zero or the lifetime is extended. -/
theorem referencesKeep
    (lifetime : Lifetime) (state : State)
    (reached : (system lifetime).ReachableUnder (Fits lifetime) state) :
    Sound lifetime state ∧
      (Place.strong ∈ state.places → state.objectAlive = true) ∧
      (Place.weak ∈ state.places → state.refsAlive = true) ∧
      ((∀ place ∈ state.places, place = .gone) →
        state.objectAlive = false ∧ state.refsAlive = false) ∧
      state.firstRefs ≤ 1 ∧
      ∀ index allowed next, state.places[index]? = some .attempting →
        (system lifetime).step state (.advance index allowed) = some next →
        (Sound lifetime next ↔ (lifetime = .strong → state.mStrong ≠ 0)) := by
  have sound : Sound lifetime state := by
    refine reached.invariant ?_ fun state action next _ sound permitted stepped =>
      sound.step permitted stepped
    rintro state (rfl | rfl)
    · exact Sound.new .share
    · exact Sound.new .observe
  refine ⟨sound, fun present => sound.object_of_strongly present rfl,
    fun present => sound.refs_of_weakly present rfl, fun allGone => ?_, ?_,
    fun index allowed next found stepped => ⟨fun soundNext isStrong zero => ?_, fun positive => ?_⟩⟩
  · have nothing : ∀ count : Place → Nat, count .gone = 0 → state.total count = 0 := by
      intro count none
      refine List.sum_eq_zero fun size counted => ?_
      obtain ⟨place, present, rfl⟩ := List.mem_map.mp counted
      rw [allGone place present, none]
    have notRefs : state.refsAlive = false := by
      rw [← Bool.not_eq_true, sound.refsAlive, nothing _ rfl, nothing _ rfl, nothing _ rfl]
      decide
    refine ⟨?_, notRefs⟩
    rw [← Bool.not_eq_true, sound.objectAlive, notRefs, nothing _ rfl, nothing _ rfl]
    split <;> decide
  · cases sound.mStrong <;> omega
  · obtain ⟨place, isPlace, advances⟩ := Option.bind_eq_some_iff.mp stepped
    cases found.symm.trans isPlace
    cases isStrong
    exact not_sound_of_attempting sound found zero advances soundNext
  · have fits : Fits lifetime state (.advance index allowed) :=
      fun isStrong _ => positive isStrong
    exact sound.step fits stepped

/-- A `wp` is promoted, the `sp` is copied, and all are dropped. -/
theorem referencesKeep_promotion :
    ∃ state : State, Sound .strong state ∧ state.firstRefs = 1 ∧
      state.places = [.gone, .gone, .gone] ∧ state.objectAlive = false ∧
      state.refsAlive = false := by
  have run : ((system .strong).execUnder (Fits .strong) (.new .observe) [
      .advance 0 true, .copy 0 .promote, .advance 1 true, .advance 1 true, .advance 1 true,
      .advance 1 true, .advance 1 true, .advance 1 true, .copy 1 .share, .advance 2 true,
      .advance 2 true, .release 1, .advance 1 true, .advance 1 true, .release 2, .advance 2 true,
      .advance 2 true, .advance 2 true, .release 0, .advance 0 true, .advance 0 true]).map
        (fun state => decide (state.firstRefs = 1 ∧ state.places = [.gone, .gone, .gone])) =
      some true := by
    decide
  obtain ⟨state, reached, isEnd⟩ := Machine.ReachableUnder.exists_of_execUnder
    (.initial (Or.inr rfl)) run
  obtain ⟨once, isPlaces⟩ := of_decide_eq_true isEnd
  obtain ⟨sound, -, -, ends, -⟩ := referencesKeep .strong state reached
  refine ⟨state, sound, once, isPlaces, ends ?_⟩
  rw [isPlaces]
  decide

end State
end RefBase
end Skplat
