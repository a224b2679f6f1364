import Skplat.RangeDownload.Downloader

/-!
# Resuming a download

`threadLoop` adds the size of the part file to `mRg.begin` in every run, although the
size counts from the first byte of the range.  So a run asks for the right bytes only
as long as no earlier run found a part file that is not empty, and the test for a
complete file is wrong in the same cases.  A stream that ends early counts as success.
-/

namespace Skplat
namespace RangeDownload

/-- The stream ends before that many bytes, without an error. -/
def Answer.ClosesEarly (count : Nat) : Answer → Prop
  | .answered first pieces .closed => (first ++ pieces.flatten).length < count
  | _ => False

/-- The request fails before any byte. -/
def Answer.FailsAtOnce (answer : Answer) : Prop :=
  answer = .refused ∨ answer = .answered [] [] .failed

instance (count : Nat) : DecidablePred (Answer.ClosesEarly count) := fun answer =>
  match answer with
  | .answered first pieces .closed =>
      inferInstanceAs (Decidable ((first ++ pieces.flatten).length < count))
  | .answered _ _ .failed | .refused => inferInstanceAs (Decidable False)

instance (answer : Answer) : Decidable answer.FailsAtOnce :=
  inferInstanceAs (Decidable (_ ∨ _))

namespace Downloader

/-- The part file is complete already; or `mRg.begin` is still the first byte of the
range, the numbers of the request fit into an `int`, and the server does not close
early; or the file does not seem complete, and the request fails before any byte. -/
def Resumable (wanted : Wanted) (downloader : Downloader) (answer : Answer) : Prop :=
  downloader.file.length = wanted.content.length ∨
    (downloader.begin = wanted.b ∧ wanted.e < 2 ^ 31 ∧
      ¬answer.ClosesEarly (wanted.content.length - downloader.file.length)) ∨
    (¬downloader.seemsComplete wanted ∧ answer.FailsAtOnce)

instance (wanted : Wanted) (downloader : Downloader) :
    DecidablePred (downloader.Resumable wanted) := fun _ =>
  inferInstanceAs (Decidable (_ ∨ _ ∨ _))

end Downloader

/-! ## What a transfer appends -/

variable {file result : List UInt8} {ok : Bool} {ending : Ending}

/-- `commonReader` appends what is read, and returns `OK` at the end. -/
theorem commonReader_appends
    {count nrecved : Nat}
    {pieces : List (List UInt8)}
    (returned : commonReader count ending file nrecved pieces = some (result, ok)) :
    ∃ got, result = file ++ got ∧ got <+: pieces.flatten ∧
      (ok = true → count ≤ nrecved + got.length ∨
        (ending = .closed ∧ got = pieces.flatten)) := by
  induction pieces generalizing file nrecved with
  | nil =>
      rw [commonReader] at returned
      split at returned
      · cases returned
        refine ⟨[], (List.append_nil _).symm, List.nil_prefix, fun ends => ?_⟩
        exact Or.inr ⟨by simpa using ends, rfl⟩
      · rename_i enough
        cases returned
        refine ⟨[], (List.append_nil _).symm, List.nil_prefix, fun _ => ?_⟩
        exact Or.inl (Nat.le_of_not_lt enough)
  | cons piece rest inductionHypothesis =>
      rw [commonReader] at returned
      split at returned
      · rw [Option.ite_none_right_eq_some] at returned
        obtain ⟨got, appended, read, ends⟩ := inductionHypothesis returned.2
        refine ⟨piece ++ got, ?_, ?_, fun isOk => ?_⟩
        · rw [appended, List.append_assoc]
        · rw [List.flatten_cons]
          exact (List.prefix_append_right_inj piece).mpr read
        · rcases ends isOk with enough | ⟨closed, all⟩
          · left
            rw [List.length_append]
            omega
          · exact Or.inr ⟨closed, by rw [all, List.flatten_cons]⟩
      · rename_i enough
        cases returned
        refine ⟨[], (List.append_nil _).symm, List.nil_prefix, fun _ => ?_⟩
        exact Or.inl (Nat.le_of_not_lt enough)

/-- A child download appends a prefix of what was asked for, and all of it if it
succeeds and the server does not close early. -/
theorem childDownload_appends
    {count : Nat}
    {first all : List UInt8}
    {pieces : List (List UInt8)}
    (returned : childDownload file count first pieces ending = some (result, ok))
    (sent : first ++ pieces.flatten <+: all)
    (size : all.length = count) :
    ∃ got, result = file ++ got ∧ got <+: all ∧
      (ok = true → ¬(Answer.answered first pieces ending).ClosesEarly count →
        got = all) := by
  rw [childDownload] at returned
  split at returned
  · rename_i enough
    cases returned
    have start : first <+: all := (List.prefix_append _ _).trans sent
    refine ⟨first, rfl, start, fun _ _ => ?_⟩
    exact start.eq_of_length_le (size ▸ enough.2)
  · obtain ⟨got, appended, read, ends⟩ := commonReader_appends returned
    have start : first ++ got <+: all :=
      ((List.prefix_append_right_inj first).mpr read).trans sent
    refine ⟨first ++ got, by rw [appended, List.append_assoc], start,
      fun isOk notEarly => ?_⟩
    apply start.eq_of_length_le
    rw [size, List.length_append]
    rcases ends isOk with enough | ⟨closed, everything⟩
    · omega
    · subst closed everything
      simp only [Answer.ClosesEarly, List.length_append] at notEarly
      omega

/-! ## What is requested -/

namespace Wanted

variable (wanted : Wanted)

theorem length_bytes {first : Nat} :
    (wanted.bytes first wanted.e).length = wanted.e + 1 - first := by
  have inside := wanted.inside
  rw [bytes, List.length_take, List.length_drop]
  omega

theorem length_content : wanted.content.length = wanted.e + 1 - wanted.b :=
  wanted.length_bytes

/-- The rest of the range. -/
theorem bytes_add (size : Nat) :
    wanted.bytes (wanted.b + size) wanted.e = wanted.content.drop size := by
  rw [content, bytes, bytes, List.drop_take, List.drop_drop]
  congr 1
  omega

end Wanted

theorem printed_of_lt {number : Nat} (small : number < 2 ^ 31) :
    printed number = number :=
  Int.bmod_eq_of_le (by omega) (by omega)

theorem le_of_requested
    {wanted : Wanted} {begin low high : Nat}
    (asked : requested wanted begin = some (low, high)) :
    low ≤ high := by
  rw [requested, Option.ite_none_right_eq_some, Option.some.injEq, Prod.mk.injEq]
    at asked
  obtain ⟨⟨-, below, -⟩, isLow, isHigh⟩ := asked
  rw [← isLow, ← isHigh]
  exact Int.toNat_le_toNat below

theorem requested_of_lt
    {wanted : Wanted} {begin : Nat}
    (small : wanted.e < 2 ^ 31)
    (below : begin ≤ wanted.e) :
    requested wanted begin = some (begin, wanted.e) := by
  have inside := wanted.inside
  have smallBegin : begin < 2 ^ 31 := by omega
  rw [requested, printed_of_lt small, printed_of_lt smallBegin,
    if_pos ⟨by omega, by omega, by omega⟩, Int.toNat_natCast, Int.toNat_natCast]

/-! ## Whole histories -/

namespace Downloader

/-- What holds between the runs. -/
structure Sound (wanted : Wanted) (downloader : Downloader) : Prop where
  advanced : wanted.b ≤ downloader.begin
  isPrefix : downloader.file <+: wanted.content
  reported : downloader.completed = true → downloader.state = .rangeDone
  completed : downloader.completed = true → downloader.file = wanted.content

variable {wanted : Wanted} {downloader next : Downloader} {answer : Answer}

namespace Sound

/-- A complete file is reported. -/
theorem complete
    (sound : downloader.Sound wanted)
    (whole : wanted.content.length ≤ downloader.file.length) :
    downloader.complete.Sound wanted where
  advanced := sound.advanced
  isPrefix := sound.isPrefix
  reported := fun _ => rfl
  completed := fun _ => sound.isPrefix.eq_of_length_le whole

/-- A failed run is not reported as complete. -/
theorem fail
    (sound : downloader.Sound wanted)
    (fresh : downloader.completed = false) :
    downloader.fail.Sound wanted where
  advanced := sound.advanced
  isPrefix := sound.isPrefix
  reported := fun completed => by
    have reported : downloader.completed = true := completed
    simp [fresh] at reported
  completed := sound.completed

/-- The transfer of the rest of the range. -/
theorem doRangeDownload
    (sound : downloader.Sound wanted)
    (fresh : downloader.completed = false)
    (resumed : downloader.begin = wanted.b + downloader.file.length)
    (asked : requested wanted downloader.begin = some (downloader.begin, wanted.e))
    (notEarly :
      ¬answer.ClosesEarly (wanted.content.length - downloader.file.length))
    (stepped : downloader.doRangeDownload wanted answer = some next) :
    next.Sound wanted := by
  cases answer with
  | refused =>
      cases stepped
      exact sound.fail fresh
  | answered first pieces ending =>
      rw [Downloader.doRangeDownload, asked, Option.bind_some,
        Option.ite_none_right_eq_some] at stepped
      obtain ⟨sent, transferred⟩ := stepped
      obtain ⟨⟨file, ok⟩, returned, rfl⟩ := Option.map_eq_some_iff.mp transferred
      have size : (wanted.bytes downloader.begin wanted.e).length =
          wanted.e + 1 - downloader.begin := wanted.length_bytes
      have rest : wanted.bytes downloader.begin wanted.e =
          wanted.content.drop downloader.file.length := by
        rw [resumed, wanted.bytes_add]
      have missing : wanted.content.length - downloader.file.length =
          wanted.e + 1 - downloader.begin := by
        rw [← size, rest, List.length_drop]
      obtain ⟨got, appended, start, whole⟩ := childDownload_appends returned sent size
      rw [missing] at notEarly
      have joined : downloader.file ++ wanted.content.drop downloader.file.length =
          wanted.content := List.prefix_iff_eq_append.mp sound.isPrefix
      have stillPrefix : file <+: wanted.content := by
        have extended := (List.prefix_append_right_inj downloader.file).mpr start
        rw [rest, joined, ← appended] at extended
        exact extended
      have received : { downloader with file := file }.Sound wanted := by
        refine ⟨sound.advanced, stillPrefix, sound.reported, fun completed => ?_⟩
        have reported : downloader.completed = true := completed
        simp [fresh] at reported
      cases ok with
      | true =>
          apply received.complete
          have all := whole rfl notEarly
          rw [all, rest, joined] at appended
          exact Nat.le_of_eq (congrArg List.length appended).symm
      | false => exact received.fail fresh

/-- A request that fails before any byte leaves the file alone. -/
theorem failsAtOnce
    (sound : downloader.Sound wanted)
    (fresh : downloader.completed = false)
    (fails : answer.FailsAtOnce)
    (stepped : downloader.doRangeDownload wanted answer = some next) :
    next.Sound wanted := by
  rcases fails with rfl | rfl
  · cases stepped
    exact sound.fail fresh
  · rw [Downloader.doRangeDownload, Option.bind_eq_some_iff] at stepped
    obtain ⟨⟨low, high⟩, asked, answered⟩ := stepped
    have ordered := le_of_requested asked
    have nothing : childDownload downloader.file (high + 1 - low) [] [] .failed =
        some (downloader.file, false) := by
      have positive : 0 < high + 1 - low := by omega
      simp [childDownload, commonReader, positive]
    rw [Option.ite_none_right_eq_some, nothing] at answered
    obtain ⟨-, shape⟩ := answered
    cases shape
    exact sound.fail fresh

/-- One run that can be resumed. -/
theorem step
    (sound : downloader.Sound wanted)
    (resumable : downloader.Resumable wanted answer)
    (stepped : downloader.step wanted answer = some next) :
    next.Sound wanted := by
  simp only [Downloader.step, Option.ite_none_left_eq_some] at stepped
  obtain ⟨going, stepped⟩ := stepped
  have fresh : downloader.completed = false := by
    by_contra completed
    exact going (sound.reported (by simpa using completed))
  have size := wanted.length_content
  have ordered := wanted.ordered
  have advanced := sound.advanced
  have isReset : downloader.reset.Sound wanted :=
    ⟨sound.advanced, sound.isPrefix, by simp [reset, fresh], sound.completed⟩
  rw [threadLoop] at stepped
  by_cases seems : downloader.reset.seemsComplete wanted
  · rw [if_pos seems] at stepped
    cases stepped
    have long : (downloader.file.length : Int) ≥ wanted.e - downloader.begin + 1 :=
      seems
    have whole : wanted.content.length ≤ downloader.file.length := by
      rcases resumable with already | ⟨atStart, -⟩ | ⟨incomplete, -⟩
      · exact Nat.le_of_eq already.symm
      · omega
      · exact absurd seems incomplete
    exact isReset.complete whole
  · rw [if_neg seems] at stepped
    have short : (downloader.file.length : Int) < wanted.e - downloader.begin + 1 :=
      Int.not_le.mp seems
    have moved : { downloader.reset with
        begin := downloader.begin + downloader.file.length }.Sound wanted :=
      ⟨Nat.le_trans advanced (Nat.le_add_right _ _), isReset.isPrefix, isReset.reported,
        isReset.completed⟩
    rcases resumable with whole | ⟨atStart, small, notEarly⟩ | ⟨-, fails⟩
    · omega
    · have below : downloader.begin + downloader.file.length ≤ wanted.e := by omega
      exact moved.doRangeDownload fresh (congrArg (· + downloader.file.length) atStart)
        (requested_of_lt small below) notEarly stepped
    · exact moved.failsAtOnce fresh fails stepped

end Sound
end Downloader

/-- In every history whose runs can all be resumed, the part file is complete when
`onComplete` is called. -/
theorem complete_of_resumable
    (wanted : Wanted)
    {downloader : Downloader}
    (reached : (system wanted).ReachableUnder (Downloader.Resumable wanted) downloader)
    (completed : downloader.completed = true) :
    downloader.file = wanted.content := by
  have sound : downloader.Sound wanted := by
    refine reached.invariant ?_ ?_
    · rintro start ⟨file, isPrefix, rfl⟩
      exact ⟨Nat.le_refl _, isPrefix, by simp [Downloader.new], by simp [Downloader.new]⟩
    · intro downloader answer next _ sound resumable stepped
      exact sound.step resumable stepped
  exact sound.completed completed

/-- Six bytes of a resource of eight. -/
def sixBytes : Wanted where
  resource := [0, 1, 2, 3, 4, 5, 6, 7]
  b := 1
  e := 6
  ordered := by decide
  inside := by decide

/-- A first run fails after two bytes, and a second one completes the file. -/
theorem complete_secondRun :
    ∃ downloader, (system sixBytes).ReachableUnder (Downloader.Resumable sixBytes)
        downloader ∧
      downloader.completed = true ∧ downloader.file = sixBytes.content := by
  obtain ⟨downloader, reached, completed⟩ :=
    Machine.ReachableUnder.exists_of_execUnder
      (.initial ⟨[], List.nil_prefix, rfl⟩ :
        (system sixBytes).ReachableUnder (Downloader.Resumable sixBytes)
          (.new sixBytes []))
      (by decide +kernel : ((system sixBytes).execUnder
        (Downloader.Resumable sixBytes) (.new sixBytes [])
          [.answered [1] [[2]] .failed, .answered [] [[3, 4], [5, 6]] .closed]).map
            (fun downloader => downloader.completed) = some true)
  exact ⟨downloader, reached, completed,
    complete_of_resumable sixBytes reached completed⟩

/-- A download that found one byte fails after one more, and the next run misses a
byte.  A download whose server closes at once is complete with an empty file. -/
theorem incomplete_secondRun :
    (∃ downloader, (system sixBytes).exec (.new sixBytes [1])
        [.answered [2] [] .failed, .answered [4] [[5, 6]] .closed] =
          some downloader ∧
      (system sixBytes).Reachable downloader ∧ downloader.completed = true ∧
      downloader.file = [1, 2, 4, 5, 6] ∧ downloader.file ≠ sixBytes.content) ∧
    ∃ downloader, (system sixBytes).exec (.new sixBytes [])
        [.answered [] [] .closed] = some downloader ∧
      (system sixBytes).Reachable downloader ∧ downloader.completed = true ∧
      downloader.file = [] ∧ downloader.file ≠ sixBytes.content := by
  constructor
  · obtain ⟨downloader, executed, reached, holds⟩ := Machine.exists_reachable_of_exec
      (show (system sixBytes).initial (.new sixBytes [1]) from
        ⟨[1], by decide, rfl⟩)
      (by decide +kernel : ((system sixBytes).exec (.new sixBytes [1])
        [.answered [2] [] .failed, .answered [4] [[5, 6]] .closed]).map
          (fun downloader => downloader.completed &&
            downloader.file == [1, 2, 4, 5, 6]) = some true)
    rw [Bool.and_eq_true, beq_iff_eq] at holds
    exact ⟨downloader, executed, reached, holds.1, holds.2, by
      rw [holds.2]
      decide⟩
  · obtain ⟨downloader, executed, reached, holds⟩ := Machine.exists_reachable_of_exec
      (show (system sixBytes).initial (.new sixBytes []) from
        ⟨[], List.nil_prefix, rfl⟩)
      (by decide +kernel : ((system sixBytes).exec (.new sixBytes [])
        [.answered [] [] .closed]).map
          (fun downloader => downloader.completed && downloader.file == []) =
            some true)
    rw [Bool.and_eq_true, beq_iff_eq] at holds
    exact ⟨downloader, executed, reached, holds.1, holds.2, by
      rw [holds.2]
      decide⟩

end RangeDownload
end Skplat
