import Skplat.Data.Numeral
import Skplat.Http.HeaderParser
import Skplat.HttpTransfer.Defs

/-!
# The status line of an answer

`parseStatus` looks for the end of the first line and stores its words in an array of four.
The loop ends at a carriage return, or before a line feed.  A word is stored at each space
and at the end of the line, and there is no test that the array has room for it.
-/

namespace Skplat
namespace HttpTransfer

open CString Http
open Numeral (atoi byteValue)

/-- The members of `HttpResponse` that `parseStatus` assigns. -/
structure HttpResponse where
  mStatus : List UInt8
  mStatusCode : Int
  mProto : List UInt8
  mProtoMajor : Int
  mProtoMinor : Int
  deriving DecidableEq, Repr

/-- The variables of the loop. -/
structure Scan where
  i : Nat
  begin : Nat
  /-- What is stored from `sArray[0]` on; `j` is how much that is. -/
  sArray : List (List UInt8)
  deriving DecidableEq, Repr

/-- `buff[index]`, where the index is an `int`. -/
def byteAt (buff : List UInt8) (index : Nat) : Option UInt8 :=
  if index < 2 ^ 31 then buff[index]? else none

/-- `trim(s, begin, end)`. -/
def trimFrom (s : List UInt8) (begin bound : Nat) : List UInt8 :=
  strip ((s.take bound).drop begin)

/-- `sArray[j++] = ::trim(buff,begin,i)`. -/
def Scan.store (buff : List UInt8) (scan : Scan) : Scan :=
  { scan with sArray := scan.sArray ++ [trimFrom buff scan.begin scan.i] }

/-- The condition of the loop. -/
def goesOn (buff : List UInt8) (i : Nat) : Option Bool := do
  let byte ← byteAt buff i
  if byte = 13 then some false
  else
    let next ← byteAt buff (i + 1)
    some (decide (next ≠ 10))

/-- The body of the loop. -/
def Scan.step (buff : List UInt8) (scan : Scan) : Option Scan := do
  let byte ← byteAt buff scan.i
  let scan := if byte = 32 then { scan.store buff with begin := scan.i } else scan
  let scan := { scan with i := scan.i + 1 }
  let byte ← byteAt buff scan.i
  if byte = 13 then
    let next ← byteAt buff (scan.i + 1)
    some (if next = 10 then scan.store buff else scan)
  else some scan

/-- The loop, for at most as many passes as `fuel` says. -/
def scanLoop (buff : List UInt8) : Nat → Scan → Option Scan
  | 0, _ => none
  | fuel + 1, scan => do
      if ← goesOn buff scan.i then
        let next ← scan.step buff
        scanLoop buff fuel next
      else some scan

/-- What the loop ends with, or none if it reads behind the buffer or counts too far. -/
def scanStatus (buff : List UInt8) : Option Scan :=
  scanLoop buff buff.length { i := 0, begin := 0, sArray := [] }

/-- The size of `sArray`. -/
def sArraySize : Nat := 4

/-- What `parseHttpVersion` does. -/
structure HttpVersion where
  /-- What it returns, if it does not run into its end. -/
  result : Option Int
  major : Int
  minor : Int
  deriving DecidableEq, Repr

/-- `parseHttpVersion`, or none if it reads in front of the string.  Nothing is returned
for a version with a dot that is neither 1.1 nor 1.0. -/
def parseHttpVersion (version : List UInt8) : Option HttpVersion :=
  if (strstr (ascii "HTTP/1.1") version).isSome then
    some { result := some ok, major := 1, minor := 1 }
  else if (strstr (ascii "HTTP/1.0") version).isSome then
    some { result := some ok, major := 1, minor := 0 }
  else
    match strstr (ascii ".") version with
    | some 0 => none
    | some (before + 1) =>
        some {
          result := none
          major := atoi (version.drop before)
          minor := atoi (version.drop (before + 2)) }
    | none => some { result := some badValue, major := 0, minor := 0 }

/-- `parseStatus`, or none if it leaves a buffer or an array, or uses a value that was not
returned. -/
def parseStatus (buff : List UInt8) (response : HttpResponse) :
    Option (Int × HttpResponse) := do
  let scan ← scanStatus buff
  if sArraySize < scan.sArray.length then none
  else
    let proto := scan.sArray.getD 0 []
    let code := scan.sArray.getD 1 []
    let reason := scan.sArray.getD 2 []
    if reason = [] then some (badValue, response)
    else if code.length ≠ 3 then some (badValue, response)
    else
      let response := { response with
        mProto := proto
        mStatusCode := atoi (cstr code)
        mStatus := code ++ ascii " " ++ reason }
      if response.mStatusCode < 0 then some (badValue, response)
      else
        let version ← parseHttpVersion (cstr proto)
        let response := { response with
          mProtoMajor := version.major
          mProtoMinor := version.minor }
        let result ← version.result
        some (if result = badValue then badValue else ok, response)

/-! ## What the loop passes and stores -/

/-- The loop ends in front of this. -/
def endsBefore : List UInt8 → Bool
  | 13 :: _ => true
  | _ :: 10 :: _ => true
  | _ => false

/-- The part of a text that the loop passes. -/
def passed : List UInt8 → List UInt8
  | [] => []
  | byte :: rest => if endsBefore (byte :: rest) then [] else byte :: passed rest

/-- What the loop has read since the last space, after one more byte. -/
def extend (piece : List UInt8) (byte : UInt8) : List UInt8 :=
  if byte = 32 then [32] else piece ++ [byte]

/-- What one pass stores. -/
def storedAt (piece : List UInt8) (byte : UInt8) (rest : List UInt8) : List (List UInt8) :=
  (if byte = 32 then [strip piece] else []) ++
    if [13, 10] <+: rest then [strip (extend piece byte)] else []

/-- What the loop stores while it passes a text. -/
def storedOf (piece : List UInt8) : List UInt8 → List (List UInt8)
  | [] => []
  | byte :: rest =>
      if endsBefore (byte :: rest) then []
      else storedAt piece byte rest ++ storedOf (extend piece byte) rest

variable {front rest line piece : List UInt8} {byte : UInt8} {fuel begin : Nat}
variable {stored : List (List UInt8)}

theorem byteAt_length (inside : front.length < 2 ^ 31) (rest : List UInt8) :
    byteAt (front ++ rest) front.length = rest.head? := by
  rw [byteAt, if_pos inside, List.getElem?_append_right (Nat.le_refl _), Nat.sub_self,
    List.head?_eq_getElem?]

theorem byteAt_length_succ (inside : front.length + 1 < 2 ^ 31) :
    byteAt (front ++ byte :: rest) (front.length + 1) = rest.head? := by
  have shifted : byteAt ((front ++ [byte]) ++ rest) (front ++ [byte]).length = rest.head? :=
    byteAt_length (by simpa using inside) rest
  simpa using shifted

theorem byteAt_outside (buff : List UInt8) {index : Nat} (outside : 2 ^ 31 ≤ index) :
    byteAt buff index = none :=
  if_neg (Nat.not_lt.mpr outside)

/-- A text that ends in a line end goes on behind a byte that is not a carriage return. -/
theorem exists_next_of_crlf
    (hasLineEnd : [13, 10] <:+: byte :: rest) (notReturn : byte ≠ 13) :
    [13, 10] <:+: rest ∧ ∃ next more, rest = next :: more := by
  have later : [13, 10] <:+: rest := by
    rcases List.infix_cons_iff.mp hasLineEnd with here | later
    · exact absurd (List.cons_prefix_cons.mp here).1.symm notReturn
    · exact later
  refine ⟨later, List.exists_cons_of_ne_nil ?_⟩
  rintro rfl
  cases List.infix_nil.mp later

theorem endsBefore_cons_cons (notReturn : byte ≠ 13) (next : UInt8) (more : List UInt8) :
    endsBefore (byte :: next :: more) = decide (next = 10) := by
  unfold endsBefore
  split
  · rename_i same
    exact absurd (List.cons.inj same).1 notReturn
  · rename_i same
    rw [(List.cons.inj (List.cons.inj same).2).1]
    rfl
  · rename_i noFeed
    refine (decide_eq_false ?_).symm
    rintro rfl
    exact noFeed byte more rfl

theorem goesOn_eq
    (inside : front.length + 1 < 2 ^ 31) (hasLineEnd : [13, 10] <:+: byte :: rest) :
    goesOn (front ++ byte :: rest) front.length = some (!endsBefore (byte :: rest)) := by
  rw [goesOn, byteAt_length (by omega), byteAt_length_succ inside, List.head?_cons]
  by_cases isReturn : byte = 13
  · subst isReturn
    rfl
  · obtain ⟨_, next, more, rfl⟩ := exists_next_of_crlf hasLineEnd isReturn
    rw [endsBefore_cons_cons isReturn]
    simp [isReturn]

/-- Where the next word begins after a byte. -/
def beginAfter (byte : UInt8) (position begin : Nat) : Nat :=
  if byte = 32 then position else begin

theorem drop_beginAfter (inside : begin ≤ front.length) (byte : UInt8) :
    (front ++ [byte]).drop (beginAfter byte front.length begin) =
      extend (front.drop begin) byte := by
  unfold beginAfter extend
  split
  · rename_i space
    rw [List.drop_left, space]
  · rw [List.drop_append_of_le_length inside]

theorem trimFrom_length (front rest : List UInt8) (begin : Nat) :
    trimFrom (front ++ rest) begin front.length = strip (front.drop begin) := by
  rw [trimFrom, List.take_left]

/-- The word that ends behind one more byte. -/
theorem trimFrom_length_succ
    (valid : begin ≤ front.length) (byte : UInt8) (rest : List UInt8) :
    trimFrom (front ++ byte :: rest) (beginAfter byte front.length begin) (front.length + 1) =
      strip (extend (front.drop begin) byte) := by
  have shifted := trimFrom_length (front ++ [byte]) rest (beginAfter byte front.length begin)
  rw [drop_beginAfter valid] at shifted
  simpa using shifted

/-- A space stores the word in front of it. -/
theorem store_at_space
    (front rest : List UInt8) (byte : UInt8) (begin : Nat) (stored : List (List UInt8)) :
    (if byte = 32 then
      { Scan.store (front ++ byte :: rest)
          { i := front.length, begin := begin, sArray := stored } with
        begin := front.length }
    else { i := front.length, begin := begin, sArray := stored } : Scan) =
      { i := front.length
        begin := beginAfter byte front.length begin
        sArray := stored ++ if byte = 32 then [strip (front.drop begin)] else [] } := by
  unfold Scan.store beginAfter
  split
  · rw [trimFrom_length]
  · rw [List.append_nil]

/-- One pass of the loop. -/
theorem step_eq
    (inside : front.length + 2 < 2 ^ 31) (valid : begin ≤ front.length)
    (hasLineEnd : [13, 10] <:+: rest) :
    Scan.step (front ++ byte :: rest)
        { i := front.length, begin := begin, sArray := stored } =
      some {
        i := front.length + 1
        begin := beginAfter byte front.length begin
        sArray := stored ++ storedAt (front.drop begin) byte rest } := by
  obtain ⟨next, more, rfl⟩ : ∃ next more, rest = next :: more := by
    refine List.exists_cons_of_ne_nil ?_
    rintro rfl
    cases List.infix_nil.mp hasLineEnd
  have nextByte : byteAt (front ++ byte :: next :: more) (front.length + 1) = some next :=
    byteAt_length_succ (by omega)
  have lastByte : byteAt (front ++ byte :: next :: more) (front.length + 1 + 1) =
      more.head? := by
    have shifted : byteAt ((front ++ [byte]) ++ next :: more)
        ((front ++ [byte]).length + 1) = more.head? :=
      byteAt_length_succ (by rw [List.length_append, List.length_singleton]; omega)
    simpa using shifted
  have isLineEnd : [13, 10] <+: next :: more ↔ next = 13 ∧ more.head? = some 10 := by
    rw [List.cons_prefix_cons, List.singleton_prefix_iff_head?_eq_some, eq_comm]
  rw [Scan.step, byteAt_length (by omega), List.head?_cons, Option.bind_eq_bind,
    Option.bind_some, store_at_space]
  dsimp only
  rw [nextByte, Option.bind_some, lastByte, storedAt, ← List.append_assoc]
  by_cases isReturn : next = 13
  · obtain ⟨last, others, rfl⟩ : ∃ last others, more = last :: others := by
      refine List.exists_cons_of_ne_nil ?_
      rintro rfl
      have lengths := hasLineEnd.length_le
      simp at lengths
    rw [if_pos isReturn, List.head?_cons, Option.bind_some]
    by_cases isFeed : last = 10
    · rw [if_pos isFeed, if_pos (isLineEnd.mpr ⟨isReturn, congrArg some isFeed⟩), Scan.store,
        trimFrom_length_succ valid]
    · rw [if_neg isFeed, if_neg fun lineEnd =>
        isFeed (Option.some.inj (isLineEnd.mp lineEnd).2), List.append_nil]
  · rw [if_neg isReturn, if_neg fun lineEnd => isReturn (isLineEnd.mp lineEnd).1,
      List.append_nil]

theorem ne_return_of_goes (goes : endsBefore (byte :: rest) = false) : byte ≠ 13 := by
  rintro rfl
  cases goes

/-- A pass whose indices become larger than an `int`. -/
theorem scanLoop_outside
    (inside : front.length + 1 < 2 ^ 31) (outside : 2 ^ 31 ≤ front.length + 2)
    (goes : endsBefore (byte :: rest) = false) (hasLineEnd : [13, 10] <:+: byte :: rest) :
    scanLoop (front ++ byte :: rest) fuel
      { i := front.length, begin := begin, sArray := stored } = none := by
  obtain ⟨_, next, more, rfl⟩ := exists_next_of_crlf hasLineEnd (ne_return_of_goes goes)
  have nextByte : byteAt (front ++ byte :: next :: more) (front.length + 1) = some next :=
    byteAt_length_succ inside
  have lastByte : byteAt (front ++ byte :: next :: more) (front.length + 1 + 1) = none :=
    byteAt_outside _ outside
  cases fuel with
  | zero => rfl
  | succ fuel =>
      rw [scanLoop, goesOn_eq inside hasLineEnd, goes]
      change (Scan.step _ _).bind _ = none
      rw [Option.bind_eq_none_iff]
      intro after stepped
      -- the pass has seen that the next byte is not a carriage return
      have seen : next ≠ 13 ∧ after.i = front.length + 1 := by
        rw [Scan.step, byteAt_length (by omega), List.head?_cons, Option.bind_eq_bind,
          Option.bind_some, store_at_space] at stepped
        dsimp only at stepped
        rw [nextByte, Option.bind_some, lastByte] at stepped
        split at stepped
        · cases stepped
        · rename_i notReturn
          exact ⟨notReturn, (Option.some.inj stepped) ▸ rfl⟩
      cases fuel with
      | zero => rfl
      | succ fuel =>
          rw [scanLoop, seen.2, goesOn, nextByte, lastByte]
          simp [seen.1]

/-- The loop ends where it has passed all that it can pass. -/
theorem scanLoop_eq
    (enough : rest.length ≤ fuel) (inside : front.length + 1 < 2 ^ 31)
    (valid : begin ≤ front.length) (hasLineEnd : [13, 10] <:+: rest) :
    (scanLoop (front ++ rest) fuel
        { i := front.length, begin := begin, sArray := stored }).map
        (fun scan => (scan.i, scan.sArray)) =
      if front.length + (passed rest).length + 1 < 2 ^ 31 then
        some (front.length + (passed rest).length,
          stored ++ storedOf (front.drop begin) rest)
      else none := by
  induction rest generalizing front fuel begin stored with
  | nil => cases List.infix_nil.mp hasLineEnd
  | cons byte rest inductionHypothesis =>
      obtain ⟨fuel, rfl⟩ : ∃ less, fuel = less + 1 :=
        Nat.exists_eq_succ_of_ne_zero (by rintro rfl; cases enough)
      rw [List.length_cons] at enough
      by_cases ends : endsBefore (byte :: rest) = true
      · rw [scanLoop, goesOn_eq inside hasLineEnd, ends, passed, storedOf, if_pos ends,
          if_pos ends, List.length_nil, Nat.add_zero, if_pos inside, List.append_nil]
        rfl
      · have goes : endsBefore (byte :: rest) = false := by simpa using ends
        have later := (exists_next_of_crlf hasLineEnd (ne_return_of_goes goes)).1
        rw [passed, if_neg ends, List.length_cons, storedOf, if_neg ends]
        by_cases next : front.length + 2 < 2 ^ 31
        · have nextLength : (front ++ [byte]).length = front.length + 1 := by simp
          have nextValid : beginAfter byte front.length begin ≤ (front ++ [byte]).length := by
            unfold beginAfter
            split <;> omega
          have shifted := @inductionHypothesis (front ++ [byte]) fuel
            (beginAfter byte front.length begin)
            (stored ++ storedAt (front.drop begin) byte rest)
            (by omega) (by omega) nextValid later
          rw [nextLength, List.append_assoc, List.singleton_append, drop_beginAfter valid]
            at shifted
          rw [scanLoop, goesOn_eq inside hasLineEnd, goes, step_eq next valid later]
          refine shifted.trans ?_
          rw [List.append_assoc, Nat.add_right_comm front.length 1]
          rfl
        · rw [scanLoop_outside inside (by omega) goes hasLineEnd, if_neg (by omega)]
          rfl

theorem scanStatus_eq {buff : List UInt8} (hasLineEnd : [13, 10] <:+: buff) :
    (scanStatus buff).map (fun scan => (scan.i, scan.sArray)) =
      if (passed buff).length + 1 < 2 ^ 31 then
        some ((passed buff).length, storedOf [] buff)
      else none := by
  have run := @scanLoop_eq [] buff buff.length 0 [] (Nat.le_refl _) (by decide)
    (Nat.le_refl _) hasLineEnd
  rw [List.nil_append, List.length_nil, Nat.zero_add, List.nil_append] at run
  exact run

/-! ## Lines -/

/-- A line end, and what follows it. -/
def lineEnd (rest : List UInt8) : List UInt8 :=
  13 :: 10 :: rest

theorem endsBefore_append_lineEnd (byte : UInt8) (line rest : List UInt8) :
    endsBefore (byte :: (line ++ lineEnd rest)) = true ↔
      byte = 13 ∨ line.head? = some 10 := by
  by_cases isReturn : byte = 13
  · subst isReturn
    exact ⟨fun _ => Or.inl rfl, fun _ => rfl⟩
  · cases line with
    | nil =>
        rw [List.nil_append, lineEnd, endsBefore_cons_cons isReturn]
        simp [isReturn]
    | cons next line =>
        rw [List.cons_append, endsBefore_cons_cons isReturn]
        simp [isReturn]

/-- The loop passes a whole line if and only if there is no carriage return in it, and no
line feed behind its first byte. -/
theorem length_passed_append_lineEnd (line rest : List UInt8) :
    (passed (line ++ lineEnd rest)).length = line.length ↔
      13 ∉ line ∧ 10 ∉ line.tail := by
  induction line with
  | nil => exact ⟨fun _ => ⟨List.not_mem_nil, List.not_mem_nil⟩, fun _ => rfl⟩
  | cons byte line inductionHypothesis =>
      have head : line.head? = some 10 ∨ 10 ∈ line.tail ↔ 10 ∈ line := by
        cases line with
        | nil => simp
        | cons next line => simp [eq_comm]
      rw [List.cons_append, passed, List.tail_cons, List.mem_cons]
      by_cases ends : endsBefore (byte :: (line ++ lineEnd rest)) = true
      · rw [if_pos ends, List.length_nil, List.length_cons]
        refine iff_of_false (by omega) ?_
        rintro ⟨noReturn, noFeed⟩
        rcases (endsBefore_append_lineEnd byte line rest).mp ends with isReturn | isFeed
        · exact noReturn (Or.inl isReturn.symm)
        · exact noFeed (head.mp (Or.inl isFeed))
      · rw [if_neg ends, List.length_cons, List.length_cons, Nat.add_right_cancel_iff,
          inductionHypothesis]
        rw [endsBefore_append_lineEnd, not_or] at ends
        rw [← head, eq_comm (a := 13)]
        simp [ends.1, ends.2]

theorem prefix_append_lineEnd_iff (noReturn : 13 ∉ line) (rest : List UInt8) :
    [13, 10] <+: line ++ lineEnd rest ↔ line = [] := by
  cases line with
  | nil => exact ⟨fun _ => rfl, fun _ => List.prefix_append [13, 10] rest⟩
  | cons byte line =>
      refine iff_of_false ?_ (List.cons_ne_nil _ _)
      intro here
      have isReturn := (List.cons_prefix_cons.mp here).1
      exact noReturn (isReturn ▸ List.mem_cons_self)

/-- A byte of a line that the loop passes. -/
theorem storedOf_cons_append_lineEnd
    (noReturn : 13 ∉ byte :: line) (noFeed : 10 ∉ line) (rest : List UInt8) :
    storedOf piece (byte :: line ++ lineEnd rest) =
      (if byte = 32 then [strip piece] else []) ++
        (if line = [] then [strip (extend piece byte)] else []) ++
          storedOf (extend piece byte) (line ++ lineEnd rest) := by
  have lineReturn : 13 ∉ line := fun present => noReturn (List.mem_cons_of_mem _ present)
  have goes : ¬endsBefore (byte :: (line ++ lineEnd rest)) = true := by
    rw [endsBefore_append_lineEnd]
    rintro (isReturn | isFeed)
    · exact noReturn (isReturn ▸ List.mem_cons_self)
    · exact noFeed (List.mem_of_mem_head? isFeed)
  rw [List.cons_append, storedOf, if_neg goes, storedAt]
  simp only [prefix_append_lineEnd_iff lineReturn]

/-- How much is stored for a line that the loop passes. -/
theorem length_storedOf_append_lineEnd
    (noReturn : 13 ∉ line) (noFeed : 10 ∉ line.tail) (rest : List UInt8) :
    (storedOf piece (line ++ lineEnd rest)).length =
      if line = [] then 0 else line.count 32 + 1 := by
  induction line generalizing piece with
  | nil => rfl
  | cons byte line inductionHypothesis =>
      have later := @inductionHypothesis (extend piece byte)
        (fun present => noReturn (List.mem_cons_of_mem _ present))
        (fun present => noFeed (List.mem_of_mem_tail present))
      rw [storedOf_cons_append_lineEnd noReturn noFeed, List.length_append,
        List.length_append, later, if_neg (List.cons_ne_nil _ _), List.count_cons]
      by_cases space : byte = 32
      · by_cases last : line = []
        · simp [space, last]
        · simp [space, last]
          omega
      · by_cases last : line = []
        · simp [space, last]
        · simp [space, last]

/-- A word in front of a space. -/
theorem storedOf_word_append
    {word : List UInt8} (noReturn : 13 ∉ word ++ 32 :: line) (noFeed : 10 ∉ word ++ 32 :: line)
    (noSpace : 32 ∉ word) (rest : List UInt8) :
    storedOf piece (word ++ 32 :: line ++ lineEnd rest) =
      strip (piece ++ word) ::
        ((if line = [] then [strip [32]] else []) ++ storedOf [32] (line ++ lineEnd rest)) := by
  induction word generalizing piece with
  | nil =>
      rw [List.nil_append, storedOf_cons_append_lineEnd noReturn
        (fun present => noFeed (List.mem_cons_of_mem _ present)), if_pos rfl, extend,
        if_pos rfl, List.append_nil]
      rfl
  | cons byte word inductionHypothesis =>
      have notSpace : byte ≠ 32 := fun space => noSpace (space ▸ List.mem_cons_self)
      have later := @inductionHypothesis (piece ++ [byte])
        (fun present => noReturn (List.mem_cons_of_mem _ present))
        (fun present => noFeed (List.mem_cons_of_mem _ present))
        (fun present => noSpace (List.mem_cons_of_mem _ present))
      rw [List.cons_append] at noReturn noFeed
      rw [List.cons_append, storedOf_cons_append_lineEnd noReturn
        (fun present => noFeed (List.mem_cons_of_mem _ present)), if_neg notSpace,
        if_neg (by simp), extend, if_neg notSpace, List.nil_append, List.nil_append, later,
        List.append_assoc]
      rfl

/-- The last word of a line. -/
theorem storedOf_word
    {word : List UInt8} (nonempty : word ≠ []) (noReturn : 13 ∉ word) (noFeed : 10 ∉ word)
    (noSpace : 32 ∉ word) (rest : List UInt8) :
    storedOf piece (word ++ lineEnd rest) = [strip (piece ++ word)] := by
  induction word generalizing piece with
  | nil => exact absurd rfl nonempty
  | cons byte word inductionHypothesis =>
      have notSpace : byte ≠ 32 := fun space => noSpace (space ▸ List.mem_cons_self)
      rw [storedOf_cons_append_lineEnd noReturn
        (fun present => noFeed (List.mem_cons_of_mem _ present)), if_neg notSpace, extend,
        if_neg notSpace, List.nil_append]
      by_cases last : word = []
      · subst last
        rfl
      · rw [if_neg last, List.nil_append, @inductionHypothesis (piece ++ [byte]) last
          (fun present => noReturn (List.mem_cons_of_mem _ present))
          (fun present => noFeed (List.mem_cons_of_mem _ present))
          (fun present => noSpace (List.mem_cons_of_mem _ present)), List.append_assoc]
        rfl

/-! ## Status lines -/

/-- A decimal digit. -/
def digit (value : Fin 10) : UInt8 :=
  UInt8.ofNat (48 + value)

/-- `HTTP/d.d`. -/
def httpProto (major minor : Fin 10) : List UInt8 :=
  ascii "HTTP/" ++ [digit major, 46, digit minor]

/-- Three digits. -/
def statusCode (first second third : Fin 10) : List UInt8 :=
  [digit first, digit second, digit third]

/-- A status line. -/
def statusLine (major minor first second third : Fin 10) (reason : List UInt8) :
    List UInt8 :=
  httpProto major minor ++ 32 :: (statusCode first second third ++ 32 :: reason)

theorem toNat_digit (value : Fin 10) : (digit value).toNat = 48 + value := by
  have small := value.isLt
  rw [digit, UInt8.toNat_ofNat']
  omega

theorem byteValue_digit (value : Fin 10) : byteValue (digit value) = value := by
  have small := value.isLt
  have isDigit : 48 ≤ digit value ∧ digit value ≤ 57 := by
    simp only [UInt8.le_iff_toNat_le, toNat_digit, UInt8.reduceToNat]
    omega
  rw [byteValue, if_pos isDigit, toNat_digit]
  omega

/-- A digit is no other byte that plays a part. -/
theorem digit_ne (value : Fin 10) {byte : UInt8} (small : byte.toNat < 48) :
    digit value ≠ byte := by
  rintro rfl
  rw [toNat_digit] at small
  omega

theorem notMem_statusCode
    (first second third : Fin 10) {byte : UInt8} (small : byte.toNat < 48) :
    byte ∉ statusCode first second third := by
  simp [statusCode, (digit_ne first small).symm, (digit_ne second small).symm,
    (digit_ne third small).symm]

theorem notMem_httpProto
    (major minor : Fin 10) {byte : UInt8} (small : byte.toNat < 46) :
    byte ∉ httpProto major minor := by
  have letters : (ascii "HTTP/").all (fun letter => 47 ≤ letter.toNat) = true := by
    decide
  rw [httpProto, List.mem_append]
  rintro (inLetters | inDigits)
  · have large := of_decide_eq_true (List.all_eq_true.mp letters byte inLetters)
    omega
  · simp only [List.mem_cons, List.not_mem_nil, or_false] at inDigits
    rcases inDigits with rfl | rfl | rfl
    · exact digit_ne major (Nat.lt_trans small (by decide)) rfl
    · exact absurd small (by decide)
    · exact digit_ne minor (Nat.lt_trans small (by decide)) rfl

/-- A text is not trimmed if no blank stands at its ends. -/
theorem strip_eq_self_iff (text : List UInt8) :
    strip text = text ↔
      (∀ byte ∈ text.head?, isBlank byte = false) ∧
        ∀ byte ∈ text.getLast?, isBlank byte = false := by
  have atFront : text.dropWhile isBlank = text ↔
      ∀ byte ∈ text.head?, isBlank byte = false := by
    cases text with
    | nil => simp
    | cons byte rest => simp [List.dropWhile_eq_self_iff]
  have atEnd : text.rdropWhile isBlank = text ↔
      ∀ byte ∈ text.getLast?, isBlank byte = false := by
    rw [List.rdropWhile_eq_self_iff]
    cases text with
    | nil => simp
    | cons byte rest => simp [List.getLast?_eq_some_getLast]
  rw [← atFront, ← atEnd, strip]
  constructor
  · intro same
    have shorter := (List.rdropWhile_prefix isBlank (text.dropWhile isBlank)).length_le
    have suffix := List.dropWhile_suffix isBlank (l := text)
    rw [same] at shorter
    have whole := suffix.eq_of_length_le shorter
    exact ⟨whole, by rwa [whole] at same⟩
  · rintro ⟨front, last⟩
    rw [front, last]

theorem strip_space (text : List UInt8) : strip (32 :: text) = strip text := by
  rw [strip, List.dropWhile_cons_of_pos (by decide), ← strip]

theorem not_isBlank_digit (value : Fin 10) : isBlank (digit value) = false := by
  have notSpace : digit value ≠ 32 := digit_ne value (by decide)
  have notTab : digit value ≠ 9 := digit_ne value (by decide)
  simp [isBlank, notSpace, notTab]

theorem strip_httpProto (major minor : Fin 10) :
    strip (httpProto major minor) = httpProto major minor := by
  rw [strip_eq_self_iff]
  refine ⟨fun byte isHead => ?_, fun byte isLast => ?_⟩
  · cases isHead
    rfl
  · rw [httpProto, List.getLast?_append] at isLast
    cases isLast
    exact not_isBlank_digit minor

theorem strip_statusCode (first second third : Fin 10) :
    strip (statusCode first second third) = statusCode first second third := by
  rw [strip_eq_self_iff]
  refine ⟨fun byte isHead => ?_, fun byte isLast => ?_⟩
  · cases isHead
    exact not_isBlank_digit first
  · cases isLast
    exact not_isBlank_digit third

/-- A reason that is one word without a tab at an end. -/
def IsPlain (reason : List UInt8) : Prop :=
  32 ∉ reason ∧ reason.head? ≠ some 9 ∧ reason.getLast? ≠ some 9

/-- What is stored for the reason of a status line is the reason, in one word or with an
empty word behind it, if and only if it is plain. -/
theorem storedOf_reason
    {reason : List UInt8} (nonempty : reason ≠ []) (noReturn : 13 ∉ reason)
    (noFeed : 10 ∉ reason) (rest : List UInt8) :
    ∃ word more, storedOf [32] (reason ++ lineEnd rest) = word :: more ∧
      (more.length ≤ 1 ∧ word = reason ↔ IsPlain reason) := by
  by_cases space : 32 ∈ reason
  · obtain ⟨front, back, rfl, noSpace⟩ := List.eq_append_cons_of_mem space
    refine ⟨_, _, storedOf_word_append noReturn noFeed noSpace rest, ?_⟩
    refine iff_of_false ?_ fun plain => plain.1 space
    rintro ⟨-, same⟩
    have shorter : (strip ([32] ++ front)).length ≤ front.length := by
      rw [List.singleton_append, strip_space, strip]
      exact (List.rdropWhile_prefix isBlank _).length_le.trans
        (List.dropWhile_suffix isBlank).length_le
    rw [same, List.length_append, List.length_cons] at shorter
    omega
  · refine ⟨_, _, storedOf_word nonempty noReturn noFeed space rest, ?_⟩
    have notSpace : ∀ byte, byte ∈ reason → (isBlank byte = false ↔ byte ≠ 9) := by
      intro byte present
      have different : byte ≠ 32 := fun isSpace => space (isSpace ▸ present)
      simp [isBlank, different]
    rw [List.singleton_append, strip_space, strip_eq_self_iff, IsPlain, List.length_nil,
      and_iff_right (Nat.zero_le 1), and_iff_right space]
    refine and_congr ?_ ?_
    · constructor
      · intro noBlank isTab
        exact absurd (noBlank 9 isTab) (by decide)
      · intro noTab byte isHead
        rw [notSpace byte (List.mem_of_mem_head? isHead)]
        rintro rfl
        exact noTab isHead
    · constructor
      · intro noBlank isTab
        exact absurd (noBlank 9 isTab) (by decide)
      · intro noTab byte isLast
        rw [notSpace byte (List.mem_of_getLast? isLast)]
        rintro rfl
        exact noTab isLast

theorem notMem_statusLine
    (major minor first second third : Fin 10) {reason : List UInt8} {byte : UInt8}
    (small : byte.toNat < 32) (absent : byte ∉ reason) :
    byte ∉ statusLine major minor first second third reason := by
  have notSpace : byte ≠ 32 := by
    rintro rfl
    exact absurd small (by decide)
  have notInProto : byte ∉ httpProto major minor :=
    notMem_httpProto major minor (by omega)
  have notInCode : byte ∉ statusCode first second third :=
    notMem_statusCode first second third (by omega)
  simp [statusLine, notInProto, notInCode, notSpace, absent]

/-- What is stored for a status line. -/
theorem storedOf_statusLine
    (major minor first second third : Fin 10) {reason : List UInt8} (nonempty : reason ≠ [])
    (noReturn : 13 ∉ reason) (noFeed : 10 ∉ reason) (rest : List UInt8) :
    ∃ word more,
      storedOf [] (statusLine major minor first second third reason ++ lineEnd rest) =
        httpProto major minor :: statusCode first second third :: word :: more ∧
      (more.length ≤ 1 ∧ word = reason ↔ IsPlain reason) := by
  obtain ⟨word, more, stored, plain⟩ := storedOf_reason nonempty noReturn noFeed rest
  have lineReturn := notMem_statusLine major minor first second third (by decide) noReturn
  have lineFeed := notMem_statusLine major minor first second third (by decide) noFeed
  have codeReturn : 13 ∉ statusCode first second third ++ 32 :: reason :=
    fun present => lineReturn
      (List.mem_append_right _ (List.mem_cons_of_mem _ present))
  have codeFeed : 10 ∉ statusCode first second third ++ 32 :: reason :=
    fun present => lineFeed
      (List.mem_append_right _ (List.mem_cons_of_mem _ present))
  have code : strip ([32] ++ statusCode first second third) =
      statusCode first second third := by
    rw [List.singleton_append, strip_space, strip_statusCode]
  refine ⟨word, more, ?_, plain⟩
  rw [statusLine, storedOf_word_append lineReturn lineFeed
      (notMem_httpProto major minor (by decide)),
    storedOf_word_append codeReturn codeFeed
      (notMem_statusCode first second third (by decide)), stored, code,
    List.nil_append, strip_httpProto, if_neg nonempty, if_neg (by simp)]
  rfl

/-! ## What is made of the words -/

/-- The versions for which something is returned. -/
def IsKnown (major minor : Fin 10) : Prop :=
  major = 1 ∧ (minor = 0 ∨ minor = 1)

theorem parseHttpVersion_of_isKnown {major minor : Fin 10} (known : IsKnown major minor) :
    parseHttpVersion (httpProto major minor) =
      some { result := some ok, major := major.val, minor := minor.val } := by
  obtain ⟨rfl, rfl | rfl⟩ := known
  · rfl
  · rfl

theorem parseHttpVersion_of_not_isKnown
    {major minor : Fin 10} (unknown : ¬IsKnown major minor) :
    (parseHttpVersion (httpProto major minor)).bind HttpVersion.result = none := by
  have all : ∀ major minor : Fin 10, ¬(major = 1 ∧ (minor = 0 ∨ minor = 1)) →
      (parseHttpVersion (httpProto major minor)).bind HttpVersion.result = none := by
    decide
  exact all major minor unknown

/-- The number that three digits stand for. -/
theorem atoi_statusCode (first second third : Fin 10) :
    atoi (cstr (statusCode first second third)) =
      100 * first.val + 10 * second.val + third.val := by
  have noZero : 0 ∉ statusCode first second third :=
    notMem_statusCode first second third (by decide)
  have areDigits : ∀ byte ∈ statusCode first second third, byteValue byte < 10 := by
    intro byte present
    simp only [statusCode, List.mem_cons, List.not_mem_nil, or_false] at present
    rcases present with rfl | rfl | rfl
    · exact (byteValue_digit first).trans_lt first.isLt
    · exact (byteValue_digit second).trans_lt second.isLt
    · exact (byteValue_digit third).trans_lt third.isLt
  have value : Numeral.ofDigits 10 (statusCode first second third) =
      100 * first.val + 10 * second.val + third.val := by
    simp only [Numeral.ofDigits, statusCode, List.foldl_cons, List.foldl_nil,
      byteValue_digit]
    omega
  have read : atoi (statusCode first second third ++ []) =
      Numeral.ofDigits 10 (statusCode first second third) :=
    Numeral.atoi_append (List.cons_ne_nil _ _) areDigits (by simp) (by rw [value]; omega)
  rw [cstr_eq_self_iff.mpr noZero, ← List.append_nil (statusCode _ _ _), read, value]
  omega

section

variable {buff reason word : List UInt8} {scan : Scan} {more : List (List UInt8)}
variable {major minor first second third : Fin 10}

/-- What is made of a protocol, a code, a word of the reason and more words. -/
theorem parseStatus_of_stored
    (scanned : scanStatus buff = some scan)
    (stored : scan.sArray =
      httpProto major minor :: statusCode first second third :: word :: more)
    (response : HttpResponse) :
    parseStatus buff response =
      if 1 < more.length then none
      else if word = [] then some (badValue, response)
      else (parseHttpVersion (httpProto major minor)).bind fun version =>
        version.result.bind fun result =>
          some (if result = badValue then badValue else ok, {
            mStatus := statusCode first second third ++ ascii " " ++ word
            mStatusCode := 100 * first.val + 10 * second.val + third.val
            mProto := httpProto major minor
            mProtoMajor := version.major
            mProtoMinor := version.minor }) := by
  have length : scan.sArray.length = more.length + 3 := by
    rw [stored]
    rfl
  have proto : scan.sArray.getD 0 [] = httpProto major minor := by
    rw [stored]
    rfl
  have code : scan.sArray.getD 1 [] = statusCode first second third := by
    rw [stored]
    rfl
  have thirdWord : scan.sArray.getD 2 [] = word := by
    rw [stored]
    rfl
  have noZero : cstr (httpProto major minor) = httpProto major minor :=
    cstr_eq_self_iff.mpr (notMem_httpProto major minor (by decide))
  have threeDigits : ¬(statusCode first second third).length ≠ 3 := not_not_intro rfl
  have positive : ¬(100 * first.val + 10 * second.val + third.val : Int) < 0 := by
    omega
  rw [parseStatus, scanned, Option.bind_eq_bind, Option.bind_some, length, proto, code,
    thirdWord]
  dsimp only
  rw [noZero, atoi_statusCode, if_neg positive, sArraySize]
  by_cases overflows : 1 < more.length
  · rw [if_pos overflows, if_pos (by omega)]
  · rw [if_neg overflows, if_neg (by omega)]
    by_cases empty : word = []
    · rw [if_pos empty, if_pos empty]
    · rw [if_neg empty, if_neg empty, if_neg threeDigits]
      rfl

/-- What the fields of an answer are, if a status line was read as it stands. -/
def ReadsStatusLine
    (major minor first second third : Fin 10) (reason : List UInt8)
    (answer : HttpResponse) : Prop :=
  answer.mStatusCode = 100 * first.val + 10 * second.val + third.val ∧
    answer.mProtoMajor = major.val ∧ answer.mProtoMinor = minor.val ∧
    answer.mStatus = statusCode first second third ++ ascii " " ++ reason

/-- A status line is read as it stands if and only if its version is known, the array has
room, and the third word is the whole reason. -/
theorem readsStatusLine_iff_of_stored
    (scanned : scanStatus buff = some scan)
    (stored : scan.sArray =
      httpProto major minor :: statusCode first second third :: word :: more)
    (nonempty : reason ≠ []) (response : HttpResponse) :
    (∃ answer, parseStatus buff response = some (ok, answer) ∧
      ReadsStatusLine major minor first second third reason answer) ↔
      IsKnown major minor ∧ more.length ≤ 1 ∧ word = reason := by
  rw [parseStatus_of_stored scanned stored]
  constructor
  · rintro ⟨answer, parsed, reads⟩
    split at parsed
    · cases parsed
    · split at parsed
      · cases parsed
      · rename_i room _
        have known : IsKnown major minor := by
          by_contra unknown
          have nothing := parseHttpVersion_of_not_isKnown unknown
          obtain ⟨version, read, remains⟩ := Option.bind_eq_some_iff.mp parsed
          obtain ⟨result, returned, -⟩ := Option.bind_eq_some_iff.mp remains
          rw [read, Option.bind_some, returned] at nothing
          cases nothing
        rw [parseHttpVersion_of_isKnown known] at parsed
        obtain ⟨-, rfl⟩ := Prod.mk.inj (Option.some.inj parsed)
        exact ⟨known, Nat.le_of_not_lt room, List.append_cancel_left reads.2.2.2⟩
  · rintro ⟨known, room, rfl⟩
    rw [if_neg (Nat.not_lt.mpr room), if_neg nonempty, parseHttpVersion_of_isKnown known]
    exact ⟨_, rfl, rfl, rfl, rfl, rfl⟩

end

/-- The loop ends at a line end and all indices fit if and only if the line has no carriage
return, no line feed behind its first byte, at most three spaces, and less bytes than an
`int` counts. -/
theorem scansLine_iff (line rest : List UInt8) :
    (∃ scan, scanStatus (line ++ lineEnd rest) = some scan ∧ scan.i = line.length ∧
        scan.sArray.length ≤ sArraySize) ↔
      13 ∉ line ∧ 10 ∉ line.tail ∧ line.count 32 ≤ 3 ∧ line.length + 1 < 2 ^ 31 := by
  have hasLineEnd : [13, 10] <:+: line ++ lineEnd rest := ⟨line, rest, by simp [lineEnd]⟩
  have run := scanStatus_eq hasLineEnd
  have ends := length_passed_append_lineEnd line rest
  constructor
  · rintro ⟨scan, scanned, isEnd, room⟩
    rw [scanned, Option.map_some] at run
    split at run
    · rename_i inside
      obtain ⟨position, stored⟩ := Prod.mk.inj (Option.some.inj run)
      rw [isEnd] at position
      obtain ⟨noReturn, noFeed⟩ := ends.mp position.symm
      rw [stored, length_storedOf_append_lineEnd noReturn noFeed, sArraySize] at room
      refine ⟨noReturn, noFeed, ?_, by omega⟩
      split at room
      · rename_i empty
        rw [empty, List.count_nil]
        omega
      · omega
    · cases run
  · rintro ⟨noReturn, noFeed, spaces, inside⟩
    have position := ends.mpr ⟨noReturn, noFeed⟩
    rw [position, if_pos inside, Option.map_eq_some_iff] at run
    obtain ⟨scan, scanned, same⟩ := run
    obtain ⟨isEnd, stored⟩ := Prod.mk.inj same
    refine ⟨scan, scanned, isEnd, ?_⟩
    rw [stored, length_storedOf_append_lineEnd noReturn noFeed, sArraySize]
    split
    · omega
    · omega

/-- A status line is read as it stands if and only if its version is 1.0 or 1.1, its reason is
one word without tabs at its ends, and its length is an `int`. -/
theorem readsStatusLine_iff
    (major minor first second third : Fin 10) (rest : List UInt8) (response : HttpResponse)
    (nonempty : reason ≠ []) (noReturn : 13 ∉ reason) (noFeed : 10 ∉ reason) :
    (∃ answer,
      parseStatus (statusLine major minor first second third reason ++ lineEnd rest)
          response = some (ok, answer) ∧
        ReadsStatusLine major minor first second third reason answer) ↔
    IsKnown major minor ∧ IsPlain reason ∧ reason.length + 14 < 2 ^ 31 := by
  have hasLineEnd : [13, 10] <:+:
      statusLine major minor first second third reason ++ lineEnd rest :=
    ⟨statusLine major minor first second third reason, rest, by simp [lineEnd]⟩
  have run := scanStatus_eq hasLineEnd
  have length : (statusLine major minor first second third reason).length =
      reason.length + 13 := by
    simp [statusLine, httpProto, statusCode, ascii]
  have position := (length_passed_append_lineEnd
    (statusLine major minor first second third reason) rest).mpr
    ⟨notMem_statusLine _ _ _ _ _ (by decide) noReturn,
      fun present => notMem_statusLine major minor first second third (by decide) noFeed
        (List.mem_of_mem_tail present)⟩
  obtain ⟨word, more, stored, plain⟩ := storedOf_statusLine major minor first second third
    nonempty noReturn noFeed rest
  rw [position, length, stored] at run
  by_cases inside : reason.length + 14 < 2 ^ 31
  · rw [if_pos inside, Option.map_eq_some_iff] at run
    obtain ⟨scan, scanned, same⟩ := run
    rw [readsStatusLine_iff_of_stored scanned (Prod.mk.inj same).2 nonempty, plain,
      and_iff_left inside]
  · rw [if_neg inside, Option.map_eq_none_iff] at run
    refine iff_of_false ?_ fun holds => inside holds.2.2
    rintro ⟨answer, parsed, -⟩
    rw [parseStatus, run] at parsed
    cases parsed

/-- Where the loop ends and what is read of a status line, for every line and every status
line. -/
theorem parseStatus_iff
    (line rest : List UInt8) (major minor first second third : Fin 10)
    (reason : List UInt8) (response : HttpResponse) :
    ((∃ scan, scanStatus (line ++ lineEnd rest) = some scan ∧ scan.i = line.length ∧
        scan.sArray.length ≤ sArraySize) ↔
      13 ∉ line ∧ 10 ∉ line.tail ∧ line.count 32 ≤ 3 ∧ line.length + 1 < 2 ^ 31) ∧
    (reason ≠ [] → 13 ∉ reason → 10 ∉ reason →
      ((∃ answer,
        parseStatus (statusLine major minor first second third reason ++ lineEnd rest)
            response = some (ok, answer) ∧
          ReadsStatusLine major minor first second third reason answer) ↔
      IsKnown major minor ∧ IsPlain reason ∧ reason.length + 14 < 2 ^ 31)) := by
  constructor
  · exact scansLine_iff line rest
  · intro nonempty noReturn noFeed
    exact readsStatusLine_iff major minor first second third rest response nonempty noReturn
      noFeed

/-- Of the two words of `Not Found` one is lost. -/
theorem parseStatus_drops_word :
    ¬∃ answer,
      parseStatus (statusLine 1 1 4 0 4 (ascii "Not Found") ++ lineEnd (lineEnd []))
          { mStatus := [], mStatusCode := 0, mProto := [], mProtoMajor := 0
            mProtoMinor := 0 } =
        some (ok, answer) ∧
      ReadsStatusLine 1 1 4 0 4 (ascii "Not Found") answer := by
  have scanned :
      scanStatus (statusLine 1 1 4 0 4 (ascii "Not Found") ++ lineEnd (lineEnd [])) =
        some {
          i := 22
          begin := 16
          sArray := [httpProto 1 1, statusCode 4 0 4, ascii "Not", ascii "Found"] } := by
    decide
  rw [readsStatusLine_iff_of_stored scanned rfl (by decide)]
  rintro ⟨-, -, same⟩
  exact absurd same (by decide)

end HttpTransfer
end Skplat
