import Mathlib.Algebra.BigOperators.Group.List.Basic
import Mathlib.Algebra.Ring.Nat
import Mathlib.Data.List.Basic
import Mathlib.Tactic.SplitIfs
import Skplat.Data.CString
import Skplat.HttpFilter.BufferUtils

/-!
# Chunked transfer encoding

A chunk is a line with its size in hexadecimal digits, its data, and an empty line.
The last line announces a chunk of size zero.
-/

namespace Skplat
namespace HttpFilter

open CString

/-! ## Hexadecimal numbers -/

/-- The value of a hexadecimal digit. -/
def hexDigit (byte : UInt8) : Option Nat :=
  if 48 ≤ byte ∧ byte ≤ 57 then some (byte.toNat - 48)
  else if 97 ≤ byte ∧ byte ≤ 102 then some (byte.toNat - 97 + 10)
  else if 65 ≤ byte ∧ byte ≤ 70 then some (byte.toNat - 65 + 10)
  else none

/-- The loop of `parseHex`, with the number of bytes left. -/
def parseHexLoop : Nat → List UInt8 → BitVec 64 → BitVec 64
  | 0, _, data => data
  | _ + 1, [], data => data
  | left + 1, byte :: rest, data =>
      match hexDigit byte with
      | none => data
      | some tmp => parseHexLoop left rest (data <<< 4 ||| BitVec.ofNat 64 tmp)

/-- `parseHex(str, data)`. -/
def parseHex (str : List UInt8) (data : BitVec 64) : BitVec 64 :=
  parseHexLoop (asInt (strlen str)).toNat str data

/-- The number that hexadecimal digits continue. -/
def hexValue : Nat → List UInt8 → Option Nat
  | value, [] => some value
  | value, byte :: rest =>
      (hexDigit byte).bind fun digit => hexValue (16 * value + digit) rest

theorem hexDigit_lt {byte : UInt8} {digit : Nat} (isDigit : hexDigit byte = some digit) :
    digit < 16 := by
  simp only [hexDigit, UInt8.le_iff_toNat_le] at isDigit
  split_ifs at isDigit with decimal lower upper
  · have bound : byte.toNat ≤ 57 := decimal.2
    have value := Option.some.inj isDigit
    omega
  · have bound : byte.toNat ≤ 102 := lower.2
    have value := Option.some.inj isDigit
    omega
  · have bound : byte.toNat ≤ 70 := upper.2
    have value := Option.some.inj isDigit
    omega

theorem le_of_hexValue
    {value number : Nat} {digits : List UInt8}
    (isNumber : hexValue value digits = some number) :
    value ≤ number := by
  induction digits generalizing value with
  | nil => exact Nat.le_of_eq (Option.some.inj isNumber)
  | cons byte rest inductionHypothesis =>
      obtain ⟨digit, -, continued⟩ := Option.bind_eq_some_iff.mp isNumber
      have lower := inductionHypothesis continued
      omega

theorem isSome_hexDigit_of_hexValue
    {value number : Nat} {digits : List UInt8}
    (isNumber : hexValue value digits = some number) :
    ∀ byte ∈ digits, (hexDigit byte).isSome := by
  induction digits generalizing value with
  | nil =>
      intro byte present
      cases present
  | cons first rest inductionHypothesis =>
      obtain ⟨digit, isDigit, continued⟩ := Option.bind_eq_some_iff.mp isNumber
      intro byte present
      rcases List.mem_cons.mp present with rfl | later
      · rw [isDigit]
        rfl
      · exact inductionHypothesis continued byte later

/-- A digit is neither zero nor the start of a line end. -/
theorem ne_of_isSome_hexDigit {byte : UInt8} (isDigit : (hexDigit byte).isSome) :
    byte ≠ 0 ∧ byte ≠ 13 := by
  constructor
  · rintro rfl
    exact absurd isDigit (by decide)
  · rintro rfl
    exact absurd isDigit (by decide)

/-- One more digit of a number that fits into a `long`. -/
theorem toNat_shiftLeft_or
    {data : BitVec 64} {digit : Nat}
    (isDigit : digit < 16)
    (small : 16 * data.toNat + digit < 2 ^ 63) :
    (data <<< 4 ||| BitVec.ofNat 64 digit).toNat = 16 * data.toNat + digit := by
  have shifted : (data <<< 4).toNat = 2 ^ 4 * data.toNat := by
    rw [BitVec.toNat_shiftLeft, Nat.shiftLeft_eq, Nat.mod_eq_of_lt (by omega), Nat.mul_comm]
  have low : (BitVec.ofNat 64 digit).toNat = digit := by
    rw [BitVec.toNat_ofNat, Nat.mod_eq_of_lt (by omega)]
  rw [BitVec.toNat_or, shifted, low, ← Nat.two_pow_add_eq_or_of_lt isDigit]

theorem toNat_parseHexLoop
    {digits : List UInt8} {stop : UInt8}
    (notDigit : hexDigit stop = none)
    {left number : Nat} (data : BitVec 64)
    (isNumber : hexValue data.toNat digits = some number)
    (small : number < 2 ^ 63)
    (enough : digits.length ≤ left) (rest : List UInt8) :
    (parseHexLoop left (digits ++ stop :: rest) data).toNat = number := by
  induction digits generalizing left data with
  | nil =>
      have same : data.toNat = number := Option.some.inj isNumber
      cases left with
      | zero => exact same
      | succ left =>
          rw [List.nil_append, parseHexLoop, notDigit]
          exact same
  | cons byte others inductionHypothesis =>
      obtain ⟨digit, isDigit, continued⟩ := Option.bind_eq_some_iff.mp isNumber
      have grows := le_of_hexValue continued
      have next := toNat_shiftLeft_or (hexDigit_lt isDigit)
        (by omega : 16 * data.toNat + digit < 2 ^ 63)
      cases left with
      | zero => simp at enough
      | succ left =>
          rw [List.cons_append, parseHexLoop, isDigit]
          apply inductionHypothesis
          · rw [next]
            exact continued
          · exact Nat.le_of_succ_le_succ enough

/-- `parseHex` of a line that starts with digits. -/
theorem toInt_parseHex
    {digits rest : List UInt8} {stop : UInt8} {number : Nat}
    (isNumber : hexValue 0 digits = some number)
    (notDigit : hexDigit stop = none)
    (small : number < 2 ^ 63)
    (short : strlen (digits ++ stop :: rest) < 2 ^ 31) :
    (parseHex (digits ++ stop :: rest) 0).toInt = number := by
  have nonzero : ∀ byte ∈ digits, byte ≠ 0 := fun byte present =>
    (ne_of_isSome_hexDigit (isSome_hexDigit_of_hexValue isNumber byte present)).1
  have enough : digits.length ≤ (asInt (strlen (digits ++ stop :: rest))).toNat := by
    rw [asInt_of_lt short, Int.toNat_natCast]
    exact length_le_strlen_append nonzero
  have parsed : (parseHex (digits ++ stop :: rest) 0).toNat = number :=
    toNat_parseHexLoop notDigit 0 isNumber small enough rest
  rw [BitVec.toInt_eq_toNat_of_lt (by omega), parsed]

/-! ## Chunks -/

/-- The end of a line. -/
def crlf : List UInt8 := [13, 10]

/-- A chunk: its data, which is not empty, and its size in hexadecimal digits. -/
structure Chunk where
  digits : List UInt8
  data : List UInt8
  size : hexValue 0 digits = some data.length
  nonempty : data ≠ []

namespace Chunk

variable (chunk : Chunk)

/-- The line with the size, and the data. -/
def body : List UInt8 := chunk.digits ++ crlf ++ chunk.data

theorem digits_ne_nil : chunk.digits ≠ [] := by
  intro empty
  have size := chunk.size
  rw [empty] at size
  exact chunk.nonempty (List.length_eq_zero_iff.mp (Option.some.inj size).symm)

end Chunk

/-- The line that announces a chunk of size zero. -/
def lastLine : List UInt8 := 48 :: crlf

/-- The encoded stream of a list of chunks. -/
def encode : List Chunk → List UInt8
  | [] => lastLine ++ crlf
  | chunk :: rest => chunk.body ++ (crlf ++ encode rest)

/-- The size and the data of the next chunk, or the last line. -/
def nextPart : List Chunk → List UInt8
  | [] => lastLine
  | chunk :: _ => chunk.body

/-- The chunks whose size and data are within so many bytes of the stream. -/
def complete : List Chunk → Nat → List Chunk
  | [], _ => []
  | chunk :: rest, sent =>
      if chunk.body.length ≤ sent then
        chunk :: complete rest (sent - (chunk.body.length + crlf.length))
      else []

/-- The line with size zero is within so many bytes of the stream. -/
def LastLineSent (chunks : List Chunk) (sent : Nat) : Prop :=
  (encode chunks).length ≤ sent + crlf.length

instance (chunks : List Chunk) (sent : Nat) : Decidable (LastLineSent chunks sent) :=
  inferInstanceAs (Decidable (_ ≤ _))

/-! ## The next line -/

/-- The digits of the next line. -/
def nextDigits : List Chunk → List UInt8
  | [] => [48]
  | chunk :: _ => chunk.digits

/-- The size in the next line. -/
def nextSize : List Chunk → Nat
  | [] => 0
  | chunk :: _ => chunk.data.length

/-- What follows the next line. -/
def afterLine : List Chunk → List UInt8
  | [] => crlf
  | chunk :: rest => chunk.data ++ (crlf ++ encode rest)

variable (chunks : List Chunk)

theorem encode_eq_line :
    encode chunks = nextDigits chunks ++ crlf ++ afterLine chunks := by
  cases chunks with
  | nil => rfl
  | cons chunk rest =>
      rw [encode, Chunk.body, nextDigits, afterLine, List.append_assoc]

theorem nextPart_prefix_encode : nextPart chunks <+: encode chunks := by
  cases chunks with
  | nil => exact List.prefix_append _ _
  | cons chunk rest => exact List.prefix_append _ _

theorem hexValue_nextDigits :
    hexValue 0 (nextDigits chunks) = some (nextSize chunks) := by
  cases chunks with
  | nil => decide
  | cons chunk rest => exact chunk.size

theorem nextDigits_ne_nil : nextDigits chunks ≠ [] := by
  cases chunks with
  | nil => exact List.cons_ne_nil _ _
  | cons chunk rest => exact chunk.digits_ne_nil

theorem nextDigits_ne {byte : UInt8} (present : byte ∈ nextDigits chunks) :
    byte ≠ 0 ∧ byte ≠ 13 :=
  ne_of_isSome_hexDigit
    (isSome_hexDigit_of_hexValue (hexValue_nextDigits chunks) byte present)

/-- A line with a size does not start with a line end. -/
theorem nextDigits_eq_cons :
    ∃ first others, nextDigits chunks = first :: others ∧ first ≠ 13 := by
  obtain ⟨first, others, digits⟩ := List.exists_cons_of_ne_nil (nextDigits_ne_nil chunks)
  refine ⟨first, others, digits, (nextDigits_ne chunks ?_).2⟩
  rw [digits]
  exact List.mem_cons_self ..

/-- The end of the next line is found behind its digits. -/
theorem strstr_nextDigits (more : List UInt8) :
    strstr crlf (nextDigits chunks ++ crlf ++ more) = some (nextDigits chunks).length :=
  strstr_of_notMem (fun _ present => (nextDigits_ne chunks present).1)
    (fun present => (nextDigits_ne chunks present).2 rfl)

theorem length_nextPart :
    (nextPart chunks).length = (nextDigits chunks).length + 2 + nextSize chunks := by
  cases chunks with
  | nil => rfl
  | cons chunk rest =>
      rw [nextPart, Chunk.body, List.length_append, List.length_append]
      rfl

theorem nextPart_pos : 0 < (nextPart chunks).length := by
  rw [length_nextPart]
  omega

/-- A line end follows the next part of the stream. -/
theorem length_nextPart_le : (nextPart chunks).length + 2 ≤ (encode chunks).length := by
  cases chunks with
  | nil => decide
  | cons chunk rest =>
      have two : crlf.length = 2 := rfl
      rw [nextPart, encode, List.length_append, List.length_append]
      omega

/-- The length of encoded chunks. -/
def encodedLength (chunks : List Chunk) : Nat :=
  (chunks.map fun chunk => chunk.body.length + crlf.length).sum

theorem length_encode_append (done rest : List Chunk) :
    (encode (done ++ rest)).length = encodedLength done + (encode rest).length := by
  induction done with
  | nil => exact (Nat.zero_add _).symm
  | cons chunk others inductionHypothesis =>
      rw [List.cons_append, encode, List.length_append, List.length_append,
        inductionHypothesis, encodedLength, encodedLength, List.map_cons, List.sum_cons]
      omega

/-- The chunks in front of a stream are complete, even without the last line end. -/
theorem complete_append
    {done rest : List Chunk} {sent : Nat}
    (received : encodedLength done ≤ sent + crlf.length) :
    complete (done ++ rest) sent = done ++ complete rest (sent - encodedLength done) := by
  induction done generalizing sent with
  | nil => rfl
  | cons chunk others inductionHypothesis =>
      rw [encodedLength, List.map_cons, List.sum_cons, ← encodedLength] at received ⊢
      rw [List.cons_append, complete, if_pos (by omega), inductionHypothesis (by omega),
        List.cons_append, Nat.sub_sub]

/-- No chunk is complete before the data of the first one is. -/
theorem complete_eq_nil
    {sent : Nat}
    (waiting : chunks ≠ [] → sent < (nextPart chunks).length) :
    complete chunks sent = [] := by
  cases chunks with
  | nil => rfl
  | cons chunk rest =>
      have short := waiting (List.cons_ne_nil _ _)
      rw [nextPart] at short
      rw [complete, if_neg (Nat.not_le_of_lt short)]

end HttpFilter
end Skplat
