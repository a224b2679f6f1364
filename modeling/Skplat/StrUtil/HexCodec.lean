import Skplat.Data.Numeral

/-!
# `Hex2Str` and `Str2Hex`

`Hex2Str` writes every byte as two hexadecimal digits.  `Str2Hex` reads pairs of digits into
an array of 64 bytes and stops when it is full.  Both are given a length that is an
`unsigned int`.
-/

namespace Skplat
namespace StrUtil

open Numeral (byteValue strtol strtol_sixteen_pair)

/-- A hexadecimal digit in lower case. -/
def hexDigit (value : Nat) : UInt8 :=
  if value < 10 then UInt8.ofNat (48 + value) else UInt8.ofNat (87 + value)

/-- `%02x` of an `unsigned char`. -/
def format02x (byte : UInt8) : List UInt8 :=
  [hexDigit (byte.toNat / 16), hexDigit (byte.toNat % 16)]

/-- `Hex2Str`, or none if it reads behind the bytes. -/
def hex2Str (str : List UInt8) (len : UInt32) : Option (List UInt8) :=
  (List.range len.toNat).foldlM
    (fun outstr i => str[i]?.map fun byte => outstr ++ format02x byte) []

/-- Size of `outbuffer`. -/
def outbufferSize : Nat := 64

/-- `Str2Hex`, or none if it reads behind the characters. -/
def str2Hex (str : List UInt8) (len : UInt32) : Option (List UInt8) :=
  let length := if len.toNat / 2 > outbufferSize then outbufferSize else len.toNat / 2
  (List.range length).foldlM
    (fun outbuffer i => do
      let high ← str[i * 2]?
      let low ← str[i * 2 + 1]?
      some (outbuffer ++ [UInt8.ofInt (strtol 16 [high, low, 0, 0])])) []

/-- `tolower`. -/
def toLower (byte : UInt8) : UInt8 :=
  if 65 ≤ byte ∧ byte ≤ 90 then byte + 32 else byte

/-! ## Without lengths -/

/-- All bytes in digits. -/
def encode (bytes : List UInt8) : List UInt8 :=
  bytes.flatMap format02x

/-- All pairs of digits. -/
def decode : List UInt8 → List UInt8
  | high :: low :: rest => UInt8.ofInt (strtol 16 [high, low, 0, 0]) :: decode rest
  | _ => []

/-! ## The loops -/

theorem decode_append
    {front : List UInt8} (even : front.length % 2 = 0) (high low : UInt8) :
    decode (front ++ [high, low]) =
      decode front ++ [UInt8.ofInt (strtol 16 [high, low, 0, 0])] := by
  induction front using decode.induct with
  | case1 first second rest inductionHypothesis =>
      rw [List.length_cons, List.length_cons] at even
      rw [List.cons_append, List.cons_append, decode, inductionHypothesis (by omega), decode,
        List.cons_append]
  | case2 front short =>
      match front with
      | [] => rfl
      | [_] => cases even
      | first :: second :: rest => exact absurd rfl (short first second rest)

/-- The loop of `Hex2Str` writes the bytes that it reads. -/
theorem foldlM_hex2Str {str : List UInt8} {count : Nat} (inside : count ≤ str.length) :
    (List.range count).foldlM
        (fun outstr i => str[i]?.map fun byte => outstr ++ format02x byte) [] =
      some (encode (str.take count)) := by
  induction count with
  | zero => rfl
  | succ count inductionHypothesis =>
      have longer : encode (str.take (count + 1)) =
          encode (str.take count) ++ format02x str[count] := by
        rw [List.take_add_one, List.getElem?_eq_getElem (by omega), encode,
          List.flatMap_append, ← encode]
        simp
      rw [List.range_succ, List.foldlM_append, inductionHypothesis (by omega), longer]
      simp [List.getElem?_eq_getElem (show count < str.length by omega)]

/-- The loop of `Str2Hex` reads pairs of digits. -/
theorem foldlM_str2Hex {str : List UInt8} {count : Nat} (inside : 2 * count ≤ str.length) :
    (List.range count).foldlM
        (fun outbuffer i => do
          let high ← str[i * 2]?
          let low ← str[i * 2 + 1]?
          some (outbuffer ++ [UInt8.ofInt (strtol 16 [high, low, 0, 0])])) [] =
      some (decode (str.take (2 * count))) := by
  induction count with
  | zero => rfl
  | succ count inductionHypothesis =>
      have longer : str.take (2 * (count + 1)) =
          str.take (2 * count) ++ [str[count * 2], str[count * 2 + 1]] := by
        rw [show 2 * (count + 1) = count * 2 + 1 + 1 by omega, List.take_add_one,
          List.take_add_one, List.getElem?_eq_getElem (by omega),
          List.getElem?_eq_getElem (by omega), Nat.mul_comm 2 count, List.append_assoc]
        rfl
      have even : (str.take (2 * count)).length % 2 = 0 := by
        rw [List.length_take]
        omega
      rw [List.range_succ, List.foldlM_append, inductionHypothesis (by omega), longer,
        decode_append even]
      simp [List.getElem?_eq_getElem (show count * 2 < str.length by omega),
        List.getElem?_eq_getElem (show count * 2 + 1 < str.length by omega)]

/-! ## Digits and bytes -/

theorem byteValue_hexDigit : ∀ value < 16, byteValue (hexDigit value) = value := by
  decide

theorem hexDigit_byteValue {byte : UInt8} (small : byteValue byte < 16) :
    hexDigit (byteValue byte) = toLower byte := by
  have below := byte.toNat_lt
  unfold byteValue at small ⊢
  simp only [hexDigit, toLower, UInt8.le_iff_toNat_le, UInt8.reduceToNat] at small ⊢
  split at small
  · rename_i digit
    rw [if_pos digit, if_pos (by omega), if_neg (by omega)]
    rw [Nat.add_sub_cancel' digit.1, UInt8.ofNat_toNat]
  · rename_i noDigit
    rw [if_neg noDigit]
    split at small
    · rename_i lower
      rw [if_pos lower, if_neg (by omega), if_neg (by omega),
        Nat.add_sub_cancel' (by omega), UInt8.ofNat_toNat]
    · rename_i notLower
      rw [if_neg notLower]
      split at small
      · rename_i upper
        have distance : (32 : UInt8).toNat = 32 := rfl
        rw [if_pos upper, if_neg (by omega), if_pos upper, ← UInt8.toNat_inj,
          UInt8.toNat_ofNat', UInt8.toNat_add, distance]
        omega
      · omega

/-- What two digits stand for. -/
theorem ofInt_strtol_pair
    {high low : UInt8} (highSmall : byteValue high < 16) (lowSmall : byteValue low < 16) :
    (UInt8.ofInt (strtol 16 [high, low, 0, 0])).toNat =
      16 * byteValue high + byteValue low := by
  rw [strtol_sixteen_pair highSmall lowSmall (by simp [byteValue]), UInt8.ofInt,
    UInt8.toNat_ofNat']
  omega

/-- The digits of a byte stand for it. -/
theorem decode_format02x (byte : UInt8) (rest : List UInt8) :
    decode (format02x byte ++ rest) = byte :: decode rest := by
  have below := byte.toNat_lt
  have high := byteValue_hexDigit (byte.toNat / 16) (by omega)
  have low := byteValue_hexDigit (byte.toNat % 16) (by omega)
  rw [format02x, List.cons_append, List.cons_append, List.nil_append, decode,
    List.cons.injEq, and_iff_left rfl, ← UInt8.toNat_inj,
    ofInt_strtol_pair (by omega) (by omega), high, low]
  omega

theorem decode_encode (bytes : List UInt8) : decode (encode bytes) = bytes := by
  induction bytes with
  | nil => rfl
  | cons byte rest inductionHypothesis =>
      rw [encode, List.flatMap_cons, decode_format02x, ← encode, inductionHypothesis]

/-- Digits that are read and written again are in lower case. -/
theorem encode_decode
    {str : List UInt8} (even : str.length % 2 = 0)
    (areDigits : ∀ byte ∈ str, byteValue byte < 16) :
    encode (decode str) = str.map toLower := by
  induction str using decode.induct with
  | case1 high low rest inductionHypothesis =>
      rw [List.length_cons, List.length_cons] at even
      have highSmall := areDigits high (by simp)
      have lowSmall := areDigits low (by simp)
      have value := ofInt_strtol_pair highSmall lowSmall
      have later := inductionHypothesis (by omega)
        fun byte present => areDigits byte (by simp [present])
      rw [decode, encode, List.flatMap_cons, ← encode, later, format02x, value,
        show (16 * byteValue high + byteValue low) / 16 = byteValue high by omega,
        show (16 * byteValue high + byteValue low) % 16 = byteValue low by omega,
        hexDigit_byteValue highSmall, hexDigit_byteValue lowSmall]
      rfl
  | case2 str short =>
      match str with
      | [] => rfl
      | [_] => cases even
      | first :: second :: rest => exact absurd rfl (short first second rest)

theorem length_encode (bytes : List UInt8) : (encode bytes).length = 2 * bytes.length := by
  induction bytes with
  | nil => rfl
  | cons byte rest inductionHypothesis =>
      rw [encode, List.flatMap_cons, List.length_append, ← encode, inductionHypothesis,
        format02x, List.length_cons]
      simp only [List.length_cons, List.length_nil]
      omega

theorem length_decode (str : List UInt8) : (decode str).length = str.length / 2 := by
  induction str using decode.induct with
  | case1 high low rest inductionHypothesis =>
      rw [decode, List.length_cons, inductionHypothesis, List.length_cons, List.length_cons]
      omega
  | case2 str short =>
      match str with
      | [] => rfl
      | [_] => simp [decode]
      | first :: second :: rest => exact absurd rfl (short first second rest)

/-- The digits of the first bytes are the first digits. -/
theorem take_encode (bytes : List UInt8) (count : Nat) :
    (encode bytes).take (2 * count) = encode (bytes.take count) := by
  induction count generalizing bytes with
  | zero => rfl
  | succ count inductionHypothesis =>
      cases bytes with
      | nil => rfl
      | cons byte rest =>
          rw [List.take_succ_cons, encode, List.flatMap_cons, encode, List.flatMap_cons,
            ← encode, ← encode, ← inductionHypothesis, Nat.mul_succ, format02x]
          simp only [List.cons_append, List.nil_append, List.take_succ_cons]

/-! ## Both functions -/

theorem hex2Str_eq {str : List UInt8} {len : UInt32} (inside : len.toNat ≤ str.length) :
    hex2Str str len = some (encode (str.take len.toNat)) :=
  foldlM_hex2Str inside

theorem str2Hex_eq {str : List UInt8} {len : UInt32} (inside : len.toNat ≤ str.length) :
    str2Hex str len = some (decode (str.take (2 * min outbufferSize (len.toNat / 2)))) := by
  have length : (if len.toNat / 2 > outbufferSize then outbufferSize else len.toNat / 2) =
      min outbufferSize (len.toNat / 2) := by
    split <;> omega
  rw [str2Hex, length]
  exact foldlM_str2Hex (by omega)

/-- What is encoded and decoded again is cut by the array and by the lengths. -/
theorem bind_str2Hex_hex2Str (bytes : List UInt8) :
    (hex2Str bytes (.ofNat bytes.length)).bind
        (fun hex => str2Hex hex (.ofNat hex.length)) =
      some (bytes.take (min 64 (bytes.length % 2 ^ 31))) := by
  have len : (UInt32.ofNat bytes.length).toNat = bytes.length % 2 ^ 32 :=
    UInt32.toNat_ofNat'
  rw [hex2Str_eq (by omega), Option.bind_some, len]
  have hexLength : (encode (bytes.take (bytes.length % 2 ^ 32))).length =
      2 * (bytes.length % 2 ^ 32) := by
    rw [length_encode, List.length_take]
    omega
  have hexLen : (UInt32.ofNat (2 * (bytes.length % 2 ^ 32))).toNat =
      2 * (bytes.length % 2 ^ 32) % 2 ^ 32 :=
    UInt32.toNat_ofNat'
  rw [hexLength, str2Hex_eq (by omega), hexLen, take_encode, decode_encode, List.take_take,
    outbufferSize]
  congr 2
  omega

/-- Digits that are decoded and encoded again are cut in the same way and in lower case. -/
theorem bind_hex2Str_str2Hex
    {hex : List UInt8} (even : hex.length % 2 = 0)
    (areDigits : ∀ byte ∈ hex, byteValue byte < 16) :
    (str2Hex hex (.ofNat hex.length)).bind
        (fun bytes => hex2Str bytes (.ofNat bytes.length)) =
      some ((hex.take (2 * min 64 (hex.length % 2 ^ 32 / 2))).map toLower) := by
  have len : (UInt32.ofNat hex.length).toNat = hex.length % 2 ^ 32 := UInt32.toNat_ofNat'
  rw [str2Hex_eq (by omega), Option.bind_some, len, outbufferSize]
  have bytesLength : (decode (hex.take (2 * min 64 (hex.length % 2 ^ 32 / 2)))).length =
      min 64 (hex.length % 2 ^ 32 / 2) := by
    rw [length_decode, List.length_take]
    omega
  have bytesLen : (UInt32.ofNat (min 64 (hex.length % 2 ^ 32 / 2))).toNat =
      min 64 (hex.length % 2 ^ 32 / 2) := by
    rw [UInt32.toNat_ofNat']
    omega
  rw [bytesLength, hex2Str_eq (by omega), bytesLen,
    List.take_of_length_le (Nat.le_of_eq bytesLength),
    encode_decode ?_ fun byte present => areDigits byte (List.mem_of_mem_take present)]
  rw [List.length_take]
  omega

/-- Decoding what was encoded gives the first 64 bytes, and encoding what was decoded gives
the first 128 digits in lower case, if the lengths are values of `unsigned int`. -/
theorem str2Hex_hex2Str :
    (∀ bytes : List UInt8,
      (hex2Str bytes (.ofNat bytes.length)).bind
          (fun hex => str2Hex hex (.ofNat hex.length)) =
        some (bytes.take (min 64 (bytes.length % 2 ^ 31)))) ∧
    ∀ hex : List UInt8, hex.length % 2 = 0 → (∀ byte ∈ hex, byteValue byte < 16) →
      (str2Hex hex (.ofNat hex.length)).bind
          (fun bytes => hex2Str bytes (.ofNat bytes.length)) =
        some ((hex.take (2 * min 64 (hex.length % 2 ^ 32 / 2))).map toLower) := by
  constructor
  · intro bytes
    exact bind_str2Hex_hex2Str bytes
  · intro hex even areDigits
    exact bind_hex2Str_str2Hex even areDigits

/-- Of 65 zeros one is lost. -/
theorem str2Hex_hex2Str_cuts :
    (hex2Str (List.replicate 65 0) (.ofNat (List.replicate 65 (0 : UInt8)).length)).bind
        (fun hex => str2Hex hex (.ofNat hex.length)) ≠ some (List.replicate 65 0) := by
  have encoded : hex2Str (List.replicate 65 0)
      (.ofNat (List.replicate 65 (0 : UInt8)).length) = some (encode (List.replicate 65 0)) :=
    hex2Str_eq (Nat.le_of_eq (by rw [List.length_replicate]; rfl))
  have len : (encode (List.replicate 65 (0 : UInt8))).length = 130 := by
    rw [length_encode, List.length_replicate]
  rw [encoded, Option.bind_some, len, str2Hex_eq (Nat.le_of_eq (by rw [len]; rfl))]
  intro same
  have lengths := congrArg List.length (Option.some.inj same)
  rw [length_decode, List.length_take, List.length_replicate, outbufferSize] at lengths
  omega

end StrUtil
end Skplat
