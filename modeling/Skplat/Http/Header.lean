import Mathlib.Data.List.DropRight
import Mathlib.Data.List.Nodup
import Skplat.BasicHashtable.KeyedHash
import Skplat.Data.CString
import Skplat.HttpFilter.BufferUtils

/-!
# The header of an HTTP message

`parser` reads the lines between the first line and the blank line, `toString` writes
them.  Both work on the bytes of a buffer, and `strstr` may read what memory holds behind
it.

`SimpleHash` holds one entry for each key.  The entries stand in a list, in any order; `next`
visits them in the order of their buckets.
-/

namespace Skplat
namespace Http

open BasicHashtable CString HttpFilter

/-- `HttpHeaderEntry`. -/
structure HttpHeaderEntry where
  mKey : List UInt8
  mValue : List UInt8
  deriving DecidableEq, Repr

/-- `SimpleHash<std::string, HttpHeaderEntry>::mNullItem`. -/
def mNullItem : HttpHeaderEntry where
  mKey := []
  mValue := []

/-- `HttpHeader`, which is its table `mEntries`. -/
structure HttpHeader where
  mEntries : List HttpHeaderEntry
  distinct : (mEntries.map HttpHeaderEntry.mKey).Nodup

/-- What `parser` runs into instead of returning. -/
inductive Fault
  /-- `std::length_error`. -/
  | lengthError
  /-- A null pointer is moved and read. -/
  | nullPointer
  deriving DecidableEq, Repr

/-- `lineHints`. -/
def lineHints : List UInt8 := [13, 10]

/-- `headerHints`. -/
def headerHints : List UInt8 := [13, 10, 13, 10]

/-- Spaces and tabs. -/
def isBlank (byte : UInt8) : Bool :=
  byte = 32 ∨ byte = 9

/-- A string without the blanks at its ends. -/
def strip (text : List UInt8) : List UInt8 :=
  (text.dropWhile isBlank).rdropWhile isBlank

/-- `trim(s, end)`. -/
def trim (text : List UInt8) (bound : Int) : Except Fault (List UInt8) :=
  if bound < 0 then .error .lengthError else .ok (strip (text.take bound.toNat))

/-- `std::string::npos`. -/
def npos : ℕ := 18446744073709551615

/-- `std::string::find(":")`. -/
def findColon (text : List UInt8) : ℕ :=
  if 58 ∈ text then text.idxOf 58 else npos

namespace HttpHeader

variable (header : HttpHeader)

/-- The constructor of `HttpHeader`. -/
def new : HttpHeader where
  mEntries := []
  distinct := List.nodup_nil

/-- `setEntry(key, value)`. -/
def setEntry (key value : List UInt8) : HttpHeader where
  mEntries := header.mEntries.filter (·.mKey ≠ key) ++ [⟨key, value⟩]
  distinct := by
    rw [List.map_append, List.map_singleton, ← List.concat_eq_append]
    apply List.Nodup.concat
    · simp
    · exact header.distinct.sublist (List.filter_sublist.map _)

/-- The value that is stored for a key. -/
def lookup (key : List UInt8) : Option (List UInt8) :=
  (header.mEntries.find? (·.mKey = key)).map HttpHeaderEntry.mValue

/-- `getValues(key)`. -/
def getValues (key : List UInt8) : List UInt8 :=
  ((header.mEntries.find? (·.mKey = key)).getD mNullItem).mValue

theorem getValues_eq (key : List UInt8) :
    header.getValues key = (header.lookup key).getD [] := by
  unfold getValues lookup
  cases header.mEntries.find? (·.mKey = key) with
  | none => rfl
  | some entry => rfl

/-- `toString(buffer)`: the scan stops at an entry that equals `mNullItem`, which is one
with an empty key. -/
def toString (buffer : List UInt8) : List UInt8 :=
  (header.mEntries.takeWhile (·.mKey ≠ mNullItem.mKey)).foldl
    (fun text entry => text ++ entry.mKey ++ [58] ++ entry.mValue ++ [13, 10]) buffer ++
      [13, 10, 13, 10]

@[simp] theorem lookup_new (key : List UInt8) : new.lookup key = none := rfl

/-- The entries that stay when a key is removed. -/
theorem find_filter_ne
    (entries : List HttpHeaderEntry) (key other : List UInt8) :
    (entries.filter (·.mKey ≠ key)).find? (·.mKey = other) =
      if other = key then none else entries.find? (·.mKey = other) := by
  induction entries with
  | nil => simp
  | cons entry rest inductionHypothesis =>
      by_cases isKey : entry.mKey = key
      · rw [List.filter_cons_of_neg (by simpa using isKey), inductionHypothesis]
        by_cases same : other = key
        · rw [if_pos same, if_pos same]
        · have different : ¬entry.mKey = other := fun equal => same (equal.symm.trans isKey)
          rw [if_neg same, if_neg same, List.find?_cons_of_neg (by simpa using different)]
      · rw [List.filter_cons_of_pos (by simpa using isKey)]
        by_cases isOther : entry.mKey = other
        · have different : ¬other = key := fun equal => isKey (isOther.trans equal)
          rw [if_neg different, List.find?_cons_of_pos (by simpa using isOther),
            List.find?_cons_of_pos (by simpa using isOther)]
        · rw [List.find?_cons_of_neg (by simpa using isOther), inductionHypothesis,
            List.find?_cons_of_neg (by simpa using isOther)]

/-- A lookup after `setEntry`. -/
theorem lookup_setEntry
    (key value other : List UInt8) :
    (header.setEntry key value).lookup other =
      if other = key then some value else header.lookup other := by
  unfold lookup setEntry
  rw [List.find?_append, find_filter_ne]
  by_cases same : other = key
  · simp [same]
  · have different : ¬key = other := fun equal => same equal.symm
    simp [same, different]

/-- The end of the loop's body in `parser`, with the position of the colon. -/
def splitEntry (entryString : List UInt8) (pos : ℕ) : Except Fault HttpHeader :=
  if pos < 0 then .ok header
  else do
    let key ← trim entryString (asInt pos)
    let value ← trim (entryString.drop (pos + 1)) (asInt (entryString.length - pos - 1))
    return header.setEntry key value

/-- The body of the loop in `parser`: a line of so many bytes at the front of a text. -/
def parseEntry (text : List UInt8) (length : ℕ) : Except Fault HttpHeader := do
  let entryString ← trim text (asInt length)
  header.splitEntry entryString (findColon entryString)

/-- The loop in `parser`, from the start of a line. -/
def parseEntries (memory : List UInt8) (headerEnd lineStart : ℕ) (header : HttpHeader) :
    Except Fault HttpHeader :=
  match strstr lineHints (memory.drop lineStart) with
  | none => .ok header
  | some length =>
      if lineStart + length < headerEnd then do
        let next ← header.parseEntry (memory.drop lineStart) length
        parseEntries memory headerEnd (lineStart + length + 2) next
      else .ok header
termination_by headerEnd - lineStart

/-- `parser(buffer, ptrHeader)`, with the memory behind the buffer. -/
def parser (buffer beyond : List UInt8) (header : HttpHeader) :
    Except Fault (Option HttpHeader) :=
  let memory := buffer ++ beyond
  if buffer.length = 0 then .ok none
  else
    match strstr lineHints memory with
    | none => .error .nullPointer
    | some newLine =>
        (parseEntries memory ((strstr headerHints memory).getD 0) (newLine + 2) header).map some

/-! ## The table -/

/-- The entry with a key. -/
def find (key : List UInt8) : Option HttpHeaderEntry :=
  header.mEntries.find? (·.mKey = key)

/-- Entries are set one after the other. -/
def setEntries (entries : List HttpHeaderEntry) : HttpHeader :=
  entries.foldl (fun header entry => header.setEntry entry.mKey entry.mValue) header

theorem find_setEntry
    (entry : HttpHeaderEntry) :
    (header.setEntry entry.mKey entry.mValue).find =
      KeyedHash.put HttpHeaderEntry.mKey header.find entry := by
  funext key
  unfold KeyedHash.put find setEntry
  rw [List.find?_append, find_filter_ne]
  by_cases same : key = entry.mKey
  · simp [same]
  · have different : ¬entry.mKey = key := fun equal => same equal.symm
    simp [same, different]

theorem find_setEntries
    (entries : List HttpHeaderEntry) :
    (header.setEntries entries).find =
      entries.foldl (KeyedHash.put HttpHeaderEntry.mKey) header.find := by
  induction entries generalizing header with
  | nil => rfl
  | cons entry entries inductionHypothesis =>
      rw [List.foldl_cons, ← find_setEntry]
      exact inductionHypothesis _

/-- Whatever the hashes are, the hash table has the entries that were set, and finds them,
unless it is refused its memory. -/
theorem table_of_setEntries
    (hashOf : List UInt8 → ℕ) {entrySize : ℕ} {mEntries : Table HttpHeaderEntry}
    (isNew : KeyedHash.new entrySize 20 = .ok mEntries)
    (entries : List HttpHeaderEntry) :
    (∃ failure, KeyedHash.addAll HttpHeaderEntry.mKey hashOf mEntries entries =
        .error failure ∧ failure.IsRefusal) ∨
    ∃ result, KeyedHash.addAll HttpHeaderEntry.mKey hashOf mEntries entries = .ok result ∧
      (result.entries.map Prod.snd).Perm (new.setEntries entries).mEntries ∧
      ∀ key, KeyedHash.get HttpHeaderEntry.mKey hashOf result key =
        .ok ((new.setEntries entries).find key) := by
  refine (KeyedHash.addAll_new HttpHeaderEntry.mKey hashOf isNew entries).imp_right ?_
  rintro ⟨result, adds, mirrors⟩
  have found := find_setEntries new entries
  have nothing : new.find = fun _ => none := rfl
  rw [nothing] at found
  rw [← found] at mirrors
  exact ⟨result, adds, mirrors.perm (new.setEntries entries).distinct, KeyedHash.get_eq mirrors⟩

end HttpHeader

/-- `checkHeader(buffer)`. -/
def checkHeader (buffer beyond : List UInt8) : Int :=
  if buffer.length = 0 then -1
  else
    match strstr headerHints (buffer ++ beyond) with
    | none => -1
    | some position => asInt (position + 4)

end Http
end Skplat
