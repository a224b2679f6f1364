import Mathlib.Tactic.SplitIfs
import Skplat.HttpFilter.BufferUtils

/-!
# The nodes of a filter chain

A node transcodes the content of its own buffer into the buffer of its child, or into
the buffer of the caller if it has no child.  Its `transcode` is a virtual function: it
is a parameter of `read`.
-/

namespace Skplat
namespace HttpFilter

/-- The fields of a `ReadFilterNode` other than its child, and those of its subclass. -/
structure ReadFilterNode (Own : Type) where
  bufferCache : BufferUtils
  eof : Bool
  errors : Int
  own : Own

/-- `UNKNOWN_ERROR`. -/
def unknownError : Int := -3

/-- A transcoder changes its node, with the input buffer, and an output buffer. -/
structure Transcoded (Own : Type) where
  ret : Int
  node : ReadFilterNode Own
  output : BufferUtils

namespace ReadFilterNode

variable {Own : Type}

/-- A new node. -/
def new (own : Own) : ReadFilterNode Own where
  bufferCache := .new
  eof := false
  errors := 0
  own := own

/-- `write(buff, count)` and its result. -/
def write (node : ReadFilterNode Own) (buff : List UInt8) : Nat × ReadFilterNode Own :=
  let appended := node.bufferCache.append buff
  (appended.1, { node with bufferCache := appended.2 })

/-- A negative result is recorded. -/
def recordError (node : ReadFilterNode Own) (ret : Int) : ReadFilterNode Own :=
  if ret < 0 then { node with errors := unknownError } else node

/-- `read(recvBuffer)` of a node without child.  There is no result if `transcode` does
not return. -/
def read
    (transcode : ReadFilterNode Own → BufferUtils → Option (Transcoded Own))
    (node : ReadFilterNode Own) (recvBuffer : BufferUtils) : Option (Transcoded Own) :=
  if node.eof then some ⟨0, node, recvBuffer⟩
  else if node.errors < 0 then some ⟨node.errors, node, recvBuffer⟩
  else if 0 < asInt node.bufferCache.content.length then
    (transcode node recvBuffer).map fun transcoded =>
      ⟨transcoded.ret, transcoded.node.recordError transcoded.ret, transcoded.output⟩
  else some ⟨0, node, recvBuffer⟩

/-- A node and its child after a call of `read`. -/
structure ReadByChild (Own ChildOwn : Type) where
  ret : Int
  node : ReadFilterNode Own
  child : ReadFilterNode ChildOwn
  recvBuffer : BufferUtils

/-- What a node records from the `read` of its child. -/
def recordChild
    (node : ReadFilterNode Own) (ret : Int) (childEof : Bool) : ReadFilterNode Own :=
  if ret < 0 then { node with errors := unknownError }
  else if ret = 0 then
    if node.eof then node else { node with eof := childEof }
  else node

/-- `read(recvBuffer)` of a node with a child. -/
def readByChild
    {ChildOwn : Type}
    (transcode : ReadFilterNode Own → BufferUtils → Option (Transcoded Own))
    (childRead : ReadFilterNode ChildOwn → BufferUtils → Option (Transcoded ChildOwn))
    (node : ReadFilterNode Own) (child : ReadFilterNode ChildOwn)
    (recvBuffer : BufferUtils) : Option (ReadByChild Own ChildOwn) :=
  if node.eof then some ⟨0, node, child, recvBuffer⟩
  else if node.errors < 0 then some ⟨node.errors, node, child, recvBuffer⟩
  else if 0 < asInt node.bufferCache.content.length then
    (transcode node child.bufferCache).bind fun transcoded =>
      let node := transcoded.node.recordError transcoded.ret
      let child := { child with bufferCache := transcoded.output }
      if 0 < child.bufferCache.content.length then
        (childRead child recvBuffer).map fun result =>
          ⟨result.ret, node.recordChild result.ret result.node.eof, result.node,
            result.output⟩
      else some ⟨transcoded.ret, node, child, recvBuffer⟩
  else some ⟨0, node, child, recvBuffer⟩

section Read

variable {transcode : ReadFilterNode Own → BufferUtils → Option (Transcoded Own)}
variable {node : ReadFilterNode Own} {recvBuffer : BufferUtils}

theorem read_of_eof (eof : node.eof = true) :
    node.read transcode recvBuffer = some ⟨0, node, recvBuffer⟩ := by
  rw [read, if_pos eof]

theorem read_of_empty
    (noError : node.errors = 0)
    (empty : node.bufferCache.content = []) :
    node.read transcode recvBuffer = some ⟨0, node, recvBuffer⟩ := by
  rw [read, noError, empty]
  exact ite_self _

theorem read_of_content
    {transcoded : Transcoded Own}
    (notEof : node.eof = false)
    (noError : node.errors = 0)
    (nonempty : node.bufferCache.content ≠ [])
    (small : node.bufferCache.content.length < 2 ^ 31)
    (returned : transcode node recvBuffer = some transcoded)
    (succeeded : 0 ≤ transcoded.ret) :
    node.read transcode recvBuffer = some transcoded := by
  have filled : 0 < asInt node.bufferCache.content.length := by
    rw [asInt_of_lt small]
    exact Int.natCast_pos.mpr (List.length_pos_iff.mpr nonempty)
  rw [read, if_neg (ne_true_of_eq_false notEof), noError, if_neg (by decide), if_pos filled,
    returned, Option.map_some, recordError, if_neg (Int.not_lt.mpr succeeded)]

/-- A transcoder that returns more often gives the same results. -/
theorem read_mono
    {larger : ReadFilterNode Own → BufferUtils → Option (Transcoded Own)}
    (agrees : ∀ node output result, transcode node output = some result →
      larger node output = some result)
    {result : Transcoded Own}
    (returned : node.read transcode recvBuffer = some result) :
    node.read larger recvBuffer = some result := by
  unfold read at returned ⊢
  split_ifs at returned ⊢
  · exact returned
  · exact returned
  · obtain ⟨transcoded, isTranscoded, shape⟩ := Option.map_eq_some_iff.mp returned
    rw [agrees _ _ _ isTranscoded, Option.map_some, shape]
  · exact returned

end Read

section ReadByChild

variable {ChildOwn : Type}
variable {transcode : ReadFilterNode Own → BufferUtils → Option (Transcoded Own)}
variable {childRead : ReadFilterNode ChildOwn → BufferUtils → Option (Transcoded ChildOwn)}
variable {node : ReadFilterNode Own} {child : ReadFilterNode ChildOwn}
variable {recvBuffer : BufferUtils}

theorem readByChild_of_empty
    (noError : node.errors = 0)
    (empty : node.bufferCache.content = []) :
    node.readByChild transcode childRead child recvBuffer =
      some ⟨0, node, child, recvBuffer⟩ := by
  rw [readByChild, noError, empty]
  exact ite_self _

/-- The part of `readByChild` behind its tests. -/
theorem readByChild_of_content
    {transcoded : Transcoded Own}
    (notEof : node.eof = false)
    (noError : node.errors = 0)
    (nonempty : node.bufferCache.content ≠ [])
    (small : node.bufferCache.content.length < 2 ^ 31)
    (returned : transcode node child.bufferCache = some transcoded)
    (succeeded : 0 ≤ transcoded.ret) :
    node.readByChild transcode childRead child recvBuffer =
      if 0 < transcoded.output.content.length then
        (childRead { child with bufferCache := transcoded.output } recvBuffer).map
          fun result =>
            ⟨result.ret, transcoded.node.recordChild result.ret result.node.eof,
              result.node, result.output⟩
      else some ⟨transcoded.ret, transcoded.node,
        { child with bufferCache := transcoded.output }, recvBuffer⟩ := by
  have filled : 0 < asInt node.bufferCache.content.length := by
    rw [asInt_of_lt small]
    exact Int.natCast_pos.mpr (List.length_pos_iff.mpr nonempty)
  rw [readByChild, if_neg (ne_true_of_eq_false notEof), noError, if_neg (by decide),
    if_pos filled, returned, Option.bind_some, recordError,
    if_neg (Int.not_lt.mpr succeeded)]

/-- A child that returns more often gives the same results. -/
theorem readByChild_mono
    {larger : ReadFilterNode ChildOwn → BufferUtils → Option (Transcoded ChildOwn)}
    (agrees : ∀ child output result, childRead child output = some result →
      larger child output = some result)
    {result : ReadByChild Own ChildOwn}
    (returned : node.readByChild transcode childRead child recvBuffer = some result) :
    node.readByChild transcode larger child recvBuffer = some result := by
  unfold readByChild at returned ⊢
  split_ifs at returned ⊢
  · exact returned
  · exact returned
  · obtain ⟨transcoded, isTranscoded, rest⟩ := Option.bind_eq_some_iff.mp returned
    rw [isTranscoded, Option.bind_some]
    dsimp only at rest ⊢
    split_ifs at rest ⊢
    · obtain ⟨read, isRead, shape⟩ := Option.map_eq_some_iff.mp rest
      rw [agrees _ _ _ isRead, Option.map_some, shape]
    · exact rest
  · exact returned

end ReadByChild

end ReadFilterNode

end HttpFilter
end Skplat
