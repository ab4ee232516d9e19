import Mathlib.Data.List.Basic

/-!
`ZenohKeyExpression`: the key-expression grammar the carrier checks before a key
leaves the device. A key is read chunk by chunk, a chunk byte by byte.
-/
namespace AxolotyEmbedded.Zenoh.KeyExpression

/-- The bytes of a chunk that is no wildcard of its own; `previousWasPair` says
that the two bytes before were `$*`. -/
def itemsValid (allowWildcards : Bool) : Bool → List UInt8 → Bool
  | _, [] => true
  | previousWasPair, byte :: rest =>
      if byte = 0x23 ∨ byte = 0x3F ∨ byte = 0x2A then false
      else if byte = 0x24 then
        match rest with
        | next :: rest =>
            allowWildcards && next == 0x2A && !previousWasPair && itemsValid allowWildcards true rest
        | [] => false
      else itemsValid allowWildcards false rest

def chunkIsValid (allowWildcards : Bool) (chunk : List UInt8) : Bool :=
  if chunk = [0x2A] ∨ chunk = [0x2A, 0x2A] then allowWildcards
  else itemsValid allowWildcards false chunk

/-- The loop of `isValid`: `chunk` is the part of the current chunk already passed. -/
def chunksValid (allowWildcards : Bool) (chunk : List UInt8) : List UInt8 → Bool
  | [] => !chunk.isEmpty && chunkIsValid allowWildcards chunk
  | byte :: rest =>
      if byte = 0x2F then
        !chunk.isEmpty && chunkIsValid allowWildcards chunk && chunksValid allowWildcards [] rest
      else chunksValid allowWildcards (chunk ++ [byte]) rest

def isValid (allowWildcards : Bool) (key : List UInt8) : Bool :=
  !key.isEmpty && chunksValid allowWildcards [] key

def isValidSubscription (key : List UInt8) : Bool := isValid true key

def isValidPublication (key : List UInt8) : Bool := isValid false key

end AxolotyEmbedded.Zenoh.KeyExpression
