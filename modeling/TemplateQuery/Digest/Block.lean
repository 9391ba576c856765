import TemplateQuery.Number.Digits
import TemplateQuery.Text.Hex

/-! What the digests share: a message is padded to whole blocks of sixteen words, and a state is carried
through the blocks. -/

set_option autoImplicit false

namespace TemplateQuery.Digest

/-- Whole pieces of `size` items; items left over at the end are dropped. -/
def pieces {α : Type} (size : Nat) (items : List α) : List (List α) :=
  (List.range (items.length / size)).map fun i => (items.drop (i * size)).take size

inductive Endian where
  | big
  | little

def Endian.number (e : Endian) (bytes : List Nat) : Nat :=
  let ordered := match e with
    | .big => bytes
    | .little => bytes.reverse
  ordered.foldl (fun n b => n * 256 + b) 0

def Endian.bytes (e : Endian) (count n : Nat) : List Nat :=
  let low := (List.range count).map fun i => n / 256 ^ i % 256
  match e with
  | .big => low.reverse
  | .little => low

/-- A one bit, zeros, and the length of the message in bits, up to a whole block. -/
def pad (e : Endian) (wordBytes : Nat) (message : List Nat) : List Nat :=
  let block := 16 * wordBytes
  let used := message.length + 1 + 2 * wordBytes
  message ++ [0x80] ++ List.replicate ((block - used % block) % block) 0 ++ e.bytes (2 * wordBytes) (8 * message.length)

def blocks (e : Endian) (w : Nat) (message : List Nat) : List (List (BitVec w)) :=
  pieces 16 ((pieces (w / 8) (pad e (w / 8) message)).map fun bytes => BitVec.ofNat w (e.number bytes))

def bytesOf (text : String) : List Nat := text.toUTF8.toList.map UInt8.toNat

def hexWords {w : Nat} (e : Endian) (words : List (BitVec w)) : List Char :=
  (words.flatMap fun word => e.bytes (w / 8) word.toNat).flatMap (Text.hexText 2)

end TemplateQuery.Digest
