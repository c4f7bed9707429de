/-!
# The BLAKE3 digest

The text is cut into chunks of 1024 bytes and each chunk into blocks of 64. The blocks of a chunk
are compressed one after the other; the chunks are then joined in pairs, level by level, an odd
last one moving up unchanged, and the output at the root gives the 32 bytes of the digest.
-/
namespace LabRegistry.Blake3

abbrev Words : Type := Vector UInt32 16

/-- Eight words that stand for everything compressed so far. -/
abbrev Chaining : Type := Vector UInt32 8

def initial : Chaining := #v[
  0x6A09E667, 0xBB67AE85, 0x3C6EF372, 0xA54FF53A, 0x510E527F, 0x9B05688C, 0x1F83D9AB, 0x5BE0CD19]

/-- Where the words of a block go after each round. -/
def permutation : Vector (Fin 16) 16 := #v[2, 6, 3, 10, 7, 0, 4, 13, 1, 11, 12, 5, 9, 14, 15, 8]

def chunkStart : UInt32 := 1
def chunkEnd : UInt32 := 2
def parent : UInt32 := 4
def root : UInt32 := 8

def rotateRight (word count : UInt32) : UInt32 := (word >>> count) ||| (word <<< (32 - count))

/-- Mixes two words of the block into four words of the state. -/
def mix (state : Words) (a b c d : Fin 16) (x y : UInt32) : Words :=
  let state := state.set a (state[a] + state[b] + x)
  let state := state.set d (rotateRight (state[d] ^^^ state[a]) 16)
  let state := state.set c (state[c] + state[d])
  let state := state.set b (rotateRight (state[b] ^^^ state[c]) 12)
  let state := state.set a (state[a] + state[b] + y)
  let state := state.set d (rotateRight (state[d] ^^^ state[a]) 8)
  let state := state.set c (state[c] + state[d])
  state.set b (rotateRight (state[b] ^^^ state[c]) 7)

/-- One round: the columns of the state, then its diagonals. -/
def round (state block : Words) : Words :=
  let state := mix state 0 4 8 12 block[0] block[1]
  let state := mix state 1 5 9 13 block[2] block[3]
  let state := mix state 2 6 10 14 block[4] block[5]
  let state := mix state 3 7 11 15 block[6] block[7]
  let state := mix state 0 5 10 15 block[8] block[9]
  let state := mix state 1 6 11 12 block[10] block[11]
  let state := mix state 2 7 8 13 block[12] block[13]
  mix state 3 4 9 14 block[14] block[15]

def permute (block : Words) : Words := permutation.map fun i => block[i]

def rounds : Nat → Words → Words → Words
  | 0, state, _ => state
  | n + 1, state, block => rounds n (round state block) (permute block)

/-- What is left to compress: a block after its chaining value, with its place and kind. -/
structure Output where
  chaining : Chaining
  block : Words
  counter : UInt64
  length : UInt32
  flags : UInt32

namespace Output

def compress (output : Output) (flags : UInt32) : Chaining :=
  let h := output.chaining
  let state : Words := #v[h[0], h[1], h[2], h[3], h[4], h[5], h[6], h[7],
    initial[0], initial[1], initial[2], initial[3],
    output.counter.toUInt32, (output.counter >>> 32).toUInt32, output.length, flags]
  let state := rounds 7 state output.block
  Vector.ofFn fun i => state[i.castLE (by decide : 8 ≤ 16)] ^^^ state[i.natAdd 8]

def next (output : Output) : Chaining := output.compress output.flags

end Output

/-- The word of four bytes, the lowest first; missing bytes are zero. -/
def wordAt (bytes : List UInt8) (index : Nat) : UInt32 :=
  let byte (i : Nat) : UInt32 := (bytes.getD (4 * index + i) 0).toUInt32
  byte 0 ||| (byte 1 <<< 8) ||| (byte 2 <<< 16) ||| (byte 3 <<< 24)

def blockWords (bytes : List UInt8) : Words := Vector.ofFn fun i => wordAt bytes i

/-- Pieces of `size` bytes, the last one possibly shorter; `fuel` bounds their number. -/
def pieces (size : Nat) : Nat → List UInt8 → List (List UInt8)
  | 0, bytes => [bytes]
  | fuel + 1, bytes =>
    if bytes.length ≤ size then [bytes]
    else bytes.take size :: pieces size fuel (bytes.drop size)

def blockOutput (chaining : Chaining) (counter : Nat) (flags : UInt32) (bytes : List UInt8) :
    Output where
  chaining := chaining
  block := blockWords bytes
  counter := .ofNat counter
  length := .ofNat bytes.length
  flags := flags

/-- The output of the blocks of a chunk, the first of them carrying `flags`. -/
def chunkBlocks (counter : Nat) (chaining : Chaining) (flags : UInt32) :
    List (List UInt8) → Output
  | [] => blockOutput chaining counter (flags ||| chunkEnd) []
  | [last] => blockOutput chaining counter (flags ||| chunkEnd) last
  | block :: rest =>
    chunkBlocks counter (blockOutput chaining counter flags block).next 0 rest

def chunkOutput (counter : Nat) (bytes : List UInt8) : Output :=
  chunkBlocks counter initial chunkStart (pieces 64 bytes.length bytes)

def parentOutput (left right : Output) : Output where
  chaining := initial
  block := left.next ++ right.next
  counter := 0
  length := 64
  flags := parent

/-- One level of the tree. -/
def joinPairs : List Output → List Output
  | left :: right :: rest => parentOutput left right :: joinPairs rest
  | outputs => outputs

def chunkOutputs (counter : Nat) : List (List UInt8) → List Output
  | [] => []
  | chunk :: rest => chunkOutput counter chunk :: chunkOutputs (counter + 1) rest

/-- The digest as eight words, the levels being joined until one output is left. -/
def digestWords : Nat → List Output → Chaining
  | _, [] => initial
  | _, [output] => output.compress (output.flags ||| root)
  | 0, output :: _ => output.compress (output.flags ||| root)
  | fuel + 1, outputs => digestWords fuel (joinPairs outputs)

def hexByte (byte : UInt8) : List Char :=
  let digit (n : Nat) : Char := (Nat.toDigits 16 n).headD '0'
  [digit (byte.toNat / 16), digit (byte.toNat % 16)]

def wordHex (word : UInt32) : List Char :=
  ([0, 8, 16, 24] : List UInt32).flatMap fun shift => hexByte (word >>> shift).toUInt8

/-- The digest of the bytes, in hexadecimal. -/
def hash (bytes : List UInt8) : String :=
  let outputs := chunkOutputs 0 (pieces 1024 bytes.length bytes)
  String.ofList ((digestWords outputs.length outputs).toList.flatMap wordHex)

def hashText (text : String) : String := hash text.toUTF8.toList

end LabRegistry.Blake3
