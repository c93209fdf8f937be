/-
Module: RouteAtlas.Digest.Blake3
Layer: Digest
Purpose: The BLAKE3 hash function without a key. The input is cut into chunks of 1024 bytes, each
  chunk into blocks of 64 bytes; blocks are chained by a compression of sixteen words of 32 bits, and
  chunks are joined pairwise in a binary tree whose left side is always full.
Trusted boundary: none
Main exports: hash, hexOf, hexDigest
-/

namespace RouteAtlas.Digest.Blake3

/-- The initial chaining value. -/
def initial : List UInt32 := [
  0x6A09E667, 0xBB67AE85, 0x3C6EF372, 0xA54FF53A, 0x510E527F, 0x9B05688C, 0x1F83D9AB, 0x5BE0CD19]

/-- How the words of a block change places between rounds. -/
def permutation : List Nat := [2, 6, 3, 10, 7, 0, 4, 13, 1, 11, 12, 5, 9, 14, 15, 8]

/-- Marks of a compression: the first and last block of a chunk, a parent, the root of the tree. -/
def chunkStart : UInt32 := 1
/-- See `chunkStart`. -/
def chunkEnd : UInt32 := 2
/-- See `chunkStart`. -/
def parentNode : UInt32 := 4
/-- See `chunkStart`. -/
def rootNode : UInt32 := 8

/-- Rotate a word to the right. -/
def rotateRight (word : UInt32) (count : UInt32) : UInt32 :=
  (word >>> count) ||| (word <<< (32 - count))

/-- The word at an index. -/
def wordAt (words : Array UInt32) (index : Nat) : UInt32 := words.getD index 0

/-- Mix two words of the message into four words of the state. -/
def mix (state : Array UInt32) (a b c d : Nat) (x y : UInt32) : Array UInt32 :=
  let va := wordAt state a + wordAt state b + x
  let vd := rotateRight (wordAt state d ^^^ va) 16
  let vc := wordAt state c + vd
  let vb := rotateRight (wordAt state b ^^^ vc) 12
  let va := va + vb + y
  let vd := rotateRight (vd ^^^ va) 8
  let vc := vc + vd
  let vb := rotateRight (vb ^^^ vc) 7
  (((state.setIfInBounds a va).setIfInBounds b vb).setIfInBounds c vc).setIfInBounds d vd

/-- The columns and diagonals that a round mixes. -/
def lanes : List (Nat × Nat × Nat × Nat) := [
  (0, 4, 8, 12), (1, 5, 9, 13), (2, 6, 10, 14), (3, 7, 11, 15),
  (0, 5, 10, 15), (1, 6, 11, 12), (2, 7, 8, 13), (3, 4, 9, 14)]

/-- One round: every lane takes two words of the message. -/
def round (state message : Array UInt32) : Array UInt32 :=
  lanes.zipIdx.foldl
    (fun state lane =>
      let ((a, b, c, d), index) := lane
      mix state a b c d (wordAt message (2 * index)) (wordAt message (2 * index + 1)))
    state

/-- Rounds with the message permuted between them. -/
def rounds (count : Nat) (state message : Array UInt32) : Array UInt32 :=
  match count with
  | 0 => state
  | count + 1 =>
      rounds count (round state message) (permutation.map (wordAt message)).toArray

/-- What is compressed: a chaining value and a block, with the place of the block. -/
structure Node where
  chaining : List UInt32
  block : List UInt32
  counter : Nat
  length : Nat
  marks : UInt32

/-- The compression: eight words. -/
def Node.compress (node : Node) (marks : UInt32) : List UInt32 :=
  let state := (node.chaining ++ initial.take 4 ++
    [UInt32.ofNat node.counter, UInt32.ofNat (node.counter / Nat.pow 2 32), UInt32.ofNat node.length,
      node.marks ||| marks]).toArray
  let out := rounds 7 state node.block.toArray
  (List.range 8).map fun index => wordAt out index ^^^ wordAt out (index + 8)

/-- The little-endian word of up to four bytes. -/
def wordOf (bytes : List UInt8) : UInt32 :=
  bytes.foldr (fun byte word => (word <<< 8) ||| UInt32.ofNat byte.toNat) 0

/-- The sixteen words of a block, filled up with zeros. -/
def blockWords (bytes : List UInt8) : List UInt32 :=
  (List.range 16).map fun index => wordOf ((bytes.drop (4 * index)).take 4)

/-- Compress the blocks of a chunk, all but the last. `fuel` is at least the number of blocks. -/
def chunkNode (fuel counter : Nat) (chaining : List UInt32) (marks : UInt32)
    (bytes : List UInt8) : Node :=
  let node : Node :=
    { chaining, counter, marks, block := blockWords (bytes.take 64), length := min 64 bytes.length }
  match fuel with
  | 0 => node
  | fuel + 1 =>
      if bytes.length ≤ 64 then { node with marks := marks ||| chunkEnd }
      else chunkNode fuel counter (node.compress 0) 0 (bytes.drop 64)

/-- The number of chunks in the left side of a tree over `chunks` chunks: the largest power of two
below it. -/
def leftChunks (fuel size chunks : Nat) : Nat :=
  match fuel with
  | 0 => size
  | fuel + 1 => if 2 * size < chunks then leftChunks fuel (2 * size) chunks else size

/-- The top node of the tree over some bytes. `fuel` is at least the number of chunks, and `counter`
the number of chunks before them. -/
def treeNode (fuel counter : Nat) (bytes : List UInt8) : Node :=
  match fuel with
  | 0 => chunkNode 16 counter initial chunkStart bytes
  | fuel + 1 =>
      if bytes.length ≤ 1024 then chunkNode 16 counter initial chunkStart bytes
      else
        let left := leftChunks bytes.length 1 ((bytes.length + 1023) / 1024)
        let first := treeNode fuel counter (bytes.take (1024 * left))
        let second := treeNode fuel (counter + left) (bytes.drop (1024 * left))
        { chaining := initial
          block := first.compress 0 ++ second.compress 0
          counter := 0
          length := 64
          marks := parentNode }

/-- The four bytes of a word, the lowest first. -/
def bytesOf (word : UInt32) : List UInt8 :=
  (List.range 4).map fun index => UInt8.ofNat (word.toNat / Nat.pow 256 index)

/-- The hash: thirty-two bytes. -/
def hash (bytes : List UInt8) : List UInt8 :=
  ((treeNode bytes.length 0 bytes).compress rootNode).flatMap bytesOf

/-- The two hexadecimal digits of a byte. -/
def hexOf (byte : UInt8) : List Char :=
  [Nat.digitChar (byte.toNat / 16), Nat.digitChar (byte.toNat % 16)]

/-- The hash of a text in hexadecimal digits. -/
def hexDigest (text : String) : List Char := (hash text.toUTF8.toList).flatMap hexOf

end RouteAtlas.Digest.Blake3
