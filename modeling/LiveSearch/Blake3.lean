/-!
# The digest behind a reference

References are cut from a BLAKE3 digest. The input is split into **chunks** of 1024 bytes, each
chunk is run block by block through a compression function, and the chunks become the leaves of a
binary tree whose left branches are as large as possible and full.

* `Blake3.compress` – the compression function: seven rounds of mixing on sixteen words.
* `Blake3.tree` – the node at the root of the tree over a list of bytes.
* `Blake3.digest` – the thirty-two bytes of the root.

A node is kept with its last block not yet compressed, because that compression differs between the
root and the other nodes.
-/

namespace LiveSearch.Blake3

/-- The eight words that one compression hands to the next. -/
abbrev Chain := Vector UInt32 8

/-- The sixteen words of a block, and of the state of a compression. -/
abbrev Block := Vector UInt32 16

/-- The constants that a chunk starts from. -/
def initialChain : Chain :=
  #v[0x6A09E667, 0xBB67AE85, 0x3C6EF372, 0xA54FF53A, 0x510E527F, 0x9B05688C, 0x1F83D9AB, 0x5BE0CD19]

/-! ### Compression -/

/-- A word rotated to the right. -/
def rotateRight (word count : UInt32) : UInt32 :=
  (word >>> count) ||| (word <<< (32 - count))

/-- Mixes four words of the state with two words of the block. -/
def mix (s : Block) (i j k l : Fin 16) (x y : UInt32) : Block :=
  let a := s[i] + s[j] + x
  let d := rotateRight (s[l] ^^^ a) 16
  let c := s[k] + d
  let b := rotateRight (s[j] ^^^ c) 12
  let a := a + b + y
  let d := rotateRight (d ^^^ a) 8
  let c := c + d
  let b := rotateRight (b ^^^ c) 7
  (((s.set i a).set j b).set k c).set l d

/-- One round: the four columns of the state, then its four diagonals. -/
def round (s m : Block) : Block :=
  let s := mix s 0 4 8 12 m[0] m[1]
  let s := mix s 1 5 9 13 m[2] m[3]
  let s := mix s 2 6 10 14 m[4] m[5]
  let s := mix s 3 7 11 15 m[6] m[7]
  let s := mix s 0 5 10 15 m[8] m[9]
  let s := mix s 1 6 11 12 m[10] m[11]
  let s := mix s 2 7 8 13 m[12] m[13]
  mix s 3 4 9 14 m[14] m[15]

/-- The order in which the next round takes the words of the block. -/
def permute (m : Block) : Block :=
  #v[m[2], m[6], m[3], m[10], m[7], m[0], m[4], m[13],
    m[1], m[11], m[12], m[5], m[9], m[14], m[15], m[8]]

/-- `count` rounds, the words of the block being permuted between them. -/
def rounds : Nat → Block → Block → Block
  | 0, s, _ => s
  | count + 1, s, m => rounds count (round s m) (permute m)

/-- A **node** of the tree, up to its last compression. -/
structure Node where
  /-- What the compressions so far have left. -/
  chain : Chain
  /-- The last block. -/
  block : Block
  /-- The position of the chunk, and zero for an inner node. -/
  counter : UInt64
  /-- The number of bytes in the last block. -/
  length : UInt32
  /-- The marks of the last block. -/
  flags : UInt32

/-- The mark of the first block of a chunk. -/
def chunkStart : UInt32 := 1

/-- The mark of the last block of a chunk. -/
def chunkEnd : UInt32 := 2

/-- The mark of an inner node. -/
def parentMark : UInt32 := 4

/-- The mark of the root. -/
def rootMark : UInt32 := 8

/-- The compression function: the rounds, and the two halves of the state folded into one. -/
def compress (n : Node) : Chain :=
  let chain := n.chain
  let start : Block :=
    #v[chain[0], chain[1], chain[2], chain[3], chain[4], chain[5], chain[6], chain[7],
      initialChain[0], initialChain[1], initialChain[2], initialChain[3],
      n.counter.toUInt32, (n.counter >>> 32).toUInt32, n.length, n.flags]
  let s := rounds 7 start n.block
  #v[s[0] ^^^ s[8], s[1] ^^^ s[9], s[2] ^^^ s[10], s[3] ^^^ s[11],
    s[4] ^^^ s[12], s[5] ^^^ s[13], s[6] ^^^ s[14], s[7] ^^^ s[15]]

/-! ### Chunks and the tree -/

/-- The word of four bytes, lowest byte first. -/
def wordOfBytes (a b c d : UInt8) : UInt32 :=
  a.toUInt32 ||| (b.toUInt32 <<< 8) ||| (c.toUInt32 <<< 16) ||| (d.toUInt32 <<< 24)

/-- The block of at most sixty-four bytes, filled up with zeros. -/
def blockOfBytes (bytes : List UInt8) : Block :=
  let bytes := bytes.toArray
  Vector.ofFn fun i =>
    wordOfBytes (bytes.getD (4 * i) 0) (bytes.getD (4 * i + 1) 0) (bytes.getD (4 * i + 2) 0)
      (bytes.getD (4 * i + 3) 0)

/-- The node of a chunk whose earlier blocks have left `chain`. -/
def chunkFrom (counter : UInt64) (chain : Chain) (flags : UInt32) (bytes : List UInt8) : Node :=
  if 64 < bytes.length then
    let chain :=
      compress { chain, block := blockOfBytes (bytes.take 64), counter, length := 64, flags }
    chunkFrom counter chain 0 (bytes.drop 64)
  else
    { chain, block := blockOfBytes bytes, counter, length := UInt32.ofNat bytes.length
      flags := flags ||| chunkEnd }
termination_by bytes.length
decreasing_by simp only [List.length_drop]; omega

/-- The node of a chunk. -/
def chunk (counter : UInt64) (bytes : List UInt8) : Node :=
  chunkFrom counter initialChain chunkStart bytes

/-- The inner node over two nodes. -/
def parent (left right : Node) : Node :=
  { chain := initialChain, block := compress left ++ compress right, counter := 0, length := 64
    flags := parentMark }

/-- The number of bytes under the left branch of a tree over `size` bytes: the largest power of two
of chunks that leaves at least one byte to the right. -/
def leftSize (size : Nat) : Nat :=
  1024 * Nat.pow 2 ((size - 1) / 1024).log2

theorem leftSize_pos (size : Nat) : 0 < leftSize size :=
  Nat.mul_pos (by decide) (Nat.two_pow_pos _)

theorem leftSize_lt {size : Nat} (h : 1024 < size) : leftSize size < size := by
  have hq : (size - 1) / 1024 ≠ 0 := by omega
  have := Nat.log2_self_le hq
  simp only [leftSize, Nat.pow_eq]
  omega

/-- The tree over a list of bytes, its first chunk being the chunk number `counter`. -/
def tree (counter : UInt64) (bytes : List UInt8) : Node :=
  if 1024 < bytes.length then
    let left := leftSize bytes.length
    parent (tree counter (bytes.take left))
      (tree (counter + UInt64.ofNat (left / 1024)) (bytes.drop left))
  else chunk counter bytes
termination_by bytes.length
decreasing_by
  · have : leftSize bytes.length < bytes.length := leftSize_lt (by assumption)
    simp only [List.length_take]
    omega
  · have := leftSize_pos bytes.length
    simp only [List.length_drop]
    omega

/-- The four bytes of a word, lowest byte first. -/
def bytesOfWord (word : UInt32) : List UInt8 :=
  [word.toUInt8, (word >>> 8).toUInt8, (word >>> 16).toUInt8, (word >>> 24).toUInt8]

/-- The digest of a list of bytes. -/
def digest (bytes : List UInt8) : List UInt8 :=
  let root := tree 0 bytes
  (compress { root with flags := root.flags ||| rootMark }).toList.flatMap bytesOfWord

end LiveSearch.Blake3
