set_option autoImplicit false

/-!
# The BLAKE3 digest

The input is cut into chunks of 1024 bytes, a chunk into blocks of 64. Blocks of a chunk are
compressed in a row, and the chunks form a binary tree whose left part is the largest power of two
of chunks that leaves something to the right. The digest is the first half of the root's output.
-/

namespace VariablePay.Digest

/-- The eight words that one node hands to the next. -/
abbrev ChainingValue := Vector UInt32 8

abbrev Block := Vector UInt32 16

/-- The words in which every digest starts. -/
def initial : ChainingValue :=
  #v[0x6A09E667, 0xBB67AE85, 0x3C6EF372, 0xA54FF53A, 0x510E527F, 0x9B05688C, 0x1F83D9AB, 0x5BE0CD19]

def chunkStart : UInt32 := 1

def chunkEnd : UInt32 := 2

def parent : UInt32 := 4

/-- Marks the node whose output is the digest. -/
def root : UInt32 := 8

def rotateRight (word amount : UInt32) : UInt32 := (word >>> amount) ||| (word <<< (32 - amount))

/-- Mixes two message words into a column or diagonal of the state. -/
def mix (state : Block) (a b c d : Fin 16) (first second : UInt32) : Block :=
  let wordA := state[a] + state[b] + first
  let wordD := rotateRight (state[d] ^^^ wordA) 16
  let wordC := state[c] + wordD
  let wordB := rotateRight (state[b] ^^^ wordC) 12
  let lastA := wordA + wordB + second
  let lastD := rotateRight (wordD ^^^ lastA) 8
  let lastC := wordC + lastD
  let lastB := rotateRight (wordB ^^^ lastC) 7
  (((state.set a lastA).set b lastB).set c lastC).set d lastD

/-- Mixes a whole block into the columns and then into the diagonals. -/
def round (state message : Block) : Block :=
  let state := mix state 0 4 8 12 message[0] message[1]
  let state := mix state 1 5 9 13 message[2] message[3]
  let state := mix state 2 6 10 14 message[4] message[5]
  let state := mix state 3 7 11 15 message[6] message[7]
  let state := mix state 0 5 10 15 message[8] message[9]
  let state := mix state 1 6 11 12 message[10] message[11]
  let state := mix state 2 7 8 13 message[12] message[13]
  mix state 3 4 9 14 message[14] message[15]

/-- The order in which a round takes the words of the round before. -/
def schedule : Vector (Fin 16) 16 := #v[2, 6, 3, 10, 7, 0, 4, 13, 1, 11, 12, 5, 9, 14, 15, 8]

def reorder (message : Block) : Block := schedule.map fun place => message[place]

def rounds : (left : Nat) → (state message : Block) → Block
  | 0, state, _ => state
  | left + 1, state, message => rounds left (round state message) (reorder message)

/-- A node of the tree before its compression. -/
structure Node where
  chaining : ChainingValue
  block : Block
  counter : UInt64
  /-- The number of bytes in the block. -/
  size : UInt32
  flags : UInt32

def Node.output (node : Node) : ChainingValue :=
  let cv := node.chaining
  let state : Block :=
    #v[cv[0], cv[1], cv[2], cv[3], cv[4], cv[5], cv[6], cv[7],
      initial[0], initial[1], initial[2], initial[3],
      node.counter.toUInt32, (node.counter >>> 32).toUInt32, node.size, node.flags]
  let mixed := rounds 7 state node.block
  Vector.ofFn fun place : Fin 8 => mixed[place.val] ^^^ mixed[place.val + 8]

/-- The word of four bytes, the first one lowest. -/
def wordOf (bytes : List UInt8) : UInt32 :=
  bytes.foldr (fun byte word => (word <<< 8) ||| byte.toUInt32) 0

/-- The words of at most 64 bytes, filled up with zeros. -/
def blockOf (bytes : List UInt8) : Block :=
  Vector.ofFn fun place : Fin 16 => wordOf ((bytes.drop (4 * place.val)).take 4)

/-- The last block of a chunk as a node, with the blocks before it compressed. -/
def chunkFrom (counter : UInt64) (chaining : ChainingValue) (start : UInt32) (bytes : List UInt8) :
    Node :=
  let node (size : Nat) (flags : UInt32) : Node :=
    ⟨chaining, blockOf (bytes.take 64), counter, UInt32.ofNat size, flags⟩
  if _more : 64 < bytes.length then
    chunkFrom counter (node 64 start).output 0 (bytes.drop 64)
  else node bytes.length (start ||| chunkEnd)
termination_by bytes.length
decreasing_by simp only [List.length_drop]; omega

/-- The node of a chunk of at most 1024 bytes. -/
def chunk (counter : Nat) (bytes : List UInt8) : Node :=
  chunkFrom (UInt64.ofNat counter) initial chunkStart bytes

/-- How many of several chunks belong to the left part of the tree: the largest power of two below
their number. -/
def leftChunks (chunks : Nat) : Nat := Nat.pow 2 (Nat.log2 (chunks - 1))

def join (left right : Node) : Node :=
  ⟨initial, left.output ++ right.output, 0, 64, parent⟩

theorem one_le_leftChunks (chunks : Nat) : 1 ≤ leftChunks chunks := Nat.one_le_two_pow

theorem leftChunks_lt {chunks : Nat} (several : 1 < chunks) : leftChunks chunks < chunks := by
  have := Nat.log2_self_le (n := chunks - 1) (by omega)
  simp only [leftChunks, Nat.pow_eq]
  omega

/-- The top node of the tree over some bytes, of which `counter` chunks stand to the left. -/
def tree (counter : Nat) (bytes : List UInt8) : Node :=
  if _several : 1024 < bytes.length then
    let left := leftChunks ((bytes.length + 1023) / 1024)
    join (tree counter (bytes.take (1024 * left)))
      (tree (counter + left) (bytes.drop (1024 * left)))
  else chunk counter bytes
termination_by bytes.length
decreasing_by
  · have := @leftChunks_lt ((bytes.length + 1023) / 1024) (by omega)
    simp only [List.length_take]
    omega
  · have := one_le_leftChunks ((bytes.length + 1023) / 1024)
    simp only [List.length_drop]
    omega

def words (bytes : List UInt8) : ChainingValue :=
  let top := tree 0 bytes
  { top with counter := 0, flags := top.flags ||| root }.output

def hexDigit (value : Nat) : Char :=
  if value < 10 then Char.ofNat (48 + value) else Char.ofNat (87 + value)

/-- The bytes of a word, the lowest first, in hexadecimal digits. -/
def wordHex (word : UInt32) : List Char :=
  [0, 8, 16, 24].flatMap fun amount : UInt32 =>
    let byte := ((word >>> amount) &&& 255).toNat
    [hexDigit (byte / 16), hexDigit (byte % 16)]

/-- The digest of a text's bytes in hexadecimal digits. -/
def hex (text : String) : String :=
  String.ofList ((words text.toUTF8.toList).toList.flatMap wordHex)

end VariablePay.Digest
