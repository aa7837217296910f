/-!
# Message digests

The digest of MD5: a message is padded to blocks of sixteen words, and each block stirs four words
in sixty-four steps.
-/

namespace AdvisoryFeed.Digest

/-- The words of the state. -/
structure Words where
  a : UInt32
  b : UInt32
  c : UInt32
  d : UInt32
deriving DecidableEq, Repr

/-- The state before any block. -/
def Words.initial : Words :=
  ⟨0x67452301, 0xefcdab89, 0x98badcfe, 0x10325476⟩

/-- The constants of the steps. -/
def stepConstants : List UInt32 :=
  [0xd76aa478, 0xe8c7b756, 0x242070db, 0xc1bdceee, 0xf57c0faf, 0x4787c62a, 0xa8304613, 0xfd469501,
   0x698098d8, 0x8b44f7af, 0xffff5bb1, 0x895cd7be, 0x6b901122, 0xfd987193, 0xa679438e, 0x49b40821,
   0xf61e2562, 0xc040b340, 0x265e5a51, 0xe9b6c7aa, 0xd62f105d, 0x02441453, 0xd8a1e681, 0xe7d3fbc8,
   0x21e1cde6, 0xc33707d6, 0xf4d50d87, 0x455a14ed, 0xa9e3e905, 0xfcefa3f8, 0x676f02d9, 0x8d2a4c8a,
   0xfffa3942, 0x8771f681, 0x6d9d6122, 0xfde5380c, 0xa4beea44, 0x4bdecfa9, 0xf6bb4b60, 0xbebfbc70,
   0x289b7ec6, 0xeaa127fa, 0xd4ef3085, 0x04881d05, 0xd9d4d039, 0xe6db99e5, 0x1fa27cf8, 0xc4ac5665,
   0xf4292244, 0x432aff97, 0xab9423a7, 0xfc93a039, 0x655b59c3, 0x8f0ccc92, 0xffeff47d, 0x85845dd1,
   0x6fa87e4f, 0xfe2ce6e0, 0xa3014314, 0x4e0811a1, 0xf7537e82, 0xbd3af235, 0x2ad7d2bb, 0xeb86d391]

/-- The rotations of the steps of each round. -/
def roundRotations : List (List UInt32) :=
  [[7, 12, 17, 22], [5, 9, 14, 20], [4, 11, 16, 23], [6, 10, 15, 21]]

/-- Rotates a word to the left. -/
def rotate (x n : UInt32) : UInt32 :=
  (x <<< n) ||| (x >>> (32 - n))

/-- What a step mixes of the last three words, and the word of the block that it takes. -/
def mixOf (i : Nat) (w : Words) : UInt32 × Nat :=
  match i / 16 with
  | 0 => ((w.b &&& w.c) ||| (~~~w.b &&& w.d), i)
  | 1 => ((w.d &&& w.b) ||| (~~~w.d &&& w.c), (5 * i + 1) % 16)
  | 2 => (w.b ^^^ w.c ^^^ w.d, (3 * i + 5) % 16)
  | _ => (w.c ^^^ (w.b ||| ~~~w.d), (7 * i) % 16)

/-- One step on a block. -/
def step (block : Array UInt32) (w : Words) (entry : UInt32 × Nat) : Words :=
  let i := entry.2
  let (mixed, place) := mixOf i w
  let rotation := ((roundRotations.getD (i / 16) []).getD (i % 4) 0)
  let sum := w.a + mixed + entry.1 + block.getD place 0
  ⟨w.d, w.b + rotate sum rotation, w.b, w.c⟩

/-- Stirs a block into the state. -/
def stir (w : Words) (block : Array UInt32) : Words :=
  let next := stepConstants.zipIdx.foldl (step block) w
  ⟨w.a + next.a, w.b + next.b, w.c + next.c, w.d + next.d⟩

/-- The bytes of a number, the lowest first. -/
def littleEndian : Nat → Nat → List UInt8
  | 0, _ => []
  | width + 1, n => UInt8.ofNat (n % 256) :: littleEndian width (n / 256)

/-- The message with a bit set behind it, zeros up to the end of a block less two words, and its
length in bits. -/
def padded (message : List UInt8) : List UInt8 :=
  message ++ 0x80 :: List.replicate ((119 - message.length % 64) % 64) 0 ++
    littleEndian 8 (message.length * 8)

/-- The words of bytes, the lowest byte of each first. -/
def wordsOf : List UInt8 → List UInt32
  | a :: b :: c :: d :: rest =>
    (a.toUInt32 + (b.toUInt32 <<< 8) + (c.toUInt32 <<< 16) + (d.toUInt32 <<< 24)) :: wordsOf rest
  | _ => []

/-- Cuts words into blocks of sixteen. -/
def blocksOf : Nat → List UInt32 → List (Array UInt32)
  | 0, _ => []
  | fuel + 1, words =>
    if words.isEmpty then [] else (words.take 16).toArray :: blocksOf fuel (words.drop 16)

/-- The digest of a message. -/
def md5 (message : List UInt8) : List UInt8 :=
  let words := wordsOf (padded message)
  let w := (blocksOf words.length words).foldl stir Words.initial
  [w.a, w.b, w.c, w.d].flatMap fun word => littleEndian 4 word.toNat

/-- A number has as many bytes as asked for. -/
theorem length_littleEndian (width n : Nat) : (littleEndian width n).length = width := by
  induction width generalizing n with
  | zero => rfl
  | succ w ih => simp [littleEndian, ih]

/-- A digest has sixteen bytes. -/
theorem length_md5 (message : List UInt8) : (md5 message).length = 16 := by
  simp [md5, length_littleEndian]

end AdvisoryFeed.Digest
