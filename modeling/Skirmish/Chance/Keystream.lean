/-!
# The keystream

An endless row of 32-bit words for every 256-bit key: the ChaCha cipher with eight rounds and a
zero stream number. A block of sixteen words depends on the key and the number of the block alone,
so every word can be read by its position. Block numbers have 64 bits, so positions have 68.
-/

namespace Skirmish.Chance

/-- The sixteen words that the rounds work on. -/
abbrev Block := Vector UInt32 16

def rotateLeft (x : UInt32) (n : UInt32) : UInt32 :=
  x <<< n ||| x >>> (32 - n)

def rotateRight (x : UInt32) (n : UInt32) : UInt32 :=
  x >>> n ||| x <<< (32 - n)

/-- Stirs four words of a block. -/
def quarterRound (a b c d : Fin 16) (s : Block) : Block :=
  let s := s.set a (s[a] + s[b])
  let s := s.set d (rotateLeft (s[d] ^^^ s[a]) 16)
  let s := s.set c (s[c] + s[d])
  let s := s.set b (rotateLeft (s[b] ^^^ s[c]) 12)
  let s := s.set a (s[a] + s[b])
  let s := s.set d (rotateLeft (s[d] ^^^ s[a]) 8)
  let s := s.set c (s[c] + s[d])
  s.set b (rotateLeft (s[b] ^^^ s[c]) 7)

/-- One round down the columns and one along the diagonals. -/
def doubleRound (s : Block) : Block :=
  let s := quarterRound 0 4 8 12 s
  let s := quarterRound 1 5 9 13 s
  let s := quarterRound 2 6 10 14 s
  let s := quarterRound 3 7 11 15 s
  let s := quarterRound 0 5 10 15 s
  let s := quarterRound 1 6 11 12 s
  let s := quarterRound 2 7 8 13 s
  quarterRound 3 4 9 14 s

/-- A key: eight words. -/
abbrev Key := Vector UInt32 8

/-- What a block is before the rounds: four constants, the key, the number of the block in two
words, and the stream number. -/
def initialBlock (key : Key) (number : UInt64) : Block :=
  #v[0x61707865, 0x3320646e, 0x79622d32, 0x6b206574,
    key[0], key[1], key[2], key[3], key[4], key[5], key[6], key[7],
    number.toUInt32, (number >>> 32).toUInt32, 0, 0]

/-- A block of the stream. -/
def block (key : Key) (number : UInt64) : Block :=
  let s := initialBlock key number
  s.zipWith (· + ·) (doubleRound (doubleRound (doubleRound (doubleRound s))))

/-- A position in the stream. -/
abbrev Position := BitVec 68

/-- The word at a position. -/
def word (key : Key) (p : Position) : UInt32 :=
  (block key (UInt64.ofNat (p.toNat / 16)))[p.toNat % 16]

/-- The number that the words at a position and after it make up, the first one being its lower
half. -/
def doubleWord (key : Key) (p : Position) : UInt64 :=
  (word key (p + 1)).toUInt64 <<< 32 ||| (word key p).toUInt64

/-- The seed's successor in the generator that spreads a seed over a key. -/
def nextSeed (s : UInt64) : UInt64 :=
  s * 6364136223846793005 + 11634580027462260723

/-- The word of a key that a spread seed yields. -/
def seedWord (s : UInt64) : UInt32 :=
  rotateRight (((s >>> 18) ^^^ s) >>> 27).toUInt32 (s >>> 59).toUInt32

/-- The key of a seed: eight words from eight successors of the seed. -/
def keyOfSeed (seed : UInt64) : Key :=
  Vector.ofFn fun i : Fin 8 => seedWord (Nat.repeat nextSeed (i + 1) seed)

end Skirmish.Chance
