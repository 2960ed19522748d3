/-!
# SHA-1

The 160-bit digest of FIPS 180-4 on lists of bytes: the message is padded to whole blocks of 64
bytes, and each block is folded into five 32-bit words by eighty rounds.

The message schedule is kept as the sixteen words that later words can still depend on, so a block
is a plain recursion on the number of rounds left.
-/

namespace Cascade.Hash.Sha1

/-- The five working words of the digest. -/
structure Words where
  /-- The word that the rounds rotate by five. -/
  a : UInt32
  /-- The word that the rounds rotate by thirty. -/
  b : UInt32
  c : UInt32
  d : UInt32
  e : UInt32
deriving Repr, DecidableEq

def initial : Words := ⟨0x67452301, 0xEFCDAB89, 0x98BADCFE, 0x10325476, 0xC3D2E1F0⟩

/-- Rotation to the left by `n` places, for `0 < n < 32`. -/
def rotate (n : UInt32) (x : UInt32) : UInt32 := (x <<< n) ||| (x >>> (32 - n))

/-- The function and the constant of round `t`. -/
def mix (t : Nat) (b c d : UInt32) : UInt32 × UInt32 :=
  if t < 20 then ((b &&& c) ||| (~~~b &&& d), 0x5A827999)
  else if t < 40 then (b ^^^ c ^^^ d, 0x6ED9EBA1)
  else if t < 60 then ((b &&& c) ||| (b &&& d) ||| (c &&& d), 0x8F1BBCDC)
  else (b ^^^ c ^^^ d, 0xCA62C1D6)

def round (t : Nat) (w : UInt32) (s : Words) : Words :=
  let (f, k) := mix t s.b s.c s.d
  ⟨rotate 5 s.a + f + s.e + k + w, s.a, rotate 30 s.b, s.c, s.d⟩

/-- The rounds from `80 - left` on, where `window` holds the next sixteen schedule words. -/
def rounds : (left : Nat) → (window : List UInt32) → Words → Words
  | 0, _, s => s
  | _ + 1, [], s => s
  | left + 1, w :: rest, s =>
    let next := rotate 1 (rest[12]?.getD 0 ^^^ rest[7]?.getD 0 ^^^ rest[1]?.getD 0 ^^^ w)
    rounds left (rest ++ [next]) (round (79 - left) w s)

/-- A block of sixteen words folded into the digest so far. -/
def absorb (s : Words) (block : List UInt32) : Words :=
  let r := rounds 80 block s
  ⟨s.a + r.a, s.b + r.b, s.c + r.c, s.d + r.d, s.e + r.e⟩

/-- Bytes taken four at a time, the first the most significant. -/
def toWords : List UInt8 → List UInt32
  | a :: b :: c :: d :: rest =>
    (a.toUInt32 <<< 24 ||| b.toUInt32 <<< 16 ||| c.toUInt32 <<< 8 ||| d.toUInt32) :: toWords rest
  | _ => []

/-- The bytes of a word, the most significant first. -/
def ofWord (w : UInt32) : List UInt8 :=
  [(w >>> 24).toUInt8, (w >>> 16).toUInt8, (w >>> 8).toUInt8, w.toUInt8]

/-- The message, the bit `1`, zeros, and the length in bits as eight bytes: whole blocks. -/
def pad (message : List UInt8) : List UInt8 :=
  let bits := message.length * 8
  let zeros := (119 - message.length % 64) % 64
  message ++ 0x80 :: List.replicate zeros 0 ++
    (List.range 8).map fun i ↦ (bits / Nat.pow 256 (7 - i) % 256).toUInt8

/-- The blocks of sixteen words, one for each unit of fuel. -/
def blocks : (fuel : Nat) → List UInt32 → List (List UInt32)
  | 0, _ => []
  | _ + 1, [] => []
  | fuel + 1, ws => ws.take 16 :: blocks fuel (ws.drop 16)

/-- The digest of a message: twenty bytes. -/
def digest (message : List UInt8) : List UInt8 :=
  let ws := toWords (pad message)
  let s := (blocks ws.length ws).foldl absorb initial
  [s.a, s.b, s.c, s.d, s.e].flatMap ofWord

theorem length_digest (message : List UInt8) : (digest message).length = 20 := by
  simp [digest, ofWord]

end Cascade.Hash.Sha1
