/-!
The 64-bit digest XXH64: stripes of four words feed four lanes, the lanes merge, and the
remaining words and bytes are mixed in one by one.
-/

namespace Formula.Hash

def rotateLeft (word amount : UInt64) : UInt64 :=
  (word <<< amount) ||| (word >>> (64 - amount))

/-- Reads little-endian words of eight bytes; fewer than eight bytes remain. -/
def words : List UInt8 → List UInt64 × List UInt8
  | a :: b :: c :: d :: e :: f :: g :: h :: rest =>
      let word := a.toUInt64 ||| (b.toUInt64 <<< 8) ||| (c.toUInt64 <<< 16) |||
        (d.toUInt64 <<< 24) ||| (e.toUInt64 <<< 32) ||| (f.toUInt64 <<< 40) |||
        (g.toUInt64 <<< 48) ||| (h.toUInt64 <<< 56)
      let (later, tail) := words rest
      (word :: later, tail)
  | tail => ([], tail)

namespace Xxh64

def prime1 : UInt64 := 0x9E3779B185EBCA87
def prime2 : UInt64 := 0xC2B2AE3D27D4EB4F
def prime3 : UInt64 := 0x165667B19E3779F9
def prime4 : UInt64 := 0x85EBCA77C2B2AE63
def prime5 : UInt64 := 0x27D4EB2F165667C5

def mixLane (lane word : UInt64) : UInt64 :=
  rotateLeft (lane + word * prime2) 31 * prime1

structure Lanes where
  first : UInt64
  second : UInt64
  third : UInt64
  fourth : UInt64

def Lanes.start (seed : UInt64) : Lanes :=
  ⟨seed + prime1 + prime2, seed + prime2, seed, seed - prime1⟩

/-- Absorbs whole stripes; fewer than four words remain. -/
def Lanes.absorb (lanes : Lanes) : List UInt64 → Lanes × List UInt64
  | a :: b :: c :: d :: rest =>
      let next : Lanes :=
        ⟨mixLane lanes.first a, mixLane lanes.second b, mixLane lanes.third c,
          mixLane lanes.fourth d⟩
      next.absorb rest
  | rest => (lanes, rest)

def mergeLane (state lane : UInt64) : UInt64 :=
  (state ^^^ mixLane 0 lane) * prime1 + prime4

def Lanes.merge (lanes : Lanes) : UInt64 :=
  let joined := rotateLeft lanes.first 1 + rotateLeft lanes.second 7 +
    rotateLeft lanes.third 12 + rotateLeft lanes.fourth 18
  mergeLane (mergeLane (mergeLane (mergeLane joined lanes.first) lanes.second) lanes.third)
    lanes.fourth

def absorbWord (state word : UInt64) : UInt64 :=
  rotateLeft (state ^^^ mixLane 0 word) 27 * prime1 + prime4

def absorbByte (state : UInt64) (byte : UInt8) : UInt64 :=
  rotateLeft (state ^^^ (byte.toUInt64 * prime5)) 11 * prime1

def absorbTail (state : UInt64) : List UInt8 → UInt64
  | a :: b :: c :: d :: rest =>
      let half := a.toUInt64 ||| (b.toUInt64 <<< 8) ||| (c.toUInt64 <<< 16) |||
        (d.toUInt64 <<< 24)
      rest.foldl absorbByte (rotateLeft (state ^^^ (half * prime1)) 23 * prime2 + prime3)
  | rest => rest.foldl absorbByte state

def avalanche (state : UInt64) : UInt64 :=
  let once := (state ^^^ (state >>> 33)) * prime2
  let twice := (once ^^^ (once >>> 29)) * prime3
  twice ^^^ (twice >>> 32)

end Xxh64

open Xxh64 in
def xxh64 (seed : UInt64) (bytes : List UInt8) : UInt64 :=
  let (allWords, tail) := words bytes
  let (state, rest) :=
    if 32 ≤ bytes.length then
      let (lanes, rest) := (Lanes.start seed).absorb allWords
      (lanes.merge, rest)
    else (seed + prime5, allWords)
  avalanche (absorbTail (rest.foldl absorbWord (state + bytes.length.toUInt64)) tail)

end Formula.Hash
