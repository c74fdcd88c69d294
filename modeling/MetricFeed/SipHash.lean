/-
MetricFeed/SipHash.lean

SipHash-1-3 with both keys zero, over the UTF-8 bytes of a text followed by one byte of ones.
The broker spreads the keys of records over the partitions of a topic by it.
-/

namespace MetricFeed

namespace SipHash

/-- The four words that the hash works on. -/
structure State where
  v0 : UInt64
  v1 : UInt64
  v2 : UInt64
  v3 : UInt64

/-- The state before the first block, for keys of zero. -/
def State.initial : State :=
  ⟨0x736f6d6570736575, 0x646f72616e646f6d, 0x6c7967656e657261, 0x7465646279746573⟩

def rotateLeft (x : UInt64) (n : UInt64) : UInt64 :=
  (x <<< n) ||| (x >>> (64 - n))

/-- One mixing round. -/
def State.round (s : State) : State :=
  let v0 := s.v0 + s.v1
  let v1 := rotateLeft s.v1 13 ^^^ v0
  let v0 := rotateLeft v0 32
  let v2 := s.v2 + s.v3
  let v3 := rotateLeft s.v3 16 ^^^ v2
  let v0 := v0 + v3
  let v3 := rotateLeft v3 21 ^^^ v0
  let v2 := v2 + v1
  let v1 := rotateLeft v1 17 ^^^ v2
  let v2 := rotateLeft v2 32
  ⟨v0, v1, v2, v3⟩

/-- Takes in a block of eight bytes: one round. -/
def State.absorb (s : State) (block : UInt64) : State :=
  let s := State.round { s with v3 := s.v3 ^^^ block }
  { s with v0 := s.v0 ^^^ block }

/-- The hash at the end: three rounds. -/
def State.finish (s : State) : UInt64 :=
  let s := ({ s with v2 := s.v2 ^^^ 0xff } : State).round.round.round
  s.v0 ^^^ s.v1 ^^^ s.v2 ^^^ s.v3

/-- Bytes as a number, the first byte the least significant. -/
def littleEndian (bytes : List UInt8) : UInt64 :=
  bytes.foldr (fun b acc => (acc <<< 8) ||| b.toUInt64) 0

/-- Takes in the whole blocks of `bytes`, then the rest together with the length of it all. -/
def absorbAll (total : Nat) : (fuel : Nat) → State → List UInt8 → State
  | 0, s, _ => s
  | fuel + 1, s, bytes =>
    if bytes.length < 8 then
      s.absorb ((UInt64.ofNat (total % 256) <<< 56) ||| littleEndian bytes)
    else
      absorbAll total fuel (s.absorb (littleEndian (bytes.take 8))) (bytes.drop 8)

/-- The hash of a sequence of bytes. -/
def hashBytes (bytes : List UInt8) : UInt64 :=
  (absorbAll bytes.length (bytes.length / 8 + 1) .initial bytes).finish

/-- The hash of a text. -/
def hashText (s : String) : UInt64 :=
  hashBytes (s.toUTF8.toList ++ [0xff])

end SipHash

end MetricFeed
