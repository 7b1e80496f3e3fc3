/-!
# The XXH3 hash

The hash of sixty-four bits by which series are spread over workers, without a seed. It has a form
of its own for each of five ranges of lengths; longer inputs are taken in stripes of sixty-four
bytes, sixteen to a block, into eight accumulators.

Nothing but the hash itself is exported: it is a function from bytes to words of sixty-four bits.
-/

namespace TierCascade

namespace Xxh3

/-- The fixed bytes that inputs are mixed with. -/
def secret : ByteArray := ⟨#[
    0xb8, 0xfe, 0x6c, 0x39, 0x23, 0xa4, 0x4b, 0xbe, 0x7c, 0x01, 0x81, 0x2c, 0xf7, 0x21, 0xad, 0x1c,
    0xde, 0xd4, 0x6d, 0xe9, 0x83, 0x90, 0x97, 0xdb, 0x72, 0x40, 0xa4, 0xa4, 0xb7, 0xb3, 0x67, 0x1f,
    0xcb, 0x79, 0xe6, 0x4e, 0xcc, 0xc0, 0xe5, 0x78, 0x82, 0x5a, 0xd0, 0x7d, 0xcc, 0xff, 0x72, 0x21,
    0xb8, 0x08, 0x46, 0x74, 0xf7, 0x43, 0x24, 0x8e, 0xe0, 0x35, 0x90, 0xe6, 0x81, 0x3a, 0x26, 0x4c,
    0x3c, 0x28, 0x52, 0xbb, 0x91, 0xc3, 0x00, 0xcb, 0x88, 0xd0, 0x65, 0x8b, 0x1b, 0x53, 0x2e, 0xa3,
    0x71, 0x64, 0x48, 0x97, 0xa2, 0x0d, 0xf9, 0x4e, 0x38, 0x19, 0xef, 0x46, 0xa9, 0xde, 0xac, 0xd8,
    0xa8, 0xfa, 0x76, 0x3f, 0xe3, 0x9c, 0x34, 0x3f, 0xf9, 0xdc, 0xbb, 0xc7, 0xc7, 0x0b, 0x4f, 0x1d,
    0x8a, 0x51, 0xe0, 0x4b, 0xcd, 0xb4, 0x59, 0x31, 0xc8, 0x9f, 0x7e, 0xc9, 0xd9, 0x78, 0x73, 0x64,
    0xea, 0xc5, 0xac, 0x83, 0x34, 0xd3, 0xeb, 0xc3, 0xc5, 0x81, 0xa0, 0xff, 0xfa, 0x13, 0x63, 0xeb,
    0x17, 0x0d, 0xdd, 0x51, 0xb7, 0xf0, 0xda, 0x49, 0xd3, 0x16, 0x55, 0x26, 0x29, 0xd4, 0x68, 0x9e,
    0x2b, 0x16, 0xbe, 0x58, 0x7d, 0x47, 0xa1, 0xfc, 0x8f, 0xf8, 0xb8, 0xd1, 0x7a, 0xd0, 0x31, 0xce,
    0x45, 0xcb, 0x3a, 0x8f, 0x95, 0x16, 0x04, 0x28, 0xaf, 0xd7, 0xfb, 0xca, 0xbb, 0x4b, 0x40, 0x7e]⟩

def prime1 : UInt64 := 0x9E3779B185EBCA87
def prime2 : UInt64 := 0xC2B2AE3D27D4EB4F
def prime3 : UInt64 := 0x165667B19E3779F9
def prime4 : UInt64 := 0x85EBCA77C2B2AE63
def prime5 : UInt64 := 0x27D4EB2F165667C5
def short1 : UInt64 := 0x9E3779B1
def short2 : UInt64 := 0x85EBCA77
def short3 : UInt64 := 0xC2B2AE3D

def byteAt (b : ByteArray) (i : Nat) : UInt64 := (b.data.getD i 0).toUInt64

/-- The word of `width` bytes from a place on, lowest byte first. -/
def wordAt (b : ByteArray) : Nat → Nat → UInt64
  | 0, _ => 0
  | width + 1, i => byteAt b i ||| wordAt b width (i + 1) <<< 8

/-- The word of eight bytes from a place on. -/
def word (b : ByteArray) (i : Nat) : UInt64 := wordAt b 8 i

def key (i : Nat) : UInt64 := word secret i

def rotate (x : UInt64) (bits : UInt64) : UInt64 := x <<< bits ||| x >>> (64 - bits)

def swapBytes (x : UInt64) : UInt64 :=
  (List.range 8).foldl (fun acc i => acc <<< 8 ||| (x >>> (8 * i).toUInt64 &&& 0xFF)) 0

def foldProduct (x y : UInt64) : UInt64 :=
  let product := x.toNat * y.toNat
  UInt64.ofNat (product % Nat.pow 2 64) ^^^ UInt64.ofNat (product / Nat.pow 2 64)

def foldShift (x : UInt64) (bits : UInt64) : UInt64 := x ^^^ x >>> bits

/-- The last mixing of long inputs. -/
def finish (x : UInt64) : UInt64 := foldShift (foldShift x 37 * 0x165667919E3779F9) 32

/-- The last mixing of the shortest inputs. -/
def finishShort (x : UInt64) : UInt64 := foldShift (foldShift (foldShift x 33 * prime2) 29 * prime3) 32

def mix (b : ByteArray) (i k : Nat) : UInt64 :=
  foldProduct (word b i ^^^ key k) (word b (i + 8) ^^^ key (k + 8))

def upTo3 (b : ByteArray) : UInt64 :=
  let n := b.size
  let combined := byteAt b 0 <<< 16 ||| byteAt b (n / 2) <<< 24 ||| byteAt b (n - 1) ||| n.toUInt64 <<< 8
  finishShort (combined ^^^ (wordAt secret 4 0 ^^^ wordAt secret 4 4))

def upTo8 (b : ByteArray) : UInt64 :=
  let n := b.size
  let x := (wordAt b 4 (n - 4) + wordAt b 4 0 <<< 32) ^^^ (key 8 ^^^ key 16)
  let x := (x ^^^ rotate x 49 ^^^ rotate x 24) * 0x9FB21C651E98DF25
  foldShift ((x ^^^ (x >>> 35 + n.toUInt64)) * 0x9FB21C651E98DF25) 28

def upTo16 (b : ByteArray) : UInt64 :=
  let n := b.size
  let low := word b 0 ^^^ (key 24 ^^^ key 32)
  let high := word b (n - 8) ^^^ (key 40 ^^^ key 48)
  finish (n.toUInt64 + swapBytes low + high + foldProduct low high)

/-- Inputs of seventeen to a hundred and twenty-eight bytes: pieces from both ends. -/
def upTo128 (b : ByteArray) : UInt64 :=
  let n := b.size
  let pairs := (n - 1) / 32 + 1
  finish ((List.range pairs).foldl
    (fun acc i => acc + mix b (16 * i) (32 * i) + mix b (n - 16 * (i + 1)) (32 * i + 16))
    (n.toUInt64 * prime1))

def upTo240 (b : ByteArray) : UInt64 :=
  let n := b.size
  let first := (List.range 8).foldl (fun acc i => acc + mix b (16 * i) (16 * i)) (n.toUInt64 * prime1)
  let others := (List.range (n / 16 - 8)).foldl (fun acc i => acc + mix b (16 * (i + 8)) (16 * i + 3))
    (mix b (n - 16) 119)
  finish (finish first + others)

/-! ### Long inputs -/

/-- The eight accumulators before the first stripe. -/
def lanes : List UInt64 := [short3, prime1, prime2, prime3, prime4, short2, prime5, short1]

/-- Takes a stripe of sixty-four bytes into the accumulators. Each one also takes what its neighbour
reads. -/
def takeStripe (b : ByteArray) (i k : Nat) (acc : List UInt64) : List UInt64 :=
  acc.mapIdx fun lane x =>
    let own : UInt64 := word b (i + 8 * lane) ^^^ key (k + 8 * lane)
    let neighbour : UInt64 := word b (i + 8 * (if lane % 2 = 0 then lane + 1 else lane - 1))
    x + neighbour + own % 0x100000000 * (own >>> 32)

/-- Stirs the accumulators at the end of a block. -/
def scramble (acc : List UInt64) : List UInt64 :=
  acc.mapIdx fun lane x => (foldShift x 47 ^^^ key (128 + 8 * lane)) * short1

def takeStripes (b : ByteArray) (i count : Nat) (acc : List UInt64) : List UInt64 :=
  (List.range count).foldl (fun acc s => takeStripe b (i + 64 * s) (8 * s) acc) acc

/-- Joins neighbouring accumulators. -/
def merge : Nat → List UInt64 → UInt64 → UInt64
  | k, x :: y :: rest, sum => merge (k + 16) rest (sum + foldProduct (x ^^^ key k) (y ^^^ key (k + 8)))
  | _, _, sum => sum

/-- Inputs of more than two hundred and forty bytes. The last stripe ends with the input, whatever
it shares with the one before. -/
def long (b : ByteArray) : UInt64 :=
  let n := b.size
  let blocks := (n - 1) / 1024
  let acc := (List.range blocks).foldl (fun acc i => scramble (takeStripes b (1024 * i) 16 acc)) lanes
  let acc := takeStripes b (1024 * blocks) ((n - 1 - 1024 * blocks) / 64) acc
  let acc := takeStripe b (n - 64) 121 acc
  finish (merge 11 acc (n.toUInt64 * prime1))

end Xxh3

def xxh3 (b : ByteArray) : UInt64 :=
  let n := b.size
  if n = 0 then Xxh3.finishShort (Xxh3.key 56 ^^^ Xxh3.key 64)
  else if n ≤ 3 then Xxh3.upTo3 b
  else if n ≤ 8 then Xxh3.upTo8 b
  else if n ≤ 16 then Xxh3.upTo16 b
  else if n ≤ 128 then Xxh3.upTo128 b
  else if n ≤ 240 then Xxh3.upTo240 b
  else Xxh3.long b

end TierCascade
