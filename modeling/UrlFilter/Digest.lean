import UrlFilter.Text.Utf8

/-!
# Digests

A digest is a number of 64 bits that stands for a string of bytes.  It is computed by the hash
function XXH64 with the seed zero.  Bytes are taken in stripes of 32, each of which feeds four
accumulators.  What is left goes in by words of eight bytes, then of four, then byte by byte.  A
last step lets every bit of the input bear on every bit of the digest.

A batch of lines has a digest too.  It is the digest of a string of bytes that tells the lines
apart: in front of each line stands its length, and at the end stands the number of lines.
-/

namespace UrlFilter

/-- A number of 64 bits that stands for a string of bytes. -/
abbrev Digest := UInt64

namespace Digest

/-! ## Words -/

/-- The number of some bytes, the least significant first. -/
def word : Bytes → UInt64
  | [] => 0
  | b :: r => b.toUInt64 + 256 * word r

/-- Turns a word to the left. -/
def rotate (w : UInt64) (bits : UInt64) : UInt64 := (w <<< bits) ||| (w >>> (64 - bits))

/-- The first multiplier. -/
def prime1 : UInt64 := 0x9E3779B185EBCA87

/-- The second multiplier. -/
def prime2 : UInt64 := 0xC2B2AE3D27D4EB4F

/-- The third multiplier. -/
def prime3 : UInt64 := 0x165667B19E3779F9

/-- The fourth multiplier. -/
def prime4 : UInt64 := 0x85EBCA77C2B2AE63

/-- The fifth multiplier. -/
def prime5 : UInt64 := 0x27D4EB2F165667C5

/-- An accumulator that has taken a word in. -/
def round (acc w : UInt64) : UInt64 := rotate (acc + w * prime2) 31 * prime1

/-! ## Stripes -/

/-- The four accumulators. -/
structure Lanes where
  /-- The accumulator of the first words. -/
  first : UInt64
  /-- The accumulator of the second words. -/
  second : UInt64
  /-- The accumulator of the third words. -/
  third : UInt64
  /-- The accumulator of the fourth words. -/
  fourth : UInt64

/-- The accumulators at the start. -/
def Lanes.start : Lanes := ⟨prime1 + prime2, prime2, 0, 0 - prime1⟩

/-- The accumulators behind a stripe. -/
def Lanes.take (l : Lanes) (stripe : Bytes) : Lanes where
  first := round l.first (word (stripe.take 8))
  second := round l.second (word ((stripe.drop 8).take 8))
  third := round l.third (word ((stripe.drop 16).take 8))
  fourth := round l.fourth (word ((stripe.drop 24).take 8))

/-- The accumulators behind so many stripes, and the bytes that are left. -/
def Lanes.takeMany (l : Lanes) : Nat → Bytes → Lanes × Bytes
  | 0, bytes => (l, bytes)
  | n + 1, bytes => (l.take (bytes.take 32)).takeMany n (bytes.drop 32)

/-- Adds an accumulator to their combination. -/
def mergeRound (acc lane : UInt64) : UInt64 := (acc ^^^ round 0 lane) * prime1 + prime4

/-- The combination of the accumulators. -/
def Lanes.merge (l : Lanes) : UInt64 :=
  let sum := rotate l.first 1 + rotate l.second 7 + rotate l.third 12 + rotate l.fourth 18
  mergeRound (mergeRound (mergeRound (mergeRound sum l.first) l.second) l.third) l.fourth

/-! ## The rest -/

/-- Takes in a word of eight bytes. -/
def takeEight (acc w : UInt64) : UInt64 := rotate (acc ^^^ round 0 w) 27 * prime1 + prime4

/-- Takes in a word of four bytes. -/
def takeFour (acc w : UInt64) : UInt64 := rotate (acc ^^^ (w * prime1)) 23 * prime2 + prime3

/-- Takes in a byte. -/
def takeByte (acc : UInt64) (b : UInt8) : UInt64 :=
  rotate (acc ^^^ (b.toUInt64 * prime5)) 11 * prime1

/-- Takes in fewer bytes than eight. -/
def takeFew (acc : UInt64) : Bytes → UInt64
  | a :: b :: c :: d :: r => r.foldl takeByte (takeFour acc (word [a, b, c, d]))
  | r => r.foldl takeByte acc

/-- Takes in fewer bytes than a stripe. -/
def takeRest (acc : UInt64) : Bytes → UInt64
  | a :: b :: c :: d :: e :: f :: g :: h :: r =>
    takeRest (takeEight acc (word [a, b, c, d, e, f, g, h])) r
  | r => takeFew acc r

/-- Lets every bit bear on every other. -/
def mix (w : UInt64) : UInt64 :=
  let w := (w ^^^ (w >>> 33)) * prime2
  let w := (w ^^^ (w >>> 29)) * prime3
  w ^^^ (w >>> 32)

/-- The digest of a string of bytes. -/
def ofBytes (bytes : Bytes) : Digest :=
  let (lanes, rest) := Lanes.start.takeMany (bytes.length / 32) bytes
  let acc := if bytes.length < 32 then prime5 else lanes.merge
  mix (takeRest (acc + UInt64.ofNat bytes.length) rest)

/-! ## Digests of texts and of lines -/

/-- The digest of a text. -/
def ofText (t : Text) : Digest := ofBytes (Utf8.encode t)

/-- So many bytes of a number, the least significant first. -/
def littleEndian : Nat → Nat → Bytes
  | 0, _ => []
  | count + 1, n => UInt8.ofNat n :: littleEndian count (n / 256)

/-- A number of 64 bits as bytes. -/
def word64 (n : Nat) : Bytes := littleEndian 8 n

/-- A line behind its length. -/
def lineBytes (line : Text) : Bytes := word64 (Utf8.encode line).length ++ Utf8.encode line

/-- The bytes that tell a batch of lines from any other. -/
def batchBytes (lines : List Text) : Bytes := lines.flatMap lineBytes ++ word64 lines.length

/-- The digest of a batch of lines. -/
def ofLines (lines : List Text) : Digest := ofBytes (batchBytes lines)

/-! ## Writing digests -/

/-- So many hexadecimal digits of a number, behind some. -/
def hexDigits : Nat → Nat → Text → Text
  | 0, _, digits => digits
  | count + 1, n, digits => hexDigits count (n / 16) (Nat.digitChar (n % 16) :: digits)

/-- A digest as sixteen hexadecimal digits in lower case. -/
def toHex (d : Digest) : Text := hexDigits 16 d.toNat []

end Digest

end UrlFilter
