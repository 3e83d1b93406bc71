/-!
# Variable-length numbers

Messages write a number below `2 ^ 64` in base 128, the low digit first, one digit to a byte, with
the high bit set on every byte but the last (`varint`). The reader takes up to ten bytes, which is
what the largest number needs; a tenth byte may only add the top bit, and a byte that should be the
last but announces another makes the number unreadable. Readers accept longer forms than the writer
produces.

`varintLength` computes how many bytes the writer needs from the number of bits alone.
-/

namespace ClusterLink.Wire

/-- **The bytes of a number**, as few as possible. -/
def varint (n : Nat) : List UInt8 :=
  if n < 128 then [UInt8.ofNat n] else UInt8.ofNat (n % 128 + 128) :: varint (n / 128)
termination_by n
decreasing_by omega

/-- How many bytes a number below `2 ^ 64` takes: one per seven bits, and one for zero. -/
def varintLength (n : Nat) : Nat := ((n ||| 1).log2 * 9 + 73) / 64

/-- Reads a number from at most `left` bytes, and gives what follows. -/
def readVarintWithin : (left : Nat) → List UInt8 → Option (Nat × List UInt8)
  | 0, _ | _ + 1, [] => none
  | left + 1, b :: rest =>
    if b.toNat < 128 then
      if left = 0 ∧ 1 < b.toNat then none else some (b.toNat, rest)
    else (readVarintWithin left rest).map fun r => (b.toNat - 128 + 128 * r.1, r.2)

/-- **Reads a number**, and gives what follows. -/
def readVarint (bs : List UInt8) : Option (Nat × List UInt8) := readVarintWithin 10 bs

end ClusterLink.Wire
