/-!
# Numbers of variable length

A natural number as bytes of seven bits each, the lowest first; every byte but the last has its high
bit set. A reader grants a number only so many bytes, and the last of them only some of its bits.
Signed numbers are folded onto the natural ones so that small magnitudes stay short.
-/

namespace Formula

/-- Why bytes are not a program. -/
inductive DecodeError where
  | unexpectedEnd
  | badVarint
  deriving DecidableEq, Repr

/-- The sentence for a failure of reading. -/
def DecodeError.message : DecodeError → String
  | .unexpectedEnd => "Hit the end of buffer, expected more data"
  | .badVarint =>
    "Found a varint that didn't terminate. Is the usize too big for this platform?"

/-- Reading a value from the start of a list of bytes leaves the rest. -/
abbrev Reader (α : Type) := List UInt8 → Except DecodeError (α × List UInt8)

namespace Varint

/-- The bytes of a natural number. -/
def encode (n : Nat) : List UInt8 :=
  if n < 128 then [n.toUInt8] else (n % 128 + 128).toUInt8 :: encode (n / 128)
termination_by n

/-- The number at the start of the bytes. It may take `room` bytes, and if it takes them all then the
last one is at most `lastMax`. -/
def decode (lastMax : Nat) : (room : Nat) → Reader Nat
  | 0, _ => .error .badVarint
  | _ + 1, [] => .error .unexpectedEnd
  | room + 1, b :: rest =>
    if b.toNat < 128 then
      if room = 0 ∧ lastMax < b.toNat then .error .badVarint else .ok (b.toNat, rest)
    else do
      let (n, rest) ← decode lastMax room rest
      return (b.toNat - 128 + 128 * n, rest)

/-- Integers folded onto the natural numbers: 0, -1, 1, -2, 2, … -/
def fold (n : Int) : Nat :=
  if 0 ≤ n then 2 * n.toNat else 2 * (-n).toNat - 1

/-- The integer that a natural number was folded from. -/
def unfold (n : Nat) : Int :=
  if n % 2 = 0 then n / 2 else -(n / 2) - 1

end Varint

end Formula
