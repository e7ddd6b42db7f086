import Formula.Program
import Formula.Program.Varint

/-!
# Programs as bytes

A program is written as the number of its words and the words, then the number of its constants and
the constants. Counts are numbers of variable length, words are folded ones, and constants take eight
bytes each, the lowest first. Bytes after a program are ignored.
-/

namespace Formula

namespace Program

/-- The bytes of a 64-bit pattern, the lowest first. -/
def patternBytes (pattern : UInt64) : List UInt8 :=
  (List.range 8).map fun i => (pattern.toNat / Nat.pow 256 i).toUInt8

/-- The number whose bytes are given, the lowest first. -/
def ofBytesLow (bytes : List UInt8) : Nat :=
  bytes.foldr (fun b n => b.toNat + 256 * n) 0

/-- The bytes of a program. -/
def toBytes (p : Program) : List UInt8 :=
  Varint.encode p.code.size
    ++ p.code.toList.flatMap (fun w => Varint.encode (Varint.fold w.toInt))
    ++ Varint.encode p.constants.size
    ++ p.constants.toList.flatMap patternBytes

/-- A count: 64 bits, seven to a byte. -/
def readCount : Reader Nat :=
  Varint.decode 1 10

/-- A word: 32 bits, seven to a byte. -/
def readWord : Reader Int32 := fun bytes => do
  let (n, rest) ← Varint.decode 15 5 bytes
  return (Int32.ofInt (Varint.unfold n), rest)

/-- A constant. -/
def readPattern : Reader UInt64 := fun bytes =>
  let pattern := bytes.take 8
  if pattern.length < 8 then .error .unexpectedEnd
  else .ok ((ofBytesLow pattern).toUInt64, bytes.drop 8)

/-- The given number of values, one after the other. -/
def readMany {α : Type} (read : Reader α) : Nat → Reader (List α)
  | 0, bytes => .ok ([], bytes)
  | n + 1, bytes => do
    let (a, rest) ← read bytes
    let (as, rest) ← readMany read n rest
    return (a :: as, rest)

/-- The program at the start of the bytes. -/
def ofBytes (bytes : List UInt8) : Except DecodeError Program := do
  let (size, rest) ← readCount bytes
  let (code, rest) ← readMany readWord size rest
  let (size, rest) ← readCount rest
  let (constants, _) ← readMany readPattern size rest
  return { code := code.toArray, constants := constants.toArray }

end Program

end Formula
