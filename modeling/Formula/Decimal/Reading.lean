import Formula.Decimal.Digits

/-!
# Reading numbers

The text of a number is an optional sign, digits with an optional point among them, and an optional
exponent; its value is the nearest double. The names of infinity and NaN are numbers as well.
-/

namespace Formula.Decimal

/-- The leading digits of a text and what follows them. -/
def splitDigits (text : List Char) : List Char × List Char :=
  (text.takeWhile isDigit, text.dropWhile isDigit)

/-- An optional sign and what follows it. -/
def splitSign : List Char → Bool × List Char
  | '+' :: rest => (false, rest)
  | '-' :: rest => (true, rest)
  | rest => (false, rest)

/-- The letter that starts an exponent, small or capital. -/
def isExponentMark (c : Char) : Bool :=
  c == 'e' || c == 'E'

/-- The exponent that ends a number: nothing at all, or a mark, an optional sign and digits. -/
def readExponent? : List Char → Option Int
  | [] => some 0
  | c :: rest =>
    if isExponentMark c then
      let (negative, rest) := splitSign rest
      let (power, rest) := splitDigits rest
      if power.isEmpty || !rest.isEmpty then none
      else some (if negative then -(ofDigits power : Int) else ofDigits power)
    else none

/-- The double nearest to `significand · 10 ^ exponent`. -/
def nearestDouble (significand : Nat) (exponent : Int) : Float :=
  Float.ofScientific significand (exponent < 0) exponent.natAbs

/-- A number without a sign: digits on at least one side of the point, and an exponent. -/
def readMagnitude? (text : List Char) : Option Float :=
  let (whole, rest) := splitDigits text
  let (fraction, rest) := match rest with
    | '.' :: rest => splitDigits rest
    | rest => ([], rest)
  if whole.isEmpty && fraction.isEmpty then none
  else (readExponent? rest).map fun power =>
    nearestDouble (ofDigits (whole ++ fraction)) (power - fraction.length)

/-- The value of the name of an infinity or of NaN, in any mixture of cases. -/
def readName? (text : List Char) : Option Float :=
  match String.ofList (text.map Char.toLower) with
  | "inf" | "infinity" => some (1 / 0)
  | "nan" => some (0 / 0)
  | _ => none

/-- The double that a text stands for, or nothing if the text is no number. -/
def read? (text : List Char) : Option Float :=
  let (negative, rest) := splitSign text
  let magnitude := (readMagnitude? rest).or (readName? rest)
  if negative then magnitude.map (-·) else magnitude

end Formula.Decimal
