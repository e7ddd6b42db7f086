import Formula.Opcode

/-!
# The catalogue of names

The names that a formula can use without declaring them: functions with a fixed number of arguments,
the conditional under its two names, and two constants. The names of the constants are reserved; the
names of functions are not, but the catalogue is asked first.
-/

namespace Formula

/-- What a called name stands for. -/
inductive Callee where
  | function (f : Function)
  | conditional
  deriving DecidableEq, Repr

namespace Callee

/-- The number of arguments of a call. -/
def arity : Callee → Nat
  | .function f => f.arity
  | .conditional => 3

/-- The instruction that stands for a called name in listings. -/
def opcode : Callee → Opcode
  | .function f => .call f
  | .conditional => .conditional

end Callee

namespace Catalogue

/-- Every name that can be called. -/
def functions : List (String × Callee) :=
  [("abs", .function (.one .abs)),
   ("iif", .conditional),
   ("if", .conditional),
   ("min", .function (.two .min)),
   ("max", .function (.two .max)),
   ("sqrt", .function (.one .sqrt)),
   ("power", .function (.two .power)),
   ("round", .function (.one .round)),
   ("floor", .function (.one .floor)),
   ("ceil", .function (.one .ceil)),
   ("cos", .function (.one .cos)),
   ("cosd", .function (.one .cosDeg)),
   ("sin", .function (.one .sin)),
   ("sind", .function (.one .sinDeg)),
   ("tan", .function (.one .tan)),
   ("tand", .function (.one .tanDeg)),
   ("acos", .function (.one .acos)),
   ("acosd", .function (.one .acosDeg)),
   ("asin", .function (.one .asin)),
   ("asind", .function (.one .asinDeg)),
   ("atan", .function (.one .atan)),
   ("atand", .function (.one .atanDeg)),
   ("avg", .function (.two .avg)),
   ("numberformat", .function .numberFormat)]

/-- The named constants: the base of the natural logarithm and the ratio of a circle's circumference
to its diameter, as the nearest doubles. -/
def constants : List (String × Float) :=
  [("ce", Float.ofBits 0x4005BF0A8B145769), ("cpi", Float.ofBits 0x400921FB54442D18)]

/-- What a name stands for when it is called. -/
def callee? (name : String) : Option Callee :=
  functions.lookup name

/-- The value of a named constant. -/
def constant? (name : String) : Option Float :=
  constants.lookup name

/-- Whether a name cannot be a parameter. -/
def isReserved (name : String) : Bool :=
  (constant? name).isSome

/-- The first entry that stands for an instruction. -/
def entryOf? (op : Opcode) : Option (String × Callee) :=
  functions.find? fun (_, callee) => callee.opcode == op

/-- The name of an instruction for a reader: that of the function it calls, or its mnemonic. -/
def nameOf (op : Opcode) : String :=
  ((entryOf? op).map (·.1)).getD op.mnemonic

end Catalogue

end Formula
