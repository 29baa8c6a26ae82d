/-
Binary floating point as bit patterns. A number is its bits; nothing here uses the machine's own floats.

Model:
- `Format` is an interchange format (fraction and exponent widths); `Binary64` and `Binary32` are the two that tensors
  use, each a word of the right width.
- `Format.ofRatio` is the one rounding step: the nearest representable number to `num / den`, ties to even, overflow to
  infinity. Every conversion (from decimals, from integers, from the wider to the narrower format) goes through it.

Powers are written `Nat.pow`, so that they are the same power where the algebraic hierarchy is in scope.
-/

namespace TensorGraph

/-! ## Formats -/

/-- a binary interchange format: `fraction` stored significand bits, `exponent` exponent bits -/
structure Format where
  fraction : Nat
  exponent : Nat
deriving DecidableEq, Repr

namespace Format

def double : Format := ⟨52, 11⟩

def single : Format := ⟨23, 8⟩

/-- the exponent field with every bit set: infinities and NaNs -/
def topField (f : Format) : Nat := Nat.pow 2 f.exponent - 1

/-- bit pattern of positive infinity -/
def infinity (f : Format) : Nat := f.topField * Nat.pow 2 f.fraction

/-- bit pattern of the quiet NaN with an empty payload -/
def quietNaN (f : Format) : Nat := f.infinity + Nat.pow 2 (f.fraction - 1)

/-- the weight of the sign bit -/
def signWeight (f : Format) : Nat := Nat.pow 2 (f.fraction + f.exponent)

/-- exponent of the last place of a subnormal number -/
def leastExponent (f : Format) : Int := 2 - (Nat.pow 2 (f.exponent - 1) : Nat) - f.fraction

/-- what a bit pattern means; a finite number is `significand * 2 ^ exponent` with its sign -/
inductive Datum
  | nan
  | infinite (negative : Bool)
  | finite (negative : Bool) (significand : Nat) (exponent : Int)
deriving DecidableEq, Repr

/-- read a bit pattern -/
def decode (f : Format) (bits : Nat) : Datum :=
  let negative := f.signWeight ≤ bits
  let field := bits / Nat.pow 2 f.fraction % Nat.pow 2 f.exponent
  let fraction := bits % Nat.pow 2 f.fraction
  if field = f.topField then
    if fraction = 0 then .infinite negative else .nan
  else if field = 0 then .finite negative fraction f.leastExponent
  else .finite negative (Nat.pow 2 f.fraction + fraction) (f.leastExponent + (field - 1 : Nat))

/-- the natural number nearest to `num / den`, a half going to the even neighbour -/
def nearestEven (num den : Nat) : Nat :=
  let q := num / den
  let r := num % den
  if 2 * r < den then q
  else if den < 2 * r then q + 1
  else if q % 2 = 0 then q else q + 1

/-- `num / den` in units of `2 ^ e`, as a fraction again -/
def inUnits (num den : Nat) (e : Int) : Nat × Nat :=
  if 0 ≤ e then (num, den * Nat.pow 2 e.toNat) else (num * Nat.pow 2 (-e).toNat, den)

/-- exponent of the last place in which a number with binary exponent near `num / den` is kept -/
def placeOf (f : Format) (num den : Nat) : Int :=
  let guess : Int := (Nat.log2 num : Int) - Nat.log2 den
  let (n, d) := inUnits num den guess
  let top := if d ≤ n then guess else guess - 1
  max (top - f.fraction) f.leastExponent

/-- bit pattern of the magnitude nearest to `num / den` (ties to even, overflow to infinity) -/
def ofRatio (f : Format) (num den : Nat) : Nat :=
  if num = 0 then 0
  else
    let place := f.placeOf num den
    let (n, d) := inUnits num den place
    -- a carry out of the significand moves into the exponent field by itself
    let bits := (place - f.leastExponent).toNat * Nat.pow 2 f.fraction + nearestEven n d
    if f.infinity ≤ bits then f.infinity else bits

/-- put a sign on a magnitude -/
def signed (f : Format) (negative : Bool) (magnitude : Nat) : Nat :=
  if negative then f.signWeight + magnitude else magnitude

/-- bit pattern nearest to `significand * 2 ^ exponent` -/
def ofScaled (f : Format) (negative : Bool) (significand : Nat) (exponent : Int) : Nat :=
  let magnitude :=
    if 0 ≤ exponent then f.ofRatio (significand * Nat.pow 2 exponent.toNat) 1
    else f.ofRatio significand (Nat.pow 2 (-exponent).toNat)
  f.signed negative magnitude

/-- bit pattern nearest to an integer -/
def ofInt (f : Format) (n : Int) : Nat :=
  f.signed (n < 0) (f.ofRatio n.natAbs 1)

/-- the number read from one format, rounded into another -/
def ofDatum (f : Format) : Datum → Nat
  | .nan => f.quietNaN
  | .infinite negative => f.signed negative f.infinity
  | .finite negative significand exponent => f.ofScaled negative significand exponent

end Format

/-! ## The two widths -/

/-- a double precision number -/
structure Binary64 where
  bits : UInt64
deriving DecidableEq, Repr, Inhabited

/-- a single precision number, the element of floating point tensors -/
structure Binary32 where
  bits : UInt32
deriving DecidableEq, Repr, Inhabited

namespace Binary64

def ofBits (n : Nat) : Binary64 := ⟨UInt64.ofNat n⟩

def datum (x : Binary64) : Format.Datum := Format.double.decode x.bits.toNat

def zero : Binary64 := ⟨0⟩

def nan : Binary64 := ofBits Format.double.quietNaN

def infinity (negative : Bool) : Binary64 := ofBits (Format.double.signed negative Format.double.infinity)

/-- the nearest double to an integer -/
def ofInt (n : Int) : Binary64 := ofBits (Format.double.ofInt n)

/-- whether the number is neither infinite nor a NaN -/
def isFinite (x : Binary64) : Bool :=
  match x.datum with
  | .finite .. => true
  | _ => false

def isNaN (x : Binary64) : Bool := x.datum = .nan

/-- whether the number is a zero of either sign -/
def isZero (x : Binary64) : Bool :=
  match x.datum with
  | .finite _ significand _ => significand = 0
  | _ => false

/-- the integer part, cut off to the signed 64-bit range; a NaN gives zero -/
def toInt64 (x : Binary64) : Int64 :=
  match x.datum with
  | .nan => 0
  | .infinite negative => if negative then Int64.minValue else Int64.maxValue
  | .finite negative significand exponent =>
    let magnitude : Nat :=
      if 0 ≤ exponent then significand * Nat.pow 2 exponent.toNat else significand / Nat.pow 2 (-exponent).toNat
    let n : Int := if negative then -magnitude else magnitude
    if n ≤ Int64.minValue.toInt then Int64.minValue
    else if Int64.maxValue.toInt ≤ n then Int64.maxValue
    else Int64.ofInt n

end Binary64

namespace Binary32

def ofBits (n : Nat) : Binary32 := ⟨UInt32.ofNat n⟩

def datum (x : Binary32) : Format.Datum := Format.single.decode x.bits.toNat

def zero : Binary32 := ⟨0⟩

def isNaN (x : Binary32) : Bool := x.datum = .nan

/-- the nearest single to an integer, in one rounding -/
def ofInt (n : Int) : Binary32 := ofBits (Format.single.ofInt n)

/-- the nearest single to a double; out of range is infinite -/
def ofBinary64 (x : Binary64) : Binary32 := ofBits (Format.single.ofDatum x.datum)

/-- the same number as a double; nothing is lost -/
def toBinary64 (x : Binary32) : Binary64 := Binary64.ofBits (Format.double.ofDatum x.datum)

end Binary32

end TensorGraph
