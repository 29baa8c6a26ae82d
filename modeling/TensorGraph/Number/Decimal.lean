/-
Decimal text of binary numbers, both ways.

Model:
- `Decimal` is a signed coefficient and a power of ten; `Decimal.toBinary64` rounds it to the nearest double.
- `shortest` finds the fewest digits that read back as the same number: on each decimal grid, coarse to fine, the two
  neighbours of the number are tested against the interval of reals that round to it. Of two hits the nearer wins, and
  an exact tie goes up.
- `ScalarStyle` says how digits and exponent are laid out; `Binary64.render` is the layout of scalar literals.
-/
import TensorGraph.Number.Binary

namespace TensorGraph

/-! ## Reading -/

/-- `coefficient * 10 ^ exponent`, with a sign of its own so that a negative zero is kept -/
structure Decimal where
  negative : Bool
  coefficient : Nat
  exponent : Int
deriving DecidableEq, Repr

namespace Decimal

/-- how many digits a positive number has before the point -/
def digitCount (n : Nat) : Nat := (Nat.toDigits 10 n).length

/--
The nearest double. A coefficient whose leading digit stands far outside the range of doubles is infinite or zero
without the power being formed.
-/
def toBinary64 (d : Decimal) : Binary64 :=
  let f := Format.double
  let leading : Int := digitCount d.coefficient + d.exponent
  let magnitude :=
    if d.coefficient = 0 ∨ leading < -400 then 0
    else if 400 < leading then f.infinity
    else if 0 ≤ d.exponent then f.ofRatio (d.coefficient * Nat.pow 10 d.exponent.toNat) 1
    else f.ofRatio d.coefficient (Nat.pow 10 (-d.exponent).toNat)
  Binary64.ofBits (f.signed d.negative magnitude)

end Decimal

/-! ## Shortest digits -/

namespace Shortest

/-- the reals that round to a number, as numerators over one denominator -/
structure Interval where
  low : Nat
  value : Nat
  high : Nat
  den : Nat
  /-- whether the end points round to the number too -/
  closed : Bool

/-- the interval of a positive finite number `significand * 2 ^ exponent` of a format -/
def interval (f : Format) (significand : Nat) (exponent : Int) : Interval :=
  -- the gap below a power of two is half the gap above it
  let narrow := significand = Nat.pow 2 f.fraction ∧ exponent ≠ f.leastExponent
  let below := if narrow then 1 else 2
  let up := if 0 ≤ exponent then Nat.pow 2 exponent.toNat else 1
  let down := if 0 ≤ exponent then 1 else Nat.pow 2 (-exponent).toNat
  ⟨(4 * significand - below) * up, 4 * significand * up, (4 * significand + 2) * up, 4 * down, significand % 2 = 0⟩

/-- whether `digits * 10 ^ place` rounds to the number -/
def Interval.admits (i : Interval) (digits : Nat) (place : Int) : Bool :=
  let up := if 0 ≤ place then Nat.pow 10 place.toNat else 1
  let down := if 0 ≤ place then 1 else Nat.pow 10 (-place).toNat
  let x := digits * up * i.den
  let low := i.low * down
  let high := i.high * down
  if i.closed then low ≤ x ∧ x ≤ high else low < x ∧ x < high

/-- the least `p` with `num / den < 10 ^ p`, for a positive number: where its first digit stands -/
def leadingPlace (num den : Nat) : Int :=
  if den ≤ num then Decimal.digitCount (num / den)
  else
    let zeros : Nat := ((List.range 400).find? (fun j => den ≤ num * Nat.pow 10 (j + 1))).getD 0
    Int.neg zeros

/-- the hit on one grid, if there is one: the nearer neighbour, a tie going up -/
def onGrid (i : Interval) (place : Int) : Option Nat :=
  let up := if 0 ≤ place then Nat.pow 10 place.toNat else 1
  let down := if 0 ≤ place then 1 else Nat.pow 10 (-place).toNat
  let num := i.value * down
  let den := i.den * up
  let floor := num / den
  let twice := 2 * (num % den)
  let lowHit := i.admits floor place
  let highHit := i.admits (floor + 1) place
  if lowHit && highHit then some (if twice < den then floor else floor + 1)
  else if lowHit then some floor
  else if highHit then some (floor + 1)
  else none

/-- the shortest digits and the place of the last one, trying one digit, then two, and so on -/
def search (i : Interval) (lead : Int) : (tries : Nat) → (digits : Nat) → Nat × Int
  | 0, _ => (0, 0)
  | tries + 1, digits =>
    let place := lead - digits
    match onGrid i place with
    | some n => (n, place)
    | none => search i lead tries (digits + 1)

end Shortest

/-- the fewest decimal digits that read back as `significand * 2 ^ exponent`, and the place of the last digit -/
def shortest (f : Format) (significand : Nat) (exponent : Int) : Nat × Int :=
  let i := Shortest.interval f significand exponent
  Shortest.search i (Shortest.leadingPlace i.value i.den) 20 1

/-! ## Layout -/

/-- how a number is laid out in text -/
structure ScalarStyle where
  /-- the smallest power of ten written positionally -/
  positionalFrom : Int
  /-- the first power of ten that is no longer written positionally -/
  positionalTo : Int
  /-- written after a whole number -/
  wholeSuffix : String
  exponentMark : String
  nan : String
  infinity : String

/-- scalar literals: positional from `1e-4` up to `1e16` with at least one decimal, else an exponent without sign `+` -/
def ScalarStyle.literal : ScalarStyle := ⟨-4, 16, ".0", "e", "NaN", "inf"⟩

namespace ScalarStyle

/-- drop trailing zeros of a digit string, moving the last place along -/
def trim (digits : Nat) (place : Int) : (tries : Nat) → Nat × Int
  | 0 => (digits, place)
  | tries + 1 => if digits % 10 = 0 ∧ digits ≠ 0 then trim (digits / 10) (place + 1) tries else (digits, place)

/-- digits and the place of the last one, without a sign -/
def layOut (style : ScalarStyle) (digits : Nat) (place : Int) : String :=
  let text := Nat.toDigits 10 digits
  -- power of ten of the first digit
  let top : Int := place + text.length - 1
  if style.positionalFrom ≤ top ∧ top < style.positionalTo then
    if 0 ≤ place then
      String.ofList (text ++ List.replicate place.toNat '0') ++ style.wholeSuffix
    else if 0 ≤ top then
      String.ofList (text.take (top + 1).toNat ++ '.' :: text.drop (top + 1).toNat)
    else
      String.ofList ('0' :: '.' :: List.replicate (-top - 1).toNat '0' ++ text)
  else
    let mantissa := match text with
      | first :: second :: rest => first :: '.' :: second :: rest
      | short => short
    String.ofList mantissa ++ style.exponentMark ++ toString top

/-- text of a number of a format -/
def render (style : ScalarStyle) (f : Format) : Format.Datum → String
  | .nan => style.nan
  | .infinite negative => (if negative then "-" else "") ++ style.infinity
  | .finite negative significand exponent =>
    let sign := if negative then "-" else ""
    if significand = 0 then sign ++ "0" ++ style.wholeSuffix
    else
      let (digits, place) := shortest f significand exponent
      let (digits, place) := trim digits place 20
      sign ++ style.layOut digits place

end ScalarStyle

/-- text of a scalar literal: the fewest digits that read back as the same double -/
def Binary64.render (x : Binary64) : String := ScalarStyle.literal.render Format.double x.datum

end TensorGraph
