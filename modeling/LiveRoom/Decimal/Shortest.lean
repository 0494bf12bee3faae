/-!
# The shortest decimal that reads back

A binary fraction stands for every real number that rounds to it: an interval
around it, whose ends belong to it when its significand is even.  Among the
decimals in that interval the **shortest** ones have the fewest digits, and of
these the nearest one is written.

`Interval` is that interval in exact arithmetic and `Interval.shortest` the
search: for one digit, two digits, and so on up to seventeen it looks at the two
neighbours of the value on the grid of that many digits.  If any point of a grid
lies in the interval, one of these two does, so the first grid with a hit has the
fewest digits.
-/

namespace LiveRoom.Decimal

/-- **The real numbers that round to a positive value.**  All four numbers count
units of `unit / scale`: the value, the two ends, and whether the ends belong. -/
structure Interval where
  value : Nat
  low : Nat
  high : Nat
  closed : Bool
  /-- One is `scale` units. -/
  scale : Nat

/-- Whether `point`, in the interval's units times `factor`, lies inside. -/
def Interval.holds (i : Interval) (factor point : Nat) : Bool :=
  if i.closed then i.low * factor ≤ point && point ≤ i.high * factor
  else i.low * factor < point && point < i.high * factor

/-- **A decimal** `digits × 10 ^ exponent`, without trailing zeros. -/
structure Digits where
  digits : List Char
  exponent : Int

/-- The greatest `p` with `10 ^ p ≤ value / scale`, looked for in at most `fuel`
steps below one. -/
def magnitude (value scale : Nat) (fuel : Nat) : Int :=
  if scale ≤ value then ((Nat.toDigits 10 (value / scale)).length : Int) - 1
  else match (List.range fuel).find? fun j => scale ≤ value * Nat.pow 10 (j + 1) with
    | some j => -((j : Int) + 1)
    | none => -(fuel : Int)

/-- The decimal `point × 10 ^ exponent` with its trailing zeros moved into the
exponent. -/
def Digits.ofNat (point : Nat) (exponent : Int) : Digits :=
  let digits := Nat.toDigits 10 point
  let kept := (digits.reverse.dropWhile (· == '0')).reverse
  ⟨kept, exponent + (digits.length - kept.length : Nat)⟩

/-- The nearer of the value's two neighbours on the grid of step `10 ^ exponent`
that lie in the interval. -/
def Interval.onGrid (i : Interval) (exponent : Int) : Option Nat :=
  -- With both sides multiplied by `up`, the step of the grid is `step` units.
  let up := Nat.pow 10 (-exponent).toNat
  let step := Nat.pow 10 exponent.toNat * i.scale
  let value := i.value * up
  let below := value / step
  let fits (point : Nat) : Bool := i.holds up (point * step)
  let lowFits := fits below && below ≠ 0
  let highFits := fits (below + 1)
  if lowFits && highFits then
    let fall := value - below * step
    let rise := (below + 1) * step - value
    some (if fall < rise || (fall = rise && below % 2 = 0) then below else below + 1)
  else if lowFits then some below
  else if highFits then some (below + 1)
  else none

/-- **The shortest decimal in the interval**, of at most seventeen digits, and of
several the nearest to the value. -/
def Interval.shortest (i : Interval) : Digits :=
  let top := magnitude i.value i.scale 400
  let grids := (List.range 17).filterMap fun (n : Nat) =>
    let exponent := top - (n : Int)
    (i.onGrid exponent).map (Digits.ofNat · exponent)
  grids.head?.getD (Digits.ofNat (i.value / i.scale) 0)

/-- The numbers that round to a positive finite double, from its bits. -/
def Interval.ofBits (bits : Nat) : Interval :=
  let biased : Nat := bits / Nat.pow 2 52 % Nat.pow 2 11
  let fraction : Nat := bits % Nat.pow 2 52
  let significand : Nat := if biased = 0 then fraction else fraction + Nat.pow 2 52
  let exponent : Int := (if biased = 0 then 1 else (biased : Int)) - 1075
  -- The double below a power of two is only half as far away as the one above.
  let below := if fraction = 0 && 1 < biased then 1 else 2
  let lift := Nat.pow 2 exponent.toNat
  { value := 4 * significand * lift
    low := (4 * significand - below) * lift
    high := (4 * significand + 2) * lift
    closed := significand % 2 = 0
    scale := 4 * Nat.pow 2 (-exponent).toNat }

/-- Digits with the decimal point `places` digits after their start, between one
zero in front of the point and one behind it at least. -/
def positional (digits : List Char) (places : Int) : List Char :=
  if places ≤ 0 then '0' :: '.' :: (List.replicate (-places).toNat '0' ++ digits)
  else
    let places := places.toNat
    let padded := digits ++ List.replicate (places - digits.length) '0'
    let behind := padded.drop places
    padded.take places ++ '.' :: (if behind.isEmpty then ['0'] else behind)

/-- Digits in the form `d.ddde±x`. -/
def scientific (digits : List Char) (power : Int) : List Char :=
  let tail := digits.drop 1
  digits.take 1 ++ (if tail.isEmpty then [] else '.' :: tail) ++
    'e' :: (if power < 0 then '-' else '+') :: Nat.toDigits 10 power.natAbs

/-- **The text of a finite double**: its shortest digits, written positionally
from `1e-5` up to `1e16` and with an exponent outside; a whole number keeps `.0`. -/
def floatText (x : Float) : String :=
  let bits := x.toBits.toNat
  let sign := if bits < Nat.pow 2 63 then [] else ['-']
  let magnitude := bits % Nat.pow 2 63
  if magnitude = 0 then String.ofList (sign ++ ['0', '.', '0'])
  else
    let shortest := (Interval.ofBits magnitude).shortest
    let places := (shortest.digits.length : Int) + shortest.exponent
    String.ofList (sign ++
      if -5 < places && places ≤ 16 then positional shortest.digits places
      else scientific shortest.digits (places - 1))

end LiveRoom.Decimal
