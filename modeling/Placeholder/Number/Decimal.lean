import Placeholder.Text.Basic
import Placeholder.Number.Binary

namespace Placeholder.Number

structure Decimal where
  digits : Nat
  exponent : Int
  deriving DecidableEq

inductive Tie : Type
  | upper : Tie
  | even : Tie
  deriving DecidableEq

def Tie.goesUp (tie : Tie) (below toBelow toAbove : Nat) : Bool :=
  toAbove < toBelow || (toAbove == toBelow && (tie == .upper || below % 2 == 1))

namespace Binary

/-- The multiple of `10 ^ p` nearest to the number among those that round to it. Lengths are counted
in quarters of the last binary place; the ends of the interval round to an even mantissa. -/
def onGrid? (tie : Tie) (b : Binary) (p : Int) : Option Nat :=
  let value := 4 * b.mantissa
  let high := value + 2
  let low := if b.mantissa = fullMantissa ∧ least < b.exponent then value - 1 else value - 2
  let (n, d) : Nat × Nat :=
    match p with
    | .ofNat p => (Nat.pow 10 p, 1)
    | .negSucc p => (1, Nat.pow 10 (p + 1))
  let (step, unit) := inUnits n d (b.exponent - 2)
  let rounds (k : Nat) : Bool :=
    if b.mantissa % 2 = 0 then low * unit ≤ k * step && k * step ≤ high * unit
    else low * unit < k * step && k * step < high * unit
  let below := value * unit / step
  match rounds below, rounds (below + 1) with
  | false, false => none
  | true, false => some below
  | false, true => some (below + 1)
  | true, true =>
    if tie.goesUp below (value * unit - below * step) ((below + 1) * step - value * unit) then
      some (below + 1)
    else some below

def shortestFrom (tie : Tie) (b : Binary) : Nat → Decimal
  | 0 => ⟨0, 0⟩
  | k + 1 =>
    match b.onGrid? tie ((k : Int) - 330) with
    | some digits => ⟨digits, (k : Int) - 330⟩
    | none => b.shortestFrom tie k

/-- Every positive number has a hit between `10 ^ 309` and `10 ^ (-330)`. -/
def shortest (tie : Tie) (b : Binary) : Decimal :=
  if b.mantissa = 0 then ⟨0, 0⟩ else b.shortestFrom tie 640

end Binary

namespace Decimal

def digitText (d : Decimal) : Text := Text.ofNat d.digits

def lead (d : Decimal) : Int := (d.digitText.length : Int) - 1 + d.exponent

def positional (d : Decimal) : Text :=
  match d.exponent with
  | .ofNat e => d.digitText ++ List.replicate e '0' ++ ".0".toList
  | .negSucc _ =>
    match d.lead with
    | .ofNat l => d.digitText.take (l + 1) ++ '.' :: d.digitText.drop (l + 1)
    | .negSucc z => "0.".toList ++ List.replicate z '0' ++ d.digitText

def scientific (d : Decimal) : Text :=
  let fraction :=
    match d.digitText with
    | [] => []
    | [c] => [c]
    | c :: cs => c :: '.' :: cs
  let sign := if d.lead < 0 then '-' else '+'
  fraction ++ 'e' :: sign :: Text.ofNat d.lead.natAbs

end Decimal

structure Manner where
  compact : Int → Bool
  tie : Tie

def Float.text (manner : Manner) : Float → Text
  | .nan => "NaN".toList
  | .infinite negative => if negative then "-inf".toList else "inf".toList
  | .finite negative b =>
    let d := b.shortest manner.tie
    let body := if manner.compact d.lead then d.scientific else d.positional
    if negative then '-' :: body else body

end Placeholder.Number
