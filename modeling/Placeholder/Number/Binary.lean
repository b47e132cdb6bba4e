namespace Placeholder.Number

structure Binary where
  mantissa : Nat
  exponent : Int
  deriving DecidableEq

def roundEven (num den : Nat) : Nat :=
  let q := num / den
  let r := num % den
  if den < 2 * r ∨ (2 * r = den ∧ q % 2 = 1) then q + 1 else q

namespace Binary

def least : Int := -1074

def greatest : Int := 971

def fullMantissa : Nat := 4503599627370496

def zero : Binary := ⟨0, least⟩

def inUnits (num den : Nat) : Int → Nat × Nat
  | .ofNat e => (num, den * Nat.pow 2 e)
  | .negSucc e => (num * Nat.pow 2 (e + 1), den)

def exponentOf (num den : Nat) : Int :=
  let e := (num.log2 : Int) - den.log2 - 53
  let (n, d) := inUnits num den e
  max (if fullMantissa * 2 ≤ n / d then e + 1 else e) least

/-- The number nearest to a fraction, unless that lies beyond the greatest one. -/
def nearest? (num den : Nat) : Option Binary :=
  if num = 0 then some zero
  else
    let e := exponentOf num den
    let (n, d) := inUnits num den e
    let m := roundEven n d
    let b : Binary := if m = fullMantissa * 2 then ⟨fullMantissa, e + 1⟩ else ⟨m, e⟩
    if b.exponent ≤ greatest then some b else none

def ratio (b : Binary) : Nat × Nat :=
  match b.exponent with
  | .ofNat e => (b.mantissa * Nat.pow 2 e, 1)
  | .negSucc e => (b.mantissa, Nat.pow 2 (e + 1))

def mul? (a b : Binary) : Option Binary :=
  nearest? (a.ratio.1 * b.ratio.1) (a.ratio.2 * b.ratio.2)

def div? (a b : Binary) : Option Binary :=
  nearest? (a.ratio.1 * b.ratio.2) (a.ratio.2 * b.ratio.1)

end Binary

inductive Float : Type
  | nan : Float
  | infinite : Bool → Float
  | finite : Bool → Binary → Float
  deriving DecidableEq

end Placeholder.Number
