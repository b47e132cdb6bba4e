import Placeholder.Yaml.Document

namespace Placeholder.Yaml

open Number

def isNull (s : Text) : Bool :=
  ["null".toList, "Null".toList, "NULL".toList, ['~']].contains s

def boolean? (s : Text) : Option Bool :=
  if ["true".toList, "True".toList, "TRUE".toList].contains s then some true
  else if ["false".toList, "False".toList, "FALSE".toList].contains s then some false
  else none

def digitIn? (radix : Nat) (c : Char) : Option Nat := (hexDigit? c).filter (· < radix)

def natIn? (radix : Nat) (s : Text) : Option Nat :=
  if s.isEmpty then none
  else s.foldlM (fun n c => (digitIn? radix c).map (n * radix + ·)) 0

def radixMark? : Text → Option (Nat × Text)
  | '0' :: 'x' :: s => some (16, s)
  | '0' :: 'o' :: s => some (8, s)
  | '0' :: 'b' :: s => some (2, s)
  | _ => none

def isSign (c : Char) : Bool := c == '+' || c == '-'

def startsWithSign (s : Text) : Bool := (s.head?.map isSign).getD false

def withoutSign : Text → Text
  | c :: s => if isSign c then s else c :: s
  | [] => []

def isPadded (s : Text) : Bool :=
  match withoutSign s with
  | '0' :: d :: s => (d :: s).all Char.isDigit
  | _ => false

def unsigned? (limit : Nat) (s : Text) : Option Int :=
  let t := if s.head? = some '+' then s.drop 1 else s
  let within (n : Option Nat) : Option Int := (n.filter (· ≤ limit)).map Int.ofNat
  match (radixMark? t).bind fun (radix, r) => within (natIn? radix r) with
  | some n => some n
  | none =>
    if startsWithSign t || isPadded s || ((radixMark? t).map fun x => startsWithSign x.2).getD false
    then none
    else within (natIn? 10 t)

def negative? (limit : Nat) (s : Text) : Option Int :=
  match s with
  | '-' :: t =>
    let within (n : Option Nat) : Option Int := (n.filter (· ≤ limit)).map fun n => -(n : Int)
    match (radixMark? t).bind fun (radix, r) => within (natIn? radix r) with
    | some n => some n
    | none => if isPadded s then none else within (natIn? 10 t)
  | _ => none

def integer? (s : Text) : Option Found :=
  (unsigned? 0xFFFFFFFFFFFFFFFF s).map Found.integer <|>
  (negative? 0x8000000000000000 s).map Found.integer <|>
  (unsigned? 0xFFFFFFFFFFFFFFFFFFFFFFFFFFFFFFFF s).map (Found.wide · "u128".toList) <|>
  (negative? 0x80000000000000000000000000000000 s).map (Found.wide · "i128".toList)

structure Scientific where
  digits : Text
  exponent : Int

def mantissa (s : Text) : Option (Scientific × Text) :=
  let whole := s.takeWhile Char.isDigit
  match s.dropWhile Char.isDigit with
  | '.' :: r =>
    let fraction := r.takeWhile Char.isDigit
    if whole.isEmpty && fraction.isEmpty then none
    else some (⟨whole ++ fraction, -(fraction.length : Int)⟩, r.dropWhile Char.isDigit)
  | r => if whole.isEmpty then none else some (⟨whole, 0⟩, r)

def exponent? : Text → Option Int
  | [] => some 0
  | c :: s =>
    if c = 'e' ∨ c = 'E' then
      (natIn? 10 (withoutSign s)).map fun n => if s.head? = some '-' then -(n : Int) else n
    else none

/-- Beyond so many places in front of the point every number is too great, and behind it too small.
-/
def placesLimit : Nat := 400

def nearest? (x : Scientific) : Option Binary := do
  let n ← natIn? 10 x.digits
  let digits := x.digits.dropWhile (· == '0')
  if n = 0 then some .zero
  else if (placesLimit : Int) < digits.length + x.exponent then none
  else if digits.length + x.exponent < -(placesLimit : Int) then some .zero
  else
    match x.exponent with
    | .ofNat e => Binary.nearest? (n * Nat.pow 10 e) 1
    | .negSucc e => Binary.nearest? n (Nat.pow 10 (e + 1))

def decimal? (s : Text) : Option Number.Float := do
  let (x, r) ← mantissa (withoutSign s)
  let e ← exponent? r
  let b ← nearest? { x with exponent := x.exponent + e }
  some (.finite (s.head? == some '-') b)

def float? (s : Text) : Option Number.Float :=
  let infinity := [".inf".toList, ".Inf".toList, ".INF".toList]
  let t := if s.head? = some '+' then s.drop 1 else s
  if s.head? = some '+' ∧ startsWithSign t then none
  else if infinity.contains t then some (.infinite false)
  else if s.head? = some '-' ∧ infinity.contains (s.drop 1) then some (.infinite true)
  else if [".nan".toList, ".NaN".toList, ".NAN".toList].contains s then some .nan
  else decimal? t

def implicit (s : Text) : Found :=
  if s.isEmpty || isNull s then .nothing
  else
    match boolean? s with
    | some b => .boolean b
    | none =>
      match integer? s with
      | some f => f
      | none =>
        match if isPadded s then none else float? s with
        | some x => .float x
        | none => .string s

def kindTag (kind : Text) : Uri := Uri.ofText ("tag:yaml.org,2002:".toList ++ kind)

def scalarComplaint (wanted : Wanted) (tag : Option Uri) (s : Text) (style : Style) : Complaint :=
  let typed (f : Option Found) (kind : Wanted) : Complaint :=
    match f with
    | some f => .invalidType f wanted
    | none => .invalidValue (.string s) kind
  match tag with
  | none => .invalidType (if style = .plain then implicit s else .string s) wanted
  | some u =>
    if u = kindTag "bool".toList then typed ((boolean? s).map .boolean) .boolean
    else if u = kindTag "int".toList then typed (integer? s) .integer
    else if u = kindTag "float".toList then typed ((float? s).map .float) .float
    else if u = kindTag "null".toList then typed (if isNull s then some .nothing else none) .null
    else if u.head? = some (some '!') ∧ style = .plain then .invalidType (implicit s) wanted
    else .invalidType (.string s) wanted

end Placeholder.Yaml
