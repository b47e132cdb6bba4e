import Placeholder.Json.Scalar

/-! Numbers of a JSON document: integers within 64 bits, and floats otherwise. A float is read by
scaling its first digits, as many as 64 bits hold, by a power of ten; each step rounds. -/

namespace Placeholder.Json

open Number

inductive Numeral : Type
  | integer : Int → Numeral
  | float : Number.Float → Numeral

def Numeral.found : Numeral → Found
  | .integer n => .integer n
  | .float x => .float x

def digit (c : Char) : Nat := c.toNat - '0'.toNat

def digits (limit : Nat) : Nat → Text → Nat × Text
  | n, [] => (n, [])
  | n, c :: s =>
    if c.isDigit && n * 10 + digit c ≤ limit then digits limit (n * 10 + digit c) s
    else (n, c :: s)

def surplus (s : Text) : Nat × Text :=
  ((s.takeWhile Char.isDigit).length, s.dropWhile Char.isDigit)

def significandLimit : Nat := 0xFFFFFFFFFFFFFFFF

def exponentLimit : Nat := 0x7FFFFFFF

def powerLimit : Nat := 308

def power? (k : Nat) : Option Binary := Binary.nearest? (Nat.pow 10 k) 1

def scaleDown (b : Binary) : Nat → Nat → Option Binary
  | 0, k => (power? k).bind b.div?
  | n + 1, k =>
    if b.mantissa = 0 then some b
    else ((power? powerLimit).bind b.div?).bind fun b => scaleDown b n k

def scaleUp (b : Binary) (k : Nat) : Option Binary :=
  if k ≤ powerLimit then (power? k).bind b.mul?
  else if b.mantissa = 0 then some b
  else none

def scale (b : Binary) : Int → Option Binary
  | .ofNat k => scaleUp b k
  | .negSucc k => scaleDown b (k / powerLimit) (k % powerLimit + 1)

def float (negative : Bool) (significand : Nat) (exponent : Int) : Read Numeral := fun s =>
  match (Binary.nearest? significand 1).bind (scale · exponent) with
  | some b => .ok (.float (.finite negative b), s)
  | none => .error (.before .numberOutOfRange s)

/-- An exponent beyond its own limit makes all numbers but zero too great or nothing. -/
def farExponent (negative : Bool) (significand : Nat) (down : Bool) : Read Numeral := fun s =>
  if significand ≠ 0 ∧ down = false then .error (.before .numberOutOfRange s)
  else .ok (.float (.finite negative .zero), (surplus s).2)

def exponentSign : Text → Bool × Text
  | c :: s => if c = '-' then (true, s) else if c = '+' then (false, s) else (false, c :: s)
  | [] => (false, [])

def exponent (negative : Bool) (significand : Nat) (start : Int) : Read Numeral := fun s =>
  match exponentSign s with
  | (_, []) => .error (.before .endInValue [])
  | (down, c :: s) =>
    if c.isDigit then
      match digits exponentLimit (digit c) s with
      | (e, []) => float negative significand (if down then start - e else start + e) []
      | (e, d :: r) =>
        if d.isDigit then farExponent negative significand down r
        else float negative significand (if down then start - e else start + e) (d :: r)
    else .error (.within .invalidNumber (c :: s))

def isExponentLetter (c : Char) : Bool := c == 'e' || c == 'E'

def afterDigits (negative : Bool) (significand : Nat) (start : Int) : Read Numeral
  | c :: s =>
    if isExponentLetter c then exponent negative significand start s
    else float negative significand start (c :: s)
  | [] => float negative significand start []

def fraction (negative : Bool) (significand : Nat) (start : Int) : Read Numeral := fun s =>
  match digits significandLimit significand s with
  | (m, r) =>
    let used : Nat := s.length - r.length
    match surplus r with
    | (0, r) =>
      if used = 0 then .error (.within (if r.isEmpty then .endInValue else .invalidNumber) r)
      else afterDigits negative m (start - used) r
    | (_, r) => afterDigits negative m (start - used) r

def whole (negative : Bool) (n : Nat) : Numeral :=
  if negative = false then .integer n
  else if n ≠ 0 ∧ n ≤ 0x8000000000000000 then .integer (-n)
  else .float (.finite true ((Binary.nearest? n 1).getD .zero))

/-- What may follow the whole part, of which `extra` digits did not fit. -/
def afterWhole (negative : Bool) (n extra : Nat) : Read Numeral
  | c :: s =>
    if c = '.' then fraction negative n extra s
    else if isExponentLetter c then exponent negative n extra s
    else if extra = 0 then .ok (whole negative n, c :: s)
    else float negative n extra (c :: s)
  | [] => if extra = 0 then .ok (whole negative n, []) else float negative n extra []

def unsigned (negative : Bool) : Read Numeral
  | [] => .error (.before .endInValue [])
  | c :: s =>
    if c = '0' then
      if (s.head?.map Char.isDigit).getD false then .error (.within .invalidNumber s)
      else afterWhole negative 0 0 s
    else if c.isDigit then
      match digits significandLimit (digit c) s with
      | (n, r) =>
        match surplus r with
        | (extra, r) => afterWhole negative n extra r
    else .error (.within .invalidNumber (c :: s))

def number : Read Numeral
  | c :: s => if c = '-' then unsigned true s else unsigned false (c :: s)
  | [] => unsigned false []

end Placeholder.Json
