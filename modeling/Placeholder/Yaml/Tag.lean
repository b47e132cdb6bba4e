import Placeholder.Yaml.Scalar.Quoted

namespace Placeholder.Yaml

/-- The characters of an address, `none` where escaped bytes stand for no character. -/
abbrev Uri := List (Option Char)

namespace Uri

def ofText (s : Text) : Uri := s.map some

def text? (u : Uri) : Option Text := u.mapM id

def upToNull (u : Uri) : Uri := u.takeWhile (· != some '\x00')

end Uri

def octet : Text → Option (Nat × Text)
  | '%' :: a :: b :: s => do
    let high ← hexDigit? a
    let low ← hexDigit? b
    some (high * 16 + low, s)
  | _ => none

theorem length_of_octet {s r : Text} {n : Nat} (h : octet s = some (n, r)) :
    r.length < s.length := by
  unfold octet at h
  split at h
  case h_1 a b s =>
    simp only [Option.bind_eq_bind, Option.bind_eq_some_iff] at h
    obtain ⟨high, _, low, _, same⟩ := h
    cases same
    simp only [List.length_cons]
    omega
  case h_2 => cases h

def leadByte? (n : Nat) : Option (Nat × Nat) :=
  if n < 0x80 then some (n, 0)
  else if 0xC0 ≤ n ∧ n < 0xE0 then some (n - 0xC0, 1)
  else if 0xE0 ≤ n ∧ n < 0xF0 then some (n - 0xE0, 2)
  else if 0xF0 ≤ n ∧ n < 0xF8 then some (n - 0xF0, 3)
  else none

def moreBytes : Nat → Nat → Text → Option (Nat × Text)
  | 0, n, s => some (n, s)
  | k + 1, n, s =>
    (octet s).bind fun (m, r) =>
      if 0x80 ≤ m ∧ m < 0xC0 then moreBytes k (n * 64 + (m - 0x80)) r else none

theorem length_of_moreBytes {k n m : Nat} {s r : Text} (h : moreBytes k n s = some (m, r)) :
    r.length ≤ s.length := by
  induction k generalizing n s with
  | zero =>
    cases h
    exact Nat.le_refl _
  | succ k ih =>
    simp only [moreBytes, Option.bind_eq_some_iff] at h
    obtain ⟨⟨x, t⟩, read, h⟩ := h
    have shorter : t.length < s.length := length_of_octet read
    split at h
    case isTrue => exact Nat.le_trans (ih h) (Nat.le_of_lt shorter)
    case isFalse => cases h

def decoded? (more n : Nat) : Option Char := (charOf? n).filter fun c => c.utf8Size == more + 1

def escapedChar (s : Text) : Option (Option Char × Text) := do
  let (first, r) ← octet s
  let (bits, more) ← leadByte? first
  let (n, r) ← moreBytes more bits r
  some (decoded? more n, r)

theorem length_of_escapedChar {s r : Text} {c : Option Char} (h : escapedChar s = some (c, r)) :
    r.length < s.length := by
  simp only [escapedChar, Option.bind_eq_bind, Option.bind_eq_some_iff] at h
  obtain ⟨⟨a, t⟩, first, ⟨b, k⟩, _, ⟨n, u⟩, more, same⟩ := h
  cases same
  exact Nat.lt_of_le_of_lt (length_of_moreBytes more) (length_of_octet first)

def isUri (full : Bool) (c : Char) : Bool :=
  isWord c || ";/?:@&=+$.!~*'()".toList.contains c || (full && ",[]".toList.contains c)

def uri (full : Bool) : Text → Option (Uri × Text)
  | [] => some ([], [])
  | c :: s =>
    if c = '%' then
      match _h : escapedChar (c :: s) with
      | none => none
      | some (x, r) => (uri full r).map fun (u, r) => (x :: u, r)
    else if isUri full c then (uri full s).map fun (u, r) => (some c :: u, r)
    else some ([], c :: s)
termination_by s => s.length
decreasing_by
  · exact length_of_escapedChar _h
  · simp

def handle : Text → Option (Text × Text)
  | '!' :: s =>
    let word := s.takeWhile isWord
    match s.dropWhile isWord with
    | '!' :: r => some ('!' :: (word ++ ['!']), r)
    | r => some ('!' :: word, r)
  | _ => none

def isClosed (handle : Text) : Bool := 1 < handle.length && handle.getLast? == some '!'

structure Tag where
  handle : Text
  suffix : Uri
  deriving DecidableEq

def shortTag (s : Text) : Option (Tag × Text) := do
  let (h, r) ← handle s
  let (u, r) ← uri false r
  if isClosed h then
    if u.isEmpty then none else some (⟨h, u.upToNull⟩, r)
  else
    let u := (Uri.ofText (h.drop 1) ++ u).upToNull
    if u.isEmpty then some (⟨[], Uri.ofText ['!']⟩, r) else some (⟨['!'], u⟩, r)

def fullTag (s : Text) : Option (Tag × Text) := do
  let (u, r) ← uri true s
  if u.isEmpty then none
  else
    match r with
    | '>' :: r => some (⟨[], u.upToNull⟩, r)
    | _ => none

def tag (flow : Bool) (s : Text) : Option (Tag × Text) := do
  let (t, r) ←
    match s with
    | '!' :: '<' :: s => fullTag s
    | s => shortTag s
  if endsWord r || (flow && r.head? == some ',') then some (t, r) else none

def anchorName (s : Text) : Option (Text × Text) :=
  let r := s.dropWhile isWord
  let ends := endsWord r || (r.head?.map "?:,]\x7d%@\x60".toList.contains).getD false
  if (s.takeWhile isWord).isEmpty || !ends then none else some (s.takeWhile isWord, r)

end Placeholder.Yaml
