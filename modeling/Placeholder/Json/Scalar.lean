import Placeholder.Json.Stop

namespace Placeholder.Json

abbrev Read (α : Type) := Text → Except Stop (α × Text)

def isBlank (c : Char) : Bool := c == ' ' || c == '\t' || c == '\n' || c == '\r'

def skip (s : Text) : Text := s.dropWhile isBlank

theorem length_skip_le (s : Text) : (skip s).length ≤ s.length :=
  (List.dropWhile_sublist isBlank).length_le

def notHex (s : Text) : Stop :=
  if s.bytes < 4 then .before .endInString [] else ⟨.invalidEscape, s.bytes - 4⟩

def unit : Read Nat
  | a :: b :: c :: d :: s =>
    match hexDigit? a, hexDigit? b, hexDigit? c, hexDigit? d with
    | some a, some b, some c, some d => .ok (((a * 16 + b) * 16 + c) * 16 + d, s)
    | _, _, _, _ => .error (notHex (a :: b :: c :: d :: s))
  | s => .error (notHex s)

theorem length_of_unit {s r : Text} {n : Nat} (h : unit s = .ok (n, r)) : r.length < s.length := by
  unfold unit at h
  split at h
  case h_1 a b c d s =>
    split at h
    case h_1 =>
      cases h
      simp only [List.length_cons]
      omega
    case h_2 => cases h
  case h_2 => cases h

def isLeading (n : Nat) : Bool := 0xD800 ≤ n && n < 0xDC00

def isTrailing (n : Nat) : Bool := 0xDC00 ≤ n && n < 0xE000

def pair (high low : Nat) : Char := Char.ofNat (0x10000 + (high - 0xD800) * 0x400 + (low - 0xDC00))

def trailing (high : Nat) : Read Char
  | c :: d :: s =>
    if c ≠ '\\' then .error (.within .endOfHexEscape (c :: d :: s))
    else if d ≠ 'u' then .error (.within .endOfHexEscape (d :: s))
    else
      match unit s with
      | .error e => .error e
      | .ok (low, r) =>
        if isTrailing low then .ok (pair high low, r) else .error (.before .loneSurrogate r)
  | [c] =>
    if c ≠ '\\' then .error (.within .endOfHexEscape [c]) else .error (.before .endInString [])
  | [] => .error (.before .endInString [])

theorem length_of_trailing {high : Nat} {s r : Text} {c : Char} (h : trailing high s = .ok (c, r)) :
    r.length < s.length := by
  unfold trailing at h
  split at h
  case h_1 c d s =>
    split at h
    case isTrue => cases h
    case isFalse =>
      split at h
      case isTrue => cases h
      case isFalse =>
        split at h
        case h_1 => cases h
        case h_2 low t read =>
          have shorter := length_of_unit read
          split at h
          case isTrue =>
            -- `cases h` would evaluate the paired character
            simp only [Except.ok.injEq, Prod.mk.injEq] at h
            obtain ⟨-, rfl⟩ := h
            simp only [List.length_cons]
            omega
          case isFalse => cases h
  case h_2 => split at h <;> cases h
  case h_3 => cases h

def unicode (s : Text) : Except Stop (Char × Text) :=
  match unit s with
  | .error e => .error e
  | .ok (n, r) =>
    if isTrailing n then .error (.before .loneSurrogate r)
    else if isLeading n then trailing n r
    else .ok (Char.ofNat n, r)

theorem length_of_unicode {s r : Text} {c : Char} (h : unicode s = .ok (c, r)) :
    r.length < s.length := by
  unfold unicode at h
  split at h
  case h_1 => cases h
  case h_2 n t read =>
    have shorter := length_of_unit read
    split at h
    case isTrue => cases h
    case isFalse =>
      split at h
      case isTrue =>
        have shorter' := length_of_trailing h
        omega
      case isFalse =>
        cases h
        exact shorter

def escape : Read Char
  | [] => .error (.before .endInString [])
  | '"' :: s => .ok ('"', s)
  | '\\' :: s => .ok ('\\', s)
  | '/' :: s => .ok ('/', s)
  | 'b' :: s => .ok ('\x08', s)
  | 'f' :: s => .ok ('\x0c', s)
  | 'n' :: s => .ok ('\n', s)
  | 'r' :: s => .ok ('\r', s)
  | 't' :: s => .ok ('\t', s)
  | 'u' :: s => unicode s
  | s => .error (.within .invalidEscape s)

theorem length_of_escape {s r : Text} {c : Char} (h : escape s = .ok (c, r)) :
    r.length < s.length := by
  unfold escape at h
  split at h
  case h_10 s =>
    have shorter := length_of_unicode h
    simp only [List.length_cons]
    omega
  all_goals cases h
  all_goals simp

def string : Read Text
  | [] => .error (.before .endInString [])
  | c :: s =>
    if c = '"' then .ok ([], s)
    else if c = '\\' then
      match _h : escape s with
      | .error e => .error e
      | .ok (x, r) =>
        match string r with
        | .error e => .error e
        | .ok (t, r) => .ok (x :: t, r)
    else if c.toNat < 0x20 then .error (.within .controlCharacter (c :: s))
    else
      match string s with
      | .error e => .error e
      | .ok (t, r) => .ok (c :: t, r)
termination_by s => s.length
decreasing_by
  · have shorter := length_of_escape _h
    simp only [List.length_cons]
    omega
  · simp

theorem length_of_string {s t r : Text} (h : string s = .ok (t, r)) : r.length < s.length := by
  fun_induction string s generalizing t with
  | case1 => cases h
  | case2 => cases h; simp
  | case3 => cases h
  | case4 => cases h
  | case5 =>
    cases h
    simp only [List.length_cons]; grind [→ length_of_escape]
  | case6 => cases h
  | case7 => cases h
  | case8 =>
    cases h
    simp only [List.length_cons]; grind

def word : Text → Text → Except Stop Text
  | [], s => .ok s
  | _ :: _, [] => .error (.before .endInValue [])
  | x :: w, c :: s => if c = x then word w s else .error (.within .expectedIdent (c :: s))

end Placeholder.Json
