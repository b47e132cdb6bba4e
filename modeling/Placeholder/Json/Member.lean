import Placeholder.Json.Scalar

namespace Placeholder.Json

/-- What comes next in an object: its end, which stays unread, or a key. -/
inductive Next : Type
  | done : Text → Next
  | key : Text → Text → Next

def key (s : Text) : Except Stop Next :=
  match s with
  | [] => .error (.before .endInValue [])
  | c :: r =>
    if c = '"' then
      match string r with
      | .error e => .error e
      | .ok (name, r) => .ok (.key name r)
    else .error (.within .keyMustBeString (c :: r))

/-- What comes next; `first` says that no member has been read yet. -/
def next (first : Bool) (s : Text) : Except Stop Next :=
  match skip s with
  | [] => .error (.before .endInObject [])
  | c :: r =>
    if c = '}' then .ok (.done (c :: r))
    else if first then key (c :: r)
    else if c = ',' then
      match skip r with
      | [] => .error (.before .endInValue [])
      | d :: t => if d = '}' then .error (.within .trailingComma (d :: t)) else key (d :: t)
    else .error (.within .expectedCommaOrBrace (c :: r))

theorem length_of_key {s name r : Text} (h : key s = .ok (.key name r)) : r.length < s.length := by
  unfold key at h
  split at h
  case h_1 => cases h
  case h_2 c t =>
    split at h
    case isTrue =>
      split at h
      case h_1 => cases h
      case h_2 read =>
        cases h
        have shorter := length_of_string read
        simp only [List.length_cons]
        omega
    case isFalse => cases h

theorem length_of_next {first : Bool} {s name r : Text} (h : next first s = .ok (.key name r)) :
    r.length < s.length := by
  have skipped := length_skip_le s
  unfold next at h
  split at h
  case h_1 => cases h
  case h_2 c t rest =>
    rw [rest] at skipped
    split at h
    case isTrue => cases h
    case isFalse =>
      split at h
      case isTrue => exact Nat.lt_of_lt_of_le (length_of_key h) skipped
      case isFalse =>
        split at h
        case isTrue =>
          have skipped' := length_skip_le t
          split at h
          case h_1 => cases h
          case h_2 d u behind =>
            rw [behind] at skipped'
            split at h
            case isTrue => cases h
            case isFalse =>
              have shorter := length_of_key h
              rw [List.length_cons] at skipped
              omega
        case isFalse => cases h

/-- Behind the end of the object, if nothing but blanks comes before it. -/
def afterBrace (s : Text) : Text :=
  match skip s with
  | '}' :: r => r
  | r => r

def element (first : Bool) (s : Text) : Except Stop (Bool × Text) :=
  match skip s with
  | [] => .error (.before .endInList [])
  | c :: r =>
    if c = ']' then .ok (false, c :: r)
    else if first then .ok (true, c :: r)
    else if c = ',' then
      match skip r with
      | [] => .error (.before .endInValue [])
      | d :: t => if d = ']' then .error (.within .trailingComma (d :: t)) else .ok (true, d :: t)
    else .error (.within .expectedCommaOrBracket (c :: r))

def closeList (s : Text) : Except Stop Text :=
  match skip s with
  | [] => .error (.before .endInList [])
  | c :: r =>
    if c = ']' then .ok r
    else if c = ',' then
      match skip r with
      | ']' :: t => .error (.within .trailingComma (']' :: t))
      | t => .error (.within .trailingCharacters t)
    else .error (.within .trailingCharacters (c :: r))

def finish {α : Type} (a : α) (s : Text) : Except Stop α :=
  match skip s with
  | [] => .ok a
  | r => .error (.within .trailingCharacters r)

end Placeholder.Json
