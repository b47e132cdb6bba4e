/-! A text is its list of characters. Positions count the bytes of its UTF-8 form; a text is looked
for in another one by trying every suffix. -/

namespace Placeholder

abbrev Text := List Char

def hexDigit? (c : Char) : Option Nat :=
  if '0' ≤ c ∧ c ≤ '9' then some (c.toNat - '0'.toNat)
  else if 'a' ≤ c ∧ c ≤ 'f' then some (c.toNat - 'a'.toNat + 10)
  else if 'A' ≤ c ∧ c ≤ 'F' then some (c.toNat - 'A'.toNat + 10)
  else none

namespace Text

def bytes : Text → Nat
  | [] => 0
  | c :: s => c.utf8Size + bytes s

@[simp] theorem bytes_nil : bytes [] = 0 := rfl

@[simp] theorem bytes_cons (c : Char) (s : Text) : bytes (c :: s) = c.utf8Size + bytes s := rfl

@[simp] theorem bytes_append (s t : Text) : bytes (s ++ t) = bytes s + bytes t := by
  induction s with
  | nil => simp
  | cons c s ih => simp [ih, Nat.add_assoc]

theorem eq_nil_of_bytes_eq_zero {s : Text} (h : bytes s = 0) : s = [] := by
  cases s with
  | nil => rfl
  | cons c s =>
    have pos := c.utf8Size_pos
    rw [bytes_cons] at h
    omega

theorem prefix_of_bytes_le {r r' s : Text} (h : r <+: s) (h' : r' <+: s)
    (le : bytes r ≤ bytes r') : r <+: r' := by
  rcases List.prefix_or_prefix_of_prefix h h' with shorter | ⟨u, rfl⟩
  · exact shorter
  · rw [bytes_append] at le
    obtain rfl : u = [] := eq_nil_of_bytes_eq_zero (by omega)
    simp

def contains (needle : Text) : Text → Bool
  | [] => needle.isEmpty
  | c :: s => needle.isPrefixOf (c :: s) || contains needle s

theorem contains_iff (needle s : Text) : contains needle s = true ↔ needle <:+: s := by
  induction s with
  | nil => simp [contains]
  | cons c s ih =>
    simp [contains, ih, List.infix_cons_iff]

def join (separator : Text) : List Text → Text
  | [] => []
  | [part] => part
  | part :: parts => part ++ separator ++ join separator parts

theorem join_cons (separator part : Text) (parts : List Text) :
    join separator (part :: parts) = part ++ parts.flatMap (separator ++ ·) := by
  induction parts generalizing part with
  | nil => simp [join]
  | cons next parts ih => simp [join, ih]

def ofNat (n : Nat) : Text := Nat.toDigits 10 n

def ofInt : Int → Text
  | .ofNat n => ofNat n
  | .negSucc n => '-' :: ofNat (n + 1)

/-- The `stop - start` bytes from `start` on, if both lie on boundaries of characters. -/
def slice? (start stop : Nat) : Text → Option Text
  | [] => if start = 0 ∧ stop = 0 then some [] else none
  | c :: s =>
    if start = 0 then
      if stop = 0 then some []
      else if c.utf8Size ≤ stop then (slice? 0 (stop - c.utf8Size) s).map (c :: ·)
      else none
    else if c.utf8Size ≤ start ∧ start ≤ stop then
      slice? (start - c.utf8Size) (stop - c.utf8Size) s
    else none

theorem slice?_zero_bytes (s t : Text) : slice? 0 (bytes s) (s ++ t) = some s := by
  induction s with
  | nil => cases t <;> simp [slice?]
  | cons c s ih =>
    have pos : c.utf8Size ≠ 0 := Nat.ne_of_gt c.utf8Size_pos
    simp [slice?, pos, ih]

theorem slice?_middle (r s t : Text) :
    slice? (bytes r) (bytes r + bytes s) (r ++ (s ++ t)) = some s := by
  induction r with
  | nil => simpa using slice?_zero_bytes s t
  | cons c r ih =>
    have pos : c.utf8Size ≠ 0 := Nat.ne_of_gt c.utf8Size_pos
    have size : c.utf8Size + bytes r + bytes s - c.utf8Size = bytes r + bytes s := by omega
    have room : c.utf8Size + bytes r ≤ c.utf8Size + bytes r + bytes s := by omega
    simp [slice?, pos, size, room, ih]

theorem slice?_eq_some_iff {start stop : Nat} {s g : Text} :
    slice? start stop s = some g ↔
      ∃ r t, s = r ++ (g ++ t) ∧ start = bytes r ∧ stop = bytes r + bytes g := by
  constructor
  · intro h
    induction s generalizing start stop g with
    | nil =>
      by_cases ends : start = 0 ∧ stop = 0
      · obtain ⟨rfl, rfl⟩ := ends
        obtain rfl : [] = g := by simpa [slice?] using h
        exact ⟨[], [], rfl, rfl, rfl⟩
      · simp [slice?, ends] at h
    | cons c s ih =>
      rw [slice?] at h
      split at h
      case isTrue begins =>
        split at h
        case isTrue ends =>
          obtain rfl : [] = g := by simpa using h
          exact ⟨[], c :: s, rfl, begins, ends⟩
        case isFalse =>
          split at h
          case isTrue fits =>
            obtain ⟨g, inner, rfl⟩ := Option.map_eq_some_iff.1 h
            obtain ⟨r, t, rfl, first, last⟩ := ih inner
            obtain rfl : r = [] := eq_nil_of_bytes_eq_zero first.symm
            refine ⟨[], t, rfl, begins, ?_⟩
            simp only [bytes_nil, bytes_cons] at last ⊢
            omega
          case isFalse => cases h
      case isFalse =>
        split at h
        case isTrue fits =>
          obtain ⟨r, t, rfl, first, last⟩ := ih h
          refine ⟨c :: r, t, rfl, ?_, ?_⟩
          · rw [bytes_cons, ← first]
            omega
          · rw [bytes_cons]
            omega
        case isFalse => cases h
  · rintro ⟨r, t, rfl, rfl, rfl⟩
    exact slice?_middle r g t

theorem le_of_slice? {start stop : Nat} {s g : Text} (h : slice? start stop s = some g) :
    start ≤ stop ∧ stop ≤ bytes s := by
  obtain ⟨r, t, rfl, rfl, rfl⟩ := slice?_eq_some_iff.1 h
  simp only [bytes_append]
  omega

end Text
end Placeholder
