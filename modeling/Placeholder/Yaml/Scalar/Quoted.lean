import Placeholder.Yaml.Scalar.Gap

namespace Placeholder.Yaml

/-- A quote inside is written twice; `fresh` says that a line has just begun. -/
def single : Gap → Bool → Text → Option (Text × Text)
  | _, _, [] => none
  | gap, fresh, c :: s =>
    if isBlank c then single (gap.blank c) false s
    else if isBreak c then single (gap.line c) true s
    else if fresh && isDocumentLine (c :: s) then none
    else if c = '\'' then
      match s with
      | '\'' :: s => (single .none false s).map fun (t, r) => (gap.join ++ '\'' :: t, r)
      | s => some (gap.join, s)
    else (single .none false s).map fun (t, r) => (gap.join ++ c :: t, r)

def hexNumber : Nat → Nat → Text → Option (Nat × Text)
  | 0, n, s => some (n, s)
  | _ + 1, _, [] => none
  | k + 1, n, c :: s => (hexDigit? c).bind fun d => hexNumber k (n * 16 + d) s

theorem length_of_hexNumber {k n m : Nat} {s r : Text} (h : hexNumber k n s = some (m, r)) :
    r.length ≤ s.length := by
  induction k generalizing n s with
  | zero =>
    cases h
    exact Nat.le_refl _
  | succ k ih =>
    cases s with
    | nil => cases h
    | cons c s =>
      simp only [hexNumber, Option.bind_eq_some_iff] at h
      obtain ⟨d, _, rest⟩ := h
      exact Nat.le_succ_of_le (ih rest)

def charOf? (n : Nat) : Option Char := if h : n.isValidChar then some (Char.ofNatAux n h) else none

def letterEscape? (c : Char) : Option Char :=
  [('0', '\x00'), ('a', '\x07'), ('b', '\x08'), ('t', '\t'), ('\t', '\t'), ('n', '\n'),
    ('v', '\x0b'), ('f', '\x0c'), ('r', '\r'), ('e', '\x1b'), (' ', ' '), ('"', '"'), ('/', '/'),
    ('\\', '\\'), ('N', '\x85'), ('_', '\xa0'), ('L', '\u2028'), ('P', '\u2029')].lookup c

def hexWidth? (c : Char) : Option Nat := [('x', 2), ('u', 4), ('U', 8)].lookup c

def escape (c : Char) (s : Text) : Option (Char × Text) :=
  match letterEscape? c with
  | some x => some (x, s)
  | none => do
    let width ← hexWidth? c
    let (n, r) ← hexNumber width 0 s
    let x ← charOf? n
    some (x, r)

theorem length_of_escape {c x : Char} {s r : Text} (h : escape c s = some (x, r)) :
    r.length ≤ s.length := by
  unfold escape at h
  split at h
  case h_1 =>
    cases h
    exact Nat.le_refl _
  case h_2 =>
    simp only [Option.bind_eq_bind, Option.bind_eq_some_iff] at h
    obtain ⟨width, _, ⟨n, t⟩, read, y, _, same⟩ := h
    cases same
    exact length_of_hexNumber read

def double (gap : Gap) (fresh : Bool) : Text → Option (Text × Text)
  | [] => none
  | c :: s =>
    if isBlank c then double (gap.blank c) false s
    else if isBreak c then double (gap.line c) true s
    else if fresh && isDocumentLine (c :: s) then none
    else if c = '"' then some (gap.join, s)
    else if c = '\\' then
      match s with
      | [] => none
      | d :: s =>
        if isBreak d then
          (double (.lines [] []) true s).map fun (t, r) => (gap.join ++ t, r)
        else
          match _h : escape d s with
          | none => none
          | some (x, r) => (double .none false r).map fun (t, r) => (gap.join ++ x :: t, r)
    else (double .none false s).map fun (t, r) => (gap.join ++ c :: t, r)
termination_by s => s.length
decreasing_by
  all_goals simp only [List.length_cons]
  all_goals try omega
  have shorter := length_of_escape _h
  omega

end Placeholder.Yaml
