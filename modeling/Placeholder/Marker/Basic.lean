import Placeholder.Text.Basic

/-! A marker is a name between the delimiters. A pattern says which markers count; it reads a text
from the left, and the text is cut into the markers it meets and the plain characters between them.
-/

namespace Placeholder

def wrap (name : Text) : Text := '$' :: '{' :: (name ++ ['}'])

@[simp] theorem length_wrap (name : Text) : (wrap name).length = name.length + 3 := by
  simp [wrap]

theorem wrap_injective {m n : Text} (h : wrap m = wrap n) : m = n := by
  simpa [wrap] using h

structure Pattern where
  nameAt : Text → Option Text
  sound : ∀ {s n}, nameAt s = some n → wrap n <+: s

namespace Pattern

/-- The run of admitted characters after the opening delimiter, if it is not empty and the closing
delimiter follows. -/
def runAt (admits : Char → Bool) : Text → Option Text
  | '$' :: '{' :: s =>
    match s.takeWhile admits, s.dropWhile admits with
    | c :: n, '}' :: _ => some (c :: n)
    | _, _ => none
  | _ => none

theorem runAt_eq_some {admits : Char → Bool} {s n : Text} (h : runAt admits s = some n) :
    n ≠ [] ∧ (∀ c ∈ n, admits c = true) ∧ wrap n <+: s := by
  unfold runAt at h
  split at h
  case h_1 s =>
    split at h
    case h_1 c m r hm hr =>
      cases h
      refine ⟨List.cons_ne_nil c m, ?_, r, ?_⟩
      · rw [← hm]
        exact List.all_eq_true.1 List.all_takeWhile
      · rw [← List.takeWhile_append_dropWhile (p := admits) (l := s), hm, hr]
        simp [wrap]
    case h_2 => cases h
  case h_2 => cases h

def run (admits : Char → Bool) : Pattern := ⟨runAt admits, fun h => (runAt_eq_some h).2.2⟩

def identifier : Pattern := run Char.isAlphanum

def field : Pattern := run (· != '}')

def literal (name : Text) : Pattern where
  nameAt s := if (wrap name).isPrefixOf s then some name else none
  sound {s n} h := by
    split at h
    case isTrue p => cases h; exact List.isPrefixOf_iff_prefix.1 p
    case isFalse => cases h

end Pattern

inductive Piece : Type
  | plain : Char → Piece
  | marker : Text → Piece
  deriving DecidableEq

namespace Piece

def text : Piece → Text
  | .plain c => [c]
  | .marker n => wrap n

def isMarker : Piece → Bool
  | .plain _ => false
  | .marker _ => true

def name? : Piece → Option Text
  | .plain _ => none
  | .marker n => some n

def fill (value : Text → Text) : Piece → Text
  | .plain c => [c]
  | .marker n => value n

end Piece

namespace Pattern

/-- Leftmost first: after a marker the text goes on behind it, elsewhere with the next character. -/
def cut (p : Pattern) : Text → List Piece
  | [] => []
  | c :: s =>
    match p.nameAt (c :: s) with
    | some n => .marker n :: p.cut (s.drop (n.length + 2))
    | none => .plain c :: p.cut s
termination_by s => s.length
decreasing_by all_goals simp only [List.length_drop, List.length_cons]; omega

@[simp] theorem cut_nil (p : Pattern) : p.cut [] = [] := by
  rw [cut]

theorem cut_of_nameAt_eq_none {p : Pattern} {c : Char} {s : Text} (h : p.nameAt (c :: s) = none) :
    p.cut (c :: s) = .plain c :: p.cut s := by
  rw [cut, h]

theorem cut_wrap_append {p : Pattern} {n s : Text} (h : p.nameAt (wrap n ++ s) = some n) :
    p.cut (wrap n ++ s) = .marker n :: p.cut s := by
  have e : wrap n ++ s = '$' :: '{' :: (n ++ '}' :: s) := by simp [wrap]
  rw [e] at h ⊢
  rw [cut, h]
  have d : ('{' :: (n ++ '}' :: s)).drop (n.length + 2) = s := by
    rw [show '{' :: (n ++ '}' :: s) = ('{' :: (n ++ ['}'])) ++ s by simp,
      List.drop_append_of_le_length (by simp)]
    simp
  simp [d]

theorem cut_induction (p : Pattern) {motive : Text → Prop} (nil : motive [])
    (marker : ∀ n s, p.nameAt (wrap n ++ s) = some n → motive s → motive (wrap n ++ s))
    (plain : ∀ c s, p.nameAt (c :: s) = none → motive s → motive (c :: s)) (s : Text) :
    motive s := by
  match s with
  | [] => exact nil
  | c :: s =>
    cases h : p.nameAt (c :: s) with
    | none => exact plain c s h (cut_induction p nil marker plain s)
    | some n =>
      obtain ⟨r, e⟩ := p.sound h
      have shorter : r.length < (c :: s).length := by
        rw [← e, List.length_append, length_wrap]
        omega
      rw [← e] at h ⊢
      exact marker n r h (cut_induction p nil marker plain r)
termination_by s.length
decreasing_by
  · exact Nat.lt_succ_self _
  · exact shorter

theorem flatMap_text_cut (p : Pattern) (s : Text) : (p.cut s).flatMap Piece.text = s := by
  induction s using p.cut_induction with
  | nil => simp
  | marker n s h ih => simp [cut_wrap_append h, Piece.text, ih]
  | plain c s h ih => simp [cut_of_nameAt_eq_none h, Piece.text, ih]

end Pattern
end Placeholder
