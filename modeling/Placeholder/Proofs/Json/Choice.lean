import Placeholder.Proofs.Json.Grammar

namespace Placeholder.Json

def Value.boolean? : Value → Option Bool
  | .boolean b => some b
  | _ => none

theorem textValue_eq_ok_iff {u r t s : Text} {x : Value} (h : Element Written u x) :
    textValue (u ++ r) = .ok (s, t) ↔ x = .string s ∧ t = r := by
  obtain ⟨v, written, rest⟩ := h.skip_append
  rw [textValue, rest]
  cases written with
  | number figure =>
    obtain ⟨c, w, split, -⟩ := figure.exists_cons
    have other : c ≠ '"' := figure.lead_ne split (by decide)
    simp [split, other]
  | string literal =>
    obtain ⟨w, rfl, read⟩ := literal.string_append
    simp [read, eq_comm]
  | _ => simp

section Choice

variable {α : Type}

theorem bind_eq_ok_iff {ε β : Type} {x : Except ε α} {f : α → Except ε β} {b : β} :
    x >>= f = .ok b ↔ ∃ a, x = .ok a ∧ f a = .ok b := by
  cases x <;> simp [bind, Except.bind]

end Choice

section Accepted

theorem exists_element_of_skip {s v r : Text} {x : Value} (h : skip s = v ++ r)
    (written : Written v x) : ∃ u, Element Written u x ∧ s = u ++ r := by
  obtain ⟨w, blank, split⟩ := exists_blank_append_skip s
  exact ⟨w ++ v, .mk blank written, by rw [split, h, List.append_assoc]⟩

theorem exists_element_of_string {s t v r : Text} (h : skip s = '"' :: t)
    (read : string t = .ok (v, r)) : ∃ u, Element Written u (.string v) ∧ s = u ++ r := by
  obtain ⟨w, literal, split⟩ := string_eq_ok_iff_literal.1 read
  rw [split] at h
  exact exists_element_of_skip h (.string literal)

theorem exists_element_of_object {s u r : Text} {ms : List (Text × Value)}
    (h : skip s = '{' :: (u ++ '}' :: r)) (series : Series (Entry Written) true u ms) :
    ∃ v, Element Written v (.object ms) ∧ s = v ++ r := by
  have split : '{' :: (u ++ '}' :: r) = '{' :: (u ++ ['}']) ++ r := by simp
  rw [split] at h
  exact exists_element_of_skip h (.object series)

theorem exists_element_of_textValue {s t r : Text} (h : textValue s = .ok (t, r)) :
    ∃ u, Element Written u (.string t) ∧ s = u ++ r := by
  rw [textValue] at h
  split at h
  case h_1 => cases h
  case h_2 c w rest =>
    split at h
    case isTrue quote =>
      subst quote
      exact exists_element_of_string rest h
    case isFalse => cases h

end Accepted

end Placeholder.Json
