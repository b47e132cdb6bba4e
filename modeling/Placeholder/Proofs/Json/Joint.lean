import Mathlib.Data.List.TakeWhile
import Placeholder.Json.Single
import Placeholder.Proofs.Json.Literal

namespace Placeholder.Json

def Blank (w : Text) : Prop := ∀ c ∈ w, c ∈ [' ', '\t', '\n', '\r']

theorem blank_nil : Blank [] := fun _ mem => absurd mem List.not_mem_nil

section Skip

theorem isBlank_iff {c : Char} : isBlank c = true ↔ c ∈ [' ', '\t', '\n', '\r'] := by
  simp [isBlank, or_assoc]

theorem skip_eq_nil_iff {s : Text} : skip s = [] ↔ Blank s := by
  simp only [skip, List.dropWhile_eq_nil_iff, Blank, isBlank_iff]

theorem skip_append {w : Text} (h : Blank w) (s : Text) : skip (w ++ s) = skip s :=
  List.dropWhile_append_of_pos fun c hc => isBlank_iff.2 (h c hc)

theorem skip_cons {c : Char} (h : isBlank c = false) (s : Text) : skip (c :: s) = c :: s := by
  simp [skip, h]

theorem exists_blank_append_skip (s : Text) : ∃ w, Blank w ∧ s = w ++ skip s := by
  refine ⟨s.takeWhile isBlank, ?_, List.takeWhile_append_dropWhile.symm⟩
  intro c hc
  exact isBlank_iff.1 (List.all_eq_true.1 List.all_takeWhile c hc)

theorem skip_eq_cons_iff {c : Char} (h : isBlank c = false) {s r : Text} :
    skip s = c :: r ↔ ∃ w, Blank w ∧ s = w ++ c :: r := by
  constructor
  · intro next
    obtain ⟨w, blank, split⟩ := exists_blank_append_skip s
    exact ⟨w, blank, next ▸ split⟩
  · rintro ⟨w, blank, rfl⟩
    rw [skip_append blank, skip_cons h]

end Skip

theorem string_eq_ok_iff_literal {s t r : Text} :
    string s = .ok (t, r) ↔ ∃ v, Literal v t ∧ '"' :: s = v ++ r := by
  rw [string_eq_ok_iff]
  constructor
  · rintro ⟨u, spells, rfl⟩
    exact ⟨_, .mk spells, by simp⟩
  · rintro ⟨_, ⟨spells⟩, split⟩
    exact ⟨_, spells, by simpa using split⟩

theorem Literal.eq_quote_append {v t : Text} (h : Literal v t) : ∃ u, v = '"' :: u := by
  obtain ⟨spells⟩ := h
  exact ⟨_, rfl⟩

theorem Literal.string_append {v t : Text} (h : Literal v t) :
    ∃ u, v = '"' :: u ∧ ∀ r, string (u ++ r) = .ok (t, r) := by
  obtain ⟨u, rfl⟩ := h.eq_quote_append
  exact ⟨u, rfl, fun r => string_eq_ok_iff_literal.2 ⟨_, h, rfl⟩⟩

theorem key_eq_ok_iff {s name r : Text} :
    key s = .ok (.key name r) ↔ ∃ k, Literal k name ∧ s = k ++ r := by
  constructor
  · intro h
    unfold key at h
    split at h
    case h_1 => cases h
    case h_2 c s =>
      split at h
      case isTrue quote =>
        subst quote
        split at h
        case h_1 => cases h
        case h_2 t r found =>
          cases h
          exact string_eq_ok_iff_literal.1 found
      case isFalse => cases h
  · rintro ⟨k, literal, rfl⟩
    obtain ⟨u, rfl, read⟩ := literal.string_append
    simp [key, read]

theorem key_ne_done {s r : Text} : key s ≠ .ok (.done r) := by
  unfold key
  split
  case h_1 => simp
  case h_2 =>
    split
    case isTrue => split <;> simp
    case isFalse => simp

theorem key_skip_eq_ok_iff {s name r : Text} :
    key (skip s) = .ok (.key name r) ↔ ∃ w k, Blank w ∧ Literal k name ∧ s = w ++ (k ++ r) := by
  constructor
  · intro h
    obtain ⟨w, blank, split⟩ := exists_blank_append_skip s
    obtain ⟨k, literal, rest⟩ := key_eq_ok_iff.1 h
    exact ⟨w, k, blank, literal, rest ▸ split⟩
  · rintro ⟨w, k, blank, literal, rfl⟩
    have solid : skip (k ++ r) = k ++ r := by
      obtain ⟨u, rfl⟩ := literal.eq_quote_append
      exact skip_cons (by decide) _
    rw [skip_append blank, solid]
    exact key_eq_ok_iff.2 ⟨k, literal, rfl⟩

theorem next_eq_done_iff {first : Bool} {s r : Text} :
    next first s = .ok (.done r) ↔ ∃ t, skip s = '}' :: t ∧ r = '}' :: t := by
  rw [next]
  cases skip s with
  | nil => simp
  | cons c t =>
    by_cases brace : c = '}'
    · simp [brace, eq_comm]
    · cases first with
      | true => simp [brace, key_ne_done]
      | false =>
        by_cases comma : c = ','
        · subst comma
          cases inner : skip t with
          | nil => simp [inner]
          | cons d u => by_cases trailing : d = '}' <;> simp [inner, trailing, key_ne_done]
        · simp [brace, comma]

theorem next_true_eq_key_iff {s name r : Text} :
    next true s = .ok (.key name r) ↔ key (skip s) = .ok (.key name r) := by
  rw [next]
  cases skip s with
  | nil => simp [key]
  | cons c t => by_cases brace : c = '}' <;> simp [brace, key]

theorem next_false_eq_key_iff {s name r : Text} :
    next false s = .ok (.key name r) ↔
      ∃ t, skip s = ',' :: t ∧ key (skip t) = .ok (.key name r) := by
  rw [next]
  cases skip s with
  | nil => simp
  | cons c t =>
    by_cases brace : c = '}'
    · simp [brace]
    · by_cases comma : c = ','
      · subst comma
        cases inner : skip t with
        | nil => simp [inner, key]
        | cons d u => by_cases trailing : d = '}' <;> simp [inner, trailing, key]
      · simp [brace, comma]

theorem colon_eq_ok_iff {s r : Text} : colon s = .ok r ↔ skip s = ':' :: r := by
  rw [colon]
  cases skip s with
  | nil => simp
  | cons c t => by_cases sign : c = ':' <;> simp [sign]

theorem afterBrace_brace (t : Text) : afterBrace ('}' :: t) = t := by
  rw [afterBrace, skip_cons (by decide)]
  rfl

theorem finish_eq_ok_iff {α : Type} {a b : α} {s : Text} :
    finish a s = .ok b ↔ Blank s ∧ a = b := by
  rw [← skip_eq_nil_iff, finish]
  cases skip s <;> simp

end Placeholder.Json
