import Placeholder.Proofs.Line
import Placeholder.Yaml.Token.Read

namespace Placeholder.Yaml

open Line

section Printable

variable {s : Text} {c : Char}

theorem isBreak_eq_false (h : 0x20 ≤ c.toNat) (h' : c.toNat ≤ 0x7E) : isBreak c = false := by
  have feed : c ≠ '\n' := by rintro rfl; revert h; decide
  have line : c ≠ '\u2028' := by rintro rfl; revert h'; decide
  have paragraph : c ≠ '\u2029' := by rintro rfl; revert h'; decide
  simp [isBreak, feed, line, paragraph]

theorem all_isAllowed (h : Printable s) : s.all isAllowed = true := by
  rw [List.all_eq_true]
  intro c hc
  simp [isAllowed, h c hc]

theorem normal_eq_self (h : Printable s) : normal false s = s := by
  induction s with
  | nil => rfl
  | cons c s ih =>
    obtain ⟨⟨low, high⟩, rest⟩ := printable_cons.1 h
    have carriage : c ≠ '\r' := by rintro rfl; revert low; decide
    have next : c ≠ '\x85' := by rintro rfl; revert high; decide
    simp [normal, carriage, next, ih rest]

end Printable

namespace Mark

theorem index_after (m : Mark) (s : Text) : (m.after s).index = m.index + s.bytes := by
  induction s generalizing m with
  | nil => rfl
  | cons c s ih =>
    have step : (m.next c).index = m.index + c.utf8Size := by
      rw [next]
      split <;> rfl
    rw [after, List.foldl_cons]
    exact (ih (m.next c)).trans (by rw [step, Text.bytes_cons, Nat.add_assoc])

theorem line_after (m : Mark) {s : Text} (h : Printable s) : (m.after s).line = m.line := by
  induction s generalizing m with
  | nil => rfl
  | cons c s ih =>
    obtain ⟨⟨low, high⟩, rest⟩ := printable_cons.1 h
    have step : (m.next c).line = m.line := by
      simp [next, isBreak_eq_false low high]
    rw [after, List.foldl_cons]
    exact (ih (m.next c) rest).trans step

end Mark

theorem Gap.join_blank (g : Gap) (flat : g.isLines = false) (c : Char) :
    (g.blank c).isLines = false ∧ (g.blank c).join = g.join ++ [c] := by
  cases g with
  | none => exact ⟨rfl, rfl⟩
  | blanks t => exact ⟨rfl, rfl⟩
  | lines first more => cases flat

section Double

variable (g : Gap) (s : Text)

theorem double_quote : double g false ('"' :: s) = some (g.join, s) := by
  rw [double.eq_def]
  simp [isBlank, isBreak]

theorem double_space : double g false (' ' :: s) = double (g.blank ' ') false s := by
  rw [double.eq_def]
  simp [isBlank]

theorem double_escape {c : Char} (special : c = '"' ∨ c = '\\') :
    double g false ('\\' :: c :: s) =
      (double .none false s).map fun (t, r) => (g.join ++ c :: t, r) := by
  have known : escape c s = some (c, s) := by
    rcases special with rfl | rfl <;> rfl
  have inline : isBreak c = false := by
    rcases special with rfl | rfl <;> rfl
  rw [double, if_neg (by decide), if_neg (by decide), Bool.false_and, if_neg Bool.false_ne_true,
    if_neg (by decide), if_pos rfl, inline, if_neg Bool.false_ne_true]
  split
  case h_1 unknown =>
    rw [known] at unknown
    cases unknown
  case h_2 found =>
    rw [known] at found
    cases found
    rfl

theorem double_plain {c : Char} (low : 0x20 ≤ c.toNat) (high : c.toNat ≤ 0x7E) (space : c ≠ ' ')
    (ordinary : ¬ (c = '"' ∨ c = '\\')) :
    double g false (c :: s) = (double .none false s).map fun (t, r) => (g.join ++ c :: t, r) := by
  have tab : c ≠ '\t' := by rintro rfl; revert low; decide
  rw [not_or] at ordinary
  rw [double.eq_def]
  simp [isBlank, space, tab, isBreak_eq_false low high, ordinary]

end Double

theorem double_signs {s : Text} (printable : Printable s) (r : Text) {g : Gap}
    (flat : g.isLines = false) :
    double g false (s.flatMap sign ++ '"' :: r) = some (g.join ++ s, r) := by
  induction s generalizing g with
  | nil => simp [double_quote]
  | cons c s ih =>
    obtain ⟨⟨low, high⟩, rest⟩ := printable_cons.1 printable
    have solid : double .none false (s.flatMap sign ++ '"' :: r) = some (s, r) := ih rest rfl
    rw [List.flatMap_cons, sign, List.append_assoc]
    split
    case isTrue special =>
      rw [List.cons_append, List.cons_append, List.nil_append, double_escape _ _ special, solid]
      rfl
    case isFalse ordinary =>
      rw [List.cons_append, List.nil_append]
      by_cases space : c = ' '
      · subst space
        obtain ⟨flat', join⟩ := g.join_blank flat ' '
        rw [double_space, ih rest flat', join, List.append_assoc, List.singleton_append]
      · rw [double_plain _ _ low high space ordinary, solid]
        rfl

end Placeholder.Yaml
