import Placeholder.Proofs.Json.Document
import Placeholder.Proofs.Line

namespace Placeholder.Json

open Line

theorem spells_signs {s : Text} (printable : Printable s) : Spells (s.flatMap sign) s := by
  induction s with
  | nil => exact .nil
  | cons c s ih =>
    obtain ⟨⟨visible, -⟩, rest⟩ := printable_cons.1 printable
    rw [List.flatMap_cons, sign]
    split
    case isTrue special =>
      have shorthand : (c, c) ∈ shorthands := by
        rcases special with rfl | rfl <;> decide
      exact .escape (.shorthand shorthand) (ih rest)
    case isFalse ordinary =>
      rw [not_or] at ordinary
      exact .plain ordinary.1 ordinary.2 visible (ih rest)

theorem literal_quote {s : Text} (printable : Printable s) : Literal (quote s) s :=
  .mk (spells_signs printable)

theorem entry_entry {e : Text × Text} (h : Printable e.1 ∧ Printable e.2) :
    Entry Written (entry e) (e.1, .string e.2) :=
  .mk blank_nil (literal_quote h.1) blank_nil (Written.string (literal_quote h.2)).element

theorem series_further {es : List (Text × Text)} (h : ∀ e ∈ es, Printable e.1 ∧ Printable e.2) :
    Series (Entry Written) false (further es) (members es) := by
  induction es with
  | nil => exact .nil blank_nil
  | cons e es ih =>
    rw [List.forall_mem_cons] at h
    exact .later blank_nil (entry_entry h.1) (ih h.2)

theorem series_join {es : List (Text × Text)} (h : ∀ e ∈ es, Printable e.1 ∧ Printable e.2) :
    Series (Entry Written) true (Text.join [','] (es.map entry)) (members es) := by
  cases es with
  | nil => exact .nil blank_nil
  | cons e es =>
    rw [List.forall_mem_cons] at h
    rw [join_map_cons]
    exact .first (entry_entry h.1) (series_further h.2)

theorem document_line {es : List (Text × Text)} (h : ∀ e ∈ es, Printable e.1 ∧ Printable e.2) :
    Document (document es) es := by
  have item : Element Written (document es) (.object (members es)) :=
    (Written.object (series_join h)).element
  rw [← List.append_nil (document es)]
  exact .mk item blank_nil

end Placeholder.Json
