import Mathlib.Data.List.Infix
import Placeholder.Proofs.Replacement

/-! Texts in which every opening delimiter begins a marker with a name of letters and digits. They
have a grammar: plain characters at which nothing opens, and such markers. Both patterns see the same
markers in them. -/

namespace Placeholder

def WellMarked (s : Text) : Prop :=
  ∀ r, r <:+ s → Opens r → ∃ n, IsIdentifier n ∧ wrap n <+: r

theorem wellMarked_cons {c : Char} {s : Text} :
    WellMarked (c :: s) ↔
      (Opens (c :: s) → (Pattern.identifier.nameAt (c :: s)).isSome) ∧ WellMarked s := by
  constructor
  · intro h
    refine ⟨?_, fun r suffix => h r (suffix.trans (List.suffix_cons c s))⟩
    intro opens
    obtain ⟨n, found⟩ := h (c :: s) (List.suffix_refl _) opens
    exact Option.isSome_of_mem (Pattern.identifier_eq_some_iff.2 found)
  · rintro ⟨first, h⟩ r suffix opens
    rcases List.suffix_cons_iff.1 suffix with rfl | inner
    · obtain ⟨n, found⟩ := Option.isSome_iff_exists.1 (first opens)
      exact ⟨n, Pattern.identifier_eq_some_iff.1 found⟩
    · exact h r inner opens

theorem wellMarked_nil : WellMarked [] := by
  intro r suffix opens
  rw [List.suffix_nil.1 suffix] at opens
  cases List.prefix_nil.1 opens

instance decidableWellMarked : ∀ s, Decidable (WellMarked s)
  | [] => isTrue wellMarked_nil
  | _ :: s =>
    have := decidableWellMarked s
    decidable_of_iff _ wellMarked_cons.symm

example : WellMarked ('$' :: wrap ['a']) := by decide
example : ¬ WellMarked (wrap (wrap ['a'])) := by decide

inductive Marked : Text → Prop
  | nil : Marked []
  | plain {c : Char} {s : Text} : ¬ Opens (c :: s) → Marked s → Marked (c :: s)
  | marker {n s : Text} : IsIdentifier n → Marked s → Marked (wrap n ++ s)

theorem WellMarked.append {u s : Text} (h : WellMarked s) (quiet : Quiet u s) :
    WellMarked (u ++ s) := by
  induction u with
  | nil => exact h
  | cons c u ih => exact wellMarked_cons.2 ⟨fun opens => absurd opens quiet.head, ih quiet.tail⟩

theorem wellMarked_iff_marked {s : Text} : WellMarked s ↔ Marked s := by
  constructor
  · intro h
    induction s using Pattern.identifier.cut_induction with
    | nil => exact .nil
    | marker n s found ih =>
      obtain ⟨identifier, -⟩ := Pattern.identifier_eq_some_iff.1 found
      exact .marker identifier (ih fun r suffix => h r (suffix.trans (List.suffix_append _ s)))
    | plain c s none ih =>
      obtain ⟨first, rest⟩ := wellMarked_cons.1 h
      refine .plain ?_ (ih rest)
      intro opens
      have found := first opens
      rw [none] at found
      cases found
  · intro h
    induction h with
    | nil => exact wellMarked_nil
    | plain opens _ ih => exact wellMarked_cons.2 ⟨fun here => absurd here opens, ih⟩
    | @marker n s identifier _ ih =>
      -- nothing opens in a marker behind its first character
      have tail : WellMarked ((wrap n).tail ++ s) :=
        ih.append (quiet_of_dollar_not_mem (dollar_not_mem_tail_wrap identifier.dollar_not_mem) s)
      have found : Pattern.identifier.nameAt (wrap n ++ s) = some n :=
        Pattern.identifier_eq_some_iff.2 ⟨identifier, List.prefix_append _ s⟩
      exact wellMarked_cons.2 ⟨fun _ => Option.isSome_of_mem found, tail⟩

theorem Marked.append {u s : Text} (quiet : Quiet u s) (h : Marked s) : Marked (u ++ s) :=
  wellMarked_iff_marked.1 ((wellMarked_iff_marked.2 h).append quiet)

/-- A value in which nothing opens, and with which nothing next to it opens. -/
structure Inert (value : Text) : Prop where
  ne_nil : value ≠ []
  opens : ¬ ['$', '{'] <:+: value
  head : value.head? ≠ some '{'
  last : value.getLast? ≠ some '$'

instance (value : Text) : Decidable (Inert value) :=
  decidable_of_iff (value ≠ [] ∧ ¬ ['$', '{'] <:+: value ∧ value.head? ≠ some '{' ∧
    value.getLast? ≠ some '$')
    ⟨fun h => ⟨h.1, h.2.1, h.2.2.1, h.2.2.2⟩, fun h => ⟨h.ne_nil, h.opens, h.head, h.last⟩⟩

theorem Inert.quiet {u : Text} (h : Inert u) (s : Text) : Quiet u s := by
  rintro r ⟨v, rfl⟩ ne opens
  obtain ⟨c, r, rfl⟩ := List.exists_cons_of_ne_nil ne
  obtain ⟨rfl, head⟩ := opens_cons_iff.1 opens
  cases r with
  | nil => exact h.last (by simp)
  | cons d r =>
    obtain rfl : d = '{' := Option.some.inj head
    exact h.opens ⟨v, r, by simp⟩

end Placeholder
