import Placeholder.Proofs.Json.Joint

/-! The grammar of all JSON documents, with blanks at every joint and any spelling of the strings,
and what the readers of the joints make of a text of that grammar. Nothing they do depends on what is
nested in a value, so nothing here is by induction on values. -/

namespace Placeholder.Json

inductive Value : Type
  | null : Value
  | boolean : Bool → Value
  | number : Text → Value
  | string : Text → Value
  | list : List Value → Value
  | object : List (Text × Value) → Value

def Digits (u : Text) : Prop := u ≠ [] ∧ ∀ c ∈ u, c.isDigit = true

inductive Whole : Text → Prop
  | zero : Whole ['0']
  | digits {c : Char} {u : Text} :
    c.isDigit = true → c ≠ '0' → (∀ d ∈ u, d.isDigit = true) → Whole (c :: u)

inductive Fraction : Text → Prop
  | none : Fraction []
  | digits {u : Text} : Digits u → Fraction ('.' :: u)

inductive Exponent : Text → Prop
  | none : Exponent []
  | digits {e : Char} {sign u : Text} :
    e ∈ ['e', 'E'] → sign ∈ [[], ['+'], ['-']] → Digits u → Exponent (e :: (sign ++ u))

inductive Figure : Text → Prop
  | mk {sign u v w : Text} :
    sign ∈ [[], ['-']] → Whole u → Fraction v → Exponent w → Figure (sign ++ (u ++ (v ++ w)))

/-- Items with a comma between any two of them. Blanks stand in front of the commas and at the end;
`first` says that no item has come yet. -/
inductive Series {α : Type} (Item : Text → α → Prop) : Bool → Text → List α → Prop
  | nil {first : Bool} {w : Text} : Blank w → Series Item first w []
  | first {m u : Text} {a : α} {as : List α} :
    Item m a → Series Item false u as → Series Item true (m ++ u) (a :: as)
  | later {w m u : Text} {a : α} {as : List α} :
    Blank w → Item m a → Series Item false u as → Series Item false (w ++ ',' :: (m ++ u)) (a :: as)

inductive Element (Written : Text → Value → Prop) : Text → Value → Prop
  | mk {w v : Text} {x : Value} : Blank w → Written v x → Element Written (w ++ v) x

inductive Entry (Written : Text → Value → Prop) : Text → Text × Value → Prop
  | mk {w k w' u name : Text} {x : Value} :
    Blank w → Literal k name → Blank w' → Element Written u x →
      Entry Written (w ++ (k ++ (w' ++ ':' :: u))) (name, x)

inductive Written : Text → Value → Prop
  | null : Written "null".toList .null
  | yes : Written "true".toList (.boolean true)
  | no : Written "false".toList (.boolean false)
  | number {u : Text} : Figure u → Written u (.number u)
  | string {v t : Text} : Literal v t → Written v (.string t)
  | list {u : Text} {xs : List Value} :
    Series (Element Written) true u xs → Written ('[' :: (u ++ [']'])) (.list xs)
  | object {u : Text} {ms : List (Text × Value)} :
    Series (Entry Written) true u ms → Written ('{' :: (u ++ ['}'])) (.object ms)

inductive Holds : Text → Value → Prop
  | mk {u w : Text} {x : Value} : Element Written u x → Blank w → Holds (u ++ w) x

section Lead

theorem Figure.exists_cons {u : Text} (h : Figure u) :
    ∃ c t, u = c :: t ∧ (c = '-' ∨ c.isDigit = true) := by
  obtain ⟨sign, whole, -, -⟩ := h
  simp only [List.mem_cons, List.not_mem_nil, or_false] at sign
  rcases sign with rfl | rfl
  · cases whole with
    | zero => exact ⟨_, _, rfl, .inr rfl⟩
    | digits digit _ _ => exact ⟨_, _, rfl, .inr digit⟩
  · exact ⟨_, _, rfl, .inl rfl⟩

theorem Figure.lead_ne {u t : Text} {c d : Char} (h : Figure u) (split : u = c :: t)
    (other : d ≠ '-' ∧ d.isDigit = false) : c ≠ d := by
  rintro rfl
  obtain ⟨e, r, rfl, lead⟩ := h.exists_cons
  obtain ⟨rfl, -⟩ := List.cons.inj split
  rcases lead with minus | digit
  · exact other.1 minus
  · rw [other.2] at digit
    cases digit

theorem Written.exists_cons {v : Text} {x : Value} (h : Written v x) :
    ∃ c u, v = c :: u ∧ isBlank c = false ∧ c ≠ ',' ∧ c ≠ ']' := by
  cases h with
  | number figure =>
    obtain ⟨c, t, split, lead⟩ := figure.exists_cons
    have solid : isBlank c = false := by
      rcases lead with rfl | digit
      · decide
      · rw [← Bool.not_eq_true, isBlank_iff]
        intro blank
        simp only [List.mem_cons, List.not_mem_nil, or_false] at blank
        rcases blank with rfl | rfl | rfl | rfl <;> cases digit
    exact ⟨c, t, split, solid, figure.lead_ne split (by decide), figure.lead_ne split (by decide)⟩
  | string literal =>
    obtain ⟨u, rfl⟩ := literal.eq_quote_append
    exact ⟨_, _, rfl, by decide⟩
  | _ => exact ⟨_, _, rfl, by decide⟩

end Lead

theorem Written.element {v : Text} {x : Value} (h : Written v x) : Element Written v x :=
  .mk (w := []) blank_nil h

theorem Element.skip_append {u : Text} {x : Value} (h : Element Written u x) :
    ∃ v, Written v x ∧ ∀ r, skip (u ++ r) = v ++ r := by
  obtain ⟨blank, written⟩ := h
  refine ⟨_, written, ?_⟩
  intro r
  obtain ⟨c, t, rfl, solid, -⟩ := written.exists_cons
  rw [List.append_assoc, Json.skip_append blank]
  exact skip_cons solid _

theorem Entry.key_append {u : Text} {e : Text × Value} (h : Entry Written u e) (r : Text) :
    ∃ v s, Element Written v e.2 ∧ key (skip (u ++ r)) = .ok (.key e.1 s) ∧
      colon s = .ok (v ++ r) := by
  obtain @⟨w, k, w', v, name, x, blank, literal, blank', element⟩ := h
  refine ⟨v, w' ++ ':' :: (v ++ r), element, ?_, ?_⟩
  · exact key_skip_eq_ok_iff.2 ⟨w, k, blank, literal, by simp⟩
  · exact colon_eq_ok_iff.2 ((skip_eq_cons_iff (by decide)).2 ⟨w', blank', rfl⟩)

theorem exists_entry_of_key {s s' v r name : Text} {x : Value}
    (found : key (skip s) = .ok (.key name s')) (value : colon s' = .ok (v ++ r))
    (element : Element Written v x) : ∃ u, Entry Written u (name, x) ∧ s = u ++ r := by
  obtain ⟨w, k, blank, literal, rfl⟩ := key_skip_eq_ok_iff.1 found
  obtain ⟨w', blank', rfl⟩ := (skip_eq_cons_iff (by decide)).1 (colon_eq_ok_iff.1 value)
  exact ⟨_, .mk blank literal blank' element, by simp⟩

section Series

variable {first : Bool} {u t r : Text}

theorem Series.skip_nil {α : Type} {Item : Text → α → Prop} (h : Series Item first u []) {c : Char}
    (solid : isBlank c = false) : skip (u ++ c :: t) = c :: t := by
  cases h with
  | nil blank => exact (skip_eq_cons_iff solid).2 ⟨u, blank, rfl⟩

theorem Series.skip_later {α : Type} {Item : Text → α → Prop} {a : α} {as : List α}
    (h : Series Item false u (a :: as)) (t : Text) :
    ∃ m u', Item m a ∧ Series Item false u' as ∧ skip (u ++ t) = ',' :: (m ++ (u' ++ t)) := by
  cases h with
  | @later w m u' _ _ blank item rest =>
    exact ⟨m, u', item, rest, (skip_eq_cons_iff (by decide)).2 ⟨w, blank, by simp⟩⟩

theorem Series.next_nil (h : Series (Entry Written) first u []) :
    next first (u ++ '}' :: t) = .ok (.done ('}' :: t)) :=
  next_eq_done_iff.2 ⟨t, h.skip_nil (by decide), rfl⟩

theorem Series.next_cons {name : Text} {x : Value} {ms : List (Text × Value)}
    (h : Series (Entry Written) first u ((name, x) :: ms)) (t : Text) :
    ∃ v u' s, Element Written v x ∧ Series (Entry Written) false u' ms ∧
      next first (u ++ t) = .ok (.key name s) ∧ colon s = .ok (v ++ (u' ++ t)) := by
  cases first with
  | true =>
    cases h with
    | @first m u' _ _ entry rest =>
      obtain ⟨v, s, element, key, value⟩ := entry.key_append (u' ++ t)
      rw [← List.append_assoc] at key
      exact ⟨v, u', s, element, rest, next_true_eq_key_iff.2 key, value⟩
  | false =>
    obtain ⟨m, u', entry, rest, comma⟩ := h.skip_later t
    obtain ⟨v, s, element, key, value⟩ := entry.key_append (u' ++ t)
    exact ⟨v, u', s, element, rest, next_false_eq_key_iff.2 ⟨_, comma, key⟩, value⟩

theorem exists_series_of_done {s : Text} (h : next first s = .ok (.done r)) :
    ∃ u t, Series (Entry Written) first u [] ∧ s = u ++ '}' :: t ∧ r = '}' :: t := by
  obtain ⟨t, ends, rfl⟩ := next_eq_done_iff.1 h
  obtain ⟨w, blank, rfl⟩ := (skip_eq_cons_iff (by decide)).1 ends
  exact ⟨w, t, .nil blank, rfl, rfl⟩

theorem exists_series_of_key {s s' v name : Text} {x : Value} {ms : List (Text × Value)}
    (found : next first s = .ok (.key name s')) (value : colon s' = .ok (v ++ (u ++ t)))
    (element : Element Written v x) (rest : Series (Entry Written) false u ms) :
    ∃ u', Series (Entry Written) first u' ((name, x) :: ms) ∧ s = u' ++ t := by
  cases first with
  | true =>
    obtain ⟨m, entry, rfl⟩ := exists_entry_of_key (next_true_eq_key_iff.1 found) value element
    exact ⟨_, .first entry rest, by simp⟩
  | false =>
    obtain ⟨s'', comma, found'⟩ := next_false_eq_key_iff.1 found
    obtain ⟨m, entry, rfl⟩ := exists_entry_of_key found' value element
    obtain ⟨w, blank, rfl⟩ := (skip_eq_cons_iff (by decide)).1 comma
    exact ⟨_, .later blank entry rest, by simp⟩

end Series

end Placeholder.Json
