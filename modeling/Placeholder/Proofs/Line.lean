import Placeholder.Text.Basic

namespace Placeholder.Line

def sign (c : Char) : Text := if c = '"' ∨ c = '\\' then ['\\', c] else [c]

def quote (s : Text) : Text := '"' :: (s.flatMap sign ++ ['"'])

theorem quote_append (s r : Text) : quote s ++ r = '"' :: (s.flatMap sign ++ '"' :: r) := by
  simp [quote]

def entry (e : Text × Text) : Text := quote e.1 ++ ':' :: quote e.2

def document (es : List (Text × Text)) : Text := '{' :: (Text.join [','] (es.map entry) ++ ['}'])

def further (es : List (Text × Text)) : Text := es.flatMap fun e => ',' :: entry e

theorem join_map_cons (e : Text × Text) (es : List (Text × Text)) :
    Text.join [','] ((e :: es).map entry) = entry e ++ further es := by
  rw [List.map_cons, Text.join_cons, List.flatMap_map]
  rfl

theorem document_cons (e : Text × Text) (es : List (Text × Text)) :
    document (e :: es) = '{' :: (entry e ++ (further es ++ ['}'])) := by
  rw [document, join_map_cons, List.append_assoc]

def Printable (s : Text) : Prop := ∀ c ∈ s, 0x20 ≤ c.toNat ∧ c.toNat ≤ 0x7E

-- Written out, since a search may also decide this by going through all characters there are.
instance (s : Text) : Decidable (Printable s) := List.decidableBAll _ s

section Printable

variable {s t : Text} {c : Char}

theorem printable_cons :
    Printable (c :: s) ↔ (0x20 ≤ c.toNat ∧ c.toNat ≤ 0x7E) ∧ Printable s :=
  List.forall_mem_cons

theorem Printable.append (h : Printable s) (h' : Printable t) : Printable (s ++ t) :=
  List.forall_mem_append.2 ⟨h, h'⟩

theorem Printable.flatMap {α : Type} {f : α → Text} {l : List α} (h : ∀ a ∈ l, Printable (f a)) :
    Printable (l.flatMap f) :=
  List.forall_mem_flatMap.2 h

theorem Printable.quote (h : Printable s) : Printable (quote s) := by
  have signs : ∀ c ∈ s, Printable (sign c) := by
    intro c hc
    rw [sign]
    split
    · exact printable_cons.2 ⟨by decide, List.forall_mem_singleton.2 (h c hc)⟩
    · exact List.forall_mem_singleton.2 (h c hc)
  exact printable_cons.2 ⟨by decide, (Printable.flatMap signs).append (by decide)⟩

theorem Printable.entry {e : Text × Text} (h : Printable e.1 ∧ Printable e.2) :
    Printable (entry e) :=
  h.1.quote.append (printable_cons.2 ⟨by decide, h.2.quote⟩)

theorem Printable.document {es : List (Text × Text)}
    (h : ∀ e ∈ es, Printable e.1 ∧ Printable e.2) : Printable (document es) := by
  cases es with
  | nil => decide
  | cons e es =>
    have others : Printable (further es) := by
      apply Printable.flatMap
      intro f hf
      exact printable_cons.2 ⟨by decide, Printable.entry (h f (List.mem_cons_of_mem e hf))⟩
    rw [document_cons]
    exact printable_cons.2 ⟨by decide,
      (Printable.entry (h e List.mem_cons_self)).append (others.append (by decide))⟩

theorem Printable.bytes_eq (h : Printable s) : s.bytes = s.length := by
  induction s with
  | nil => rfl
  | cons c s ih =>
    obtain ⟨⟨-, ascii⟩, rest⟩ := printable_cons.1 h
    have one : c.utf8Size = 1 := by
      rw [Char.utf8Size_eq_one_iff, UInt32.le_iff_toNat_le]
      exact Nat.le_succ_of_le ascii
    rw [Text.bytes_cons, List.length_cons, one, ih rest, Nat.add_comm]

end Printable

theorem length_quote_le (s : Text) : (quote s).length ≤ 2 * s.length + 2 := by
  have signs : (s.flatMap sign).length ≤ 2 * s.length := by
    induction s with
    | nil => simp
    | cons c s ih =>
      have two : (sign c).length ≤ 2 := by
        rw [sign]
        split <;> simp
      rw [List.flatMap_cons, List.length_append, List.length_cons]
      omega
  simpa [quote] using signs

end Placeholder.Line
