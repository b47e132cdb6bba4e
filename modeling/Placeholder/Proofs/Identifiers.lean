import Placeholder.Proofs.Decomposition
import Placeholder.Proofs.Replacement

namespace Placeholder

namespace Text

def from? (start : Nat) (s : Text) : Option Text := slice? start s.bytes s

theorem from?_eq_some_iff {start : Nat} {s u : Text} :
    from? start s = some u ↔ ∃ r, s = r ++ u ∧ start = r.bytes := by
  rw [from?, slice?_eq_some_iff]
  constructor
  · rintro ⟨r, t, rfl, first, last⟩
    have nothing : t = [] := by
      apply eq_nil_of_bytes_eq_zero
      simp only [bytes_append] at last
      omega
    exact ⟨r, by rw [nothing, List.append_nil], first⟩
  · rintro ⟨r, rfl, first⟩
    exact ⟨r, [], by rw [List.append_nil], first, bytes_append r u⟩

end Text

theorem wrap_eq_append_wrap {m n u s t : Text} (hm : '}' ∉ m) (hn : '}' ∉ n)
    (h : wrap m ++ s = u ++ (wrap n ++ t)) (lt : u.bytes < (wrap m).bytes) :
    wrap m = u ++ wrap n := by
  have inside : u <+: '$' :: '{' :: m := prefix_of_prefix_wrap_append ⟨_, h.symm⟩ lt
  have free : '}' ∉ '$' :: '{' :: m := by simp [hm]
  have free' : '}' ∉ u ++ '$' :: '{' :: n := by
    have clean : '}' ∉ u := fun mem => free (inside.subset mem)
    simp [clean, hn]
  have same : '$' :: '{' :: m = u ++ '$' :: '{' :: n := by
    apply eq_of_append_cons_eq (s := s) (t := t) free free'
    simpa [wrap] using h
  calc
    wrap m = ('$' :: '{' :: m) ++ ['}'] := rfl
    _ = u ++ wrap n := by rw [same, List.append_assoc]; rfl

namespace Occurrence

variable {names : Text → Prop} {s : Text} {o x : Occurrence}

theorem Stands.stop_eq (h : o.Stands names s) : o.stop = o.start + o.text.bytes := by
  obtain ⟨r, n, t, -, -, rfl⟩ := stands_iff.1 h
  rfl

/-- A marker that begins within another one, of whatever grammar, is the end of it: both are closed
by the first delimiter that can close them. -/
theorem Stands.exists_append_of_covers {names' : Text → Prop} (brace : ∀ n, names n → '}' ∉ n)
    (brace' : ∀ n, names' n → '}' ∉ n) (h : o.Stands names s) (h' : x.Stands names' s)
    (le : o.start ≤ x.start) (lt : x.start < o.stop) :
    ∃ u : Text, o.text = u ++ x.text ∧ x.start = o.start + Text.bytes u := by
  obtain ⟨r, n, t, split, name, rfl⟩ := stands_iff.1 h
  obtain ⟨r', n', t', split', name', rfl⟩ := stands_iff.1 h'
  obtain ⟨u, rfl⟩ := Text.prefix_of_bytes_le ⟨_, split.symm⟩ ⟨_, split'.symm⟩ le
  have behind : wrap n ++ t = u ++ (wrap n' ++ t') := by
    rw [split, List.append_assoc] at split'
    exact List.append_cancel_left split'
  have size : Text.bytes u < Text.bytes (wrap n) := by
    simp only [Marker.occurrence, Marker.stop, Marker.text, Text.bytes_append] at lt
    omega
  exact ⟨u, wrap_eq_append_wrap (brace n name) (brace' n' name') behind size, Text.bytes_append r u⟩

theorem Stands.eq_of_covers (brace : ∀ n, names n → '}' ∉ n) (dollar : ∀ n, names n → '$' ∉ n)
    (h : o.Stands names s) (h' : x.Stands names s) (le : o.start ≤ x.start)
    (lt : x.start < o.stop) : o = x := by
  apply h.eq_of_start_eq brace h'
  obtain ⟨u, text, start⟩ := h.exists_append_of_covers brace brace h' le lt
  rw [h.text, h'.text] at text
  cases u with
  | nil => exact start.symm
  | cons c u =>
    have tail : (wrap o.name).tail = u ++ wrap x.name := congrArg List.tail text
    have mem : '$' ∈ (wrap o.name).tail := by
      rw [tail]
      exact List.mem_append_right u List.mem_cons_self
    exact absurd mem (dollar_not_mem_tail_wrap (dollar o.name h.name))

end Occurrence

theorem Leftmost.mem_iff_stands {names : Text → Prop} (brace : ∀ n, names n → '}' ∉ n)
    (dollar : ∀ n, names n → '$' ∉ n) {s : Text} {os : List Occurrence} (h : Leftmost names s 0 os)
    {o : Occurrence} : o ∈ os ↔ o.Stands names s := by
  constructor
  · exact h.stands o
  · intro stands
    obtain ⟨x, hx, le, lt⟩ := h.covers o stands (Nat.zero_le _)
    rwa [← (h.stands x hx).eq_of_covers brace dollar stands le lt]

theorem Marker.occurrence_injective : Function.Injective Marker.occurrence := by
  rintro ⟨n, start⟩ ⟨n', start'⟩ same
  obtain ⟨-, rfl, rfl, -⟩ : _ ∧ n = n' ∧ start = start' ∧ _ := Occurrence.mk.inj same
  rfl

section Identifiers

variable {s : Text} {m : Marker}

theorem leftmost_identifiers (s : Text) :
    Leftmost IsIdentifier s 0 ((identifiers s).map Marker.occurrence) :=
  Pattern.leftmost_scan (fun _ _ => Pattern.identifier_eq_some_iff) s

theorem mem_identifiers_iff_stands :
    m ∈ identifiers s ↔ m.occurrence.Stands IsIdentifier s := by
  rw [← List.mem_map_of_injective Marker.occurrence_injective]
  exact (leftmost_identifiers s).mem_iff_stands (fun _ name => name.brace_not_mem)
    fun _ name => name.dollar_not_mem

theorem mem_identifiers_iff :
    m ∈ identifiers s ↔
      ∃ r t, s = r ++ (wrap m.name ++ t) ∧ IsIdentifier m.name ∧ m.start = r.bytes := by
  rw [mem_identifiers_iff_stands, Occurrence.stands_iff]
  constructor
  · rintro ⟨r, n, t, split, name, same⟩
    obtain rfl := Marker.occurrence_injective same
    exact ⟨r, t, split, name, rfl⟩
  · rintro ⟨r, t, split, name, start⟩
    exact ⟨r, m.name, t, split, name, by rw [← start]⟩

theorem exists_identifier_at_iff {start : Nat} :
    (∃ m ∈ identifiers s, m.start = start) ↔
      ∃ n t, IsIdentifier n ∧ Text.from? start s = some (wrap n ++ t) := by
  simp only [mem_identifiers_iff, Text.from?_eq_some_iff]
  constructor
  · rintro ⟨m, ⟨r, t, split, name, place⟩, rfl⟩
    exact ⟨m.name, t, name, r, split, place⟩
  · rintro ⟨n, t, name, r, split, place⟩
    exact ⟨⟨n, start⟩, ⟨r, t, split, name, place⟩, rfl⟩

theorem exists_stop_of_mem_identifiers (h : m ∈ identifiers s) :
    ∃ u t : Text, Text.from? m.start s = some (u ++ '}' :: t) ∧ '}' ∉ u ∧
      m.stop = m.start + u.bytes + 1 := by
  obtain ⟨r, t, split, name, place⟩ := mem_identifiers_iff.1 h
  refine ⟨'$' :: '{' :: m.name, t, ?_, ?_, ?_⟩
  · exact Text.from?_eq_some_iff.2 ⟨r, by simpa [wrap] using split, place⟩
  · simp [name.brace_not_mem]
  · have closing : '}'.utf8Size = 1 := by decide
    simp only [Marker.stop, Marker.text, wrap, Text.bytes_cons, Text.bytes_append, Text.bytes_nil,
      closing]
    omega

theorem slices_of_mem_identifiers (h : m ∈ identifiers s) :
    Text.slice? m.start m.stop s = some m.text ∧
      Text.slice? (m.start + 2) (m.stop - 1) s = some m.name := by
  obtain ⟨r, t, split, -, place⟩ := mem_identifiers_iff.1 h
  constructor
  · exact Text.slice?_eq_some_iff.2 ⟨r, t, split, place, congrArg (· + _) place⟩
  · have sizes : '$'.utf8Size = 1 ∧ '{'.utf8Size = 1 ∧ '}'.utf8Size = 1 := by decide
    refine Text.slice?_eq_some_iff.2 ⟨r ++ ['$', '{'], '}' :: t, by simpa [wrap] using split, ?_, ?_⟩
    · simp [place, sizes]
    · simp only [Marker.stop, Marker.text, wrap, Text.bytes_cons, Text.bytes_append, Text.bytes_nil,
        place, sizes]
      omega

end Identifiers

/-- A marker with a name of letters and digits is found at each byte where one begins, and nowhere
else. What is found are the parts of the text that are said to be there, each up to the first closing
delimiter, in their order and apart from one another. -/
theorem identifiers_miss_nothing (s : Text) :
    (∀ start, (∃ m ∈ identifiers s, m.start = start) ↔
      ∃ n t, IsIdentifier n ∧ Text.from? start s = some (wrap n ++ t)) ∧
      (∀ m ∈ identifiers s,
        (∃ u t : Text, Text.from? m.start s = some (u ++ '}' :: t) ∧ '}' ∉ u ∧
          m.stop = m.start + u.bytes + 1) ∧
        Text.slice? m.start m.stop s = some m.text ∧
        Text.slice? (m.start + 2) (m.stop - 1) s = some m.name) ∧
      ((identifiers s).Pairwise fun m m' => m.start < m'.start ∧ m.stop ≤ m'.start) ∧
      (hasIdentifier s = true ↔ identifiers s ≠ []) := by
  refine ⟨fun start => exists_identifier_at_iff, ?_, ?_, ?_⟩
  · intro m hm
    exact ⟨exists_stop_of_mem_identifiers hm, slices_of_mem_identifiers hm⟩
  · exact List.pairwise_map.1 (leftmost_identifiers s).apart
  · rw [← Bool.not_eq_false, hasIdentifier, Pattern.found_eq_false_iff]
    rfl

example :
    identifiers (wrap (wrap ['a']) ++ 'é' :: '$' :: wrap ['b'] ++ ['$', '{', 'c']) =
      [⟨['a'], 2⟩, ⟨['b'], 10⟩] := by
  decide +kernel

end Placeholder
