import Placeholder.Marker.Division

namespace Placeholder

def Opens (s : Text) : Prop := ['$', '{'] <+: s

theorem opens_cons_iff {c : Char} {s : Text} : Opens (c :: s) ↔ c = '$' ∧ s.head? = some '{' := by
  rw [Opens, List.cons_prefix_cons]
  cases s with
  | nil => simp
  | cons d s => simp [List.cons_prefix_cons, eq_comm]

instance (s : Text) : Decidable (Opens s) := inferInstanceAs (Decidable (_ <+: _))

theorem opens_of_starts {n s : Text} (h : wrap n <+: s) : Opens s := by
  obtain ⟨r, rfl⟩ := h
  exact ⟨n ++ '}' :: r, by simp [wrap]⟩

theorem dollar_not_mem_tail_wrap {n : Text} (h : '$' ∉ n) : '$' ∉ (wrap n).tail := by
  simp [wrap, h]

def IsIdentifier (n : Text) : Prop := n ≠ [] ∧ ∀ c ∈ n, c.isAlphanum = true

instance (n : Text) : Decidable (IsIdentifier n) :=
  decidable_of_iff (n ≠ [] ∧ n.all Char.isAlphanum = true) (by simp [IsIdentifier])

theorem IsIdentifier.not_mem {n : Text} (h : IsIdentifier n) {c : Char}
    (other : c.isAlphanum = false) : c ∉ n := by
  intro mem
  rw [h.2 c mem] at other
  cases other

theorem IsIdentifier.brace_not_mem {n : Text} (h : IsIdentifier n) : '}' ∉ n :=
  h.not_mem (by decide)

theorem IsIdentifier.dollar_not_mem {n : Text} (h : IsIdentifier n) : '$' ∉ n :=
  h.not_mem (by decide)

structure Clear (name : Text) : Prop where
  dollar : '$' ∉ name
  brace : '}' ∉ name

instance (name : Text) : Decidable (Clear name) :=
  decidable_of_iff ('$' ∉ name ∧ '}' ∉ name) ⟨fun h => ⟨h.1, h.2⟩, fun h => ⟨h.dollar, h.brace⟩⟩

theorem IsIdentifier.clear {n : Text} (h : IsIdentifier n) : Clear n :=
  ⟨h.dollar_not_mem, h.brace_not_mem⟩

theorem prefix_of_prefix_append_cons {c : Char} {u v s : Text} (h : u <+: v ++ c :: s)
    (hc : c ∉ u) : u <+: v := by
  have front : v ++ [c] <+: v ++ c :: s := ⟨s, by simp⟩
  rcases List.prefix_or_prefix_of_prefix h front with short | long
  · rcases List.prefix_concat_iff.1 short with rfl | inner
    · exact absurd (List.mem_append_right v (List.mem_singleton_self c)) hc
    · exact inner
  · exact absurd (long.subset (List.mem_append_right v (List.mem_singleton_self c))) hc

theorem eq_of_append_cons_eq {c : Char} {u v s t : Text} (hu : c ∉ u) (hv : c ∉ v)
    (h : u ++ c :: s = v ++ c :: t) : u = v := by
  have front : u <+: v := prefix_of_prefix_append_cons ⟨c :: s, h⟩ hu
  have front' : v <+: u := prefix_of_prefix_append_cons ⟨c :: t, h.symm⟩ hv
  exact front.eq_of_length_le front'.length_le

theorem name_eq_of_starts {m n s : Text} (hm : '}' ∉ m) (hn : '}' ∉ n) (pm : wrap m <+: s)
    (pn : wrap n <+: s) : m = n := by
  obtain ⟨r, rfl⟩ := pm
  obtain ⟨t, e⟩ := pn
  apply eq_of_append_cons_eq (s := r) (t := t) hm hn
  simpa [wrap] using e.symm

theorem prefix_of_prefix_wrap_append {n u s : Text} (h : u <+: wrap n ++ s)
    (lt : u.bytes < (wrap n).bytes) : u <+: '$' :: '{' :: n := by
  have front : u <+: ('$' :: '{' :: n) ++ ['}'] :=
    Text.prefix_of_bytes_le h (List.prefix_append (wrap n) s) (Nat.le_of_lt lt)
  rcases List.prefix_concat_iff.1 front with rfl | inside
  · exact absurd lt (Nat.lt_irrefl _)
  · exact inside

namespace Pattern

theorem runAt_wrap_append {admits : Char → Bool} (close : admits '}' = false) {n : Text}
    (ne : n ≠ []) (run : ∀ c ∈ n, admits c = true) (s : Text) :
    runAt admits (wrap n ++ s) = some n := by
  have e : wrap n ++ s = '$' :: '{' :: (n ++ '}' :: s) := by simp [wrap]
  rw [e, runAt, List.takeWhile_append_of_pos run, List.dropWhile_append_of_pos run]
  obtain ⟨c, n, rfl⟩ := List.exists_cons_of_ne_nil ne
  simp [close]

theorem runAt_eq_some_iff {admits : Char → Bool} (close : admits '}' = false) {s n : Text} :
    runAt admits s = some n ↔ n ≠ [] ∧ (∀ c ∈ n, admits c = true) ∧ wrap n <+: s := by
  constructor
  · exact runAt_eq_some
  · rintro ⟨ne, run, r, rfl⟩
    exact runAt_wrap_append close ne run r

theorem identifier_eq_some_iff {s n : Text} :
    identifier.nameAt s = some n ↔ IsIdentifier n ∧ wrap n <+: s := by
  rw [IsIdentifier, and_assoc]
  exact runAt_eq_some_iff (by decide)

theorem not_starts_of_identifier_eq_none {s n : Text} (absent : identifier.nameAt s = none)
    (name : IsIdentifier n) : ¬ wrap n <+: s := by
  intro starts
  rw [identifier_eq_some_iff.2 ⟨name, starts⟩] at absent
  cases absent

theorem field_eq_some_iff {s n : Text} :
    field.nameAt s = some n ↔ n ≠ [] ∧ '}' ∉ n ∧ wrap n <+: s := by
  have admitted : (∀ c ∈ n, (c != '}') = true) ↔ '}' ∉ n := by
    simp only [bne_iff_ne]
    exact ⟨fun h mem => h _ mem rfl, fun h c mem e => h (e ▸ mem)⟩
  rw [← admitted]
  exact runAt_eq_some_iff (by decide)

theorem literal_eq_some_iff {name s n : Text} :
    (literal name).nameAt s = some n ↔ n = name ∧ wrap name <+: s := by
  by_cases h : wrap name <+: s <;> simp [literal, h, eq_comm (a := n)]

theorem literal_eq_none_iff {name s : Text} :
    (literal name).nameAt s = none ↔ ¬ wrap name <+: s := by
  simp [literal]

theorem cut_identifier {n : Text} (h : IsIdentifier n) (s : Text) :
    identifier.cut (wrap n ++ s) = .marker n :: identifier.cut s :=
  cut_wrap_append (identifier_eq_some_iff.2 ⟨h, List.prefix_append _ s⟩)

theorem cut_field {n : Text} (ne : n ≠ []) (brace : '}' ∉ n) (s : Text) :
    field.cut (wrap n ++ s) = .marker n :: field.cut s :=
  cut_wrap_append (field_eq_some_iff.2 ⟨ne, brace, List.prefix_append _ s⟩)

theorem cut_literal (name s : Text) :
    (literal name).cut (wrap name ++ s) = .marker name :: (literal name).cut s :=
  cut_wrap_append (literal_eq_some_iff.2 ⟨rfl, List.prefix_append _ s⟩)

theorem nameAt_of_not_opens (p : Pattern) {s : Text} (h : ¬ Opens s) : p.nameAt s = none := by
  cases found : p.nameAt s with
  | none => rfl
  | some n => exact absurd (opens_of_starts (p.sound found)) h

theorem cut_of_not_opens (p : Pattern) {c : Char} {s : Text} (h : ¬ Opens (c :: s)) :
    p.cut (c :: s) = .plain c :: p.cut s :=
  cut_of_nameAt_eq_none (p.nameAt_of_not_opens h)

end Pattern

def Quiet (u s : Text) : Prop := ∀ r, r <:+ u → r ≠ [] → ¬ Opens (r ++ s)

theorem Quiet.tail {c : Char} {u s : Text} (h : Quiet (c :: u) s) : Quiet u s :=
  fun r suffix => h r (suffix.trans (List.suffix_cons c u))

theorem Quiet.head {c : Char} {u s : Text} (h : Quiet (c :: u) s) : ¬ Opens (c :: (u ++ s)) :=
  h (c :: u) (List.suffix_refl _) (List.cons_ne_nil c u)

theorem quiet_of_dollar_not_mem {u : Text} (h : '$' ∉ u) (s : Text) : Quiet u s := by
  intro r suffix ne opens
  obtain ⟨c, r, rfl⟩ := List.exists_cons_of_ne_nil ne
  obtain ⟨rfl, -⟩ := opens_cons_iff.1 opens
  exact h (suffix.subset List.mem_cons_self)

namespace Pattern

theorem cut_append_of_quiet (p : Pattern) {u s : Text} (quiet : Quiet u s) :
    p.cut (u ++ s) = u.map .plain ++ p.cut s := by
  induction u with
  | nil => rfl
  | cons c u ih =>
    rw [List.cons_append, p.cut_of_not_opens quiet.head, ih quiet.tail]
    rfl

theorem cut_literal_of_ne {name k : Text} (other : k ≠ name) (brace : '}' ∉ name) (clear : Clear k)
    (s : Text) :
    (literal name).cut (wrap k ++ s) = (wrap k).map .plain ++ (literal name).cut s := by
  have elsewhere : (literal name).nameAt ('$' :: ((wrap k).tail ++ s)) = none :=
    literal_eq_none_iff.2 fun starts =>
      other (name_eq_of_starts clear.brace brace (List.prefix_append (wrap k) s) starts)
  -- the sign that begins markers is in this one at its head only
  have tail : Quiet (wrap k).tail s :=
    quiet_of_dollar_not_mem (dollar_not_mem_tail_wrap clear.dollar) s
  calc
    (literal name).cut (wrap k ++ s) = .plain '$' :: (literal name).cut ((wrap k).tail ++ s) :=
      cut_of_nameAt_eq_none elsewhere
    _ = .plain '$' :: ((wrap k).tail.map .plain ++ (literal name).cut s) := by
      rw [cut_append_of_quiet _ tail]
    _ = (wrap k).map .plain ++ (literal name).cut s := rfl

theorem cut_of_suffix {p : Pattern} {ps : List Piece} {s : Text} (h : ps <:+ p.cut s) :
    p.cut (ps.flatMap Piece.text) = ps := by
  induction s using p.cut_induction with
  | nil =>
    rw [cut_nil, List.suffix_nil] at h
    simp [h]
  | marker n s found ih =>
    rw [cut_wrap_append found, List.suffix_cons_iff] at h
    rcases h with rfl | h
    · simp [Piece.text, flatMap_text_cut, cut_wrap_append found]
    · exact ih h
  | plain c s none ih =>
    rw [cut_of_nameAt_eq_none none, List.suffix_cons_iff] at h
    rcases h with rfl | h
    · simp [Piece.text, flatMap_text_cut, cut_of_nameAt_eq_none none]
    · exact ih h

theorem count_eq_zero_iff (p : Pattern) (s : Text) :
    p.count s = 0 ↔ ∀ c r, c :: r <:+ s → p.nameAt (c :: r) = none := by
  induction s using p.cut_induction with
  | nil => simp [count]
  | marker n s found ih =>
    constructor
    · intro h
      simp [count, cut_wrap_append found, Piece.isMarker] at h
    · intro h
      have none := h '$' ((wrap n).tail ++ s) (List.suffix_refl _)
      rw [show '$' :: ((wrap n).tail ++ s) = wrap n ++ s from rfl, found] at none
      cases none
  | plain c s none ih =>
    have same : p.count (c :: s) = p.count s := by
      simp [count, cut_of_nameAt_eq_none none, Piece.isMarker]
    rw [same, ih]
    constructor
    · intro h d r suffix
      rcases List.suffix_cons_iff.1 suffix with e | suffix
      · rw [e, none]
      · exact h d r suffix
    · intro h d r suffix
      exact h d r (suffix.trans (List.suffix_cons c s))

theorem found_eq_false_iff (p : Pattern) (s : Text) : p.found s = false ↔ p.scan s = [] := by
  rw [← List.length_eq_zero_iff, length_scan, count_eq_zero_iff]
  induction s with
  | nil =>
    have nothing : p.nameAt [] = none := by
      cases found : p.nameAt [] with
      | none => rfl
      | some n => cases List.prefix_nil.1 (p.sound found)
    simp [Pattern.found, nothing]
  | cons c s ih =>
    rw [Pattern.found, Bool.or_eq_false_iff, ih, Option.isSome_eq_false_iff, Option.isNone_iff_eq_none]
    constructor
    · rintro ⟨here, later⟩ d r suffix
      rcases List.suffix_cons_iff.1 suffix with whole | inner
      · rw [whole, here]
      · exact later d r inner
    · intro h
      exact ⟨h c s (List.suffix_refl _), fun d r inner => h d r (inner.trans (List.suffix_cons c s))⟩

theorem infix_of_mem_scan {p : Pattern} {s : Text} {m : Marker} (h : m ∈ p.scan s) :
    m.text <:+: s := by
  have cuts := p.cuts_divide s
  rw [← cuts.markers] at h
  rw [← cuts.text]
  exact Division.infix_fill h

def fill (p : Pattern) (value : Text → Text) (s : Text) : Text :=
  (p.cut s).flatMap (Piece.fill value)

@[simp] theorem fill_nil (p : Pattern) (value : Text → Text) : p.fill value [] = [] := by
  simp [fill]

theorem fill_wrap_append {p : Pattern} {n s : Text} (h : p.nameAt (wrap n ++ s) = some n)
    (value : Text → Text) : p.fill value (wrap n ++ s) = value n ++ p.fill value s := by
  simp [fill, cut_wrap_append h, Piece.fill]

theorem fill_cons {p : Pattern} {c : Char} {s : Text} (h : p.nameAt (c :: s) = none)
    (value : Text → Text) : p.fill value (c :: s) = c :: p.fill value s := by
  simp [fill, cut_of_nameAt_eq_none h, Piece.fill]

end Pattern

theorem flatMap_fill_map_plain (value : Text → Text) (u : Text) :
    (u.map Piece.plain).flatMap (Piece.fill value) = u := by
  simp [List.flatMap_map, Piece.fill]

end Placeholder
