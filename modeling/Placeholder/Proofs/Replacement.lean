import Mathlib.Data.List.Infix
import Placeholder.Proofs.Pattern

/-! What a replacement leaves behind. A value without delimiters of its own, too long to hide in a
marker, cannot take part in a marker of the text that it is put into. -/

namespace Placeholder

theorem occurrences_eq_zero_iff {name s : Text} : occurrences name s = 0 ↔ ¬ wrap name <:+: s := by
  rw [occurrences, Pattern.count_eq_zero_iff, List.infix_iff_prefix_suffix]
  simp only [Pattern.literal_eq_none_iff, not_exists, not_and]
  constructor
  · intro h t starts suffix
    cases t with
    | nil => exact List.cons_ne_nil _ _ (List.prefix_nil.1 starts)
    | cons c r => exact h c r suffix starts
  · intro h c r suffix starts
    exact h (c :: r) starts suffix

theorem replace_of_not_infix {name s : Text} (value : Text) (h : ¬ wrap name <:+: s) :
    replace name value s = s :=
  replace_of_occurrences_eq_zero (occurrences_eq_zero_iff.2 h)

@[simp] theorem replace_nil (name value : Text) : replace name value [] = [] :=
  Pattern.fill_nil _ _

theorem replace_wrap_append (name value s : Text) :
    replace name value (wrap name ++ s) = value ++ replace name value s :=
  Pattern.fill_wrap_append (Pattern.literal_eq_some_iff.2 ⟨rfl, List.prefix_append _ s⟩) _

theorem replace_cons {name : Text} (value : Text) {c : Char} {s : Text}
    (h : ¬ wrap name <+: c :: s) : replace name value (c :: s) = c :: replace name value s :=
  Pattern.fill_cons (Pattern.literal_eq_none_iff.2 h) _

theorem replace_append_of_quiet {name : Text} (value : Text) {u s : Text} (quiet : Quiet u s) :
    replace name value (u ++ s) = u ++ replace name value s := by
  rw [replace, Pattern.cut_append_of_quiet _ quiet, List.flatMap_append, flatMap_fill_map_plain]
  rfl

theorem replace_wrap_append_of_ne {name k : Text} (value : Text) (other : k ≠ name)
    (brace : '}' ∉ name) (clear : Clear k) (s : Text) :
    replace name value (wrap k ++ s) = wrap k ++ replace name value s := by
  rw [replace, Pattern.cut_literal_of_ne other brace clear, List.flatMap_append,
    flatMap_fill_map_plain]
  rfl

theorem suffix_of_suffix_append_of_not_mem {c : Char} {u v s : Text} (h : c :: u <:+ v ++ s)
    (hc : c ∉ v) : c :: u <:+ s := by
  induction v with
  | nil => exact h
  | cons d v ih =>
    simp only [List.mem_cons, not_or] at hc
    rw [List.cons_append, List.suffix_cons_iff] at h
    rcases h with whole | inner
    · exact absurd (List.cons.inj whole).1 hc.1
    · exact ih inner hc.2

theorem infix_of_infix_append_of_not_mem {c : Char} {u v s : Text} (h : c :: u <:+: v ++ s)
    (hc : c ∉ v) : c :: u <:+: s := by
  obtain ⟨t, ⟨r, rfl⟩, suffix⟩ := List.infix_iff_prefix_suffix.1 h
  rw [List.cons_append] at suffix
  apply (List.prefix_append (c :: u) r).isInfix.trans
  exact (suffix_of_suffix_append_of_not_mem suffix hc).isInfix

theorem infix_or_infix_of_infix_append_cons {c : Char} {u v s : Text} (h : u <:+: v ++ c :: s)
    (hc : c ∉ u) : u <:+: v ∨ u <:+: s := by
  induction v with
  | nil =>
    rcases List.infix_cons_iff.1 h with starts | inner
    · exact .inl (prefix_of_prefix_append_cons starts hc).isInfix
    · exact .inr inner
  | cons d v ih =>
    rcases List.infix_cons_iff.1 h with starts | inner
    · exact .inl (prefix_of_prefix_append_cons starts hc).isInfix
    · exact (ih inner).imp_left fun left => left.trans (List.suffix_cons d v).isInfix

section Standing

theorem map_name_identifiers (s : Text) :
    (identifiers s).map Marker.name = (Pattern.identifier.cut s).filterMap Piece.name? :=
  Marker.map_name_locate 0 _

theorem infix_wrap_append_iff {k n : Text} (brace : '}' ∉ k) (clear : Clear n) (s : Text) :
    wrap k <:+: wrap n ++ s ↔ k = n ∨ wrap k <:+: s := by
  constructor
  · intro stands
    have cons : wrap k <:+: '$' :: ((wrap n).tail ++ s) := stands
    rcases List.infix_cons_iff.1 cons with starts | inner
    · have whole : wrap k <+: wrap n ++ s := starts
      exact .inl (name_eq_of_starts brace clear.brace whole (List.prefix_append _ s))
    · exact .inr (infix_of_infix_append_of_not_mem inner (dollar_not_mem_tail_wrap clear.dollar))
  · rintro (rfl | inner)
    · exact (List.prefix_append _ s).isInfix
    · exact inner.trans (List.suffix_append _ s).isInfix

theorem infix_iff_mem_names {k : Text} (hk : IsIdentifier k) (s : Text) :
    wrap k <:+: s ↔ k ∈ (identifiers s).map Marker.name := by
  rw [map_name_identifiers]
  induction s using Pattern.identifier.cut_induction with
  | nil => simp [wrap]
  | marker n s found ih =>
    obtain ⟨hn, -⟩ := Pattern.identifier_eq_some_iff.1 found
    rw [infix_wrap_append_iff hk.brace_not_mem hn.clear, ih, Pattern.cut_wrap_append found,
      List.filterMap_cons, Piece.name?, List.mem_cons]
  | plain c s none ih =>
    have elsewhere := Pattern.not_starts_of_identifier_eq_none none hk
    rw [List.infix_cons_iff, or_iff_right elsewhere, ih, Pattern.cut_of_nameAt_eq_none none,
      List.filterMap_cons, Piece.name?]

end Standing

/-- A value that has neither delimiter and fits into the marker of none of the names. -/
structure Foreign (names : List Text) (value : Text) : Prop where
  dollar : '$' ∉ value
  brace : '}' ∉ value
  inside : ∀ name ∈ names, ¬ value <:+: wrap name

instance (names : List Text) (value : Text) : Decidable (Foreign names value) :=
  decidable_of_iff ('$' ∉ value ∧ '}' ∉ value ∧ ∀ name ∈ names, ¬ value <:+: wrap name)
    ⟨fun h => ⟨h.1, h.2.1, h.2.2⟩, fun h => ⟨h.dollar, h.brace, h.inside⟩⟩

theorem Foreign.mono {names names' : List Text} {value : Text} (h : Foreign names' value)
    (sub : names ⊆ names') : Foreign names value :=
  ⟨h.dollar, h.brace, fun name mem => h.inside name (sub mem)⟩

section Survival

variable {value : Text} {u : Text} {ps : List Piece}

/-- A text that begins at a plain piece and whose ends close it runs over plain pieces only: it can
neither hold a value nor end in one. -/
theorem plain_prefix_of_prefix_fill (brace : '}' ∉ value) (inside : ¬ value <:+: u)
    (closed : ∀ w, w <:+ u → w ≠ [] → '}' ∈ w)
    (h : u <+: ps.flatMap (Piece.fill fun _ => value)) : u.map .plain <+: ps := by
  induction ps generalizing u with
  | nil =>
    obtain rfl : u = [] := List.prefix_nil.1 h
    exact List.nil_prefix
  | cons p ps ih =>
    cases u with
    | nil => exact List.nil_prefix
    | cons c u =>
      cases p with
      | plain d =>
        obtain ⟨rfl, tail⟩ := List.cons_prefix_cons.1 h
        have shorter : ¬ value <:+: u := fun i => inside (i.trans (List.suffix_cons c u).isInfix)
        have rest := ih shorter (fun w hw => closed w (hw.trans (List.suffix_cons c u))) tail
        exact List.cons_prefix_cons.2 ⟨rfl, rest⟩
      | marker n =>
        rw [List.flatMap_cons, Piece.fill] at h
        rcases List.prefix_or_prefix_of_prefix h (List.prefix_append value _) with short | long
        · have mem := closed (c :: u) (List.suffix_refl _) (List.cons_ne_nil c u)
          exact absurd (short.subset mem) brace
        · exact absurd long.isInfix inside

theorem plain_infix_of_infix_fill {c : Char} (dollar : c ∉ value) (brace : '}' ∉ value)
    (inside : ¬ value <:+: c :: u) (closed : ∀ w, w <:+ c :: u → w ≠ [] → '}' ∈ w)
    (h : c :: u <:+: ps.flatMap (Piece.fill fun _ => value)) : (c :: u).map .plain <:+: ps := by
  induction ps with
  | nil => exact absurd (List.infix_nil.1 h) (List.cons_ne_nil c u)
  | cons p ps ih =>
    cases p with
    | plain d =>
      rw [List.flatMap_cons, Piece.fill, List.singleton_append, List.infix_cons_iff] at h
      rcases h with starts | inner
      · have here : c :: u <+: (Piece.plain d :: ps).flatMap (Piece.fill fun _ => value) := starts
        exact (plain_prefix_of_prefix_fill brace inside closed here).isInfix
      · exact (ih inner).trans (List.suffix_cons _ ps).isInfix
    | marker n =>
      rw [List.flatMap_cons, Piece.fill] at h
      exact (ih (infix_of_infix_append_of_not_mem h dollar)).trans (List.suffix_cons _ ps).isInfix

theorem closed_wrap (name : Text) {w : Text} (h : w <:+ wrap name) (ne : w ≠ []) : '}' ∈ w := by
  have last : w.getLast ne = '}' := by
    rw [h.getLast ne]
    simp [wrap]
  rw [← last]
  exact List.getLast_mem ne

end Survival

theorem flatMap_text_map_plain (u : Text) : (u.map Piece.plain).flatMap Piece.text = u := by
  simp [List.flatMap_map, Piece.text]

section Foreign

variable {name k value s : Text}

theorem starts_of_starts_replace (foreign : Foreign [k] value)
    (h : wrap k <+: replace name value s) : wrap k <+: s := by
  have inside := foreign.inside k (List.mem_singleton_self k)
  obtain ⟨ps, cut⟩ : (wrap k).map Piece.plain <+: (Pattern.literal name).cut s :=
    plain_prefix_of_prefix_fill foreign.brace inside (fun w => closed_wrap k) h
  have whole := (Pattern.literal name).flatMap_text_cut s
  rw [← cut, List.flatMap_append, flatMap_text_map_plain] at whole
  exact ⟨_, whole⟩

theorem infix_of_infix_replace (foreign : Foreign [k] value)
    (h : wrap k <:+: replace name value s) : wrap k <:+: s ∧ k ≠ name := by
  have inside := foreign.inside k (List.mem_singleton_self k)
  obtain ⟨ps, qs, cut⟩ : (wrap k).map Piece.plain <:+: (Pattern.literal name).cut s :=
    plain_infix_of_infix_fill foreign.dollar foreign.brace inside (fun w => closed_wrap k) h
  constructor
  · have whole := (Pattern.literal name).flatMap_text_cut s
    rw [← cut, List.flatMap_append, List.flatMap_append, flatMap_text_map_plain] at whole
    exact ⟨_, _, whole⟩
  · rintro rfl
    -- the cut would have to begin with a marker and with a plain piece at the same place
    have again := Pattern.cut_of_suffix (p := .literal k) (s := s)
      ⟨ps, by rw [← List.append_assoc]; exact cut⟩
    rw [List.flatMap_append, flatMap_text_map_plain, Pattern.cut_literal] at again
    simp [wrap] at again

theorem infix_replace_self (value : Text) (h : wrap name <:+: s) :
    value <:+: replace name value s := by
  induction s using (Pattern.literal name).cut_induction with
  | nil => exact absurd (List.infix_nil.1 h) (List.cons_ne_nil _ _)
  | marker n s found ih =>
    obtain ⟨rfl, -⟩ := Pattern.literal_eq_some_iff.1 found
    rw [replace_wrap_append]
    exact (List.prefix_append value _).isInfix
  | plain c s none ih =>
    have elsewhere := Pattern.literal_eq_none_iff.1 none
    rw [replace_cons value elsewhere]
    exact (ih ((List.infix_cons_iff.1 h).resolve_left elsewhere)).trans
      (List.suffix_cons c _).isInfix

theorem Foreign.infix_replace {u : Text} (foreign : Foreign [name] u) (value : Text)
    (h : u <:+: s) : u <:+: replace name value s := by
  have inside := foreign.inside name (List.mem_singleton_self name)
  induction s using (Pattern.literal name).cut_induction with
  | nil => rwa [replace_nil]
  | marker n s found ih =>
    obtain ⟨rfl, -⟩ := Pattern.literal_eq_some_iff.1 found
    have closing : wrap n ++ s = ('$' :: '{' :: n) ++ '}' :: s := by simp [wrap]
    rw [closing] at h
    rw [replace_wrap_append]
    rcases infix_or_infix_of_infix_append_cons h foreign.brace with within | behind
    · have front : '$' :: '{' :: n <+: wrap n := ⟨['}'], by simp [wrap]⟩
      exact absurd (within.trans front.isInfix) inside
    · exact (ih behind).trans (List.suffix_append value _).isInfix
  | plain c s none ih =>
    rcases List.infix_cons_iff.1 h with ⟨t, starts⟩ | inner
    · rw [← starts, replace_append_of_quiet value (quiet_of_dollar_not_mem foreign.dollar t)]
      exact (List.prefix_append u _).isInfix
    · rw [replace_cons value (Pattern.literal_eq_none_iff.1 none)]
      exact (ih inner).trans (List.suffix_cons c _).isInfix

end Foreign
end Placeholder
