import Placeholder.Proofs.Nesting
import Placeholder.Proofs.Strict.Resolution
import Placeholder.Proofs.WellMarked

namespace Placeholder

namespace Pattern

theorem field_eq_none_iff {s : Text} :
    field.nameAt ('$' :: '{' :: s) = none ↔ s.head? = some '}' ∨ '}' ∉ s := by
  constructor
  · intro absent
    by_cases mem : '}' ∈ s
    · left
      obtain ⟨n, t, rfl, brace⟩ := List.eq_append_cons_of_mem mem
      cases n with
      | nil => rfl
      | cons c n =>
        have whole : '$' :: '{' :: (c :: n ++ '}' :: t) = wrap (c :: n) ++ t := by simp [wrap]
        rw [whole, field_eq_some_iff.2 ⟨List.cons_ne_nil c n, brace, List.prefix_append _ t⟩]
          at absent
        cases absent
    · exact .inr mem
  · intro dead
    cases found : field.nameAt ('$' :: '{' :: s) with
    | none => rfl
    | some n =>
      obtain ⟨ne, brace, t, split⟩ := field_eq_some_iff.1 found
      obtain rfl : n ++ '}' :: t = s := by simpa [wrap] using split
      obtain ⟨c, n, rfl⟩ := List.exists_cons_of_ne_nil ne
      rcases dead with head | free
      · obtain rfl : c = '}' := Option.some.inj head
        exact absurd List.mem_cons_self brace
      · simp at free

section Fill

variable {value : Text → Text} {s : Text}

theorem fill_of_brace_not_mem (p : Pattern) (free : '}' ∉ s) : p.fill value s = s := by
  have empty : p.count s = 0 := by
    apply (count_eq_zero_iff p s).2
    intro c r suffix
    cases found : p.nameAt (c :: r) with
    | none => rfl
    | some n =>
      have closing : '}' ∈ wrap n := by simp [wrap]
      exact absurd (suffix.subset ((p.sound found).subset closing)) free
  rw [fill, flatMap_fill_of_countP_eq_zero value empty, flatMap_text_cut]

theorem head?_fill (inert : ∀ m ∈ fields s, Inert (value m.name))
    (head : (field.fill value s).head? = some '{') : s.head? = some '{' := by
  induction s using field.cut_induction with
  | nil => simp at head
  | marker n s found _ =>
    rw [fields, scan_wrap_append found, List.forall_mem_cons] at inert
    obtain ⟨c, u, begins⟩ := List.exists_cons_of_ne_nil inert.1.ne_nil
    have first : (value n).head? = some '{' := by
      rw [fill_wrap_append found, begins] at head
      rw [begins]
      exact head
    exact absurd first inert.1.head
  | plain c s absent _ =>
    rw [fill_cons absent] at head
    exact head

theorem nameAt_cons_fill {c : Char} (inert : ∀ m ∈ fields s, Inert (value m.name))
    (absent : field.nameAt (c :: s) = none) : field.nameAt (c :: field.fill value s) = none := by
  by_cases opens : Opens (c :: field.fill value s)
  · -- no value begins with the second sign of the delimiter, so the template has it as well
    obtain ⟨rfl, head⟩ := opens_cons_iff.1 opens
    obtain ⟨s, rfl⟩ := List.head?_eq_some_iff.1 (head?_fill inert head)
    have brace : field.nameAt ('{' :: s) = none :=
      field.nameAt_of_not_opens (by simp [opens_cons_iff])
    rw [fill_cons brace, field_eq_none_iff]
    rcases field_eq_none_iff.1 absent with closed | free
    · left
      obtain ⟨s, rfl⟩ := List.head?_eq_some_iff.1 closed
      rw [fill_cons (field.nameAt_of_not_opens (by simp [opens_cons_iff]))]
      rfl
    · right
      rwa [fill_of_brace_not_mem field free]
  · exact field.nameAt_of_not_opens opens

theorem cut_fill (inert : ∀ m ∈ fields s, Inert (value m.name)) :
    field.cut (field.fill value s) = (field.fill value s).map .plain := by
  induction s using field.cut_induction with
  | nil => simp
  | marker n s found ih =>
    rw [fields, scan_wrap_append found, List.forall_mem_cons, List.forall_mem_map] at inert
    rw [fill_wrap_append found, field.cut_append_of_quiet (inert.1.quiet _), ih inert.2,
      List.map_append]
  | plain c s absent ih =>
    rw [fields, scan_cons absent, List.forall_mem_map] at inert
    rw [fill_cons absent, cut_of_nameAt_eq_none (nameAt_cons_fill inert absent), ih inert,
      List.map_cons]

theorem fields_fill (inert : ∀ m ∈ fields s, Inert (value m.name)) :
    fields (field.fill value s) = [] := by
  rw [fields, scan, cut_fill inert]
  exact Marker.locate_map_plain 0 _

end Fill
end Pattern

namespace Strict

variable {mode : MatchMode} {vs : Variables} {s : Text}

theorem inert_of_resolve? (inert : ∀ e ∈ vs.entries, Inert e.2) (all : missing mode vs s = []) :
    ∀ m ∈ fields s, Inert ((resolve? mode vs m.name).getD []) := by
  intro m hm
  cases found : resolve? mode vs m.name with
  | none => exact absurd (resolve?_eq_none_iff.1 found) ((missing_eq_nil_iff mode vs s).1 all m hm)
  | some value =>
    obtain ⟨es, name, fs, entries, -⟩ := resolve?_eq_some_iff.1 found
    have mem : (name, value) ∈ vs.entries := by simp [entries]
    exact inert _ mem

theorem replaceFields_of_fields_eq_nil (free : fields s = []) (c : Config) (vs : Variables) :
    (replaceFields c s vs).value = .ok s := by
  simp [replaceFields, free, Logged.silent]

/-- With inert values, whatever the template is and however its fields are matched, the text that is
answered has no marker of either grammar, and is the answer to itself ever after. -/
theorem nothing_left_to_resolve (c : Config) (s t : Text) (vs : Variables)
    (inert : ∀ e ∈ vs.entries, Inert e.2) (ok : (replaceFields c s vs).value = .ok t) :
    fields t = [] ∧ identifiers t = [] ∧
      ∀ (d : Config) (ws : Variables), (replaceFields d t ws).value = .ok t := by
  obtain ⟨all, rfl⟩ := replaceFields_eq_ok_iff.1 ok
  have free : fields (fill c.matchMode vs s) = [] := by
    rw [fill_eq_field_fill]
    exact Pattern.fields_fill (inert_of_resolve? inert all)
  exact ⟨free, identifiers_eq_nil free, replaceFields_of_fields_eq_nil free⟩

theorem nothing_left_to_resolve_beside_dead_delimiters :
    let s : Text := wrap [] ++ wrap ['a'] ++ '$' :: wrap ['a', ' ', 'b'] ++ ['}', '$', '{', 'c']
    let vs : Variables := .ofList [([' '], ['x', '{']), (['a'], ['}'])]
    let c : Config := { matchMode := .containment }
    let t : Text := ['$', '{', '}', '}', '$', 'x', '{', '}', '$', '{', 'c']
    (∀ e ∈ vs.entries, Inert e.2) ∧ (replaceFields c s vs).value = .ok t ∧
      fields t = [] ∧ identifiers t = [] ∧ (replaceFields .default t .empty).value = .ok t := by
  intro s vs c t
  have inert : ∀ e ∈ vs.entries, Inert e.2 := by decide
  have ok : (replaceFields c s vs).value = .ok t := replaceFields_eq_ok_iff.2 (by decide +kernel)
  obtain ⟨free, free', again⟩ := nothing_left_to_resolve c s t vs inert ok
  exact ⟨inert, ok, free, free', again .default .empty⟩

end Strict
end Placeholder
