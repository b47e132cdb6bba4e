import Placeholder.Proofs.Diagnostic.Outcome

namespace Placeholder

theorem Turn.infix_after {check : NotFoundCheck} {t : Turn} (found : t.notFound check = false) :
    t.value <:+: t.after := by
  cases check with
  | valuePresence =>
    rw [notFound, Bool.not_eq_false'] at found
    exact (Text.contains_iff _ _).1 found
  | markerOccurrence =>
    have stands : wrap t.name <:+: t.before := by
      rw [notFound, beq_eq_false_iff_ne, occurrences, Ne, occurrences_eq_zero_iff] at found
      exact Classical.not_not.1 found
    rw [after_eq]
    exact infix_replace_self t.value stands

theorem infix_foldl_replace {u : Text} {es : List (Text × Text)}
    (foreign : ∀ e ∈ es, Foreign [e.1] u) {s : Text} (h : u <:+: s) :
    u <:+: es.foldl (fun s e => replace e.1 e.2 s) s := by
  induction es generalizing s with
  | nil => exact h
  | cons e es ih =>
    rw [List.forall_mem_cons] at foreign
    exact ih foreign.2 (foreign.1.infix_replace e.2 h)

theorem notFound_mem_turns_or_infix {check : NotFoundCheck} {es : List (Text × Text)}
    {name value : Text} (mem : (name, value) ∈ es) (foreign : ∀ e ∈ es, Foreign [e.1] value)
    (s : Text) :
    .notFound name ∈ (Diagnostic.turns es s).filterMap (Turn.warning? check) ∨
      value <:+: es.foldl (fun s e => replace e.1 e.2 s) s := by
  induction es generalizing s with
  | nil => cases mem
  | cons e es ih =>
    rw [List.forall_mem_cons] at foreign
    rcases List.mem_cons.1 mem with rfl | later
    · let t : Turn := ⟨name, value, s⟩
      cases found : t.notFound check with
      | true =>
        left
        have warned : t.warning? check = some (.notFound name) := by rw [Turn.warning?, if_pos found]
        exact List.mem_filterMap.2 ⟨t, List.mem_cons_self, warned⟩
      | false =>
        right
        have present : value <:+: replace name value s := by
          rw [← Turn.after_eq t]
          exact Turn.infix_after found
        exact infix_foldl_replace foreign.2 present
    · rw [Diagnostic.turns, Turn.after_eq]
      refine (ih later foreign.2 _).imp_left ?_
      intro warned
      obtain ⟨t, ht, same⟩ := List.mem_filterMap.1 warned
      exact List.mem_filterMap.2 ⟨t, List.mem_cons_of_mem _ ht, same⟩

/-- With values that have neither delimiter and fit into none of the markers, every variable whose
value is not in the text that comes out is warned about, whatever the template is and whichever way
variables are looked for. -/
theorem absent_value_is_reported (c : Config) (s : Text) (vs : Variables)
    (foreign : ∀ e ∈ vs.entries, Foreign vs.names e.2) :
    let p := (substitute c (some s) (some vs)).value
    (∀ name value, (name, value) ∈ vs.entries → ¬ value <:+: p.text →
      .notFound name ∈ p.ofKind .variableNotFound) ∧
      ∀ name value, (name, value) ∈ vs.entries →
        (∀ w ∈ p.warnings, w.kind = .variableNotFound → w.message ≠ Warning.notFoundMessage name) →
          value <:+: p.text := by
  intro p
  have outcome : ∀ name value, (name, value) ∈ vs.entries →
      .notFound name ∈ p.ofKind .variableNotFound ∨ value <:+: p.text := by
    intro name value mem
    rw [notFound_substitute, text_substitute]
    apply notFound_mem_turns_or_infix mem
    intro e he
    have known : e.1 ∈ vs.names := List.mem_map_of_mem he
    exact (foreign _ mem).mono (by simpa using known)
  constructor
  · intro name value mem absent
    exact (outcome name value mem).resolve_right absent
  · intro name value mem silent
    refine (outcome name value mem).resolve_left ?_
    intro warned
    exact silent _ (List.mem_of_mem_filter warned) rfl rfl

theorem absent_value_is_reported_beside_nested_marker :
    let s : Text := wrap (wrap ['a']) ++ wrap ['b']
    let vs : Variables := .ofList [(['a'], ['x', ' ', 'y']), (['}', '$', '{', 'a'], ['z', 'z'])]
    let p := (substitute .default (some s) (some vs)).value
    (∀ e ∈ vs.entries, Foreign vs.names e.2) ∧ p.text = wrap ['x', ' ', 'y'] ++ wrap ['b'] ∧
      .notFound ['}', '$', '{', 'a'] ∈ p.ofKind .variableNotFound ∧ ['x', ' ', 'y'] <:+: p.text := by
  intro s vs p
  have foreign : ∀ e ∈ vs.entries, Foreign vs.names e.2 := by decide
  have final : p.text = wrap ['x', ' ', 'y'] ++ wrap ['b'] := by decide +kernel
  have absent : ¬ ['z', 'z'] <:+: p.text := by
    rw [final]
    decide
  have silent : ∀ w ∈ p.warnings, w.kind = .variableNotFound →
      w.message ≠ Warning.notFoundMessage ['a'] := by
    decide +kernel
  obtain ⟨reported, present⟩ := absent_value_is_reported .default s vs foreign
  exact ⟨foreign, final, reported _ ['z', 'z'] (by decide) absent, present ['a'] _ (by decide) silent⟩

end Placeholder
