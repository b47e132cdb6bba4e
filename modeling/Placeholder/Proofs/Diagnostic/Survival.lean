import Placeholder.Proofs.Diagnostic.Outcome

namespace Placeholder

theorem not_infix_foldl_replace {k : Text} {es : List (Text × Text)}
    (foreign : ∀ e ∈ es, Foreign [k] e.2) {s : Text}
    (h : ¬ wrap k <:+: s ∨ k ∈ es.map Prod.fst) :
    ¬ wrap k <:+: es.foldl (fun s e => replace e.1 e.2 s) s := by
  induction es generalizing s with
  | nil => exact h.resolve_right List.not_mem_nil
  | cons e es ih =>
    rw [List.forall_mem_cons] at foreign
    apply ih foreign.2
    -- one turn neither brings the marker back nor leaves that of its own name
    by_cases later : k ∈ es.map Prod.fst
    · exact .inr later
    left
    intro stands
    obtain ⟨before, other⟩ := infix_of_infix_replace foreign.1 stands
    rcases h with absent | mem
    · exact absent before
    · rcases List.mem_cons.1 mem with same | mem
      · exact other same
      · exact later mem

theorem foldl_replace_of_not_infix {es : List (Text × Text)} {s : Text}
    (h : ∀ e ∈ es, ¬ wrap e.1 <:+: s) : es.foldl (fun s e => replace e.1 e.2 s) s = s := by
  induction es with
  | nil => rfl
  | cons e es ih =>
    rw [List.forall_mem_cons] at h
    rw [List.foldl_cons, replace_of_not_infix e.2 h.1, ih h.2]

theorem not_infix_renderText {vs : Variables} (foreign : ∀ e ∈ vs.entries, Foreign vs.names e.2)
    {k : Text} (hk : k ∈ vs.names) (s : Text) : ¬ wrap k <:+: renderText s vs := by
  apply not_infix_foldl_replace _ (.inr hk)
  intro e he
  exact (foreign e he).mono (by simpa using hk)

/-- With values that have neither delimiter and fit into none of the markers, the markers of the
variables are all gone, none of them is warned about, and another substitution changes nothing. -/
theorem substitute_leaves_no_supplied_marker (c : Config) (s : Text) (vs : Variables)
    (foreign : ∀ e ∈ vs.entries, Foreign vs.names e.2) :
    let p := (substitute c (some s) (some vs)).value
    (∀ k ∈ vs.names, ¬ wrap k <:+: p.text) ∧
      (∀ w ∈ p.warnings, w.kind = .variableNotReplaced →
        ∀ k ∈ vs.names, w.message ≠ Warning.notReplacedMessage k) ∧
      renderText p.text vs = p.text ∧
      ∀ d : Config, (substitute d (some p.text) (some vs)).value.text = p.text := by
  intro p
  have text : p.text = renderText s vs := text_substitute c s vs
  have gone : ∀ k ∈ vs.names, ¬ wrap k <:+: p.text := by
    intro k hk
    rw [text]
    exact not_infix_renderText foreign hk s
  have fixed : renderText p.text vs = p.text :=
    foldl_replace_of_not_infix fun e he => gone e.1 (List.mem_map_of_mem he)
  refine ⟨gone, ?_, fixed, fun d => (text_substitute d p.text vs).trans fixed⟩
  intro w hw kind k hk message
  have left : w ∈ p.ofKind .variableNotReplaced := by
    simpa [Parsed.ofKind, kind] using hw
  rw [notReplaced_substitute c s vs, ← text] at left
  obtain ⟨m, hm, rfl⟩ := List.mem_map.1 left
  obtain rfl : m.name = k := Warning.notReplacedMessage_injective message
  exact gone m.name hk (Pattern.infix_of_mem_scan hm)

theorem substitute_nested_leaves_no_supplied_marker :
    let s : Text := wrap (wrap ['a']) ++ wrap ['b'] ++ wrap ['a']
    let vs : Variables := .ofList [(['a'], ['1']), (['b', '}', '$', '{', 'a'], ['2', '2'])]
    let p := (substitute .default (some s) (some vs)).value
    (∀ e ∈ vs.entries, Foreign vs.names e.2) ∧
      p.text = wrap ['1'] ++ wrap ['b'] ++ ['1'] ∧
      (∀ k ∈ vs.names, ¬ wrap k <:+: p.text) ∧ renderText p.text vs = p.text := by
  intro s vs p
  have foreign : ∀ e ∈ vs.entries, Foreign vs.names e.2 := by decide
  have final : renderText s vs = wrap ['1'] ++ wrap ['b'] ++ ['1'] := by decide +kernel
  obtain ⟨gone, -, fixed, -⟩ := substitute_leaves_no_supplied_marker .default s vs foreign
  exact ⟨foreign, (text_substitute .default s vs).trans final, gone, fixed⟩

end Placeholder
