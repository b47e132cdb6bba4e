import Mathlib.Data.List.Basic
import Placeholder.Proofs.Diagnostic.Presence
import Placeholder.Renderer

namespace Placeholder

theorem Turn.notFound_markerOccurrence {t : Turn} (absent : t.notFound .valuePresence = true) :
    t.notFound .markerOccurrence = true := by
  cases found : t.notFound .markerOccurrence with
  | true => rfl
  | false =>
    have present : Text.contains t.value t.after = true :=
      (Text.contains_iff _ _).2 (infix_after found)
    simp [notFound, present] at absent

theorem Turn.filterMap_warning? (check : NotFoundCheck) (ts : List Turn) :
    ts.filterMap (warning? check) = (ts.filter (notFound check)).map fun t => .notFound t.name := by
  induction ts with
  | nil => rfl
  | cons t ts ih =>
    cases found : t.notFound check <;> simp [warning?, found, ih]

theorem Turn.sublist_filterMap_warning? (ts : List Turn) :
    (ts.filterMap (warning? .valuePresence)).Sublist (ts.filterMap (warning? .markerOccurrence)) := by
  rw [filterMap_warning?, filterMap_warning?]
  apply List.Sublist.map
  apply List.monotone_filter_right
  intro t absent
  exact notFound_markerOccurrence absent

/-- Whichever way variables are looked for, the text and the warnings about markers are the same. If
their values are what counts, the warnings are some of those that there are if their markers are, in
the same order; with warnings denied, a rendering that passes the stricter check passes the other one
with the same text. -/
theorem valuePresence_warns_less (c d : Config) (presence : c.notFoundCheck = .valuePresence)
    (occurrence : d.notFoundCheck = .markerOccurrence) (s : Text) (vs : Variables) :
    let p := (substitute c (some s) (some vs)).value
    let q := (substitute d (some s) (some vs)).value
    p.text = q.text ∧ p.warnings.Sublist q.warnings ∧
      p.ofKind .variableNotReplaced = q.ofKind .variableNotReplaced ∧
      (d.denyWarnings = true → ∀ t, ((Renderer.diagnostic d).render s vs).value = .ok t →
        ((Renderer.diagnostic c).render s vs).value = .ok t) := by
  intro p q
  have text : p.text = q.text := (text_substitute c s vs).trans (text_substitute d s vs).symm
  have fewer : p.warnings.Sublist q.warnings := by
    rw [warnings_substitute, warnings_substitute, presence, occurrence]
    exact (Turn.sublist_filterMap_warning? _).append_right _
  refine ⟨text, fewer, ?_, ?_⟩
  · exact (notReplaced_substitute c s vs).trans (notReplaced_substitute d s vs).symm
  · intro deny t passes
    rw [Renderer.render_diagnostic, Renderer.conclude_eq_ok_iff] at passes
    obtain ⟨clean, rfl⟩ := passes
    rw [Renderer.render_diagnostic, Renderer.conclude_eq_ok_iff]
    refine ⟨?_, text⟩
    intro _
    have none : p.warnings.Sublist [] := clean deny ▸ fewer
    exact List.sublist_nil.1 none

theorem valuePresence_warns_less_on_shared_value :
    let c : Config := { denyWarnings := true }
    let d : Config := { notFoundCheck := .markerOccurrence, denyWarnings := true }
    let vs : Variables := .ofList [(['a'], ['x']), (['b'], ['x'])]
    let ws : Variables := .ofList [(['a'], wrap ['b']), (['b'], [])]
    let p := (substitute c (some (wrap ['a'])) (some vs)).value
    let q := (substitute d (some (wrap ['a'])) (some vs)).value
    c.notFoundCheck = .valuePresence ∧ d.notFoundCheck = .markerOccurrence ∧ p.text = q.text ∧
      q.warnings = [.notFound ['b']] ∧ p.warnings.Sublist q.warnings ∧
      ((Renderer.diagnostic d).render (wrap ['a'] ++ wrap ['b']) ws).value = .ok [] ∧
      ((Renderer.diagnostic c).render (wrap ['a'] ++ wrap ['b']) ws).value = .ok [] := by
  intro c d vs ws p q
  have warned : q.warnings = [.notFound ['b']] := by decide +kernel
  have passes : ((Renderer.diagnostic d).render (wrap ['a'] ++ wrap ['b']) ws).value = .ok [] :=
    Renderer.conclude_eq_ok_iff.2 (by decide +kernel)
  obtain ⟨text, fewer, -, -⟩ := valuePresence_warns_less c d rfl rfl (wrap ['a']) vs
  obtain ⟨-, -, -, accepts⟩ := valuePresence_warns_less c d rfl rfl (wrap ['a'] ++ wrap ['b']) ws
  exact ⟨rfl, rfl, text, warned, fewer, passes, accepts rfl [] passes⟩

end Placeholder
