import Placeholder.Proofs.Replacement
import Placeholder.Renderer

namespace Placeholder

def Parsed.ofKind (kind : WarningKind) (p : Parsed) : List Warning :=
  p.warnings.filter fun w => w.kind = kind

theorem Warning.notReplacedMessage_injective {m n : Text}
    (h : notReplacedMessage m = notReplacedMessage n) : m = n :=
  List.append_cancel_left (List.append_cancel_right h)

theorem Turn.after_eq (t : Turn) : t.after = replace t.name t.value t.before := by
  rw [after]
  split
  case isTrue h => exact (replace_of_occurrences_eq_zero h).symm
  case isFalse => rfl

theorem Turn.kind_of_warning? {check : NotFoundCheck} {t : Turn} {w : Warning}
    (h : t.warning? check = some w) : w.kind = .variableNotFound := by
  rw [warning?] at h
  split at h
  case isTrue =>
    cases h
    rfl
  case isFalse => cases h

theorem Diagnostic.result_eq_foldl (es : List (Text × Text)) (s : Text) :
    result es s = es.foldl (fun s e => replace e.1 e.2 s) s := by
  induction es generalizing s with
  | nil => rfl
  | cons e es ih => rw [result, Turn.after_eq, ih, List.foldl_cons]

theorem Diagnostic.map_name_turns (es : List (Text × Text)) (s : Text) :
    (turns es s).map Turn.name = es.map Prod.fst := by
  induction es generalizing s with
  | nil => rfl
  | cons e es ih => simp only [turns, List.map_cons, ih]

theorem Diagnostic.length_turns (es : List (Text × Text)) (s : Text) :
    (turns es s).length = es.length := by
  simpa using congrArg List.length (map_name_turns es s)

theorem Diagnostic.kind_of_mem_turns {check : NotFoundCheck} {es : List (Text × Text)} {s : Text}
    {w : Warning} (h : w ∈ (turns es s).filterMap (Turn.warning? check)) :
    w.kind = .variableNotFound := by
  obtain ⟨t, -, warned⟩ := List.mem_filterMap.1 h
  exact Turn.kind_of_warning? warned

theorem Diagnostic.kind_of_mem_leftovers {s : Text} {w : Warning} (h : w ∈ leftovers s) :
    w.kind = .variableNotReplaced := by
  obtain ⟨m, -, rfl⟩ := List.mem_map.1 h
  rfl

theorem Diagnostic.filterMap_turns_of_stable (Kept : Text → Prop) {names : List Text}
    {es : List (Text × Text)} (sub : es.map Prod.fst ⊆ names) (distinct : (es.map Prod.fst).Nodup)
    (stable : ∀ e ∈ es, ∀ s, Kept s → Kept (replace e.1 e.2 s) ∧
      ∀ k ∈ names, k ≠ e.1 → (wrap k <:+: replace e.1 e.2 s ↔ wrap k <:+: s))
    {s : Text} (kept : Kept s) :
    (turns es s).filterMap (Turn.warning? .markerOccurrence) =
      ((es.map Prod.fst).filter fun k => ¬ wrap k <:+: s).map Warning.notFound := by
  induction es generalizing s with
  | nil => rfl
  | cons e es ih =>
    obtain ⟨name, value⟩ := e
    rw [List.map_cons, List.nodup_cons] at distinct
    obtain ⟨-, rest⟩ := List.cons_subset.1 sub
    obtain ⟨first, later⟩ := List.forall_mem_cons.1 stable
    obtain ⟨next, same⟩ := first s kept
    have start : (es.map Prod.fst).filter (fun k => ¬ wrap k <:+: replace name value s) =
        (es.map Prod.fst).filter fun k => ¬ wrap k <:+: s := by
      apply List.filter_congr
      intro k hk
      have other : k ≠ name := fun e => distinct.1 (e ▸ hk)
      simp only [same k (rest hk) other]
    rw [turns, List.filterMap_cons, Turn.after_eq, ih rest distinct.2 later next, start,
      List.map_cons, List.filter_cons, Turn.warning?, Turn.notFound, Turn.occurrences]
    by_cases stands : wrap name <:+: s
    · simp [stands, occurrences_eq_zero_iff]
    · simp [stands, occurrences_eq_zero_iff]

section Substitute

variable (c : Config) (s : Text) (vs : Variables)

theorem text_substitute : (substitute c (some s) (some vs)).value.text = renderText s vs :=
  Diagnostic.result_eq_foldl vs.entries s

theorem warnings_substitute :
    (substitute c (some s) (some vs)).value.warnings =
      (Diagnostic.turns vs.entries s).filterMap (Turn.warning? c.notFoundCheck) ++
        Diagnostic.leftovers (renderText s vs) := by
  rw [renderText, ← Diagnostic.result_eq_foldl]
  rfl

theorem notFound_substitute :
    (substitute c (some s) (some vs)).value.ofKind .variableNotFound =
      (Diagnostic.turns vs.entries s).filterMap (Turn.warning? c.notFoundCheck) := by
  rw [Parsed.ofKind, warnings_substitute, List.filter_append, List.filter_eq_self.2,
    List.filter_eq_nil_iff.2, List.append_nil]
  · intro w hw
    simp [Diagnostic.kind_of_mem_leftovers hw]
  · intro w hw
    simp [Diagnostic.kind_of_mem_turns hw]

theorem notReplaced_substitute :
    (substitute c (some s) (some vs)).value.ofKind .variableNotReplaced =
      Diagnostic.leftovers (renderText s vs) := by
  rw [Parsed.ofKind, warnings_substitute, List.filter_append, List.filter_eq_nil_iff.2,
    List.filter_eq_self.2, List.nil_append]
  · intro w hw
    simp [Diagnostic.kind_of_mem_leftovers hw]
  · intro w hw
    simp [Diagnostic.kind_of_mem_turns hw]

theorem warnings_eq_append :
    (substitute c (some s) (some vs)).value.warnings =
      (substitute c (some s) (some vs)).value.ofKind .variableNotFound ++
        (substitute c (some s) (some vs)).value.ofKind .variableNotReplaced := by
  rw [notFound_substitute, notReplaced_substitute, warnings_substitute]

end Substitute

/-- The text of a substitution is the plain one, whatever the configuration says. A rendering answers
it unless it denies warnings and there are some. -/
theorem plain_text_is_rendered (c : Config) (s : Text) (vs : Variables) :
    let p := (substitute c (some s) (some vs)).value
    p.text = renderText s vs ∧
      (∀ d : Config, (substitute d (some s) (some vs)).value.text = p.text) ∧
      ((Renderer.diagnostic c).render s vs).value =
        if c.denyWarnings = true ∧ p.warnings ≠ [] then .error (.warnings p.messages)
        else .ok (renderText s vs) := by
  intro p
  have text : p.text = renderText s vs := text_substitute c s vs
  refine ⟨text, fun d => (text_substitute d s vs).trans text.symm, ?_⟩
  rw [Renderer.render_diagnostic]
  split
  case isTrue denied =>
    exact Renderer.conclude_eq_error_iff.2 ⟨denied.1, denied.2, rfl⟩
  case isFalse passes =>
    refine Renderer.conclude_eq_ok_iff.2 ⟨?_, text⟩
    intro deny
    exact Classical.not_not.1 fun warned => passes ⟨deny, warned⟩

end Placeholder
