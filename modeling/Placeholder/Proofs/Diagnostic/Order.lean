import Mathlib.Data.List.Nodup
import Placeholder.Proofs.Commutation
import Placeholder.Proofs.Diagnostic.Outcome

namespace Placeholder

structure Variables.Separate (vs : Variables) : Prop where
  names : ∀ n ∈ vs.names, Clear n
  values : ∀ e ∈ vs.entries, Foreign vs.names e.2

instance (vs : Variables) : Decidable vs.Separate :=
  decidable_of_iff ((∀ n ∈ vs.names, Clear n) ∧ ∀ e ∈ vs.entries, Foreign vs.names e.2)
    ⟨fun h => ⟨h.1, h.2⟩, fun h => ⟨h.names, h.values⟩⟩

namespace Variables.Separate

variable {vs ws : Variables} (h : vs.Separate)

include h

theorem of_perm (perm : vs.entries.Perm ws.entries) : ws.Separate := by
  have names : vs.names.Perm ws.names := perm.map Prod.fst
  constructor
  · intro n hn
    exact h.names n (names.mem_iff.2 hn)
  · intro e he
    exact (h.values e (perm.mem_iff.2 he)).mono names.symm.subset

theorem replace_comm {e e' : Text × Text} (he : e ∈ vs.entries) (he' : e' ∈ vs.entries) (s : Text) :
    replace e'.1 e'.2 (replace e.1 e.2 s) = replace e.1 e.2 (replace e'.1 e'.2 s) := by
  have name : e.1 ∈ vs.names := List.mem_map_of_mem he
  have name' : e'.1 ∈ vs.names := List.mem_map_of_mem he'
  by_cases same : e'.1 = e.1
  · obtain rfl : e' = e := List.inj_on_of_nodup_map vs.distinct he' he same
    rfl
  · have both : [e'.1, e.1] ⊆ vs.names := by simp [name, name']
    exact Placeholder.replace_comm same (h.names _ name') (h.names _ name)
      ((h.values e' he').mono both) ((h.values e he).mono both) s

theorem renderText_eq (perm : vs.entries.Perm ws.entries) (s : Text) :
    renderText s ws = renderText s vs :=
  (perm.foldl_eq' (fun _ he _ he' s => h.replace_comm he he' s) s).symm

theorem notFound_eq {c : Config} (check : c.notFoundCheck = .markerOccurrence) (s : Text) :
    (substitute c (some s) (some vs)).value.ofKind .variableNotFound =
      (vs.names.filter fun k => ¬ wrap k <:+: s).map Warning.notFound := by
  rw [notFound_substitute, check]
  apply Diagnostic.filterMap_turns_of_stable (fun _ => True) (List.Subset.refl _) vs.distinct _ trivial
  intro e he s _
  refine ⟨trivial, ?_⟩
  intro k hk other
  have known : k ∈ vs.names := hk
  have single : Foreign [k] e.2 := (h.values e he).mono (by simpa using known)
  exact infix_replace_iff other (h.names k hk) (h.names _ (List.mem_map_of_mem he)) single

end Variables.Separate

/-- On any template, variables that are separate give one text in all their orders. They leave the
same markers to warn about, and when occurrence is what counts the warnings in front of those are the
same but for their order. -/
theorem substitute_of_perm (s : Text) (vs ws : Variables) (separate : vs.Separate)
    (perm : vs.entries.Perm ws.entries) :
    renderText s ws = renderText s vs ∧ ∀ c : Config,
      let p := (substitute c (some s) (some vs)).value
      let q := (substitute c (some s) (some ws)).value
      q.text = p.text ∧ q.ofKind .variableNotReplaced = p.ofKind .variableNotReplaced ∧
        p.warnings = p.ofKind .variableNotFound ++ p.ofKind .variableNotReplaced ∧
        q.warnings = q.ofKind .variableNotFound ++ q.ofKind .variableNotReplaced ∧
        (c.notFoundCheck = .markerOccurrence →
          (q.ofKind .variableNotFound).Perm (p.ofKind .variableNotFound)) := by
  have text := separate.renderText_eq perm s
  refine ⟨text, ?_⟩
  intro c p q
  refine ⟨?_, ?_, warnings_eq_append c s vs, warnings_eq_append c s ws, ?_⟩
  · exact (text_substitute c s ws).trans (text.trans (text_substitute c s vs).symm)
  · exact (notReplaced_substitute c s ws).trans
      ((congrArg Diagnostic.leftovers text).trans (notReplaced_substitute c s vs).symm)
  · intro check
    have missing : p.ofKind .variableNotFound =
        (vs.names.filter fun k => ¬ wrap k <:+: s).map Warning.notFound := separate.notFound_eq check s
    have missing' : q.ofKind .variableNotFound =
        (ws.names.filter fun k => ¬ wrap k <:+: s).map Warning.notFound :=
      (separate.of_perm perm).notFound_eq check s
    rw [missing, missing']
    exact (((perm.map Prod.fst).symm.filter _).map _)

theorem substitute_of_perm_nested_marker :
    let s : Text := wrap (wrap ['a']) ++ wrap ['b'] ++ '$' :: wrap ['b']
    let vs : Variables :=
      .ofList [(['a'], ['{', '1']), (['c'], ['2', '2']), (['b'], ['{', '3']), (['d'], ['4', '4'])]
    let ws : Variables :=
      .ofList [(['d'], ['4', '4']), (['b'], ['{', '3']), (['c'], ['2', '2']), (['a'], ['{', '1'])]
    let c : Config := { notFoundCheck := .markerOccurrence }
    let q := (substitute c (some s) (some ws)).value
    vs.Separate ∧ vs.entries.Perm ws.entries ∧
      q.text = wrap ['{', '1'] ++ ['{', '3', '$', '{', '3'] ∧
      (q.ofKind .variableNotFound).Perm [.notFound ['c'], .notFound ['d']] := by
  intro s vs ws c q
  have separate : vs.Separate := by decide
  have perm : vs.entries.Perm ws.entries := by decide
  have text : renderText s vs = wrap ['{', '1'] ++ ['{', '3', '$', '{', '3'] := by decide +kernel
  have missing : (substitute c (some s) (some vs)).value.ofKind .variableNotFound =
      [.notFound ['c'], .notFound ['d']] := by
    decide +kernel
  obtain ⟨-, order⟩ := substitute_of_perm s vs ws separate perm
  obtain ⟨same, -, -, -, found⟩ := order c
  refine ⟨separate, perm, ?_, ?_⟩
  · exact same.trans ((text_substitute c s vs).trans text)
  · rw [← missing]
    exact found rfl

end Placeholder
