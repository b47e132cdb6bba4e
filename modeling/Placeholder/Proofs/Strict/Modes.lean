import Placeholder.Proofs.Strict.Resolution

namespace Placeholder.Strict

variable {m : Marker} {vs : Variables} {s : Text}

theorem Matches.contained {name : Text} (h : Matches .exact m name) :
    Matches .containment m name := by
  obtain rfl : name = m.name := h
  exact List.infix_append ['$', '{'] m.name ['}']

theorem Unmatched.exact (h : Unmatched .containment vs m) : Unmatched .exact vs m :=
  fun e he matched => h e he matched.contained

theorem sublist_missing (vs : Variables) (s : Text) :
    (missing .containment vs s).Sublist (missing .exact vs s) := by
  rw [missing_eq, missing_eq]
  apply List.Sublist.map
  apply List.monotone_filter_right
  intro m unmatched
  exact decide_eq_true (of_decide_eq_true unmatched).exact

theorem resolve?_containment (own : ∀ name ∈ vs.names, name <:+: m.text → name = m.name) :
    resolve? .containment vs m.name = resolve? .exact vs m.name := by
  apply resolve?_congr
  intro name mem
  exact ⟨own name mem, Matches.contained⟩

/-- What is missing if fields match by containment is missing too if they match exactly, in the same
order, and a template that can be filled exactly can be filled by containment. Where every name that a
marker contains is its own, the two are one answer. -/
theorem containment_relaxes_exact (c d : Config) (containment : c.matchMode = .containment)
    (exact : d.matchMode = .exact) (s : Text) (vs : Variables) :
    let relaxed := replaceFields c s vs
    let strict := replaceFields d s vs
    (∃ k l, Lacks k relaxed.value ∧ Lacks l strict.value ∧ k.Sublist l) ∧
      ((∃ t, strict.value = .ok t) → ∃ t, relaxed.value = .ok t) ∧
      ((∀ m ∈ fields s, ∀ name ∈ vs.names, name <:+: m.text → name = m.name) →
        relaxed = strict) := by
  intro relaxed strict
  have fewer : (missing c.matchMode vs s).Sublist (missing d.matchMode vs s) := by
    rw [containment, exact]
    exact sublist_missing vs s
  refine ⟨⟨_, _, lacks_replaceFields c vs s, lacks_replaceFields d vs s, fewer⟩, ?_, ?_⟩
  · rintro ⟨t, ok⟩
    obtain ⟨all, -⟩ := replaceFields_eq_ok_iff.1 ok
    have empty : (missing c.matchMode vs s).Sublist [] := all ▸ fewer
    exact ⟨_, replaceFields_eq_ok_iff.2 ⟨List.sublist_nil.1 empty, rfl⟩⟩
  · intro own
    apply replaceFields_congr
    intro m hm
    rw [containment, exact]
    exact resolve?_containment (own m hm)

theorem containment_relaxes_exact_with_empty_name :
    let c : Config := { matchMode := .containment }
    let s : Text := wrap ['a', 'b'] ++ wrap ['c']
    let vs : Variables := .ofList [([], ['0']), (['a', 'b'], ['1'])]
    let ws : Variables := .ofList [(['c'], ['2']), (['a', 'b'], ['1'])]
    c.matchMode = .containment ∧ Config.default.matchMode = .exact ∧
      (replaceFields c s vs).value = .ok ['0', '0'] ∧
      (replaceFields .default s vs).value = .error (.missingFields [wrap ['c']]) ∧
      (replaceFields .default s ws).value = .ok ['1', '2'] ∧
      replaceFields c s ws = replaceFields .default s ws ∧
      ∃ k l, Lacks k (replaceFields c s vs).value ∧
        Lacks l (replaceFields .default s vs).value ∧ k.Sublist l := by
  intro c s vs ws
  obtain ⟨fewer, -, -⟩ := containment_relaxes_exact c .default rfl rfl s vs
  obtain ⟨-, -, same⟩ := containment_relaxes_exact c .default rfl rfl s ws
  have own : ∀ m ∈ fields s, ∀ name ∈ ws.names, name <:+: m.text → name = m.name := by
    decide +kernel
  have unknown : missing Config.default.matchMode vs s = [wrap ['c']] := by decide +kernel
  have failed : (replaceFields .default s vs).value = .error (.missingFields [wrap ['c']]) :=
    replaceFields_eq_error_iff.2 ⟨by simp [unknown], congrArg _ unknown⟩
  exact ⟨rfl, rfl, replaceFields_eq_ok_iff.2 (by decide +kernel), failed,
    replaceFields_eq_ok_iff.2 (by decide +kernel), same own, fewer⟩

end Placeholder.Strict
