import Placeholder.Proofs.Diagnostic.Survival
import Placeholder.Source

namespace Placeholder

namespace Source

theorem valid_of_readConfig {source : Source} {c : Config} (h : source.readConfig = .ok c) :
    c.Valid := by
  have validated : ∀ x : Except Fault Config, (x >>= Config.validate) = .ok c → c.Valid := by
    intro x hx
    cases x with
    | error f => cases hx
    | ok d =>
      obtain ⟨valid, rfl⟩ := Config.validate_eq_ok_iff.1 hx
      exact valid
  rw [readConfig] at h
  cases format : source.format with
  | json =>
    rw [format] at h
    exact validated _ h
  | yaml =>
    rw [format] at h
    exact validated _ h

theorem policy_of_readConfig {source : Source} {c : Config} (h : source.readConfig = .ok c)
    (deny : c.denyWarnings = true) : c.policy = .diagnostic := by
  cases policy : c.policy with
  | diagnostic => rfl
  | strict => exact absurd ⟨deny, policy⟩ (valid_of_readConfig h)

end Source

namespace Renderer

variable {c : Config} {s : Text} {vs : Variables}

theorem render_of_diagnostic (policy : c.policy = .diagnostic) :
    ((ofConfig c).render s vs).value = conclude c (substitute c (some s) (some vs)).value := by
  simp only [render, ofConfig, policy]
  rfl

variable (deny : c.denyWarnings = true) (policy : c.policy = .diagnostic)

include deny policy

theorem render_eq_ok_iff {t : Text} :
    ((ofConfig c).render s vs).value = .ok t ↔
      (substitute c (some s) (some vs)).value.warnings = [] ∧
        (substitute c (some s) (some vs)).value.text = t := by
  rw [render_of_diagnostic policy, conclude_eq_ok_iff, deny]
  simp

theorem render_eq_error_iff {f : Fault} :
    ((ofConfig c).render s vs).value = .error f ↔
      (substitute c (some s) (some vs)).value.warnings ≠ [] ∧
        f = .warnings (substitute c (some s) (some vs)).value.messages := by
  rw [render_of_diagnostic policy, conclude_eq_error_iff, eq_comm (b := f)]
  exact and_iff_right deny

end Renderer

theorem renderText_of_identifiers_eq_nil {s : Text} (free : identifiers s = []) {ws : Variables}
    (names : ∀ n ∈ ws.names, IsIdentifier n) : renderText s ws = s := by
  apply foldl_replace_of_not_infix
  intro e he
  rw [infix_iff_mem_names (names e.1 (List.mem_map_of_mem he)), free]
  exact List.not_mem_nil

theorem identifiers_eq_nil_of_warnings {c : Config} {s : Text} {vs : Variables}
    (clean : (substitute c (some s) (some vs)).value.warnings = []) :
    identifiers (substitute c (some s) (some vs)).value.text = [] := by
  rw [warnings_substitute, List.append_eq_nil_iff] at clean
  rw [text_substitute]
  exact List.map_eq_nil_iff.1 clean.2

/-- With a configuration that was read and denies warnings, a rendering answers a text that has no
identifier and that substitution of identifiers leaves as it is, or it answers the warnings. -/
theorem denied_warnings_certify (source : Source) (c : Config) (read : source.readConfig = .ok c)
    (deny : c.denyWarnings = true) (s : Text) (vs : Variables) :
    let rendered := ((Renderer.ofConfig c).render s vs).value
    let messages := (substitute c (some s) (some vs)).value.messages
    (∀ t, rendered = .ok t → hasIdentifier t = false ∧ identifiers t = [] ∧
      ∀ ws : Variables, (∀ n ∈ ws.names, IsIdentifier n) → renderText t ws = t ∧
        ∀ d : Config, (substitute d (some t) (some ws)).value.text = t) ∧
      ∀ f, rendered = .error f → f = .warnings messages ∧ messages ≠ [] := by
  intro rendered messages
  have policy := Source.policy_of_readConfig read deny
  constructor
  · intro t ok
    obtain ⟨clean, rfl⟩ := (Renderer.render_eq_ok_iff deny policy).1 ok
    have free := identifiers_eq_nil_of_warnings clean
    refine ⟨(Pattern.found_eq_false_iff _ _).2 free, free, ?_⟩
    intro ws names
    have fixed := renderText_of_identifiers_eq_nil free names
    exact ⟨fixed, fun d => (text_substitute d _ ws).trans fixed⟩
  · intro f error
    obtain ⟨warned, rfl⟩ := (Renderer.render_eq_error_iff deny policy).1 error
    exact ⟨rfl, fun nothing => warned (List.map_eq_nil_iff.1 nothing)⟩

theorem denied_warnings_certify_nested_marker :
    let c : Config := { denyWarnings := true }
    let json : Source := ⟨.json, "\x7b\"deny_warnings\": true\x7d".toList⟩
    let yaml : Source := ⟨.yaml, "deny_warnings: true".toList⟩
    let s : Text := wrap (wrap ['a']) ++ wrap ['b']
    let vs : Variables := .ofList [(['a'], ['b', ' ']), (['b'], ['c'])]
    let t : Text := wrap ['b', ' '] ++ ['c']
    json.readConfig = .ok c ∧ yaml.readConfig = .ok c ∧ c.denyWarnings = true ∧
      ((Renderer.ofConfig c).render s vs).value = .ok t ∧ identifiers t = [] ∧
      ∃ messages, ((Renderer.ofConfig c).render s .empty).value = .error (.warnings messages) ∧
        messages ≠ [] := by
  intro c json yaml s vs t
  have read : ∀ source : Source, source.readConfig.toOption = some c → source.readConfig = .ok c := by
    intro source h
    cases outcome : source.readConfig with
    | error f => simp [outcome, Except.toOption] at h
    | ok d => simpa [outcome, Except.toOption] using h
  have json_read : json.readConfig = .ok c := read json (by decide +kernel)
  have yaml_read : yaml.readConfig = .ok c := read yaml (by decide +kernel)
  have ok : ((Renderer.ofConfig c).render s vs).value = .ok t :=
    (Renderer.render_eq_ok_iff rfl rfl).2 (by decide +kernel)
  have warned : (substitute c (some s) (some .empty)).value.warnings ≠ [] := by decide +kernel
  have error := (Renderer.render_eq_error_iff rfl rfl).2 ⟨warned, rfl⟩
  have certified := (denied_warnings_certify json c json_read rfl s vs).1 t ok
  have answered := (denied_warnings_certify yaml c yaml_read rfl s .empty).2 _ error
  exact ⟨json_read, yaml_read, rfl, ok, certified.2.1, _, error, answered.2⟩

end Placeholder
