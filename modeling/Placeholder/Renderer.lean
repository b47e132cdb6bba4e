import Placeholder.Engine.Diagnostic
import Placeholder.Engine.Strict

namespace Placeholder

structure Renderer where
  engine : Policy
  config : Config

namespace Renderer

def ofConfig (c : Config) : Renderer := ⟨c.policy, c⟩

def diagnostic (c : Config) : Renderer := ⟨.diagnostic, c⟩

def strict (c : Config) : Renderer := ⟨.strict, c⟩

def conclude (c : Config) (p : Parsed) : Except Fault Text :=
  if c.denyWarnings && !p.isClean then .error (.warnings p.messages) else .ok p.text

theorem conclude_eq_ok_iff {c : Config} {p : Parsed} {t : Text} :
    conclude c p = .ok t ↔ (c.denyWarnings = true → p.warnings = []) ∧ p.text = t := by
  rw [conclude, Parsed.isClean]
  cases c.denyWarnings <;> cases p.warnings <;> simp

theorem conclude_eq_error_iff {c : Config} {p : Parsed} {f : Fault} :
    conclude c p = .error f ↔
      c.denyWarnings = true ∧ p.warnings ≠ [] ∧ .warnings p.messages = f := by
  rw [conclude, Parsed.isClean]
  cases c.denyWarnings <;> cases p.warnings <;> simp

def render (r : Renderer) (s : Text) (vs : Variables) : Logged (Except Fault Text) :=
  match r.engine with
  | .strict => replaceFields r.config s vs
  | .diagnostic =>
    let parsed := substitute r.config (some s) (some vs)
    (parsed.map (conclude r.config)).report [.rendered parsed.value.warnings.length]

theorem render_diagnostic (c : Config) (s : Text) (vs : Variables) :
    ((diagnostic c).render s vs).value = conclude c (substitute c (some s) (some vs)).value := rfl

end Renderer

end Placeholder
