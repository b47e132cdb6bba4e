import Placeholder.Config.Basic
import Placeholder.Fault

namespace Placeholder

def Config.validate (c : Config) : Except Fault Config :=
  if c.Valid then .ok c else .error .denyWithoutDiagnostics

theorem Config.validate_eq_ok_iff {c d : Config} : c.validate = .ok d ↔ c.Valid ∧ c = d := by
  by_cases h : c.Valid <;> simp [Config.validate, h]

end Placeholder
