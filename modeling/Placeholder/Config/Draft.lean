import Placeholder.Text.Basic
import Placeholder.Config.Basic

namespace Placeholder

inductive Setting : Type
  | policy : Setting
  | notFoundCheck : Setting
  | matchMode : Setting
  | denyWarnings : Setting
  deriving DecidableEq

namespace Setting

/-- In the order in which a sequence gives them. -/
def all : List Setting := [.policy, .notFoundCheck, .matchMode, .denyWarnings]

def name : Setting → Text
  | .policy => "policy".toList
  | .notFoundCheck => "not_found_check".toList
  | .matchMode => "match_mode".toList
  | .denyWarnings => "deny_warnings".toList

def named? (n : Text) : Option Setting := all.find? fun s => s.name == n

theorem named?_eq_some_iff {n : Text} {s : Setting} : named? n = some s ↔ n = s.name := by
  constructor
  · intro h
    have found := List.find?_some h
    exact (beq_iff_eq.1 found).symm
  · rintro rfl
    cases s <;> decide

end Setting

abbrev Choices (α : Type) := List (Text × α)

def Policy.choices : Choices Policy :=
  [("diagnostic".toList, .diagnostic), ("strict".toList, .strict)]

def NotFoundCheck.choices : Choices NotFoundCheck :=
  [("value_presence".toList, .valuePresence), ("marker_occurrence".toList, .markerOccurrence)]

def MatchMode.choices : Choices MatchMode :=
  [("exact".toList, .exact), ("containment".toList, .containment)]

structure Draft where
  policy : Option Policy := none
  notFoundCheck : Option NotFoundCheck := none
  matchMode : Option MatchMode := none
  denyWarnings : Option Bool := none
  deriving DecidableEq

namespace Draft

def gives (d : Draft) : Setting → Bool
  | .policy => d.policy.isSome
  | .notFoundCheck => d.notFoundCheck.isSome
  | .matchMode => d.matchMode.isSome
  | .denyWarnings => d.denyWarnings.isSome

def onto (d : Draft) (c : Config) : Config where
  policy := d.policy.getD c.policy
  notFoundCheck := d.notFoundCheck.getD c.notFoundCheck
  matchMode := d.matchMode.getD c.matchMode
  denyWarnings := d.denyWarnings.getD c.denyWarnings

def toConfig (d : Draft) : Config := d.onto .default

end Draft
end Placeholder
