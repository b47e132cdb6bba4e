namespace Placeholder

inductive Policy : Type
  | diagnostic : Policy
  | strict : Policy
  deriving DecidableEq

/-- When a variable counts as not found: its value is absent after its turn, or its marker before.
-/
inductive NotFoundCheck : Type
  | valuePresence : NotFoundCheck
  | markerOccurrence : NotFoundCheck
  deriving DecidableEq

/-- Whether a name resolves the marker of that name only, or every marker that contains it. -/
inductive MatchMode : Type
  | exact : MatchMode
  | containment : MatchMode
  deriving DecidableEq

structure Config where
  policy : Policy := .diagnostic
  notFoundCheck : NotFoundCheck := .valuePresence
  matchMode : MatchMode := .exact
  denyWarnings : Bool := false
  deriving DecidableEq

namespace Config

def default : Config := {}

def Valid (c : Config) : Prop := ¬ (c.denyWarnings = true ∧ c.policy = .strict)

instance (c : Config) : Decidable c.Valid := inferInstanceAs (Decidable (¬ _))

end Config
end Placeholder
