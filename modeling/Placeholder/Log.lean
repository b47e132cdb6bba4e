import Placeholder.Parsed

namespace Placeholder

inductive Level : Type
  | debug : Level
  | warn : Level
  deriving DecidableEq

inductive Record : Type
  | warned : Warning → Record
  | replaced : Nat → Text → Record
  | filled : Nat → Record
  | rendered : Nat → Record
  deriving DecidableEq

namespace Record

def level : Record → Level
  | .warned _ => .warn
  | .replaced _ _ => .debug
  | .filled _ => .debug
  | .rendered _ => .debug

def message : Record → Text
  | .warned w => w.message
  | .replaced n name =>
    "Replaced ".toList ++ Text.ofNat n ++ " occurrence(s) of ".toList ++ wrap name
  | .filled n => "Replaced ".toList ++ Text.ofNat n ++ " field marker(s)".toList
  | .rendered n => "Rendered template with ".toList ++ Text.ofNat n ++ " warning(s)".toList

end Record

structure Logged (α : Type) where
  value : α
  records : List Record

namespace Logged

def silent {α : Type} (a : α) : Logged α := ⟨a, []⟩

def report {α : Type} (a : Logged α) (rs : List Record) : Logged α :=
  { a with records := a.records ++ rs }

def map {α β : Type} (f : α → β) (a : Logged α) : Logged β := ⟨f a.value, a.records⟩

end Logged
end Placeholder
