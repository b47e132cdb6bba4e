import Placeholder.Complaint

namespace Placeholder.Yaml

structure Mark where
  index : Nat
  line : Nat
  column : Nat
  deriving DecidableEq

def wording : Wording := ⟨"unit value".toList, ⟨fun _ => false, .upper⟩⟩

inductive Fault : Type
  | malformed : Fault
  | unknownAnchor : Mark → Fault
  | severalDocuments : Fault
  /-- A value does not fit. The path leads to it from the root. -/
  | complaint : Complaint → Text → Mark → Fault

def rootPath : Text := ['.']

namespace Fault

def whereabouts (m : Mark) : Text :=
  if m.line = 0 ∧ m.column = 0 then []
  else
    " at line ".toList ++ Text.ofNat (m.line + 1) ++ " column ".toList ++ Text.ofNat (m.column + 1)

def message? : Fault → Option Text
  | .malformed => none
  | .unknownAnchor m => some ("unknown anchor".toList ++ whereabouts m)
  | .severalDocuments =>
    some "deserializing from YAML containing more than one document is not supported".toList
  | .complaint c path m =>
    let start := if path = rootPath then [] else path ++ ": ".toList
    some (start ++ c.text wording ++ whereabouts m)

end Fault
end Placeholder.Yaml
