import Placeholder.Yaml.Character

namespace Placeholder.Yaml

inductive Gap : Type
  | none : Gap
  | blanks : Text → Gap
  | lines : Text → Text → Gap
  deriving DecidableEq

namespace Gap

def blank (c : Char) : Gap → Gap
  | .none => .blanks [c]
  | .blanks t => .blanks (t ++ [c])
  | .lines first more => .lines first more

def line (c : Char) : Gap → Gap
  | .lines first more => .lines first (more ++ [c])
  | _ => .lines [c] []

def isLines : Gap → Bool
  | .lines _ _ => true
  | _ => false

def join : Gap → Text
  | .none => []
  | .blanks t => t
  | .lines first more =>
    if first = ['\n'] then (if more.isEmpty then [' '] else more) else first ++ more

end Gap
end Placeholder.Yaml
