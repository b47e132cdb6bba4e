import Placeholder.Yaml.Scalar.Gap

namespace Placeholder.Yaml

def isStuckColon (c : Char) : Text → Bool
  | d :: _ => c == ':' && (isFlow d || d == '?')
  | [] => false

def endsPlain (flow : Bool) (c : Char) (s : Text) : Bool :=
  (c == ':' && endsWord s) || (flow && isFlow c)

def endsLine (flow : Bool) (indent : Int) (column : Nat) (s : Text) : Bool :=
  (column == 0 && isDocumentLine s) || s.head? == some '#' || (!flow && column < indent)

/-- Answers the text, whether the scalar was followed by a break, and the rest behind the white
space after it. Lines belong to the scalar if they are indented by `indent` at least. -/
def plain (flow : Bool) (indent : Int) : Nat → Gap → Text → Option (Text × Bool × Text)
  | _, gap, [] => some ([], gap.isLines, [])
  | column, gap, c :: s =>
    if isBlank c then
      if gap.isLines && column < indent && c == '\t' then none
      else plain flow indent (column + 1) (gap.blank c) s
    else if isBreak c then plain flow indent 0 (gap.line c) s
    else if gap ≠ .none ∧ endsLine flow indent column (c :: s) then
      some ([], gap.isLines, c :: s)
    else if flow && isStuckColon c s then none
    else if endsPlain flow c s then some ([], gap.isLines, c :: s)
    else
      (plain flow indent (column + 1) .none s).map fun (t, more) => (gap.join ++ c :: t, more)

end Placeholder.Yaml
