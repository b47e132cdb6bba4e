import Placeholder.Yaml.Fault

namespace Placeholder.Yaml

def isAllowed (c : Char) : Bool :=
  let n := c.toNat
  n == 0x09 || n == 0x0A || n == 0x0D || (0x20 ≤ n && n ≤ 0x7E) || n == 0x85 ||
    (0xA0 ≤ n && n ≤ 0xD7FF) || (0xE000 ≤ n && n ≤ 0xFFFD) || 0x10000 ≤ n

/-- Carriage returns, with or without a line feed, and next-line characters become line feeds. -/
def normal (afterReturn : Bool) : Text → Text
  | [] => []
  | c :: s =>
    if c = '\r' then '\n' :: normal true s
    else if c = '\n' ∧ afterReturn then normal false s
    else if c = '\x85' then '\n' :: normal false s
    else c :: normal false s

def isBreak (c : Char) : Bool := c == '\n' || c == '\u2028' || c == '\u2029'

def isBlank (c : Char) : Bool := c == ' ' || c == '\t'

def endsWord : Text → Bool
  | [] => true
  | c :: _ => isBlank c || isBreak c

def isWord (c : Char) : Bool := c.isAlphanum || c == '_' || c == '-'

def isFlow (c : Char) : Bool := c == ',' || c == '[' || c == ']' || c == '{' || c == '}'

def isIndicator (c : Char) : Bool :=
  isFlow c || "-?:#&*!|>'\"%@\x60".toList.contains c

def isDocumentLine : Text → Bool
  | a :: b :: c :: s => (a == '-' || a == '.') && a == b && b == c && endsWord s
  | _ => false

namespace Mark

def origin : Mark := ⟨0, 0, 0⟩

def next (m : Mark) (c : Char) : Mark :=
  if isBreak c then ⟨m.index + c.utf8Size, m.line + 1, 0⟩
  else ⟨m.index + c.utf8Size, m.line, m.column + 1⟩

def after (m : Mark) (s : Text) : Mark := s.foldl next m

end Mark
end Placeholder.Yaml
