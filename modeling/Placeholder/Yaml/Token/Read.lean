import Placeholder.Yaml.Token.Basic
import Placeholder.Yaml.Scalar.Plain

namespace Placeholder.Yaml

namespace Lexing

inductive Skipping : Type
  | line : Skipping
  | blanks : Skipping
  | comment : Skipping
  deriving DecidableEq

def gap (flow : Bool) : Skipping → (keyAllowed : Bool) → Text → Bool × Text
  | _, keyAllowed, [] => (keyAllowed, [])
  | now, keyAllowed, c :: s =>
    if isBreak c then gap flow .line (keyAllowed || !flow) s
    else if now = .comment then gap flow .comment keyAllowed s
    else if now = .line ∧ c = '\ufeff' then gap flow .blanks keyAllowed s
    else if c = ' ' ∨ (c = '\t' ∧ (flow ∨ !keyAllowed)) then gap flow .blanks keyAllowed s
    else if c = '#' then gap flow .comment keyAllowed s
    else (keyAllowed, c :: s)

def skipGap (s : Lexing) : Lexing :=
  let start : Skipping := if s.mark.column = 0 then .line else .blanks
  let (keyAllowed, r) := gap s.flow start s.keyAllowed s.rest
  { s.moveTo r with keyAllowed }

def finish (s : Lexing) : Option Lexing := do
  let m := s.mark
  let s := { s with mark := if m.column = 0 then m else ⟨m.index, m.line + 1, 0⟩ }
  let s ← (s.unroll (-1)).dropCandidate
  some ({ s with keyAllowed := false }.append .streamEnd)

def directive (s : Lexing) (r : Text) : Option Lexing := do
  let s ← (s.unroll (-1)).dropCandidate
  let (d, r) ← Directive.read r
  some ({ s with keyAllowed := false }.read (.directive d) r)

def documentLine (s : Lexing) (t : Token) : Option Lexing := do
  let s ← (s.unroll (-1)).dropCandidate
  some ({ s with keyAllowed := false }.read t (s.rest.drop 3))

def flowStart (s : Lexing) (t : Token) (r : Text) : Option Lexing := do
  let s ← s.saveCandidate
  some ({ s with candidate := none, outer := s.candidate :: s.outer, keyAllowed := true }.read t r)

def flowEnd (s : Lexing) (t : Token) (r : Text) : Option Lexing := do
  let s ← s.dropCandidate
  let s :=
    match s.outer with
    | [] => s
    | c :: cs => { s with candidate := c, outer := cs }
  some ({ s with keyAllowed := false }.read t r)

def flowEntry (s : Lexing) (r : Text) : Option Lexing := do
  let s ← s.dropCandidate
  some ({ s with keyAllowed := true }.read .flowEntry r)

def openBlock (s : Lexing) (t : Token) : Option Lexing :=
  if s.flow then some s
  else if s.keyAllowed then some (s.roll s.mark.column s.tokens.length t s.mark)
  else none

def blockEntry (s : Lexing) (r : Text) : Option Lexing := do
  let s ← s.openBlock .blockSequenceStart
  let s ← s.dropCandidate
  some ({ s with keyAllowed := true }.read .blockEntry r)

def key (s : Lexing) (r : Text) : Option Lexing := do
  let s ← s.openBlock .blockMappingStart
  let s ← s.dropCandidate
  some ({ s with keyAllowed := !s.flow }.read .key r)

def value (s : Lexing) (r : Text) : Option Lexing :=
  match s.candidate with
  | some c =>
    let s := (s.insert c.token .key c.mark).roll c.mark.column c.token .blockMappingStart c.mark
    some ({ s with candidate := none, keyAllowed := false }.read .value r)
  | none => do
    let s ← s.openBlock .blockMappingStart
    some ({ s with keyAllowed := !s.flow }.read .value r)

def node (s : Lexing) (lexeme : Option (Token × Text)) : Option Lexing := do
  let s ← s.saveCandidate
  let (t, r) ← lexeme
  some ({ s with keyAllowed := false }.read t r)

def blockScalar (s : Lexing) (style : Style) (r : Text) : Option Lexing := do
  let s ← s.dropCandidate
  let (t, r) ← block (style == .literal) s.indent r
  some ({ s with keyAllowed := true }.read (.scalar t style) r)

def plainScalar (s : Lexing) : Option Lexing := do
  let s ← s.saveCandidate
  let (t, broken, r) ← plain s.flow (s.indent + 1) s.mark.column .none s.rest
  some ({ s with keyAllowed := broken }.read (.scalar t .plain) r)

def startsPlain (flow : Bool) (c : Char) (r : Text) : Bool :=
  !(isBlank c || isIndicator c) || (c == '-' && !(r.head?.map isBlank).getD false) ||
    (!flow && (c == '?' || c == ':') && !endsWord r)

def token (s : Lexing) (c : Char) (r : Text) : Option Lexing :=
  if s.mark.column = 0 ∧ c = '%' then s.directive r
  else if s.mark.column = 0 ∧ isDocumentLine (c :: r) then
    s.documentLine (if c = '-' then .documentStart else .documentEnd)
  else if c = '[' then s.flowStart .flowSequenceStart r
  else if c = '{' then s.flowStart .flowMappingStart r
  else if c = ']' then s.flowEnd .flowSequenceEnd r
  else if c = '}' then s.flowEnd .flowMappingEnd r
  else if c = ',' then s.flowEntry r
  else if c = '-' ∧ endsWord r then s.blockEntry r
  else if c = '?' ∧ (s.flow ∨ endsWord r) then s.key r
  else if c = ':' ∧ (s.flow ∨ endsWord r) then s.value r
  else if c = '*' then s.node ((anchorName r).map fun (n, r) => (.alias n, r))
  else if c = '&' then s.node ((anchorName r).map fun (n, r) => (.anchor n, r))
  else if c = '!' then s.node ((tag s.flow (c :: r)).map fun (t, r) => (.tag t, r))
  else if c = '|' ∧ !s.flow then s.blockScalar .literal r
  else if c = '>' ∧ !s.flow then s.blockScalar .folded r
  else if c = '\'' then
    s.node ((single .none false r).map fun (t, r) => (.scalar t .singleQuoted, r))
  else if c = '"' then
    s.node ((double .none false r).map fun (t, r) => (.scalar t .doubleQuoted, r))
  else if startsPlain s.flow c r then s.plainScalar
  else none

def step (s : Lexing) : Option Lexing := do
  let s ← s.skipGap.dropStale
  let s := s.unroll s.mark.column
  match s.rest with
  | [] => s.finish
  | c :: r => s.token c r

def isFinished (s : Lexing) : Bool := s.tokens.getLast?.map Placed.token == some .streamEnd

/-- Every step but the last reads a character, so there are no more states than characters and two.
Where the text stops being a document, the tokens that were settled before the last step are the
answer. -/
def run : Nat → (settled : List Placed) → Lexing → List Placed
  | 0, ts, _ => ts
  | n + 1, ts, s =>
    match s.dropStale with
    | none => ts
    | some s =>
      if s.isFinished then s.settled
      else
        match s.step with
        | none => s.settled
        | some t => run n s.settled t

end Lexing

def tokens (document : Text) : List Placed :=
  if document.all isAllowed then
    Lexing.run (document.length + 2) [] { mark := .origin, rest := normal false document }
  else []

end Placeholder.Yaml
