import Placeholder.Yaml.Directive

namespace Placeholder.Yaml

inductive Style : Type
  | plain : Style
  | singleQuoted : Style
  | doubleQuoted : Style
  | literal : Style
  | folded : Style
  deriving DecidableEq

inductive Token : Type
  | directive : Directive → Token
  | documentStart : Token
  | documentEnd : Token
  | streamEnd : Token
  | blockSequenceStart : Token
  | blockMappingStart : Token
  | blockEnd : Token
  | flowSequenceStart : Token
  | flowSequenceEnd : Token
  | flowMappingStart : Token
  | flowMappingEnd : Token
  | blockEntry : Token
  | flowEntry : Token
  | key : Token
  | value : Token
  | alias : Text → Token
  | anchor : Text → Token
  | tag : Tag → Token
  | scalar : Text → Style → Token
  deriving DecidableEq

structure Placed where
  token : Token
  start : Mark
  stop : Mark
  deriving DecidableEq

/-- A token that is a key if a colon follows it on its line before long. -/
structure Candidate where
  required : Bool
  token : Nat
  mark : Mark
  deriving DecidableEq

/-- The greatest distance of a colon from the beginning of its key, in bytes. -/
def keyLimit : Nat := 1024

def Candidate.isStale (c : Candidate) (m : Mark) : Bool :=
  c.mark.line < m.line || c.mark.index + keyLimit < m.index

/-- The state of a reading: tokens so far, open blocks by their columns, and candidates for keys,
one on each level of flow. -/
structure Lexing where
  mark : Mark
  rest : Text
  tokens : List Placed := []
  columns : List Nat := []
  candidate : Option Candidate := none
  outer : List (Option Candidate) := []
  keyAllowed : Bool := true

namespace Lexing

def flow (s : Lexing) : Bool := !s.outer.isEmpty

def indent (s : Lexing) : Int :=
  match s.columns with
  | [] => -1
  | c :: _ => c

def markAt (s : Lexing) (rest : Text) : Mark :=
  s.mark.after (s.rest.take (s.rest.length - rest.length))

def moveTo (s : Lexing) (rest : Text) : Lexing := { s with mark := s.markAt rest, rest }

def read (s : Lexing) (t : Token) (rest : Text) : Lexing :=
  { s.moveTo rest with tokens := s.tokens ++ [⟨t, s.mark, s.markAt rest⟩] }

def append (s : Lexing) (t : Token) : Lexing :=
  { s with tokens := s.tokens ++ [⟨t, s.mark, s.mark⟩] }

def insert (s : Lexing) (k : Nat) (t : Token) (m : Mark) : Lexing :=
  { s with tokens := s.tokens.take k ++ ⟨t, m, m⟩ :: s.tokens.drop k }

def closeBlocks (mark : Mark) (column : Int) : List Nat → List Placed × List Nat
  | [] => ([], [])
  | c :: cs =>
    if column < (c : Int) then
      let (ts, cs) := closeBlocks mark column cs
      (⟨.blockEnd, mark, mark⟩ :: ts, cs)
    else ([], c :: cs)

def unroll (s : Lexing) (column : Int) : Lexing :=
  if s.flow then s
  else
    let (ts, columns) := closeBlocks s.mark column s.columns
    { s with tokens := s.tokens ++ ts, columns }

def roll (s : Lexing) (column k : Nat) (t : Token) (m : Mark) : Lexing :=
  if !s.flow && s.indent < (column : Int) then
    { s.insert k t m with columns := column :: s.columns }
  else s

def dropCandidate (s : Lexing) : Option Lexing :=
  match s.candidate with
  | some ⟨true, _, _⟩ => none
  | _ => some { s with candidate := none }

def saveCandidate (s : Lexing) : Option Lexing :=
  if s.keyAllowed then do
    let t ← s.dropCandidate
    let required := !s.flow && s.indent == (s.mark.column : Int)
    some { t with candidate := some ⟨required, s.tokens.length, s.mark⟩ }
  else some s

def refresh (m : Mark) : Option Candidate → Option (Option Candidate)
  | none => some none
  | some c =>
    if c.isStale m then (if c.required then none else some none) else some (some c)

def dropStale (s : Lexing) : Option Lexing := do
  let candidate ← refresh s.mark s.candidate
  let outer ← s.outer.mapM (refresh s.mark)
  some { s with candidate, outer }

def settled (s : Lexing) : List Placed :=
  (s.candidate :: s.outer).foldl
    (fun ts c => match c with | some c => ts.take c.token | none => ts) s.tokens

end Lexing
end Placeholder.Yaml
