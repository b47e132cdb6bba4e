import Placeholder.Yaml.Character

namespace Placeholder.Yaml

inductive Chomping : Type
  | strip : Chomping
  | clip : Chomping
  | keep : Chomping
  deriving DecidableEq

structure BlockHeader where
  chomping : Chomping
  increment : Nat

def chomping? (c : Char) : Option Chomping :=
  if c = '+' then some .keep else if c = '-' then some .strip else none

def increment? (c : Char) : Option Nat :=
  if c.isDigit && c ≠ '0' then some (c.toNat - '0'.toNat) else none

def blockSigns : Text → Option (BlockHeader × Text)
  | [] => some (⟨.clip, 0⟩, [])
  | c :: s =>
    match chomping? c with
    | some chomping =>
      match s with
      | [] => some (⟨chomping, 0⟩, [])
      | d :: r =>
        if d.isDigit then (increment? d).map fun n => (⟨chomping, n⟩, r)
        else some (⟨chomping, 0⟩, d :: r)
    | none =>
      if c.isDigit then
        (increment? c).map fun n =>
          match s with
          | [] => (⟨.clip, n⟩, [])
          | d :: r =>
            match chomping? d with
            | some chomping => (⟨chomping, n⟩, r)
            | none => (⟨.clip, n⟩, d :: r)
      else some (⟨.clip, 0⟩, c :: s)

def endLine (s : Text) : Option Text :=
  let s := s.dropWhile isBlank
  let s := if s.head? = some '#' then s.dropWhile fun c => !isBreak c else s
  match s with
  | [] => some []
  | c :: r => if isBreak c then some r else none

structure Block where
  literal : Bool
  floor : Nat
  /-- Indentation of the lines; zero until it is known. -/
  indent : Nat
  text : Text := []
  lead : Text := []
  trail : Text := []
  blank : Bool := false

namespace Block

def settle (b : Block) (deepest : Nat) : Block :=
  if b.indent = 0 then { b with indent := max deepest b.floor } else b

def folds (b : Block) (c : Char) : Bool :=
  !b.literal && b.lead == ['\n'] && !b.blank && !isBlank c

def start (b : Block) (c : Char) : Block :=
  let joint := if b.folds c then (if b.trail.isEmpty then [' '] else []) else b.lead
  { b with
    text := b.text ++ joint ++ b.trail ++ [c]
    lead := []
    trail := []
    blank := isBlank c }

def push (b : Block) (c : Char) : Block := { b with text := b.text ++ [c] }

def inMargin (b : Block) (column : Nat) : Bool := b.indent == 0 || column < b.indent

def read (b : Block) (inLine : Bool) (column deepest : Nat) : Text → Option (Block × Text)
  | [] => some (b, [])
  | c :: s =>
    if inLine then
      if isBreak c then read { b with lead := [c] } false 0 0 s
      else read (b.push c) true 0 0 s
    else if c = ' ' ∧ b.inMargin column then read b false (column + 1) deepest s
    else if c = '\t' ∧ b.inMargin column then none
    else if isBreak c then
      read { b with trail := b.trail ++ [c] } false 0 (max deepest column) s
    else
      let b := b.settle (max deepest column)
      if column = b.indent then read (b.start c) true 0 0 s else some (b, c :: s)

def finish (b : Block) : Chomping → Text
  | .strip => b.text
  | .clip => b.text ++ b.lead
  | .keep => b.text ++ b.lead ++ b.trail

end Block

def block (literal : Bool) (indent : Int) (s : Text) : Option (Text × Text) := do
  let (header, s) ← blockSigns s
  let s ← endLine s
  let known := if header.increment = 0 then 0 else indent.toNat + header.increment
  let b : Block := { literal, floor := max (indent + 1).toNat 1, indent := known }
  let (b, r) ← b.read false 0 0 s
  some (b.finish header.chomping, r)

end Placeholder.Yaml
