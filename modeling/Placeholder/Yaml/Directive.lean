import Placeholder.Yaml.Tag
import Placeholder.Yaml.Scalar.Block

namespace Placeholder.Yaml

inductive Directive : Type
  | version : Nat → Nat → Directive
  | tag : Text → Uri → Directive
  deriving DecidableEq

namespace Directive

def number (s : Text) : Option (Nat × Text) :=
  let digits := s.takeWhile Char.isDigit
  if digits.isEmpty || 9 < digits.length then none
  else some (digits.foldl (fun n c => n * 10 + (c.toNat - '0'.toNat)) 0, s.dropWhile Char.isDigit)

def readVersion (s : Text) : Option (Directive × Text) := do
  let (major, r) ← number (s.dropWhile isBlank)
  match r with
  | '.' :: r =>
    let (minor, r) ← number r
    some (.version major minor, r)
  | _ => none

def readTag (s : Text) : Option (Directive × Text) := do
  let (h, r) ← handle (s.dropWhile isBlank)
  if isClosed h || h.length == 1 then
    match r with
    | [] => none
    | c :: r =>
      if isBlank c then
        let (u, r) ← uri true (r.dropWhile isBlank)
        if u.isEmpty || !endsWord r then none else some (.tag h u.upToNull, r)
      else none
  else none

def read (s : Text) : Option (Directive × Text) := do
  let name := s.takeWhile isWord
  let r := s.dropWhile isWord
  if !endsWord r then none
  else do
    let (d, r) ←
      if name = "YAML".toList then readVersion r
      else if name = "TAG".toList then readTag r
      else none
    let r ← endLine r
    some (d, r)

end Directive
end Placeholder.Yaml
