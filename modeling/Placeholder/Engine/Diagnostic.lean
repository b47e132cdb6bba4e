import Placeholder.Variables
import Placeholder.Config.Basic
import Placeholder.Log

/-! Best effort: each variable in turn replaces the markers of its name throughout the text, and
what does not work out is warned about. Values are put in as they are; a later turn may find markers
in them. -/

namespace Placeholder

structure Turn where
  name : Text
  value : Text
  before : Text

namespace Turn

def occurrences (t : Turn) : Nat := Placeholder.occurrences t.name t.before

def after (t : Turn) : Text :=
  if t.occurrences = 0 then t.before else replace t.name t.value t.before

def notFound (check : NotFoundCheck) (t : Turn) : Bool :=
  match check with
  | .valuePresence => !Text.contains t.value t.after
  | .markerOccurrence => t.occurrences == 0

def warning? (check : NotFoundCheck) (t : Turn) : Option Warning :=
  if t.notFound check then some (.notFound t.name) else none

def records (check : NotFoundCheck) (t : Turn) : List Record :=
  .replaced t.occurrences t.name :: (t.warning? check).toList.map Record.warned

end Turn

namespace Diagnostic

def turns : List (Text × Text) → Text → List Turn
  | [], _ => []
  | (name, value) :: es, s =>
    let t : Turn := ⟨name, value, s⟩
    t :: turns es t.after

def result : List (Text × Text) → Text → Text
  | [], s => s
  | (name, value) :: es, s => result es (Turn.after ⟨name, value, s⟩)

def leftovers (s : Text) : List Warning := (identifiers s).map fun m => .notReplaced m.name

def run (check : NotFoundCheck) (s : Text) (vs : Variables) : Logged Parsed :=
  let ts := turns vs.entries s
  let final := result vs.entries s
  let left := leftovers final
  { value := (Parsed.mk final (ts.filterMap (Turn.warning? check))).withWarnings left
    records := ts.flatMap (Turn.records check) ++ left.map .warned }

def warned (s : Text) (w : Warning) : Logged Parsed := ⟨⟨s, [w]⟩, [.warned w]⟩

end Diagnostic

def substitute (c : Config) : Option Text → Option Variables → Logged Parsed
  | none, _ => Diagnostic.warned [] .templateUndefined
  | some s, none => Diagnostic.warned s .variablesUndefined
  | some s, some vs => Diagnostic.run c.notFoundCheck s vs

def renderText (s : Text) (vs : Variables) : Text :=
  vs.entries.foldl (fun s e => replace e.1 e.2 s) s

/-- Plain replacement as a call: each variable has its turn, and no turn reports anything. -/
def renderPlain (s : Text) (vs : Variables) : Logged Text :=
  vs.entries.foldl (fun a e => a.map (replace e.1 e.2)) (.silent s)

end Placeholder
