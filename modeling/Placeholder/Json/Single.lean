import Placeholder.Json.Numeral
import Placeholder.Json.Member
import Placeholder.Config.Draft

namespace Placeholder.Json

def found : Read Found
  | [] => .error (.within .expectedValue [])
  | c :: s =>
    if c = 'n' then (word "ull".toList s).map (Found.nothing, ·)
    else if c = 't' then (word "rue".toList s).map (Found.boolean true, ·)
    else if c = 'f' then (word "alse".toList s).map (Found.boolean false, ·)
    else if c = '-' || c.isDigit then (number (c :: s)).map fun (n, r) => (n.found, r)
    else if c = '"' then (string s).map fun (t, r) => (.string t, r)
    else if c = '[' then .ok (.sequence, c :: s)
    else if c = '{' then .ok (.map, c :: s)
    else .error (.within .expectedValue (c :: s))

def mismatch (wanted : Wanted) (s : Text) : Stop :=
  match found s with
  | .ok (f, r) => .before (.complaint (.invalidType f wanted)) r
  | .error e => e

def textValue (s : Text) : Except Stop (Text × Text) :=
  match skip s with
  | [] => .error (.before .endInValue [])
  | c :: r => if c = '"' then string r else .error (mismatch .string (c :: r))

def boolean (s : Text) : Except Stop (Bool × Text) :=
  match skip s with
  | [] => .error (.before .endInValue [])
  | c :: r =>
    if c = 't' then (word "rue".toList r).map (true, ·)
    else if c = 'f' then (word "alse".toList r).map (false, ·)
    else .error (mismatch .boolean (c :: r))

def null (s : Text) : Except Stop Text :=
  match skip s with
  | [] => .error (.before .endInValue [])
  | c :: r => if c = 'n' then word "ull".toList r else .error (mismatch .unit (c :: r))

def colon (s : Text) : Except Stop Text :=
  match skip s with
  | [] => .error (.before .endInObject [])
  | c :: r => if c = ':' then .ok r else .error (.within .expectedColon (c :: r))

def chosen {α : Type} (choices : Choices α) (name rest : Text) : Except Stop (α × Text) :=
  match choices.lookup name with
  | some a => .ok (a, rest)
  | none => .error (.before (.complaint (.unknownVariant name (choices.map Prod.fst))) rest)

def onlyKey (s : Text) : Except Stop (Text × Text) :=
  -- the name of a choice is read as the first key of an object, so it fails as a key does; only the
  -- end of the object is a value that is missing
  match next true s with
  | .error e => .error e
  | .ok (.key name r) => .ok (name, r)
  | .ok (.done r) => .error (.within .expectedValue r)

def closeChoice {α : Type} (a : α) (s : Text) : Except Stop (α × Text) :=
  match skip s with
  | [] => .error (.before .endInObject [])
  | c :: r => if c = '}' then .ok (a, r) else .error (.before .expectedValue (c :: r))

def choice {α : Type} (choices : Choices α) (s : Text) : Except Stop (α × Text) :=
  match skip s with
  | [] => .error (.before .endInValue [])
  | c :: r =>
    if c = '"' then do
      let (name, r) ← string r
      chosen choices name r
    else if c = '{' then do
      let (name, r) ← onlyKey r
      let (a, r) ← chosen choices name r
      let r ← colon r
      let r ← null r
      closeChoice a r
    else .error (.within .expectedValue (c :: r))

end Placeholder.Json
