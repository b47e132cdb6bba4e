import Placeholder.Json.Single
import Placeholder.Variables

namespace Placeholder.Json

def textMember (s : Text) : Except Stop (Text × Text) :=
  match colon s with
  | .error e => .error e
  | .ok r => textValue r

theorem length_of_colon {s r : Text} (h : colon s = .ok r) : r.length < s.length := by
  have skipped := length_skip_le s
  unfold colon at h
  split at h
  case h_1 => cases h
  case h_2 c t rest =>
    rw [rest, List.length_cons] at skipped
    split at h
    case isTrue =>
      cases h
      exact skipped
    case isFalse => cases h

theorem length_of_textValue {s t r : Text} (h : textValue s = .ok (t, r)) :
    r.length < s.length := by
  have skipped := length_skip_le s
  unfold textValue at h
  split at h
  case h_1 => cases h
  case h_2 c u rest =>
    rw [rest, List.length_cons] at skipped
    split at h
    case isTrue =>
      have shorter := length_of_string h
      omega
    case isFalse => cases h

theorem length_of_textMember {s t r : Text} (h : textMember s = .ok (t, r)) :
    r.length < s.length := by
  unfold textMember at h
  split at h
  case h_1 => cases h
  case h_2 u found =>
    have shorter := length_of_colon found
    have shorter' := length_of_textValue h
    omega

def textMembers (first : Bool) (vs : Variables) (s : Text) : Except Stop (Variables × Text) :=
  match _h : next first s with
  | .error e => .error e
  | .ok (.done r) => .ok (vs, r)
  | .ok (.key name r) =>
    match _h' : textMember r with
    | .error e => .error e
    | .ok (value, r) => textMembers false (vs.insert name value).2 r
termination_by s.length
decreasing_by
  have shorter := length_of_next _h
  have shorter' := length_of_textMember _h'
  omega

def variablesValue (s : Text) : Except Stop Variables :=
  match skip s with
  | [] => .error (.before .endInValue [])
  | c :: r =>
    if c = '{' then do
      let (vs, r) ← textMembers true .empty r
      finish vs (afterBrace r)
    else .error (mismatch .map (c :: r))

def setting (d : Draft) : Setting → Text → Except Stop (Draft × Text)
  | .policy, s => do
    let (p, r) ← choice Policy.choices s
    .ok ({ d with policy := some p }, r)
  | .notFoundCheck, s => do
    let (n, r) ← choice NotFoundCheck.choices s
    .ok ({ d with notFoundCheck := some n }, r)
  | .matchMode, s => do
    let (m, r) ← choice MatchMode.choices s
    .ok ({ d with matchMode := some m }, r)
  | .denyWarnings, s => do
    let (b, r) ← boolean s
    .ok ({ d with denyWarnings := some b }, r)

/-- The member of a configuration with that key, read behind it. A key that is refused stops the
reading behind the end of the object, where that follows at once. -/
def settingMember (d : Draft) (name s : Text) : Except Stop (Draft × Text) :=
  match Setting.named? name with
  | none =>
    .error (.before (.complaint (.unknownField name (Setting.all.map Setting.name))) (afterBrace s))
  | some x =>
    if d.gives x then .error (.before (.complaint (.duplicateField x.name)) (afterBrace s))
    else do
      let r ← colon s
      setting d x r

def settingMembers : Nat → Bool → Draft → Text → Except Stop (Draft × Text)
  | 0, _, d, s => .ok (d, s)
  | n + 1, first, d, s => do
    match ← next first s with
    | .done r => .ok (d, r)
    | .key name r =>
      let (d, r) ← settingMember d name r
      settingMembers n false d r

def settingElements : List Setting → Bool → Draft → Text → Except Stop (Draft × Text)
  | [], _, d, s => .ok (d, s)
  | x :: xs, first, d, s => do
    match ← element first s with
    | (false, r) => .ok (d, r)
    | (true, r) =>
      let (d, r) ← setting d x r
      settingElements xs false d r

def configValue (s : Text) : Except Stop Config :=
  match skip s with
  | [] => .error (.before .endInValue [])
  | c :: r =>
    if c = '{' then do
      let (d, r) ← settingMembers (Setting.all.length + 1) true {} r
      finish d.toConfig (afterBrace r)
    else if c = '[' then do
      let (d, r) ← settingElements Setting.all true {} r
      finish d.toConfig (← closeList r)
    else .error (mismatch .config (c :: r))

def readVariables (document : Text) : Except Fault Variables :=
  (variablesValue document).mapError (Fault.ofStop document)

def readConfig (document : Text) : Except Fault Config :=
  (configValue document).mapError (Fault.ofStop document)

end Placeholder.Json
