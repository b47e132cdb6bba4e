import Placeholder.Marker.Division
import Placeholder.Variables
import Placeholder.Config.Basic
import Placeholder.Log
import Placeholder.Fault

/-! All or nothing: every marker is resolved by a field, in one pass over the text, or the markers
that are not resolved are the answer. -/

namespace Placeholder

namespace Strict

def resolves (mode : MatchMode) (marker field : Text) : Bool :=
  match mode with
  | .exact => marker == field
  | .containment => Text.contains field (wrap marker)

def resolve? (mode : MatchMode) (vs : Variables) (name : Text) : Option Text :=
  (vs.entries.find? fun e => resolves mode name e.1).map Prod.snd

def missing (mode : MatchMode) (vs : Variables) (s : Text) : List Text :=
  ((fields s).filter fun m => (resolve? mode vs m.name).isNone).map Marker.text

structure Progress where
  output : Text
  cursor : Nat

namespace Progress

def start : Progress := ⟨[], 0⟩

/-- Writes the template up to the marker and the value in its place, unless the slice that this
takes is out of range. -/
def step? (s : Text) (value : Marker → Text) (p : Progress) (m : Marker) : Option Progress :=
  (Text.slice? p.cursor m.start s).map fun gap => ⟨p.output ++ gap ++ value m, m.stop⟩

def run? (s : Text) (value : Marker → Text) (p : Progress) (ms : List Marker) : Option Progress :=
  ms.foldlM (step? s value) p

def finish? (s : Text) (p : Progress) : Option Text :=
  (Text.slice? p.cursor s.bytes s).map (p.output ++ ·)

def Before (s : Text) (d : Division) (p : Progress) : Prop :=
  ∃ r, s = r ++ d.text ∧ p.cursor = r.bytes ∧ Division.Placed p.cursor d.parts

theorem before_start {s : Text} {d : Division} {ms : List Marker} (cuts : d.Cuts s ms) :
    Before s d start :=
  ⟨[], cuts.text.symm, rfl, cuts.placed⟩

theorem Before.slice? {s gap : Text} {m : Marker} {es : List (Text × Marker)} {rest : Text}
    {p : Progress} (h : Before s ⟨(gap, m) :: es, rest⟩ p) :
    Text.slice? p.cursor m.start s = some gap := by
  obtain ⟨r, rfl, cursor, placed⟩ := h
  rw [placed.1, cursor, Division.text, Division.fill_cons]
  exact Text.slice?_middle r gap _

theorem Before.slice?_rest {s rest : Text} {p : Progress} (h : Before s ⟨[], rest⟩ p) :
    Text.slice? p.cursor s.bytes s = some rest := by
  obtain ⟨r, rfl, cursor, _⟩ := h
  have all := Text.slice?_middle r rest []
  simpa [cursor, Division.text] using all

theorem Before.step {s gap : Text} {m : Marker} {es : List (Text × Marker)} {rest : Text}
    {p : Progress} (h : Before s ⟨(gap, m) :: es, rest⟩ p) (output : Text) :
    Before s ⟨es, rest⟩ ⟨output, m.stop⟩ := by
  obtain ⟨r, text, cursor, placed⟩ := h
  refine ⟨r ++ gap ++ m.text, ?_, ?_, placed.2⟩
  · rw [text, Division.text, Division.fill_cons]
    simp [Division.text]
  · simp [Marker.stop, placed.1, cursor, Nat.add_assoc]

theorem Before.run {s : Text} (value : Marker → Text) {es fs : List (Text × Marker)} {rest : Text}
    {p : Progress} (h : Before s ⟨es ++ fs, rest⟩ p) :
    ∃ q, run? s value p (es.map Prod.snd) = some q ∧
      q.output = p.output ++ es.flatMap (fun e => e.1 ++ value e.2) ∧ Before s ⟨fs, rest⟩ q := by
  induction es generalizing p with
  | nil => exact ⟨p, rfl, by simp, h⟩
  | cons e es ih =>
    obtain ⟨gap, m⟩ := e
    obtain ⟨q, run, output, before⟩ := ih (h.step (p.output ++ gap ++ value m))
    refine ⟨q, ?_, by simp [output], before⟩
    have step : step? s value p m = some ⟨p.output ++ gap ++ value m, m.stop⟩ := by
      simp [step?, h.slice?]
    rw [run?, List.map_cons, List.foldlM_cons, step]
    exact run

theorem Before.finish {s : Text} (value : Marker → Text) {d : Division} {p : Progress}
    (h : Before s d p) :
    (run? s value p d.markers).bind (finish? s) = some (p.output ++ d.fill value) := by
  obtain ⟨es, rest⟩ := d
  rw [← List.append_nil es] at h
  obtain ⟨q, run, output, before⟩ := h.run value
  rw [Division.markers, run, Option.bind_some, finish?, before.slice?_rest]
  simp [output, Division.fill]

end Progress

def rebuild? (s : Text) (value : Marker → Text) : Option Text :=
  (Progress.run? s value .start (fields s)).bind (Progress.finish? s)

theorem rebuild?_eq (s : Text) (value : Marker → Text) :
    rebuild? s value = some ((Pattern.field.divide s).fill value) := by
  have cuts := Pattern.field.cuts_divide s
  have all := (Progress.before_start cuts).finish value
  rw [cuts.markers] at all
  exact all

def rebuild (s : Text) (value : Marker → Text) : Text :=
  (rebuild? s value).get (by rw [rebuild?_eq]; rfl)

theorem rebuild_eq (s : Text) (value : Marker → Text) :
    rebuild s value = (Pattern.field.divide s).fill value := by
  simp [rebuild, rebuild?_eq]

def fill (mode : MatchMode) (vs : Variables) (s : Text) : Text :=
  rebuild s fun m => (resolve? mode vs m.name).getD []

end Strict

def replaceFields (c : Config) (s : Text) (vs : Variables) : Logged (Except Fault Text) :=
  if (fields s).isEmpty then .silent (.ok s)
  else
    match Strict.missing c.matchMode vs s with
    | [] => ⟨.ok (Strict.fill c.matchMode vs s), [.filled (fields s).length]⟩
    | ms => .silent (.error (.missingFields ms))

end Placeholder
