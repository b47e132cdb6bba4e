import Placeholder.Proofs.Decomposition
import Placeholder.Proofs.Diagnostic.Outcome

namespace Placeholder

def Record.line (r : Record) : Level × Text := (r.level, r.message)

def Logged.lines {α : Type} (a : Logged α) : List (Level × Text) := a.records.map Record.line

def Warning.line (w : Warning) : Level × Text := (.warn, w.message)

def replacedLine (n : Nat) (name : Text) : Level × Text :=
  (.debug, "Replaced ".toList ++ Text.ofNat n ++ " occurrence(s) of ".toList ++ wrap name)

def filledLine (n : Nat) : Level × Text :=
  (.debug, "Replaced ".toList ++ Text.ofNat n ++ " field marker(s)".toList)

def renderedLine (n : Nat) : Level × Text :=
  (.debug, "Rendered template with ".toList ++ Text.ofNat n ++ " warning(s)".toList)

section Said

variable {α : Type} (level : Level)

def said (ls : List (Level × Text)) : List Text := (ls.filter fun l => l.1 = level).map Prod.snd

theorem said_append (ls ms : List (Level × Text)) :
    said level (ls ++ ms) = said level ls ++ said level ms := by
  simp only [said, List.filter_append, List.map_append]

theorem said_flatMap (f : α → List (Level × Text)) (l : List α) :
    said level (l.flatMap f) = l.flatMap fun a => said level (f a) := by
  simp only [said, List.filter_flatMap, List.map_flatMap]

theorem said_map_warning (ws : List Warning) :
    said .warn (ws.map Warning.line) = ws.map Warning.message := by
  have all : ∀ l ∈ ws.map Warning.line, decide (l.1 = Level.warn) = true := by
    intro l hl
    obtain ⟨w, -, rfl⟩ := List.mem_map.1 hl
    rfl
  rw [said, List.filter_eq_self.2 all, List.map_map]
  rfl

end Said

section Counting

variable {name s : Text}

theorem leftmost_literal (name s : Text) :
    Leftmost (· = name) s 0 (((Pattern.literal name).scan s).map Marker.occurrence) := by
  apply Pattern.leftmost_scan
  intro s n
  rw [Pattern.literal_eq_some_iff]
  constructor <;> rintro ⟨rfl, starts⟩ <;> exact ⟨rfl, starts⟩

theorem Occurrence.Stands.eq_of_name {o x : Occurrence} (h : o.Stands (· = name) s)
    (h' : x.Stands (· = name) s) (same : o.start = x.start) : o = x := by
  obtain ⟨r, _, -, -, rfl, rfl⟩ := Occurrence.stands_iff.1 h
  obtain ⟨r', _, -, -, rfl, rfl⟩ := Occurrence.stands_iff.1 h'
  have start : r.bytes = r'.bytes := same
  rw [start]

theorem occurrences_eq_iff {n : Nat} :
    occurrences name s = n ↔ ∃ os, Leftmost (· = name) s 0 os ∧ os.length = n := by
  have count : (((Pattern.literal name).scan s).map Marker.occurrence).length =
      occurrences name s := by
    rw [List.length_map, Pattern.length_scan, occurrences]
  constructor
  · rintro rfl
    exact ⟨_, leftmost_literal name s, count⟩
  · rintro ⟨os, leftmost, rfl⟩
    have same := leftmost.unique_of_start_eq (fun _ _ ho hx => ho.eq_of_name hx)
      (leftmost_literal name s)
    rw [same, count]

end Counting

namespace Diagnostic

def working (s : Text) (es : List (Text × Text)) : Text :=
  es.foldl (fun s e => replace e.1 e.2 s) s

def Missed : NotFoundCheck → (name value before after : Text) → Prop
  | .valuePresence, _, value, _, after => ¬ value <:+: after
  | .markerOccurrence, name, _, before, _ => ¬ wrap name <:+: before

/-- The lines of one variable: how often its marker is met when the text in front of its turn is read
from the left without overlap, and then a warning if the variable is missed. -/
inductive Tells (check : NotFoundCheck) (name value before after : Text) :
    List (Level × Text) → Prop
  | found {os : List Occurrence} : Leftmost (· = name) before 0 os →
      ¬ Missed check name value before after →
      Tells check name value before after [replacedLine os.length name]
  | missed {os : List Occurrence} : Leftmost (· = name) before 0 os →
      Missed check name value before after →
      Tells check name value before after
        [replacedLine os.length name, (.warn, Warning.notFoundMessage name)]

/-- The lines of a substitution, in one group for each variable. The text in front of a turn is what
the variables before it have made of the template. -/
structure Chronicle (check : NotFoundCheck) (s : Text) (vs : Variables) (final : Text)
    (groups : List (List (Level × Text))) (ls : List (Level × Text)) : Prop where
  lines : ls = groups.flatten ++
    (identifiers final).map fun m => (.warn, Warning.notReplacedMessage m.name)
  length : groups.length = vs.size
  group : ∀ es name value fs g, vs.entries = es ++ (name, value) :: fs →
    (groups[es.length]? = some g ↔
      Tells check name value (working s es) (working s (es ++ [(name, value)])) g)

end Diagnostic

namespace Turn

variable (check : NotFoundCheck) (t : Turn)

def lines : List (Level × Text) := (t.records check).map Record.line

theorem lines_eq :
    t.lines check =
      replacedLine t.occurrences t.name :: (t.warning? check).toList.map Warning.line := by
  rw [lines, records, List.map_cons, List.map_map]
  rfl

theorem said_lines : said .warn (t.lines check) = (t.warning? check).toList.map Warning.message := by
  rw [lines_eq, ← said_map_warning]
  rfl

theorem notFound_iff :
    t.notFound check = true ↔ Diagnostic.Missed check t.name t.value t.before t.after := by
  cases check with
  | valuePresence =>
    rw [notFound, Bool.not_eq_true', ← Bool.not_eq_true, Text.contains_iff]
    rfl
  | markerOccurrence =>
    rw [notFound, beq_iff_eq]
    exact occurrences_eq_zero_iff

theorem lines_of_missed (missed : Diagnostic.Missed check t.name t.value t.before t.after) :
    t.lines check =
      [replacedLine t.occurrences t.name, (.warn, Warning.notFoundMessage t.name)] := by
  rw [lines_eq, warning?, if_pos ((t.notFound_iff check).2 missed)]
  rfl

theorem lines_of_not_missed (found : ¬ Diagnostic.Missed check t.name t.value t.before t.after) :
    t.lines check = [replacedLine t.occurrences t.name] := by
  rw [lines_eq, warning?, if_neg fun absent => found ((t.notFound_iff check).1 absent)]
  rfl

theorem tells_iff {ls : List (Level × Text)} :
    Diagnostic.Tells check t.name t.value t.before t.after ls ↔ t.lines check = ls := by
  constructor
  · intro tells
    cases tells with
    | found leftmost found =>
      rw [t.lines_of_not_missed check found, occurrences,
        occurrences_eq_iff.2 ⟨_, leftmost, rfl⟩]
    | missed leftmost missed =>
      rw [t.lines_of_missed check missed, occurrences, occurrences_eq_iff.2 ⟨_, leftmost, rfl⟩]
  · rintro rfl
    obtain ⟨os, leftmost, count⟩ := occurrences_eq_iff.1 (rfl : t.occurrences = _)
    by_cases missed : Diagnostic.Missed check t.name t.value t.before t.after
    · rw [t.lines_of_missed check missed, ← count]
      exact .missed leftmost missed
    · rw [t.lines_of_not_missed check missed, ← count]
      exact .found leftmost missed

end Turn

namespace Diagnostic

theorem turns_append (es fs : List (Text × Text)) (s : Text) :
    turns (es ++ fs) s = turns es s ++ turns fs (working s es) := by
  induction es generalizing s with
  | nil => rfl
  | cons e es ih =>
    simp only [List.cons_append, turns, ih, Turn.after_eq]
    rfl

theorem getElem?_turns (es : List (Text × Text)) (name value : Text) (fs : List (Text × Text))
    (s : Text) :
    (turns (es ++ (name, value) :: fs) s)[es.length]? = some ⟨name, value, working s es⟩ := by
  rw [turns_append, List.getElem?_append_right (Nat.le_of_eq (length_turns es s)), length_turns,
    Nat.sub_self]
  rfl

variable (check : NotFoundCheck) (s : Text) (vs : Variables)

theorem lines_run :
    (run check s vs).lines =
      (turns vs.entries s).flatMap (Turn.lines check) ++
        (leftovers (run check s vs).value.text).map Warning.line := by
  rw [Logged.lines, run, List.map_append, List.map_flatMap, List.map_map]
  rfl

theorem said_lines_run :
    said .warn (run check s vs).lines = (run check s vs).value.messages := by
  rw [lines_run, said_append, said_flatMap, said_map_warning, Parsed.messages]
  simp only [Turn.said_lines, ← List.map_flatMap, ← List.filterMap_eq_flatMap_toList]
  rw [← List.map_append]
  rfl

theorem chronicle_run :
    Chronicle check s vs (run check s vs).value.text ((turns vs.entries s).map (Turn.lines check))
      (run check s vs).lines := by
  constructor
  · rw [lines_run, List.flatMap_def, leftovers, List.map_map]
    rfl
  · rw [List.length_map, length_turns, Variables.size]
  · intro es name value fs g split
    let t : Turn := ⟨name, value, working s es⟩
    have after : working s (es ++ [(name, value)]) = t.after := by
      rw [Turn.after_eq, working, List.foldl_append]
      rfl
    rw [split, List.getElem?_map, getElem?_turns, after, Option.map_some, Option.some.injEq]
    exact (t.tells_iff check).symm

end Diagnostic

section Outcome

variable (c : Config) (s : Text) (vs : Variables)

theorem said_lines_substitute (s? : Option Text) (vs? : Option Variables) :
    said .warn (substitute c s? vs?).lines = (substitute c s? vs?).value.messages := by
  cases s? with
  | none => rfl
  | some s =>
    cases vs? with
    | none => rfl
    | some vs => exact Diagnostic.said_lines_run c.notFoundCheck s vs

theorem lines_render :
    ((Renderer.diagnostic c).render s vs).lines =
      (substitute c (some s) (some vs)).lines ++
        [renderedLine (said .warn (substitute c (some s) (some vs)).lines).length] := by
  rw [said_lines_substitute, Parsed.messages, List.length_map]
  exact List.map_append

theorem lines_replaceFields :
    (replaceFields c s vs).lines =
      if (replaceFields c s vs).value.isOk ∧ fields s ≠ [] then [filledLine (fields s).length]
      else [] := by
  rw [replaceFields]
  split
  case isTrue plain =>
    rw [List.isEmpty_iff] at plain
    simp [plain, Logged.lines, Logged.silent]
  case isFalse marked =>
    rw [List.isEmpty_iff] at marked
    cases Strict.missing c.matchMode vs s with
    | nil =>
      rw [if_pos ⟨rfl, marked⟩]
      rfl
    | cons m ms => rfl

theorem renderPlain_eq : renderPlain s vs = .silent (renderText s vs) := by
  rw [renderPlain, renderText]
  induction vs.entries generalizing s with
  | nil => rfl
  | cons e es ih => exact ih (replace e.1 e.2 s)

end Outcome

/-- The log warns about what the answer warns about. A substitution has the lines of its variables one
after the other, and then one for each marker that is left; a rendering adds the number of warnings,
whether or not it fails for them. Filling fields leaves one line if there was one to fill and it does
not fail, and plain replacement leaves none. -/
theorem log_tells_warnings (c : Config) :
    (∀ (s : Option Text) (vs : Option Variables),
      said .warn (substitute c s vs).lines = (substitute c s vs).value.messages) ∧
    (∀ (s : Text) (vs : Variables),
      let a := substitute c (some s) (some vs)
      (∃ groups, Diagnostic.Chronicle c.notFoundCheck s vs a.value.text groups a.lines) ∧
        ((Renderer.diagnostic c).render s vs).lines =
          a.lines ++ [renderedLine (said .warn a.lines).length]) ∧
    (∀ (s : Text) (vs : Variables),
      let a := replaceFields c s vs
      a.lines = if a.value.isOk ∧ fields s ≠ [] then [filledLine (fields s).length] else []) ∧
    ∀ (s : Text) (vs : Variables),
      (renderPlain s vs).value = renderText s vs ∧ (renderPlain s vs).lines = [] := by
  refine ⟨said_lines_substitute c, ?_, lines_replaceFields c, ?_⟩
  · intro s vs a
    exact ⟨⟨_, Diagnostic.chronicle_run c.notFoundCheck s vs⟩, lines_render c s vs⟩
  · intro s vs
    rw [renderPlain_eq]
    exact ⟨rfl, rfl⟩

example :
    ((Renderer.diagnostic .default).render (wrap ['a'] ++ wrap ['c'] ++ wrap ['a'])
      (.ofList [(['b'], ['1']), (['a'], ['2'])])).lines =
      [replacedLine 0 ['b'], (.warn, Warning.notFoundMessage ['b']), replacedLine 2 ['a'],
        (.warn, Warning.notReplacedMessage ['c']), renderedLine 2] := by
  decide +kernel

end Placeholder
