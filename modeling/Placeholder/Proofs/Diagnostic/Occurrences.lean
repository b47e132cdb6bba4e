import Placeholder.Proofs.Diagnostic.Outcome

namespace Placeholder

def Piece.only (name : Text) : Piece → List Piece
  | .plain c => [.plain c]
  | .marker n => if n = name then [.marker n] else (wrap n).map .plain

theorem Marker.locate_only (name : Text) (start : Nat) (ps : List Piece) :
    locate start (ps.flatMap (Piece.only name)) =
      (locate start ps).filter fun m => m.name = name := by
  induction ps generalizing start with
  | nil => rfl
  | cons p ps ih =>
    rw [List.flatMap_cons, locate_append, ih]
    cases p with
    | plain c => simp [Piece.only, Piece.text, locate]
    | marker n =>
      by_cases own : n = name
      · simp [Piece.only, Piece.text, locate, own]
      · simp [Piece.only, locate, own, locate_map_plain, flatMap_text_map_plain]

section Identifier

variable {name : Text} (identifier : IsIdentifier name)

include identifier

theorem cut_literal_eq_flatMap_only (s : Text) :
    (Pattern.literal name).cut s = (Pattern.identifier.cut s).flatMap (Piece.only name) := by
  induction s using Pattern.identifier.cut_induction with
  | nil => simp
  | marker n s found ih =>
    obtain ⟨other, -⟩ := Pattern.identifier_eq_some_iff.1 found
    rw [Pattern.cut_wrap_append found, List.flatMap_cons, ← ih]
    by_cases own : n = name
    · rw [own, Pattern.cut_literal, Piece.only, if_pos rfl, List.singleton_append]
    · rw [Pattern.cut_literal_of_ne own identifier.brace_not_mem other.clear, Piece.only, if_neg own]
  | plain c s absent ih =>
    have elsewhere := Pattern.not_starts_of_identifier_eq_none absent identifier
    rw [Pattern.cut_of_nameAt_eq_none absent, List.flatMap_cons, ← ih,
      Pattern.cut_of_nameAt_eq_none (Pattern.literal_eq_none_iff.2 elsewhere)]
    rfl

theorem scan_literal_eq_filter (s : Text) :
    (Pattern.literal name).scan s = (identifiers s).filter fun m => m.name = name := by
  rw [Pattern.scan, cut_literal_eq_flatMap_only identifier, Marker.locate_only]
  rfl

theorem occurrences_eq_length (s : Text) :
    occurrences name s = ((identifiers s).filter fun m => m.name = name).length := by
  rw [occurrences, ← Pattern.length_scan, scan_literal_eq_filter identifier]

theorem occurrences_eq_zero_iff_identifiers (s : Text) :
    occurrences name s = 0 ↔ ∀ m ∈ identifiers s, m.name ≠ name := by
  simp [occurrences_eq_length identifier, List.filter_eq_nil_iff]

theorem replace_eq_fill (value s : Text) :
    replace name value s =
      (Pattern.identifier.divide s).fill fun m => if m.name = name then value else m.text := by
  have pieces (p : Piece) : (p.only name).flatMap (Piece.fill fun _ => value) =
      p.fill fun n => if n = name then value else wrap n := by
    cases p with
    | plain c => rfl
    | marker n =>
      by_cases own : n = name
      · simp [Piece.only, Piece.fill, own]
      · simp [Piece.only, Piece.fill, own, flatMap_fill_map_plain]
  calc
    replace name value s = (Pattern.identifier.cut s).flatMap
        (Piece.fill fun n => if n = name then value else wrap n) := by
      rw [replace, cut_literal_eq_flatMap_only identifier, List.flatMap_assoc]
      simp only [pieces]
    _ = (Pattern.identifier.divide s).fill fun m => if m.name = name then value else m.text :=
      (Pattern.identifier.fill_divide (fun n => if n = name then value else wrap n) s).symm

end Identifier

theorem notFound_mem_substitute_iff {c : Config} (check : c.notFoundCheck = .markerOccurrence)
    (name value s : Text) :
    .notFound name ∈ (substitute c (some s) (some (.ofList [(name, value)]))).value.warnings ↔
      occurrences name s = 0 := by
  have one : Diagnostic.turns (Variables.ofList [(name, value)]).entries s = [⟨name, value, s⟩] := rfl
  have early : ∀ p : Parsed, .notFound name ∈ p.warnings ↔
      .notFound name ∈ p.ofKind .variableNotFound := by
    intro p
    simp [Parsed.ofKind, Warning.notFound]
  rw [early, notFound_substitute, one, check]
  by_cases absent : occurrences name s = 0 <;>
    simp [Turn.warning?, Turn.notFound, Turn.occurrences, absent]

/-- In any text, one variable whose name is an identifier is put in the place of the identifiers of
that name, from left to right and once; all else stays. Its marker is met as often as there are such
identifiers, each time where one of them stands, and where occurrence is what counts the variable is
warned about if there are none. -/
theorem one_variable_replaces_own_identifiers (name value s : Text) (identifier : IsIdentifier name) :
    let vs : Variables := .ofList [(name, value)]
    let own := (identifiers s).filter fun m => m.name = name
    (∃ d : Division, d.Cuts s (identifiers s) ∧
        renderText s vs = d.fill fun m => if m.name = name then value else m.text) ∧
      (Pattern.literal name).scan s = own ∧
      (Diagnostic.turns vs.entries s).map Turn.occurrences = [own.length] ∧
      ∀ c : Config, c.notFoundCheck = .markerOccurrence →
        (.notFound name ∈ (substitute c (some s) (some vs)).value.warnings ↔
          ∀ m ∈ identifiers s, m.name ≠ name) := by
  intro vs own
  refine ⟨⟨_, Pattern.identifier.cuts_divide s, replace_eq_fill identifier value s⟩,
    scan_literal_eq_filter identifier s, ?_, ?_⟩
  · exact congrArg (fun n => [n]) (occurrences_eq_length identifier s)
  · intro c check
    rw [notFound_mem_substitute_iff check, occurrences_eq_zero_iff_identifiers identifier]

theorem one_variable_replaces_own_identifiers_in_broken_text :
    let s : Text := wrap (wrap ['a']) ++ ['$', '{'] ++ wrap ['a'] ++ wrap ['b'] ++ ['$', '{', 'a']
    let vs : Variables := .ofList [(['a'], ['a'])]
    let ws : Variables := .ofList [(['c'], wrap ['a'])]
    let c : Config := { notFoundCheck := .markerOccurrence }
    renderText s vs = wrap ['a'] ++ ['$', '{', 'a'] ++ wrap ['b'] ++ ['$', '{', 'a'] ∧
      (Pattern.literal ['a']).scan s = [⟨['a'], 2⟩, ⟨['a'], 9⟩] ∧
      (Diagnostic.turns vs.entries s).map Turn.occurrences = [2] ∧
      .notFound ['a'] ∉ (substitute c (some s) (some vs)).value.warnings ∧
      .notFound ['c'] ∈ (substitute c (some s) (some ws)).value.warnings := by
  intro s vs ws c
  have identifier : IsIdentifier ['a'] := by decide
  have identifier' : IsIdentifier ['c'] := by decide
  have markers : identifiers s = [⟨['a'], 2⟩, ⟨['a'], 9⟩, ⟨['b'], 13⟩] := by decide +kernel
  obtain ⟨-, met, counts, warned⟩ :=
    one_variable_replaces_own_identifiers ['a'] ['a'] s identifier
  obtain ⟨-, -, -, warned'⟩ :=
    one_variable_replaces_own_identifiers ['c'] (wrap ['a']) s identifier'
  rw [markers] at met counts
  refine ⟨by decide +kernel, met, counts, ?_, ?_⟩
  · rw [warned c rfl, markers]
    decide
  · rw [warned' c rfl, markers]
    decide

end Placeholder
