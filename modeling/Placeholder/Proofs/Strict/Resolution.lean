import Mathlib.Data.List.Find
import Mathlib.Data.List.Infix
import Placeholder.Engine.Strict
import Placeholder.Proofs.Pattern

namespace Placeholder.Strict

def Matches : MatchMode → Marker → Text → Prop
  | .exact, m, name => name = m.name
  | .containment, m, name => name <:+: m.text

instance : ∀ (mode : MatchMode) (m : Marker) (name : Text), Decidable (Matches mode m name)
  | .exact, m, name => inferInstanceAs (Decidable (name = m.name))
  | .containment, m, name => inferInstanceAs (Decidable (name <:+: m.text))

def Unmatched (mode : MatchMode) (vs : Variables) (m : Marker) : Prop :=
  ∀ e ∈ vs.entries, ¬ Matches mode m e.1

instance (mode : MatchMode) (vs : Variables) (m : Marker) : Decidable (Unmatched mode vs m) :=
  inferInstanceAs (Decidable (∀ e ∈ vs.entries, ¬ Matches mode m e.1))

def FirstMatch (mode : MatchMode) (vs : Variables) (m : Marker) (value : Text) : Prop :=
  ∃ es name fs, vs.entries = es ++ (name, value) :: fs ∧ Matches mode m name ∧
    ∀ e ∈ es, ¬ Matches mode m e.1

section Resolve

variable {mode : MatchMode} {vs : Variables} {m : Marker}

theorem resolves_iff {name : Text} : resolves mode m.name name = true ↔ Matches mode m name := by
  cases mode with
  | exact =>
    rw [resolves, beq_iff_eq, eq_comm]
    rfl
  | containment => exact Text.contains_iff name (wrap m.name)

theorem resolve?_eq_some_iff {value : Text} :
    resolve? mode vs m.name = some value ↔ FirstMatch mode vs m value := by
  constructor
  · intro h
    obtain ⟨⟨name, v⟩, found, rfl⟩ := Option.map_eq_some_iff.1 h
    obtain ⟨first, es, fs, entries, before⟩ := List.find?_eq_some_iff_append.1 found
    refine ⟨es, name, fs, entries, resolves_iff.1 first, ?_⟩
    intro e he matched
    simpa [resolves_iff.2 matched] using before e he
  · rintro ⟨es, name, fs, entries, first, before⟩
    apply Option.map_eq_some_iff.2
    refine ⟨(name, value), ?_, rfl⟩
    apply List.find?_eq_some_iff_append.2
    refine ⟨resolves_iff.2 first, es, fs, entries, ?_⟩
    intro e he
    simpa [← resolves_iff] using before e he

theorem resolve?_eq_none_iff : resolve? mode vs m.name = none ↔ Unmatched mode vs m := by
  simp [resolve?, List.find?_eq_none, Unmatched, ← resolves_iff]

theorem unmatched_iff_names :
    Unmatched mode vs m ↔ ∀ name ∈ vs.names, ¬ Matches mode m name := by
  rw [Variables.names, List.forall_mem_map]
  rfl

theorem resolve?_congr {mode' : MatchMode}
    (same : ∀ name ∈ vs.names, Matches mode m name ↔ Matches mode' m name) :
    resolve? mode vs m.name = resolve? mode' vs m.name := by
  rw [resolve?, resolve?]
  congr 1
  apply List.find?_congr
  intro e he
  rw [Bool.eq_iff_iff, resolves_iff, resolves_iff]
  exact same e.1 (List.mem_map_of_mem he)

theorem resolve?_exact (vs : Variables) (name : Text) : resolve? .exact vs name = vs.get? name := by
  rw [resolve?, Variables.get?]
  induction vs.entries with
  | nil => rfl
  | cons e es ih =>
    obtain ⟨n, v⟩ := e
    by_cases same : name = n
    · simp [resolves, same]
    · have miss : (name == n) = false := by simpa using same
      simpa only [List.find?_cons, List.lookup_cons, resolves, miss] using ih

end Resolve

section Outcome

variable (mode : MatchMode) (vs : Variables) (s : Text)

theorem missing_eq :
    missing mode vs s = ((fields s).filter fun m => Unmatched mode vs m).map Marker.text := by
  rw [missing]
  congr 1
  apply List.filter_congr
  intro m _
  rw [Bool.eq_iff_iff, Option.isNone_iff_eq_none, resolve?_eq_none_iff, decide_eq_true_iff]

theorem missing_eq_nil_iff : missing mode vs s = [] ↔ ∀ m ∈ fields s, ¬ Unmatched mode vs m := by
  simp [missing_eq, List.filter_eq_nil_iff]

theorem fill_eq :
    fill mode vs s = (Pattern.field.divide s).fill fun m => (resolve? mode vs m.name).getD [] :=
  rebuild_eq s _

theorem fill_eq_field_fill :
    fill mode vs s = Pattern.field.fill (fun n => (resolve? mode vs n).getD []) s :=
  (fill_eq mode vs s).trans (Pattern.field.fill_divide (fun n => (resolve? mode vs n).getD []) s)

theorem replaceFields_value (c : Config) :
    (replaceFields c s vs).value =
      if missing c.matchMode vs s = [] then .ok (fill c.matchMode vs s)
      else .error (.missingFields (missing c.matchMode vs s)) := by
  rw [replaceFields]
  by_cases none : fields s = []
  · -- a template without markers is answered at once, with the text that filling it would give
    have cuts := Pattern.field.cuts_divide s
    have same : fill c.matchMode vs s = s := by
      calc
        fill c.matchMode vs s = (Pattern.field.divide s).text := by
          rw [fill_eq]
          apply Division.fill_congr
          intro m hm
          rw [cuts.markers, ← fields, none] at hm
          cases hm
        _ = s := cuts.text
    simp [none, missing, same, Logged.silent]
  · rw [if_neg (by simpa using none)]
    cases missing c.matchMode vs s with
    | nil => rfl
    | cons name names => rfl

variable {vs s} {c : Config}

theorem replaceFields_eq_ok_iff {t : Text} :
    (replaceFields c s vs).value = .ok t ↔
      missing c.matchMode vs s = [] ∧ fill c.matchMode vs s = t := by
  rw [replaceFields_value]
  by_cases all : missing c.matchMode vs s = [] <;> simp [all]

theorem replaceFields_eq_error_iff {f : Fault} :
    (replaceFields c s vs).value = .error f ↔
      missing c.matchMode vs s ≠ [] ∧ .missingFields (missing c.matchMode vs s) = f := by
  rw [replaceFields_value]
  by_cases all : missing c.matchMode vs s = [] <;> simp [all]

theorem missing_congr {mode mode' : MatchMode} {vs ws : Variables} {s : Text}
    (same : ∀ m ∈ fields s, Unmatched mode vs m ↔ Unmatched mode' ws m) :
    missing mode vs s = missing mode' ws s := by
  rw [missing_eq, missing_eq]
  congr 1
  apply List.filter_congr
  intro m hm
  exact decide_eq_decide.2 (same m hm)

theorem replaceFields_congr {c d : Config} {vs ws : Variables} {s : Text}
    (same : ∀ m ∈ fields s, resolve? c.matchMode vs m.name = resolve? d.matchMode ws m.name) :
    replaceFields c s vs = replaceFields d s ws := by
  have all : missing c.matchMode vs s = missing d.matchMode ws s := by
    apply missing_congr
    intro m hm
    rw [← resolve?_eq_none_iff, ← resolve?_eq_none_iff, same m hm]
  have text : fill c.matchMode vs s = fill d.matchMode ws s := by
    rw [fill_eq, fill_eq]
    apply Division.fill_congr
    intro m hm
    rw [(Pattern.field.cuts_divide s).markers] at hm
    rw [same m hm]
  rw [replaceFields, replaceFields, all, text]

/-- Whether these are the markers that an answer says are missing. A text says that none are. -/
def Lacks (markers : List Text) : Except Fault Text → Prop
  | .ok _ => markers = []
  | .error f => f = .missingFields markers

theorem lacks_replaceFields (c : Config) (vs : Variables) (s : Text) :
    Lacks (missing c.matchMode vs s) (replaceFields c s vs).value := by
  rw [replaceFields_value]
  by_cases all : missing c.matchMode vs s = [] <;> simp [all, Lacks]

end Outcome

structure Progress.Fits (s : Text) (p : Progress) (m : Marker) : Prop where
  gap : (Text.slice? p.cursor m.start s).isSome
  marker : Text.slice? m.start m.stop s = some m.text
  cursor_le : p.cursor ≤ m.start
  start_le : m.start ≤ m.stop
  stop_le : m.stop ≤ s.bytes

theorem Progress.Before.fits {s gap : Text} {m : Marker} {es : List (Text × Marker)} {rest : Text}
    {p : Progress} (h : p.Before s ⟨(gap, m) :: es, rest⟩) : p.Fits s m := by
  have front := h.slice?
  obtain ⟨r, text, cursor, placed⟩ := h
  have marker : Text.slice? m.start m.stop s = some m.text := by
    rw [text, Marker.stop, placed.1, cursor, Division.text, Division.fill_cons,
      ← List.append_assoc, ← Text.bytes_append]
    exact Text.slice?_middle (r ++ gap) m.text _
  exact ⟨by simp [front], marker, (Text.le_of_slice? front).1, (Text.le_of_slice? marker).1,
    (Text.le_of_slice? marker).2⟩

theorem fits_of_run {s : Text} {d : Division} {ms ns : List Marker} {m : Marker}
    (cuts : d.Cuts s (ms ++ m :: ns)) (value : Marker → Text) :
    ∃ p, Progress.run? s value .start ms = some p ∧ p.Fits s m := by
  have before := Progress.before_start cuts
  have markers := cuts.markers
  obtain ⟨es, rest⟩ := d
  obtain ⟨es, fs, rfl, rfl, tail⟩ := List.map_eq_append_iff.1 markers
  obtain ⟨⟨gap, m⟩, fs, rfl, rfl, rfl⟩ := List.map_eq_cons_iff.1 tail
  obtain ⟨p, run, -, here⟩ := before.run value
  exact ⟨p, run, here.fits⟩

theorem slice_of_run (s : Text) (value : Marker → Text) :
    ∃ p, Progress.run? s value .start (fields s) = some p ∧
      (Text.slice? p.cursor s.bytes s).isSome ∧ p.cursor ≤ s.bytes := by
  obtain ⟨p, run, finish⟩ := Option.bind_eq_some_iff.1 (rebuild?_eq s value)
  obtain ⟨gap, slice, -⟩ := Option.map_eq_some_iff.1 finish
  exact ⟨p, run, by simp [slice], (Text.le_of_slice? slice).1⟩

/-- The template is cut at its markers once, whatever the fields are, and whatever is written in their
place no slice of the loop is out of range. If every marker has a field, each gives way to the value
of the first one; otherwise the markers without one are the answer. -/
theorem replaceFields_eq_first_matches (s : Text) :
    (∀ value : Marker → Text,
      (∀ ms m ns, fields s = ms ++ m :: ns →
        ∃ p, Progress.run? s value .start ms = some p ∧ p.Fits s m) ∧
      ∃ p, Progress.run? s value .start (fields s) = some p ∧
        (Text.slice? p.cursor s.bytes s).isSome ∧ p.cursor ≤ s.bytes) ∧
    ∃ d : Division, d.Cuts s (fields s) ∧
      ∀ (c : Config) (vs : Variables),
        ((∀ m ∈ fields s, ∃ e ∈ vs.entries, Matches c.matchMode m e.1) →
          ∃ value : Marker → Text, (∀ m ∈ fields s, FirstMatch c.matchMode vs m (value m)) ∧
            (replaceFields c s vs).value = .ok (d.fill value)) ∧
        ((∃ m ∈ fields s, ∀ e ∈ vs.entries, ¬ Matches c.matchMode m e.1) →
          (replaceFields c s vs).value = .error (.missingFields
            (((fields s).filter fun m => ∀ e ∈ vs.entries, ¬ Matches c.matchMode m e.1).map
              Marker.text))) := by
  have cuts := Pattern.field.cuts_divide s
  refine ⟨fun value => ⟨?_, slice_of_run s value⟩, Pattern.field.divide s, cuts, ?_⟩
  · intro ms m ns split
    rw [← fields, split] at cuts
    exact fits_of_run cuts value
  intro c vs
  constructor
  · intro all
    have matched : ∀ m ∈ fields s, ¬ Unmatched c.matchMode vs m := by
      intro m hm unmatched
      obtain ⟨e, he, here⟩ := all m hm
      exact unmatched e he here
    refine ⟨fun m => (resolve? c.matchMode vs m.name).getD [], ?_, ?_⟩
    · intro m hm
      cases found : resolve? c.matchMode vs m.name with
      | none => exact absurd (resolve?_eq_none_iff.1 found) (matched m hm)
      | some v => simpa [found] using resolve?_eq_some_iff.1 found
    · exact replaceFields_eq_ok_iff.2 ⟨(missing_eq_nil_iff _ vs s).2 matched, fill_eq _ vs s⟩
  · rintro ⟨m, hm, unmatched⟩
    refine replaceFields_eq_error_iff.2 ⟨?_, congrArg Fault.missingFields (missing_eq _ vs s)⟩
    intro nothing
    exact (missing_eq_nil_iff _ vs s).1 nothing m hm unmatched

end Placeholder.Strict
