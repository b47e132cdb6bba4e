import Placeholder.Proofs.Diagnostic.Checks
import Placeholder.Proofs.Identifiers

/-! The message about denied warnings can be read back, if no variable has a semicolon in its name. The
semicolons divide it into the single messages, and these do not read alike: one about a variable ends
in another sign than one about a marker, and all of them leave the name as it is. -/

namespace Placeholder

namespace Text

theorem join_eq_intercalate (separator : Text) (parts : List Text) :
    join separator parts = separator.intercalate parts := by
  induction parts with
  | nil => rfl
  | cons part parts ih =>
    cases parts with
    | nil => simp [join]
    | cons next parts =>
      rw [join, ih, List.intercalate_cons_cons]
      exact List.cons_ne_nil next parts

theorem splitOn_join {c : Char} {separator : Text} (single : c ∉ separator) {part : Text}
    {parts : List Text} (free : ∀ p ∈ part :: parts, c ∉ p) :
    (join (c :: separator) (part :: parts)).splitOn c = part :: parts.map (separator ++ ·) := by
  have signs : join (c :: separator) (part :: parts) =
      join [c] (part :: parts.map (separator ++ ·)) := by
    rw [join_cons, join_cons, List.flatMap_map]
    rfl
  rw [signs, join_eq_intercalate]
  apply List.splitOn_intercalate
  · obtain ⟨first, later⟩ := List.forall_mem_cons.1 free
    refine List.forall_mem_cons.2 ⟨first, ?_⟩
    intro q hq
    obtain ⟨p, hp, rfl⟩ := List.mem_map.1 hq
    exact fun mem => (List.mem_append.1 mem).elim single (later p hp)
  · exact List.cons_ne_nil _ _

theorem join_injective {c : Char} {separator : Text} (single : c ∉ separator) {ps qs : List Text}
    (ne : ps ≠ []) (ne' : qs ≠ []) (free : ∀ p ∈ ps, c ∉ p) (free' : ∀ q ∈ qs, c ∉ q)
    (same : join (c :: separator) ps = join (c :: separator) qs) : ps = qs := by
  obtain ⟨p, ps, rfl⟩ := List.exists_cons_of_ne_nil ne
  obtain ⟨q, qs, rfl⟩ := List.exists_cons_of_ne_nil ne'
  have divided := congrArg (List.splitOn c) same
  rw [splitOn_join single free, splitOn_join single free', List.cons.injEq] at divided
  have parts : ps = qs := List.map_injective_iff.2 (List.append_right_injective separator) divided.2
  rw [divided.1, parts]

end Text

namespace Warning

theorem notFoundMessage_injective : Function.Injective notFoundMessage := fun _ _ same =>
  List.append_cancel_left (List.append_cancel_right same)

theorem getLast?_notFoundMessage (n : Text) : (notFoundMessage n).getLast? = some 'e' :=
  (List.getLast?_append_of_ne_nil _ (by decide)).trans (by decide)

theorem getLast?_notReplacedMessage (n : Text) : (notReplacedMessage n).getLast? = some 'd' :=
  (List.getLast?_append_of_ne_nil _ (by decide)).trans (by decide)

theorem notFoundMessage_ne_notReplacedMessage (m n : Text) :
    notFoundMessage m ≠ notReplacedMessage n := by
  intro same
  have last : some 'e' = some 'd' := by
    rw [← getLast?_notFoundMessage m, same, getLast?_notReplacedMessage]
  cases last

theorem semicolon_not_mem_notFoundMessage {n : Text} (free : ';' ∉ n) :
    ';' ∉ notFoundMessage n :=
  List.not_mem_append (List.not_mem_append (by decide) free) (by decide)

theorem semicolon_not_mem_notReplacedMessage {n : Text} (free : ';' ∉ n) :
    ';' ∉ notReplacedMessage n :=
  List.not_mem_append (List.not_mem_append (by decide) free) (by decide)

end Warning

inductive Finding : Type
  | notFound : Text → Finding
  | notReplaced : Text → Finding
  deriving DecidableEq

namespace Finding

def name : Finding → Text
  | .notFound n => n
  | .notReplaced n => n

def warning : Finding → Warning
  | .notFound n => .notFound n
  | .notReplaced n => .notReplaced n

def message (f : Finding) : Text := f.warning.message

theorem message_injective : Function.Injective message := by
  intro f g same
  cases f with
  | notFound m =>
    cases g with
    | notFound n => exact congrArg notFound (Warning.notFoundMessage_injective same)
    | notReplaced n => exact absurd same (Warning.notFoundMessage_ne_notReplacedMessage m n)
  | notReplaced m =>
    cases g with
    | notFound n => exact absurd same.symm (Warning.notFoundMessage_ne_notReplacedMessage n m)
    | notReplaced n => exact congrArg notReplaced (Warning.notReplacedMessage_injective same)

theorem warning_injective : Function.Injective warning := fun _ _ same =>
  message_injective (congrArg Warning.message same)

theorem semicolon_not_mem_message {f : Finding} (free : ';' ∉ f.name) : ';' ∉ f.message := by
  cases f with
  | notFound n => exact Warning.semicolon_not_mem_notFoundMessage free
  | notReplaced n => exact Warning.semicolon_not_mem_notReplacedMessage free

end Finding

namespace Diagnostic

def findings (check : NotFoundCheck) (s : Text) (vs : Variables) : List Finding :=
  ((turns vs.entries s).filter (Turn.notFound check)).map (fun t => .notFound t.name) ++
    (identifiers (renderText s vs)).map fun m => .notReplaced m.name

theorem map_warning_findings (c : Config) (s : Text) (vs : Variables) :
    (substitute c (some s) (some vs)).value.warnings =
      (findings c.notFoundCheck s vs).map Finding.warning := by
  rw [warnings_substitute, Turn.filterMap_warning?, findings, List.map_append, List.map_map,
    List.map_map]
  rfl

theorem name_of_mem_findings {check : NotFoundCheck} {s : Text} {vs : Variables} {f : Finding}
    (hf : f ∈ findings check s vs) : f.name ∈ vs.names ∨ IsIdentifier f.name := by
  rcases List.mem_append.1 hf with early | late
  · obtain ⟨t, ht, rfl⟩ := List.mem_map.1 early
    left
    rw [Variables.names, ← map_name_turns vs.entries s]
    exact List.mem_map_of_mem (List.mem_filter.1 ht).1
  · obtain ⟨m, hm, rfl⟩ := List.mem_map.1 late
    obtain ⟨-, -, -, identifier, -⟩ := mem_identifiers_iff.1 hm
    exact .inr identifier

theorem semicolon_not_mem_findings {vs : Variables} (names : ∀ n ∈ vs.names, ';' ∉ n)
    (check : NotFoundCheck) (s : Text) :
    ∀ m ∈ (findings check s vs).map Finding.message, ';' ∉ m := by
  intro m hm
  obtain ⟨f, hf, rfl⟩ := List.mem_map.1 hm
  apply Finding.semicolon_not_mem_message
  rcases name_of_mem_findings hf with known | identifier
  · exact names f.name known
  · exact identifier.not_mem (by decide)

end Diagnostic

theorem Renderer.diagnostic_eq_error_iff {c : Config} {s : Text} {vs : Variables} {f : Fault} :
    ((diagnostic c).render s vs).value = .error f ↔
      c.denyWarnings = true ∧ Diagnostic.findings c.notFoundCheck s vs ≠ [] ∧
        .warnings ((Diagnostic.findings c.notFoundCheck s vs).map Finding.message) = f := by
  have messages : (substitute c (some s) (some vs)).value.messages =
      (Diagnostic.findings c.notFoundCheck s vs).map Finding.message := by
    rw [Parsed.messages, Diagnostic.map_warning_findings, List.map_map]
    rfl
  rw [render_diagnostic, conclude_eq_error_iff, messages, Diagnostic.map_warning_findings, Ne,
    List.map_eq_nil_iff]

theorem Fault.warnings_injective {ps qs : List Text} (ne : ps ≠ []) (ne' : qs ≠ [])
    (free : ∀ p ∈ ps, ';' ∉ p) (free' : ∀ q ∈ qs, ';' ∉ q)
    (same : (Fault.warnings ps).message? = (Fault.warnings qs).message?) : ps = qs := by
  have joined := List.append_cancel_left (Option.some.inj same)
  exact Text.join_injective (by decide) ne ne' free free' joined

/-- Two renderings that fail, which they do for denied warnings only, with one message have the same
warnings, about the same names and in the same order. -/
theorem warnings_determined_by_message (c d : Config) (s t : Text) (vs ws : Variables)
    (names : ∀ n ∈ vs.names, ';' ∉ n) (names' : ∀ n ∈ ws.names, ';' ∉ n) {f g : Fault}
    (failed : ((Renderer.diagnostic c).render s vs).value = .error f)
    (failed' : ((Renderer.diagnostic d).render t ws).value = .error g)
    (same : f.message? = g.message?) :
    let p := (substitute c (some s) (some vs)).value
    let q := (substitute d (some t) (some ws)).value
    p.warnings = q.warnings ∧ ∃! fs : List Finding, p.warnings = fs.map Finding.warning := by
  intro p q
  obtain ⟨-, ne, rfl⟩ := Renderer.diagnostic_eq_error_iff.1 failed
  obtain ⟨-, ne', rfl⟩ := Renderer.diagnostic_eq_error_iff.1 failed'
  have messages := Fault.warnings_injective (by simpa using ne) (by simpa using ne')
    (Diagnostic.semicolon_not_mem_findings names _ s)
    (Diagnostic.semicolon_not_mem_findings names' _ t) same
  have findings : Diagnostic.findings c.notFoundCheck s vs =
      Diagnostic.findings d.notFoundCheck t ws :=
    List.map_injective_iff.2 Finding.message_injective messages
  have told : p.warnings = (Diagnostic.findings c.notFoundCheck s vs).map Finding.warning :=
    Diagnostic.map_warning_findings c s vs
  have told' : q.warnings = (Diagnostic.findings d.notFoundCheck t ws).map Finding.warning :=
    Diagnostic.map_warning_findings d t ws
  refine ⟨by rw [told, told', findings], _, told, ?_⟩
  intro fs other
  exact List.map_injective_iff.2 Finding.warning_injective (other.symm.trans told)

theorem warnings_determined_by_message_with_words_of_another :
    let c : Config := { notFoundCheck := .markerOccurrence, denyWarnings := true }
    let d : Config := { denyWarnings := true }
    let a : Text := "a was no replaced".toList
    let s : Text := wrap ['b']
    let t : Text := wrap ['c'] ++ wrap ['b']
    let vs : Variables := .ofList [(a, ['1'])]
    let ws : Variables := .ofList [(['c'], []), (a, ['2'])]
    let p := (substitute c (some s) (some vs)).value
    let q := (substitute d (some t) (some ws)).value
    let f : Fault := .warnings p.messages
    (∀ n ∈ vs.names, ';' ∉ n) ∧ (∀ n ∈ ws.names, ';' ∉ n) ∧
      ((Renderer.diagnostic c).render s vs).value = .error f ∧
      ((Renderer.diagnostic d).render t ws).value = .error f ∧
      p.warnings = [.notFound a, .notReplaced ['b']] ∧ p.warnings = q.warnings ∧
      ∃! fs : List Finding, p.warnings = fs.map Finding.warning := by
  intro c d a s t vs ws p q f
  have names : ∀ n ∈ vs.names, ';' ∉ n := by decide +kernel
  have names' : ∀ n ∈ ws.names, ';' ∉ n := by decide +kernel
  have failed : ((Renderer.diagnostic c).render s vs).value = .error f :=
    Renderer.conclude_eq_error_iff.2 ⟨rfl, by decide +kernel, rfl⟩
  have messages : q.messages = p.messages := by decide +kernel
  have failed' : ((Renderer.diagnostic d).render t ws).value = .error f :=
    Renderer.conclude_eq_error_iff.2 ⟨rfl, by decide +kernel, congrArg _ messages⟩
  obtain ⟨same, findings⟩ :=
    warnings_determined_by_message c d s t vs ws names names' failed failed' rfl
  exact ⟨names, names', failed, failed', by decide +kernel, same, findings⟩

end Placeholder
