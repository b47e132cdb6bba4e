import Placeholder.Proofs.Json.Line
import Placeholder.Proofs.Yaml.Pairs

namespace Placeholder.Source

theorem readVariables_json_line {es : List (Text × Text)}
    (printable : ∀ e ∈ es, Line.Printable e.1 ∧ Line.Printable e.2) :
    (Source.mk .json (Line.document es)).readVariables = .ok (.ofList es) := by
  have read := Json.readVariables_eq_ok_iff.2 ⟨es, Json.document_line printable, rfl⟩
  simp [readVariables, read, Except.mapError]

theorem readVariables_yaml_line {es : List (Text × Text)}
    (printable : ∀ e ∈ es, Line.Printable e.1 ∧ Line.Printable e.2)
    (short : ∀ e ∈ es, e.1.length ≤ 500) :
    (Source.mk .yaml (Line.document es)).readVariables = .ok (.ofList es) := by
  have read := Yaml.readVariables_document printable short
  simp [readVariables, read, Except.mapError]

/-- Entries that are written on one line are read as they are in either format, if their texts are
printable and their names are not too long to be keys. They are put in one after the other: a name
has the place of its first entry and the value of its last. -/
theorem readVariables_line_eq_ok (es : List (Text × Text))
    (printable : ∀ e ∈ es, Line.Printable e.1 ∧ Line.Printable e.2)
    (short : ∀ e ∈ es, e.1.length ≤ 500) :
    ∃ vs : Variables, (∀ format, (Source.mk format (Line.document es)).readVariables = .ok vs) ∧
      vs = .ofList es ∧ vs.names = (es.map Prod.fst).eraseDups ∧
        ∀ name, vs.get? name = es.reverse.lookup name := by
  refine ⟨.ofList es, ?_, rfl, Variables.names_ofList es, Variables.get?_ofList es⟩
  intro format
  cases format with
  | json => exact readVariables_json_line printable
  | yaml => exact readVariables_yaml_line printable short

theorem readVariables_line_eq_ok_of_indicators :
    let es : List (Text × Text) :=
      [(['~'], ['"', '\\']), (['<', '<'], [':', ' ', '#']), (['~'], ['-', ' ', '}'])]
    let content : Text :=
      "\x7b\"~\":\"\\\"\\\\\",\"<<\":\": #\",\"~\":\"- \x7d\"\x7d".toList
    let vs : Variables := .ofList es
    (∀ e ∈ es, Line.Printable e.1 ∧ Line.Printable e.2) ∧ (∀ e ∈ es, e.1.length ≤ 500) ∧
      Line.document es = content ∧
      (Source.mk .json content).readVariables = .ok vs ∧
      (Source.mk .yaml content).readVariables = .ok vs ∧
      vs.entries = [(['~'], ['-', ' ', '}']), (['<', '<'], [':', ' ', '#'])] := by
  intro es content vs
  have printable : ∀ e ∈ es, Line.Printable e.1 ∧ Line.Printable e.2 := by decide
  have short : ∀ e ∈ es, e.1.length ≤ 500 := by decide
  have written : Line.document es = content := by decide +kernel
  obtain ⟨_, read, rfl, -, -⟩ := readVariables_line_eq_ok es printable short
  rw [written] at read
  exact ⟨printable, short, written, read .json, read .yaml, by decide⟩

end Placeholder.Source
