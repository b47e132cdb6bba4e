import Placeholder.Proofs.Json.Choice
import Placeholder.Proofs.Variables
import Placeholder.Source

namespace Placeholder.Json

def members (es : List (Text × Text)) : List (Text × Value) := es.map fun e => (e.1, .string e.2)

/-- A document with one object, whose members are the entries, strings all of them. -/
def Document (content : Text) (es : List (Text × Text)) : Prop :=
  Holds content (.object (members es))

section Member

variable {s t v r value : Text} {x : Value}

theorem textMember_eq_ok_iff (found : colon s = .ok (v ++ r)) (h : Element Written v x) :
    textMember s = .ok (value, t) ↔ x = .string value ∧ t = r := by
  rw [textMember, found]
  exact textValue_eq_ok_iff h

theorem exists_element_of_textMember (h : textMember s = .ok (value, r)) :
    ∃ v, Element Written v (.string value) ∧ colon s = .ok (v ++ r) := by
  rw [textMember] at h
  split at h
  case h_1 => cases h
  case h_2 t found =>
    obtain ⟨v, element, rfl⟩ := exists_element_of_textValue h
    exact ⟨v, element, found⟩

end Member

section Members

variable {first : Bool} {vs vs' : Variables} {s r t u : Text} {es : List (Text × Text)}

theorem textMembers_of_done (h : next first s = .ok (.done r)) (vs : Variables) :
    textMembers first vs s = .ok (vs, r) := by
  rw [textMembers]
  split <;> simp_all

theorem textMembers_of_key {name value : Text} (h : next first s = .ok (.key name t))
    (h' : textMember t = .ok (value, r)) (vs : Variables) :
    textMembers first vs s = textMembers false (vs.insert name value).2 r := by
  rw [textMembers]
  split
  case h_1 failed => simp [h] at failed
  case h_2 found => simp [h] at found
  case h_3 found =>
    rw [h] at found
    cases found
    split <;> simp_all

theorem textMembers_of_series (h : Series (Entry Written) first u (members es)) (vs : Variables)
    (t : Text) : textMembers first vs (u ++ '}' :: t) = .ok (vs.insertAll es, '}' :: t) := by
  induction es generalizing first vs u with
  | nil => exact textMembers_of_done h.next_nil vs
  | cons e es ih =>
    obtain ⟨v, u', s, element, rest, key, value⟩ := h.next_cons ('}' :: t)
    have member := (textMember_eq_ok_iff value element).2 ⟨rfl, rfl⟩
    rw [textMembers_of_key key member, ih rest]
    rfl

theorem exists_series_of_textMembers (h : textMembers first vs s = .ok (vs', r)) :
    ∃ u es t, Series (Entry Written) first u (members es) ∧ s = u ++ '}' :: t ∧ r = '}' :: t ∧
      vs' = vs.insertAll es := by
  fun_induction textMembers first vs s with
  | case1 => cases h
  | case2 first vs s r' found =>
    cases h
    obtain ⟨u, t, series, split, rest⟩ := exists_series_of_done found
    exact ⟨u, [], t, series, split, rest, rfl⟩
  | case3 => cases h
  | case4 first vs s name s' found value r' member ih =>
    obtain ⟨v, element, behind⟩ := exists_element_of_textMember member
    obtain ⟨u, es, t, series, rfl, rest, rfl⟩ := ih h
    obtain ⟨u', series', rfl⟩ := exists_series_of_key found behind element series
    exact ⟨u', (name, value) :: es, t, series', rfl, rest, rfl⟩

end Members

section Whole

variable {content r : Text} {vs : Variables} {es : List (Text × Text)}

theorem variablesValue_of_brace (h : skip content = '{' :: r) :
    variablesValue content =
      textMembers true .empty r >>= fun (vs, r) => finish vs (afterBrace r) := by
  rw [variablesValue, h]
  rfl

theorem variablesValue_of_document (h : Document content es) :
    variablesValue content = .ok (.ofList es) := by
  obtain @⟨u, w, x, item, blank⟩ := h
  obtain ⟨v, written, rest⟩ := item.skip_append
  have rest := rest w
  cases written with
  | @object u' ms series =>
    rw [List.cons_append, List.append_assoc] at rest
    simp only [variablesValue_of_brace rest, bind_eq_ok_iff, Prod.exists]
    refine ⟨_, _, textMembers_of_series series .empty w, ?_⟩
    rw [afterBrace_brace]
    exact finish_eq_ok_iff.2 ⟨blank, rfl⟩

theorem document_of_variablesValue (h : variablesValue content = .ok vs) :
    ∃ es, Document content es ∧ vs = .ofList es := by
  cases rest : skip content with
  | nil =>
    rw [variablesValue, rest] at h
    cases h
  | cons c s =>
    by_cases brace : c = '{'
    · subst brace
      rw [variablesValue_of_brace rest] at h
      simp only [bind_eq_ok_iff, Prod.exists] at h
      obtain ⟨vs', _, read, ends⟩ := h
      obtain ⟨u, es, t, series, rfl, rfl, rfl⟩ := exists_series_of_textMembers read
      rw [afterBrace_brace] at ends
      obtain ⟨blank, rfl⟩ := finish_eq_ok_iff.1 ends
      obtain ⟨v, item, rfl⟩ := exists_element_of_object rest series
      exact ⟨es, .mk item blank, rfl⟩
    · simp [variablesValue, rest, brace] at h

end Whole

theorem readVariables_eq_ok_iff {content : Text} {vs : Variables} :
    readVariables content = .ok vs ↔ ∃ es, Document content es ∧ vs = .ofList es := by
  have whole : readVariables content = .ok vs ↔ variablesValue content = .ok vs := by
    rw [readVariables]
    cases variablesValue content <;> simp [Except.mapError]
  rw [whole]
  constructor
  · exact document_of_variablesValue
  · rintro ⟨es, document, rfl⟩
    exact variablesValue_of_document document

end Placeholder.Json

namespace Placeholder.Source

/-- Reading variables from JSON accepts the documents of the grammar. What it answers is decided by
their decoded members, inserted one after the other: a name has the place of its first member and
the value of its last. All else is refused as no such document. -/
theorem readVariables_json_eq_ok_iff_document (content : Text) :
    (∀ vs : Variables, (Source.mk .json content).readVariables = .ok vs ↔
      ∃ es, Json.Document content es ∧ vs = .ofList es ∧
        vs.names = (es.map Prod.fst).eraseDups ∧
          ∀ name, vs.get? name = es.reverse.lookup name) ∧
      ((∃ f, (Source.mk .json content).readVariables = .error (.json f)) ↔
        ¬ ∃ es, Json.Document content es) := by
  have ok : ∀ vs, (Source.mk .json content).readVariables = .ok vs ↔
      ∃ es, Json.Document content es ∧ vs = .ofList es := by
    intro vs
    rw [← Json.readVariables_eq_ok_iff, readVariables]
    cases Json.readVariables content <;> simp [Except.mapError]
  constructor
  · intro vs
    rw [ok]
    constructor
    · rintro ⟨es, document, rfl⟩
      exact ⟨es, document, rfl, Variables.names_ofList es, Variables.get?_ofList es⟩
    · rintro ⟨es, document, same, -⟩
      exact ⟨es, document, same⟩
  · constructor
    · rintro ⟨f, refused⟩ ⟨es, document⟩
      have accepted := (ok _).2 ⟨es, document, rfl⟩
      rw [refused] at accepted
      cases accepted
    · intro none
      cases outcome : Json.readVariables content with
      | error f => exact ⟨f, by simp [readVariables, outcome, Except.mapError]⟩
      | ok vs =>
        obtain ⟨es, document, -⟩ := Json.readVariables_eq_ok_iff.1 outcome
        exact absurd ⟨es, document⟩ none

example :
    let content : Text := " \x7b\"a\" :\"\\u0041\",\"\": \"\\uD83d\\uDe00\" ,\"\\u0061\":\"\\/\"\x7d\n".toList
    (Source.mk .json content).readVariables.toOption.map Variables.entries =
      some [(['a'], ['/']), ([], ['😀'])] := by
  decide +kernel

end Placeholder.Source
