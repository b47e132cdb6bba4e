import Placeholder.Proofs.Nesting
import Placeholder.Proofs.Strict.Resolution
import Placeholder.Proofs.Variables

namespace Placeholder

namespace Pattern

variable {p : Pattern} {name : Text}

theorem scan_wrap (found : p.nameAt (wrap name) = some name) : p.scan (wrap name) = [⟨name, 0⟩] := by
  rw [← List.append_nil (wrap name)] at found ⊢
  rw [scan_wrap_append found]
  simp [scan, Marker.locate]

theorem scan_wrap_eq_iff {names : Text → Prop}
    (grammar : ∀ s n, p.nameAt s = some n ↔ names n ∧ wrap n <+: s) :
    (p.scan (wrap name)).map Marker.occurrence = [⟨wrap name, name, 0, (wrap name).bytes⟩] ↔
      names name := by
  constructor
  · intro whole
    have leftmost := leftmost_scan grammar (wrap name)
    rw [whole] at leftmost
    exact (leftmost.stands _ (List.mem_singleton_self _)).name
  · intro known
    rw [scan_wrap ((grammar _ _).2 ⟨known, List.prefix_refl _⟩)]
    simp [Marker.occurrence, Marker.text, Marker.stop]

end Pattern

namespace Strict

variable {c : Config} {vs ws : Variables}

theorem replaceFields_wrap (exact : c.matchMode = .exact) {name value : Text} (field : IsField name)
    (known : vs.get? name = some value) :
    (replaceFields c (wrap name) vs).value = .ok value := by
  have found : Pattern.field.nameAt (wrap name) = some name :=
    Pattern.field_eq_some_iff_isField.2 ⟨field, List.prefix_refl _⟩
  have resolved : resolve? .exact vs name = some value := (resolve?_exact vs name).trans known
  rw [replaceFields_eq_ok_iff, exact]
  constructor
  · simp [missing, fields, Pattern.scan_wrap found, resolved]
  · rw [fill_eq_field_fill, ← List.append_nil (wrap name), Pattern.fill_wrap_append (by simpa using found),
      resolved]
    simp

theorem replaceFields_of_get? (exact : c.matchMode = .exact)
    (same : ∀ name, IsField name → vs.get? name = ws.get? name) (s : Text) :
    replaceFields c s vs = replaceFields c s ws := by
  apply replaceFields_congr
  intro m hm
  rw [exact, resolve?_exact, resolve?_exact]
  exact same m.name (stands_of_mem_fields hm).name

/-- The marker of a name is one field over the whole of it if the name is not empty and has no closing
delimiter, and one identifier if the name is letters and digits. A field of the first kind gives its
own marker its value. One of any other name changes no answer, neither by being there nor by its
value. -/
theorem addressable_iff_isField (c : Config) (exact : c.matchMode = .exact) (name : Text) :
    let whole : Occurrence := ⟨wrap name, name, 0, (wrap name).bytes⟩
    ((fields (wrap name)).map Marker.occurrence = [whole] ↔ IsField name) ∧
      ((identifiers (wrap name)).map Marker.occurrence = [whole] ↔ IsIdentifier name) ∧
      (IsField name → ∀ (vs : Variables) (value : Text), vs.get? name = some value →
        (replaceFields c (wrap name) vs).value = .ok value) ∧
      (¬ IsField name → ∀ (s : Text) (vs : Variables),
        replaceFields c s (vs.without name) = replaceFields c s vs ∧
          ∀ value, replaceFields c s (vs.insert name value).2 = replaceFields c s vs) := by
  intro whole
  refine ⟨Pattern.scan_wrap_eq_iff fun _ _ => Pattern.field_eq_some_iff_isField,
    Pattern.scan_wrap_eq_iff fun _ _ => Pattern.identifier_eq_some_iff, ?_, ?_⟩
  · intro field vs value known
    exact replaceFields_wrap exact field known
  · intro dead s vs
    have other : ∀ n, IsField n → n ≠ name := fun n field same => dead (same ▸ field)
    constructor
    · apply replaceFields_of_get? exact
      intro n field
      exact Variables.get?_without_of_ne (other n field)
    · intro value
      apply replaceFields_of_get? exact
      intro n field
      rw [Variables.get?_insert, if_neg (other n field)]

theorem addressable_iff_isField_beside_dead_name :
    let name : Text := ['$', '{', ' ']
    let dead : Text := ['a', '}', '$', '{', 'b']
    let vs : Variables := .ofList [(dead, ['1']), (name, ['2']), (['b'], ['3']), (['a'], ['4'])]
    IsField name ∧ ¬ IsField dead ∧
      (fields (wrap name)).map Marker.occurrence = [⟨wrap name, name, 0, 6⟩] ∧
      (replaceFields .default (wrap name) vs).value = .ok ['2'] ∧
      (replaceFields .default (wrap dead) vs).value = .ok ['4', '3'] ∧
      (replaceFields .default (wrap dead) (vs.without dead)).value = .ok ['4', '3'] ∧
      (replaceFields .default (wrap []) ((vs.insert [] ['5']).2)).value = .ok (wrap []) := by
  intro name dead vs
  have field : IsField name := by decide
  have closed : ¬ IsField dead := by decide
  have empty : ¬ IsField [] := by decide
  obtain ⟨read, -, filled, -⟩ := addressable_iff_isField .default rfl name
  obtain ⟨-, -, -, unread⟩ := addressable_iff_isField .default rfl dead
  obtain ⟨-, -, -, unread'⟩ := addressable_iff_isField .default rfl []
  have two : (replaceFields .default (wrap dead) vs).value = .ok ['4', '3'] :=
    replaceFields_eq_ok_iff.2 (by decide +kernel)
  have none : (replaceFields .default (wrap []) vs).value = .ok (wrap []) :=
    replaceFields_eq_ok_iff.2 (by decide +kernel)
  refine ⟨field, closed, read.2 field, filled field vs ['2'] (by decide), two, ?_, ?_⟩
  · rw [(unread closed (wrap dead) vs).1, two]
  · rw [(unread' empty (wrap []) vs).2, none]

end Strict
end Placeholder
