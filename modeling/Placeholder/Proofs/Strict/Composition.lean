import Placeholder.Proofs.Seam
import Placeholder.Proofs.Strict.Resolution

namespace Placeholder.Strict

variable {u v : Text}

theorem fields_append (seam : Pattern.field.Seam u v) :
    fields (u ++ v) = fields u ++ (fields v).map (Marker.shift u.bytes) :=
  Pattern.scan_append (fun _ _ => Pattern.field_eq_some_iff_isField) seam

theorem missing_append (seam : Pattern.field.Seam u v) (mode : MatchMode) (vs : Variables) :
    missing mode vs (u ++ v) = missing mode vs u ++ missing mode vs v := by
  simp only [missing, fields_append seam, List.filter_append, List.map_append, List.filter_map,
    List.map_map]
  rfl

theorem fill_append (seam : Pattern.field.Seam u v) (mode : MatchMode) (vs : Variables) :
    fill mode vs (u ++ v) = fill mode vs u ++ fill mode vs v := by
  have cut := Pattern.cut_append (fun _ _ => Pattern.field_eq_some_iff_isField) seam
  simp only [fill_eq_field_fill, Pattern.fill, cut, List.flatMap_append]

/-- No field lies over the end of a template that ends with a closing delimiter, whatever follows.
Where none does, the fields of both templates are those of the one and then those of the other; if
both give a text, so do they together, and otherwise the markers that are missing are those of the one
and then those of the other. -/
theorem replaceFields_append (u v : Text) :
    (u.getLast? = some '}' → Pattern.field.Seam u v) ∧
      (Pattern.field.Seam u v →
        fields (u ++ v) = fields u ++ (fields v).map (Marker.shift u.bytes) ∧
          ∀ (c : Config) (vs : Variables),
            let answer := fun s => (replaceFields c s vs).value
            (∀ a b, answer u = .ok a → answer v = .ok b → answer (u ++ v) = .ok (a ++ b)) ∧
              ∀ f, answer u = .error f ∨ answer v = .error f →
                ∃ k l, Lacks k (answer u) ∧ Lacks l (answer v) ∧
                  answer (u ++ v) = .error (.missingFields (k ++ l))) := by
  constructor
  · intro last
    exact Pattern.seam_of_getLast? (fun _ _ => Pattern.field_eq_some_iff_isField)
      (fun _ name => name.2) last v
  intro seam
  refine ⟨fields_append seam, ?_⟩
  intro c vs answer
  constructor
  · intro a b first second
    obtain ⟨all, rfl⟩ := replaceFields_eq_ok_iff.1 first
    obtain ⟨all', rfl⟩ := replaceFields_eq_ok_iff.1 second
    refine replaceFields_eq_ok_iff.2 ⟨?_, fill_append seam c.matchMode vs⟩
    rw [missing_append seam, all, all', List.append_nil]
  · intro f failed
    refine ⟨_, _, lacks_replaceFields c vs u, lacks_replaceFields c vs v, ?_⟩
    rw [← missing_append seam]
    refine replaceFields_eq_error_iff.2 ⟨?_, rfl⟩
    rw [missing_append seam, Ne, List.append_eq_nil_iff, not_and_or]
    exact failed.imp (fun first => (replaceFields_eq_error_iff.1 first).1)
      fun second => (replaceFields_eq_error_iff.1 second).1

theorem replaceFields_append_between_unclosed :
    let u : Text := wrap ['a'] ++ ['$', '{', '}', '$']
    let v : Text := ' ' :: wrap ['b'] ++ ['$', '{']
    let vs : Variables := .ofList [(['b'], ['2']), (['a'], ['1'])]
    let ws : Variables := .ofList [(['b'], ['2'])]
    Pattern.field.Seam u v ∧ fields (u ++ v) = [⟨['a'], 0⟩, ⟨['b'], 9⟩] ∧
      (replaceFields .default (u ++ v) vs).value = .ok ['1', '$', '{', '}', '$', ' ', '2', '$', '{'] ∧
      (replaceFields .default (u ++ v) ws).value = .error (.missingFields [wrap ['a']]) := by
  intro u v vs ws
  have seam : Pattern.field.Seam u v := by decide +kernel
  obtain ⟨apart, answers⟩ := (replaceFields_append u v).2 seam
  have first : (replaceFields .default u vs).value = .ok ['1', '$', '{', '}', '$'] :=
    replaceFields_eq_ok_iff.2 (by decide +kernel)
  have second : (replaceFields .default v vs).value = .ok [' ', '2', '$', '{'] :=
    replaceFields_eq_ok_iff.2 (by decide +kernel)
  have second' : (replaceFields .default v ws).value = .ok [' ', '2', '$', '{'] :=
    replaceFields_eq_ok_iff.2 (by decide +kernel)
  have unknown : missing Config.default.matchMode ws u = [wrap ['a']] := by decide +kernel
  have failed : (replaceFields .default u ws).value = .error (.missingFields [wrap ['a']]) :=
    replaceFields_eq_error_iff.2 ⟨by simp [unknown], congrArg _ unknown⟩
  obtain ⟨k, l, lacks, lacks', whole⟩ := (answers .default ws).2 _ (.inl failed)
  simp only [failed, Lacks, Fault.missingFields.injEq] at lacks
  simp only [second', Lacks] at lacks'
  subst lacks lacks'
  refine ⟨seam, ?_, (answers .default vs).1 _ _ first second, whole⟩
  rw [apart]
  decide +kernel

end Placeholder.Strict
