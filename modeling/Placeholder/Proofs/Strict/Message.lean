import Placeholder.Proofs.Nesting
import Placeholder.Proofs.Strict.Resolution

/-! The message about missing markers can be read back, although nothing in it is escaped. The grammar
of the template finds the markers in the message as well: only they open anything there, and each of
them is closed by the only closing delimiter that it has. -/

namespace Placeholder.Strict

def written (s : Text) : List Text := (fields s).map Marker.text

theorem written_eq (s : Text) :
    written s = ((Pattern.field.cut s).filter Piece.isMarker).map Piece.text :=
  Marker.map_text_locate 0 _

@[simp] theorem written_nil : written [] = [] := by
  simp [written_eq]

theorem written_append {u : Text} (dollar : '$' ∉ u) (s : Text) :
    written (u ++ s) = written s := by
  have plain : (u.map Piece.plain).filter Piece.isMarker = [] := by
    simp [List.filter_eq_nil_iff, Piece.isMarker]
  rw [written_eq, written_eq, Pattern.cut_append_of_quiet _ (quiet_of_dollar_not_mem dollar s),
    List.filter_append, plain, List.nil_append]

theorem written_wrap_append {n : Text} (field : IsField n) (s : Text) :
    written (wrap n ++ s) = wrap n :: written s := by
  rw [written_eq, written_eq, Pattern.cut_field field.1 field.2]
  rfl

theorem written_quote_append {n : Text} (field : IsField n) (s : Text) :
    written (Fault.quote (wrap n) ++ s) = wrap n :: written s := by
  have split : Fault.quote (wrap n) ++ s = ['\''] ++ (wrap n ++ (['\''] ++ s)) := by
    simp [Fault.quote]
  rw [split, written_append (by decide), written_wrap_append field, written_append (by decide)]

section Join

variable {names : List Text} (field : ∀ n ∈ names, IsField n) (s : Text)

include field

theorem written_flatMap_append :
    written (((names.map wrap).map Fault.quote).flatMap (", ".toList ++ ·) ++ s) =
      names.map wrap ++ written s := by
  induction names with
  | nil => rfl
  | cons n ns ih =>
    obtain ⟨first, later⟩ := List.forall_mem_cons.1 field
    simp only [List.map_cons, List.flatMap_cons, List.append_assoc]
    rw [written_append (by decide), written_quote_append first, ih later, List.cons_append]

theorem written_join_append :
    written (Text.join ", ".toList ((names.map wrap).map Fault.quote) ++ s) =
      names.map wrap ++ written s := by
  cases names with
  | nil => rfl
  | cons n ns =>
    obtain ⟨first, later⟩ := List.forall_mem_cons.1 field
    simp only [List.map_cons, Text.join_cons, List.append_assoc]
    rw [written_quote_append first, written_flatMap_append later, List.cons_append]

theorem written_message {message : Text}
    (said : (Fault.missingFields (names.map wrap)).message? = some message) :
    written message = names.map wrap := by
  have close : written "]".toList = [] := by
    rw [← List.append_nil "]".toList, written_append (by decide), written_nil]
  rw [Fault.message?, Option.some.injEq] at said
  rw [← said, List.append_assoc, written_append (by decide), written_join_append field, close,
    List.append_nil]

end Join

theorem exists_names_missing (mode : MatchMode) (vs : Variables) (s : Text) :
    ∃ names : List Text, (∀ n ∈ names, IsField n) ∧ missing mode vs s = names.map wrap := by
  refine ⟨((fields s).filter fun m => Unmatched mode vs m).map Marker.name, ?_, ?_⟩
  · intro n hn
    obtain ⟨m, hm, rfl⟩ := List.mem_map.1 hn
    exact (stands_of_mem_fields (List.mem_filter.1 hm).1).name
  · rw [missing_eq, List.map_map]
    rfl

theorem written_message_of_error {c : Config} {s : Text} {vs : Variables} {f : Fault}
    (failed : (replaceFields c s vs).value = .error f) :
    ∃ message, f.message? = some message ∧ f = .missingFields (written message) := by
  obtain ⟨-, rfl⟩ := replaceFields_eq_error_iff.1 failed
  obtain ⟨names, field, eq⟩ := exists_names_missing c.matchMode vs s
  rw [eq]
  exact ⟨_, rfl, congrArg Fault.missingFields (written_message field rfl).symm⟩

/-- Two templates that fail with one message fail for the same markers, in the same order, whatever
stands in their names: they are the fields of the message. -/
theorem missing_determined_by_message (c d : Config) (s t : Text) (vs ws : Variables) {f g : Fault}
    (failed : (replaceFields c s vs).value = .error f)
    (failed' : (replaceFields d t ws).value = .error g) (same : f.message? = g.message?) :
    ∃ ms message, f = .missingFields ms ∧ g = .missingFields ms ∧ f.message? = some message ∧
      (fields message).map Marker.text = ms := by
  obtain ⟨message, said, missing⟩ := written_message_of_error failed
  obtain ⟨message', said', missing'⟩ := written_message_of_error failed'
  obtain rfl : message = message' := Option.some.inj (said.symm.trans (same.trans said'))
  exact ⟨written message, message, missing, missing', said, rfl⟩

theorem missing_determined_by_message_with_quotes :
    let c : Config := { matchMode := .containment }
    let m : Text := wrap "a', '$\x7bb".toList
    let n : Text := wrap "c']\n".toList
    let s : Text := m ++ wrap ['d'] ++ n
    let t : Text := ['\''] ++ m ++ ['}'] ++ n
    let vs : Variables := .ofList [(['d'], ['1']), (['b', '\''], ['2'])]
    let ws : Variables := .ofList [("a', '".toList, ['3'])]
    let f : Fault := .missingFields [m, n]
    (replaceFields c s vs).value = .error f ∧ (replaceFields .default t ws).value = .error f ∧
      f.message? = some
        "The follow fields are not received: ['$\x7ba', '$\x7bb\x7d', '$\x7bc']\n\x7d']".toList ∧
      ∃ ms message, f = .missingFields ms ∧ f.message? = some message ∧
        (fields message).map Marker.text = ms := by
  intro c m n s t vs ws f
  have missing : Strict.missing c.matchMode vs s = [m, n] := by decide +kernel
  have missing' : Strict.missing Config.default.matchMode ws t = [m, n] := by decide +kernel
  have failed : (replaceFields c s vs).value = .error f :=
    replaceFields_eq_error_iff.2 ⟨by simp [missing], congrArg _ missing⟩
  have failed' : (replaceFields .default t ws).value = .error f :=
    replaceFields_eq_error_iff.2 ⟨by simp [missing'], congrArg _ missing'⟩
  obtain ⟨ms, message, eq, -, said, read⟩ :=
    missing_determined_by_message c .default s t vs ws failed failed' rfl
  exact ⟨failed, failed', by decide +kernel, ms, message, eq, said, read⟩

end Placeholder.Strict
