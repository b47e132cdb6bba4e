import Mathlib.Data.List.Nodup
import Mathlib.Data.List.Perm.Subperm
import Placeholder.Proofs.Identifiers

namespace Placeholder

theorem IsIdentifier.isField {n : Text} (h : IsIdentifier n) : IsField n := ⟨h.1, h.brace_not_mem⟩

theorem Occurrence.Stands.mono {names names' : Text → Prop} {s : Text} {o : Occurrence}
    (sub : ∀ n, names n → names' n) (h : o.Stands names s) : o.Stands names' s :=
  ⟨h.slice, h.text, sub o.name h.name⟩

namespace Leftmost

variable {names : Text → Prop} {s : Text} {start : Nat} {os : List Occurrence}

theorem nodup_stops (h : Leftmost names s start os) : (os.map Occurrence.stop).Nodup := by
  apply List.pairwise_map.2
  apply h.apart.imp_of_mem
  intro o x _ hx apart
  have lt := (h.stands x hx).start_lt_stop
  omega

end Leftmost

def Marker.Within (m f : Marker) : Prop := f.start ≤ m.start ∧ m.stop ≤ f.stop

section Nesting

variable {s : Text} {m f : Marker}

theorem stands_of_mem_fields (h : f ∈ fields s) : f.occurrence.Stands IsField s :=
  (leftmost_fields s).stands _ (List.mem_map_of_mem h)

theorem nodup_map_stop {p : Pattern} {names : Text → Prop}
    (leftmost : Leftmost names s 0 ((p.scan s).map Marker.occurrence)) :
    ((p.scan s).map Marker.stop).Nodup := by
  have distinct := leftmost.nodup_stops
  rwa [List.map_map] at distinct

theorem eq_nil_or_two_le_bytes {m n u : Text} (h : wrap m = u ++ wrap n) :
    u = [] ∨ 2 ≤ u.bytes := by
  cases u with
  | nil => exact .inl rfl
  | cons c u =>
    right
    cases u with
    | nil =>
      -- the sign that begins the inner marker would be the second one of the outer
      simp [wrap] at h
    | cons d u =>
      have pos := c.utf8Size_pos
      have pos' := d.utf8Size_pos
      simp only [Text.bytes_cons]
      omega

theorem ends_of_covers (hf : f ∈ fields s) (hm : m ∈ identifiers s) (le : f.start ≤ m.start)
    (lt : m.start < f.stop) :
    f.stop = m.stop ∧ (f.start = m.start ∨ f.start + 2 ≤ m.start) := by
  have field := stands_of_mem_fields hf
  have identifier := mem_identifiers_iff_stands.1 hm
  obtain ⟨u, text, start⟩ := field.exists_append_of_covers (fun _ name => name.2)
    (fun _ name => name.brace_not_mem) identifier le lt
  have begins : m.start = f.start + Text.bytes u := start
  constructor
  · have size := congrArg Text.bytes text
    have stop := field.stop_eq
    have stop' := identifier.stop_eq
    simp only [Marker.occurrence, Text.bytes_append] at size stop stop'
    omega
  · rcases eq_nil_or_two_le_bytes text with rfl | room
    · exact .inl begins.symm
    · right
      omega

theorem stop_eq_of_within (hf : f ∈ fields s) (hm : m ∈ identifiers s) (within : m.Within f) :
    f.stop = m.stop := by
  have lt : m.start < m.stop := (mem_identifiers_iff_stands.1 hm).start_lt_stop
  exact (ends_of_covers hf hm within.1 (Nat.lt_of_lt_of_le lt within.2)).1

theorem exists_field_of_mem_identifiers (hm : m ∈ identifiers s) :
    ∃ f ∈ fields s, f.start ≤ m.start ∧ m.start < f.stop := by
  have stands := (mem_identifiers_iff_stands.1 hm).mono fun _ name => name.isField
  obtain ⟨o, ho, lies⟩ := (leftmost_fields s).covers _ stands (Nat.zero_le _)
  obtain ⟨f, hf, rfl⟩ := List.mem_map.1 ho
  exact ⟨f, hf, lies⟩

theorem mem_identifiers_of_mem_fields (hf : f ∈ fields s)
    (letters : ∀ c ∈ f.name, c.isAlphanum = true) : f ∈ identifiers s := by
  have field := stands_of_mem_fields hf
  exact mem_identifiers_iff_stands.2 ⟨field.slice, field.text, field.name.1, letters⟩

theorem identifiers_eq_nil (h : fields s = []) : identifiers s = [] := by
  apply List.eq_nil_iff_forall_not_mem.2
  intro m hm
  obtain ⟨f, hf, -⟩ := exists_field_of_mem_identifiers hm
  rw [h] at hf
  cases hf

theorem length_identifiers_le (s : Text) : (identifiers s).length ≤ (fields s).length := by
  have distinct : ((identifiers s).map Marker.stop).Nodup := nodup_map_stop (leftmost_identifiers s)
  have sub : (identifiers s).map Marker.stop ⊆ (fields s).map Marker.stop := by
    intro k hk
    obtain ⟨m, hm, rfl⟩ := List.mem_map.1 hk
    obtain ⟨f, hf, le, lt⟩ := exists_field_of_mem_identifiers hm
    rw [← (ends_of_covers hf hm le lt).1]
    exact List.mem_map_of_mem hf
  simpa using (List.Nodup.subperm distinct sub).length_le

end Nesting

/-- Every identifier lies in exactly one field. It ends where the field does, and begins with it or
behind the opening delimiter; no two identifiers lie in one field, and a field whose name is all
letters and digits is an identifier. -/
theorem identifiers_nest_in_fields (s : Text) :
    (∀ m ∈ identifiers s, ∃ f ∈ fields s, m.Within f ∧ f.stop = m.stop ∧
        (f.start = m.start ∨ f.start + 2 ≤ m.start) ∧ ∀ g ∈ fields s, m.Within g → g = f) ∧
      (∀ m ∈ identifiers s, ∀ m' ∈ identifiers s, ∀ f ∈ fields s,
        m.Within f → m'.Within f → m = m') ∧
      (∀ f ∈ fields s, (∀ c ∈ f.name, c.isAlphanum = true) → f ∈ identifiers s) ∧
      (hasIdentifier s = true → fields s ≠ []) ∧
      (identifiers s).length ≤ (fields s).length := by
  refine ⟨?_, ?_, ?_, ?_, length_identifiers_le s⟩
  · intro m hm
    obtain ⟨f, hf, le, lt⟩ := exists_field_of_mem_identifiers hm
    obtain ⟨stop, start⟩ := ends_of_covers hf hm le lt
    refine ⟨f, hf, ⟨le, Nat.le_of_eq stop.symm⟩, stop, start, ?_⟩
    intro g hg within
    apply List.inj_on_of_nodup_map (nodup_map_stop (leftmost_fields s)) hg hf
    exact (stop_eq_of_within hg hm within).trans stop.symm
  · intro m hm m' hm' f hf within within'
    apply List.inj_on_of_nodup_map (nodup_map_stop (leftmost_identifiers s)) hm hm'
    exact (stop_eq_of_within hf hm within).symm.trans (stop_eq_of_within hf hm' within')
  · intro f hf letters
    exact mem_identifiers_of_mem_fields hf letters
  · intro found nothing
    have absent : hasIdentifier s = false :=
      (Pattern.found_eq_false_iff _ s).2 (identifiers_eq_nil nothing)
    rw [absent] at found
    cases found

example :
    let s : Text := wrap (wrap ['a']) ++ ['$', '{', 'é', ' '] ++ wrap ['b'] ++ wrap ['c']
    identifiers s = [⟨['a'], 2⟩, ⟨['b'], 12⟩, ⟨['c'], 16⟩] ∧
      fields s = [⟨['$', '{', 'a'], 0⟩, ⟨['é', ' ', '$', '{', 'b'], 7⟩, ⟨['c'], 16⟩] := by
  decide +kernel

end Placeholder
