import Placeholder.Proofs.Pattern

/-! A scan is the leftmost decomposition of a text. The markers found stand where they are said to,
none begins before the one in front of it has ended, and wherever a marker of the grammar begins one
of them lies over the place. No other list is like that. -/

namespace Placeholder

structure Occurrence where
  text : Text
  name : Text
  start : Nat
  stop : Nat
  deriving DecidableEq

def Marker.occurrence (m : Marker) : Occurrence := ⟨m.text, m.name, m.start, m.stop⟩

namespace Occurrence

/-- A marker with a name of the grammar stands between the two bytes, which are boundaries of
characters. -/
structure Stands (names : Text → Prop) (s : Text) (o : Occurrence) : Prop where
  slice : Text.slice? o.start o.stop s = some o.text
  text : o.text = wrap o.name
  name : names o.name

variable {names : Text → Prop} {s : Text} {o x : Occurrence}

theorem stands_iff :
    o.Stands names s ↔
      ∃ r n t, s = r ++ (wrap n ++ t) ∧ names n ∧ o = Marker.occurrence ⟨n, r.bytes⟩ := by
  constructor
  · rintro ⟨slice, text, name⟩
    obtain ⟨r, t, split, start, stop⟩ := Text.slice?_eq_some_iff.1 slice
    refine ⟨r, o.name, t, text ▸ split, name, ?_⟩
    obtain ⟨_, n, _, _⟩ := o
    simp only [Marker.occurrence, Marker.text, Marker.stop, mk.injEq]
    exact ⟨text, trivial, start, text ▸ stop⟩
  · rintro ⟨r, n, t, rfl, name, rfl⟩
    exact ⟨Text.slice?_middle r (wrap n) t, rfl, name⟩

theorem Stands.start_lt_stop (h : o.Stands names s) : o.start < o.stop := by
  obtain ⟨r, n, t, -, -, rfl⟩ := stands_iff.1 h
  have opening : '$'.utf8Size = 1 := by decide
  simp only [Marker.occurrence, Marker.stop, Marker.text, wrap, Text.bytes_cons]
  omega

theorem Stands.eq_of_start_eq (brace : ∀ n, names n → '}' ∉ n) (h : o.Stands names s)
    (h' : x.Stands names s) (same : o.start = x.start) : o = x := by
  obtain ⟨r, n, t, split, name, rfl⟩ := stands_iff.1 h
  obtain ⟨r', n', t', split', name', rfl⟩ := stands_iff.1 h'
  have front : r <+: s := ⟨_, split.symm⟩
  have front' : r' <+: s := ⟨_, split'.symm⟩
  obtain rfl : r = r' :=
    (Text.prefix_of_bytes_le front front' (Nat.le_of_eq same)).eq_of_length_le
      (Text.prefix_of_bytes_le front' front (Nat.le_of_eq same.symm)).length_le
  have tail : wrap n ++ t = wrap n' ++ t' := List.append_cancel_left (split.symm.trans split')
  have starts : wrap n' <+: wrap n ++ t := ⟨t', tail.symm⟩
  rw [name_eq_of_starts (brace n name) (brace n' name') (List.prefix_append _ t) starts]

end Occurrence

/-- The occurrences are what reading the text from the byte on, leftmost first, comes upon. -/
structure Leftmost (names : Text → Prop) (s : Text) (start : Nat) (os : List Occurrence) : Prop where
  stands : ∀ o ∈ os, o.Stands names s
  start_le : ∀ o ∈ os, start ≤ o.start
  apart : os.Pairwise fun o x => o.start < x.start ∧ o.stop ≤ x.start
  covers : ∀ x : Occurrence, x.Stands names s → start ≤ x.start →
    ∃ o ∈ os, o.start ≤ x.start ∧ x.start < o.stop

namespace Leftmost

variable {names : Text → Prop} {s : Text} {start : Nat} {o x : Occurrence} {os : List Occurrence}

theorem nil (h : ∀ x : Occurrence, x.Stands names s → x.start < start) :
    Leftmost names s start [] := by
  refine ⟨List.forall_mem_nil _, List.forall_mem_nil _, List.Pairwise.nil, ?_⟩
  intro x hx le
  exact absurd (h x hx) (Nat.not_lt.2 le)

theorem cons (ho : o.Stands names s) (le : start ≤ o.start)
    (first : ∀ x : Occurrence, x.Stands names s → start ≤ x.start → o.start ≤ x.start)
    (h : Leftmost names s o.stop os) : Leftmost names s start (o :: os) := by
  have lt := ho.start_lt_stop
  refine ⟨List.forall_mem_cons.2 ⟨ho, h.stands⟩, List.forall_mem_cons.2 ⟨le, ?_⟩,
    List.pairwise_cons.2 ⟨?_, h.apart⟩, ?_⟩
  · intro x hx
    have behind := h.start_le x hx
    omega
  · intro x hx
    have behind := h.start_le x hx
    exact ⟨by omega, behind⟩
  · intro x hx behind
    by_cases inside : x.start < o.stop
    · exact ⟨o, List.mem_cons_self, first x hx behind, inside⟩
    · obtain ⟨p, hp, lies⟩ := h.covers x hx (Nat.le_of_not_lt inside)
      exact ⟨p, List.mem_cons_of_mem o hp, lies⟩

theorem of_le {next : Nat} (le : start ≤ next)
    (none : ∀ x : Occurrence, x.Stands names s → start ≤ x.start → next ≤ x.start)
    (h : Leftmost names s next os) : Leftmost names s start os :=
  ⟨h.stands, fun o ho => Nat.le_trans le (h.start_le o ho), h.apart,
    fun x hx behind => h.covers x hx (none x hx behind)⟩

theorem start_le_of_stands (h : Leftmost names s start (o :: os)) (hx : x.Stands names s)
    (behind : start ≤ x.start) : o.start ≤ x.start := by
  obtain ⟨p, hp, lies⟩ := h.covers x hx behind
  rcases List.mem_cons.1 hp with rfl | later
  · exact lies.1
  · have apart := (List.pairwise_cons.1 h.apart).1 p later
    omega

theorem tail (h : Leftmost names s start (o :: os)) : Leftmost names s o.stop os := by
  obtain ⟨ho, stands⟩ := List.forall_mem_cons.1 h.stands
  obtain ⟨later, apart⟩ := List.pairwise_cons.1 h.apart
  refine ⟨stands, fun x hx => (later x hx).2, apart, ?_⟩
  intro x hx behind
  have le := h.start_le o List.mem_cons_self
  have lt := ho.start_lt_stop
  obtain ⟨p, hp, lies⟩ := h.covers x hx (by omega)
  rcases List.mem_cons.1 hp with rfl | elsewhere
  · omega
  · exact ⟨p, elsewhere, lies⟩

theorem unique_of_start_eq
    (decided : ∀ o x : Occurrence, o.Stands names s → x.Stands names s → o.start = x.start → o = x)
    {xs : List Occurrence} (h : Leftmost names s start os) (h' : Leftmost names s start xs) :
    os = xs := by
  induction os generalizing start xs with
  | nil =>
    cases xs with
    | nil => rfl
    | cons x xs =>
      have hx := h'.stands x List.mem_cons_self
      obtain ⟨o, ho, -⟩ := h.covers x hx (h'.start_le x List.mem_cons_self)
      cases ho
  | cons o os ih =>
    have ho := h.stands o List.mem_cons_self
    have le := h.start_le o List.mem_cons_self
    cases xs with
    | nil =>
      obtain ⟨x, hx, -⟩ := h'.covers o ho le
      cases hx
    | cons x xs =>
      have hx := h'.stands x List.mem_cons_self
      have le' := h'.start_le x List.mem_cons_self
      have same : o.start = x.start :=
        Nat.le_antisymm (h.start_le_of_stands hx le') (h'.start_le_of_stands ho le)
      obtain rfl := decided o x ho hx same
      rw [ih h.tail h'.tail]

theorem unique (brace : ∀ n, names n → '}' ∉ n) {xs : List Occurrence}
    (h : Leftmost names s start os) (h' : Leftmost names s start xs) : os = xs :=
  h.unique_of_start_eq (fun _ _ ho hx => ho.eq_of_start_eq brace hx) h'

end Leftmost

namespace Pattern

theorem leftmost_locate {p : Pattern} {names : Text → Prop}
    (grammar : ∀ s n, p.nameAt s = some n ↔ names n ∧ wrap n <+: s) (r s : Text) :
    Leftmost names (r ++ s) r.bytes ((Marker.locate r.bytes (p.cut s)).map Marker.occurrence) := by
  induction s using p.cut_induction generalizing r with
  | nil =>
    rw [cut_nil]
    apply Leftmost.nil
    intro x hx
    obtain ⟨r', n, t, split, -, rfl⟩ := Occurrence.stands_iff.1 hx
    have size := congrArg Text.bytes split
    have lt := hx.start_lt_stop
    simp only [Text.bytes_append, Text.bytes_nil] at size
    simp only [Marker.occurrence, Marker.stop, Marker.text] at lt ⊢
    omega
  | marker n s found ih =>
    have name := ((grammar _ n).1 found).1
    rw [cut_wrap_append found, Marker.locate, List.map_cons]
    apply Leftmost.cons
    · exact Occurrence.stands_iff.2 ⟨r, n, s, rfl, name, rfl⟩
    · exact Nat.le_refl _
    · intro x _ behind
      exact behind
    · have rest := ih (r ++ wrap n)
      rw [List.append_assoc, Text.bytes_append] at rest
      exact rest
  | plain c s none ih =>
    have rest := ih (r ++ [c])
    rw [List.append_assoc, Text.bytes_append, Text.bytes_cons, Text.bytes_nil, Nat.add_zero] at rest
    rw [cut_of_nameAt_eq_none none, Marker.locate]
    refine rest.of_le (Nat.le_add_right _ _) ?_
    intro x hx behind
    obtain ⟨r', n, t, split, name, rfl⟩ := Occurrence.stands_iff.1 hx
    have front : r <+: r' :=
      Text.prefix_of_bytes_le (List.prefix_append r _) ⟨_, split.symm⟩ behind
    obtain ⟨u, rfl⟩ := front
    have tail : c :: s = u ++ (wrap n ++ t) := by simpa using split
    cases u with
    | nil =>
      have found : p.nameAt (c :: s) = some n := (grammar _ n).2 ⟨name, t, tail.symm⟩
      rw [none] at found
      cases found
    | cons d u =>
      obtain rfl : c = d := (List.cons.inj tail).1
      simp only [Marker.occurrence, Text.bytes_append, Text.bytes_cons]
      omega

theorem leftmost_scan {p : Pattern} {names : Text → Prop}
    (grammar : ∀ s n, p.nameAt s = some n ↔ names n ∧ wrap n <+: s) (s : Text) :
    Leftmost names s 0 ((p.scan s).map Marker.occurrence) :=
  leftmost_locate grammar [] s

end Pattern

def IsField (n : Text) : Prop := n ≠ [] ∧ '}' ∉ n

instance (n : Text) : Decidable (IsField n) := inferInstanceAs (Decidable (_ ∧ _))

theorem Pattern.field_eq_some_iff_isField {s n : Text} :
    field.nameAt s = some n ↔ IsField n ∧ wrap n <+: s := by
  rw [field_eq_some_iff, IsField, and_assoc]

theorem leftmost_fields (s : Text) : Leftmost IsField s 0 ((fields s).map Marker.occurrence) :=
  Pattern.leftmost_scan (fun _ _ => Pattern.field_eq_some_iff_isField) s

/-- The fields are the one decomposition of the text from its beginning. -/
theorem leftmost_iff_eq_fields (s : Text) (os : List Occurrence) :
    Leftmost IsField s 0 os ↔ os = (fields s).map Marker.occurrence := by
  constructor
  · intro h
    exact h.unique (fun n name => name.2) (leftmost_fields s)
  · rintro rfl
    exact leftmost_fields s

example :
    (fields (wrap [] ++ 'é' :: wrap ['$', '{', 'a'] ++ ['$', '{', 'b'])).map Marker.occurrence =
      [⟨wrap ['$', '{', 'a'], ['$', '{', 'a'], 5, 11⟩] := by
  decide +kernel

end Placeholder
