import Mathlib.Data.List.Basic
import Placeholder.Proofs.Decomposition

namespace Placeholder

namespace Pattern

/-- No marker lies over the place where the texts meet. -/
def Seam (p : Pattern) (u v : Text) : Prop :=
  ∀ m ∈ p.scan (u ++ v), ¬ (m.start < u.bytes ∧ u.bytes < m.stop)

instance (p : Pattern) (u v : Text) : Decidable (p.Seam u v) :=
  inferInstanceAs (Decidable (∀ m ∈ _, _))

section Seam

variable {p : Pattern} {u v : Text}

theorem Seam.of_marker {n s : Text} (found : p.nameAt (wrap n ++ (s ++ v)) = some n)
    (seam : p.Seam (wrap n ++ s) v) : p.Seam s v := by
  intro m hm lies
  have mem : m.shift (wrap n).bytes ∈ p.scan (wrap n ++ s ++ v) := by
    rw [List.append_assoc, scan_wrap_append found]
    exact List.mem_cons_of_mem _ (List.mem_map_of_mem hm)
  apply seam _ mem
  simp only [Marker.shift, Marker.stop, Marker.text, Text.bytes_append] at lies ⊢
  omega

theorem Seam.of_plain {c : Char} {s : Text} (absent : p.nameAt (c :: (s ++ v)) = none)
    (seam : p.Seam (c :: s) v) : p.Seam s v := by
  intro m hm lies
  have mem : m.shift c.utf8Size ∈ p.scan (c :: s ++ v) := by
    rw [List.cons_append, scan_cons absent]
    exact List.mem_map_of_mem hm
  apply seam _ mem
  simp only [Marker.shift, Marker.stop, Marker.text, Text.bytes_cons] at lies ⊢
  omega

theorem Seam.starts (seam : p.Seam u v) (ne : u ≠ []) {n : Text}
    (found : p.nameAt (u ++ v) = some n) : wrap n <+: u := by
  obtain ⟨r, split⟩ := p.sound found
  have first : ⟨n, 0⟩ ∈ p.scan (u ++ v) := by
    rw [← split] at found ⊢
    rw [scan_wrap_append found]
    exact List.mem_cons_self
  apply Text.prefix_of_bytes_le ⟨r, split⟩ (List.prefix_append u v)
  apply Nat.le_of_not_lt
  intro longer
  have pos : 0 < u.bytes := Nat.pos_of_ne_zero fun empty => ne (Text.eq_nil_of_bytes_eq_zero empty)
  apply seam _ first
  simpa [Marker.stop, Marker.text, pos] using longer

variable {names : Text → Prop} (grammar : ∀ s n, p.nameAt s = some n ↔ names n ∧ wrap n <+: s)

include grammar

theorem cut_append (seam : p.Seam u v) : p.cut (u ++ v) = p.cut u ++ p.cut v := by
  -- a marker of the first text is read whatever follows it; one that only the second text completes
  -- would lie over the seam
  induction u using p.cut_induction with
  | nil => simp
  | marker n s found ih =>
    have name := ((grammar _ n).1 found).1
    have whole : p.nameAt (wrap n ++ (s ++ v)) = some n :=
      (grammar _ n).2 ⟨name, List.prefix_append _ _⟩
    rw [List.append_assoc, cut_wrap_append whole, cut_wrap_append found, ih (seam.of_marker whole),
      List.cons_append]
  | plain c s absent ih =>
    have whole : p.nameAt (c :: (s ++ v)) = none := by
      cases found : p.nameAt (c :: (s ++ v)) with
      | none => rfl
      | some n =>
        have name := ((grammar _ n).1 found).1
        have own : p.nameAt (c :: s) = some n :=
          (grammar _ n).2 ⟨name, seam.starts (List.cons_ne_nil c s) found⟩
        rw [absent] at own
        cases own
    rw [List.cons_append, cut_of_nameAt_eq_none whole, cut_of_nameAt_eq_none absent,
      ih (seam.of_plain whole), List.cons_append]

theorem scan_append (seam : p.Seam u v) :
    p.scan (u ++ v) = p.scan u ++ (p.scan v).map (Marker.shift u.bytes) := by
  rw [scan, cut_append grammar seam, Marker.locate_append, flatMap_text_cut, Nat.zero_add]
  congr 1
  exact Marker.locate_add u.bytes 0 (p.cut v)

theorem seam_of_getLast? (brace : ∀ n, names n → '}' ∉ n) (last : u.getLast? = some '}') (v : Text) :
    p.Seam u v := by
  rintro m hm ⟨begins, ends⟩
  have stands := (leftmost_scan grammar (u ++ v)).stands _ (List.mem_map_of_mem hm)
  obtain ⟨r, n, t, split, name, same⟩ := Occurrence.stands_iff.1 stands
  have start : m.start = Text.bytes r := congrArg Occurrence.start same
  have stop : m.stop = Text.bytes r + Text.bytes (wrap n) := congrArg Occurrence.stop same
  obtain ⟨w, rfl⟩ : r <+: u :=
    Text.prefix_of_bytes_le ⟨_, split.symm⟩ (List.prefix_append u v) (by omega)
  rw [Text.bytes_append] at begins ends
  have behind : w ++ v = wrap n ++ t := by
    rw [List.append_assoc] at split
    exact List.append_cancel_left split
  have inside : w <+: '$' :: '{' :: n := prefix_of_prefix_wrap_append ⟨v, behind⟩ (by omega)
  cases w with
  | nil =>
    rw [Text.bytes_nil] at begins
    omega
  | cons c w =>
    rw [List.getLast?_append_cons] at last
    have mem := inside.subset (List.mem_of_getLast? last)
    simp [brace n name] at mem

end Seam

example : ¬ field.Seam ['$', '{'] (wrap ['a']) ∧ field.Seam ('$' :: wrap []) (wrap ['a']) := by
  decide +kernel

end Pattern
end Placeholder
