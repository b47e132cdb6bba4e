import Placeholder.Proofs.Agreement

namespace Placeholder

namespace Marked

theorem infix_iff_mem_names {s : Text} (h : Marked s) {k : Text} (brace : '}' ∉ k) :
    wrap k <:+: s ↔ k ∈ (identifiers s).map Marker.name := by
  rw [map_name_identifiers]
  induction h with
  | nil => simp [wrap]
  | plain opens _ ih =>
    -- the marker of any name begins where something opens
    have elsewhere : ¬ wrap k <+: _ := fun starts => opens (opens_of_starts starts)
    rw [List.infix_cons_iff, or_iff_right elsewhere, ih, Pattern.cut_of_not_opens _ opens,
      List.filterMap_cons, Piece.name?]
  | marker identifier _ ih =>
    rw [infix_wrap_append_iff brace identifier.clear, ih, Pattern.cut_identifier identifier,
      List.filterMap_cons, Piece.name?, List.mem_cons]

end Marked

end Placeholder
