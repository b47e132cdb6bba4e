import Placeholder.Proofs.Replacement

namespace Placeholder

section Standing

variable {name k value s : Text} (other : k ≠ name) (clear : Clear k) (clear' : Clear name)

include other clear clear'

theorem infix_replace_of_ne (value : Text) (h : wrap k <:+: s) :
    wrap k <:+: replace name value s := by
  induction s using (Pattern.literal name).cut_induction with
  | nil => exact absurd (List.infix_nil.1 h) (List.cons_ne_nil _ _)
  | marker n s found ih =>
    obtain ⟨rfl, -⟩ := Pattern.literal_eq_some_iff.1 found
    have behind := ((infix_wrap_append_iff clear.brace clear' s).1 h).resolve_left other
    rw [replace_wrap_append]
    exact (ih behind).trans (List.suffix_append value _).isInfix
  | plain c s none ih =>
    rcases List.infix_cons_iff.1 h with ⟨t, starts⟩ | inner
    · rw [← starts, replace_wrap_append_of_ne value other clear'.brace clear]
      exact (List.prefix_append _ _).isInfix
    · rw [replace_cons value (Pattern.literal_eq_none_iff.1 none)]
      exact (ih inner).trans (List.suffix_cons c _).isInfix

theorem infix_replace_iff (foreign : Foreign [k] value) :
    wrap k <:+: replace name value s ↔ wrap k <:+: s :=
  ⟨fun h => (infix_of_infix_replace foreign h).1, infix_replace_of_ne other clear clear' value⟩

end Standing

theorem replace_replace_tail {k : Text} (clear : Clear k) (name value name' value' s : Text) :
    replace name value (replace name' value' ((wrap k).tail ++ s)) =
      (wrap k).tail ++ replace name value (replace name' value' s) := by
  -- behind its first character nothing opens in the marker of a clear name
  have quiet : ∀ t, Quiet (wrap k).tail t :=
    quiet_of_dollar_not_mem (dollar_not_mem_tail_wrap clear.dollar)
  rw [replace_append_of_quiet value' (quiet s), replace_append_of_quiet value (quiet _)]

theorem replace_comm {k k' v v' : Text} (other : k ≠ k') (clear : Clear k) (clear' : Clear k')
    (foreign : Foreign [k, k'] v) (foreign' : Foreign [k, k'] v') (s : Text) :
    replace k v (replace k' v' s) = replace k' v' (replace k v s) := by
  induction s using (Pattern.literal k).cut_induction with
  | nil => simp
  | marker n s found ih =>
    obtain ⟨rfl, -⟩ := Pattern.literal_eq_some_iff.1 found
    calc
      replace n v (replace k' v' (wrap n ++ s)) = replace n v (wrap n ++ replace k' v' s) := by
        rw [replace_wrap_append_of_ne v' other clear'.brace clear]
      _ = v ++ replace n v (replace k' v' s) := replace_wrap_append n v _
      _ = v ++ replace k' v' (replace n v s) := by rw [ih]
      _ = replace k' v' (v ++ replace n v s) :=
        (replace_append_of_quiet v' (quiet_of_dollar_not_mem foreign.dollar _)).symm
      _ = replace k' v' (replace n v (wrap n ++ s)) := by rw [replace_wrap_append]
  | plain c s none ih =>
    have here := Pattern.literal_eq_none_iff.1 none
    by_cases starts : wrap k' <+: c :: s
    · -- the induction hypothesis is about the rest of the marker and what follows it
      obtain ⟨t, whole⟩ := starts
      have rest : s = (wrap k').tail ++ t := (List.cons.inj whole.symm).2
      rw [rest, replace_replace_tail clear', replace_replace_tail clear'] at ih
      have behind := List.append_cancel_left ih
      rw [← whole]
      calc
        replace k v (replace k' v' (wrap k' ++ t)) = replace k v (v' ++ replace k' v' t) := by
          rw [replace_wrap_append]
        _ = v' ++ replace k v (replace k' v' t) :=
          replace_append_of_quiet v (quiet_of_dollar_not_mem foreign'.dollar _)
        _ = v' ++ replace k' v' (replace k v t) := by rw [behind]
        _ = replace k' v' (wrap k' ++ replace k v t) := (replace_wrap_append k' v' _).symm
        _ = replace k' v' (replace k v (wrap k' ++ t)) := by
          rw [replace_wrap_append_of_ne v other.symm clear.brace clear']
    · have single : Foreign [k] v' := foreign'.mono (by simp)
      have single' : Foreign [k'] v := foreign.mono (by simp)
      have still : ¬ wrap k <+: c :: replace k' v' s := by
        rw [← replace_cons v' starts]
        exact fun h => here (starts_of_starts_replace single h)
      have still' : ¬ wrap k' <+: c :: replace k v s := by
        rw [← replace_cons v here]
        exact fun h => starts (starts_of_starts_replace single' h)
      rw [replace_cons v' starts, replace_cons v here, replace_cons v still,
        replace_cons v' still', ih]

end Placeholder
