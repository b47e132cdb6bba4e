import Mathlib.Data.List.Induction
import Mathlib.Data.List.Nodup
import Mathlib.Data.List.Perm.Subperm
import Placeholder.Variables

namespace Placeholder.Variables

theorem lookup_cons_eq (n v : Text) (es : List (Text × Text)) (name : Text) :
    ((n, v) :: es).lookup name = if name = n then some v else es.lookup name := by
  rw [List.lookup_cons]
  by_cases same : name = n
  · simp [same]
  · have other : (name == n) = false := by simpa using same
    simp [same, other]

theorem lookup_eq_some_iff_mem {es : List (Text × Text)} (distinct : (es.map Prod.fst).Nodup)
    {name value : Text} : es.lookup name = some value ↔ (name, value) ∈ es := by
  induction es with
  | nil => simp
  | cons e es ih =>
    obtain ⟨n, v⟩ := e
    rw [List.map_cons, List.nodup_cons] at distinct
    rw [lookup_cons_eq]
    by_cases h : name = n
    · subst h
      have elsewhere : (name, value) ∉ es := fun mem => distinct.1 (List.mem_map.2 ⟨_, mem, rfl⟩)
      simp [elsewhere, eq_comm]
    · simp [h, ih distinct.2]

variable {vs ws : Variables}

theorem get?_eq_some_iff {name value : Text} :
    vs.get? name = some value ↔ (name, value) ∈ vs.entries :=
  lookup_eq_some_iff_mem vs.distinct

theorem get?_eq_none_iff {name : Text} : vs.get? name = none ↔ name ∉ vs.names := by
  simp only [get?, names, List.lookup_eq_none_iff, List.mem_map, not_exists, not_and]
  constructor
  · intro h e he same
    simpa [same] using h e he
  · intro h e he
    simpa using fun same => h e he same.symm

theorem perm_of_same (h : vs.same ws = true) : vs.entries.Perm ws.entries := by
  simp only [same, Bool.and_eq_true, beq_iff_eq, List.all_eq_true] at h
  obtain ⟨size, included⟩ := h
  have subset : vs.entries ⊆ ws.entries := fun e he => get?_eq_some_iff.1 (included e he)
  exact (vs.distinct.of_map.subperm subset).perm_of_length_le (Nat.le_of_eq size.symm)

theorem get?_eq_of_same (h : vs.same ws = true) : vs.get? = ws.get? := by
  have perm := perm_of_same h
  funext name
  apply Option.ext
  intro value
  rw [get?_eq_some_iff, get?_eq_some_iff]
  exact perm.mem_iff

theorem same_iff_get? : vs.same ws = true ↔ ∀ name, vs.get? name = ws.get? name := by
  constructor
  · intro same
    exact congrFun (get?_eq_of_same same)
  · intro values
    have entries : ∀ e : Text × Text, e ∈ vs.entries ↔ e ∈ ws.entries := by
      rintro ⟨name, value⟩
      rw [← get?_eq_some_iff, ← get?_eq_some_iff, values]
    have perm : vs.entries.Perm ws.entries :=
      (List.perm_ext_iff_of_nodup vs.distinct.of_map ws.distinct.of_map).2 entries
    simp only [same, size, Bool.and_eq_true, beq_iff_eq, List.all_eq_true]
    refine ⟨perm.length_eq, ?_⟩
    intro e he
    exact get?_eq_some_iff.2 ((entries e).1 he)

def without (vs : Variables) (name : Text) : Variables where
  entries := vs.entries.filter fun e => e.1 ≠ name
  distinct := vs.distinct.sublist (List.filter_sublist.map Prod.fst)

theorem get?_without_of_ne {name n : Text} (other : n ≠ name) :
    (vs.without name).get? n = vs.get? n := by
  apply Option.ext
  intro value
  rw [get?_eq_some_iff, get?_eq_some_iff, without, List.mem_filter]
  simp [other]

theorem fst_exchange (name value : Text) (es : List (Text × Text)) :
    (exchange name value es).1 = es.lookup name := by
  induction es with
  | nil => rfl
  | cons e es ih =>
    obtain ⟨n, v⟩ := e
    rw [exchange, lookup_cons_eq]
    by_cases here : n = name
    · rw [if_pos here, if_pos here.symm]
    · rw [if_neg here, if_neg (Ne.symm here)]
      exact ih

theorem filter_exchange (name value : Text) (es : List (Text × Text)) :
    (exchange name value es).2.filter (fun e => e.1 ≠ name) = es.filter fun e => e.1 ≠ name := by
  induction es with
  | nil => simp [exchange]
  | cons e es ih =>
    obtain ⟨n, v⟩ := e
    by_cases here : n = name
    · simp [exchange, here]
    · simp only [exchange, if_neg here, List.filter_cons, ih]

theorem map_fst_exchange (name value : Text) (es : List (Text × Text)) :
    (exchange name value es).2.map Prod.fst =
      if name ∈ es.map Prod.fst then es.map Prod.fst else es.map Prod.fst ++ [name] := by
  induction es with
  | nil => rfl
  | cons e es ih =>
    obtain ⟨n, v⟩ := e
    by_cases here : n = name
    · simp [exchange, here]
    · simp only [exchange, here, if_false, List.map_cons, ih, List.mem_cons, Ne.symm here, false_or]
      split <;> rfl

theorem lookup_exchange (name value n : Text) (es : List (Text × Text)) :
    (exchange name value es).2.lookup n = if n = name then some value else es.lookup n := by
  induction es with
  | nil => exact lookup_cons_eq name value [] n
  | cons e es ih =>
    obtain ⟨m, v⟩ := e
    by_cases here : m = name
    · subst here
      simp only [exchange, if_true, lookup_cons_eq]
      split <;> rfl
    · simp only [exchange, here, if_false, lookup_cons_eq, ih]
      by_cases same : n = m
      · subst same
        simp [here]
      · simp [same]

theorem exchange_of_not_mem {name : Text} (value : Text) {es : List (Text × Text)}
    (absent : name ∉ es.map Prod.fst) : (exchange name value es).2 = es ++ [(name, value)] := by
  induction es with
  | nil => rfl
  | cons e es ih =>
    rw [List.map_cons, List.mem_cons, not_or] at absent
    simp only [exchange, if_neg (Ne.symm absent.1), ih absent.2, List.cons_append]

theorem names_insert (vs : Variables) (name value : Text) :
    (vs.insert name value).2.names = if name ∈ vs.names then vs.names else vs.names ++ [name] :=
  map_fst_exchange name value vs.entries

theorem entries_insert_of_not_mem {name : Text} (value : Text) (absent : name ∉ vs.names) :
    (vs.insert name value).2.entries = vs.entries ++ [(name, value)] :=
  exchange_of_not_mem value absent

theorem get?_insert (vs : Variables) (name value n : Text) :
    (vs.insert name value).2.get? n = if n = name then some value else vs.get? n :=
  lookup_exchange name value n vs.entries

theorem fst_insert (vs : Variables) (name value : Text) :
    (vs.insert name value).1 = vs.get? name :=
  fst_exchange name value vs.entries

theorem without_insert (vs : Variables) (name value : Text) :
    (vs.insert name value).2.without name = vs.without name := by
  simp only [without, insert, filter_exchange]

theorem names_prefix_names_insert (vs : Variables) (name value : Text) :
    vs.names <+: (vs.insert name value).2.names := by
  rw [names_insert]
  split
  case isTrue => exact List.prefix_refl _
  case isFalse => exact List.prefix_append _ _

theorem ofList_concat (es : List (Text × Text)) (e : Text × Text) :
    ofList (es ++ [e]) = ((ofList es).insert e.1 e.2).2 := by
  simp [ofList, insertAll]

theorem names_ofList (es : List (Text × Text)) :
    (ofList es).names = (es.map Prod.fst).eraseDups := by
  induction es using List.reverseRecOn with
  | nil => rfl
  | append_singleton es e ih =>
    have known : e.1 ∈ (ofList es).names ↔ e.1 ∈ es.map Prod.fst := by
      rw [ih, List.mem_eraseDups]
    rw [ofList_concat, names_insert, List.map_append, List.eraseDups_append, ← ih]
    by_cases before : e.1 ∈ es.map Prod.fst
    · simp [known, before, List.removeAll]
    · simp [known, before, List.removeAll, List.eraseDups_cons]

theorem get?_ofList (es : List (Text × Text)) (name : Text) :
    (ofList es).get? name = es.reverse.lookup name := by
  induction es using List.reverseRecOn with
  | nil => rfl
  | append_singleton es e ih =>
    rw [ofList_concat, get?_insert, ih, List.reverse_append, List.reverse_singleton,
      List.singleton_append]
    exact (lookup_cons_eq e.1 e.2 es.reverse name).symm

end Placeholder.Variables
