import Mathlib.Data.Finset.Card
import Placeholder.Proofs.Variables

namespace Placeholder.Variables

/-- The variables that a history of insertions makes, the first of them collected at once and the others
put in one by one. -/
inductive Built : List (Text × Text) → Variables → Prop
  | ofList (es : List (Text × Text)) : Built es (ofList es)
  | insert {es : List (Text × Text)} {vs : Variables} (name value : Text) :
      Built es vs → Built (es ++ [(name, value)]) (vs.insert name value).2

def LastValue (es : List (Text × Text)) (name value : Text) : Prop :=
  ∃ before after, es = before ++ (name, value) :: after ∧ name ∉ after.map Prod.fst

theorem lastValue_concat {es : List (Text × Text)} {name value n v : Text} :
    LastValue (es ++ [(name, value)]) n v ↔ if n = name then value = v else LastValue es n v := by
  constructor
  · rintro ⟨before, after, split, none⟩
    -- the insertion in question is the new one, or has the new one behind it
    rcases List.eq_nil_or_concat after with rfl | ⟨after, e, rfl⟩
    · obtain ⟨-, same⟩ := List.append_inj' split rfl
      obtain ⟨rfl, rfl⟩ : name = n ∧ value = v := by simpa using same
      rw [if_pos rfl]
    · have split' : es ++ [(name, value)] = (before ++ (n, v) :: after) ++ [e] := by
        simpa using split
      obtain ⟨rfl, same⟩ := List.append_inj' split' rfl
      obtain rfl : (name, value) = e := by simpa using same
      obtain ⟨earlier, other⟩ : n ∉ after.map Prod.fst ∧ n ≠ name := by
        simpa [not_or] using none
      rw [if_neg other]
      exact ⟨before, after, rfl, earlier⟩
  · split
    case isTrue own =>
      rintro rfl
      exact ⟨es, [], by rw [own], List.not_mem_nil⟩
    case isFalse other =>
      rintro ⟨before, after, rfl, none⟩
      refine ⟨before, after ++ [(name, value)], by simp, ?_⟩
      rw [List.map_append, List.mem_append, not_or]
      exact ⟨none, by simpa using other⟩

/-- What is kept of a history: its names, in the order in which each came first, and the value that each
had last. -/
structure Recalls (es : List (Text × Text)) (vs : Variables) : Prop where
  mem : ∀ name, name ∈ vs.names ↔ name ∈ es.map Prod.fst
  order : vs.names.Pairwise fun m n => (es.map Prod.fst).idxOf m < (es.map Prod.fst).idxOf n
  value : ∀ name value, vs.get? name = some value ↔ LastValue es name value

theorem recalls_empty : Recalls [] empty where
  mem _ := Iff.rfl
  order := List.Pairwise.nil
  value name value := by
    constructor
    · intro found
      cases found
    · rintro ⟨before, after, split, -⟩
      simp at split

namespace Recalls

variable {es : List (Text × Text)} {vs : Variables} (h : Recalls es vs)

include h

theorem pairwise_append (fs : List Text) :
    vs.names.Pairwise fun m n =>
      (es.map Prod.fst ++ fs).idxOf m < (es.map Prod.fst ++ fs).idxOf n := by
  apply h.order.imp_of_mem
  intro m n hm hn lt
  rwa [List.idxOf_append_of_mem ((h.mem m).1 hm), List.idxOf_append_of_mem ((h.mem n).1 hn)]

theorem pairwise_concat {name : Text} (new : name ∉ vs.names) :
    (vs.names ++ [name]).Pairwise fun m n =>
      (es.map Prod.fst ++ [name]).idxOf m < (es.map Prod.fst ++ [name]).idxOf n := by
  refine List.pairwise_append.2 ⟨h.pairwise_append [name], List.pairwise_singleton _ name, ?_⟩
  intro m hm n hn
  have known := (h.mem m).1 hm
  -- a new name is met behind all that was inserted before
  have last : (es.map Prod.fst ++ [name]).idxOf name = (es.map Prod.fst).length := by
    simp [List.idxOf_append_of_notMem fun mem => new ((h.mem name).2 mem)]
  rw [List.mem_singleton.1 hn, last, List.idxOf_append_of_mem known]
  exact List.idxOf_lt_length_of_mem known

theorem insert (name value : Text) : Recalls (es ++ [(name, value)]) (vs.insert name value).2 where
  mem n := by
    rw [names_insert, List.map_append, List.mem_append, ← h.mem]
    split
    case isTrue known =>
      exact ⟨Or.inl, fun later => later.elim id fun last => List.mem_singleton.1 last ▸ known⟩
    case isFalse => exact List.mem_append
  order := by
    rw [names_insert, List.map_append]
    split
    case isTrue => exact h.pairwise_append [name]
    case isFalse new => exact h.pairwise_concat new
  value n v := by
    rw [get?_insert, lastValue_concat]
    split
    case isTrue => rw [Option.some_inj]
    case isFalse => exact h.value n v

theorem size_eq : vs.size = (es.map Prod.fst).toFinset.card := by
  have distinct : vs.names.Nodup := vs.distinct
  have same : (es.map Prod.fst).toFinset = vs.names.toFinset := by
    ext name
    rw [List.mem_toFinset, List.mem_toFinset, h.mem]
  rw [same, List.toFinset_card_of_nodup distinct, names, List.length_map, size]

end Recalls

theorem recalls_ofList (es : List (Text × Text)) : Recalls es (ofList es) := by
  induction es using List.reverseRecOn with
  | nil => exact recalls_empty
  | append_singleton es e ih =>
    rw [ofList_concat]
    exact ih.insert e.1 e.2

theorem Built.recalls {es : List (Text × Text)} {vs : Variables} (built : Built es vs) :
    Recalls es vs := by
  induction built with
  | ofList es => exact recalls_ofList es
  | insert name value _ ih => exact ih.insert name value

/-- However variables come from a history of insertions, they have each of its names once, in the order of
the first insertions and with the values of the last. One more insertion answers the value that the name
had, and changes neither the order nor the values of the others. Which variables are the same is decided
by the values alone. -/
theorem first_place_and_last_value (es : List (Text × Text)) (vs : Variables) (built : Built es vs) :
    (vs.names.Nodup ∧ (∀ name, name ∈ vs.names ↔ name ∈ es.map Prod.fst) ∧
        vs.names.Pairwise (fun m n => (es.map Prod.fst).idxOf m < (es.map Prod.fst).idxOf n) ∧
        ∀ name value, (name, value) ∈ vs.entries ↔ LastValue es name value) ∧
      (∀ name, (∀ value, vs.get? name = some value ↔ LastValue es name value) ∧
        (vs.get? name = none ↔ name ∉ es.map Prod.fst)) ∧
      vs.size = (es.map Prod.fst).toFinset.card ∧
      (∀ name value, let ws := (vs.insert name value).2
        (vs.insert name value).1 = vs.get? name ∧ ws.get? name = some value ∧
          ws.without name = vs.without name ∧ vs.names <+: ws.names) ∧
      ∀ ws : Variables, vs.same ws = true ↔ ∀ name, vs.get? name = ws.get? name := by
  have recalls := built.recalls
  refine ⟨⟨vs.distinct, recalls.mem, recalls.order, ?_⟩, ?_, recalls.size_eq, ?_,
    fun ws => same_iff_get?⟩
  · intro name value
    rw [← get?_eq_some_iff, recalls.value]
  · intro name
    refine ⟨recalls.value name, ?_⟩
    rw [get?_eq_none_iff, recalls.mem]
  · intro name value
    refine ⟨fst_insert vs name value, ?_, without_insert vs name value,
      names_prefix_names_insert vs name value⟩
    exact (get?_insert vs name value name).trans (if_pos rfl)

theorem first_place_and_last_value_of_repeated_names :
    let es : List (Text × Text) := [(['b'], ['1']), (['a'], ['2']), (['b'], ['3'])]
    let vs := (((ofList es).insert ['c'] []).2.insert ['a'] ['4']).2
    let ws := ofList [(['c'], []), (['a'], ['4']), (['b'], ['3'])]
    vs.names = [['b'], ['a'], ['c']] ∧ vs.size = 3 ∧ vs.get? ['b'] = some ['3'] ∧
      vs.get? ['d'] = none ∧ (vs.insert ['a'] ['5']).1 = some ['4'] ∧
      vs.same ws = true ∧ ws.get? ['b'] = some ['3'] := by
  intro es vs ws
  have built : Built (es ++ [(['c'], [])] ++ [(['a'], ['4'])]) vs :=
    .insert ['a'] ['4'] (.insert ['c'] [] (.ofList es))
  obtain ⟨-, values, size, insertions, same⟩ := first_place_and_last_value _ vs built
  have last : vs.get? ['b'] = some ['3'] :=
    ((values ['b']).1 ['3']).2 ⟨es.take 2, [(['c'], []), (['a'], ['4'])], rfl, by decide⟩
  have last' : vs.get? ['a'] = some ['4'] :=
    ((values ['a']).1 ['4']).2 ⟨es ++ [(['c'], [])], [], rfl, by decide⟩
  have agree : vs.same ws = true := by decide
  refine ⟨by decide, size.trans (by decide), last, (values ['d']).2.2 (by decide), ?_, agree, ?_⟩
  · rw [(insertions ['a'] ['5']).1, last']
  · rw [← (same ws).1 agree, last]

end Placeholder.Variables
