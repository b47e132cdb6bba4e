import Placeholder.Proofs.Diagnostic.Outcome
import Placeholder.Proofs.Variables
import Placeholder.Proofs.WellMarked

/-! Substitution of all identifiers at once, and why one variable after the other comes to the same
in a well-marked text: what a turn puts in is inert, so the text stays well marked and the markers
left in it are those of the template. -/

namespace Placeholder

def Text.subst (σ : Text → Option Text) (s : Text) : Text :=
  (Pattern.identifier.cut s).flatMap (Piece.fill fun n => (σ n).getD (wrap n))

def Piece.subst (σ : Text → Option Text) : Piece → List Piece
  | .plain c => [.plain c]
  | .marker n =>
    match σ n with
    | some value => value.map .plain
    | none => [.marker n]

@[simp] theorem subst_nil (σ : Text → Option Text) : Text.subst σ [] = [] :=
  Pattern.fill_nil _ _

theorem subst_cons (σ : Text → Option Text) {c : Char} {s : Text} (h : ¬ Opens (c :: s)) :
    Text.subst σ (c :: s) = c :: Text.subst σ s :=
  Pattern.fill_cons (Pattern.identifier.nameAt_of_not_opens h) _

theorem subst_wrap_append (σ : Text → Option Text) {n : Text} (h : IsIdentifier n) (s : Text) :
    Text.subst σ (wrap n ++ s) = (σ n).getD (wrap n) ++ Text.subst σ s :=
  Pattern.fill_wrap_append (Pattern.identifier_eq_some_iff.2 ⟨h, List.prefix_append _ s⟩) _

@[simp] theorem subst_none (s : Text) : Text.subst (fun _ => none) s = s :=
  Pattern.identifier.flatMap_text_cut s

theorem subst_eq_fill (σ : Text → Option Text) (s : Text) :
    Text.subst σ s = (Pattern.identifier.divide s).fill fun m => (σ m.name).getD m.text :=
  (Pattern.identifier.fill_divide (fun n => (σ n).getD (wrap n)) s).symm

def Text.single (name value : Text) : Text → Option Text := fun n =>
  if n = name then some value else none

theorem Inert.of_single {name value n v : Text} (h : Inert value)
    (found : Text.single name value n = some v) : Inert v := by
  obtain ⟨-, rfl⟩ : n = name ∧ value = v := by simpa [Text.single] using found
  exact h

namespace Marked

section Subst

variable {σ : Text → Option Text} {s : Text} (h : Marked s)
  (inert : ∀ n v, σ n = some v → Inert v)

include h inert

theorem head?_subst (head : (Text.subst σ s).head? = some '{') : s.head? = some '{' := by
  cases h with
  | nil => simp at head
  | plain opens h =>
    rw [subst_cons σ opens] at head
    exact head
  | @marker n s identifier h =>
    rw [subst_wrap_append σ identifier] at head
    cases value : σ n with
    | none => simp [value, wrap] at head
    | some v =>
      have keep := inert n v value
      obtain ⟨c, u, rfl⟩ := List.exists_cons_of_ne_nil keep.ne_nil
      rw [value] at head
      exact absurd head keep.head

theorem not_opens_subst {c : Char} (opens : ¬ Opens (c :: s)) :
    ¬ Opens (c :: Text.subst σ s) := by
  rw [opens_cons_iff] at opens ⊢
  rintro ⟨same, head⟩
  exact opens ⟨same, h.head?_subst inert head⟩

theorem subst : Marked (Text.subst σ s) := by
  induction h with
  | nil =>
    rw [subst_nil]
    exact .nil
  | plain opens h ih =>
    rw [subst_cons σ opens]
    exact .plain (h.not_opens_subst inert opens) ih
  | @marker n s identifier _ ih =>
    rw [subst_wrap_append σ identifier]
    cases value : σ n with
    | none => exact .marker identifier ih
    | some v => exact ih.append ((inert n v value).quiet _)

theorem cut_subst :
    Pattern.identifier.cut (Text.subst σ s) =
      (Pattern.identifier.cut s).flatMap (Piece.subst σ) := by
  induction h with
  | nil => simp
  | plain opens h ih =>
    rw [subst_cons σ opens, Pattern.cut_of_not_opens _ opens,
      Pattern.cut_of_not_opens _ (h.not_opens_subst inert opens), ih]
    rfl
  | @marker n s identifier _ ih =>
    rw [subst_wrap_append σ identifier, Pattern.cut_identifier identifier, List.flatMap_cons, ← ih]
    cases value : σ n with
    | none =>
      simp only [Piece.subst, value]
      exact Pattern.cut_identifier identifier _
    | some v =>
      simp only [Piece.subst, value]
      exact Pattern.cut_append_of_quiet _ ((inert n v value).quiet _)

theorem subst_subst (τ : Text → Option Text) :
    Text.subst τ (Text.subst σ s) = Text.subst (fun n => (σ n).or (τ n)) s := by
  rw [Text.subst, h.cut_subst inert, List.flatMap_assoc, Text.subst]
  congr 1
  funext p
  cases p with
  | plain c => rfl
  | marker n =>
    cases value : σ n with
    | none => simp [Piece.subst, Piece.fill, value]
    | some v => simp [Piece.subst, Piece.fill, value, List.flatMap_map]

end Subst

theorem replace_eq_subst {s : Text} (h : Marked s) {name : Text} (brace : '}' ∉ name)
    (value : Text) : replace name value s = Text.subst (Text.single name value) s := by
  induction h with
  | nil => simp
  | plain opens _ ih =>
    rw [subst_cons _ opens, replace_cons value (fun starts => opens (opens_of_starts starts)), ih]
  | @marker n s identifier _ ih =>
    rw [subst_wrap_append _ identifier, ← ih]
    by_cases same : n = name
    · subst same
      simp [replace_wrap_append, Text.single]
    · rw [replace_wrap_append_of_ne value same brace identifier.clear, Text.single, if_neg same,
        Option.getD_none]

theorem foldl_replace {s : Text} (h : Marked s) {es : List (Text × Text)}
    (names : ∀ e ∈ es, '}' ∉ e.1) (values : ∀ e ∈ es, Inert e.2) :
    es.foldl (fun s e => replace e.1 e.2 s) s = Text.subst (fun n => es.lookup n) s := by
  induction es generalizing s with
  | nil => exact (subst_none s).symm
  | cons e es ih =>
    obtain ⟨name, value⟩ := e
    rw [List.forall_mem_cons] at names values
    have inert : ∀ n v, Text.single name value n = some v → Inert v := fun n v => values.1.of_single
    calc
      es.foldl (fun s e => replace e.1 e.2 s) (replace name value s) =
          es.foldl (fun s e => replace e.1 e.2 s) (Text.subst (Text.single name value) s) := by
        rw [h.replace_eq_subst names.1]
      _ = Text.subst (fun n => es.lookup n) (Text.subst (Text.single name value) s) :=
        ih (h.subst inert) names.2 values.2
      _ = Text.subst (fun n => (Text.single name value n).or (es.lookup n)) s := h.subst_subst inert _
      _ = Text.subst (fun n => ((name, value) :: es).lookup n) s := by
        congr 1
        funext n
        rw [Variables.lookup_cons_eq, Text.single]
        by_cases same : n = name <;> simp [same]

end Marked

namespace Variables

structure Inert (vs : Variables) : Prop where
  names : ∀ n ∈ vs.names, '}' ∉ n
  values : ∀ e ∈ vs.entries, Placeholder.Inert e.2

instance (vs : Variables) : Decidable vs.Inert :=
  decidable_of_iff ((∀ n ∈ vs.names, '}' ∉ n) ∧ ∀ e ∈ vs.entries, Placeholder.Inert e.2)
    ⟨fun h => ⟨h.1, h.2⟩, fun h => ⟨h.names, h.values⟩⟩

namespace Inert

variable {vs ws : Variables} (h : vs.Inert)

include h

theorem get? {n v : Text} (found : vs.get? n = some v) : Placeholder.Inert v :=
  h.values (n, v) (get?_eq_some_iff.1 found)

theorem of_same (same : vs.same ws = true) : ws.Inert := by
  have perm := perm_of_same same
  constructor
  · intro n hn
    exact h.names n ((perm.map Prod.fst).mem_iff.2 hn)
  · intro e he
    exact h.values e (perm.mem_iff.2 he)

theorem renderText_eq_subst {s : Text} (marked : Marked s) :
    renderText s vs = Text.subst vs.get? s :=
  marked.foldl_replace (fun e he => h.names e.1 (List.mem_map_of_mem he)) h.values

end Inert

end Variables

/-- In a well-marked text, inert variables in any order do what replacing every marker of theirs
once, and nothing else, would do. -/
theorem renderText_eq_simultaneous (s : Text) (vs : Variables) (marked : WellMarked s)
    (inert : vs.Inert) :
    ∃ d : Division, d.Cuts s (identifiers s) ∧
      renderText s vs = d.fill (fun m => (vs.get? m.name).getD m.text) ∧
      (∀ c : Config, (substitute c (some s) (some vs)).value.text =
        d.fill fun m => (vs.get? m.name).getD m.text) ∧
      ∀ ws : Variables, vs.same ws = true → renderText s ws = renderText s vs ∧
        ∀ c : Config, (substitute c (some s) (some ws)).value.text =
          (substitute c (some s) (some vs)).value.text := by
  rw [wellMarked_iff_marked] at marked
  have text : renderText s vs = Text.subst vs.get? s := inert.renderText_eq_subst marked
  refine ⟨Pattern.identifier.divide s, Pattern.identifier.cuts_divide s, ?_, ?_, ?_⟩
  · rw [text, subst_eq_fill]
  · intro c
    rw [text_substitute, text, subst_eq_fill]
  · intro ws same
    have other : renderText s ws = renderText s vs := by
      rw [text, (inert.of_same same).renderText_eq_subst marked, Variables.get?_eq_of_same same]
    refine ⟨other, ?_⟩
    intro c
    rw [text_substitute, text_substitute, other]

theorem renderText_swapped_eq_simultaneous :
    let s : Text := '$' :: wrap ['b'] ++ wrap ['a'] ++ wrap ['c'] ++ wrap ['b']
    let vs : Variables := .ofList [(['a'], ['}']), (['b'], ['$', 'x'])]
    let ws : Variables := .ofList [(['b'], ['$', 'x']), (['a'], ['}'])]
    WellMarked s ∧ vs.Inert ∧ vs.same ws = true ∧
      renderText s vs = ['$', '$', 'x', '}'] ++ wrap ['c'] ++ ['$', 'x'] ∧
      renderText s ws = renderText s vs := by
  intro s vs ws
  have marked : WellMarked s := by decide
  have inert : vs.Inert := by decide
  have same : vs.same ws = true := by decide
  obtain ⟨d, -, -, -, order⟩ := renderText_eq_simultaneous s vs marked inert
  exact ⟨marked, inert, same, by decide +kernel, (order ws same).1⟩

end Placeholder
