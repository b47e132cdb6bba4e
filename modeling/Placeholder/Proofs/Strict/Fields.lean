import Placeholder.Proofs.Strict.Resolution
import Placeholder.Proofs.Variables

namespace Placeholder.Strict

variable {mode : MatchMode} {vs ws : Variables} {m : Marker} {s : Text}

theorem missing_of_names (same : ∀ name, name ∈ vs.names ↔ name ∈ ws.names) :
    missing mode vs s = missing mode ws s := by
  apply missing_congr
  intro m _
  simp only [unmatched_iff_names, same]

theorem replaceFields_error_congr {c : Config}
    (same : missing c.matchMode vs s = missing c.matchMode ws s) (f : Fault) :
    (replaceFields c s vs).value = .error f ↔ (replaceFields c s ws).value = .error f := by
  rw [replaceFields_eq_error_iff, replaceFields_eq_error_iff, same]

section Order

/-- Whether the marker leaves no choice between two fields. -/
def Decided (mode : MatchMode) (vs : Variables) (m : Marker) : Prop :=
  ∀ a ∈ vs.names, ∀ b ∈ vs.names, Matches mode m a → Matches mode m b → a = b

theorem decided_exact (vs : Variables) (m : Marker) : Decided .exact vs m := by
  intro a _ b _ (own : a = m.name) (own' : b = m.name)
  rw [own, own']

theorem Decided.resolve?_eq_some_iff (decided : Decided mode vs m) {value : Text} :
    resolve? mode vs m.name = some value ↔
      ∃ name, Matches mode m name ∧ vs.get? name = some value := by
  simp only [Variables.get?_eq_some_iff]
  constructor
  · intro found
    obtain ⟨es, name, fs, entries, matched, -⟩ := Strict.resolve?_eq_some_iff.1 found
    exact ⟨name, matched, by simp [entries]⟩
  · rintro ⟨name, matched, mem⟩
    cases found : resolve? mode vs m.name with
    | none => exact absurd matched (resolve?_eq_none_iff.1 found _ mem)
    | some v =>
      obtain ⟨es, name', fs, entries, matched', -⟩ := Strict.resolve?_eq_some_iff.1 found
      have mem' : (name', v) ∈ vs.entries := by simp [entries]
      obtain rfl : name' = name :=
        decided _ (List.mem_map_of_mem mem') _ (List.mem_map_of_mem mem) matched' matched
      rw [← Variables.get?_eq_some_iff] at mem mem'
      rw [← mem, ← mem']

theorem mem_names_of_same (same : vs.same ws = true) (name : Text) :
    name ∈ vs.names ↔ name ∈ ws.names :=
  ((Variables.perm_of_same same).map Prod.fst).mem_iff

theorem Decided.resolve?_of_same (decided : Decided mode vs m) (same : vs.same ws = true) :
    resolve? mode vs m.name = resolve? mode ws m.name := by
  have decided' : Decided mode ws m := by
    simpa only [Decided, mem_names_of_same same] using decided
  apply Option.ext
  intro value
  rw [decided.resolve?_eq_some_iff, decided'.resolve?_eq_some_iff, Variables.get?_eq_of_same same]

/-- The order of the fields decides nothing if they match exactly, and never which markers are
missing. If they match by containment, it does not decide the text either where no marker contains two
names. -/
theorem replaceFields_of_same (c : Config) (s : Text) (vs ws : Variables)
    (same : vs.same ws = true) :
    (c.matchMode = .exact → replaceFields c s vs = replaceFields c s ws) ∧
      (∀ f, (replaceFields c s vs).value = .error f ↔ (replaceFields c s ws).value = .error f) ∧
      ((∀ m ∈ fields s, ∀ a ∈ vs.names, ∀ b ∈ vs.names, a <:+: m.text → b <:+: m.text → a = b) →
        replaceFields c s vs = replaceFields c s ws) := by
  have of_decided (decided : ∀ m ∈ fields s, Decided c.matchMode vs m) :
      replaceFields c s vs = replaceFields c s ws :=
    replaceFields_congr fun m hm => (decided m hm).resolve?_of_same same
  refine ⟨?_, replaceFields_error_congr (missing_of_names (mem_names_of_same same)), ?_⟩
  · intro exact
    apply of_decided
    intro m _
    rw [exact]
    exact decided_exact vs m
  · intro alone
    apply of_decided
    intro m hm
    cases mode : c.matchMode with
    | exact => exact decided_exact vs m
    | containment => exact alone m hm

theorem replaceFields_of_same_with_nested_name :
    let c : Config := { matchMode := .containment }
    let s : Text := wrap ['a', 'b']
    let t : Text := wrap ['a']
    let vs : Variables := .ofList [(['a'], ['1']), (['a', 'b'], ['2'])]
    let ws : Variables := .ofList [(['a', 'b'], ['2']), (['a'], ['1'])]
    vs.same ws = true ∧ Config.default.matchMode = .exact ∧
      replaceFields .default s vs = replaceFields .default s ws ∧
      (replaceFields c s vs).value = .ok ['1'] ∧ (replaceFields c s ws).value = .ok ['2'] ∧
      (replaceFields c (s ++ wrap ['c']) ws).value = .error (.missingFields [wrap ['c']]) ∧
      replaceFields c t vs = replaceFields c t ws := by
  intro c s t vs ws
  have same : vs.same ws = true := by decide
  obtain ⟨exact, -, -⟩ := replaceFields_of_same .default s vs ws same
  obtain ⟨-, missing, -⟩ := replaceFields_of_same c (s ++ wrap ['c']) vs ws same
  obtain ⟨-, -, alone⟩ := replaceFields_of_same c t vs ws same
  have unknown : Strict.missing c.matchMode vs (s ++ wrap ['c']) = [wrap ['c']] := by
    decide +kernel
  have failed : (replaceFields c (s ++ wrap ['c']) vs).value = .error (.missingFields [wrap ['c']]) :=
    replaceFields_eq_error_iff.2 ⟨by simp [unknown], congrArg _ unknown⟩
  exact ⟨same, rfl, exact rfl, replaceFields_eq_ok_iff.2 (by decide +kernel),
    replaceFields_eq_ok_iff.2 (by decide +kernel), (missing _).1 failed,
    alone (by decide +kernel)⟩

end Order

section Insertion

def StandsFor : MatchMode → Text → Text → Prop
  | .exact, name, text => text = wrap name
  | .containment, name, text => name <:+: text

instance : ∀ (mode : MatchMode) (name text : Text), Decidable (StandsFor mode name text)
  | .exact, name, text => inferInstanceAs (Decidable (text = wrap name))
  | .containment, name, text => inferInstanceAs (Decidable (name <:+: text))

theorem standsFor_text_iff {name : Text} : StandsFor mode name m.text ↔ Matches mode m name := by
  cases mode with
  | exact =>
    constructor
    · intro same
      exact (wrap_injective same).symm
    · rintro rfl
      rfl
  | containment => exact Iff.rfl

theorem unmatched_insert {name value : Text} :
    Unmatched mode (vs.insert name value).2 m ↔ Unmatched mode vs m ∧ ¬ Matches mode m name := by
  rw [unmatched_iff_names, unmatched_iff_names, Variables.names_insert]
  split
  case isTrue known =>
    constructor
    · intro unmatched
      exact ⟨unmatched, unmatched name known⟩
    · exact And.left
  case isFalse =>
    simp only [List.forall_mem_append, List.forall_mem_singleton]

theorem missing_insert (name value : Text) :
    missing mode (vs.insert name value).2 s =
      (missing mode vs s).filter fun text => ¬ StandsFor mode name text := by
  rw [missing_eq, missing_eq, List.filter_map, List.filter_filter]
  congr 1
  apply List.filter_congr
  intro m _
  simp only [Function.comp_apply, ← Bool.decide_and, standsFor_text_iff, unmatched_insert, and_comm]

theorem resolve?_insert {name value n : Text} (absent : name ∉ vs.names)
    (resolved : resolve? mode vs n ≠ none) :
    resolve? mode (vs.insert name value).2 n = resolve? mode vs n := by
  rw [resolve?, Ne, Option.map_eq_none_iff] at resolved
  obtain ⟨e, found⟩ := Option.ne_none_iff_exists'.1 resolved
  rw [resolve?, resolve?, Variables.entries_insert_of_not_mem value absent, List.find?_append, found,
    Option.some_or]

theorem replaceFields_insert_of_missing_eq_nil {c : Config} {name : Text} (value : Text)
    (absent : name ∉ vs.names) (all : missing c.matchMode vs s = []) :
    replaceFields c s (vs.insert name value).2 = replaceFields c s vs := by
  apply replaceFields_congr
  intro m hm
  apply resolve?_insert absent
  rw [Ne, resolve?_eq_none_iff]
  exact (missing_eq_nil_iff c.matchMode vs s).1 all m hm

/-- A new field leaves a text that has been answered as it is. Of markers that are missing it takes
away those that it matches, and if there are no others the template can be filled. A new value for an
old field changes nothing about what is missing. -/
theorem replaceFields_insert (c : Config) (s : Text) (vs : Variables) (name value : Text) :
    let ws := (vs.insert name value).2
    let answer := fun vs => (replaceFields c s vs).value
    (name ∉ vs.names →
      (∀ t, answer vs = .ok t → answer ws = .ok t) ∧
        ∀ f, answer vs = .error f → ∃ ms, f = .missingFields ms ∧
          let left := ms.filter fun text => ¬ StandsFor c.matchMode name text
          (left = [] → ∃ t, answer ws = .ok t) ∧
            (left ≠ [] → answer ws = .error (.missingFields left))) ∧
      (name ∈ vs.names → ∀ f, answer vs = .error f ↔ answer ws = .error f) := by
  intro ws answer
  constructor
  · intro absent
    constructor
    · intro t ok
      have all : missing c.matchMode vs s = [] := (replaceFields_eq_ok_iff.1 ok).1
      have same := replaceFields_insert_of_missing_eq_nil value absent all
      exact (congrArg Logged.value same).trans ok
    · intro f failed
      obtain ⟨-, rfl⟩ := replaceFields_eq_error_iff.1 failed
      refine ⟨_, rfl, ?_⟩
      rw [← missing_insert name value]
      constructor
      · intro all
        exact ⟨_, replaceFields_eq_ok_iff.2 ⟨all, rfl⟩⟩
      · intro others
        exact replaceFields_eq_error_iff.2 ⟨others, rfl⟩
  · intro known
    apply replaceFields_error_congr
    apply missing_of_names
    intro n
    rw [Variables.names_insert, if_pos known]

theorem replaceFields_insert_of_contained_name :
    let c : Config := { matchMode := .containment }
    let s : Text := wrap ['a', 'b']
    let t : Text := wrap ['b'] ++ s ++ wrap ['c']
    let vs : Variables := .ofList [(['a'], ['1'])]
    let ws : Variables := (vs.insert ['b'] ['2']).2
    ['b'] ∉ vs.names ∧ ['a'] ∈ vs.names ∧
      (replaceFields c s vs).value = .ok ['1'] ∧ (replaceFields c s ws).value = .ok ['1'] ∧
      (replaceFields c t vs).value = .error (.missingFields [wrap ['b'], wrap ['c']]) ∧
      (replaceFields c t ws).value = .error (.missingFields [wrap ['c']]) ∧
      (replaceFields c t (vs.insert ['a'] ['3']).2).value =
        .error (.missingFields [wrap ['b'], wrap ['c']]) ∧
      ∃ u, (replaceFields c (wrap ['b']) ws).value = .ok u := by
  intro c s t vs ws
  have absent : ['b'] ∉ vs.names := by decide
  have known : ['a'] ∈ vs.names := by decide
  have ok : (replaceFields c s vs).value = .ok ['1'] :=
    replaceFields_eq_ok_iff.2 (by decide +kernel)
  have unknown : missing c.matchMode vs t = [wrap ['b'], wrap ['c']] := by decide +kernel
  have failed : (replaceFields c t vs).value = .error (.missingFields [wrap ['b'], wrap ['c']]) :=
    replaceFields_eq_error_iff.2 ⟨by simp [unknown], congrArg _ unknown⟩
  have single : missing c.matchMode vs (wrap ['b']) = [wrap ['b']] := by decide +kernel
  have failed' : (replaceFields c (wrap ['b']) vs).value = .error (.missingFields [wrap ['b']]) :=
    replaceFields_eq_error_iff.2 ⟨by simp [single], congrArg _ single⟩
  have kept := ((replaceFields_insert c s vs ['b'] ['2']).1 absent).1 _ ok
  obtain ⟨_, markers, -, others⟩ := ((replaceFields_insert c t vs ['b'] ['2']).1 absent).2 _ failed
  cases markers
  obtain ⟨_, marker, all, -⟩ :=
    ((replaceFields_insert c (wrap ['b']) vs ['b'] ['2']).1 absent).2 _ failed'
  cases marker
  have overwritten := ((replaceFields_insert c t vs ['a'] ['3']).2 known _).1 failed
  exact ⟨absent, known, ok, kept, failed, others (by decide), overwritten, all (by decide)⟩

end Insertion

end Placeholder.Strict
