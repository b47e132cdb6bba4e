import Placeholder.Config.Draft

namespace Placeholder

def Setting.Choice : Setting → Type
  | .policy => Policy
  | .notFoundCheck => NotFoundCheck
  | .matchMode => MatchMode
  | .denyWarnings => Bool

theorem Setting.name_injective {S T : Setting} (h : S.name = T.name) : S = T := by
  have found := named?_eq_some_iff.2 h
  rw [named?_eq_some_iff.2 rfl] at found
  exact Option.some.inj found

namespace Config

def get (c : Config) : (S : Setting) → S.Choice
  | .policy => c.policy
  | .notFoundCheck => c.notFoundCheck
  | .matchMode => c.matchMode
  | .denyWarnings => c.denyWarnings

def only (c : Config) (names : List Text) : Draft where
  policy := if Setting.policy.name ∈ names then some c.policy else none
  notFoundCheck := if Setting.notFoundCheck.name ∈ names then some c.notFoundCheck else none
  matchMode := if Setting.matchMode.name ∈ names then some c.matchMode else none
  denyWarnings := if Setting.denyWarnings.name ∈ names then some c.denyWarnings else none

end Config

namespace Draft

def get? (d : Draft) : (S : Setting) → Option S.Choice
  | .policy => d.policy
  | .notFoundCheck => d.notFoundCheck
  | .matchMode => d.matchMode
  | .denyWarnings => d.denyWarnings

def set (d : Draft) : (S : Setting) → S.Choice → Draft
  | .policy, p => { d with policy := some p }
  | .notFoundCheck, n => { d with notFoundCheck := some n }
  | .matchMode, m => { d with matchMode := some m }
  | .denyWarnings, b => { d with denyWarnings := some b }

theorem get?_set_self (d : Draft) (S : Setting) (a : S.Choice) : (d.set S a).get? S = some a := by
  cases S <;> rfl

theorem get?_set_of_ne {S T : Setting} (h : S ≠ T) (d : Draft) (a : S.Choice) :
    (d.set S a).get? T = d.get? T := by
  cases S <;> cases T <;> first | exact absurd rfl h | rfl

def missing (d : Draft) : Nat := (Setting.all.filter fun S => !d.gives S).length

end Draft

section Members

variable {α : Type} (read? : (S : Setting) → α → Option S.Choice)

/-- Members that give a configuration: each has a setting of its own, and where there is none the
default stands. -/
structure Gives (ms : List (Text × α)) (c : Config) : Prop where
  distinct : (ms.map Prod.fst).Nodup
  given : ∀ e ∈ ms, ∃ S : Setting, e.1 = S.name ∧ read? S e.2 = some (c.get S)
  default : ∀ S : Setting, S.name ∉ ms.map Prod.fst → c.get S = Config.default.get S

variable {read?} in
theorem Gives.of_perm {ms ms' : List (Text × α)} {c : Config} (h : Gives read? ms c)
    (perm : ms.Perm ms') : Gives read? ms' c where
  distinct := (perm.map Prod.fst).nodup_iff.1 h.distinct
  given e mem := h.given e (perm.mem_iff.2 mem)
  default S absent := h.default S fun mem => absent ((perm.map Prod.fst).mem_iff.1 mem)

namespace Draft

def give (d : Draft) (e : Text × α) : Option Draft :=
  match Setting.named? e.1 with
  | none => none
  | some S => if d.gives S then none else (read? S e.2).map (d.set S)

def fill : Draft → List (Text × α) → Option Draft
  | d, [] => some d
  | d, e :: ms => (give read? d e).bind fun d => fill d ms

structure Fills (d : Draft) (ms : List (Text × α)) (d' : Draft) : Prop where
  distinct : (ms.map Prod.fst).Nodup
  given : ∀ e ∈ ms, ∃ S a,
    e.1 = S.name ∧ d.get? S = none ∧ read? S e.2 = some a ∧ d'.get? S = some a
  kept : ∀ S : Setting, S.name ∉ ms.map Prod.fst → d'.get? S = d.get? S

variable {read?}

theorem Fills.cons {d d' : Draft} {e : Text × α} {ms : List (Text × α)} {S : Setting} {a : S.Choice}
    (rest : Fills read? (d.set S a) ms d') (name : e.1 = S.name) (unset : d.get? S = none)
    (read : read? S e.2 = some a) : Fills read? d (e :: ms) d' := by
  -- a setting that is still open behind the first member is none of the first one
  have other {T : Setting} (h : (d.set S a).get? T = none) : S ≠ T := by
    rintro rfl
    rw [get?_set_self] at h
    cases h
  have new : e.1 ∉ ms.map Prod.fst := by
    intro mem
    obtain ⟨e', mem', same⟩ := List.mem_map.1 mem
    obtain ⟨T, -, name', unset', -⟩ := rest.given e' mem'
    exact other unset' (Setting.name_injective (by rw [← name, ← same, name']))
  refine ⟨List.nodup_cons.2 ⟨new, rest.distinct⟩, ?_, ?_⟩
  · intro e' mem
    rcases List.mem_cons.1 mem with rfl | mem
    · refine ⟨S, a, name, unset, read, ?_⟩
      rw [rest.kept S (name ▸ new), get?_set_self]
    · obtain ⟨T, b, name', unset', more⟩ := rest.given e' mem
      rw [get?_set_of_ne (other unset')] at unset'
      exact ⟨T, b, name', unset', more⟩
  · intro T absent
    rw [List.map_cons, List.mem_cons, not_or] at absent
    have differ : S ≠ T := by
      rintro rfl
      exact absent.1 name.symm
    rw [rest.kept T absent.2, get?_set_of_ne differ]

end Draft
end Members

end Placeholder
