import Mathlib.Logic.Relation
import Placeholder.Yaml.Token.Read

/-! A reading of tokens goes in turns, each of which drops stale candidates and takes a token from
the text. What is answered in the end does not depend on what had been settled before. -/

namespace Placeholder.Yaml.Lexing

variable {s t u : Lexing} {ts : List Placed} {c : Char} {r : Text}

section Candidates

theorem refresh_of_refresh {m : Mark} {o o' : Option Candidate} (h : refresh m o = some o') :
    refresh m o' = some o' := by
  cases o with
  | none =>
    cases h
    rfl
  | some c =>
    rw [refresh] at h
    split at h
    case isTrue =>
      split at h <;> cases h
      rfl
    case isFalse fresh =>
      cases h
      rw [refresh, if_neg fresh]

theorem exists_refresh_of_optional (m : Mark) {o : Option Candidate}
    (optional : ∀ c ∈ o, c.required = false) :
    ∃ o', refresh m o = some o' ∧ ∀ c ∈ o', c.required = false := by
  cases o with
  | none => exact ⟨none, rfl, optional⟩
  | some c =>
    rw [refresh, optional c rfl]
    split
    · exact ⟨none, rfl, fun _ h => by cases h⟩
    · exact ⟨some c, rfl, optional⟩

theorem mapM_refresh_of_mapM_refresh {m : Mark} {os os' : List (Option Candidate)}
    (h : os.mapM (refresh m) = some os') : os'.mapM (refresh m) = some os' := by
  induction os generalizing os' with
  | nil =>
    cases h
    rfl
  | cons o os ih =>
    simp only [List.mapM_cons, Option.bind_eq_bind, Option.bind_eq_some_iff] at h
    obtain ⟨o', first, others, h', same⟩ := h
    cases same
    simp [List.mapM_cons, refresh_of_refresh first, ih h']

theorem dropStale_of_dropStale (h : s.dropStale = some u) : u.dropStale = some u := by
  simp only [dropStale, Option.bind_eq_bind, Option.bind_eq_some_iff] at h
  obtain ⟨candidate, first, outer, others, same⟩ := h
  cases same
  simp [dropStale, refresh_of_refresh first, mapM_refresh_of_mapM_refresh others]

end Candidates

def Solid (c : Char) : Prop := isBreak c = false ∧ c ∉ ['\ufeff', ' ', '\t', '#']

instance (c : Char) : Decidable (Solid c) :=
  inferInstanceAs (Decidable (isBreak c = false ∧ c ∉ ['\ufeff', ' ', '\t', '#']))

theorem gap_of_solid (solid : Solid c) {now : Skipping} (h : now ≠ .comment) (flow keyAllowed : Bool) :
    gap flow now keyAllowed (c :: r) = (keyAllowed, c :: r) := by
  obtain ⟨line, others⟩ := solid
  simp only [List.mem_cons, List.not_mem_nil, not_or, not_false_eq_true, and_true] at others
  simp [gap, line, h, others]

theorem markAt_of_append {v : Text} (h : s.rest = v ++ r) : s.markAt r = s.mark.after v := by
  simp [markAt, h]

theorem moveTo_rest (s : Lexing) : s.moveTo s.rest = s := by
  rw [moveTo, markAt_of_append (v := []) rfl]
  rfl

theorem skipGap_eq_self (h : ∀ now, now ≠ .comment →
    gap s.flow now s.keyAllowed s.rest = (s.keyAllowed, s.rest)) : s.skipGap = s := by
  have start : (if s.mark.column = 0 then Skipping.line else .blanks) ≠ .comment := by
    split <;> simp
  simp only [skipGap, h _ start, moveTo_rest]

theorem skipGap_of_solid (h : s.rest = c :: r) (solid : Solid c) : s.skipGap = s := by
  apply skipGap_eq_self
  intro now outside
  rw [h]
  exact gap_of_solid solid outside _ _

theorem skipGap_of_rest_eq_nil (h : s.rest = []) : s.skipGap = s := by
  apply skipGap_eq_self
  intro now _
  rw [h]
  rfl

theorem unroll_of_columns_eq_nil (h : s.columns = []) (column : Int) : s.unroll column = s := by
  cases s
  cases h
  simp [unroll, closeBlocks]

section Turn

/-- A turn that neither ends the reading nor leaves the text as it is. -/
def Turn (s t : Lexing) : Prop :=
  ∃ u, s.dropStale = some u ∧ u.isFinished = false ∧ u.step = some t ∧
    t.rest.length < s.rest.length

/-- The reading answers these tokens if it is given a turn for each character and two more. -/
def Answers (s : Lexing) (ts : List Placed) : Prop :=
  ∀ n settled, s.rest.length + 2 ≤ n → run n settled s = ts

theorem Turn.answers (turn : Turn s t) (h : Answers t ts) : Answers s ts := by
  obtain ⟨u, fresh, unfinished, step, shorter⟩ := turn
  intro n settled enough
  obtain ⟨n, rfl⟩ : ∃ k, n = k + 1 := ⟨n - 1, by omega⟩
  simp only [run, fresh, unfinished, step]
  exact h n _ (by omega)

theorem answers_of_turns (turns : Relation.ReflTransGen Turn s t) (h : Answers t ts) :
    Answers s ts := by
  induction turns using Relation.ReflTransGen.head_induction_on with
  | refl => exact h
  | head turn _ ih => exact turn.answers ih

theorem turn_of_token (fresh : s.dropStale = some u) (unfinished : u.isFinished = false)
    (columns : u.columns = []) (rest : u.rest = c :: r) (solid : Solid c)
    (token : u.token c r = some t) (shorter : t.rest.length < s.rest.length) : Turn s t := by
  refine ⟨u, fresh, unfinished, ?_, shorter⟩
  rw [step, skipGap_of_solid rest solid, dropStale_of_dropStale fresh]
  simp only [Option.bind_eq_bind, Option.bind_some, unroll_of_columns_eq_nil columns, rest]
  exact token

theorem dropCandidate_of_optional (h : ∀ c ∈ s.candidate, c.required = false) :
    s.dropCandidate = some { s with candidate := none } := by
  rw [dropCandidate]
  split
  case h_1 candidate => cases h _ candidate
  case h_2 => rfl

theorem exists_finish_eq (columns : s.columns = [])
    (optional : ∀ c ∈ s.candidate, c.required = false) :
    ∃ m, s.finish = some { s with
      mark := m, candidate := none, keyAllowed := false,
      tokens := s.tokens ++ [⟨.streamEnd, m, m⟩] } := by
  let m : Mark := if s.mark.column = 0 then s.mark else ⟨s.mark.index, s.mark.line + 1, 0⟩
  let t : Lexing := { s with mark := m }
  have unroll : t.unroll (-1) = t := unroll_of_columns_eq_nil (s := t) columns (-1)
  have drop : t.dropCandidate = some { t with candidate := none } :=
    dropCandidate_of_optional (s := t) optional
  refine ⟨m, ?_⟩
  change ((t.unroll (-1)).dropCandidate.bind fun s =>
    some ({ s with keyAllowed := false }.append .streamEnd)) = _
  rw [unroll, drop]
  rfl

theorem exists_answers_of_rest_eq_nil (fresh : s.dropStale = some u)
    (unfinished : u.isFinished = false) (columns : u.columns = []) (outer : u.outer = [])
    (rest : u.rest = []) (optional : ∀ c ∈ u.candidate, c.required = false) :
    ∃ m, Answers s (u.tokens ++ [⟨.streamEnd, m, m⟩]) := by
  obtain ⟨m, finish⟩ := exists_finish_eq columns optional
  have step : u.step = u.finish := by
    rw [Lexing.step, skipGap_of_rest_eq_nil rest, dropStale_of_dropStale fresh]
    simp only [Option.bind_eq_bind, Option.bind_some, unroll_of_columns_eq_nil columns, rest]
  refine ⟨m, ?_⟩
  intro n settled enough
  -- one turn puts the end of the stream behind the tokens, the other one finds it there
  obtain ⟨n, rfl⟩ : ∃ k, n = k + 2 := ⟨n - 2, by omega⟩
  simp only [run, fresh, unfinished, step, finish]
  simp [dropStale, outer, refresh, isFinished, Lexing.settled]

end Turn

end Placeholder.Yaml.Lexing
