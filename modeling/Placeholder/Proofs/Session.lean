import Placeholder.Session

namespace Placeholder.Session

def Answer.isFault : Answer → Bool
  | .fault _ => true
  | _ => false

theorem Answer.isFault_iff {a : Answer} : a.isFault = true ↔ ∃ f, a = .fault f := by
  cases a <;> simp [isFault]

section Step

variable {σ : Session} {x : Step} {f : Fault}

theorem conclude_of_fault {r : Except Fault Text} (h : (σ.conclude r).1 = .fault f) :
    (σ.conclude r).2 = σ := by
  cases r with
  | ok t => cases h
  | error e => rfl

theorem step_of_fault (h : (σ.step x).value.1 = .fault f) : (σ.step x).value.2 = σ := by
  cases x with
  | load source =>
    cases read : source.readVariables with
    | ok vs => simp [step, read, Logged.silent] at h
    | error e => simp [step, read, Logged.silent]
  | loadConfig source =>
    cases read : source.readConfig with
    | ok c => simp [step, read, Logged.silent] at h
    | error e => simp [step, read, Logged.silent]
  | validate =>
    cases valid : σ.config.validate with
    | ok c => simp [step, valid, Logged.silent] at h
    | error e => simp [step, valid, Logged.silent]
  | renderText => exact conclude_of_fault h
  | replaceFields => exact conclude_of_fault h
  | render choice => exact conclude_of_fault h
  | _ => cases h

theorem step_of_isFault (h : (σ.step x).value.1.isFault = true) : (σ.step x).value.2 = σ := by
  obtain ⟨f, fault⟩ := Answer.isFault_iff.1 h
  exact step_of_fault fault

end Step

def after (σ : Session) : List Step → Session
  | [] => σ
  | x :: xs => (σ.step x).value.2.after xs

/-- Those of the steps that do not fail when all of them are taken. -/
def kept (σ : Session) : List Step → List Step
  | [] => []
  | x :: xs =>
    let a := (σ.step x).value
    if a.1.isFault then a.2.kept xs else x :: a.2.kept xs

section Run

variable (σ : Session) (xs ys : List Step)

theorem value_run_cons (x : Step) :
    (σ.run (x :: xs)).value = (σ.step x).value.1 :: ((σ.step x).value.2.run xs).value := rfl

theorem value_run_append :
    (σ.run (xs ++ ys)).value = (σ.run xs).value ++ ((σ.after xs).run ys).value := by
  induction xs generalizing σ with
  | nil => rfl
  | cons x xs ih =>
    rw [List.cons_append, value_run_cons, value_run_cons, ih, after, List.cons_append]

variable {σ xs} in
theorem kept_of_isFault {x : Step} (h : (σ.step x).value.1.isFault = true) :
    σ.kept (x :: xs) = σ.kept xs := by
  rw [kept, if_pos h, step_of_isFault h]

variable {σ xs} in
theorem kept_of_not_isFault {x : Step} (h : (σ.step x).value.1.isFault = false) :
    σ.kept (x :: xs) = x :: (σ.step x).value.2.kept xs := by
  simp only [kept, h, Bool.false_eq_true, if_false]

theorem after_kept : σ.after (σ.kept xs) = σ.after xs := by
  induction xs generalizing σ with
  | nil => rfl
  | cons x xs ih =>
    cases h : (σ.step x).value.1.isFault with
    | true => rw [kept_of_isFault h, ih, after, step_of_isFault h]
    | false => rw [kept_of_not_isFault h, after, after, ih]

theorem value_run_kept :
    (σ.run (σ.kept xs)).value = (σ.run xs).value.filter fun a => !a.isFault := by
  -- a step that fails leaves the session that it met, so what follows is the same run without it
  induction xs generalizing σ with
  | nil => rfl
  | cons x xs ih =>
    rw [value_run_cons]
    cases h : (σ.step x).value.1.isFault with
    | true =>
      rw [kept_of_isFault h, ih, step_of_isFault h]
      simp [h]
    | false =>
      rw [kept_of_not_isFault h, value_run_cons, ih]
      simp [h]

/-- Steps that fail leave no trace but their faults. Without them the other steps are answered as
they were, and so is all that follows. -/
theorem value_run_kept_append :
    (σ.run (σ.kept xs ++ ys)).value =
        ((σ.run xs).value.filter fun a => !a.isFault) ++ ((σ.after xs).run ys).value := by
  rw [value_run_append, value_run_kept, after_kept]

end Run

end Placeholder.Session
