/-
The requests of a dialogue. A run tells what its dialogue and its host tell; what the host is asked on the way is a list of its
own, and the host's answers depend on nothing else.

- `requests_andThen`: the requests of one dialogue and then another are the ones of both in a row.
- `asked_andThen`: the same, where each request comes with the state of the host that it meets.
- `state_run`: a dialogue moves its host only by its requests.
-/
import Transclude.Proofs.Dialogue.Running

namespace Transclude.Dialogue

variable {Q A E α β σ : Type} (host : σ → Q → Run σ E A)

/-- the requests that a run makes, in order -/
def requests (s : σ) : Dialogue Q A E α → List Q
  | done _ => []
  | ask q next => q :: (next (host s q).result).requests (host s q).state
  | tell _ rest => rest.requests s

/-- the answers of a host to requests in a row -/
def answers : σ → List Q → List A
  | _, [] => []
  | s, q :: qs => (host s q).result :: answers (host s q).state qs

/-- the state of a host after requests in a row -/
def stateAfter : σ → List Q → σ
  | s, [] => s
  | s, q :: qs => stateAfter (host s q).state qs

theorem length_answers (s : σ) (qs : List Q) : (answers host s qs).length = qs.length := by
  induction qs generalizing s with
  | nil => rfl
  | cons q qs ih => rw [answers, List.length_cons, List.length_cons, ih]

theorem answers_append (s : σ) (qs more : List Q) :
    answers host s (qs ++ more) = answers host s qs ++ answers host (stateAfter host s qs) more := by
  induction qs generalizing s with
  | nil => rfl
  | cons q qs ih => rw [List.cons_append, answers, answers, stateAfter, ih, List.cons_append]

@[simp]
theorem requests_pure (s : σ) (a : α) : (pure a : Dialogue Q A E α).requests host s = [] := rfl

@[simp]
theorem requests_tellAll (s : σ) (events : List E) : (tellAll events : Dialogue Q A E Unit).requests host s = [] := by
  induction events with
  | nil => rfl
  | cons e events ih => exact ih

theorem requests_bind (s : σ) (d : Dialogue Q A E α) (f : α → Dialogue Q A E β) :
    (d.bind f).requests host s =
      d.requests host s ++ (f (d.run host s).result).requests host (d.run host s).state := by
  induction d generalizing s with
  | done a => rfl
  | ask q next ih => simp only [bind, requests, run, ih, List.cons_append]
  | tell e rest ih => simp only [bind, requests, run, ih]

/-- the requests of one dialogue and then another are the ones of both in a row -/
theorem requests_andThen (s : σ) (d : Dialogue Q A E α) (f : α → Dialogue Q A E β) :
    (d >>= f).requests host s =
      d.requests host s ++ (f (d.run host s).result).requests host (d.run host s).state :=
  requests_bind host s d f

/-- the requests that a run makes, each with the state of the host that it meets -/
def asked (s : σ) : Dialogue Q A E α → List (σ × Q)
  | done _ => []
  | ask q next => (s, q) :: (next (host s q).result).asked (host s q).state
  | tell _ rest => rest.asked s

@[simp]
theorem asked_tellAll (s : σ) (events : List E) : (tellAll events : Dialogue Q A E Unit).asked host s = [] := by
  induction events with
  | nil => rfl
  | cons e events ih => exact ih

theorem asked_bind (s : σ) (d : Dialogue Q A E α) (f : α → Dialogue Q A E β) :
    (d.bind f).asked host s = d.asked host s ++ (f (d.run host s).result).asked host (d.run host s).state := by
  induction d generalizing s with
  | done a => rfl
  | ask q next ih => simp only [bind, asked, run, ih, List.cons_append]
  | tell e rest ih => simp only [bind, asked, run, ih]

theorem asked_andThen (s : σ) (d : Dialogue Q A E α) (f : α → Dialogue Q A E β) :
    (d >>= f).asked host s = d.asked host s ++ (f (d.run host s).result).asked host (d.run host s).state :=
  asked_bind host s d f

/-- a dialogue moves its host only by its requests -/
theorem state_run (s : σ) (d : Dialogue Q A E α) : (d.run host s).state = stateAfter host s (d.requests host s) := by
  induction d generalizing s with
  | done a => rfl
  | ask q next ih => exact ih _ _
  | tell e rest ih => exact ih s

end Transclude.Dialogue
