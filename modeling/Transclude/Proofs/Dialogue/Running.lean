/-
Running dialogues. What comes of a dialogue that is put together from others is what comes of its parts in a row: one lemma
for the state, the events and the result of each way to put dialogues together.

`answering` is the host that a function is: it answers a request without a state of its own, so that the answer to a request
does not hang on what was asked before.
-/
import Transclude.Dialogue

namespace Transclude.Dialogue

variable {Q A E α β σ : Type}

/-- the host that answers every request by a function -/
def answering (answers : Q → A) (s : Unit) (q : Q) : Run Unit E A := ⟨s, [], answers q⟩

section

variable (host : σ → Q → Run σ E A) (s : σ)

@[simp]
theorem run_pure (a : α) : (pure a : Dialogue Q A E α).run host s = ⟨s, [], a⟩ := rfl

theorem run_andThen (d : Dialogue Q A E α) (f : α → Dialogue Q A E β) :
    (d >>= f).run host s =
      { (f (d.run host s).result).run host (d.run host s).state with
        events := (d.run host s).events ++ ((f (d.run host s).result).run host (d.run host s).state).events } :=
  run_bind host s d f

@[simp]
theorem result_andThen (d : Dialogue Q A E α) (f : α → Dialogue Q A E β) :
    ((d >>= f).run host s).result = ((f (d.run host s).result).run host (d.run host s).state).result := by
  rw [run_andThen]

@[simp]
theorem state_andThen (d : Dialogue Q A E α) (f : α → Dialogue Q A E β) :
    ((d >>= f).run host s).state = ((f (d.run host s).result).run host (d.run host s).state).state := by
  rw [run_andThen]

@[simp]
theorem state_tellAll (events : List E) : ((tellAll events : Dialogue Q A E Unit).run host s).state = s := by
  rw [run_tellAll]

@[simp]
theorem result_request (q : Q) : ((request q : Dialogue Q A E A).run host s).result = (host s q).result := rfl

end

end Transclude.Dialogue
