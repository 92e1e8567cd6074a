/-
Computations that talk to a host. A dialogue asks its host for things one at a time, goes on with the answers, and tells
what it does on the way. It is data: the same dialogue can be run against a fixed table of answers, against a tree of
files, or a step at a time between the steps of other dialogues.

`run` runs a dialogue to its end; `run_bind` says that running one dialogue after another is running them in a row.
-/

namespace Transclude

/-- a computation with requests `Q`, answers `A`, events `E` and a result -/
inductive Dialogue (Q A E : Type) (α : Type) where
  | done (result : α)
  | ask (request : Q) (next : A → Dialogue Q A E α)
  | tell (event : E) (rest : Dialogue Q A E α)

namespace Dialogue

variable {Q A E α β : Type}

/-- one dialogue and then another one that depends on its result -/
def bind : Dialogue Q A E α → (α → Dialogue Q A E β) → Dialogue Q A E β
  | done a, f => f a
  | ask q next, f => ask q fun answer => (next answer).bind f
  | tell e rest, f => tell e (rest.bind f)

instance : Monad (Dialogue Q A E) where
  pure := done
  bind := bind

/-- a request by itself -/
def request (q : Q) : Dialogue Q A E A := ask q done

/-- some events by themselves -/
def tellAll : List E → Dialogue Q A E Unit
  | [] => done ()
  | e :: events => tell e (tellAll events)

/-- what comes of a dialogue: the state of the host after it, everything that was told, and the result -/
structure Run (σ E α : Type) where
  state : σ
  events : List E
  result : α

/-- runs a dialogue against a host, which answers a request in a state and may tell events of its own -/
def run {σ : Type} (host : σ → Q → Run σ E A) (s : σ) : Dialogue Q A E α → Run σ E α
  | done a => ⟨s, [], a⟩
  | ask q next =>
    let asked := host s q
    let rest := (next asked.result).run host asked.state
    { rest with events := asked.events ++ rest.events }
  | tell e rest =>
    let rest := rest.run host s
    { rest with events := e :: rest.events }

/-- running one dialogue after another is running them in a row -/
theorem run_bind {σ : Type} (host : σ → Q → Run σ E A) (s : σ) (d : Dialogue Q A E α) (f : α → Dialogue Q A E β) :
    (d.bind f).run host s =
      { (f (d.run host s).result).run host (d.run host s).state with
        events := (d.run host s).events ++ ((f (d.run host s).result).run host (d.run host s).state).events } := by
  induction d generalizing s with
  | done a => simp [bind, run]
  | ask q next ih => simp [bind, run, ih, List.append_assoc]
  | tell e rest ih => simp [bind, run, ih]

theorem run_tellAll {σ : Type} (host : σ → Q → Run σ E A) (s : σ) (events : List E) :
    (tellAll events).run host s = ⟨s, events, ()⟩ := by
  induction events with
  | nil => rfl
  | cons e events ih => simp [tellAll, run, ih]

end Dialogue

end Transclude
