/-
Several dialogues with one host. They take turns: in a turn a dialogue makes its next request, goes on with the answer, and
stops before the request after that. Whose turn it is comes from a list of positions, so every interleaving of the requests
is the one of some list.

`run_turn` says that a turn is the beginning of a run. A failure ends the turns of all dialogues; what is left of the others
then stays undone.
-/
import Transclude.Dialogue

namespace Transclude.Dialogue

variable {σ Q Q' A A' E ε α : Type}

/-! ## Requests of another kind -/

/-- the same dialogue with a host that has other requests and answers -/
def mapRequests (ask' : Q → Q') (answer : A' → A) : Dialogue Q A E α → Dialogue Q' A' E α
  | done a => done a
  | ask q next => ask (ask' q) fun reply => (next (answer reply)).mapRequests ask' answer
  | tell e rest => tell e (rest.mapRequests ask' answer)

/-! ## One turn -/

/-- what is told before the next request -/
def leadingEvents : Dialogue Q A E α → List E
  | tell e rest => e :: rest.leadingEvents
  | _ => []

/-- the dialogue from its next request on -/
def settled : Dialogue Q A E α → Dialogue Q A E α
  | tell _ rest => rest.settled
  | d => d

/-- answers the next request and stops before the one after it -/
def turn (host : σ → Q → Run σ E A) (s : σ) : Dialogue Q A E α → Run σ E (Dialogue Q A E α)
  | done a => ⟨s, [], done a⟩
  | ask q next =>
    let asked := host s q
    let rest := next asked.result
    ⟨asked.state, asked.events ++ rest.leadingEvents, rest.settled⟩
  | tell e rest =>
    let rest := rest.turn host s
    { rest with events := e :: rest.events }

theorem run_settled (host : σ → Q → Run σ E A) (s : σ) (d : Dialogue Q A E α) :
    d.run host s =
      { d.settled.run host s with events := d.leadingEvents ++ (d.settled.run host s).events } := by
  induction d with
  | done a => rfl
  | ask q next _ => rfl
  | tell e rest ih => simp only [run, leadingEvents, settled, ih, List.cons_append]

/-- a turn is the beginning of a run -/
theorem run_turn (host : σ → Q → Run σ E A) (s : σ) (d : Dialogue Q A E α) :
    d.run host s =
      { (d.turn host s).result.run host (d.turn host s).state with
        events := (d.turn host s).events ++ ((d.turn host s).result.run host (d.turn host s).state).events } := by
  induction d with
  | done a => rfl
  | ask q next _ =>
    simp only [run, turn, List.append_assoc]
    rw [run_settled host _ (next (host s q).result)]
  | tell e rest ih => simp only [run, turn, ih, List.cons_append]

/-! ## Several dialogues -/

/-- the failure that a dialogue has ended in -/
def failure? : Dialogue Q A E (Except ε α) → Option ε
  | done (.error e) => some e
  | _ => none

/-- gives turns to dialogues at these positions, until one of the dialogues has failed -/
def turns (host : σ → Q → Run σ E A) :
    (order : List Nat) → σ → List (Dialogue Q A E (Except ε α)) → Run σ E (List (Dialogue Q A E (Except ε α)))
  | [], s, ds => ⟨s, [], ds⟩
  | i :: order, s, ds =>
    match ds.findSome? failure?, ds[i]? with
    | some _, _ => ⟨s, [], ds⟩
    | none, none => turns host order s ds
    | none, some d =>
      let taken := d.turn host s
      let rest := turns host order taken.state (ds.set i taken.result)
      { rest with events := taken.events ++ rest.events }

/-- runs dialogues one after another, until one fails -/
def runAll (host : σ → Q → Run σ E A) : σ → List (Dialogue Q A E (Except ε α)) → Run σ E (Except ε (List α))
  | s, [] => ⟨s, [], .ok []⟩
  | s, d :: ds =>
    let first := d.run host s
    match first.result with
    | .error e => ⟨first.state, first.events, .error e⟩
    | .ok a =>
      let rest := runAll host first.state ds
      ⟨rest.state, first.events ++ rest.events, rest.result.map (a :: ·)⟩

/-- runs dialogues side by side: turns at these positions, and then what is left of each dialogue in order -/
def runTogether (host : σ → Q → Run σ E A) (order : List Nat) (s : σ) (ds : List (Dialogue Q A E (Except ε α))) :
    Run σ E (Except ε (List α)) :=
  let begun := turns host order s ds
  match begun.result.findSome? failure? with
  | some e => ⟨begun.state, begun.events, .error e⟩
  | none =>
    let rest := runAll host begun.state begun.result
    ⟨rest.state, begun.events ++ rest.events, rest.result⟩

end Transclude.Dialogue
