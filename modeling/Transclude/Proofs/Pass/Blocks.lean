/-
The block of a directive. Resolving a directive asks for one file, and the answer decides which block it becomes.

- `result_resolve`: what comes of a directive is `blockFor` of the answer to the request for its file.
- `directive_of_blockFor`: a block keeps the directive that it stands for, whatever went wrong with it.
- `exists_code_of_blockFor`: what a block of code comes from.
-/
import Mathlib.Tactic
import Transclude.Pass
import Transclude.Proofs.Dialogue.Running

namespace Transclude.Resolver

variable {σ : Type} (r : Resolver)

/-- the block that a directive becomes, by the answer to the request for its file -/
def blockFor (d : Directive) : FileAnswer → Except DigitLimit BlockSegment
  | .error reason => .ok (r.errorBlock ("Error reading file: ".toList ++ reason) d)
  | .ok none => .ok (r.errorBlock ("File not found: ".toList ++ d.path) d)
  | .ok (some content) =>
    match (r.render (Language.ofPath d.path) (excerpt d content)).html with
    | .error reason => .ok (r.errorBlock ("Error rendering file: ".toList ++ reason) d)
    | .ok html => (Block.code d html r.presentation).map fun html => { kind := .code, html, directive := d }

variable (host : σ → Text → Dialogue.Run σ Event FileAnswer) (s : σ)

@[simp]
theorem state_emit (records : List LogRecord) : ((emit records).run host s).state = s :=
  Dialogue.state_tellAll host s _

@[simp]
theorem state_log (threshold : Int) (message : Text) : ((r.log threshold message).run host s).state = s :=
  state_emit host s _

@[simp]
theorem result_reportError (message : Text) (d : Directive) :
    ((r.reportError message d).run host s).result = r.errorBlock message d := by
  simp [reportError]

theorem result_resolveContent (d : Directive) (path content : Text) :
    ((r.resolveContent d path content).run host s).result = r.blockFor d (.ok (some content)) := by
  simp only [resolveContent, blockFor, Dialogue.result_andThen]
  cases (r.render (Language.ofPath d.path) (excerpt d content)).html with
  | error reason => simp
  | ok html => simp

/-- **A directive's block is decided by the answer for its file.** -/
theorem result_resolve (d : Directive) (document : Text) :
    ((r.resolve d document).run host s).result = r.blockFor d (host s (r.target d document)).result := by
  simp only [resolve, Dialogue.result_andThen, state_log, Dialogue.state_tellAll, Dialogue.result_request]
  cases h : (host s (r.target d document)).result with
  | error reason => simp [blockFor]
  | ok content =>
    cases content with
    | none => simp [blockFor]
    | some content => exact result_resolveContent r host _ d _ content

/-- a block stands for the directive that it was made for -/
theorem directive_of_blockFor {d : Directive} {answer : FileAnswer} {b : BlockSegment}
    (h : r.blockFor d answer = .ok b) : b.directive = d := by
  unfold blockFor at h
  split at h
  · cases h; rfl
  · cases h; rfl
  · split at h
    · cases h; rfl
    · rename_i html _
      cases hc : Block.code d html r.presentation with
      | error e => rw [hc] at h; cases h
      | ok markup => rw [hc] at h; cases h; rfl

/-- only a file that was read, and an excerpt of it that was rendered, become a block of code -/
theorem exists_code_of_blockFor {d : Directive} {answer : FileAnswer} {b : BlockSegment} (h : r.blockFor d answer = .ok b)
    (hcode : b.kind = .code) :
    ∃ content html, answer = .ok (some content) ∧ (r.render (Language.ofPath d.path) (excerpt d content)).html = .ok html ∧
      Block.code d html r.presentation = .ok b.html := by
  unfold blockFor at h
  split at h
  · cases h
    cases hcode
  · cases h
    cases hcode
  · rename_i content
    split at h
    · cases h
      cases hcode
    · rename_i html hhtml
      cases hc : Block.code d html r.presentation with
      | error e => rw [hc] at h; cases h
      | ok markup =>
        rw [hc] at h
        cases h
        exact ⟨content, html, rfl, hhtml, hc⟩

end Transclude.Resolver
