/-
What is logged does not show in what is done.

A record is called for with a threshold, and whether it is emitted is decided by the verbosity at that moment, in the midst of a
pass. `Utterance` keeps the calls themselves, and `heardAt` is what is heard of them at a verbosity. A part of a pass `Speaks`
when it is one dialogue of utterances at every verbosity, so that nothing but its records can hang on the verbosity.

- `run_heardAt`: what comes of a dialogue that is heard is what is heard of what comes of it.
- `speaks_resolve`, `speaks_spliceFrom`, `speaks_visitAll`: every part of a pass speaks.
- `process_discreet`: at any two verbosities a pass does the same, and the records at the lower one are those at the higher one
  whose threshold is reached.
-/
import Transclude.DocumentJob
import Transclude.Log.Template
import Transclude.Proofs.Pass.Serving
import Transclude.Session

namespace Transclude

/-! ## Calls for records -/

namespace Log

/-- a call for a record -/
inductive Call where
  | debug (threshold : Int) (message : Text)
  | warning (message : Text)
deriving DecidableEq, Repr

namespace Call

/-- the verbosity that the record needs -/
def threshold : Call → Int
  | debug threshold _ => threshold
  | warning _ => warningThreshold

def record : Call → LogRecord
  | debug _ message => ⟨.debug, message⟩
  | warning message => ⟨.warning, message⟩

/-- the record, if it is emitted at a verbosity -/
def emitted (verbosity : Int) : Call → List LogRecord
  | debug threshold message => Log.debug verbosity threshold message
  | warning message => Log.warning verbosity message

theorem emitted_eq (verbosity : Int) (c : Call) :
    c.emitted verbosity = if c.threshold ≤ verbosity then [c.record] else [] := by
  cases c <;> rfl

/-- the records of some calls at a verbosity are those whose thresholds it reaches -/
theorem flatMap_emitted (verbosity : Int) (calls : List Call) :
    calls.flatMap (emitted verbosity) = (calls.filter fun c => c.threshold ≤ verbosity).map record := by
  induction calls with
  | nil => rfl
  | cons c calls ih =>
    rw [List.flatMap_cons, ih, emitted_eq, List.filter_cons]
    by_cases h : c.threshold ≤ verbosity <;> simp [h]

end Call

end Log

/-- what a pass says: what it does, or a call for a record -/
inductive Utterance where
  | read (path : Text)
  | render (language excerpt : Text)
  | call (c : Log.Call)
deriving DecidableEq, Repr

namespace Utterance

/-- what is heard of it at a verbosity -/
def heard (verbosity : Int) : Utterance → List Event
  | read path => [.read path]
  | render language excerpt => [.render language excerpt]
  | call c => (c.emitted verbosity).map Event.record

/-- the call, if it is one -/
def call? : Utterance → Option Log.Call
  | call c => some c
  | _ => none

end Utterance

/-- what is done and not said -/
def Event.isDeed : Event → Bool
  | .record _ => false
  | _ => true

/-- what is done does not hang on the verbosity -/
theorem Utterance.deeds_heard (v w : Int) (us : List Utterance) :
    (us.flatMap (heard v)).filter Event.isDeed = (us.flatMap (heard w)).filter Event.isDeed := by
  have silent : ∀ (u : Int) (c : Log.Call), ((c.emitted u).map Event.record).filter Event.isDeed = [] := by
    intro u c
    rw [List.filter_eq_nil_iff]
    intro e he
    obtain ⟨record, -, rfl⟩ := List.mem_map.1 he
    exact Bool.false_ne_true
  induction us with
  | nil => rfl
  | cons u us ih =>
    rw [List.flatMap_cons, List.flatMap_cons, List.filter_append, List.filter_append, ih]
    cases u with
    | read path => rfl
    | render language excerpt => rfl
    | call c => rw [heard, heard, silent, silent]

theorem Session.recordsOf_append (es more : List Event) : recordsOf (es ++ more) = recordsOf es ++ recordsOf more :=
  List.filterMap_append

theorem Session.recordsOf_map_record (records : List LogRecord) : recordsOf (records.map Event.record) = records := by
  rw [recordsOf, List.filterMap_map]
  exact List.filterMap_some

/-- the records that are heard are those of the calls -/
theorem Utterance.records_heard (v : Int) (us : List Utterance) :
    Session.recordsOf (us.flatMap (heard v)) = (us.filterMap call?).flatMap (Log.Call.emitted v) := by
  induction us with
  | nil => rfl
  | cons u us ih =>
    rw [List.flatMap_cons, Session.recordsOf_append, ih]
    cases u with
    | read path => rfl
    | render language excerpt => rfl
    | call c => rw [heard, Session.recordsOf_map_record, List.filterMap_cons, call?, List.flatMap_cons]

/-! ## Dialogues that are heard -/

namespace Dialogue

variable {Q A E α β σ : Type}

theorem bind_assoc {γ : Type} (d : Dialogue Q A E α) (f : α → Dialogue Q A E β) (g : β → Dialogue Q A E γ) :
    (d.bind f).bind g = d.bind fun a => (f a).bind g := by
  induction d with
  | done a => rfl
  | ask q next ih => simp only [bind, ih]
  | tell e rest ih => simp only [bind, ih]

theorem tellAll_append (es more : List E) :
    (tellAll (es ++ more) : Dialogue Q A E Unit) = (tellAll es).bind fun _ => tellAll more := by
  induction es with
  | nil => rfl
  | cons e es ih => simp only [List.cons_append, tellAll, bind, ih]

/-- what is heard of a dialogue at a verbosity -/
def heardAt (verbosity : Int) : Dialogue Q A Utterance α → Dialogue Q A Event α
  | done a => done a
  | ask q next => ask q fun answer => (next answer).heardAt verbosity
  | tell u rest => (tellAll (u.heard verbosity)).bind fun _ => rest.heardAt verbosity

theorem heardAt_bind (v : Int) (d : Dialogue Q A Utterance α) (f : α → Dialogue Q A Utterance β) :
    (d.bind f).heardAt v = (d.heardAt v).bind fun a => (f a).heardAt v := by
  induction d with
  | done a => rfl
  | ask q next ih => simp only [bind, heardAt, ih]
  | tell u rest ih => simp only [bind, heardAt, ih, bind_assoc]

theorem heardAt_tellAll (v : Int) (us : List Utterance) :
    (tellAll us : Dialogue Q A Utterance Unit).heardAt v = tellAll (us.flatMap (Utterance.heard v)) := by
  induction us with
  | nil => rfl
  | cons u us ih => rw [tellAll, heardAt, ih, List.flatMap_cons, tellAll_append]

/-- what is heard of what comes of a dialogue -/
def Run.heardAt (verbosity : Int) (r : Run σ Utterance α) : Run σ Event α :=
  ⟨r.state, r.events.flatMap (Utterance.heard verbosity), r.result⟩

/-- a host that speaks, heard at a verbosity -/
def hostAt (verbosity : Int) (host : σ → Q → Run σ Utterance A) (s : σ) (q : Q) : Run σ Event A :=
  (host s q).heardAt verbosity

/-- **What comes of a dialogue that is heard is what is heard of what comes of it.** -/
theorem run_heardAt (v : Int) (host : σ → Q → Run σ Utterance A) (s : σ) (d : Dialogue Q A Utterance α) :
    (d.heardAt v).run (hostAt v host) s = (d.run host s).heardAt v := by
  induction d generalizing s with
  | done a => rfl
  | ask q next ih => simp only [heardAt, run, hostAt, Run.heardAt, ih, List.flatMap_append]
  | tell u rest ih => simp only [heardAt, run_bind, run_tellAll, run, ih, Run.heardAt, List.flatMap_cons]

/-- what is asked for does not hang on what is heard -/
theorem requests_heardAt (v : Int) (host : σ → Q → Run σ Utterance A) (s : σ) (d : Dialogue Q A Utterance α) :
    (d.heardAt v).requests (hostAt v host) s = d.requests host s := by
  induction d generalizing s with
  | done a => rfl
  | ask q next ih => exact congrArg (q :: ·) (ih _ _)
  | tell u rest ih => rw [heardAt, requests_bind, requests_tellAll, run_tellAll, List.nil_append, requests, ih]

end Dialogue

/-! ## Passes that speak -/

namespace Resolver

open Dialogue (hostAt)

variable {τ ℓ σ α β : Type}

/-- at every verbosity, a part of a pass is what is heard of one and the same dialogue -/
def Speaks (pass : Int → Pass α) : Prop :=
  ∃ d : Dialogue Text FileAnswer Utterance α, ∀ v, pass v = d.heardAt v

theorem speaks_pure (a : α) : Speaks fun _ => (pure a : Pass α) := ⟨.done a, fun _ => rfl⟩

theorem Speaks.andThen {pass : Int → Pass α} {next : Int → α → Pass β} (h : Speaks pass)
    (h' : ∀ a, Speaks fun v => next v a) : Speaks fun v => pass v >>= next v := by
  obtain ⟨d, hd⟩ := h
  choose f hf using h'
  refine ⟨d.bind f, fun v => ?_⟩
  show (pass v).bind (next v) = _
  rw [Dialogue.heardAt_bind, hd v]
  exact congrArg _ (funext fun a => hf a v)

theorem speaks_request (path : Text) : Speaks fun _ => (Dialogue.request path : Pass FileAnswer) :=
  ⟨Dialogue.request path, fun _ => rfl⟩

theorem speaks_read (path : Text) : Speaks fun _ => (Dialogue.tellAll [.read path] : Pass Unit) :=
  ⟨Dialogue.tellAll [.read path], fun v => (Dialogue.heardAt_tellAll v [.read path]).symm⟩

theorem speaks_render (language excerpt : Text) :
    Speaks fun _ => (Dialogue.tellAll [.render language excerpt] : Pass Unit) :=
  ⟨Dialogue.tellAll [.render language excerpt], fun v => (Dialogue.heardAt_tellAll v [.render language excerpt]).symm⟩

/-- records that are called for are emitted at the verbosities that reach their thresholds -/
theorem speaks_emit (calls : List Log.Call) : Speaks fun v => emit (calls.flatMap (Log.Call.emitted v)) := by
  refine ⟨Dialogue.tellAll (calls.map Utterance.call), fun v => ?_⟩
  show emit _ = _
  rw [Dialogue.heardAt_tellAll, emit, List.flatMap_map, List.map_flatMap]
  rfl

/-- a resolver at a verbosity, whose renderer calls for records of its own -/
def atVerbosity (r : Resolver) (calls : Text → Text → List Log.Call) (verbosity : Int) : Resolver where
  normal := r.normal
  render language text :=
    { records := (calls language text).flatMap (Log.Call.emitted verbosity), html := (r.render language text).html }
  presentation := r.presentation
  verbosity := verbosity
  escaping := r.escaping

variable (r : Resolver) (calls : Text → Text → List Log.Call)

@[simp]
theorem target_atVerbosity (v : Int) (d : Directive) (document : Text) :
    (r.atVerbosity calls v).target d document = r.target d document := rfl

theorem speaks_log (threshold : Int) (message : Text) : Speaks fun v => (r.atVerbosity calls v).log threshold message := by
  have h := speaks_emit [.debug threshold message]
  simp only [List.flatMap_cons, List.flatMap_nil, List.append_nil] at h
  exact h

theorem speaks_reportError (message : Text) (d : Directive) :
    Speaks fun v => (r.atVerbosity calls v).reportError message d := by
  have h := speaks_emit [.warning (message ++ " (".toList ++ d.raw ++ [')'])]
  simp only [List.flatMap_cons, List.flatMap_nil, List.append_nil] at h
  have hblock : Speaks fun _ => pure (r.errorBlock message d) := speaks_pure _
  exact h.andThen fun _ => hblock

theorem speaks_resolveContent (d : Directive) (path content : Text) :
    Speaks fun v => (r.atVerbosity calls v).resolveContent d path content := by
  refine (speaks_render _ _).andThen fun _ => (speaks_emit _).andThen fun _ => ?_
  cases hhtml : (r.render (Language.ofPath d.path) (excerpt d content)).html with
  | error reason =>
    simp only [atVerbosity, hhtml]
    exact (speaks_reportError r calls _ d).andThen fun _ => speaks_pure _
  | ok html =>
    simp only [atVerbosity, hhtml]
    exact (speaks_log r calls _ _).andThen fun _ => speaks_pure _

/-- **Resolving a directive speaks.** -/
theorem speaks_resolve (d : Directive) (document : Text) :
    Speaks fun v => (r.atVerbosity calls v).resolve d document := by
  simp only [resolve, target_atVerbosity]
  refine (speaks_log r calls _ _).andThen fun _ => (speaks_read _).andThen fun _ => (speaks_request _).andThen fun answer => ?_
  cases answer with
  | error reason => exact (speaks_reportError r calls _ d).andThen fun _ => speaks_pure _
  | ok content =>
    cases content with
    | none => exact (speaks_log r calls _ _).andThen fun _ => (speaks_reportError r calls _ d).andThen fun _ => speaks_pure _
    | some content => exact speaks_resolveContent r calls d _ content

theorem speaks_spliceFrom (document t : Text) (cursor : Int) (ps : List Placement) :
    Speaks fun v => (r.atVerbosity calls v).spliceFrom document t cursor ps := by
  induction ps generalizing cursor with
  | nil => exact speaks_pure _
  | cons p ps ih =>
    refine (speaks_resolve r calls p.directive document).andThen fun block => ?_
    cases block with
    | error limit => exact speaks_pure _
    | ok b => exact (ih p.stop).andThen fun _ => speaks_pure _

variable (region : Region τ ℓ) (document : Text)

theorem speaks_visit (p : Progress τ) (leaf : ℓ) : Speaks fun v => (r.atVerbosity calls v).visit region document p leaf := by
  cases hs : Directive.scan (region.content leaf) with
  | error limit =>
    simp only [visit, hs]
    exact speaks_pure _
  | ok found =>
    cases found with
    | nil =>
      simp only [visit, hs]
      exact speaks_pure _
    | cons o found =>
      simp only [visit, hs]
      refine (speaks_log r calls _ _).andThen fun _ => (speaks_spliceFrom r calls document _ 0 _).andThen fun spliced => ?_
      cases spliced with
      | error limit => exact speaks_pure _
      | ok segments =>
        cases hreplace : region.replace p.tree leaf segments with
        | error refusal =>
          simp only [hreplace]
          exact speaks_pure _
        | ok answer =>
          obtain ⟨there, tree⟩ := answer
          cases there with
          | false =>
            simp only [hreplace]
            exact (speaks_log r calls _ _).andThen fun _ => speaks_pure _
          | true =>
            simp only [hreplace]
            exact speaks_pure _

theorem speaks_visitAll (leaves : List ℓ) (p : Progress τ) :
    Speaks fun v => (r.atVerbosity calls v).visitAll region document leaves p := by
  induction leaves generalizing p with
  | nil => exact speaks_pure _
  | cons leaf leaves ih =>
    refine (speaks_visit r calls region document p leaf).andThen fun visited => ?_
    cases visited with
    | error stop => exact speaks_pure _
    | ok p' => exact ih p'

theorem speaks_process (tree : τ) : Speaks fun v => (r.atVerbosity calls v).process region document tree :=
  (speaks_log r calls _ _).andThen fun _ => speaks_visitAll r calls region document _ _

/-! ## Two verbosities -/

/-- at the verbosities `v` and `w` a part of a pass does the same, with the same result; the records at `w` are those of some
calls, and the records at `v` are the ones among these whose thresholds `v` reaches -/
structure Agrees (host : σ → Text → Dialogue.Run σ Utterance FileAnswer) (s : σ) (pass : Int → Pass α) (calls : List Log.Call)
    (v w : Int) : Prop where
  result : ((pass v).run (hostAt v host) s).result = ((pass w).run (hostAt w host) s).result
  state : ((pass v).run (hostAt v host) s).state = ((pass w).run (hostAt w host) s).state
  requests : (pass v).requests (hostAt v host) s = (pass w).requests (hostAt w host) s
  deeds : ((pass v).run (hostAt v host) s).events.filter Event.isDeed =
    ((pass w).run (hostAt w host) s).events.filter Event.isDeed
  louder : Session.recordsOf ((pass w).run (hostAt w host) s).events =
    (calls.filter fun c => c.threshold ≤ w).map Log.Call.record
  quieter : Session.recordsOf ((pass v).run (hostAt v host) s).events =
    ((calls.filter fun c => c.threshold ≤ w).filter fun c => c.threshold ≤ v).map Log.Call.record

/-- the calls for records are the same at all verbosities, and so is everything else; without a connected state the verbosity
is zero -/
def Discreet (host : σ → Text → Dialogue.Run σ Utterance FileAnswer) (s : σ) (pass : Int → Pass α) : Prop :=
  ∃ calls : List Log.Call, ∀ v w : Log.Connection, v.verbosity ≤ w.verbosity →
    Agrees host s pass calls v.verbosity w.verbosity

/-- **What speaks is discreet.** -/
theorem Speaks.discreet {pass : Int → Pass α} (h : Speaks pass)
    (host : σ → Text → Dialogue.Run σ Utterance FileAnswer) (s : σ) : Discreet host s pass := by
  obtain ⟨d, hd⟩ := h
  have hrun : ∀ u, (pass u).run (hostAt u host) s = (d.run host s).heardAt u := fun u => by
    rw [hd u, Dialogue.run_heardAt]
  have hrequests : ∀ u, (pass u).requests (hostAt u host) s = d.requests host s := fun u => by
    rw [hd u, Dialogue.requests_heardAt]
  have hrecords : ∀ u, Session.recordsOf ((pass u).run (hostAt u host) s).events =
      (((d.run host s).events.filterMap Utterance.call?).filter fun c => c.threshold ≤ u).map Log.Call.record := fun u => by
    rw [hrun, Dialogue.Run.heardAt, Utterance.records_heard, Log.Call.flatMap_emitted]
  refine ⟨(d.run host s).events.filterMap Utterance.call?, fun v w hvw => ?_⟩
  refine ⟨?_, ?_, ?_, ?_, hrecords _, ?_⟩
  · rw [hrun, hrun]
    rfl
  · rw [hrun, hrun]
    rfl
  · rw [hrequests, hrequests]
  · rw [hrun, hrun]
    exact Utterance.deeds_heard _ _ _
  · rw [hrecords, List.filter_filter]
    refine congrArg (List.map _) (List.filter_congr fun c _ => ?_)
    by_cases hc : c.threshold ≤ v.verbosity
    · simp [hc, hc.trans hvw]
    · simp [hc]

/-- a highlighter calls for a record where a language has no grammar -/
def highlighterCalls (h : Highlighter) (style language _text : Text) : List Log.Call :=
  match h.background style, h.grammar? language with
  | .ok _, none => [.debug 3 ("No lexer for '".toList ++ language ++ "', using plain text".toList)]
  | _, _ => []

/-- a highlighter's records are the ones it calls for -/
theorem atVerbosity_render (h : Highlighter) (style : Text) (wrap : Bool) (v : Int) :
    (atVerbosity { r with render := h.render style wrap 0 } (highlighterCalls h style) v).render = h.render style wrap v := by
  funext language text
  simp only [atVerbosity, Highlighter.render, highlighterCalls]
  cases h.background style with
  | error e => rfl
  | ok colour =>
    cases h.grammar? language with
    | none => simp [Log.Call.emitted]
    | some grammar => cases grammar <;> rfl

/-- a vault that calls for a record where there is no file -/
def vaultCalls (vault : Vault) (tree : FileTree) (path : Text) : Dialogue.Run FileTree Utterance FileAnswer where
  state := tree
  events :=
    match vault.read tree path with
    | .ok none => [.call (.debug 3 ("Vault has no plain file at '".toList ++ path ++ ['\'']))]
    | _ => []
  result := DocumentJob.passAnswer (vault.read tree path)

/-- a vault's records are the ones it calls for -/
theorem hostAt_vaultCalls (vault : Vault) (v : Int) (tree : FileTree) (path : Text) :
    hostAt v (vaultCalls vault) tree path =
      { DocumentJob.serve vault v tree (.readVault path) with
        result := DocumentJob.passAnswer (DocumentJob.serve vault v tree (.readVault path)).result } := by
  simp only [hostAt, Dialogue.Run.heardAt, vaultCalls, DocumentJob.serve]
  cases vault.read tree path with
  | error fault => rfl
  | ok content =>
    cases content with
    | some content => rfl
    | none =>
      simp only [List.flatMap_cons, List.flatMap_nil, List.append_nil]
      rfl

/-- **Logging does not interfere.** With a reader and a renderer of any kind, which may call for records themselves, resolving a
directive, splicing a text and making a pass over a region are discreet: at any two verbosities they ask for the same files,
render the same excerpts and end in the same way with the same tree and report, and the records at the lower verbosity are, in
order, those at the higher one whose thresholds it reaches. A highlighter and a vault are such a renderer and such a reader. -/
theorem process_discreet (r : Resolver) (calls : Text → Text → List Log.Call)
    (host : σ → Text → Dialogue.Run σ Utterance FileAnswer) (s : σ) (document : Text) :
    (∀ (τ ℓ : Type) (region : Region τ ℓ) (tree : τ),
      Discreet host s fun v => (r.atVerbosity calls v).process region document tree) ∧
    (∀ d : Directive, Discreet host s fun v => (r.atVerbosity calls v).resolve d document) ∧
    (∀ (t : Text) (ps : List Placement), Discreet host s fun v => (r.atVerbosity calls v).splice document t ps) ∧
    (∀ (h : Highlighter) (style : Text) (wrap : Bool) (v : Int),
      (atVerbosity { r with render := h.render style wrap 0 } (highlighterCalls h style) v).render = h.render style wrap v) ∧
    ∀ (vault : Vault) (v : Int) (tree : FileTree) (path : Text),
      hostAt v (vaultCalls vault) tree path =
        { DocumentJob.serve vault v tree (.readVault path) with
          result := DocumentJob.passAnswer (DocumentJob.serve vault v tree (.readVault path)).result } :=
  ⟨fun _ _ region tree => (speaks_process r calls region document tree).discreet host s,
    fun d => (speaks_resolve r calls d document).discreet host s,
    fun t ps => (speaks_spliceFrom r calls document t 0 ps).discreet host s,
    atVerbosity_render r, hostAt_vaultCalls⟩

/-- some files, where every read calls for a record -/
def sayingFiles (s : Unit) (path : Text) : Dialogue.Run Unit Utterance FileAnswer :=
  ⟨s, [.call (.debug 3 path)], someFiles path⟩

/-- at the verbosity one only what went wrong is said, at two how it went as well -/
theorem process_discreet_quiet :
    let pass := fun v => (plainResolver.atVerbosity (fun _ _ => []) v).process Leaves.region [] someLeaves
    let records := fun v => Session.recordsOf ((pass v).run (hostAt v sayingFiles) ()).events
    (records 1).length = 2 ∧ (records 2).length = 7 ∧ ∃ calls, Agrees sayingFiles () pass calls 1 2 := by
  intro pass records
  obtain ⟨calls, hcalls⟩ :=
    (process_discreet plainResolver (fun _ _ => []) sayingFiles () []).1 Leaves _ Leaves.region someLeaves
  have hle : Log.Connection.verbosity ⟨some 1⟩ ≤ Log.Connection.verbosity ⟨some 2⟩ := by decide
  exact ⟨by decide +kernel, by decide +kernel, calls, hcalls ⟨some 1⟩ ⟨some 2⟩ hle⟩

end Resolver

end Transclude
