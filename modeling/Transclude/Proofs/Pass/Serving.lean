/-
What a pass asks its host for, and what it renders.

`Does` tells the three traces of a part of a pass: the requests it makes, the reads it tells of and the excerpts it renders.
Parts that follow each other have their traces in a row (`Does.andThen`), so each function has one lemma, in the order of calls:
a directive asks for one file (`does_resolve`), a splice goes along its directives, and a pass along the texts.

- `process_serves`: a pass that does not stop early asks for the file of every directive of every candidate, once and in order,
  and for no other; and it renders the excerpts of the files that are there.
-/
import Transclude.Proofs.Dialogue.Requests
import Transclude.Proofs.Pass.Splicing
import Transclude.Proofs.Pass.Visiting

namespace Transclude

open Dialogue (answers stateAfter requests)

/-- the path that an event tells to be read -/
def Event.path? : Event → Option Text
  | .read path => some path
  | _ => none

/-- the language and the excerpt that an event tells to be rendered -/
def Event.excerpt? : Event → Option (Text × Text)
  | .render language excerpt => some (language, excerpt)
  | _ => none

namespace Resolver

variable {σ α β : Type} {host : σ → Text → Dialogue.Run σ Event FileAnswer}

/-- the host tells of nothing but records of its own -/
def OnlyRecords (host : σ → Text → Dialogue.Run σ Event FileAnswer) : Prop :=
  ∀ s path, ∀ e ∈ (host s path).events, ∃ record, e = .record record

/-! ## The traces of a part of a pass -/

/-- from a state of the host on, a part of a pass makes these requests, tells of these reads and renders these excerpts -/
structure Does (host : σ → Text → Dialogue.Run σ Event FileAnswer) (s : σ) (asked told : List Text)
    (shown : List (Text × Text)) (pass : Pass α) : Prop where
  asked : pass.requests host s = asked
  told : (pass.run host s).events.filterMap Event.path? = told
  shown : (pass.run host s).events.filterMap Event.excerpt? = shown

/-- parts that follow each other have their traces in a row -/
theorem Does.andThen {s : σ} {asked told asked' told' : List Text} {shown shown' : List (Text × Text)} {pass : Pass α}
    {next : α → Pass β} (h : Does host s asked told shown pass)
    (h' : Does host (pass.run host s).state asked' told' shown' (next (pass.run host s).result)) :
    Does host s (asked ++ asked') (told ++ told') (shown ++ shown') (pass >>= next) := by
  refine ⟨?_, ?_, ?_⟩
  · rw [Dialogue.requests_andThen, h.asked, h'.asked]
  · rw [Dialogue.run_andThen, List.filterMap_append, h.told, h'.told]
  · rw [Dialogue.run_andThen, List.filterMap_append, h.shown, h'.shown]

/-- a part without traces can stand in front -/
theorem Does.after {s : σ} {asked told : List Text} {shown : List (Text × Text)} {pass : Pass α} {next : α → Pass β}
    (h : Does host s [] [] [] pass)
    (h' : Does host (pass.run host s).state asked told shown (next (pass.run host s).result)) :
    Does host s asked told shown (pass >>= next) := by
  simpa only [List.nil_append] using h.andThen h'

theorem does_pure (s : σ) (a : α) : Does host s [] [] [] (pure a : Pass α) := ⟨rfl, rfl, rfl⟩

/-- records are neither reads nor renderings -/
theorem filterMap_of_records {γ : Type} {f : Event → Option γ} (hf : ∀ record, f (.record record) = none)
    {events : List Event} (h : ∀ e ∈ events, ∃ record, e = .record record) : events.filterMap f = [] := by
  refine List.filterMap_eq_nil_iff.2 fun e he => ?_
  obtain ⟨record, rfl⟩ := h e he
  exact hf record

theorem does_emit (s : σ) (records : List LogRecord) : Does host s [] [] [] (emit records) := by
  have hrecords : ∀ e ∈ records.map Event.record, ∃ record, e = .record record := fun e he => by
    obtain ⟨record, -, rfl⟩ := List.mem_map.1 he
    exact ⟨record, rfl⟩
  refine ⟨Dialogue.requests_tellAll host s _, ?_, ?_⟩ <;>
    rw [emit, Dialogue.run_tellAll, filterMap_of_records (fun _ => rfl) hrecords]

theorem does_log (r : Resolver) (s : σ) (threshold : Int) (message : Text) :
    Does host s [] [] [] (r.log threshold message) :=
  does_emit s _

theorem does_read {s : σ} {asked told : List Text} {shown : List (Text × Text)} (path : Text) {next : Unit → Pass α}
    (h : Does host s asked told shown (next ())) :
    Does host s asked (path :: told) shown (Dialogue.tellAll [.read path] >>= next) :=
  ⟨h.asked, congrArg (path :: ·) h.told, h.shown⟩

theorem does_render {s : σ} {asked told : List Text} {shown : List (Text × Text)} (language text : Text)
    {next : Unit → Pass α} (h : Does host s asked told shown (next ())) :
    Does host s asked told ((language, text) :: shown) (Dialogue.tellAll [.render language text] >>= next) :=
  ⟨h.asked, h.told, congrArg ((language, text) :: ·) h.shown⟩

theorem does_request (hhost : OnlyRecords host) {s : σ} {asked told : List Text} {shown : List (Text × Text)} (path : Text)
    {next : FileAnswer → Pass α} (h : Does host (host s path).state asked told shown (next (host s path).result)) :
    Does host s (path :: asked) told shown (Dialogue.request path >>= next) := by
  have hevents : ((Dialogue.request path >>= next).run host s).events =
      (host s path).events ++ ((next (host s path).result).run host (host s path).state).events := rfl
  refine ⟨congrArg (path :: ·) h.asked, ?_, ?_⟩
  · rw [hevents, List.filterMap_append, filterMap_of_records (fun _ => rfl) (hhost s path), h.told, List.nil_append]
  · rw [hevents, List.filterMap_append, filterMap_of_records (fun _ => rfl) (hhost s path), h.shown, List.nil_append]

theorem does_reportError (r : Resolver) (s : σ) (message : Text) (d : Directive) :
    Does host s [] [] [] (r.reportError message d) :=
  (does_emit s _).after (does_pure _ _)

/-! ## One directive -/

/-- what is rendered for a directive, by the answer to the request for its file -/
def shown? (d : Directive) : FileAnswer → Option (Text × Text)
  | .ok (some content) => some (Language.ofPath d.path, excerpt d content)
  | _ => none

theorem does_resolveContent (r : Resolver) (s : σ) (d : Directive) (path content : Text) :
    Does host s [] [] [(Language.ofPath d.path, excerpt d content)] (r.resolveContent d path content) := by
  refine does_render _ _ ((does_emit _ _).after ?_)
  split
  · exact (does_reportError r _ _ _).after (does_pure _ _)
  · exact (does_log r _ _ _).after (does_pure _ _)

/-- **A directive asks for one file**, and its excerpt is rendered if the file is there. -/
theorem does_resolve (hhost : OnlyRecords host) (r : Resolver) (s : σ) (d : Directive) (document : Text) :
    Does host s [r.target d document] [r.target d document] (shown? d (host s (r.target d document)).result).toList
      (r.resolve d document) := by
  refine (does_log r s _ _).after (does_read _ ?_)
  rw [state_log]
  refine does_request hhost _ ?_
  cases (host s (r.target d document)).result with
  | error reason => exact (does_reportError r _ _ _).after (does_pure _ _)
  | ok content =>
    cases content with
    | none => exact (does_log r _ _ _).after ((does_reportError r _ _ _).after (does_pure _ _))
    | some content => exact does_resolveContent r _ d _ content

/-! ## One text -/

variable (r : Resolver) (document : Text)

/-- the paths that directives mean in a document -/
def targets (ds : List Directive) : List Text := ds.map fun d => r.target d document

/-- what is rendered for directives in a row, by the answers of a host from a state on -/
def shownAll (host : σ → Text → Dialogue.Run σ Event FileAnswer) (s : σ) (ds : List Directive) : List (Text × Text) :=
  (ds.zip (answers host s (r.targets document ds))).filterMap fun (d, answer) => shown? d answer

theorem shownAll_append (s : σ) (ds more : List Directive) :
    r.shownAll document host s (ds ++ more) =
      r.shownAll document host s ds ++ r.shownAll document host (stateAfter host s (r.targets document ds)) more := by
  have hlen : ds.length = (answers host s (r.targets document ds)).length := by
    rw [Dialogue.length_answers, targets, List.length_map]
  have htargets : r.targets document (ds ++ more) = r.targets document ds ++ r.targets document more := List.map_append
  rw [shownAll, htargets, Dialogue.answers_append, List.zip_append hlen, List.filterMap_append]
  rfl

/-- a part of a pass asks for the files of these directives in a row, and for no others -/
def Serves (host : σ → Text → Dialogue.Run σ Event FileAnswer) (s : σ) (ds : List Directive) (pass : Pass α) : Prop :=
  Does host s (r.targets document ds) (r.targets document ds) (r.shownAll document host s ds) pass

variable {r document}

theorem Serves.andThen {s : σ} {ds more : List Directive} {pass : Pass α} {next : α → Pass β}
    (h : Serves r document host s ds pass)
    (h' : Serves r document host (pass.run host s).state more (next (pass.run host s).result)) :
    Serves r document host s (ds ++ more) (pass >>= next) := by
  have hstate : (pass.run host s).state = stateAfter host s (r.targets document ds) := by
    rw [Dialogue.state_run, h.asked]
  have hboth := Does.andThen h h'
  rw [Serves, shownAll_append, ← hstate]
  simpa only [targets, List.map_append] using hboth

theorem serves_pure (s : σ) (a : α) : Serves r document host s [] (pure a : Pass α) := does_pure s a

theorem serves_resolve (hhost : OnlyRecords host) (s : σ) (d : Directive) :
    Serves r document host s [d] (r.resolve d document) := by
  have hshown : r.shownAll document host s [d] = (shown? d (host s (r.target d document)).result).toList := by
    simp only [shownAll, targets, List.map_cons, List.map_nil, answers, List.zip_cons_cons, List.zip_nil_left]
    cases h : shown? d (host s (r.target d document)).result <;> simp [h]
  rw [Serves, hshown]
  exact does_resolve hhost r s d document

/-- a splice that succeeds serves its directives from left to right -/
theorem serves_spliceFrom (hhost : OnlyRecords host) {t : Text} {cursor : Int} {ps : List Placement} {s : σ}
    {segments : List Segment} (h : ((r.spliceFrom document t cursor ps).run host s).result = .ok segments) :
    Serves r document host s (ps.map Placement.directive) (r.spliceFrom document t cursor ps) := by
  induction ps generalizing cursor s segments with
  | nil => exact serves_pure s _
  | cons p ps ih =>
    simp only [spliceFrom, Dialogue.result_andThen] at h
    rw [List.map_cons, ← List.singleton_append]
    refine (serves_resolve hhost s p.directive).andThen ?_
    cases hb : ((r.resolve p.directive document).run host s).result with
    | error e => rw [hb] at h; cases h
    | ok b =>
      simp only [hb, Dialogue.result_andThen, Dialogue.run_pure] at h
      obtain ⟨rest, hrest, -⟩ := Markup.Token.eq_of_map_eq_ok h
      rw [← List.append_nil (ps.map Placement.directive)]
      exact (ih hrest).andThen (serves_pure _ _)

/-! ## All texts -/

variable {τ ℓ : Type} {region : Region τ ℓ}

/-- the directives that are found in a text -/
def directivesIn (t : Text) : List Directive :=
  match Directive.scan t with
  | .ok found => found.map Directive.Occurrence.directive
  | .error _ => []

/-- a visit that goes well serves the directives of its text, whether it is still there or not -/
theorem serves_visit (hhost : OnlyRecords host) {s : σ} {p p' : Progress τ} {leaf : ℓ}
    (h : Visited r region host document s p leaf p') :
    Serves r document host s (directivesIn (region.content leaf)) (r.visit region document p leaf) := by
  -- where a directive is found, the visit is a record, the splice, and what is told of a text that is gone
  have serve : ∀ {found : List Directive.Occurrence} {segments : List Segment},
      Directive.scan (region.content leaf) = .ok found → found ≠ [] →
      (r.spliceRun host document s (region.content leaf) found).result = .ok segments →
      (∃ answer, region.replace p.tree leaf segments = .ok answer) →
      Serves r document host s (directivesIn (region.content leaf)) (r.visit region document p leaf) := by
    rintro found segments hs hne hsplice ⟨⟨there, tree⟩, hreplace⟩
    obtain ⟨o, found, rfl⟩ := List.exists_cons_of_ne_nil hne
    have hds : directivesIn (region.content leaf) =
        ((o :: found).map Placement.ofOccurrence).map Placement.directive ++ [] := by
      rw [List.append_nil, directivesIn, hs, List.map_map]
      rfl
    have hserved := serves_spliceFrom hhost hsplice
    unfold spliceRun at hsplice
    rw [hds]
    simp only [visit, hs]
    refine (does_log r s _ _).after ?_
    rw [state_log]
    refine hserved.andThen ?_
    rw [← splice, hsplice]
    cases there with
    | false =>
      simp only [hreplace]
      exact (does_log r _ _ _).after (serves_pure _ _)
    | true =>
      simp only [hreplace]
      exact serves_pure _ _
  cases h with
  | plain hs =>
    have hds : directivesIn (region.content leaf) = [] := by rw [directivesIn, hs]; rfl
    rw [hds, visit, hs]
    exact serves_pure s _
  | detached hs hne hsplice hreplace => exact serve hs hne hsplice ⟨_, hreplace⟩
  | replaced hs hne hsplice hreplace => exact serve hs hne hsplice ⟨_, hreplace⟩

/-- visits that do not stop early serve the directives of all their texts -/
theorem serves_visitAll (hhost : OnlyRecords host) {leaves : List ℓ} {p : Progress τ} {s : σ}
    (h : ((r.visitAll region document leaves p).run host s).result.stop = none) :
    (∀ leaf ∈ leaves, ∃ found, Directive.scan (region.content leaf) = .ok found) ∧
    Serves r document host s (leaves.flatMap fun leaf => directivesIn (region.content leaf))
      (r.visitAll region document leaves p) := by
  induction leaves generalizing p s with
  | nil => exact ⟨by simp, serves_pure s _⟩
  | cons leaf leaves ih =>
    simp only [visitAll, Dialogue.result_andThen] at h
    cases hv : ((r.visit region document p leaf).run host s).result with
    | error stop => rw [hv] at h; cases h
    | ok p' =>
      simp only [hv] at h
      have hvisited := result_visit_eq_ok_iff.1 hv
      obtain ⟨hscan, hserves⟩ := ih h
      have hhere : ∃ found, Directive.scan (region.content leaf) = .ok found := by
        cases hvisited with
        | plain hs => exact ⟨_, hs⟩
        | detached hs => exact ⟨_, hs⟩
        | replaced hs => exact ⟨_, hs⟩
      refine ⟨List.forall_mem_cons.2 ⟨hhere, hscan⟩, ?_⟩
      rw [List.flatMap_cons]
      refine (serves_visit hhost hvisited).andThen ?_
      rw [hv]
      exact hserves

/-- **What a pass asks for.** In a region of any kind, a pass that does not stop early asks for the files of the directives of
all candidates: one request for each directive, in the order of the texts and from left to right, with the path that it means
in the document, also where its text turns out to be gone. It tells of these reads and no others. What it renders are, in that
order, the excerpts of the files that are there, in the languages of their paths. The candidates are the ones in front of the
pass, so nothing that the pass puts in is ever asked for. -/
theorem process_serves (hhost : OnlyRecords host) (s : σ) (tree : τ)
    (h : ((r.process region document tree).run host s).result.stop = none) :
    (∀ leaf ∈ region.candidates tree, ∃ found, Directive.scan (region.content leaf) = .ok found) ∧
    let ds := (region.candidates tree).flatMap fun leaf => directivesIn (region.content leaf)
    let paths := ds.map fun d => VaultPath.resolve r.normal d.path document
    (r.process region document tree).requests host s = paths ∧
    ((r.process region document tree).run host s).events.filterMap Event.path? = paths ∧
    ((r.process region document tree).run host s).events.filterMap Event.excerpt? =
      (ds.zip (answers host s paths)).filterMap fun (d, answer) =>
        match answer with
        | .ok (some content) =>
          some (Language.ofPath d.path, LineRange.extract { first := d.lineBegin, stop := d.lineEnd } content)
        | _ => none := by
  rw [result_process] at h
  obtain ⟨hscan, hserves⟩ := serves_visitAll hhost h
  have hall : Serves r document host s ((region.candidates tree).flatMap fun leaf => directivesIn (region.content leaf))
      (r.process region document tree) := by
    refine (does_log r s _ _).after ?_
    rw [state_log]
    exact hserves
  exact ⟨hscan, hall.asked, hall.told, hall.shown⟩

/-- a text with one file twice, a text that is gone by the time it is to be replaced, and a text without directives -/
def someLeaves : Leaves where
  contents := ["@import \"a\" \x7bline_begin=1\x7d@import \"a\"".toList, "@import \"c\" @import \"b\"".toList, "@import".toList]
  detached := [1]

theorem process_serves_repeated :
    OnlyRecords (Dialogue.answering someFiles) ∧
    ((plainResolver.process Leaves.region [] someLeaves).run (Dialogue.answering someFiles) ()).result.stop = none ∧
    (plainResolver.process Leaves.region [] someLeaves).requests (Dialogue.answering someFiles) () =
      [['a'], ['a'], ['c'], ['b']] ∧
    ((plainResolver.process Leaves.region [] someLeaves).run (Dialogue.answering someFiles) ()).events.filterMap
      Event.excerpt? = [("text".toList, ['y']), ("text".toList, ['x', '\n', 'y'])] := by
  have hhost : OnlyRecords (Dialogue.answering someFiles) := fun _ _ e he => absurd he List.not_mem_nil
  have hstop : ((plainResolver.process Leaves.region [] someLeaves).run (Dialogue.answering someFiles) ()).result.stop =
      none := by decide +kernel
  obtain ⟨-, hasked, -, hshown⟩ := process_serves hhost () someLeaves hstop
  exact ⟨hhost, hstop, hasked, hshown⟩

end Resolver

end Transclude
