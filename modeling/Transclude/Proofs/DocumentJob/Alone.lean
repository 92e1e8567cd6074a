/-
What a job does by itself.

With a tree that stands still, a job has nothing left to choose: its document is there or not, the pass over it asks for its files
and gets them, and the result is written if there is one (`alone`). `Plans` tells that way ahead of a job as a list of requests,
with what comes of it in the end. It is the way of a job as long as every reply is the one that the standing tree gives; and where
something cannot be done to the tree, the job gives up.

- `plans_run`: a job plans to do what it does by itself.
- `result_run`: so this is what comes of a job that has the host to itself.
- `exists_alone`: a job whose pass completes counts what becomes of the texts of its document.
-/
import Transclude.DocumentJob
import Transclude.Proofs.Dialogue.Requests
import Transclude.Proofs.Pass.Commuting

namespace Transclude

/-- the request is to change something -/
def FileRequest.changes : FileRequest → Bool
  | .readDocument _ | .readVault _ => false
  | .makeFolders _ | .writeDocument _ _ => true

namespace DocumentJob

/-- what a tree that stands still says to requests: what is asked for is read in it, and what is to be changed is granted -/
def granted (vault : Vault) (tree : FileTree) : FileRequest → FileReply
  | .readDocument p => (tree.readText .utf8 p).map some
  | .readVault path => vault.read tree path
  | .makeFolders _ | .writeDocument _ _ => .ok none

/-! ## By itself -/

section

variable (job : DocumentJob) (settings : Settings) (r : Resolver) (vault : Vault) (tree : FileTree)

/-- the document of a job -/
def document : Except JobFault Document := do
  let content ← (tree.readText .utf8 job.source).mapError JobFault.file
  (Document.ofMarkup content settings.verbatimTags settings.importToken).mapError fun e => .stopped (.refused (.markup e))

/-- how a pass by itself reads a vault -/
def reader (path : Text) : FileAnswer := passAnswer (vault.read tree path)

/-- what a job makes of its document by itself: a text, and the report of the pass -/
def alone : Except JobFault (Text × Report) := do
  let document ← job.document settings tree
  let outcome := r.passOver (reader vault tree) job.path document
  match outcome.stop with
  | some stop => throw (.stopped stop)
  | none => return (outcome.tree.print, outcome.report)

/-- the paths that the pass of a job by itself asks for -/
def asked : List Text :=
  match job.document settings tree with
  | .error _ => []
  | .ok document => (r.process Document.region job.path document).requests (Dialogue.answering (reader vault tree)) ()

/-- what a job by itself does with its result -/
def delivery : List FileRequest :=
  match job.alone settings r vault tree with
  | .error _ => []
  | .ok (text, _) => [.makeFolders job.target.parent, .writeDocument job.target text]

/-- the requests of a job by itself -/
def planned : List FileRequest :=
  .readDocument job.source :: (job.asked settings r vault tree).map .readVault ++ job.delivery settings r vault tree

end

/-! ## Plans -/

variable {α β : Type} {answer : FileRequest → FileReply}

/-- a job has these requests ahead, and then this result, as long as they are answered so; it gives up where a change fails -/
inductive Plans (answer : FileRequest → FileReply) :
    Progress (Except JobFault α) → List FileRequest → Except JobFault α → Prop where
  | done (result : Except JobFault α) : Plans answer (.done result) [] result
  | tell (event : Event) {rest : Progress (Except JobFault α)} {requests : List FileRequest} {result : Except JobFault α}
      (h : Plans answer rest requests result) : Plans answer (.tell event rest) requests result
  | ask {request : FileRequest} {next : FileReply → Progress (Except JobFault α)} {requests : List FileRequest}
      {result : Except JobFault α}
      (givesUp : request.changes = true → ∀ fault, next (.error fault) = .done (.error (.file fault)))
      (h : Plans answer (next (answer request)) requests result) : Plans answer (.ask request next) (request :: requests) result

theorem plans_tellAll (events : List Event) {d : Progress (Except JobFault α)} {requests : List FileRequest}
    {result : Except JobFault α} (h : Plans answer d requests result) :
    Plans answer (Dialogue.tellAll events >>= fun _ => d) requests result := by
  induction events with
  | nil => exact h
  | cons event events ih => exact .tell event ih

theorem plans_demand {request : FileRequest} {content : Option Text} (hanswer : answer request = .ok content)
    {next : Option Text → Progress (Except JobFault α)} {requests : List FileRequest} {result : Except JobFault α}
    (h : Plans answer (next content) requests result) : Plans answer (demand request next) (request :: requests) result := by
  refine .ask (fun _ fault => rfl) ?_
  rw [hanswer]
  exact h

theorem plans_demand_error {request : FileRequest} {fault : FileFault} (hanswer : answer request = .error fault)
    (next : Option Text → Progress (Except JobFault α)) :
    Plans answer (demand request next) [request] (.error (.file fault)) := by
  refine .ask (fun _ fault => rfl) ?_
  rw [hanswer]
  exact .done _

/-- what a pass asks for comes before what is done with its outcome -/
theorem plans_mapRequests {read : Text → FileAnswer} (hread : ∀ path, read path = passAnswer (answer (.readVault path)))
    (d : Pass β) {f : β → Progress (Except JobFault α)} {requests : List FileRequest} {result : Except JobFault α}
    (h : Plans answer (f (d.run (Dialogue.answering read) ()).result) requests result) :
    Plans answer (d.mapRequests .readVault passAnswer >>= f)
      ((d.requests (Dialogue.answering read) ()).map .readVault ++ requests) result := by
  induction d with
  | done b => exact h
  | tell event rest ih => exact .tell event (ih h)
  | ask path next ih =>
    refine .ask (fun hchanges => nomatch hchanges) ?_
    change Plans answer ((next (passAnswer (answer (.readVault path)))).mapRequests .readVault passAnswer >>= f)
      (((next (read path)).requests (Dialogue.answering read) ()).map .readVault ++ requests) result
    rw [← hread]
    exact ih (read path) h

/-- with a host that answers as planned, what is planned comes of a job -/
theorem Plans.result_run {σ : Type} (host : σ → FileRequest → Dialogue.Run σ Event FileReply) {d : Progress (Except JobFault α)}
    {requests : List FileRequest} {result : Except JobFault α} (h : Plans answer d requests result) {s : σ}
    (hanswers : Dialogue.answers host s requests = requests.map answer) : (d.run host s).result = result := by
  induction h generalizing s with
  | done result => rfl
  | tell event h ih => exact ih hanswers
  | ask givesUp h ih =>
    obtain ⟨hhere, hrest⟩ := List.cons.inj hanswers
    rw [Dialogue.run]
    dsimp only
    rw [hhere]
    exact ih hrest

variable (job : DocumentJob) (settings : Settings) (r : Resolver) (vault : Vault) (tree : FileTree)

/-- **A job plans to do what it does by itself.** -/
theorem plans_run : Plans (granted vault tree) (job.run settings r) (job.planned settings r vault tree)
    ((job.alone settings r vault tree).map (·.2)) := by
  unfold planned delivery alone asked document run
  cases hread : tree.readText .utf8 job.source with
  | error fault => exact plans_demand_error (by rw [granted, hread]; rfl) _
  | ok content =>
    have hgranted : granted vault tree (.readDocument job.source) = .ok (some content) := by rw [granted, hread]; rfl
    cases hdocument : Document.ofMarkup content settings.verbatimTags settings.importToken with
    | error e =>
      simp only [Except.mapError, bind, Except.bind, hdocument]
      refine plans_demand hgranted ?_
      simp only [Option.getD_some, hdocument]
      exact .done _
    | ok document =>
      simp only [Except.mapError, bind, Except.bind, hdocument, List.cons_append]
      refine plans_demand hgranted ?_
      simp only [Option.getD_some, hdocument]
      refine plans_mapRequests (fun path => rfl) _ ?_
      change Plans _ (match (r.passOver (reader vault tree) job.path document).stop with
        | some stop => _
        | none => _) _ _
      cases (r.passOver (reader vault tree) job.path document).stop with
      | some stop => exact .done _
      | none =>
        refine plans_demand rfl (plans_demand rfl ?_)
        exact plans_tellAll _ (.done _)

/-! ## With the host to itself -/

theorem serve_readVault (vault : Vault) (verbosity : Int) (tree : FileTree) (path : Text) :
    (serve vault verbosity tree (.readVault path)).state = tree ∧
      (serve vault verbosity tree (.readVault path)).result = vault.read tree path := by
  simp only [serve]
  cases vault.read tree path with
  | error fault => exact ⟨rfl, rfl⟩
  | ok found => cases found <;> exact ⟨rfl, rfl⟩

/-- a tree stands still while it is read -/
theorem answers_of_reads (verbosity : Int) {requests : List FileRequest} (h : ∀ request ∈ requests, request.changes = false) :
    Dialogue.answers (serve vault verbosity) tree requests = requests.map (granted vault tree) ∧
      Dialogue.stateAfter (serve vault verbosity) tree requests = tree := by
  have hserve : ∀ {request : FileRequest}, request.changes = false →
      (serve vault verbosity tree request).state = tree ∧
        (serve vault verbosity tree request).result = granted vault tree request := by
    intro request hrequest
    cases request with
    | readDocument p => exact ⟨rfl, rfl⟩
    | readVault path => exact serve_readVault vault verbosity tree path
    | makeFolders p => cases hrequest
    | writeDocument p content => cases hrequest
  induction requests with
  | nil => exact ⟨rfl, rfl⟩
  | cons request requests ih =>
    obtain ⟨hhere, hrest⟩ := List.forall_mem_cons.1 h
    obtain ⟨hstate, hresult⟩ := hserve hhere
    obtain ⟨hanswers, hafter⟩ := ih hrest
    rw [Dialogue.answers, Dialogue.stateAfter, hstate, hresult, hanswers, hafter]
    exact ⟨rfl, rfl⟩

/-- **A job that has the host to itself does what it does by itself**, if its result can be written. -/
theorem result_run (verbosity : Int) {later : FileTree} (hmake : tree.makeFolders job.target.parent = (later, none))
    (hwrite : ∀ text, ∃ last, later.writeText job.target text = .ok last) :
    ((job.run settings r).run (serve vault verbosity) tree).result = (job.alone settings r vault tree).map (·.2) := by
  refine (plans_run job settings r vault tree).result_run _ ?_
  have hreads : ∀ request ∈ FileRequest.readDocument job.source :: (job.asked settings r vault tree).map .readVault,
      request.changes = false := by
    refine List.forall_mem_cons.2 ⟨rfl, fun request hmem => ?_⟩
    obtain ⟨path, -, rfl⟩ := List.mem_map.1 hmem
    rfl
  obtain ⟨hanswers, hafter⟩ := answers_of_reads vault tree verbosity hreads
  have hdelivery : Dialogue.answers (serve vault verbosity) tree (job.delivery settings r vault tree) =
      (job.delivery settings r vault tree).map (granted vault tree) := by
    unfold delivery
    split
    · rfl
    · rename_i text report _
      obtain ⟨last, hlast⟩ := hwrite text
      simp only [Dialogue.answers, serve, hmake, hlast, List.map_cons, List.map_nil, granted]
  rw [planned, Dialogue.answers_append, hanswers, hafter, hdelivery, List.map_append]

/-- a job by itself whose pass completes counts what becomes of the texts of its document -/
theorem exists_alone {document : Document} (hdocument : job.document settings tree = .ok document)
    (hclear : ∀ leaf ∈ document.candidates, r.Clear leaf.content) :
    ∃ text, job.alone settings r vault tree =
      .ok (text, Report.ofFates (document.candidates.map (r.fateOf (reader vault tree) job.path))) := by
  have hwell : document.WellNumbered := by
    unfold DocumentJob.document at hdocument
    cases hread : tree.readText .utf8 job.source with
    | error fault =>
      rw [hread] at hdocument
      cases hdocument
    | ok content =>
      simp only [hread, Except.mapError, bind, Except.bind] at hdocument
      split at hdocument
      · cases hdocument
      · rename_i parsed hparsed
        obtain rfl := Except.ok.inj hdocument
        exact Document.wellNumbered_ofMarkup hparsed
  have hstop : (r.passOver (reader vault tree) job.path document).stop = none := Resolver.stop_process hclear ()
  have hreport := (Resolver.passed_passOver hwell hstop).report
  rw [alone, hdocument]
  simp only [bind, Except.bind, hstop, ← hreport]
  exact ⟨_, rfl⟩

end DocumentJob

end Transclude
