/-
Jobs side by side.

What the jobs of a run bring into a tree are folders outside of the vault and, for each job, its own result where its target leads
(`Brings`). If the targets lead to files of their own, outside of the vault and none of them a document (`Apart`), then the files
that a job reads are as they were in the beginning, whatever the others have done. So the job gets the replies that it plans for
(`Underway`), or it fails where the tree does not let it make a change.

- `grows_serve`: one request keeps a job on its way, or lets it fail.
- `kept_serve`: it keeps every other job on its way, too.
- `renderAll_independent`: jobs side by side do what each of them does by itself.
-/
import Transclude.Proofs.Dialogue.Interleaving
import Transclude.Proofs.DocumentJob.Alone
import Transclude.Proofs.FileTree.Changing
import Transclude.Stage

namespace Transclude

open FileTree (Grows IsName)

namespace DocumentJob

variable {settings : Settings} {r : Resolver} {vault : Vault} {tree : FileTree} {jobs : List DocumentJob}

/-! ## What a job brings -/

/-- what a job brings into a tree: folders outside of the vault, and its own result where its target leads -/
def Brings (job : DocumentJob) (settings : Settings) (r : Resolver) (vault : Vault) (tree : FileTree) (loc : Location)
    (node : FileNode) : Prop :=
  (node = .folder ∧ ¬ vault.root <+: loc) ∨ ∃ text report, job.alone settings r vault tree = .ok (text, report) ∧
    tree.LeadsTo job.target loc ∧ node = .file (.ok (Encoding.encodeText text))

/-- a job whose document is there, and whose target has a name in a folder that is there or can be made -/
structure Ready (job : DocumentJob) (tree : FileTree) : Prop where
  source : ∃ loc content, tree.find job.source = .ok (loc, .file content)
  target : ∃ folder name, tree.Grounded folder ∧ IsName name ∧ job.target = folder.child name

/-- jobs that keep out of a vault and out of each other's way -/
structure Apart (settings : Settings) (r : Resolver) (vault : Vault) (tree : FileTree) (jobs : List DocumentJob) : Prop where
  /-- no target leads into the vault -/
  outside : ∀ job ∈ jobs, ∀ loc, tree.LeadsTo job.target loc → ¬ vault.root <+: loc
  /-- no two targets lead to one file -/
  distinct : jobs.Pairwise fun job other => ∀ loc, tree.LeadsTo job.target loc → ¬ tree.LeadsTo other.target loc
  /-- no target leads to a document -/
  unread : ∀ job ∈ jobs, ∀ other ∈ jobs, ∀ loc, tree.LeadsTo job.target loc → ¬ tree.LeadsTo other.source loc
  /-- no directive leads into a link that leads back to itself -/
  followed : ∀ job ∈ jobs, ∀ path ∈ job.asked settings r vault tree, tree.Follows (vault.hostPath path)

/-- what the jobs bring -/
def AllBring (settings : Settings) (r : Resolver) (vault : Vault) (tree : FileTree) (jobs : List DocumentJob) (loc : Location)
    (node : FileNode) : Prop :=
  ∃ job ∈ jobs, job.Brings settings r vault tree loc node

/-- the result of a job is where its target leads -/
def Written (job : DocumentJob) (settings : Settings) (r : Resolver) (vault : Vault) (tree now : FileTree) : Prop :=
  ∀ text report, job.alone settings r vault tree = .ok (text, report) →
    ∃ loc, now.find job.target = .ok (loc, .file (.ok (Encoding.encodeText text)))

/-- a job has made the first of its planned requests and has the others ahead -/
def Underway (job : DocumentJob) (settings : Settings) (r : Resolver) (vault : Vault) (tree now : FileTree)
    (d : Progress (Except JobFault Report)) : Prop :=
  ∃ made ahead, job.planned settings r vault tree = made ++ ahead ∧
    Plans (granted vault tree) d ahead ((job.alone settings r vault tree).map (·.2)) ∧
    ((∃ content, .writeDocument job.target content ∈ made) → job.Written settings r vault tree now)

/-- a job is on its way, or it has failed -/
def Known (settings : Settings) (r : Resolver) (vault : Vault) (tree : FileTree) (jobs : List DocumentJob) (i : ℕ)
    (now : FileTree) (d : Progress (Except JobFault Report)) : Prop :=
  ∃ job, jobs[i]? = some job ∧ ((∃ fault, d = .done (.error fault)) ∨ job.Underway settings r vault tree now d)

/-- the requests that a job plans are for its own files -/
theorem mem_planned {job : DocumentJob} {request : FileRequest} (h : request ∈ job.planned settings r vault tree) :
    request = .readDocument job.source ∨ (∃ path ∈ job.asked settings r vault tree, request = .readVault path) ∨
      ∃ text report, job.alone settings r vault tree = .ok (text, report) ∧
        (request = .makeFolders job.target.parent ∨ request = .writeDocument job.target text) := by
  unfold planned delivery at h
  rcases List.mem_append.1 h with h | h
  · rcases List.mem_cons.1 h with h | h
    · exact .inl h
    · obtain ⟨path, hpath, rfl⟩ := List.mem_map.1 h
      exact .inr (.inl ⟨path, hpath, rfl⟩)
  · cases halone : job.alone settings r vault tree with
    | error fault => rw [halone] at h; cases h
    | ok result =>
      rw [halone] at h
      exact .inr (.inr ⟨result.1, result.2, rfl, by simpa using h⟩)

/-- folders for a target that does not lead into the vault are not made in the vault -/
theorem grows_makeFolders {job : DocumentJob} {now : FileTree} (hready : job.Ready now) (hwf : now.WellFormed)
    (houtside : ∀ loc, now.LeadsTo job.target loc → ¬ vault.root <+: loc) :
    Grows (fun loc node => node = .folder ∧ ¬ vault.root <+: loc) now (now.makeFolders job.target.parent).1 := by
  obtain ⟨folder, name, hground, hname, htarget⟩ := hready.target
  have hparent : job.target.parent = folder := by rw [htarget, FilePath.parent, FilePath.child, List.dropLast_concat]
  rw [hparent]
  refine (FileTree.grows_makeFolders hwf hground).mono ?_
  rintro loc node ⟨hfolder, hway⟩
  refine ⟨hfolder, fun hbelow => ?_⟩
  obtain ⟨real, hprefix, hleads⟩ := hway [name] (by simpa using hname)
  exact houtside real (htarget ▸ hleads) (hbelow.trans hprefix)

/-! ## On the way -/

variable {job : DocumentJob} {now later : FileTree} {request : FileRequest}
  {next : FileReply → Progress (Except JobFault Report)}

theorem Underway.mem_planned (h : job.Underway settings r vault tree now (.ask request next)) :
    request ∈ job.planned settings r vault tree := by
  obtain ⟨made, ahead, hplanned, hplans, -⟩ := h
  cases hplans with
  | ask _ _ => simp [hplanned]

theorem Underway.givesUp (h : job.Underway settings r vault tree now (.ask request next)) (hchanges : request.changes = true)
    (fault : FileFault) : next (.error fault) = .done (.error (.file fault)) := by
  obtain ⟨made, ahead, -, hplans, -⟩ := h
  cases hplans with
  | ask givesUp _ => exact givesUp hchanges fault

/-- a job that gets the reply it plans for stays on its way -/
theorem Underway.answered (h : job.Underway settings r vault tree now (.ask request next)) {reply : FileReply}
    (hreply : reply = granted vault tree request)
    (hkept : job.Written settings r vault tree now → job.Written settings r vault tree later)
    (hwrites : ∀ content, request = .writeDocument job.target content → job.Written settings r vault tree later) :
    job.Underway settings r vault tree later (next reply) := by
  obtain ⟨made, ahead, hplanned, hplans, hwritten⟩ := h
  cases hplans with
  | @ask _ _ ahead _ _ hahead =>
    refine ⟨made ++ [request], ahead, ?_, hreply ▸ hahead, ?_⟩
    · rw [hplanned, List.append_assoc]
      rfl
    · rintro ⟨content, hmem⟩
      rcases List.mem_append.1 hmem with hmem | hmem
      · exact hkept (hwritten ⟨content, hmem⟩)
      · exact hwrites content (List.mem_singleton.1 hmem).symm

/-- the result of a job stays if nothing comes in its place -/
theorem Written.of_grows {before brings : Location → FileNode → Prop} (hnow : Grows before tree now)
    (hgrows : Grows brings now later) (hfree : ∀ loc content, tree.LeadsTo job.target loc → ¬ brings loc (.file content))
    (h : job.Written settings r vault tree now) : job.Written settings r vault tree later := by
  intro text report halone
  obtain ⟨loc, hfind⟩ := h text report halone
  have hleads := hnow.leadsTo_iff.1 (FileTree.leadsTo_of_locate (FileTree.find_eq_ok_iff.1 hfind).1)
  exact ⟨loc, FileTree.find_of_grows hgrows hfind fun content => hfree loc content hleads⟩

/-! ## One request -/

section

variable (hwf : tree.WellFormed) (hroot : jobs ≠ [] → tree.node? vault.root = some .folder)
  (hready : ∀ job ∈ jobs, job.Ready tree)
  (hapart : Apart settings r vault tree jobs) (hnow : Grows (AllBring settings r vault tree jobs) tree now)

include hapart in
/-- nothing comes into the vault -/
theorem Apart.not_below {loc : Location} {node : FileNode} (h : AllBring settings r vault tree jobs loc node) :
    ¬ vault.root <+: loc := by
  obtain ⟨job, hjob, ⟨-, houtside⟩ | ⟨text, report, -, hleads, -⟩⟩ := h
  · exact houtside
  · exact hapart.outside job hjob loc hleads

include hapart in
/-- nothing comes in the place of a document -/
theorem Apart.not_source (hjob : job ∈ jobs) {loc : Location} (hleads : tree.LeadsTo job.source loc)
    (content : Except MediumFault (List UInt8)) : ¬ AllBring settings r vault tree jobs loc (.file content) := by
  rintro ⟨other, hother, ⟨hfolder, -⟩ | ⟨text, report, -, hleads', -⟩⟩
  · cases hfolder
  · exact hapart.unread other hother job hjob loc hleads' hleads

include hready hapart hnow in
theorem Ready.of_grows (hjob : job ∈ jobs) : job.Ready now := by
  obtain ⟨⟨loc, content, hsource⟩, folder, name, hground, hname, htarget⟩ := hready job hjob
  have hleads := FileTree.leadsTo_of_locate (FileTree.find_eq_ok_iff.1 hsource).1
  exact ⟨⟨loc, content, FileTree.find_of_grows hnow hsource (hapart.not_source hjob hleads)⟩, folder, name,
    hground.of_grows hnow, hname, htarget⟩

include hwf hroot hready hapart hnow in
/-- **A request keeps a job on its way, or lets it fail**, and brings nothing but what the job brings. -/
theorem grows_serve (hjob : job ∈ jobs) (verbosity : Int)
    (h : job.Underway settings r vault tree now (.ask request next)) :
    Grows (job.Brings settings r vault tree) now (serve vault verbosity now request).state ∧
      ((∃ fault, next (serve vault verbosity now request).result = .done (.error fault)) ∨
        job.Underway settings r vault tree (serve vault verbosity now request).state
          (next (serve vault verbosity now request).result)) := by
  have hgivesUp := h.givesUp
  rcases mem_planned h.mem_planned with rfl | ⟨path, hpath, rfl⟩ | ⟨text, report, halone, rfl | rfl⟩
  · -- the document is as it was
    have hsame : now.readText .utf8 job.source = tree.readText .utf8 job.source := by
      obtain ⟨loc, content, hsource⟩ := (hready job hjob).source
      have hleads := FileTree.leadsTo_of_locate (FileTree.find_eq_ok_iff.1 hsource).1
      exact FileTree.readText_of_grows hnow hsource (hapart.not_source hjob hleads) .utf8
    refine ⟨.refl _ hnow.wellFormed, .inr (h.answered ?_ id (by rintro content ⟨⟩))⟩
    rw [serve, granted, hsame]
  · -- and so is the vault
    obtain ⟨hstate, hresult⟩ := serve_readVault vault verbosity now path
    have hsame : vault.read now path = vault.read tree path :=
      FileTree.read_of_grows hnow hwf (hroot (List.ne_nil_of_mem hjob)) (fun _ _ => hapart.not_below)
        (hapart.followed job hjob path hpath)
    rw [hstate, hresult]
    exact ⟨.refl _ hnow.wellFormed, .inr (h.answered hsame id (by rintro content ⟨⟩))⟩
  · have hgrows := grows_makeFolders (Ready.of_grows hready hapart hnow hjob) hnow.wellFormed
      fun loc hleads => hapart.outside job hjob loc (hnow.leadsTo_iff.1 hleads)
    simp only [serve]
    cases hmake : now.makeFolders job.target.parent with
    | mk later fault? =>
      rw [hmake] at hgrows
      have hbrings : Grows (job.Brings settings r vault tree) now later := hgrows.mono fun loc node hfolder => .inl hfolder
      cases fault? with
      | some fault => exact ⟨hbrings, .inl ⟨_, hgivesUp rfl fault⟩⟩
      | none =>
        refine ⟨hbrings, .inr (h.answered rfl (Written.of_grows hnow hgrows ?_) (by rintro content ⟨⟩))⟩
        rintro loc content - ⟨⟨⟩, -⟩
  · simp only [serve]
    cases hwrite : now.writeText job.target text with
    | error fault => exact ⟨.refl _ hnow.wellFormed, .inl ⟨_, hgivesUp rfl fault⟩⟩
    | ok later =>
      obtain ⟨loc, hfind, hleads, hgrows⟩ := FileTree.grows_writeText hnow.wellFormed hwrite
      have hwritten : job.Written settings r vault tree later := by
        intro text' report' halone'
        obtain ⟨rfl, -⟩ := Prod.mk.inj (Except.ok.inj (halone.symm.trans halone'))
        exact ⟨loc, hfind⟩
      refine ⟨hgrows.mono ?_, .inr (h.answered rfl (fun _ => hwritten) fun _ _ => hwritten)⟩
      rintro place node ⟨rfl, rfl⟩
      exact .inr ⟨text, report, halone, hnow.leadsTo_iff.1 hleads, rfl⟩

include hapart in
/-- what one job brings does not come in the place of another one's result -/
theorem Apart.not_target {i j : ℕ} (hne : j ≠ i) {other : DocumentJob} (hjob : jobs[i]? = some job)
    (hother : jobs[j]? = some other) {loc : Location} (hleads : tree.LeadsTo other.target loc)
    (content : Except MediumFault (List UInt8)) :
    ¬ job.Brings settings r vault tree loc (.file content) := by
  rintro (⟨hfolder, -⟩ | ⟨text, report, -, hleads', -⟩)
  · cases hfolder
  · obtain ⟨hi, rfl⟩ := List.getElem?_eq_some_iff.1 hjob
    obtain ⟨hj, rfl⟩ := List.getElem?_eq_some_iff.1 hother
    have hdistinct := List.pairwise_iff_getElem.1 hapart.distinct
    rcases Nat.lt_or_gt_of_ne hne with hlt | hgt
    · exact hdistinct j i hj hi hlt loc hleads hleads'
    · exact hdistinct i j hi hj hgt loc hleads' hleads

/-! ## Many requests -/

include hwf hroot hready hapart in
/-- **Every request keeps every job on its way.** -/
theorem kept_serve (verbosity : Int) :
    Dialogue.Kept (serve vault verbosity) (Grows (AllBring settings r vault tree jobs) tree)
      (Known settings r vault tree jobs) := by
  have hstep : ∀ {i now request next}, Grows (AllBring settings r vault tree jobs) tree now →
      Known settings r vault tree jobs i now (.ask request next) → ∃ job, jobs[i]? = some job ∧
        Grows (job.Brings settings r vault tree) now (serve vault verbosity now request).state ∧
        ((∃ fault, next (serve vault verbosity now request).result = .done (.error fault)) ∨
          job.Underway settings r vault tree (serve vault verbosity now request).state
            (next (serve vault verbosity now request).result)) := by
    rintro i now request next hnow ⟨job, hjob, ⟨fault, hfailed⟩ | hunderway⟩
    · cases hfailed
    · exact ⟨job, hjob, grows_serve hwf hroot hready hapart hnow (List.mem_of_getElem? hjob) verbosity hunderway⟩
  constructor
  case tell =>
    rintro i now event rest ⟨job, hjob, ⟨fault, hfailed⟩ | ⟨made, ahead, hplanned, hplans, hwritten⟩⟩
    · cases hfailed
    · cases hplans with
      | tell _ hplans => exact ⟨job, hjob, .inr ⟨made, ahead, hplanned, hplans, hwritten⟩⟩
  case base =>
    intro i now request next hnow h
    obtain ⟨job, hjob, hgrows, -⟩ := hstep hnow h
    exact hnow.trans (hgrows.mono fun loc node hbrings => ⟨job, List.mem_of_getElem? hjob, hbrings⟩)
  case asked =>
    intro i now request next hnow h
    obtain ⟨job, hjob, -, hlater⟩ := hstep hnow h
    exact ⟨job, hjob, hlater⟩
  case other =>
    intro i j now request next d hnow h hne hother
    obtain ⟨job, hjob, hgrows, -⟩ := hstep hnow h
    obtain ⟨other, hat, hfailed | ⟨made, ahead, hplanned, hplans, hwritten⟩⟩ := hother
    · exact ⟨other, hat, .inl hfailed⟩
    · refine ⟨other, hat, .inr ⟨made, ahead, hplanned, hplans, fun hmade => ?_⟩⟩
      exact (hwritten hmade).of_grows hnow hgrows fun loc content hleads => hapart.not_target hne hjob hat hleads content

/-- a tree holds what a job makes by itself, where its target leads -/
def Renders (job : DocumentJob) (settings : Settings) (r : Resolver) (vault : Vault) (tree now : FileTree)
    (report : Report) : Prop :=
  ∃ text loc, job.alone settings r vault tree = .ok (text, report) ∧
    now.find job.target = .ok (loc, .file (.ok (Encoding.encodeText text)))

/-- a job that is through with a report has written what it makes by itself -/
theorem renders_of_known {i : ℕ} {now : FileTree} {report : Report}
    (h : Known settings r vault tree jobs i now (.done (.ok report))) :
    ∃ job, jobs[i]? = some job ∧ job.Renders settings r vault tree now report := by
  obtain ⟨job, hjob, ⟨fault, hfailed⟩ | ⟨made, ahead, hplanned, hplans, hwritten⟩⟩ := h
  · cases hfailed
  · cases halone : job.alone settings r vault tree with
    | error fault =>
      rw [halone] at hplans
      cases hplans
    | ok result =>
      obtain ⟨text, report'⟩ := result
      rw [halone] at hplans
      cases hplans
      rw [List.append_nil] at hplanned
      have hmade : FileRequest.writeDocument job.target text ∈ made := by
        rw [← hplanned, planned, delivery, halone]
        simp
      obtain ⟨loc, hfind⟩ := hwritten ⟨text, hmade⟩ text _ halone
      exact ⟨job, hjob, text, loc, halone, hfind⟩

include hwf hroot hready hapart in
/-- **Jobs side by side do what each of them does by itself**, in every order of their turns. -/
theorem renderAll_independent (order : List ℕ) :
    let run := Stage.renderAll settings r vault order jobs tree
    Grows (AllBring settings r vault tree jobs) tree run.state ∧
      ∀ reports, run.result = .ok reports →
        List.Forall₂ (fun job report => job.Renders settings r vault tree run.state report) jobs reports := by
  intro run
  have hbegin : ∀ i d, (jobs.map fun job => job.run settings r)[i]? = some d → Known settings r vault tree jobs i tree d := by
    intro i d hd
    rw [List.getElem?_map, Option.map_eq_some_iff] at hd
    obtain ⟨job, hjob, rfl⟩ := hd
    refine ⟨job, hjob, .inr ⟨[], _, rfl, plans_run job settings r vault tree, ?_⟩⟩
    rintro ⟨content, hmem⟩
    cases hmem
  obtain ⟨hgrows, hall⟩ := (kept_serve hwf hroot hready hapart r.verbosity).runTogether order (.refl _ hwf) hbegin
  refine ⟨hgrows, fun reports hreports => ?_⟩
  obtain ⟨hlength, hknown⟩ := hall reports hreports
  rw [List.length_map] at hlength
  refine List.forall₂_iff_get.2 ⟨hlength.symm, fun i hi hi' => ?_⟩
  obtain ⟨job, hjob, hrenders⟩ := renders_of_known (hknown i _ (List.getElem?_eq_getElem hi'))
  obtain ⟨_, hsame⟩ := List.getElem?_eq_some_iff.1 hjob
  rw [List.get_eq_getElem, hsame]
  exact hrenders

end

end DocumentJob

end Transclude
