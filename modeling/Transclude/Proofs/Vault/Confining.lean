/-
What can come out of a vault.

A path is joined to the root of the vault as it is, dots included, so it is not the path that keeps a pass inside: it is the real
location that the path turns out to have. The root is compared with it name by name, so a sibling whose name goes on behind the
root's name is outside. The comparison says nothing about a link that leads back to itself, since what is left of the path behind
it is not followed: there must be none on the way (`Follows`).

- `Vault.exists_holds_of_read`, `Vault.read_outside`: what is read is a file below the root, and nothing is read from outside of it.
- `answeredIn_visitAll`: every block that a pass makes is the answer to one of its requests.
- `process_confined`: every block of code shows lines of a file strictly below the root, and a path that leads out of the vault
  makes the block for a file that was not found.
-/
import Mathlib
import Transclude.Proofs.Pass.Reporting
import Transclude.Proofs.Vault.Reading

namespace Transclude

/-! ## Reading from a vault -/

namespace Vault

/-- there is a file with this text at a real location strictly below the root -/
structure Holds (v : Vault) (tree : FileTree) (loc : Location) (content : Text) : Prop where
  real : tree.Real loc
  below : v.root <+: loc
  strict : loc ≠ v.root
  file : ∃ octets, tree.node? loc = some (.file (.ok octets)) ∧ v.encoding.readText octets = .ok content

variable {v : Vault} {tree : FileTree} {path : Text}

/-- **What is read from a vault is the text of a file strictly below its root.** -/
theorem exists_holds_of_read {content : Text} (hroot : tree.hasFolder v.root = true) (hfollows : tree.Follows (v.hostPath path))
    (h : v.read tree path = .ok (some content)) :
    ∃ loc, tree.resolve (v.hostPath path) = .ok loc ∧ v.Holds tree loc content := by
  obtain ⟨place, file, found, htext⟩ := exists_finds_of_read h
  obtain ⟨hresolve, hreal, hbelow, hnode⟩ := found.ofTree hfollows
  obtain ⟨octets, rfl, hdecoded⟩ := textOf_eq_ok_iff.1 htext
  refine ⟨place, hresolve, hreal, hbelow, ?_, octets, hnode, hdecoded⟩
  -- the root itself is a folder
  rintro rfl
  rw [FileTree.hasFolder, hnode] at hroot
  cases hroot

/-- **Nothing is read from outside of a vault.** -/
theorem read_outside {loc : Location} (h : tree.resolve (v.hostPath path) = .ok loc) (hout : ¬ v.root <+: loc) :
    v.read tree path = .ok none := by
  rw [read_eq_readThrough]
  exact readThrough_of_outside h hout

end Vault

/-! ## Passes with a vault -/

namespace Resolver

variable {σ : Type}

/-- a host that answers with the files of a vault, in the layout that there is at the moment, and tells of nothing but records -/
structure Opens (vault : Vault) (layout : σ → FileTree) (host : σ → Text → Dialogue.Run σ Event FileAnswer) : Prop where
  answer : ∀ s path, (host s path).result = DocumentJob.passAnswer (vault.read (layout s) path)
  quiet : OnlyRecords host

theorem opens_vaultHost (vault : Vault) (verbosity : Int) : Opens vault id (vaultHost vault verbosity) := by
  refine ⟨fun tree path => ?_, fun tree path e he => ?_⟩
  · simp only [vaultHost, DocumentJob.serve, id]
    split <;> simp_all
  · simp only [vaultHost, DocumentJob.serve] at he
    split at he
    · obtain ⟨record, -, rfl⟩ := List.mem_map.1 he
      exact ⟨record, rfl⟩
    · cases he

/-- the block shows, in a document, the lines of a file strictly below the root of a vault, at the location that its directive
leads to -/
structure ShowsFile (r : Resolver) (vault : Vault) (tree : FileTree) (document : Text) (b : BlockSegment) (loc : Location)
    (content : Text) : Prop where
  located : tree.resolve (vault.hostPath (r.target b.directive document)) = .ok loc
  held : vault.Holds tree loc content
  shown : ∃ html, (r.render (Language.ofPath b.directive.path) (excerpt b.directive content)).html = .ok html ∧
    Block.code b.directive html r.presentation = .ok b.html

variable {r : Resolver} {vault : Vault} {layout : σ → FileTree} {host : σ → Text → Dialogue.Run σ Event FileAnswer}
  {document : Text}

/-- an answer with a text comes from the vault -/
theorem read_of_answer (hhost : Opens vault layout host) {s : σ} {path content : Text}
    (h : (host s path).result = .ok (some content)) : vault.read (layout s) path = .ok (some content) := by
  rw [hhost.answer, DocumentJob.passAnswer] at h
  cases hread : vault.read (layout s) path with
  | error fault =>
    rw [hread] at h
    cases h
  | ok found =>
    rw [hread] at h
    cases h
    rfl

/-- **A block of code shows lines of a file strictly below the root.** -/
theorem showsFile_of_blockFor (hhost : Opens vault layout host) {s : σ} {d : Directive} {b : BlockSegment}
    (hroot : (layout s).hasFolder vault.root = true) (hfollows : (layout s).Follows (vault.hostPath (r.target d document)))
    (h : r.blockFor d (host s (r.target d document)).result = .ok b) (hcode : b.kind = .code) :
    ∃ loc content, r.ShowsFile vault (layout s) document b loc content := by
  obtain ⟨content, html, hanswer, hhtml, hmarkup⟩ := exists_code_of_blockFor r h hcode
  obtain ⟨loc, hresolve, hholds⟩ := Vault.exists_holds_of_read hroot hfollows (read_of_answer hhost hanswer)
  obtain rfl := directive_of_blockFor r h
  exact ⟨loc, content, hresolve, hholds, html, hhtml, hmarkup⟩

/-- a path that leads out of the vault finds no file, and nothing is rendered -/
theorem resolve_outside (hhost : Opens vault layout host) {s : σ} {d : Directive} {loc : Location}
    (h : (layout s).resolve (vault.hostPath (r.target d document)) = .ok loc) (hout : ¬ vault.root <+: loc) :
    ((r.resolve d document).run host s).result = .ok (r.errorBlock ("File not found: ".toList ++ d.path) d) ∧
      ((r.resolve d document).run host s).events.filterMap Event.excerpt? = [] := by
  have hanswer : (host s (r.target d document)).result = .ok none := by
    rw [hhost.answer, Vault.read_outside h hout]
    rfl
  refine ⟨?_, ?_⟩
  · rw [result_resolve, hanswer]
    rfl
  · rw [(does_resolve hhost.quiet r s d document).shown, hanswer]
    rfl

/-! ## The requests behind blocks -/

/-- the block is what becomes of its directive by the answer to one of these requests, in the state that the request met -/
def AnsweredIn (r : Resolver) (host : σ → Text → Dialogue.Run σ Event FileAnswer) (document : Text) (asked : List (σ × Text))
    (b : BlockSegment) : Prop :=
  ∃ s, (s, r.target b.directive document) ∈ asked ∧
    r.blockFor b.directive (host s (r.target b.directive document)).result = .ok b

theorem AnsweredIn.mono {asked asked' : List (σ × Text)} (h : asked ⊆ asked') {b : BlockSegment}
    (hb : r.AnsweredIn host document asked b) : r.AnsweredIn host document asked' b := by
  obtain ⟨s, hmem, hblock⟩ := hb
  exact ⟨s, h hmem, hblock⟩

theorem answeredIn_resolve {s : σ} {d : Directive} {b : BlockSegment}
    (h : ((r.resolve d document).run host s).result = .ok b) :
    r.AnsweredIn host document ((r.resolve d document).asked host s) b := by
  rw [result_resolve] at h
  obtain rfl := directive_of_blockFor r h
  refine ⟨s, ?_, h⟩
  have hlog : ∀ message, (r.log 3 message).asked host s = [] := fun message => Dialogue.asked_tellAll host s _
  simp only [resolve, Dialogue.asked_andThen, hlog, state_log, Dialogue.asked_tellAll, Dialogue.state_tellAll, List.nil_append]
  exact List.mem_append_left _ List.mem_cons_self

theorem answeredIn_spliceFrom {s : σ} {ps : List Placement} {bs : List BlockSegment} (h : Resolved r host document s ps bs)
    (t : Text) (cursor : Int) :
    ∀ b ∈ bs, r.AnsweredIn host document ((r.spliceFrom document t cursor ps).asked host s) b := by
  induction h generalizing cursor with
  | nil s => exact fun b hb => absurd hb List.not_mem_nil
  | @cons s p ps b' bs here rest ih =>
    intro b hb
    simp only [spliceFrom, Dialogue.asked_andThen, here]
    rcases List.mem_cons.1 hb with rfl | hb
    · exact (answeredIn_resolve here).mono (List.subset_append_left _ _)
    · exact ((ih p.stop b hb).mono (List.subset_append_left _ _)).mono (List.subset_append_right _ _)

variable {τ ℓ : Type} {region : Region τ ℓ}

theorem answeredIn_visit {s s' : σ} {p : Progress τ} {tree' : τ} {leaf : ℓ} {fate : Fate}
    (h : Meets r region host document s p.tree leaf fate s' tree') :
    ∀ b ∈ fate.made, r.AnsweredIn host document ((r.visit region document p leaf).asked host s) b := by
  intro b hb
  obtain ⟨found, hs, hresolved⟩ := h.exists_made
  cases found with
  | nil =>
    rw [List.eq_nil_of_length_eq_zero hresolved.length_eq.symm] at hb
    cases hb
  | cons o found =>
    have hlog : ∀ message, (r.log 3 message).asked host s = [] := fun message => Dialogue.asked_tellAll host s _
    have hsplice := answeredIn_spliceFrom hresolved (region.content leaf) 0 b hb
    simp only [visit, hs, Dialogue.asked_andThen, hlog, state_log, List.nil_append]
    exact hsplice.mono (List.subset_append_left _ _)

/-- **Every block that a pass makes is the answer to one of its requests.** -/
theorem answeredIn_visitAll {done : List ℓ} {fates : List Fate} {s s' : σ} {tree tree' : τ}
    (h : Course r region host document s tree done fates s' tree') (rest : List ℓ) (report : Report) :
    ∀ b ∈ fates.flatMap Fate.made,
      r.AnsweredIn host document ((r.visitAll region document (done ++ rest) { tree, report }).asked host s) b := by
  induction h generalizing report with
  | nil s tree => exact fun b hb => absurd hb List.not_mem_nil
  | @cons s s₁ s₂ tree tree₁ tree₂ leaf leaves fate fates here later ih =>
    obtain ⟨hresult, hstate⟩ := run_visit_of_meets (p := { tree, report }) here
    intro b hb
    simp only [List.cons_append, visitAll, Dialogue.asked_andThen, hresult, hstate]
    rcases List.mem_append.1 (List.flatMap_cons ▸ hb) with hb | hb
    · exact (answeredIn_visit (p := { tree, report }) here b hb).mono (List.subset_append_left _ _)
    · exact (ih (report.record fate) b hb).mono (List.subset_append_right _ _)

/-- a pass asks for what its visits ask for -/
theorem asked_process (s : σ) (tree : τ) : (r.process region document tree).asked host s =
    (r.visitAll region document (region.candidates tree) { tree }).asked host s := by
  have hlog : ∀ message, (r.log 2 message).asked host s = [] := fun message => Dialogue.asked_tellAll host s _
  simp only [process, Dialogue.asked_andThen, hlog, state_log, List.nil_append]

/-- **A vault is confined.** Whatever path a directive comes to in a document, and whatever the layout of the files is at the
moment of each read: where its links can be followed, a block of code shows lines of the file at the real location of the path,
which is strictly below the root. Where the real location is outside, the directive becomes the block for a file that was not
found, and nothing is rendered. So every block of code that a pass makes shows lines of a file strictly below the root, if the links
on the paths that the pass asks for can be followed. -/
theorem process_confined (hhost : Opens vault layout host) (hroot : ∀ s, (layout s).hasFolder vault.root = true)
    (r : Resolver) (document : Text) :
    (∀ s d b, ((r.resolve d document).run host s).result = .ok b → b.kind = .code →
      (layout s).Follows (vault.hostPath (r.target d document)) →
      b.directive = d ∧ ∃ loc content, r.ShowsFile vault (layout s) document b loc content) ∧
    (∀ s d loc, (layout s).resolve (vault.hostPath (r.target d document)) = .ok loc → ¬ vault.root <+: loc →
      ((r.resolve d document).run host s).result = .ok (r.errorBlock ("File not found: ".toList ++ d.path) d) ∧
      ((r.resolve d document).run host s).events.filterMap Event.excerpt? = []) ∧
    ∀ (τ ℓ : Type) (region : Region τ ℓ) (tree : τ) (s : σ),
      (∀ asked ∈ (r.process region document tree).asked host s, (layout asked.1).Follows (vault.hostPath asked.2)) →
      ∃ visited rest fates s', region.candidates tree = visited ++ rest ∧
        Course r region host document s tree visited fates s' ((r.process region document tree).run host s).result.tree ∧
        (((r.process region document tree).run host s).result.stop = none → rest = []) ∧
        ∀ b ∈ fates.flatMap Fate.made, b.kind = .code →
          ∃ s loc content, r.ShowsFile vault (layout s) document b loc content := by
  refine ⟨fun s d b hb hcode hfollows => ?_, fun s d loc hresolve hout => resolve_outside hhost hresolve hout,
    fun τ ℓ region tree s hfollows => ?_⟩
  · rw [result_resolve] at hb
    exact ⟨directive_of_blockFor r hb, showsFile_of_blockFor hhost (hroot s) hfollows hb hcode⟩
  · obtain ⟨visited, rest, fates, s', hsplit, hcourse, -, hend⟩ :=
      exists_course_visitAll r region host document (region.candidates tree) { tree } s
    have hanswered := answeredIn_visitAll hcourse rest {}
    rw [← hsplit, ← asked_process] at hanswered
    rw [← result_process] at hcourse hend
    refine ⟨visited, rest, fates, s', hsplit, hcourse, fun hstop => ?_, fun b hb hcode => ?_⟩
    · simpa only [hstop] using hend
    · obtain ⟨s₁, hasked, hblock⟩ := hanswered b hb
      exact ⟨s₁, showsFile_of_blockFor hhost (hroot s₁) (hfollows _ hasked) hblock hcode⟩

/-- a folder with a link inside and a link out of it, next to a folder whose name goes on -/
def linkedTree : FileTree where
  nodes := [([['i']], .folder), ([['i'], ['a']], .file (.ok [120])), ([['i'], ['l']], .link "../i/a".toList),
    ([['i'], ['o']], .link "/ij/s".toList), ([['i', 'j']], .folder), ([['i', 'j'], ['s']], .file (.ok [121]))]

def linkedVault : Vault := { root := [['i']] }

def linkedFiles : Unit → Text → Dialogue.Run Unit Event FileAnswer :=
  Dialogue.answering fun path => DocumentJob.passAnswer (linkedVault.read linkedTree path)

theorem follows_linkedTree (p : FilePath) : linkedTree.Follows p := by
  refine FileTree.follows_of_links (fun place target h => ?_) p
  simp only [linkedTree, List.mem_cons, List.not_mem_nil, Prod.mk.injEq, FileNode.link.injEq, reduceCtorEq, and_false,
    or_false, false_or] at h
  rcases h with ⟨rfl, rfl⟩ | ⟨rfl, rfl⟩
  · exact ⟨[['i'], ['a']], by cbv⟩
  · exact ⟨[['i', 'j'], ['s']], by cbv⟩

def linkedTexts : Leaves := { contents := ["@import \"/l\"@import \"/o\"".toList] }

/-- the link inside is read through, the other one is not, and the dots in an absolute path do not lead out either -/
theorem process_confined_links :
    let found : Directive := { path := "/l".toList }
    let lost : Directive := { path := "/../ij/s".toList }
    let pass := (plainResolver.process Leaves.region [] linkedTexts).run linkedFiles ()
    (∃ b loc content, ((plainResolver.resolve found []).run linkedFiles ()).result = .ok b ∧ b.kind = .code ∧
      plainResolver.ShowsFile linkedVault linkedTree [] b loc content) ∧
    ((plainResolver.resolve lost []).run linkedFiles ()).result =
      .ok (plainResolver.errorBlock "File not found: /../ij/s".toList lost) ∧
    ∃ visited rest fates s', Leaves.region.candidates linkedTexts = visited ++ rest ∧
      Course plainResolver Leaves.region linkedFiles [] () linkedTexts visited fates s' pass.result.tree ∧
      (pass.result.stop = none → rest = []) ∧
      ∀ b ∈ fates.flatMap Fate.made, b.kind = .code →
        ∃ loc content, plainResolver.ShowsFile linkedVault linkedTree [] b loc content := by
  intro found lost pass
  have hhost : Opens linkedVault (fun _ => linkedTree) linkedFiles :=
    ⟨fun _ _ => rfl, fun _ _ e he => absurd he List.not_mem_nil⟩
  have hroot : ∀ s : Unit, linkedTree.hasFolder linkedVault.root = true := fun _ => by decide +kernel
  obtain ⟨hcode, hout, hpass⟩ := process_confined hhost hroot plainResolver []
  have hkind : ((plainResolver.resolve found []).run linkedFiles ()).result.map BlockSegment.kind = .ok .code := by cbv
  have hresolve : linkedTree.resolve (linkedVault.hostPath (plainResolver.target lost [])) = .ok [['i', 'j'], ['s']] := by cbv
  refine ⟨?_, (hout () lost _ hresolve (by decide +kernel)).1, ?_⟩
  · obtain ⟨b, hb, hkind⟩ := Markup.Token.eq_of_map_eq_ok hkind
    obtain ⟨-, loc, content, hshows⟩ := hcode () found b hb hkind (follows_linkedTree _)
    exact ⟨b, loc, content, hb, hkind, hshows⟩
  · obtain ⟨visited, rest, fates, s', hsplit, hcourse, hall, hblocks⟩ :=
      hpass Leaves _ Leaves.region linkedTexts () fun _ _ => follows_linkedTree _
    exact ⟨visited, rest, fates, s', hsplit, hcourse, hall, fun b hb hcode => (hblocks b hb hcode).elim fun _ hshows => hshows⟩

/-- behind a link that leads back to itself nothing is followed any more, and so a file outside can be read -/
example :
    let looping : FileTree := { linkedTree with nodes := (([['i'], ['x']], .link ['x'])) :: linkedTree.nodes }
    linkedVault.read looping "x/../o".toList = .ok (some ['y']) := by cbv

end Resolver

end Transclude
