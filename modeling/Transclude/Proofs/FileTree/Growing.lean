/-
Trees that grow.

Jobs do little to a tree: they make folders where there was nothing and put texts into files. No link comes or goes, so that a path
leads where it led before, and what lies along a path stays as long as it is not a file that was put there. `Grows` says so of
the tree before and the tree after, with the nodes that are allowed to come.

- `resolveFrom_of_grows`: links lead where they led.
- `find_of_grows`: what a path leads to stays there, unless it is a file that was put there.
- `read_of_grows`: a vault that nothing comes into is read as before.
-/
import Transclude.FileTree.Access
import Transclude.Proofs.FileTree.Following
import Transclude.Vault
import Mathlib.Data.List.Induction
import Mathlib.Data.List.Nodup

namespace Transclude.FileTree

variable {tree : FileTree}

/-! ## Nodes that hang together -/

theorem hasFolder_iff {loc : Location} : tree.hasFolder loc = true ↔ tree.node? loc = some .folder := by
  unfold hasFolder
  constructor
  · intro h
    split at h
    · assumption
    · cases h
  · intro h
    rw [h]

/-- every node has a name of its own in a folder -/
structure WellFormed (tree : FileTree) : Prop where
  distinct : (tree.nodes.map (·.1)).Nodup
  named : ∀ entry ∈ tree.nodes, entry.1 ≠ [] ∧ ∀ name ∈ entry.1, IsName name
  above : ∀ entry ∈ tree.nodes, tree.hasFolder entry.1.dropLast = true
  working : tree.hasFolder tree.workingFolder = true

namespace WellFormed

/-- each of the nodes is the one at its location -/
theorem node?_of_mem (hwf : tree.WellFormed) {loc : Location} {node : FileNode} (h : (loc, node) ∈ tree.nodes) :
    tree.node? loc = some node := by
  obtain ⟨name, rest, rfl⟩ := List.exists_cons_of_ne_nil (hwf.named _ h).1
  cases hfind : tree.nodes.find? fun entry => entry.1 == name :: rest with
  | none => simpa using List.find?_eq_none.1 hfind _ h
  | some entry =>
    have hloc : entry.1 = name :: rest := by simpa using List.find?_some hfind
    have hsame := List.inj_on_of_nodup_map hwf.distinct (List.mem_of_find?_eq_some hfind) h hloc
    simp only [node?, hfind, hsame, Option.map_some]

/-- what has something below it is a folder -/
theorem folder_of_child (hwf : tree.WellFormed) {loc : Location} {name : Text} {node : FileNode}
    (h : tree.node? (loc ++ [name]) = some node) : tree.node? loc = some .folder := by
  have habove := hwf.above _ (mem_nodes_of_node? (by simp) h)
  rw [List.dropLast_concat] at habove
  exact hasFolder_iff.1 habove

/-- every location on the way down to a folder is a folder -/
theorem folder_of_prefix (hwf : tree.WellFormed) {loc front : Location} (h : tree.node? loc = some .folder)
    (hfront : front <+: loc) : tree.node? front = some .folder := by
  obtain ⟨rest, rfl⟩ := hfront
  induction rest using List.reverseRecOn with
  | nil => rwa [List.append_nil] at h
  | append_singleton rest name ih =>
    rw [← List.append_assoc] at h
    exact ih (hwf.folder_of_child h)

/-- below nothing there is nothing -/
theorem node?_append_eq_none (hwf : tree.WellFormed) {loc : Location} (h : tree.node? loc = none) (rest : List Text) :
    tree.node? (loc ++ rest) = none := by
  induction rest using List.reverseRecOn with
  | nil => rwa [List.append_nil]
  | append_singleton rest name ih =>
    cases hnode : tree.node? (loc ++ (rest ++ [name])) with
    | none => rfl
    | some node =>
      rw [← List.append_assoc] at hnode
      rw [hwf.folder_of_child hnode] at ih
      cases ih

/-- a folder is at a real location -/
theorem real_of_folder (hwf : tree.WellFormed) {loc : Location} (h : tree.node? loc = some .folder) : tree.Real loc := by
  constructor
  · intro name hname
    cases loc with
    | nil => cases hname
    | cons first rest => exact (hwf.named _ (mem_nodes_of_node? (by simp) h)).2 name hname
  · rintro front hfront ⟨target, hlink⟩
    rw [hwf.folder_of_prefix h hfront] at hlink
    cases hlink

theorem real_start (hwf : tree.WellFormed) (p : FilePath) : tree.Real (tree.start p) := by
  unfold start
  split
  · exact hwf.real_of_folder (hasFolder_iff.1 hwf.working)
  · exact real_nil tree

theorem folder_start (hwf : tree.WellFormed) (p : FilePath) : tree.node? (tree.start p) = some .folder := by
  unfold start
  split
  · exact hasFolder_iff.1 hwf.working
  · rfl

end WellFormed

/-! ## Where links lead -/

/-- the links of a path can be followed and lead to this real location -/
def LeadsTo (tree : FileTree) (p : FilePath) (loc : Location) : Prop :=
  tree.resolveFrom tree.links (tree.start p) p.parts = .complete loc

theorem LeadsTo.unique {p : FilePath} {loc loc' : Location} (h : tree.LeadsTo p loc) (h' : tree.LeadsTo p loc') :
    loc = loc' :=
  Resolution.complete.inj (h.symm.trans h')

theorem leadsTo_of_locate {p : FilePath} {loc : Location} (h : tree.locate p = .ok loc) : tree.LeadsTo p loc :=
  (resolve_of_locate h).1

theorem LeadsTo.real {p : FilePath} {loc : Location} (hwf : tree.WellFormed) (h : tree.LeadsTo p loc) : tree.Real loc :=
  real_resolveFrom (hwf.real_start p) h

/-! ## Growing -/

/-- what can come to a place: a folder where nothing was, and a file also where a file was -/
def Fills : Option FileNode → FileNode → Prop
  | none, .folder | none, .file _ | some (.file _), .file _ => True
  | _, _ => False

theorem Fills.not_folder {node : FileNode} (h : Fills (some .folder) node) : False := by
  cases node <;> exact h

theorem Fills.not_link {target : Text} {node : FileNode} (h : Fills (some (.link target)) node) : False := by
  cases node <;> exact h

theorem Fills.ne_link {place : Option FileNode} {target : Text} (h : Fills place (.link target)) : False := by
  rcases place with - | _ | _ | _ <;> exact h

theorem Fills.file {place : Option FileNode} {content : Except MediumFault (List UInt8)} (h : Fills place (.file content))
    (content' : Except MediumFault (List UInt8)) : Fills place (.file content') := by
  rcases place with - | _ | _ | _ <;> exact h

/-- one tree has come from another one by folders and files, each of them allowed -/
structure Grows (allowed : Location → FileNode → Prop) (before after : FileTree) : Prop where
  wellFormed : after.WellFormed
  workingFolder : after.workingFolder = before.workingFolder
  links : after.links = before.links
  node : ∀ loc, after.node? loc = before.node? loc ∨
    ∃ node, after.node? loc = some node ∧ Fills (before.node? loc) node ∧ allowed loc node

variable {allowed : Location → FileNode → Prop} {before mid after : FileTree}

theorem Grows.refl (allowed : Location → FileNode → Prop) (hwf : tree.WellFormed) : Grows allowed tree tree :=
  ⟨hwf, rfl, rfl, fun _ => .inl rfl⟩

theorem Grows.mono {also : Location → FileNode → Prop} (h : Grows allowed before after)
    (hallowed : ∀ loc node, allowed loc node → also loc node) : Grows also before after := by
  refine ⟨h.wellFormed, h.workingFolder, h.links, fun loc => ?_⟩
  rcases h.node loc with hsame | ⟨node, hnode, hfills, hmay⟩
  · exact .inl hsame
  · exact .inr ⟨node, hnode, hfills, hallowed loc node hmay⟩

theorem Grows.trans (h : Grows allowed before mid) (h' : Grows allowed mid after) : Grows allowed before after := by
  refine ⟨h'.wellFormed, h'.workingFolder.trans h.workingFolder, h'.links.trans h.links, fun loc => ?_⟩
  rcases h'.node loc with hsame | ⟨node, hnode, hfills, hmay⟩
  · rw [hsame]
    exact h.node loc
  · rcases h.node loc with hsame | ⟨first, hfirst, hfirstFills, -⟩
    · exact .inr ⟨node, hnode, hsame ▸ hfills, hmay⟩
    · -- something came twice, and so it was a file both times
      rw [hfirst] at hfills
      refine .inr ⟨node, hnode, ?_, hmay⟩
      cases first with
      | folder => exact hfills.not_folder.elim
      | link target => exact hfills.not_link.elim
      | file content =>
        cases node with
        | folder => exact hfills.elim
        | link target => exact hfills.elim
        | file content' => exact hfirstFills.file content'

theorem Grows.folder {loc : Location} (h : Grows allowed before after) (hfolder : before.node? loc = some .folder) :
    after.node? loc = some .folder := by
  rcases h.node loc with hsame | ⟨node, -, hfills, -⟩
  · rw [hsame, hfolder]
  · rw [hfolder] at hfills
    exact hfills.not_folder.elim

theorem Grows.link_iff {loc : Location} {target : Text} (h : Grows allowed before after) :
    after.node? loc = some (.link target) ↔ before.node? loc = some (.link target) := by
  rcases h.node loc with hsame | ⟨node, hnode, hfills, -⟩
  · rw [hsame]
  · constructor
    · intro hlink
      obtain rfl : node = .link target := Option.some.inj (hnode.symm.trans hlink)
      exact hfills.ne_link.elim
    · intro hlink
      rw [hlink] at hfills
      exact hfills.not_link.elim

theorem Grows.start (h : Grows allowed before after) (p : FilePath) : after.start p = before.start p := by
  rw [FileTree.start, FileTree.start, h.workingFolder]

/-- **Links lead where they led**, whatever has come. -/
theorem resolveFrom_of_grows (h : Grows allowed before after) (fresh : List Location) (loc : Location) (parts : List Text) :
    after.resolveFrom fresh loc parts = before.resolveFrom fresh loc parts := by
  fun_induction resolveFrom before fresh loc parts with
  | case1 fresh loc => rw [resolveFrom]
  | case2 fresh loc name rest hdot ih => rw [resolveFrom, if_pos hdot, ih]
  | case3 fresh loc rest hdot ih => rw [resolveFrom, if_neg hdot, if_pos rfl, ih]
  | case4 fresh loc name rest hdot hup target hlink hfresh mid hmid ihtarget ih =>
    rw [resolveFrom, if_neg hdot, if_neg hup]
    simp only [h.link_iff.2 hlink, if_pos hfresh, ihtarget, hmid, ih]
  | case5 fresh loc name rest hdot hup target hlink hfresh stuck left hstuck ih =>
    rw [resolveFrom, if_neg hdot, if_neg hup]
    simp only [h.link_iff.2 hlink, if_pos hfresh, ih, hstuck]
  | case6 fresh loc name rest hdot hup target hlink hstale =>
    rw [resolveFrom, if_neg hdot, if_neg hup]
    simp only [h.link_iff.2 hlink, if_neg hstale]
  | case7 fresh loc name rest hdot hup hnolink ih =>
    rw [resolveFrom, if_neg hdot, if_neg hup]
    split
    · next target hlink => exact absurd (h.link_iff.1 hlink) (hnolink target)
    · exact ih

theorem Grows.leadsTo_iff {p : FilePath} {loc : Location} (h : Grows allowed before after) :
    after.LeadsTo p loc ↔ before.LeadsTo p loc := by
  rw [LeadsTo, LeadsTo, h.links, h.start, resolveFrom_of_grows h]

/-- a path that can be followed still can -/
theorem follow_of_grows (h : Grows allowed before after) {links : Nat} {loc real : Location} {parts : List Text}
    (hfollow : before.follow links loc parts = .ok real) : after.follow links loc parts = .ok real := by
  fun_induction follow before links loc parts generalizing real with
  | case1 links loc => rwa [follow]
  | case2 => cases hfollow
  | case3 links loc name rest hnode hdot ih =>
    rw [follow, h.folder hnode]
    simp only [if_pos hdot, ih hfollow]
  | case4 links loc rest hnode hdot ih =>
    rw [follow, h.folder hnode]
    simp only [if_neg hdot, if_true, ih hfollow]
  | case5 => cases hfollow
  | case6 => cases hfollow
  | case7 loc name rest hnode hdot hup hlong target hlink links ih =>
    rw [follow, h.folder hnode]
    simp only [if_neg hdot, if_neg hup, if_neg hlong, h.link_iff.2 hlink, ih hfollow]
  | case8 links loc name rest hnode hdot hup hlong hnolink ih =>
    rw [follow, h.folder hnode]
    simp only [if_neg hdot, if_neg hup, if_neg hlong]
    split
    · next target hlink => exact absurd (h.link_iff.1 hlink) (hnolink target)
    · exact ih hfollow
  | case9 => cases hfollow

theorem Grows.locate {p : FilePath} {loc : Location} (h : Grows allowed before after) (hlocate : before.locate p = .ok loc) :
    after.locate p = .ok loc := by
  unfold FileTree.locate at hlocate ⊢
  cases hrefused : refusal? p with
  | some e =>
    rw [hrefused] at hlocate
    cases hlocate
  | none =>
    rw [hrefused] at hlocate
    rw [h.start]
    exact follow_of_grows h hlocate

/-- what is found is found by its location and is there -/
theorem find_eq_ok_iff {p : FilePath} {loc : Location} {node : FileNode} :
    tree.find p = .ok (loc, node) ↔ tree.locate p = .ok loc ∧ tree.node? loc = some node := by
  unfold find
  cases tree.locate p with
  | error e => simp [bind, Except.bind]
  | ok place =>
    cases hnode : tree.node? place with
    | none =>
      simp only [bind, Except.bind, hnode, throw, throwThe, MonadExceptOf.throw, reduceCtorEq, false_iff, not_and]
      rintro ⟨⟩
      simp [hnode]
    | some found =>
      simp only [bind, Except.bind, hnode, pure, Except.pure, Except.ok.injEq, Prod.mk.injEq]
      constructor
      · rintro ⟨rfl, rfl⟩
        exact ⟨rfl, hnode⟩
      · rintro ⟨rfl, hthere⟩
        exact ⟨rfl, Option.some.inj (hnode.symm.trans hthere)⟩

/-- **What a path leads to stays there**, unless it is a file and another one comes in its place. -/
theorem find_of_grows (h : Grows allowed before after) {p : FilePath} {loc : Location} {node : FileNode}
    (hfind : before.find p = .ok (loc, node)) (hstays : ∀ content, ¬ allowed loc (.file content)) :
    after.find p = .ok (loc, node) := by
  obtain ⟨hlocate, hnode⟩ := find_eq_ok_iff.1 hfind
  refine find_eq_ok_iff.2 ⟨h.locate hlocate, ?_⟩
  rcases h.node loc with hsame | ⟨other, -, hfills, hmay⟩
  · rw [hsame, hnode]
  · rw [hnode] at hfills
    cases node with
    | folder => exact hfills.not_folder.elim
    | link target => exact hfills.not_link.elim
    | file content =>
      cases other with
      | file content' => exact absurd hmay (hstays content')
      | folder => exact hfills.elim
      | link target => exact hfills.elim

/-! ## Reading -/

/-- what is read at a path that still leads to the same file is the same -/
theorem readText_of_grows (h : Grows allowed before after) {p : FilePath} {loc : Location} {node : FileNode}
    (hfind : before.find p = .ok (loc, node)) (hstays : ∀ content, ¬ allowed loc (.file content)) (encoding : Encoding) :
    after.readText encoding p = before.readText encoding p := by
  rw [readText, readText, hfind, find_of_grows h hfind hstays]

/-- where nothing has changed on the way, the same names are followed alike -/
theorem follow_congr {loc : Location} (hreal : before.Real loc)
    (hsame : ∀ front, front <+: loc → after.node? front = before.node? front) (links : Nat) {front parts : List Text}
    (hloc : front ++ parts = loc) : after.follow links front parts = before.follow links front parts := by
  induction parts generalizing front with
  | nil => rw [follow, follow]
  | cons name rest ih =>
    have hnext : front ++ [name] ++ rest = loc := by rw [← List.append_cons, hloc]
    obtain ⟨hne, hdot, hup⟩ := hreal.names name (by simp [← hloc])
    have hdots : ¬ (name = [] ∨ name = ['.']) := by simp [hne, hdot]
    rw [follow, follow, hsame front ⟨_, hloc⟩, hsame _ ⟨_, hnext⟩, ih hnext]
    split
    · rfl
    · rw [if_neg hdots, if_neg hup, if_neg hdots, if_neg hup]
      split
      · rfl
      · split
        · next target hlink => exact absurd ⟨target, hlink⟩ (hreal.noLink _ ⟨_, hnext⟩)
        · rfl
    · rfl

/-- where nothing has changed on the way, the same is found along the path to a real location -/
theorem find_pathTo_congr {loc : Location} (hreal : before.Real loc)
    (hsame : ∀ front, front <+: loc → after.node? front = before.node? front) :
    after.find (pathTo loc) = before.find (pathTo loc) := by
  unfold find locate
  cases refusal? (pathTo loc) with
  | some e => rfl
  | none =>
    change (after.follow maxLinks [] loc >>= _) = (before.follow maxLinks [] loc >>= _)
    rw [follow_congr hreal hsame maxLinks (List.nil_append loc)]
    cases hfollow : before.follow maxLinks [] loc with
    | error e => rfl
    | ok last =>
      have hlast : last = loc := follow_eq_of_real (by rwa [List.nil_append]) hfollow
      subst hlast
      simp only [bind, Except.bind, hsame last (List.prefix_refl last)]

/-- **A vault that nothing comes into is read as before**, along every path whose links can be followed. -/
theorem read_of_grows (h : Grows allowed before after) (hwf : before.WellFormed) {v : Vault}
    (hroot : before.node? v.root = some .folder) (houtside : ∀ loc node, allowed loc node → ¬ v.root <+: loc) {path : Text}
    (hfollows : before.Follows (v.hostPath path)) : v.read after path = v.read before path := by
  obtain ⟨real, hleads⟩ := hfollows
  have hresolve : after.resolve (v.hostPath path) = before.resolve (v.hostPath path) := by
    unfold resolve
    have hleads' : after.resolveFrom after.links (after.start (v.hostPath path)) (v.hostPath path).parts = .complete real :=
      h.leadsTo_iff.2 hleads
    rw [hleads, hleads']
  unfold Vault.read Vault.locate
  rw [hresolve]
  cases hloc : before.resolve (v.hostPath path) with
  | error fault => rfl
  | ok loc =>
    by_cases hbelow : v.root.isPrefixOf loc = true
    · have hreal := real_of_resolve (hwf.real_start _) ⟨real, hleads⟩ hloc
      have hsame : ∀ front, front <+: loc → after.node? front = before.node? front := by
        intro front hfront
        rcases List.prefix_or_prefix_of_prefix hfront (List.isPrefixOf_iff_prefix.1 hbelow) with habove | hinside
        · have hfolder := hwf.folder_of_prefix hroot habove
          rw [h.folder hfolder, hfolder]
        · rcases h.node front with hsame | ⟨node, -, -, hmay⟩
          · exact hsame
          · exact absurd hinside (houtside front node hmay)
      simp only [Except.map, bind, Except.bind, hbelow, if_true, Vault.contentAt, find_pathTo_congr hreal hsame]
    · simp only [Except.map, hbelow]
      rfl

end Transclude.FileTree
