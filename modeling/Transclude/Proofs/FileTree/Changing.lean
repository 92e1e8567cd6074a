/-
How a tree is changed by paths.

A file that is written is where its path leads, with all links followed (`grows_writeText`). A folder that is made is on the way
to where its path leads (`grows_makeFolders`): nothing is below it when it is made, and so the names behind it lead on from there.
So neither comes into a folder that the path does not lead into.

- `grows_put`: something comes to a place in a folder, and nothing else changes.
- `grows_writeText`, `grows_makeFolders`: what the two changes of a tree come to.
-/
import Transclude.Proofs.FileTree.Growing

namespace Transclude.FileTree

variable {allowed : Location → FileNode → Prop} {tree after : FileTree}

/-! ## Putting nodes -/

/-- an entry of a tree into which a node was put is the node or was there -/
theorem mem_nodes_put {loc : Location} {node : FileNode} {entry : Location × FileNode}
    (h : entry ∈ (tree.put loc node).nodes) : entry.1 = loc ∨ entry ∈ tree.nodes := by
  unfold put at h
  split at h
  · obtain ⟨old, hmem, rfl⟩ := List.mem_map.1 h
    split
    · exact .inl rfl
    · exact .inr hmem
  · rcases List.mem_append.1 h with hmem | hmem
    · exact .inr hmem
    · rw [List.mem_singleton.1 hmem]
      exact .inl rfl

theorem workingFolder_put (loc : Location) (node : FileNode) : (tree.put loc node).workingFolder = tree.workingFolder := by
  unfold put
  split <;> rfl

/-- where neither is a link, the links stay -/
theorem links_put {loc : Location} {node : FileNode} (hnode : ∀ target, node ≠ .link target)
    (hold : ∀ old, (loc, old) ∈ tree.nodes → ∀ target, old ≠ .link target) : (tree.put loc node).links = tree.links := by
  unfold put
  split
  · simp only [links, List.filterMap_map]
    apply List.filterMap_congr
    rintro ⟨place, old⟩ hentry
    by_cases e : place = loc
    · subst e
      cases node with
      | link target => exact absurd rfl (hnode target)
      | file _ | folder =>
        cases old with
        | link target => exact absurd rfl (hold _ hentry target)
        | file _ | folder => simp
    · simp [e]
  · rw [links, List.filterMap_append]
    cases node with
    | link target => exact absurd rfl (hnode target)
    | file _ | folder => simp [links]

/-- the locations stay distinct -/
theorem nodup_put (hwf : tree.WellFormed) (loc : Location) (node : FileNode) :
    ((tree.put loc node).nodes.map (·.1)).Nodup := by
  unfold put
  split
  · have hkeys : ((·.1) ∘ fun entry : Location × FileNode => if entry.1 == loc then (loc, node) else entry) = (·.1) := by
      funext entry
      by_cases e : entry.1 = loc <;> simp [e]
    rw [List.map_map, hkeys]
    exact hwf.distinct
  · next habsent =>
    rw [List.map_append, List.nodup_append']
    refine ⟨hwf.distinct, by simp, ?_⟩
    rw [List.map_singleton, List.disjoint_singleton]
    intro hmem
    obtain ⟨entry, hentry, hloc⟩ := List.mem_map.1 hmem
    exact habsent (List.any_eq_true.2 ⟨entry, hentry, by simp [hloc]⟩)

/-- **Something comes to a place in a folder**, and nothing else changes. -/
theorem grows_put (hwf : tree.WellFormed) {loc : Location} {node : FileNode} (hne : loc ≠ []) (hnames : ∀ name ∈ loc, IsName name)
    (habove : tree.node? loc.dropLast = some .folder) (hfills : Fills (tree.node? loc) node) :
    Grows (fun place there => place = loc ∧ there = node) tree (tree.put loc node) := by
  -- what was at the place is no folder, so it is above nothing
  have hfolders : ∀ place, tree.hasFolder place = true → (tree.put loc node).hasFolder place = true := by
    intro place hplace
    rw [hasFolder_iff] at hplace ⊢
    rw [node?_put_of_ne, hplace]
    rintro rfl
    rw [hplace] at hfills
    exact hfills.not_folder
  have hwf' : (tree.put loc node).WellFormed := by
    refine ⟨nodup_put hwf loc node, fun entry hentry => ?_, fun entry hentry => ?_, hfolders _ ?_⟩
    · rcases mem_nodes_put hentry with hloc | hmem
      · rw [hloc]
        exact ⟨hne, hnames⟩
      · exact hwf.named entry hmem
    · rcases mem_nodes_put hentry with hloc | hmem
      · rw [hloc]
        exact hfolders _ (hasFolder_iff.2 habove)
      · exact hfolders _ (hwf.above entry hmem)
    · rw [workingFolder_put]
      exact hwf.working
  refine ⟨hwf', workingFolder_put loc node, links_put ?_ ?_, fun place => ?_⟩
  · rintro target rfl
    exact hfills.ne_link
  · rintro old hold target rfl
    rw [hwf.node?_of_mem hold] at hfills
    exact hfills.not_link
  · by_cases e : place = loc
    · subst e
      exact .inr ⟨node, node?_put_self tree hne node, hfills, rfl, rfl⟩
    · exact .inl (node?_put_of_ne tree e node)

/-! ## Writing -/

/-- a path that can be followed leads to a folder or into one -/
theorem folder_of_follow (hwf : tree.WellFormed) {links : Nat} {loc real : Location} {parts : List Text}
    (hloc : tree.node? loc = some .folder ∨ tree.node? loc.dropLast = some .folder)
    (h : tree.follow links loc parts = .ok real) :
    tree.node? real = some .folder ∨ tree.node? real.dropLast = some .folder := by
  fun_induction follow tree links loc parts generalizing real with
  | case1 links loc => exact Except.ok.inj h ▸ hloc
  | case2 => cases h
  | case3 links loc name rest hnode hdot ih => exact ih hloc h
  | case4 links loc rest hnode hdot ih =>
    exact ih (.inl (hwf.folder_of_prefix hnode (List.dropLast_prefix loc))) h
  | case5 => cases h
  | case6 => cases h
  | case7 loc name rest hnode hdot hup hlong target hlink links ih =>
    refine ih (.inl ?_) h
    unfold linkBase
    split
    · rfl
    · exact hnode
  | case8 links loc name rest hnode hdot hup hlong hnolink ih =>
    refine ih (.inr ?_) h
    rwa [List.dropLast_concat]
  | case9 => cases h

/-- **A text is written where its path leads**, and there it is found. -/
theorem grows_writeText (hwf : tree.WellFormed) {p : FilePath} {content : Text} (h : tree.writeText p content = .ok after) :
    ∃ loc, after.find p = .ok (loc, .file (.ok (Encoding.encodeText content))) ∧ tree.LeadsTo p loc ∧
      Grows (fun place node => place = loc ∧ node = .file (.ok (Encoding.encodeText content))) tree after := by
  unfold writeText at h
  cases hlocate : tree.locate p with
  | error e =>
    rw [hlocate] at h
    cases h
  | ok loc =>
    rw [hlocate] at h
    simp only [Except.mapError, bind, Except.bind, pure, Except.pure] at h
    split at h
    · cases h
    · next hfolder =>
      obtain rfl := Except.ok.inj h
      rw [hasFolder_iff] at hfolder
      have hleads := leadsTo_of_locate hlocate
      have hreal := hleads.real hwf
      have hne : loc ≠ [] := fun e => hfolder (e ▸ rfl)
      have habove : tree.node? loc.dropLast = some .folder := by
        unfold locate at hlocate
        split at hlocate
        · cases hlocate
        · exact (folder_of_follow hwf (.inl (hwf.folder_start p)) hlocate).resolve_left hfolder
      have hfills : Fills (tree.node? loc) (.file (.ok (Encoding.encodeText content))) := by
        cases hnode : tree.node? loc with
        | none => trivial
        | some node =>
          cases node with
          | file old => trivial
          | folder => exact absurd hnode hfolder
          | link target => exact absurd ⟨target, hnode⟩ (hreal.noLink loc (List.prefix_refl loc))
      have hgrows := grows_put hwf hne hreal.names habove hfills
      exact ⟨loc, find_eq_ok_iff.2 ⟨hgrows.locate hlocate, node?_put_self tree hne _⟩, hleads, hgrows⟩

/-! ## Making folders -/

/-- the links of one part after another are followed one after another -/
theorem resolveFrom_append {fresh : List Location} {loc mid : Location} {parts : List Text}
    (h : tree.resolveFrom fresh loc parts = .complete mid) (more : List Text) :
    tree.resolveFrom fresh loc (parts ++ more) = tree.resolveFrom fresh mid more := by
  induction parts generalizing loc with
  | nil =>
    rw [resolveFrom] at h
    rw [List.nil_append, Resolution.complete.inj h]
  | cons name rest ih =>
    rw [resolveFrom] at h
    rw [List.cons_append, resolveFrom]
    split
    · next hdot =>
      rw [if_pos hdot] at h
      exact ih h
    · next hdot =>
      rw [if_neg hdot] at h
      split
      · next hup =>
        rw [if_pos hup] at h
        exact ih h
      · next hup =>
        rw [if_neg hup] at h
        split
        · next target hlink =>
          simp only [hlink] at h
          split
          · next hfresh =>
            rw [if_pos hfresh] at h
            split
            · next real hreal =>
              rw [hreal] at h
              exact ih h
            · next stuck left hstuck =>
              rw [hstuck] at h
              cases h
          · next hstale =>
            rw [if_neg hstale] at h
            cases h
        · next hnolink =>
          split at h
          · next target hlink => exact absurd hlink (hnolink target)
          · exact ih h

/-- names that no links are under lead to what they spell -/
theorem resolveFrom_names {fresh : List Location} {loc : Location} {names : List Text} (hnames : ∀ name ∈ names, IsName name)
    (hlinks : ∀ front, front <+: names → ¬ tree.HasLink (loc ++ front)) :
    tree.resolveFrom fresh loc names = .complete (loc ++ names) := by
  induction names generalizing loc with
  | nil => rw [resolveFrom, List.append_nil]
  | cons name rest ih =>
    obtain ⟨hne, hdot, hup⟩ := hnames name List.mem_cons_self
    rw [resolveFrom, if_neg (by simp [hne, hdot]), if_neg hup]
    split
    · next target hlink => exact absurd ⟨target, hlink⟩ (hlinks [name] ⟨rest, rfl⟩)
    · rw [List.append_cons loc name rest]
      apply ih fun n hn => hnames n (List.mem_cons_of_mem name hn)
      intro front hfront
      rw [← List.append_cons]
      exact hlinks (name :: front) ((List.prefix_cons_inj name).2 hfront)

/-- no part of the path is empty or a dot -/
def Plain (p : FilePath) : Prop := ∀ part ∈ p.parts, part ≠ [] ∧ part ≠ ['.']

instance (p : FilePath) : Decidable (Plain p) := inferInstanceAs (Decidable (∀ part ∈ p.parts, _))

theorem plain_ofText (t : Text) : Plain (FilePath.ofText t) := by
  intro part hpart
  simpa using (List.mem_filter.1 hpart).2

/-- what was made by one attempt: a folder with the last name of its path, where the parts before lead -/
theorem exists_of_makeFolder {p : FilePath} {name : Text} (h : tree.makeFolder (p.child name) = .ok after) :
    ∃ loc, tree.locate p = .ok loc ∧ tree.node? loc = some .folder ∧ tree.node? (loc ++ [name]) = none ∧
      after = tree.put (loc ++ [name]) .folder := by
  have hparent : (p.child name).parent = p := by rw [FilePath.parent, FilePath.child, List.dropLast_concat]
  have hlast : (p.child name).parts.getLast? = some name := List.getLast?_concat
  cases hrefused : refusal? (p.child name) with
  | some e =>
    rw [makeFolder, hrefused] at h
    cases h
  | none =>
    rw [makeFolder, hrefused, hlast, hparent] at h
    cases hlocate : tree.locate p with
    | error e =>
      rw [hlocate] at h
      cases h
    | ok loc =>
      simp only [hlocate, bind, Except.bind] at h
      split at h
      · cases h
      · next hfolder =>
        split at h
        · cases h
        · split at h
          · cases h
          · next hfree =>
            have hnone : tree.node? (loc ++ [name]) = none := by
              cases hnode : tree.node? (loc ++ [name]) with
              | none => rfl
              | some node => exact absurd (.inr (by rw [hnode]; rfl)) hfree
            exact ⟨loc, rfl, hfolder, hnone, (Except.ok.inj h).symm⟩
      · cases h

/-- a folder on the way to where a path leads, with whatever names behind it -/
def OnTheWay (tree : FileTree) (p : FilePath) (place : Location) (node : FileNode) : Prop :=
  node = .folder ∧ ∀ more, (∀ name ∈ more, IsName name) → ∃ loc, place <+: loc ∧ tree.LeadsTo (p.join { parts := more }) loc

theorem OnTheWay.longer {p : FilePath} {names : List Text} {place : Location} {node : FileNode} (h : tree.OnTheWay p place node)
    (hnames : ∀ name ∈ names, IsName name) : tree.OnTheWay (p.join { parts := names }) place node := by
  refine ⟨h.1, fun more hmore => ?_⟩
  obtain ⟨loc, hplace, hleads⟩ := h.2 (names ++ more) (List.forall_mem_append.2 ⟨hnames, hmore⟩)
  refine ⟨loc, hplace, ?_⟩
  simpa only [FilePath.join, if_true, List.append_assoc] using hleads

theorem OnTheWay.of_grows {p : FilePath} {place : Location} {node : FileNode} (h : after.OnTheWay p place node)
    (hgrows : Grows allowed tree after) : tree.OnTheWay p place node := by
  refine ⟨h.1, fun more hmore => ?_⟩
  obtain ⟨loc, hplace, hleads⟩ := h.2 more hmore
  exact ⟨loc, hplace, hgrows.leadsTo_iff.1 hleads⟩

/-- a folder that is made lies on the way -/
theorem grows_makeFolder (hwf : tree.WellFormed) {p : FilePath} {name : Text} (hname : IsName name)
    (h : tree.makeFolder (p.child name) = .ok after) : Grows (tree.OnTheWay (p.child name)) tree after := by
  obtain ⟨loc, hlocate, hfolder, hnone, rfl⟩ := exists_of_makeFolder h
  have hreal := hwf.real_of_folder hfolder
  have hnames : ∀ n ∈ loc ++ [name], IsName n := by
    intro n hn
    rcases List.mem_append.1 hn with hn | hn
    · exact hreal.names n hn
    · rwa [List.mem_singleton.1 hn]
  have hfills : Fills (tree.node? (loc ++ [name])) .folder := by rw [hnone]; trivial
  have hgrows := grows_put hwf (by simp) hnames (by rwa [List.dropLast_concat]) hfills
  refine hgrows.mono ?_
  rintro place node ⟨rfl, rfl⟩
  refine ⟨rfl, fun more hmore => ⟨loc ++ [name] ++ more, List.prefix_append _ _, ?_⟩⟩
  have hfront : tree.resolveFrom tree.links (tree.start p) p.parts = .complete loc := leadsTo_of_locate hlocate
  have hbelow : tree.resolveFrom tree.links loc (name :: more) = .complete (loc ++ name :: more) := by
    refine resolveFrom_names (List.forall_mem_cons.2 ⟨hname, hmore⟩) fun place hplace hlink => ?_
    -- there is nothing below the new folder
    cases place with
    | nil => exact hreal.noLink loc (List.prefix_refl loc) (by rwa [List.append_nil] at hlink)
    | cons first rest =>
      obtain ⟨rfl, -⟩ := List.cons_prefix_cons.1 hplace
      obtain ⟨target, hlink⟩ := hlink
      rw [List.append_cons, hwf.node?_append_eq_none hnone] at hlink
      cases hlink
  calc tree.resolveFrom tree.links (tree.start p) (p.parts ++ [name] ++ more)
      = tree.resolveFrom tree.links (tree.start p) (p.parts ++ name :: more) := by rw [← List.append_cons]
    _ = tree.resolveFrom tree.links loc (name :: more) := resolveFrom_append hfront _
    _ = .complete (loc ++ [name] ++ more) := by rw [hbelow, ← List.append_cons]

/-- parts and more are followed one after another, with the links that are left -/
theorem exists_follow_append (tree : FileTree) (links : Nat) (loc : Location) (parts more : List Text) :
    ∃ left, tree.follow links loc (parts ++ more) = (tree.follow links loc parts).bind fun mid => tree.follow left mid more := by
  fun_induction follow tree links loc parts with
  | case1 links loc => exact ⟨links, rfl⟩
  | case2 links loc name rest hnode => exact ⟨0, by rw [List.cons_append, follow, hnode]; rfl⟩
  | case3 links loc name rest hnode hdot ih =>
    obtain ⟨left, ih⟩ := ih
    exact ⟨left, by rw [List.cons_append, follow, hnode]; simp only [if_pos hdot, ih]⟩
  | case4 links loc rest hnode hdot ih =>
    obtain ⟨left, ih⟩ := ih
    exact ⟨left, by rw [List.cons_append, follow, hnode]; simp only [if_neg hdot, if_true, ih]⟩
  | case5 links loc name rest hnode hdot hup hlong =>
    exact ⟨0, by rw [List.cons_append, follow, hnode]; simp only [if_neg hdot, if_neg hup, if_pos hlong]; rfl⟩
  | case6 loc name rest hnode hdot hup hlong target hlink =>
    exact ⟨0, by rw [List.cons_append, follow, hnode]; simp only [if_neg hdot, if_neg hup, if_neg hlong, hlink]; rfl⟩
  | case7 loc name rest hnode hdot hup hlong target hlink links ih =>
    obtain ⟨left, ih⟩ := ih
    rw [List.append_assoc] at ih
    exact ⟨left, by rw [List.cons_append, follow, hnode]; simp only [if_neg hdot, if_neg hup, if_neg hlong, hlink, ih]⟩
  | case8 links loc name rest hnode hdot hup hlong hnolink ih =>
    obtain ⟨left, ih⟩ := ih
    exact ⟨left, by rw [List.cons_append, follow, hnode]; simp only [if_neg hdot, if_neg hup, if_neg hlong, ih]⟩
  | case9 links loc name rest node hfolder hnode =>
    refine ⟨0, ?_⟩
    rw [List.cons_append, follow]
    split
    · next hnone => rw [hnode] at hnone; cases hnone
    · next hthere => rw [hnode] at hthere; exact absurd (Option.some.inj hthere) hfolder
    · rfl

theorem refusal?_ne_missing (p : FilePath) : refusal? p ≠ some .missing := by
  unfold refusal?
  split
  · decide
  · split <;> decide

/-- a name leads on from a folder: upwards, to itself, or through a link that has it -/
theorem folder_of_follow_name {links : Nat} {mid loc : Location} {name : Text} (hname : name ≠ [] ∧ name ≠ ['.'])
    (h : tree.follow links mid [name] = .ok loc) :
    tree.node? mid = some .folder ∧
      (name = ['.', '.'] ∨ loc = mid ++ [name] ∨ (tree.node? (mid ++ [name])).isSome = true) := by
  cases hmid : tree.node? mid with
  | none =>
    rw [follow, hmid] at h
    cases h
  | some node =>
    cases node with
    | file content =>
      rw [follow, hmid] at h
      cases h
    | link target =>
      rw [follow, hmid] at h
      cases h
    | folder =>
      refine ⟨rfl, or_iff_not_imp_left.2 fun hup => or_iff_not_imp_right.2 fun hfree => ?_⟩
      have hnone : tree.node? (mid ++ [name]) = none := by simpa using hfree
      rw [follow, hmid] at h
      simp only [if_neg (not_or.2 hname), if_neg hup, hnone, follow] at h
      split at h
      · cases h
      · exact (Except.ok.inj h).symm

/-- no folder is made where one is found, and nothing is missing there -/
theorem makeFolder_of_find {p : FilePath} {loc : Location} (hplain : Plain p) (h : tree.find p = .ok (loc, .folder)) :
    ∃ e, tree.makeFolder p = .error e ∧ e ≠ .missing := by
  obtain ⟨hlocate, hfolder⟩ := find_eq_ok_iff.1 h
  unfold locate at hlocate
  cases hrefused : refusal? p with
  | some e =>
    rw [hrefused] at hlocate
    cases hlocate
  | none =>
    cases hlast : p.parts.getLast? with
    | none => exact ⟨.exists, by rw [makeFolder, hrefused, hlast]; rfl, by decide⟩
    | some name =>
      obtain ⟨front, hparts⟩ := List.getLast?_eq_some_iff.1 hlast
      have hname := hplain name (by simp [hparts])
      have hparent : p.parent.parts = front := by rw [FilePath.parent, hparts, List.dropLast_concat]
      obtain ⟨left, hsplit⟩ := exists_follow_append tree maxLinks (tree.start p) front [name]
      rw [hrefused, hparts, hsplit] at hlocate
      cases hfront : tree.follow maxLinks (tree.start p) front with
      | error e =>
        rw [hfront] at hlocate
        cases hlocate
      | ok mid =>
        rw [hfront] at hlocate
        change tree.follow left mid [name] = .ok loc at hlocate
        rw [makeFolder, hrefused, hlast]
        simp only [locate, hparent]
        cases hrefused' : refusal? p.parent with
        | some e =>
          refine ⟨e, rfl, ?_⟩
          rintro rfl
          exact refusal?_ne_missing _ hrefused'
        | none =>
          change tree.follow maxLinks (tree.start p.parent) front = .ok mid at hfront
          obtain ⟨hmid, hlast⟩ := folder_of_follow_name hname hlocate
          -- the last part leads on from a folder, to what is there already
          have hthere : name = ['.', '.'] ∨ (tree.node? (mid ++ [name])).isSome = true := by
            rcases hlast with hup | rfl | hsome
            · exact .inl hup
            · exact .inr (by rw [hfolder]; rfl)
            · exact .inr hsome
          simp only [hfront, bind, Except.bind, hmid, if_pos hthere]
          split
          · exact ⟨_, rfl, by decide⟩
          · exact ⟨_, rfl, by decide⟩

/-- on the way to where the path leads a folder is there, and names lead on from it -/
def Grounded (tree : FileTree) (p : FilePath) : Prop :=
  ∃ (base : FilePath) (place : Location) (names : List Text), Plain base ∧ tree.find base = .ok (place, .folder) ∧
    (∀ name ∈ names, IsName name) ∧ p = base.join { parts := names }

/-- a path to a folder that is there -/
theorem grounded_of_find {p : FilePath} {loc : Location} (hplain : Plain p) (h : tree.find p = .ok (loc, .folder)) :
    tree.Grounded p :=
  ⟨p, loc, [], hplain, h, by simp, by rw [FilePath.join, if_pos rfl, List.append_nil]⟩

/-- a path that is made of names -/
theorem grounded_of_names (hwf : tree.WellFormed) {p : FilePath} (hslashes : p.slashes ≤ 2)
    (hnames : ∀ name ∈ p.parts, IsName name) : tree.Grounded p := by
  refine ⟨{ p with parts := [] }, tree.start p, p.parts, fun part hpart => absurd hpart List.not_mem_nil,
    find_eq_ok_iff.2 ⟨?_, hwf.folder_start p⟩, hnames, rfl⟩
  have hrefused : refusal? { p with parts := [] } = none := by
    obtain ⟨slashes, parts⟩ := p
    match slashes, hslashes with
    | 0, _ | 1, _ | 2, _ => rfl
  rw [locate, hrefused]
  exact follow.eq_1 tree maxLinks (tree.start p)

theorem Grounded.names {p : FilePath} {names : List Text} (h : tree.Grounded p) (hnames : ∀ name ∈ names, IsName name) :
    tree.Grounded (p.join { parts := names }) := by
  obtain ⟨base, place, front, hplain, hfind, hfront, rfl⟩ := h
  refine ⟨base, place, front ++ names, hplain, hfind, List.forall_mem_append.2 ⟨hfront, hnames⟩, ?_⟩
  simp only [FilePath.join, if_true, List.append_assoc]

theorem Grounded.of_grows {p : FilePath} (h : tree.Grounded p) (hgrows : Grows allowed tree after) : after.Grounded p := by
  obtain ⟨base, place, front, hplain, hfind, hfront, rfl⟩ := h
  obtain ⟨hlocate, hfolder⟩ := find_eq_ok_iff.1 hfind
  exact ⟨base, place, front, hplain, find_eq_ok_iff.2 ⟨hgrows.locate hlocate, hgrows.folder hfolder⟩, hfront, rfl⟩

/-- **Folders that are made lie on the way** to where their path leads. -/
theorem grows_makeFolders (hwf : tree.WellFormed) {p : FilePath} (h : tree.Grounded p) :
    Grows (tree.OnTheWay p) tree (tree.makeFolders p).1 := by
  obtain ⟨base, place, names, hplain, hfound, hnames, rfl⟩ := h
  induction names using List.reverseRecOn with
  | nil =>
    obtain ⟨e, hmake, hthere⟩ := makeFolder_of_find hplain hfound
    have hsame : base.join { parts := [] } = base := by rw [FilePath.join, if_pos rfl, List.append_nil]
    rw [hsame, makeFolders, hmake]
    cases e <;> first | exact absurd rfl hthere | exact .refl _ hwf
  | append_singleton names name ih =>
    obtain ⟨hfront, hlast⟩ := List.forall_mem_append.1 hnames
    have hchild : base.join { parts := names ++ [name] } = (base.join { parts := names }).child name := by
      simp only [FilePath.join, FilePath.child, if_true, List.append_assoc]
    have hparent : ((base.join { parts := names }).child name).parent = base.join { parts := names } := by
      rw [FilePath.parent, FilePath.child, List.dropLast_concat]
    have hparts : ((base.join { parts := names }).child name).parts ≠ [] := by simp [FilePath.child]
    have hname := hlast name List.mem_cons_self
    -- the folders above are on the way to this one, too
    have habove : Grows (tree.OnTheWay ((base.join { parts := names }).child name)) tree
        (tree.makeFolders (base.join { parts := names })).1 :=
      (ih hfront).mono fun place node h =>
        show tree.OnTheWay ((base.join { parts := names }).join { parts := [name] }) place node from h.longer hlast
    rw [hchild, makeFolders, hparent]
    split
    · next after hmake => exact grows_makeFolder hwf hname hmake
    · rw [dif_neg hparts]
      cases hmade : tree.makeFolders (base.join { parts := names }) with
      | mk mid fault? =>
        rw [hmade] at habove
        cases fault? with
        | some fault => exact habove
        | none =>
          dsimp only
          split
          · next after hmake =>
            exact habove.trans ((grows_makeFolder habove.wellFormed hname hmake).mono fun place node h => h.of_grows habove)
          · exact habove
    · exact .refl _ hwf

end Transclude.FileTree
