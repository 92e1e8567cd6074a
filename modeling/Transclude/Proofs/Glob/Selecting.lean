/-
What a pattern of paths selects.

From a path on, the parts of a pattern lead to paths that go on with names of the tree and of the pattern, and to each of them
once: the names in a folder are distinct, and for a double star, which can come to a path in several ways, the repeated ones are
erased. So the documents of a run are distinct, and sorting them puts them into strictly ascending order.

- `selection_select`: the paths that parts select are distinct and go on with such names.
- `files_ascending`: the files that a pattern selects are in strictly ascending order.
- `chosen_of_files`: each of them is a file that its path leads to.
-/
import Transclude.Glob.Select
import Transclude.Proofs.Failing
import Transclude.Proofs.FileTree.Changing
import Mathlib.Data.Char

namespace Transclude

/-! ## The order of paths -/

theorem Text.le_total (s t : Text) : Text.le s t = true ∨ Text.le t s = true := by
  induction s generalizing t with
  | nil => exact .inl rfl
  | cons c s ih =>
    cases t with
    | nil => exact .inr rfl
    | cons d t =>
      simp only [Text.le, Bool.or_eq_true, Bool.and_eq_true, decide_eq_true_eq, beq_iff_eq]
      rcases lt_trichotomy c d with h | rfl | h
      · exact .inl (.inl h)
      · exact (ih t).imp (fun h => .inr ⟨rfl, h⟩) (fun h => .inr ⟨rfl, h⟩)
      · exact .inr (.inl h)

theorem Text.le_antisymm {s t : Text} (h : Text.le s t = true) (h' : Text.le t s = true) : s = t := by
  induction s generalizing t with
  | nil =>
    cases t with
    | nil => rfl
    | cons d t => cases h'
  | cons c s ih =>
    cases t with
    | nil => cases h
    | cons d t =>
      simp only [Text.le, Bool.or_eq_true, Bool.and_eq_true, decide_eq_true_eq, beq_iff_eq] at h h'
      rcases h with h | ⟨rfl, h⟩
      · rcases h' with h' | ⟨rfl, -⟩
        · exact absurd h (lt_asymm h')
        · exact absurd h (lt_irrefl d)
      · rcases h' with h' | ⟨-, h'⟩
        · exact absurd h' (lt_irrefl c)
        · rw [ih h h']

theorem Text.le_trans {s t u : Text} (h : Text.le s t = true) (h' : Text.le t u = true) : Text.le s u = true := by
  induction s generalizing t u with
  | nil => rfl
  | cons c s ih =>
    cases t with
    | nil => cases h
    | cons d t =>
      cases u with
      | nil => cases h'
      | cons e u =>
        simp only [Text.le, Bool.or_eq_true, Bool.and_eq_true, decide_eq_true_eq, beq_iff_eq] at h h' ⊢
        rcases h with h | ⟨rfl, h⟩
        · rcases h' with h' | ⟨rfl, -⟩
          · exact .inl (lt_trans h h')
          · exact .inl h
        · rcases h' with h' | ⟨rfl, h'⟩
          · exact .inl h'
          · exact .inr ⟨rfl, ih h h'⟩

namespace FilePath

theorem partsLe_total (ps qs : List Text) : partsLe ps qs = true ∨ partsLe qs ps = true := by
  induction ps generalizing qs with
  | nil => exact .inl rfl
  | cons s ps ih =>
    cases qs with
    | nil => exact .inr rfl
    | cons t qs =>
      rw [partsLe, partsLe]
      by_cases e : s = t
      · rw [if_pos e, if_pos e.symm]
        exact ih qs
      · rw [if_neg e, if_neg fun e' => e e'.symm]
        exact Text.le_total s t

theorem partsLe_antisymm {ps qs : List Text} (h : partsLe ps qs = true) (h' : partsLe qs ps = true) : ps = qs := by
  induction ps generalizing qs with
  | nil =>
    cases qs with
    | nil => rfl
    | cons t qs => cases h'
  | cons s ps ih =>
    cases qs with
    | nil => cases h
    | cons t qs =>
      rw [partsLe] at h h'
      by_cases e : s = t
      · rw [if_pos e] at h
        rw [if_pos e.symm] at h'
        rw [e, ih h h']
      · rw [if_neg e] at h
        rw [if_neg fun e' => e e'.symm] at h'
        exact absurd (Text.le_antisymm h h') e

theorem partsLe_trans {ps qs rs : List Text} (h : partsLe ps qs = true) (h' : partsLe qs rs = true) : partsLe ps rs = true := by
  induction ps generalizing qs rs with
  | nil => rfl
  | cons s ps ih =>
    cases qs with
    | nil => cases h
    | cons t qs =>
      cases rs with
      | nil => cases h'
      | cons u rs =>
        rw [partsLe] at h h' ⊢
        by_cases e : s = t
        · subst e
          rw [if_pos rfl] at h
          by_cases e' : s = u
          · rw [if_pos e'] at h' ⊢
            exact ih h h'
          · rw [if_neg e'] at h' ⊢
            exact h'
        · rw [if_neg e] at h
          by_cases e' : t = u
          · subst e'
            rw [if_neg e]
            exact h
          · rw [if_neg e'] at h'
            rw [if_neg]
            · exact Text.le_trans h h'
            · rintro rfl
              exact e (Text.le_antisymm h h')

/-- the part behind others is what remains after them -/
theorem partsAfter?_eq_some_iff {front parts rest : List Text} : partsAfter? front parts = some rest ↔ parts = front ++ rest := by
  induction front generalizing parts with
  | nil => simp [partsAfter?]
  | cons name front ih =>
    cases parts with
    | nil => simp [partsAfter?]
    | cons part parts =>
      rw [partsAfter?, List.cons_append, List.cons.injEq]
      split
      · next e => rw [ih, e]; simp
      · next e => simp [Ne.symm e]

end FilePath

namespace Glob

open FileTree (IsName)

/-! ## Names -/

variable {tree : FileTree}

/-- the name that a location has in a folder, if it is right in it -/
def nameIn? (loc place : Location) : Option Text :=
  match FilePath.partsAfter? loc place with
  | some [name] => some name
  | _ => none

theorem eq_of_nameIn? {loc place : Location} {name : Text} (h : nameIn? loc place = some name) : place = loc ++ [name] := by
  unfold nameIn? at h
  split at h
  · next hafter => rw [FilePath.partsAfter?_eq_some_iff.1 hafter, Option.some.inj h]
  · cases h

theorem names_eq (tree : FileTree) (loc : Location) : tree.names loc = (tree.nodes.map (·.1)).filterMap (nameIn? loc) := by
  rw [List.filterMap_map]
  rfl

theorem isName_of_mem_names (hwf : tree.WellFormed) {loc : Location} {name : Text} (h : name ∈ tree.names loc) : IsName name := by
  rw [names_eq] at h
  obtain ⟨place, hplace, hname⟩ := List.mem_filterMap.1 h
  obtain ⟨entry, hentry, rfl⟩ := List.mem_map.1 hplace
  exact (hwf.named entry hentry).2 name (by simp [eq_of_nameIn? hname])

/-- the names in a folder are distinct -/
theorem nodup_names (hwf : tree.WellFormed) (loc : Location) : (tree.names loc).Nodup := by
  rw [names_eq]
  refine hwf.distinct.filterMap fun place place' name h h' => ?_
  rw [eq_of_nameIn? h, eq_of_nameIn? h']

theorem isName_of_mem_foldersBelow (hwf : tree.WellFormed) {loc : Location} {below : List Text}
    (h : below ∈ tree.foldersBelow loc) : ∀ name ∈ below, IsName name := by
  obtain ⟨⟨place, node⟩, hentry, hbelow⟩ := List.mem_filterMap.1 h
  cases node with
  | file content => cases hbelow
  | link target => cases hbelow
  | folder =>
    dsimp only at hbelow
    split at hbelow
    · next name rest hafter =>
      obtain rfl := Option.some.inj hbelow
      intro n hn
      refine (hwf.named _ hentry).2 n ?_
      rw [FilePath.partsAfter?_eq_some_iff.1 hafter]
      exact List.mem_append_right loc hn
    · cases hbelow

/-! ## Selections -/

variable {good : Text → Prop}

/-- distinct paths that go on from one path with names of some kind -/
structure Selection (good : Text → Prop) (at_ : List Text) (found : List (List Text)) : Prop where
  nodup : found.Nodup
  goesOn : ∀ path ∈ found, ∃ rest, path = at_ ++ rest ∧ ∀ name ∈ rest, good name

theorem Selection.none (at_ : List Text) : Selection good at_ [] := ⟨List.nodup_nil, by simp⟩

theorem Selection.here (at_ : List Text) : Selection good at_ [at_] := by
  refine ⟨List.nodup_singleton at_, fun path hpath => ⟨[], ?_, ?_⟩⟩
  · rw [List.mem_singleton.1 hpath, List.append_nil]
  · exact fun name hname => absurd hname List.not_mem_nil

theorem Selection.behind {at_ : List Text} {front : List Text} {found : List (List Text)}
    (h : Selection good (at_ ++ front) found) (hfront : ∀ name ∈ front, good name) : Selection good at_ found := by
  refine ⟨h.nodup, fun path hpath => ?_⟩
  obtain ⟨rest, rfl, hrest⟩ := h.goesOn path hpath
  exact ⟨front ++ rest, List.append_assoc at_ front rest, List.forall_mem_append.2 ⟨hfront, hrest⟩⟩

/-- behind distinct names the paths are distinct -/
theorem selection_flatten {at_ : List Text} {names : List Text} {founds : List (List (List Text))} (hnodup : names.Nodup)
    (hnames : ∀ name ∈ names, good name)
    (h : List.Forall₂ (fun name found => Selection good (at_ ++ [name]) found) names founds) :
    Selection good at_ founds.flatten := by
  refine ⟨?_, ?_⟩
  · induction h with
    | nil => exact List.nodup_nil
    | @cons name found names founds here rest ih =>
      obtain ⟨hnew, hnodup⟩ := List.nodup_cons.1 hnodup
      rw [List.flatten_cons, List.nodup_append']
      refine ⟨here.nodup, ih hnodup fun n hn => hnames n (List.mem_cons_of_mem _ hn), fun path hpath hlater => hnew ?_⟩
      -- the name right behind tells which one a path is of
      obtain ⟨found', hfound', hpath'⟩ := List.mem_flatten.1 hlater
      obtain ⟨name', hname', hsel⟩ := exists_left_of_forall₂ rest hfound'
      obtain ⟨more, rfl, -⟩ := here.goesOn path hpath
      obtain ⟨more', heq, -⟩ := hsel.goesOn _ hpath'
      rw [List.append_assoc, List.append_assoc] at heq
      obtain ⟨rfl, -⟩ := List.cons.inj (List.append_cancel_left heq)
      exact hname'
  · intro path hpath
    obtain ⟨found, hfound, hpath⟩ := List.mem_flatten.1 hpath
    obtain ⟨name, hname, hsel⟩ := exists_left_of_forall₂ h hfound
    exact (hsel.behind (List.forall_mem_singleton.2 (hnames name hname))).goesOn path hpath

theorem nodup_eraseDups (paths : List (List Text)) : paths.eraseDups.Nodup := by
  induction hlength : paths.length using Nat.strong_induction_on generalizing paths with
  | _ n ih =>
    cases paths with
    | nil => exact List.nodup_nil
    | cons path paths =>
      rw [List.eraseDups_cons, List.nodup_cons]
      refine ⟨fun hmem => ?_, ih _ ?_ _ rfl⟩
      · simp at hmem
      · have := List.length_filter_le (fun b => !b == path) paths
        rw [List.length_cons] at hlength
        omega

/-- **What the parts of a pattern select** are distinct paths that go on with names of the tree and of the pattern. -/
theorem selection_select (hwf : tree.WellFormed) {base : FilePath} {parts : List Part} (hgood : ∀ name, IsName name → good name)
    (hparts : ∀ name, .name name ∈ parts → good name) {at_ : List Text} {found : List (List Text)}
    (h : select tree base parts at_ = .ok found) : Selection good at_ found := by
  induction parts generalizing at_ found with
  | nil => exact Except.ok.inj h ▸ .here at_
  | cons part rest ih =>
    have ih := @ih fun name hname => hparts name (List.mem_cons_of_mem _ hname)
    have hguard : ∀ {name : Text} {found : List (List Text)} {there : Except FileFault Bool},
        (there >>= fun there => if there then select tree base rest (at_ ++ [name]) else pure []) = .ok found →
        Selection good (at_ ++ [name]) found := by
      intro name found there h
      obtain ⟨there, -, hselect⟩ := bind_eq_ok_iff.1 h
      cases there with
      | false => exact Except.ok.inj hselect ▸ .none _
      | true => exact ih hselect
    cases part with
    | stop => exact Except.ok.inj h ▸ .here at_
    | name name =>
      have hname : ∀ n ∈ [name], good n := List.forall_mem_singleton.2 (hparts name List.mem_cons_self)
      rw [select] at h
      split at h
      · exact (hguard h).behind hname
      · exact (hguard h).behind hname
    | names pieces =>
      rw [select] at h
      split at h
      · exact Except.ok.inj h ▸ .none at_
      · next loc hlocate =>
        obtain ⟨founds, hfounds, hflat⟩ := bind_eq_ok_iff.1 h
        obtain rfl := Except.ok.inj hflat
        have hselections : List.Forall₂ (fun name found => Selection good (at_ ++ [name]) found)
            ((tree.names loc).filter (accepts pieces)) founds := by
          refine (mapM_eq_ok_iff.1 hfounds).imp fun name found hfound => ?_
          dsimp only at hfound
          split at hfound
          · exact hguard hfound
          · exact hguard hfound
        exact selection_flatten ((nodup_names hwf loc).filter _)
          (fun name hname => hgood name (isName_of_mem_names hwf (List.mem_filter.1 hname).1)) hselections
    | folders =>
      rw [select] at h
      split at h
      · exact Except.ok.inj h ▸ .none at_
      · next loc hlocate =>
        obtain ⟨founds, hfounds, hflat⟩ := bind_eq_ok_iff.1 h
        obtain rfl := Except.ok.inj hflat
        refine ⟨nodup_eraseDups _, fun path hpath => ?_⟩
        obtain ⟨found, hfound, hpath⟩ := List.mem_flatten.1 (List.mem_eraseDups.1 hpath)
        obtain ⟨below, hbelow, hselect⟩ := exists_left_of_forall₂ (mapM_eq_ok_iff.1 hfounds) hfound
        refine ((ih hselect).behind fun name hname => ?_).goesOn path hpath
        rcases List.mem_cons.1 hbelow with rfl | hbelow
        · exact absurd hname List.not_mem_nil
        · exact hgood name (isName_of_mem_foldersBelow hwf hbelow name hname)

/-- the names in the parts of a pattern are parts of its path -/
theorem mem_of_name_mem_parts {pattern : Text} {ps : List Part} (h : parts pattern = .ok ps) {name : Text}
    (hname : .name name ∈ ps) : name ∈ (FilePath.ofText pattern).parts := by
  unfold parts at h
  dsimp only at h
  split at h
  · cases h
  · split at h
    · cases h
    · split at h
      · cases h
      · obtain ⟨read, hread, heq⟩ := bind_eq_ok_iff.1 h
        obtain rfl := Except.ok.inj heq
        have hmem : .name name ∈ read := by
          split at hname
          · exact (List.mem_append.1 hname).resolve_right (by simp)
          · exact hname
        obtain ⟨t, ht, hpart⟩ := exists_left_of_forall₂ (mapM_eq_ok_iff.1 hread) hmem
        have hsame : t = name := by
          unfold part at hpart
          split at hpart
          · cases hpart
          · split at hpart
            · cases hpart
            · split at hpart
              · cases hpart
              · exact Part.name.inj (Except.ok.inj hpart)
        exact hsame ▸ ht

/-! ## Files -/

/-- what a path is answered `true` for is there -/
theorem exists_of_test {p : FilePath} {holds : FileNode → Bool} (h : tree.test p holds = .ok true) :
    ∃ loc node, tree.find p = .ok (loc, node) ∧ holds node = true := by
  unfold FileTree.test at h
  split at h
  · next loc node hfind => exact ⟨loc, node, hfind, Except.ok.inj h⟩
  · split at h <;> cases h

theorem exists_folder_of_reachesFolder {p : FilePath} (h : tree.reachesFolder p = .ok true) :
    ∃ loc, tree.find p = .ok (loc, .folder) := by
  obtain ⟨loc, node, hfind, hnode⟩ := exists_of_test h
  cases node with
  | folder => exact ⟨loc, hfind⟩
  | file content => cases hnode
  | link target => cases hnode

theorem exists_file_of_reachesFile {p : FilePath} (h : tree.reachesFile p = .ok true) :
    ∃ loc content, tree.find p = .ok (loc, .file content) := by
  obtain ⟨loc, node, hfind, hnode⟩ := exists_of_test h
  cases node with
  | file content => exact ⟨loc, content, hfind⟩
  | folder => cases hnode
  | link target => cases hnode

/-- what was selected, before it was sorted -/
theorem exists_of_files (hwf : tree.WellFormed) {base : FilePath} {ps : List Part} (hgood : ∀ name, IsName name → good name)
    (hparts : ∀ name, .name name ∈ ps → good name) {documents : List FilePath} (h : files tree base ps = .ok documents) :
    ∃ found : List (List Text), Selection good [] found ∧
      (∀ path ∈ found, tree.reachesFile (base.join { parts := path }) = .ok true) ∧
      documents = (found.map fun path => { parts := path : FilePath }).mergeSort FilePath.le := by
  unfold files at h
  obtain ⟨folder, -, h⟩ := bind_eq_ok_iff.1 h
  cases folder with
  | false =>
    refine ⟨[], .none [], by simp, (Except.ok.inj h).symm.trans ?_⟩
    rw [List.map_nil, List.mergeSort_nil]
  | true =>
    obtain ⟨selected, hselected, h⟩ := bind_eq_ok_iff.1 h
    obtain ⟨found, hfound, h⟩ := bind_eq_ok_iff.1 h
    have hselection := selection_select hwf hgood hparts hselected
    obtain ⟨hsub, hfiles⟩ := exists_of_filterM_eq_ok hfound
    exact ⟨found, ⟨hselection.nodup.sublist hsub, fun path hpath => hselection.goesOn path (hsub.subset hpath)⟩, hfiles,
      (Except.ok.inj h).symm⟩

/-- a path below a folder, made of proper names, that leads to a file -/
structure Chosen (tree : FileTree) (base document : FilePath) : Prop where
  slashes : document.slashes = 0
  named : ∀ name ∈ document.parts, IsName name
  file : ∃ loc content, tree.find (base.join document) = .ok (loc, .file content)

/-- each of the files is one, if the pattern does not lead upwards -/
theorem chosen_of_files (hwf : tree.WellFormed) {base : FilePath} {pattern : Text} {ps : List Part}
    (hpattern : parts pattern = .ok ps) (hdots : ['.', '.'] ∉ (FilePath.ofText pattern).parts) {documents : List FilePath}
    (h : files tree base ps = .ok documents) : ∀ document ∈ documents, Chosen tree base document := by
  have hparts : ∀ name, .name name ∈ ps → IsName name := by
    intro name hname
    have hmem := mem_of_name_mem_parts hpattern hname
    obtain ⟨hne, hdot⟩ := FileTree.plain_ofText pattern name hmem
    exact ⟨hne, hdot, fun e => hdots (e ▸ hmem)⟩
  obtain ⟨found, hselection, hfiles, rfl⟩ := exists_of_files hwf (fun _ => id) hparts h
  intro document hdocument
  obtain ⟨path, hpath, rfl⟩ := List.mem_map.1 (List.mem_mergeSort.1 hdocument)
  obtain ⟨rest, rfl, hrest⟩ := hselection.goesOn path hpath
  refine ⟨rfl, hrest, ?_⟩
  exact exists_file_of_reachesFile (hfiles _ hpath)

/-- files are selected in a folder only -/
theorem exists_folder_of_files {base : FilePath} {ps : List Part} {documents : List FilePath}
    (h : files tree base ps = .ok documents) (hne : documents ≠ []) : ∃ loc, tree.find base = .ok (loc, .folder) := by
  unfold files at h
  obtain ⟨folder, hfolder, h⟩ := bind_eq_ok_iff.1 h
  cases folder with
  | false => exact absurd (Except.ok.inj h).symm hne
  | true => exact exists_folder_of_reachesFolder hfolder

/-- **The files that a pattern selects are in strictly ascending order.** -/
theorem files_ascending (hwf : tree.WellFormed) {base : FilePath} {ps : List Part} {documents : List FilePath}
    (h : files tree base ps = .ok documents) :
    documents.Pairwise fun p q => FilePath.le p q = true ∧ FilePath.le q p = false := by
  obtain ⟨found, hselection, -, rfl⟩ := @exists_of_files _ (fun _ => True) hwf _ _ (fun _ _ => trivial) (fun _ _ => trivial) _ h
  have hinjective : Function.Injective fun path : List Text => { parts := path : FilePath } :=
    fun _ _ e => congrArg FilePath.parts e
  have hnodup := (List.mergeSort_perm (found.map fun path => { parts := path : FilePath }) FilePath.le).nodup_iff.2
    (hselection.nodup.map hinjective)
  have hsorted := @List.pairwise_mergeSort _ FilePath.le (fun _ _ _ => FilePath.partsLe_trans)
    (fun p q => Bool.or_eq_true _ _ ▸ FilePath.partsLe_total p.parts q.parts)
    (found.map fun path => { parts := path : FilePath })
  refine (hsorted.and hnodup).imp_of_mem ?_
  rintro p q hp hq ⟨hle, hne⟩
  refine ⟨hle, ?_⟩
  by_contra hback
  -- relative paths are as many as their parts
  obtain ⟨ps, -, rfl⟩ := List.mem_map.1 (List.mem_mergeSort.1 hp)
  obtain ⟨qs, -, rfl⟩ := List.mem_map.1 (List.mem_mergeSort.1 hq)
  exact hne (congrArg (fun parts => { parts : FilePath }) (FilePath.partsLe_antisymm hle (by simpa [FilePath.le] using hback)))

end Glob

end Transclude
