/-
Reading from a vault, where looking a path up can fail as well.

A vault has three answers in store: the text of a file below its root, that there is no such file, and a fault of its own kind, for a
file that is there but cannot be read or is no text. What happens to a file that was found is always put into one of these. The
look-ups in front of it, for the real location of a path and for what is there, have faults of other kinds: some of them count as
there being nothing, and the others come out as they are.

`FileHost` is anything that looks paths up. A tree of files is one; a host that knows permissions is another.

- `kept_readThrough_iff`: the answer is one of the three exactly where no look-up has a fault of its own to tell and no text is found
  outside of the root.
- `read_cases`: the faults that come out over a tree of files: a name that is too long, a path with the character zero in it, and a
  link that leads back to itself.
- `readThrough_kept`: both together, and that over a tree of files a path that is clear has one of the three answers.
-/
import Mathlib.Tactic
import Transclude.Proofs.Failing
import Transclude.Proofs.FileTree.Following
import Transclude.Vault

namespace Transclude

open FileTree (pathTo)

/-! ## Hosts -/

namespace FileFault

/-- the fault tells that a vault has a file that cannot be read or is no text -/
def isOfVault : FileFault → Bool
  | .unreadable _ _ => true
  | .notText _ _ _ => true
  | _ => false

/-- the fault counts as there being nothing: no such file, a bad descriptor, no folder on the way, or too many links -/
def isAbsence : FileFault → Bool
  | .path error _ => error.isAbsence
  | .medium fault => fault.number? ∈ [some 2, some 9, some 20, some 40]
  | _ => false

end FileFault

/-- what looks paths up, and does not know of vaults -/
structure FileHost where
  /-- the real location of a path -/
  resolve : FilePath → Except FileFault Location
  /-- what a path leads to, and where it is -/
  status : FilePath → Except FileFault (Location × FileNode)
  resolve_raw : ∀ {p : FilePath} {fault : FileFault}, resolve p = .error fault → fault.isOfVault = false
  status_raw : ∀ {p : FilePath} {fault : FileFault}, status p = .error fault → fault.isOfVault = false

/-- the faults of a real location -/
theorem FileTree.resolve_error_cases {tree : FileTree} {p : FilePath} {fault : FileFault} (h : tree.resolve p = .error fault) :
    ∃ place, fault = .path .zeroCharacter place ∨ fault = .linkLoop place := by
  unfold resolve at h
  split at h
  · exact ⟨_, Or.inl (Except.error.inj h).symm⟩
  · split at h
    · cases h
    · dsimp only at h
      split at h
      · exact ⟨_, Or.inr (Except.error.inj h).symm⟩
      · cases h

/-- a tree of files as a host -/
def FileHost.ofTree (tree : FileTree) : FileHost where
  resolve := tree.resolve
  status p := (tree.find p).mapError fun e => .path e p.toText
  resolve_raw h := by
    obtain ⟨place, rfl | rfl⟩ := FileTree.resolve_error_cases h
    · rfl
    · rfl
  status_raw {p fault} h := by
    cases hfind : tree.find p with
    | error e =>
      rw [hfind] at h
      obtain rfl := Except.error.inj h
      rfl
    | ok found =>
      rw [hfind] at h
      cases h

namespace Vault

/-! ## What a vault promises -/

/-- the text of a file that was found -/
def textOf (v : Vault) (path : Text) (content : Except MediumFault (List UInt8)) : Except FileFault Text := do
  let octets ← content.mapError (.unreadable path)
  (v.encoding.readText octets).mapError fun e => .notText path v.encoding e.reason

/-- the text of the file at a path in the vault, if there is a file, where a host looks paths up -/
def readThrough (v : Vault) (host : FileHost) (path : Text) : Except FileFault (Option Text) := do
  let loc ← host.resolve (v.hostPath path)
  if v.root <+: loc then
    match host.status (pathTo loc) with
    | .ok (_, .file content) => (v.textOf path content).map some
    | .ok _ => return none
    | .error fault => if fault.isAbsence then return none else throw fault
  else return none

/-- the host finds a file for a path in the vault -/
def Finds (v : Vault) (host : FileHost) (path : Text) (place : Location) (content : Except MediumFault (List UInt8)) : Prop :=
  ∃ loc, host.resolve (v.hostPath path) = .ok loc ∧ v.root <+: loc ∧ host.status (pathTo loc) = .ok (place, .file content)

/-- an answer that a vault has in store for a path -/
inductive Kept (v : Vault) (host : FileHost) (path : Text) : Except FileFault (Option Text) → Prop where
  /-- the text of a file below the root -/
  | text {place : Location} {content : Except MediumFault (List UInt8)} {text : Text} (found : v.Finds host path place content)
      (below : v.root <+: place) (decoded : v.textOf path content = .ok text) : Kept v host path (.ok (some text))
  /-- there is no file below the root -/
  | absent (h : ∀ place content, v.Finds host path place content → ¬ v.root <+: place) : Kept v host path (.ok none)
  /-- the one kind of fault -/
  | fault {fault : FileFault} (h : fault.isOfVault = true) : Kept v host path (.error fault)

/-- looking a path up has no fault to tell, and leads to no text outside of the root -/
structure Lookable (v : Vault) (host : FileHost) (path : Text) : Prop where
  located : ∃ loc, host.resolve (v.hostPath path) = .ok loc
  told : ∀ loc fault, host.resolve (v.hostPath path) = .ok loc → v.root <+: loc → host.status (pathTo loc) = .error fault →
    fault.isAbsence = true
  inside : ∀ place content text, v.Finds host path place content → v.textOf path content = .ok text → v.root <+: place

variable {v : Vault} {host : FileHost} {path : Text}

/-- what goes wrong with a file that was found is told by a fault of the vault -/
theorem isOfVault_of_textOf {content : Except MediumFault (List UInt8)} {fault : FileFault}
    (h : v.textOf path content = .error fault) : fault.isOfVault = true := by
  cases content with
  | error medium =>
    cases h
    rfl
  | ok octets =>
    cases htext : v.encoding.readText octets with
    | error e =>
      simp only [textOf, Except.mapError, bind, Except.bind, htext] at h
      cases h
      rfl
    | ok text =>
      simp only [textOf, Except.mapError, bind, Except.bind, htext] at h
      cases h

theorem textOf_eq_ok_iff {content : Except MediumFault (List UInt8)} {text : Text} :
    v.textOf path content = .ok text ↔ ∃ octets, content = .ok octets ∧ v.encoding.readText octets = .ok text := by
  rw [textOf, bind_eq_ok_iff]
  simp only [mapError_eq_ok_iff]

theorem Finds.unique {place place' : Location} {content content' : Except MediumFault (List UInt8)}
    (h : v.Finds host path place content) (h' : v.Finds host path place' content') : place = place' ∧ content = content' := by
  obtain ⟨loc, hloc, -, hstatus⟩ := h
  obtain ⟨loc', hloc', -, hstatus'⟩ := h'
  obtain rfl := Except.ok.inj (hloc.symm.trans hloc')
  obtain ⟨hplace, hnode⟩ := Prod.mk.inj (Except.ok.inj (hstatus.symm.trans hstatus'))
  exact ⟨hplace, FileNode.file.inj hnode⟩

/-! ## What becomes of a look-up -/

/-- how looking a path up can end -/
inductive Lookup (v : Vault) (host : FileHost) (path : Text) : Prop where
  | lost {fault : FileFault} (h : host.resolve (v.hostPath path) = .error fault)
  | outside {loc : Location} (h : host.resolve (v.hostPath path) = .ok loc) (hout : ¬ v.root <+: loc)
  | refused {loc : Location} {fault : FileFault} (h : host.resolve (v.hostPath path) = .ok loc) (hbelow : v.root <+: loc)
    (hstatus : host.status (pathTo loc) = .error fault)
  | other {loc place : Location} {node : FileNode} (h : host.resolve (v.hostPath path) = .ok loc) (hbelow : v.root <+: loc)
    (hstatus : host.status (pathTo loc) = .ok (place, node)) (hnode : ∀ content, node ≠ .file content)
  | file {place : Location} {content : Except MediumFault (List UInt8)} (found : v.Finds host path place content)

/-- every look-up ends in one of these ways -/
theorem lookup (v : Vault) (host : FileHost) (path : Text) : v.Lookup host path := by
  cases hloc : host.resolve (v.hostPath path) with
  | error fault => exact .lost hloc
  | ok loc =>
    by_cases hbelow : v.root <+: loc
    · cases hstatus : host.status (pathTo loc) with
      | error fault => exact .refused hloc hbelow hstatus
      | ok found =>
        obtain ⟨place, node⟩ := found
        cases node with
        | file content => exact .file ⟨loc, hloc, hbelow, hstatus⟩
        | folder => exact .other hloc hbelow hstatus fun content => FileNode.noConfusion
        | link target => exact .other hloc hbelow hstatus fun content => FileNode.noConfusion
    · exact .outside hloc hbelow

theorem readThrough_of_lost {fault : FileFault} (h : host.resolve (v.hostPath path) = .error fault) :
    v.readThrough host path = .error fault := by
  rw [readThrough, h]
  rfl

theorem readThrough_of_outside {loc : Location} (h : host.resolve (v.hostPath path) = .ok loc) (hout : ¬ v.root <+: loc) :
    v.readThrough host path = .ok none := by
  simp only [readThrough, h, bind, Except.bind, if_neg hout]
  rfl

theorem readThrough_of_refused {loc : Location} {fault : FileFault} (h : host.resolve (v.hostPath path) = .ok loc)
    (hbelow : v.root <+: loc) (hstatus : host.status (pathTo loc) = .error fault) :
    v.readThrough host path = if fault.isAbsence then .ok none else .error fault := by
  simp only [readThrough, h, bind, Except.bind, if_pos hbelow, hstatus]
  rfl

theorem readThrough_of_other {loc place : Location} {node : FileNode} (h : host.resolve (v.hostPath path) = .ok loc)
    (hbelow : v.root <+: loc) (hstatus : host.status (pathTo loc) = .ok (place, node)) (hnode : ∀ content, node ≠ .file content) :
    v.readThrough host path = .ok none := by
  simp only [readThrough, h, bind, Except.bind, if_pos hbelow, hstatus]
  cases node with
  | file content => exact absurd rfl (hnode content)
  | folder => rfl
  | link target => rfl

theorem readThrough_of_finds {place : Location} {content : Except MediumFault (List UInt8)}
    (h : v.Finds host path place content) : v.readThrough host path = (v.textOf path content).map some := by
  obtain ⟨loc, hloc, hbelow, hstatus⟩ := h
  simp only [readThrough, hloc, bind, Except.bind, if_pos hbelow, hstatus]

/-- where a look-up finds no file and has no fault to tell, the answer that there is no file is right -/
theorem kept_of_no_file {loc : Location} (h : host.resolve (v.hostPath path) = .ok loc)
    (hfile : v.root <+: loc → ∀ place content, host.status (pathTo loc) ≠ .ok (place, .file content))
    (htold : v.root <+: loc → ∀ fault, host.status (pathTo loc) = .error fault → fault.isAbsence = true) :
    v.Kept host path (.ok none) ∧ v.Lookable host path := by
  have hnone : ∀ place content, ¬ v.Finds host path place content := by
    rintro place content ⟨loc', hloc', hbelow, hstatus⟩
    obtain rfl := Except.ok.inj (h.symm.trans hloc')
    exact hfile hbelow place content hstatus
  refine ⟨.absent fun place content found => absurd found (hnone place content), ⟨loc, h⟩, ?_,
    fun place content _ found => absurd found (hnone place content)⟩
  intro loc' fault hloc' hbelow hstatus
  obtain rfl := Except.ok.inj (h.symm.trans hloc')
  exact htold hbelow fault hstatus

/-- **The answer to a path is one that the vault has in store** exactly where looking it up has no fault of its own to tell and leads
to no text outside of the root. -/
theorem kept_readThrough_iff (v : Vault) (host : FileHost) (path : Text) :
    v.Kept host path (v.readThrough host path) ↔ v.Lookable host path := by
  cases v.lookup host path with
  | @lost fault h =>
    rw [readThrough_of_lost h]
    constructor
    · rintro (_ | _ | hfault)
      rw [host.resolve_raw h] at hfault
      cases hfault
    · rintro ⟨⟨loc, hloc⟩, -, -⟩
      cases h.symm.trans hloc
  | @outside loc h hout =>
    obtain ⟨hkept, hlookable⟩ := kept_of_no_file h (fun hbelow => absurd hbelow hout) fun hbelow => absurd hbelow hout
    rw [readThrough_of_outside h hout]
    exact iff_of_true hkept hlookable
  | @refused loc fault h hbelow hstatus =>
    rw [readThrough_of_refused h hbelow hstatus]
    by_cases habsence : fault.isAbsence = true
    · have hfile : ∀ place content, host.status (pathTo loc) ≠ .ok (place, .file content) := fun place content hfound => by
        cases hstatus.symm.trans hfound
      have htold : ∀ fault', host.status (pathTo loc) = .error fault' → fault'.isAbsence = true := fun fault' hfault =>
        Except.error.inj (hstatus.symm.trans hfault) ▸ habsence
      obtain ⟨hkept, hlookable⟩ := kept_of_no_file h (fun _ => hfile) fun _ => htold
      rw [if_pos habsence]
      exact iff_of_true hkept hlookable
    · rw [if_neg habsence]
      refine iff_of_false ?_ fun hlookable => habsence (hlookable.told loc fault h hbelow hstatus)
      rintro (_ | _ | hfault)
      rw [host.status_raw hstatus] at hfault
      cases hfault
  | @other loc place node h hbelow hstatus hnode =>
    have hfile : ∀ place' content, host.status (pathTo loc) ≠ .ok (place', .file content) := fun place' content hfound =>
      hnode content (Prod.mk.inj (Except.ok.inj (hstatus.symm.trans hfound))).2
    have htold : ∀ fault, host.status (pathTo loc) = .error fault → fault.isAbsence = true := fun fault hfault => by
      cases hstatus.symm.trans hfault
    obtain ⟨hkept, hlookable⟩ := kept_of_no_file h (fun _ => hfile) fun _ => htold
    rw [readThrough_of_other h hbelow hstatus hnode]
    exact iff_of_true hkept hlookable
  | @file place content found =>
    obtain ⟨loc, h, -, hstatus⟩ := id found
    have htold : ∀ loc' fault, host.resolve (v.hostPath path) = .ok loc' → v.root <+: loc' →
        host.status (pathTo loc') = .error fault → fault.isAbsence = true := by
      intro loc' fault hloc' _ hfault
      obtain rfl := Except.ok.inj (h.symm.trans hloc')
      cases hstatus.symm.trans hfault
    rw [readThrough_of_finds found]
    cases htext : v.textOf path content with
    | error fault =>
      refine iff_of_true (.fault (isOfVault_of_textOf htext)) ⟨⟨loc, h⟩, htold, fun place' content' text found' htext' => ?_⟩
      obtain ⟨-, rfl⟩ := found.unique found'
      cases htext.symm.trans htext'
    | ok text =>
      constructor
      · intro hkept
        refine ⟨⟨loc, h⟩, htold, fun place' content' text' found' _ => ?_⟩
        cases hkept with
        | text found'' hbelow _ => exact (found'.unique found'').1 ▸ hbelow
      · intro hlookable
        exact .text found (hlookable.inside place content text found htext) htext

/-! ## A tree of files as the host -/

variable {tree : FileTree}

/-- a vault reads from a tree of files as it reads through a host -/
theorem read_eq_readThrough (v : Vault) (tree : FileTree) (path : Text) :
    v.read tree path = v.readThrough (.ofTree tree) path := by
  unfold read locate readThrough contentAt
  simp only [FileHost.ofTree]
  cases tree.resolve (v.hostPath path) with
  | error fault => rfl
  | ok loc =>
    by_cases hbelow : v.root <+: loc
    · have hprefix : v.root.isPrefixOf loc = true := List.isPrefixOf_iff_prefix.2 hbelow
      simp only [Except.map, bind, Except.bind, hprefix, if_pos hbelow, if_true]
      cases tree.find (pathTo loc) with
      | error e =>
        have habsence : (FileFault.path e (pathTo loc).toText).isAbsence = e.isAbsence := rfl
        simp only [Except.mapError, habsence]
        cases e.isAbsence with
        | true => rfl
        | false => rfl
      | ok found =>
        obtain ⟨place, node⟩ := found
        cases node with
        | file content =>
          simp only [Except.mapError, textOf, bind, Except.bind]
          cases content with
          | error medium => rfl
          | ok octets =>
            dsimp only
            cases v.encoding.readText octets with
            | error e => rfl
            | ok text => rfl
        | folder => rfl
        | link target => rfl
    · have hprefix : v.root.isPrefixOf loc = false := by
        rw [← Bool.not_eq_true, List.isPrefixOf_iff_prefix]
        exact hbelow
      simp only [Except.map, bind, Except.bind, hprefix, if_neg hbelow]
      rfl

/-- **The faults that come out over a tree of files**: those of the vault, and the ones that a look-up has of its own. -/
theorem read_cases {fault : FileFault} (h : v.read tree path = .error fault) :
    fault.isOfVault = true ∨
      ∃ place, fault = .path .zeroCharacter place ∨ fault = .linkLoop place ∨ fault = .path .nameTooLong place := by
  rw [read_eq_readThrough] at h
  cases v.lookup (.ofTree tree) path with
  | lost hresolve =>
    rw [readThrough_of_lost hresolve] at h
    obtain rfl := Except.error.inj h
    obtain ⟨place, hplace⟩ := FileTree.resolve_error_cases hresolve
    exact Or.inr ⟨place, hplace.imp_right Or.inl⟩
  | outside hresolve hout =>
    rw [readThrough_of_outside hresolve hout] at h
    cases h
  | @refused loc fault' hresolve hbelow hstatus =>
    rw [readThrough_of_refused hresolve hbelow hstatus] at h
    split at h
    · cases h
    · rename_i habsence
      obtain rfl := Except.error.inj h
      obtain ⟨e, -, rfl⟩ := mapError_eq_error_iff.1 hstatus
      cases e with
      | nameTooLong => exact Or.inr ⟨_, Or.inr (Or.inr rfl)⟩
      | _ => exact absurd rfl habsence
  | other hresolve hbelow hstatus hnode =>
    rw [readThrough_of_other hresolve hbelow hstatus hnode] at h
    cases h
  | file found =>
    rw [readThrough_of_finds found, map_eq_error_iff] at h
    exact Or.inl (isOfVault_of_textOf h)

/-- a text that is read is that of a file that was found -/
theorem exists_finds_of_read {text : Text} (h : v.read tree path = .ok (some text)) :
    ∃ place content, v.Finds (.ofTree tree) path place content ∧ v.textOf path content = .ok text := by
  rw [read_eq_readThrough] at h
  cases v.lookup (.ofTree tree) path with
  | lost hresolve =>
    rw [readThrough_of_lost hresolve] at h
    cases h
  | outside hresolve hout =>
    rw [readThrough_of_outside hresolve hout] at h
    cases h
  | refused hresolve hbelow hstatus =>
    rw [readThrough_of_refused hresolve hbelow hstatus] at h
    split at h
    · cases h
    · cases h
  | other hresolve hbelow hstatus hnode =>
    rw [readThrough_of_other hresolve hbelow hstatus hnode] at h
    cases h
  | @file place content found =>
    rw [readThrough_of_finds found] at h
    cases htext : v.textOf path content with
    | error fault =>
      rw [htext] at h
      cases h
    | ok decoded =>
      rw [htext] at h
      cases h
      exact ⟨place, content, found, htext⟩

/-- the host can look the path up: its links can be followed, and no name on the way is one that the host does not take -/
structure Clear (v : Vault) (tree : FileTree) (path : Text) : Prop where
  noZero : ∀ part ∈ (v.hostPath path).parts, '\x00' ∉ part
  follows : tree.Follows (v.hostPath path)
  names : ∀ loc, tree.resolve (v.hostPath path) = .ok loc → ∀ name ∈ loc, FileTree.octets name ≤ FileTree.maxNameOctets
  length : ∀ loc, tree.resolve (v.hostPath path) = .ok loc → FileTree.octets (pathTo loc).toText ≤ FileTree.maxPathOctets

/-- what is found along links that can be followed is a file at its real location, below the root -/
theorem Finds.ofTree {place : Location} {content : Except MediumFault (List UInt8)} (hfollows : tree.Follows (v.hostPath path))
    (h : v.Finds (.ofTree tree) path place content) :
    tree.resolve (v.hostPath path) = .ok place ∧ tree.Real place ∧ v.root <+: place ∧
      tree.node? place = some (.file content) := by
  obtain ⟨loc, hresolve, hbelow, hstatus⟩ := h
  have hstart : tree.Real (tree.start (v.hostPath path)) := FileTree.real_nil tree
  have hreal : tree.Real loc := FileTree.real_of_resolve hstart hfollows hresolve
  obtain ⟨rfl, hnode⟩ := FileTree.find_pathTo hreal (mapError_eq_ok_iff.1 hstatus)
  exact ⟨hresolve, hreal, hbelow, hnode⟩

theorem Clear.lookable (h : v.Clear tree path) : v.Lookable (.ofTree tree) path := by
  obtain ⟨real, hfollows⟩ := id h.follows
  refine ⟨⟨real, ?_⟩, fun loc fault hresolve hbelow hstatus => ?_, fun place content _ found _ => (found.ofTree h.follows).2.2.1⟩
  · have hzero : ((v.hostPath path).parts.any fun part => part.contains '\x00') = false := by
      simpa using h.noZero
    simp only [FileHost.ofTree, FileTree.resolve, hzero, hfollows]
    rfl
  · have hstart : tree.Real (tree.start (v.hostPath path)) := FileTree.real_nil tree
    have hreal : tree.Real loc := FileTree.real_of_resolve hstart h.follows hresolve
    obtain ⟨e, hfind, rfl⟩ := mapError_eq_error_iff.1 hstatus
    cases e with
    | nameTooLong => exact absurd hfind (FileTree.find_pathTo_ne_nameTooLong hreal (h.names loc hresolve) (h.length loc hresolve))
    | _ => rfl

/-! ## What is kept and what comes out -/

/-- **A vault keeps to its answers where nothing goes wrong in front of them.** Whatever looks paths up, the answer is the text of a
file below the root, or that there is no such file, or a fault of the vault, exactly where the look-ups have no fault to tell and lead
to no text outside of the root; a fault of the real location comes out as it is, and so does one of what is there, unless it counts
as there being nothing. Over a tree of files the faults that come out are those of three kinds, none comes out for a path that is
clear, and then a text is that of a file at its real location, below the root. -/
theorem readThrough_kept (v : Vault) (path : Text) :
    (∀ host : FileHost,
      (v.Kept host path (v.readThrough host path) ↔ v.Lookable host path) ∧
      (∀ fault, host.resolve (v.hostPath path) = .error fault →
        v.readThrough host path = .error fault ∧ fault.isOfVault = false) ∧
      (∀ loc fault, host.resolve (v.hostPath path) = .ok loc → v.root <+: loc → host.status (pathTo loc) = .error fault →
        fault.isAbsence = false → v.readThrough host path = .error fault ∧ fault.isOfVault = false)) ∧
    ∀ tree : FileTree, v.read tree path = v.readThrough (.ofTree tree) path ∧
      (∀ fault, v.read tree path = .error fault → fault.isOfVault = true ∨
        ∃ place, fault = .path .zeroCharacter place ∨ fault = .linkLoop place ∨ fault = .path .nameTooLong place) ∧
      (v.Clear tree path → v.Kept (.ofTree tree) path (v.read tree path) ∧
        ∀ place content, v.Finds (.ofTree tree) path place content →
          tree.resolve (v.hostPath path) = .ok place ∧ tree.Real place ∧ v.root <+: place ∧
            tree.node? place = some (.file content)) := by
  refine ⟨fun host => ⟨v.kept_readThrough_iff host path, fun fault h => ?_, fun loc fault h hbelow hstatus habsence => ?_⟩,
    fun tree => ⟨v.read_eq_readThrough tree path, fun fault h => read_cases h, fun hclear => ⟨?_, ?_⟩⟩⟩
  · exact ⟨readThrough_of_lost h, host.resolve_raw h⟩
  · refine ⟨?_, host.status_raw hstatus⟩
    rw [readThrough_of_refused h hbelow hstatus, habsence]
    rfl
  · rw [read_eq_readThrough]
    exact (v.kept_readThrough_iff _ path).2 hclear.lookable
  · exact fun place content found => found.ofTree hclear.follows

/-- a host over a tree of files that may not look at what is below a location -/
def lockedHost (tree : FileTree) (closed : Location) : FileHost :=
  { FileHost.ofTree tree with
    status := fun p =>
      if closed <+: p.parts then .error (.medium { number? := some 13, reason := "Permission denied".toList })
      else (FileHost.ofTree tree).status p
    status_raw := by
      intro p fault h
      split at h
      · cases h
        rfl
      · exact (FileHost.ofTree tree).status_raw h }

/-- a folder with a file in it -/
def shelfTree : FileTree where
  nodes := [([['v']], .folder), ([['v'], ['a']], .file (.ok [120]))]

def shelf : Vault := { root := [['v']] }

/-- the file is read where the host may look at it; otherwise the missing permission is told as it is -/
theorem readThrough_kept_shelf :
    shelf.Kept (.ofTree shelfTree) ['a'] (shelf.read shelfTree ['a']) ∧
    shelf.readThrough (lockedHost shelfTree [['v'], ['a']]) ['a'] =
      .error (.medium { number? := some 13, reason := "Permission denied".toList }) ∧
    ¬ shelf.Kept (lockedHost shelfTree [['v'], ['a']]) ['a'] (shelf.readThrough (lockedHost shelfTree [['v'], ['a']]) ['a']) := by
  obtain ⟨hhosts, htrees⟩ := readThrough_kept shelf ['a']
  obtain ⟨hkept, -, hrefused⟩ := hhosts (lockedHost shelfTree [['v'], ['a']])
  have hresolve : shelfTree.resolve (shelf.hostPath ['a']) = .ok [['v'], ['a']] := by cbv
  have hfollows : shelfTree.Follows (shelf.hostPath ['a']) := ⟨[['v'], ['a']], by cbv⟩
  have hclear : shelf.Clear shelfTree ['a'] := by
    refine ⟨by decide +kernel, hfollows, fun loc hloc => ?_, fun loc hloc => ?_⟩
    · obtain rfl := Except.ok.inj (hresolve.symm.trans hloc)
      decide +kernel
    · obtain rfl := Except.ok.inj (hresolve.symm.trans hloc)
      decide +kernel
  obtain ⟨hdenied, -⟩ := hrefused [['v'], ['a']] (.medium { number? := some 13, reason := "Permission denied".toList }) hresolve
    (by decide) rfl rfl
  refine ⟨((htrees shelfTree).2.2 hclear).1, hdenied, fun hgood => ?_⟩
  have htold := (hkept.1 hgood).told _ _ hresolve (by decide) rfl
  cases htold

end Vault

end Transclude
