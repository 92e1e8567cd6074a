/-
Where paths lead.

A location is real when it is made of names and no link is on the way down to it. What is found along the path to a real location
is at that location (`find_pathTo`), and a path whose links can all be followed has a real location (`real_resolveFrom`).

`follow` replaces a link where it is met and counts how often, `resolveFrom` follows a link by itself and remembers it meanwhile.
`Leads` is the way that both go, with the number of links on it: the way behind a link is shorter than the way that meets it, so a
link that has been left behind by `follow` is never one that `resolveFrom` is still about to follow.

- `follows_of_links`: where the host can follow every link, every path can be followed.
- `resolve_of_locate`: a path that the host can follow leads to its real location.
-/
import Transclude.FileTree.Resolve
import Mathlib.Tactic.Common

namespace Transclude.FileTree

variable {tree : FileTree}

/-! ## Real locations -/

/-- a name, and not a word for where to go -/
def IsName (name : Text) : Prop := name ≠ [] ∧ name ≠ ['.'] ∧ name ≠ ['.', '.']

instance (name : Text) : Decidable (IsName name) := inferInstanceAs (Decidable (_ ∧ _))

/-- there is a link at the location -/
def HasLink (tree : FileTree) (loc : Location) : Prop := ∃ target, tree.node? loc = some (.link target)

/-- what is below the root is one of the nodes -/
theorem mem_nodes_of_node? {loc : Location} {node : FileNode} (hne : loc ≠ []) (h : tree.node? loc = some node) :
    (loc, node) ∈ tree.nodes := by
  obtain ⟨name, loc, rfl⟩ := List.exists_cons_of_ne_nil hne
  obtain ⟨entry, hentry, hnode⟩ := Option.map_eq_some_iff.1 h
  have hloc : entry.1 = name :: loc := by simpa using List.find?_some hentry
  rw [← hloc, ← hnode]
  exact List.mem_of_find?_eq_some hentry

theorem HasLink.ne_nil {loc : Location} (h : tree.HasLink loc) : loc ≠ [] := by
  rintro rfl
  obtain ⟨target, h⟩ := h
  cases h

/-- a location that is made of names, with no link on the way down to it -/
structure Real (tree : FileTree) (loc : Location) : Prop where
  names : ∀ name ∈ loc, IsName name
  noLink : ∀ front, front <+: loc → ¬ tree.HasLink front

theorem real_nil (tree : FileTree) : tree.Real [] := by
  refine ⟨by simp, fun front h => ?_⟩
  rw [List.prefix_nil.1 h]
  exact fun hlink => hlink.ne_nil rfl

theorem Real.prefix {loc front : Location} (h : tree.Real loc) (hfront : front <+: loc) : tree.Real front :=
  ⟨fun name hname => h.names name (hfront.subset hname), fun place hplace => h.noLink place (hplace.trans hfront)⟩

theorem Real.dropLast {loc : Location} (h : tree.Real loc) : tree.Real loc.dropLast := h.prefix (List.dropLast_prefix loc)

theorem Real.child {loc : Location} {name : Text} (h : tree.Real loc) (hname : IsName name)
    (hlink : ¬ tree.HasLink (loc ++ [name])) : tree.Real (loc ++ [name]) := by
  refine ⟨fun n hn => ?_, fun front hfront => ?_⟩
  · rcases List.mem_append.1 hn with hn | hn
    · exact h.names n hn
    · rwa [List.mem_singleton.1 hn]
  · rcases List.prefix_concat_iff.1 hfront with rfl | hfront
    · exact hlink
    · exact h.noLink front hfront

theorem Real.base {loc : Location} (h : tree.Real loc) (target : Text) : tree.Real (linkBase loc target) := by
  unfold linkBase
  split
  · exact real_nil tree
  · exact h

/-- **Links that can all be followed lead to a real location**, from a real location on. -/
theorem real_resolveFrom {fresh : List Location} {loc real : Location} {parts : List Text} (hloc : tree.Real loc)
    (h : tree.resolveFrom fresh loc parts = .complete real) : tree.Real real := by
  fun_induction resolveFrom tree fresh loc parts generalizing real with
  | case1 fresh loc => exact Resolution.complete.inj h ▸ hloc
  | case2 fresh loc name rest hdot ih => exact ih hloc h
  | case3 fresh loc rest hdot ih => exact ih hloc.dropLast h
  | case4 fresh loc name rest hdot hup target hnode hfresh mid hmid ihtarget ih => exact ih (ihtarget (hloc.base target) hmid) h
  | case5 => cases h
  | case6 => cases h
  | case7 fresh loc name rest hdot hup hlink ih =>
    refine ih (hloc.child ⟨fun e => hdot (.inl e), fun e => hdot (.inr e), hup⟩ ?_) h
    rintro ⟨target, e⟩
    exact hlink target e

/-- a path whose links can all be followed, wherever they lead -/
def Follows (tree : FileTree) (p : FilePath) : Prop :=
  ∃ real, tree.resolveFrom tree.links (tree.start p) p.parts = .complete real

/-- the real location of a path whose links can be followed, if the path starts at a real location -/
theorem real_of_resolve {p : FilePath} {loc : Location} (hstart : tree.Real (tree.start p)) (hfollows : tree.Follows p)
    (h : tree.resolve p = .ok loc) : tree.Real loc := by
  obtain ⟨real, hreal⟩ := hfollows
  rw [resolve, hreal] at h
  split at h
  · cases h
  · exact Except.ok.inj h ▸ real_resolveFrom hstart hreal

/-! ## What is at a real location -/

/-- along names without links one comes to the location that they spell -/
theorem follow_eq_of_real {links : Nat} {loc last : Location} {parts : List Text} (hreal : tree.Real (loc ++ parts))
    (h : tree.follow links loc parts = .ok last) : last = loc ++ parts := by
  induction parts generalizing loc with
  | nil =>
    rw [follow] at h
    rw [List.append_nil]
    exact (Except.ok.inj h).symm
  | cons name rest ih =>
    obtain ⟨hne, hdot, hup⟩ := hreal.names name (by simp)
    have hhere : ¬ tree.HasLink (loc ++ [name]) := hreal.noLink _ ⟨rest, by simp⟩
    rw [List.append_cons] at hreal ⊢
    rw [follow] at h
    split at h
    · cases h
    · rw [if_neg (by simp [hne, hdot]), if_neg hup] at h
      split at h
      · cases h
      · split at h
        · rename_i target hnode
          exact absurd ⟨target, hnode⟩ hhere
        · exact ih hreal h
    · cases h

/-- along short names without links no name is too long -/
theorem follow_ne_nameTooLong {links : Nat} {loc : Location} {parts : List Text} (hreal : tree.Real (loc ++ parts))
    (hshort : ∀ name ∈ parts, octets name ≤ maxNameOctets) : tree.follow links loc parts ≠ .error .nameTooLong := by
  induction parts generalizing loc with
  | nil =>
    rw [follow]
    exact fun h => by cases h
  | cons name rest ih =>
    obtain ⟨hne, hdot, hup⟩ := hreal.names name (by simp)
    obtain ⟨hname, hrest⟩ := List.forall_mem_cons.1 hshort
    have hhere : ¬ tree.HasLink (loc ++ [name]) := hreal.noLink _ ⟨rest, by simp⟩
    rw [List.append_cons] at hreal
    rw [follow]
    split
    · exact fun h => by cases h
    · rw [if_neg (by simp [hne, hdot]), if_neg hup, if_neg (Nat.not_lt.2 hname)]
      split
      · rename_i target hnode
        exact absurd ⟨target, hnode⟩ hhere
      · exact ih hreal hrest
    · exact fun h => by cases h

/-- what is found along the path to a real location is at that location -/
theorem find_pathTo {loc place : Location} {node : FileNode} (hreal : tree.Real loc)
    (h : tree.find (pathTo loc) = .ok (place, node)) : place = loc ∧ tree.node? loc = some node := by
  unfold find locate at h
  cases hrefused : refusal? (pathTo loc) with
  | some e =>
    rw [hrefused] at h
    cases h
  | none =>
    simp only [hrefused] at h
    cases hfollow : tree.follow maxLinks (tree.start (pathTo loc)) (pathTo loc).parts with
    | error e =>
      rw [hfollow] at h
      cases h
    | ok last =>
      have hspelt : tree.Real ([] ++ loc) := hreal
      have hlast : last = loc := follow_eq_of_real hspelt hfollow
      subst hlast
      rw [hfollow] at h
      cases hnode : tree.node? last with
      | none =>
        simp only [bind, Except.bind, hnode] at h
        cases h
      | some found =>
        simp only [bind, Except.bind, hnode] at h
        cases h
        exact ⟨rfl, rfl⟩

/-- a real location with short names, and not too many of them, has no name that is too long -/
theorem find_pathTo_ne_nameTooLong {loc : Location} (hreal : tree.Real loc) (hshort : ∀ name ∈ loc, octets name ≤ maxNameOctets)
    (hpath : octets (pathTo loc).toText ≤ maxPathOctets) : tree.find (pathTo loc) ≠ .error .nameTooLong := by
  intro h
  unfold find locate refusal? at h
  rw [if_neg (Nat.not_lt.2 hpath)] at h
  split at h
  · rename_i e hzero
    split at hzero
    · cases hzero
      cases h
    · cases hzero
  · have hspelt : tree.Real ([] ++ loc) := hreal
    cases hfollow : tree.follow maxLinks (tree.start (pathTo loc)) (pathTo loc).parts with
    | error e =>
      rw [hfollow] at h
      obtain rfl := Except.error.inj h
      exact follow_ne_nameTooLong hspelt hshort hfollow
    | ok last =>
      rw [hfollow] at h
      simp only [bind, Except.bind] at h
      split at h
      · cases h
      · cases h

/-! ## The way along a path -/

/-- from a location on, some parts lead to another one over so many links -/
inductive Leads (tree : FileTree) : Location → List Text → Location → Nat → Prop where
  | here (loc : Location) : Leads tree loc [] loc 0
  | stay {loc real : Location} {name : Text} {rest : List Text} {links : Nat} (h : name = [] ∨ name = ['.'])
      (way : Leads tree loc rest real links) : Leads tree loc (name :: rest) real links
  | up {loc real : Location} {rest : List Text} {links : Nat}
      (way : Leads tree loc.dropLast rest real links) : Leads tree loc (['.', '.'] :: rest) real links
  | down {loc real : Location} {name : Text} {rest : List Text} {links : Nat} (hname : IsName name)
      (hlink : ¬ tree.HasLink (loc ++ [name])) (way : Leads tree (loc ++ [name]) rest real links) :
      Leads tree loc (name :: rest) real links
  | across {loc mid real : Location} {name target : Text} {rest : List Text} {first links : Nat} (hname : IsName name)
      (hlink : tree.node? (loc ++ [name]) = some (.link target))
      (behind : Leads tree (linkBase loc target) (Text.split '/' target) mid first) (way : Leads tree mid rest real links) :
      Leads tree loc (name :: rest) real (first + links + 1)

/-- a way along some parts and more goes along the former first -/
theorem Leads.split {loc real : Location} {parts more : List Text} {links : Nat}
    (h : tree.Leads loc (parts ++ more) real links) :
    ∃ mid first rest, tree.Leads loc parts mid first ∧ tree.Leads mid more real rest ∧ first + rest = links := by
  induction parts generalizing loc links with
  | nil => exact ⟨loc, 0, links, .here loc, h, Nat.zero_add links⟩
  | cons name parts ih =>
    cases h with
    | stay hname way =>
      obtain ⟨mid, first, rest, hfront, hrest, hsum⟩ := ih way
      exact ⟨mid, first, rest, .stay hname hfront, hrest, hsum⟩
    | up way =>
      obtain ⟨mid, first, rest, hfront, hrest, hsum⟩ := ih way
      exact ⟨mid, first, rest, .up hfront, hrest, hsum⟩
    | down hname hlink way =>
      obtain ⟨mid, first, rest, hfront, hrest, hsum⟩ := ih way
      exact ⟨mid, first, rest, .down hname hlink hfront, hrest, hsum⟩
    | across hname hlink behind way =>
      obtain ⟨mid, first, rest, hfront, hrest, hsum⟩ := ih way
      exact ⟨mid, _, rest, .across hname hlink behind hfront, hrest, by omega⟩

/-- some parts lead to one location, over one number of links -/
theorem Leads.unique {loc real real' : Location} {parts : List Text} {links links' : Nat}
    (h : tree.Leads loc parts real links) (h' : tree.Leads loc parts real' links') : real = real' ∧ links = links' := by
  induction h generalizing real' links' with
  | here loc =>
    cases h'
    exact ⟨rfl, rfl⟩
  | stay hdot way ih =>
    cases h' with
    | stay _ way' => exact ih way'
    | up => simp at hdot
    | down hname => exact absurd hdot (by simp [hname.1, hname.2.1])
    | across hname => exact absurd hdot (by simp [hname.1, hname.2.1])
  | up way ih =>
    cases h' with
    | stay hdot => simp at hdot
    | up way' => exact ih way'
    | down hname => exact absurd rfl hname.2.2
    | across hname => exact absurd rfl hname.2.2
  | down hname hlink way ih =>
    cases h' with
    | stay hdot => exact absurd hdot (by simp [hname.1, hname.2.1])
    | up => exact absurd rfl hname.2.2
    | down _ _ way' => exact ih way'
    | across _ hlink' => exact absurd ⟨_, hlink'⟩ hlink
  | across hname hlink behind way ihbehind ih =>
    cases h' with
    | stay hdot => exact absurd hdot (by simp [hname.1, hname.2.1])
    | up => exact absurd rfl hname.2.2
    | down _ hlink' => exact absurd ⟨_, hlink⟩ hlink'
    | across _ hlink' behind' way' =>
      obtain rfl : _ = _ := FileNode.link.inj (Option.some.inj (hlink.symm.trans hlink'))
      obtain ⟨rfl, rfl⟩ := ihbehind behind'
      obtain ⟨rfl, rfl⟩ := ih way'
      exact ⟨rfl, rfl⟩

/-- where the host can follow some parts, they lead -/
theorem leads_of_follow {links : Nat} {loc real : Location} {parts : List Text}
    (h : tree.follow links loc parts = .ok real) : ∃ n, tree.Leads loc parts real n := by
  fun_induction follow tree links loc parts generalizing real with
  | case1 links loc => exact Except.ok.inj h ▸ ⟨0, .here loc⟩
  | case2 => cases h
  | case3 links loc name rest hnode hdot ih =>
    obtain ⟨n, way⟩ := ih h
    exact ⟨n, .stay hdot way⟩
  | case4 links loc rest hnode hdot ih =>
    obtain ⟨n, way⟩ := ih h
    exact ⟨n, .up way⟩
  | case5 => cases h
  | case6 => cases h
  | case7 loc name rest hnode hdot hup hlong target hlink links ih =>
    obtain ⟨n, way⟩ := ih h
    obtain ⟨mid, first, rest, hbehind, hway, -⟩ := way.split
    exact ⟨_, .across ⟨fun e => hdot (.inl e), fun e => hdot (.inr e), hup⟩ hlink hbehind hway⟩
  | case8 links loc name rest hnode hdot hup hlong hlink ih =>
    obtain ⟨n, way⟩ := ih h
    refine ⟨n, .down ⟨fun e => hdot (.inl e), fun e => hdot (.inr e), hup⟩ ?_ way⟩
    rintro ⟨target, e⟩
    exact hlink target e
  | case9 => cases h

/-- a link is among the links -/
theorem HasLink.mem_links {loc : Location} (h : tree.HasLink loc) : loc ∈ tree.links := by
  obtain ⟨target, htarget⟩ := h
  exact List.mem_filterMap.2 ⟨_, mem_nodes_of_node? (HasLink.ne_nil ⟨target, htarget⟩) htarget, rfl⟩

/-- **A way is never caught in its own links.** A link that is being followed has no shorter way behind it than what is still to
be gone, so it is not met again. -/
theorem resolveFrom_of_leads {fresh : List Location} {loc real : Location} {parts : List Text} {links : Nat}
    (h : tree.Leads loc parts real links)
    (hfresh : ∀ place target, tree.node? place = some (.link target) → place ∉ fresh →
      ∀ mid n, tree.Leads (linkBase place.dropLast target) (Text.split '/' target) mid n → links ≤ n) :
    tree.resolveFrom fresh loc parts = .complete real := by
  induction h generalizing fresh with
  | here loc => rw [resolveFrom]
  | stay hdot way ih =>
    rw [resolveFrom, if_pos hdot]
    exact ih hfresh
  | up way ih =>
    rw [resolveFrom, if_neg (by simp), if_pos rfl]
    exact ih hfresh
  | @down loc real name rest links hname hlink way ih =>
    rw [resolveFrom, if_neg (by simp [hname.1, hname.2.1]), if_neg hname.2.2]
    split
    · rename_i target e
      exact absurd ⟨target, e⟩ hlink
    · exact ih hfresh
  | @across loc mid real name target rest first links hname hlink behind way ihbehind ih =>
    have hmem : loc ++ [name] ∈ fresh := by
      by_contra hnot
      have := hfresh _ _ hlink hnot mid first (by rwa [List.dropLast_concat])
      omega
    have hbehind : tree.resolveFrom (fresh.erase (loc ++ [name])) (linkBase loc target) (Text.split '/' target) =
        .complete mid := by
      refine ihbehind fun place target' hplace hnot mid' n hway => ?_
      by_cases e : place = loc ++ [name]
      · subst e
        obtain rfl : target = target' := FileNode.link.inj (Option.some.inj (hlink.symm.trans hplace))
        rw [List.dropLast_concat] at hway
        exact Nat.le_of_eq (behind.unique hway).2
      · have := hfresh place target' hplace (fun hin => hnot ((List.mem_erase_of_ne e).2 hin)) mid' n hway
        omega
    rw [resolveFrom, if_neg (by simp [hname.1, hname.2.1]), if_neg hname.2.2]
    simp only [hlink, if_pos hmem, hbehind]
    refine ih fun place target' hplace hnot mid' n hway => ?_
    have := hfresh place target' hplace hnot mid' n hway
    omega

/-- where every link leads somewhere, all parts do -/
theorem exists_leads (h : ∀ place target, tree.node? place = some (.link target) →
    ∃ mid n, tree.Leads (linkBase place.dropLast target) (Text.split '/' target) mid n) (loc : Location) (parts : List Text) :
    ∃ real n, tree.Leads loc parts real n := by
  induction parts generalizing loc with
  | nil => exact ⟨loc, 0, .here loc⟩
  | cons name rest ih =>
    by_cases hdot : name = [] ∨ name = ['.']
    · obtain ⟨real, n, way⟩ := ih loc
      exact ⟨real, n, .stay hdot way⟩
    by_cases hup : name = ['.', '.']
    · obtain ⟨real, n, way⟩ := ih loc.dropLast
      exact ⟨real, n, hup ▸ .up way⟩
    have hname : IsName name := ⟨fun e => hdot (.inl e), fun e => hdot (.inr e), hup⟩
    by_cases hlink : tree.HasLink (loc ++ [name])
    · obtain ⟨target, htarget⟩ := hlink
      obtain ⟨mid, first, behind⟩ := h _ _ htarget
      obtain ⟨real, n, way⟩ := ih mid
      rw [List.dropLast_concat] at behind
      exact ⟨real, _, .across hname htarget behind way⟩
    · obtain ⟨real, n, way⟩ := ih (loc ++ [name])
      exact ⟨real, n, .down hname hlink way⟩

/-- **Where the host can follow every link, every path can be followed.** -/
theorem follows_of_links (h : ∀ place target, (place, .link target) ∈ tree.nodes →
    ∃ real, tree.follow maxLinks (linkBase place.dropLast target) (Text.split '/' target) = .ok real) (p : FilePath) :
    tree.Follows p := by
  obtain ⟨real, n, way⟩ := exists_leads (fun place target hlink => by
    obtain ⟨real, hfollow⟩ := h place target (mem_nodes_of_node? (HasLink.ne_nil ⟨target, hlink⟩) hlink)
    exact ⟨real, leads_of_follow hfollow⟩) (tree.start p) p.parts
  exact ⟨real, resolveFrom_of_leads way fun place target hplace hnot => absurd (HasLink.mem_links ⟨target, hplace⟩) hnot⟩

/-- **A path that the host can follow leads to its real location.** -/
theorem resolve_of_locate {p : FilePath} {loc : Location} (h : tree.locate p = .ok loc) :
    tree.resolveFrom tree.links (tree.start p) p.parts = .complete loc ∧ tree.resolve p = .ok loc := by
  unfold locate at h
  cases hrefused : refusal? p with
  | some e =>
    rw [hrefused] at h
    cases h
  | none =>
    rw [hrefused] at h
    obtain ⟨links, way⟩ := leads_of_follow h
    have hcomplete : tree.resolveFrom tree.links (tree.start p) p.parts = .complete loc :=
      resolveFrom_of_leads way fun place target hplace hnot => absurd (HasLink.mem_links ⟨target, hplace⟩) hnot
    refine ⟨hcomplete, ?_⟩
    rw [resolve, hcomplete]
    split
    · rename_i hzero
      rw [refusal?, if_pos hzero] at hrefused
      cases hrefused
    · rfl

end Transclude.FileTree
