/-
Splicing blocks into a text. The splicer goes along the text with a cursor; what is behind the cursor is in the segments.

- `exists_weave_of_spliceFrom`: a splice that succeeds is `weave`, a plain function of the text, the spans and their blocks.
- `restored_weave`: the cursor's invariant. With the spans put back for the blocks, the segments from the cursor on are the
  text from the cursor on.
- `splice_restores`: on ascending spans nothing of the text is lost or written twice, no text is empty or next to another
  one, and each block is the one its directive has on its own, so what becomes of one directive changes no other segment.
-/
import Transclude.Proofs.Directive.Scanning
import Transclude.Proofs.Pass.Blocks

namespace Transclude

/-- the text of a segment that is literal text -/
def Segment.literal? : Segment → Option Text
  | .text content => some content
  | .block _ => none

/-- what a segment stands for in the text: itself, or the source of its directive -/
def Segment.source : Segment → Text
  | .text content => content
  | .block b => b.directive.raw

namespace Resolver

/-! ## Spans -/

/-- spans from `cursor` on that are inside the text, not empty, and each behind the one before -/
structure Ascending (t : Text) (cursor : Int) (ps : List Placement) : Prop where
  inside : ∀ p ∈ ps, cursor ≤ p.start ∧ p.start < p.stop ∧ p.stop ≤ t.length
  ordered : ps.Pairwise fun a b => a.stop ≤ b.start

theorem Ascending.tail {t : Text} {cursor : Int} {p : Placement} {ps : List Placement}
    (h : Ascending t cursor (p :: ps)) : Ascending t p.stop ps := by
  obtain ⟨hfirst, hordered⟩ := List.pairwise_cons.1 h.ordered
  refine ⟨fun q hq => ⟨hfirst q hq, ?_⟩, hordered⟩
  exact (h.inside q (List.mem_cons_of_mem p hq)).2

/-- the directives of a text stand at ascending spans -/
theorem ascending_of_scan {t : Text} {found : List Directive.Occurrence} (h : Directive.scan t = .ok found) :
    Ascending t 0 (found.map Placement.ofOccurrence) := by
  have hl := Directive.leftmost_of_scan h
  refine ⟨fun p hp => ?_, ?_⟩
  · obtain ⟨o, ho, rfl⟩ := List.mem_map.1 hp
    have hlt := (hl.stands o ho).start_lt
    have hle := (hl.stands o ho).stop_le
    simp only [Placement.ofOccurrence]
    omega
  · rw [List.pairwise_map]
    exact hl.ordered.imp fun {a b} hab => by simp only [Placement.ofOccurrence]; omega

theorem slice_of_nonneg (t : Text) {a b : Int} (ha : 0 ≤ a) (hb : 0 ≤ b) :
    slice t a b = (t.take b.toNat).drop a.toNat := by
  simp only [slice, position, if_neg (Int.not_lt.2 ha), if_neg (Int.not_lt.2 hb)]

/-- a span and the text behind it are the text from the start of the span on -/
theorem slice_append_drop (t : Text) {a b : Int} (ha : 0 ≤ a) (hab : a ≤ b) :
    slice t a b ++ t.drop b.toNat = t.drop a.toNat := by
  obtain ⟨k, hk⟩ := Nat.exists_eq_add_of_le (Int.toNat_le_toNat hab)
  rw [slice_of_nonneg t ha (ha.trans hab), hk, List.drop_take, Nat.add_sub_cancel_left, ← List.drop_drop,
    List.take_append_drop]

theorem slice_ne_nil (t : Text) {a b : Int} (ha : 0 ≤ a) (hab : a < b) (hb : b ≤ t.length) : slice t a b ≠ [] := by
  rw [slice_of_nonneg t ha (by omega), ← List.length_pos_iff, List.length_drop, List.length_take]
  omega

/-! ## What a splice gives -/

/-- the segments of a text from `cursor` on, where every span has its block -/
def weave (t : Text) : (cursor : Int) → List (Placement × BlockSegment) → List Segment
  | cursor, [] => if cursor < t.length then [.text (t.drop (position t cursor))] else []
  | cursor, (p, b) :: rest =>
    (if cursor < p.start then [.text (slice t cursor p.start)] else []) ++ .block b :: weave t p.stop rest

/-- the blocks of some directives in a row: each by the answer that the host gives after those before it -/
inductive Resolved {σ : Type} (r : Resolver) (host : σ → Text → Dialogue.Run σ Event FileAnswer) (document : Text) :
    σ → List Placement → List BlockSegment → Prop
  | nil (s : σ) : Resolved r host document s [] []
  | cons {s : σ} {p : Placement} {ps : List Placement} {b : BlockSegment} {bs : List BlockSegment}
      (here : ((r.resolve p.directive document).run host s).result = .ok b)
      (rest : Resolved r host document ((r.resolve p.directive document).run host s).state ps bs) :
      Resolved r host document s (p :: ps) (b :: bs)

theorem Resolved.length_eq {σ : Type} {r : Resolver} {host : σ → Text → Dialogue.Run σ Event FileAnswer}
    {document : Text} {s : σ} {ps : List Placement} {bs : List BlockSegment} (h : Resolved r host document s ps bs) :
    ps.length = bs.length := by
  induction h with
  | nil s => rfl
  | cons _ _ ih => rw [List.length_cons, List.length_cons, ih]

/-- a splice that succeeds weaves the blocks of its directives into the text -/
theorem exists_weave_of_spliceFrom {σ : Type} {r : Resolver} {host : σ → Text → Dialogue.Run σ Event FileAnswer}
    {document t : Text} {ps : List Placement} {cursor : Int} {s : σ} {segments : List Segment}
    (h : ((r.spliceFrom document t cursor ps).run host s).result = .ok segments) :
    ∃ bs, Resolved r host document s ps bs ∧ segments = weave t cursor (ps.zip bs) := by
  induction ps generalizing cursor s segments with
  | nil =>
    simp only [spliceFrom, Dialogue.run_pure] at h
    cases h
    exact ⟨[], .nil s, rfl⟩
  | cons p ps ih =>
    simp only [spliceFrom, Dialogue.result_andThen] at h
    cases hb : ((r.resolve p.directive document).run host s).result with
    | error e => rw [hb] at h; cases h
    | ok b =>
      simp only [hb, Dialogue.result_andThen, Dialogue.run_pure] at h
      obtain ⟨rest, hrest, rfl⟩ := Markup.Token.eq_of_map_eq_ok h
      obtain ⟨bs, hbs, rfl⟩ := ih hrest
      exact ⟨b :: bs, .cons hb hbs, rfl⟩

/-! ## Nothing of the text is lost -/

/-- the segments with the spans of the text in the place of their blocks -/
def restored (t : Text) : List Placement → List Segment → Text
  | ps, .text content :: segments => content ++ restored t ps segments
  | p :: ps, .block _ :: segments => slice t p.start p.stop ++ restored t ps segments
  | [], .block _ :: segments => restored t [] segments
  | _, [] => []

/-- **The cursor's invariant.** What is woven from the cursor on restores the text from the cursor on. -/
theorem restored_weave {t : Text} {cursor : Int} {ps : List Placement} {bs : List BlockSegment}
    (h : Ascending t cursor ps) (h0 : 0 ≤ cursor) (hlen : ps.length = bs.length) :
    restored t ps (weave t cursor (ps.zip bs)) = t.drop cursor.toNat := by
  induction ps generalizing cursor bs with
  | nil =>
    simp only [List.zip_nil_left, weave]
    split
    · rw [restored, restored, List.append_nil, position, if_neg (Int.not_lt.2 h0)]
    · rw [restored, List.drop_eq_nil_of_le (by omega)]
  | cons p ps ih =>
    obtain ⟨b, bs, rfl⟩ := List.exists_cons_of_length_eq_add_one hlen.symm
    obtain ⟨hstart, hstop, -⟩ := h.inside p List.mem_cons_self
    have htail : ps.length = bs.length := by simpa using hlen
    have hrest := ih h.tail (by omega) htail
    have hspan := slice_append_drop t (a := p.start) (b := p.stop) (by omega) (by omega)
    simp only [List.zip_cons_cons, weave]
    split
    · rw [List.singleton_append, restored, restored, hrest, hspan, slice_append_drop t h0 hstart]
    · have hcursor : cursor = p.start := by omega
      rw [List.nil_append, restored, hrest, hspan, hcursor]

theorem text_nil_not_mem_weave {t : Text} {cursor : Int} {ps : List Placement} {bs : List BlockSegment}
    (h : Ascending t cursor ps) (h0 : 0 ≤ cursor) (hlen : ps.length = bs.length) :
    Segment.text [] ∉ weave t cursor (ps.zip bs) := by
  induction ps generalizing cursor bs with
  | nil =>
    simp only [List.zip_nil_left, weave, position, if_neg (Int.not_lt.2 h0)]
    split
    · rw [List.mem_singleton, Segment.text.injEq, eq_comm, List.drop_eq_nil_iff]
      omega
    · exact List.not_mem_nil
  | cons p ps ih =>
    obtain ⟨b, bs, rfl⟩ := List.exists_cons_of_length_eq_add_one hlen.symm
    obtain ⟨hstart, hstop, hle⟩ := h.inside p List.mem_cons_self
    have htail : ps.length = bs.length := by simpa using hlen
    have hrest := ih h.tail (by omega) htail
    simp only [List.zip_cons_cons, weave, List.mem_append, List.mem_cons]
    rintro (hgap | hblock | hmem)
    · split at hgap
      · rename_i hlt
        rw [List.mem_singleton, Segment.text.injEq] at hgap
        exact slice_ne_nil t h0 hlt (by omega) hgap.symm
      · exact List.not_mem_nil hgap
    · cases hblock
    · exact hrest hmem

/-- every text but the last one stands in front of a block -/
theorem isChain_weave (t : Text) (cursor : Int) (ps : List (Placement × BlockSegment)) :
    (weave t cursor ps).IsChain fun a b => a.literal? = none ∨ b.literal? = none := by
  induction ps generalizing cursor with
  | nil =>
    simp only [weave]
    split
    · exact .singleton _
    · exact .nil
  | cons p ps ih =>
    have hblock : (Segment.block p.2 :: weave t p.1.stop ps).IsChain fun a b => a.literal? = none ∨ b.literal? = none :=
      (ih p.1.stop).cons fun _ _ => Or.inl rfl
    simp only [weave]
    split
    · exact hblock.cons fun b hb => Or.inr (by cases hb; rfl)
    · exact hblock

theorem blocks_weave (t : Text) (cursor : Int) {ps : List Placement} {bs : List BlockSegment}
    (hlen : ps.length = bs.length) : (weave t cursor (ps.zip bs)).filterMap Segment.block? = bs := by
  induction ps generalizing cursor bs with
  | nil =>
    obtain rfl := List.length_eq_zero_iff.1 hlen.symm
    simp only [List.zip_nil_left, weave]
    split <;> rfl
  | cons p ps ih =>
    obtain ⟨b, bs, rfl⟩ := List.exists_cons_of_length_eq_add_one hlen.symm
    have htail : ps.length = bs.length := by simpa using hlen
    have hrest := ih p.stop htail
    simp only [List.zip_cons_cons, weave, List.filterMap_append, List.filterMap_cons, Segment.block?, hrest]
    split <;> rfl

/-- where the texts are, and what they are, does not hang on the blocks -/
theorem literals_weave (t : Text) (cursor : Int) {ps : List Placement} {bs bs' : List BlockSegment}
    (hlen : ps.length = bs.length) (hlen' : ps.length = bs'.length) :
    (weave t cursor (ps.zip bs)).map Segment.literal? = (weave t cursor (ps.zip bs')).map Segment.literal? := by
  induction ps generalizing cursor bs bs' with
  | nil => rfl
  | cons p ps ih =>
    obtain ⟨b, bs, rfl⟩ := List.exists_cons_of_length_eq_add_one hlen.symm
    obtain ⟨b', bs', rfl⟩ := List.exists_cons_of_length_eq_add_one hlen'.symm
    have htail : ps.length = bs.length := by simpa using hlen
    have htail' : ps.length = bs'.length := by simpa using hlen'
    have hrest := ih p.stop htail htail'
    simp only [List.zip_cons_cons, weave, List.map_append, List.map_cons, Segment.literal?, hrest]

/-- where every block has the source of its span, putting the spans back is putting the sources back -/
theorem restored_eq_flatMap_source {t : Text} {ps : List Placement} {segments : List Segment}
    (h : List.Forall₂ (fun p b => slice t p.start p.stop = b.directive.raw) ps (segments.filterMap Segment.block?)) :
    restored t ps segments = segments.flatMap Segment.source := by
  induction segments generalizing ps with
  | nil => cases ps <;> rfl
  | cons segment segments ih =>
    cases segment with
    | text content => rw [restored, ih h, List.flatMap_cons, Segment.source]
    | block b =>
      rw [List.filterMap_cons] at h
      obtain ⟨p, ps', hp, hrest, rfl⟩ := List.forall₂_cons_right_iff.1 h
      rw [restored, ih hrest, hp, List.flatMap_cons, Segment.source]

/-! ## Splices against a reader without memory -/

/-- the block of a directive that is resolved on its own -/
def alone (r : Resolver) (read : Text → FileAnswer) (document : Text) (d : Directive) : Except DigitLimit BlockSegment :=
  ((r.resolve d document).run (Dialogue.answering read) ()).result

theorem forall₂_alone_of_resolved {r : Resolver} {read : Text → FileAnswer} {document : Text} {ps : List Placement}
    {bs : List BlockSegment} (h : Resolved r (Dialogue.answering read) document () ps bs) :
    List.Forall₂ (fun p b => r.alone read document p.directive = .ok b) ps bs := by
  induction ps generalizing bs with
  | nil =>
    cases h
    exact .nil
  | cons p ps ih =>
    cases h with
    | cons here rest => exact .cons here (ih rest)

theorem directive_of_alone {r : Resolver} {read : Text → FileAnswer} {document : Text} {d : Directive} {b : BlockSegment}
    (h : r.alone read document d = .ok b) : b.directive = d := by
  rw [alone, result_resolve] at h
  exact directive_of_blockFor r h

/-- the segments are the text with blocks in the place of the spans, each block the one of its directive on its own -/
structure Spliced (r : Resolver) (read : Text → FileAnswer) (document t : Text) (ps : List Placement)
    (segments : List Segment) : Prop where
  restores : restored t ps segments = t
  text_ne_nil : Segment.text [] ∉ segments
  apart : segments.IsChain fun a b => a.literal? = none ∨ b.literal? = none
  blocks : List.Forall₂ (fun p b => r.alone read document p.directive = .ok b) ps (segments.filterMap Segment.block?)

theorem spliced_of_splice {r : Resolver} {read : Text → FileAnswer} {document t : Text} {ps : List Placement}
    {segments : List Segment} (hp : Ascending t 0 ps)
    (h : ((r.splice document t ps).run (Dialogue.answering read) ()).result = .ok segments) :
    Spliced r read document t ps segments := by
  obtain ⟨bs, hbs, rfl⟩ := exists_weave_of_spliceFrom h
  have hlen := hbs.length_eq
  refine ⟨restored_weave hp le_rfl hlen, text_nil_not_mem_weave hp le_rfl hlen, isChain_weave t 0 _, ?_⟩
  rw [blocks_weave t 0 hlen]
  exact forall₂_alone_of_resolved hbs

/-- **Splicing keeps the text.** On ascending spans, with any reader and renderer: putting the spans back for the blocks
gives the text; no text is empty and no two are neighbours; each block is the one of its directive on its own; and with
another reader or renderer the texts are the same at the same places. The directives of a text are such spans, and then
the sources of the blocks are what is put back. -/
theorem splice_restores (document t : Text) :
    (∀ r read ps segments, Ascending t 0 ps →
      ((r.splice document t ps).run (Dialogue.answering read) ()).result = .ok segments →
        Spliced r read document t ps segments ∧
        ∀ (r' : Resolver) read' segments',
          ((r'.splice document t ps).run (Dialogue.answering read') ()).result = .ok segments' →
            segments'.map Segment.literal? = segments.map Segment.literal?) ∧
    ∀ (r : Resolver) read found segments, Directive.scan t = .ok found →
      ((r.splice document t (found.map Placement.ofOccurrence)).run (Dialogue.answering read) ()).result = .ok segments →
        Ascending t 0 (found.map Placement.ofOccurrence) ∧ segments.flatMap Segment.source = t := by
  constructor
  · intro r read ps segments hp h
    refine ⟨spliced_of_splice hp h, fun r' read' segments' h' => ?_⟩
    obtain ⟨bs, hbs, rfl⟩ := exists_weave_of_spliceFrom h
    obtain ⟨bs', hbs', rfl⟩ := exists_weave_of_spliceFrom h'
    exact literals_weave t 0 hbs'.length_eq hbs.length_eq
  · intro r read found segments hf h
    have hp := ascending_of_scan hf
    have hs := spliced_of_splice hp h
    refine ⟨hp, ?_⟩
    -- a directive found in the text has the text of its span as its source
    have hsource : ∀ p ∈ found.map Placement.ofOccurrence, slice t p.start p.stop = p.directive.raw := by
      intro p hmem
      obtain ⟨o, ho, rfl⟩ := List.mem_map.1 hmem
      have hstands := (Directive.leftmost_of_scan hf).stands o ho
      simp only [Placement.ofOccurrence]
      rw [slice_of_nonneg t (Int.natCast_nonneg _) (Int.natCast_nonneg _), Int.toNat_natCast, Int.toNat_natCast]
      exact hstands.source
    have hblocks := (List.forall₂_and_left _ _).2 ⟨hsource, hs.blocks⟩
    rw [← restored_eq_flatMap_source (hblocks.imp fun p b ⟨hp, hb⟩ => by rw [hp, directive_of_alone hb])]
    exact hs.restores

/-- a file that is there, one that is missing, and a failure for all others -/
def someFiles (path : Text) : FileAnswer :=
  if path = ['a'] then .ok (some ['x', '\n', 'y']) else if path = ['c'] then .ok none else .error "no access".toList

/-- excerpts as they are -/
def plainResolver : Resolver := { normal := id, render := fun _ shown => { html := .ok shown }, presentation := {} }

theorem splice_restores_crowded :
    ∃ segments, Directive.scan Directive.crowded = .ok Directive.crowdedFound ∧
      ((plainResolver.splice [] Directive.crowded (Directive.crowdedFound.map Placement.ofOccurrence)).run
        (Dialogue.answering someFiles) ()).result = .ok segments ∧
      Spliced plainResolver someFiles [] Directive.crowded (Directive.crowdedFound.map Placement.ofOccurrence) segments ∧
      segments.flatMap Segment.source = Directive.crowded :=
  have hparts := (splice_restores [] Directive.crowded).2 plainResolver someFiles Directive.crowdedFound _ rfl rfl
  ⟨_, rfl, rfl, ((splice_restores [] Directive.crowded).1 plainResolver someFiles _ _ hparts.1 rfl).1, hparts.2⟩

end Resolver

end Transclude
