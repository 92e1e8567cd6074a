/-
The segments of a text that was spliced, one at a time: what its literal texts are, and what its blocks are.

- `scan_literal`: no directive is found in the literal texts of a splice.
- `forall₂_blockFor_of_resolved`: each block is the one of its directive, by an answer of the host.
-/
import Transclude.Proofs.Directive.Limits
import Transclude.Proofs.Directive.Locality
import Transclude.Proofs.Document
import Transclude.Proofs.Pass.Splicing
import Transclude.Proofs.Pass.Visiting

namespace Transclude

namespace Resolver

/-! ## The segments of a splice -/

/-- a literal text is the text between two offsets, and no span reaches into it -/
theorem exists_span_of_mem_weave {t content : Text} {cursor : Int} {ps : List Placement} {bs : List BlockSegment}
    (h : Ascending t cursor ps) (h0 : 0 ≤ cursor) (hlen : ps.length = bs.length)
    (hmem : Segment.text content ∈ weave t cursor (ps.zip bs)) :
    ∃ a b : ℕ, content = (t.take b).drop a ∧ cursor ≤ a ∧ b ≤ t.length ∧ ∀ p ∈ ps, p.stop ≤ a ∨ b ≤ p.start := by
  induction ps generalizing cursor bs with
  | nil =>
    simp only [List.zip_nil_left, weave] at hmem
    split at hmem
    · rename_i hlt
      rw [List.mem_singleton, Segment.text.injEq] at hmem
      refine ⟨cursor.toNat, t.length, ?_, by omega, le_rfl, by simp⟩
      rw [hmem, position, if_neg (Int.not_lt.2 h0), List.take_length]
    · exact absurd hmem List.not_mem_nil
  | cons p ps ih =>
    obtain ⟨b, bs, rfl⟩ := List.exists_cons_of_length_eq_add_one hlen.symm
    obtain ⟨hstart, hspan, hstop⟩ := h.inside p List.mem_cons_self
    have htail : ps.length = bs.length := by simpa using hlen
    simp only [List.zip_cons_cons, weave, List.mem_append, List.mem_cons] at hmem
    rcases hmem with hgap | hblock | hmem
    · split at hgap
      · rw [List.mem_singleton, Segment.text.injEq] at hgap
        refine ⟨cursor.toNat, p.start.toNat, ?_, by omega, by omega, fun q hq => Or.inr ?_⟩
        · rw [hgap, slice_of_nonneg t h0 (by omega)]
        · rcases List.mem_cons.1 hq with rfl | hq
          · omega
          · have hlater := (List.pairwise_cons.1 h.ordered).1 q hq
            omega
      · exact absurd hgap List.not_mem_nil
    · cases hblock
    · obtain ⟨a, b', hcontent, hcursor, hle, hspans⟩ := ih h.tail (by omega) htail hmem
      refine ⟨a, b', hcontent, by omega, hle, List.forall_mem_cons.2 ⟨Or.inl hcursor, hspans⟩⟩

/-- **No directive is found in the literal texts of a splice.** -/
theorem scan_literal {t content : Text} {found : List Directive.Occurrence} {bs : List BlockSegment}
    (h : Directive.scan t = .ok found) (hlen : (found.map Placement.ofOccurrence).length = bs.length)
    (hmem : Segment.text content ∈ weave t 0 ((found.map Placement.ofOccurrence).zip bs)) :
    Directive.scan content = .ok [] := by
  obtain ⟨a, b, rfl, -, hb, hspans⟩ := exists_span_of_mem_weave (ascending_of_scan h) le_rfl hlen hmem
  refine Directive.scan_eq_nil_of_gap h hb fun o ho => ?_
  have hspan := hspans _ (List.mem_map_of_mem ho)
  simp only [Placement.ofOccurrence] at hspan
  omega

theorem block_mem_weave_iff {t : Text} {cursor : Int} {ps : List Placement} {bs : List BlockSegment}
    (hlen : ps.length = bs.length) {b : BlockSegment} : Segment.block b ∈ weave t cursor (ps.zip bs) ↔ b ∈ bs := by
  have hblocks := blocks_weave t cursor hlen
  constructor
  · intro h
    rw [← hblocks]
    exact List.mem_filterMap.2 ⟨_, h, rfl⟩
  · intro h
    rw [← hblocks] at h
    obtain ⟨segment, hsegment, hblock⟩ := List.mem_filterMap.1 h
    cases segment with
    | text content => cases hblock
    | block b' =>
      obtain rfl := Option.some.inj hblock
      exact hsegment

/-- each block is the one of its directive, by an answer of the host -/
theorem forall₂_blockFor_of_resolved {σ : Type} {r : Resolver} {host : σ → Text → Dialogue.Run σ Event FileAnswer}
    {document : Text} {s : σ} {ps : List Placement} {bs : List BlockSegment} (h : Resolved r host document s ps bs) :
    List.Forall₂ (fun p b => ∃ s', r.blockFor p.directive (host s' (r.target p.directive document)).result = .ok b) ps bs := by
  induction h with
  | nil s => exact .nil
  | @cons s p ps b bs here rest ih =>
    rw [result_resolve] at here
    exact .cons ⟨s, here⟩ ih

end Resolver

end Transclude
