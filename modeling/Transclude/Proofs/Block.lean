/-
Blocks as markup.

A report is put together from tags, escaped text and the source of its directive, so it is markup whatever went wrong. A block of
code holds the markup of a renderer, which may be anything; what is known of the block is known of the same block without its
header, because the header leaves the reading where it is.

- `fitting_error`: a report is markup, and its texts are its title, what went wrong, and text in a code element.
- `exists_parse_code_iff`: a block of code is markup exactly when it is without its header.
- `exists_passage_of_contained`: without its header it has the texts of the markup in it, if that is complete in itself.
- `mem_passages_code`: its texts are the path, the range label, and those that it has without its header.
-/
import Transclude.Proofs.Directive.Limits
import Transclude.Proofs.Highlight.Source
import Transclude.Proofs.Markup.Fitting

namespace Transclude

open Markup (Builder Builds Contained Fitting Passage Spot Stays Token Tolerant build isVoid parse)
open Markup.Token (PlainValue endTag plainName_code plainName_div plainName_span startTag)

/-! ## Range labels -/

theorem Numeral.mem_print {n : Int} {c : Char} (h : c ∈ Numeral.print n) : c = '-' ∨ c.isDigit = true := by
  rcases List.mem_append.1 h with h | h
  · split at h
    · exact Or.inl (List.mem_singleton.1 h)
    · exact absurd h List.not_mem_nil
  · exact Or.inr (Nat.isDigit_of_mem_toDigits (by decide) (by decide) h)

/-- a range label is made of letters `L`, digits and hyphens -/
theorem Directive.mem_rangeLabel {d : Directive} {label : Text} (h : d.rangeLabel = .ok label) {c : Char} (hc : c ∈ label) :
    c = 'L' ∨ c = '-' ∨ c.isDigit = true := by
  obtain ⟨parts, hparts, rfl⟩ := Markup.Token.eq_of_map_eq_ok h
  rcases Text.mem_of_mem_join hc with hc | ⟨part, hpart, hc⟩
  · exact Or.inr (Or.inl (List.mem_singleton.1 hc))
  · obtain ⟨n, -, hn⟩ := exists_left_of_forall₂ (mapM_eq_ok_iff.1 hparts) hpart
    obtain ⟨t, ht, rfl⟩ := Markup.Token.eq_of_map_eq_ok hn
    rcases List.mem_cons.1 hc with rfl | hc
    · exact Or.inl rfl
    · unfold Numeral.write at ht
      split at ht
      · obtain rfl := Except.ok.inj ht
        exact Or.inr (Numeral.mem_print hc)
      · cases ht

/-- a range label does not hold characters that mean anything in markup or in a directive -/
theorem Directive.not_mem_rangeLabel {d : Directive} {label : Text} (h : d.rangeLabel = .ok label) {c : Char}
    (hl : c ≠ 'L') (hhyphen : c ≠ '-') (hdigit : c.isDigit = false) : c ∉ label := by
  intro hc
  rcases Directive.mem_rangeLabel h hc with rfl | rfl | hd
  · exact hl rfl
  · exact hhyphen rfl
  · rw [hdigit] at hd
    cases hd

namespace Block

variable {fits : List Text → Text → Prop}

/-! ## Reports -/

/-- the source of a directive in a code element is markup, whatever is in it -/
theorem fitting_source (hfits : Tolerant fits) (hcode : ∀ names t, "code".toList ∈ names → fits names t)
    {names : List Text} (hspan : "span".toList ∉ names) (e : Markup.Escaping) (raw : Text) :
    Fitting fits names ("<code>".toList ++ Highlight.directiveSource raw e ++ "</code>".toList) := by
  obtain ⟨tokens, hbuilds, hstyling⟩ := Highlight.exists_builds_directiveSource e raw
  have hnot : "span".toList ∉ "code".toList :: names := by
    rw [List.mem_cons, not_or]
    exact ⟨by decide, hspan⟩
  have hinner : ∀ spans t, fits (spans ++ "code".toList :: names) t := fun spans t =>
    hcode _ t (List.mem_append_right _ List.mem_cons_self)
  exact ⟨_, Markup.builds_element plainName_code (List.forall_mem_nil _) List.nodup_nil hbuilds,
    .styled hfits hinner rfl hnot hstyling⟩

/-- **A report is markup.** Its texts are its title, what went wrong, and text in a code element. -/
theorem fitting_error (hfits : Tolerant fits) (hcode : ∀ names t, "code".toList ∈ names → fits names t)
    {message : Text} {title : Option Text} (htitle : ∀ names, fits names (errorTitle title))
    (hmessage : ∀ names, fits names message) (e : Markup.Escaping) (raw : Text) : Fitting fits [] (error message raw title e) := by
  have div : ∀ (cssClass : String) {names : List Text} {t : Text}, PlainValue cssClass.toList →
      Fitting fits ("div".toList :: names) t → Fitting fits names (enclose "div" cssClass t) :=
    fun _ _ _ hclass h => .enclose hfits plainName_div rfl hclass h
  let inside : List Text := ["div".toList, "div".toList]
  have hheader : Fitting fits inside (enclose "div" "code-import-error-header" (Markup.escape (errorTitle title))) :=
    div _ ⟨by decide, by decide⟩ (.escaped hfits .anywhere (htitle _))
  have hdetails : Fitting fits inside (enclose "div" "code-import-error-details" (Markup.escape message)) :=
    div _ ⟨by decide, by decide⟩ (.escaped hfits .anywhere (hmessage _))
  have hsource : Fitting fits inside (enclose "div" "code-import-error-source"
      ("<code>".toList ++ Highlight.directiveSource raw e ++ "</code>".toList)) :=
    div _ ⟨by decide, by decide⟩ (fitting_source hfits hcode (by decide) e raw)
  exact div _ ⟨by decide, by decide⟩ (div _ ⟨by decide, by decide⟩ ((hheader.append hdetails).append hsource))

/-! ## Blocks of code -/

/-- the header of a block of code is one element, and its texts are the path and the range label -/
theorem exists_builds_header (hfits : Tolerant fits) {d : Directive} {text : Text} (h : header d = .ok text)
    (hpath : ∀ names, fits names d.path) (hlabel : ∀ label, d.rangeLabel = .ok label → ∀ names, fits names label)
    (names : List Text) :
    ∃ attributes tokens, Builds text (.opening "div".toList attributes :: tokens ++ [.closing "div".toList]) ∧
      Stays fits ("div".toList :: names) tokens := by
  have span : ∀ {cssClass : String} {names : List Text} {t : Text}, PlainValue cssClass.toList →
      Fitting fits ("span".toList :: names) t → Fitting fits names (enclose "span" cssClass t) :=
    fun hclass h => .enclose hfits plainName_span rfl hclass h
  have hname : Fitting fits ("div".toList :: names) (enclose "span" "code-import-filename" (Markup.escape d.path)) :=
    span ⟨by decide, by decide⟩ (.escaped hfits .anywhere (hpath _))
  have hcontent : ∃ content, text = enclose "div" "code-import-header" content ∧
      Fitting fits ("div".toList :: names) content := by
    unfold header at h
    split at h
    · cases hl : d.rangeLabel with
      | error e => rw [hl] at h; cases h
      | ok label =>
        rw [hl] at h
        have hplain : ∀ c ∈ label, Markup.isPlain c = true := fun c hc => Markup.isPlain_iff.2
          ⟨fun hlt => Directive.not_mem_rangeLabel hl (by decide) (by decide) (by decide) (hlt ▸ hc),
            fun hamp => Directive.not_mem_rangeLabel hl (by decide) (by decide) (by decide) (hamp ▸ hc)⟩
        have hrange : Fitting fits ("div".toList :: names) (enclose "span" "code-import-line-info" label) :=
          span ⟨by decide, by decide⟩ (.plain hfits hplain (hlabel label hl _))
        exact ⟨_, (Except.ok.inj h).symm, hname.append hrange⟩
    · exact ⟨_, (Except.ok.inj h).symm, hname.append .nil⟩
  obtain ⟨content, rfl, tokens, hbuilds, hstays⟩ := hcontent
  exact ⟨_, tokens, Markup.builds_enclose plainName_div ⟨by decide, by decide⟩ hbuilds, hstays⟩

/-- the class of a block of code -/
def codeClass (p : Presentation) : String := if p.wrapCode then "code-import-block code-import-wrap" else "code-import-block"

/-- the tags in front of the content of a block of code -/
def codeFront (p : Presentation) : Text :=
  startTag "div".toList [⟨"class".toList, "code-import-container".toList⟩] ++
    startTag "div".toList [⟨"class".toList, (codeClass p).toList⟩]

/-- the tags behind the content of a block of code -/
def codeBack : Text := endTag "div".toList ++ endTag "div".toList

/-- the header of a block of code, or nothing where headers are not shown -/
def head (d : Directive) (p : Presentation) : Except DigitLimit Text := if p.showFileName then header d else .ok []

theorem code_eq_ok_iff {d : Directive} {html markup : Text} {p : Presentation} :
    code d html p = .ok markup ↔ ∃ front, head d p = .ok front ∧ markup = codeFront p ++ (front ++ (html ++ codeBack)) := by
  have hcode : code d html p = (head d p).map fun front => codeFront p ++ (front ++ (html ++ codeBack)) := by
    have htext : ∀ front, enclose "div" "code-import-container" (enclose "div" (codeClass p) (front ++ html)) =
        codeFront p ++ (front ++ (html ++ codeBack)) := by
      intro front
      rw [Markup.Token.enclose_eq, Markup.Token.enclose_eq, codeFront, codeBack]
      simp only [List.append_assoc]
    simp only [← htext]
    unfold code head
    cases p.showFileName with
    | false => rfl
    | true => cases header d <;> rfl
  rw [hcode]
  constructor
  · intro h
    obtain ⟨front, hfront, rfl⟩ := Markup.Token.eq_of_map_eq_ok h
    exact ⟨front, hfront, rfl⟩
  · rintro ⟨front, hfront, rfl⟩
    rw [hfront]
    rfl

/-- where the reading of a block of code stands in front of its content -/
def codeSpot : Spot := { names := ["div".toList, "div".toList] }

theorem plainValue_codeClass (p : Presentation) : PlainValue (codeClass p).toList := by
  unfold codeClass
  split <;> exact ⟨by decide, by decide⟩

theorem exists_builds_codeFront (p : Presentation) :
    ∃ tokens, Builds (codeFront p) tokens ∧ Spot.run {} tokens = codeSpot ∧ Spot.tells {} tokens = [] := by
  have tag : ∀ {cssClass : Text}, PlainValue cssClass →
      Builds (startTag "div".toList [⟨"class".toList, cssClass⟩]) [.opening "div".toList [⟨"class".toList, cssClass⟩]] :=
    fun h => Markup.builds_startTag plainName_div (List.forall_mem_singleton.2 (Markup.Token.plainAttribute_class h))
      (List.nodup_singleton _)
  exact ⟨_, (tag ⟨by decide, by decide⟩).append (tag (plainValue_codeClass p)), rfl, rfl⟩

/-- the header leaves the reading where it is -/
theorem exists_builds_head (hfits : Tolerant fits) {d : Directive} {front : Text} {p : Presentation}
    (h : head d p = .ok front) (hpath : ∀ names, fits names d.path)
    (hlabel : ∀ label, d.rangeLabel = .ok label → ∀ names, fits names label) :
    ∃ tokens, Builds front tokens ∧ codeSpot.run tokens = codeSpot ∧
      ∀ q ∈ codeSpot.tells tokens, fits q.around q.content := by
  unfold head at h
  split at h
  · obtain ⟨attributes, tokens, hbuilds, hstays⟩ := exists_builds_header hfits h hpath hlabel codeSpot.names
    have hspot : codeSpot.At fits codeSpot.names := ⟨rfl, rfl, fun t ht => nomatch ht⟩
    exact ⟨_, hbuilds, Stays.run_element rfl hstays hspot, (Stays.element hfits rfl hstays codeSpot hspot).2⟩
  · obtain rfl := Except.ok.inj h
    exact ⟨[], .nil, rfl, fun q hq => absurd hq List.not_mem_nil⟩

/-- a block of code is built from its header and from what the lexer makes of its content -/
theorem exists_build_code (hfits : Tolerant fits) {d : Directive} {html markup : Text} {p : Presentation}
    (h : code d html p = .ok markup) (hpath : ∀ names, fits names d.path)
    (hlabel : ∀ label, d.rangeLabel = .ok label → ∀ names, fits names label) (first : ℕ) :
    ∃ b : Builder, parse first markup = (build false b (html ++ codeBack)).map Builder.finish ∧ b.spot = codeSpot ∧
      ∀ q ∈ b.passages, fits q.around q.content := by
  obtain ⟨_, hhead, rfl⟩ := code_eq_ok_iff.1 h
  obtain ⟨front, hfront, hrun, htells⟩ := exists_builds_codeFront p
  obtain ⟨tokens, htokens, hstays, hfit⟩ := exists_builds_head hfits hhead hpath hlabel
  let start : Builder := { next := first }
  have hstart : start.passages = [] := rfl
  have hspot : (front.foldl Builder.step start).spot = codeSpot := (Builder.spot_foldl start front).trans hrun
  refine ⟨tokens.foldl Builder.step (front.foldl Builder.step start), ?_, ?_, ?_⟩
  · rw [Markup.parse_eq_build, hfront, htokens]
  · rw [Builder.spot_foldl, hspot, hstays]
  · have hnone : (front.foldl Builder.step start).passages = [] := by
      rw [Builder.passages_foldl, hstart]
      exact htells
    rw [Builder.passages_foldl, hnone, hspot]
    exact hfit

/-- the presentation without headers -/
def plain (p : Presentation) : Presentation := { p with showFileName := false }

theorem exists_code_plain (d : Directive) (html : Text) (p : Presentation) : ∃ core, code d html (plain p) = .ok core :=
  ⟨_, rfl⟩

/-- a block of code without its header is markup whose texts fit, if it is put around such markup -/
theorem fitting_code_plain (hfits : Tolerant fits) {d : Directive} {html core : Text} {p : Presentation}
    (h : code d html (plain p) = .ok core) (hhtml : Fitting fits codeSpot.names html) : Fitting fits [] core := by
  have hcore : code d html (plain p) = .ok (enclose "div" "code-import-container" (enclose "div" (codeClass p) ([] ++ html))) :=
    rfl
  obtain rfl := Except.ok.inj (hcore.symm.trans h)
  exact .enclose hfits plainName_div rfl ⟨by decide, by decide⟩ (.enclose hfits plainName_div rfl (plainValue_codeClass p) hhtml)

/-- **A block of code without its header has the texts of the markup in it**, if that is complete in itself. -/
theorem exists_passage_of_contained {d : Directive} {html core : Text} {p : Presentation} (hhtml : Contained html)
    (hcore : code d html (plain p) = .ok core) {first first' next next' : ℕ} {f g : Markup.Forest}
    (hf : parse first core = .ok (f, next)) (hg : parse first' html = .ok (g, next')) :
    ∀ q ∈ f.passages [], ∃ q' ∈ g.passages [], q = q'.within codeSpot.names := by
  obtain ⟨tokens, hbuilds, hcloses⟩ := hhtml
  obtain ⟨_, hnone, rfl⟩ := code_eq_ok_iff.1 hcore
  obtain rfl := Except.ok.inj (hnone.symm.trans (rfl : head d (plain p) = .ok []))
  obtain ⟨front, hfront, hrun, htells⟩ := exists_builds_codeFront (plain p)
  have hback : Builds codeBack (["div".toList, "div".toList].map Token.closing) :=
    (Markup.builds_endTag plainName_div).append (Markup.builds_endTag plainName_div)
  have hinside : codeSpot.tells tokens = (Spot.tells {} tokens).map (Passage.within codeSpot.names) ∧
      codeSpot.run tokens = (Spot.run {} tokens).within codeSpot.names := Spot.tells_within rfl hcloses
  have hall := Markup.passages_of_builds (hfront.append (Builds.nil.append (hbuilds.append hback))) hf
  have hown := Markup.passages_of_builds hbuilds hg
  rw [List.nil_append, Spot.tells_append, Spot.tells_append, htells, List.nil_append, Spot.run_append, hrun, Spot.run_append,
    hinside.1, hinside.2, List.append_assoc] at hall
  rw [hall, hown]
  intro q hq
  -- what is told behind the markup is the text that was being read at its end
  rcases List.mem_append.1 hq with hq | hq
  · obtain ⟨q', hq', rfl⟩ := List.mem_map.1 hq
    exact ⟨q', List.mem_append_left _ hq', rfl⟩
  · have hlast := Spot.mem_flushed_of_closing _ hq
    rw [Spot.flushed_within rfl] at hlast
    obtain ⟨q', hq', rfl⟩ := List.mem_map.1 hlast
    exact ⟨q', List.mem_append_right _ hq', rfl⟩

theorem tolerant_true : Tolerant fun _ _ => True := ⟨fun _ _ => trivial, fun _ _ => trivial⟩

/-- **A block of code is markup exactly when it is without its header.** -/
theorem exists_parse_code_iff {d : Directive} {html markup core : Text} {p : Presentation}
    (h : code d html p = .ok markup) (hcore : code d html (plain p) = .ok core) (first first' : ℕ) :
    (∃ parsed, parse first markup = .ok parsed) ↔ ∃ parsed, parse first' core = .ok parsed := by
  obtain ⟨b, hb, -⟩ := exists_build_code tolerant_true h (fun _ => trivial) (fun _ _ _ => trivial) first
  obtain ⟨b', hb', -⟩ := exists_build_code tolerant_true hcore (fun _ => trivial) (fun _ _ _ => trivial) first'
  rw [hb, hb', exists_map_eq_ok_iff, exists_map_eq_ok_iff, build, build, exists_map_eq_ok_iff, exists_map_eq_ok_iff]

/-- **The texts of a block of code** are the path, the range label, and those that it has without its header. -/
theorem mem_passages_code (hfits : Tolerant fits) {d : Directive} {html markup core : Text} {p : Presentation}
    (h : code d html p = .ok markup) (hcore : code d html (plain p) = .ok core) (hpath : ∀ names, fits names d.path)
    (hlabel : ∀ label, d.rangeLabel = .ok label → ∀ names, fits names label) {first first' next next' : ℕ}
    {f g : Markup.Forest} (hf : parse first markup = .ok (f, next)) (hg : parse first' core = .ok (g, next')) :
    ∀ q ∈ f.passages [], fits q.around q.content ∨ q ∈ g.passages [] := by
  obtain ⟨b, hb, hspot, hfit⟩ := exists_build_code hfits h hpath hlabel first
  obtain ⟨b', hb', hspot', -⟩ := exists_build_code hfits hcore hpath hlabel first'
  rw [hb] at hf
  rw [hb'] at hg
  obtain ⟨built, hbuilt, hfinish⟩ := Markup.Token.eq_of_map_eq_ok hf
  obtain ⟨built', hbuilt', hfinish'⟩ := Markup.Token.eq_of_map_eq_ok hg
  obtain ⟨tokens, htokens, rfl⟩ := Markup.Token.eq_of_map_eq_ok hbuilt
  obtain ⟨tokens', htokens', rfl⟩ := Markup.Token.eq_of_map_eq_ok hbuilt'
  obtain rfl := Except.ok.inj (htokens.symm.trans htokens')
  have hall := b.passages_built tokens
  have hall' := b'.passages_built tokens
  rw [hfinish, hspot] at hall
  rw [hfinish', hspot'] at hall'
  rw [hall, hall']
  intro q hq
  rcases List.mem_append.1 hq with hq | hq
  · exact Or.inl (hfit q hq)
  · exact Or.inr (List.mem_append_right _ hq)

end Block

end Transclude
