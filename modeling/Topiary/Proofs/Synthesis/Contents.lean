import Topiary.Proofs.Synthesis.Marks

/-!
Where the content of a rule goes. The last step puts it on its template, and every copy holds what
the template holds. All else that a rule attaches is empty, and no old node gets or loses a text, so
the content is found in what the last step has attached and nowhere else.
-/

namespace Topiary.Tree

variable {t t' t1 : Tree} {x : NodeId} {fresh : NodeId → List NodeId}

/-- What a node says itself. -/
def textOf? : NodeData → Option String
  | .text content => some content
  | _ => none

/-- The texts among the children of a node, each with its place. -/
def texts (t : Tree) (x : NodeId) : List (NodeId × String) :=
  (t.children x).filterMap fun k => ((t.data? k).bind textOf?).map (k, ·)

theorem texts_of_children_eq_nil (h : t.children x = []) : t.texts x = [] := by
  rw [texts, h, List.filterMap_nil]

theorem Linked.texts_eq_nil (h : t.Linked) (hx : t.size ≤ x) : t.texts x = [] :=
  texts_of_children_eq_nil (h.children_eq_nil hx)

theorem mark?_eq_none (hx : t.size ≤ x) : t.mark? x = none := by
  cases hmark : t.mark? x with
  | none => rfl
  | some mark => exact absurd (lt_size_of_isElement (isElement_of_mark? hmark)) (Nat.not_lt.mpr hx)

theorem textOf?_of_isElement (h : t.isElement x = true) : (t.data? x).bind textOf? = none := by
  rw [isElement, element?_eq] at h
  cases hdata : t.data? x with
  | none => rfl
  | some data =>
    rw [hdata] at h
    cases data with
    | element e => rfl
    | _ => simp [elementOf] at h

/-- New elements are no texts. -/
theorem Grown.texts (h : t.Grown fresh t') (ht : t.Linked) (hx : x < t.size)
    (hfresh : ∀ m ∈ fresh x, t'.isElement m = true) : t'.texts x = t.texts x := by
  have hold : ∀ k ∈ t.children x, t'.data? k = t.data? k := fun k hk =>
    h.data k (ht.lt_of_mem_children hk).1
  have hnew : (fresh x).filterMap (fun k => ((t'.data? k).bind textOf?).map (k, ·)) = [] := by
    rw [List.filterMap_eq_nil_iff]
    intro m hm
    rw [textOf?_of_isElement (hfresh m hm)]
    rfl
  rw [Tree.texts, Tree.texts, h.children x hx, List.filterMap_append, hnew, List.append_nil]
  exact List.filterMap_congr fun k hk => by rw [hold k hk]

/-- Old nodes keep their texts, and no element that is attached has one. -/
structure Unfilled (t t' : Tree) : Prop where
  old : ∀ x < t.size, t'.texts x = t.texts x
  new : ∀ x ∈ t.attachedSince t', t'.texts x = []

namespace Unfilled

theorem refl (ht : t.Rooted) : t.Unfilled t := by
  refine ⟨fun _ _ => rfl, fun x hx => ?_⟩
  obtain ⟨hnot, hconn, -⟩ := (mem_attachedSince ht ht).mp hx
  exact absurd hconn hnot

theorem trans (h : t.Unfilled t1) (h' : t1.Unfilled t') (ht : t.Rooted)
    (hextended : t.Extended t1) (hextended' : t1.Extended t') : t.Unfilled t' := by
  obtain ⟨fresh, hgrown⟩ := hextended.grown
  obtain ⟨more, hmore⟩ := hextended'.grown
  refine ⟨fun x hx => ?_, fun x hx => ?_⟩
  · rw [h'.old x (Nat.lt_of_lt_of_le hx hgrown.size_le), h.old x hx]
  · obtain ⟨hnot, hconn, helement⟩ := (mem_attachedSince ht hmore.rooted).mp hx
    by_cases hmiddle : t1.Connected x
    · have hlt := hgrown.rooted.lt_size_of_connected hmiddle
      rw [isElement_eq (hmore.data x hlt)] at helement
      rw [h'.old x hlt]
      exact h.new x ((mem_attachedSince ht hgrown.rooted).mpr ⟨hnot, hmiddle, helement⟩)
    · exact h'.new x
        ((mem_attachedSince hgrown.rooted hmore.rooted).mpr ⟨hmiddle, hconn, helement⟩)

/-- Old nodes are as they were, and new elements hold neither a text nor a mark. -/
theorem frame (h : t.Unfilled t') (hmarked : t.ExtendedBy t' none) (ht : t.Rooted)
    (hx : x < t.size ∨ t'.Connected x ∧ t'.isElement x = true) :
    t'.texts x = t.texts x ∧ t'.mark? x = t.mark? x := by
  obtain ⟨fresh, hgrown⟩ := hmarked.extended.grown
  by_cases hlt : x < t.size
  · exact ⟨h.old x hlt, hgrown.mark? hlt⟩
  · have hge : t.size ≤ x := Nat.le_of_not_lt hlt
    have hattached : x ∈ t.attachedSince t' := by
      refine (mem_attachedSince ht hgrown.rooted).mpr ⟨fun hconn => ?_, hx.resolve_left hlt⟩
      exact hlt (ht.lt_size_of_connected hconn)
    rw [h.new x hattached, hmarked.marked x hattached, ht.linked.texts_eq_nil hge,
      mark?_eq_none hge]
    exact ⟨rfl, rfl⟩

end Unfilled

end Topiary.Tree

namespace Topiary.Synthesis

open Topiary.Tree Topiary.Selector

variable {limits : Limits} {payload : Payload} {s : Sequence} {items : List Item} {item last : Item}
  {upTo : String} {g : Group} {t t' : Tree} {b b' : Binder} {w w' : Walk} {index : Nat}
  {report : Report} {failure : Option SynthesisError} {blueprint : Blueprint}
  {mark : Option Correlation} {fresh : NodeId → List NodeId} {x : NodeId}

/-- The second tree is the first with elements attached that are filled and marked by a payload. -/
structure Payload.FillsOnly (payload : Payload) (b : Binder) (t t' : Tree) : Prop where
  marked : t.ExtendedBy t' (payload.mark? b)
  old : ∀ x < t.size, t'.texts x = t.texts x
  held : ∀ x ∈ t.attachedSince t', t'.held x = payload.held

/-- What was not attached is as it was. -/
theorem Payload.FillsOnly.frame {t1 : Tree} (h : payload.FillsOnly b t1 t')
    (hextended : t.Extended t1)
    (hx : x < t.size ∨ t'.Connected x ∧ t'.isElement x = true) (hnot : x ∉ t1.attachedSince t') :
    (x < t.size ∨ t1.Connected x ∧ t1.isElement x = true) ∧
      t'.texts x = t1.texts x ∧ t'.mark? x = t1.mark? x := by
  obtain ⟨fresh, hgrown⟩ := hextended.grown
  obtain ⟨more, hmore⟩ := h.marked.extended.grown
  have hkept : ∀ y < t1.size, t'.texts y = t1.texts y ∧ t'.mark? y = t1.mark? y := fun y hy =>
    ⟨h.old y hy, hmore.mark? hy⟩
  rcases hx with hx | ⟨hconn, helement⟩
  · exact ⟨Or.inl hx, hkept x (Nat.lt_of_lt_of_le hx hgrown.size_le)⟩
  · have hconn1 : t1.Connected x := by
      by_contra hnew
      exact hnot ((mem_attachedSince hgrown.rooted hmore.rooted).mpr ⟨hnew, hconn, helement⟩)
    have hlt := hgrown.rooted.lt_size_of_connected hconn1
    rw [isElement_eq (hmore.data x hlt)] at helement
    exact ⟨Or.inr ⟨hconn1, helement⟩, hkept x hlt⟩

/-- Without content nothing is filled. -/
theorem Payload.FillsOnly.unfilled (h : Payload.absent.FillsOnly b t t') : t.Unfilled t' := by
  refine ⟨h.old, fun x hx => texts_of_children_eq_nil ?_⟩
  exact List.map_eq_nil_iff.mp (h.held x hx)

namespace Walk

/-! ## Steps -/

theorem Built.mem_context_of_attached (h : Built limits g w w' blueprint mark fresh)
    (hw : w.Sound) (hx : x ∈ w.tree.attachedSince w'.tree) : x ∈ w'.context := by
  obtain ⟨hnot, hconn, helement⟩ :=
    (mem_attachedSince hw.rooted h.attached.grown.rooted).mp hx
  have hnew : w.tree.size ≤ x := by
    by_contra hlt
    exact hnot ((h.attached.grown.connected_iff hw.rooted (Nat.lt_of_not_le hlt)).mp hconn)
  obtain ⟨p, hp, -, hfresh⟩ := h.attached.exists_fresh hw.rooted hconn helement hnew
  rw [h.context]
  exact List.mem_flatMap.mpr ⟨p, hp, hfresh⟩

theorem Accounted.fillsOnly (h : Accounted limits payload g w w' blueprint mark fresh)
    (hw : w.Sound) (hmarked : w.tree.ExtendedBy w'.tree (payload.mark? w.binder)) :
    payload.FillsOnly w.binder w.tree w'.tree where
  marked := hmarked
  old := by
    intro x hx
    refine h.attached.grown.texts hw.rooted.linked hx fun m hm => ?_
    obtain ⟨e, hleaf⟩ := h.attached.exists_leaf hm
    exact hleaf.isElement
  held := by
    intro x hx
    exact h.held x (Or.inr (h.mem_context_of_attached hw hx))

/-- What a step does with its payload: it has no use for it, or it fills what it attaches. -/
theorem step_contents (hw : w.Sound) (h : w.step limits payload upTo item = .ok w') :
    (w'.tree = w.tree ∧ w'.binder = w.binder ∧ w'.report.correlation = w.report.correlation ∧
      w'.report.contentBound = w.report.contentBound ∧
      ∃ outcome, outcome.isSynthesized = false ∧
        w'.report.steps = w.report.steps ++ [⟨upTo, outcome⟩]) ∨
    (payload.FillsOnly w.binder w.tree w'.tree ∧ w'.binder = payload.keptBy w.binder ∧
      w'.report.correlation = (payload.mark? w.binder).or w.report.correlation ∧
      w'.report.contentBound = (w.report.contentBound || !payload.isAbsent) ∧
      (∃ g, item = .compound g) ∧ w.tree.attachedSince w'.tree ≠ [] ∧
      w'.report.steps = w.report.steps ++
        [⟨upTo, .synthesized (w.tree.attachedSince w'.tree).length⟩]) := by
  obtain ⟨outcome, hbooked⟩ := exists_booked hw h
  have hextended := hbooked.effect.extended hw
  have hbound := hbooked.bound
  have hsteps := hbooked.steps
  rcases step_marks hw h with ⟨htree, hbinder, hcorrelation⟩ |
    ⟨hmarked, hbinder, hcorrelation, hsteps'⟩
  · left
    cases hbooked.effect with
    | kept hnot _ =>
      rw [hnot, Bool.false_and, Bool.or_false] at hbound
      exact ⟨htree, hbinder, hcorrelation, hbound, _, hnot, hsteps⟩
    | built _ _ _ haccounted =>
      have hlt := haccounted.size_lt
      rw [htree] at hlt
      exact absurd hlt (Nat.lt_irrefl _)
  · right
    cases hbooked.effect with
    | kept hnot _ =>
      rw [hsteps'] at hsteps
      obtain ⟨-, hstep⟩ := List.append_inj' hsteps rfl
      obtain rfl := (Step.mk.inj (List.singleton_inj.mp hstep)).2
      simp [Outcome.isSynthesized] at hnot
    | built hitem _ _ haccounted =>
      have hne : w.tree.attachedSince w'.tree ≠ [] := by
        intro hnone
        have hsame := (hextended.length_attachedSince_eq_zero_iff hw.rooted).mp (by rw [hnone]; rfl)
        have hlt := haccounted.size_lt
        rw [hsame] at hlt
        exact Nat.lt_irrefl _ hlt
      exact ⟨haccounted.fillsOnly hw hmarked, hbinder, hcorrelation, hbound, ⟨_, hitem⟩, hne,
        hsteps'⟩

/-! ## Walks -/

/-- Without content a walk fills nothing and binds nothing. -/
theorem run_unfilled (hw : w.Sound) (h : run limits .absent s index w items = (w', failure)) :
    w.tree.Unfilled w'.tree ∧ w'.report.contentBound = w.report.contentBound := by
  induction items generalizing w index with
  | nil =>
    obtain ⟨rfl, -⟩ := Prod.mk.inj h
    exact ⟨.refl hw.rooted, rfl⟩
  | cons item items ih =>
    rw [run, ite_self] at h
    split at h
    · obtain ⟨rfl, -⟩ := Prod.mk.inj h
      exact ⟨.refl hw.rooted, rfl⟩
    · rename_i w1 hstep
      obtain ⟨-, -, -, hextended⟩ := run_unmarked (hw.step hstep).1 h
      obtain ⟨hunfilled, hbound⟩ := ih (hw.step hstep).1 h
      rcases step_contents hw hstep with ⟨htree, -, -, hbound', -⟩ |
        ⟨hfills, -, -, hbound', -⟩
      · rw [htree] at hunfilled
        exact ⟨hunfilled, hbound.trans hbound'⟩
      · refine ⟨hfills.unfilled.trans hunfilled hw.rooted hfills.marked.extended
          hextended.extended, hbound.trans (hbound'.trans ?_)⟩
        simp [Payload.isAbsent]

end Walk

theorem materialize_eq_ok_iff : materialize limits s payload t b = (.ok report, t', b') ↔
    ∃ w, Walk.run limits payload s 0 ⟨t, b, [], .empty⟩ s.items = (w, none) ∧
      w.report = report ∧ w.tree = t' ∧ w.binder = b' := by
  rw [materialize]
  cases Walk.run limits payload s 0 ⟨t, b, [], .empty⟩ s.items with
  | mk w failure => cases failure <;> simp

/-- The content of a rule goes to the elements that its last step has attached, and all other
elements have the texts and the mark that they had; a new one has none. -/
structure Delivered (s : Sequence) (payload : Payload) (b b' : Binder) (t t' : Tree)
    (report : Report) (made : List NodeId) : Prop where
  bound_iff : report.contentBound = true ↔ payload.isAbsent = false ∧
    ∃ g count, s.items.getLast? = some (.compound g) ∧
      report.steps.getLast? = some ⟨s.upTo (s.items.length - 1), .synthesized count⟩
  built : report.contentBound = true → made ≠ [] ∧
    report.steps.getLast? = some ⟨s.upTo (s.items.length - 1), .synthesized made.length⟩
  literal : ∀ content, payload = .literal content → b' = b ∧ report.correlation = none ∧
    (report.contentBound = true → ∀ m ∈ made, t'.mark? m = none ∧
      (t'.children m).map t'.data? = if content.isEmpty then [] else [some (.text content)])
  pending : ∀ content, payload = .pending content → report.contentBound = true →
    report.correlation = some ⟨b.next⟩ ∧
      b' = ⟨b.next + 1, b.pending ++ [(⟨b.next⟩, content)]⟩ ∧
      ∀ m ∈ made, t'.mark? m = some ⟨b.next⟩ ∧ t'.children m = []
  frame : ∀ x, (x < t.size ∨ t'.isConnected x = true ∧ t'.isElement x = true) →
    (report.contentBound = true → x ∉ made) → t'.texts x = t.texts x ∧ t'.mark? x = t.mark? x
  unbound : report.contentBound = false → b' = b ∧ report.correlation = none

/-- Where nothing is bound, everything is as it was, and what is new is empty. -/
theorem Delivered.of_unbound {made : List NodeId} (ht : t.Rooted) (hmarked : t.ExtendedBy t' none)
    (hunfilled : t.Unfilled t') (hbound : report.contentBound = false)
    (hcorrelation : report.correlation = none)
    (hlast : payload.isAbsent = true ∨ ∀ upTo count,
      report.steps.getLast? ≠ some ⟨upTo, .synthesized count⟩) :
    Delivered s payload b b t t' report made where
  bound_iff := by
    rw [hbound]
    refine ⟨fun h => absurd h Bool.false_ne_true, ?_⟩
    rintro ⟨hpayload, g, count, -, hstep⟩
    rcases hlast with habsent | hnever
    · rw [habsent] at hpayload
      exact absurd hpayload.symm Bool.false_ne_true
    · exact absurd hstep (hnever _ count)
  built h := by simp [hbound] at h
  literal _ _ := ⟨rfl, hcorrelation, fun h => by simp [hbound] at h⟩
  pending _ _ h := by simp [hbound] at h
  frame x hx _ := by
    rw [hmarked.extended.rooted.isConnected_iff] at hx
    exact hunfilled.frame hmarked ht hx
  unbound _ := ⟨rfl, hcorrelation⟩

/-- The last step fills what it attaches, behind steps that have filled nothing. -/
theorem Delivered.of_fillsOnly {t1 : Tree} (ht : t.Rooted) (hmarked : t.ExtendedBy t1 none)
    (hunfilled : t.Unfilled t1) (hfills : payload.FillsOnly b t1 t')
    (hpayload : payload.isAbsent = false) (hbound : report.contentBound = true)
    (hcorrelation : report.correlation = payload.mark? b)
    (hitem : s.items.getLast? = some (.compound g)) (hne : t1.attachedSince t' ≠ [])
    (hsteps : report.steps.getLast? =
      some ⟨s.upTo (s.items.length - 1), .synthesized (t1.attachedSince t').length⟩) :
    Delivered s payload b (payload.keptBy b) t t' report (t1.attachedSince t') where
  bound_iff := ⟨fun _ => ⟨hpayload, g, _, hitem, hsteps⟩, fun _ => hbound⟩
  built _ := ⟨hne, hsteps⟩
  literal content hcontent := by
    subst hcontent
    exact ⟨rfl, hcorrelation, fun _ m hm => ⟨hfills.marked.marked m hm, hfills.held m hm⟩⟩
  pending content hcontent _ := by
    subst hcontent
    refine ⟨hcorrelation, rfl, fun m hm => ⟨hfills.marked.marked m hm, ?_⟩⟩
    exact List.map_eq_nil_iff.mp (hfills.held m hm)
  frame x hx hnot := by
    rw [hfills.marked.extended.rooted.isConnected_iff] at hx
    obtain ⟨hbefore, htexts, hmark⟩ :=
      hfills.frame hmarked.extended hx (hnot hbound)
    obtain ⟨htexts', hmark'⟩ := hunfilled.frame hmarked ht hbefore
    exact ⟨htexts.trans htexts', hmark.trans hmark'⟩
  unbound h := by simp [hbound] at h

/-- The last step of a walk delivers the content, behind steps that have bound nothing. -/
theorem Delivered.of_step {w1 w2 : Walk} {items : List Item} (ht : t.Rooted) (hsound : w1.Sound)
    (hmarked : t.ExtendedBy w1.tree none) (hunfilled : t.Unfilled w1.tree)
    (hcorrelation : w1.report.correlation = none) (hbound : w1.report.contentBound = false)
    (hitems : s.items = items ++ [last])
    (hstep : w1.step limits payload (s.upTo items.length) last = .ok w2) :
    Delivered s payload w1.binder w2.binder t w2.tree w2.report
      (w1.tree.attachedSince w2.tree) := by
  rcases Walk.step_contents hsound hstep with
    ⟨htree, hbinder, hcorrelation', hbound', outcome, hnot, hsteps⟩ |
    ⟨hfills, hbinder, hcorrelation', hbound', ⟨g, rfl⟩, hne, hsteps⟩
  · rw [hbinder]
    refine .of_unbound ht (htree ▸ hmarked) (htree ▸ hunfilled) (hbound'.trans hbound)
      (hcorrelation'.trans hcorrelation) (Or.inr fun upTo count hlast => ?_)
    rw [hsteps, List.getLast?_concat] at hlast
    obtain rfl := (Step.mk.inj (Option.some.inj hlast)).2
    simp [Outcome.isSynthesized] at hnot
  · rw [hcorrelation, Option.or_none] at hcorrelation'
    rw [hbound, Bool.false_or] at hbound'
    rw [hbinder]
    cases hpayload : payload.isAbsent with
    | true =>
      obtain rfl : payload = .absent := by cases payload <;> simp [Payload.isAbsent] at hpayload ⊢
      exact .of_unbound ht (hmarked.trans hfills.marked ht)
        (hunfilled.trans hfills.unfilled ht hmarked.extended hfills.marked.extended) hbound'
        hcorrelation' (Or.inl rfl)
    | false =>
      have hitem : s.items.getLast? = some (.compound g) := by rw [hitems, List.getLast?_concat]
      have hplace : s.items.length - 1 = items.length := by
        rw [hitems, List.length_append]
        simp
      refine .of_fillsOnly ht hmarked hunfilled hfills hpayload ?_ hcorrelation' hitem hne ?_
      · rw [hbound', hpayload]
        rfl
      · rw [hsteps, List.getLast?_concat, hplace]

/-- A rule that is applied binds its content exactly if its last item is a compound and the step
over it has built something. The content is then found in the elements that this step has attached:
a literal as their only text, a pending one as their mark; and no other element has got or lost a
text or a mark. -/
theorem materialize_delivers (ht : t.Reachable)
    (h : materialize limits s payload t b = (.ok report, t', b')) :
    ∃ w, Walk.run limits .absent s 0 ⟨t, b, [], .empty⟩ s.items.dropLast = (w, none) ∧
      Delivered s payload b b' t t' report (w.tree.attachedSince t') := by
  have hroot := ht.rooted
  have hstart : Walk.Sound ⟨t, b, [], .empty⟩ := Walk.sound_start hroot
  obtain ⟨w', hrun, rfl, rfl, rfl⟩ := materialize_eq_ok_iff.mp h
  rcases List.eq_nil_or_concat' s.items with hitems | ⟨items, last, hitems⟩
  · -- without items there is nothing to make true
    rw [hitems] at hrun
    obtain ⟨rfl, -⟩ := Prod.mk.inj hrun
    refine ⟨_, by rw [hitems]; rfl, .of_unbound hroot (.refl hroot none) (.refl hroot) rfl rfl ?_⟩
    exact Or.inr fun upTo count => by simp [Report.empty]
  · rw [hitems] at hrun
    obtain ⟨w1, hinit, hstep⟩ := Walk.run_concat_ok hrun
    obtain ⟨hsound, hbinder, hcorrelation, hmarked⟩ : w1.Sound ∧ w1.binder = b ∧
        w1.report.correlation = none ∧ t.ExtendedBy w1.tree none := Walk.run_unmarked hstart hinit
    obtain ⟨hunfilled, hbound⟩ : t.Unfilled w1.tree ∧ w1.report.contentBound = false :=
      Walk.run_unfilled hstart hinit
    rw [Nat.zero_add] at hstep
    refine ⟨w1, by rw [hitems, List.dropLast_concat, hinit], ?_⟩
    rw [← hbinder]
    exact .of_step hroot hsound hmarked hunfilled hcorrelation hbound hitems hstep

/-- The two entries of the list that is built have the text, and nothing else has one. -/
theorem materialize_delivers_skeleton :
    let t := Document.skeleton.tree
    let t' := listMade.2.1
    t.Reachable ∧ listMade = (.ok listReport, t', listMade.2.2) ∧ listMade.2.2 = .empty ∧
      ∃ made : List NodeId, made.length = 2 ∧
        (∀ m ∈ made, t'.mark? m = none ∧ (t'.children m).map t'.data? = [some (.text "x")]) ∧
        ∀ x, t'.isConnected x = true → t'.isElement x = true → x ∉ made →
          t'.texts x = t.texts x := by
  have hmade : listMade = (.ok listReport, listMade.2.1, listMade.2.2) :=
    Prod.ext listMade_report rfl
  obtain ⟨w, -, hdelivered⟩ := materialize_delivers reachable_skeleton hmade
  obtain ⟨-, hlast⟩ := hdelivered.built rfl
  obtain ⟨hbinder, -, hfilled⟩ := hdelivered.literal "x" rfl
  have hlength : 2 = (w.tree.attachedSince listMade.2.1).length :=
    Outcome.synthesized.inj (Step.mk.inj (Option.some.inj hlast)).2
  refine ⟨reachable_skeleton, hmade, hbinder, _, hlength.symm, hfilled rfl,
    fun x hconn helement hnot => ?_⟩
  exact (hdelivered.frame x (Or.inr ⟨hconn, helement⟩) fun _ => hnot).1

end Topiary.Synthesis
