import Topiary.Markup.Render
import Topiary.Proofs.Synthesis.Steps

/-!
Rules that fail. Nothing is taken back: what was built for the compounds before the failing one
stays in the tree. Everything else stays as it was, and so does the binder, since content is bound
with the last compound only, and behind that one nothing can fail.
-/

namespace Topiary.Synthesis

open Topiary.Tree Topiary.Selector Topiary.Query
open Topiary.Sheet (Rule)

variable {limits : Limits} {payload : Payload} {s : Sequence} {items : List Item} {item : Item}
  {upTo : String} {g : Group} {t t' : Tree} {b b' : Binder} {w w' : Walk} {index : Nat}
  {error : SynthesisError} {e e' : Engine} {rule : Rule}

/-- The group that cannot be made true. -/
def SynthesisError.group : SynthesisError → String
  | .anchor group => group
  | .untagged group => group

theorem Blueprint.group_of_ofGroup_error (h : ofGroup g = .error error) :
    error.group = g.source := by
  unfold ofGroup at h
  split at h
  · simp at h
  · obtain rfl := Except.error.inj h
    rfl

namespace Walk

/-! ## Single steps -/

/-- A step fails only at a compound without matches. -/
theorem step_error (h : w.step limits payload upTo item = .error error) :
    w.tree.query upTo = .ok [] ∧ ∃ g, item = .compound g ∧ error.group = g.source := by
  rcases step_cases limits upTo item w with ⟨context, outcome, -, hstep⟩ |
    ⟨hquery, g, hg, hstep⟩ <;> rw [hstep] at h
  · simp at h
  · refine ⟨hquery, g, hg, ?_⟩
    rw [synthesize_eq] at h
    split at h
    · obtain rfl := Except.error.inj h
      rfl
    · split at h
      · rename_i cause hcause
        obtain rfl := Except.error.inj h
        exact Blueprint.group_of_ofGroup_error hcause
      · simp at h

/-- Without content nothing is deferred. -/
theorem binder_step (h : w.step limits .absent upTo item = .ok w') : w'.binder = w.binder := by
  rcases step_cases limits upTo item w with ⟨context, outcome, -, hstep⟩ |
    ⟨-, g, -, hstep⟩ <;> rw [hstep] at h
  · obtain rfl := Except.ok.inj h
    rfl
  · obtain ⟨-, blueprint, -, rfl⟩ := exists_blueprint h
    rfl

/-- What is built becomes connected. -/
theorem Built.exists_connected {blueprint : Blueprint} {mark : Option Correlation}
    {fresh : NodeId → List NodeId} (h : Built limits g w w' blueprint mark fresh) (hw : w.Sound) :
    ∃ x, ¬ w.tree.Connected x ∧ w'.tree.Connected x := by
  obtain ⟨p, hp⟩ := List.exists_mem_of_ne_nil _ h.anchored
  have hcount : 0 < (fresh p).length := by
    rw [h.attached.length p hp]
    exact one_le_multiplier limits blueprint.multiplier
  obtain ⟨x, hx⟩ := List.exists_mem_of_length_pos hcount
  refine ⟨x, fun hconn => ?_, h.attached.grown.connected_fresh hw.rooted (hw.context p hp).1 hx⟩
  exact absurd (hw.rooted.lt_size_of_connected hconn)
    (Nat.not_lt.mpr (h.attached.grown.new p x hx))

/-! ## Runs -/

/-- What a walk that fails `behind` items further on leaves: either all compounds that it passed
were met and the tree is the same, or one of them was missing and the tree has grown. -/
structure Left (s : Sequence) (index behind : Nat) (items : List Item) (t t' : Tree) : Prop where
  grown : ∃ fresh, t.Grown fresh t'
  outcome : (t' = t ∧ ∀ i < behind, ∀ g, items[i]? = some (.compound g) →
      t.query (s.upTo (index + i)) ≠ .ok []) ∨
    (∃ x, ¬ t.Connected x ∧ t'.Connected x) ∧ ∃ i < behind, ∃ g, items[i]? = some (.compound g) ∧
      t.query (s.upTo (index + i)) = .ok []

theorem Left.refl (ht : t.Rooted) : Left s index 0 items t t :=
  ⟨⟨_, (Intact.refl t).grown ht⟩, Or.inl ⟨rfl, by simp⟩⟩

/-- A step that builds nothing comes before. -/
theorem Left.cons {behind : Nat} (h : Left s (index + 1) behind items t t')
    (hmet : ∀ g, item = .compound g → t.query (s.upTo index) ≠ .ok []) :
    Left s index (behind + 1) (item :: items) t t' := by
  refine ⟨h.grown, ?_⟩
  rcases h.outcome with ⟨hsame, hall⟩ | ⟨hnew, i, hi, g, hitem, hquery⟩
  · refine Or.inl ⟨hsame, fun i hi g hitem => ?_⟩
    cases i with
    | zero => exact hmet g (by simpa using hitem)
    | succ i =>
      rw [← Nat.add_assoc, Nat.add_right_comm]
      exact hall i (Nat.lt_of_succ_lt_succ hi) g (by simpa using hitem)
  · refine Or.inr ⟨hnew, i + 1, Nat.succ_lt_succ hi, g, by simpa using hitem, ?_⟩
    rw [← Nat.add_assoc, Nat.add_right_comm]
    exact hquery

/-- A walk that fails has come to a compound without matches. -/
theorem run_error (hw : w.Sound) (h : run limits payload s index w items = (w', some error)) :
    w'.binder = w.binder ∧ ∃ behind g, items[behind]? = some (.compound g) ∧
      error.group = g.source ∧ w'.tree.query (s.upTo (index + behind)) = .ok [] ∧
      Left s index behind items w.tree w'.tree := by
  induction items generalizing w index with
  | nil => simp [run] at h
  | cons item items ih =>
    rw [run] at h
    split at h
    · rename_i cause hstep
      obtain ⟨rfl, hcause⟩ := Prod.mk.inj h
      obtain rfl := Option.some.inj hcause
      obtain ⟨hquery, g, rfl, hgroup⟩ := step_error hstep
      exact ⟨rfl, 0, g, rfl, hgroup, hquery, .refl hw.rooted⟩
    · rename_i w1 hstep
      obtain ⟨hbinder, behind, g, hitem, hgroup, hquery, hleft⟩ := ih (hw.step hstep).1 h
      have hne : items ≠ [] := by
        rintro rfl
        simp at hitem
      have hown : w.step limits .absent (s.upTo index) item = .ok w1 := by
        rwa [if_neg (by simpa using hne)] at hstep
      rw [Nat.add_right_comm, Nat.add_assoc] at hquery
      refine ⟨hbinder.trans (binder_step hown), behind + 1, g, by simpa using hitem, hgroup,
        hquery, ?_⟩
      rcases step_met_or_built hw hown with ⟨hsame, hmet⟩ |
        ⟨hnone, g, rfl, blueprint, mark, fresh, hbuilt⟩
      · rw [hsame] at hleft
        exact hleft.cons hmet
      · -- what this step has attached stays connected up to the failure
        obtain ⟨more, hmore⟩ := hleft.grown
        obtain ⟨x, hnew, hconn⟩ := hbuilt.exists_connected hw
        exact ⟨⟨_, hbuilt.attached.grown.trans hmore⟩, Or.inr
          ⟨⟨x, hnew, hmore.connected (hw.step hown).1.rooted hconn⟩, 0, Nat.succ_pos _, g, rfl,
            hnone⟩⟩

end Walk

/-! ## Rules -/

theorem materialize_error (ht : t.Rooted)
    (h : materialize limits s payload t b = (.error error, t', b')) :
    b' = b ∧ ∃ j g, s.items[j]? = some (.compound g) ∧ error.group = g.source ∧
      t'.query (s.upTo j) = .ok [] ∧ Walk.Left s 0 j s.items t t' := by
  rw [materialize] at h
  split at h
  · simp at h
  · rename_i w cause hrun
    obtain ⟨hcause, hstate⟩ := Prod.mk.inj h
    obtain ⟨rfl, rfl⟩ := Prod.mk.inj hstate
    obtain rfl := Except.error.inj hcause
    simpa using Walk.run_error (Walk.sound_start ht) hrun

/-- A rule that fails leaves the binder alone, and everything that was connected stays as it was but
for new children at the end. The tree is the very same if the selector is none, or if the text up to
each compound before the failing one matched something or was no query; else it has grown. -/
theorem Engine.applyRule_error (ht : t.Reachable) {error : RuleError}
    (h : e.applyRule t rule = (.error error, e', t')) :
    e'.binder = e.binder ∧
      (∀ x, t.isConnected x = true → t'.isConnected x = true ∧ t'.data? x = t.data? x ∧
        t'.parent? x = t.parent? x ∧ t.children x <+: t'.children x) ∧
      ((∃ cause, error = .selector cause ∧ Sequence.parse rule.selector = .error cause ∧ t' = t) ∨
        ∃ s j g cause, Sequence.parse rule.selector = .ok s ∧ s.items[j]? = some (.compound g) ∧
          error = .synthesis cause ∧ cause.group = g.source ∧ t'.query (s.upTo j) = .ok [] ∧
          ((∀ i < j, ∀ g, s.items[i]? = some (.compound g) → t.query (s.upTo i) ≠ .ok []) →
            t' = t) ∧
          ((∃ i < j, ∃ g, s.items[i]? = some (.compound g) ∧ t.query (s.upTo i) = .ok []) →
            ∃ x, t.isConnected x = false ∧ t'.isConnected x = true)) := by
  have hroot := ht.rooted
  rw [applyRule] at h
  split at h
  · rename_i cause hcause
    obtain ⟨herror, hstate⟩ := Prod.mk.inj h
    obtain ⟨rfl, rfl⟩ := Prod.mk.inj hstate
    obtain rfl := Except.error.inj herror
    exact ⟨rfl, fun x hx => ⟨hx, rfl, rfl, List.prefix_refl _⟩, Or.inl ⟨cause, rfl, hcause, rfl⟩⟩
  · rename_i s hs
    simp only at h
    generalize hrun : materialize e.settings.limits s (decodeContent e.fetcher rule.content).1 t
      e.binder = outcome at h
    obtain ⟨result, t1, b⟩ := outcome
    cases result with
    | ok report => simp [Except.mapError] at h
    | error cause =>
      obtain ⟨hcause, rfl, rfl⟩ : RuleError.synthesis cause = error ∧
          { e with fetcher := (decodeContent e.fetcher rule.content).2, binder := b } = e' ∧
          t1 = t' := by
        simpa [Except.mapError] using h
      obtain ⟨hbinder, j, g, hitem, hgroup, hquery, hleft⟩ := materialize_error hroot hrun
      obtain ⟨fresh, hgrown⟩ := hleft.grown
      refine ⟨hbinder, fun x hx => ?_, Or.inr ⟨s, j, g, cause, hs, hitem, hcause.symm, hgroup,
        hquery, fun hall => ?_, fun hmissing => ?_⟩⟩
      · rw [hroot.isConnected_iff] at hx
        have hlt := hroot.lt_size_of_connected hx
        refine ⟨hgrown.rooted.isConnected_iff.mpr (hgrown.connected hroot hx), hgrown.data x hlt,
          hgrown.parent x hlt, ?_⟩
        rw [hgrown.children x hlt]
        exact List.prefix_append _ _
      · rcases hleft.outcome with ⟨hsame, -⟩ | ⟨-, i, hi, g', hitem', hnone⟩
        · exact hsame
        · rw [Nat.zero_add] at hnone
          exact absurd hnone (hall i hi g' hitem')
      · rcases hleft.outcome with ⟨-, hall⟩ | ⟨⟨x, hnew, hconn⟩, -⟩
        · obtain ⟨i, hi, g', hitem', hnone⟩ := hmissing
          exact absurd hnone (by simpa using hall i hi g' hitem')
        · exact ⟨x, by rwa [Bool.eq_false_iff, ne_eq, hroot.isConnected_iff],
            hgrown.rooted.isConnected_iff.mpr hconn⟩

/-- What comes of a rule whose second compound is built and whose third cannot be. -/
def unfinished : Except RuleError Report × Engine × Tree :=
  (Engine.new .default (.ofAnswers fun _ => .failed)).applyRule Document.skeleton.tree
    ⟨"body p .x", none⟩

theorem unfinished_error : unfinished.1 = .error (.synthesis (.untagged ".x")) := by cbv

theorem applyRule_eq_unfinished :
    (Engine.new .default (.ofAnswers fun _ => .failed)).applyRule Document.skeleton.tree
        ⟨"body p .x", none⟩ =
      (.error (.synthesis (.untagged ".x")), unfinished.2.1, unfinished.2.2) :=
  Prod.ext unfinished_error rfl

theorem Engine.applyRule_error_skeleton :
    let t := Document.skeleton.tree
    let t' := unfinished.2.2
    t.Reachable ∧
      (Engine.new .default (.ofAnswers fun _ => .failed)).applyRule t ⟨"body p .x", none⟩ =
        (.error (.synthesis (.untagged ".x")), unfinished.2.1, t') ∧
      unfinished.2.1.binder = .empty ∧
      ∀ x, t.isConnected x = true → t'.isConnected x = true ∧ t'.data? x = t.data? x ∧
        t'.parent? x = t.parent? x ∧ t.children x <+: t'.children x := by
  have hfails := Engine.applyRule_error reachable_skeleton applyRule_eq_unfinished
  exact ⟨reachable_skeleton, applyRule_eq_unfinished, hfails.1, hfails.2.1⟩

/-- The `p` is built before the rule fails, and it stays. -/
theorem Engine.not_applyRule_error_unchanged :
    ¬ ∀ (d : Document) (e e' : Engine) (rule : Rule) (error : RuleError) (t' : Tree),
      d.tree.Reachable → e.applyRule d.tree rule = (.error error, e', t') →
      Markup.document .compact { d with tree := t' } = Markup.document .compact d ∧
        (∀ x, t'.isConnected x = d.tree.isConnected x) ∧ e'.binder = e.binder := by
  intro hall
  obtain ⟨hwritten, -, -⟩ := hall Document.skeleton _ _ _ _ _ reachable_skeleton
    applyRule_eq_unfinished
  have hbefore : Markup.document .compact Document.skeleton =
      "<html><head></head><body></body></html>" := by cbv
  have hafter : Markup.document .compact { Document.skeleton with tree := unfinished.2.2 } =
      "<html><head></head><body><p></p></body></html>" := by cbv
  rw [hbefore, hafter] at hwritten
  simp at hwritten

end Topiary.Synthesis
