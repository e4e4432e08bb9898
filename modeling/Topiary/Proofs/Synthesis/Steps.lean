import Topiary.Proofs.Synthesis.Attach
import Topiary.Proofs.Synthesis.Idle

/-!
Steps of a walk. A step that succeeds either leaves the tree alone or attaches the copies of one
template to every node of the context; the context always consists of connected elements.
-/

namespace Topiary.Synthesis

open Topiary.Tree Topiary.Selector Topiary.Query
open Topiary.Sheet (Rule)

variable {limits : Limits} {payload : Payload} {s : Sequence} {items : List Item} {item : Item}
  {upTo : String} {g : Group} {t t' : Tree} {b b' : Binder} {w w' : Walk} {index : Nat}
  {error : SynthesisError} {report : Report}

namespace Walk

/-- The context consists of connected elements, each named once. -/
structure Sound (w : Walk) : Prop where
  rooted : w.tree.Rooted
  nodup : w.context.Nodup
  context : ∀ x ∈ w.context, w.tree.Connected x ∧ w.tree.isElement x = true

theorem sound_start (ht : t.Rooted) : (⟨t, b, [], .empty⟩ : Walk).Sound :=
  ⟨ht, List.nodup_nil, by simp⟩

theorem one_le_multiplier (limits : Limits) (raw : Option Int) : 1 ≤ (multiplier limits raw).1 := by
  unfold multiplier
  split
  · exact Nat.le_refl 1
  · rename_i raw
    simp only
    split_ifs
    · exact Nat.le_refl 1
    · exact Nat.le_max_right _ _
    · simp only
      omega

/-- The second walk has built a group below every node of the context of the first. -/
structure Built (limits : Limits) (g : Group) (w w' : Walk) (blueprint : Blueprint)
    (mark : Option Correlation) (fresh : NodeId → List NodeId) : Prop where
  described : Blueprint.ofGroup g = .ok blueprint
  anchored : w.context ≠ []
  context : w'.context = w.context.flatMap fresh
  attached : Attached w.tree w'.tree { blueprint.element with correlation := mark }
    (multiplier limits blueprint.multiplier).1 w.context fresh
  size_lt : w.tree.size < w'.tree.size

/-- The account of a step that builds. The template stays behind, detached; it and every copy hold
what is bound there, and nothing else is new. -/
structure Accounted (limits : Limits) (payload : Payload) (g : Group) (w w' : Walk)
    (blueprint : Blueprint) (mark : Option Correlation) (fresh : NodeId → List NodeId) : Prop
    extends Built limits g w w' blueprint mark fresh where
  template : w'.tree.Leaf w.tree.size { blueprint.element with correlation := mark }
  free : w'.tree.parent? w.tree.size = none
  held : ∀ m, m = w.tree.size ∨ m ∈ w'.context → w'.tree.held m = payload.held
  size : w'.tree.size = w.tree.size + (1 + w'.context.length) * (1 + payload.held.length)

theorem Built.sound {blueprint : Blueprint} {mark : Option Correlation}
    {fresh : NodeId → List NodeId} (h : Built limits g w w' blueprint mark fresh) (hw : w.Sound) :
    w'.Sound where
  rooted := h.attached.grown.rooted
  nodup := by
    rw [h.context]
    exact h.attached.grown.nodup_flatMap hw.nodup fun p hp =>
      hw.rooted.lt_size_of_connected (hw.context p hp).1
  context := by
    intro x hx
    rw [h.context, List.mem_flatMap] at hx
    obtain ⟨p, hp, hx⟩ := hx
    obtain ⟨e, hleaf⟩ := h.attached.exists_leaf hx
    exact ⟨h.attached.grown.connected_fresh hw.rooted (hw.context p hp).1 hx, hleaf.isElement⟩

/-- What is attached to a tree with a template is attached to the tree without it. -/
theorem Attached.of_template {t1 t2 : Tree} {e e' : Element} {count : Nat} {parents : List NodeId}
    {fresh : NodeId → List NodeId} (ht1 : Template t t1 e')
    (h : Attached t1 t2 e count parents fresh) : Attached t t2 e count parents fresh where
  grown := (ht1.intact.grown ht1.rooted).trans h.grown
  length := h.length
  others := h.others
  leaf := h.leaf

/-- The walk with the template of a blueprint built, before its copies are attached. -/
def prepare (limits : Limits) (payload : Payload) (blueprint : Blueprint) (w : Walk) : Walk :=
  bind { (w.skip blueprint.skipped).skip (multiplier limits blueprint.multiplier).2 with
    tree := (blueprint.build w.tree).1 } (blueprint.build w.tree).2 payload

/-- The walk with the copies of a template attached. -/
def spread (upTo : String) (template : NodeId) (count : Nat) (w : Walk) : Walk :=
  record
    { w with
      tree := (attach template count w.context w.tree).1
      context := (attach template count w.context w.tree).2
      report := { w.report with
        created := w.report.created + (attach template count w.context w.tree).2.length } }
    upTo (.synthesized (attach template count w.context w.tree).2.length)

theorem synthesize_eq : w.synthesize limits payload upTo g =
    if w.context.isEmpty then .error (.anchor g.source)
    else match Blueprint.ofGroup g with
      | .error error => .error error
      | .ok blueprint => .ok ((w.prepare limits payload blueprint).spread upTo
          (blueprint.build w.tree).2 (multiplier limits blueprint.multiplier).1) := rfl

theorem template_prepare (limits : Limits) (payload : Payload) (hw : w.tree.Rooted)
    (blueprint : Blueprint) :
    Template w.tree (w.prepare limits payload blueprint).tree
        { blueprint.element with correlation := payload.mark? w.binder } ∧
      (w.prepare limits payload blueprint).context = w.context := by
  obtain ⟨hnode, htemplate, hbare⟩ := Template.build hw blueprint
  rw [prepare, hnode]
  exact template_bind htemplate hbare blueprint.correlation_element payload

theorem held_prepare (limits : Limits) (payload : Payload) (hw : w.tree.Rooted)
    (blueprint : Blueprint) :
    (w.prepare limits payload blueprint).tree.held w.tree.size = payload.held ∧
      (w.prepare limits payload blueprint).tree.size =
        w.tree.size + (1 + payload.held.length) := by
  obtain ⟨hnode, htemplate, hbare⟩ := Template.build hw blueprint
  rw [prepare, hnode, ← Nat.add_assoc, ← Template.size_build]
  exact held_bind htemplate hbare payload

/-- A synthesis that succeeds has somewhere to attach copies and something to copy. -/
theorem exists_blueprint (h : w.synthesize limits payload upTo g = .ok w') :
    w.context ≠ [] ∧ ∃ blueprint, Blueprint.ofGroup g = .ok blueprint ∧
      (w.prepare limits payload blueprint).spread upTo (blueprint.build w.tree).2
        (multiplier limits blueprint.multiplier).1 = w' := by
  rw [synthesize_eq] at h
  split at h
  · simp at h
  · rename_i hne
    split at h
    · simp at h
    · rename_i blueprint hblueprint
      exact ⟨by simpa using hne, blueprint, hblueprint, Except.ok.inj h⟩

/-- A synthesis that succeeds builds the group below every node of the context, and no more. -/
theorem synthesize_ok (hw : w.Sound) (h : w.synthesize limits payload upTo g = .ok w') :
    ∃ blueprint fresh,
      Accounted limits payload g w w' blueprint (payload.mark? w.binder) fresh := by
  obtain ⟨hne, blueprint, hblueprint, rfl⟩ := exists_blueprint h
  obtain ⟨htemplate, hcontext⟩ := template_prepare limits payload hw.rooted blueprint
  obtain ⟨hheld, hsize⟩ := held_prepare limits payload hw.rooted blueprint
  have hlt : ∀ p ∈ w.context, p < w.tree.size := fun p hp =>
    hw.rooted.lt_size_of_connected (hw.context p hp).1
  have helement : ∀ p ∈ w.context,
      (w.prepare limits payload blueprint).tree.isElement p = true := fun p hp =>
    (isElement_eq (htemplate.intact.data p (hlt p hp))).trans (hw.context p hp).2
  have hnot : w.tree.size ∉ w.context := fun hmem => Nat.lt_irrefl _ (hlt _ hmem)
  obtain ⟨t2, fresh, hattach, hcounted⟩ := attach_spec htemplate.rooted htemplate.leaf
    hw.nodup helement hnot (multiplier limits blueprint.multiplier).1
  have hspread : attach (blueprint.build w.tree).2 (multiplier limits blueprint.multiplier).1
      (w.prepare limits payload blueprint).context (w.prepare limits payload blueprint).tree =
      (t2, w.context.flatMap fresh) := by
    rw [(Template.build hw.rooted blueprint).1, hcontext, hattach]
  have htree : ((w.prepare limits payload blueprint).spread upTo (blueprint.build w.tree).2
      (multiplier limits blueprint.multiplier).1).tree = t2 := congrArg Prod.fst hspread
  have hmade : ((w.prepare limits payload blueprint).spread upTo (blueprint.build w.tree).2
      (multiplier limits blueprint.multiplier).1).context = w.context.flatMap fresh :=
    congrArg Prod.snd hspread
  have hnone := hcounted.others w.tree.size hnot
  have hbare := hcounted.fresh_eq_nil helement
  refine ⟨blueprint, fresh, ⟨hblueprint, hne, hmade, ?_, ?_⟩, ?_, ?_, ?_, ?_⟩ <;> rw [htree]
  · exact hcounted.of_template htemplate
  · exact Nat.lt_of_lt_of_le htemplate.leaf.lt_size hcounted.grown.size_le
  · exact htemplate.leaf.grown htemplate.rooted hcounted.grown hnone hbare
  · rw [hcounted.grown.parent _ htemplate.leaf.lt_size, htemplate.free]
  · rintro m (rfl | hm)
    · rw [hcounted.grown.held htemplate.rooted.linked htemplate.leaf.lt_size hnone, hheld]
    · rw [hmade, List.mem_flatMap] at hm
      obtain ⟨p, -, hm⟩ := hm
      rw [hcounted.held p m hm, hheld]
  · rw [hcounted.size, hsize, hheld, hmade, length_flatMap_of_length hcounted.length, Nat.add_assoc,
      Nat.add_mul, Nat.one_mul]

/-- What a step does that succeeds. -/
theorem step_ok (hw : w.Sound) (h : w.step limits payload upTo item = .ok w') :
    (∃ cause, w.tree.query upTo = .error cause ∧
      w' = w.goOn w.context [⟨upTo, .skipped cause.reason⟩]) ∨
    (∃ x xs, w.tree.query upTo = .ok (x :: xs) ∧
      w' = w.goOn (x :: xs) [⟨upTo, .matched (xs.length + 1)⟩]) ∨
    (w.tree.query upTo = .ok [] ∧ (∃ token, item = .combinator token) ∧
      w' = w.goOn [] [⟨upTo, .propagated⟩]) ∨
    (w.tree.query upTo = .ok [] ∧ ∃ g, item = .compound g ∧
      ∃ blueprint mark fresh, Accounted limits payload g w w' blueprint mark fresh) := by
  unfold step at h
  split at h
  · rename_i cause hquery
    exact Or.inl ⟨cause, hquery, (Except.ok.inj h).symm⟩
  · rename_i x xs hquery
    exact Or.inr (Or.inl ⟨x, xs, hquery, (Except.ok.inj h).symm⟩)
  · rename_i hquery
    cases item with
    | combinator token =>
      exact Or.inr (Or.inr (Or.inl ⟨hquery, ⟨token, rfl⟩, (Except.ok.inj h).symm⟩))
    | compound g =>
      obtain ⟨blueprint, fresh, haccounted⟩ := synthesize_ok hw h
      exact Or.inr (Or.inr (Or.inr ⟨hquery, g, rfl, blueprint, _, fresh, haccounted⟩))

theorem nodup_query (ht : t.Rooted) {found : List NodeId} (h : t.query upTo = .ok found) :
    found.Nodup ∧ ∀ x ∈ found, t.Connected x ∧ t.isElement x = true := by
  rw [Tree.query] at h
  obtain ⟨l, -, rfl⟩ := map_eq_ok.mp h
  refine ⟨(List.nodup_cons.mp ht.nodup_descendants).2.filter _, fun x hx => ?_⟩
  obtain ⟨hconn, hmatch⟩ := (mem_select ht).mp hx
  rw [SelectorList.matches, Bool.and_eq_true] at hmatch
  exact ⟨hconn, hmatch.1⟩

/-- A step that succeeds leaves the tree as it was, unless it comes to a compound without
matches. -/
theorem step_met_or_built (hw : w.Sound) (h : w.step limits payload upTo item = .ok w') :
    (w'.tree = w.tree ∧ ∀ g, item = .compound g → w.tree.query upTo ≠ .ok []) ∨
    (w.tree.query upTo = .ok [] ∧ ∃ g, item = .compound g ∧
      ∃ blueprint mark fresh, Built limits g w w' blueprint mark fresh) := by
  rcases step_ok hw h with ⟨cause, hquery, rfl⟩ | ⟨x, xs, hquery, rfl⟩ | ⟨-, ⟨token, rfl⟩, rfl⟩ |
    ⟨hquery, g, rfl, blueprint, mark, fresh, hbuilt⟩
  · exact Or.inl ⟨rfl, fun _ _ => by rw [hquery]; simp⟩
  · exact Or.inl ⟨rfl, fun _ _ => by rw [hquery]; simp⟩
  · exact Or.inl ⟨rfl, by simp⟩
  · exact Or.inr ⟨hquery, g, rfl, blueprint, mark, fresh, hbuilt.toBuilt⟩

theorem Sound.step (hw : w.Sound) (h : w.step limits payload upTo item = .ok w') :
    w'.Sound ∧ w.tree.size ≤ w'.tree.size := by
  rcases step_ok hw h with ⟨cause, -, rfl⟩ | ⟨x, xs, hquery, rfl⟩ | ⟨-, -, rfl⟩ |
    ⟨-, g, -, blueprint, mark, fresh, hbuilt⟩
  · exact ⟨⟨hw.rooted, hw.nodup, hw.context⟩, Nat.le_refl _⟩
  · obtain ⟨hnodup, hfound⟩ := nodup_query hw.rooted hquery
    exact ⟨⟨hw.rooted, hnodup, hfound⟩, Nat.le_refl _⟩
  · exact ⟨⟨hw.rooted, List.nodup_nil, by simp [goOn]⟩, Nat.le_refl _⟩
  · exact ⟨hbuilt.sound hw, Nat.le_of_lt hbuilt.size_lt⟩

theorem run_cons (h : run limits payload s index w (item :: items) = (w', none)) :
    ∃ w1, w.step limits (if items.isEmpty then payload else .absent) (s.upTo index) item = .ok w1 ∧
      run limits payload s (index + 1) w1 items = (w', none) := by
  rw [run] at h
  split at h
  · simp at h
  · rename_i w1 hstep
    exact ⟨w1, hstep, h⟩

/-- The content is for the last item, so a walk goes over items in front of others without it. -/
theorem run_append {rest : List Item} (hne : rest ≠ []) (w : Walk) (items : List Item)
    (index : Nat) : run limits payload s index w (items ++ rest) =
      match run limits .absent s index w items with
      | (w1, none) => run limits payload s (index + items.length) w1 rest
      | (w1, some error) => (w1, some error) := by
  induction items generalizing w index with
  | nil => rfl
  | cons item items ih =>
    have hmore : (items ++ rest).isEmpty = false := by simp [hne]
    rw [List.cons_append, run, run, hmore, ite_self]
    simp only [Bool.false_eq_true, if_false]
    cases w.step limits .absent (s.upTo index) item with
    | error error => rfl
    | ok w1 =>
      rw [List.length_cons, ← Nat.add_assoc, Nat.add_right_comm]
      exact ih w1 (index + 1)

theorem Sound.run (hw : w.Sound) (h : run limits payload s index w items = (w', none)) :
    w'.Sound ∧ w.tree.size ≤ w'.tree.size := by
  induction items generalizing w index with
  | nil =>
    obtain ⟨rfl, -⟩ := Prod.mk.inj h
    exact ⟨hw, Nat.le_refl _⟩
  | cons item items ih =>
    obtain ⟨w1, hstep, hrun⟩ := run_cons h
    obtain ⟨hsound, hle⟩ := hw.step hstep
    obtain ⟨hsound', hle'⟩ := ih hsound hrun
    exact ⟨hsound', Nat.le_trans hle hle'⟩

/-- A walk that succeeds and leaves the tree as it was has met no compound without matches. -/
theorem met_of_run (hw : w.Sound) (h : Walk.run limits payload s index w items = (w', none))
    (htree : w'.tree = w.tree) (j : Nat) (g : Group) (hj : items[j]? = some (.compound g)) :
    w.tree.query (s.upTo (index + j)) ≠ .ok [] := by
  induction items generalizing w index j with
  | nil => simp at hj
  | cons item items ih =>
    obtain ⟨w1, hstep, hrun⟩ := run_cons h
    obtain ⟨hsound, -⟩ := hw.step hstep
    obtain ⟨-, hle⟩ := hsound.run hrun
    -- a step that builds makes the tree larger, and no later step makes it smaller
    have hsame : w1.tree = w.tree ∧ ∀ g, item = .compound g →
        w.tree.query (s.upTo index) ≠ .ok [] := by
      refine (step_met_or_built hw hstep).resolve_right ?_
      rintro ⟨-, g, -, blueprint, mark, fresh, hbuilt⟩
      rw [htree] at hle
      exact absurd hbuilt.size_lt (Nat.not_lt_of_le hle)
    cases j with
    | zero => exact hsame.2 g (by simpa using hj)
    | succ j =>
      have hrest := ih hsound hrun (htree.trans hsame.1.symm) j (by simpa using hj)
      rwa [hsame.1, Nat.add_assoc, Nat.add_comm 1 j] at hrest

end Walk

/-- A selector is made true by a walk over all its items. -/
theorem materialize_ok (h : materialize limits s payload t b = (.ok report, t', b')) :
    ∃ w, Walk.run limits payload s 0 ⟨t, b, [], .empty⟩ s.items = (w, none) ∧
      w.report = report ∧ w.tree = t' := by
  rw [materialize] at h
  split at h
  · rename_i w hrun
    obtain ⟨hreport, hstate⟩ := Prod.mk.inj h
    exact ⟨w, hrun, Except.ok.inj hreport, congrArg Prod.fst hstate⟩
  · simp at h

/-- A rule is applied when its selector is made true with the decoded content. -/
theorem Engine.applyRule_ok_iff {e e' : Engine} {rule : Rule} {report : Report}
    (hs : Sequence.parse rule.selector = .ok s) : e.applyRule t rule = (.ok report, e', t') ↔
      materialize e.settings.limits s (decodeContent e.fetcher rule.content).1 t e.binder =
          (.ok report, t', e'.binder) ∧
        e'.settings = e.settings ∧ e'.fetcher = (decodeContent e.fetcher rule.content).2 := by
  rw [applyRule, hs]
  simp only
  generalize materialize e.settings.limits s (decodeContent e.fetcher rule.content).1 t e.binder =
    outcome
  obtain ⟨result, t1, b⟩ := outcome
  obtain ⟨settings, fetcher, binder⟩ := e'
  cases result with
  | error error => simp [Except.mapError]
  | ok found =>
    simp only [Except.mapError, Prod.mk.injEq, Except.ok.injEq, Engine.mk.injEq]
    grind

end Topiary.Synthesis
