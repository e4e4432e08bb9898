import Topiary.Proofs.Synthesis.Accounts

/-!
Histories. Rules are applied one after another, and each application is met in the state that the
former ones have left. Whether it succeeds or fails, it appends to the tree and does nothing else to
it, and a tree that is not the same afterwards has more connected elements.
-/

namespace Topiary.Tree

variable {t t' t1 : Tree} {x : NodeId} {fresh : NodeId → List NodeId}

/-- The second tree is the first one, or the first one grown by connected elements. -/
structure Extended (t t' : Tree) : Prop where
  grown : ∃ fresh, t.Grown fresh t'
  strict : t' = t ∨ t.connectedElements.length < t'.connectedElements.length

theorem Grown.connectedElements_subset (h : t.Grown fresh t') (ht : t.Rooted) :
    t.connectedElements ⊆ t'.connectedElements := by
  intro x hx
  obtain ⟨hconn, helement⟩ := ht.mem_connectedElements.mp hx
  exact h.rooted.mem_connectedElements.mpr ⟨h.connected ht hconn, h.isElement helement⟩

namespace Extended

theorem refl (ht : t.Rooted) : t.Extended t :=
  ⟨⟨_, (Intact.refl t).grown ht⟩, Or.inl rfl⟩

theorem rooted (h : t.Extended t') : t'.Rooted := by
  obtain ⟨fresh, hgrown⟩ := h.grown
  exact hgrown.rooted

theorem length_le (h : t.Extended t') :
    t.connectedElements.length ≤ t'.connectedElements.length := by
  rcases h.strict with rfl | hlt
  · exact Nat.le_refl _
  · exact Nat.le_of_lt hlt

theorem trans (h : t.Extended t1) (h' : t1.Extended t') : t.Extended t' where
  grown := by
    obtain ⟨fresh, hgrown⟩ := h.grown
    obtain ⟨more, hmore⟩ := h'.grown
    exact ⟨_, hgrown.trans hmore⟩
  strict := by
    rcases h.strict with rfl | hlt
    · exact h'.strict
    · exact Or.inr (Nat.lt_of_lt_of_le hlt h'.length_le)

end Extended

/-- The connected elements of the second tree that are not connected in the first. -/
def attachedSince (t t' : Tree) : List NodeId :=
  t'.connectedElements.filter fun x => !t.isConnected x

theorem mem_attachedSince (ht : t.Rooted) (ht' : t'.Rooted) :
    x ∈ t.attachedSince t' ↔ ¬ t.Connected x ∧ t'.Connected x ∧ t'.isElement x = true := by
  rw [attachedSince, List.mem_filter, ht'.mem_connectedElements, Bool.not_eq_true',
    Bool.eq_false_iff, ne_eq, ht.isConnected_iff]
  exact and_comm

/-- The connected elements are the old ones and those that were attached. -/
theorem Grown.perm_attachedSince (h : t.Grown fresh t') (ht : t.Rooted) :
    t'.connectedElements.Perm (t.connectedElements ++ t.attachedSince t') := by
  have hold : (t'.connectedElements.filter fun x => t.isConnected x).Perm
      t.connectedElements := by
    rw [List.perm_ext_iff_of_nodup (nodup_connectedElements.filter _) nodup_connectedElements]
    intro x
    rw [List.mem_filter, ht.isConnected_iff]
    constructor
    · rintro ⟨hx, hconn⟩
      obtain ⟨-, helement⟩ := h.rooted.mem_connectedElements.mp hx
      rw [isElement_eq (h.data x (ht.lt_size_of_connected hconn))] at helement
      exact ht.mem_connectedElements.mpr ⟨hconn, helement⟩
    · intro hx
      exact ⟨h.connectedElements_subset ht hx, (ht.mem_connectedElements.mp hx).1⟩
  exact (List.filter_append_perm _ _).symm.trans (hold.append_right _)

theorem Extended.length_attachedSince (h : t.Extended t') (ht : t.Rooted) :
    t'.connectedElements.length =
      t.connectedElements.length + (t.attachedSince t').length := by
  obtain ⟨fresh, hgrown⟩ := h.grown
  rw [(hgrown.perm_attachedSince ht).length_eq, List.length_append]

theorem Extended.length_attachedSince_eq_zero_iff (h : t.Extended t') (ht : t.Rooted) :
    (t.attachedSince t').length = 0 ↔ t' = t := by
  have hlength := h.length_attachedSince ht
  constructor
  · intro hnone
    exact h.strict.resolve_right (by omega)
  · rintro rfl
    omega

end Topiary.Tree

namespace Topiary.Synthesis

open Topiary.Tree Topiary.Selector
open Topiary.Sheet (Rule)

namespace Walk

variable {limits : Limits} {payload : Payload} {s : Sequence} {items : List Item} {item : Item}
  {w w' : Walk} {index : Nat} {outcome : Outcome} {failure : Option SynthesisError}

/-! ## Walks of any outcome -/

theorem Effect.extended (h : Effect limits payload item w w' outcome) (hw : w.Sound) :
    w.tree.Extended w'.tree where
  grown := h.grown hw
  strict := by
    have hlength := h.connectedElements hw
    cases h with
    | kept _ htree => exact Or.inl htree
    | @built g blueprint mark fresh _ _ _ haccounted =>
      have hcopies : 0 < w.context.length * (multiplier limits blueprint.multiplier).1 :=
        Nat.mul_pos (List.length_pos_of_ne_nil haccounted.anchored)
          (one_le_multiplier limits blueprint.multiplier)
      rw [Outcome.copies] at hlength
      exact Or.inr (by omega)

/-- A walk extends its tree, and counts what it attaches, whether it comes to its end or not. -/
theorem extended_run (hw : w.Sound) (h : run limits payload s index w items = (w', failure)) :
    w'.Sound ∧ w.tree.Extended w'.tree ∧
      w'.tree.connectedElements.length + w.report.created =
        w.tree.connectedElements.length + w'.report.created := by
  induction items generalizing w index with
  | nil =>
    obtain ⟨rfl, -⟩ := Prod.mk.inj h
    exact ⟨hw, .refl hw.rooted, rfl⟩
  | cons item items ih =>
    rw [run] at h
    split at h
    · obtain ⟨rfl, -⟩ := Prod.mk.inj h
      exact ⟨hw, .refl hw.rooted, rfl⟩
    · rename_i w1 hstep
      obtain ⟨outcome, hbooked⟩ := exists_booked hw hstep
      obtain ⟨hsound, hextended, hlength⟩ := ih (hw.step hstep).1 h
      refine ⟨hsound, (hbooked.effect.extended hw).trans hextended, ?_⟩
      have hone := hbooked.effect.connectedElements hw
      have hcreated := hbooked.created
      omega

end Walk

/-! ## Applications -/

/-- A rule and the state in which it is applied. -/
structure Application where
  engine : Engine
  tree : Tree
  rule : Rule

namespace Application

variable {a : Application} {s : Sequence} {w : Walk} {failure : Option SynthesisError}

def outcome (a : Application) : Except RuleError Report :=
  (a.engine.applyRule a.tree a.rule).1

def engineAfter (a : Application) : Engine :=
  (a.engine.applyRule a.tree a.rule).2.1

def treeAfter (a : Application) : Tree :=
  (a.engine.applyRule a.tree a.rule).2.2

theorem applyRule_eq (a : Application) :
    a.engine.applyRule a.tree a.rule = (a.outcome, a.engineAfter, a.treeAfter) := rfl

/-- The content of the rule, as the engine decodes it. -/
def payload (a : Application) : Payload :=
  (decodeContent a.engine.fetcher a.rule.content).1

/-- The walk that the rule starts with. -/
def start (a : Application) : Walk :=
  ⟨a.tree, a.engine.binder, [], .empty⟩

theorem exists_run (a : Application) (s : Sequence) : ∃ w failure,
    Walk.run a.engine.settings.limits a.payload s 0 a.start s.items = (w, failure) :=
  ⟨_, _, rfl⟩

/-- What comes of a rule with a selector is what comes of the walk over its items. -/
theorem applyRule_eq_run (hs : Sequence.parse a.rule.selector = .ok s)
    (hrun : Walk.run a.engine.settings.limits a.payload s 0 a.start s.items = (w, failure)) :
    a.treeAfter = w.tree ∧ a.engineAfter.binder = w.binder ∧
      a.outcome = match failure with
        | none => .ok w.report
        | some error => .error (.synthesis error) := by
  rw [treeAfter, engineAfter, outcome, Engine.applyRule, hs]
  simp only [materialize]
  rw [payload, start] at hrun
  rw [hrun]
  cases failure <;> exact ⟨rfl, rfl, rfl⟩

theorem eq_of_parse_error {cause : SelectorError}
    (hs : Sequence.parse a.rule.selector = .error cause) :
    a.treeAfter = a.tree ∧ a.engineAfter = a.engine ∧ a.outcome = .error (.selector cause) := by
  rw [treeAfter, engineAfter, outcome, Engine.applyRule, hs]
  exact ⟨rfl, rfl, rfl⟩

/-- A rule extends the tree, whatever comes of it. -/
theorem extended (ht : a.tree.Rooted) : a.tree.Extended a.treeAfter := by
  cases hs : Sequence.parse a.rule.selector with
  | error cause =>
    rw [(eq_of_parse_error hs).1]
    exact .refl ht
  | ok s =>
    obtain ⟨w, failure, hrun⟩ := a.exists_run s
    rw [(applyRule_eq_run hs hrun).1]
    exact (Walk.extended_run (Walk.sound_start ht) hrun).2.1

/-- A rule that is applied reports as many elements as it has attached. -/
theorem length_connectedElements (ht : a.tree.Rooted) {report : Report}
    (h : a.outcome = .ok report) :
    a.treeAfter.connectedElements.length = a.tree.connectedElements.length + report.created := by
  cases hs : Sequence.parse a.rule.selector with
  | error cause =>
    rw [(eq_of_parse_error hs).2.2] at h
    simp at h
  | ok s =>
    obtain ⟨w, failure, hrun⟩ := a.exists_run s
    obtain ⟨htree, -, houtcome⟩ := applyRule_eq_run hs hrun
    rw [houtcome] at h
    cases failure with
    | some error => simp at h
    | none =>
      obtain rfl := Except.ok.inj h
      rw [htree]
      exact (Walk.extended_run (Walk.sound_start ht) hrun).2.2

end Application

/-! ## Lists of rules -/

namespace Engine

/-- The applications of the rules of a list, each in the state that the former ones have left. -/
def history (e : Engine) (t : Tree) : List Rule → List Application
  | [] => []
  | rule :: rules =>
    let first : Application := ⟨e, t, rule⟩
    first :: first.engineAfter.history first.treeAfter rules

/-- The application of a rule behind those of a list. -/
def behind (e : Engine) (t : Tree) (rules : List Rule) (rule : Rule) : Application :=
  ⟨(e.applyRules t rules).2.1, (e.applyRules t rules).2.2, rule⟩

theorem applyRules_concat (e : Engine) (t : Tree) (rules : List Rule) (rule : Rule) :
    e.applyRules t (rules ++ [rule]) =
      ((e.applyRules t rules).1.add rule.selector (e.behind t rules rule).outcome,
        (e.behind t rules rule).engineAfter, (e.behind t rules rule).treeAfter) := by
  rw [behind, applyRules, List.foldl_append, ← applyRules]
  obtain ⟨report, e1, t1⟩ := e.applyRules t rules
  have hlast : e1.applyRule t1 rule = _ := (⟨e1, t1, rule⟩ : Application).applyRule_eq
  simp only [List.foldl_cons, List.foldl_nil, hlast]

theorem behind_cons (e : Engine) (t : Tree) (first : Rule) (rules : List Rule) (rule : Rule) :
    e.behind t (first :: rules) rule =
      (e.applyRule t first).2.1.behind (e.applyRule t first).2.2 rules rule := by
  induction rules using List.reverseRecOn generalizing rule with
  | nil => rfl
  | append_singleton rules last ih =>
    rw [behind, behind, ← List.cons_append, applyRules_concat, applyRules_concat, ih]

theorem history_concat (e : Engine) (t : Tree) (rules : List Rule) (rule : Rule) :
    e.history t (rules ++ [rule]) = e.history t rules ++ [e.behind t rules rule] := by
  induction rules generalizing e t with
  | nil => rfl
  | cons first rules ih =>
    rw [List.cons_append, history, history, ih, behind_cons]
    rfl

/-- What holds before any rule and is kept by every application holds after all of them. -/
theorem history_induction {e : Engine} {t : Tree}
    {P : List Application → ApplyReport → Engine → Tree → Prop} (start : P [] .empty e t)
    (step : ∀ run report a, P run report a.engine a.tree →
      P (run ++ [a]) (report.add a.rule.selector a.outcome) a.engineAfter a.treeAfter)
    (rules : List Rule) : P (e.history t rules) (e.applyRules t rules).1 (e.applyRules t rules).2.1
      (e.applyRules t rules).2.2 := by
  induction rules using List.reverseRecOn with
  | nil => exact start
  | append_singleton rules rule ih =>
    rw [history_concat, applyRules_concat]
    exact step _ _ (e.behind t rules rule) ih

theorem map_rule_history (e : Engine) (t : Tree) (rules : List Rule) :
    (e.history t rules).map Application.rule = rules := by
  induction rules generalizing e t with
  | nil => rfl
  | cons rule rules ih => rw [history, List.map_cons, ih]

end Engine

end Topiary.Synthesis
