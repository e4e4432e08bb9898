import Topiary.Proofs.Synthesis.Failures
import Topiary.Proofs.Synthesis.Fulfilment
import Topiary.Proofs.Synthesis.Histories

/-!
The accounts of lists of rules. Every rule is counted once, as applied or as failed. The elements in
the account are those of the applied rules; what failing rules have attached before they failed is
in the tree, but not in the account.
-/

namespace Topiary.Synthesis

open Topiary.Tree
open Topiary.Sheet (Rule)

variable {t t' : Tree} {e e' : Engine} {rules : List Rule} {report : ApplyReport}
  {run : List Application} {a : Application}

namespace Application

/-- The entry of a rule among the failures. -/
def failure? (a : Application) : Option RuleFailure :=
  match a.outcome with
  | .ok _ => none
  | .error error => some ⟨a.rule.selector, error⟩

/-- The elements that a rule has attached, whether it failed or not. -/
def attached (a : Application) : List NodeId :=
  a.tree.attachedSince a.treeAfter

end Application

/-- The number of elements that failing rules have attached. -/
def unreported (run : List Application) : Nat :=
  ((run.filter fun a => a.failure?.isSome).map fun a => a.attached.length).sum

theorem unreported_append (run more : List Application) :
    unreported (run ++ more) = unreported run + unreported more := by
  simp [unreported]

/-! ## One more rule -/

namespace ApplyReport

theorem rules_add (report : ApplyReport) (selector : String) (outcome : Except RuleError Report) :
    (report.add selector outcome).rules = report.rules + 1 := by
  cases outcome <;> rfl

theorem applied_add (report : ApplyReport) (selector : String)
    (outcome : Except RuleError Report) :
    (report.add selector outcome).applied + (report.add selector outcome).failures.length =
      report.applied + report.failures.length + 1 := by
  cases outcome with
  | ok made => exact Nat.add_right_comm _ _ _
  | error error =>
    rw [add, List.length_append]
    rfl

theorem failures_add (report : ApplyReport) (a : Application) :
    (report.add a.rule.selector a.outcome).failures = report.failures ++ a.failure?.toList := by
  rw [Application.failure?]
  cases a.outcome <;> simp [add]

/-- What a rule attaches goes into the account if it is applied, and else counts as unreported. -/
theorem created_add (report : ApplyReport) (ht : a.tree.Rooted) :
    a.treeAfter.connectedElements.length + report.created =
      a.tree.connectedElements.length + (report.add a.rule.selector a.outcome).created +
        unreported [a] := by
  cases houtcome : a.outcome with
  | ok made =>
    have hnone : unreported [a] = 0 := by simp [unreported, Application.failure?, houtcome]
    have hlength := a.length_connectedElements ht houtcome
    rw [hnone, add]
    simp only
    omega
  | error error =>
    have hattached : unreported [a] = (a.tree.attachedSince a.treeAfter).length := by
      simp [unreported, Application.failure?, houtcome, Application.attached]
    have hlength := (a.extended ht).length_attachedSince ht
    rw [hattached, add]
    simp only
    omega

end ApplyReport

/-! ## Lists of rules -/

/-- The books of a list of rules: each of them is counted, and each connected element is an old one,
one in the account or one of a failing rule. -/
structure Books (t : Tree) (run : List Application) (report : ApplyReport) (t' : Tree) : Prop where
  extended : t.Extended t'
  rooted : ∀ a ∈ run, a.tree.Rooted
  rules : report.rules = run.length
  applied : run.length = report.applied + report.failures.length
  failures : report.failures = run.filterMap Application.failure?
  elements : t'.connectedElements.length =
    t.connectedElements.length + report.created + unreported run

namespace Books

theorem start (ht : t.Rooted) : Books t [] .empty t :=
  ⟨.refl ht, by simp, rfl, rfl, rfl, rfl⟩

theorem step (h : Books t run report a.tree) :
    Books t (run ++ [a]) (report.add a.rule.selector a.outcome) a.treeAfter where
  extended := h.extended.trans (a.extended h.extended.rooted)
  rooted := by
    intro a' ha'
    rcases List.mem_append.mp ha' with ha' | ha'
    · exact h.rooted a' ha'
    · rw [List.mem_singleton.mp ha']
      exact h.extended.rooted
  rules := by rw [ApplyReport.rules_add, h.rules, List.length_append, List.length_singleton]
  applied := by
    rw [ApplyReport.applied_add, ← h.applied, List.length_append, List.length_singleton]
  failures := by
    rw [ApplyReport.failures_add, h.failures, List.filterMap_append]
    cases hfailure : a.failure? <;> simp [hfailure]
  elements := by
    have hcreated := report.created_add h.extended.rooted
    have helements := h.elements
    rw [unreported_append]
    omega

/-- Nothing is missing in the account just if every failing rule has left the tree as it was. -/
theorem unreported_eq_zero_iff (h : ∀ a ∈ run, a.tree.Rooted) :
    unreported run = 0 ↔ ∀ a ∈ run, a.failure?.isSome = true → a.treeAfter = a.tree := by
  have hone : ∀ a ∈ run, (a.attached.length = 0 ↔ a.treeAfter = a.tree) := fun a ha =>
    (a.extended (h a ha)).length_attachedSince_eq_zero_iff (h a ha)
  rw [unreported, List.sum_eq_zero_iff]
  constructor
  · intro hall a ha hfailed
    exact (hone a ha).mp (hall _ (List.mem_map_of_mem (List.mem_filter.mpr ⟨ha, hfailed⟩)))
  · intro hall n hn
    obtain ⟨a, ha, rfl⟩ := List.mem_map.mp hn
    obtain ⟨ha, hfailed⟩ := List.mem_filter.mp ha
    exact (hone a ha).mpr (hall a ha hfailed)

end Books

/-- Every rule of a list is counted as applied or listed with its failure, in the order of the list.
The elements in the account, and those that failing rules have attached, make up what has become
connected; so the account is right just if every failing rule has left the tree as it was. -/
theorem Engine.applyRules_accounts (ht : t.Reachable)
    (h : e.applyRules t rules = (report, e', t')) :
    report.rules = rules.length ∧ rules.length = report.applied + report.failures.length ∧
      report.failures = (e.history t rules).filterMap Application.failure? ∧
      t'.connectedElements.length =
        t.connectedElements.length + report.created + unreported (e.history t rules) ∧
      (t'.connectedElements.length = t.connectedElements.length + report.created ↔
        ∀ a ∈ e.history t rules, a.failure?.isSome = true → a.treeAfter = a.tree) := by
  have hbooks : Books t (e.history t rules) (e.applyRules t rules).1 (e.applyRules t rules).2.2 :=
    Engine.history_induction (P := fun run report _ t' => Books t run report t')
      (.start ht.rooted) (fun _ _ _ hrun => hrun.step) rules
  rw [h] at hbooks
  have hlength : (e.history t rules).length = rules.length := by
    rw [← List.length_map, e.map_rule_history]
  refine ⟨hbooks.rules.trans hlength, hlength.symm.trans hbooks.applied, hbooks.failures,
    hbooks.elements, ?_⟩
  rw [← Books.unreported_eq_zero_iff hbooks.rooted, hbooks.elements, Nat.add_eq_left]

/-- The first rule attaches a `p` and fails, and the second one attaches a `div`. -/
def mixedRules : List Rule :=
  [⟨"body p .x", none⟩, ⟨"body div", none⟩]

/-- What comes of the two rules in a bare document. -/
def mixed : ApplyReport × Engine × Tree :=
  (Engine.new .default (.ofAnswers fun _ => .failed)).applyRules Document.skeleton.tree mixedRules

theorem applyRules_eq_mixed : (Engine.new .default (.ofAnswers fun _ => .failed)).applyRules
    Document.skeleton.tree mixedRules =
      (⟨2, 1, 1, [⟨"body p .x", .synthesis (.untagged ".x")⟩]⟩, mixed.2.1, mixed.2.2) := by
  have hreport : mixed.1 = ⟨2, 1, 1, [⟨"body p .x", .synthesis (.untagged ".x")⟩]⟩ := by cbv
  exact Prod.ext hreport rfl

theorem connectedElements_skeleton : Document.skeleton.tree.connectedElements.length = 3 := by cbv

/-- One element is in the account and one is not. -/
theorem connectedElements_mixed : mixed.2.2.connectedElements.length = 5 := by cbv

theorem Engine.applyRules_accounts_skeleton :
    let e := Engine.new .default (.ofAnswers fun _ => .failed)
    let t := Document.skeleton.tree
    t.Reachable ∧
      e.applyRules t mixedRules =
        (⟨2, 1, 1, [⟨"body p .x", .synthesis (.untagged ".x")⟩]⟩, mixed.2.1, mixed.2.2) ∧
      [⟨"body p .x", .synthesis (.untagged ".x")⟩] =
        (e.history t mixedRules).filterMap Application.failure? ∧
      unreported (e.history t mixedRules) = 1 ∧
      ¬ ∀ a ∈ e.history t mixedRules, a.failure?.isSome = true → a.treeAfter = a.tree := by
  obtain ⟨-, -, hfailures, helements, hiff⟩ :=
    Engine.applyRules_accounts reachable_skeleton applyRules_eq_mixed
  rw [connectedElements_skeleton, connectedElements_mixed] at helements hiff
  refine ⟨reachable_skeleton, applyRules_eq_mixed, hfailures, ?_, ?_⟩
  · simp only at helements
    omega
  · rw [← hiff]
    decide

/-- An account that leaves out what a failing rule has attached. -/
theorem Engine.not_applyRules_created :
    ¬ ∀ (t t' : Tree) (e e' : Engine) (rules : List Rule) (report : ApplyReport), t.Reachable →
      e.applyRules t rules = (report, e', t') →
        t'.connectedElements.length = t.connectedElements.length + report.created := by
  intro hall
  have hcount := hall _ _ _ _ _ _ reachable_skeleton applyRules_eq_mixed
  rw [connectedElements_skeleton, connectedElements_mixed] at hcount
  exact absurd hcount (by decide)

end Topiary.Synthesis
