import Topiary.Proofs.Synthesis.Histories
import Topiary.Proofs.Synthesis.Settlement

/-!
Marks along a history. A rule issues a mark only when its last step builds something whose content
is pending. The mark is the next number, its fetch is kept, and exactly the elements that this step
attaches carry it; no later rule gives it away again or takes it from them.
-/

namespace Topiary.Tree

variable {t t' t1 : Tree} {x : NodeId} {fresh : NodeId → List NodeId} {mark : Option Correlation}

/-- The second tree extends the first, and what is attached carries the mark, or none. -/
structure ExtendedBy (t t' : Tree) (mark : Option Correlation) : Prop where
  extended : t.Extended t'
  marked : ∀ x ∈ t.attachedSince t', t'.mark? x = mark

theorem Grown.mark? (h : t.Grown fresh t') (hx : x < t.size) : t'.mark? x = t.mark? x := by
  rw [Tree.mark?, Tree.mark?, element?_congr (h.data x hx)]

namespace ExtendedBy

theorem refl (ht : t.Rooted) (mark : Option Correlation) : t.ExtendedBy t mark := by
  refine ⟨.refl ht, fun x hx => ?_⟩
  obtain ⟨hnot, hconn, -⟩ := (mem_attachedSince ht ht).mp hx
  exact absurd hconn hnot

theorem trans (h : t.ExtendedBy t1 mark) (h' : t1.ExtendedBy t' mark) (ht : t.Rooted) :
    t.ExtendedBy t' mark := by
  have ht1 := h.extended.rooted
  refine ⟨h.extended.trans h'.extended, fun x hx => ?_⟩
  obtain ⟨hnot, hconn, helement⟩ := (mem_attachedSince ht h'.extended.rooted).mp hx
  by_cases hmiddle : t1.Connected x
  · obtain ⟨fresh, hgrown⟩ := h'.extended.grown
    have hlt := ht1.lt_size_of_connected hmiddle
    rw [isElement_eq (hgrown.data x hlt)] at helement
    rw [hgrown.mark? hlt]
    exact h.marked x ((mem_attachedSince ht ht1).mpr ⟨hnot, hmiddle, helement⟩)
  · exact h'.marked x
      ((mem_attachedSince ht1 h'.extended.rooted).mpr ⟨hmiddle, hconn, helement⟩)

/-- Besides the elements that carried a mark before, those carry it that were attached with it. -/
theorem mem_findByCorrelation (h : t.ExtendedBy t' mark) (ht : t.Rooted) (m : Correlation) :
    x ∈ t'.findByCorrelation m ↔
      x ∈ t.findByCorrelation m ∨ x ∈ t.attachedSince t' ∧ mark = some m := by
  have ht' := h.extended.rooted
  obtain ⟨fresh, hgrown⟩ := h.extended.grown
  rw [Tree.mem_findByCorrelation ht', Tree.mem_findByCorrelation ht]
  constructor
  · rintro ⟨hconn, hmark⟩
    by_cases hold : t.Connected x
    · rw [hgrown.mark? (ht.lt_size_of_connected hold)] at hmark
      exact Or.inl ⟨hold, hmark⟩
    · have hx := (mem_attachedSince ht ht').mpr ⟨hold, hconn, isElement_of_mark? hmark⟩
      exact Or.inr ⟨hx, (h.marked x hx).symm.trans hmark⟩
  · rintro (⟨hconn, hmark⟩ | ⟨hx, rfl⟩)
    · exact ⟨hgrown.connected ht hconn,
        (hgrown.mark? (ht.lt_size_of_connected hconn)).trans hmark⟩
    · exact ⟨((mem_attachedSince ht ht').mp hx).2.1, h.marked x hx⟩

end ExtendedBy

end Topiary.Tree

namespace Topiary.Synthesis

open Topiary.Tree Topiary.Selector
open Topiary.Sheet (Rule)

/-- The binder after a template was given a payload. -/
def Payload.keptBy (b : Binder) : Payload → Binder
  | .absent | .literal _ => b
  | .pending content => ⟨b.next + 1, b.pending ++ [(⟨b.next⟩, content)]⟩

namespace Walk

variable {limits : Limits} {payload : Payload} {s : Sequence} {items : List Item} {item : Item}
  {upTo : String} {g : Group} {w w' : Walk} {index : Nat} {failure : Option SynthesisError}
  {blueprint : Blueprint} {mark : Option Correlation} {fresh : NodeId → List NodeId}

/-! ## Steps -/

/-- All copies carry the mark of their template. -/
theorem Built.extendedBy (h : Built limits g w w' blueprint mark fresh) (hw : w.Sound)
    (hextended : w.tree.Extended w'.tree) : w.tree.ExtendedBy w'.tree mark := by
  refine ⟨hextended, fun x hx => ?_⟩
  obtain ⟨hnot, hconn, helement⟩ := (mem_attachedSince hw.rooted hextended.rooted).mp hx
  have hnew : w.tree.size ≤ x := by
    by_contra hlt
    exact hnot ((h.attached.grown.connected_iff hw.rooted (Nat.lt_of_not_le hlt)).mp hconn)
  obtain ⟨p, -, -, hfresh⟩ := h.attached.exists_fresh hw.rooted hconn helement hnew
  obtain ⟨i, hi⟩ := List.getElem?_of_mem hfresh
  rw [Tree.mark?, (h.attached.leaf p i x hi).element?]
  rfl

theorem binder_prepare (limits : Limits) (payload : Payload) (blueprint : Blueprint) :
    (w.prepare limits payload blueprint).binder = payload.keptBy w.binder ∧
      (w.prepare limits payload blueprint).report.correlation =
        (payload.mark? w.binder).or w.report.correlation := by
  cases payload <;> exact ⟨rfl, rfl⟩

/-- What a step does to the binder and to marks: either nothing, or it gives its payload to the
template whose copies it attaches. -/
theorem step_marks (hw : w.Sound) (h : w.step limits payload upTo item = .ok w') :
    (w'.tree = w.tree ∧ w'.binder = w.binder ∧ w'.report.correlation = w.report.correlation) ∨
    (w.tree.ExtendedBy w'.tree (payload.mark? w.binder) ∧
      w'.binder = payload.keptBy w.binder ∧
      w'.report.correlation = (payload.mark? w.binder).or w.report.correlation ∧
      w'.report.steps = w.report.steps ++
        [⟨upTo, .synthesized (w.tree.attachedSince w'.tree).length⟩]) := by
  obtain ⟨outcome, hbooked⟩ := exists_booked hw h
  have hextended := hbooked.effect.extended hw
  rcases step_ok hw h with ⟨cause, -, rfl⟩ | ⟨x, xs, -, rfl⟩ | ⟨-, -, rfl⟩ |
    ⟨hquery, g, rfl, -⟩
  · exact Or.inl ⟨rfl, rfl, rfl⟩
  · exact Or.inl ⟨rfl, rfl, rfl⟩
  · exact Or.inl ⟨rfl, rfl, rfl⟩
  · have hsynthesize : w.synthesize limits payload upTo g = .ok w' := by
      rwa [Walk.step, hquery] at h
    obtain ⟨blueprint, fresh, haccounted⟩ := synthesize_ok hw hsynthesize
    obtain ⟨hsteps, hcreated, -⟩ := report_synthesize hsynthesize
    have hlength : (w.tree.attachedSince w'.tree).length = w'.context.length := by
      have hperm := (haccounted.perm_connectedElements hw).length_eq
      rw [hextended.length_attachedSince hw.rooted, List.length_append] at hperm
      omega
    obtain ⟨-, blueprint', -, rfl⟩ := exists_blueprint hsynthesize
    obtain ⟨hbinder, hcorrelation⟩ := binder_prepare (w := w) limits payload blueprint'
    rw [← hlength] at hsteps
    exact Or.inr ⟨haccounted.toBuilt.extendedBy hw hextended, hbinder, hcorrelation, hsteps⟩

/-! ## Walks -/

/-- Without content no mark is issued, and what is attached carries none. -/
theorem run_unmarked (hw : w.Sound) (h : run limits .absent s index w items = (w', failure)) :
    w'.Sound ∧ w'.binder = w.binder ∧ w'.report.correlation = w.report.correlation ∧
      w.tree.ExtendedBy w'.tree none := by
  induction items generalizing w index with
  | nil =>
    obtain ⟨rfl, -⟩ := Prod.mk.inj h
    exact ⟨hw, rfl, rfl, .refl hw.rooted none⟩
  | cons item items ih =>
    rw [run, ite_self] at h
    split at h
    · obtain ⟨rfl, -⟩ := Prod.mk.inj h
      exact ⟨hw, rfl, rfl, .refl hw.rooted none⟩
    · rename_i w1 hstep
      have hsound := (hw.step hstep).1
      obtain ⟨hsound', hbinder, hcorrelation, hextended⟩ := ih hsound h
      rcases step_marks hw hstep with ⟨htree, hbinder', hcorrelation'⟩ |
        ⟨hextended', hbinder', hcorrelation', -⟩
      · rw [htree] at hextended
        exact ⟨hsound', hbinder.trans hbinder', hcorrelation.trans hcorrelation', hextended⟩
      · exact ⟨hsound', hbinder.trans hbinder', hcorrelation.trans hcorrelation',
          hextended'.trans hextended hw.rooted⟩

/-- A walk goes over all items but the last without the content; then it has failed, or it fails at
the last item, or it takes the last item with the content. -/
theorem run_concat {w1 : Walk} (hrun : run limits .absent s index w items = (w1, failure))
    (payload : Payload) (last : Item) :
    (∃ error, run limits payload s index w (items ++ [last]) = (w1, some error)) ∨
      ∃ w2, w1.step limits payload (s.upTo (index + items.length)) last = .ok w2 ∧
        run limits payload s index w (items ++ [last]) = (w2, none) := by
  rw [run_append (List.cons_ne_nil last []), hrun]
  cases failure with
  | some error => exact Or.inl ⟨error, rfl⟩
  | none =>
    cases hstep : w1.step limits payload (s.upTo (index + items.length)) last with
    | error error =>
      refine Or.inl ⟨error, ?_⟩
      simp only [run, List.isEmpty_nil, if_true, hstep]
    | ok w2 =>
      refine Or.inr ⟨w2, rfl, ?_⟩
      simp only [run, List.isEmpty_nil, if_true, hstep]

/-- A walk that comes through takes its last item with the content, and all others without. -/
theorem run_concat_ok {last : Item}
    (h : run limits payload s index w (items ++ [last]) = (w', none)) :
    ∃ w1, run limits .absent s index w items = (w1, none) ∧
      w1.step limits payload (s.upTo (index + items.length)) last = .ok w' := by
  rw [run_append (List.cons_ne_nil last [])] at h
  cases hrun : run limits .absent s index w items with
  | mk w1 failure =>
    rw [hrun] at h
    cases failure with
    | some error => simp at h
    | none =>
      obtain ⟨w2, hstep, hend⟩ := run_cons h
      obtain rfl : w2 = w' := congrArg Prod.fst hend
      exact ⟨w1, rfl, hstep⟩

end Walk

namespace Application

variable {a : Application} {s : Sequence} {items : List Item} {last : Item} {w : Walk}
  {failure : Option SynthesisError} {x : NodeId}

/-! ## Rules -/

/-- The mark that the report of a rule names. -/
def mark? (a : Application) : Option Correlation :=
  match a.outcome with
  | .ok report => report.correlation
  | .error _ => none

/-- The tree before the last item of the selector is taken. -/
def beforeLast (a : Application) : Tree :=
  match Sequence.parse a.rule.selector with
  | .error _ => a.tree
  | .ok s => (Walk.run a.engine.settings.limits .absent s 0 a.start s.items.dropLast).1.tree

/-- The elements that the last step of a rule attaches. -/
def lastMade (a : Application) : List NodeId :=
  a.beforeLast.attachedSince a.treeAfter

theorem beforeLast_eq (hs : Sequence.parse a.rule.selector = .ok s)
    (hitems : s.items = items ++ [last])
    (hrun : Walk.run a.engine.settings.limits .absent s 0 a.start items = (w, failure)) :
    a.beforeLast = w.tree := by
  rw [beforeLast, hs]
  simp only [hitems, List.dropLast_concat, hrun]

/-- A rule that issues a mark issues the next one, for content that is pending, and its last step
has built something. -/
structure Issues (a : Application) : Prop where
  mark : a.mark? = some ⟨a.engine.binder.next⟩
  binder : a.engineAfter.binder = a.payload.keptBy a.engine.binder
  pending : ∃ content, a.payload = .pending content
  built : ∃ report, a.outcome = .ok report ∧
    report.steps.getLast?.map Step.outcome = some (.synthesized a.lastMade.length)

/-- A rule marks nothing before its last step. If it names a mark then this was issued and put on
all that the last step has attached; else the binder stays, and nothing that is
attached is marked. -/
structure Marking (a : Application) : Prop where
  before : a.tree.ExtendedBy a.beforeLast none
  last : a.beforeLast.ExtendedBy a.treeAfter a.mark?
  issue : (a.mark? = none ∧ a.engineAfter.binder = a.engine.binder) ∨ a.Issues

/-- The last step attaches nothing. -/
theorem Marking.of_eq (hbefore : a.tree.ExtendedBy a.beforeLast none)
    (htree : a.treeAfter = a.beforeLast) (hmark : a.mark? = none)
    (hbinder : a.engineAfter.binder = a.engine.binder) : a.Marking := by
  refine ⟨hbefore, ?_, Or.inl ⟨hmark, hbinder⟩⟩
  rw [htree]
  exact .refl hbefore.extended.rooted _

/-- The last step succeeds. -/
theorem Marking.of_step {w1 : Walk} (hsound : w1.Sound) (hbinder : w1.binder = a.engine.binder)
    (hcorrelation : w1.report.correlation = none) (hbefore : a.beforeLast = w1.tree)
    (hextended : a.tree.ExtendedBy w1.tree none) {upTo : String}
    (hstep : w1.step a.engine.settings.limits a.payload upTo last = .ok w)
    (htree : a.treeAfter = w.tree) (hbinder' : a.engineAfter.binder = w.binder)
    (houtcome : a.outcome = .ok w.report) : a.Marking := by
  have hmark : a.mark? = w.report.correlation := by rw [mark?, houtcome]
  rw [← hbefore] at hextended
  rcases Walk.step_marks hsound hstep with ⟨hsame, hkept, hnone⟩ |
    ⟨hlast, hkept, hmarked, hsteps⟩
  · refine .of_eq hextended ?_ ?_ ?_
    · rw [htree, hsame, hbefore]
    · rw [hmark, hnone, hcorrelation]
    · rw [hbinder', hkept, hbinder]
  · rw [hcorrelation, Option.or_none] at hmarked
    rw [hbinder] at hmarked hkept hlast
    refine ⟨hextended, by rw [hbefore, htree, hmark, hmarked]; exact hlast, ?_⟩
    cases hpayload : a.payload with
    | absent =>
      rw [hpayload] at hmarked hkept
      exact Or.inl ⟨hmark.trans hmarked, hbinder'.trans hkept⟩
    | literal text =>
      rw [hpayload] at hmarked hkept
      exact Or.inl ⟨hmark.trans hmarked, hbinder'.trans hkept⟩
    | pending content =>
      refine Or.inr ⟨?_, hbinder'.trans hkept, ⟨content, hpayload⟩, w.report, houtcome, ?_⟩
      · rw [hmark, hmarked, hpayload]
        rfl
      · rw [hsteps, List.getLast?_concat, lastMade, hbefore, htree]
        rfl

theorem marking (ht : a.tree.Rooted) : a.Marking := by
  cases hs : Sequence.parse a.rule.selector with
  | error cause =>
    obtain ⟨htree, hengine, houtcome⟩ := eq_of_parse_error hs
    have hbefore : a.beforeLast = a.tree := by rw [beforeLast, hs]
    refine .of_eq ?_ (htree.trans hbefore.symm) ?_ (congrArg Engine.binder hengine)
    · rw [hbefore]
      exact .refl ht none
    · rw [mark?, houtcome]
  | ok s =>
    rcases List.eq_nil_or_concat' s.items with hitems | ⟨items, last, hitems⟩
    · -- without items there is nothing to make true
      have hrun : Walk.run a.engine.settings.limits a.payload s 0 a.start s.items =
          (a.start, none) := by rw [hitems]; rfl
      obtain ⟨htree, hbinder, houtcome⟩ := applyRule_eq_run hs hrun
      have hbefore : a.beforeLast = a.tree := by
        rw [beforeLast, hs]
        simp only [hitems]
        rfl
      refine .of_eq ?_ (htree.trans hbefore.symm) ?_ hbinder
      · rw [hbefore]
        exact .refl ht none
      · rw [mark?, houtcome]
        rfl
    · obtain ⟨w1, failure, hinit⟩ : ∃ w1 failure,
          Walk.run a.engine.settings.limits .absent s 0 a.start items = (w1, failure) := ⟨_, _, rfl⟩
      have hbefore := beforeLast_eq hs hitems hinit
      obtain ⟨hsound, hbinder, hcorrelation, hextended⟩ :=
        Walk.run_unmarked (Walk.sound_start ht) hinit
      have hcases := Walk.run_concat hinit a.payload last
      rw [← hitems] at hcases
      rcases hcases with ⟨error, hrun⟩ | ⟨w, hstep, hrun⟩
      · -- an error leaves the walk where it stood before the last item, or earlier
        obtain ⟨htree, hbinder', houtcome⟩ := applyRule_eq_run hs hrun
        refine .of_eq (hbefore ▸ hextended) (htree.trans hbefore.symm) ?_ (hbinder'.trans hbinder)
        rw [mark?, houtcome]
      · obtain ⟨htree, hbinder', houtcome⟩ := applyRule_eq_run hs hrun
        exact .of_step hsound hbinder hcorrelation hbefore hextended hstep htree hbinder' houtcome

/-- Afterwards a mark is carried by those that carried it before, and by those that the last step
has attached if it is the mark of this rule. -/
theorem Marking.mem_findByCorrelation (h : a.Marking) (ht : a.tree.Rooted) (mark : Correlation) :
    x ∈ a.treeAfter.findByCorrelation mark ↔
      x ∈ a.tree.findByCorrelation mark ∨ x ∈ a.lastMade ∧ a.mark? = some mark := by
  rw [h.last.mem_findByCorrelation h.before.extended.rooted, h.before.mem_findByCorrelation ht]
  simp [lastMade]

end Application

/-! ## Histories -/

/-- The marks that the reports name, in their order. -/
def issued (run : List Application) : List Correlation :=
  run.filterMap Application.mark?

theorem mem_issued {run : List Application} {mark : Correlation} :
    mark ∈ issued run ↔ ∃ a ∈ run, a.mark? = some mark :=
  List.mem_filterMap

/-- What a history has written into the binder and onto the tree. -/
structure Ledger (run : List Application) (b : Binder) (t : Tree) : Prop where
  rooted : t.Rooted
  ordered : issued run = (List.range (issued run).length).map fun i => ⟨i + 1⟩
  next : b.next = (issued run).length + 1
  pending : b.pending.map Prod.fst = issued run
  issues : ∀ a ∈ run, ∀ mark, a.mark? = some mark → a.Issues
  kept : ∀ a ∈ run, ∀ mark, a.mark? = some mark →
    ∃ content, a.payload = .pending content ∧ (mark, content) ∈ b.pending
  known : ∀ mark x, x ∈ t.findByCorrelation mark → mark ∈ issued run
  found : ∀ a ∈ run, ∀ mark, a.mark? = some mark →
    ∀ x, x ∈ t.findByCorrelation mark ↔ x ∈ a.lastMade

namespace Ledger

variable {run : List Application} {a : Application} {b : Binder} {t : Tree}

/-- The next mark was not issued yet. -/
theorem next_fresh (h : Ledger run b t) : ⟨b.next⟩ ∉ issued run := by
  rw [h.ordered, h.next]
  simp

theorem start (ht : t.Rooted) (hunmarked : ∀ x, t.isConnected x = true → t.mark? x = none) :
    Ledger [] .empty t := by
  refine ⟨ht, rfl, rfl, rfl, by simp, by simp, fun mark x hx => ?_, by simp⟩
  obtain ⟨hconn, hmark⟩ := (mem_findByCorrelation ht).mp hx
  rw [hunmarked x (ht.isConnected_iff.mpr hconn)] at hmark
  simp at hmark

/-- A rule that issues no mark. -/
theorem step_unmarked (h : Ledger run a.engine.binder a.tree) (hmarking : a.Marking)
    (hmark : a.mark? = none) (hbinder : a.engineAfter.binder = a.engine.binder) :
    Ledger (run ++ [a]) a.engineAfter.binder a.treeAfter := by
  have hsame : issued (run ++ [a]) = issued run := by
    simp [issued, hmark]
  have hfind : ∀ mark x, x ∈ a.treeAfter.findByCorrelation mark ↔
      x ∈ a.tree.findByCorrelation mark := by
    intro mark x
    rw [hmarking.mem_findByCorrelation h.rooted, hmark]
    simp
  have hold : ∀ a' ∈ run ++ [a], ∀ mark, a'.mark? = some mark → a' ∈ run := by
    intro a' ha' mark hmark'
    rcases List.mem_append.mp ha' with ha' | ha'
    · exact ha'
    · rw [List.mem_singleton.mp ha', hmark] at hmark'
      simp at hmark'
  rw [hbinder]
  constructor
  case rooted => exact hmarking.last.extended.rooted
  case ordered =>
    rw [hsame]
    exact h.ordered
  case next =>
    rw [hsame]
    exact h.next
  case pending =>
    rw [hsame]
    exact h.pending
  case issues =>
    intro a' ha' mark hmark'
    exact h.issues a' (hold a' ha' mark hmark') mark hmark'
  case kept =>
    intro a' ha' mark hmark'
    exact h.kept a' (hold a' ha' mark hmark') mark hmark'
  case known =>
    intro mark x hx
    rw [hsame]
    exact h.known mark x ((hfind mark x).mp hx)
  case found =>
    intro a' ha' mark hmark' x
    rw [hfind]
    exact h.found a' (hold a' ha' mark hmark') mark hmark' x

/-- A rule that issues a mark. -/
theorem step_marked (h : Ledger run a.engine.binder a.tree) (hmarking : a.Marking)
    (hissues : a.Issues) : Ledger (run ++ [a]) a.engineAfter.binder a.treeAfter := by
  obtain ⟨content, hcontent⟩ := hissues.pending
  have hmark := hissues.mark
  have hbinder := hissues.binder
  rw [hcontent] at hbinder
  have hmore : issued (run ++ [a]) = issued run ++ [⟨a.engine.binder.next⟩] := by
    simp [issued, hmark]
  have hlength : (issued (run ++ [a])).length = (issued run).length + 1 := by
    rw [hmore, List.length_append, List.length_singleton]
  rw [hbinder]
  constructor
  case rooted => exact hmarking.last.extended.rooted
  case ordered =>
    rw [hlength, List.range_succ, List.map_append, ← h.ordered, hmore, h.next]
    rfl
  case next => rw [hlength, Payload.keptBy, h.next]
  case pending =>
    rw [hmore, Payload.keptBy, List.map_append, h.pending]
    rfl
  case issues =>
    intro a' ha' mark hmark'
    rcases List.mem_append.mp ha' with ha' | ha'
    · exact h.issues a' ha' mark hmark'
    · rw [List.mem_singleton.mp ha']
      exact hissues
  case kept =>
    intro a' ha' mark hmark'
    rcases List.mem_append.mp ha' with ha' | ha'
    · obtain ⟨content', hcontent', hmem⟩ := h.kept a' ha' mark hmark'
      exact ⟨content', hcontent', List.mem_append_left _ hmem⟩
    · obtain rfl := List.mem_singleton.mp ha'
      obtain rfl := Option.some.inj (hmark.symm.trans hmark')
      exact ⟨content, hcontent, by simp [Payload.keptBy]⟩
  case known =>
    intro mark x hx
    rw [hmore]
    rcases (hmarking.mem_findByCorrelation h.rooted mark).mp hx with hx | ⟨-, hown⟩
    · exact List.mem_append_left _ (h.known mark x hx)
    · obtain rfl := Option.some.inj (hmark.symm.trans hown)
      exact List.mem_append_right _ (List.mem_singleton_self _)
  case found =>
    intro a' ha' mark hmark' x
    rw [hmarking.mem_findByCorrelation h.rooted mark]
    rcases List.mem_append.mp ha' with ha' | ha'
    · -- the new mark is not that of an earlier rule
      have hnot : ¬ a.mark? = some mark := by
        intro hown
        obtain rfl := Option.some.inj (hmark.symm.trans hown)
        exact h.next_fresh (mem_issued.mpr ⟨a', ha', hmark'⟩)
      rw [h.found a' ha' mark hmark' x]
      simp [hnot]
    · -- and nothing carries it before this rule
      obtain rfl := List.mem_singleton.mp ha'
      obtain rfl := Option.some.inj (hmark.symm.trans hmark')
      have hnot : x ∉ a'.tree.findByCorrelation ⟨a'.engine.binder.next⟩ := by
        intro hx
        exact h.next_fresh (h.known _ x hx)
      simp [hnot, hmark]

theorem step (h : Ledger run a.engine.binder a.tree) :
    Ledger (run ++ [a]) a.engineAfter.binder a.treeAfter := by
  have hmarking := a.marking h.rooted
  rcases hmarking.issue with ⟨hmark, hbinder⟩ | hissues
  · exact h.step_unmarked hmarking hmark hbinder
  · exact h.step_marked hmarking hissues

end Ledger

variable {t t' : Tree} {e' : Engine} {rules : List Rule} {report : ApplyReport}
  {settings : Settings} {fetcher : Fetcher}

/-- In a document without marks a fresh engine issues the marks 1, 2, 3 and so on, one for each
report that names a mark. The binder keeps one fetch for each of them, and in the end exactly those
elements carry it that the last step of its rule has attached. -/
theorem Engine.applyRules_marks (ht : t.Reachable)
    (hunmarked : ∀ x, t.isConnected x = true → t.mark? x = none)
    (h : (Engine.new settings fetcher).applyRules t rules = (report, e', t')) :
    let run := (Engine.new settings fetcher).history t rules
    issued run = (List.range (issued run).length).map (fun i => ⟨i + 1⟩) ∧
      e'.binder.next = (issued run).length + 1 ∧
      e'.binder.pending.map Prod.fst = issued run ∧
      ∀ a ∈ run, ∀ made mark, a.outcome = .ok made → made.correlation = some mark →
        (∃ content, a.payload = .pending content ∧ (mark, content) ∈ e'.binder.pending) ∧
        made.steps.getLast?.map Step.outcome = some (.synthesized a.lastMade.length) ∧
        ∀ x, x ∈ t'.findByCorrelation mark ↔ x ∈ a.lastMade := by
  intro run
  have hledger : Ledger run ((Engine.new settings fetcher).applyRules t rules).2.1.binder
      ((Engine.new settings fetcher).applyRules t rules).2.2 :=
    Engine.history_induction (P := fun run _ e t => Ledger run e.binder t)
      (.start ht.rooted hunmarked) (fun _ _ _ hrun => hrun.step) rules
  rw [h] at hledger
  refine ⟨hledger.ordered, hledger.next, hledger.pending, fun a ha made mark hmade hnamed => ?_⟩
  have hmark : a.mark? = some mark := by
    rw [Application.mark?, hmade]
    exact hnamed
  obtain ⟨made', hmade', hlast⟩ := (hledger.issues a ha mark hmark).built
  obtain rfl := Except.ok.inj (hmade.symm.trans hmade')
  exact ⟨hledger.kept a ha mark hmark, hlast, hledger.found a ha mark hmark⟩

/-- The second rule leaves a `p` behind when it fails, and the third one builds inside it. -/
def waitingRules : List Rule :=
  [⟨"body div", some "url(a)"⟩, ⟨"body p .x", some "url(b)"⟩, ⟨"body p em", some "url(c)"⟩]

/-- What comes of the three rules in a bare document. -/
def waiting : ApplyReport × Engine × Tree :=
  (Engine.new .default (.ofAnswers fun _ => .failed)).applyRules Document.skeleton.tree waitingRules

theorem applyRules_eq_waiting : (Engine.new .default (.ofAnswers fun _ => .failed)).applyRules
    Document.skeleton.tree waitingRules = (waiting.1, waiting.2.1, waiting.2.2) := rfl

theorem next_waiting : waiting.2.1.binder.next = 3 := by cbv

theorem findByCorrelation_waiting : waiting.2.2.findByCorrelation ⟨2⟩ = [9] := by cbv

theorem mark?_skeleton {x : NodeId} (hx : Document.skeleton.tree.isConnected x = true) :
    Document.skeleton.tree.mark? x = none := by
  have hroot := reachable_skeleton.rooted
  have hlt : x < 4 := hroot.lt_size_of_connected (hroot.isConnected_iff.mp hx)
  have hnone : ∀ y < 4, Document.skeleton.tree.mark? y = none := by decide
  exact hnone x hlt

theorem Engine.applyRules_marks_skeleton :
    let e := Engine.new .default (.ofAnswers fun _ => .failed)
    let t := Document.skeleton.tree
    t.Reachable ∧ (∀ x, t.isConnected x = true → t.mark? x = none) ∧
      e.applyRules t waitingRules = (waiting.1, waiting.2.1, waiting.2.2) ∧
      issued (e.history t waitingRules) = [⟨1⟩, ⟨2⟩] ∧
      waiting.2.1.binder.pending.map Prod.fst = [⟨1⟩, ⟨2⟩] ∧
      ∃ a ∈ e.history t waitingRules, a.mark? = some ⟨2⟩ ∧
        ∀ x, x ∈ a.lastMade ↔ x = 9 := by
  intro e t
  obtain ⟨hissued, hnext, hpending, hmade⟩ := Engine.applyRules_marks reachable_skeleton
    (fun _ => mark?_skeleton) applyRules_eq_waiting
  have hlength : (issued (e.history t waitingRules)).length = 2 :=
    Nat.succ.inj (hnext.symm.trans next_waiting)
  have hmarks : issued (e.history t waitingRules) = [⟨1⟩, ⟨2⟩] := by
    rw [hissued, hlength]
    rfl
  obtain ⟨a, ha, hmark⟩ := mem_issued.mp (by rw [hmarks]; simp : ⟨2⟩ ∈ issued _)
  refine ⟨reachable_skeleton, fun _ => mark?_skeleton, applyRules_eq_waiting, hmarks,
    hpending.trans hmarks, a, ha,
    hmark, fun x => ?_⟩
  cases houtcome : a.outcome with
  | error error =>
    rw [Application.mark?, houtcome] at hmark
    simp at hmark
  | ok made =>
    rw [Application.mark?, houtcome] at hmark
    obtain ⟨-, -, hiff⟩ := hmade a ha made ⟨2⟩ houtcome hmark
    rw [← hiff x, findByCorrelation_waiting, List.mem_singleton]

end Topiary.Synthesis
