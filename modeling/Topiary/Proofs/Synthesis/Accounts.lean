import Topiary.Proofs.Synthesis.Sprouts
import Topiary.Proofs.Synthesis.Steps

/-!
The accounts of a walk. A walk that succeeds appends and does nothing else, and its report tells how
much: every step that builds adds one template, which stays detached, and its copies, which become
the last children of the nodes of the context. Only the last step binds content.
-/

namespace Topiary.Tree

variable {t t' : Tree} {x : NodeId} {fresh : NodeId → List NodeId}

/-- The elements that hang off the document node. -/
def connectedElements (t : Tree) : List NodeId :=
  (List.range t.size).filter fun x => t.isConnected x && t.isElement x

theorem nodup_connectedElements : t.connectedElements.Nodup :=
  List.nodup_range.filter _

theorem Rooted.mem_connectedElements (h : t.Rooted) :
    x ∈ t.connectedElements ↔ t.Connected x ∧ t.isElement x = true := by
  rw [connectedElements, List.mem_filter, List.mem_range, Bool.and_eq_true, h.isConnected_iff]
  exact ⟨fun hx => hx.2, fun hx => ⟨lt_size_of_isElement hx.2, hx⟩⟩

theorem Linked.prevSiblings_eq_nil (h : t.Linked) (hx : t.parent? x = none) :
    t.prevSiblings x = [] := by
  rw [prevSiblings, (h.single x hx).1]
  cases t.size <;> rfl

/-- Whatever is connected stays as it is, up to new children at the end. -/
theorem Grown.kept (h : t.Grown fresh t') (ht : t.Rooted) (hx : t.isConnected x = true) :
    t'.isConnected x = true ∧ t'.data? x = t.data? x ∧ t'.parent? x = t.parent? x ∧
      t'.prevSiblings x = t.prevSiblings x := by
  rw [ht.isConnected_iff] at hx
  have hlt := ht.lt_size_of_connected hx
  refine ⟨h.rooted.isConnected_iff.mpr (h.connected ht hx), h.data x hlt, h.parent x hlt, ?_⟩
  cases hparent : t.parent? x with
  | none =>
    rw [ht.linked.prevSiblings_eq_nil hparent,
      h.rooted.linked.prevSiblings_eq_nil ((h.parent x hlt).trans hparent)]
  | some p => exact h.prevSiblings ht hparent

end Topiary.Tree

namespace Topiary.Synthesis

open Topiary.Tree Topiary.Selector

variable {limits : Limits} {payload : Payload} {s : Sequence} {items : List Item} {item : Item}
  {upTo : String} {g : Group} {t t' : Tree} {b b' : Binder} {w w' : Walk} {index texts : Nat}
  {outcome : Outcome} {report : Report} {blueprint : Blueprint} {mark : Option Correlation}
  {fresh : NodeId → List NodeId}

/-! ## Numbers in a report -/

/-- The copies that a step has attached. -/
def Outcome.copies : Outcome → Nat
  | .synthesized count => count
  | _ => 0

/-- The elements that a step has made: its template and the copies. -/
def Outcome.elements : Outcome → Nat
  | .synthesized count => 1 + count
  | _ => 0

def Outcome.isSynthesized : Outcome → Bool
  | .synthesized _ => true
  | _ => false

theorem Outcome.elements_eq (outcome : Outcome) :
    outcome.elements = (if outcome.isSynthesized then 1 else 0) + outcome.copies := by
  cases outcome <;> rfl

theorem Outcome.copies_eq_zero (h : outcome.isSynthesized = false) : outcome.copies = 0 := by
  cases outcome with
  | synthesized count => simp [isSynthesized] at h
  | _ => rfl

theorem Outcome.elements_eq_zero (h : outcome.isSynthesized = false) : outcome.elements = 0 := by
  rw [elements_eq, h, copies_eq_zero h]
  rfl

/-- The copies that all steps together have attached. -/
def allCopies (steps : List Step) : Nat :=
  steps.foldl (fun count st => count + st.outcome.copies) 0

/-- The elements that the last step has made. -/
def lastElements (steps : List Step) : Nat :=
  match steps.getLast? with
  | some st => st.outcome.elements
  | none => 0

theorem allCopies_concat (steps : List Step) :
    allCopies (steps ++ [⟨upTo, outcome⟩]) = allCopies steps + outcome.copies := by
  rw [allCopies, List.foldl_append]
  rfl

theorem lastElements_concat (steps : List Step) :
    lastElements (steps ++ [⟨upTo, outcome⟩]) = outcome.elements := by
  rw [lastElements, List.getLast?_concat]

namespace Walk

/-! ## Steps -/

/-- What a step does to the tree: nothing, or it builds a group below the nodes of the context. -/
inductive Effect (limits : Limits) (payload : Payload) (item : Item) (w w' : Walk) :
    Outcome → Prop where
  | kept {outcome : Outcome} : outcome.isSynthesized = false → w'.tree = w.tree →
      Effect limits payload item w w' outcome
  | built {g : Group} {blueprint : Blueprint} {mark : Option Correlation}
      {fresh : NodeId → List NodeId} : item = .compound g → w.context.Nodup → w'.context.Nodup →
      Accounted limits payload g w w' blueprint mark fresh →
      Effect limits payload item w w'
        (.synthesized (w.context.length * (multiplier limits blueprint.multiplier).1))

/-- A step that succeeds, with its effect and its entry in the report. -/
structure Booked (limits : Limits) (payload : Payload) (upTo : String) (item : Item)
    (w w' : Walk) (outcome : Outcome) : Prop where
  step : w.step limits payload upTo item = .ok w'
  effect : Effect limits payload item w w' outcome
  steps : w'.report.steps = w.report.steps ++ [⟨upTo, outcome⟩]
  created : w'.report.created = w.report.created + outcome.copies
  bound : w'.report.contentBound =
    (w.report.contentBound || (outcome.isSynthesized && !payload.isAbsent))

theorem report_prepare (limits : Limits) (payload : Payload) (blueprint : Blueprint) :
    (w.prepare limits payload blueprint).report.steps = w.report.steps ∧
      (w.prepare limits payload blueprint).report.created = w.report.created ∧
      (w.prepare limits payload blueprint).report.contentBound =
        (w.report.contentBound || !payload.isAbsent) := by
  cases payload with
  | absent => exact ⟨rfl, rfl, (Bool.or_false _).symm⟩
  | literal text => exact ⟨rfl, rfl, (Bool.or_true _).symm⟩
  | pending content => exact ⟨rfl, rfl, (Bool.or_true _).symm⟩

theorem report_synthesize (h : w.synthesize limits payload upTo g = .ok w') :
    w'.report.steps = w.report.steps ++ [⟨upTo, .synthesized w'.context.length⟩] ∧
      w'.report.created = w.report.created + w'.context.length ∧
      w'.report.contentBound = (w.report.contentBound || !payload.isAbsent) := by
  obtain ⟨-, blueprint, -, rfl⟩ := exists_blueprint h
  obtain ⟨hsteps, hcreated, hbound⟩ := report_prepare (w := w) limits payload blueprint
  refine ⟨?_, ?_, hbound⟩
  · rw [← hsteps]
    rfl
  · rw [← hcreated]
    rfl

theorem Built.length_context (h : Built limits g w w' blueprint mark fresh) :
    w'.context.length = w.context.length * (multiplier limits blueprint.multiplier).1 := by
  rw [h.context, length_flatMap_of_length h.attached.length]

theorem booked_of_kept (hstep : w.step limits payload upTo item = .ok w')
    {context : List NodeId} (hnot : outcome.isSynthesized = false)
    (h : w' = w.goOn context [⟨upTo, outcome⟩]) :
    Booked limits payload upTo item w w' outcome := by
  subst h
  exact ⟨hstep, .kept hnot rfl, rfl, by rw [Outcome.copies_eq_zero hnot]; rfl,
    by simp [hnot, goOn]⟩

theorem exists_booked (hw : w.Sound) (h : w.step limits payload upTo item = .ok w') :
    ∃ outcome, Booked limits payload upTo item w w' outcome := by
  rcases step_ok hw h with ⟨cause, -, hgo⟩ | ⟨x, xs, -, hgo⟩ | ⟨-, -, hgo⟩ |
    ⟨hquery, g, rfl, blueprint, mark, fresh, haccounted⟩
  · exact ⟨_, booked_of_kept h rfl hgo⟩
  · exact ⟨_, booked_of_kept h rfl hgo⟩
  · exact ⟨_, booked_of_kept h rfl hgo⟩
  · have hsynthesize : w.synthesize limits payload upTo g = .ok w' := by
      rwa [Walk.step, hquery] at h
    obtain ⟨hsteps, hcreated, hbound⟩ := report_synthesize hsynthesize
    have hlength := haccounted.length_context
    rw [hlength] at hsteps hcreated
    exact ⟨_, h, .built rfl hw.nodup (haccounted.sound hw).nodup haccounted, hsteps, hcreated,
      hbound⟩

/-! ## What a step adds -/

/-- The connected elements after a step that builds are those before it and the copies. -/
theorem Built.perm_connectedElements (h : Built limits g w w' blueprint mark fresh)
    (hw : w.Sound) :
    w'.tree.connectedElements.Perm (w.tree.connectedElements ++ w'.context) := by
  have hgrown := h.attached.grown
  have hsound := h.sound hw
  have hnew : ∀ x ∈ w'.context, w.tree.size ≤ x := by
    intro x hx
    rw [h.context, List.mem_flatMap] at hx
    obtain ⟨p, -, hx⟩ := hx
    exact hgrown.new p x hx
  have hnodup : (w.tree.connectedElements ++ w'.context).Nodup := by
    rw [List.nodup_append]
    refine ⟨nodup_connectedElements, hsound.nodup, ?_⟩
    rintro x hx y hy rfl
    have hold := lt_size_of_isElement (hw.rooted.mem_connectedElements.mp hx).2
    exact Nat.not_lt_of_le (hnew x hy) hold
  rw [List.perm_ext_iff_of_nodup nodup_connectedElements hnodup]
  intro x
  rw [List.mem_append, hsound.rooted.mem_connectedElements, hw.rooted.mem_connectedElements]
  constructor
  · rintro ⟨hconn, helement⟩
    by_cases hold : x < w.tree.size
    · exact Or.inl ⟨(hgrown.connected_iff hw.rooted hold).mp hconn,
        (isElement_eq (hgrown.data x hold)).symm.trans helement⟩
    · obtain ⟨p, hp, -, hx⟩ :=
        h.attached.exists_fresh hw.rooted hconn helement (Nat.le_of_not_lt hold)
      rw [h.context]
      exact Or.inr (List.mem_flatMap.mpr ⟨p, hp, hx⟩)
  · rintro (⟨hconn, helement⟩ | hx)
    · exact ⟨hgrown.connected hw.rooted hconn, hgrown.isElement helement⟩
    · exact hsound.context x hx

theorem Effect.grown (h : Effect limits payload item w w' outcome) (hw : w.Sound) :
    ∃ fresh, w.tree.Grown fresh w'.tree := by
  cases h with
  | kept _ htree =>
    rw [htree]
    exact ⟨_, (Intact.refl w.tree).grown hw.rooted⟩
  | built _ _ _ haccounted => exact ⟨_, haccounted.attached.grown⟩

theorem Effect.connectedElements (h : Effect limits payload item w w' outcome) (hw : w.Sound) :
    w'.tree.connectedElements.length = w.tree.connectedElements.length + outcome.copies := by
  cases h with
  | kept hnot htree => rw [htree, Outcome.copies_eq_zero hnot, Nat.add_zero]
  | built _ _ _ haccounted =>
    rw [(haccounted.perm_connectedElements hw).length_eq, List.length_append,
      haccounted.length_context]
    rfl

theorem Effect.size (h : Effect limits payload item w w' outcome) :
    w'.tree.size = w.tree.size + outcome.elements * (1 + payload.held.length) := by
  cases h with
  | kept hnot htree => rw [htree, Outcome.elements_eq_zero hnot, Nat.zero_mul, Nat.add_zero]
  | built _ _ _ haccounted =>
    rw [haccounted.size, haccounted.length_context]
    rfl

/-! ## Tallies -/

/-- What is added up between the tree at the start and a walk on its way. -/
structure Tally (t : Tree) (texts : Nat) (bound : Bool) (w : Walk) : Prop where
  sound : w.Sound
  grown : ∃ fresh, t.Grown fresh w.tree
  elements : w.tree.connectedElements.length = t.connectedElements.length + w.report.created
  created : w.report.created = allCopies w.report.steps
  size : w.tree.size = t.size + w.report.steps.countP (fun st => st.outcome.isSynthesized) +
    w.report.created + texts
  bound : w.report.contentBound = bound

theorem Tally.start (ht : t.Rooted) : Tally t 0 false ⟨t, b, [], .empty⟩ where
  sound := sound_start ht
  grown := ⟨_, (Intact.refl t).grown ht⟩
  elements := rfl
  created := rfl
  size := rfl
  bound := rfl

theorem Tally.step {bound : Bool} (h : Tally t texts bound w)
    (hstep : Booked limits payload upTo item w w' outcome) :
    Tally t (texts + outcome.elements * payload.held.length)
      (bound || (outcome.isSynthesized && !payload.isAbsent)) w' where
  sound := (h.sound.step hstep.step).1
  grown := by
    obtain ⟨fresh, hgrown⟩ := h.grown
    obtain ⟨more, hmore⟩ := hstep.effect.grown h.sound
    exact ⟨_, hgrown.trans hmore⟩
  elements := by
    rw [hstep.effect.connectedElements h.sound, h.elements, hstep.created, Nat.add_assoc]
  created := by rw [hstep.created, hstep.steps, allCopies_concat, h.created]
  size := by
    have hsize := hstep.effect.size
    rw [Nat.mul_add, Nat.mul_one] at hsize
    have hcount : w'.report.steps.countP (fun st => st.outcome.isSynthesized) =
        w.report.steps.countP (fun st => st.outcome.isSynthesized) +
          if outcome.isSynthesized then 1 else 0 := by
      rw [hstep.steps, List.countP_append, List.countP_singleton]
    rw [hsize, h.size, hstep.created, hcount, outcome.elements_eq]
    omega
  bound := by rw [hstep.bound, h.bound]

/-! ## Whole walks -/

/-- Only the last of `count` items gets the content of the rule. -/
def payloadAt (payload : Payload) (count i : Nat) : Payload :=
  if i + 1 = count then payload else .absent

theorem payloadAt_zero : payloadAt payload (item :: items).length 0 =
    if items.isEmpty then payload else .absent := by
  cases items <;> rfl

theorem payloadAt_succ (count i : Nat) :
    payloadAt payload (count + 1) (i + 1) = payloadAt payload count i := by
  simp [payloadAt]

/-- The walks between the steps over the items, from place `index` of the selector on. -/
def Course (limits : Limits) (payload : Payload) (s : Sequence) (index : Nat) (items : List Item)
    (walks : Nat → Walk) (outcomes : Nat → Outcome) : Prop :=
  ∀ i item, items[i]? = some item → Booked limits (payloadAt payload items.length i)
    (s.upTo (index + i)) item (walks i) (walks (i + 1)) (outcomes i)

theorem exists_course (hw : w.Sound) (h : run limits payload s index w items = (w', none)) :
    ∃ walks outcomes, walks 0 = w ∧ walks items.length = w' ∧
      Course limits payload s index items walks outcomes := by
  induction items generalizing w index with
  | nil =>
    obtain ⟨rfl, -⟩ := Prod.mk.inj h
    exact ⟨fun _ => w, fun _ => .propagated, rfl, rfl, by simp [Course]⟩
  | cons item items ih =>
    obtain ⟨w1, hstep, hrun⟩ := run_cons h
    obtain ⟨outcome, hbooked⟩ := exists_booked hw hstep
    obtain ⟨walks, outcomes, rfl, hlast, hcourse⟩ := ih (hw.step hstep).1 hrun
    refine ⟨fun i => Nat.casesOn i w walks, fun i => Nat.casesOn i outcome outcomes, rfl, hlast,
      fun i found hfound => ?_⟩
    cases i with
    | zero =>
      obtain rfl : item = found := by simpa using hfound
      rw [payloadAt_zero]
      exact hbooked
    | succ i =>
      rw [List.length_cons, payloadAt_succ, ← Nat.add_assoc, Nat.add_right_comm]
      exact hcourse i found (by simpa using hfound)

namespace Course

variable {walks : Nat → Walk} {outcomes : Nat → Outcome} {i : Nat}

theorem booked (h : Course limits payload s index items walks outcomes) (hi : i < items.length) :
    Booked limits (payloadAt payload items.length i) (s.upTo (index + i)) items[i] (walks i)
      (walks (i + 1)) (outcomes i) :=
  h i items[i] (List.getElem?_eq_getElem hi)

/-- Before the last step no content is bound. -/
theorem tally (h : Course limits payload s index items walks outcomes)
    (hstart : Tally t 0 false (walks 0)) (hi : i < items.length) : Tally t 0 false (walks i) := by
  induction i with
  | zero => exact hstart
  | succ i ih =>
    have hbooked := h.booked (Nat.lt_of_succ_lt hi)
    rw [payloadAt, if_neg (Nat.ne_of_lt hi)] at hbooked
    simpa [Payload.held, Payload.isAbsent] using (ih (Nat.lt_of_succ_lt hi)).step hbooked

theorem steps (h : Course limits payload s index items walks outcomes)
    (hstart : (walks 0).report.steps = []) (hi : i ≤ items.length) :
    (walks i).report.steps = (List.range i).map fun k => ⟨s.upTo (index + k), outcomes k⟩ := by
  induction i with
  | zero => exact hstart
  | succ i ih =>
    rw [(h.booked hi).steps, ih (Nat.le_of_lt hi), List.range_succ, List.map_append]
    rfl

/-- The whole walk adds up as its steps do, and content is bound at the end. -/
theorem tally_last (h : Course limits payload s index items walks outcomes)
    (hsteps : (walks 0).report.steps = []) (hstart : Tally t 0 false (walks 0)) :
    let steps := (walks items.length).report.steps
    Tally t (lastElements steps * payload.held.length)
      (decide (0 < lastElements steps) && !payload.isAbsent) (walks items.length) := by
  cases hlength : items.length with
  | zero =>
    have hnone : lastElements [] = 0 := rfl
    simpa [hsteps, hnone] using hstart
  | succ i =>
    have hi : i < items.length := by omega
    have hbooked := h.booked hi
    rw [payloadAt, if_pos hlength.symm] at hbooked
    have hlast := (h.tally hstart hi).step hbooked
    have hpositive : decide (0 < (outcomes i).elements) = (outcomes i).isSynthesized := by
      cases outcomes i <;> simp [Outcome.elements, Outcome.isSynthesized, Nat.add_comm 1]
    simp only [hbooked.steps, lastElements_concat, hpositive]
    simpa using hlast

theorem sound (h : Course limits payload s index items walks outcomes)
    (hstart : (walks 0).Sound) (hi : i ≤ items.length) : (walks i).Sound := by
  induction i with
  | zero => exact hstart
  | succ i ih => exact ((ih (Nat.le_of_lt hi)).step (h.booked hi).step).1

/-- What is there at some point stays there to the end. -/
theorem grown (h : Course limits payload s index items walks outcomes)
    (hstart : (walks 0).Sound) (behind : Nat) (hi : i + behind = items.length) :
    ∃ fresh, (walks i).tree.Grown fresh (walks items.length).tree := by
  induction behind generalizing i with
  | zero =>
    obtain rfl : i = items.length := hi
    exact ⟨_, (Intact.refl _).grown (h.sound hstart (Nat.le_refl _)).rooted⟩
  | succ behind ih =>
    have hlt : i < items.length := by omega
    obtain ⟨fresh, hgrown⟩ := (h.booked hlt).effect.grown (h.sound hstart (Nat.le_of_lt hlt))
    obtain ⟨more, hmore⟩ := ih (i := i + 1) (by omega)
    exact ⟨_, hgrown.trans hmore⟩

end Course

end Walk

/-- A selector that is made true has added to the tree what the report tells, and has changed
nothing else. Between the steps stand walks, each of which has either kept its tree or built a group
below the nodes of its context, and what a step has left stays to the end. -/
theorem materialize_accounts (ht : t.Reachable)
    (h : materialize limits s payload t b = (.ok report, t', b')) :
    (∀ x, t.isConnected x = true → t'.isConnected x = true ∧ t'.data? x = t.data? x ∧
        t'.parent? x = t.parent? x ∧ t'.prevSiblings x = t.prevSiblings x) ∧
      t'.connectedElements.length = t.connectedElements.length + report.created ∧
      report.created = allCopies report.steps ∧
      t'.size = t.size + report.steps.countP (fun st => st.outcome.isSynthesized) +
        report.created + lastElements report.steps * payload.held.length ∧
      report.contentBound = (decide (0 < lastElements report.steps) && !payload.isAbsent) ∧
      ∃ (walks : Nat → Walk) (outcomes : Nat → Outcome),
        walks 0 = ⟨t, b, [], .empty⟩ ∧ (walks s.items.length).report = report ∧
        (walks s.items.length).tree = t' ∧
        report.steps = (List.range s.items.length).map (fun i => ⟨s.upTo i, outcomes i⟩) ∧
        ∀ i item, s.items[i]? = some item →
          Walk.Booked limits (Walk.payloadAt payload s.items.length i) (s.upTo i) item (walks i)
            (walks (i + 1)) (outcomes i) ∧
          ∃ fresh, (walks (i + 1)).tree.Grown fresh t' := by
  obtain ⟨w, hrun, rfl, rfl⟩ := materialize_ok h
  have hroot := ht.rooted
  obtain ⟨walks, outcomes, hstart, rfl, hcourse⟩ :=
    Walk.exists_course (Walk.sound_start hroot) hrun
  have htally := hcourse.tally_last (t := t) (by rw [hstart]; rfl)
    (by rw [hstart]; exact .start hroot)
  have hsound : (walks 0).Sound := by
    rw [hstart]
    exact Walk.sound_start hroot
  have hsteps := hcourse.steps (by rw [hstart]; rfl) (Nat.le_refl _)
  simp only [Nat.zero_add] at hsteps
  obtain ⟨fresh, hgrown⟩ := htally.grown
  refine ⟨fun x hx => hgrown.kept hroot hx, htally.elements, htally.created, htally.size,
    htally.bound, walks, outcomes, hstart, rfl, rfl, hsteps, fun i item hitem => ⟨?_, ?_⟩⟩
  · have hbooked := hcourse i item hitem
    rwa [Nat.zero_add] at hbooked
  · have hlt := (List.getElem?_eq_some_iff.mp hitem).1
    exact hcourse.grown hsound (s.items.length - (i + 1)) (by omega)

/-- The sequence `body ul li:nth-last-child(-n+2)`. -/
def listSequence : Sequence :=
  ⟨[.compound ⟨[⟨.tag "body", "body"⟩]⟩, .combinator ⟨.descendant, " "⟩,
    .compound ⟨[⟨.tag "ul", "ul"⟩]⟩, .combinator ⟨.descendant, " "⟩,
    .compound ⟨[⟨.tag "li", "li"⟩, ⟨.equationCall ⟨"nth-last-child", some .minus, "", some "n",
      some .plus, "2"⟩, ":nth-last-child(-n+2)"⟩]⟩]⟩

/-- The account of building a list of two entries with text. -/
def listReport : Report :=
  ⟨[⟨"body", .matched 1⟩, ⟨"body ", .matched 1⟩, ⟨"body ul", .synthesized 1⟩,
    ⟨"body ul ", .matched 1⟩, ⟨"body ul li:nth-last-child(-n+2)", .synthesized 2⟩],
    3, [], none, true⟩

/-- What comes of the list in a bare document. -/
def listMade : Except SynthesisError Report × Tree × Binder :=
  materialize ⟨9⟩ listSequence (.literal "x") Document.skeleton.tree .empty

theorem listMade_report : listMade.1 = .ok listReport := by cbv

/-- Two templates, three copies, and a text for each of the three elements that came last. -/
theorem materialize_accounts_skeleton :
    let t := Document.skeleton.tree
    let t' := listMade.2.1
    t.Reachable ∧ listMade = (.ok listReport, t', listMade.2.2) ∧
      (∀ x, t.isConnected x = true → t'.isConnected x = true ∧ t'.data? x = t.data? x ∧
        t'.parent? x = t.parent? x ∧ t'.prevSiblings x = t.prevSiblings x) ∧
      t'.connectedElements.length = 3 + 3 ∧ t'.size = 4 + 2 + 3 + 3 * 1 := by
  have hmade : listMade = (.ok listReport, listMade.2.1, listMade.2.2) :=
    Prod.ext listMade_report rfl
  obtain ⟨hkept, helements, -, hsize, -⟩ := materialize_accounts reachable_skeleton hmade
  have hbefore : Document.skeleton.tree.connectedElements.length = 3 := by cbv
  have hsteps : listReport.steps.countP (fun st => st.outcome.isSynthesized) = 2 := by decide
  have hlast : lastElements listReport.steps = 3 := by decide
  have hheld : (Payload.literal "x").held.length = 1 := by decide
  rw [hbefore] at helements
  rw [hsteps, hlast, hheld] at hsize
  exact ⟨reachable_skeleton, hmade, hkept, helements, hsize⟩

end Topiary.Synthesis
