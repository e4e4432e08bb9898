import Mathlib
import Topiary.Proofs.Tree.Order
import Topiary.Proofs.Tree.Replace
import Topiary.Synthesis.Binder

/-!
Settling. The pending fetches are answered in any order, and every answer puts its text on the
connected elements with its mark. However they are ordered, the answers reach the same elements: the
marked ones that are connected and have no answered element above them. What was below such an
element is cut off, and nothing else changes.
-/

namespace Topiary

/-! ## Written documents -/

theorem Number.plainText_ne_empty (digits : List Char) (exponent : Int) :
    Number.plainText digits exponent ≠ "" := by
  unfold Number.plainText
  split <;> simp

theorem Number.scientificText_ne_empty (digits : List Char) (exponent : Int) :
    Number.scientificText digits exponent ≠ "" := by
  simp [Number.scientificText]

theorem Number.Layout.write_ne_empty (layout : Number.Layout) (x : Float) :
    layout.write x ≠ "" := by
  have hsign : ∀ sign text : String, text ≠ "" → sign ++ text ≠ "" := by
    intro sign text htext
    simp [htext]
  unfold Number.Layout.write
  by_cases hzero : (Number.Binary.ofBits x.toBits).m = 0
  · simp only [if_pos hzero]
    exact hsign _ _ (by decide)
  · simp only [if_neg hzero]
    apply hsign
    split
    · exact plainText_ne_empty _ _
    · exact scientificText_ne_empty _ _

/-- Every document is written with at least one character. -/
theorem Json.isEmpty_write (document : Json) : document.write.isEmpty = false := by
  rw [Bool.eq_false_iff, ne_eq, String.isEmpty_iff]
  cases document with
  | null => simp [Json.write]
  | bool value => cases value <;> simp [Json.write]
  | number value =>
    cases value with
    | integer value => cases value <;> simp [Json.write, Json.Numeral.write, toString, Int.repr]
    | real value => exact Number.Layout.write_ne_empty _ value
  | text value => simp [Json.write, Json.writeText]
  | array items => simp [Json.write]
  | object members => simp [Json.write]

namespace Tree

variable {t t' t1 : Tree} {c n x : NodeId} {mark : Correlation} {content : String}
  {l : List NodeId}

/-- The mark of an element. -/
def mark? (t : Tree) (x : NodeId) : Option Correlation :=
  (t.element? x).bind Element.correlation

theorem mem_findByCorrelation (ht : t.Rooted) :
    x ∈ t.findByCorrelation mark ↔ t.Connected x ∧ t.mark? x = some mark := by
  rw [findByCorrelation, List.mem_filter, ht.mem_descendants_iff, beq_iff_eq, ← mark?]
  constructor
  · exact fun h => ⟨h.1.2, h.2⟩
  · rintro ⟨hconn, hmark⟩
    refine ⟨⟨?_, hconn⟩, hmark⟩
    rintro rfl
    rw [mark?, ht.element?_root] at hmark
    simp at hmark

theorem isElement_of_mark? (h : t.mark? x = some mark) : t.isElement x = true := by
  rw [mark?] at h
  rw [isElement]
  cases he : t.element? x with
  | none => simp [he] at h
  | some e => rfl

/-! ## The same text on several nodes -/

/-- The second tree is the first with a new text in place of the children of the listed nodes. -/
structure Texted (t : Tree) (l : List NodeId) (content : String) (t' : Tree) : Prop where
  rooted : t'.Rooted
  size_le : t.size ≤ t'.size
  data : ∀ x < t.size, t'.data? x = t.data? x
  element : ∀ x, t'.element? x = t.element? x
  others : ∀ x, x ∉ l → t'.children x = t.children x
  text : ∀ x ∈ l, ∃ n, t.size ≤ n ∧ t'.children x = [n] ∧ t'.data? n = some (.text content)

theorem Texted.refl (ht : t.Rooted) (content : String) : t.Texted [] content t :=
  ⟨ht, Nat.le_refl _, fun _ _ => rfl, fun _ => rfl, fun _ _ => rfl, by simp⟩

theorem Replaced.element? (h : t.Replaced c content t') (x : NodeId) :
    t'.element? x = t.element? x := by
  rcases Nat.lt_trichotomy x t.size with hx | rfl | hx
  · exact element?_congr (h.data x hx)
  · have hnone : t.data? t.size = none := by
      rw [data?, get?_eq_none_iff.mpr (Nat.le_refl _)]
      rfl
    rw [element?_eq, element?_eq, h.text, hnone]
    rfl
  · have hsize : t'.size ≤ x := by
      rw [h.size]
      exact hx
    rw [Tree.element?, Tree.element?, get?_eq_none_iff.mpr hsize,
      get?_eq_none_iff.mpr (Nat.le_of_lt hx)]

/-- One more node: the step that a run over the nodes repeats. -/
theorem Replaced.texted (h : t.Replaced c content t1) (h' : t1.Texted l content t') :
    t.Texted (c :: l) content t' where
  rooted := h'.rooted
  size_le := Nat.le_trans (by rw [h.size]; exact Nat.le_succ _) h'.size_le
  data x hx := by
    rw [h'.data x (by rw [h.size]; exact Nat.lt_succ_of_lt hx), h.data x hx]
  element x := (h'.element x).trans (h.element? x)
  others x hx := by
    rw [List.mem_cons, not_or] at hx
    rw [h'.others x hx.2, h.children, if_neg hx.1]
  text x hx := by
    by_cases hmem : x ∈ l
    · obtain ⟨n, hn, hkids, htext⟩ := h'.text x hmem
      exact ⟨n, Nat.le_trans (by rw [h.size]; exact Nat.le_succ _) hn, hkids, htext⟩
    · obtain rfl : x = c := (List.mem_cons.mp hx).resolve_right hmem
      refine ⟨t.size, Nat.le_refl _, ?_, ?_⟩
      · rw [h'.others x hmem, h.children, if_pos rfl]
      · rw [h'.data t.size (by rw [h.size]; exact Nat.lt_succ_self _), h.text]

theorem Rooted.texted (ht : t.Rooted) (hl : ∀ x ∈ l, t.isElement x = true)
    (hcontent : content.isEmpty = false) :
    t.Texted l content
      (l.foldl (fun t x => (t.removeChildren x).setTextContent x content) t) := by
  induction l generalizing t with
  | nil => exact .refl ht content
  | cons c l ih =>
    have hc := hl c (by simp)
    have hone := ht.replaced_setTextContent hc hcontent
    rw [List.foldl_cons, ht.setTextContent_removeChildren hc hcontent]
    refine hone.texted (ih hone.rooted fun x hx => ?_)
    rw [isElement, hone.element? x]
    exact hl x (by simp [hx])

end Tree

namespace Synthesis

open Topiary.Tree

variable {t t' t1 : Tree} {b b' : Binder} {mark : Correlation} {pending : Pending}
  {entry : Correlation × Pending} {entries done order : List (Correlation × Pending)}
  {document : Json} {x : NodeId} {report : SettleReport}

theorem texted_bindValue (ht : t.Rooted) (mark : Correlation) (document : Json) :
    t.Texted (t.findByCorrelation mark) document.write (bindValue t mark document).1 :=
  ht.texted (fun _ hx => isElement_of_mark? ((mem_findByCorrelation ht).mp hx).2)
    document.isEmpty_write

/-! ## Answered elements -/

/-- A fetch in the list has brought the document for the mark of the node. -/
def Answers (t : Tree) (entries : List (Correlation × Pending)) (x : NodeId) (document : Json) :
    Prop :=
  ∃ mark pending, t.mark? x = some mark ∧ (mark, pending) ∈ entries ∧
    pending.fetch = .value document

/-- The node waits for content, and a fetch in the list has brought it. -/
def Answered (t : Tree) (entries : List (Correlation × Pending)) (x : NodeId) : Prop :=
  ∃ document, Answers t entries x document

/-- The node hangs off the document node, and nothing above it is answered. -/
structure Exposed (t : Tree) (entries : List (Correlation × Pending)) (x : NodeId) : Prop where
  connected : t.Connected x
  above : ∀ a ∈ t.ancestors x, ¬ Answered t entries a

theorem exposed_root (ht : t.Rooted) : Exposed t entries root := by
  refine ⟨connected_root, ?_⟩
  rw [Lineage.root.ancestors_eq ht]
  simp

theorem exposed_child_iff (ht : t.Rooted) {p : NodeId} (hx : t.parent? x = some p) :
    Exposed t entries x ↔ Exposed t entries p ∧ ¬ Answered t entries p := by
  constructor
  · rintro ⟨hconn, habove⟩
    have hp := (ht.connected_iff hx).mp hconn
    rw [ht.ancestors_eq hconn, hx] at habove
    exact ⟨⟨hp, fun a ha => habove a (List.mem_cons_of_mem _ ha)⟩, habove p List.mem_cons_self⟩
  · rintro ⟨⟨hconn, habove⟩, hp⟩
    have hx' := hconn.child hx
    refine ⟨hx', ?_⟩
    rw [ht.ancestors_eq hx', hx]
    intro a ha
    rcases List.mem_cons.mp ha with rfl | ha
    · exact hp
    · exact habove a ha

theorem Exposed.of_subset (h : Exposed t entries x) (hsub : done ⊆ entries) :
    Exposed t done x := by
  refine ⟨h.connected, fun a ha => ?_⟩
  rintro ⟨document, mark, pending, hmark, hmem, hvalue⟩
  exact h.above a ha ⟨document, mark, pending, hmark, hsub hmem, hvalue⟩

theorem lt_size_of_answered (h : Answered t entries x) : x < t.size := by
  obtain ⟨-, mark, -, hmark, -⟩ := h
  exact lt_size_of_isElement (isElement_of_mark? hmark)

/-- What answers do to a tree: the exposed elements that are answered have their texts, and nothing
else has changed among the nodes that were there. -/
structure Settled (t : Tree) (entries : List (Correlation × Pending)) (t' : Tree) : Prop where
  rooted : t'.Rooted
  size_le : t.size ≤ t'.size
  data : ∀ x < t.size, t'.data? x = t.data? x
  element : ∀ x, t'.element? x = t.element? x
  kept : ∀ x, ¬ Answered t entries x → t'.children x = t.children x
  text : ∀ x document, Exposed t entries x → Answers t entries x document →
    ∃ n, t.size ≤ n ∧ t'.children x = [n] ∧ t'.data? n = some (.text document.write)

namespace Settled

theorem refl (ht : t.Rooted) : Settled t [] t :=
  ⟨ht, Nat.le_refl _, fun _ _ => rfl, fun _ => rfl, fun _ _ => rfl, by simp [Answers]⟩

/-- Only what the answers are counts, not how they are listed. -/
theorem of_answers (h : Settled t entries t')
    (hsame : ∀ x document, Answers t done x document ↔ Answers t entries x document) :
    Settled t done t' := by
  have hanswered : Answered t done = Answered t entries := by
    funext x
    exact propext (exists_congr (hsame x))
  have hexposed : ∀ x, Exposed t done x → Exposed t entries x := fun x hx =>
    ⟨hx.connected, hanswered ▸ hx.above⟩
  exact ⟨h.rooted, h.size_le, h.data, h.element, fun x hx => h.kept x (hanswered ▸ hx),
    fun x document hx hdocument => h.text x document (hexposed x hx)
      ((hsame x document).mp hdocument)⟩

theorem parent? (h : Settled t entries t') (ht : t.Rooted) (hx : Exposed t entries x) :
    t'.parent? x = t.parent? x := by
  cases hp : t.parent? x with
  | none =>
    obtain ⟨l, hl⟩ := hx.connected
    cases hl with
    | root => exact h.rooted.parent
    | child hp' _ => simp [hp] at hp'
  | some p =>
    have hfree := ((exposed_child_iff ht hp).mp hx).2
    rw [← h.rooted.linked.mem_children, h.kept p hfree]
    exact ht.linked.mem_children.mpr hp

/-- A node is still connected after the answers if and only if it was exposed to them. -/
theorem connected_iff (h : Settled t entries t') (ht : t.Rooted) (hx : x < t.size) :
    t'.Connected x ↔ Exposed t entries x := by
  constructor
  · rintro ⟨l, hl⟩
    induction hl with
    | root => exact exposed_root ht
    | @child x p l hp hl ih =>
      have hmem : x ∈ t'.children p := h.rooted.linked.mem_children.mpr hp
      by_cases hanswered : Answered t entries p
      · -- the only child of an answered node is its new text
        obtain ⟨document, hdocument⟩ := hanswered
        have hexposed := ih (lt_size_of_answered ⟨document, hdocument⟩)
        obtain ⟨n, hn, hkids, -⟩ := h.text p document hexposed hdocument
        rw [hkids, List.mem_singleton] at hmem
        exact absurd hx (Nat.not_lt.mpr (hmem ▸ hn))
      · rw [h.kept p hanswered] at hmem
        have hlt := ht.linked.lt_of_mem_children hmem
        exact (exposed_child_iff ht (ht.linked.mem_children.mp hmem)).mpr
          ⟨ih hlt.2, hanswered⟩
  · intro hexposed
    obtain ⟨l, hl⟩ := hexposed.connected
    clear hx
    induction hl with
    | root => exact connected_root
    | child hp _ ih =>
      have hup := (exposed_child_iff ht hp).mp hexposed
      exact (ih hup.1).child ((h.parent? ht hexposed).trans hp)

theorem mark? (h : Settled t entries t') (x : NodeId) : t'.mark? x = t.mark? x := by
  rw [Tree.mark?, Tree.mark?, h.element]

theorem mem_findByCorrelation_iff (h : Settled t entries t') (ht : t.Rooted) :
    x ∈ t'.findByCorrelation mark ↔ Exposed t entries x ∧ t.mark? x = some mark := by
  rw [mem_findByCorrelation h.rooted, h.mark?]
  constructor
  · rintro ⟨hconn, hmark⟩
    exact ⟨(h.connected_iff ht (lt_size_of_isElement (isElement_of_mark? hmark))).mp hconn, hmark⟩
  · rintro ⟨hexposed, hmark⟩
    exact ⟨(h.connected_iff ht (lt_size_of_isElement (isElement_of_mark? hmark))).mpr hexposed,
      hmark⟩

end Settled

theorem answers_concat : Answers t (done ++ [entry]) x document ↔
    Answers t done x document ∨
      t.mark? x = some entry.1 ∧ entry.2.fetch = .value document := by
  constructor
  · rintro ⟨mark, pending, hmark, hmem, hvalue⟩
    rcases List.mem_append.mp hmem with hmem | hmem
    · exact Or.inl ⟨mark, pending, hmark, hmem, hvalue⟩
    · obtain rfl := List.mem_singleton.mp hmem
      exact Or.inr ⟨hmark, hvalue⟩
  · rintro (⟨mark, pending, hmark, hmem, hvalue⟩ | ⟨hmark, hvalue⟩)
    · exact ⟨mark, pending, hmark, List.mem_append_left _ hmem, hvalue⟩
    · exact ⟨entry.1, entry.2, hmark, by simp, hvalue⟩

/-- A document that arrives for a mark without an answer puts its text on the elements that are
still connected. -/
theorem Settled.bindValue (h : Settled t done t1) (ht : t.Rooted)
    (hnew : entry.1 ∉ done.map Prod.fst) (hvalue : entry.2.fetch = .value document) :
    Settled t (done ++ [entry]) (bindValue t1 entry.1 document).1 := by
  have htexted := texted_bindValue h.rooted entry.1 document
  have hmem : ∀ x, x ∈ t1.findByCorrelation entry.1 ↔
      Exposed t done x ∧ t.mark? x = some entry.1 := fun x => h.mem_findByCorrelation_iff ht
  constructor
  · exact htexted.rooted
  · exact Nat.le_trans h.size_le htexted.size_le
  · intro x hx
    rw [htexted.data x (Nat.lt_of_lt_of_le hx h.size_le), h.data x hx]
  · exact fun x => (htexted.element x).trans (h.element x)
  · intro x hx
    have hold : ¬ Answered t done x := fun ⟨d, hd⟩ => hx ⟨d, answers_concat.mpr (Or.inl hd)⟩
    have hnot : x ∉ t1.findByCorrelation entry.1 := fun hfound =>
      hx ⟨document, answers_concat.mpr (Or.inr ⟨((hmem x).mp hfound).2, hvalue⟩)⟩
    rw [htexted.others x hnot, h.kept x hold]
  · intro x d hexposed hanswers
    have hexposed' := hexposed.of_subset (List.subset_append_left done [entry])
    rcases answers_concat.mp hanswers with hold | ⟨hmark, hd⟩
    · obtain ⟨n, hn, hkids, htext⟩ := h.text x d hexposed' hold
      have hnot : x ∉ t1.findByCorrelation entry.1 := by
        intro hfound
        obtain ⟨mark, pending, hmark, hentry, -⟩ := hold
        obtain rfl := Option.some.inj (hmark.symm.trans ((hmem x).mp hfound).2)
        exact hnew (List.mem_map.mpr ⟨_, hentry, rfl⟩)
      have hlt : n < t1.size :=
        (h.rooted.linked.lt_of_mem_children (p := x) (by rw [hkids]; simp)).1
      exact ⟨n, hn, (htexted.others x hnot).trans hkids, (htexted.data n hlt).trans htext⟩
    · obtain rfl : document = d := by
        rw [hvalue] at hd
        exact Fetch.value.inj hd
      obtain ⟨n, hn, hkids, htext⟩ := htexted.text x ((hmem x).mpr ⟨hexposed', hmark⟩)
      exact ⟨n, Nat.le_trans h.size_le hn, hkids, htext⟩

/-- One answered fetch, whatever has become of it. -/
theorem Settled.settleOne (h : Settled t done t1) (ht : t.Rooted)
    (hnew : entry.1 ∉ done.map Prod.fst) :
    Settled t (done ++ [entry]) (settleOne (t1, report) entry).1 := by
  have hidle : (∀ document, entry.2.fetch ≠ .value document) →
      Settled t (done ++ [entry]) t1 := by
    intro hnone
    refine h.of_answers fun x document => ?_
    rw [answers_concat]
    exact or_iff_left fun hlast => hnone document hlast.2
  unfold Synthesis.settleOne
  simp only
  split
  · rename_i document hvalue
    exact h.bindValue ht hnew hvalue
  · rename_i hfailed
    exact hidle fun document hvalue => by simp [hfailed] at hvalue
  · rename_i hstalled
    exact hidle fun document hvalue => by simp [hstalled] at hvalue

/-! ## Runs -/

/-- Fetches in flight are answered one at a time, any of them first. -/
inductive Settling : List (Correlation × Pending) → Tree × SettleReport → Tree × SettleReport →
    Prop where
  | done (state : Tree × SettleReport) : Settling [] state state
  | answer {before behind : List (Correlation × Pending)} {entry : Correlation × Pending}
      {state state' : Tree × SettleReport} :
      Settling (before ++ behind) (settleOne state entry) state' →
      Settling (before ++ entry :: behind) state state'

/-- The fetches are answered in some order. -/
theorem settling_iff {state state' : Tree × SettleReport} : Settling entries state state' ↔
    ∃ order : List (Correlation × Pending), order.Perm entries ∧
      order.foldl settleOne state = state' := by
  constructor
  · intro h
    induction h with
    | done state => exact ⟨[], .refl _, rfl⟩
    | @answer before behind entry state state' _ ih =>
      obtain ⟨order, hperm, hrun⟩ := ih
      exact ⟨entry :: order, (hperm.cons entry).trans List.perm_middle.symm, hrun⟩
  · rintro ⟨order, hperm, hrun⟩
    induction order generalizing entries state with
    | nil =>
      obtain rfl := List.nil_perm.mp hperm
      exact hrun ▸ .done state
    | cons entry order ih =>
      obtain ⟨before, behind, rfl⟩ := List.append_of_mem (hperm.mem_iff.mp List.mem_cons_self)
      exact .answer (ih (hperm.trans List.perm_middle).cons_inv hrun)

/-- What settling may come to: all that is pending is answered in some order, and none is left. -/
structure Binder.Settles (b : Binder) (t : Tree) (report : SettleReport) (b' : Binder) (t' : Tree) :
    Prop where
  run : Settling b.pending (t, ⟨0, 0, 0⟩) (t', report)
  binder : b' = { b with pending := [] }

/-- The binder settles what it would settle if the fetches had been deferred in another order. -/
theorem Binder.settles_iff : b.Settles t report b' t' ↔
    ∃ order : List (Correlation × Pending), order.Perm b.pending ∧
      ({ b with pending := order } : Binder).settle t = (report, b', t') := by
  constructor
  · rintro ⟨hrun, rfl⟩
    obtain ⟨order, hperm, hfold⟩ := settling_iff.mp hrun
    exact ⟨order, hperm, by rw [Binder.settle, settleAll, hfold]⟩
  · rintro ⟨order, hperm, h⟩
    obtain ⟨rfl, hrest⟩ := Prod.mk.inj h
    obtain ⟨rfl, rfl⟩ := Prod.mk.inj hrest
    exact ⟨settling_iff.mpr ⟨order, hperm, rfl⟩, rfl⟩

/-- Settling in the order in which the fetches were deferred is one of the ways. -/
theorem Binder.settles_settle (b : Binder) (t : Tree) :
    b.Settles t (b.settle t).1 (b.settle t).2.1 (b.settle t).2.2 :=
  settles_iff.mpr ⟨b.pending, .refl _, rfl⟩

theorem Settled.foldl (h : Settled t done t1) (ht : t.Rooted)
    (hmarks : ((done ++ order).map Prod.fst).Nodup) :
    Settled t (done ++ order) (order.foldl Synthesis.settleOne (t1, report)).1 := by
  induction order generalizing done t1 report with
  | nil =>
    rw [List.append_nil]
    exact h
  | cons entry order ih =>
    have hsplit : done ++ entry :: order = done ++ [entry] ++ order := by simp
    rw [hsplit] at hmarks ⊢
    have hnew : entry.1 ∉ done.map Prod.fst := by
      intro hmem
      rw [List.map_append, List.map_append] at hmarks
      have hdisjoint := (List.nodup_append.mp (List.nodup_append.mp hmarks).1).2.2
      exact hdisjoint _ hmem entry.1 (by simp) rfl
    exact ih (h.settleOne ht hnew) hmarks

/-- In whatever order the fetches are answered, the tree is settled by all of them. -/
theorem Binder.Settles.settled (h : b.Settles t report b' t') (ht : t.Rooted)
    (hmarks : (b.pending.map Prod.fst).Nodup) : Settled t b.pending t' := by
  obtain ⟨order, hperm, hrun⟩ := settling_iff.mp h.run
  have hnodup : (([] ++ order).map Prod.fst).Nodup := (hperm.map Prod.fst).nodup_iff.mpr hmarks
  have hsettled : Settled t ([] ++ order) (order.foldl settleOne (t, ⟨0, 0, 0⟩)).1 :=
    (Settled.refl ht).foldl ht hnodup
  rw [hrun] at hsettled
  refine hsettled.of_answers fun x document => ?_
  simp only [Answers, List.nil_append, hperm.mem_iff]

/-! ## What stays -/

/-- An element that was connected stays so exactly if nothing above it is answered; it then keeps
its parent, it always keeps its attributes, and it keeps its children unless it is answered
itself. -/
theorem Binder.settles_frame (ht : t.Reachable) (hmarks : (b.pending.map Prod.fst).Nodup)
    (h : b.Settles t report b' t') (hx : t.isConnected x = true) (helement : t.isElement x = true) :
    (t'.isConnected x = true ↔ ∀ a ∈ t.ancestors x, ¬ Answered t b.pending a) ∧
      (t'.isConnected x = true → t'.parent? x = t.parent? x) ∧
      t'.element? x = t.element? x ∧
      (¬ Answered t b.pending x →
        t'.children x = t.children x ∧ ∀ k ∈ t.children x, t'.data? k = t.data? k) ∧
      (t'.isConnected x = true → ∀ document, Answers t b.pending x document →
        ∃ n, t'.children x = [n] ∧ t'.data? n = some (.text document.write)) := by
  have hroot := ht.rooted
  have hsettled := h.settled hroot hmarks
  have hconn := hsettled.connected_iff hroot (lt_size_of_isElement helement)
  rw [hroot.isConnected_iff] at hx
  rw [hsettled.rooted.isConnected_iff, hconn]
  refine ⟨⟨Exposed.above, fun habove => ⟨hx, habove⟩⟩, hsettled.parent? hroot,
    hsettled.element x, fun hfree => ⟨hsettled.kept x hfree, fun k hk => ?_⟩,
    fun hexposed document hdocument => ?_⟩
  · exact hsettled.data k (hroot.linked.lt_of_mem_children hk).1
  · obtain ⟨n, -, hkids, htext⟩ := hsettled.text x document hexposed hdocument
    exact ⟨n, hkids, htext⟩

/-- A `div` and a `p` inside it, both waiting for content of their own. -/
def waitingTree : Tree :=
  ofMutations [.createElement "body", .createElement "div", .createElement "p",
    .append root 1, .append 1 2, .append 2 3, .setCorrelation 2 ⟨1⟩, .setCorrelation 3 ⟨2⟩]

theorem reachable_waitingTree : waitingTree.Reachable :=
  ⟨_, by simp [Mutation.SparesRoot, root], rfl⟩

theorem Binder.settles_frame_waitingTree :
    let b : Binder := ⟨3, [(⟨1⟩, ⟨"a", .failed⟩), (⟨2⟩, ⟨"b", .value .null⟩)]⟩
    ∃ t', b.Settles waitingTree ⟨1, 1, 1⟩ ⟨3, []⟩ t' ∧
      (t'.isConnected 2 = true ↔
        ∀ a ∈ waitingTree.ancestors 2, ¬ Answered waitingTree b.pending a) ∧
      (t'.isConnected 2 = true → t'.parent? 2 = waitingTree.parent? 2) ∧
      t'.element? 2 = waitingTree.element? 2 ∧
      (¬ Answered waitingTree b.pending 2 → t'.children 2 = waitingTree.children 2 ∧
        ∀ k ∈ waitingTree.children 2, t'.data? k = waitingTree.data? k) ∧
      (t'.isConnected 2 = true → ∀ document, Answers waitingTree b.pending 2 document →
        ∃ n, t'.children 2 = [n] ∧ t'.data? n = some (.text document.write)) := by
  intro b
  have hrun : b.Settles waitingTree ⟨1, 1, 1⟩ ⟨3, []⟩ (b.settle waitingTree).2.2 := by
    have hreport : (b.settle waitingTree).1 = ⟨1, 1, 1⟩ := by cbv
    have hsettles := b.settles_settle waitingTree
    rw [hreport] at hsettles
    exact hsettles
  exact ⟨_, hrun, Binder.settles_frame reachable_waitingTree (by decide) hrun (by decide)
    (by decide)⟩

/-- An element that is not answered is cut off if it stands inside one that is. -/
theorem Binder.not_settles_frame_of_nested :
    ¬ ∀ (t t' : Tree) (b b' : Binder) (report : SettleReport) (x : NodeId), t.Reachable →
      (b.pending.map Prod.fst).Nodup → b.Settles t report b' t' → t.isConnected x = true →
      t.isElement x = true → ¬ Answered t b.pending x → t'.isConnected x = true := by
  intro hall
  let b : Binder := ⟨3, [(⟨1⟩, ⟨"a", .value (.number (.integer 1))⟩), (⟨2⟩, ⟨"b", .failed⟩)]⟩
  have hfree : ¬ Answered waitingTree b.pending 3 := by
    rintro ⟨document, mark, pending, hmark, hmem, hvalue⟩
    have hmark' : waitingTree.mark? 3 = some ⟨2⟩ := by decide
    obtain rfl := Option.some.inj (hmark'.symm.trans hmark)
    simp [b] at hmem
    simp [hmem] at hvalue
  have hconn := hall waitingTree _ b _ _ 3 reachable_waitingTree (by decide)
    (b.settles_settle waitingTree) (by decide) (by decide) hfree
  have hcut : (b.settle waitingTree).2.2.isConnected 3 = false := by cbv
  rw [hcut] at hconn
  exact Bool.false_ne_true hconn

end Synthesis

end Topiary
