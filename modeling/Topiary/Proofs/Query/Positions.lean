import Mathlib
import Topiary.Proofs.Query.Filters
import Topiary.Proofs.Selector.Coefficients

/-!
Position tests. An element has a place among its peers, which are the element children of its parent
or those of its tag, from either end. A position test selects the places `a * k + b`.
-/

namespace Topiary.Query

open Topiary.Selector Topiary.Tree

variable {t : Tree} {x : NodeId} {ofType fromEnd : Bool} {before behind : List NodeId} {n k : Int}
  {position : Position} {e : Equation} {source text : String} {tokens : List Token}
  {l : SelectorList} {filter : Filter}

/-! ## Peers -/

/-- The elements among which an element is counted: the element children of its parent, or those of
its tag. Without a parent it is counted alone. -/
def peers (t : Tree) (ofType : Bool) (x : NodeId) : List NodeId :=
  match t.parent? x with
  | none => [x]
  | some parent =>
    (t.elementChildren parent).filter fun y => !ofType || t.tag? y == t.tag? x

theorem peers_eq_elementChildren {parent : NodeId} (h : t.parent? x = some parent) :
    peers t false x = t.elementChildren parent := by
  rw [peers, h]
  exact List.filter_eq_self.mpr fun y hy => rfl

theorem nodup_peers (ht : t.Rooted) (ofType : Bool) (x : NodeId) :
    (peers t ofType x).Nodup := by
  rw [peers]
  split
  · exact List.nodup_singleton x
  · exact (ht.linked.nodup_children.filter _).filter _

theorem mem_peers_self (ht : t.Rooted) (ofType : Bool) (hx : t.isElement x = true) :
    x ∈ peers t ofType x := by
  rw [peers]
  split
  · exact List.mem_singleton_self x
  · rename_i parent hparent
    exact List.mem_filter.mpr ⟨(mem_elementChildren ht).mpr ⟨hparent, hx⟩, by simp⟩

/-- An element stands only once among its peers. -/
theorem not_mem_before (ht : t.Rooted) (h : peers t ofType x = before ++ x :: behind) :
    x ∉ before := by
  have hnodup := nodup_peers ht ofType x
  rw [h, List.nodup_middle, List.nodup_cons] at hnodup
  exact fun hmem => hnodup.1 (List.mem_append_left _ hmem)

/-- From the front an element stands behind all before it, from the end before all behind it. -/
theorem placeOf_of_peers (h : peers t ofType x = before ++ x :: behind) (hnot : x ∉ before) :
    (placeOf t x ofType fromEnd).1 =
      if fromEnd then (behind.length : Int) + 1 else before.length + 1 := by
  have hnone : before.findIdx? (· == x) = none := by
    rw [List.findIdx?_eq_none_iff]
    intro y hy
    simpa using ne_of_mem_of_not_mem hy hnot
  have hindex : (before ++ x :: behind).findIdx? (· == x) = some before.length := by
    rw [List.findIdx?_append, hnone]
    simp [List.findIdx?_cons]
  rw [peers] at h
  rw [placeOf]
  cases hparent : t.parent? x with
  | none =>
    rw [hparent] at h
    cases before with
    | nil =>
      obtain rfl : behind = [] := (List.cons.inj h).2.symm
      simp
    | cons y before => simp at h
  | some parent =>
    rw [hparent] at h
    simp only at h
    simp only [h, hindex]
    cases fromEnd with
    | false => simp
    | true =>
      simp only [if_true, List.length_append, List.length_cons]
      omega

/-! ## Places that a position test selects -/

/-- The place `n` is `a * k + b` for some natural `k`. A test of a fixed place compares it as it is;
otherwise no place is hit whose distance from `b` has more than 63 bits. -/
def Position.Hits (position : Position) (n : Int) : Prop :=
  (position.a = 0 ∧ n = position.b) ∨
    (position.a ≠ 0 ∧ n - position.b ≤ 2 ^ 63 - 1 ∧ ∃ k : Nat, n = position.a * k + position.b)

theorem maxCoefficient_eq : (maxCoefficient : Int) = 2 ^ 63 - 1 := by
  decide

/-- A remainder of zero and a quotient that is not negative are a natural number of steps. -/
theorem exists_steps_iff {a : Int} (ha : a ≠ 0) (difference : Int) :
    ((if 0 < a then 0 ≤ difference else difference ≤ 0) ∧ difference.tmod a = 0) ↔
      ∃ k : Nat, difference = a * k := by
  constructor
  · rintro ⟨hside, hrest⟩
    obtain ⟨k, rfl⟩ := Int.dvd_of_tmod_eq_zero hrest
    have hk : 0 ≤ k := by
      split at hside
      · rename_i hpos
        exact nonneg_of_mul_nonneg_right hside hpos
      · have hneg : a < 0 := by omega
        exact nonneg_of_mul_nonpos_right hside hneg
    exact ⟨k.toNat, by rw [Int.toNat_of_nonneg hk]⟩
  · rintro ⟨k, rfl⟩
    refine ⟨?_, Int.mul_tmod_right a k⟩
    split
    · rename_i hpos
      exact mul_nonneg hpos.le (Int.natCast_nonneg k)
    · have hneg : a ≤ 0 := by omega
      exact mul_nonpos_of_nonpos_of_nonneg hneg (Int.natCast_nonneg k)

theorem Position.selects_iff : position.selects n = true ↔ position.Hits n := by
  rw [Position.selects, Position.Hits, ← maxCoefficient_eq]
  by_cases ha : position.a = 0
  · simp [ha]
  · have hsteps := exists_steps_iff ha (n - position.b)
    have hshift : ∀ k : Nat, n - position.b = position.a * k ↔ n = position.a * k + position.b :=
      fun k => sub_eq_iff_eq_add
    simp only [hshift] at hsteps
    simp [ha, ← hsteps, and_assoc]

/-- The places that `-n+k` selects are the first `k`. -/
theorem Position.selects_iff_le (ha : position.a = -1) :
    position.selects n = true ↔ n ≤ position.b := by
  rw [selects_iff, Hits, ha]
  constructor
  · rintro (⟨hzero, -⟩ | ⟨-, -, k, rfl⟩)
    · cases hzero
    · omega
  · intro hle
    right
    exact ⟨by decide, by omega, (position.b - n).toNat, by omega⟩

/-! ## Compiled position tests -/

/-- A token of one of the four position functions stands for the position test that it writes, if
its numbers fit. -/
theorem filterOf_position (hfunction : positionFunction? e.function = some (ofType, fromEnd)) :
    filterOf ⟨.equationCall e, source⟩ = .ok filter ↔
      ∃ a b, e.affine = some (a, b) ∧ filter = .test (.position ⟨a, b, ofType, fromEnd⟩) := by
  have hnot : e.function ≠ "not" := by
    intro hname
    rw [hname] at hfunction
    cases hfunction
  simp only [filterOf, Kind.writtenFunction?, Option.some.injEq, if_neg hnot, testOf, hfunction]
  cases haffine : e.affine with
  | none => simp [Except.map]
  | some pair => simp [Except.map, Prod.ext_iff, eq_comm]

/-- A compiled text asks for the filters of its equation tokens. -/
theorem exists_filter_of_equation (htokens : tokenize text = .ok tokens)
    (htoken : ⟨.equationCall e, source⟩ ∈ tokens) (hl : SelectorList.parse text = .ok l) :
    ∃ filter, filterOf ⟨.equationCall e, source⟩ = .ok filter ∧
      ∃ s ∈ l.selectors, ∃ c ∈ s.compounds, filter ∈ c.tests := by
  rw [SelectorList.parse, htokens] at hl
  apply SelectorList.exists_filter hl htoken rfl
  intro name hkind
  cases hkind

/-- A position test holds at the places it selects, counted from the front or from the end. -/
theorem holds_position (ht : t.Rooted) (hpeers : peers t ofType x = before ++ x :: behind)
    {a b : Int} : (Filter.test (.position ⟨a, b, ofType, fromEnd⟩)).holds t x = true ↔
      Position.Hits ⟨a, b, ofType, fromEnd⟩
        (if fromEnd then (behind.length : Int) + 1 else before.length + 1) := by
  rw [Filter.holds, Test.holds, Position.selects_iff,
    placeOf_of_peers hpeers (not_mem_before ht hpeers)]

/-- In a compiled text an argument of `:nth-child()`, `:nth-last-child()`, `:nth-of-type()` and
`:nth-last-of-type()` writes two numbers of at most 63 bits, and the list asks for a test that holds
of just the elements at the places `a * k + b`. -/
theorem holds_compiled_position (htokens : tokenize text = .ok tokens)
    (htoken : ⟨.equationCall e, source⟩ ∈ tokens) (hl : SelectorList.parse text = .ok l)
    (hfunction : positionFunction? e.function = some (ofType, fromEnd)) :
    ∃ a b filter, e.Writes a b ∧ |a| ≤ 2 ^ 63 - 1 ∧ |b| ≤ 2 ^ 63 - 1 ∧
      filterOf ⟨.equationCall e, source⟩ = .ok filter ∧
      (∃ s ∈ l.selectors, ∃ c ∈ s.compounds, filter ∈ c.tests) ∧
      ∀ (t : Tree) (x : NodeId), t.Reachable → t.isElement x = true →
        ∃ before behind, peers t ofType x = before ++ x :: behind ∧
          (peers t ofType x).Nodup ∧
          let p : Int := before.length + 1
          let q : Int := (peers t ofType x).length
          let pos := if fromEnd then q + 1 - p else p
          filter.holds t x = true ↔
            (a = 0 ∧ pos = b) ∨ (a ≠ 0 ∧ pos - b ≤ 2 ^ 63 - 1 ∧ ∃ k : Nat, pos = a * k + b) := by
  obtain ⟨filter, hfilter, hasks⟩ := exists_filter_of_equation htokens htoken hl
  obtain ⟨a, b, haffine, rfl⟩ := (filterOf_position hfunction).mp hfilter
  obtain ⟨hwrites, hfits⟩ := Equation.affine_eq_some_iff.mp haffine
  have hlimit : ∀ c : Int, c.natAbs ≤ maxCoefficient → |c| ≤ 2 ^ 63 - 1 := by
    intro c hc
    rw [← maxCoefficient_eq, Int.abs_eq_natAbs]
    exact Int.ofNat_le.mpr hc
  refine ⟨a, b, _, hwrites, hlimit a hfits.1, hlimit b hfits.2, hfilter, hasks, ?_⟩
  intro t x ht hx
  obtain ⟨before, behind, hpeers⟩ := List.append_of_mem (mem_peers_self ht.rooted ofType hx)
  refine ⟨before, behind, hpeers, nodup_peers ht.rooted ofType x, ?_⟩
  have hplace : (if fromEnd = true then (behind.length : Int) + 1 else before.length + 1) =
      if fromEnd = true then ((peers t ofType x).length : Int) + 1 - (before.length + 1)
      else before.length + 1 := by
    rw [hpeers, List.length_append, List.length_cons]
    split
    · omega
    · rfl
  rw [holds_position ht.rooted hpeers, hplace]
  rfl

/-- A list of an `li`, a `b` and another `li`. -/
def listTree : Tree :=
  ofMutations [.createElement "ul", .createElement "li", .createElement "b", .createElement "li",
    .append root 1, .append 1 2, .append 1 3, .append 1 4]

theorem reachable_listTree : listTree.Reachable :=
  ⟨_, by simp [Mutation.SparesRoot, root], rfl⟩

theorem holds_compiled_position_listTree : ∃ tokens l a b filter,
    tokenize "li:nth-last-of-type(-2n+4)" = .ok tokens ∧
    ⟨.equationCall ⟨"nth-last-of-type", some .minus, "2", some "n", some .plus, "4"⟩,
      ":nth-last-of-type(-2n+4)"⟩ ∈ tokens ∧
    SelectorList.parse "li:nth-last-of-type(-2n+4)" = .ok l ∧
    positionFunction? "nth-last-of-type" = some (true, true) ∧
    Equation.Writes ⟨"nth-last-of-type", some .minus, "2", some "n", some .plus, "4"⟩ a b ∧
    (∃ s ∈ l.selectors, ∃ c ∈ s.compounds, filter ∈ c.tests) ∧
    listTree.Reachable ∧ listTree.isElement 2 = true ∧ peers listTree true 2 = [2, 4] ∧
    (filter.holds listTree 2 = true ↔
      (a = 0 ∧ 2 = b) ∨ (a ≠ 0 ∧ 2 - b ≤ 2 ^ 63 - 1 ∧ ∃ k : Nat, 2 = a * k + b)) := by
  have htokens : tokenize "li:nth-last-of-type(-2n+4)" = .ok [⟨.tag "li", "li"⟩,
      ⟨.equationCall ⟨"nth-last-of-type", some .minus, "2", some "n", some .plus, "4"⟩,
        ":nth-last-of-type(-2n+4)"⟩] := by cbv
  have hl : SelectorList.parse "li:nth-last-of-type(-2n+4)" = .ok ⟨[⟨[⟨some "li", false,
      [.test (.position ⟨-2, 4, true, true⟩)]⟩], []⟩]⟩ := by cbv
  have hfunction : positionFunction? "nth-last-of-type" = some (true, true) := by decide
  have hpeers : peers listTree true 2 = [2, 4] := by cbv
  have hx : listTree.isElement 2 = true := by decide
  obtain ⟨a, b, filter, hwrites, -, -, -, hasks, hholds⟩ :=
    holds_compiled_position htokens
      (List.mem_cons_of_mem _ List.mem_cons_self) hl hfunction
  obtain ⟨before, behind, hsplit, -, hiff⟩ := hholds listTree 2 reachable_listTree hx
  rw [hpeers] at hsplit hiff
  have hbefore : before = [] := by
    cases before with
    | nil => rfl
    | cons y before =>
      have hmem : 2 ∈ [4] := by
        rw [(List.cons.inj hsplit).2]
        exact List.mem_append_right _ List.mem_cons_self
      exact absurd hmem (by decide)
  rw [hbefore] at hiff
  exact ⟨_, _, a, b, filter, htokens, by simp, hl, hfunction, hwrites, hasks,
    reachable_listTree, hx, hpeers, hiff⟩

/-! ## Repeat directives as position tests -/

/-- A test that holds of just the elements with fewer than `count` behind them keeps the last
`count` of a list. -/
theorem filter_eq_drop {α : Type} {test : α → Bool} {count : Nat} {kids : List α}
    (h : ∀ before x behind, kids = before ++ x :: behind →
      (test x = true ↔ behind.length < count)) :
    kids.filter test = kids.drop (kids.length - count) := by
  induction kids with
  | nil => simp
  | cons x kids ih =>
    have hrest : kids.filter test = kids.drop (kids.length - count) := by
      apply ih
      intro before y behind hsplit
      exact h (x :: before) y behind (by rw [hsplit, List.cons_append])
    have hfirst := h [] x kids rfl
    by_cases hlt : kids.length < count
    · have hall : kids.length - count = 0 := by omega
      have hall' : (x :: kids).length - count = 0 := by
        rw [List.length_cons]
        omega
      rw [List.filter_cons_of_pos (hfirst.mpr hlt), hrest, hall, hall', List.drop_zero,
        List.drop_zero]
    · have hskip : (x :: kids).length - count = (kids.length - count) + 1 := by
        rw [List.length_cons]
        omega
      rw [List.filter_cons_of_neg (fun hpass => hlt (hfirst.mp hpass)), hrest, hskip,
        List.drop_succ_cons]

/-- The last `k` element children are those that `:nth-last-child(-n+k)` holds of. -/
theorem filter_repeat (ht : t.Rooted) (parent : NodeId) (k : Int) :
    (t.elementChildren parent).filter
        (fun x => (Filter.test (.position ⟨-1, k, false, true⟩)).holds t x) =
      (t.elementChildren parent).drop ((t.elementChildren parent).length - k.toNat) := by
  apply filter_eq_drop
  intro before x behind hsplit
  have hx : x ∈ t.elementChildren parent := by
    rw [hsplit]
    exact List.mem_append_right _ List.mem_cons_self
  have hpeers : peers t false x = before ++ x :: behind := by
    rw [peers_eq_elementChildren ((mem_elementChildren ht).mp hx).1, hsplit]
  rw [holds_position ht hpeers, ← Position.selects_iff, Position.selects_iff_le rfl, if_pos rfl]
  change (behind.length : Int) + 1 ≤ k ↔ _
  omega

/-- A repeat directive `-n+k` in a text is refused, because its offset has no digits, or it is the
position test that holds of just the last `k` element children of every node, of all of them if
there are fewer and of none if `k` is negative. -/
theorem holds_repeat (htokens : tokenize text = .ok tokens)
    (htoken : ⟨.equationCall e, source⟩ ∈ tokens) (hk : e.multiplier = some k) :
    (e.offset = "" ∧ (∃ cause, filterOf ⟨.equationCall e, source⟩ = .error cause) ∧
        ∃ cause, SelectorList.parse text = .error cause) ∨
      (e.affine = some (-1, k) ∧ ∃ filter, filterOf ⟨.equationCall e, source⟩ = .ok filter ∧
        ∀ (t : Tree) (parent : NodeId), t.Reachable → ∃ before last,
          t.elementChildren parent = before ++ last ∧
          (last.length : Int) = min (max k 0) (t.elementChildren parent).length ∧
          (t.elementChildren parent).filter (fun x => filter.holds t x) = last) := by
  have hfunction : positionFunction? e.function = some (false, true) := by
    obtain ⟨⟨hname, -⟩, -⟩ := Option.ite_none_right_eq_some.mp hk
    rw [hname]
    rfl
  rcases Equation.affine_of_multiplier hk with ⟨hoffset, haffine⟩ | haffine
  · left
    cases hfilter : filterOf ⟨.equationCall e, source⟩ with
    | ok filter =>
      obtain ⟨a, b, hab, -⟩ := (filterOf_position hfunction).mp hfilter
      rw [haffine] at hab
      cases hab
    | error cause =>
      refine ⟨hoffset, ⟨cause, rfl⟩, ?_⟩
      cases hl : SelectorList.parse text with
      | error cause => exact ⟨cause, rfl⟩
      | ok l =>
        obtain ⟨filter, hok, -⟩ := exists_filter_of_equation htokens htoken hl
        rw [hfilter] at hok
        cases hok
  · right
    refine ⟨haffine, _, (filterOf_position hfunction).mpr ⟨-1, k, haffine, rfl⟩, ?_⟩
    intro t parent ht
    refine ⟨_, _, (List.take_append_drop _ _).symm, ?_, filter_repeat ht.rooted parent k⟩
    rw [List.length_drop]
    omega

theorem holds_repeat_listTree : ∃ tokens filter,
    tokenize "li:nth-last-child(-n+2)" = .ok tokens ∧
    ⟨.equationCall ⟨"nth-last-child", some .minus, "", some "n", some .plus, "2"⟩,
      ":nth-last-child(-n+2)"⟩ ∈ tokens ∧
    Equation.multiplier ⟨"nth-last-child", some .minus, "", some "n", some .plus, "2"⟩ = some 2 ∧
    filterOf ⟨.equationCall ⟨"nth-last-child", some .minus, "", some "n", some .plus, "2"⟩,
      ":nth-last-child(-n+2)"⟩ = .ok filter ∧
    listTree.Reachable ∧ listTree.elementChildren 1 = [2, 3, 4] ∧
    (listTree.elementChildren 1).filter (fun x => filter.holds listTree x) = [3, 4] := by
  have htokens : tokenize "li:nth-last-child(-n+2)" = .ok [⟨.tag "li", "li"⟩,
      ⟨.equationCall ⟨"nth-last-child", some .minus, "", some "n", some .plus, "2"⟩,
        ":nth-last-child(-n+2)"⟩] := by cbv
  have hk : Equation.multiplier ⟨"nth-last-child", some .minus, "", some "n", some .plus, "2"⟩ =
      some 2 := by decide
  have hkids : listTree.elementChildren 1 = [2, 3, 4] := by cbv
  rcases holds_repeat htokens (List.mem_cons_of_mem _ List.mem_cons_self) hk with
    ⟨hoffset, -⟩ | ⟨-, filter, hfilter, hlast⟩
  · exact absurd hoffset (by decide)
  · obtain ⟨before, last, hsplit, hlength, hholds⟩ := hlast listTree 1 reachable_listTree
    have htwo : last.length = 2 := by
      rw [hkids] at hlength
      exact Int.ofNat_inj.mp hlength
    have hlast : [3, 4] = last := by
      have hsplit' : [2] ++ [3, 4] = before ++ last := hkids.symm.trans hsplit
      exact (List.append_inj' hsplit' htwo.symm).2
    exact ⟨_, filter, htokens, by simp, hk, hfilter, reachable_listTree, hkids,
      hholds.trans hlast.symm⟩

end Topiary.Query
