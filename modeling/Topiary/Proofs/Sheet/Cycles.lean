import Mathlib
import Topiary.Proofs.Sheet.Visits
import Topiary.Sheet.Read

/-!
Limits on imports. The depth limit cuts off the longer paths, so a higher limit only adds rules, and
beyond the number of addresses there are it adds none. Imported sheets are never expanded inside
their own expansion; the top-level sheet is, as soon as a path of imports leads back to it within
the limit, since its address is not among those that flattening keeps.
-/

namespace Topiary.Sheet

variable {parse : String → Except ParseError Stylesheet} {loader : Loader} {depth depth' : Nat}
  {base : Option String} {entries : List Entry} {sheet : Stylesheet} {v : Visit}

/-! ## Sheets by address -/

/-- A family of sheets: an import is resolved to an address, and the text is the one found there. -/
def Loader.ofSheets (resolve : String → Option String → String)
    (sheets : String → Option String) : Loader :=
  fun url base => (sheets (resolve url base)).map (Loaded.mk (resolve url base))

variable {resolve : String → Option String → String} {sheets : String → Option String}
  {top css x url : String} {loaded : Loaded} {before between behind : List String}

theorem Loader.sheets_of_ofSheets (h : Loader.ofSheets resolve sheets url base = some loaded) :
    sheets loaded.url = some loaded.css := by
  obtain ⟨css, hcss, rfl⟩ := Option.map_eq_some_iff.mp h
  exact hcss

/-- The sheets `a.css` and `b.css`, each of which imports the other before its own rule. -/
def ringSheets (url : String) : Option String :=
  if url = "a.css" then some "@import \"b.css\"; a\x7b\x7d"
  else if url = "b.css" then some "@import \"a.css\"; b\x7b\x7d"
  else none

/-- The loader that takes every address as it is written. -/
def ringLoader : Loader :=
  .ofSheets (fun url _ => url) ringSheets

/-- The sheet at `a.css`. -/
def ringTop : Stylesheet := ⟨[.load "b.css", .rule ⟨"a", none⟩]⟩

theorem parse_ringTop : Sheet.parse "@import \"b.css\"; a\x7b\x7d" = .ok ringTop := by cbv

theorem parse_ringOther :
    Sheet.parse "@import \"a.css\"; b\x7b\x7d" = .ok ⟨[.load "a.css", .rule ⟨"b", none⟩]⟩ := by cbv

theorem mem_of_ringLoader (h : ringLoader url base = some loaded) :
    loaded.url ∈ ({"a.css", "b.css"} : Finset String) := by
  have hfound := Loader.sheets_of_ofSheets h
  rw [ringSheets] at hfound
  split at hfound
  · rename_i ha
    simp [ha]
  · split at hfound
    · rename_i hb
      simp [hb]
    · simp at hfound

/-! ## The depth limit -/

/-- No two visits have the same place. -/
theorem nodup_flattenVisits : (flattenVisits parse loader depth sheet).Nodup := by
  apply pairwise_visits.imp
  intro u v huv heq
  rw [heq] at huv
  exact List.lt_irrefl _ huv

/-- The visits within a lower limit are those whose path it allows. -/
theorem flattenVisits_of_le (h : depth ≤ depth') : flattenVisits parse loader depth sheet =
    (flattenVisits parse loader depth' sheet).filter fun v => v.chain.length ≤ depth := by
  have hperm : (flattenVisits parse loader depth sheet).Perm
      ((flattenVisits parse loader depth' sheet).filter fun v => v.chain.length ≤ depth) := by
    rw [List.perm_ext_iff_of_nodup nodup_flattenVisits (nodup_flattenVisits.filter _)]
    intro v
    rw [List.mem_filter, mem_flattenVisits_iff, mem_flattenVisits_iff, decide_eq_true_eq]
    constructor
    · rintro ⟨hleads, hlength, hnodup⟩
      exact ⟨⟨hleads, Nat.le_trans hlength h, hnodup⟩, hlength⟩
    · rintro ⟨⟨hleads, -, hnodup⟩, hlength⟩
      exact ⟨hleads, hlength, hnodup⟩
  refine hperm.eq_of_pairwise (fun u v _ _ huv hvu => ?_) pairwise_visits
    (pairwise_visits.filter _)
  exact absurd (List.lt_trans huv hvu) (List.lt_irrefl _)

theorem Leads.mem_of_mem_chain {urls : Finset String}
    (hurls : ∀ url base loaded, loader url base = some loaded → loaded.url ∈ urls)
    (h : Leads parse loader base entries v) : ∀ url ∈ v.chain, url ∈ urls := by
  induction h with
  | here => simp
  | through _ hloaded _ _ ih =>
    intro url hurl
    rcases List.mem_cons.mp hurl with rfl | hurl
    · exact hurls _ _ _ hloaded
    · exact ih url hurl

/-- A higher limit adds rules and takes none away, and a limit as high as the number of addresses
that imports can lead to is as good as none. -/
theorem flatten_depth (parse : String → Except ParseError Stylesheet) (loader : Loader)
    (sheet : Stylesheet) :
    (∀ depth depth', depth ≤ depth' → (rulesOf (flatten parse loader depth sheet)).Sublist
      (rulesOf (flatten parse loader depth' sheet))) ∧
    ∀ urls : Finset String,
      (∀ url base loaded, loader url base = some loaded → loaded.url ∈ urls) →
      ∀ depth, urls.card ≤ depth → rulesOf (flatten parse loader depth sheet) =
        rulesOf (flatten parse loader urls.card sheet) := by
  constructor
  · intro depth depth' hle
    rw [rulesOf_flatten, rulesOf_flatten, flattenVisits_of_le hle]
    exact List.filter_sublist.filterMap _
  · intro urls hurls depth hle
    have hall : ∀ v ∈ flattenVisits parse loader depth sheet,
        decide (v.chain.length ≤ urls.card) = true := by
      intro v hv
      obtain ⟨hleads, -, hnodup⟩ := mem_flattenVisits_iff.mp hv
      rw [decide_eq_true_eq, ← List.toFinset_card_of_nodup hnodup]
      refine Finset.card_le_card fun url hurl => ?_
      exact hleads.mem_of_mem_chain hurls url (List.mem_toFinset.mp hurl)
    rw [rulesOf_flatten, rulesOf_flatten, flattenVisits_of_le hle, List.filter_eq_self.mpr hall]

/-- Two addresses allow two levels of imports. -/
theorem flatten_depth_ring :
    (∀ url base loaded, ringLoader url base = some loaded →
      loaded.url ∈ ({"a.css", "b.css"} : Finset String)) ∧
    (rulesOf (flatten Sheet.parse ringLoader 1 ringTop)).Sublist
      (rulesOf (flatten Sheet.parse ringLoader 2 ringTop)) ∧
    rulesOf (flatten Sheet.parse ringLoader 16 ringTop) =
      rulesOf (flatten Sheet.parse ringLoader 2 ringTop) := by
  have hurls : ∀ url base loaded, ringLoader url base = some loaded →
      loaded.url ∈ ({"a.css", "b.css"} : Finset String) := fun _ _ _ h => mem_of_ringLoader h
  obtain ⟨hmono, hsaturates⟩ := flatten_depth Sheet.parse ringLoader ringTop
  exact ⟨hurls, hmono 1 2 (by decide), hsaturates _ hurls 16 (by decide)⟩

/-! ## Cycles -/

/-- A path through the sheet at an address can be cut there: it goes on with a path of this sheet,
and any other path of this sheet may take the place of that one. -/
theorem Leads.cut (h : Leads parse (.ofSheets resolve sheets) base entries v)
    (hv : v.chain = before ++ x :: behind) :
    ∃ css sheet u, sheets x = some css ∧ parse css = .ok sheet ∧
      Leads parse (.ofSheets resolve sheets) (some x) sheet.entries u ∧ u.chain = behind ∧
      u.entry = v.entry ∧
      ∀ u', Leads parse (.ofSheets resolve sheets) (some x) sheet.entries u' →
        ∃ v', Leads parse (.ofSheets resolve sheets) base entries v' ∧
          v'.chain = before ++ x :: u'.chain ∧ v'.entry = u'.entry := by
  induction h generalizing before with
  | here => simp at hv
  | @through base entries i url loaded sheet v hentry hloaded hsheet hrest ih =>
    cases before with
    | nil =>
      obtain ⟨rfl, rfl⟩ := List.cons.inj hv
      exact ⟨loaded.css, sheet, v, Loader.sheets_of_ofSheets hloaded, hsheet, hrest, rfl, rfl,
        fun u' hu' => ⟨u'.within i loaded.url, .through hentry hloaded hsheet hu', rfl, rfl⟩⟩
    | cons first before =>
      obtain ⟨rfl, hchain⟩ := List.cons.inj hv
      obtain ⟨css, inner, u, hcss, hinner, hu, hbehind, hsame, hswap⟩ := ih hchain
      refine ⟨css, inner, u, hcss, hinner, hu, hbehind, hsame, fun u' hu' => ?_⟩
      obtain ⟨v', hv', hchain', hentry'⟩ := hswap u' hu'
      exact ⟨v'.within i loaded.url, .through hentry hloaded hsheet hv',
        congrArg (loaded.url :: ·) hchain', hentry'⟩

theorem exists_twice_of_not_nodup {l : List String} (h : ¬ l.Nodup) :
    ∃ before x between behind, l = before ++ x :: (between ++ x :: behind) := by
  induction l with
  | nil => exact absurd List.nodup_nil h
  | cons y l ih =>
    by_cases hy : y ∈ l
    · obtain ⟨between, behind, rfl⟩ := List.append_of_mem hy
      exact ⟨[], y, between, behind, rfl⟩
    · obtain ⟨before, x, between, behind, rfl⟩ := ih fun hl => h (List.nodup_cons.mpr ⟨hy, hl⟩)
      exact ⟨y :: before, x, between, behind, rfl⟩

/-- Whatever a path leads to, a path that comes to no address twice leads to it as well, from the
same last sheet: what lies between two comings to an address can be left out. -/
theorem Leads.exists_nodup (h : Leads parse (.ofSheets resolve sheets) base entries v) :
    ∃ u, Leads parse (.ofSheets resolve sheets) base entries u ∧ u.chain.Nodup ∧
      u.chain.length ≤ v.chain.length ∧ u.chain.getLast? = v.chain.getLast? ∧
      u.entry = v.entry := by
  induction hlength : v.chain.length using Nat.strong_induction_on generalizing v with
  | h n ih =>
    by_cases hnodup : v.chain.Nodup
    · exact ⟨v, h, hnodup, Nat.le_of_eq hlength, rfl, rfl⟩
    · obtain ⟨before, x, between, behind, hchain⟩ := exists_twice_of_not_nodup hnodup
      obtain ⟨css, sheet, u, hcss, hsheet, hu, hrest, hsame, hswap⟩ := h.cut hchain
      obtain ⟨css', sheet', u', hcss', hsheet', hu', hrest', hsame', -⟩ := hu.cut hrest
      -- both times the address is that of the same sheet
      obtain rfl : css = css' := Option.some.inj (hcss.symm.trans hcss')
      obtain rfl : sheet = sheet' := Except.ok.inj (hsheet.symm.trans hsheet')
      obtain ⟨short, hshort, hchain', hentry⟩ := hswap u' hu'
      rw [hrest'] at hchain'
      have hlt : short.chain.length < n := by
        rw [← hlength, hchain, hchain']
        simp only [List.length_append, List.length_cons]
        omega
      have hlast : short.chain.getLast? = v.chain.getLast? := by
        rw [hchain, hchain', List.getLast?_append_cons, List.getLast?_append_cons,
          ← List.cons_append, List.getLast?_append_cons]
      obtain ⟨w, hw, hwnodup, hwlength, hwlast, hwentry⟩ := ih _ hlt hshort rfl
      exact ⟨w, hw, hwnodup, Nat.le_trans hwlength (Nat.le_of_lt hlt), hwlast.trans hlast,
        hwentry.trans (hentry.trans (hsame'.trans hsame))⟩

/-- Where a path leads back to the top-level sheet, each entry of this sheet is come to inside. -/
theorem exists_inside (hcss : sheets top = some css) (hsheet : parse css = .ok sheet)
    (h : Leads parse (.ofSheets resolve sheets) none sheet.entries v) (htop : top ∈ v.chain)
    (hlength : v.chain.length ≤ depth) {entry : Entry} (hentry : entry ∈ sheet.entries) :
    ∃ u ∈ flattenVisits parse (.ofSheets resolve sheets) depth sheet,
      u.entry = entry ∧ top ∈ u.chain := by
  obtain ⟨before, behind, hchain⟩ := List.append_of_mem htop
  obtain ⟨css', sheet', u, hcss', hsheet', -, -, -, hswap⟩ := h.cut hchain
  obtain rfl : css = css' := Option.some.inj (hcss.symm.trans hcss')
  obtain rfl : sheet = sheet' := Except.ok.inj (hsheet.symm.trans hsheet')
  obtain ⟨i, hi⟩ := List.getElem?_of_mem hentry
  obtain ⟨back, hback, hbackchain, hbackentry⟩ := hswap _ (.here hi)
  obtain ⟨w, hw, hnodup, hle, hlast, hsame⟩ := hback.exists_nodup
  refine ⟨w, mem_flattenVisits_iff.mpr ⟨hw, ?_, hnodup⟩, hsame.trans hbackentry, ?_⟩
  · rw [hbackchain] at hle
    rw [hchain] at hlength
    simp only [List.length_append, List.length_cons, List.length_nil] at hle hlength
    omega
  · apply List.mem_of_getLast?
    rw [hlast, hbackchain]
    simp

/-- No sheet of a family, the top-level sheet included, is expanded while it is being expanded
exactly if no path of imports within the limit leads back to the top-level sheet. If one does, every
rule of the top-level sheet comes out once more inside the expansion of an import. -/
theorem flatten_refuses_iff (resolve : String → Option String → String)
    (hcss : sheets top = some css) (hsheet : parse css = .ok sheet) (maxDepth : Nat) :
    rulesOf (flatten parse (.ofSheets resolve sheets) maxDepth sheet) =
        (flattenVisits parse (.ofSheets resolve sheets) maxDepth sheet).filterMap Visit.rule? ∧
      ((∀ v ∈ flattenVisits parse (.ofSheets resolve sheets) maxDepth sheet,
          (top :: v.chain).Nodup) ↔
        ∀ v, Leads parse (.ofSheets resolve sheets) none sheet.entries v →
          v.chain.length ≤ maxDepth → top ∉ v.chain) ∧
      ∀ rule ∈ sheet.rules,
        ((∃ v ∈ flattenVisits parse (.ofSheets resolve sheets) maxDepth sheet,
            v.rule? = some rule ∧ top ∈ v.chain) ↔
          ∃ v, Leads parse (.ofSheets resolve sheets) none sheet.entries v ∧
            v.chain.length ≤ maxDepth ∧ top ∈ v.chain) := by
  refine ⟨rulesOf_flatten sheet, ?_, fun rule hrule => ?_⟩
  · constructor
    · intro hrefused v hv hlength htop
      cases hv with
      | here => simp at htop
      | through hentry hloaded hparse hrest =>
        obtain ⟨u, hu, -, hmem⟩ := exists_inside hcss hsheet (.through hentry hloaded hparse hrest)
          htop hlength (List.mem_of_getElem? hentry)
        exact (List.nodup_cons.mp (hrefused u hu)).1 hmem
    · intro hnone v hv
      obtain ⟨hleads, hlength, hnodup⟩ := mem_flattenVisits_iff.mp hv
      exact List.nodup_cons.mpr ⟨hnone v hleads hlength, hnodup⟩
  · constructor
    · rintro ⟨v, hv, -, htop⟩
      obtain ⟨hleads, hlength, -⟩ := mem_flattenVisits_iff.mp hv
      exact ⟨v, hleads, hlength, htop⟩
    · rintro ⟨v, hv, hlength, htop⟩
      have hentry : Entry.rule rule ∈ sheet.entries := by
        obtain ⟨entry, hentry, hsome⟩ := List.mem_filterMap.mp hrule
        cases entry with
        | rule other => exact Option.some.inj hsome ▸ hentry
        | load url => simp at hsome
      obtain ⟨u, hu, hsame, hmem⟩ := exists_inside hcss hsheet hv htop hlength hentry
      exact ⟨u, hu, by rw [Visit.rule?, hsame], hmem⟩

/-- The path from `a.css` through `b.css` to the rule of `a.css`. -/
theorem leads_ring : Leads Sheet.parse ringLoader none ringTop.entries
    ⟨[0, 0, 1], ["b.css", "a.css"], .rule ⟨"a", none⟩⟩ := by
  have hrule : Leads Sheet.parse ringLoader (some "a.css") ringTop.entries
      ⟨[1], [], .rule ⟨"a", none⟩⟩ := .here rfl
  have hback : ringLoader "a.css" (some "b.css") =
      some ⟨"a.css", "@import \"b.css\"; a\x7b\x7d"⟩ := rfl
  have hout : ringLoader "b.css" none = some ⟨"b.css", "@import \"a.css\"; b\x7b\x7d"⟩ := rfl
  have hthere : Leads Sheet.parse ringLoader (some "b.css") [.load "a.css", .rule ⟨"b", none⟩]
      ⟨[0, 1], ["a.css"], .rule ⟨"a", none⟩⟩ := .through (i := 0) rfl hback parse_ringTop hrule
  exact .through (i := 0) rfl hout parse_ringOther hthere

theorem flatten_refuses_iff_ring :
    ringSheets "a.css" = some "@import \"b.css\"; a\x7b\x7d" ∧
      Sheet.parse "@import \"b.css\"; a\x7b\x7d" = .ok ringTop ∧
      ¬ (∀ v ∈ flattenVisits Sheet.parse ringLoader 8 ringTop, ("a.css" :: v.chain).Nodup) ∧
      ∃ v ∈ flattenVisits Sheet.parse ringLoader 8 ringTop,
        v.rule? = some ⟨"a", none⟩ ∧ "a.css" ∈ v.chain := by
  have hcss : ringSheets "a.css" = some "@import \"b.css\"; a\x7b\x7d" := rfl
  obtain ⟨-, hrefuses, hinside⟩ := flatten_refuses_iff (fun url _ => url) hcss parse_ringTop 8
  refine ⟨hcss, parse_ringTop, fun hall => ?_, ?_⟩
  · exact hrefuses.mp hall _ leads_ring (by decide) (by decide)
  · exact (hinside ⟨"a", none⟩ (by decide)).mpr ⟨_, leads_ring, by decide, by decide⟩

/-- The rule of the top-level sheet comes out inside the import that leads back to it, too. -/
theorem not_flatten_refuses_of_ring :
    ¬ ∀ (resolve : String → Option String → String) (sheets : String → Option String)
      (top css : String) (sheet : Stylesheet) (maxDepth : Nat),
      Loader.ofSheets resolve sheets top none = some ⟨top, css⟩ →
      Sheet.parse css = .ok sheet →
      ∀ v ∈ flattenVisits Sheet.parse (.ofSheets resolve sheets) maxDepth sheet,
        (top :: v.chain).Nodup := by
  intro hall
  have hvisit := mem_flattenVisits_iff.mpr
    ⟨leads_ring, Nat.le_refl _, by decide⟩
  have hnodup := hall (fun url _ => url) ringSheets "a.css" _ ringTop 2 rfl parse_ringTop _ hvisit
  exact absurd hnodup (by decide)

end Topiary.Sheet
