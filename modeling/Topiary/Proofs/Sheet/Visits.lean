import Topiary.Proofs.Tree.Precedence
import Topiary.Sheet.Flatten

/-!
Import paths. A path leads from the top-level sheet through imports, each of which loads and parses,
to one entry of the last sheet. Flattening comes to the entries along those paths that are short
enough and on which no address is met twice, in the lexicographic order of the places of the entries
along the path: every rule it comes to is emitted, and every import that is not too deep is asked
for with the address of the sheet that holds it.
-/

namespace Topiary.Sheet

variable {parse : String → Except ParseError Stylesheet} {loader : Loader} {depth : Nat}
  {chain : List String} {base : Option String} {url found : String} {entry : Entry}
  {entries inner : List Entry} {i : Nat}

/-- One coming to an entry. -/
structure Visit where
  /-- The places of the imports on the way, from the top-level sheet on, and that of the entry. -/
  place : List Nat
  /-- The addresses of the imported sheets on the way, outermost first. -/
  chain : List String
  entry : Entry

namespace Visit

variable {v : Visit}

/-- The visit as it is seen from a sheet whose entry at place `i` imports the sheet at `found`. -/
def within (i : Nat) (found : String) (v : Visit) : Visit :=
  ⟨i :: v.place, found :: v.chain, v.entry⟩

/-- The rule that a visit comes to. -/
def rule? (v : Visit) : Option Rule :=
  match v.entry with
  | .rule rule => some rule
  | .load _ => none

/-- The import that a visit comes to, relative to the sheet that holds it. -/
def request? (v : Visit) : Option (String × Option String) :=
  match v.entry with
  | .rule _ => none
  | .load url => some (url, v.chain.getLast?)

/-- What a visit brings about, where the outermost sheet was found at `base` and `depth` levels of
imports are allowed. -/
def event? (depth : Nat) (base : Option String) (v : Visit) : Option Event :=
  match v.entry with
  | .rule rule => some (.rule rule)
  | .load url =>
    if v.chain.length < depth then some (.load url (v.chain.getLast?.or base)) else none

theorem event?_within : (v.within i found).event? (depth + 1) base =
    v.event? depth (some found) := by
  obtain ⟨place, chain, entry⟩ := v
  cases entry with
  | rule rule => rfl
  | load url =>
    have hlast : ((found :: chain).getLast?.or base) = chain.getLast?.or (some found) := by
      rw [List.getLast?_cons]
      cases chain.getLast? <;> rfl
    simp only [event?, within, List.length_cons, Nat.add_lt_add_iff_right, hlast]

end Visit

variable {v : Visit}

/-- A visit along a path of imports that load and parse, from the entries of a sheet that was found
at `base`. -/
inductive Leads (parse : String → Except ParseError Stylesheet) (loader : Loader) :
    Option String → List Entry → Visit → Prop where
  | here {base : Option String} {entries : List Entry} {i : Nat} {entry : Entry}
      (hentry : entries[i]? = some entry) : Leads parse loader base entries ⟨[i], [], entry⟩
  | through {base : Option String} {entries : List Entry} {i : Nat} {url : String}
      {loaded : Loaded} {sheet : Stylesheet} {v : Visit} (hentry : entries[i]? = some (.load url))
      (hloaded : loader url base = some loaded) (hsheet : parse loaded.css = .ok sheet)
      (hrest : Leads parse loader (some loaded.url) sheet.entries v) :
      Leads parse loader base entries (v.within i loaded.url)

/-- The address and the entries of the sheet that an entry imports, if it is an import that loads
and parses and its address is none of those in `chain`. -/
def imported? (parse : String → Except ParseError Stylesheet) (loader : Loader)
    (chain : List String) (base : Option String) : Entry → Option (String × List Entry)
  | .rule _ => none
  | .load url =>
    match loader url base with
    | none => none
    | some loaded =>
      if chain.contains loaded.url then none
      else
        match parse loaded.css with
        | .error _ => none
        | .ok sheet => some (loaded.url, sheet.entries)

theorem imported?_eq_some_iff : imported? parse loader chain base entry = some (found, inner) ↔
    ∃ url loaded sheet, entry = .load url ∧ loader url base = some loaded ∧
      loaded.url ∉ chain ∧ parse loaded.css = .ok sheet ∧ loaded.url = found ∧
        sheet.entries = inner := by
  cases entry with
  | rule rule => simp [imported?]
  | load url =>
    rw [imported?]
    cases hloaded : loader url base with
    | none => simp [hloaded]
    | some loaded =>
      cases hsheet : parse loaded.css <;> by_cases hmem : loaded.url ∈ chain <;>
        simp [hloaded, hsheet, hmem]

/-- The visits below an import at place `i`, where `visit` tells those of the imported sheet. -/
def visitsBelow (visit : String → List Entry → List Visit) (i : Nat) :
    Option (String × List Entry) → List Visit
  | none => []
  | some (found, inner) => (visit found inner).map (.within i found)

/-- The visits of the entries of a sheet that was found at `base`, with the addresses in `chain`
being expanded and `depth` further levels of imports allowed. -/
def visits (parse : String → Except ParseError Stylesheet) (loader : Loader) (depth : Nat)
    (chain : List String) (base : Option String) (entries : List Entry) : List Visit :=
  entries.zipIdx.flatMap fun (entry, i) =>
    ⟨[i], [], entry⟩ ::
      match depth with
      | 0 => []
      | depth + 1 =>
        visitsBelow (fun found inner => visits parse loader depth (chain ++ [found]) (some found)
          inner) i (imported? parse loader chain base entry)

theorem mem_visitsBelow {visit : String → List Entry → List Visit}
    {sheet : Option (String × List Entry)} : v ∈ visitsBelow visit i sheet ↔
      ∃ found inner u, sheet = some (found, inner) ∧ u ∈ visit found inner ∧
        v = u.within i found := by
  cases sheet with
  | none => simp [visitsBelow]
  | some sheet => simp [visitsBelow, Prod.ext_iff, eq_comm]

theorem mem_visits_iff_entry : v ∈ visits parse loader depth chain base entries ↔
    ∃ i entry, entries[i]? = some entry ∧ (v = ⟨[i], [], entry⟩ ∨ ∃ below found inner u,
      depth = below + 1 ∧ imported? parse loader chain base entry = some (found, inner) ∧
        u ∈ visits parse loader below (chain ++ [found]) (some found) inner ∧
          v = u.within i found) := by
  rw [visits, List.mem_flatMap]
  constructor
  · rintro ⟨⟨entry, i⟩, hentry, hv⟩
    refine ⟨i, entry, List.mem_zipIdx_iff_getElem?.mp hentry, ?_⟩
    rcases List.mem_cons.mp hv with rfl | hv
    · exact Or.inl rfl
    · cases depth with
      | zero => simp at hv
      | succ below => exact Or.inr ⟨below, by simpa [mem_visitsBelow] using hv⟩
  · rintro ⟨i, entry, hentry, rfl | ⟨below, found, inner, u, rfl, himported, hu, rfl⟩⟩
    · exact ⟨(entry, i), List.mem_zipIdx_iff_getElem?.mpr hentry, List.mem_cons_self⟩
    · exact ⟨(entry, i), List.mem_zipIdx_iff_getElem?.mpr hentry, List.mem_cons_of_mem _
        (mem_visitsBelow.mpr ⟨found, inner, u, himported, hu, rfl⟩)⟩

/-- The visits are those along the paths that are short enough, come to no address twice, and come
to none that is being expanded. -/
theorem mem_visits_iff : v ∈ visits parse loader depth chain base entries ↔
    Leads parse loader base entries v ∧ v.chain.length ≤ depth ∧ v.chain.Nodup ∧
      ∀ url ∈ v.chain, url ∉ chain := by
  induction depth generalizing v chain base entries with
  | zero =>
    rw [mem_visits_iff_entry]
    constructor
    · rintro ⟨i, entry, hentry, rfl | ⟨below, found, inner, u, hdepth, -⟩⟩
      · exact ⟨.here hentry, Nat.le_refl _, List.nodup_nil, by simp⟩
      · simp at hdepth
    · rintro ⟨hleads, hlength, -⟩
      cases hleads with
      | here hentry => exact ⟨_, _, hentry, Or.inl rfl⟩
      | through => simp [Visit.within] at hlength
  | succ depth ih =>
    rw [mem_visits_iff_entry]
    constructor
    · rintro ⟨i, entry, hentry, rfl | ⟨below, found, inner, u, hdepth, himported, hu, rfl⟩⟩
      · exact ⟨.here hentry, Nat.zero_le _, List.nodup_nil, by simp⟩
      · obtain rfl := Nat.succ.inj hdepth
        obtain ⟨url, loaded, sheet, rfl, hloaded, hfresh, hsheet, rfl, rfl⟩ :=
          imported?_eq_some_iff.mp himported
        obtain ⟨hleads, hlength, hnodup, hapart⟩ := ih.mp hu
        refine ⟨.through hentry hloaded hsheet hleads, Nat.succ_le_succ hlength,
          List.nodup_cons.mpr ⟨fun hmem => ?_, hnodup⟩, fun url hurl => ?_⟩
        · exact hapart _ hmem (by simp)
        · rcases List.mem_cons.mp hurl with rfl | hurl
          · exact hfresh
          · exact fun hmem => hapart url hurl (by simp [hmem])
    · rintro ⟨hleads, hlength, hnodup, hapart⟩
      cases hleads with
      | here hentry => exact ⟨_, _, hentry, Or.inl rfl⟩
      | @through _ _ i url loaded sheet u hentry hloaded hsheet hrest =>
        obtain ⟨hnot, hnodup⟩ := List.nodup_cons.mp hnodup
        have himported : imported? parse loader chain base (.load url) =
            some (loaded.url, sheet.entries) :=
          imported?_eq_some_iff.mpr ⟨url, loaded, sheet, rfl, hloaded,
            hapart _ List.mem_cons_self, hsheet, rfl, rfl⟩
        refine ⟨i, _, hentry, Or.inr ⟨depth, _, _, u, rfl, himported, ?_, rfl⟩⟩
        refine ih.mpr ⟨hrest, Nat.le_of_succ_le_succ hlength, hnodup, fun other hother hmem => ?_⟩
        rcases List.mem_append.mp hmem with hmem | hmem
        · exact hapart other (List.mem_cons_of_mem _ hother) hmem
        · rw [List.mem_singleton.mp hmem] at hother
          exact hnot hother

theorem Leads.place_ne_nil (h : Leads parse loader base entries v) : v.place ≠ [] := by
  cases h <;> simp [Visit.within]

theorem pairwise_zipIdx (entries : List Entry) : entries.zipIdx.Pairwise fun a b => a.2 < b.2 := by
  rw [List.pairwise_iff_getElem]
  intro i j hi hj hij
  simpa using hij

theorem exists_place {visit : String → List Entry → List Visit}
    {sheet : Option (String × List Entry)}
    (hv : v ∈ ⟨[i], [], entry⟩ :: visitsBelow visit i sheet) : ∃ rest, v.place = i :: rest := by
  rcases List.mem_cons.mp hv with rfl | hv
  · exact ⟨[], rfl⟩
  · obtain ⟨found, inner, u, -, -, rfl⟩ := mem_visitsBelow.mp hv
    exact ⟨u.place, rfl⟩

/-- The visits are in the order of their places: an import comes before what is below it, and what
is below it comes before the next entry. -/
theorem pairwise_visits : (visits parse loader depth chain base entries).Pairwise
    fun u v => u.place < v.place := by
  have hnext : ∀ {u v : Visit} {i j : Nat} {rest rest' : List Nat}, i < j →
      u.place = i :: rest → v.place = j :: rest' → u.place < v.place := by
    intro u v i j rest rest' hij hu hv
    rw [hu, hv]
    exact List.cons_lt_cons_iff.mpr (Or.inl hij)
  induction depth generalizing chain base entries with
  | zero =>
    rw [visits, List.pairwise_flatMap]
    refine ⟨fun _ _ => List.pairwise_singleton _ _, (pairwise_zipIdx entries).imp ?_⟩
    intro a b hab u hu v hv
    exact hnext hab (by rw [List.mem_singleton.mp hu]) (by rw [List.mem_singleton.mp hv])
  | succ depth ih =>
    rw [visits, List.pairwise_flatMap]
    constructor
    · rintro ⟨entry, i⟩ -
      refine List.pairwise_cons.mpr ⟨fun v hv => ?_, ?_⟩
      · obtain ⟨found, inner, u, -, hu, rfl⟩ := mem_visitsBelow.mp hv
        obtain ⟨j, rest, hplace⟩ :=
          List.exists_cons_of_ne_nil (mem_visits_iff.mp hu).1.place_ne_nil
        exact List.cons_lt_cons_iff.mpr (Or.inr ⟨rfl, hplace ▸ List.nil_lt_cons j rest⟩)
      · cases imported? parse loader chain base entry with
        | none => exact List.Pairwise.nil
        | some sheet =>
          exact List.pairwise_map.mpr
            (ih.imp fun huv => List.cons_lt_cons_iff.mpr (Or.inr ⟨rfl, huv⟩))
    · refine (pairwise_zipIdx entries).imp ?_
      intro a b hab u hu v hv
      obtain ⟨rest, hu⟩ := exists_place hu
      obtain ⟨rest', hv⟩ := exists_place hv
      exact hnext hab hu hv

theorem filterMap_visitsBelow {visit : String → List Entry → List Visit}
    {sheet : Option (String × List Entry)} :
    (visitsBelow visit i sheet).filterMap (Visit.event? (depth + 1) base) =
      sheet.elim [] fun sheet =>
        (visit sheet.1 sheet.2).filterMap (Visit.event? depth (some sheet.1)) := by
  cases sheet with
  | none => rfl
  | some sheet =>
    rw [visitsBelow, List.filterMap_map]
    exact congrArg (List.filterMap · _) (funext fun v => Visit.event?_within)

/-- Expanding does what the visits bring about, one after another. -/
theorem expand_eq : expand parse loader depth chain base entries =
    (visits parse loader depth chain base entries).filterMap (Visit.event? depth base) := by
  induction depth generalizing chain base entries with
  | zero =>
    rw [visits, expand, List.filterMap_flatMap]
    conv_lhs => rw [← List.zipIdx_map_fst 0 entries, List.flatMap_map]
    refine List.flatMap_congr fun a _ => ?_
    obtain ⟨entry, i⟩ := a
    cases entry <;> rfl
  | succ depth ih =>
    rw [visits, expand, List.filterMap_flatMap]
    conv_lhs => rw [← List.zipIdx_map_fst 0 entries, List.flatMap_map]
    refine List.flatMap_congr fun a _ => ?_
    obtain ⟨entry, i⟩ := a
    cases entry with
    | rule rule => rfl
    | load url =>
      have hload : Visit.event? (depth + 1) base ⟨[i], [], .load url⟩ = some (.load url base) := rfl
      simp only [List.filterMap_cons_some hload, filterMap_visitsBelow, imported?]
      cases loader url base with
      | none => rfl
      | some loaded =>
        simp only
        split
        · rfl
        · cases parse loaded.css with
          | error cause => rfl
          | ok sheet => simp only [ih, Option.elim_some]

/-! ## Rules and requests -/

theorem rulesOf_expand : rulesOf (expand parse loader depth chain base entries) =
    (visits parse loader depth chain base entries).filterMap Visit.rule? := by
  rw [expand_eq, rulesOf, List.filterMap_filterMap]
  congr 1
  funext v
  obtain ⟨place, chain, entry⟩ := v
  cases entry with
  | rule rule => rfl
  | load url =>
    simp only [Visit.event?, Visit.rule?]
    split <;> rfl

theorem loadsOf_expand : loadsOf (expand parse loader depth chain none entries) =
    ((visits parse loader depth chain none entries).filter
      fun v => v.chain.length < depth).filterMap Visit.request? := by
  rw [expand_eq, loadsOf, List.filterMap_filterMap, List.filterMap_filter]
  congr 1
  funext v
  obtain ⟨place, chain, entry⟩ := v
  cases entry with
  | rule rule => simp [Visit.event?, Visit.request?]
  | load url =>
    simp only [Visit.event?, Visit.request?, Option.or_none, decide_eq_true_eq]
    split <;> rfl

/-! ## Top-level sheets -/

/-- The visits of flattening a top-level sheet. -/
def flattenVisits (parse : String → Except ParseError Stylesheet) (loader : Loader)
    (maxDepth : Nat) (sheet : Stylesheet) : List Visit :=
  visits parse loader maxDepth [] none sheet.entries

theorem mem_flattenVisits_iff {sheet : Stylesheet} : v ∈ flattenVisits parse loader depth sheet ↔
    Leads parse loader none sheet.entries v ∧ v.chain.length ≤ depth ∧ v.chain.Nodup := by
  rw [flattenVisits, mem_visits_iff]
  simp

theorem rulesOf_flatten (sheet : Stylesheet) : rulesOf (flatten parse loader depth sheet) =
    (flattenVisits parse loader depth sheet).filterMap Visit.rule? :=
  rulesOf_expand

/-- Flattening reads a sheet along its import paths. There is one visit for each entry and each path
to it that is short enough and comes to no address twice, and they are in the lexicographic order of
the places on the way. The rules that come out are those of the visits, in this order, and so are
the imports that are asked for, each relative to the address of the sheet that holds it. -/
theorem flatten_reads (parse : String → Except ParseError Stylesheet) (loader : Loader)
    (maxDepth : Nat) (sheet : Stylesheet) :
    ∃ visits : List Visit, visits.Pairwise (fun u v => u.place < v.place) ∧
      (∀ v, v ∈ visits ↔ Leads parse loader none sheet.entries v ∧ v.chain.length ≤ maxDepth ∧
        v.chain.Nodup) ∧
      rulesOf (flatten parse loader maxDepth sheet) = visits.filterMap Visit.rule? ∧
      loadsOf (flatten parse loader maxDepth sheet) =
        (visits.filter fun v => v.chain.length < maxDepth).filterMap Visit.request? :=
  ⟨flattenVisits parse loader maxDepth sheet, pairwise_visits, fun _ => mem_flattenVisits_iff,
    rulesOf_flatten sheet, loadsOf_expand⟩

end Topiary.Sheet
