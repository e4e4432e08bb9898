import Mathlib.Data.List.Induction
import Mathlib.Data.List.Nodup
import Topiary.Proofs.Tree.Elements

/-!
Settings of attributes. Attributes that are set one after another come to a list in which every name
stands once, at the place where it was set first and with the value that it was set to last; look-
ups by name go through the index and find these values.
-/

namespace Topiary

variable {l : List Attribute} {a : Attribute} {name : String}

/-- The names of a list of settings in the order in which they are set first, each with the value
that it is set to last. -/
def lastSettings (l : List Attribute) : List Attribute :=
  (l.map Attribute.name).eraseDups.filterMap fun name => l.reverse.find? fun a => a.name == name

/-! ## One more setting -/

theorem eraseDups_concat {α : Type} [DecidableEq α] (l : List α) (a : α) :
    (l ++ [a]).eraseDups = if a ∈ l then l.eraseDups else l.eraseDups ++ [a] := by
  rw [List.eraseDups_append]
  by_cases h : a ∈ l <;> simp [List.removeAll, h, List.eraseDups_cons]

theorem nodup_eraseDups {α : Type} [DecidableEq α] (l : List α) : l.eraseDups.Nodup := by
  induction l using List.reverseRecOn with
  | nil => exact List.nodup_nil
  | append_singleton l a ih =>
    rw [eraseDups_concat]
    split
    · exact ih
    · rename_i h
      rw [← List.concat_eq_append, List.nodup_concat]
      exact ⟨fun hmem => h (List.mem_eraseDups.mp hmem), ih⟩

theorem eraseDups_of_nodup {α : Type} [DecidableEq α] {l : List α} (h : l.Nodup) :
    l.eraseDups = l := by
  induction l using List.reverseRecOn with
  | nil => rfl
  | append_singleton l a ih =>
    rw [← List.concat_eq_append, List.nodup_concat] at h
    rw [eraseDups_concat, if_neg h.1, ih h.2]

/-- A name that is set at all is set to something last. -/
theorem exists_last_setting (h : name ∈ l.map Attribute.name) :
    ∃ a, l.reverse.find? (fun a => a.name == name) = some a ∧ a.name = name := by
  obtain ⟨a, ha, hname⟩ := List.mem_map.mp h
  have hsome : (l.reverse.find? fun a => a.name == name).isSome := by
    rw [List.find?_isSome]
    exact ⟨a, List.mem_reverse.mpr ha, by simp [hname]⟩
  obtain ⟨last, hlast⟩ := Option.isSome_iff_exists.mp hsome
  exact ⟨last, hlast, by simpa using List.find?_some hlast⟩

/-- Every name is listed once, where it is set first. -/
theorem names_lastSettings (l : List Attribute) :
    (lastSettings l).map Attribute.name = (l.map Attribute.name).eraseDups := by
  have hall : ∀ names : List String, (∀ name ∈ names, name ∈ l.map Attribute.name) →
      (names.filterMap fun name => l.reverse.find? fun a => a.name == name).map Attribute.name =
        names := by
    intro names hnames
    induction names with
    | nil => rfl
    | cons name names ih =>
      obtain ⟨a, ha, hname⟩ := exists_last_setting (hnames name List.mem_cons_self)
      rw [List.filterMap_cons, ha]
      simp only
      rw [List.map_cons, hname, ih fun other hother => hnames other (List.mem_cons_of_mem _ hother)]
  apply hall
  intro name hname
  exact List.mem_eraseDups.mp hname

theorem lastSettings_concat_of_not_mem (h : a.name ∉ l.map Attribute.name) :
    lastSettings (l ++ [a]) = lastSettings l ++ [a] := by
  rw [lastSettings, List.map_append, List.map_singleton, eraseDups_concat, if_neg h,
    List.filterMap_append, List.reverse_concat]
  congr 1
  · apply List.filterMap_congr
    intro name hname
    have hne : a.name ≠ name := by
      rintro rfl
      exact h (List.mem_eraseDups.mp hname)
    rw [List.find?_cons_of_neg (by simpa using hne)]
  · simp

theorem lastSettings_concat_of_mem (h : a.name ∈ l.map Attribute.name) :
    lastSettings (l ++ [a]) =
      (lastSettings l).map fun b => if b.name = a.name then { b with value := a.value } else b := by
  rw [lastSettings, List.map_append, List.map_singleton, eraseDups_concat, if_pos h,
    List.reverse_concat, lastSettings, List.map_filterMap]
  apply List.filterMap_congr
  intro name hname
  obtain ⟨last, hlast, hsame⟩ := exists_last_setting (List.mem_eraseDups.mp hname)
  rw [hlast, Option.map_some, hsame]
  by_cases heq : name = a.name
  · subst heq
    rw [if_pos rfl, List.find?_cons_of_pos (by simp)]
  · rw [if_neg heq, List.find?_cons_of_neg (by simpa using Ne.symm heq), hlast]

/-! ## The last setting of a name -/

/-- A name is set to this value last. -/
def SetLast (l : List Attribute) (name value : String) : Prop :=
  ∃ before behind, l = before ++ ⟨name, value⟩ :: behind ∧ name ∉ behind.map Attribute.name

theorem find?_reverse_eq_some_iff : l.reverse.find? (fun s => s.name == name) = some a ↔
    a.name = name ∧ SetLast l name a.value := by
  rw [List.find?_eq_some_iff_append]
  constructor
  · rintro ⟨hname, behind, before, hl, hother⟩
    obtain rfl : a.name = name := by simpa using hname
    refine ⟨rfl, before.reverse, behind.reverse, ?_, ?_⟩
    · rw [← List.reverse_reverse l, hl]
      simp
    · intro hmem
      obtain ⟨s, hs, hsame⟩ := List.mem_map.mp hmem
      simpa [hsame] using hother s (List.mem_reverse.mp hs)
  · rintro ⟨rfl, before, behind, rfl, hother⟩
    refine ⟨by simp, behind.reverse, before.reverse, by simp, ?_⟩
    intro s hs
    have hne : s.name ≠ a.name := by
      intro hsame
      exact hother (List.mem_map.mpr ⟨s, List.mem_reverse.mp hs, hsame⟩)
    simp [hne]

theorem exists_setLast (h : name ∈ l.map Attribute.name) : ∃ value, SetLast l name value := by
  obtain ⟨a, ha, -⟩ := exists_last_setting h
  exact ⟨a.value, (find?_reverse_eq_some_iff.mp ha).2⟩

theorem SetLast.mem_names {value : String} (h : SetLast l name value) :
    name ∈ l.map Attribute.name := by
  obtain ⟨before, behind, rfl, -⟩ := h
  simp

/-- The last settings are listed with the values that the names are set to last. -/
theorem mem_lastSettings {value : String} :
    ⟨name, value⟩ ∈ lastSettings l ↔ SetLast l name value := by
  rw [lastSettings, List.mem_filterMap]
  constructor
  · rintro ⟨other, -, hfind⟩
    obtain ⟨rfl, hset⟩ := find?_reverse_eq_some_iff.mp hfind
    exact hset
  · intro hset
    refine ⟨name, List.mem_eraseDups.mpr hset.mem_names, ?_⟩
    exact find?_reverse_eq_some_iff.mpr ⟨rfl, hset⟩

/-! ## Setting attributes -/

namespace Attributes

/-- Changing the entry of a name is changing all entries of that name, since there is one. -/
theorem modify_eq_map {f : Attribute → Attribute} (hnodup : (l.map Attribute.name).Nodup) {i : Nat}
    (h : l.findIdx? (fun entry => entry.name == name) = some i) :
    l.modify i f = l.map fun entry => if entry.name = name then f entry else entry := by
  induction l generalizing i with
  | nil => simp at h
  | cons entry l ih =>
    rw [List.map_cons, List.nodup_cons] at hnodup
    rw [List.findIdx?_cons] at h
    by_cases hname : entry.name = name
    · obtain rfl : 0 = i := by simpa [hname] using h
      have hrest : l.map (fun entry => if entry.name = name then f entry else entry) = l := by
        conv_rhs => rw [← List.map_id l]
        apply List.map_congr_left
        intro other hother
        have hne : other.name ≠ name := by
          intro hsame
          exact hnodup.1 (List.mem_map.mpr ⟨other, hother, hsame.trans hname.symm⟩)
        rw [if_neg hne]
        rfl
      rw [List.map_cons, if_pos hname, hrest]
      rfl
    · have hbeq : (entry.name == name) = false := beq_eq_false_iff_ne.mpr hname
      rw [hbeq] at h
      obtain ⟨j, hj, rfl⟩ := Option.map_eq_some_iff.mp h
      rw [List.map_cons, if_neg hname, List.modify_succ_cons, ih hnodup.2 hj]

/-- The names with their places, counted from `offset` on, find each name where it comes first. -/
theorem lookup_zipIdx (names : List String) (offset : Nat) (name : String) :
    (names.zipIdx offset).lookup name =
      (names.findIdx? fun other => other == name).map fun place => place + offset := by
  induction names generalizing offset with
  | nil => rfl
  | cons other names ih =>
    rw [List.zipIdx_cons, List.lookup_cons, List.findIdx?_cons, ih]
    by_cases hname : other = name
    · simp [hname]
    · rw [beq_false_of_ne hname, beq_false_of_ne (Ne.symm hname), if_neg Bool.false_ne_true,
        Option.map_map]
      simp only [Function.comp_def, Nat.add_assoc, Nat.add_comm 1]

/-- The attributes with the given entries, indexed in their order. -/
def ofEntries (entries : List Attribute) : Attributes where
  entries := entries
  index := (entries.map Attribute.name).zipIdx
  indexed name := by
    rw [lookup_zipIdx, List.findIdx?_map]
    simp [Function.comp_def]

theorem index_ofEntries (entries : List Attribute) :
    (ofEntries entries).index = (entries.map Attribute.name).zipIdx := rfl

/-- Setting a name keeps the index in the order of the entries. -/
theorem eq_ofEntries_set {a : Attributes} (h : a = ofEntries a.entries) (name value : String) :
    a.set name value = ofEntries (a.set name value).entries := by
  have hindex : a.index = (a.entries.map Attribute.name).zipIdx := congrArg index h
  refine Attributes.ext rfl ?_
  rw [index_ofEntries]
  cases hplace : a.place? name with
  | none =>
    rw [(set_of_none hplace).2, (set_of_none hplace).1, hindex, List.map_append,
      List.zipIdx_append]
    simp
  | some place =>
    rw [(set_of_place? hplace).2, (set_of_place? hplace).1, hindex, names_modify]

/-- What settings one after another come to. -/
def ofSettings (l : List Attribute) : Attributes :=
  l.foldl (fun attributes a => attributes.set a.name a.value) empty

theorem ofSettings_concat (l : List Attribute) (s : Attribute) :
    ofSettings (l ++ [s]) = (ofSettings l).set s.name s.value := by
  rw [ofSettings, List.foldl_append]
  rfl

/-- Attributes that are set one after another are the last settings of their names. -/
theorem entries_ofSettings (l : List Attribute) : (ofSettings l).entries = lastSettings l := by
  induction l using List.reverseRecOn with
  | nil => rfl
  | append_singleton l a ih =>
    rw [ofSettings_concat]
    generalize ofSettings l = attributes at ih
    have hnames := names_lastSettings l
    rw [← ih] at hnames
    cases hplace : attributes.place? a.name with
    | none =>
      have hnot : a.name ∉ l.map Attribute.name := by
        intro hmem
        rw [← List.mem_eraseDups, ← hnames, List.mem_map] at hmem
        obtain ⟨entry, hentry, hname⟩ := hmem
        rw [place?, attributes.indexed] at hplace
        have hnone := List.findIdx?_eq_none_iff.mp hplace entry hentry
        simp [hname] at hnone
      rw [(set_of_none hplace).1, lastSettings_concat_of_not_mem hnot, ih]
    | some place =>
      obtain ⟨entry, hentry, hname⟩ := mem_of_place? hplace
      have hmem : a.name ∈ l.map Attribute.name := by
        rw [← List.mem_eraseDups, ← hnames, List.mem_map]
        exact ⟨entry, List.mem_of_getElem? hentry, hname⟩
      have hnodup : (attributes.entries.map Attribute.name).Nodup := by
        rw [hnames]
        exact nodup_eraseDups _
      rw [(set_of_place? hplace).1, lastSettings_concat_of_mem hmem, ← ih]
      rw [place?, attributes.indexed] at hplace
      exact modify_eq_map hnodup hplace

theorem ofSettings_eq (l : List Attribute) : ofSettings l = ofEntries (lastSettings l) := by
  rw [← entries_ofSettings]
  induction l using List.reverseRecOn with
  | nil => rfl
  | append_singleton l a ih =>
    rw [ofSettings_concat]
    exact eq_ofEntries_set ih a.name a.value

/-! ## An ordered map -/

section

variable {as : Attributes} {value : String} {place : Nat}

/-- Where names stand once, the index leads to every entry, and only there. -/
theorem place?_eq_some_iff (hnodup : (as.entries.map Attribute.name).Nodup) :
    as.place? name = some place ↔
      ∃ h : place < as.entries.length, as.entries[place].name = name := by
  rw [place?, as.indexed, List.findIdx?_eq_some_iff_getElem]
  constructor
  · rintro ⟨hlt, hname, -⟩
    exact ⟨hlt, by simpa using hname⟩
  · rintro ⟨hlt, rfl⟩
    refine ⟨hlt, by simp, ?_⟩
    intro earlier hearlier hsame
    have hplace : place < (as.entries.map Attribute.name).length := by simpa using hlt
    have hlower := Nat.lt_trans hearlier hplace
    have hnames : (as.entries.map Attribute.name)[earlier] =
        (as.entries.map Attribute.name)[place] := by simpa using hsame
    exact absurd (hnodup.getElem_inj_iff.mp hnames) (Nat.ne_of_lt hearlier)

theorem get?_eq_some_iff (hnodup : (as.entries.map Attribute.name).Nodup) :
    as.get? name = some value ↔ ⟨name, value⟩ ∈ as.entries := by
  rw [List.mem_iff_getElem]
  constructor
  · intro hget
    cases hplace : as.place? name with
    | none =>
      rw [get?_of_none hplace] at hget
      cases hget
    | some place =>
      obtain ⟨hlt, hname⟩ := (place?_eq_some_iff hnodup).mp hplace
      rw [get?_of_place? hplace, List.getElem?_eq_getElem hlt] at hget
      refine ⟨place, hlt, ?_⟩
      rw [← hname, ← Option.some.inj hget]
  · rintro ⟨place, hlt, hentry⟩
    have hplace : as.place? name = some place :=
      (place?_eq_some_iff hnodup).mpr ⟨hlt, by rw [hentry]⟩
    rw [get?_of_place? hplace, List.getElem?_eq_getElem hlt, hentry]
    rfl

theorem contains_iff : as.contains name = true ↔ name ∈ as.entries.map Attribute.name := by
  rw [contains, place?, as.indexed, List.findIdx?_isSome, List.any_eq_true, List.mem_map]
  simp

end

/-- Attributes are the ordered map that a list of settings writes. -/
structure Records (as : Attributes) (l : List Attribute) : Prop where
  /-- The names that are set are listed in the order in which they are set first. -/
  names : as.entries.map Attribute.name = (l.map Attribute.name).eraseDups
  /-- No name is listed twice. -/
  nodup : (as.entries.map Attribute.name).Nodup
  values : ∀ name value, ⟨name, value⟩ ∈ as.entries ↔ SetLast l name value
  get? : ∀ name value, as.get? name = some value ↔ SetLast l name value
  get?_none : ∀ name, as.get? name = none ↔ name ∉ l.map Attribute.name
  contains : ∀ name, as.contains name = true ↔ name ∈ l.map Attribute.name
  /-- The index gives for every name that is listed the place of its entry, and nothing else. -/
  places : ∀ name place, as.index.lookup name = some place ↔
    ∃ h : place < as.entries.length, as.entries[place].name = name

/-- Attributes that are set one after another are the ordered map that the settings write. -/
theorem ofSettings_records (l : List Attribute) : (ofSettings l).Records l := by
  have hentries := entries_ofSettings l
  have hnames := names_lastSettings l
  rw [← hentries] at hnames
  have hnodup : ((ofSettings l).entries.map Attribute.name).Nodup := by
    rw [hnames]
    exact nodup_eraseDups _
  have hget : ∀ name value, (ofSettings l).get? name = some value ↔ SetLast l name value := by
    intro name value
    rw [get?_eq_some_iff hnodup, hentries, mem_lastSettings]
  have hcontains : ∀ name, (ofSettings l).contains name = true ↔ name ∈ l.map Attribute.name := by
    intro name
    rw [contains_iff, hnames, List.mem_eraseDups]
  constructor
  · exact hnames
  · exact hnodup
  · intro name value
    rw [hentries, mem_lastSettings]
  · exact hget
  · intro name
    constructor
    · intro hnone hmem
      obtain ⟨value, hset⟩ := exists_setLast hmem
      rw [(hget name value).mpr hset] at hnone
      cases hnone
    · intro hnot
      refine Option.eq_none_iff_forall_ne_some.mpr fun value hvalue => hnot ?_
      exact ((hget name value).mp hvalue).mem_names
  · exact hcontains
  · intro name place
    exact place?_eq_some_iff hnodup

/-- A name that is set again keeps its place. -/
example : (ofSettings [⟨"a", "1"⟩, ⟨"b", "2"⟩, ⟨"a", "3"⟩]).entries = [⟨"a", "3"⟩, ⟨"b", "2"⟩] := by
  decide

end Attributes

end Topiary
