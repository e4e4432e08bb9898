import Mathlib.Data.List.Basic
import Topiary.Tree.Node

/-!
Attributes of elements. An attribute reads as it was set last, and all others read as before.
-/

namespace Topiary

namespace Attributes

variable {a : Attributes} {name other value : String} {entry : Attribute}

theorem mem_of_place? {place : Nat} (h : a.place? name = some place) :
    ∃ entry, a.entries[place]? = some entry ∧ entry.name = name := by
  rw [place?, a.indexed] at h
  obtain ⟨hlt, hname, -⟩ := List.findIdx?_eq_some_iff_getElem.mp h
  exact ⟨_, List.getElem?_eq_getElem hlt, by simpa using hname⟩

theorem set_of_place? {place : Nat} (h : a.place? name = some place) :
    (a.set name value).entries =
        a.entries.modify place (fun entry => { entry with value := value }) ∧
      (a.set name value).index = a.index := by
  unfold set
  split
  · rename_i found hfound
    obtain rfl : place = found := Option.some.inj (h.symm.trans hfound)
    exact ⟨rfl, rfl⟩
  · rename_i hnone
    cases h.symm.trans hnone

theorem set_of_none (h : a.place? name = none) :
    (a.set name value).entries = a.entries ++ [⟨name, value⟩] ∧
      (a.set name value).index = a.index ++ [(name, a.entries.length)] := by
  unfold set
  split
  · rename_i place hplace
    cases h.symm.trans hplace
  · exact ⟨rfl, rfl⟩

theorem getElem?_modify_self {l : List Attribute} {f : Attribute → Attribute} {i : Nat}
    (h : l[i]? = some entry) : (l.modify i f)[i]? = some (f entry) := by
  rw [List.getElem?_modify, h]
  simp

theorem getElem?_modify_of_ne {l : List Attribute} {f : Attribute → Attribute} {i j : Nat}
    (h : i ≠ j) : (l.modify i f)[j]? = l[j]? := by
  rw [List.getElem?_modify]
  simp [h]

theorem names_modify {l : List Attribute} {i : Nat} :
    (l.modify i fun entry => { entry with value := value }).map Attribute.name =
      l.map Attribute.name := by
  refine List.ext_getElem? fun j => ?_
  rw [List.getElem?_map, List.getElem?_map]
  by_cases hj : i = j
  · subst hj
    cases h : l[i]? with
    | none =>
      rw [List.getElem?_modify, h]
      rfl
    | some entry => rw [getElem?_modify_self h]; rfl
  · rw [getElem?_modify_of_ne hj]

theorem mem_set (h : entry ∈ (a.set name value).entries) :
    entry ∈ a.entries ∨ entry = ⟨name, value⟩ := by
  cases hplace : a.place? name with
  | none =>
    rw [(set_of_none hplace).1] at h
    simpa using h
  | some place =>
    rw [(set_of_place? hplace).1] at h
    obtain ⟨old, hold, hname⟩ := mem_of_place? hplace
    obtain ⟨i, hi⟩ := List.getElem?_of_mem h
    by_cases hp : place = i
    · subst hp
      rw [getElem?_modify_self hold] at hi
      obtain rfl := Option.some.inj hi
      exact Or.inr (by rw [← hname])
    · rw [getElem?_modify_of_ne hp] at hi
      exact Or.inl (List.mem_of_getElem? hi)

/-- Names that are there stay there, and the name that is set joins them. -/
theorem mem_names_set : other ∈ (a.set name value).entries.map Attribute.name ↔
    other ∈ a.entries.map Attribute.name ∨ other = name := by
  cases hplace : a.place? name with
  | none =>
    rw [(set_of_none hplace).1]
    simp
  | some place =>
    obtain ⟨old, hold, hname⟩ := mem_of_place? hplace
    rw [(set_of_place? hplace).1, names_modify]
    refine ⟨Or.inl, ?_⟩
    rintro (hother | rfl)
    · exact hother
    · exact List.mem_map.mpr ⟨old, List.mem_of_getElem? hold, hname⟩

theorem place?_eq (a : Attributes) (name : String) :
    a.place? name = (a.entries.map Attribute.name).findIdx? (· == name) := by
  rw [place?, a.indexed, List.findIdx?_map]
  rfl

theorem place?_set_of_place? {place : Nat} (h : a.place? name = some place) :
    (a.set name value).place? other = a.place? other := by
  rw [place?_eq, place?_eq, (set_of_place? h).1, names_modify]

theorem place?_set_of_none (h : a.place? name = none) : (a.set name value).place? other =
    if other = name then some a.entries.length else a.place? other := by
  rw [place?, a.indexed] at h
  rw [place?, indexed, (set_of_none (by rw [place?, a.indexed, h])).1, findIdx?_concat h,
    place?, a.indexed]

theorem get?_of_place? {place : Nat} (h : a.place? name = some place) :
    a.get? name = a.entries[place]?.map Attribute.value := by
  rw [get?, h]

theorem get?_of_none (h : a.place? name = none) : a.get? name = none := by
  rw [get?, h]

theorem get?_set_of_none (h : a.place? name = none) :
    (a.set name value).get? other = if other = name then some value else a.get? other := by
  have hset : (a.set name value).place? other = _ := place?_set_of_none h
  by_cases hne : other = name
  · rw [if_pos hne] at hset ⊢
    rw [get?_of_place? hset, (set_of_none h).1]
    simp
  · rw [if_neg hne] at hset ⊢
    cases hother : a.place? other with
    | none => rw [get?_of_none (hset.trans hother), get?_of_none hother]
    | some place =>
      obtain ⟨entry, hentry, -⟩ := mem_of_place? hother
      obtain ⟨hlt, -⟩ := List.getElem?_eq_some_iff.mp hentry
      rw [get?_of_place? (hset.trans hother), get?_of_place? hother, (set_of_none h).1,
        List.getElem?_append_left hlt]

theorem get?_set_of_place? {place : Nat} (h : a.place? name = some place) :
    (a.set name value).get? other = if other = name then some value else a.get? other := by
  obtain ⟨old, hold, hname⟩ := mem_of_place? h
  have hplace : (a.set name value).place? other = a.place? other := place?_set_of_place? h
  cases hother : a.place? other with
  | none =>
    have hne : other ≠ name := by
      rintro rfl
      rw [h] at hother
      simp at hother
    rw [if_neg hne, get?_of_none (hplace.trans hother), get?_of_none hother]
  | some place' =>
    obtain ⟨entry, hentry, hname'⟩ := mem_of_place? hother
    rw [get?_of_place? (hplace.trans hother), get?_of_place? hother, (set_of_place? h).1]
    by_cases hne : other = name
    · obtain rfl : place = place' := by
        rw [hne, h] at hother
        exact Option.some.inj hother
      rw [if_pos hne, getElem?_modify_self hold]
      rfl
    · have hplaces : place ≠ place' := by
        rintro rfl
        rw [hold] at hentry
        exact hne (hname'.symm.trans ((Option.some.inj hentry) ▸ hname))
      rw [if_neg hne, getElem?_modify_of_ne hplaces]

/-- A name that was just set has the value it was set to, and all others what they had. -/
theorem get?_set (a : Attributes) (name other value : String) :
    (a.set name value).get? other = if other = name then some value else a.get? other := by
  cases h : a.place? name with
  | none => exact get?_set_of_none h
  | some place => exact get?_set_of_place? h

/-- Of two settings of one name the last one counts. -/
theorem set_set (a : Attributes) (name value last : String) :
    (a.set name value).set name last = a.set name last := by
  cases h : a.place? name with
  | none =>
    have hplace : (a.set name value).place? name = some a.entries.length := by
      rw [place?_set_of_none h, if_pos rfl]
    refine Attributes.ext ?_ ?_
    · rw [(set_of_place? hplace).1, (set_of_none h).1, (set_of_none h).1,
        List.modify_eq_take_cons_drop (by simp)]
      simp
    · rw [(set_of_place? hplace).2, (set_of_none h).2, (set_of_none h).2]
  | some place =>
    have hplace : (a.set name value).place? name = some place :=
      (place?_set_of_place? h).trans h
    refine Attributes.ext ?_ ?_
    · rw [(set_of_place? hplace).1, (set_of_place? h).1, (set_of_place? h).1, List.modify_modify_eq]
      rfl
    · rw [(set_of_place? hplace).2, (set_of_place? h).2, (set_of_place? h).2]

end Attributes

namespace Element

variable {e : Element} {name other value : String}

theorem attribute?_setAttribute : (e.setAttribute name value).attribute? other =
    if other = name then some value else e.attribute? other :=
  Attributes.get?_set e.attributes name other value

end Element

end Topiary
