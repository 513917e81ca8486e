import SplitterLaunch.Json

/-! Looking up members and putting them in. Ordering the members of an object does not change what a name finds in
    them if the names are distinct, and members of different names can be put in one before the other or the other
    way round (`insert_comm`). -/

namespace SplitterLaunch
namespace Json
namespace Members
variable {name : String} {ms : Members}

theorem get?_eq_none_iff : get? name ms = none ↔ name ∉ ms.map Prod.fst := by
  induction ms with
  | nil => simp [get?]
  | cons m ms ih =>
    obtain ⟨key, value⟩ := m
    simp only [get?, List.map_cons, List.mem_cons, not_or]
    split
    · rename_i h
      simp [h]
    · rename_i h
      rw [ih]
      exact ⟨fun hm => ⟨Ne.symm h, hm⟩, fun hm => hm.2⟩

theorem mem_of_get?_eq_some {value : Json} (h : get? name ms = some value) : (name, value) ∈ ms := by
  induction ms with
  | nil => cases h
  | cons m ms ih =>
    obtain ⟨key, other⟩ := m
    simp only [get?] at h
    split at h
    · rename_i hkey
      cases h
      exact hkey ▸ List.mem_cons_self
    · exact List.mem_cons_of_mem _ (ih h)

theorem get?_insert (name other : String) (value : Json) (ms : Members) :
    (ms.insert name value).get? other = if other = name then some value else ms.get? other := by
  by_cases h : other = name
  · rw [if_pos h, h, get?_insert_self]
  · rw [if_neg h, get?_insert_of_ne h]

theorem mem_names_insert {other : String} {value : Json} :
    other ∈ (ms.insert name value).map Prod.fst ↔ other = name ∨ other ∈ ms.map Prod.fst := by
  rw [← Decidable.not_iff_not, not_or, ← get?_eq_none_iff, ← get?_eq_none_iff, get?_insert]
  split
  · rename_i h
    simp [h]
  · rename_i h
    simp [h]

theorem length_insert_le (name : String) (value : Json) (ms : Members) :
    (ms.insert name value).length ≤ ms.length + 1 := by
  induction ms with
  | nil => exact Nat.le_refl 1
  | cons m ms ih =>
    simp only [insert]
    split
    · simp
    · split
      · simp
      · simpa using ih

theorem insert_insert (name : String) (value next : Json) (ms : Members) :
    (ms.insert name value).insert name next = ms.insert name next := by
  induction ms with
  | nil => simp [insert, Text.precedes_self]
  | cons m ms ih =>
    simp only [insert]
    split
    · simp [insert, Text.precedes_self]
    · split
      · simp [insert, Text.precedes_self]
      · simp [insert, *]

theorem insert_comm_of_precedes {a b : String} (h : Text.precedes a b = true) (x y : Json) (ms : Members) :
    (ms.insert a x).insert b y = (ms.insert b y).insert a x := by
  have hba : Text.precedes b a = false := Text.precedes_asymm h
  have hne : a ≠ b := by
    rintro rfl
    rw [Text.precedes_self] at h
    cases h
  induction ms with
  | nil => simp [insert, h, hba, hne]
  | cons m ms ih =>
    obtain ⟨key, other⟩ := m
    -- The member that goes in front of the other decides at each step what both orders come to.
    by_cases hb : Text.precedes b key = true
    · have ha : Text.precedes a key = true := Text.precedes_trans h hb
      simp [insert, h, hba, hne, ha, hb]
    by_cases hkey : key = b
    · subst hkey
      simp [insert, h, hba, hne, Text.precedes_self]
    by_cases ha : Text.precedes a key = true
    · simp [insert, hba, hne, ha, hb, hkey]
    by_cases hkey' : key = a
    · subst hkey'
      simp [insert, hba, hkey, Text.precedes_self]
    · simp [insert, ha, hb, hkey, hkey', ih]

/-- Members of different names can be put in in either order. -/
theorem insert_comm {a b : String} (h : a ≠ b) (x y : Json) (ms : Members) :
    (ms.insert a x).insert b y = (ms.insert b y).insert a x := by
  cases hab : Text.precedes a b with
  | true => exact insert_comm_of_precedes hab x y ms
  | false => exact (insert_comm_of_precedes (Text.precedes_of_not hab h) y x ms).symm

/-- Members put in one after the other hide those of their names that were there. -/
theorem get?_foldl_insert (hms : (ms.map Prod.fst).Nodup) (acc : Members) (name : String) :
    get? name (ms.foldl (fun acc (key, value) => insert key value acc) acc) = (get? name ms).or (get? name acc) := by
  induction ms generalizing acc with
  | nil => rfl
  | cons m ms ih =>
    obtain ⟨key, value⟩ := m
    simp only [List.map_cons, List.nodup_cons] at hms
    rw [List.foldl_cons, ih hms.2]
    simp only [get?]
    split
    · rename_i h
      subst h
      rw [get?_eq_none_iff.mpr hms.1, get?_insert_self]
      rfl
    · rename_i h
      rw [get?_insert_of_ne (Ne.symm h)]

theorem get?_ofList (hms : (ms.map Prod.fst).Nodup) (name : String) : get? name (ofList ms) = get? name ms := by
  rw [ofList, get?_foldl_insert hms]
  exact Option.or_none

end Members
end Json
end SplitterLaunch
