import SplitterLaunch.Json.Text

/-! Values in which the members of each object stand in the strict order of their names, so that there is one
    way to hold an object. Reading makes such values (`isOrdered_read?`), and putting an ordered value into
    ordered members keeps them ordered (`isOrderedMembers_insert`). -/

namespace SplitterLaunch
namespace Json

theorem all_precedes_insert {bound name : String} {value : Json} {ms : Members}
    (hb : Text.precedes bound name = true) (h : ms.all (fun m => Text.precedes bound m.1) = true) :
    (ms.insert name value).all (fun m => Text.precedes bound m.1) = true := by
  induction ms with
  | nil => simp [Members.insert, hb]
  | cons m ms ih =>
    obtain ⟨key, other⟩ := m
    simp only [List.all_cons, Bool.and_eq_true] at h
    simp only [Members.insert]
    split
    · simp only [List.all_cons, hb, h.1, h.2, Bool.and_self]
    · split
      · simp only [List.all_cons, hb, h.2, Bool.and_self]
      · simp only [List.all_cons, h.1, ih h.2, Bool.and_self]

theorem isOrderedMembers_insert {name : String} {value : Json} {ms : Members} (hv : isOrdered value = true)
    (h : isOrderedMembers ms = true) : isOrderedMembers (ms.insert name value) = true := by
  induction ms with
  | nil => simp [Members.insert, isOrderedMembers, hv]
  | cons m ms ih =>
    obtain ⟨key, other⟩ := m
    simp only [isOrderedMembers, Bool.and_eq_true] at h
    obtain ⟨⟨ho, hms⟩, hall⟩ := h
    simp only [Members.insert]
    split
    · rename_i hbefore
      have hrest : ms.all (fun m => Text.precedes name m.1) = true := by
        rw [List.all_eq_true] at hall ⊢
        exact fun x hx => Text.precedes_trans hbefore (hall x hx)
      simp only [isOrderedMembers, hv, ho, hms, hall, hrest, hbefore, List.all_cons, Bool.and_self]
    · split
      · rename_i heq
        subst heq
        simp only [isOrderedMembers, hv, hms, hall, Bool.and_self]
      · rename_i hafter hne
        have hkey : Text.precedes key name = true :=
          Text.precedes_of_not (Bool.eq_false_iff.mpr hafter) (Ne.symm hne)
        simp only [isOrderedMembers, ho, ih hms, all_precedes_insert hkey hall, Bool.and_self]

theorem isOrderedMembers_foldl {ms : Members} (h : ∀ m ∈ ms, isOrdered m.2 = true) {acc : Members}
    (hacc : isOrderedMembers acc = true) :
    isOrderedMembers (ms.foldl (fun acc (key, value) => Members.insert key value acc) acc) = true := by
  induction ms generalizing acc with
  | nil => exact hacc
  | cons m ms ih =>
    exact ih (fun x hx => h x (List.mem_cons_of_mem _ hx))
      (isOrderedMembers_insert (h m List.mem_cons_self) hacc)

theorem isOrderedMembers_ofList {ms : Members} (h : ∀ m ∈ ms, isOrdered m.2 = true) :
    isOrderedMembers (Members.ofList ms) = true :=
  isOrderedMembers_foldl h rfl

mutual

theorem isOrdered_sorted (j : Json) : isOrdered (sorted j) = true := by
  cases j with
  | null => rfl
  | bool b => rfl
  | number n => rfl
  | string s => rfl
  | array items =>
    simp only [sorted, isOrdered]
    exact isOrderedItems_sortedItems items
  | object members =>
    simp only [sorted, isOrdered]
    exact isOrderedMembers_ofList (isOrdered_of_mem_sortedMembers members)

theorem isOrderedItems_sortedItems (items : List Json) : isOrderedItems (sortedItems items) = true := by
  cases items with
  | nil => rfl
  | cons item items =>
    simp only [sortedItems, isOrderedItems, isOrdered_sorted item, isOrderedItems_sortedItems items, Bool.and_self]

theorem isOrdered_of_mem_sortedMembers (members : Members) : ∀ m ∈ sortedMembers members, isOrdered m.2 = true := by
  cases members with
  | nil => simp [sortedMembers]
  | cons member members =>
    obtain ⟨key, item⟩ := member
    intro m hm
    rcases List.mem_cons.mp hm with rfl | hm
    · exact isOrdered_sorted item
    · exact isOrdered_of_mem_sortedMembers members m hm

end

theorem isOrdered_ofSource? {source : Source} {j : Json} (h : ofSource? source = some j) : isOrdered j = true := by
  simp only [ofSource?, Option.map_eq_some_iff] at h
  obtain ⟨written, -, rfl⟩ := h
  exact isOrdered_sorted written

theorem isOrdered_read? {cs : List Char} {j : Json} (h : read? cs = some j) : isOrdered j = true := by
  simp only [read?, Option.bind_eq_some_iff] at h
  obtain ⟨source, -, h⟩ := h
  split at h
  · exact isOrdered_ofSource? h
  · simp at h

theorem isOrdered_of_get? {name : String} {value : Json} {ms : Members} (h : isOrderedMembers ms = true)
    (hget : ms.get? name = some value) : isOrdered value = true := by
  induction ms with
  | nil => simp [Members.get?] at hget
  | cons m ms ih =>
    obtain ⟨key, other⟩ := m
    simp only [isOrderedMembers, Bool.and_eq_true] at h
    simp only [Members.get?] at hget
    split at hget
    · simp only [Option.some.injEq] at hget
      exact hget ▸ h.1.1
    · exact ih h.1.2 hget

end Json
end SplitterLaunch
