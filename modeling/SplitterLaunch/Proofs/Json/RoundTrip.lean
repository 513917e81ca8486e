import SplitterLaunch.Json.Ordered
import SplitterLaunch.Proofs.Json.Written

/-! Values that reading gives back as they were written: those with ordered members, no more than 127 levels
    and no numbers that come back as neighbours of themselves. Integers never do. -/

namespace SplitterLaunch
namespace Json

/-- Whether a number is read back from what is written for it, as integers are. -/
def Number.isExact : Number → Bool
  | .integer _ => true
  | .float x => x.isFinite && decide ((Numeral.ofBinary64 x).number? = some (.float x))

mutual

/-- Whether all numbers in a value are read back from what is written for them. -/
def isExact : Json → Bool
  | .number n => n.isExact
  | .array items => isExactItems items
  | .object members => isExactMembers members
  | _ => true

def isExactItems : List Json → Bool
  | [] => true
  | item :: items => isExact item && isExactItems items

def isExactMembers : Members → Bool
  | [] => true
  | (_, item) :: members => isExact item && isExactMembers members

end

theorem isExactMembers_iff {members : Members} : isExactMembers members = true ↔ ∀ m ∈ members, isExact m.2 = true := by
  induction members with
  | nil => simp [isExactMembers]
  | cons m members ih => simp [isExactMembers, ih]

/-! ### Sources denote their values -/

theorem Number.written?_source {n : Number} (h : n.isExact = true) : written? n.source = some (.number n) := by
  cases n with
  | integer n =>
    rw [Number.source, written?, Numeral.number?_ofInteger]
    rfl
  | float x =>
    rw [isExact, Bool.and_eq_true, decide_eq_true_eq] at h
    rw [Number.source, if_pos h.1, written?, h.2]
    rfl

theorem text?_spelled (s : String) : text? (spelled s) = some s.toList := text?_flatMap s.toList

mutual

theorem written?_source (j : Json) (h : isExact j = true) : written? (source j) = some j := by
  match j with
  | .null => rw [source, written?]
  | .bool b => rw [source, written?]
  | .number n => exact Number.written?_source h
  | .string s =>
    rw [source, written?, text?_spelled, Option.map_some, String.ofList_toList]
  | .array items =>
    rw [source, written?, writtenItems?_sourceItems items h]
    rfl
  | .object members =>
    rw [source, written?, writtenMembers?_sourceMembers members h]
    rfl

theorem writtenItems?_sourceItems (items : List Json) (h : isExactItems items = true) :
    writtenItems? (sourceItems items) = some items := by
  match items with
  | [] => rw [sourceItems, writtenItems?]
  | item :: items =>
    rw [isExactItems, Bool.and_eq_true] at h
    rw [sourceItems, writtenItems?, written?_source item h.1, writtenItems?_sourceItems items h.2]
    rfl

theorem writtenMembers?_sourceMembers (members : Members) (h : isExactMembers members = true) :
    writtenMembers? (sourceMembers members) = some members := by
  match members with
  | [] => rw [sourceMembers, writtenMembers?]
  | (key, item) :: members =>
    rw [isExactMembers, Bool.and_eq_true] at h
    rw [sourceMembers, writtenMembers?, written?_source item h.1, writtenMembers?_sourceMembers members h.2,
      text?_spelled]
    simp only [Option.bind_eq_bind, Option.bind_some, String.ofList_toList]
    rfl

end

/-! ### Their depth -/

mutual

theorem depth_source (j : Json) : (source j).depth = j.depth := by
  match j with
  | .null => rfl
  | .bool b => rfl
  | .number (.integer n) => rfl
  | .number (.float x) =>
    rw [source, Number.source]
    split <;> rfl
  | .string s => rfl
  | .array items => rw [source, Tree.depth, Tree.depth, depthItems_sourceItems items]
  | .object members => rw [source, Tree.depth, Tree.depth, depthMembers_sourceMembers members]

theorem depthItems_sourceItems (items : List Json) : Tree.depthItems (sourceItems items) = Tree.depthItems items := by
  match items with
  | [] => rfl
  | item :: items =>
    rw [sourceItems, Tree.depthItems, Tree.depthItems, depth_source item, depthItems_sourceItems items]

theorem depthMembers_sourceMembers (members : Members) :
    Tree.depthMembers (sourceMembers members) = Tree.depthMembers members := by
  match members with
  | [] => rfl
  | (key, item) :: members =>
    rw [sourceMembers, Tree.depthMembers, Tree.depthMembers, depth_source item, depthMembers_sourceMembers members]

end

theorem depthItems_le_iff {items : List Json} {n : Nat} :
    Tree.depthItems items ≤ n ↔ ∀ item ∈ items, item.depth ≤ n := by
  induction items with
  | nil => simp [Tree.depthItems]
  | cons item items ih => simp [Tree.depthItems, ih]

theorem depthMembers_le_iff {members : Members} {n : Nat} :
    Tree.depthMembers members ≤ n ↔ ∀ m ∈ members, m.2.depth ≤ n := by
  induction members with
  | nil => simp [Tree.depthMembers]
  | cons m members ih => simp [Tree.depthMembers, ih]

mutual

theorem depth_of_written? {s : Source} {j : Json} (h : written? s = some j) : j.depth = s.depth := by
  match s with
  | .null => rw [written?] at h; cases h; rfl
  | .bool b => rw [written?] at h; cases h; rfl
  | .number n =>
    rw [written?, Option.map_eq_some_iff] at h
    obtain ⟨_, -, rfl⟩ := h
    rfl
  | .string cs =>
    rw [written?, Option.map_eq_some_iff] at h
    obtain ⟨_, -, rfl⟩ := h
    rfl
  | .array items =>
    rw [written?, Option.map_eq_some_iff] at h
    obtain ⟨js, hjs, rfl⟩ := h
    rw [Tree.depth, Tree.depth, depthItems_of_writtenItems? hjs]
  | .object members =>
    rw [written?, Option.map_eq_some_iff] at h
    obtain ⟨ms, hms, rfl⟩ := h
    rw [Tree.depth, Tree.depth, depthMembers_of_writtenMembers? hms]

theorem depthItems_of_writtenItems? {items : List Source} {js : List Json} (h : writtenItems? items = some js) :
    Tree.depthItems js = Tree.depthItems items := by
  match items with
  | [] => rw [writtenItems?] at h; cases h; rfl
  | item :: items =>
    simp only [writtenItems?, Option.bind_eq_bind, Option.bind_eq_some_iff, Option.pure_def, Option.some.injEq] at h
    obtain ⟨j, hj, js, hjs, rfl⟩ := h
    rw [Tree.depthItems, Tree.depthItems, depth_of_written? hj, depthItems_of_writtenItems? hjs]

theorem depthMembers_of_writtenMembers? {members : List (List Char × Source)} {ms : Members}
    (h : writtenMembers? members = some ms) : Tree.depthMembers ms = Tree.depthMembers members := by
  match members with
  | [] => rw [writtenMembers?] at h; cases h; rfl
  | (key, item) :: members =>
    simp only [writtenMembers?, Option.bind_eq_bind, Option.bind_eq_some_iff, Option.pure_def, Option.some.injEq] at h
    obtain ⟨name, -, j, hj, ms, hms, rfl⟩ := h
    rw [Tree.depthMembers, Tree.depthMembers, depth_of_written? hj, depthMembers_of_writtenMembers? hms]

end

theorem Members.mem_insert {name : String} {value : Json} {ms : Members} {m : String × Json}
    (h : m ∈ ms.insert name value) : m = (name, value) ∨ m ∈ ms := by
  induction ms with
  | nil => exact .inl (List.mem_singleton.mp h)
  | cons other ms ih =>
    obtain ⟨key, j⟩ := other
    rw [Members.insert] at h
    split at h
    · exact List.mem_cons.mp h
    · split at h
      · exact (List.mem_cons.mp h).imp_right (List.mem_cons_of_mem _)
      · rcases List.mem_cons.mp h with rfl | h
        · exact .inr List.mem_cons_self
        · exact (ih h).imp_right (List.mem_cons_of_mem _)

theorem Members.mem_foldl_insert {ms acc : Members} {m : String × Json}
    (h : m ∈ ms.foldl (fun acc (key, value) => Members.insert key value acc) acc) : m ∈ acc ∨ m ∈ ms := by
  induction ms generalizing acc with
  | nil => exact .inl h
  | cons other ms ih =>
    rcases ih h with h | h
    · exact (Members.mem_insert h).elim (fun heq => .inr (heq ▸ List.mem_cons_self)) .inl
    · exact .inr (List.mem_cons_of_mem _ h)

theorem Members.mem_ofList {ms : Members} {m : String × Json} (h : m ∈ Members.ofList ms) : m ∈ ms :=
  (Members.mem_foldl_insert h).resolve_left List.not_mem_nil

mutual

theorem depth_sorted_le (j : Json) : (sorted j).depth ≤ j.depth := by
  match j with
  | .null => exact Nat.le_refl _
  | .bool b => exact Nat.le_refl _
  | .number n => exact Nat.le_refl _
  | .string s => exact Nat.le_refl _
  | .array items =>
    rw [sorted, Tree.depth, Tree.depth]
    exact Nat.succ_le_succ (depthItems_le_iff.mpr (depth_sortedItems_le items))
  | .object members =>
    rw [sorted, Tree.depth, Tree.depth]
    exact Nat.succ_le_succ (depthMembers_le_iff.mpr fun m hm => depth_sortedMembers_le members m (Members.mem_ofList hm))

theorem depth_sortedItems_le (items : List Json) : ∀ item ∈ sortedItems items, item.depth ≤ Tree.depthItems items := by
  match items with
  | [] => simp [sortedItems]
  | item :: items =>
    rw [sortedItems, Tree.depthItems]
    intro x hx
    rcases List.mem_cons.mp hx with rfl | hx
    · exact Nat.le_trans (depth_sorted_le item) (Nat.le_max_left _ _)
    · exact Nat.le_trans (depth_sortedItems_le items x hx) (Nat.le_max_right _ _)

theorem depth_sortedMembers_le (members : Members) :
    ∀ m ∈ sortedMembers members, m.2.depth ≤ Tree.depthMembers members := by
  match members with
  | [] => simp [sortedMembers]
  | (key, item) :: members =>
    rw [sortedMembers, Tree.depthMembers]
    intro m hm
    rcases List.mem_cons.mp hm with rfl | hm
    · exact Nat.le_trans (depth_sorted_le item) (Nat.le_max_left _ _)
    · exact Nat.le_trans (depth_sortedMembers_le members m hm) (Nat.le_max_right _ _)

end

theorem depth_of_read? {cs : List Char} {j : Json} (h : read? cs = some j) : j.depth ≤ maxDepth := by
  simp only [read?, Option.bind_eq_some_iff] at h
  obtain ⟨s, -, h⟩ := h
  split at h
  · rename_i hdepth
    rw [ofSource?, Option.map_eq_some_iff] at h
    obtain ⟨written, hwritten, rfl⟩ := h
    exact Nat.le_trans (depth_sorted_le written) (depth_of_written? hwritten ▸ hdepth)
  · cases h

/-! ### Ordered members are left in their order -/

theorem Members.insert_of_all_precedes {name : String} {value : Json} {ms : Members}
    (h : ∀ m ∈ ms, Text.precedes m.1 name = true) : ms.insert name value = ms ++ [(name, value)] := by
  induction ms with
  | nil => rfl
  | cons m ms ih =>
    obtain ⟨key, other⟩ := m
    have hkey : Text.precedes key name = true := h (key, other) List.mem_cons_self
    have hne : key ≠ name := by
      rintro rfl
      rw [Text.precedes_self] at hkey
      cases hkey
    have hafter : Text.precedes name key = false := by
      rw [Bool.eq_false_iff]
      intro hback
      have hself := Text.precedes_trans hkey hback
      rw [Text.precedes_self] at hself
      cases hself
    rw [Members.insert, if_neg (by simp [hafter]), if_neg hne, ih fun m hm => h m (List.mem_cons_of_mem _ hm)]
    rfl

theorem Members.foldl_insert_of_isOrdered {ms : Members} (hms : isOrderedMembers ms = true) {acc : Members}
    (hacc : ∀ a ∈ acc, ∀ m ∈ ms, Text.precedes a.1 m.1 = true) :
    ms.foldl (fun acc (key, value) => Members.insert key value acc) acc = acc ++ ms := by
  induction ms generalizing acc with
  | nil => rw [List.foldl_nil, List.append_nil]
  | cons m ms ih =>
    obtain ⟨key, value⟩ := m
    simp only [isOrderedMembers, Bool.and_eq_true, List.all_eq_true] at hms
    have hinsert : Members.insert key value acc = acc ++ [(key, value)] :=
      Members.insert_of_all_precedes fun a ha => hacc a ha _ List.mem_cons_self
    show ms.foldl _ (Members.insert key value acc) = _
    rw [hinsert, ih hms.1.2, List.append_assoc]
    · rfl
    · intro a ha m hm
      rcases List.mem_append.mp ha with ha | ha
      · exact hacc a ha m (List.mem_cons_of_mem _ hm)
      · rw [List.mem_singleton.mp ha]
        exact hms.2 m hm

theorem Members.ofList_of_isOrdered {ms : Members} (h : isOrderedMembers ms = true) : Members.ofList ms = ms :=
  Members.foldl_insert_of_isOrdered h fun _ ha => by cases ha

mutual

theorem sorted_of_isOrdered (j : Json) (h : isOrdered j = true) : sorted j = j := by
  match j with
  | .null => rfl
  | .bool b => rfl
  | .number n => rfl
  | .string s => rfl
  | .array items => rw [sorted, sortedItems_of_isOrdered items h]
  | .object members => rw [sorted, sortedMembers_of_isOrdered members h, Members.ofList_of_isOrdered h]

theorem sortedItems_of_isOrdered (items : List Json) (h : isOrderedItems items = true) : sortedItems items = items := by
  match items with
  | [] => rfl
  | item :: items =>
    rw [isOrderedItems, Bool.and_eq_true] at h
    rw [sortedItems, sorted_of_isOrdered item h.1, sortedItems_of_isOrdered items h.2]

theorem sortedMembers_of_isOrdered (members : Members) (h : isOrderedMembers members = true) :
    sortedMembers members = members := by
  match members with
  | [] => rfl
  | (key, item) :: members =>
    simp only [isOrderedMembers, Bool.and_eq_true] at h
    rw [sortedMembers, sorted_of_isOrdered item h.1.1, sortedMembers_of_isOrdered members h.1.2]

end

/-! ### Plain values -/

/-- A value that is read back as it was written, with at most so many levels. -/
structure IsPlain (levels : Nat) (j : Json) : Prop where
  exact : isExact j = true
  depth : j.depth ≤ levels

theorem isPlain_object_iff {levels : Nat} {members : Members} :
    IsPlain (levels + 1) (.object members) ↔ ∀ m ∈ members, m.2.IsPlain levels := by
  constructor
  · intro h m hm
    exact ⟨isExactMembers_iff.mp h.exact m hm, depthMembers_le_iff.mp (Nat.le_of_succ_le_succ h.depth) m hm⟩
  · intro h
    exact ⟨isExactMembers_iff.mpr fun m hm => (h m hm).exact,
      Nat.succ_le_succ (depthMembers_le_iff.mpr fun m hm => (h m hm).depth)⟩

/-- What is written in a layout of blanks is read back, whatever blanks stand behind it. -/
theorem read?_write_eq_some {l : Layout} (hl : l.Blank) {j : Json} (hordered : isOrdered j = true)
    (hplain : j.IsPlain maxDepth) {ws : List Char} (hws : ∀ c ∈ ws, isSpace c = true) :
    read? (write l 0 j ++ ws) = some j := by
  have hdepth : (source j).depth ≤ maxDepth := (depth_source j).symm ▸ hplain.depth
  unfold read?
  rw [read?_write hl j hws, Option.bind_some, if_pos hdepth, ofSource?, written?_source j hplain.exact, Option.map_some,
    sorted_of_isOrdered j hordered]

theorem toList_compact (j : Json) : (compact j).toList = write .compact 0 j ++ [] := by
  unfold compact
  rw [String.toList_ofList, List.append_nil]

end Json
end SplitterLaunch
