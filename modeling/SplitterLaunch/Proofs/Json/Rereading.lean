import SplitterLaunch.Proofs.Json.Places
import SplitterLaunch.Proofs.Json.Shortest

/-! Values that are read again after they were written. Whatever numbers are in a value, its text denotes a value,
    which has at each place what the text of what stood there denotes (`at?_of_denotes_source`); where all numbers
    are exact that is what stood there. -/

namespace SplitterLaunch
namespace Json

/-! ### What is written denotes something -/

theorem Number.exists_written?_source (n : Number) : ∃ j, written? n.source = some j := by
  cases n with
  | integer n => exact ⟨_, Number.written?_source rfl⟩
  | float x =>
    rw [Number.source]
    split
    · rename_i hx
      obtain ⟨number, hnumber⟩ := Option.isSome_iff_exists.mp (Numeral.isSome_number?_ofBinary64 hx)
      exact ⟨.number number, by rw [written?, hnumber]; rfl⟩
    · exact ⟨.null, by rw [written?]⟩

mutual

theorem exists_written?_source (j : Json) : ∃ j', written? (source j) = some j' := by
  match j with
  | .null => exact ⟨.null, by rw [source, written?]⟩
  | .bool b => exact ⟨.bool b, by rw [source, written?]⟩
  | .number n => exact Number.exists_written?_source n
  | .string s => exact ⟨.string s, written?_source (.string s) rfl⟩
  | .array items =>
    obtain ⟨items', hitems⟩ := exists_writtenItems?_sourceItems items
    exact ⟨.array items', by rw [source, written?, hitems]; rfl⟩
  | .object members =>
    obtain ⟨members', hmembers⟩ := exists_writtenMembers?_sourceMembers members
    exact ⟨.object members', by rw [source, written?, hmembers]; rfl⟩

theorem exists_writtenItems?_sourceItems (items : List Json) : ∃ items', writtenItems? (sourceItems items) = some items' := by
  match items with
  | [] => exact ⟨[], by rw [sourceItems, writtenItems?]⟩
  | item :: items =>
    obtain ⟨item', hitem⟩ := exists_written?_source item
    obtain ⟨items', hitems⟩ := exists_writtenItems?_sourceItems items
    exact ⟨item' :: items', writtenItems?_cons_eq_some_iff.mpr ⟨item', items', hitem, hitems, rfl⟩⟩

theorem exists_writtenMembers?_sourceMembers (members : Members) :
    ∃ members', writtenMembers? (sourceMembers members) = some members' := by
  match members with
  | [] => exact ⟨[], by rw [sourceMembers, writtenMembers?]⟩
  | (key, item) :: members =>
    obtain ⟨item', hitem⟩ := exists_written?_source item
    obtain ⟨members', hmembers⟩ := exists_writtenMembers?_sourceMembers members
    exact ⟨(key, item') :: members',
      writtenMembers?_cons_eq_some_iff.mpr ⟨key, item', members', nameOf?_spelled key, hitem, hmembers, rfl⟩⟩

end

/-! ### Distinct names -/

theorem map_nameOf?_sourceMembers (members : Members) :
    ((sourceMembers members).map fun m => nameOf? m.1) = members.map fun m => some m.1 := by
  induction members with
  | nil => rfl
  | cons m members ih =>
    rw [sourceMembers, List.map_cons, List.map_cons, ih, nameOf?_spelled]

theorem nodup_of_isOrderedMembers {members : Members} (h : isOrderedMembers members = true) :
    (members.map fun m => some m.1).Nodup := by
  induction members with
  | nil => exact List.nodup_nil
  | cons m members ih =>
    obtain ⟨key, item⟩ := m
    simp only [isOrderedMembers, Bool.and_eq_true, List.all_eq_true] at h
    refine List.nodup_cons.mpr ⟨?_, ih h.1.2⟩
    intro hmem
    obtain ⟨other, hother, heq⟩ := List.mem_map.mp hmem
    have hbefore := h.2 other hother
    rw [Option.some.inj heq, Text.precedes_self] at hbefore
    cases hbefore

mutual

-- Names are spelled injectively, and the strict order of a value's members keeps them apart.
theorem hasDistinctNames_source (j : Json) (h : isOrdered j = true) : hasDistinctNames (source j) = true := by
  match j with
  | .null => rfl
  | .bool b => rfl
  | .number (.integer n) => rfl
  | .number (.float x) =>
    rw [source, Number.source]
    split <;> rfl
  | .string s => rfl
  | .array items => exact hasDistinctNames_sourceItems items h
  | .object members =>
    rw [source, hasDistinctNames, map_nameOf?_sourceMembers, decide_eq_true (nodup_of_isOrderedMembers h),
      hasDistinctNames_sourceMembers members h]
    rfl

theorem hasDistinctNames_sourceItems (items : List Json) (h : isOrderedItems items = true) :
    hasDistinctNamesItems (sourceItems items) = true := by
  match items with
  | [] => rfl
  | item :: items =>
    rw [isOrderedItems, Bool.and_eq_true] at h
    rw [sourceItems, hasDistinctNamesItems, hasDistinctNames_source item h.1, hasDistinctNames_sourceItems items h.2]
    rfl

theorem hasDistinctNames_sourceMembers (members : Members) (h : isOrderedMembers members = true) :
    hasDistinctNamesMembers (sourceMembers members) = true := by
  match members with
  | [] => rfl
  | (key, item) :: members =>
    simp only [isOrderedMembers, Bool.and_eq_true] at h
    rw [sourceMembers, hasDistinctNamesMembers, hasDistinctNames_source item h.1.1,
      hasDistinctNames_sourceMembers members h.1.2]
    rfl

end

/-- Names that are distinct stay so, in whatever order they are. -/
theorem hasDistinctNames_source_object {members : Members} (hnames : (members.map fun m => some m.1).Nodup)
    (h : ∀ m ∈ members, hasDistinctNames (source m.2) = true) : hasDistinctNames (source (.object members)) = true := by
  have hmembers : hasDistinctNamesMembers (sourceMembers members) = true := by
    rw [hasDistinctNamesMembers_iff, sourceMembers_eq_map]
    intro m hm
    obtain ⟨m', hm', rfl⟩ := List.mem_map.mp hm
    exact h m' hm'
  rw [source, hasDistinctNames, map_nameOf?_sourceMembers, decide_eq_true hnames, hmembers]
  rfl

/-! ### Ordered members -/

theorem repeatsNone_of_isOrdered (names : List String) {j : Json} (h : isOrdered j = true) : j.repeatsNone names = true := by
  refine decide_eq_true (List.Pairwise.filter _ ?_)
  cases j with
  | object members =>
    have hnodup : ((members.map (·.1)).map some).Nodup := by
      rw [List.map_map]
      exact nodup_of_isOrderedMembers h
    exact (List.pairwise_map.mp hnodup).imp fun hne heq => hne (congrArg some heq)
  | _ => exact List.Pairwise.nil

theorem isOrdered_of_member? {j : Json} {name : String} {value : Json} (h : isOrdered j = true)
    (hvalue : j.member? name = some value) : isOrdered value = true := by
  obtain ⟨members, hmembers, hget⟩ := Option.bind_eq_some_iff.mp hvalue
  cases j with
  | object ms =>
    cases hmembers
    exact isOrdered_of_get? h hget
  | _ => cases hmembers

theorem isOrdered_of_asArray? {j : Json} {items : List Json} (h : isOrdered j = true) (hitems : j.asArray? = some items) :
    ∀ item ∈ items, isOrdered item = true := by
  cases j with
  | array values =>
    cases hitems
    change isOrderedItems items = true at h
    induction items with
    | nil => simp
    | cons item items ih =>
      rw [isOrderedItems, Bool.and_eq_true] at h
      exact List.forall_mem_cons.mpr ⟨h.1, ih h.2⟩
  | _ => cases hitems

/-! ### What is read again -/

theorem exists_denotes_source {j : Json} (h : isOrdered j = true) : ∃ j', Denotes (source j) j' := by
  obtain ⟨written, hwritten⟩ := exists_written?_source j
  exact ⟨sorted written, denotes_of_written? hwritten (hasDistinctNames_source j h)⟩

theorem sourceOf_pretty (j : Json) : Source.read? j.pretty.toList = some (source j) := by
  have hread : Source.read? (write .pretty 0 j ++ []) = some (source j) := read?_write Layout.blank_pretty j nofun
  rw [List.append_nil] at hread
  rw [pretty, String.toList_ofList, hread]

/-- What is written with a line for each item and member is read as what it denotes. -/
theorem exists_read?_pretty {j : Json} (hdistinct : hasDistinctNames (source j) = true) (hdepth : j.depth ≤ maxDepth) :
    ∃ j', read? j.pretty.toList = some j' ∧ Denotes (source j) j' := by
  obtain ⟨written, hwritten⟩ := exists_written?_source j
  have hdenotes := denotes_of_written? hwritten hdistinct
  refine ⟨sorted written, ?_, hdenotes⟩
  rw [read?, sourceOf_pretty, Option.bind_some, depth_source, if_pos hdepth]
  exact hdenotes.value

theorem ofSource?_source {j : Json} (hordered : isOrdered j = true) (hexact : isExact j = true) :
    ofSource? (source j) = some j := by
  rw [ofSource?, written?_source j hexact, Option.map_some, sorted_of_isOrdered j hordered]

/-- A value at whose place all numbers are exact stands there after it was written and read again. -/
theorem at?_of_denotes_source {j j' v : Json} (h : Denotes (source j) j') {steps : List Step}
    (hv : j.at? steps = some v) (hordered : isOrdered v = true) (hexact : isExact v = true) : j'.at? steps = some v := by
  rw [h.at?, at?_source, hv]
  exact ofSource?_source hordered hexact

end Json
end SplitterLaunch
