import SplitterLaunch.Ledger.Store
import SplitterLaunch.Proofs.Json.Members
import SplitterLaunch.Proofs.Json.RoundTrip
import SplitterLaunch.Proofs.Ledger.History

/-! Ledgers and their files. A plain ledger is read back from its file as it is. Deposits keep ledgers plain,
    since they put in no numbers but 64-bit integers, and no more than four levels. -/

namespace SplitterLaunch
namespace Ledger
open Json (IsPlain isPlain_object_iff)

/-- A ledger whose numbers are read back as they were written, and that is no deeper than what can be read. -/
def IsPlain (l : Ledger) : Prop := l.toJson.IsPlain Json.maxDepth

theorem toList_fileText (l : Ledger) : l.fileText.toList = Json.write .pretty 0 l.toJson ++ ['\n'] := by
  unfold fileText Json.pretty
  rw [String.toList_append, String.toList_ofList]
  rfl

theorem ofJson?_toJson (l : Ledger) : ofJson? l.toJson = some l := dif_pos l.ordered

/-- What is read from a ledger's file, whatever numbers are in it. -/
theorem read?_fileText_eq {l : Ledger} (h : l.toJson.depth ≤ Json.maxDepth) :
    read? l.fileText = (Json.ofSource? (Json.source l.toJson)).bind ofJson? := by
  have hdepth : (Json.source l.toJson).depth ≤ Json.maxDepth := (Json.depth_source _).symm ▸ h
  unfold read? Json.read?
  rw [toList_fileText, Json.read?_write Json.Layout.blank_pretty l.toJson (by simp [Json.isSpace]), Option.bind_some,
    if_pos hdepth]

theorem read?_fileText {l : Ledger} (h : l.IsPlain) : read? l.fileText = some l := by
  have hread : Json.read? l.fileText.toList = some l.toJson := by
    rw [toList_fileText]
    exact Json.read?_write_eq_some Json.Layout.blank_pretty l.ordered h (by simp [Json.isSpace])
  unfold read?
  rw [hread]
  exact ofJson?_toJson l

theorem isPlain_empty : empty.IsPlain := ⟨rfl, by decide⟩

theorem toJson_of_read? {s : String} {l : Ledger} (h : read? s = some l) : Json.read? s.toList = some l.toJson := by
  obtain ⟨j, hj, hl⟩ := Option.bind_eq_some_iff.mp h
  unfold ofJson? at hl
  split at hl
  · split at hl
    · cases hl
      exact hj
    · cases hl
  · cases hl

/-- A ledger that was read is never too deep. -/
theorem isPlain_ofText {text : Except OsFault String} (h : Json.isExact (ofText text).toJson = true) :
    (ofText text).IsPlain := by
  cases text with
  | error fault => exact isPlain_empty
  | ok s =>
    change Json.isExact ((read? s).getD empty).toJson = true at h
    show ((read? s).getD empty).IsPlain
    cases hread : read? s with
    | none => exact isPlain_empty
    | some l =>
      rw [hread] at h
      exact ⟨h, Json.depth_of_read? (toJson_of_read? hread)⟩

/-! ### Deposits -/

theorem mem_putIn {old : Option Json} {inner : String} {value : Json} {m : String × Json}
    (h : m ∈ putIn old inner value) : m = (inner, value) ∨ ∃ members, old = some (.object members) ∧ m ∈ members := by
  rcases Json.Members.mem_insert h with h | h
  · exact .inl h
  · cases old with
    | none => cases h
    | some j =>
      cases j with
      | object members => exact .inr ⟨members, rfl, h⟩
      | _ => cases h

/-- What is said of an object through its members' values, on both levels, is kept by putting a value in. -/
theorem putInner_of_members {P Q R : Json → Prop} (hP : ∀ members, P (.object members) ↔ ∀ m ∈ members, Q m.2)
    (hQ : ∀ members, Q (.object members) ↔ ∀ m ∈ members, R m.2) {l : Ledger} (hl : P l.toJson) {outer inner : String}
    {value : Json} (hv : Json.isOrdered value = true) (hvalue : R value) : P (l.putInner outer inner value hv).toJson := by
  have hentries := (hP _).mp hl
  apply (hP _).mpr
  intro m hm
  rcases Json.Members.mem_insert hm with rfl | hm
  · apply (hQ _).mpr
    intro m hm
    rcases mem_putIn hm with rfl | ⟨members, hget, hm⟩
    · exact hvalue
    · exact (hQ _).mp (hentries _ (Json.Members.mem_of_get?_eq_some hget)) m hm
  · exact hentries m hm

theorem isPlain_putInner {l : Ledger} (hl : l.IsPlain) {outer inner : String} {value : Json}
    (hv : Json.isOrdered value = true) (hplain : value.IsPlain 125) : (l.putInner outer inner value hv).IsPlain :=
  putInner_of_members (P := Json.IsPlain Json.maxDepth) (fun _ => isPlain_object_iff) (fun _ => isPlain_object_iff) hl hv hplain

theorem isPlain_sorted {members : Json.Members} (h : ∀ m ∈ members, m.2.IsPlain 124) : (sorted members).IsPlain 125 :=
  isPlain_object_iff.mpr fun m hm => h m (Json.Members.mem_ofList hm)

theorem isPlain_string (s : String) : Json.IsPlain 124 (.string s) := ⟨rfl, Nat.zero_le _⟩

theorem isPlain_ofUInt64 (n : UInt64) : (Json.ofUInt64 n).IsPlain 124 := ⟨rfl, Nat.zero_le _⟩

theorem isPlain_ofOption {α : Type} {f : α → Json} (hf : ∀ x, (f x).IsPlain 124) (o : Option α) :
    (Json.ofOption f o).IsPlain 124 := by
  cases o with
  | none => exact ⟨rfl, Nat.zero_le _⟩
  | some x => exact hf x

theorem isPlain_strings (xs : List String) : Json.IsPlain 124 (.array (xs.map .string)) := by
  constructor
  · show Json.isExactItems (xs.map .string) = true
    induction xs with
    | nil => rfl
    | cons x xs ih => exact ih
  · apply Nat.succ_le_succ (Json.depthItems_le_iff.mpr _)
    intro item hitem
    obtain ⟨x, -, rfl⟩ := List.mem_map.mp hitem
    exact Nat.zero_le _

theorem isPlain_record (r : DeploymentRecord) : (sorted r.members).IsPlain 125 := by
  apply isPlain_sorted
  intro m hm
  simp only [DeploymentRecord.members, List.mem_append, List.mem_cons, List.not_mem_nil, or_false] at hm
  rcases hm with (rfl | rfl | rfl | rfl | rfl | rfl | rfl | rfl | rfl) | hm
  · exact isPlain_string _
  · exact isPlain_string _
  · exact isPlain_string _
  · exact isPlain_ofUInt64 _
  · exact isPlain_string _
  · exact isPlain_ofOption isPlain_ofUInt64 _
  · exact isPlain_string _
  · exact isPlain_ofOption isPlain_string _
  · exact isPlain_strings _
  · split at hm
    · rw [List.mem_singleton.mp hm]
      exact isPlain_string _
    · cases hm

theorem isPlain_latest (d : LatestDeployment) : (sorted d.members).IsPlain 125 := by
  apply isPlain_sorted
  intro m hm
  simp only [LatestDeployment.members, List.mem_cons, List.not_mem_nil, or_false] at hm
  rcases hm with rfl | rfl | rfl | rfl
  · exact isPlain_string _
  · exact isPlain_ofUInt64 _
  · exact isPlain_string _
  · exact isPlain_string _

theorem isPlain_deposit {l : Ledger} (h : l.IsPlain) (d : Deposit) : (l.deposit d).IsPlain :=
  isPlain_putInner (isPlain_putInner h (isOrdered_latest d.latest) (isPlain_latest _)) (isOrdered_record _) (isPlain_record _)

end Ledger
end SplitterLaunch
