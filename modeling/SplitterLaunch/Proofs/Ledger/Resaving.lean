import SplitterLaunch.Proofs.Ledger.Recording

/-! Ledgers whose only numbers are integers of 64 bits. Both texts of such a ledger, the one in its file and the
    compact one, are read back as the ledger itself, so that saving what was loaded writes the same bytes. -/

namespace SplitterLaunch
namespace Json

mutual

/-- Whether all numbers in a value are integers. -/
def isIntegral : Json → Bool
  | .number (.integer _) => true
  | .number (.float _) => false
  | .array items => isIntegralItems items
  | .object members => isIntegralMembers members
  | _ => true

def isIntegralItems : List Json → Bool
  | [] => true
  | item :: items => isIntegral item && isIntegralItems items

def isIntegralMembers : Members → Bool
  | [] => true
  | (_, item) :: members => isIntegral item && isIntegralMembers members

end

mutual

theorem isExact_of_isIntegral (j : Json) (h : isIntegral j = true) : isExact j = true := by
  match j with
  | .null => rfl
  | .bool b => rfl
  | .number (.integer n) => rfl
  | .number (.float x) => cases h
  | .string s => rfl
  | .array items => exact isExactItems_of_isIntegral items h
  | .object members => exact isExactMembers_of_isIntegral members h

theorem isExactItems_of_isIntegral (items : List Json) (h : isIntegralItems items = true) : isExactItems items = true := by
  match items with
  | [] => rfl
  | item :: items =>
    rw [isIntegralItems, Bool.and_eq_true] at h
    rw [isExactItems, isExact_of_isIntegral item h.1, isExactItems_of_isIntegral items h.2]
    rfl

theorem isExactMembers_of_isIntegral (members : Members) (h : isIntegralMembers members = true) :
    isExactMembers members = true := by
  match members with
  | [] => rfl
  | (name, item) :: members =>
    rw [isIntegralMembers, Bool.and_eq_true] at h
    rw [isExactMembers, isExact_of_isIntegral item h.1, isExactMembers_of_isIntegral members h.2]
    rfl

end

end Json

namespace Ledger
variable {l : Ledger} {path : String} {d : Disk}

theorem read?_compact (h : l.IsPlain) : read? l.toJson.compact = some l := by
  have hread : Json.read? l.toJson.compact.toList = some l.toJson := by
    rw [Json.toList_compact]
    exact Json.read?_write_eq_some Json.Layout.blank_compact l.ordered h (by simp)
  unfold read?
  rw [hread]
  exact ofJson?_toJson l

theorem read_of_save (h : (l.save path d).1 = .ok ()) :
    (l.save path d).2.files.read path = .ok (Text.toBytes l.fileText) := read_of_replaced (replaced_of_save h)

theorem load_of_save (hplain : l.IsPlain) (h : (l.save path d).1 = .ok ()) : load (l.save path d).2.files path = l := by
  rw [load_of_read (read_of_save h), read?_fileText hplain]
  rfl

/-- A ledger of integers with at most 127 levels is read from its texts as it is, and loaded as it was saved. To
    save what was loaded, there or elsewhere, writes the same bytes again. -/
theorem load_resaved (l : Ledger) (hintegral : l.toJson.isIntegral = true) (hdepth : l.toJson.depth ≤ 127) :
    read? l.fileText = some l ∧ read? l.toJson.compact = some l ∧
      ∀ path d, (l.save path d).1 = .ok () →
        let saved := (l.save path d).2.files
        saved.read path = .ok (Text.toBytes l.fileText) ∧ load saved path = l ∧
          ∀ path' d', ((load saved path).save path' d').1 = .ok () →
            ((load saved path).save path' d').2.files.read path' = saved.read path := by
  have hplain : l.IsPlain := ⟨Json.isExact_of_isIntegral _ hintegral, hdepth⟩
  refine ⟨read?_fileText hplain, read?_compact hplain, fun path d hsave => ?_⟩
  have hload := load_of_save hplain hsave
  refine ⟨read_of_save hsave, hload, fun path' d' hagain => ?_⟩
  rw [hload] at hagain ⊢
  rw [read_of_save hagain, read_of_save hsave]

/-- An array in an array, and so on, with this many around an empty one. -/
def tower : Nat → Json
  | 0 => .array []
  | n + 1 => .array [tower n]

/-- A ledger of 127 levels with names and numbers that are hard to write. -/
def intricate : Ledger where
  entries := [
    ("", .array [.null, .object [], .number (.integer ⟨-9223372036854775808, by decide⟩)]),
    ("\x00\x1f\n", .object [("\"\\", .string "\x7f\x0c"), ("/", .number (.integer ⟨18446744073709551615, by decide⟩))]),
    ("tower", tower 125),
    ("é\u2028", .bool false),
    ("😀", .string "")]
  ordered := by decide +kernel

theorem load_resaved_intricate :
    intricate.toJson.isIntegral = true ∧ intricate.toJson.depth = 127 ∧ read? intricate.toJson.compact = some intricate ∧
      (intricate.save "a.json" ⟨shelf foreign false, []⟩).1 = .ok () ∧
      load (intricate.save "a.json" ⟨shelf foreign false, []⟩).2.files "a.json" = intricate := by
  have hintegral : intricate.toJson.isIntegral = true := by decide +kernel
  have hdepth : intricate.toJson.depth = 127 := by decide +kernel
  have hsave : (intricate.save "a.json" ⟨shelf foreign false, []⟩).1 = .ok () := by decide +kernel
  obtain ⟨-, hcompact, hsaved⟩ := load_resaved intricate hintegral (Nat.le_of_eq hdepth)
  exact ⟨hintegral, hdepth, hcompact, hsave, (hsaved "a.json" _ hsave).2.1⟩

end Ledger
end SplitterLaunch
