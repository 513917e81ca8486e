import Mathlib.Order.Bounds.Basic
import SplitterLaunch.CodeCheck
import SplitterLaunch.Proofs.Session.Hearing

/-! What comparing codes tells. A position is told exactly if there is one at which both codes have a byte and the bytes are
    different, and then it is the first one; codes that differ and have none are the one the beginning of the other. Code
    is said to match exactly if there is some and it is the expected one, also where a node gives it. -/

namespace SplitterLaunch
namespace CodeCheck
variable {d e : UInt8} {ds es : List UInt8} {i : Nat}

/-! ### The first difference -/

/-- Whether both byte strings have a byte at a position, and not the same one. -/
def DifferAt (ds es : List UInt8) (i : Nat) : Prop := ∃ (hd : i < ds.length) (he : i < es.length), ds[i] ≠ es[i]

theorem differAt_zero_iff : DifferAt (d :: ds) (e :: es) 0 ↔ d ≠ e := by
  simp [DifferAt]

theorem differAt_succ_iff : DifferAt (d :: ds) (e :: es) (i + 1) ↔ DifferAt ds es i := by
  simp [DifferAt]

theorem isLeast_differAt_cons_iff : IsLeast {j | DifferAt (d :: ds) (d :: es) j} i ↔
    ∃ k, IsLeast {j | DifferAt ds es j} k ∧ k + 1 = i := by
  constructor
  · rintro ⟨hdiffer, hleast⟩
    cases i with
    | zero => exact absurd rfl (differAt_zero_iff.mp hdiffer)
    | succ k =>
      refine ⟨k, ⟨differAt_succ_iff.mp hdiffer, fun j hj => ?_⟩, rfl⟩
      exact Nat.le_of_succ_le_succ (hleast (differAt_succ_iff.mpr hj))
  · rintro ⟨k, ⟨hdiffer, hleast⟩, rfl⟩
    refine ⟨differAt_succ_iff.mpr hdiffer, fun j hj => ?_⟩
    cases j with
    | zero => exact absurd rfl (differAt_zero_iff.mp hj)
    | succ j => exact Nat.succ_le_succ (hleast (differAt_succ_iff.mp hj))

theorem eq_nil_or_eq_nil (h : ∀ d ds' e es', ds = d :: ds' → es = e :: es' → False) : ds = [] ∨ es = [] := by
  cases ds with
  | nil => exact .inl rfl
  | cons d ds =>
    cases es with
    | nil => exact .inr rfl
    | cons e es => exact (h d ds e es rfl rfl).elim

theorem firstMismatch_eq_some_iff : firstMismatch ds es = some i ↔ IsLeast {j | DifferAt ds es j} i := by
  fun_induction firstMismatch ds es generalizing i with
  | case1 ds e es ih =>
    rw [isLeast_differAt_cons_iff, Option.map_eq_some_iff]
    simp only [ih]
  | case2 d ds e es hne =>
    have hzero : IsLeast {j | DifferAt (d :: ds) (e :: es) j} 0 := ⟨differAt_zero_iff.mpr hne, fun j _ => Nat.zero_le j⟩
    rw [Option.some.injEq]
    exact ⟨fun h => h ▸ hzero, hzero.unique⟩
  | case3 ds es hempty =>
    refine ⟨nofun, fun h => ?_⟩
    obtain ⟨hd, he, -⟩ := h.1
    rcases eq_nil_or_eq_nil hempty with rfl | rfl
    · cases hd
    · cases he

theorem firstMismatch_eq_none_iff : firstMismatch ds es = none ↔ ds <+: es ∨ es <+: ds := by
  fun_induction firstMismatch ds es with
  | case1 ds e es ih => simp [ih]
  | case2 d ds e es hne => simp [hne, Ne.symm hne]
  | case3 ds es hempty =>
    refine iff_of_true rfl ?_
    rcases eq_nil_or_eq_nil hempty with rfl | rfl
    · exact .inl List.nil_prefix
    · exact .inr List.nil_prefix

/-! ### Comparing -/

/-- Whether a byte string is the beginning of a longer one. -/
def Begins (ds es : List UInt8) : Prop := ds <+: es ∧ ds.length < es.length

/-- Whether this is where two byte strings first have different bytes, or nowhere as one is the beginning of the other. -/
structure Locates (ds es : List UInt8) (first : Option Nat) : Prop where
  some_iff : ∀ i, first = some i ↔ IsLeast {j | DifferAt ds es j} i
  none_iff : first = none ↔ Begins ds es ∨ Begins es ds

theorem begins_iff_of_ne (hne : ds ≠ es) : Begins ds es ↔ ds <+: es :=
  and_iff_left_of_imp fun h => Nat.lt_of_le_of_ne h.length_le fun hlength => hne (h.eq_of_length hlength)

theorem locates_firstMismatch (hne : ds ≠ es) : Locates ds es (firstMismatch ds es) where
  some_iff _ := firstMismatch_eq_some_iff
  none_iff := by rw [begins_iff_of_ne hne, begins_iff_of_ne hne.symm, firstMismatch_eq_none_iff]

theorem Locates.unique {first first' : Option Nat} (h : Locates ds es first) (h' : Locates ds es first') :
    first = first' := by
  cases first with
  | some i => exact ((h'.some_iff i).mpr ((h.some_iff i).mp rfl)).symm
  | none => exact (h'.none_iff.mpr (h.none_iff.mp rfl)).symm

variable {deployed expected : List UInt8}

theorem compare_eq_noCode_iff : compare deployed expected = .noCode ↔ deployed = [] := by
  unfold compare
  split
  · simp_all
  · split <;> simp_all

theorem compare_eq_matching_iff : compare deployed expected = .matching ↔ deployed ≠ [] ∧ deployed = expected := by
  unfold compare
  split
  · simp_all
  · split <;> simp_all

theorem compare_eq_differing_iff {n m : Nat} {first : Option Nat} :
    compare deployed expected = .differing n m first ↔ (deployed ≠ [] ∧ deployed ≠ expected) ∧
      n = deployed.length ∧ m = expected.length ∧ Locates deployed expected first := by
  by_cases hempty : deployed = []
  · rw [compare_eq_noCode_iff.mpr hempty]
    exact ⟨nofun, fun h => absurd hempty h.1.1⟩
  by_cases heq : deployed = expected
  · rw [compare_eq_matching_iff.mpr ⟨hempty, heq⟩]
    exact ⟨nofun, fun h => absurd heq h.1.2⟩
  have hlocates := locates_firstMismatch heq
  have hcompare : compare deployed expected =
      .differing deployed.length expected.length (firstMismatch deployed expected) := by
    unfold compare
    rw [if_neg (by simpa using hempty), if_neg heq]
  rw [hcompare, differing.injEq]
  constructor
  · rintro ⟨rfl, rfl, rfl⟩
    exact ⟨⟨hempty, heq⟩, rfl, rfl, hlocates⟩
  · rintro ⟨-, rfl, rfl, h⟩
    exact ⟨rfl, rfl, hlocates.unique h⟩

theorem isMatch_iff {check : CodeCheck} : check.isMatch = true ↔ check = .matching := by
  cases check <;> simp [isMatch]

theorem isMatch_compare_iff :
    (compare deployed expected).isMatch = true ↔ deployed = expected ∧ expected ≠ [] := by
  rw [isMatch_iff, compare_eq_matching_iff]
  constructor
  · rintro ⟨hne, rfl⟩
    exact ⟨rfl, hne⟩
  · rintro ⟨rfl, hne⟩
    exact ⟨hne, rfl⟩

/-! ### Code that a node gives -/

theorem run_eq_ok_iff {c : Connection} {address : Address} {check : CodeCheck} {w w' : World} :
    (run c.chain address expected).run w = (.ok check, w') ↔ c.url.TakesRequests ∧
      ∃ code, Rpc.result? Connection.decodeBytes (w.reply (.code address)) = some code ∧
        check = compare code expected ∧ w' = w.asked (.code address) := by
  unfold run
  rw [Run.run_bind_eq_ok_iff]
  constructor
  · rintro ⟨code, w₁, hcall, hcompare⟩
    obtain ⟨hurl, hcode, rfl⟩ := Connection.run_call_eq_ok_iff.mp hcall
    cases hcompare
    exact ⟨hurl, code, hcode, rfl, rfl⟩
  · rintro ⟨hurl, code, hcode, rfl, rfl⟩
    exact ⟨code, _, Connection.run_call_eq_ok_iff.mpr ⟨hurl, hcode, rfl⟩, rfl⟩

/-- Comparing codes tells whether there is none, whether they are equal and else where they differ first, with both lengths.
    They are said to match exactly if they are equal and not empty, and so is the code that a node gives for an address,
    whatever it replies. -/
theorem compare_exact (deployed expected : List UInt8) :
    (compare deployed expected = .noCode ↔ deployed = []) ∧
    (compare deployed expected = .matching ↔ deployed ≠ [] ∧ deployed = expected) ∧
    (∀ n m first, compare deployed expected = .differing n m first ↔ (deployed ≠ [] ∧ deployed ≠ expected) ∧
      n = deployed.length ∧ m = expected.length ∧ Locates deployed expected first) ∧
    ((compare deployed expected).isMatch = true ↔ deployed = expected ∧ expected ≠ []) ∧
    ∀ (c : Connection) (address : Address) (w : World),
      (∀ check w', (run c.chain address expected).run w = (.ok check, w') ↔ c.url.TakesRequests ∧
        ∃ code, Rpc.result? Connection.decodeBytes (w.reply (.code address)) = some code ∧
          check = compare code expected ∧ w' = w.asked (.code address)) ∧
      ((∃ check w', (run c.chain address expected).run w = (.ok check, w') ∧ check.isMatch = true) ↔
        c.url.TakesRequests ∧ Rpc.result? Connection.decodeBytes (w.reply (.code address)) = some expected ∧
          expected ≠ []) := by
  refine ⟨compare_eq_noCode_iff, compare_eq_matching_iff, fun _ _ _ => compare_eq_differing_iff, isMatch_compare_iff,
    fun c address w => ⟨fun check w' => run_eq_ok_iff, ?_⟩⟩
  simp only [run_eq_ok_iff]
  constructor
  · rintro ⟨_, _, ⟨hurl, code, hcode, rfl, rfl⟩, hmatch⟩
    obtain ⟨rfl, hne⟩ := isMatch_compare_iff.mp hmatch
    exact ⟨hurl, hcode, hne⟩
  · rintro ⟨hurl, hcode, hne⟩
    exact ⟨_, _, ⟨hurl, expected, hcode, rfl, rfl⟩, isMatch_compare_iff.mpr ⟨rfl, hne⟩⟩

example : compare [0x60, 0x80] [0x60, 0x80, 0x40] = .differing 2 3 none := by decide

end CodeCheck
end SplitterLaunch
