/-! The order of texts: by the code points of their characters, from the first on. A text comes before every
    longer one that it starts. Of two different texts exactly one comes before the other. -/

namespace SplitterLaunch
namespace Text

/-- Whether a row of characters comes before another. -/
def comesBefore : List Char → List Char → Bool
  | _, [] => false
  | [], _ :: _ => true
  | c :: cs, d :: ds => c.toNat < d.toNat || (c.toNat == d.toNat && comesBefore cs ds)

def precedes (a b : String) : Bool := comesBefore a.toList b.toList

theorem comesBefore_self (cs : List Char) : comesBefore cs cs = false := by
  induction cs with
  | nil => rfl
  | cons c cs ih => simp [comesBefore, ih]

theorem comesBefore_trans {xs ys zs : List Char} (hxy : comesBefore xs ys = true)
    (hyz : comesBefore ys zs = true) : comesBefore xs zs = true := by
  induction xs generalizing ys zs with
  | nil =>
    cases zs with
    | nil => cases ys <;> simp [comesBefore] at hyz
    | cons z zs => rfl
  | cons x xs ih =>
    cases ys with
    | nil => simp [comesBefore] at hxy
    | cons y ys =>
      cases zs with
      | nil => simp [comesBefore] at hyz
      | cons z zs =>
        simp only [comesBefore, Bool.or_eq_true, Bool.and_eq_true, decide_eq_true_eq, beq_iff_eq] at hxy hyz ⊢
        rcases hxy with hxy | ⟨hxy, hrest⟩
        · rcases hyz with hyz | ⟨hyz, -⟩
          · exact Or.inl (Nat.lt_trans hxy hyz)
          · exact Or.inl (hyz ▸ hxy)
        · rcases hyz with hyz | ⟨hyz, hrest'⟩
          · exact Or.inl (hxy ▸ hyz)
          · exact Or.inr ⟨hxy.trans hyz, ih hrest hrest'⟩

theorem comesBefore_of_not {xs ys : List Char} (h : comesBefore xs ys = false) (hne : xs ≠ ys) :
    comesBefore ys xs = true := by
  induction xs generalizing ys with
  | nil =>
    cases ys with
    | nil => exact absurd rfl hne
    | cons y ys => simp [comesBefore] at h
  | cons x xs ih =>
    cases ys with
    | nil => rfl
    | cons y ys =>
      simp only [comesBefore, Bool.or_eq_false_iff, decide_eq_false_iff_not, Nat.not_lt] at h
      simp only [comesBefore, Bool.or_eq_true, Bool.and_eq_true, decide_eq_true_eq, beq_iff_eq]
      rcases Nat.lt_or_eq_of_le h.1 with hlt | heq
      · exact Or.inl hlt
      · have hxy : x = y := by
          rw [← Char.ofNat_toNat x, ← Char.ofNat_toNat y, heq]
        have hrest : comesBefore xs ys = false := by simpa [heq] using h.2
        exact Or.inr ⟨heq, ih hrest (fun e => hne (by rw [hxy, e]))⟩

theorem precedes_self (a : String) : precedes a a = false := comesBefore_self _

theorem precedes_trans {a b c : String} (hab : precedes a b = true) (hbc : precedes b c = true) :
    precedes a c = true := comesBefore_trans hab hbc

theorem precedes_asymm {a b : String} (h : precedes a b = true) : precedes b a = false := by
  cases hba : precedes b a with
  | false => rfl
  | true => rw [← precedes_self a, precedes_trans h hba]

theorem precedes_of_not {a b : String} (h : precedes a b = false) (hne : a ≠ b) : precedes b a = true :=
  comesBefore_of_not h fun e => hne (String.toList_inj.mp e)

end Text
end SplitterLaunch
