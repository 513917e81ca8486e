/-! Texts as bytes of UTF-8. Every text can be read back from its bytes (`ofBytes?_toBytes`), and
    among characters of one byte a count of bytes is one of characters (`takeBytes?_eq_some_iff`). A cut fails
    exactly inside a character (`takeBytes?_eq_none_iff`). -/

namespace SplitterLaunch
namespace Text

def toBytes (s : String) : List UInt8 := s.toUTF8.data.toList

/-- The text that bytes are, if they are UTF-8. -/
def ofBytes? (bytes : List UInt8) : Option String := String.fromUTF8? ⟨bytes.toArray⟩

theorem ofBytes?_toBytes (s : String) : ofBytes? (toBytes s) = some s :=
  dif_pos s.isValidUTF8

def byteLength : List Char → Nat
  | [] => 0
  | c :: cs => c.utf8Size + byteLength cs

/-- The start of a text that takes up `n` bytes of UTF-8, or all of a shorter text; there is none if the
    cut falls inside a character. -/
def takeBytes? : Nat → List Char → Option (List Char)
  | 0, _ => some []
  | _, [] => some []
  | n, c :: cs => if c.utf8Size ≤ n then (takeBytes? (n - c.utf8Size) cs).map (c :: ·) else none

theorem length_le_byteLength (cs : List Char) : cs.length ≤ byteLength cs := by
  induction cs with
  | nil => exact Nat.le_refl 0
  | cons c cs ih =>
    have := c.utf8Size_pos
    rw [List.length_cons, byteLength]
    omega

theorem byteLength_of_utf8Size {cs : List Char} (h : ∀ c ∈ cs, c.utf8Size = 1) : byteLength cs = cs.length := by
  induction cs with
  | nil => rfl
  | cons c cs ih =>
    rw [byteLength, h c List.mem_cons_self, ih fun d hd => h d (List.mem_cons_of_mem _ hd), List.length_cons,
      Nat.add_comm]

/-- Bytes are characters as long as all of them are of one byte. -/
theorem takeBytes?_eq_some_iff {n : Nat} {cs taken : List Char} (h : ∀ c ∈ taken, c.utf8Size = 1) :
    takeBytes? n cs = some taken ↔ taken = cs.take n := by
  induction cs generalizing n taken with
  | nil =>
    have hnil : takeBytes? n [] = some [] := by cases n <;> rfl
    rw [hnil, List.take_nil, Option.some.injEq, eq_comm]
  | cons c cs ih =>
    cases n with
    | zero => rw [takeBytes?, List.take_zero, Option.some.injEq, eq_comm]
    | succ n =>
      have hcons : takeBytes? (n + 1) (c :: cs) =
          if c.utf8Size ≤ n + 1 then (takeBytes? (n + 1 - c.utf8Size) cs).map (c :: ·) else none := rfl
      rw [hcons, List.take_succ_cons]
      constructor
      · intro htaken
        split at htaken
        · obtain ⟨rest, hrest, rfl⟩ := Option.map_eq_some_iff.mp htaken
          rw [h c List.mem_cons_self, Nat.add_sub_cancel] at hrest
          rw [(ih fun x hx => h x (List.mem_cons_of_mem _ hx)).mp hrest]
        · cases htaken
      · rintro rfl
        have hc : c.utf8Size = 1 := h c List.mem_cons_self
        rw [if_pos (by omega), hc, Nat.add_sub_cancel,
          (ih fun x hx => h x (List.mem_cons_of_mem _ hx)).mpr rfl, Option.map_some]

/-- There is no cut exactly if a character starts before it and ends behind it. -/
theorem takeBytes?_eq_none_iff {n : Nat} {cs : List Char} : takeBytes? n cs = none ↔
    ∃ before c after, cs = before ++ c :: after ∧ byteLength before < n ∧ n < byteLength before + c.utf8Size := by
  induction cs generalizing n with
  | nil =>
    have hnil : takeBytes? n [] = some [] := by cases n <;> rfl
    simp [hnil]
  | cons d cs ih =>
    cases n with
    | zero => simp [takeBytes?]
    | succ n =>
      have hcons : takeBytes? (n + 1) (d :: cs) =
          if d.utf8Size ≤ n + 1 then (takeBytes? (n + 1 - d.utf8Size) cs).map (d :: ·) else none := rfl
      rw [hcons]
      split
      · rename_i hd
        rw [Option.map_eq_none_iff, ih]
        constructor
        · rintro ⟨before, c, after, rfl, hstart, hend⟩
          exact ⟨d :: before, c, after, rfl, by rw [byteLength]; omega, by rw [byteLength]; omega⟩
        · rintro ⟨_ | ⟨b, before⟩, c, after, hcs, hstart, hend⟩
          -- the first character ends no later than the cut
          · cases hcs
            rw [byteLength] at hend
            omega
          · cases hcs
            rw [byteLength] at hstart hend
            exact ⟨before, c, after, rfl, by omega, by omega⟩
      · rename_i hd
        refine ⟨fun _ => ⟨[], d, cs, rfl, Nat.succ_pos n, ?_⟩, fun _ => rfl⟩
        rw [byteLength]
        omega

/-- The part of a text between two counts of bytes, if neither falls inside a character. -/
def slice? (start stop : Nat) (cs : List Char) : Option (List Char) := do
  let before ← takeBytes? start cs
  return (← takeBytes? stop cs).drop before.length

end Text
end SplitterLaunch
