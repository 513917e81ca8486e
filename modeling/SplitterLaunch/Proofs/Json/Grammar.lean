import SplitterLaunch.Json.Source

/-! Values as rows of tokens. Each value has one row of tokens, and a reading that takes up this row where a
    value must come goes on as if the value had come. So a text that consists of the row, with blanks between
    the tokens, is read as the value. -/

namespace SplitterLaunch
namespace Json

/-! ### The tokens of a value -/

namespace Tree

mutual

/-- The tokens of a value. -/
def row : Source → List Token
  | .null => [.null]
  | .bool b => [.bool b]
  | .number n => [.number n]
  | .string s => [.string s]
  | .array [] => [.openArray, .closeArray]
  | .array (item :: items) => .openArray :: (row item ++ rowItems items)
  | .object [] => [.openObject, .closeObject]
  | .object ((key, item) :: members) => .openObject :: .string key :: .colon :: (row item ++ rowMembers members)

/-- The tokens of the further items of an array, up to its bracket. -/
def rowItems : List Source → List Token
  | [] => [.closeArray]
  | item :: items => .comma :: (row item ++ rowItems items)

/-- The tokens of the further members of an object, up to its bracket. -/
def rowMembers : List (List Char × Source) → List Token
  | [] => [.closeObject]
  | (key, item) :: members => .comma :: .string key :: .colon :: (row item ++ rowMembers members)

end

end Tree

/-! ### Taking them up -/

namespace Reading
open SplitterLaunch.Json.Tree
variable {r r' : Reading} {token : Token} {frames : List Frame}

theorem run_cons (h : r.step token = some r') (tokens : List Token) : run r (token :: tokens) = run r' tokens := by
  rw [run, h]

/-- A value starts with a token that a value may start with, which is not the end of an array. -/
theorem exists_cons_row (s : Source) (frames : List Frame) :
    ∃ token tokens r, row s = token :: tokens ∧ token ≠ .closeArray ∧ start frames token = some r := by
  cases s with
  | null => exact ⟨_, _, _, row.eq_1, by simp, rfl⟩
  | bool b => exact ⟨_, _, _, row.eq_2 b, by simp, rfl⟩
  | number n => exact ⟨_, _, _, row.eq_3 n, by simp, rfl⟩
  | string s => exact ⟨_, _, _, row.eq_4 s, by simp, rfl⟩
  | array xs => cases xs <;> exact ⟨_, _, _, by rw [row], by simp, rfl⟩
  | object ms => rcases ms with - | ⟨⟨name, x⟩, ms⟩ <;> exact ⟨_, _, _, by rw [row], by simp, rfl⟩

/-- In an array that was just opened, an item is a value. -/
theorem run_item (s : Source) (rest : List Token) :
    run (.item (.array [] :: frames)) (row s ++ rest) = run (.value (.array [] :: frames)) (row s ++ rest) := by
  obtain ⟨token, tokens, r, hrow, hne, hstart⟩ := exists_cons_row s (.array [] :: frames)
  have hitem : step (.item (.array [] :: frames)) token = start (.array [] :: frames) token := by
    cases token <;> first | rfl | exact absurd rfl hne
  rw [hrow, List.cons_append, run_cons (hitem.trans hstart), run_cons (r := .value _) hstart]

mutual

theorem run_row (s : Source) (frames : List Frame) (rest : List Token) :
    run (.value frames) (row s ++ rest) = run (.done s frames) rest := by
  match s with
  | .null => rw [row, List.singleton_append, run_cons rfl]
  | .bool b => rw [row, List.singleton_append, run_cons rfl]
  | .number n => rw [row, List.singleton_append, run_cons rfl]
  | .string s => rw [row, List.singleton_append, run_cons rfl]
  | .array [] => rw [row, List.cons_append, List.singleton_append, run_cons rfl, run_cons rfl]
  | .array (x :: xs) =>
    -- an opened array waits for an item or its end, so its first value is taken up as an item
    have hopen : step (.value frames) .openArray = some (.item (.array [] :: frames)) := rfl
    rw [row, List.cons_append, run_cons hopen, List.append_assoc, run_item, run_row x, run_rowItems xs]
    rfl
  | .object [] => rw [row, List.cons_append, List.singleton_append, run_cons rfl, run_cons rfl]
  | .object ((name, x) :: ms) =>
    rw [row, List.cons_append, List.cons_append, List.cons_append, run_cons rfl, run_cons rfl, run_cons rfl,
      List.append_assoc, run_row x, run_rowMembers ms]
    rfl

theorem run_rowItems (xs : List Source) (v : Source) (before : List Source) (frames : List Frame)
    (rest : List Token) :
    run (.done v (.array before :: frames)) (rowItems xs ++ rest) =
      run (.done (.array ((v :: before).reverse ++ xs)) frames) rest := by
  match xs with
  | [] =>
    rw [rowItems, List.singleton_append, run_cons rfl, List.append_nil]
  | x :: xs =>
    have hreverse : (x :: v :: before).reverse ++ xs = (v :: before).reverse ++ x :: xs := by
      rw [List.reverse_cons, List.append_assoc]
      rfl
    rw [rowItems, List.cons_append, run_cons rfl, List.append_assoc, run_row x, run_rowItems xs, hreverse]

theorem run_rowMembers (ms : List (List Char × Source)) (name : List Char) (v : Source)
    (before : List (List Char × Source)) (frames : List Frame) (rest : List Token) :
    run (.done v (.object before name :: frames)) (rowMembers ms ++ rest) =
      run (.done (.object (((name, v) :: before).reverse ++ ms)) frames) rest := by
  match ms with
  | [] =>
    rw [rowMembers, List.singleton_append, run_cons rfl, List.append_nil]
  | (next, x) :: ms =>
    have hreverse : ((next, x) :: (name, v) :: before).reverse ++ ms = ((name, v) :: before).reverse ++ (next, x) :: ms := by
      rw [List.reverse_cons, List.append_assoc]
      rfl
    rw [rowMembers, List.cons_append, List.cons_append, List.cons_append, run_cons rfl, run_cons rfl, run_cons rfl,
      List.append_assoc, run_row x, run_rowMembers ms, hreverse]

end

end Reading

/-! ### Finding them in a text -/

/-- A text that consists of these tokens, with blanks before, between and behind them. -/
inductive Lexed : List Char → List Token → Prop where
  | nil : Lexed [] []
  | blank {c : Char} {cs : List Char} {ts : List Token} (hc : isSpace c = true) (h : Lexed cs ts) : Lexed (c :: cs) ts
  | token {c : Char} {cs rest : List Char} {t : Token} {ts : List Token} (hc : isSpace c = false)
    (ht : token? c (cs ++ rest) = some (t, rest)) (h : Lexed rest ts) : Lexed (c :: (cs ++ rest)) (t :: ts)

theorem Lexed.blanks {ws cs : List Char} {ts : List Token} (hws : ∀ c ∈ ws, isSpace c = true) (h : Lexed cs ts) :
    Lexed (ws ++ cs) ts := by
  induction ws with
  | nil => exact h
  | cons c ws ih => exact .blank (hws c List.mem_cons_self) (ih fun x hx => hws x (List.mem_cons_of_mem _ hx))

theorem Lexed.tokensWithin {cs : List Char} {ts : List Token} (h : Lexed cs ts) {fuel : Nat} (hfuel : cs.length ≤ fuel) :
    tokensWithin fuel cs = (ts, true) := by
  -- a token may take up several characters, so the fuel left is only known to be enough
  induction h generalizing fuel with
  | nil => rw [Json.tokensWithin]
  | blank hc h ih =>
    obtain ⟨fuel, rfl⟩ := Nat.exists_eq_succ_of_ne_zero (n := fuel) (by simp only [List.length_cons] at hfuel; omega)
    rw [Json.tokensWithin, if_pos hc]
    exact ih (by simpa using hfuel)
  | token hc ht h ih =>
    obtain ⟨fuel, rfl⟩ := Nat.exists_eq_succ_of_ne_zero (n := fuel) (by simp only [List.length_cons] at hfuel; omega)
    rw [Json.tokensWithin, if_neg (by simp [hc]), ht]
    simp only
    rw [ih (by simp only [List.length_cons, List.length_append] at hfuel; omega)]

/-- A text that consists of the tokens of a value spells this value. -/
theorem read?_of_lexed {cs : List Char} {s : Source} (h : Lexed cs s.row) : Source.read? cs = some s := by
  have htokens : tokens cs = (s.row, true) := h.tokensWithin (Nat.le_refl _)
  have hrun : Reading.run (.value []) s.row = (.done s [], true) := by
    have hrow := Reading.run_row s [] []
    rw [List.append_nil] at hrow
    exact hrow
  unfold Source.read? Excerpt.read
  rw [htokens]
  simp only [hrun]
  rfl

end Json
end SplitterLaunch
