import SplitterLaunch.Proofs.Json.Decimals
import SplitterLaunch.Proofs.Json.Grammar
import SplitterLaunch.Proofs.Json.Strings

/-! What a written text spells. In every layout that puts nothing but blanks between the tokens, the text of a
    value spells the value's source, in which strings are escaped and numbers are numerals. -/

namespace SplitterLaunch
namespace Json

/-- The numeral of a number; there is none for a floating-point number that is not finite. -/
def Number.source : Number → Source
  | .integer n => .number (.ofInteger n.toInt)
  | .float x => if x.isFinite then .number (.ofBinary64 x) else .null

/-- A text with its escapes. -/
def spelled (s : String) : List Char := s.toList.flatMap escaped

mutual

/-- What the text of a value spells. -/
def source : Json → Source
  | .null => .null
  | .bool b => .bool b
  | .number n => n.source
  | .string s => .string (spelled s)
  | .array items => .array (sourceItems items)
  | .object members => .object (sourceMembers members)

def sourceItems : List Json → List Source
  | [] => []
  | item :: items => source item :: sourceItems items

def sourceMembers : Members → List (List Char × Source)
  | [] => []
  | (key, item) :: members => (spelled key, source item) :: sourceMembers members

end

/-- A layout with nothing but blanks between the tokens. -/
structure Layout.Blank (l : Layout) : Prop where
  line : ∀ depth, ∀ c ∈ l.line depth, isSpace c = true
  afterColon : ∀ c ∈ l.afterColon, isSpace c = true

theorem Layout.blank_pretty : Layout.pretty.Blank where
  line depth c hc := by
    rcases List.mem_cons.mp hc with rfl | hc
    · rfl
    · rw [List.eq_of_mem_replicate hc]
      rfl
  afterColon c hc := by
    rw [List.mem_singleton.mp hc]
    rfl

theorem Layout.blank_compact : Layout.compact.Blank where
  line _ _ hc := absurd hc List.not_mem_nil
  afterColon _ hc := absurd hc List.not_mem_nil

/-! ### One token -/

section Token
variable {rest : List Char} {ts : List Token}

/-- A character that starts a numeral starts no other token. -/
theorem token?_numeral {c : Char} {cs : List Char} (h : c = '-' ∨ c.isDigit = true) :
    token? c cs = (Numeral.read? (c :: cs)).map fun (n, rest) => (.number n, rest) := by
  have hne (x : Char) (hx : (x == '-' || x.isDigit) = false) : (c == x) = false := by
    rw [beq_eq_false_iff_ne]
    rintro rfl
    rw [Bool.or_eq_false_iff, beq_eq_false_iff_ne] at hx
    rcases h with h | h
    · exact hx.1 h
    · exact absurd (h.symm.trans hx.2) (by decide)
  unfold token?
  simp only [hne '[' rfl, hne ']' rfl, hne '\x7b' rfl, hne '\x7d' rfl, hne ',' rfl, hne ':' rfl, hne '"' rfl,
    hne 'n' rfl, hne 't' rfl, hne 'f' rfl, Bool.false_eq_true, if_false]

theorem isSpace_of_isDigit {c : Char} (h : c.isDigit = true) : isSpace c = false := by
  rw [Bool.eq_false_iff]
  intro hspace
  simp only [isSpace, Bool.or_eq_true, beq_iff_eq] at hspace
  rcases hspace with ((rfl | rfl) | rfl) | rfl <;> cases h

theorem exists_cons_spell {n : Numeral} (h : n.WellFormed) :
    ∃ c cs, n.spell = c :: cs ∧ (c = '-' ∨ c.isDigit = true) := by
  obtain ⟨negative, whole, fraction, exponent⟩ := n
  cases negative with
  | true => exact ⟨_, _, rfl, .inl rfl⟩
  | false =>
    obtain ⟨c, cs, rfl⟩ := List.exists_cons_of_ne_nil h.whole.1
    exact ⟨c, _, rfl, .inr (h.whole.2 c List.mem_cons_self)⟩

theorem Lexed.numeral {n : Numeral} (hn : n.WellFormed) (hend : Numeral.EndsNumeral rest) (h : Lexed rest ts) :
    Lexed (n.spell ++ rest) (.number n :: ts) := by
  obtain ⟨c, cs, hspell, hc⟩ := exists_cons_spell hn
  have hread := Numeral.read?_spell hn hend
  rw [hspell, List.cons_append] at hread ⊢
  have htoken : token? c (cs ++ rest) = some (.number n, rest) := by
    rw [token?_numeral hc, hread]
    rfl
  refine .token ?_ htoken h
  rcases hc with rfl | hc
  · rfl
  · exact isSpace_of_isDigit hc

theorem Lexed.text (s : String) (h : Lexed rest ts) : Lexed (writeText s ++ rest) (.string (spelled s) :: ts) := by
  have hbody : token? '"' (s.toList.flatMap escaped ++ ['"'] ++ rest) = some (.string (spelled s), rest) := by
    show (stringBody? (s.toList.flatMap escaped ++ ['"'] ++ rest)).map _ = _
    rw [List.append_assoc, List.singleton_append, stringBody?_flatMap]
    rfl
  exact .token rfl hbody h

/-- A token of one character. -/
theorem Lexed.single {c : Char} {t : Token} (hc : isSpace c = false) (ht : token? c rest = some (t, rest))
    (h : Lexed rest ts) : Lexed (c :: rest) (t :: ts) :=
  @Lexed.token c [] rest t ts hc ht h

/-- A token of several characters. -/
theorem Lexed.word {c : Char} (cs : List Char) {t : Token} (hc : isSpace c = false)
    (ht : token? c (cs ++ rest) = some (t, rest)) (h : Lexed rest ts) : Lexed (c :: (cs ++ rest)) (t :: ts) :=
  .token hc ht h

end Token

/-! ### Values -/

section Values
variable {l : Layout} {rest : List Char} {ts : List Token}

theorem endsNumeral_of_isSpace {c : Char} (h : isSpace c = true) : Numeral.EndsNumeral (c :: rest) := by
  simp only [isSpace, Bool.or_eq_true, beq_iff_eq] at h
  apply Numeral.endsNumeral_cons
  rcases h with ((rfl | rfl) | rfl) | rfl <;> decide

theorem endsNumeral_blanks {ws : List Char} (hws : ∀ c ∈ ws, isSpace c = true) {c : Char}
    (hc : c.isDigit = false ∧ c ≠ '.' ∧ c ≠ 'e' ∧ c ≠ 'E') : Numeral.EndsNumeral (ws ++ c :: rest) := by
  cases ws with
  | nil => exact Numeral.endsNumeral_cons hc
  | cons w ws => exact endsNumeral_of_isSpace (hws w List.mem_cons_self)

theorem endsNumeral_writeItems (hl : l.Blank) (depth : Nat) (items : List Json) :
    Numeral.EndsNumeral (writeItems l depth items ++ rest) := by
  cases items with
  | nil =>
    rw [writeItems, List.append_assoc]
    exact endsNumeral_blanks (hl.line depth) (by decide)
  | cons item items =>
    rw [writeItems]
    exact Numeral.endsNumeral_cons (by decide)

theorem endsNumeral_writeMembers (hl : l.Blank) (depth : Nat) (members : Members) :
    Numeral.EndsNumeral (writeMembers l depth members ++ rest) := by
  rcases members with - | ⟨⟨key, item⟩, members⟩
  · rw [writeMembers, List.append_assoc]
    exact endsNumeral_blanks (hl.line depth) (by decide)
  · rw [writeMembers]
    exact Numeral.endsNumeral_cons (by decide)

theorem Lexed.writeNumber (n : Number) (hend : Numeral.EndsNumeral rest) (h : Lexed rest ts) :
    Lexed (writeNumber n ++ rest) (n.source.row ++ ts) := by
  cases n with
  | integer n =>
    have hnumeral := Lexed.numeral (Numeral.wellFormed_ofInteger n.toInt) hend h
    rw [Numeral.spell_ofInteger] at hnumeral
    exact hnumeral
  | float x =>
    by_cases hx : x.isFinite = true
    · have hnumeral := Lexed.numeral (Numeral.wellFormed_ofBinary64 x) hend h
      rw [Numeral.spell_ofBinary64 hx] at hnumeral
      rw [Number.source, if_pos hx]
      exact hnumeral
    · have hnull : writeBinary64 x = ['n', 'u', 'l', 'l'] := by
        rw [writeBinary64, if_pos (by simpa using hx)]
      rw [Number.source, if_neg hx, Json.writeNumber, hnull]
      exact .word ['u', 'l', 'l'] rfl rfl h

mutual

theorem Lexed.write (hl : l.Blank) (depth : Nat) (j : Json) {rest : List Char} {ts : List Token}
    (hend : Numeral.EndsNumeral rest) (h : Lexed rest ts) : Lexed (write l depth j ++ rest) ((source j).row ++ ts) := by
  match j with
  | .null => exact .word ['u', 'l', 'l'] rfl rfl h
  | .bool true => exact .word ['r', 'u', 'e'] rfl rfl h
  | .bool false => exact .word ['a', 'l', 's', 'e'] rfl rfl h
  | .number n => exact .writeNumber n hend h
  | .string s => exact .text s h
  | .array [] => exact .single rfl rfl (.single rfl rfl h)
  | .array (item :: items) =>
    have hitems := Lexed.writeItems hl depth items h
    have hitem := Lexed.write hl (depth + 1) item (endsNumeral_writeItems hl depth items) hitems
    have hline := hitem.blanks (hl.line (depth + 1))
    rw [Json.write, source, sourceItems, Tree.row]
    simp only [List.cons_append, List.append_assoc]
    exact .single rfl rfl hline
  | .object [] => exact .single rfl rfl (.single rfl rfl h)
  | .object ((key, item) :: members) =>
    have hmembers := Lexed.writeMembers hl depth members h
    have hitem := Lexed.write hl (depth + 1) item (endsNumeral_writeMembers hl depth members) hmembers
    have hcolon := Lexed.single (c := ':') rfl rfl (hitem.blanks hl.afterColon)
    have hline := (Lexed.text key hcolon).blanks (hl.line (depth + 1))
    rw [Json.write, source, sourceMembers, Tree.row]
    simp only [List.cons_append, List.append_assoc]
    exact .single rfl rfl hline

theorem Lexed.writeItems (hl : l.Blank) (depth : Nat) (items : List Json) {rest : List Char} {ts : List Token}
    (h : Lexed rest ts) : Lexed (writeItems l depth items ++ rest) (Tree.rowItems (sourceItems items) ++ ts) := by
  match items with
  | [] =>
    rw [Json.writeItems, List.append_assoc]
    exact .blanks (hl.line depth) (.single rfl rfl h)
  | item :: items =>
    have hitems := Lexed.writeItems hl depth items h
    have hitem := Lexed.write hl (depth + 1) item (endsNumeral_writeItems hl depth items) hitems
    have hline := hitem.blanks (hl.line (depth + 1))
    rw [Json.writeItems, sourceItems, Tree.rowItems]
    simp only [List.cons_append, List.append_assoc]
    exact .single rfl rfl hline

theorem Lexed.writeMembers (hl : l.Blank) (depth : Nat) (members : Members) {rest : List Char} {ts : List Token}
    (h : Lexed rest ts) :
    Lexed (writeMembers l depth members ++ rest) (Tree.rowMembers (sourceMembers members) ++ ts) := by
  match members with
  | [] =>
    rw [Json.writeMembers, List.append_assoc]
    exact .blanks (hl.line depth) (.single rfl rfl h)
  | (key, item) :: members =>
    have hmembers := Lexed.writeMembers hl depth members h
    have hitem := Lexed.write hl (depth + 1) item (endsNumeral_writeMembers hl depth members) hmembers
    have hcolon := Lexed.single (c := ':') rfl rfl (hitem.blanks hl.afterColon)
    have hline := (Lexed.text key hcolon).blanks (hl.line (depth + 1))
    rw [Json.writeMembers, sourceMembers, Tree.rowMembers]
    simp only [List.cons_append, List.append_assoc]
    exact .single rfl rfl hline

end

/-- A text that is written, with blanks behind it, spells the source of its value. -/
theorem read?_write (hl : l.Blank) (j : Json) {ws : List Char} (hws : ∀ c ∈ ws, isSpace c = true) :
    Source.read? (write l 0 j ++ ws) = some (source j) := by
  have hblank : Lexed ws [] := by
    have hnil := Lexed.nil.blanks hws
    rw [List.append_nil] at hnil
    exact hnil
  have hend : Numeral.EndsNumeral ws := by
    cases ws with
    | nil => exact Numeral.endsNumeral_nil
    | cons w ws => exact endsNumeral_of_isSpace (hws w List.mem_cons_self)
  have hwrite := Lexed.write hl 0 j hend hblank
  rw [List.append_nil] at hwrite
  exact read?_of_lexed hwrite

end Values

end Json
end SplitterLaunch
