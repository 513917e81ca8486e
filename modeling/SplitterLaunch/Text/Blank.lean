/-! Blank characters are those with the Unicode property White_Space. `trim` drops them at both ends of a
    text and nothing else: a trimmed text starts and ends with a character that is not blank
    (`isBlank_head_trim`), and trimming it again changes nothing (`trim_trim`). -/

namespace SplitterLaunch
namespace Text

/-- Whether the character has the Unicode property White_Space. -/
def isBlank (c : Char) : Bool :=
  let n := c.toNat
  (9 ≤ n && n ≤ 13) || n == 0x20 || n == 0x85 || n == 0xA0 || n == 0x1680 || (0x2000 ≤ n && n ≤ 0x200A)
    || n == 0x2028 || n == 0x2029 || n == 0x202F || n == 0x205F || n == 0x3000

def trimStart (cs : List Char) : List Char := cs.dropWhile isBlank

def trimEnd (cs : List Char) : List Char := (cs.reverse.dropWhile isBlank).reverse

def trim (cs : List Char) : List Char := trimEnd (trimStart cs)

theorem isBlank_of_isDigit {c : Char} (h : c.isDigit = true) : isBlank c = false := by
  simp only [Char.isDigit, Bool.and_eq_true, decide_eq_true_eq] at h
  have hlow : 48 ≤ c.toNat := h.1
  have hhigh : c.toNat ≤ 57 := h.2
  simp only [isBlank, Bool.or_eq_false_iff, Bool.and_eq_false_iff, decide_eq_false_iff_not, beq_eq_false_iff_ne]
  omega

theorem trimStart_eq_self {cs : List Char} (h : ∀ c ∈ cs.head?, isBlank c = false) : trimStart cs = cs := by
  cases cs with
  | nil => rfl
  | cons c cs => simp [trimStart, h c (by simp)]

theorem trimEnd_eq_self {cs : List Char} (h : ∀ c ∈ cs.getLast?, isBlank c = false) : trimEnd cs = cs := by
  have hs : trimStart cs.reverse = cs.reverse := trimStart_eq_self (by simpa using h)
  simpa [trimEnd, trimStart] using congrArg List.reverse hs

theorem isBlank_head_trimStart (cs : List Char) : ∀ c ∈ (trimStart cs).head?, isBlank c = false := by
  induction cs with
  | nil => simp [trimStart]
  | cons d cs ih =>
    by_cases hd : isBlank d
    · simpa [trimStart, List.dropWhile_cons_of_pos hd] using ih
    · intro c hc
      simp [trimStart, List.dropWhile_cons_of_neg hd] at hc
      subst hc
      simpa using hd

theorem isBlank_getLast_trimEnd (cs : List Char) : ∀ c ∈ (trimEnd cs).getLast?, isBlank c = false := by
  intro c hc
  exact isBlank_head_trimStart cs.reverse c (by simpa [trimEnd, trimStart] using hc)

theorem trimEnd_isPrefix (cs : List Char) : trimEnd cs <+: cs := by
  have h : cs.reverse.dropWhile isBlank <:+ cs.reverse := List.dropWhile_suffix _
  simpa [trimEnd] using List.reverse_prefix.mpr h

theorem isBlank_head_trim (cs : List Char) : ∀ c ∈ (trim cs).head?, isBlank c = false := by
  intro c hc
  obtain ⟨rest, hrest⟩ := trimEnd_isPrefix (trimStart cs)
  apply isBlank_head_trimStart cs c
  rw [← hrest, List.head?_append]
  change c ∈ (trimEnd (trimStart cs)).head? at hc
  simp only [Option.mem_def] at hc ⊢
  rw [hc, Option.some_or]

theorem trim_trim (cs : List Char) : trim (trim cs) = trim cs := by
  have hstart : trimStart (trim cs) = trim cs := trimStart_eq_self (isBlank_head_trim cs)
  rw [trim, hstart]
  exact trimEnd_eq_self (isBlank_getLast_trimEnd _)

theorem trim_eq_self {cs : List Char} (h : ∀ c ∈ cs, isBlank c = false) : trim cs = cs := by
  rw [trim, trimStart_eq_self fun c hc => h c (List.mem_of_mem_head? hc),
    trimEnd_eq_self fun c hc => h c (List.mem_of_mem_getLast? hc)]

end Text
end SplitterLaunch
