import SplitterLaunch.Text.Bytes

/-! Texts with control sequences for terminals, and what is left of them where there is no terminal: control
    sequences and control characters go, but for those that are blanks. A text of printable characters
    stays as it is (`visible_eq_self`). -/

namespace SplitterLaunch
namespace Terminal

/-- What the next character belongs to. -/
inductive Mode where
  /-- The text itself. -/
  | text
  /-- A sequence of which only the escape character has come. -/
  | escape
  /-- A sequence of two or more characters after the escape character, up to a letter or digit. -/
  | short
  /-- A sequence after the escape character and an opening bracket. -/
  | control
  /-- A command to the system, up to the bell. -/
  | command
  /-- A string to the device or to an application. -/
  | string
deriving DecidableEq, Repr

/-- Whether a control character is a blank, which always shows. -/
def isBlank (c : Char) : Bool := c == '\t' || c == '\n' || c == '\x0c' || c == '\r'

/-- Whether the character shows, outside of sequences. -/
def isShown (c : Char) : Bool := isBlank c || (0x20 ≤ c.toNat && c != '\x7f')

/-- Where a printable ASCII character leads inside a sequence. -/
def Mode.next (mode : Mode) (c : Char) : Mode :=
  match mode with
  | .escape =>
    if c.toNat < 0x30 then .short
    else if c == '[' then .control
    else if c == ']' then .command
    else if c == 'P' || c == 'X' || c == '^' || c == '_' then .string
    else .text
  | .short => if c.toNat < 0x30 then .short else .text
  | .control => if c.toNat < 0x40 then .control else .text
  | mode => mode

/-- Takes up a character, and tells whether it shows. -/
def Mode.step (mode : Mode) (c : Char) : Mode × Bool :=
  if c == '\x1b' then (.escape, false)
  else if c == '\x18' || c == '\x1a' then (.text, false)
  else
    match mode with
    | .text => (.text, isShown c)
    | .command => (if c == '\x07' then .text else .command, false)
    | .string => (if (Text.toBytes (String.ofList [c])).contains 0x9c then .text else .string, false)
    | mode =>
      if isBlank c then (.text, true)
      else if c.toNat < 0x20 || 0x7f ≤ c.toNat then (mode, false)
      else (mode.next c, false)

/-- The characters that show, from a mode on. -/
def visibleFrom : Mode → List Char → List Char
  | _, [] => []
  | mode, c :: cs =>
    let (mode, shows) := mode.step c
    if shows then c :: visibleFrom mode cs else visibleFrom mode cs

def visible (s : String) : String := String.ofList (visibleFrom .text s.toList)

/-- A text between a sequence that changes how characters look and the one that ends the change. -/
def bold (s : String) : String := "\x1b[1m" ++ s ++ "\x1b[0m"

def boldUnderlined (s : String) : String := "\x1b[1m\x1b[4m" ++ s ++ "\x1b[0m"

theorem step_text {c : Char} (h : 0x20 ≤ c.toNat) (hd : c ≠ '\x7f') : Mode.text.step c = (.text, true) := by
  have hne : ∀ d : Char, d.toNat < 0x20 → (c == d) = false := by
    intro d hdlt
    simp only [beq_eq_false_iff_ne]
    rintro rfl
    omega
  have hdel : (c != '\x7f') = true := by simp only [bne_iff_ne, ne_eq]; exact hd
  simp only [Mode.step, hne '\x1b' (by decide), hne '\x18' (by decide), hne '\x1a' (by decide), isShown, hdel,
    decide_eq_true h, Bool.and_self, Bool.or_true, Bool.or_self, Bool.false_eq_true, if_false]

theorem visibleFrom_text {cs : List Char} (h : ∀ c ∈ cs, 0x20 ≤ c.toNat ∧ c ≠ '\x7f') :
    visibleFrom .text cs = cs := by
  induction cs with
  | nil => rfl
  | cons c cs ih =>
    have hc := h c List.mem_cons_self
    simp only [visibleFrom, step_text hc.1 hc.2, if_true, ih fun d hd => h d (List.mem_cons_of_mem _ hd)]

theorem visible_eq_self {s : String} (h : ∀ c ∈ s.toList, 0x20 ≤ c.toNat ∧ c ≠ '\x7f') : visible s = s := by
  simp only [visible, visibleFrom_text h, String.ofList_toList]

end Terminal
end SplitterLaunch
