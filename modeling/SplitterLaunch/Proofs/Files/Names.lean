import SplitterLaunch.Ledger.Store

/-! Paths as texts and the names in them. A path that ends in a name names the same directories as the sibling
    with a longer name, but for single dots before its last name, which lead nowhere. -/

namespace SplitterLaunch
namespace Files

/-- The names between the slashes of a text. -/
def namesOf (cs : List Char) : List String :=
  (cs.splitOn '/').filterMap fun cs => if cs.isEmpty then none else some (String.ofList cs)

theorem names_eq (path : String) : names path = namesOf path.toList := rfl

theorem namesOf_append_slash (xs ys : List Char) : namesOf (xs ++ '/' :: ys) = namesOf xs ++ namesOf ys := by
  unfold namesOf
  rw [List.splitOn_append_cons_self, List.filterMap_append]

theorem namesOf_nil : namesOf [] = [] := rfl

theorem namesOf_of_not_mem {cs : List Char} (hne : cs ≠ []) (h : '/' ∉ cs) : namesOf cs = [String.ofList cs] := by
  unfold namesOf
  rw [List.splitOn_eq_singleton h]
  simp [hne]

theorem namesOf_append_singleton (xs : List Char) : namesOf (xs ++ ['/']) = namesOf xs := by
  rw [namesOf_append_slash, namesOf_nil, List.append_nil]

/-! ### The last name -/

/-- A path that ends in a name, which stands behind a slash or at the start. -/
structure EndsIn (path : String) (before name : List Char) : Prop where
  toList : path.toList = before ++ name
  ne_nil : name ≠ []
  slash : '/' ∉ name
  before : before = [] ∨ ∃ cs, before = cs ++ ['/']

theorem namesOf_append {before name : List Char} (hne : name ≠ []) (hslash : '/' ∉ name)
    (h : before = [] ∨ ∃ cs, before = cs ++ ['/']) : namesOf (before ++ name) = namesOf before ++ [String.ofList name] := by
  rcases h with rfl | ⟨cs, rfl⟩
  · rw [List.nil_append, namesOf_nil, List.nil_append, namesOf_of_not_mem hne hslash]
  · rw [List.append_assoc, List.singleton_append, namesOf_append_slash, namesOf_append_singleton,
      namesOf_of_not_mem hne hslash]

theorem exists_append_name {cs : List Char} (hne : cs ≠ []) (h : cs.getLast? ≠ some '/') :
    ∃ before name, cs = before ++ name ∧ name ≠ [] ∧ '/' ∉ name ∧ (before = [] ∨ ∃ xs, before = xs ++ ['/']) := by
  induction cs with
  | nil => exact absurd rfl hne
  | cons c cs ih =>
    cases cs with
    | nil =>
      have hc : c ≠ '/' := fun hc => h (hc ▸ rfl)
      exact ⟨[], [c], rfl, by simp, by simpa using hc.symm, .inl rfl⟩
    | cons d ds =>
      obtain ⟨before, name, heq, hname, hslash, hbefore⟩ := ih (by simp) (by simpa using h)
      rw [heq]
      rcases hbefore with rfl | ⟨xs, rfl⟩
      · by_cases hc : c = '/'
        · exact ⟨['/'], name, by rw [hc]; rfl, hname, hslash, .inr ⟨[], rfl⟩⟩
        · exact ⟨[], c :: name, rfl, by simp, by simp [hslash, Ne.symm hc], .inl rfl⟩
      · exact ⟨c :: (xs ++ ['/']), name, rfl, hname, hslash, .inr ⟨c :: xs, rfl⟩⟩

theorem exists_endsIn {path : String} (hne : path.toList ≠ []) (h : path.toList.getLast? ≠ some '/') :
    ∃ before name, EndsIn path before name := by
  obtain ⟨before, name, heq, hname, hslash, hbefore⟩ := exists_append_name hne h
  exact ⟨before, name, heq, hname, hslash, hbefore⟩

/-! ### Without what a path ends in -/

open SplitterLaunch.Path (trimEnd)

/-- Nothing but single dots is left out at the end of a path. -/
theorem namesOf_trimEnd (cs : List Char) :
    ∃ dots, namesOf cs.reverse = namesOf (trimEnd cs).reverse ++ List.replicate dots "." := by
  fun_induction trimEnd cs with
  | case1 => exact ⟨0, rfl⟩
  | case2 rest hne ih =>
    obtain ⟨dots, ih⟩ := ih
    refine ⟨dots, ?_⟩
    rw [List.reverse_cons, namesOf_append_singleton, ih]
  | case3 rest ih =>
    obtain ⟨dots, ih⟩ := ih
    rw [List.reverse_cons, namesOf_append_singleton] at ih
    refine ⟨dots + 1, ?_⟩
    rw [List.reverse_cons, List.reverse_cons, List.append_assoc, List.singleton_append, namesOf_append_slash, ih,
      List.append_assoc, List.replicate_succ']
    rfl
  | case4 cs h1 h2 h3 => exact ⟨0, (List.append_nil _).symm⟩

/-- The start of a path stays. -/
theorem getLast?_trimEnd (cs : List Char) : (trimEnd cs).getLast? = cs.getLast? := by
  fun_induction trimEnd cs with
  | case1 => rfl
  | case2 rest hne ih =>
    obtain ⟨c, cs, rfl⟩ := List.exists_cons_of_ne_nil hne
    rw [ih, List.getLast?_cons_cons]
  | case3 rest ih => rw [ih, List.getLast?_cons_cons]
  | case4 cs h1 h2 h3 => rfl

section EndsIn
variable {path : String} {before name : List Char}

theorem EndsIn.names_eq (h : EndsIn path before name) : names path = namesOf before ++ [String.ofList name] := by
  rw [Files.names_eq, h.toList, namesOf_append h.ne_nil h.slash h.before]

theorem EndsIn.getLast? (h : EndsIn path before name) : path.toList.getLast? ≠ some '/' := by
  obtain ⟨c, hc⟩ : ∃ c, name.getLast? = some c := Option.isSome_iff_exists.mp (List.getLast?_isSome.mpr h.ne_nil)
  rw [h.toList, List.getLast?_append, hc]
  rintro ⟨⟩
  exact h.slash (List.mem_of_getLast? hc)

/-- A path is followed from the root if what comes before its last name starts with a slash. -/
theorem EndsIn.head?_iff (h : EndsIn path before name) :
    path.toList.head? = some '/' ↔ before.head? = some '/' := by
  rw [h.toList]
  cases before with
  | nil =>
    constructor
    · exact fun hhead => absurd (List.mem_of_head? hhead) h.slash
    · intro hhead
      cases hhead
  | cons c cs => rfl

/-! ### The sibling -/

/-- A name that does not stand for a directory by its position. -/
def IsProper (name : List Char) : Prop := name ≠ ['.'] ∧ name ≠ ['.', '.']

theorem EndsIn.trimEnd_reverse (h : EndsIn path before name) (hname : IsProper name) :
    trimEnd path.toList.reverse = path.toList.reverse := by
  have hmem : ∀ c ∈ name.reverse, c ≠ '/' := fun c hc heq => h.slash (heq ▸ List.mem_reverse.mp hc)
  rw [h.toList, List.reverse_append]
  cases hrev : name.reverse with
  | nil => exact absurd (List.reverse_eq_nil_iff.mp hrev) h.ne_nil
  | cons c cs =>
    rw [hrev] at hmem
    have hc := hmem c List.mem_cons_self
    rw [List.cons_append, trimEnd]
    · exact fun heq => hc (List.cons.inj heq).1
    · exact fun rest heq => hc (List.cons.inj heq).1
    · intro rest heq
      obtain ⟨rfl, htail⟩ := List.cons.inj heq
      cases cs with
      | nil => exact hname.1 (List.reverse_eq_iff.mp hrev)
      | cons d ds => exact hmem d (List.mem_cons_of_mem _ List.mem_cons_self) (List.cons.inj htail).1

theorem EndsIn.splitLast? (h : EndsIn path before name) (hname : IsProper name) :
    Path.splitLast? path = some (name.reverse, before.reverse) := by
  have hmem : ∀ c ∈ name.reverse, decide (c ≠ '/') = true := fun c hc =>
    decide_eq_true fun heq => h.slash (heq ▸ List.mem_reverse.mp hc)
  have hne : name.reverse ≠ [] := fun hnil => h.ne_nil (List.reverse_eq_nil_iff.mp hnil)
  have htake : before.reverse.takeWhile (· ≠ '/') = [] := by
    rcases h.before with rfl | ⟨cs, rfl⟩
    · rfl
    · rw [List.reverse_append]
      rfl
  have hdrop : before.reverse.dropWhile (· ≠ '/') = before.reverse := by
    rcases h.before with rfl | ⟨cs, rfl⟩
    · rfl
    · rw [List.reverse_append]
      rfl
  have hsplit : (name.reverse ++ before.reverse).takeWhile (· ≠ '/') = name.reverse ∧
      (name.reverse ++ before.reverse).dropWhile (· ≠ '/') = before.reverse := by
    rw [List.takeWhile_append_of_pos hmem, List.dropWhile_append_of_pos hmem, htake, hdrop, List.append_nil]
    exact ⟨rfl, rfl⟩
  unfold Path.splitLast?
  rw [h.trimEnd_reverse hname, h.toList, List.reverse_append]
  split
  · rename_i hnil
    exact absurd (List.append_eq_nil_iff.mp hnil).1 hne
  · rename_i hroot
    cases hrev : name.reverse with
    | nil => exact absurd hrev hne
    | cons c cs =>
      rw [hrev] at hroot hmem
      exact absurd (List.cons.inj hroot).1 (of_decide_eq_true (hmem c List.mem_cons_self))
  · rw [hsplit.1, hsplit.2]

theorem EndsIn.fileName? (h : EndsIn path before name) (hname : IsProper name) :
    Path.fileName? path = some (String.ofList name) := by
  have hdot : String.ofList name ≠ "." := fun heq => hname.1 (String.ofList_injective heq)
  have hdots : String.ofList name ≠ ".." := fun heq => hname.2 (String.ofList_injective heq)
  unfold Path.fileName?
  rw [h.splitLast? hname, Option.bind_some]
  simp only [List.reverse_reverse]
  rw [if_neg (by simp [hdot, hdots])]

theorem EndsIn.parent? (h : EndsIn path before name) (hname : IsProper name) :
    Path.parent? path = some (String.ofList (trimEnd before.reverse).reverse) := by
  unfold Path.parent?
  rw [h.splitLast? hname]
  rfl

/-- The ending of the sibling's name. -/
def temporaryEnding : List Char := ['.', 't', 'm', 'p']

/-- The sibling that a path's file is written to first has a longer name in the same directory. -/
theorem EndsIn.temporaryPath (h : EndsIn path before name) (hname : IsProper name) :
    ∃ above, EndsIn (Ledger.temporaryPath path) above (name ++ temporaryEnding) ∧ above.head? = before.head? ∧
      ∃ dots, namesOf before = namesOf above ++ List.replicate dots "." := by
  have hending : String.ofList name ++ ".tmp" = String.ofList (name ++ temporaryEnding) := by
    rw [String.ofList_append]
    rfl
  have hjoin : Ledger.temporaryPath path =
      Path.join (String.ofList (trimEnd before.reverse).reverse) (String.ofList (name ++ temporaryEnding)) := by
    unfold Ledger.temporaryPath Path.sibling
    rw [h.fileName? hname, h.parent? hname, Option.getD_some, Option.getD_some, hending]
  have hslash : '/' ∉ name ++ temporaryEnding := by
    rw [List.mem_append, not_or]
    exact ⟨h.slash, by decide⟩
  have hne : name ++ temporaryEnding ≠ [] := List.append_ne_nil_of_left_ne_nil h.ne_nil _
  have hhead : (trimEnd before.reverse).reverse.head? = before.head? := by
    rw [List.head?_reverse, getLast?_trimEnd, List.getLast?_reverse]
  obtain ⟨dots, hdots⟩ := namesOf_trimEnd before.reverse
  rw [List.reverse_reverse] at hdots
  generalize hdirectory : (trimEnd before.reverse).reverse = directory at hjoin hhead hdots
  -- the directory is joined to the name without a slash if it is none, or the root
  by_cases hplain : directory = [] ∨ directory.getLast? = some '/'
  · have habove : directory = [] ∨ ∃ cs, directory = cs ++ ['/'] := by
      rcases hplain with hnil | hlast
      · exact .inl hnil
      · exact .inr (List.getLast?_eq_some_iff.mp hlast)
    refine ⟨directory, ⟨?_, hne, hslash, habove⟩, hhead, dots, hdots⟩
    rw [hjoin, Path.join, if_pos (by simpa using hplain), String.toList_append, String.toList_ofList, String.toList_ofList]
  · have hnil : directory ≠ [] := fun hnil => hplain (.inl hnil)
    refine ⟨directory ++ ['/'], ⟨?_, hne, hslash, .inr ⟨directory, rfl⟩⟩, ?_, dots, ?_⟩
    · rw [hjoin, Path.join, if_neg (by simpa using hplain), String.toList_append, String.toList_append,
        String.toList_ofList, String.toList_ofList, String.toList_ofList]
    · obtain ⟨c, cs, rfl⟩ := List.exists_cons_of_ne_nil hnil
      exact hhead
    · rw [namesOf_append_singleton, hdots]

end EndsIn

end Files
end SplitterLaunch
