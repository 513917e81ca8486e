import SplitterLaunch.Proofs.Files.Names

/-! Trees of files in which everything stands in a directory. No operation takes a directory away, so a path that
    could be followed can be followed to the same place after it. -/

namespace SplitterLaunch
namespace Files
variable {f f' f'' : Files} {path : String} {l l' : Location} {e : Entry}

/-! ### Entries -/

theorem lookup_cons_of_ne {key : Location} (h : l' ≠ key) (e : Entry) (es : List (Location × Entry)) :
    ((key, e) :: es).lookup l' = es.lookup l' := by
  rw [List.lookup_cons, beq_false_of_ne h]

theorem lookup_setEntry (l l' : Location) (e : Entry) (es : List (Location × Entry)) :
    (setEntry l e es).lookup l' = if l' = l then some e else es.lookup l' := by
  induction es with
  | nil =>
    rw [setEntry]
    split
    · rename_i h
      rw [h, List.lookup_cons_self]
    · rename_i h
      exact lookup_cons_of_ne h _ _
  | cons x es ih =>
    obtain ⟨key, other⟩ := x
    rw [setEntry]
    by_cases hkey : key = l
    · subst hkey
      rw [if_pos rfl]
      split
      · rename_i h
        rw [h, List.lookup_cons_self]
      · rename_i h
        rw [lookup_cons_of_ne h, lookup_cons_of_ne h]
    · rw [if_neg hkey]
      by_cases h : l' = key
      · subst h
        rw [List.lookup_cons_self, List.lookup_cons_self, if_neg hkey]
      · rw [lookup_cons_of_ne h, lookup_cons_of_ne h, ih]

theorem lookup_filter (l l' : Location) (es : List (Location × Entry)) :
    (es.filter fun x => x.1 ≠ l).lookup l' = if l' = l then none else es.lookup l' := by
  induction es with
  | nil => simp
  | cons x es ih =>
    obtain ⟨key, other⟩ := x
    by_cases hkey : key = l
    · subst hkey
      rw [List.filter_cons_of_neg (by simp), ih]
      split
      · rfl
      · rename_i h
        rw [lookup_cons_of_ne h]
    · rw [List.filter_cons_of_pos (by simpa using hkey)]
      by_cases h : l' = key
      · subst h
        rw [List.lookup_cons_self, List.lookup_cons_self, if_neg hkey]
      · rw [lookup_cons_of_ne h, lookup_cons_of_ne h, ih]

theorem lookup?_put (hl : l ≠ []) (l' : Location) :
    (f.put l e).lookup? l' = if l' = l then some e else f.lookup? l' := by
  cases l' with
  | nil => rw [if_neg hl.symm]; rfl
  | cons name l' => exact lookup_setEntry l (name :: l') e f.entries

theorem lookup?_remove (hl : l ≠ []) (l' : Location) :
    (f.remove l).lookup? l' = if l' = l then none else f.lookup? l' := by
  cases l' with
  | nil => rw [if_neg hl.symm]; rfl
  | cons name l' => exact lookup_filter l (name :: l') f.entries

theorem ne_nil_of_lookup? (h : f.lookup? l ≠ some .directory) : l ≠ [] := by
  rintro rfl
  exact h rfl

/-! ### Well-formed trees -/

/-- Everything stands in a directory, and the working directory is one. -/
structure Sound (f : Files) : Prop where
  start : f.lookup? f.workingDirectory = some .directory
  above : ∀ {name : String} {l : Location}, f.lookup? (name :: l) ≠ none → f.lookup? l = some .directory

/-- A tree is well formed if the parents of its entries are directories, which can be checked. -/
theorem sound_of_all (hstart : f.lookup? f.workingDirectory = some .directory)
    (h : (f.entries.all fun x => f.lookup? x.1.tail == some .directory) = true) : f.Sound := by
  refine ⟨hstart, ?_⟩
  intro name l hentry
  obtain ⟨e, he⟩ := Option.ne_none_iff_exists'.mp hentry
  obtain ⟨key, hmem, hkey⟩ : ∃ x ∈ f.entries, name :: l = x.1 := by
    obtain ⟨before, after, heq, -⟩ := List.lookup_eq_some_iff.mp he
    exact ⟨(name :: l, e), heq ▸ List.mem_append_right _ List.mem_cons_self, rfl⟩
  have hparent := List.all_eq_true.mp h key hmem
  rw [← hkey] at hparent
  exact beq_iff_eq.mp hparent

theorem Sound.tail (hf : f.Sound) (h : f.lookup? l = some .directory) : f.lookup? l.tail = some .directory := by
  cases l with
  | nil => rfl
  | cons name l =>
    have hentry : f.lookup? (name :: l) ≠ none := h ▸ Option.some_ne_none _
    exact hf.above hentry

theorem Sound.put (hf : f.Sound) {name : String} (hl : f.lookup? l = some .directory)
    (he : f.lookup? (name :: l) = some .directory → e = .directory) : (f.put (name :: l) e).Sound := by
  have hne : name :: l ≠ [] := List.cons_ne_nil _ _
  have hkeep : ∀ l', f.lookup? l' = some .directory → (f.put (name :: l) e).lookup? l' = some .directory := by
    intro l' h
    rw [lookup?_put hne]
    split
    · rename_i heq
      rw [he (heq ▸ h)]
    · exact h
  refine ⟨hkeep _ hf.start, ?_⟩
  intro other l' h
  rw [lookup?_put hne] at h
  split at h
  · rename_i heq
    obtain ⟨rfl, rfl⟩ := List.cons.inj heq
    exact hkeep _ hl
  · exact hkeep _ (hf.above h)

theorem Sound.remove (hf : f.Sound) (h : f.lookup? l ≠ some .directory) : (f.remove l).Sound := by
  have hne := ne_nil_of_lookup? h
  have hkeep : ∀ l', f.lookup? l' = some .directory → (f.remove l).lookup? l' = some .directory := by
    intro l' hl'
    rw [lookup?_remove hne, if_neg]
    · exact hl'
    · rintro rfl
      exact h hl'
  refine ⟨hkeep _ hf.start, ?_⟩
  intro other l' hother
  rw [lookup?_remove hne] at hother
  split at hother
  · exact absurd rfl hother
  · exact hkeep _ (hf.above hother)

/-! ### Entering directories -/

/-- The same working directory, and all directories of one tree in another. -/
structure KeepsDirectories (f f' : Files) : Prop where
  start : f'.workingDirectory = f.workingDirectory
  directory : ∀ l, f.lookup? l = some .directory → f'.lookup? l = some .directory

theorem KeepsDirectories.refl (f : Files) : KeepsDirectories f f := ⟨rfl, fun _ h => h⟩

theorem KeepsDirectories.trans (h : KeepsDirectories f f') (h' : KeepsDirectories f' f'') : KeepsDirectories f f'' :=
  ⟨h'.start.trans h.start, fun l hl => h'.directory l (h.directory l hl)⟩

/-- What a name can lead to from a directory. -/
theorem enter_eq_ok_iff {name : String} : f.enter l name = .ok l' ↔
    (name = "." ∧ l' = l) ∨ (name = ".." ∧ l' = l.tail) ∨
      (name ≠ "." ∧ name ≠ ".." ∧ ¬maxName < name.utf8ByteSize ∧ f.lookup? (name :: l) = some .directory ∧
        l' = name :: l) := by
  unfold enter
  by_cases hdot : name = "."
  · simp [hdot, eq_comm]
  · by_cases hdots : name = ".."
    · simp [hdots, eq_comm]
    · by_cases hlong : maxName < name.utf8ByteSize
      · simp [hdot, hdots, hlong]
      · cases hentry : f.lookup? (name :: l) with
        | none => simp [hdot, hdots, hlong]
        | some e => cases e <;> simp [hdot, hdots, hlong, eq_comm]

/-- A name leads nowhere for want of an entry only if it is one of a file or directory that is not there. -/
theorem enter_eq_notFound_iff {name : String} : f.enter l name = .error .notFound ↔
    name ≠ "." ∧ name ≠ ".." ∧ ¬maxName < name.utf8ByteSize ∧ f.lookup? (name :: l) = none := by
  unfold enter
  by_cases hdot : name = "."
  · simp [hdot]
  · by_cases hdots : name = ".."
    · simp [hdots]
    · by_cases hlong : maxName < name.utf8ByteSize
      · simp [hdot, hdots, hlong, OsFault.nameTooLong, OsFault.notFound]
      · cases hentry : f.lookup? (name :: l) with
        | none => simp [hdot, hdots, hlong]
        | some e => cases e <;> simp [hdot, hdots, hlong, OsFault.notDirectory, OsFault.notFound]

theorem enter_of_keeps (h : KeepsDirectories f f') {name : String} (henter : f.enter l name = .ok l') :
    f'.enter l name = .ok l' := by
  rw [enter_eq_ok_iff] at henter ⊢
  rcases henter with hdot | hdots | ⟨h1, h2, h3, hentry, heq⟩
  · exact .inl hdot
  · exact .inr (.inl hdots)
  · exact .inr (.inr ⟨h1, h2, h3, h.directory _ hentry, heq⟩)

theorem foldlM_cons_ok_iff {name : String} {names : List String} :
    (name :: names).foldlM f.enter l = .ok l' ↔ ∃ l₁, f.enter l name = .ok l₁ ∧ names.foldlM f.enter l₁ = .ok l' := by
  rw [List.foldlM_cons]
  cases f.enter l name with
  | error fault => simp [bind, Except.bind]
  | ok l₁ => simp [bind, Except.bind]

theorem foldlM_enter_of_keeps (h : KeepsDirectories f f') {names : List String}
    (hfold : names.foldlM f.enter l = .ok l') : names.foldlM f'.enter l = .ok l' := by
  induction names generalizing l with
  | nil => exact hfold
  | cons name names ih =>
    obtain ⟨l₁, henter, hrest⟩ := foldlM_cons_ok_iff.mp hfold
    exact foldlM_cons_ok_iff.mpr ⟨l₁, enter_of_keeps h henter, ih hrest⟩

theorem lookup?_of_enter (hf : f.Sound) (hl : f.lookup? l = some .directory) {name : String}
    (henter : f.enter l name = .ok l') : f.lookup? l' = some .directory := by
  rcases enter_eq_ok_iff.mp henter with ⟨-, rfl⟩ | ⟨-, rfl⟩ | ⟨-, -, -, hentry, rfl⟩
  · exact hl
  · exact hf.tail hl
  · exact hentry

theorem lookup?_of_foldlM (hf : f.Sound) (hl : f.lookup? l = some .directory) {names : List String}
    (hfold : names.foldlM f.enter l = .ok l') : f.lookup? l' = some .directory := by
  induction names generalizing l with
  | nil => cases hfold; exact hl
  | cons name names ih =>
    obtain ⟨l₁, henter, hrest⟩ := foldlM_cons_ok_iff.mp hfold
    exact ih (lookup?_of_enter hf hl henter) hrest

/-- Single dots at the end lead nowhere. -/
theorem foldlM_append_dots (names : List String) (dots : Nat) (l : Location) :
    (names ++ List.replicate dots ".").foldlM f.enter l = names.foldlM f.enter l := by
  rw [List.foldlM_append]
  have hdots (l : Location) : (List.replicate dots ".").foldlM f.enter l = .ok l := by
    induction dots with
    | zero => rfl
    | succ dots ih => exact foldlM_cons_ok_iff.mpr ⟨l, enter_eq_ok_iff.mpr (.inl ⟨rfl, rfl⟩), ih⟩
  cases names.foldlM f.enter l with
  | error fault => rfl
  | ok l => exact hdots l

end Files
end SplitterLaunch
