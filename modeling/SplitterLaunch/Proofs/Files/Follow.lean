import SplitterLaunch.Outcome
import SplitterLaunch.Proofs.Files.Tree

/-! Where paths lead before and after an operation. A path that leads to a file ends in a name, and what stands
    before the name leads to the file's directory. -/

namespace SplitterLaunch
namespace Files
variable {f f' f'' : Files} {path : String} {t : Target}

/-! ### Following -/

/-- Where a path starts. -/
def startOf (f : Files) (cs : List Char) : Location := if cs.head? = some '/' then [] else f.workingDirectory

/-- Why a path can be followed in no tree. -/
def pathFault? (path : String) : Option OsFault :=
  if path.toList.contains '\x00' then some .zeroInPath
  else if path.isEmpty then some .notFound
  else if maxPath ≤ path.utf8ByteSize then some .nameTooLong
  else none

/-- Where the last name of a path leads from a directory. -/
def lastTarget (path : String) (last : String) (directory : Location) : Except OsFault Target :=
  let slash := path.toList.getLast? == some '/'
  if last = "." then .ok ⟨directory, true, slash⟩
  else if last = ".." then .ok ⟨directory.tail, true, slash⟩
  else if maxName < last.utf8ByteSize then .error .nameTooLong
  else .ok ⟨last :: directory, false, slash⟩

theorem follow_eq (f : Files) (path : String) : f.follow path =
    match pathFault? path with
    | some fault => .error fault
    | none =>
      match (names path).getLast? with
      | none => .ok ⟨f.startOf path.toList, true, false⟩
      | some last => ((names path).dropLast.foldlM f.enter (f.startOf path.toList)).bind (lastTarget path last) := by
  unfold follow pathFault?
  split
  · rfl
  · split
    · rfl
    · split
      · rfl
      · simp only
        cases (names path).getLast? with
        | none => rfl
        | some last => rfl

theorem KeepsDirectories.startOf_eq (h : KeepsDirectories f f') (cs : List Char) : f'.startOf cs = f.startOf cs := by
  unfold startOf
  rw [h.start]

theorem follow_of_keeps (h : KeepsDirectories f f') (hfollow : f.follow path = .ok t) : f'.follow path = .ok t := by
  rw [follow_eq] at hfollow ⊢
  rw [h.startOf_eq]
  cases hfault : pathFault? path with
  | some fault => rw [hfault] at hfollow; cases hfollow
  | none =>
    rw [hfault] at hfollow
    cases hlast : (names path).getLast? with
    | none => rw [hlast] at hfollow; exact hfollow
    | some last =>
      rw [hlast] at hfollow
      simp only at hfollow ⊢
      cases hfold : (names path).dropLast.foldlM f.enter (f.startOf path.toList) with
      | error fault => rw [hfold] at hfollow; cases hfollow
      | ok directory =>
        rw [hfold] at hfollow
        rw [foldlM_enter_of_keeps h hfold]
        exact hfollow

/-- The directory that a path starts from is one. -/
theorem lookup?_startOf (hf : f.Sound) (cs : List Char) : f.lookup? (f.startOf cs) = some .directory := by
  unfold startOf
  split
  · rfl
  · exact hf.start

/-- What a path followed leads to: a directory, by a path that ends in dots or is a slash, or a name in one. -/
theorem follow_cases (hf : f.Sound) (h : f.follow path = .ok t) :
    (t.special = true ∧ f.lookup? t.location = some .directory) ∨
      (t.special = false ∧ ∃ last directory, (names path).getLast? = some last ∧ last ≠ "." ∧ last ≠ ".." ∧
        t.slash = (path.toList.getLast? == some '/') ∧ t.location = last :: directory ∧
        f.lookup? directory = some .directory) := by
  rw [follow_eq] at h
  split at h
  · cases h
  · split at h
    · cases h
      exact .inl ⟨rfl, lookup?_startOf hf _⟩
    · rename_i last hlast
      cases hfold : (names path).dropLast.foldlM f.enter (f.startOf path.toList) with
      | error fault => rw [hfold] at h; cases h
      | ok directory =>
        have hdirectory := lookup?_of_foldlM hf (lookup?_startOf hf _) hfold
        rw [hfold] at h
        change lastTarget path last directory = .ok t at h
        unfold lastTarget at h
        simp only at h
        split at h
        · cases h
          exact .inl ⟨rfl, hdirectory⟩
        · split at h
          · cases h
            exact .inl ⟨rfl, hf.tail hdirectory⟩
          · split at h
            · cases h
            · rename_i hdot hdots _
              cases h
              exact .inr ⟨rfl, last, directory, hlast, hdot, hdots, rfl, rfl, hdirectory⟩

theorem lookup?_of_special (hf : f.Sound) (h : f.follow path = .ok t) (hspecial : t.special = true) :
    f.lookup? t.location = some .directory := by
  rcases follow_cases hf h with ⟨-, hentry⟩ | ⟨hnot, -⟩
  · exact hentry
  · rw [hspecial] at hnot
    cases hnot

/-- A path that leads to a name with no slash behind it ends in the name. -/
theorem exists_endsIn_of_follow (hf : f.Sound) (h : f.follow path = .ok t) (hspecial : t.special = false)
    (hslash : t.slash = false) : ∃ before name, EndsIn path before name ∧ IsProper name := by
  rcases follow_cases hf h with ⟨hnot, -⟩ | ⟨-, last, directory, hlast, hdot, hdots, heq, -, -⟩
  · rw [hspecial] at hnot
    cases hnot
  · have hend : path.toList.getLast? ≠ some '/' := by
      rw [hslash] at heq
      exact beq_eq_false_iff_ne.mp heq.symm
    have hne : path.toList ≠ [] := by
      intro hnil
      rw [names_eq, hnil] at hlast
      cases hlast
    obtain ⟨before, name, hends⟩ := exists_endsIn hne hend
    rw [hends.names_eq, List.getLast?_concat] at hlast
    cases hlast
    exact ⟨before, name, hends, fun h => hdot (h ▸ rfl), fun h => hdots (h ▸ rfl)⟩

section EndsIn
variable {before name : List Char}

theorem EndsIn.startOf_eq (h : EndsIn path before name) (f : Files) : f.startOf path.toList = f.startOf before := by
  unfold startOf
  simp only [h.head?_iff]

/-- A path that ends in a name leads to the name in the directory before it. -/
theorem EndsIn.follow_eq (h : EndsIn path before name) (hname : IsProper name) (f : Files) :
    f.follow path = match pathFault? path with
      | some fault => .error fault
      | none => ((namesOf before).foldlM f.enter (f.startOf before)).bind fun directory =>
        if maxName < (String.ofList name).utf8ByteSize then .error .nameTooLong
        else .ok ⟨String.ofList name :: directory, false, false⟩ := by
  have hstart := h.startOf_eq f
  have hslash : (path.toList.getLast? == some '/') = false := beq_false_of_ne h.getLast?
  have hdot : String.ofList name ≠ "." := fun heq => hname.1 (String.ofList_injective heq)
  have hdots : String.ofList name ≠ ".." := fun heq => hname.2 (String.ofList_injective heq)
  rw [Files.follow_eq, h.names_eq, List.getLast?_concat, List.dropLast_concat, hstart]
  unfold lastTarget
  simp only [hslash, if_neg hdot, if_neg hdots]

theorem EndsIn.follow_eq_ok_iff (h : EndsIn path before name) (hname : IsProper name) :
    f.follow path = .ok t ↔ pathFault? path = none ∧ ¬maxName < (String.ofList name).utf8ByteSize ∧
      ∃ directory, (namesOf before).foldlM f.enter (f.startOf before) = .ok directory ∧
        t = ⟨String.ofList name :: directory, false, false⟩ := by
  rw [h.follow_eq hname]
  cases hfault : pathFault? path with
  | some fault => simp
  | none =>
    cases hfold : (namesOf before).foldlM f.enter (f.startOf before) with
    | error fault => simp [Except.bind]
    | ok directory =>
      by_cases hlong : maxName < (String.ofList name).utf8ByteSize
      · simp [Except.bind, hlong]
      · simp [Except.bind, hlong, eq_comm]

end EndsIn

/-! ### Operations -/

/-- A file is read where its path leads. -/
theorem read_eq_ok_iff {content : List UInt8} : f.read path = .ok content ↔
    ∃ t, f.follow path = .ok t ∧ t.slash = false ∧ f.lookup? t.location = some (.file content) := by
  unfold read
  rw [Outcome.bind_eq_ok_iff]
  constructor
  · rintro ⟨t, ht, h⟩
    split at h
    · cases h
    · cases h
    · rename_i content' hentry
      split at h
      · cases h
      · rename_i hslash
        cases h
        exact ⟨t, ht, by simpa using hslash, hentry⟩
  · rintro ⟨t, ht, hslash, hentry⟩
    refine ⟨t, ht, ?_⟩
    rw [hentry]
    simp [hslash, pure, Except.pure]

theorem makeDirectory_eq_ok_iff : f.makeDirectory path = .ok f' ↔
    ∃ t, f.follow path = .ok t ∧ f.lookup? t.location = none ∧ f' = f.put t.location .directory := by
  unfold makeDirectory
  rw [Outcome.bind_eq_ok_iff]
  apply exists_congr
  intro t
  cases hentry : f.lookup? t.location with
  | none => simp [pure, Except.pure, eq_comm]
  | some e => simp

theorem write_eq_ok_iff {content : List UInt8} : f.write path content = .ok f' ↔
    ∃ t, f.follow path = .ok t ∧ t.special = false ∧ t.slash = false ∧ f.lookup? t.location ≠ some .directory ∧
      f' = f.put t.location (.file content) := by
  unfold write
  rw [Outcome.bind_eq_ok_iff]
  apply exists_congr
  intro t
  by_cases h : (t.special || t.slash || f.lookup? t.location == some .directory) = true
  · rw [if_pos h]
    constructor
    · rintro ⟨-, ⟨⟩⟩
    · rintro ⟨-, hspecial, hslash, hentry, -⟩
      simp [hspecial, hslash, hentry] at h
  · rw [if_neg h]
    simp only [Bool.or_eq_true, not_or, Bool.not_eq_true, beq_eq_false_iff_ne] at h
    simp [h.1.1, h.1.2, h.2, pure, Except.pure, eq_comm]

theorem rename_eq_ok_iff {source target : String} : f.rename source target = .ok f' ↔
    ∃ o d content, f.follow source = .ok o ∧ f.follow target = .ok d ∧ f.lookup? o.location = some (.file content) ∧
      d.special = false ∧ d.slash = false ∧ f.lookup? d.location ≠ some .directory ∧
      f' = (f.remove o.location).put d.location (.file content) := by
  unfold rename
  simp only [Outcome.bind_eq_ok_iff]
  constructor
  · rintro ⟨o, ho, d, hd, h⟩
    split at h
    · cases h
    · cases h
    · rename_i content hentry
      split at h
      · cases h
      · rename_i hspecial
        split at h
        · cases h
        · rename_i hslash
          split at h
          · cases h
          · rename_i hdirectory
            cases h
            exact ⟨o, d, content, ho, hd, hentry, by simpa using hspecial, by simpa using hslash,
              by simpa using hdirectory, rfl⟩
  · rintro ⟨o, d, content, ho, hd, hentry, hspecial, hslash, hdirectory, rfl⟩
    refine ⟨o, ho, d, hd, ?_⟩
    rw [hentry]
    simp [hspecial, hslash, hdirectory, pure, Except.pure]

theorem removeFile_eq_ok_iff : f.removeFile path = .ok f' ↔
    ∃ t content, f.follow path = .ok t ∧ f.lookup? t.location = some (.file content) ∧ f' = f.remove t.location := by
  unfold removeFile
  simp only [Outcome.bind_eq_ok_iff]
  constructor
  · rintro ⟨t, ht, h⟩
    split at h
    · cases h
    · cases h
    · rename_i content hentry
      cases h
      exact ⟨t, content, ht, hentry, rfl⟩
  · rintro ⟨t, content, ht, hentry, rfl⟩
    exact ⟨t, ht, by rw [hentry]; rfl⟩

/-! ### What the operations keep -/

/-- A tree in which an operation has left every directory, and everything in a directory. -/
structure Kept (f f' : Files) : Prop where
  keeps : KeepsDirectories f f'
  sound : f.Sound → f'.Sound

theorem Kept.trans (h : Kept f f') (h' : Kept f' f'') : Kept f f'' :=
  ⟨h.keeps.trans h'.keeps, fun hf => h'.sound (h.sound hf)⟩

theorem keepsDirectories_put {l : Location} {e : Entry} (h : f.lookup? l ≠ some .directory) :
    KeepsDirectories f (f.put l e) := by
  refine ⟨rfl, fun l' hl' => ?_⟩
  rw [lookup?_put (ne_nil_of_lookup? h), if_neg]
  · exact hl'
  · rintro rfl
    exact h hl'

theorem keepsDirectories_remove {l : Location} (h : f.lookup? l ≠ some .directory) :
    KeepsDirectories f (f.remove l) := by
  refine ⟨rfl, fun l' hl' => ?_⟩
  rw [lookup?_remove (ne_nil_of_lookup? h), if_neg]
  · exact hl'
  · rintro rfl
    exact h hl'

/-- Putting an entry where a path leads and no directory is keeps the tree well formed. -/
theorem kept_put {e : Entry} (ht : f.follow path = .ok t) (h : f.lookup? t.location ≠ some .directory) :
    Kept f (f.put t.location e) := by
  refine ⟨keepsDirectories_put h, fun hf => ?_⟩
  rcases follow_cases hf ht with ⟨-, hentry⟩ | ⟨-, last, directory, -, -, -, -, heq, hdirectory⟩
  · exact absurd hentry h
  · rw [heq] at h ⊢
    exact hf.put hdirectory fun hentry => absurd hentry h

theorem kept_remove {l : Location} (h : f.lookup? l ≠ some .directory) : Kept f (f.remove l) :=
  ⟨keepsDirectories_remove h, fun hf => hf.remove h⟩

theorem kept_of_makeDirectory (h : f.makeDirectory path = .ok f') : Kept f f' := by
  obtain ⟨t, ht, hentry, rfl⟩ := makeDirectory_eq_ok_iff.mp h
  exact kept_put ht (by rw [hentry]; simp)

theorem kept_of_write {content : List UInt8} (h : f.write path content = .ok f') : Kept f f' := by
  obtain ⟨t, ht, -, -, hentry, rfl⟩ := write_eq_ok_iff.mp h
  exact kept_put ht hentry

theorem kept_of_removeFile (h : f.removeFile path = .ok f') : Kept f f' := by
  obtain ⟨t, content, -, hentry, rfl⟩ := removeFile_eq_ok_iff.mp h
  exact kept_remove (by rw [hentry]; simp)

theorem kept_of_rename {source target : String} (h : f.rename source target = .ok f') : Kept f f' := by
  obtain ⟨o, d, content, -, hd, hentry, -, -, hdirectory, rfl⟩ := rename_eq_ok_iff.mp h
  have hfile : f.lookup? o.location ≠ some .directory := by rw [hentry]; simp
  have hgone : (f.remove o.location).lookup? d.location ≠ some .directory := by
    rw [lookup?_remove (ne_nil_of_lookup? hfile)]
    split
    · exact (Option.some_ne_none _).symm
    · exact hdirectory
  have hremoved := kept_remove hfile
  exact hremoved.trans (kept_put (follow_of_keeps hremoved.keeps hd) hgone)

/-! ### Directories that are made -/

/-- A tree with some more directories. -/
structure Grown (f f' : Files) : Prop where
  start : f'.workingDirectory = f.workingDirectory
  old : ∀ l e, f.lookup? l = some e → f'.lookup? l = some e
  new : ∀ l e, f'.lookup? l = some e → f.lookup? l = some e ∨ e = .directory
  sound : f.Sound → f'.Sound

theorem Grown.refl (f : Files) : Grown f f := ⟨rfl, fun _ _ h => h, fun _ _ h => .inl h, fun h => h⟩

theorem Grown.trans (h : Grown f f') (h' : Grown f' f'') : Grown f f'' where
  start := h'.start.trans h.start
  old l e he := h'.old l e (h.old l e he)
  new l e he := (h'.new l e he).elim (h.new l e) .inr
  sound hf := h'.sound (h.sound hf)

theorem Grown.keeps (h : Grown f f') : KeepsDirectories f f' := ⟨h.start, fun l hl => h.old l _ hl⟩

/-- Files are the same in a tree with more directories. -/
theorem Grown.file_iff (h : Grown f f') {l : Location} (content : List UInt8) :
    f'.lookup? l = some (.file content) ↔ f.lookup? l = some (.file content) :=
  ⟨fun hentry => (h.new l _ hentry).resolve_right (by simp), h.old l _⟩

theorem grown_put {l : Location} (h : f.lookup? l = none) (hsound : f.Sound → (f.put l .directory).Sound) :
    Grown f (f.put l .directory) := by
  have hne : l ≠ [] := ne_nil_of_lookup? (by rw [h]; simp)
  refine ⟨rfl, ?_, ?_, hsound⟩
  · intro l' e he
    rw [lookup?_put hne, if_neg]
    · exact he
    · rintro rfl
      rw [h] at he
      cases he
  · intro l' e he
    rw [lookup?_put hne] at he
    split at he
    · cases he
      exact .inr rfl
    · exact .inl he

theorem grown_of_makeDirectory (h : f.makeDirectory path = .ok f') : Grown f f' := by
  have hkept := kept_of_makeDirectory h
  obtain ⟨t, -, hentry, rfl⟩ := makeDirectory_eq_ok_iff.mp h
  exact grown_put hentry hkept.sound

/-- A path that cannot be followed for another reason than that something is missing cannot be followed when
    there are more directories. -/
theorem Grown.enter_error (h : Grown f f') {l : Location} {name : String} {fault : OsFault}
    (hfault : fault ≠ .notFound) (henter : f.enter l name = .error fault) : f'.enter l name = .error fault := by
  unfold enter at henter ⊢
  split at henter
  · cases henter
  · split at henter
    · cases henter
    · rename_i hdot hdots
      rw [if_neg hdot, if_neg hdots]
      split at henter
      · rename_i hlong
        rw [if_pos hlong]
        exact henter
      · rename_i hlong
        rw [if_neg hlong]
        cases hentry : f.lookup? (name :: l) with
        | none =>
          rw [hentry] at henter
          cases henter
          exact absurd rfl hfault
        | some e =>
          rw [hentry] at henter
          rw [h.old _ _ hentry]
          exact henter

theorem Grown.foldlM_error (h : Grown f f') {names : List String} {l : Location} {fault : OsFault}
    (hfault : fault ≠ .notFound) (hfold : names.foldlM f.enter l = .error fault) :
    names.foldlM f'.enter l = .error fault := by
  induction names generalizing l with
  | nil => cases hfold
  | cons name names ih =>
    rw [List.foldlM_cons] at hfold ⊢
    cases henter : f.enter l name with
    | error fault' =>
      rw [henter] at hfold
      cases hfold
      rw [h.enter_error hfault henter]
      rfl
    | ok l' =>
      rw [henter] at hfold
      rw [enter_of_keeps h.keeps henter]
      exact ih hfold

section EndsIn
variable {before name : List Char}

/-- A path that fails for no missing file leads to the same place when there are more directories. -/
theorem Grown.follow_eq (h : Grown f f') (hends : EndsIn path before name) (hname : IsProper name)
    (hfollow : f.follow path ≠ .error .notFound) : f'.follow path = f.follow path := by
  rw [hends.follow_eq hname] at hfollow ⊢
  rw [hends.follow_eq hname, h.keeps.startOf_eq]
  cases hfault : pathFault? path with
  | some fault => rfl
  | none =>
    rw [hfault] at hfollow
    cases hfold : (namesOf before).foldlM f.enter (f.startOf before) with
    | error fault =>
      rw [hfold] at hfollow
      have hne : fault ≠ .notFound := by
        rintro rfl
        exact hfollow rfl
      simp only [h.foldlM_error hne hfold]
    | ok directory => simp only [foldlM_enter_of_keeps h.keeps hfold]

end EndsIn

/-! ### Paths that only go down -/

theorem Sound.suffix (hf : f.Sound) {l l' : Location} (hl : l <:+ l') (h : f.lookup? l' = some .directory) :
    f.lookup? l = some .directory := by
  induction l' with
  | nil =>
    rw [List.suffix_nil.mp hl]
    rfl
  | cons name l' ih =>
    rcases List.suffix_cons_iff.mp hl with rfl | hl
    · exact h
    · exact ih hl (hf.tail h)

theorem suffix_of_foldlM {names : List String} (hnames : ".." ∉ names) {l l' : Location}
    (hfold : names.foldlM f.enter l = .ok l') : l <:+ l' := by
  induction names generalizing l with
  | nil => cases hfold; exact List.suffix_refl _
  | cons name names ih =>
    obtain ⟨l₁, henter, hrest⟩ := foldlM_cons_ok_iff.mp hfold
    have hsuffix := ih (fun hmem => hnames (List.mem_cons_of_mem _ hmem)) hrest
    rcases enter_eq_ok_iff.mp henter with ⟨-, rfl⟩ | ⟨hdots, -⟩ | ⟨-, -, -, -, rfl⟩
    · exact hsuffix
    · exact absurd (hdots ▸ List.mem_cons_self) hnames
    · exact (List.suffix_cons _ _).trans hsuffix

/-- A path that only goes down passes nothing but the directories that its end stands in. -/
theorem foldlM_enter_of_directory (hf : f.Sound) {names : List String} (hnames : ".." ∉ names) {l l' : Location}
    (hfold : names.foldlM f'.enter l = .ok l') (h : f.lookup? l' = some .directory) :
    names.foldlM f.enter l = .ok l' := by
  induction names generalizing l with
  | nil => exact hfold
  | cons name names ih =>
    obtain ⟨l₁, henter, hrest⟩ := foldlM_cons_ok_iff.mp hfold
    have hrest' : ".." ∉ names := fun hmem => hnames (List.mem_cons_of_mem _ hmem)
    refine foldlM_cons_ok_iff.mpr ⟨l₁, ?_, ih hrest' hrest⟩
    rw [enter_eq_ok_iff] at henter ⊢
    rcases henter with hdot | ⟨hdots, -⟩ | ⟨h1, h2, h3, -, rfl⟩
    · exact .inl hdot
    · exact absurd (hdots ▸ List.mem_cons_self) hnames
    · exact .inr (.inr ⟨h1, h2, h3, hf.suffix (suffix_of_foldlM hrest' hrest) h, rfl⟩)

/-! ### Reading -/

/-- A path that ends in a name, so that there can be a file at it. -/
def NamesFile (path : String) : Prop := ∃ before name, EndsIn path before name ∧ IsProper name

/-- A path at which a file is read ends in a name. -/
theorem namesFile_of_read (hf : f.Sound) {content : List UInt8} (h : f.read path = .ok content) : NamesFile path := by
  obtain ⟨t, ht, hslash, hentry⟩ := read_eq_ok_iff.mp h
  cases hspecial : t.special with
  | true =>
    rw [lookup?_of_special hf ht hspecial] at hentry
    cases hentry
  | false => exact exists_endsIn_of_follow hf ht hspecial hslash

theorem Grown.read (h : Grown f f') {content : List UInt8} (hread : f.read path = .ok content) :
    f'.read path = .ok content := by
  obtain ⟨t, ht, hslash, hentry⟩ := read_eq_ok_iff.mp hread
  exact read_eq_ok_iff.mpr ⟨t, follow_of_keeps h.keeps ht, hslash, h.old _ _ hentry⟩

/-- Whether the way to the last name of a path goes back up only before any name that is missing. -/
def Descends (f : Files) (path : String) : Prop := ∃ up down l, (names path).dropLast = up ++ down ∧
  up.foldlM f.enter (f.startOf path.toList) = .ok l ∧ ".." ∉ down

/-- More directories bring no file into view at a path that does not lead back out of missing ones. -/
theorem Grown.read_of_descends (h : Grown f f') (hf : f.Sound) (hdown : f.Descends path) {content : List UInt8}
    (hread : f'.read path = .ok content) : f.read path = .ok content := by
  obtain ⟨before, name, hends, hname⟩ := namesFile_of_read (h.sound hf) hread
  obtain ⟨t, ht, hslash, hentry⟩ := read_eq_ok_iff.mp hread
  obtain ⟨hfault, hlong, directory, hfold, rfl⟩ := (hends.follow_eq_ok_iff hname).mp ht
  obtain ⟨up, down, l, hnames, hup, hdots⟩ := hdown
  rw [hends.names_eq, List.dropLast_concat] at hnames
  rw [hends.startOf_eq] at hup
  -- the way up is there in both trees; the way down passes the directories that the file stands in, which are old
  rw [hnames, List.foldlM_append, h.keeps.startOf_eq, foldlM_enter_of_keeps h.keeps hup] at hfold
  have hfile := (h.file_iff content).mp hentry
  have hdirectory : f.lookup? directory = some .directory := hf.above (hfile ▸ Option.some_ne_none _)
  have hold : (namesOf before).foldlM f.enter (f.startOf before) = .ok directory := by
    rw [hnames, List.foldlM_append, hup]
    exact foldlM_enter_of_directory hf hdots hfold hdirectory
  exact read_eq_ok_iff.mpr ⟨_, (hends.follow_eq_ok_iff hname).mpr ⟨hfault, hlong, directory, hold, rfl⟩, hslash, hfile⟩

/-- More directories may bring a file into view, but only by a way back up in a path that led to nothing. -/
theorem Grown.read_cases (h : Grown f f') (hf : f.Sound) {content : List UInt8} (hread : f'.read path = .ok content) :
    f.read path = .ok content ∨ (".." ∈ names path ∧ f.follow path = .error .notFound) := by
  by_cases hback : ".." ∈ names path ∧ f.follow path = .error .notFound
  · exact .inr hback
  · left
    by_cases hdots : ".." ∈ names path
    · obtain ⟨before, name, hends, hname⟩ := namesFile_of_read (h.sound hf) hread
      obtain ⟨t, ht, hslash, hentry⟩ := read_eq_ok_iff.mp hread
      rw [h.follow_eq hends hname fun hmissing => hback ⟨hdots, hmissing⟩] at ht
      exact read_eq_ok_iff.mpr ⟨t, ht, hslash, (h.file_iff content).mp hentry⟩
    · exact h.read_of_descends hf ⟨[], _, _, rfl, rfl, fun hmem => hdots (List.dropLast_subset _ hmem)⟩ hread

end Files
end SplitterLaunch
