import SplitterLaunch.Proofs.Files.Follow

/-! Directories that are missing on the way of a path. With all of them made, a path leads to whatever file it can lead
    to after directories are made (`Grown.read_paved`): this one tree tells what making directories, some or many, can
    bring into view. -/

namespace SplitterLaunch
namespace Files
variable {f f' : Files} {path : String} {l l' : Location}

/-- A tree with the directories that are missing on a way from a location, up to where the way is blocked. -/
def paveFrom (f : Files) (l : Location) : List String → Files
  | [] => f
  | name :: names =>
    match f.enter l name with
    | .ok l' => paveFrom f l' names
    | .error fault => if fault = .notFound then paveFrom (f.put (name :: l) .directory) (name :: l) names else f

/-- A tree with the directories that are missing on the way to the last name of a path. -/
def paved (f : Files) (path : String) : Files := f.paveFrom (f.startOf path.toList) (names path).dropLast

section
variable {name : String} {names : List String}

theorem paveFrom_cons_of_ok (h : f.enter l name = .ok l') : f.paveFrom l (name :: names) = f.paveFrom l' names := by
  rw [paveFrom, h]

theorem paveFrom_cons_of_missing (h : f.enter l name = .error .notFound) :
    f.paveFrom l (name :: names) = (f.put (name :: l) .directory).paveFrom (name :: l) names := by
  rw [paveFrom, h]
  exact if_pos rfl

theorem paveFrom_cons_of_blocked {fault : OsFault} (h : f.enter l name = .error fault) (hne : fault ≠ .notFound) :
    f.paveFrom l (name :: names) = f := by
  rw [paveFrom, h]
  exact if_neg hne

end

/-! ### One directory -/

theorem lookup?_put_self {name : String} {e : Entry} : (f.put (name :: l) e).lookup? (name :: l) = some e := by
  rw [lookup?_put (List.cons_ne_nil _ _), if_pos rfl]

theorem grown_put_missing {name : String} (hl : f.lookup? l = some .directory) (h : f.lookup? (name :: l) = none) :
    Grown f (f.put (name :: l) .directory) :=
  grown_put h fun hf => hf.put hl fun _ => rfl

/-- A directory that a tree has more may be made first. -/
theorem Grown.put_missing (h : Grown f f') (hf : f.Sound) {name : String}
    (hnew : f'.lookup? (name :: l) = some .directory) : Grown (f.put (name :: l) .directory) f' := by
  have hput (l' : Location) : (f.put (name :: l) .directory).lookup? l' =
      if l' = name :: l then some .directory else f.lookup? l' := lookup?_put (List.cons_ne_nil _ _) l'
  refine ⟨h.start, fun l' e he => ?_, fun l' e he => ?_, fun _ => h.sound hf⟩
  · rw [hput] at he
    split at he
    · rename_i heq
      rw [heq, hnew]
      exact he
    · exact h.old l' e he
  · rw [hput]
    split
    · rename_i heq
      rw [heq, hnew] at he
      exact .inl he
    · exact h.new l' e he

/-! ### A way -/

/-- Nothing but directories is made, and each in one that is there. -/
theorem grown_paveFrom (names : List String) (hf : f.Sound) (hl : f.lookup? l = some .directory) :
    Grown f (f.paveFrom l names) := by
  induction names generalizing f l with
  | nil => exact .refl f
  | cons name names ih =>
    cases henter : f.enter l name with
    | ok l' =>
      rw [paveFrom_cons_of_ok henter]
      exact ih hf (lookup?_of_enter hf hl henter)
    | error fault =>
      by_cases hmissing : fault = .notFound
      · subst hmissing
        have hgrown := grown_put_missing hl (enter_eq_notFound_iff.mp henter).2.2.2
        rw [paveFrom_cons_of_missing henter]
        exact hgrown.trans (ih (hgrown.sound hf) lookup?_put_self)
      · rw [paveFrom_cons_of_blocked henter hmissing]
        exact .refl f

/-- A way that can be gone with some more directories can be gone with those that were missing on it. -/
theorem Grown.foldlM_paveFrom (h : Grown f f') (hf : f.Sound) (hl : f.lookup? l = some .directory) {names : List String}
    (hfold : names.foldlM f'.enter l = .ok l') : names.foldlM (f.paveFrom l names).enter l = .ok l' := by
  induction names generalizing f l with
  | nil => exact hfold
  | cons name names ih =>
    obtain ⟨l₁, henter', hrest⟩ := foldlM_cons_ok_iff.mp hfold
    cases henter : f.enter l name with
    | ok l₂ =>
      cases (enter_of_keeps h.keeps henter).symm.trans henter'
      have hl₁ := lookup?_of_enter hf hl henter
      rw [paveFrom_cons_of_ok henter]
      exact foldlM_cons_ok_iff.mpr
        ⟨l₁, enter_of_keeps (grown_paveFrom names hf hl₁).keeps henter, ih h hf hl₁ hrest⟩
    | error fault =>
      by_cases hmissing : fault = .notFound
      · subst hmissing
        obtain ⟨hdot, hdots, hlong, hnone⟩ := enter_eq_notFound_iff.mp henter
        -- the larger tree has a directory here, so it has grown out of the tree with that one made, too
        obtain ⟨hnew, rfl⟩ : f'.lookup? (name :: l) = some .directory ∧ l₁ = name :: l := by
          simpa [enter_eq_ok_iff, hdot, hdots, hlong] using henter'
        have hsound := (grown_put_missing hl hnone).sound hf
        have henter₁ : (f.put (name :: l) .directory).enter l name = .ok (name :: l) :=
          enter_eq_ok_iff.mpr (.inr (.inr ⟨hdot, hdots, hlong, lookup?_put_self, rfl⟩))
        rw [paveFrom_cons_of_missing henter]
        exact foldlM_cons_ok_iff.mpr ⟨name :: l, enter_of_keeps (grown_paveFrom names hsound lookup?_put_self).keeps henter₁,
          ih (h.put_missing hf hnew) hsound lookup?_put_self hrest⟩
      · cases (h.enter_error hmissing henter).symm.trans henter'

/-! ### A path -/

theorem grown_paved (hf : f.Sound) (path : String) : Grown f (f.paved path) :=
  grown_paveFrom _ hf (lookup?_startOf hf _)

/-- What is read with some more directories is read with those that were missing on the way. -/
theorem Grown.read_paved (h : Grown f f') (hf : f.Sound) {content : List UInt8} (hread : f'.read path = .ok content) :
    (f.paved path).read path = .ok content := by
  obtain ⟨before, name, hends, hname⟩ := namesFile_of_read (h.sound hf) hread
  obtain ⟨t, ht, hslash, hentry⟩ := read_eq_ok_iff.mp hread
  obtain ⟨hfault, hlong, directory, hfold, rfl⟩ := (hends.follow_eq_ok_iff hname).mp ht
  have hgrown := grown_paved hf path
  have hpaved : f.paved path = f.paveFrom (f.startOf before) (namesOf before) := by
    rw [paved, hends.names_eq, List.dropLast_concat, hends.startOf_eq]
  have hway : (namesOf before).foldlM (f.paved path).enter ((f.paved path).startOf before) = .ok directory := by
    rw [h.keeps.startOf_eq] at hfold
    rw [hgrown.keeps.startOf_eq, hpaved]
    exact h.foldlM_paveFrom hf (lookup?_startOf hf before) hfold
  have hfile := hgrown.old _ _ ((h.file_iff content).mp hentry)
  exact read_eq_ok_iff.mpr ⟨_, (hends.follow_eq_ok_iff hname).mpr ⟨hfault, hlong, directory, hway, rfl⟩, hslash, hfile⟩

end Files
end SplitterLaunch
