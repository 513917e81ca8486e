import SplitterLaunch.Proofs.Ledger.Recording

/-! A save happens whole or not at all. If it succeeds, the file at the path has the whole text, the sibling is gone
    and no other file has changed. If a step of it fails, no file but the sibling has changed, and the failure is
    reported with the sibling's path if that could not be written, else with the path itself. -/

namespace SplitterLaunch

/-! ### Files that change -/

namespace Files
variable {f f' f'' : Files} {path : String} {l : Location}

def LeadsTo (f : Files) (path : String) (l : Location) : Prop := ∃ t, f.follow path = .ok t ∧ t.location = l

/-- Whether a path can be followed to where nothing stands. -/
def Lacks (f : Files) (path : String) : Prop := ∃ t, f.follow path = .ok t ∧ f.lookup? t.location = none

/-- Whether all files are the same but those that some paths lead to, and no directory is gone. -/
structure SameBut (paths : List String) (f f' : Files) : Prop where
  keeps : KeepsDirectories f f'
  file : ∀ l, (∀ path ∈ paths, ¬ f'.LeadsTo path l) → ∀ content,
    f'.lookup? l = some (.file content) ↔ f.lookup? l = some (.file content)

end Files

namespace Ledger
open Files (KeepsDirectories Grown Lacks SameBut)
variable {path : String} {f f' : Files} {content : List UInt8}

/-- What stands where after a save that succeeds. -/
theorem lookup?_of_replaced (hf : f.Sound) (h : Replaced path content f f') :
    ∃ f₁ τ t, Grown f f₁ ∧ KeepsDirectories f₁ f' ∧ f'.follow (temporaryPath path) = .ok τ ∧ f'.follow path = .ok t ∧
      t.location ≠ τ.location ∧ ∀ l, f'.lookup? l =
        if l = t.location then some (.file content) else if l = τ.location then none else f₁.lookup? l := by
  obtain ⟨f₁, f₂, τ, t, hgrown, hwrite, hkeeps, hτ, ht, hspecial, hslash, hdirectory, heq⟩ := eq_put_of_replaced h
  have hwritten := Files.kept_of_write hwrite
  -- the path ends in a name, so that its sibling stands beside it
  obtain ⟨before, name, hends, hname⟩ :=
    Files.exists_endsIn_of_follow (hwritten.sound (hgrown.sound hf)) ht hspecial hslash
  obtain ⟨hfollow, hbeside⟩ := follow_of_write hends hname hwrite hwritten.keeps
  have hne := hbeside t τ (hfollow.symm.trans ht) hτ
  refine ⟨f₁, τ, t, hgrown, hwritten.keeps.trans hkeeps, Files.follow_of_keeps (hwritten.keeps.trans hkeeps) hτ,
    Files.follow_of_keeps hkeeps ht, hne, fun l => ?_⟩
  have hfile : f₂.lookup? τ.location ≠ some .directory := by
    rw [lookup?_of_write hwrite hτ, if_pos rfl]
    simp
  rw [heq, Files.lookup?_put (Files.ne_nil_of_lookup? hdirectory), Files.lookup?_remove (Files.ne_nil_of_lookup? hfile),
    lookup?_of_write hwrite hτ]
  by_cases hl : l = τ.location
  · simp [hl]
  · simp [hl]

theorem lacks_of_replaced (hf : f.Sound) (h : Replaced path content f f') : f'.Lacks (temporaryPath path) := by
  obtain ⟨f₁, τ, t, -, -, hτ, -, hne, hlookup⟩ := lookup?_of_replaced hf h
  refine ⟨τ, hτ, ?_⟩
  rw [hlookup, if_neg hne.symm, if_pos rfl]

theorem sameBut_of_replaced (hf : f.Sound) (h : Replaced path content f f') :
    SameBut [path, temporaryPath path] f f' := by
  obtain ⟨f₁, τ, t, hgrown, hkeeps, hτ, ht, -, hlookup⟩ := lookup?_of_replaced hf h
  refine ⟨hgrown.keeps.trans hkeeps, fun l hl content' => ?_⟩
  have hpath : l ≠ t.location := fun heq => hl path (by simp) ⟨t, ht, heq.symm⟩
  have htemporary : l ≠ τ.location := fun heq => hl (temporaryPath path) (by simp) ⟨τ, hτ, heq.symm⟩
  rw [hlookup, if_neg hpath, if_neg htemporary]
  exact hgrown.file_iff content'

theorem sameBut_of_attempted (h : Attempted path f f') : SameBut [temporaryPath path] f f' := by
  rcases attempted_cases h with h | ⟨f₁, -, -, τ, h, -, hkept, hτ, hsame⟩
  · exact ⟨h.keeps, fun l _ content => h.file_iff content⟩
  · refine ⟨h.keeps.trans hkept.keeps, fun l hl content => ?_⟩
    have hne : l ≠ τ.location := fun heq => hl _ (by simp) ⟨τ, Files.follow_of_keeps hkept.keeps hτ, heq.symm⟩
    rw [hsame l hne]
    exact h.file_iff content

/-- What was written and could not take the path is removed again. -/
theorem lacks_of_breaksOff {l : Ledger} {d d' : Disk} {fault : OsFault} (h : BreaksOff l path d .replacing fault d')
    (hmishap : d'.mishap? = none) : (l.save path d).2.files.Lacks (temporaryPath path) := by
  rw [save_of_breaksOff h]
  show (d'.discard (temporaryPath path)).files.Lacks (temporaryPath path)
  cases h with
  | @replacing _ d₁ d₂ _ _ hwrite hrename =>
  obtain ⟨-, hwrote⟩ | ⟨-, ⟨⟩, -⟩ := Disk.write_cases hwrite
  obtain ⟨⟨⟩, -⟩ | ⟨-, -, hsame⟩ := Disk.rename_cases hrename
  obtain ⟨τ, hτ, -⟩ := Files.write_eq_ok_iff.mp hwrote
  have hτ' : d'.files.follow (temporaryPath path) = .ok τ := by
    rw [hsame]
    exact Files.follow_of_keeps (Files.kept_of_write hwrote).keeps hτ
  have hentry : d'.files.lookup? τ.location = some (.file (Text.toBytes l.fileText)) := by
    rw [hsame, lookup?_of_write hwrote hτ, if_pos rfl]
  have hremove : d'.files.removeFile (temporaryPath path) = .ok (d'.files.remove τ.location) :=
    Files.removeFile_eq_ok_iff.mpr ⟨τ, _, hτ', hentry, rfl⟩
  rw [Disk.discard_files hmishap hremove]
  refine ⟨τ, Files.follow_of_keeps (Files.kept_of_removeFile hremove).keeps hτ', ?_⟩
  rw [lookup?_of_removeFile hremove hτ', if_pos rfl]

/-! ### The content at the path -/

/-- Whether a path leads to a file on a way back from a directory that was missing before. The file stood there. -/
structure Uncovered (path : String) (f f' : Files) (content : List UInt8) : Prop where
  back : ".." ∈ Files.names path
  missing : f.follow path = .error .notFound
  stood : ∃ t, f'.follow path = .ok t ∧ f.lookup? t.location = some (.file content)

/-- Whether the content at a path is what it was, unless it was uncovered. -/
structure KeepsContent (path : String) (f f' : Files) : Prop where
  still : ∀ content, f.read path = .ok content → f'.read path = .ok content
  before : ∀ content, f'.read path = .ok content → f.read path = .ok content ∨ Uncovered path f f' content

theorem keepsContent_of_attempted (hf : f.Sound) (h : Attempted path f f') : KeepsContent path f f' := by
  have hsame := sameFile_of_attempted hf h
  refine ⟨hsame.still, fun content hcontent => ?_⟩
  obtain ⟨f₁, hgrown, -, -, -, hread⟩ := exists_grown_of_attempted hf h
  exact (hgrown.read_cases hf ((hread content).mp hcontent)).imp_right fun ⟨hback, hmissing⟩ =>
    ⟨hback, hmissing, hsame.before content hcontent⟩

/-! ### A save -/

/-- A save that succeeds puts the whole text at the path, takes the sibling away and changes no other file. Any other
    save breaks off in a step, whose path its fault has; it leaves the content at the path and all files but the
    sibling as they were, and no sibling either if only the path could not be taken and the sibling be discarded. -/
theorem save_atomic (l : Ledger) (path : String) (d : Disk) (hf : d.files.Sound) :
    ((l.save path d).1 = .ok () ∨ ∃ step fault d', BreaksOff l path d step fault d') ∧
    ((l.save path d).1 = .ok () →
      (l.save path d).2.files.read path = .ok (Text.toBytes (l.toJson.pretty ++ "\n")) ∧
      (l.save path d).2.files.Lacks (temporaryPath path) ∧
      SameBut [path, temporaryPath path] d.files (l.save path d).2.files) ∧
    ∀ step fault d', BreaksOff l path d step fault d' →
      (l.save path d).1 = .error ⟨step.faultPath path, fault⟩ ∧
      KeepsContent path d.files (l.save path d).2.files ∧
      SameBut [temporaryPath path] d.files (l.save path d).2.files ∧
      (step = .replacing → d'.mishap? = none → (l.save path d).2.files.Lacks (temporaryPath path)) := by
  refine ⟨?_, fun hsave => ?_, fun step fault d' hbreaks => ?_⟩
  · rcases save_steps l path d with ⟨d₁, d₂, d₃, -, -, -, hsave⟩ | hbreaks
    · exact .inl (by rw [hsave])
    · exact .inr hbreaks
  · have hreplaced := replaced_of_save hsave
    exact ⟨read_of_replaced hreplaced, lacks_of_replaced hf hreplaced, sameBut_of_replaced hf hreplaced⟩
  · have hattempted := attempted_of_breaksOff hbreaks
    refine ⟨by rw [save_of_breaksOff hbreaks], keepsContent_of_attempted hf hattempted, sameBut_of_attempted hattempted, ?_⟩
    rintro rfl hmishap
    exact lacks_of_breaksOff hbreaks hmishap

/-- A disk on which a file cannot be given another path. -/
def busyShelf : Disk := ⟨shelf foreign false, [none, some ⟨.busy, none⟩]⟩

theorem save_atomic_busy :
    (shelf foreign false).Sound ∧
      (empty.save "a.json" ⟨shelf foreign false, []⟩).1 = .ok () ∧
      (empty.save "a.json" ⟨shelf foreign false, []⟩).2.files.Lacks (temporaryPath "a.json") ∧
      (empty.save "a.json" busyShelf).1 = .error ⟨"a.json", .busy⟩ ∧
      (empty.save "a.json" busyShelf).2.files.read "a.json" = .ok (Text.toBytes foreign) ∧
      (empty.save "a.json" busyShelf).2.files.Lacks (temporaryPath "a.json") := by
  have hf := sound_shelf foreign false
  have hsave : (empty.save "a.json" ⟨shelf foreign false, []⟩).1 = .ok () := by decide +kernel
  have hread : (shelf foreign false).read "a.json" = .ok (Text.toBytes foreign) := by decide +kernel
  obtain ⟨-, hok, -⟩ := save_atomic empty "a.json" ⟨shelf foreign false, []⟩ hf
  obtain ⟨-, -, hbroken⟩ := save_atomic empty "a.json" busyShelf hf
  have hwrite : (busyShelf.write (temporaryPath "a.json") (Text.toBytes empty.fileText)).1 = .ok () := by decide +kernel
  have hbreaks : BreaksOff empty "a.json" busyShelf .replacing .busy
      ((busyShelf.write (temporaryPath "a.json") (Text.toBytes empty.fileText)).2.rename (temporaryPath "a.json") "a.json").2 :=
    .replacing (by decide +kernel) (Prod.ext hwrite rfl) (Prod.ext (by decide +kernel) rfl)
  obtain ⟨herror, hcontent, -, hlacks⟩ := hbroken _ _ _ hbreaks
  exact ⟨hf, hsave, (hok hsave).2.1, herror, hcontent.still _ hread, hlacks rfl (by decide +kernel)⟩

/-- What one might expect of every save that fails: that the content at the path is what it was. -/
def LeavesContent (l : Ledger) (path : String) (d : Disk) : Prop :=
  (l.save path d).1.isOk = false → ∀ content,
    (l.save path d).2.files.read path = .ok content ↔ d.files.read path = .ok content

/-- A save that makes a directory and then fails uncovers the file that the way back from it leads to. -/
theorem not_leavesContent :
    (shelf foreign true).Sound ∧ ¬LeavesContent empty "x/../a.json" ⟨shelf foreign true, []⟩ := by
  refine ⟨sound_shelf foreign true, fun hleaves => ?_⟩
  have hfails : (empty.save "x/../a.json" ⟨shelf foreign true, []⟩).1.isOk = false := by decide +kernel
  have hafter : (empty.save "x/../a.json" ⟨shelf foreign true, []⟩).2.files.read "x/../a.json" =
      .ok (Text.toBytes foreign) := by decide +kernel
  have hbefore : (shelf foreign true).read "x/../a.json" = .error .notFound := by decide +kernel
  have hread := (hleaves hfails _).mp hafter
  rw [hbefore] at hread
  cases hread

end Ledger
end SplitterLaunch
