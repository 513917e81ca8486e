import SplitterLaunch.Proofs.Files.Follow

/-! What saving does to the files. Whatever mishaps it meets, a save makes directories, writes the sibling and
    renames it, or breaks off in one of these steps. Until it renames, the file at the path is read as before. -/

namespace SplitterLaunch

/-! ### The steps -/

namespace Disk
open Files (Grown)
variable {d d' : Disk} {path : String}

/-- What the next step of a disk meets. -/
def mishap? (d : Disk) : Option Mishap := d.mishaps.head?.join

/-- The disk after a step that changes no file. -/
def passed (d : Disk) : Disk := { d with mishaps := d.mishaps.tail }

theorem nextMishap_eq (d : Disk) : d.nextMishap = (d.mishap?, d.passed) := rfl

theorem readText_eq (d : Disk) (path : String) : d.readText path =
    ((match d.mishap? with
      | some mishap => .error mishap.fault
      | none => d.files.readText path), d.passed) := by
  unfold readText
  rw [nextMishap_eq]
  cases d.mishap? <;> rfl

theorem isDirectory_files (d : Disk) (path : String) : (d.isDirectory path).2.files = d.files := by
  unfold isDirectory
  rw [nextMishap_eq]
  cases d.mishap? <;> rfl

theorem unlessDirectory_files (d : Disk) (path : String) (fault : OsFault) :
    (d.unlessDirectory path fault).2.files = d.files := by
  unfold unlessDirectory
  split <;> rename_i heq <;> rw [← isDirectory_files d path, heq]

theorem grown_makeDirectory (d : Disk) (path : String) : Grown d.files (d.makeDirectory path).2.files := by
  unfold makeDirectory
  rw [nextMishap_eq]
  cases d.mishap? with
  | some mishap => exact .refl _
  | none =>
    dsimp only [passed]
    cases hmake : d.files.makeDirectory path with
    | error fault => exact .refl _
    | ok files => exact Files.grown_of_makeDirectory hmake

theorem grown_makeDirectoriesWithin (fuel : Nat) (d : Disk) (path : String) :
    Grown d.files (makeDirectoriesWithin fuel d path).2.files := by
  induction fuel generalizing d path with
  | zero => exact .refl _
  | succ fuel ih =>
    have hmake := grown_makeDirectory d path
    rw [makeDirectoriesWithin]
    split
    · exact .refl _
    · split
      · rename_i heq
        rw [heq] at hmake
        exact hmake
      · rename_i d₁ heq
        rw [heq] at hmake
        split
        · split
          · exact hmake
          · rename_i parent _
            have hparent := ih d₁ parent
            split
            · rename_i heq
              rw [heq] at hparent
              exact hmake.trans hparent
            · rename_i d₂ heq
              rw [heq] at hparent
              have hagain := (hmake.trans hparent).trans (grown_makeDirectory d₂ path)
              split
              · rename_i heq
                rw [heq] at hagain
                exact hagain
              · rename_i heq
                rw [heq] at hagain
                rw [unlessDirectory_files]
                exact hagain
        · rw [unlessDirectory_files]
          exact hmake

/-- A write that fails leaves what was there, or a part of the content. -/
theorem write_cases {content : List UInt8} {result : Except OsFault Unit} (h : d.write path content = (result, d')) :
    (result = .ok () ∧ d.files.write path content = .ok d'.files) ∨
      (∃ fault, result = .error fault ∧ (d'.files = d.files ∨ ∃ part, d.files.write path part = .ok d'.files)) := by
  obtain ⟨rfl, rfl⟩ : (d.write path content).1 = result ∧ (d.write path content).2 = d' := by simp [h]
  clear h
  unfold write
  rw [nextMishap_eq]
  cases d.mishap? with
  | some mishap =>
    refine .inr ?_
    dsimp only [passed]
    cases mishap.leaves with
    | none => exact ⟨mishap.fault, rfl, .inl rfl⟩
    | some part =>
      dsimp only
      cases hwrite : d.files.write path part with
      | error fault => exact ⟨mishap.fault, rfl, .inl rfl⟩
      | ok files => exact ⟨mishap.fault, rfl, .inr ⟨part, hwrite⟩⟩
  | none =>
    dsimp only [passed]
    cases hwrite : d.files.write path content with
    | error fault => exact .inr ⟨fault, rfl, .inl rfl⟩
    | ok files => exact .inl ⟨rfl, rfl⟩

theorem rename_cases {source target : String} {result : Except OsFault Unit}
    (h : d.rename source target = (result, d')) :
    (result = .ok () ∧ d.files.rename source target = .ok d'.files) ∨
      (∃ fault, result = .error fault ∧ d'.files = d.files) := by
  obtain ⟨rfl, rfl⟩ : (d.rename source target).1 = result ∧ (d.rename source target).2 = d' := by simp [h]
  clear h
  unfold rename
  rw [nextMishap_eq]
  cases d.mishap? with
  | some mishap => exact .inr ⟨mishap.fault, rfl, rfl⟩
  | none =>
    dsimp only [passed]
    cases hrename : d.files.rename source target with
    | error fault => exact .inr ⟨fault, rfl, rfl⟩
    | ok files => exact .inl ⟨rfl, rfl⟩

theorem discard_cases (d : Disk) (path : String) :
    (d.discard path).files = d.files ∨ d.files.removeFile path = .ok (d.discard path).files := by
  unfold discard
  rw [nextMishap_eq]
  cases d.mishap? with
  | some mishap => exact .inl rfl
  | none =>
    dsimp only [passed]
    cases hremove : d.files.removeFile path with
    | error fault => exact .inl rfl
    | ok files => exact .inr rfl

theorem discard_files {f : Files} (hmishap : d.mishap? = none) (hremove : d.files.removeFile path = .ok f) :
    (d.discard path).files = f := by
  unfold discard
  rw [nextMishap_eq, hmishap]
  dsimp only [passed]
  rw [hremove]

end Disk

/-! ### A save -/

namespace Ledger
open Files (Grown)
variable {path : String} {f f' : Files}

theorem grown_prepare (d : Disk) (path : String) : Grown d.files (prepare d path).2.files := by
  unfold prepare
  split
  · exact Disk.grown_makeDirectoriesWithin _ _ _
  · exact .refl _

/-- What a save that fails may leave: some more directories, and at the sibling a part of what was written to
    it, or nothing. -/
inductive Attempted (path : String) (f : Files) : Files → Prop where
  | prepared {f₁ : Files} (h : Grown f f₁) : Attempted path f f₁
  | written {f₁ f₂ : Files} {part : List UInt8} (h : Grown f f₁) (hwrite : f₁.write (temporaryPath path) part = .ok f₂) :
    Attempted path f f₂
  | discarded {f₁ f₂ f₃ : Files} {part : List UInt8} (h : Grown f f₁)
    (hwrite : f₁.write (temporaryPath path) part = .ok f₂) (hremove : f₂.removeFile (temporaryPath path) = .ok f₃) :
    Attempted path f f₃

/-- What a save that succeeds leaves: the content, by way of the sibling. -/
def Replaced (path : String) (content : List UInt8) (f f' : Files) : Prop :=
  ∃ f₁ f₂, Grown f f₁ ∧ f₁.write (temporaryPath path) content = .ok f₂ ∧ f₂.rename (temporaryPath path) path = .ok f'

/-- The steps of a save that can fail: making the directories, writing the sibling and giving it the path. -/
inductive SaveStep where
  | preparing
  | writing
  | replacing
deriving DecidableEq

/-- The path that a failure in a step is reported with. -/
def SaveStep.faultPath (target : String) : SaveStep → String
  | .writing => temporaryPath target
  | _ => target

/-- The disk that is left after a step failed: what could not take the path is discarded. -/
def SaveStep.leave (target : String) (d : Disk) : SaveStep → Disk
  | .replacing => d.discard (temporaryPath target)
  | _ => d

/-- How a save breaks off: the steps before one succeed, and this one fails with a fault and a disk. -/
inductive BreaksOff (l : Ledger) (path : String) (d : Disk) : SaveStep → OsFault → Disk → Prop where
  | preparing {fault : OsFault} {d₁ : Disk} (h : prepare d path = (.error fault, d₁)) :
    BreaksOff l path d .preparing fault d₁
  | writing {fault : OsFault} {d₁ d₂ : Disk} (h : prepare d path = (.ok (), d₁))
    (hwrite : d₁.write (temporaryPath path) (Text.toBytes l.fileText) = (.error fault, d₂)) :
    BreaksOff l path d .writing fault d₂
  | replacing {fault : OsFault} {d₁ d₂ d₃ : Disk} (h : prepare d path = (.ok (), d₁))
    (hwrite : d₁.write (temporaryPath path) (Text.toBytes l.fileText) = (.ok (), d₂))
    (hrename : d₂.rename (temporaryPath path) path = (.error fault, d₃)) : BreaksOff l path d .replacing fault d₃

section
variable {l : Ledger} {d d' : Disk} {step : SaveStep} {fault : OsFault}

theorem save_of_breaksOff (h : BreaksOff l path d step fault d') :
    l.save path d = (.error ⟨step.faultPath path, fault⟩, step.leave path d') := by
  cases h with
  | preparing h => simp only [save, h, SaveStep.faultPath, SaveStep.leave]
  | writing h hwrite => simp only [save, h, hwrite, SaveStep.faultPath, SaveStep.leave]
  | replacing h hwrite hrename => simp only [save, h, hwrite, hrename, SaveStep.faultPath, SaveStep.leave]

/-- A save gets through all its steps or breaks off in one. -/
theorem save_steps (l : Ledger) (path : String) (d : Disk) :
    (∃ d₁ d₂ d₃, prepare d path = (.ok (), d₁) ∧
      d₁.write (temporaryPath path) (Text.toBytes l.fileText) = (.ok (), d₂) ∧
      d₂.rename (temporaryPath path) path = (.ok (), d₃) ∧ l.save path d = (.ok (), d₃)) ∨
    ∃ step fault d', BreaksOff l path d step fault d' := by
  rcases hprepare : prepare d path with ⟨_ | _, d₁⟩
  · exact .inr ⟨_, _, _, .preparing hprepare⟩
  rcases hwrite : d₁.write (temporaryPath path) (Text.toBytes l.fileText) with ⟨_ | _, d₂⟩
  · exact .inr ⟨_, _, _, .writing hprepare hwrite⟩
  rcases hrename : d₂.rename (temporaryPath path) path with ⟨_ | _, d₃⟩
  · exact .inr ⟨_, _, _, .replacing hprepare hwrite hrename⟩
  · exact .inl ⟨d₁, d₂, d₃, rfl, hwrite, hrename, by simp only [save, hprepare, hwrite, hrename]⟩

theorem attempted_of_breaksOff (h : BreaksOff l path d step fault d') : Attempted path d.files (l.save path d).2.files := by
  have hgrown := grown_prepare d path
  rw [save_of_breaksOff h]
  cases h with
  | preparing h =>
    rw [h] at hgrown
    exact .prepared hgrown
  | writing h hwrite =>
    rw [h] at hgrown
    rcases Disk.write_cases hwrite with ⟨⟨⟩, -⟩ | ⟨-, -, hsame | ⟨part, hpart⟩⟩
    · exact .prepared (hsame ▸ hgrown)
    · exact .written hgrown hpart
  | replacing h hwrite hrename =>
    rw [h] at hgrown
    obtain ⟨-, hwrote⟩ | ⟨-, ⟨⟩, -⟩ := Disk.write_cases hwrite
    obtain ⟨⟨⟩, -⟩ | ⟨-, -, hsame⟩ := Disk.rename_cases hrename
    simp only [SaveStep.leave]
    rcases d'.discard_cases (temporaryPath path) with hkeep | hremove
    · rw [hkeep, hsame]
      exact .written hgrown hwrote
    · rw [hsame] at hremove
      exact .discarded hgrown hwrote hremove

end

theorem save_cases (l : Ledger) (path : String) (d : Disk) :
    ((l.save path d).1 = .ok () ∧ Replaced path (Text.toBytes l.fileText) d.files (l.save path d).2.files) ∨
      (∃ fault, (l.save path d).1 = .error fault ∧ Attempted path d.files (l.save path d).2.files) := by
  rcases save_steps l path d with ⟨d₁, d₂, d₃, hprepare, hwrite, hrename, hsave⟩ | ⟨step, fault, d', hbreaks⟩
  · have hgrown := grown_prepare d path
    rw [hprepare] at hgrown
    obtain ⟨-, hwrote⟩ | ⟨-, ⟨⟩, -⟩ := Disk.write_cases hwrite
    obtain ⟨-, hrenamed⟩ | ⟨-, ⟨⟩, -⟩ := Disk.rename_cases hrename
    rw [hsave]
    exact .inl ⟨rfl, _, _, hgrown, hwrote, hrenamed⟩
  · exact .inr ⟨_, by rw [save_of_breaksOff hbreaks], attempted_of_breaksOff hbreaks⟩

theorem replaced_of_save {l : Ledger} {d : Disk} (h : (l.save path d).1 = .ok ()) :
    Replaced path (Text.toBytes l.fileText) d.files (l.save path d).2.files := by
  rcases save_cases l path d with ⟨-, hreplaced⟩ | ⟨fault, herror, -⟩
  · exact hreplaced
  · rw [herror] at h
    cases h

end Ledger
end SplitterLaunch
