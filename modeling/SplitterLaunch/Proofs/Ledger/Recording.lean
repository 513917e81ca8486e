import SplitterLaunch.Proofs.Files.Paving
import SplitterLaunch.Proofs.Ledger.FileText
import SplitterLaunch.Proofs.Ledger.Saving

/-! Recording deposits in a file, with a mishap at any step of any call. A call that fails leaves the ledger in
    the file as it was, and one that succeeds leaves the ledger that it gives: so after any calls the file holds
    what the successful ones among them deposited, one after the other. -/

namespace SplitterLaunch
namespace Ledger
open Files (Sound Grown Kept KeepsDirectories EndsIn IsProper NamesFile)
variable {path : String} {f f' f₁ f₂ f₃ g : Files}

/-! ### Ledgers that stay in view -/

theorem readText_eq (f : Files) (path : String) : f.readText path = (f.read path).bind fun content =>
    match Text.ofBytes? content with
    | some text => .ok text
    | none => .error .notText := rfl

theorem load_congr (h : ∀ content, f'.read path = .ok content ↔ f.read path = .ok content) :
    load f' path = load f path := by
  unfold load
  rw [readText_eq, readText_eq]
  cases hread : f.read path with
  | ok content => rw [(h content).mpr hread]
  | error fault =>
    cases hread' : f'.read path with
    | ok content =>
      rw [(h content).mp hread'] at hread
      cases hread
    | error fault' => rfl

theorem load_eq_of_read {content : List UInt8} (h : f.read path = .ok content) (h' : f'.read path = .ok content) :
    load f' path = load f path := load_congr fun _ => by rw [h, h']

/-- Whether the ledger at a path is the same whatever directories are made. -/
def Steady (path : String) (f : Files) : Prop := ∀ f', Grown f f' → load f' path = load f path

theorem Steady.grown (h : Steady path f) (hgrown : Grown f f') : Steady path f' :=
  fun _ hmore => (h _ (hgrown.trans hmore)).trans (h _ hgrown).symm

theorem steady_of_read {content : List UInt8} (h : f.read path = .ok content) : Steady path f :=
  fun _ hgrown => load_eq_of_read h (hgrown.read h)

/-- Of all directories, those that are missing on the way to the path are enough to tell. -/
theorem steady_of_paved (hf : f.Sound) (h : load (f.paved path) path = load f path) : Steady path f := by
  intro f' hgrown
  cases hread : f'.read path with
  | ok content => exact (load_eq_of_read (hgrown.read_paved hf hread) hread).trans h
  | error fault =>
    have hnone (content : List UInt8) : f.read path ≠ .ok content := fun hcontent => by
      rw [hgrown.read hcontent] at hread
      cases hread
    exact load_congr fun content => iff_of_false (by rw [hread]; nofun) (hnone content)

/-- A path that does not lead back out of missing directories has all that it can have in view. -/
theorem load_paved_of_descends (hf : f.Sound) (hdown : f.Descends path) : load (f.paved path) path = load f path :=
  have hgrown := Files.grown_paved hf path
  load_congr fun _ => ⟨hgrown.read_of_descends hf hdown, hgrown.read⟩

/-! ### The sibling -/

theorem isProper_append_temporaryEnding (name : List Char) : IsProper (name ++ Files.temporaryEnding) := by
  constructor <;> intro h <;> have hlength := congrArg List.length h <;>
    simp [Files.temporaryEnding] at hlength

section Sibling
variable {part : List UInt8} {before name : List Char}

/-- A path leads where it led as long as no directory is gone, once its sibling could be written: and not to
    the sibling. -/
theorem follow_of_write (hends : EndsIn path before name) (hname : IsProper name)
    (hwrite : f₁.write (temporaryPath path) part = .ok f₂) (hkeeps : KeepsDirectories f₁ g) :
    g.follow path = f₁.follow path ∧ ∀ t τ, f₁.follow path = .ok t → f₁.follow (temporaryPath path) = .ok τ →
      t.location ≠ τ.location := by
  obtain ⟨above, htemporary, hhead, dots, hdots⟩ := hends.temporaryPath hname
  have hproper := isProper_append_temporaryEnding name
  obtain ⟨τ, hτ, -⟩ := Files.write_eq_ok_iff.mp hwrite
  obtain ⟨-, -, directory, hfold, -⟩ := (htemporary.follow_eq_ok_iff hproper).mp hτ
  have hstart : f₁.startOf above = f₁.startOf before := by unfold Files.startOf; rw [hhead]
  -- the sibling was written, so the directory that both paths go through is there
  have hbefore : (Files.namesOf before).foldlM f₁.enter (f₁.startOf before) = .ok directory := by
    rw [hdots, Files.foldlM_append_dots, ← hstart]
    exact hfold
  constructor
  · rw [hends.follow_eq hname, hends.follow_eq hname, hkeeps.startOf_eq, hbefore, Files.foldlM_enter_of_keeps hkeeps hbefore]
  · intro t τ ht hτ heq
    obtain ⟨-, -, _, -, rfl⟩ := (hends.follow_eq_ok_iff hname).mp ht
    obtain ⟨-, -, _, -, rfl⟩ := (htemporary.follow_eq_ok_iff hproper).mp hτ
    have hnames := String.ofList_injective (List.cons.inj heq).1
    have hlength := congrArg List.length hnames
    simp [Files.temporaryEnding] at hlength

/-- What changes at the sibling alone is not seen at the path. -/
theorem read_iff_of_write (hf : f₁.Sound) (hwrite : f₁.write (temporaryPath path) part = .ok f₂) (hkept : Kept f₁ g)
    (hsame : ∀ τ, f₁.follow (temporaryPath path) = .ok τ → ∀ l, l ≠ τ.location → g.lookup? l = f₁.lookup? l)
    (content : List UInt8) : g.read path = .ok content ↔ f₁.read path = .ok content := by
  obtain ⟨τ, hτ, -⟩ := Files.write_eq_ok_iff.mp hwrite
  constructor
  · intro hread
    obtain ⟨before, name, hends, hname⟩ := Files.namesFile_of_read (hkept.sound hf) hread
    obtain ⟨t, ht, hslash, hentry⟩ := Files.read_eq_ok_iff.mp hread
    obtain ⟨hfollow, hne⟩ := follow_of_write hends hname hwrite hkept.keeps
    rw [hfollow] at ht
    rw [hsame τ hτ _ (hne t τ ht hτ)] at hentry
    exact Files.read_eq_ok_iff.mpr ⟨t, ht, hslash, hentry⟩
  · intro hread
    obtain ⟨before, name, hends, hname⟩ := Files.namesFile_of_read hf hread
    obtain ⟨t, ht, hslash, hentry⟩ := Files.read_eq_ok_iff.mp hread
    obtain ⟨hfollow, hne⟩ := follow_of_write hends hname hwrite hkept.keeps
    rw [← hsame τ hτ _ (hne t τ ht hτ)] at hentry
    exact Files.read_eq_ok_iff.mpr ⟨t, hfollow.trans ht, hslash, hentry⟩

/-- Where the sibling was written no directory is missing on the way to the path. -/
theorem steady_of_write (hg : g.Sound) (hwrite : f₁.write (temporaryPath path) part = .ok f₂)
    (hkeeps : KeepsDirectories f₁ g) : Steady path g := by
  refine fun g' hgrown => load_congr fun content => ⟨fun hread => ?_, hgrown.read⟩
  obtain ⟨before, name, hends, hname⟩ := Files.namesFile_of_read (hgrown.sound hg) hread
  obtain ⟨t, ht, hslash, hentry⟩ := Files.read_eq_ok_iff.mp hread
  rw [(follow_of_write hends hname hwrite (hkeeps.trans hgrown.keeps)).1,
    ← (follow_of_write hends hname hwrite hkeeps).1] at ht
  exact Files.read_eq_ok_iff.mpr ⟨t, ht, hslash, (hgrown.file_iff content).mp hentry⟩

theorem lookup?_of_write (hwrite : f₁.write path part = .ok f₂) {τ : Files.Target} (hτ : f₁.follow path = .ok τ) (l : Location) :
    f₂.lookup? l = if l = τ.location then some (.file part) else f₁.lookup? l := by
  obtain ⟨t, ht, -, -, hentry, rfl⟩ := Files.write_eq_ok_iff.mp hwrite
  cases ht.symm.trans hτ
  exact Files.lookup?_put (Files.ne_nil_of_lookup? hentry) l

theorem lookup?_of_removeFile (hremove : f₂.removeFile path = .ok f₃) {τ : Files.Target} (hτ : f₂.follow path = .ok τ)
    (l : Location) : f₃.lookup? l = if l = τ.location then none else f₂.lookup? l := by
  obtain ⟨t, content, ht, hentry, rfl⟩ := Files.removeFile_eq_ok_iff.mp hremove
  cases ht.symm.trans hτ
  exact Files.lookup?_remove (Files.ne_nil_of_lookup? (by rw [hentry]; simp)) l

end Sibling

/-! ### One save -/

/-- Files at which the same ledger is loaded at a path, and that calls on the path may go on with. -/
structure Unseen (path : String) (f f' : Files) : Prop where
  sound : f'.Sound
  steady : Steady path f'
  load : load f' path = load f path

/-- A save that fails makes some more directories, and may then change the sibling, and nothing else. -/
theorem attempted_cases (h : Attempted path f f') : Grown f f' ∨
    ∃ f₁ f₂ part τ, Grown f f₁ ∧ f₁.write (temporaryPath path) part = .ok f₂ ∧ Kept f₁ f' ∧
      f₁.follow (temporaryPath path) = .ok τ ∧ ∀ l, l ≠ τ.location → f'.lookup? l = f₁.lookup? l := by
  cases h with
  | prepared h => exact .inl h
  | @written f₁ _ part h hwrite =>
    obtain ⟨τ, hτ, -⟩ := Files.write_eq_ok_iff.mp hwrite
    refine .inr ⟨f₁, f', part, τ, h, hwrite, Files.kept_of_write hwrite, hτ, fun l hl => ?_⟩
    rw [lookup?_of_write hwrite hτ, if_neg hl]
  | @discarded f₁ f₂ _ part h hwrite hremove =>
    have hwritten := Files.kept_of_write hwrite
    obtain ⟨τ, hτ, -⟩ := Files.write_eq_ok_iff.mp hwrite
    refine .inr ⟨f₁, f₂, part, τ, h, hwrite, hwritten.trans (Files.kept_of_removeFile hremove), hτ, fun l hl => ?_⟩
    rw [lookup?_of_removeFile hremove (Files.follow_of_keeps hwritten.keeps hτ), if_neg hl, lookup?_of_write hwrite hτ,
      if_neg hl]

/-- What a failed save does after it made directories is not seen at the path. -/
theorem exists_grown_of_attempted (hf : f.Sound) (h : Attempted path f f') :
    ∃ f₁, Grown f f₁ ∧ KeepsDirectories f₁ f' ∧ f'.Sound ∧ (Steady path f₁ → Steady path f') ∧
      ∀ content, f'.read path = .ok content ↔ f₁.read path = .ok content := by
  rcases attempted_cases h with h | ⟨f₁, f₂, part, τ, h, hwrite, hkept, hτ, hsame⟩
  · exact ⟨f', h, .refl _, h.sound hf, id, fun _ => .rfl⟩
  · have hread := read_iff_of_write (h.sound hf) hwrite hkept fun τ' hτ' l hl => hsame l (by cases hτ.symm.trans hτ'; exact hl)
    have hsound := hkept.sound (h.sound hf)
    exact ⟨f₁, h, hkept.keeps, hsound, fun _ => steady_of_write hsound hwrite hkept.keeps, hread⟩

theorem unseen_of_attempted (hf : f.Sound) (hsteady : Steady path f) (h : Attempted path f f') : Unseen path f f' := by
  obtain ⟨f₁, hgrown, -, hsound, hstays, hread⟩ := exists_grown_of_attempted hf h
  exact ⟨hsound, hstays (hsteady.grown hgrown), (load_congr hread).trans (hsteady f₁ hgrown)⟩

/-- Whether the file at a path is as it was: what was read there still is, and what is read there stood where
    the path leads to before. -/
structure SameFile (path : String) (f f' : Files) : Prop where
  still : ∀ content, f.read path = .ok content → f'.read path = .ok content
  before : ∀ content, f'.read path = .ok content →
    ∃ t, f'.follow path = .ok t ∧ f.lookup? t.location = some (.file content)

/-- A path may lead to a file only after a save failed, by a directory that it made; the file stood there
    before. -/
theorem sameFile_of_attempted (hf : f.Sound) (h : Attempted path f f') : SameFile path f f' := by
  obtain ⟨f₁, hgrown, hkeeps, -, -, hread⟩ := exists_grown_of_attempted hf h
  constructor
  · intro content hcontent
    obtain ⟨t, ht, hslash, hentry⟩ := Files.read_eq_ok_iff.mp hcontent
    exact (hread content).mpr
      (Files.read_eq_ok_iff.mpr ⟨t, Files.follow_of_keeps hgrown.keeps ht, hslash, hgrown.old _ _ hentry⟩)
  · intro content hcontent
    obtain ⟨t, ht, -, hentry⟩ := Files.read_eq_ok_iff.mp ((hread content).mp hcontent)
    exact ⟨t, Files.follow_of_keeps hkeeps ht, (hgrown.new _ _ hentry).resolve_right (by simp)⟩

/-- A save that succeeds moves its content from the sibling to where the path leads. -/
theorem eq_put_of_replaced {content : List UInt8} (h : Replaced path content f f') :
    ∃ f₁ f₂ τ t, Grown f f₁ ∧ f₁.write (temporaryPath path) content = .ok f₂ ∧ KeepsDirectories f₂ f' ∧
      f₁.follow (temporaryPath path) = .ok τ ∧ f₂.follow path = .ok t ∧ t.special = false ∧ t.slash = false ∧
      f₂.lookup? t.location ≠ some .directory ∧ f' = (f₂.remove τ.location).put t.location (.file content) := by
  obtain ⟨f₁, f₂, hgrown, hwrite, hrename⟩ := h
  have hkept := Files.kept_of_rename hrename
  obtain ⟨τ, hτ, -⟩ := Files.write_eq_ok_iff.mp hwrite
  have hτ₂ := Files.follow_of_keeps (Files.kept_of_write hwrite).keeps hτ
  obtain ⟨o, t, written, ho, ht, hentry, hspecial, hslash, hdirectory, rfl⟩ := Files.rename_eq_ok_iff.mp hrename
  cases ho.symm.trans hτ₂
  rw [lookup?_of_write hwrite hτ, if_pos rfl] at hentry
  cases hentry
  exact ⟨f₁, f₂, τ, t, hgrown, hwrite, hkept.keeps, hτ, ht, hspecial, hslash, hdirectory, rfl⟩

/-- After a save that succeeds its content is read at the path. -/
theorem read_of_replaced {content : List UInt8} (h : Replaced path content f f') : f'.read path = .ok content := by
  obtain ⟨f₁, f₂, τ, t, -, -, hkeeps, -, ht, -, hslash, hdirectory, rfl⟩ := eq_put_of_replaced h
  refine Files.read_eq_ok_iff.mpr ⟨t, Files.follow_of_keeps hkeeps ht, hslash, ?_⟩
  rw [Files.lookup?_put (Files.ne_nil_of_lookup? hdirectory), if_pos rfl]

theorem sound_of_replaced {content : List UInt8} (hf : f.Sound) (h : Replaced path content f f') : f'.Sound := by
  obtain ⟨f₁, f₂, hgrown, hwrite, hrename⟩ := h
  exact (Files.kept_of_rename hrename).sound ((Files.kept_of_write hwrite).sound (hgrown.sound hf))

/-! ### One call -/

/-- One call: what it deposits, and the mishaps that its steps meet, one for each step that can fail. -/
structure Attempt where
  deposit : Deposit
  mishaps : List (Option Mishap)

/-- Whether the file cannot be read in the call, whatever it holds. -/
def Attempt.readFails (a : Attempt) : Bool := a.mishaps.head?.join.isSome

/-- The ledger that a call puts its deposit into; none is taken from a file that cannot be read. -/
def Attempt.base (a : Attempt) (l : Ledger) : Ledger := if a.readFails then empty else l

/-- What a call gives, and the files after it. -/
def attempt (path : String) (f : Files) (a : Attempt) : Except SaveFault Ledger × Files :=
  let (result, d) := upsertFile path a.deposit.chainId a.deposit.contract a.deposit.record ⟨f, a.mishaps⟩
  (result, d.files)

/-- A ledger after a call with this result. -/
def record (l : Ledger) : Attempt × Except SaveFault Ledger → Ledger
  | (a, .ok _) => (a.base l).deposit a.deposit
  | (_, .error _) => l

theorem readText_of_read {s : String} (h : f.read path = .ok (Text.toBytes s)) : f.readText path = .ok s := by
  rw [readText_eq, h]
  simp only [Except.bind, Text.ofBytes?_toBytes]

theorem load_of_read {s : String} (h : f.read path = .ok (Text.toBytes s)) : load f path = (read? s).getD empty := by
  unfold load
  rw [readText_of_read h]
  rfl

theorem ofText_readText (f : Files) (path : String) (a : Attempt) :
    ofText ((⟨f, a.mishaps⟩ : Disk).readText path).1 = a.base (load f path) := by
  rw [Disk.readText_eq]
  unfold Disk.mishap? Attempt.base Attempt.readFails
  dsimp only
  cases a.mishaps.head?.join <;> rfl

/-- A call either saves the deposit in the ledger that it read, or fails on the way. -/
theorem attempt_cases (path : String) (f : Files) (a : Attempt) :
    (∃ l, l = (a.base (load f path)).deposit a.deposit ∧ (attempt path f a).1 = .ok l ∧
      Replaced path (Text.toBytes l.fileText) f (attempt path f a).2) ∨
    (∃ fault, (attempt path f a).1 = .error fault ∧ Attempted path f (attempt path f a).2) := by
  have hbase := ofText_readText f path a
  have hfiles : ((⟨f, a.mishaps⟩ : Disk).readText path).2.files = f := by rw [Disk.readText_eq]; rfl
  unfold attempt upsertFile
  rcases hread : (⟨f, a.mishaps⟩ : Disk).readText path with ⟨text, d⟩
  rw [hread] at hbase hfiles
  change ofText text = _ at hbase
  change d.files = f at hfiles
  have hsave := save_cases ((ofText text).upsert a.deposit.chainId a.deposit.contract a.deposit.record) path d
  dsimp only
  rw [hbase, hfiles] at hsave
  rw [hbase]
  rcases hsaved : Ledger.save ((a.base (load f path)).upsert a.deposit.chainId a.deposit.contract a.deposit.record) path d
    with ⟨_ | _, d₁⟩
  · rw [hsaved] at hsave
    rcases hsave with ⟨h, -⟩ | ⟨fault, h, hattempted⟩
    · cases h
    · exact .inr ⟨_, rfl, hattempted⟩
  · rw [hsaved] at hsave
    rcases hsave with ⟨-, hreplaced⟩ | ⟨_, h, -⟩
    · exact .inl ⟨_, rfl, rfl, hreplaced⟩
    · cases h

theorem attempt_of_isOk {a : Attempt} (h : (attempt path f a).1.isOk = true) :
    ∃ l, l = (a.base (load f path)).deposit a.deposit ∧ (attempt path f a).1 = .ok l ∧
      Replaced path (Text.toBytes l.fileText) f (attempt path f a).2 := by
  rcases attempt_cases path f a with hsaved | ⟨fault, herror, -⟩
  · exact hsaved
  · rw [herror] at h
    cases h

/-- A state between two calls: files with a plain ledger at the path. -/
structure Between (path : String) (f : Files) (l : Ledger) : Prop where
  sound : f.Sound
  steady : Steady path f
  plain : l.IsPlain
  load : load f path = l

theorem isPlain_base {l : Ledger} (h : l.IsPlain) (a : Attempt) : (a.base l).IsPlain := by
  unfold Attempt.base
  split
  · exact isPlain_empty
  · exact h

/-- A call leaves what it gives, or all as it was. -/
theorem between_attempt {l : Ledger} (h : Between path f l) (a : Attempt) :
    Between path (attempt path f a).2 (record l (a, (attempt path f a).1)) ∧
      ∀ l', (attempt path f a).1 = .ok l' → l' = (a.base l).deposit a.deposit := by
  rcases attempt_cases path f a with ⟨l', rfl, hok, hreplaced⟩ | ⟨fault, herror, hattempted⟩
  · rw [h.load] at hok hreplaced
    have hread := read_of_replaced hreplaced
    have hplain : ((a.base l).deposit a.deposit).IsPlain := isPlain_deposit (isPlain_base h.plain a) a.deposit
    rw [hok]
    refine ⟨⟨sound_of_replaced h.sound hreplaced, steady_of_read hread, hplain, ?_⟩, ?_⟩
    · rw [load_of_read hread, read?_fileText hplain]
      rfl
    · rintro l' ⟨⟩
      rfl
  · obtain ⟨hsound, hsteady, hload⟩ := unseen_of_attempted h.sound h.steady hattempted
    rw [herror]
    refine ⟨⟨hsound, hsteady, h.plain, hload.trans h.load⟩, ?_⟩
    rintro l' ⟨⟩

/-! ### Any number of calls -/

/-- Calls one after the other, each with its result, and the files after them. -/
def attemptAll (path : String) (f : Files) : List Attempt → List (Attempt × Except SaveFault Ledger) × Files
  | [] => ([], f)
  | a :: as =>
    let (result, f) := attempt path f a
    let (results, f) := attemptAll path f as
    ((a, result) :: results, f)

theorem between_attemptAll {l : Ledger} (h : Between path f l) (as : List Attempt) :
    Between path (attemptAll path f as).2 ((attemptAll path f as).1.foldl record l) := by
  induction as generalizing f l with
  | nil => exact h
  | cons a as ih => exact ih (between_attempt h a).1

/-- Whatever calls on a path there were, and whatever mishaps they met, the ledger in the file is the one at the
    start with the deposits of the successful calls, and the next call either fails and leaves it as it was, or
    leaves the ledger that it gives, which is this ledger with the call's deposit. A call that could not read
    the file deposits into an empty ledger. Directories that are missing at the start may hide no other ledger from
    the path, as they do only where it leads back out of them (`load_paved_of_descends`). -/
theorem load_attemptAll (path : String) (f : Files) (hf : f.Sound) (hpaved : load (f.paved path) path = load f path)
    (hexact : Json.isExact (load f path).toJson = true) (as : List Attempt) (a : Attempt) :
    let (results, f₁) := attemptAll path f as
    let (result, f₂) := attempt path f₁ a
    load f₁ path = results.foldl record (load f path) ∧
      (∀ l, result = .ok l → load f₂ path = l ∧ l = (a.base (load f₁ path)).deposit a.deposit) ∧
      (∀ fault, result = .error fault → load f₂ path = load f₁ path) := by
  have hstart : Between path f (load f path) := ⟨hf, steady_of_paved hf hpaved, isPlain_ofText hexact, rfl⟩
  have hbetween := between_attemptAll hstart as
  rcases hall : attemptAll path f as with ⟨results, f₁⟩
  rw [hall] at hbetween
  have hstep := between_attempt hbetween a
  dsimp only at hbetween hstep ⊢
  rcases hattempt : attempt path f₁ a with ⟨result, f₂⟩
  rw [hattempt] at hstep
  obtain ⟨hnext, hresult⟩ := hstep
  refine ⟨hbetween.load, ?_, ?_⟩
  · rintro l rfl
    have hl := hresult l rfl
    exact ⟨hnext.load.trans hl.symm, hbetween.load.symm ▸ hl⟩
  · rintro fault rfl
    exact hnext.load.trans hbetween.load.symm

/-- A directory with a file of this text, and a directory where its sibling would be if `crowded`. -/
def shelf (text : String) (crowded : Bool) : Files where
  entries := [(["home"], .directory), (["a.json", "home"], .file (Text.toBytes text))] ++
    if crowded then [(["a.json.tmp", "home"], .directory)] else []
  workingDirectory := ["home"]

theorem sound_shelf (text : String) (crowded : Bool) : (shelf text crowded).Sound := by
  cases crowded <;> exact Files.sound_of_all rfl rfl

/-- A deposit on a test network. -/
def amoyDeposit : Deposit := ⟨80002, "Splitter", plainRecord "amoy" (.fit 20 [1])⟩

/-- A ledger that no deposit made. -/
def foreign : String := "\x7b\"k\":1\x7d"

/-- A call that succeeds, and one whose writing breaks off after it found the directory there. -/
def brokenOff : List Attempt := [⟨amoyDeposit, []⟩, ⟨amoyDeposit, [none, none, none, some ⟨.busy, some [0x7b]⟩]⟩]

/-- Calls on a path that leads back out of a directory that is missing, through another. -/
theorem load_attemptAll_brokenOff :
    (shelf foreign false).Sound ∧
      (load ((shelf foreign false).paved "x/../y/a.json") "x/../y/a.json" = load (shelf foreign false) "x/../y/a.json") ∧
      Json.isExact (load (shelf foreign false) "x/../y/a.json").toJson = true ∧
      ((attemptAll "x/../y/a.json" (shelf foreign false) brokenOff).1.map fun x => x.2.isOk) = [true, false] ∧
      load (attemptAll "x/../y/a.json" (shelf foreign false) brokenOff).2 "x/../y/a.json" =
        (attemptAll "x/../y/a.json" (shelf foreign false) brokenOff).1.foldl record
          (load (shelf foreign false) "x/../y/a.json") := by
  have hf := sound_shelf foreign false
  have hpaved : load ((shelf foreign false).paved "x/../y/a.json") "x/../y/a.json" =
      load (shelf foreign false) "x/../y/a.json" := congrArg ofText (by decide +kernel)
  have hexact : Json.isExact (load (shelf foreign false) "x/../y/a.json").toJson = true := by decide +kernel
  have hresults : ((attemptAll "x/../y/a.json" (shelf foreign false) brokenOff).1.map fun x => x.2.isOk) =
      [true, false] := by decide +kernel
  have hrun := load_attemptAll "x/../y/a.json" (shelf foreign false) hf hpaved hexact brokenOff ⟨amoyDeposit, []⟩
  exact ⟨hf, hpaved, hexact, hresults, hrun.1⟩

/-! ### Calls that do not go by this rule -/

/-- A call that fails may make a directory, through which and back the path leads to a file from then on. -/
theorem attempt_through_missing :
    (shelf foreign true).Sound ∧ (attempt "x/../a.json" (shelf foreign true) ⟨amoyDeposit, []⟩).1.isOk = false ∧
      (load (shelf foreign true) "x/../a.json").isEmpty = true ∧
      (load (attempt "x/../a.json" (shelf foreign true) ⟨amoyDeposit, []⟩).2 "x/../a.json").isEmpty = false :=
  ⟨sound_shelf foreign true, by decide +kernel⟩

/-- A call whose reading meets a mishap. -/
def unread : Attempt := ⟨amoyDeposit, [some ⟨.busy, none⟩]⟩

/-- A call that cannot read the file replaces what the file holds. -/
theorem attempt_unread :
    (attempt "a.json" (shelf foreign false) unread).1.isOk = true ∧
      (((load (shelf foreign false) "a.json").deposit amoyDeposit).entries.get? "k").isSome = true ∧
      ((load (attempt "a.json" (shelf foreign false) unread).2 "a.json").entries.get? "k").isSome = false := by
  have hexact : Json.isExact (load (shelf foreign false) "a.json").toJson = true := by decide +kernel
  have hf := sound_shelf foreign false
  have hdown : (shelf foreign false).Descends "a.json" := ⟨[], [], _, by decide +kernel, rfl, List.not_mem_nil⟩
  have hbetween : Between "a.json" (shelf foreign false) (load (shelf foreign false) "a.json") :=
    ⟨hf, steady_of_paved hf (load_paved_of_descends hf hdown), isPlain_ofText hexact, rfl⟩
  have hok : (attempt "a.json" (shelf foreign false) unread).1.isOk = true := by decide +kernel
  have hload := (between_attempt hbetween unread).1.load
  refine ⟨hok, by decide +kernel, ?_⟩
  obtain ⟨l, -, hresult, -⟩ := attempt_of_isOk hok
  rw [hload, hresult]
  show ((empty.deposit amoyDeposit).entries.get? "k").isSome = false
  decide +kernel

/-- An integer that is written with an exponent. -/
def exponential : String := "\x7b\"k\":9007199254740991e0\x7d"

/-- The floating-point number of a value. -/
def floatOf? : Option Json → Option Binary64
  | some (.number (.float x)) => some x
  | _ => none

/-- An integer that is written with an exponent may come back as its neighbour. -/
theorem attempt_exponential :
    ∃ l, (attempt "a.json" (shelf exponential false) ⟨amoyDeposit, []⟩).1 = .ok l ∧
      floatOf? (l.entries.get? "k") = some ⟨0x433fffffffffffff⟩ ∧
      floatOf? ((load (attempt "a.json" (shelf exponential false) ⟨amoyDeposit, []⟩).2 "a.json").entries.get? "k") =
        some ⟨0x433ffffffffffffe⟩ := by
  have hok : (attempt "a.json" (shelf exponential false) ⟨amoyDeposit, []⟩).1.isOk = true := by decide +kernel
  obtain ⟨l, hl, hresult, hreplaced⟩ := attempt_of_isOk hok
  refine ⟨l, hresult, ?_, ?_⟩
  · rw [hl]
    decide +kernel
  · have hdepth : l.toJson.depth ≤ Json.maxDepth := by
      rw [hl]
      decide +kernel
    rw [load_of_read (read_of_replaced hreplaced), read?_fileText_eq hdepth, hl]
    decide +kernel

/-- What one might expect of every call: if it succeeds, it leaves the ledger that it gives, which is the one
    before it with its deposit, and if it fails, the one before it. -/
structure Tracks (path : String) (f : Files) (a : Attempt) : Prop where
  ok : ∀ l, (attempt path f a).1 = .ok l →
    load (attempt path f a).2 path = l ∧ l = (load f path).deposit a.deposit
  error : ∀ fault, (attempt path f a).1 = .error fault → load (attempt path f a).2 path = load f path

theorem not_tracks :
    ¬Tracks "x/../a.json" (shelf foreign true) ⟨amoyDeposit, []⟩ ∧ ¬Tracks "a.json" (shelf foreign false) unread ∧
      ¬Tracks "a.json" (shelf exponential false) ⟨amoyDeposit, []⟩ := by
  refine ⟨?_, ?_, ?_⟩
  · intro htracks
    obtain ⟨-, hfails, hbefore, hafter⟩ := attempt_through_missing
    rcases hresult : (attempt "x/../a.json" (shelf foreign true) ⟨amoyDeposit, []⟩).1 with fault | l
    · rw [htracks.error fault hresult, hbefore] at hafter
      cases hafter
    · rw [hresult] at hfails
      cases hfails
  · intro htracks
    obtain ⟨hok, hbefore, hafter⟩ := attempt_unread
    rcases hresult : (attempt "a.json" (shelf foreign false) unread).1 with fault | l
    · rw [hresult] at hok
      cases hok
    · obtain ⟨hload, hl⟩ := htracks.ok l hresult
      rw [hload, hl] at hafter
      exact absurd (hbefore.symm.trans hafter) (by decide)
  · intro htracks
    obtain ⟨l, hok, hgiven, hloaded⟩ := attempt_exponential
    rw [(htracks.ok l hok).1, hgiven] at hloaded
    exact absurd hloaded (by decide)

end Ledger
end SplitterLaunch
