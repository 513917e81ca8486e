import SplitterLaunch.Proofs.Gwei
import SplitterLaunch.Settings

/-! How the reading of settings ends. Of all values only those of the two fees can end it without a report, and each
    of them only if everything that is read before it can be read (`ofEnvironment_eq_crash_iff`). -/

namespace SplitterLaunch
namespace Settings

/-! ### One variable -/

section Variable
variable {α : Type} {env : Environment} {name subject : String} {read : String → Outcome ValueFault α}

/-- Whether a variable is not set, or set to something that can be read. -/
def Readable (env : Environment) (name : String) (read : String → Outcome ValueFault α) : Prop :=
  ∀ text, env name = some text → ∃ x, read text = .ok x

/-- Whether a variable is set to a text that ends the reading of a fee without a report. -/
def Breaks (env : Environment) (name : String) : Prop := ∃ text, env name = some text ∧ Gwei.Breaks text

theorem readable_iff (subject : String) : Readable env name read ↔ ∃ x, readOptional env name subject read = .ok x := by
  unfold readOptional Readable
  cases env name with
  | none => simp
  | some text => cases hread : read text <;> simp [hread]

theorem readOptional_eq_crash_iff :
    readOptional env name subject read = .error .crashed ↔
      ∃ text, env name = some text ∧ read text = .error .crashed := by
  unfold readOptional
  cases env name with
  | none => simp
  | some text =>
    cases hread : read text with
    | ok x => simp [hread]
    | error stop => cases stop <;> simp [hread, Stop.map]

theorem readOptional_ne_crash (h : ∀ text, read text ≠ .error .crashed) :
    readOptional env name subject read ≠ .error .crashed := fun hcrash =>
  let ⟨text, _, hread⟩ := readOptional_eq_crash_iff.mp hcrash
  h text hread

end Variable

theorem readAddress_ne_crash (text : String) : readAddress text ≠ .error .crashed := Outcome.ofExcept_ne_crash _

theorem readInteger_ne_crash (text : String) : readInteger text ≠ .error .crashed := Outcome.ofExcept_ne_crash _

theorem readQuantity_ne_crash (text : String) : readQuantity text ≠ .error .crashed := Outcome.ofExcept_ne_crash _

theorem readFloat_ne_crash (text : String) : readFloat text ≠ .error .crashed := by
  unfold readFloat
  split <;> exact nofun

theorem readGwei_eq_crash_iff {text : String} : readGwei text = .error .crashed ↔ Gwei.Breaks text :=
  Outcome.mapReason_eq_crash_iff.trans Gwei.read_eq_crash_iff

theorem readFee_eq_crash_iff {env : Environment} {name : String} :
    readVariable env name readGwei = .error .crashed ↔ Breaks env name := by
  simp only [readVariable, readOptional_eq_crash_iff, readGwei_eq_crash_iff, Breaks]

theorem readPrices_ne_crash (env : Environment) (names : List String) : readPrices env names ≠ .error .crashed := by
  induction names with
  | nil => exact nofun
  | cons name names ih =>
    intro hcrash
    rcases Outcome.bind_eq_crash_iff.mp hcrash with hprice | ⟨price, -, hrest⟩
    · exact readOptional_ne_crash readFloat_ne_crash hprice
    rcases Outcome.bind_eq_crash_iff.mp hrest with hprices | ⟨prices, -, hend⟩
    · exact ih hprices
    · cases hend

theorem readPrices_isOk_iff {env : Environment} {names : List String} :
    (∃ prices, readPrices env names = .ok prices) ↔ ∀ name ∈ names, Readable env name readFloat := by
  induction names with
  | nil => exact ⟨fun _ _ h => (List.not_mem_nil h).elim, fun _ => ⟨[], rfl⟩⟩
  | cons name names ih =>
    rw [List.forall_mem_cons, ← ih, readable_iff name]
    constructor
    · rintro ⟨prices, h⟩
      obtain ⟨price, hprice, h⟩ := Outcome.bind_eq_ok_iff.mp h
      obtain ⟨rest, hrest, -⟩ := Outcome.bind_eq_ok_iff.mp h
      exact ⟨⟨price, hprice⟩, rest, hrest⟩
    · rintro ⟨⟨price, hprice⟩, rest, hrest⟩
      exact ⟨_, Outcome.bind_eq_ok_iff.mpr ⟨price, hprice, Outcome.bind_eq_ok_iff.mpr ⟨rest, hrest, rfl⟩⟩⟩

/-! ### All of them -/

/-- What has been read when the first fee is looked at. -/
structure ReachesFees (env : Environment) : Prop where
  admin : Readable (adminIn env) "" readAddress
  prices : ∀ name ∈ NativeToken.priceVariables, Readable env name readFloat
  confirmations : Readable env "CONFIRMATIONS" readInteger
  gasLimit : Readable env "GAS_LIMIT" readQuantity

theorem readTrimmed_eq_crash_iff {env : Environment} : readTrimmed env = .error .crashed ↔ ReachesFees env ∧
    (Breaks env "MAX_FEE_GWEI" ∨ Readable env "MAX_FEE_GWEI" readGwei ∧ Breaks env "MAX_PRIORITY_FEE_GWEI") := by
  unfold readTrimmed
  constructor
  · intro h
    obtain ⟨admin, hadmin, h⟩ := (Outcome.bind_eq_crash_iff_of_ne (readOptional_ne_crash readAddress_ne_crash)).mp h
    obtain ⟨prices, hprices, h⟩ := (Outcome.bind_eq_crash_iff_of_ne (readPrices_ne_crash env _)).mp h
    obtain ⟨confirmations, hconfirmations, h⟩ :=
      (Outcome.bind_eq_crash_iff_of_ne (readOptional_ne_crash readInteger_ne_crash)).mp h
    obtain ⟨gasLimit, hgasLimit, h⟩ :=
      (Outcome.bind_eq_crash_iff_of_ne (readOptional_ne_crash readQuantity_ne_crash)).mp h
    refine ⟨⟨(readable_iff _).mpr ⟨_, hadmin⟩, readPrices_isOk_iff.mp ⟨_, hprices⟩,
      (readable_iff _).mpr ⟨_, hconfirmations⟩, (readable_iff _).mpr ⟨_, hgasLimit⟩⟩, ?_⟩
    rcases Outcome.bind_eq_crash_iff.mp h with hfee | ⟨fee, hfee, h⟩
    · exact .inl (readFee_eq_crash_iff.mp hfee)
    rcases Outcome.bind_eq_crash_iff.mp h with htip | ⟨tip, htip, h⟩
    · exact .inr ⟨(readable_iff _).mpr ⟨_, hfee⟩, readFee_eq_crash_iff.mp htip⟩
    -- what is read after the fees does not crash
    exfalso
    obtain ⟨_, -, h⟩ := (Outcome.bind_eq_crash_iff_of_ne (readOptional_ne_crash readFloat_ne_crash)).mp h
    obtain ⟨_, -, h⟩ := (Outcome.bind_eq_crash_iff_of_ne (readOptional_ne_crash readInteger_ne_crash)).mp h
    obtain ⟨_, -, h⟩ := (Outcome.bind_eq_crash_iff_of_ne (readOptional_ne_crash readInteger_ne_crash)).mp h
    obtain ⟨_, -, h⟩ := (Outcome.bind_eq_crash_iff_of_ne (Outcome.ofExcept_ne_crash _)).mp h
    cases h
  · rintro ⟨⟨hadmin, hprices, hconfirmations, hgasLimit⟩, hfees⟩
    obtain ⟨admin, hadmin⟩ := (readable_iff _).mp hadmin
    obtain ⟨prices, hprices⟩ := readPrices_isOk_iff.mpr hprices
    obtain ⟨confirmations, hconfirmations⟩ := (readable_iff _).mp hconfirmations
    obtain ⟨gasLimit, hgasLimit⟩ := (readable_iff _).mp hgasLimit
    refine Outcome.bind_eq_crash_iff.mpr (.inr ⟨admin, hadmin, ?_⟩)
    refine Outcome.bind_eq_crash_iff.mpr (.inr ⟨prices, hprices, ?_⟩)
    refine Outcome.bind_eq_crash_iff.mpr (.inr ⟨confirmations, hconfirmations, ?_⟩)
    refine Outcome.bind_eq_crash_iff.mpr (.inr ⟨gasLimit, hgasLimit, ?_⟩)
    rcases hfees with hfee | ⟨hfee, htip⟩
    · exact Outcome.bind_eq_crash_iff.mpr (.inl (readFee_eq_crash_iff.mpr hfee))
    · obtain ⟨fee, hfee⟩ := (readable_iff _).mp hfee
      refine Outcome.bind_eq_crash_iff.mpr (.inr ⟨fee, hfee, ?_⟩)
      exact Outcome.bind_eq_crash_iff.mpr (.inl (readFee_eq_crash_iff.mpr htip))

/-- The reading of settings crashes exactly at a fee that is cut inside a character, or whose digits are in the range
    and whose amount is not, if all that is read before can be read. Any other fee that is read is its amount, unless
    an underscore hides a sign. -/
theorem ofEnvironment_eq_crash_iff (env : Environment) :
    (ofEnvironment env = .error .crashed ↔ ReachesFees env.trimmed ∧
      (Breaks env.trimmed "MAX_FEE_GWEI" ∨
        Readable env.trimmed "MAX_FEE_GWEI" readGwei ∧ Breaks env.trimmed "MAX_PRIORITY_FEE_GWEI")) ∧
    ∀ text fee, Gwei.read text = .ok fee → (Gwei.counted text).head? ≠ some '-' →
      fee.toNat = Gwei.unscaled (Gwei.counted text) * 10 ^ Gwei.missing (Gwei.counted text) := by
  constructor
  · rw [← readTrimmed_eq_crash_iff]
    unfold ofEnvironment
    rw [Outcome.bind_eq_crash_iff, or_iff_left]
    rintro ⟨settings, -, h⟩
    split at h <;> cases h
  · intro text fee hread hsign
    cases (Gwei.read_eq_ok_iff.mp hread).2 with
    | unsigned _ hamount => exact hamount
    | bare hfront | negated hfront => exact absurd (congrArg List.head? hfront) hsign

/-! ### Fees that crash -/

/-- An environment in which only the ceiling of the fee is set. -/
def ceilingSet (text : String) : Environment := fun name => if name = "MAX_FEE_GWEI" then some text else none

theorem trimmed_ceilingSet_of_ne {name text : String} (h : name ≠ "MAX_FEE_GWEI") :
    (ceilingSet text).trimmed name = none := by
  unfold Environment.trimmed ceilingSet
  rw [if_neg h]
  rfl

theorem reachesFees_ceilingSet (text : String) : ReachesFees (ceilingSet text).trimmed := by
  have hunset {α : Type} {name : String} {read : String → Outcome ValueFault α} (h : name ≠ "MAX_FEE_GWEI") :
      Readable (ceilingSet text).trimmed name read := by
    intro value hvalue
    rw [trimmed_ceilingSet_of_ne h] at hvalue
    cases hvalue
  refine ⟨fun value hvalue => ?_, fun name hname => hunset ?_, hunset (by decide), hunset (by decide)⟩
  · rw [adminIn, List.findSome?_eq_none_iff.mpr] at hvalue
    · cases hvalue
    · exact fun name hname => trimmed_ceilingSet_of_ne fun heq => absurd (heq ▸ hname) (by decide)
  · exact fun heq => absurd (heq ▸ hname) (by decide)

/-- A ceiling whose ninth byte after the point is in the middle of a letter. -/
theorem ofEnvironment_eq_crash_iff_accent : ofEnvironment (ceilingSet "1.12345678é") = .error .crashed ∧
    ∃ fee, Gwei.read "1.5" = .ok fee ∧ fee.toNat = 1500000000 := by
  obtain ⟨hcrash, hamount⟩ := ofEnvironment_eq_crash_iff (ceilingSet "1.12345678é")
  refine ⟨hcrash.mpr ⟨reachesFees_ceilingSet _, .inl ⟨"1.12345678é", rfl, by decide, .inl ?_⟩⟩, ?_⟩
  · exact ⟨"12345678".toList, 'é', [], by decide, by decide, by decide⟩
  · have hread : Gwei.read "1.5" = .ok ⟨1500000000, by decide⟩ := rfl
    exact ⟨_, hread, (hamount _ _ hread (by decide)).trans (by decide)⟩

/-- Ceilings of 10 ^ 69 gwei: the plain one crashes, and behind a hidden sign the amount wraps around. -/
theorem ofEnvironment_crashes :
    ofEnvironment (ceilingSet "1000000000000000000000000000000000000000000000000000000000000000000000") =
      .error .crashed ∧
    Gwei.read "_-1000000000000000000000000000000000000000000000000000000000000000000000" =
      .ok (Quantity.wrap (-(10 ^ 69 * 10 ^ 9))) := ⟨rfl, rfl⟩

end Settings
end SplitterLaunch
