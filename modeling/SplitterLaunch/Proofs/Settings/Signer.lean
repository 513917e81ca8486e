import SplitterLaunch.Proofs.Settings.Reading

/-! Who acts under settings. A key that was let through when they were checked is well formed where it is used, so that
    only its number can be wrong with it; and wherever nobody is named, a key that is set decides alone, also one that
    opens no account. -/

namespace SplitterLaunch
namespace Settings
variable {s : Settings} {text : String} {digits : List Char}

/-! ### The key -/

theorem key_eq_error_iff {fault : UsageFault} : s.key = .error fault ↔
    ∃ text ∈ s.privateKey, ∃ cause, Key.read text = .error cause ∧ fault = .invalidKey cause := by
  unfold key readKey
  cases s.privateKey with
  | none => simp
  | some text => cases hread : Key.read text <;> simp [hread, Except.map, Except.mapError, eq_comm]

theorem key_eq_ok_iff {signer : Option Key} : s.key = .ok signer ↔
    match s.privateKey with
    | none => signer = none
    | some text => ∃ key, Key.read text = .ok key ∧ signer = some key := by
  unfold key readKey
  cases s.privateKey with
  | none => simp [eq_comm]
  | some text => cases hread : Key.read text <;> simp [hread, Except.map, Except.mapError, eq_comm]

/-- What the use of a key finds that spells 32 bytes. -/
structure Signs (s : Settings) (digits : List Char) : Prop where
  fails : (∃ fault, s.key = .error fault) ↔ Hex.valueOf digits = 0 ∨ Curve.order ≤ Hex.valueOf digits
  fault : ∀ fault, s.key = .error fault → fault = .invalidKey .outOfRange
  signer : ∀ signer, s.key = .ok signer → ∃ key, signer = some key ∧ key.secret = Hex.valueOf digits

theorem signs_of_spells (hset : s.privateKey = some text) (h : Key.Spells text digits) : s.Signs digits := by
  have hfault {fault : UsageFault} : s.key = .error fault ↔
      fault = .invalidKey .outOfRange ∧ (Hex.valueOf digits = 0 ∨ Curve.order ≤ Hex.valueOf digits) := by
    simp [key_eq_error_iff, hset, h.read_eq_error_iff, and_comm]
  refine ⟨?_, fun fault hkey => (hfault.mp hkey).1, fun signer hkey => ?_⟩
  · simp only [hfault, exists_eq_left]
  · rw [key_eq_ok_iff, hset] at hkey
    obtain ⟨key, hread, rfl⟩ := hkey
    exact ⟨key, rfl, h.read_eq_ok_iff.mp hread⟩

/-! ### Who sends -/

/-- The account that a transaction is sent from: that of the key if one is set, else the administrator. -/
def SendsFrom (s : Settings) (account : Address) : Prop :=
  match s.privateKey with
  | some text => ∃ key, readKey text = .ok key ∧ account = key.address
  | none => s.admin = some account

theorem deployer_eq_ok_iff {account : Address} : s.deployer = .ok account ↔ s.SendsFrom account := by
  unfold deployer key SendsFrom
  cases s.privateKey with
  | none => exact requireAdmin_eq_ok_iff
  | some text =>
    cases hread : readKey text <;> simp [bind, Except.bind, Except.map, pure, Except.pure, hread, eq_comm]

/-- Whether a result is the account that settings stand for, with their faults as they are told: that of the key, which
    decides alone if it is set, else that of the administrator. -/
structure StandsFor (s : Settings) (told : UsageFault → UsageFault) (result : Except UsageFault Address) : Prop where
  signer : ∀ key, s.key = .ok (some key) → result = .ok key.address
  invalid : ∀ fault, s.key = .error fault → result = .error (told fault)
  admin : s.privateKey = none → ∀ admin, s.admin = some admin → result = .ok admin
  nobody : s.privateKey = none → s.admin = none → result = .error (told .noAdmin)

theorem StandsFor.mapError {result : Except UsageFault Address} (h : s.StandsFor id result)
    (told : UsageFault → UsageFault) : s.StandsFor told (result.mapError told) where
  signer key hkey := by rw [h.signer key hkey, Except.mapError]
  invalid fault hkey := by rw [h.invalid fault hkey, Except.mapError, id]
  admin hunset admin hadmin := by rw [h.admin hunset admin hadmin, Except.mapError]
  nobody hunset hadmin := by rw [h.nobody hunset hadmin, Except.mapError, id]

theorem standsFor_deployer (s : Settings) : s.StandsFor id s.deployer := by
  have hunset (h : s.privateKey = none) : s.deployer = s.requireAdmin := by
    unfold deployer
    rw [key_eq_ok_iff.mpr (by rw [h] : _)]
    rfl
  refine ⟨fun key hkey => ?_, fun fault hkey => ?_, fun h admin hadmin => ?_, fun h hadmin => ?_⟩
  · rw [deployer, hkey]
    rfl
  · rw [deployer, hkey]
    rfl
  · rw [hunset h, requireAdmin, hadmin]
  · rw [hunset h, requireAdmin, hadmin]
    rfl

/-- A key in settings that passed their checks opens an account unless its number, one of 256 bits, is zero or not below
    the order of the curve, and its form is never at fault. Without a name the account is the one that the settings stand
    for, and with a name the settings do not matter. -/
theorem ofEnvironment_signer {env : Environment} (h : ofEnvironment env = .ok s) :
    (∀ text, s.privateKey = some text →
      ∃ digits, Key.Spells text digits ∧ Hex.valueOf digits < 2 ^ 256 ∧ s.Signs digits) ∧
    (s.privateKey = none → s.key = .ok none) ∧
    s.StandsFor id s.deployer ∧
    s.StandsFor (fun _ => .noAddress) (s.accountOf none) ∧
    ∀ (s' : Settings) (named : String), s.accountOf (some named) = s'.accountOf (some named) := by
  have hchecked := (ofEnvironment_eq_ok_iff.mp h).2
  refine ⟨fun text hset => ?_, fun hunset => ?_, standsFor_deployer s, (standsFor_deployer s).mapError _,
    fun _ _ => rfl⟩
  · obtain ⟨digits, hspells⟩ := hchecked.privateKey text hset
    exact ⟨digits, hspells, hspells.valueOf_lt, signs_of_spells hset hspells⟩
  · exact key_eq_ok_iff.mpr (by rw [hunset])

/-- An environment with a key and an administrator. -/
def keySet (text : String) : Environment :=
  .ofTexts [("PRIVATE_KEY", text), ("ADMIN_WALLET", "0x00000000000000000000000000000000000000aD")]

/-- The order of the curve, and the number before it. -/
def orderText : String := "0xfffffffffffffffffffffffffffffffebaaedce6af48a03bbfd25e8cd0364141"

def lastText : String := "FFFFFFFFFFFFFFFFFFFFFFFFFFFFFFFEBAAEDCE6AF48A03BBFD25E8CD0364140"

/-- The order of the curve is the least number too large for a key, and the administrator does not stand in for it. -/
theorem ofEnvironment_signer_order :
    (∃ s : Settings, ofEnvironment (keySet orderText) = .ok s ∧ s.key = .error (.invalidKey .outOfRange) ∧
      s.accountOf none = .error .noAddress) ∧
    ∃ (s : Settings) (key : Key), ofEnvironment (keySet lastText) = .ok s ∧ key.secret = Curve.order - 1 ∧
      s.accountOf none = .ok key.address := by
  have hread (text : String) (hok : (ofEnvironment (keySet text)).isOk = true)
      (htext : (keySet text).trimmed "PRIVATE_KEY" = some text) :
      ∃ s, ofEnvironment (keySet text) = .ok s ∧ s.privateKey = some text := by
    obtain ⟨s, hs, hmeans⟩ := exists_means_of_isOk hok
    exact ⟨s, hs, hmeans.privateKey.trans htext⟩
  constructor
  · obtain ⟨s, hs, hset⟩ := hread orderText (by decide +kernel) (by decide +kernel)
    obtain ⟨hkey, -, -, hstands, -⟩ := ofEnvironment_signer hs
    obtain ⟨digits, hspells, -, hsigns⟩ := hkey _ hset
    have hvalue : Hex.valueOf digits = Curve.order := by
      rw [← hspells.stripMark_eq]
      decide +kernel
    obtain ⟨fault, hfault⟩ := hsigns.fails.mpr (.inr hvalue.ge)
    obtain rfl := hsigns.fault fault hfault
    exact ⟨s, hs, hfault, hstands.invalid _ hfault⟩
  · obtain ⟨s, hs, hset⟩ := hread lastText (by decide +kernel) (by decide +kernel)
    obtain ⟨hkey, -, -, hstands, -⟩ := ofEnvironment_signer hs
    obtain ⟨digits, hspells, -, hsigns⟩ := hkey _ hset
    have hvalue : Hex.valueOf digits = Curve.order - 1 := by
      rw [← hspells.stripMark_eq]
      decide +kernel
    cases hfound : s.key with
    | error fault =>
      have hrange := hsigns.fails.mp ⟨fault, hfound⟩
      rw [hvalue] at hrange
      exact absurd hrange (by decide)
    | ok signer =>
      obtain ⟨key, rfl, hsecret⟩ := hsigns.signer signer hfound
      exact ⟨s, key, hs, hsecret.trans hvalue, hstands.signer key hfound⟩

end Settings
end SplitterLaunch
