import SplitterLaunch.Proofs.Settings.Signer

/-! What faults say of the key. The environment is read without a look into its key, which is checked last; and where a key
    that passed is used, there is one thing that can be wrong with it (`signs_of_spells`). So no fault depends on the text
    of a key: two runs that differ in nothing else fail alike if both fail. That a key is not set at all is told. -/

namespace SplitterLaunch

/-- Whether two results, if both are faults, are the same one. -/
def FailAlike {ε α : Type} (x y : Except ε α) : Prop :=
  ∀ fault fault', x = .error fault → y = .error fault' → fault = fault'

theorem FailAlike.of_forall {ε α : Type} {x y : Except ε α} {told : ε} (hx : ∀ fault, x = .error fault → fault = told)
    (hy : ∀ fault, y = .error fault → fault = told) : FailAlike x y :=
  fun fault fault' h h' => (hx fault h).trans (hy fault' h').symm

namespace Environment
variable {env env' : Environment} {key : Option String} {name : String}

/-- The environment with another key, or without one. -/
def withKey (env : Environment) (key : Option String) : Environment :=
  fun name => if name = "PRIVATE_KEY" then key else env name

@[simp] theorem withKey_of_ne (h : name ≠ "PRIVATE_KEY") : env.withKey key name = env name := if_neg h

@[simp] theorem withKey_self : env.withKey key "PRIVATE_KEY" = key := if_pos rfl

theorem trimmed_eq_withKey (h : ∀ name, name ≠ "PRIVATE_KEY" → env name = env' name) :
    env'.trimmed = env.trimmed.withKey (env'.trimmed "PRIVATE_KEY") := by
  funext name
  by_cases hname : name = "PRIVATE_KEY"
  · rw [hname, withKey_self]
  · rw [withKey_of_ne hname, trimmed, trimmed, h name hname]

end Environment

namespace Settings
variable {env env' : Environment} {s s' : Settings} {key : Option String} {fault : UsageFault} {stop stop' : SettingsFault}

/-- The settings with another key, or without one. -/
def withKey (s : Settings) (key : Option String) : Settings := { s with privateKey := key }

/-! ### Reading -/

theorem adminIn_withKey : adminIn (env.withKey key) = adminIn env := by
  funext _
  simp [adminIn, adminVariables, List.findSome?]

theorem readVariable_withKey {α : Type} {name : String} {read : String → Outcome ValueFault α}
    (h : name ≠ "PRIVATE_KEY") : readVariable (env.withKey key) name read = readVariable env name read :=
  readVariable_congr (Environment.withKey_of_ne h)

theorem readPrices_withKey :
    readPrices (env.withKey key) NativeToken.priceVariables = readPrices env NativeToken.priceVariables :=
  readPrices_congr fun name hname => Environment.withKey_of_ne (by revert name; decide)

theorem registry_withKey : Registry.ofEnvironment (env.withKey key) = Registry.ofEnvironment env := by
  have hne : ∀ known ∈ knownNetworks, ∀ name ∈ known.rpcVariable :: known.chainVariable.toList, name ≠ "PRIVATE_KEY" := by
    decide
  exact Registry.ofEnvironment_congr fun known hknown => KnownNetwork.agreeOn_of_forall fun name hname =>
    Environment.withKey_of_ne (hne known hknown name hname)

/-- The key is copied, and nothing else that is read depends on it. -/
theorem readTrimmed_withKey : readTrimmed (env.withKey key) = (·.withKey key) <$> readTrimmed env := by
  unfold readTrimmed
  simp only [adminIn_withKey, readPrices_withKey, registry_withKey, map_bind, map_pure, Environment.withKey_self]
  simp (disch := decide) only [readVariable_withKey, Environment.withKey_of_ne]
  rfl

/-- What a check finds of a key. -/
def keyFault? (key : Option String) : Option SettingsFault :=
  key.bind fun text => if isKeyText text then none else some .badPrivateKey

theorem eq_badPrivateKey_of_keyFault? (h : keyFault? key = some stop) : stop = .badPrivateKey := by
  obtain ⟨text, -, h⟩ := Option.bind_eq_some_iff.mp h
  split at h
  · cases h
  · exact (Option.some.inj h).symm

/-- The key is checked when all else is right. -/
theorem fault?_eq : s.fault? = (s.withKey none).fault?.or (keyFault? s.privateKey) := by
  unfold fault? withKey keyFault?
  dsimp only
  split
  · rfl
  split
  · rfl
  split
  · rfl
  split
  · rfl
  · cases s.privateKey <;> rfl

theorem fault?_alike (h : s.fault? = some stop) (h' : (s.withKey key).fault? = some stop') : stop = stop' := by
  have hrest : (s.withKey key).withKey none = s.withKey none := rfl
  rw [fault?_eq] at h h'
  rw [hrest] at h'
  cases hother : (s.withKey none).fault? with
  | some other =>
    rw [hother] at h h'
    exact Option.some.inj (h.symm.trans h')
  | none =>
    rw [hother, Option.none_or] at h h'
    exact (eq_badPrivateKey_of_keyFault? h).trans (eq_badPrivateKey_of_keyFault? h').symm

theorem ofEnvironment_eq_error_iff {stop : Stop SettingsFault} : ofEnvironment env = .error stop ↔
    readTrimmed env.trimmed = .error stop ∨
    ∃ s, readTrimmed env.trimmed = .ok s ∧ ∃ fault, s.fault? = some fault ∧ stop = .failed fault := by
  unfold ofEnvironment
  rw [Outcome.bind_eq_error_iff]
  refine or_congr_right (exists_congr fun s => and_congr_right fun _ => ?_)
  cases s.fault? with
  | none => simp [pure, Except.pure]
  | some fault => simp [Outcome.fail, eq_comm]

theorem failAlike_ofEnvironment (h : ∀ name, name ≠ "PRIVATE_KEY" → env name = env' name) :
    FailAlike (ofEnvironment env) (ofEnvironment env') := by
  intro stop stop' hstop hstop'
  have hread : readTrimmed env'.trimmed = (·.withKey (env'.trimmed "PRIVATE_KEY")) <$> readTrimmed env.trimmed := by
    rw [Environment.trimmed_eq_withKey h, readTrimmed_withKey]
    simp
  -- Reading gets equally far in both runs, so that the faults come from the same stage.
  rcases ofEnvironment_eq_error_iff.mp hstop with hunread | ⟨s, hs, fault, hfault, rfl⟩
  · rw [hunread] at hread
    rcases ofEnvironment_eq_error_iff.mp hstop' with hunread' | ⟨s', hs', -⟩
    · exact Except.error.inj (hread.symm.trans hunread')
    · cases hread.symm.trans hs'
  · rw [hs] at hread
    rcases ofEnvironment_eq_error_iff.mp hstop' with hunread' | ⟨s', hs', fault', hfault', rfl⟩
    · cases hread.symm.trans hunread'
    · obtain rfl := Except.ok.inj (hread.symm.trans hs')
      exact congrArg Stop.failed (fault?_alike hfault hfault')

/-! ### Uses of the key -/

theorem isSome_of_key_eq_error (hkey : s.key = .error fault) : s.privateKey.isSome = true := by
  obtain ⟨text, hset, -⟩ := key_eq_error_iff.mp hkey
  exact Option.isSome_iff_exists.mpr ⟨text, hset⟩

theorem requireKey_eq_error_iff : s.requireKey = .error fault ↔
    s.key = .error fault ∨ s.privateKey = none ∧ fault = .noKey := by
  unfold requireKey key
  cases s.privateKey with
  | none => simp [bind, Except.bind, eq_comm]
  | some text => cases hread : readKey text <;> simp [hread, bind, Except.bind, Except.map, pure, Except.pure]

theorem deployer_eq_error_iff : s.deployer = .error fault ↔
    s.key = .error fault ∨ s.privateKey = none ∧ s.admin = none ∧ fault = .noAdmin := by
  unfold deployer key requireAdmin
  cases s.privateKey with
  | none => cases s.admin <;> simp [bind, Except.bind, eq_comm]
  | some text => cases hread : readKey text <;> simp [hread, bind, Except.bind, Except.map, pure, Except.pure]

theorem Checked.eq_of_key_eq_error (h : s.Checked) (hkey : s.key = .error fault) : fault = .invalidKey .outOfRange := by
  obtain ⟨text, hset, -⟩ := key_eq_error_iff.mp hkey
  obtain ⟨digits, hspells⟩ := h.privateKey text hset
  exact (signs_of_spells hset hspells).fault fault hkey

/-- How the four uses of a key fail. Two of them have one fault each, and the other two have another for a key that is not
    set. -/
structure Blames (s : Settings) : Prop where
  key : ∀ fault, s.key = .error fault → fault = .invalidKey .outOfRange
  requireKey : ∀ fault, s.requireKey = .error fault →
    fault = if s.privateKey.isSome then .invalidKey .outOfRange else .noKey
  deployer : ∀ fault, s.deployer = .error fault →
    fault = if s.privateKey.isSome then .invalidKey .outOfRange else .noAdmin
  account : ∀ fault, s.accountOf none = .error fault → fault = .noAddress

theorem Checked.blames (h : s.Checked) : s.Blames := by
  have hset {fault other : UsageFault} (hkey : s.key = .error fault) :
      fault = if s.privateKey.isSome then .invalidKey .outOfRange else other := by
    rw [if_pos (isSome_of_key_eq_error hkey)]
    exact h.eq_of_key_eq_error hkey
  refine ⟨fun _ => h.eq_of_key_eq_error, fun fault hfault => ?_, fun fault hfault => ?_, fun fault hfault => ?_⟩
  · rcases requireKey_eq_error_iff.mp hfault with hkey | ⟨hunset, rfl⟩
    · exact hset hkey
    · simp [hunset]
  · rcases deployer_eq_error_iff.mp hfault with hkey | ⟨hunset, -, rfl⟩
    · exact hset hkey
    · simp [hunset]
  · unfold accountOf at hfault
    cases hdeployer : s.deployer <;> simp_all [Except.mapError]

/-- Whether the uses of the keys of two settings fail alike, those that tell whether a key is set only if that is the same
    in both. -/
structure Discreet (s s' : Settings) : Prop where
  key : FailAlike s.key s'.key
  requireKey : s.privateKey.isSome = s'.privateKey.isSome → FailAlike s.requireKey s'.requireKey
  deployer : s.privateKey.isSome = s'.privateKey.isSome → FailAlike s.deployer s'.deployer
  account : FailAlike (s.accountOf none) (s'.accountOf none)

theorem Blames.discreet (h : s.Blames) (h' : s'.Blames) : s.Discreet s' where
  key := .of_forall h.key h'.key
  requireKey hset := .of_forall h.requireKey (hset ▸ h'.requireKey)
  deployer hset := .of_forall h.deployer (hset ▸ h'.deployer)
  account := .of_forall h.account h'.account

/-- Environments that differ in their keys only have the same fault if neither has settings. Where two keys that were let
    through are used and cannot be, the faults are the same, whatever else the settings are. -/
theorem ofEnvironment_discreet (env env' : Environment) :
    ((∀ name, name ≠ "PRIVATE_KEY" → env name = env' name) → FailAlike (ofEnvironment env) (ofEnvironment env')) ∧
    ∀ s s', ofEnvironment env = .ok s → ofEnvironment env' = .ok s' → s.Discreet s' := by
  refine ⟨failAlike_ofEnvironment, fun s s' h h' => ?_⟩
  have hchecked := (ofEnvironment_eq_ok_iff.mp h).2
  have hchecked' := (ofEnvironment_eq_ok_iff.mp h').2
  exact hchecked.blames.discreet hchecked'.blames

/-- A key of zeros only. -/
def zeroText : String := "0x0000000000000000000000000000000000000000000000000000000000000000"

/-- Two words that are no keys are told alike, and so are two keys out of range. -/
theorem ofEnvironment_discreet_words :
    (∃ stop, ofEnvironment (keySet "0xdeadbeef") = .error stop ∧ ofEnvironment (keySet "sesame") = .error stop) ∧
    ∃ s s' fault, ofEnvironment (keySet orderText) = .ok s ∧ ofEnvironment (keySet zeroText) = .ok s' ∧
      s.deployer = .error fault ∧ s'.deployer = .error fault := by
  have hkeys (text text' name : String) (hname : name ≠ "PRIVATE_KEY") : keySet text name = keySet text' name := by
    simp [keySet, Environment.ofTexts, List.lookup_cons, beq_eq_false_iff_ne.mpr hname]
  have hstop (text : String) (hok : (ofEnvironment (keySet text)).isOk = false) :
      ∃ stop, ofEnvironment (keySet text) = .error stop := by
    cases h : ofEnvironment (keySet text) with
    | error stop => exact ⟨stop, rfl⟩
    | ok s => rw [h] at hok; cases hok
  have hdeployer (text : String) (hok : (ofEnvironment (keySet text)).isOk = true)
      (htext : (keySet text).trimmed "PRIVATE_KEY" = some text) (hread : Key.read text = .error .outOfRange) :
      ∃ s fault, ofEnvironment (keySet text) = .ok s ∧ s.privateKey = some text ∧ s.deployer = .error fault := by
    obtain ⟨s, hs, hmeans⟩ := exists_means_of_isOk hok
    have hset := hmeans.privateKey.trans htext
    exact ⟨s, _, hs, hset, deployer_eq_error_iff.mpr (.inl (key_eq_error_iff.mpr ⟨text, hset, _, hread, rfl⟩))⟩
  constructor
  · obtain ⟨stop, h⟩ := hstop "0xdeadbeef" (by decide +kernel)
    obtain ⟨stop', h'⟩ := hstop "sesame" (by decide +kernel)
    obtain rfl := (ofEnvironment_discreet _ _).1 (hkeys _ _) stop stop' h h'
    exact ⟨stop, h, h'⟩
  · obtain ⟨s, fault, hs, hset, h⟩ := hdeployer orderText (by decide +kernel) (by decide +kernel) (by decide +kernel)
    obtain ⟨s', fault', hs', hset', h'⟩ := hdeployer zeroText (by decide +kernel) (by decide +kernel) (by decide +kernel)
    have hdiscreet := (ofEnvironment_discreet _ _).2 s s' hs hs'
    obtain rfl := hdiscreet.deployer (by rw [hset, hset']; rfl) fault fault' h h'
    exact ⟨s, s', fault, hs, hs', h, h'⟩

end Settings
end SplitterLaunch
