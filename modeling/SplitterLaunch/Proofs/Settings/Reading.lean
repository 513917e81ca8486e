import Mathlib.Data.List.Forall2
import SplitterLaunch.Proofs.Key
import SplitterLaunch.Proofs.Settings.Blanks

/-! What settings are read from an environment. Each field is what the text of its variable says, or a default where that
    is not set (`Means`), and the fields are checked (`Checked`). There are settings exactly if every text says something
    and what it says is within bounds (`Admissible`). -/

namespace SplitterLaunch

theorem Outcome.mapM_eq_ok_iff {ε α β : Type} {f : α → Except ε β} {xs : List α} {ys : List β} :
    xs.mapM f = .ok ys ↔ List.Forall₂ (fun x y => f x = .ok y) xs ys := by
  induction xs generalizing ys with
  | nil => cases ys <;> simp [pure, Except.pure]
  | cons x xs ih =>
    simp only [List.mapM_cons, bind_eq_ok_iff]
    constructor
    · rintro ⟨y, hy, rest, hrest, h⟩
      cases h
      exact .cons hy (ih.mp hrest)
    · rintro (_ | ⟨hy, hrest⟩)
      exact ⟨_, hy, _, ih.mpr hrest, rfl⟩

theorem exists_forall₂_iff {α β : Type} {R : α → β → Prop} {xs : List α} :
    (∃ ys, List.Forall₂ R xs ys) ↔ ∀ x ∈ xs, ∃ y, R x y := by
  induction xs with
  | nil => simp
  | cons x xs ih =>
    rw [List.forall_mem_cons, ← ih]
    constructor
    · rintro ⟨_, _ | ⟨hy, hrest⟩⟩
      exact ⟨⟨_, hy⟩, _, hrest⟩
    · rintro ⟨⟨y, hy⟩, rest, hrest⟩
      exact ⟨_, .cons hy hrest⟩

/-! ### One text -/

section Text
variable {α : Type} {text? : Option String} {read : String → Outcome ValueFault α} {bounds : α → Prop} {default x : α}
  {value : Option α}

/-- What a text that may be missing is read as: nothing, or its value, which it must have. -/
def ReadAs (text? : Option String) (read : String → Outcome ValueFault α) (value : Option α) : Prop :=
  match text? with
  | none => value = none
  | some text => ∃ x, read text = .ok x ∧ value = some x

/-- What a text that may be missing is read as if there is a default. -/
def ReadOr (text? : Option String) (read : String → Outcome ValueFault α) (default x : α) : Prop :=
  ∃ value, ReadAs text? read value ∧ x = value.getD default

/-- Whether a text, unless it is missing, is read as a value within bounds. -/
def Fits (text? : Option String) (read : String → Outcome ValueFault α) (bounds : α → Prop) : Prop :=
  ∀ text, text? = some text → ∃ x, read text = .ok x ∧ bounds x

theorem readOr_none_iff : ReadOr none read default x ↔ x = default := by
  simp [ReadOr, ReadAs]

theorem readOr_some_iff {text : String} : ReadOr (some text) read default x ↔ read text = .ok x := by
  unfold ReadOr ReadAs
  constructor
  · rintro ⟨_, ⟨y, hy, rfl⟩, rfl⟩
    exact hy
  · exact fun h => ⟨some x, ⟨x, h, rfl⟩, rfl⟩

theorem ReadAs.fits (h : ReadAs text? read value) (hvalue : ∀ x ∈ value, bounds x) : Fits text? read bounds := by
  rintro text rfl
  obtain ⟨x, hx, rfl⟩ := h
  exact ⟨x, hx, hvalue x rfl⟩

theorem ReadOr.fits (h : ReadOr text? read default x) (hx : bounds x) : Fits text? read bounds := by
  obtain ⟨value, hvalue, rfl⟩ := h
  refine hvalue.fits fun y hy => ?_
  cases hy
  exact hx

theorem Fits.exists_readAs (h : Fits text? read bounds) : ∃ value, ReadAs text? read value ∧ ∀ x ∈ value, bounds x := by
  cases text? with
  | none => exact ⟨none, rfl, nofun⟩
  | some text =>
    obtain ⟨x, hx, hbounds⟩ := h text rfl
    exact ⟨some x, ⟨x, hx, rfl⟩, by rintro y ⟨⟩; exact hbounds⟩

theorem Fits.exists_readOr (h : Fits text? read bounds) (default : α) (hdefault : bounds default) :
    ∃ x, ReadOr text? read default x ∧ bounds x := by
  obtain ⟨value, hvalue, hbounds⟩ := h.exists_readAs
  refine ⟨value.getD default, ⟨value, hvalue, rfl⟩, ?_⟩
  cases value with
  | none => exact hdefault
  | some x => exact hbounds x rfl

theorem Settings.readOptional_eq_ok_iff {env : Environment} {name subject : String} :
    readOptional env name subject read = .ok value ↔ ReadAs (env name) read value := by
  unfold readOptional ReadAs
  cases env name with
  | none => simp [eq_comm]
  | some text => cases hread : read text <;> simp [hread, eq_comm]

end Text

/-! ### Networks -/

/-- The chain id that a text names, without the blanks around it. -/
def readChainId (text : String) : Outcome ValueFault UInt64 :=
  Settings.readInteger (String.ofList (Text.trim text.toList))

namespace KnownNetwork
variable {known : KnownNetwork} {env : Environment} {network : Network}

/-- The text that names another chain id for the network. -/
def chainText? (known : KnownNetwork) (env : Environment) : Option String := known.chainVariable.bind env

/-- What a network of the list is in an environment. -/
structure Means (env : Environment) (known : KnownNetwork) (network : Network) : Prop where
  name : network.name = known.name
  aliases : network.aliases = known.aliases
  chainId : ReadOr (known.chainText? env) readChainId known.chainId network.chainId
  rpcUrl : network.rpcUrl = (env known.rpcVariable).getD known.rpcUrl
  explorer : network.explorer = Explorer.ofChain? network.chainId

theorem chainIdIn_eq_ok_iff {chainId : UInt64} :
    known.chainIdIn env = .ok chainId ↔ ReadOr (known.chainText? env) readChainId known.chainId chainId := by
  unfold chainIdIn chainText?
  cases known.chainVariable with
  | none => simp [readOr_none_iff, eq_comm]
  | some name =>
    simp only [Option.bind_some]
    cases env name with
    | none => simp [readOr_none_iff, eq_comm]
    | some text =>
      rw [readOr_some_iff, readChainId, Settings.readInteger, String.toList_ofList, Outcome.ofExcept_eq_ok_iff]
      exact Outcome.mapError_eq_ok_iff.trans Outcome.mapError_eq_ok_iff.symm

theorem networkIn_eq_ok_iff : known.networkIn env = .ok network ↔ known.Means env network := by
  unfold networkIn
  simp only [Outcome.bind_eq_ok_iff, chainIdIn_eq_ok_iff]
  constructor
  · rintro ⟨chainId, hchain, h⟩
    cases h
    exact ⟨rfl, rfl, hchain, rfl, rfl⟩
  · intro h
    refine ⟨network.chainId, h.chainId, congrArg Except.ok ?_⟩
    rw [← h.name, ← h.aliases, ← h.rpcUrl, ← h.explorer]

/-- Networks exist in an environment whose texts for chain ids can be read. -/
theorem exists_networks_iff {list : List KnownNetwork} : (∃ networks, List.Forall₂ (Means env) list networks) ↔
    ∀ known ∈ list, Fits (known.chainText? env) readChainId fun _ => True := by
  rw [exists_forall₂_iff]
  refine forall₂_congr fun known _ => ⟨fun ⟨network, h⟩ => h.chainId.fits trivial, fun h => ?_⟩
  obtain ⟨chainId, hchain, -⟩ := h.exists_readOr known.chainId trivial
  exact ⟨⟨known.name, known.aliases, chainId, _, Explorer.ofChain? chainId⟩, rfl, rfl, hchain, rfl, rfl⟩

end KnownNetwork

theorem Registry.ofEnvironment_eq_ok_iff {env : Environment} {registry : Registry} :
    Registry.ofEnvironment env = .ok registry ↔
      List.Forall₂ (KnownNetwork.Means env) knownNetworks registry.networks := by
  have hnetworks : knownNetworks.mapM (KnownNetwork.networkIn · env) = .ok registry.networks ↔
      List.Forall₂ (KnownNetwork.Means env) knownNetworks registry.networks := by
    simp only [Outcome.mapM_eq_ok_iff, KnownNetwork.networkIn_eq_ok_iff]
  rw [← hnetworks]
  unfold Registry.ofEnvironment
  cases knownNetworks.mapM (KnownNetwork.networkIn · env) with
  | error fault => simp [Except.map]
  | ok networks =>
    cases registry
    simp [Except.map]

namespace Settings
variable {env : Environment} {s : Settings}

/-! ### Prices -/

/-- The prices that the texts of some variables name, in order. -/
inductive PricesAre (env : Environment) : List String → List (String × Binary64) → Prop where
  | nil : PricesAre env [] []
  | cons {name : String} {names : List String} {price : Option Binary64} {prices : List (String × Binary64)}
    (hprice : ReadAs (env name) readFloat price) (hprices : PricesAre env names prices) :
    PricesAre env (name :: names) ((price.map (name, ·)).toList ++ prices)

theorem readPrices_eq_ok_iff {names : List String} {prices : List (String × Binary64)} :
    readPrices env names = .ok prices ↔ PricesAre env names prices := by
  induction names generalizing prices with
  | nil =>
    constructor
    · intro h
      cases h
      exact .nil
    · rintro ⟨⟩
      rfl
  | cons name names ih =>
    unfold readPrices readVariable
    simp only [Outcome.bind_eq_ok_iff, readOptional_eq_ok_iff, ih]
    constructor
    · rintro ⟨price, hprice, rest, hrest, h⟩
      cases price with
      | none =>
        cases h
        exact .cons hprice hrest
      | some x =>
        cases h
        exact .cons hprice hrest
    · rintro ⟨⟩
      rename_i price rest hprice hrest
      exact ⟨price, hprice, rest, hrest, by cases price <;> rfl⟩

theorem mem_entry_iff {name : String} {price : Option Binary64} {entry : String × Binary64} :
    entry ∈ (price.map (name, ·)).toList ↔ ∃ x ∈ price, entry = (name, x) := by
  cases price <;> simp

namespace PricesAre
variable {names : List String} {prices : List (String × Binary64)} {bounds : Binary64 → Prop}

theorem mem_names (h : PricesAre env names prices) : ∀ price ∈ prices, price.1 ∈ names := by
  induction h with
  | nil => exact nofun
  | cons hprice hprices ih =>
    intro entry hentry
    rcases List.mem_append.mp hentry with hentry | hentry
    · obtain ⟨x, -, rfl⟩ := mem_entry_iff.mp hentry
      exact List.mem_cons_self
    · exact List.mem_cons_of_mem _ (ih entry hentry)

theorem fits (h : PricesAre env names prices) (hprices : ∀ price ∈ prices, bounds price.2) :
    ∀ name ∈ names, Fits (env name) readFloat bounds := by
  induction h with
  | nil => exact nofun
  | cons hprice hrest ih =>
    rw [List.forall_mem_append] at hprices
    rw [List.forall_mem_cons]
    exact ⟨hprice.fits fun x hx => hprices.1 _ (mem_entry_iff.mpr ⟨x, hx, rfl⟩), ih hprices.2⟩

theorem exists_of_fits (h : ∀ name ∈ names, Fits (env name) readFloat bounds) :
    ∃ prices, PricesAre env names prices ∧ ∀ price ∈ prices, bounds price.2 := by
  induction names with
  | nil => exact ⟨[], .nil, nofun⟩
  | cons name names ih =>
    rw [List.forall_mem_cons] at h
    obtain ⟨price, hprice, hbounds⟩ := h.1.exists_readAs
    obtain ⟨rest, hrest, hboundsRest⟩ := ih h.2
    refine ⟨_, .cons hprice hrest, List.forall_mem_append.mpr ⟨fun entry hentry => ?_, hboundsRest⟩⟩
    obtain ⟨x, hx, rfl⟩ := mem_entry_iff.mp hentry
    exact hbounds x hx

end PricesAre

/-! ### All variables -/

/-- What settings are in an environment, one field after the other. -/
structure Means (env : Environment) (s : Settings) : Prop where
  admin : ReadAs (adminIn env "") readAddress s.admin
  privateKey : s.privateKey = env "PRIVATE_KEY"
  confirmations : ReadOr (env "CONFIRMATIONS") readInteger 1 s.confirmations
  autoVerify : s.autoVerify = (env "AUTO_VERIFY" == some "true")
  gasLimit : ReadAs (env "GAS_LIMIT") readQuantity s.gasLimit
  maxFee : ReadAs (env "MAX_FEE_GWEI") readGwei s.overrides.maxFee
  priorityFee : ReadAs (env "MAX_PRIORITY_FEE_GWEI") readGwei s.overrides.priorityFee
  prices : PricesAre env NativeToken.priceVariables s.fiat.prices
  usdToIdr : ReadOr (env "DOLLAR_USD_TO_RUPIAH") readFloat FiatSettings.defaultUsdToIdr s.fiat.usdToIdr
  ledgerPath : s.ledgerPath = (env "DEPLOYMENTS_FILE").getD Ledger.defaultPath
  artifactPath : s.artifactPath = (env "X402_ARTIFACT").getD Artifact.defaultPath
  rpcTimeout : ReadOr (env "RPC_TIMEOUT_SECS") readInteger defaultRpcTimeout s.rpcTimeout
  deployTimeout : ReadOr (env "DEPLOY_TIMEOUT_SECS") readInteger defaultDeployTimeout s.deployTimeout
  networks : List.Forall₂ (KnownNetwork.Means env) knownNetworks s.registry.networks

theorem readTrimmed_eq_ok_iff : readTrimmed env = .ok s ↔ Means env s := by
  unfold readTrimmed readVariable
  simp only [Outcome.bind_eq_ok_iff, readOptional_eq_ok_iff, readPrices_eq_ok_iff, Outcome.ofExcept_eq_ok_iff]
  constructor
  · rintro ⟨admin, hadmin, prices, hprices, confirmations, hconfirmations, gasLimit, hgasLimit, maxFee, hmaxFee,
      priorityFee, hpriorityFee, usdToIdr, husdToIdr, rpcTimeout, hrpcTimeout, deployTimeout, hdeployTimeout, registry,
      hregistry, h⟩
    cases h
    exact {
      admin := hadmin
      privateKey := rfl
      confirmations := ⟨confirmations, hconfirmations, rfl⟩
      autoVerify := rfl
      gasLimit := hgasLimit
      maxFee := hmaxFee
      priorityFee := hpriorityFee
      prices := hprices
      usdToIdr := ⟨usdToIdr, husdToIdr, rfl⟩
      ledgerPath := rfl
      artifactPath := rfl
      rpcTimeout := ⟨rpcTimeout, hrpcTimeout, rfl⟩
      deployTimeout := ⟨deployTimeout, hdeployTimeout, rfl⟩
      networks := Registry.ofEnvironment_eq_ok_iff.mp (Outcome.mapError_eq_ok_iff.mp hregistry) }
  · intro h
    obtain ⟨confirmations, hconfirmations, hc⟩ := h.confirmations
    obtain ⟨usdToIdr, husdToIdr, hu⟩ := h.usdToIdr
    obtain ⟨rpcTimeout, hrpcTimeout, hr⟩ := h.rpcTimeout
    obtain ⟨deployTimeout, hdeployTimeout, hd⟩ := h.deployTimeout
    refine ⟨_, h.admin, _, h.prices, _, hconfirmations, _, h.gasLimit, _, h.maxFee, _, h.priorityFee, _, husdToIdr, _,
      hrpcTimeout, _, hdeployTimeout, s.registry, ?_, congrArg Except.ok ?_⟩
    · exact Outcome.mapError_eq_ok_iff.mpr (Registry.ofEnvironment_eq_ok_iff.mpr h.networks)
    · rw [← hc, ← hu, ← hr, ← hd, ← h.privateKey, ← h.autoVerify, ← h.ledgerPath, ← h.artifactPath]

/-! ### Checks -/

theorem isKeyText_iff {text : String} : isKeyText text = true ↔ ∃ digits, Key.Spells text digits := by
  rw [Key.exists_spells_iff]
  simp [isKeyText]

/-- What is checked of settings. -/
structure Checked (s : Settings) : Prop where
  confirmations : s.confirmations ≠ 0
  usdToIdr : s.fiat.usdToIdr.isFinite = true ∧ s.fiat.usdToIdr.isPositive = true
  prices : ∀ price ∈ s.fiat.prices, price.2.isFinite = true ∧ price.2.isNonnegative = true
  rpcTimeout : s.rpcTimeout ≠ 0
  deployTimeout : s.deployTimeout ≠ 0
  privateKey : ∀ text ∈ s.privateKey, ∃ digits, Key.Spells text digits

theorem fault?_eq_none_iff : s.fault? = none ↔ s.Checked := by
  have hcheck {p : Prop} [Decidable p] {fault : SettingsFault} {rest : Option SettingsFault} :
      (if p then some fault else rest) = none ↔ ¬ p ∧ rest = none := by
    split <;> simp [*]
  unfold fault?
  rw [hcheck, hcheck]
  cases hfind : s.fiat.prices.find? fun p => !(p.2.isFinite && p.2.isNonnegative) with
  | some price =>
    have hbad := List.find?_some hfind
    refine iff_of_false (fun h => nomatch h.2.2) fun h => ?_
    simp [h.prices price (List.mem_of_find?_eq_some hfind)] at hbad
  | none =>
    have hprices : ∀ price ∈ s.fiat.prices, price.2.isFinite = true ∧ price.2.isNonnegative = true := by
      simpa using List.find?_eq_none.mp hfind
    have hkey : (∀ text ∈ s.privateKey, ∃ digits, Key.Spells text digits) ↔
        ∀ text ∈ s.privateKey, isKeyText text = true := by
      simp only [isKeyText_iff]
    simp only [hcheck, not_or]
    constructor
    · rintro ⟨hconfirmations, hrate, ⟨hrpc, hdeploy⟩, htext⟩
      refine ⟨hconfirmations, by simpa using hrate, hprices, hrpc, hdeploy, hkey.mpr ?_⟩
      cases hset : s.privateKey <;> simp_all
    · intro h
      refine ⟨h.confirmations, by simpa using h.usdToIdr, ⟨h.rpcTimeout, h.deployTimeout⟩, ?_⟩
      have htext := hkey.mp h.privateKey
      cases hset : s.privateKey <;> simp_all

theorem ofEnvironment_eq_ok_iff : ofEnvironment env = .ok s ↔ Means env.trimmed s ∧ s.Checked := by
  rw [← readTrimmed_eq_ok_iff, ← fault?_eq_none_iff]
  unfold ofEnvironment
  rw [Outcome.bind_eq_ok_iff]
  constructor
  · rintro ⟨settings, hread, h⟩
    split at h
    · cases h
    · cases h
      exact ⟨hread, by assumption⟩
  · rintro ⟨hread, hfault⟩
    refine ⟨s, hread, ?_⟩
    rw [hfault]
    rfl

theorem exists_means_of_isOk (h : (ofEnvironment env).isOk = true) :
    ∃ s, ofEnvironment env = .ok s ∧ Means env.trimmed s := by
  cases hs : ofEnvironment env with
  | error stop =>
    rw [hs] at h
    cases h
  | ok s => exact ⟨s, rfl, (ofEnvironment_eq_ok_iff.mp hs).1⟩

/-! ### Environments that have settings -/

/-- Whether all texts that count in an environment can be read, as values within bounds. -/
structure Admissible (env : Environment) : Prop where
  admin : Fits (adminIn env "") readAddress fun _ => True
  prices : ∀ name ∈ NativeToken.priceVariables,
    Fits (env name) readFloat fun price => price.isFinite = true ∧ price.isNonnegative = true
  confirmations : Fits (env "CONFIRMATIONS") readInteger (· ≠ 0)
  gasLimit : Fits (env "GAS_LIMIT") readQuantity fun _ => True
  maxFee : Fits (env "MAX_FEE_GWEI") readGwei fun _ => True
  priorityFee : Fits (env "MAX_PRIORITY_FEE_GWEI") readGwei fun _ => True
  usdToIdr : Fits (env "DOLLAR_USD_TO_RUPIAH") readFloat fun rate => rate.isFinite = true ∧ rate.isPositive = true
  rpcTimeout : Fits (env "RPC_TIMEOUT_SECS") readInteger (· ≠ 0)
  deployTimeout : Fits (env "DEPLOY_TIMEOUT_SECS") readInteger (· ≠ 0)
  chainIds : ∀ known ∈ knownNetworks, Fits (known.chainText? env) readChainId fun _ => True
  privateKey : ∀ text, env "PRIVATE_KEY" = some text → ∃ digits, Key.Spells text digits

theorem Means.admissible (h : Means env s) (hchecked : s.Checked) : Admissible env where
  admin := h.admin.fits fun _ _ => trivial
  prices := h.prices.fits hchecked.prices
  confirmations := h.confirmations.fits hchecked.confirmations
  gasLimit := h.gasLimit.fits fun _ _ => trivial
  maxFee := h.maxFee.fits fun _ _ => trivial
  priorityFee := h.priorityFee.fits fun _ _ => trivial
  usdToIdr := h.usdToIdr.fits hchecked.usdToIdr
  rpcTimeout := h.rpcTimeout.fits hchecked.rpcTimeout
  deployTimeout := h.deployTimeout.fits hchecked.deployTimeout
  chainIds := KnownNetwork.exists_networks_iff.mp ⟨_, h.networks⟩
  privateKey := fun text htext => hchecked.privateKey text (h.privateKey.trans htext)

theorem Admissible.exists_means (h : Admissible env) : ∃ s, Means env s ∧ s.Checked := by
  obtain ⟨admin, hadmin, -⟩ := h.admin.exists_readAs
  obtain ⟨prices, hprices, hpricesChecked⟩ := PricesAre.exists_of_fits h.prices
  obtain ⟨confirmations, hconfirmations, hconfirmationsChecked⟩ := h.confirmations.exists_readOr 1 (by decide)
  obtain ⟨gasLimit, hgasLimit, -⟩ := h.gasLimit.exists_readAs
  obtain ⟨maxFee, hmaxFee, -⟩ := h.maxFee.exists_readAs
  obtain ⟨priorityFee, hpriorityFee, -⟩ := h.priorityFee.exists_readAs
  obtain ⟨usdToIdr, husdToIdr, husdToIdrChecked⟩ := h.usdToIdr.exists_readOr FiatSettings.defaultUsdToIdr (by decide)
  obtain ⟨rpcTimeout, hrpcTimeout, hrpcTimeoutChecked⟩ := h.rpcTimeout.exists_readOr defaultRpcTimeout (by decide)
  obtain ⟨deployTimeout, hdeployTimeout, hdeployTimeoutChecked⟩ :=
    h.deployTimeout.exists_readOr defaultDeployTimeout (by decide)
  obtain ⟨networks, hnetworks⟩ := KnownNetwork.exists_networks_iff.mpr h.chainIds
  let s : Settings := {
    admin, privateKey := env "PRIVATE_KEY", confirmations, autoVerify := env "AUTO_VERIFY" == some "true", gasLimit,
    overrides := ⟨maxFee, priorityFee⟩, fiat := ⟨prices, usdToIdr⟩,
    ledgerPath := (env "DEPLOYMENTS_FILE").getD Ledger.defaultPath,
    artifactPath := (env "X402_ARTIFACT").getD Artifact.defaultPath, rpcTimeout, deployTimeout, registry := ⟨networks⟩ }
  refine ⟨s, ?_, ?_⟩
  · exact ⟨hadmin, rfl, hconfirmations, rfl, hgasLimit, hmaxFee, hpriorityFee, hprices, husdToIdr, rfl, rfl, hrpcTimeout,
      hdeployTimeout, hnetworks⟩
  · exact ⟨hconfirmationsChecked, husdToIdrChecked, hpricesChecked, hrpcTimeoutChecked, hdeployTimeoutChecked,
      h.privateKey⟩

theorem exists_ofEnvironment_eq_ok_iff : (∃ s, ofEnvironment env = .ok s) ↔ Admissible env.trimmed := by
  simp only [ofEnvironment_eq_ok_iff]
  exact ⟨fun ⟨_, hmeans, hchecked⟩ => hmeans.admissible hchecked, Admissible.exists_means⟩

theorem Means.explorer_eq (h : Means env s) :
    ∀ network ∈ s.registry.networks, network.explorer = Explorer.ofChain? network.chainId := by
  have hall {list : List KnownNetwork} {networks : List Network} (h : List.Forall₂ (KnownNetwork.Means env) list networks) :
      ∀ network ∈ networks, network.explorer = Explorer.ofChain? network.chainId := by
    induction h with
    | nil => exact nofun
    | cons hhead _ ih => exact List.forall_mem_cons.mpr ⟨hhead.explorer, ih⟩
  exact hall h.networks

/-- Settings are what the texts of an environment mean, and they are checked; their prices are those of native tokens, and
    every network has the explorer of its own chain id. There are none only where a text cannot be read or what it says
    is out of bounds. -/
theorem ofEnvironment_validated (env : Environment) :
    (∀ s, ofEnvironment env = .ok s ↔ Means env.trimmed s ∧ s.Checked) ∧
    (∀ s, ofEnvironment env = .ok s →
      (∀ price ∈ s.fiat.prices, price.1 ∈ NativeToken.priceVariables) ∧
      ∀ network ∈ s.registry.networks, network.explorer = Explorer.ofChain? network.chainId) ∧
    ((∃ stop, ofEnvironment env = .error stop) ↔ ¬ Admissible env.trimmed) := by
  refine ⟨fun _ => ofEnvironment_eq_ok_iff, fun s h => ?_, ?_⟩
  · have hmeans := (ofEnvironment_eq_ok_iff.mp h).1
    exact ⟨hmeans.prices.mem_names, hmeans.explorer_eq⟩
  · rw [← exists_ofEnvironment_eq_ok_iff]
    cases ofEnvironment env <;> simp

def paddedEnvironment : Environment :=
  .ofTexts [("CONFIRMATIONS", " 3\t"), ("GAS_LIMIT", "\n"), ("ETH_USD_PRICE", "-0")]

/-- Blanks around a number do not count, a limit of blanks is none, and a price may be minus zero; a rate may not be
    infinite. -/
theorem ofEnvironment_validated_padded :
    (∃ s, ofEnvironment paddedEnvironment = .ok s ∧ s.confirmations = 3 ∧ s.gasLimit = none ∧
      ∀ price ∈ s.fiat.prices, price.1 ∈ NativeToken.priceVariables) ∧
    ∃ stop, ofEnvironment (.ofTexts [("DOLLAR_USD_TO_RUPIAH", "inf")]) = .error stop := by
  constructor
  · have hok : (ofEnvironment paddedEnvironment).isOk = true := by decide +kernel
    obtain ⟨s, hs, hmeans⟩ := exists_means_of_isOk hok
    obtain ⟨-, hnames, -⟩ := ofEnvironment_validated paddedEnvironment
    have hthree : paddedEnvironment.trimmed "CONFIRMATIONS" = some "3" := by decide
    have hblank : paddedEnvironment.trimmed "GAS_LIMIT" = none := by decide
    have hconfirmations := hmeans.confirmations
    have hgasLimit := hmeans.gasLimit
    rw [hthree, readOr_some_iff] at hconfirmations
    rw [hblank] at hgasLimit
    exact ⟨s, hs, (Except.ok.inj hconfirmations).symm, hgasLimit, (hnames s hs).1⟩
  · obtain ⟨-, -, hrefused⟩ := ofEnvironment_validated (.ofTexts [("DOLLAR_USD_TO_RUPIAH", "inf")])
    refine hrefused.mpr fun h => ?_
    obtain ⟨rate, hrate, hfinite, -⟩ := h.usdToIdr "inf" (by decide)
    cases hrate
    exact absurd hfinite (by decide +kernel)

end Settings
end SplitterLaunch
