import SplitterLaunch.Proofs.Numeral
import SplitterLaunch.Proofs.Settings.Reading

/-! What the environment overrides of the networks. Each has two variables of its own and follows nothing else: its chain id
    is the number that one of them names, its explorer that of this chain id, and names and order stay those of the list.
    Only a chain id that is no number of 64 bits can keep the networks from being there. -/

namespace SplitterLaunch
variable {env env' : Environment}

/-- Whether a text names a chain: without the blanks around it, it is a numeral of the chain's id. -/
def NamesChain (text : String) (chainId : UInt64) : Prop :=
  ∃ core, Text.IsCoreOf core text.toList ∧ Numeral.Denotes core chainId.toNat

theorem readChainId_eq_ok_iff {text : String} {chainId : UInt64} :
    readChainId text = .ok chainId ↔ NamesChain text chainId := by
  unfold readChainId Settings.readInteger NamesChain
  rw [Outcome.ofExcept_eq_ok_iff, Outcome.mapError_eq_ok_iff, String.toList_ofList, Numeral.readUInt64_eq_ok_iff]
  constructor
  · exact fun h => ⟨_, Text.trim_eq_iff.mp rfl, h⟩
  · rintro ⟨core, hcore, h⟩
    rwa [Text.trim_eq_iff.mpr hcore]

namespace KnownNetwork
variable {known : KnownNetwork} {network network' : Network} {list : List KnownNetwork} {networks networks' : List Network}

/-- Whether this is the chain of a network in an environment: the one that its variable names, or the one of the list if
    that is not set. -/
def ChainIs (known : KnownNetwork) (env : Environment) (chainId : UInt64) : Prop :=
  match known.chainVariable.bind env with
  | none => chainId = known.chainId
  | some text => NamesChain text chainId

theorem Means.chainIs (h : known.Means env network) : known.ChainIs env network.chainId := by
  have hread := h.chainId
  unfold ChainIs
  unfold chainText? at hread
  cases htext : known.chainVariable.bind env with
  | none =>
    rw [htext, readOr_none_iff] at hread
    exact hread
  | some text =>
    rw [htext, readOr_some_iff, readChainId_eq_ok_iff] at hread
    exact hread

/-- A network depends on its own two variables. -/
theorem Means.eq_of_agreeOn (h : known.Means env network) (h' : known.Means env' network') (hagree : known.AgreeOn env env') :
    network = network' := by
  have heq := hagree.networkIn_eq
  rw [networkIn_eq_ok_iff.mpr h, networkIn_eq_ok_iff.mpr h'] at heq
  exact Except.ok.inj heq

theorem exists_of_getElem? (h : List.Forall₂ (Means env) list networks) {i : Nat} (hknown : list[i]? = some known) :
    ∃ network, networks[i]? = some network ∧ known.Means env network := by
  induction h generalizing i with
  | nil => cases hknown
  | cons hhead _ ih =>
    cases i with
    | zero =>
      cases hknown
      exact ⟨_, rfl, hhead⟩
    | succ i => exact ih hknown

theorem map_names_eq (h : List.Forall₂ (Means env) list networks) :
    (networks.map fun network => (network.name, network.aliases)) = list.map fun known => (known.name, known.aliases) := by
  induction h with
  | nil => rfl
  | cons hhead _ ih => rw [List.map_cons, List.map_cons, ih, hhead.name, hhead.aliases]

end KnownNetwork

namespace Registry
variable {r r' : Registry}

theorem exists_ofEnvironment_eq_error_iff : (∃ fault, ofEnvironment env = .error fault) ↔
    ∃ known ∈ knownNetworks, ∃ name ∈ known.chainVariable, ∃ text, env name = some text ∧
      ∀ chainId, ¬ NamesChain text chainId := by
  have hrefused : (∃ fault, ofEnvironment env = .error fault) ↔ ¬ ∃ r, ofEnvironment env = .ok r := by
    cases ofEnvironment env <;> simp
  have hnetworks : (∃ r, ofEnvironment env = .ok r) ↔
      ∃ networks, List.Forall₂ (KnownNetwork.Means env) knownNetworks networks := by
    simp only [ofEnvironment_eq_ok_iff]
    exact ⟨fun ⟨r, h⟩ => ⟨r.networks, h⟩, fun ⟨networks, h⟩ => ⟨⟨networks⟩, h⟩⟩
  rw [hrefused, hnetworks, KnownNetwork.exists_networks_iff]
  simp only [Fits, KnownNetwork.chainText?, readChainId_eq_ok_iff, Option.bind_eq_some_iff, and_true, not_forall,
    not_exists, exists_prop, Option.mem_def]
  refine exists_congr fun known => and_congr_right fun _ => ?_
  constructor
  · rintro ⟨text, ⟨name, hname, htext⟩, hrefused⟩
    exact ⟨name, hname, text, htext, hrefused⟩
  · rintro ⟨name, hname, text, htext, hrefused⟩
    exact ⟨text, ⟨name, hname, htext⟩, hrefused⟩

/-- Every network is what its own two variables make of it. Environments that agree on them have the same network there,
    whatever they set besides, and all list the same names. There are no networks exactly if a variable for a chain id is
    set to something that is no number of 64 bits. -/
theorem ofEnvironment_local (env : Environment) :
    (∀ r, ofEnvironment env = .ok r → List.Forall₂
      (fun known network => known.Means env network ∧ known.ChainIs env network.chainId) knownNetworks r.networks) ∧
    (∀ env' r r', ofEnvironment env = .ok r → ofEnvironment env' = .ok r' →
      (r.networks.map fun network => (network.name, network.aliases)) =
        r'.networks.map (fun network => (network.name, network.aliases)) ∧
      ∀ (i : Nat) (known : KnownNetwork), knownNetworks[i]? = some known → known.AgreeOn env env' →
        ∃ network, r.networks[i]? = some network ∧ r'.networks[i]? = some network) ∧
    ((∃ fault, ofEnvironment env = .error fault) ↔
      ∃ known ∈ knownNetworks, ∃ name ∈ known.chainVariable, ∃ text, env name = some text ∧
        ∀ chainId, ¬ NamesChain text chainId) := by
  refine ⟨fun r h => ?_, fun env' r r' h h' => ?_, exists_ofEnvironment_eq_error_iff⟩
  · exact (ofEnvironment_eq_ok_iff.mp h).imp fun _ _ hmeans => ⟨hmeans, hmeans.chainIs⟩
  · have hmeans := ofEnvironment_eq_ok_iff.mp h
    have hmeans' := ofEnvironment_eq_ok_iff.mp h'
    refine ⟨(KnownNetwork.map_names_eq hmeans).trans (KnownNetwork.map_names_eq hmeans').symm, fun i known hknown hagree => ?_⟩
    obtain ⟨network, hnetwork, hhere⟩ := KnownNetwork.exists_of_getElem? hmeans hknown
    obtain ⟨network', hnetwork', hthere⟩ := KnownNetwork.exists_of_getElem? hmeans' hknown
    rw [hhere.eq_of_agreeOn hthere hagree] at hnetwork
    exact ⟨network', hnetwork, hnetwork'⟩

/-- Polygon is listed with the chain id of its test network, blanks and a plus sign around it. -/
def chainMoved : List (String × String) := [("POLYGON_CHAIN_ID", " +80002\n")]

/-- The address of another network makes no difference to one that is listed with a chain id of its own, and its explorer
    goes with that. A chain id of 65 bits is none. -/
theorem ofEnvironment_local_moved :
    (∃ r r' network, ofEnvironment (.ofTexts chainMoved) = .ok r ∧
      ofEnvironment (.ofTexts (("AMOY_RPC_HTTP", "https://rpc.example/amoy") :: chainMoved)) = .ok r' ∧
      r.networks[1]? = some network ∧ r'.networks[1]? = some network ∧
      network.chainId = 80002 ∧ network.explorer = some "https://amoy.polygonscan.com") ∧
    ∃ fault, ofEnvironment (.ofTexts [("AMOY_CHAIN_ID", "18446744073709551616")]) = .error fault := by
  constructor
  · obtain ⟨r, hr⟩ : ∃ r, ofEnvironment (.ofTexts chainMoved) = .ok r := ⟨_, rfl⟩
    obtain ⟨r', hr'⟩ : ∃ r',
        ofEnvironment (.ofTexts (("AMOY_RPC_HTTP", "https://rpc.example/amoy") :: chainMoved)) = .ok r' := ⟨_, rfl⟩
    obtain ⟨-, htwo, -⟩ := ofEnvironment_local (.ofTexts chainMoved)
    obtain ⟨network, hnetwork, hnetwork'⟩ := (htwo _ _ _ hr hr').2 1 _ rfl ⟨by decide, by decide⟩
    obtain ⟨here, hhere, hmeans⟩ := KnownNetwork.exists_of_getElem? (ofEnvironment_eq_ok_iff.mp hr) (i := 1) rfl
    cases hnetwork.symm.trans hhere
    have hread : readChainId " +80002\n" = .ok network.chainId := readOr_some_iff.mp hmeans.chainId
    have hchain : network.chainId = 80002 := (Except.ok.inj hread).symm
    have hexplorer := hmeans.explorer
    rw [hchain] at hexplorer
    exact ⟨r, r', network, hr, hr', hnetwork, hnetwork', hchain, hexplorer⟩
  · obtain ⟨-, -, hrefused⟩ := ofEnvironment_local (.ofTexts [("AMOY_CHAIN_ID", "18446744073709551616")])
    refine hrefused.mpr ⟨_, List.mem_cons_self, "AMOY_CHAIN_ID", rfl, "18446744073709551616", rfl, fun chainId h => ?_⟩
    have hread : readChainId "18446744073709551616" = .fail (.integer .tooLarge) := rfl
    rw [readChainId_eq_ok_iff.mpr h] at hread
    cases hread

end Registry
end SplitterLaunch
