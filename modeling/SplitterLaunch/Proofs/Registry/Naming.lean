import Mathlib.Data.List.Nodup
import SplitterLaunch.Proofs.Letters
import SplitterLaunch.Proofs.Registry.Overrides

/-! Which networks are selected by name. The names of the list differ from each other in more than the case of their letters,
    and no environment changes them, so that at most one network answers to a text, wherever it stands. -/

namespace SplitterLaunch

/-! ### Networks that answer -/

namespace Network
variable {network : Network} {s t : String}

/-- Whether a text is the name or an alias of a network, but for the case of letters. -/
def Bears (network : Network) (text : String) : Prop := ∃ name ∈ network.allNames, Text.SameButCase name text

theorem folded_eq_iff : folded s = folded t ↔ Text.SameButCase s t := Text.map_toLower_eq_iff

theorem answersTo_iff : network.answersTo t = true ↔ network.Bears t := by
  simp only [answersTo, Bears, List.any_eq_true, beq_iff_eq, folded_eq_iff]

theorem bears_congr (h : Text.SameButCase s t) : network.Bears s ↔ network.Bears t := by
  rw [← answersTo_iff, ← answersTo_iff, answersTo, folded_eq_iff.mpr h, answersTo]

end Network

/-- Where at most one element has a property, it is found wherever it stands. -/
theorem find?_eq_some_iff_of_pairwise {α : Type} {p : α → Bool} {xs : List α} {a : α}
    (h : xs.Pairwise fun x y => ¬ (p x = true ∧ p y = true)) : xs.find? p = some a ↔ a ∈ xs ∧ p a = true := by
  induction xs with
  | nil => simp
  | cons x xs ih =>
    obtain ⟨hfirst, hrest⟩ := List.pairwise_cons.mp h
    rw [List.mem_cons]
    cases hx : p x with
    | true =>
      rw [List.find?_cons_of_pos hx]
      constructor
      · rintro ⟨⟩
        exact ⟨.inl rfl, hx⟩
      · rintro ⟨rfl | ha, hp⟩
        · rfl
        · exact absurd ⟨hx, hp⟩ (hfirst a ha)
    | false =>
      rw [List.find?_cons_of_neg (by simp [hx]), ih hrest]
      refine ⟨fun ⟨ha, hp⟩ => ⟨.inr ha, hp⟩, ?_⟩
      rintro ⟨rfl | ha, hp⟩
      · rw [hx] at hp
        cases hp
      · exact ⟨ha, hp⟩

namespace Registry
variable {env : Environment} {r : Registry} {text : String} {name : Option String} {network : Network}

theorem resolve_eq_ok_iff : r.resolve name = .ok network ↔
    r.networks.find? (·.answersTo (name.getD defaultName)) = some network := by
  unfold resolve
  cases hfound : r.networks.find? (·.answersTo (name.getD defaultName)) <;> simp [hfound]

theorem resolve_eq_error_iff {fault : UnknownNetwork} : r.resolve name = .error fault ↔
    fault = ⟨name.getD defaultName, r.names⟩ ∧ ∀ network ∈ r.networks, ¬ network.Bears (name.getD defaultName) := by
  simp only [← Network.answersTo_iff]
  unfold resolve
  cases hfound : r.networks.find? (·.answersTo (name.getD defaultName)) with
  | none =>
    have hnone := List.find?_eq_none.mp hfound
    simp only [hfound, Except.error.injEq, eq_comm (b := fault)]
    exact ⟨fun h => ⟨h, hnone⟩, fun h => h.1⟩
  | some network =>
    have hanswers : network.answersTo (name.getD defaultName) = true :=
      List.find?_some (p := fun network : Network => network.answersTo (name.getD defaultName)) hfound
    simp only [hfound, reduceCtorEq, false_iff, not_and]
    exact fun _ h => h network (List.mem_of_find?_eq_some hfound) hanswers

/-- Whether no text is a name of two networks. -/
def Distinct (networks : List Network) : Prop :=
  networks.Pairwise fun network network' => ∀ text, ¬ (network.Bears text ∧ network'.Bears text)

theorem Distinct.resolve_eq_ok_iff (h : Distinct r.networks) : r.resolve name = .ok network ↔
    network ∈ r.networks ∧ network.Bears (name.getD defaultName) := by
  rw [Registry.resolve_eq_ok_iff, find?_eq_some_iff_of_pairwise, Network.answersTo_iff]
  refine h.imp fun hdistinct => ?_
  rw [Network.answersTo_iff, Network.answersTo_iff]
  exact hdistinct _

theorem Distinct.perm {networks networks' : List Network} (h : Distinct networks) (hperm : networks'.Perm networks) :
    Distinct networks' :=
  (hperm.pairwise_iff fun hdistinct text hboth => hdistinct text hboth.symm).mpr h

/-! ### The names of the list -/

/-- The names of a network, a text for each, without the case of their letters. -/
def foldedNames (names : String × List String) : List (List Char) := (names.1 :: names.2).map Network.folded

theorem nodup_foldedNames :
    ((knownNetworks.map fun known => (known.name, known.aliases)).flatMap foldedNames).Nodup := by decide

theorem isAlpha_of_mem_names : ∀ names ∈ knownNetworks.map fun known => (known.name, known.aliases),
    ∀ name ∈ names.1 :: names.2, ∀ c ∈ name.toList, c.isAlpha = true := by
  have hall : (knownNetworks.map fun known => (known.name, known.aliases)).all (fun names =>
      (names.1 :: names.2).all fun name => name.toList.all Char.isAlpha) = true := by decide
  simpa only [List.all_eq_true] using hall

theorem map_names_ofEnvironment (h : ofEnvironment env = .ok r) :
    (r.networks.map fun network => (network.name, network.aliases)) =
      knownNetworks.map fun known => (known.name, known.aliases) :=
  KnownNetwork.map_names_eq (ofEnvironment_eq_ok_iff.mp h)

theorem names_ofEnvironment (h : ofEnvironment env = .ok r) : r.names = knownNetworks.map (·.name) := by
  have hnames := congrArg (List.map Prod.fst) (map_names_ofEnvironment h)
  rwa [List.map_map, List.map_map] at hnames

theorem distinct_ofEnvironment (h : ofEnvironment env = .ok r) : Distinct r.networks := by
  have hnodup := nodup_foldedNames
  rw [← map_names_ofEnvironment h, List.flatMap_map, List.nodup_flatMap] at hnodup
  refine hnodup.2.imp fun hdisjoint text hboth => ?_
  obtain ⟨⟨name, hname, hsame⟩, name', hname', hsame'⟩ := hboth
  refine hdisjoint (List.mem_map_of_mem hname) ?_
  rw [Network.folded_eq_iff.mpr hsame, ← Network.folded_eq_iff.mpr hsame']
  exact List.mem_map_of_mem hname'

theorem isAlpha_of_bears (h : ofEnvironment env = .ok r) (hmem : network ∈ r.networks) (hbears : network.Bears text) :
    ∀ c ∈ text.toList, c.isAlpha = true := by
  obtain ⟨name, hname, hsame⟩ := hbears
  have hnames : (network.name, network.aliases) ∈ knownNetworks.map fun known => (known.name, known.aliases) :=
    map_names_ofEnvironment h ▸ List.mem_map_of_mem hmem
  exact hsame.isAlpha (isAlpha_of_mem_names _ hnames name hname)

/-! ### Selecting -/

/-- How names select networks. -/
structure Unambiguous (r : Registry) : Prop where
  distinct : Distinct r.networks
  /-- The order of the networks does not count. -/
  unordered : ∀ networks : List Network, networks.Perm r.networks → ∀ name network,
    (mk networks).resolve name = .ok network ↔ r.resolve name = .ok network
  /-- The case of letters does not count. -/
  caseless : ∀ s t, Text.SameButCase s t → ∀ network,
    r.resolve (some s) = .ok network ↔ r.resolve (some t) = .ok network
  selected : ∀ text network, r.resolve (some text) = .ok network ↔ network ∈ r.networks ∧ network.Bears text
  refused : ∀ text fault, r.resolve (some text) = .error fault ↔
    fault = ⟨text, r.names⟩ ∧ ∀ network ∈ r.networks, ¬ network.Bears text
  reported : ∀ text fault, r.resolve (some text) = .error fault → (UsageFault.unknownNetwork fault).report =
    "Configuration error: unknown network " ++ Text.quoted text ++
      ", expected one of: polygonAmoyTestnet, polygonMainnet, megaTestnet, hardhat"
  /-- A text that selects a network holds nothing but letters of ASCII. -/
  letters : ∀ text network, r.resolve (some text) = .ok network → ∀ c ∈ text.toList, c.isAlpha = true
  unnamed : ∃ network ∈ r.networks, r.resolve none = .ok network ∧ network.name = "polygonAmoyTestnet"

/-- In every environment each name selects one network, in letters of either case, wherever the network stands and whatever
    chain it is on. Nothing but the names and aliases selects one, and without a name it is Polygon's test network. -/
theorem ofEnvironment_unambiguous (h : ofEnvironment env = .ok r) : r.Unambiguous := by
  have hdistinct := distinct_ofEnvironment h
  refine ⟨hdistinct, fun networks hperm name network => ?_, fun s t hst network => ?_, fun text network => ?_,
    fun text fault => resolve_eq_error_iff, fun text fault hresolve => ?_, fun text network hresolve => ?_, ?_⟩
  · rw [(hdistinct.perm hperm).resolve_eq_ok_iff, hdistinct.resolve_eq_ok_iff, hperm.mem_iff]
  · rw [hdistinct.resolve_eq_ok_iff, hdistinct.resolve_eq_ok_iff]
    exact and_congr_right fun _ => Network.bears_congr hst
  · exact hdistinct.resolve_eq_ok_iff
  · obtain ⟨rfl, -⟩ := resolve_eq_error_iff.mp hresolve
    have hlisted : ", ".intercalate r.names = "polygonAmoyTestnet, polygonMainnet, megaTestnet, hardhat" := by
      rw [names_ofEnvironment h]
      rfl
    show "Configuration error: " ++ ("unknown network " ++ Text.quoted text ++ ", expected one of: " ++
      ", ".intercalate r.names) = _
    rw [hlisted, String.append_assoc, String.append_assoc, ← String.append_assoc]
    rfl
  · obtain ⟨hmem, hbears⟩ := hdistinct.resolve_eq_ok_iff.mp hresolve
    exact isAlpha_of_bears h hmem hbears
  · obtain ⟨network, hnetwork, hmeans⟩ := KnownNetwork.exists_of_getElem? (ofEnvironment_eq_ok_iff.mp h) (i := 0) rfl
    have hmem := List.mem_of_getElem? hnetwork
    have hname : network.name = defaultName := hmeans.name
    have hbears : network.Bears defaultName := ⟨network.name, List.mem_cons_self, hname ▸ Text.SameButCase.refl _⟩
    exact ⟨network, hmem, hdistinct.resolve_eq_ok_iff.mpr ⟨hmem, hbears⟩, hname⟩

/-- An environment that puts both networks of Polygon on one chain. -/
def oneChain : Environment := .ofTexts [("AMOY_CHAIN_ID", "137"), ("POLYGON_CHAIN_ID", "137")]

/-- Networks on one chain are still told apart; a blank before a name, and a letter that looks like one of it, are not
    passed over. -/
theorem ofEnvironment_unambiguous_oneChain : ∃ r network, ofEnvironment oneChain = .ok r ∧
    r.resolve none = .ok network ∧ network.name = "polygonAmoyTestnet" ∧
    r.resolve (some "POLYGONAMOYTESTNET") = .ok network ∧
    (∃ fault, r.resolve (some " amoy") = .error fault) ∧ ∃ fault, r.resolve (some "\u0430moy") = .error fault := by
  obtain ⟨r, hr⟩ : ∃ r, ofEnvironment oneChain = .ok r := ⟨_, rfl⟩
  have h := ofEnvironment_unambiguous hr
  obtain ⟨network, hmem, hunnamed, hname⟩ := h.unnamed
  have hsame : Text.SameButCase "polygonAmoyTestnet" "POLYGONAMOYTESTNET" := Network.folded_eq_iff.mp (by decide)
  have hbears : network.Bears "POLYGONAMOYTESTNET" := ⟨network.name, List.mem_cons_self, hname ▸ hsame⟩
  have hrefused {text : String} {c : Char} (hc : c ∈ text.toList) (hletter : c.isAlpha = false) :
      ∃ fault, r.resolve (some text) = .error fault := by
    cases hresolve : r.resolve (some text) with
    | error fault => exact ⟨fault, rfl⟩
    | ok network => exact absurd (h.letters text network hresolve c hc) (by simp [hletter])
  refine ⟨r, network, hr, hunnamed, hname, (h.selected _ _).mpr ⟨hmem, hbears⟩, ?_, ?_⟩
  · exact hrefused (c := ' ') (by decide) (by decide)
  · exact hrefused (c := '\u0430') (by decide) (by decide)

end Registry
end SplitterLaunch
