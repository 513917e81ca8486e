import Mathlib.Control.Monad.Basic
import SplitterLaunch.Artifact
import SplitterLaunch.Proofs.Codec.FixedBytes

/-! The deployment of an artifact. There is one exactly if the constructor takes one argument and this is an address;
    its data is then the creation code and a word that ends in the address, which can be read back from there. -/

namespace SplitterLaunch

/-! ### The name of the type -/

namespace AbiType

theorem ofWord?_eq_address_iff {name : List Char} : ofWord? name = some .address ↔ name = "address".toList := by
  unfold ofWord?
  constructor
  · intro h
    by_cases hword : String.ofList name = "address"
    · rw [← hword, String.toList_ofList]
    · -- every other word stands for another type
      simp only [if_neg hword] at h
      repeat' split at h
      all_goals simp at h
  · rintro rfl
    rfl

/-- Brackets at the end make another type, so only one name is that of an address. -/
theorem readWithin_eq_address_iff {fuel : Nat} {name : List Char} :
    readWithin fuel name = .ok .address ↔ name = "address".toList := by
  have hword : AbiReading.ofOption (ofWord? name) = .ok .address ↔ name = "address".toList := by
    rw [← ofWord?_eq_address_iff]
    cases ofWord? name <;> simp [AbiReading.ofOption, AbiReading.malformed, Outcome.fail]
  cases fuel with
  | zero => exact hword
  | succ fuel =>
    unfold readWithin
    split
    · rename_i hlast
      refine iff_of_false (fun h => ?_) (by rintro rfl; cases hlast)
      dsimp only at h
      -- the brackets hold a size or nothing
      split at h
      all_goals
        obtain ⟨size, -, h⟩ := Outcome.bind_eq_ok_iff.mp h
        split at h
        · cases h
        · obtain ⟨digits, -, h⟩ := Outcome.bind_eq_ok_iff.mp h
          obtain ⟨item, -, h⟩ := Outcome.bind_eq_ok_iff.mp h
          cases size <;> cases h
    · rename_i hlast
      refine iff_of_false (fun h => ?_) (by rintro rfl; cases hlast)
      split at h
      · cases h
      · obtain ⟨_, -, h⟩ := Outcome.bind_eq_ok_iff.mp h
        cases h
    · exact hword

theorem read_eq_address_iff {name : String} : read name = .ok .address ↔ name = "address" := by
  rw [read, readWithin_eq_address_iff, String.toList_inj]

end AbiType

namespace Artifact
variable {a : Artifact} {admin : Address}

/-! ### Building it -/

/-- Whether the constructor takes a single argument, an address. -/
def TakesAddress (a : Artifact) : Prop := ∃ input, a.abi.constructor = some [input] ∧ input.type = .address

theorem takesAddress_iff : a.TakesAddress ↔
    ∃ inputs, a.abi.constructor = some inputs ∧ inputs.map (·.type) = [.address] := by
  constructor
  · rintro ⟨input, hinputs, htype⟩
    exact ⟨[input], hinputs, by rw [List.map_singleton, htype]⟩
  · rintro ⟨inputs, hinputs, htypes⟩
    obtain ⟨input, rfl, htype⟩ := List.map_eq_singleton_iff.mp htypes
    exact ⟨input, hinputs, htype⟩

theorem deploymentData_eq_ok_iff {data : List UInt8} :
    a.deploymentData admin = .ok data ↔ a.TakesAddress ∧ data = a.creationCode ++ encodeAddress admin := by
  rw [takesAddress_iff]
  unfold deploymentData
  cases a.abi.constructor with
  | none => simp
  | some inputs =>
    dsimp only
    split <;> simp_all [eq_comm]

theorem deployment_eq_ok_iff {tx : Transaction} : a.deployment admin = .ok tx ↔ a.TakesAddress ∧
    tx = { Transaction.blank (.feeMarket none none) with data := some (a.creationCode ++ encodeAddress admin) } := by
  unfold deployment
  cases hdata : a.deploymentData admin with
  | error fault =>
    refine iff_of_false nofun fun ⟨htakes, _⟩ => ?_
    cases hdata.symm.trans (deploymentData_eq_ok_iff.mpr ⟨htakes, rfl⟩)
  | ok data =>
    obtain ⟨htakes, rfl⟩ := deploymentData_eq_ok_iff.mp hdata
    simp only [Except.ok.injEq, htakes, true_and]
    exact eq_comm

/-- Where there is no deployment, the interface is told to be at fault: it has no constructor, or one with other
    arguments. -/
theorem exists_deployment_eq_error (h : ¬ a.TakesAddress) :
    ∃ fault, a.deployment admin = .error (.encoding fault) ∧ (fault = .noConstructor ↔ a.abi.constructor = none) := by
  rw [takesAddress_iff] at h
  unfold deployment deploymentData
  cases hinputs : a.abi.constructor with
  | none => exact ⟨.noConstructor, rfl, by simp⟩
  | some inputs =>
    have htypes : inputs.map (·.type) ≠ [.address] := fun htypes => h ⟨inputs, hinputs, htypes⟩
    exact ⟨.wrongArguments, by simp only [if_neg htypes], by simp⟩

/-! ### Its data -/

/-- The address that data ends in. -/
def lastAddress (data : List UInt8) : Address := .fit 20 (data.drop (data.length - 20))

theorem lastAddress_append (before : List UInt8) (admin : Address) : lastAddress (before ++ admin.bytes) = admin := by
  have hlength : (before ++ admin.bytes).length - 20 = before.length := by
    rw [List.length_append, admin.length_bytes, Nat.add_sub_cancel]
  rw [lastAddress, hlength, List.drop_left, FixedBytes.fit_bytes]

/-- A deployment before anything of it is settled: for fee markets, without a recipient, and with the creation code and
    a word for the administrator as its data. -/
structure Creates (a : Artifact) (admin : Address) (tx : Transaction) : Prop where
  pricing : tx.pricing = .feeMarket none none
  recipient : tx.recipient = none
  gas : tx.gas = none
  nonce : tx.nonce = none
  chainId : tx.chainId = none
  data : tx.data = some (a.creationCode ++ List.replicate 12 0 ++ admin.bytes)

theorem creates_of_deployment {tx : Transaction} (h : a.deployment admin = .ok tx) : a.Creates admin tx := by
  obtain ⟨-, rfl⟩ := deployment_eq_ok_iff.mp h
  refine ⟨rfl, rfl, rfl, rfl, rfl, ?_⟩
  rw [List.append_assoc]
  rfl

namespace Creates
variable {tx : Transaction}

theorem length (h : a.Creates admin tx) : ∀ data ∈ tx.data, data.length = a.creationCode.length + 32 := by
  intro data hdata
  obtain rfl := Option.some.inj (h.data.symm.trans hdata)
  rw [List.length_append, List.length_append, List.length_replicate, admin.length_bytes]

theorem lastAddress_eq (h : a.Creates admin tx) : ∀ data ∈ tx.data, lastAddress data = admin := by
  intro data hdata
  obtain rfl := Option.some.inj (h.data.symm.trans hdata)
  exact lastAddress_append _ admin

/-- Data tells who administers the contract, whatever code stands before. -/
theorem admin_eq {a' : Artifact} {admin' : Address} {tx' : Transaction} (h : a.Creates admin tx)
    (h' : a'.Creates admin' tx') (hdata : tx'.data = tx.data) : admin' = admin := by
  rw [← h'.lastAddress_eq _ (hdata.trans h.data), lastAddress_append]

end Creates

/-! ### What is read -/

theorem creationCode_ne_nil {text : String} (h : read text = .ok a) : a.creationCode ≠ [] := by
  obtain ⟨artifact, -, h⟩ := Outcome.bind_eq_ok_iff.mp h
  split at h
  · cases h
  · split at h
    · cases h
    · rename_i hcode
      cases h
      exact fun hnil => hcode (List.isEmpty_iff.mpr hnil)

/-- An artifact that can be read has code, and it has a deployment exactly if its constructor takes one address, by that
    name of the type and no other; otherwise encoding is what fails. The deployment holds the code, twelve zeros and the
    administrator, and nothing else is settled; from its data the administrator can be told. -/
theorem deployment_of_read {text : String} (h : read text = .ok a) (admin : Address) :
    a.creationCode ≠ [] ∧
    ((∃ tx, a.deployment admin = .ok tx) ↔ a.TakesAddress) ∧
    (¬ a.TakesAddress →
      ∃ fault, a.deployment admin = .error (.encoding fault) ∧ (fault = .noConstructor ↔ a.abi.constructor = none)) ∧
    (∀ tx, a.deployment admin = .ok tx → a.Creates admin tx ∧
      (∀ data ∈ tx.data, data.length = a.creationCode.length + 32 ∧ lastAddress data = admin) ∧
      ∀ admin' tx', a.deployment admin' = .ok tx' → tx'.data = tx.data → admin' = admin) ∧
    ∀ name, AbiType.read name = .ok .address ↔ name = "address" := by
  refine ⟨creationCode_ne_nil h, ⟨?_, ?_⟩, exists_deployment_eq_error, ?_, fun _ => AbiType.read_eq_address_iff⟩
  · rintro ⟨tx, htx⟩
    exact (deployment_eq_ok_iff.mp htx).1
  · exact fun htakes => ⟨_, deployment_eq_ok_iff.mpr ⟨htakes, rfl⟩⟩
  · intro tx htx
    have hcreates := creates_of_deployment htx
    refine ⟨hcreates, fun data hdata => ⟨hcreates.length data hdata, hcreates.lastAddress_eq data hdata⟩, ?_⟩
    exact fun admin' tx' htx' hdata => hcreates.admin_eq (creates_of_deployment htx') hdata

/-- The text of an artifact whose interface has constructors that take one argument each, of these types. -/
def textOf (types : List String) : String :=
  let entry := fun type => "\x7b\"type\":\"constructor\",\"inputs\":[\x7b\"name\":\"a\",\"type\":\"" ++ type ++ "\"\x7d]\x7d"
  "\x7b\"bytecode\":\"0X6080\",\"abi\":[" ++ ",".intercalate (types.map entry) ++ "]\x7d"

/-- Of two constructors the later one counts: one that takes an address makes up for one that takes a list of them, and
    the other way round there is no deployment. -/
theorem deployment_of_read_overridden :
    (∃ a tx, read (textOf ["address[]", "address"]) = .ok a ∧ a.deployment .zero = .ok tx ∧ a.Creates .zero tx) ∧
    ∃ a fault, read (textOf ["address", "address[]"]) = .ok a ∧ a.deployment .zero = .error (.encoding fault) := by
  constructor
  · have hread : read (textOf ["address[]", "address"]) = .ok ⟨none, ⟨some [⟨"a", .address⟩]⟩, [0x60, 0x80], []⟩ := by
      decide +kernel
    obtain ⟨-, hbuilt, -, hcreates, -⟩ := deployment_of_read hread .zero
    obtain ⟨tx, htx⟩ := hbuilt.mpr ⟨⟨"a", .address⟩, rfl, rfl⟩
    exact ⟨_, tx, hread, htx, (hcreates tx htx).1⟩
  · have hread : read (textOf ["address", "address[]"]) =
        .ok ⟨none, ⟨some [⟨"a", .array .address⟩]⟩, [0x60, 0x80], []⟩ := by
      decide +kernel
    obtain ⟨-, -, hfault, -⟩ := deployment_of_read hread .zero
    obtain ⟨fault, hfault, -⟩ := hfault (by rintro ⟨input, hinputs, htype⟩; cases hinputs; cases htype)
    exact ⟨_, fault, hread, hfault⟩

end Artifact
end SplitterLaunch
