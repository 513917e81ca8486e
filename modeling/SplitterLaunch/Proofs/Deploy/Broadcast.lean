import SplitterLaunch.Program
import SplitterLaunch.Proofs.Deploy.Command
import SplitterLaunch.Proofs.Settings.Reading

/-! What the deploy command broadcasts: at most one transaction, nothing at all if something that it takes is
    missing or invalid or the node tells no chain id, and nothing but the artifact's deployment. -/

namespace SplitterLaunch

/-! ### What the settings must have -/

namespace Settings
variable {s : Settings}

/-- Settings are read from an environment only if its administrator is an address. -/
theorem ofEnvironment_of_invalidAdmin {env : Environment} {text : String} {fault : Address.Fault}
    (hset : adminIn env.trimmed "" = some text) (h : Address.read text = .error fault) :
    ∃ stop, ofEnvironment env = .error stop := by
  cases hs : ofEnvironment env with
  | error stop => exact ⟨stop, rfl⟩
  | ok s =>
    obtain ⟨admin, hadmin, -⟩ := (exists_ofEnvironment_eq_ok_iff.mp ⟨s, hs⟩).admin text hset
    rw [readAddress, h] at hadmin
    cases hadmin

end Settings

namespace Deploy
variable {settings : Settings} {network : Network} {w w' : World} {result : Except (Stop Failure) Unit}

/-- What a run broadcasts. Behind each broadcast the command was prepared and the node told the chain id; the
    transaction is the deployment, signed with the key and for that chain. -/
structure Broadcasts (settings : Settings) (network : Network) (files : Files) (sent : List Exchange) : Prop where
  once : sent.countP (·.request.isBroadcast) ≤ 1
  backed : ∀ tx signer reply, ⟨.broadcast tx signer, reply⟩ ∈ sent → ∃ (p : Preparation) (chainId : UInt64),
    p.IsOf settings network files ∧ TellsChain chainId sent ∧ signer = p.key.address ∧
      tx.Deploys p.artifact p.admin settings.gasLimit ∧ tx.chainId = some chainId

theorem broadcasts_of_allOf {files : Files} {sent : List Exchange} {stage : Stage} (h : AllOf stage sent)
    (hstage : stage ≠ .broadcasting) : Broadcasts settings network files sent := by
  constructor
  · rw [List.countP_eq_zero.mpr fun e he => ?_]
    · exact Nat.zero_le 1
    · rw [Request.isBroadcast_iff, h e he]
      exact hstage
  · intro tx signer reply he
    exact absurd (h _ he).symm hstage

/-- The requests for the chain id and for the code add no broadcast to those of the deployment. -/
theorem Opened.broadcasts {p : Preparation} {chainId : UInt64} {first sent checks : List Exchange}
    (hopen : Opened settings network w p chainId first)
    (hsubmits : Deployment.Submits ⟨p.key, chainId⟩ p.artifact (p.request settings) sent)
    (hchecks : AllOf .checking checks) :
    Broadcasts settings network w.disk.files (checks ++ (sent ++ first)) := by
  have hfirst : AllOf .identifying first := hopen.identified.only.allOf
  have htells := hopen.tells hsubmits.timed hchecks
  constructor
  · have hno {stage : Stage} {sent : List Exchange} (h : AllOf stage sent) (hstage : stage ≠ .broadcasting) :
        sent.countP (·.request.isBroadcast) = 0 :=
      List.countP_eq_zero.mpr fun e he => by rwa [Request.isBroadcast_iff, h e he]
    rw [List.countP_append, List.countP_append, hno hchecks nofun, hno hfirst nofun]
    simpa using hsubmits.once
  · intro tx signer reply he
    rcases List.mem_append.mp he with he | he
    · exact absurd (hchecks _ he) nofun
    rcases List.mem_append.mp he with he | he
    · obtain ⟨_, heq, hdeploys, hchain⟩ := hsubmits.broadcast _ he rfl
      cases heq
      exact ⟨p, chainId, hopen.prepared, htells, rfl, hdeploys, hchain⟩
    · exact absurd (hfirst _ he) nofun

theorem Ends.broadcasts (h : Ends settings network w result w') :
    ∃ sent, w'.exchanges = sent ++ w.exchanges ∧ Broadcasts settings network w.disk.files sent := by
  cases h with
  | unprepared stop hno => exact ⟨[], rfl, broadcasts_of_allOf (allOf_nil : AllOf .checking []) nofun⟩
  | unidentified p first stop hp honly hno => exact ⟨first, rfl, broadcasts_of_allOf honly.allOf nofun⟩
  | undeployed p chainId first sent stop hopen hran => exact ⟨_, rfl, hopen.broadcasts hran.toSubmits allOf_nil⟩
  | unrecorded p chainId first sent d fault disk hopen hran hupsert =>
    exact ⟨_, rfl, hopen.broadcasts hran.toSubmits allOf_nil⟩
  | recorded p chainId first sent checks d l disk closing hopen hran hupsert hchecks hclosing =>
    exact ⟨_, rfl, hopen.broadcasts hran.toSubmits hchecks⟩

/-- What keeps the command from broadcasting: a missing or invalid administrator or key, an artifact that
    cannot be read or encoded, an invalid URL, or a node that answers no chain id of 64 bits. -/
inductive Barred (settings : Settings) (network : Network) (files : Files) (sent : List Exchange) : Prop where
  | noAdmin (h : settings.admin = none)
  | noKey (h : settings.privateKey = none)
  | invalidKey (text : String) (fault : UsageFault) (hset : settings.privateKey = some text)
    (h : Settings.readKey text = .error fault)
  | noArtifact (stop : Stop ArtifactFault) (h : Artifact.load files settings.artifactPath = .error stop)
  | unencodable (artifact : Artifact) (admin : Address) (fault : EncodingFault)
    (hload : Artifact.load files settings.artifactPath = .ok artifact) (hadmin : settings.admin = some admin)
    (h : artifact.deploymentData admin = .error fault)
  | invalidUrl (fault : Url.Fault) (h : Url.read network.rpcUrl = .error fault)
  | noChainId (h : ∀ id, Answered .chainId Connection.decodeQuantity id sent → UInt64.size ≤ id.toNat)

/-- Nothing is broadcast where something bars it. -/
theorem Broadcasts.not_barred {files : Files} {sent : List Exchange} (h : Broadcasts settings network files sent)
    {tx : Transaction} {signer : Address} {reply : Reply} (he : ⟨.broadcast tx signer, reply⟩ ∈ sent) :
    ¬ Barred settings network files sent := by
  obtain ⟨p, chainId, hp, ⟨id, hid, hchain⟩, -, hdeploys, -⟩ := h.backed tx signer reply he
  have hadmin := Settings.requireAdmin_eq_ok_iff.mp hp.admin
  obtain ⟨text, htext, hkey⟩ := Settings.requireKey_eq_ok_iff.mp hp.key
  intro hbarred
  cases hbarred with
  | noAdmin h => cases h.symm.trans hadmin
  | noKey h => cases h.symm.trans htext
  | invalidKey text' fault hset h =>
    cases hset.symm.trans htext
    cases h.symm.trans hkey
  | noArtifact stop h => cases h.symm.trans hp.artifact
  | unencodable artifact admin fault hload hset h =>
    cases hload.symm.trans hp.artifact
    cases hset.symm.trans hadmin
    obtain ⟨data, hdata⟩ := hdeploys.encodable
    cases h.symm.trans hdata
  | invalidUrl fault h =>
    have hconnection := hp.connection
    unfold Settings.connect Connection.open? at hconnection
    rw [h] at hconnection
    cases hconnection
  | noChainId h =>
    have hsize := h id ((hid id).mpr rfl)
    have := chainId.toNat_lt
    exact absurd hsize (by rw [hchain]; exact Nat.not_le.mpr this)

/-- A run broadcasts once at most, not at all if it is barred, and nothing but the creation of the artifact's contract,
    with the administrator as the one argument and the gas limit that is set. An administrator that is no address
    ends the program before any run. -/
theorem run_broadcasts (settings : Settings) (network : Network) (w : World) :
    ∃ sent, ((run settings network).run w).2.exchanges = sent ++ w.exchanges ∧
      sent.countP (·.request.isBroadcast) ≤ 1 ∧
      (Barred settings network w.disk.files sent → sent.countP (·.request.isBroadcast) = 0) ∧
      (∀ tx signer reply, ⟨.broadcast tx signer, reply⟩ ∈ sent → ∃ admin key artifact,
        settings.admin = some admin ∧ settings.requireKey = .ok key ∧ signer = key.address ∧
        Artifact.load w.disk.files settings.artifactPath = .ok artifact ∧
        tx.recipient = none ∧ tx.data = some (artifact.creationCode ++ List.replicate 12 0 ++ admin.bytes) ∧
        ∀ limit, settings.gasLimit = some limit → tx.gas = some limit) ∧
      ∀ (env : Environment) (name : Option String) (text : String) (fault : Address.Fault),
        Settings.adminIn env.trimmed "" = some text → Address.read text = .error fault →
        (Program.invoke env ⟨name, .deploy⟩ w).2 = w := by
  obtain ⟨sent, hsent, hbroadcasts⟩ := (run_ends settings network w).broadcasts
  refine ⟨sent, hsent, hbroadcasts.once, fun hbarred => ?_, ?_, ?_⟩
  · rw [List.countP_eq_zero]
    rintro ⟨request, reply⟩ he hbroadcast
    cases request with
    | broadcast tx signer => exact hbroadcasts.not_barred he hbarred
    | _ => cases hbroadcast
  · intro tx signer reply he
    obtain ⟨p, chainId, hp, -, hsigner, hdeploys, -⟩ := hbroadcasts.backed tx signer reply he
    exact ⟨p.admin, p.key, p.artifact, Settings.requireAdmin_eq_ok_iff.mp hp.admin, hp.key, hsigner, hp.artifact,
      hdeploys.recipient, hdeploys.data, hdeploys.gas⟩
  · intro env name text fault hset hread
    obtain ⟨stop, hstop⟩ := Settings.ofEnvironment_of_invalidAdmin hset hread
    unfold Program.invoke
    rw [hstop]
    cases stop <;> rfl

end Deploy
end SplitterLaunch
