import SplitterLaunch.Command.Deploy
import SplitterLaunch.Proofs.Deploy.Landing

/-! How the deploy command ends. It stops before it asks anything, or for want of a chain id, or of a landing,
    or because the deployment cannot be recorded; else it succeeds, whatever the check of the code comes to.
    The five ends tell all that the command asked, printed and changed on the disk. -/

namespace SplitterLaunch

/-! ### What the command starts with -/

/-- What a deployment takes from the settings, the network and the artifact's file. -/
structure Preparation where
  admin : Address
  key : Key
  artifact : Artifact
  connection : Connection

/-- Whether all that a deployment takes is there and valid. -/
structure Preparation.IsOf (p : Preparation) (settings : Settings) (network : Network) (files : Files) : Prop where
  admin : settings.requireAdmin = .ok p.admin
  key : settings.requireKey = .ok p.key
  artifact : Artifact.load files settings.artifactPath = .ok p.artifact
  connection : settings.connect network = .ok p.connection

theorem Preparation.IsOf.unique {p p' : Preparation} {settings : Settings} {network : Network} {files : Files}
    (h : p.IsOf settings network files) (h' : p'.IsOf settings network files) : p = p' := by
  obtain ⟨admin, key, artifact, connection⟩ := p
  cases h.admin.symm.trans h'.admin
  cases h.key.symm.trans h'.key
  cases h.artifact.symm.trans h'.artifact
  cases h.connection.symm.trans h'.connection
  rfl

def Preparation.request (p : Preparation) (settings : Settings) : DeployRequest :=
  ⟨p.admin, settings.gasLimit, settings.overrides, settings.confirmations, settings.deployTimeout.toNat * 1000⟩

/-- Whether exchanges hold one answer to the request for the chain id, and it is this one. -/
def TellsChain (chainId : UInt64) (sent : List Exchange) : Prop :=
  ∃ id, (∀ other, Answered .chainId Connection.decodeQuantity other sent ↔ other = id) ∧ id.toNat = chainId.toNat

theorem TellsChain.unique {chainId other : UInt64} {sent : List Exchange} (h : TellsChain chainId sent)
    (h' : TellsChain other sent) : chainId = other := by
  obtain ⟨id, hid, heq⟩ := h
  obtain ⟨id', hid', heq'⟩ := h'
  cases (hid' id).mp ((hid id).mpr rfl)
  exact UInt64.toNat_inj.mp (heq.symm.trans heq')

theorem TellsChain.append {chainId : UInt64} {sent next : List Exchange} (h : TellsChain chainId sent)
    (hnext : ∀ e ∈ next, e.request.stage ≠ .identifying) : TellsChain chainId (next ++ sent) := by
  obtain ⟨id, hid, heq⟩ := h
  exact ⟨id, fun other => by rw [answered_append, or_iff_right (not_answered_of_stage hnext), hid], heq⟩

/-- Whether a node was asked for its chain id alone, and told this one. -/
structure Identified (chainId : UInt64) (sent : List Exchange) : Prop where
  only : Only .chainId sent
  tells : TellsChain chainId sent

theorem Connection.asks_chainId (c : Connection) : Run.Asks c.chainId fun sent result =>
    Only .chainId sent ∧ ∀ chainId, result = .ok chainId ↔ Identified chainId sent := by
  unfold Connection.chainId
  refine (c.asks_call .chainId decodeQuantity).bind ?_ ?_
  · rintro sent stop ⟨honly, ⟨id, -, h⟩ | ⟨hnone, failure, h⟩⟩ <;> cases h
    refine ⟨honly, fun chainId => ⟨nofun, ?_⟩⟩
    rintro ⟨-, id, hid, -⟩
    exact absurd ((hid id).mpr rfl) (hnone id)
  · rintro sent id ⟨honly, ⟨_, hid, h⟩ | ⟨-, failure, h⟩⟩ <;> cases h
    split
    · rename_i hsize
      have hnat : (UInt64.ofNat id.toNat).toNat = id.toNat := UInt64.toNat_ofNat_of_lt hsize
      have htells : TellsChain (UInt64.ofNat id.toNat) sent := ⟨id, hid, hnat.symm⟩
      refine Run.asks_pure ⟨honly, fun chainId => ⟨?_, ?_⟩⟩
      · rintro ⟨⟩
        exact ⟨honly, htells⟩
      · rintro ⟨-, htells'⟩
        rw [htells.unique htells']
    · rename_i hsize
      refine Run.asks_crash ⟨honly, fun chainId => ⟨nofun, ?_⟩⟩
      rintro ⟨-, id', hid', heq⟩
      cases (hid' id).mp ((hid id).mpr rfl)
      exact absurd (heq ▸ chainId.toNat_lt) hsize

namespace Deploy

/-! ### What the command ends with -/

/-- Comparing the code asks for it alone, and may fail but does not crash. -/
theorem asks_isMatch (connection : Connection) (address : Address) (expected : List UInt8) :
    Run.Asks (do return (← CodeCheck.run connection.chain address expected).isMatch) fun sent result =>
      AllOf .checking sent ∧ result ≠ .error .crashed := by
  unfold CodeCheck.run
  have hcode : Run.Asks (connection.chain.code address) fun sent result =>
      AllOf .checking sent ∧ result ≠ .error .crashed := by
    refine (connection.asks_call (.code address) Connection.decodeBytes).mono ?_
    rintro sent result ⟨honly, ⟨code, -, rfl⟩ | ⟨-, failure, rfl⟩⟩ <;> exact ⟨honly.allOf, nofun⟩
  have hcompare : Run.Asks (do return CodeCheck.compare (← connection.chain.code address) expected)
      fun sent result => AllOf .checking sent ∧ result ≠ .error .crashed :=
    hcode.bind (fun sent stop h => ⟨h.1, by simpa using h.2⟩) fun sent code h => Run.asks_pure ⟨h.1, nofun⟩
  exact hcompare.bind (fun sent stop h => ⟨h.1, by simpa using h.2⟩) fun sent check h => Run.asks_pure ⟨h.1, nofun⟩

/-- The lines on the check of the code, which tell of a success and of nothing else. -/
inductive Verdict : List String → Prop where
  | silent : Verdict []
  | success : Verdict ["Verify success"]

/-- The check of the code asks for the code alone, and never fails. -/
theorem run_verify (connection : Connection) (address : Address) (expected : List UInt8) (w : World) :
    ∃ checks verdict, AllOf .checking checks ∧ Verdict verdict ∧ (verify connection address expected).run w =
      (.ok (), (w.after checks).saying ("Verifying runtime code..." :: verdict)) := by
  unfold verify
  rw [Run.run_bind_of_ok (Run.run_print _)]
  obtain ⟨checks, result, hrun, hall, hresult⟩ :=
    (asks_isMatch connection address expected).run (w.saying ["Verifying runtime code..."])
  cases result with
  | ok isMatch =>
    rw [Run.run_bind_of_ok (by rw [Run.run_tryCatch, hrun])]
    cases isMatch with
    | true => exact ⟨checks, _, hall, .success, by simp only [if_true, Run.run_print, World.saying_after, World.saying_saying]; rfl⟩
    | false => exact ⟨checks, _, hall, .silent, rfl⟩
  | error stop =>
    cases stop with
    | crashed => exact absurd rfl hresult
    | failed failure =>
      rw [Run.run_bind_of_ok (by rw [Run.run_tryCatch, hrun]; rfl)]
      exact ⟨checks, _, hall, .silent, rfl⟩

theorem run_recordIn (path : String) (chainId : UInt64) (r : DeploymentRecord) (w : World) :
    (recordIn path chainId r).run w = match Ledger.upsertFile path chainId contractName r w.disk with
      | (.ok _, disk) => (.ok (), w.withDisk disk)
      | (.error fault, disk) => (.error (.failed (.save fault)), w.withDisk disk) := by
  have hrun : (recordIn path chainId r).run w =
      (discard (Run.require .save (Ledger.upsertFile path chainId contractName r w.disk).1)).run
        (w.withDisk (Ledger.upsertFile path chainId contractName r w.disk).2) := rfl
  rw [hrun]
  cases Ledger.upsertFile path chainId contractName r w.disk with
  | mk result disk => cases result <;> rfl

def plan (settings : Settings) (network : Network) (p : Preparation) (chainId : UInt64) : List String :=
  planLines network.name chainId p.admin settings.gasLimit settings.overrides

def outcome (d : Deployment) (chainId : UInt64) : List String := outcomeLines d (Explorer.ofChain? chainId)

/-- The lines that are printed once the deployment is recorded. -/
inductive Closing (settings : Settings) : List String → Prop where
  | unverified : Closing settings ["Written to: " ++ settings.ledgerPath]
  | verified (verdict : List String) (h : Verdict verdict) :
    Closing settings (("Written to: " ++ settings.ledgerPath) :: "Verifying runtime code..." :: verdict)

def recordOf (network : Network) (p : Preparation) (chainId : UInt64) (d : Deployment) (now : Timestamp) :
    DeploymentRecord :=
  d.record network.name chainId p.admin (Explorer.ofChain? chainId) now

/-- What the command has done once the node told its chain id: it is prepared, and asked for that alone. -/
structure Opened (settings : Settings) (network : Network) (w : World) (p : Preparation) (chainId : UInt64)
    (first : List Exchange) : Prop where
  prepared : p.IsOf settings network w.disk.files
  identified : Identified chainId first

/-- The chain id stays told, whatever the deployment and the check of the code ask. -/
theorem Opened.tells {settings : Settings} {network : Network} {w : World} {p : Preparation} {chainId : UInt64}
    {first sent checks : List Exchange} (h : Opened settings network w p chainId first)
    (hsent : ∀ e ∈ sent, e.request.stage.isTimed = true) (hchecks : AllOf .checking checks) :
    TellsChain chainId (checks ++ (sent ++ first)) := by
  have hdeploying : TellsChain chainId (sent ++ first) := h.identified.tells.append fun e he heq => by
    have htimed := hsent e he
    rw [heq] at htimed
    cases htimed
  exact hdeploying.append fun e he => by simp [hchecks e he]

/-- How the command ends in a world: the five ways, each with what was asked, printed and written until
    then. -/
inductive Ends (settings : Settings) (network : Network) (w : World) : Except (Stop Failure) Unit → World → Prop where
  /-- Something that it takes is missing or invalid. -/
  | unprepared (stop : Stop Failure) (hno : ∀ p : Preparation, ¬ p.IsOf settings network w.disk.files) :
    Ends settings network w (.error stop) w
  /-- The node does not tell a chain id. -/
  | unidentified (p : Preparation) (first : List Exchange) (stop : Stop Failure)
    (hp : p.IsOf settings network w.disk.files) (honly : Only .chainId first)
    (hno : ∀ chainId, ¬ Identified chainId first) : Ends settings network w (.error stop) (w.after first)
  /-- The contract does not come onto the chain. -/
  | undeployed (p : Preparation) (chainId : UInt64) (first sent : List Exchange) (stop : Stop Failure)
    (hopen : Opened settings network w p chainId first)
    (hran : Deployment.Ran ⟨p.key, chainId⟩ p.artifact (p.request settings) sent (.error stop)) :
    Ends settings network w (.error stop) ((w.after (sent ++ first)).saying (plan settings network p chainId))
  /-- The contract is there, but cannot be recorded. -/
  | unrecorded (p : Preparation) (chainId : UInt64) (first sent : List Exchange) (d : Deployment) (fault : SaveFault)
    (disk : Disk) (hopen : Opened settings network w p chainId first)
    (hran : Deployment.Ran ⟨p.key, chainId⟩ p.artifact (p.request settings) sent (.ok d))
    (hupsert : Ledger.upsertFile settings.ledgerPath chainId contractName (recordOf network p chainId d w.now) w.disk =
      (.error fault, disk)) :
    Ends settings network w (.error (.failed (.save fault)))
      (((w.after (sent ++ first)).saying (plan settings network p chainId ++ outcome d chainId)).withDisk disk)
  /-- The contract is there and recorded. -/
  | recorded (p : Preparation) (chainId : UInt64) (first sent checks : List Exchange) (d : Deployment) (l : Ledger)
    (disk : Disk) (closing : List String) (hopen : Opened settings network w p chainId first)
    (hran : Deployment.Ran ⟨p.key, chainId⟩ p.artifact (p.request settings) sent (.ok d))
    (hupsert : Ledger.upsertFile settings.ledgerPath chainId contractName (recordOf network p chainId d w.now) w.disk =
      (.ok l, disk)) (hchecks : AllOf .checking checks) (hclosing : Closing settings closing) :
    Ends settings network w (.ok ())
      (((w.after (checks ++ (sent ++ first))).saying
        (plan settings network p chainId ++ outcome d chainId ++ closing)).withDisk disk)

/-- What the command does once the contract is there. -/
def finish (settings : Settings) (network : Network) (p : Preparation) (chainId : UInt64) (d : Deployment) : Run Unit := do
  let now := (← get).now
  recordIn settings.ledgerPath chainId (recordOf network p chainId d now)
  Run.print ("Written to: " ++ settings.ledgerPath)
  if settings.autoVerify then verify p.connection d.address p.artifact.runtimeCode

/-- What the command does with all that it takes. -/
def proceed (settings : Settings) (network : Network) (p : Preparation) : Run Unit := do
  let chainId ← p.connection.chainId
  Run.printAll (plan settings network p chainId)
  let deployment ← Deployment.run p.connection ⟨p.key, chainId⟩ p.artifact (p.request settings)
  Run.printAll (outcome deployment chainId)
  finish settings network p chainId deployment

variable {settings : Settings} {network : Network} {w : World}

theorem run_of_isOf {p : Preparation} (h : p.IsOf settings network w.disk.files) :
    (run settings network).run w = (proceed settings network p).run w := by
  unfold run
  rw [h.admin, Run.require_ok_bind, h.key, Run.require_ok_bind, Run.run_bind_of_ok Run.run_files, h.connection]
  rw [Run.run_bind_of_ok (by rw [Run.run_settle, h.artifact]; rfl), Run.require_ok_bind]
  rfl

theorem run_of_not_isOf (h : ∀ p : Preparation, ¬ p.IsOf settings network w.disk.files) :
    ∃ stop, (run settings network).run w = (.error stop, w) := by
  unfold run
  cases hadmin : settings.requireAdmin with
  | error fault => exact ⟨_, rfl⟩
  | ok admin =>
  rw [Run.require_ok_bind]
  cases hkey : settings.requireKey with
  | error fault => exact ⟨_, rfl⟩
  | ok key =>
  rw [Run.require_ok_bind, Run.run_bind_of_ok Run.run_files]
  cases hartifact : Artifact.load w.disk.files settings.artifactPath with
  | error stop => exact ⟨_, rfl⟩
  | ok artifact =>
  rw [Run.run_bind_of_ok (by rw [Run.run_settle]; rfl)]
  cases hconnection : settings.connect network with
  | error fault => exact ⟨_, rfl⟩
  | ok connection => exact absurd ⟨hadmin, hkey, hartifact, hconnection⟩ (h ⟨admin, key, artifact, connection⟩)

section
variable {p : Preparation} {chainId : UInt64} {d : Deployment} {disk : Disk}

theorem run_finish_of_error {fault : SaveFault} (h : Ledger.upsertFile settings.ledgerPath chainId contractName
    (recordOf network p chainId d w.now) w.disk = (.error fault, disk)) :
    (finish settings network p chainId d).run w = (.error (.failed (.save fault)), w.withDisk disk) := by
  have hget : (get : Run World).run w = (.ok w, w) := rfl
  have hrecord := run_recordIn settings.ledgerPath chainId (recordOf network p chainId d w.now) w
  rw [h] at hrecord
  unfold finish
  rw [Run.run_bind_of_ok hget, Run.run_bind_of_error hrecord]

/-- Once the record is put in, the command succeeds, whatever the check of the code comes to. -/
theorem run_finish_of_ok {l : Ledger} (h : Ledger.upsertFile settings.ledgerPath chainId contractName
    (recordOf network p chainId d w.now) w.disk = (.ok l, disk)) :
    ∃ checks closing, AllOf .checking checks ∧ Closing settings closing ∧
      (finish settings network p chainId d).run w = (.ok (), ((w.after checks).saying closing).withDisk disk) := by
  have hget : (get : Run World).run w = (.ok w, w) := rfl
  have hrecord := run_recordIn settings.ledgerPath chainId (recordOf network p chainId d w.now) w
  rw [h] at hrecord
  unfold finish
  rw [Run.run_bind_of_ok hget, Run.run_bind_of_ok hrecord, Run.run_bind_of_ok (Run.run_print _)]
  split
  · obtain ⟨checks, verdict, hall, hverdict, hrun⟩ := run_verify p.connection d.address p.artifact.runtimeCode
      ((w.withDisk disk).saying ["Written to: " ++ settings.ledgerPath])
    rw [World.saying_after, World.saying_saying] at hrun
    exact ⟨checks, _, hall, .verified verdict hverdict, hrun⟩
  · exact ⟨[], _, allOf_nil, .unverified, rfl⟩

end

theorem run_ends (settings : Settings) (network : Network) (w : World) :
    Ends settings network w ((run settings network).run w).1 ((run settings network).run w).2 := by
  by_cases hprepared : ∃ p : Preparation, p.IsOf settings network w.disk.files
  case neg =>
    have hno := not_exists.mp hprepared
    obtain ⟨stop, hrun⟩ := run_of_not_isOf hno
    rw [hrun]
    exact .unprepared stop hno
  obtain ⟨p, hp⟩ := hprepared
  rw [run_of_isOf hp]
  unfold proceed
  obtain ⟨first, result, hfirst, honly, hidentified⟩ := p.connection.asks_chainId.run w
  cases result with
  | error stop =>
    rw [Run.run_bind_of_error hfirst]
    exact .unidentified p first stop hp honly fun chainId h => nomatch (hidentified chainId).mpr h
  | ok chainId =>
  have hopen : Opened settings network w p chainId first := ⟨hp, (hidentified chainId).mp rfl⟩
  rw [Run.run_bind_of_ok hfirst, Run.run_bind_of_ok (Run.run_printAll _)]
  obtain ⟨sent, result, hsent, hran⟩ := (Deployment.asks_run p.connection ⟨p.key, chainId⟩ p.artifact
    (p.request settings)).run ((w.after first).saying (plan settings network p chainId))
  rw [World.saying_after, World.after_after] at hsent
  cases result with
  | error stop =>
    rw [Run.run_bind_of_error hsent]
    exact .undeployed p chainId first sent stop hopen hran
  | ok d =>
  rw [Run.run_bind_of_ok hsent, Run.run_bind_of_ok (Run.run_printAll _), World.saying_saying]
  -- Neither requests nor lines change the disk and the clock, which the record depends on.
  let later := (w.after (sent ++ first)).saying (plan settings network p chainId ++ outcome d chainId)
  cases hupsert : Ledger.upsertFile settings.ledgerPath chainId contractName (recordOf network p chainId d w.now) w.disk with
  | mk result disk =>
  cases result with
  | error fault =>
    rw [run_finish_of_error (w := later) hupsert]
    exact .unrecorded p chainId first sent d fault disk hopen hran hupsert
  | ok l =>
    obtain ⟨checks, closing, hchecks, hclosing, hrun⟩ := run_finish_of_ok (w := later) hupsert
    rw [hrun, World.saying_after, World.saying_saying, World.after_after]
    exact .recorded p chainId first sent checks d l disk closing hopen hran hupsert hchecks hclosing

end Deploy
end SplitterLaunch
