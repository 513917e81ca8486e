import SplitterLaunch.Proofs.Inspection
import SplitterLaunch.Proofs.Ledger.Recording
import SplitterLaunch.Proofs.NodeQuote

/-! When a balance and an estimate crash. All that a node tells is read into quantities that hold it, and what is
    computed with them is checked, but for the chain id: one of more than 64 bits has no place in the program. Apart
    from it only the artifact can end an estimate without a report. -/

namespace SplitterLaunch

/-! ### Crashes along a run -/

namespace Run
variable {α β ε : Type} {x : Run α} {f : α → Run β} {w w' : World}

/-- Whether a part crashes in a world. -/
def Crashes (x : Run α) (w : World) : Prop := (x.run w).1 = .error .crashed

/-- A part that does nothing but ask, and does not crash. -/
def Calm (x : Run α) : Prop := Asks x fun _ result => result ≠ .error .crashed

theorem crashes_bind : Crashes (x >>= f) w ↔ Crashes x w ∨ ∃ a w', x.run w = (.ok a, w') ∧ Crashes (f a) w' := by
  unfold Crashes
  rw [run_bind]
  rcases x.run w with ⟨stop | a, w'⟩
  · constructor
    · intro h
      cases h
      exact .inl rfl
    · rintro (h | ⟨_, _, h, _⟩) <;> cases h
      rfl
  · refine ⟨fun h => .inr ⟨a, w', rfl, h⟩, ?_⟩
    rintro (h | ⟨_, _, heq, h⟩)
    · cases h
    · cases heq
      exact h

/-! What asks nothing is passed through. -/

theorem crashes_require_bind {failure : ε → Failure} {result : Except ε α} :
    Crashes (require failure result >>= f) w ↔ ∃ a, result = .ok a ∧ Crashes (f a) w := by
  cases result with
  | error fault => exact ⟨nofun, nofun⟩
  | ok a => simp [require_ok_bind]

theorem run_require_bind_eq_ok_iff {failure : ε → Failure} {result : Except ε α} {b : β} :
    (require failure result >>= f).run w = (.ok b, w') ↔ ∃ a, result = .ok a ∧ (f a).run w = (.ok b, w') := by
  cases result with
  | error fault => exact ⟨nofun, nofun⟩
  | ok a => simp [require_ok_bind]

theorem crashes_settle_bind {failure : ε → Failure} {result : Outcome ε α} : Crashes (settle failure result >>= f) w ↔
    result = .error .crashed ∨ ∃ a, result = .ok a ∧ Crashes (f a) w := by
  cases result with
  | error stop =>
    cases stop with
    | failed reason => exact ⟨nofun, nofun⟩
    | crashed => exact ⟨fun _ => .inl rfl, fun _ => rfl⟩
  | ok a =>
    show Crashes (f a) w ↔ _
    simp

theorem run_settle_bind_eq_ok_iff {failure : ε → Failure} {result : Outcome ε α} {b : β} :
    (settle failure result >>= f).run w = (.ok b, w') ↔ ∃ a, result = .ok a ∧ (f a).run w = (.ok b, w') := by
  cases result with
  | error stop => exact ⟨nofun, nofun⟩
  | ok a =>
    show (f a).run w = _ ↔ _
    simp

theorem run_files_bind (f : Files → Run β) : (files >>= f).run w = (f w.disk.files).run w := run_bind_of_ok run_files f

theorem crashes_files_bind {f : Files → Run β} : Crashes (files >>= f) w ↔ Crashes (f w.disk.files) w := by
  unfold Crashes
  rw [run_files_bind]

theorem calm_pure (a : α) : Calm (pure a : Run α) := asks_pure nofun

theorem calm_fail (failure : Failure) : Calm (fail failure : Run α) := asks_fail nofun

theorem calm_require (failure : ε → Failure) (result : Except ε α) : Calm (require failure result) := by
  cases result with
  | error fault => exact calm_fail _
  | ok a => exact calm_pure a

theorem Calm.bind (h : Calm x) (hf : ∀ a, Calm (f a)) : Calm (x >>= f) :=
  Asks.bind h (fun _ _ hstop hcrash => hstop (congrArg _ (Except.error.inj hcrash))) fun _ a _ => hf a

/-- How a failure is told does not make a crash of it. -/
theorem Calm.adapt (h : Calm x) (tell : Failure → Failure) : Calm (ExceptT.adapt (Stop.map tell) x) := by
  intro w
  obtain ⟨sent, hw, hcalm⟩ := h w
  refine ⟨sent, hw, fun hcrash => hcalm ?_⟩
  exact Outcome.mapReason_eq_crash_iff.mp hcrash

theorem Calm.not_crashes (h : Calm x) (w : World) : ¬ Crashes x w := by
  obtain ⟨sent, -, hcalm⟩ := h w
  exact hcalm

/-- If all that follows is calm, a crash is one of the first part. -/
theorem crashes_bind_of_calm (hf : ∀ a, Calm (f a)) : Crashes (x >>= f) w ↔ Crashes x w := by
  rw [crashes_bind, or_iff_left]
  rintro ⟨a, w', -, hcrash⟩
  exact (hf a).not_crashes w' hcrash

theorem crashes_bind_printAll {lines : α → List String} :
    Crashes (x >>= fun a => printAll (lines a)) w ↔ Crashes x w := by
  rw [crashes_bind, or_iff_left]
  rintro ⟨a, w', -, hcrash⟩
  rw [Crashes, run_printAll] at hcrash
  cases hcrash

end Run

/-! ### What a node is asked -/

namespace Connection
open Run
variable {α : Type}

theorem calm_request (c : Connection) (request : Request) (decode : Json.Source → Option α) :
    Calm (c.request request decode) := by
  refine (c.asks_request request decode).mono ?_
  rintro sent result (⟨-, fault, -, rfl⟩ | ⟨reply, -, rfl⟩) <;> exact nofun

theorem calm_call (c : Connection) (request : Request) (decode : Json.Source → Option α) :
    Calm (c.call request decode) :=
  (c.calm_request request decode).bind fun _ => calm_require _ _

theorem calm_optionalCall (c : Connection) (request : Request) (decode : Json.Source → Option α) :
    Calm (c.optionalCall request decode) := by
  refine (c.calm_request request decode).bind fun outcome => ?_
  split
  · exact calm_pure _
  · exact calm_pure _
  · exact calm_fail _

theorem calm_feeQuote (c : Connection) : Calm c.feeQuote :=
  (c.calm_call _ _).bind fun _ => (c.calm_optionalCall _ _).bind fun _ => (c.calm_optionalCall _ _).bind fun _ =>
    calm_pure _

end Connection

/-- Whether the node of a world gives a number as its chain id when it is asked now. -/
def World.TellsId (w : World) (n : Nat) : Prop :=
  ∃ q, Rpc.result? Connection.decodeQuantity (w.reply .chainId) = some q ∧ q.toNat = n

namespace Connection
open Run
variable {c : Connection} {w w' : World}

/-- A chain id is the one that the node gives. -/
theorem run_chainId_eq_ok_iff {id : UInt64} :
    c.chainId.run w = (.ok id, w') ↔ c.url.TakesRequests ∧ w.TellsId id.toNat ∧ w' = w.asked .chainId := by
  unfold chainId
  rw [run_bind_eq_ok_iff]
  constructor
  · rintro ⟨q, w₁, hcall, h⟩
    obtain ⟨hurl, hq, rfl⟩ := run_call_eq_ok_iff.mp hcall
    split at h
    · rename_i hsize
      cases h
      exact ⟨hurl, ⟨q, hq, (UInt64.toNat_ofNat_of_lt hsize).symm⟩, rfl⟩
    · cases h
  · rintro ⟨hurl, ⟨q, hq, hnat⟩, rfl⟩
    refine ⟨q, _, run_call_eq_ok_iff.mpr ⟨hurl, hq, rfl⟩, ?_⟩
    rw [if_pos (hnat ▸ id.toNat_lt), hnat, UInt64.ofNat_toNat]
    rfl

/-- A chain id that the node gives crashes if it has more than 64 bits. -/
theorem crashes_chainId_iff :
    Crashes c.chainId w ↔ c.url.TakesRequests ∧ ∃ n, w.TellsId n ∧ UInt64.size ≤ n := by
  unfold chainId
  rw [crashes_bind, or_iff_right ((c.calm_call _ _).not_crashes w)]
  constructor
  · rintro ⟨q, w₁, hcall, hcrash⟩
    obtain ⟨hurl, hq, rfl⟩ := run_call_eq_ok_iff.mp hcall
    refine ⟨hurl, q.toNat, ⟨q, hq, rfl⟩, ?_⟩
    by_contra hsize
    rw [if_pos (Nat.lt_of_not_le hsize)] at hcrash
    cases hcrash
  · rintro ⟨hurl, _, ⟨q, hq, rfl⟩, hsize⟩
    refine ⟨q, _, run_call_eq_ok_iff.mpr ⟨hurl, hq, rfl⟩, ?_⟩
    rw [if_neg (Nat.not_lt_of_le hsize)]
    rfl

end Connection

/-- Whether a node is asked that gives a chain id of more than 64 bits. -/
def Settings.MeetsVastId (s : Settings) (network : Network) (w : World) : Prop :=
  ∃ c, s.connect network = .ok c ∧ c.url.TakesRequests ∧ ∃ n, w.TellsId n ∧ UInt64.size ≤ n

/-! ### A balance -/

namespace Balance
open Run
variable {settings : Settings} {network : Network} {named : Option String} {w w' : World}

/-- What a balance comes to: the lines on the account, the chain id and the balance that the node gave. -/
def Reports (settings : Settings) (network : Network) (named : Option String) (w w' : World) : Prop :=
  ∃ account c id balance, settings.accountOf named = .ok account ∧ settings.connect network = .ok c ∧
    c.url.TakesRequests ∧ w.TellsId id.toNat ∧
    Rpc.result? Connection.decodeQuantity ((w.asked .chainId).reply (.balance account)) = some balance ∧
    w' = ((w.asked .chainId).asked (.balance account)).saying (lines network.name id account balance)

theorem crashes_run_iff : Crashes (run settings network named) w ↔
    (∃ account, settings.accountOf named = .ok account) ∧ settings.MeetsVastId network w := by
  have hrun (account : Address) (c : Connection) : Crashes (do
      let chainId ← c.chain.chainId
      let balance ← c.chain.balance account
      printAll (lines network.name chainId account balance)) w ↔ Crashes c.chainId w := by
    rw [crashes_bind, or_iff_left]
    · rfl
    rintro ⟨id, w₁, -, hcrash⟩
    exact (c.calm_call _ _).not_crashes w₁ (crashes_bind_printAll.mp hcrash)
  unfold run
  simp only [crashes_require_bind, hrun, Connection.crashes_chainId_iff, Settings.MeetsVastId]
  constructor
  · rintro ⟨account, haccount, c, hc⟩
    exact ⟨⟨account, haccount⟩, c, hc⟩
  · rintro ⟨⟨account, haccount⟩, c, hc⟩
    exact ⟨account, haccount, c, hc⟩

theorem run_eq_ok_iff : (run settings network named).run w = (.ok (), w') ↔ Reports settings network named w w' := by
  unfold run
  simp only [run_require_bind_eq_ok_iff]
  constructor
  · rintro ⟨account, haccount, c, hc, h⟩
    obtain ⟨id, w₁, hid, h⟩ := run_bind_eq_ok_iff.mp h
    obtain ⟨hurl, htells, rfl⟩ := Connection.run_chainId_eq_ok_iff.mp hid
    obtain ⟨balance, w₂, hbalance, h⟩ := run_bind_eq_ok_iff.mp h
    obtain ⟨-, hresult, rfl⟩ := Connection.run_call_eq_ok_iff.mp hbalance
    rw [run_printAll] at h
    cases h
    exact ⟨account, c, id, balance, haccount, hc, hurl, htells, hresult, rfl⟩
  · rintro ⟨account, c, id, balance, haccount, hc, hurl, htells, hresult, rfl⟩
    refine ⟨account, haccount, c, hc, ?_⟩
    refine run_bind_eq_ok_iff.mpr ⟨id, _, Connection.run_chainId_eq_ok_iff.mpr ⟨hurl, htells, rfl⟩, ?_⟩
    refine run_bind_eq_ok_iff.mpr ⟨balance, _, Connection.run_call_eq_ok_iff.mpr ⟨hurl, hresult, rfl⟩, ?_⟩
    exact run_printAll _

end Balance

/-! ### An estimate -/

namespace EstimateRequest
open Run
variable {r : EstimateRequest} {c : Connection} {tx : Transaction} {w : World}

theorem calm_settle {α : Type} (result : Except CostFault α) : Calm (settle result : Run α) := by
  cases result with
  | error fault => exact calm_fail _
  | ok a => exact calm_pure a

theorem calm_gas (r : EstimateRequest) (c : Connection) (tx : Transaction) : Calm (r.gas c.chain tx) := by
  unfold gas
  cases r.gasLimit with
  | some limit => exact calm_pure limit
  | none => exact (c.calm_call _ _).adapt gasFailure

/-- Once the chain is known, an estimate answers or fails. -/
theorem calm_rest (r : EstimateRequest) (c : Connection) (tx : Transaction) (id : UInt64) : Calm (do
    let quote ← c.chain.feeQuote
    match Fees.resolve? quote r.overrides with
    | none => settle (.error .noFees)
    | some _ => settle (CostEstimate.compute id (← r.gas c.chain tx) quote r.overrides r.fiat)) := by
  refine c.calm_feeQuote.bind fun quote => ?_
  split
  · exact calm_settle _
  · exact (calm_gas r c tx).bind fun gas => calm_settle _

theorem crashes_run_iff : Crashes (r.run c.chain tx) w ↔ Crashes c.chainId w :=
  crashes_bind_of_calm fun id => calm_rest r c tx id

theorem run_eq_ok {e : CostEstimate} {w' : World} (h : (r.run c.chain tx).run w = (.ok e, w')) :
    ∃ sent, w' = w.after sent := by
  obtain ⟨id, w₁, hid, h⟩ := run_bind_eq_ok_iff.mp h
  obtain ⟨-, -, rfl⟩ := Connection.run_chainId_eq_ok_iff.mp hid
  obtain ⟨sent, hw, -⟩ := calm_rest r c tx id (w.asked .chainId)
  have hw' : w' = (w.asked .chainId).after sent := (congrArg Prod.snd h).symm.trans hw
  exact ⟨_, hw'.trans (World.after_after ..)⟩

end EstimateRequest

namespace Estimate
open Run
variable {settings : Settings} {network : Network} {json : Bool} {w w' : World}

/-- What has to be there for a chain to be asked: an administrator, an account to deploy from, and an artifact that
    can be deployed. -/
structure Prepared (settings : Settings) (w : World) (admin deployer : Address) (tx : Transaction) : Prop where
  isAdmin : settings.requireAdmin = .ok admin
  isDeployer : settings.deployer = .ok deployer
  deploys : ∃ artifact, Artifact.load w.disk.files settings.artifactPath = .ok artifact ∧
    artifact.deployment admin = .ok tx

/-- Whether an artifact is read that crashes. -/
structure MeetsBrokenArtifact (settings : Settings) (w : World) : Prop where
  admin : ∃ admin, settings.requireAdmin = .ok admin
  deployer : ∃ deployer, settings.deployer = .ok deployer
  artifact : Artifact.load w.disk.files settings.artifactPath = .error .crashed

def shownLines (network : Network) (admin : Address) (json : Bool) (e : CostEstimate) : List String :=
  if json then [e.summary] else e.reportLines network.name admin

/-- What an estimate comes to: the report or summary of what is computed from the node's answers. -/
def Reports (settings : Settings) (network : Network) (json : Bool) (w w' : World) : Prop :=
  ∃ admin deployer tx c e sent, Prepared settings w admin deployer tx ∧ settings.connect network = .ok c ∧
    ((request settings).run c.chain { tx with sender := some deployer }).run w = (.ok e, w.after sent) ∧
    w' = (w.after sent).saying (shownLines network admin json e)

theorem run_show (admin : Address) (e : CostEstimate) :
    (if json then print e.summary else printAll (e.reportLines network.name admin)).run w =
      (.ok (), w.saying (shownLines network admin json e)) := by
  cases json with
  | true => exact run_print _
  | false => exact run_printAll _

theorem crashes_run_iff : Crashes (run settings network json) w ↔ MeetsBrokenArtifact settings w ∨
    (∃ admin deployer tx, Prepared settings w admin deployer tx) ∧ settings.MeetsVastId network w := by
  have hrun (admin : Address) (c : Connection) (tx : Transaction) : Crashes (do
      let estimate ← (request settings).run c.chain tx
      if json then print estimate.summary else printAll (estimate.reportLines network.name admin)) w ↔
        Crashes c.chainId w := by
    rw [crashes_bind, or_iff_left, EstimateRequest.crashes_run_iff]
    rintro ⟨e, w₁, -, hcrash⟩
    rw [Crashes, run_show] at hcrash
    cases hcrash
  unfold run
  simp only [crashes_require_bind, crashes_files_bind, crashes_settle_bind, hrun, Connection.crashes_chainId_iff]
  constructor
  · rintro ⟨admin, hadmin, deployer, hdeployer, hbroken | ⟨artifact, hartifact, c, hc, tx, htx, hvast⟩⟩
    · exact .inl ⟨⟨admin, hadmin⟩, ⟨deployer, hdeployer⟩, hbroken⟩
    · exact .inr ⟨⟨admin, deployer, tx, hadmin, hdeployer, artifact, hartifact, htx⟩, c, hc, hvast⟩
  · rintro (⟨⟨admin, hadmin⟩, ⟨deployer, hdeployer⟩, hbroken⟩ |
      ⟨⟨admin, deployer, tx, hadmin, hdeployer, artifact, hartifact, htx⟩, c, hc, hvast⟩)
    · exact ⟨admin, hadmin, deployer, hdeployer, .inl hbroken⟩
    · exact ⟨admin, hadmin, deployer, hdeployer, .inr ⟨artifact, hartifact, c, hc, tx, htx, hvast⟩⟩

theorem run_eq_ok_iff : (run settings network json).run w = (.ok (), w') ↔ Reports settings network json w w' := by
  unfold run
  simp only [run_require_bind_eq_ok_iff, run_files_bind, run_settle_bind_eq_ok_iff]
  constructor
  · rintro ⟨admin, hadmin, deployer, hdeployer, artifact, hartifact, c, hc, tx, htx, h⟩
    obtain ⟨e, w₁, hestimate, h⟩ := run_bind_eq_ok_iff.mp h
    obtain ⟨sent, rfl⟩ := EstimateRequest.run_eq_ok hestimate
    rw [run_show] at h
    cases h
    exact ⟨admin, deployer, tx, c, e, sent, ⟨hadmin, hdeployer, artifact, hartifact, htx⟩, hc, hestimate, rfl⟩
  · rintro ⟨admin, deployer, tx, c, e, sent, ⟨hadmin, hdeployer, artifact, hartifact, htx⟩, hc, hestimate, rfl⟩
    refine ⟨admin, hadmin, deployer, hdeployer, artifact, hartifact, c, hc, tx, htx, ?_⟩
    exact run_bind_eq_ok_iff.mpr ⟨e, _, hestimate, run_show admin e⟩

end Estimate
open Run in
/-- A balance crashes exactly where the node gives a chain id of more than 64 bits, and an estimate there and where it
    reads an artifact that crashes. A command that does not fail either ends in its report, and a chain id that is
    given is the node's. -/
theorem balance_and_estimate_crash_iff (settings : Settings) (network : Network) (w : World) :
    (∀ named,
      (Crashes (Balance.run settings network named) w ↔
        (∃ account, settings.accountOf named = .ok account) ∧ settings.MeetsVastId network w) ∧
      ∀ w', (Balance.run settings network named).run w = (.ok (), w') ↔
        Balance.Reports settings network named w w') ∧
    (∀ json,
      (Crashes (Estimate.run settings network json) w ↔ Estimate.MeetsBrokenArtifact settings w ∨
        (∃ admin deployer tx, Estimate.Prepared settings w admin deployer tx) ∧ settings.MeetsVastId network w) ∧
      ∀ w', (Estimate.run settings network json).run w = (.ok (), w') ↔
        Estimate.Reports settings network json w w') ∧
    ∀ c : Connection,
      (∀ id w', c.chainId.run w = (.ok id, w') ↔
        c.url.TakesRequests ∧ w.TellsId id.toNat ∧ w' = w.asked .chainId) ∧
      (Crashes c.chainId w ↔ c.url.TakesRequests ∧ ∃ n, w.TellsId n ∧ UInt64.size ≤ n) :=
  ⟨fun _ => ⟨Balance.crashes_run_iff, fun _ => Balance.run_eq_ok_iff⟩,
    fun _ => ⟨Estimate.crashes_run_iff, fun _ => Estimate.run_eq_ok_iff⟩,
    fun _ => ⟨fun _ _ => Connection.run_chainId_eq_ok_iff, Connection.crashes_chainId_iff⟩⟩

/-! ### Crashes that can be had -/

/-- A world whose node gives the first chain id of more than 64 bits. -/
def vastWorld : World := .start ⟨fun _ _ => Rpc.answer (.string "0x10000000000000000")⟩ (.empty []) .epoch

theorem tellsId_vastWorld : vastWorld.TellsId (2 ^ 64) := by
  have hplain : Json.IsPlain Json.maxDepth (.string "0x10000000000000000") := ⟨by decide +kernel, by decide +kernel⟩
  refine ⟨⟨2 ^ 64, by decide⟩, ?_, rfl⟩
  exact Rpc.result?_answer_of_read (fun _ => rfl) (by decide +kernel) hplain (by decide +kernel)

/-- An artifact with a type that is a closing bracket alone. -/
def brokenArtifact : String := "\x7b\"abi\":[\x7b\"type\":\"constructor\",\"inputs\":" ++
  "[\x7b\"name\":\"a\",\"type\":\"]\"\x7d]\x7d],\"bytecode\":\"0x60\"\x7d"

/-- An environment with an administrator, and with an artifact in a file of its own. -/
def adminSet : Environment := fun name =>
  if name = "ADMIN_WALLET" then some "0x1111111111111111111111111111111111111111"
  else if name = "X402_ARTIFACT" then some "a.json" else none

/-- A chain id of more than 64 bits crashes, and so does an estimate of such an artifact, whatever the node. -/
theorem chainId_and_estimate_crash :
    Run.Crashes localConnection.chainId vastWorld ∧
    ∃ settings network, Settings.ofEnvironment adminSet = .ok settings ∧
      settings.registry.resolve none = .ok network ∧
      Run.Crashes (Estimate.run settings network false)
        (.start (.unreachable .notFound) (Ledger.shelf brokenArtifact false) .epoch) := by
  have hurl : localConnection.url.TakesRequests := ⟨by decide +kernel, by decide +kernel⟩
  have hload : Artifact.load (Ledger.shelf brokenArtifact false) "a.json" = .error .crashed := by decide +kernel
  refine ⟨Connection.crashes_chainId_iff.mpr ⟨hurl, _, tellsId_vastWorld, Nat.le_refl _⟩, _, _, rfl, rfl, ?_⟩
  exact Estimate.crashes_run_iff.mpr (.inl ⟨⟨_, rfl⟩, ⟨_, rfl⟩, hload⟩)

end SplitterLaunch
