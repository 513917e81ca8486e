import SplitterLaunch.Estimation
import SplitterLaunch.Proofs.Run

/-! What an estimate asks of a chain, and what it makes of the answers. The chain may answer anything to each
    call, and its answers may depend on a state that every call changes. -/

namespace SplitterLaunch

/-- Computations over a state, which can fail or crash. -/
abbrev Stateful (σ α : Type) := ExceptT (Stop Failure) (StateM σ) α

namespace Chain
variable {σ α : Type}

/-- A call of a chain, with what it is about. -/
inductive Call where
  | chainId
  | feeQuote
  | estimateGas (tx : Transaction)
  | balance (account : Address)
  | code (account : Address)
deriving DecidableEq

/-- Makes a call, and notes it behind those that were made before. -/
def noting (call : Call) (x : Stateful σ α) : Stateful (List Call × σ) α :=
  ExceptT.mk fun (calls, s) => ((x.run s).1, calls ++ [call], (x.run s).2)

/-- The chain with all calls noted. -/
def noted (chain : Chain (Stateful σ)) : Chain (Stateful (List Call × σ)) where
  chainId := noting .chainId chain.chainId
  feeQuote := noting .feeQuote chain.feeQuote
  estimateGas tx := noting (.estimateGas tx) (chain.estimateGas tx)
  balance account := noting (.balance account) (chain.balance account)
  code account := noting (.code account) (chain.code account)

theorem run_noting (call : Call) (x : Stateful σ α) (calls : List Call) (s : σ) :
    (noting call x).run (calls, s) = ((x.run s).1, calls ++ [call], (x.run s).2) := rfl

/-- Whether a computation does as another, but for calls that it notes. -/
def Notes (x : Stateful σ α) (noted : Stateful (List Call × σ) α) : Prop :=
  ∀ calls s, ∃ made, noted.run (calls, s) = ((x.run s).1, calls ++ made, (x.run s).2)

theorem notes_noting (call : Call) (x : Stateful σ α) : Notes x (noting call x) :=
  fun calls s => ⟨[call], run_noting call x calls s⟩

/-- What has its result already notes nothing. -/
theorem notes_result (result : Outcome Failure α) :
    Notes (ExceptT.mk (pure result) : Stateful σ α) (ExceptT.mk (pure result)) :=
  fun calls s => ⟨[], by rw [List.append_nil]; rfl⟩

theorem Notes.bind {β : Type} {x : Stateful σ α} {noted : Stateful (List Call × σ) α} {f : α → Stateful σ β}
    {g : α → Stateful (List Call × σ) β} (h : Notes x noted) (hf : ∀ a, Notes (f a) (g a)) :
    Notes (x >>= f) (noted >>= g) := by
  intro calls s
  obtain ⟨made, hnoted⟩ := h calls s
  rw [Run.run_bind, Run.run_bind, hnoted]
  cases x.run s with
  | mk result s' =>
  cases result with
  | error stop => exact ⟨made, rfl⟩
  | ok a =>
    obtain ⟨next, hnext⟩ := hf a (calls ++ made) s'
    exact ⟨made ++ next, by rw [← List.append_assoc]; exact hnext⟩

end Chain

/-- What a chain answers to the calls of an estimate. -/
structure EstimateAnswers where
  chainId : Outcome Failure UInt64
  quote : Outcome Failure FeeQuote
  gas : Outcome Failure Quantity

/-- What a chain in some state answers to the calls of an estimate, made one after the other. -/
def EstimateAnswers.ofChain {σ : Type} (chain : Chain (Stateful σ)) (tx : Transaction) (s : σ) :
    EstimateAnswers :=
  let identified := chain.chainId.run s
  let quoted := chain.feeQuote.run identified.2
  ⟨identified.1, quoted.1, ((chain.estimateGas tx).run quoted.2).1⟩

namespace EstimateRequest
variable {σ : Type} {r : EstimateRequest} {a : EstimateAnswers} {tx : Transaction}

/-- Whether answers tell a chain id and a quote that gives fees. -/
structure Prices (r : EstimateRequest) (a : EstimateAnswers) (id : UInt64) (quote : FeeQuote) : Prop where
  identified : a.chainId = .ok id
  quoted : a.quote = .ok quote
  resolved : (Fees.resolve? quote r.overrides).isSome = true

/-- Whether an estimate calls what it has to, and ends as it has to, given the answers to its calls. -/
structure Follows (r : EstimateRequest) (tx : Transaction) (a : EstimateAnswers) (made : List Chain.Call)
    (result : Outcome Failure CostEstimate) : Prop where
  inOrder : made <+: [.chainId, .feeQuote, .estimateGas tx]
  asksChainId : .chainId ∈ made
  asksQuote : .feeQuote ∈ made ↔ ∃ id, a.chainId = .ok id
  asksGas : .estimateGas tx ∈ made ↔ (∃ id quote, r.Prices a id quote) ∧ r.gasLimit = none
  unidentified : ∀ stop, a.chainId = .error stop → result = .error stop
  unquoted : ∀ id stop, a.chainId = .ok id → a.quote = .error stop → result = .error stop
  unpriced : ∀ id quote, a.chainId = .ok id → a.quote = .ok quote → Fees.resolve? quote r.overrides = none →
    result = .error (.failed (.cost .noFees))
  timedOut : ∀ id quote method seconds, r.Prices a id quote → r.gasLimit = none →
    a.gas = .error (.failed (.timeout method seconds)) → result = .error (.failed (.timeout method seconds))
  unavailable : ∀ id quote failure, r.Prices a id quote → r.gasLimit = none → a.gas = .error (.failed failure) →
    (∀ method seconds, failure ≠ .timeout method seconds) → result = .error (.failed (.noEstimate failure.message))
  crashed : ∀ id quote, r.Prices a id quote → r.gasLimit = none → a.gas = .error .crashed → result = .error .crashed
  computed : ∀ id quote gas, r.Prices a id quote → (r.gasLimit = some gas ∨ r.gasLimit = none ∧ a.gas = .ok gas) →
    result = (CostEstimate.compute id gas quote r.overrides r.fiat).mapError fun fault => .failed (.cost fault)

theorem gasFailure_timeout (method : String) (seconds : Nat) :
    gasFailure (.timeout method seconds) = .timeout method seconds := rfl

theorem gasFailure_eq_noEstimate {failure : Failure} (h : ∀ method seconds, failure ≠ .timeout method seconds) :
    gasFailure failure = .noEstimate failure.message := by
  unfold gasFailure
  cases failure with
  | timeout method seconds => exact absurd rfl (h method seconds)
  | _ => rfl

/-- The estimate that a chain id, a quote and an amount of gas give, or why they give none. -/
def estimateOf (r : EstimateRequest) (id : UInt64) (quote : FeeQuote) (gas : Quantity) : Outcome Failure CostEstimate :=
  (CostEstimate.compute id gas quote r.overrides r.fiat).mapError fun fault => .failed (.cost fault)

/-- The ways that an estimate goes, by the answers to its calls. -/
inductive Goes (r : EstimateRequest) (tx : Transaction) (a : EstimateAnswers) :
    List Chain.Call → Outcome Failure CostEstimate → Prop where
  | unidentified (stop : Stop Failure) (hid : a.chainId = .error stop) : Goes r tx a [.chainId] (.error stop)
  | unquoted (id : UInt64) (stop : Stop Failure) (hid : a.chainId = .ok id) (hquote : a.quote = .error stop) :
    Goes r tx a [.chainId, .feeQuote] (.error stop)
  | unpriced (id : UInt64) (quote : FeeQuote) (hid : a.chainId = .ok id) (hquote : a.quote = .ok quote)
    (hfees : Fees.resolve? quote r.overrides = none) :
    Goes r tx a [.chainId, .feeQuote] (.error (.failed (.cost .noFees)))
  | limited (id : UInt64) (quote : FeeQuote) (limit : Quantity) (hprices : r.Prices a id quote)
    (hlimit : r.gasLimit = some limit) : Goes r tx a [.chainId, .feeQuote] (r.estimateOf id quote limit)
  | unmeasured (id : UInt64) (quote : FeeQuote) (stop : Stop Failure) (hprices : r.Prices a id quote)
    (hlimit : r.gasLimit = none) (hgas : a.gas = .error stop) :
    Goes r tx a [.chainId, .feeQuote, .estimateGas tx] (.error (stop.map gasFailure))
  | measured (id : UInt64) (quote : FeeQuote) (gas : Quantity) (hprices : r.Prices a id quote)
    (hlimit : r.gasLimit = none) (hgas : a.gas = .ok gas) :
    Goes r tx a [.chainId, .feeQuote, .estimateGas tx] (r.estimateOf id quote gas)

variable {made : List Chain.Call} {result : Outcome Failure CostEstimate}

theorem Goes.follows (h : r.Goes tx a made result) : r.Follows tx a made result := by
  constructor
  case inOrder => cases h <;> simp
  case asksChainId => cases h <;> simp
  case asksQuote => cases h <;> grind [Prices]
  case asksGas => cases h <;> grind [Prices]
  case unidentified => cases h <;> grind [Prices]
  case unquoted => cases h <;> grind [Prices]
  case unpriced => cases h <;> grind [Prices]
  case timedOut => cases h <;> grind [Prices, Stop.map, gasFailure_timeout]
  case unavailable => cases h <;> grind [Prices, Stop.map, gasFailure_eq_noEstimate]
  case crashed => cases h <;> grind [Prices, Stop.map]
  case computed => cases h <;> grind [Prices, EstimateRequest.estimateOf]

theorem run_settle {α : Type} (result : Except CostFault α) (s : σ) :
    (settle (m := StateM σ) result).run s = (result.mapError fun fault => .failed (.cost fault), s) := by
  cases result <;> rfl

variable (r : EstimateRequest) (chain : Chain (Stateful σ)) (tx : Transaction)

/-- The gas is asked for if there is no limit, and a failure to tell it is reported as such, but for a timeout. -/
theorem run_gas (calls : List Chain.Call) (s : σ) : (r.gas chain.noted tx).run (calls, s) = match r.gasLimit with
    | some limit => (.ok limit, calls, s)
    | none => (((chain.estimateGas tx).run s).1.mapError (Stop.map gasFailure), calls ++ [.estimateGas tx],
        ((chain.estimateGas tx).run s).2) := by
  unfold gas
  cases r.gasLimit <;> rfl

/-- Once there is a quote that gives fees, only the gas is left to ask for. -/
theorem run_goes_of_prices {a : EstimateAnswers} {id : UInt64} {quote : FeeQuote} (h : r.Prices a id quote)
    (calls : List Chain.Call) {s : σ} (hgas : a.gas = ((chain.estimateGas tx).run s).1) : ∃ made result s',
    (do settle (CostEstimate.compute id (← r.gas chain.noted tx) quote r.overrides r.fiat)).run (calls, s) =
      (result, calls ++ made, s') ∧ r.Goes tx a ([.chainId, .feeQuote] ++ made) result := by
  have hmeasure := run_gas r chain tx calls s
  cases hlimit : r.gasLimit with
  | some limit =>
    rw [hlimit] at hmeasure
    rw [Run.run_bind_of_ok hmeasure, run_settle]
    exact ⟨[], _, s, by rw [List.append_nil]; rfl, .limited id quote limit h hlimit⟩
  | none =>
    rw [hlimit, ← hgas] at hmeasure
    cases hanswer : a.gas with
    | error stop =>
      rw [hanswer] at hmeasure
      exact ⟨_, _, _, Run.run_bind_of_error hmeasure _, .unmeasured id quote stop h hlimit hanswer⟩
    | ok gas =>
      rw [hanswer] at hmeasure
      rw [Run.run_bind_of_ok hmeasure, run_settle]
      exact ⟨_, _, _, rfl, .measured id quote gas h hlimit hanswer⟩

/-- An estimate goes as the answers say that the chain gives in turn. -/
theorem run_goes (calls : List Chain.Call) (s : σ) : ∃ made result s',
    (r.run chain.noted tx).run (calls, s) = (result, calls ++ made, s') ∧ r.Goes tx (.ofChain chain tx s) made result := by
  unfold run
  cases hid : chain.chainId.run s with
  | mk id s₁ =>
  have hidentify : chain.noted.chainId.run (calls, s) = (id, calls ++ [.chainId], s₁) := by
    show (Chain.noting _ _).run _ = _
    rw [Chain.run_noting, hid]
  cases hquote : chain.feeQuote.run s₁ with
  | mk quote s₂ =>
  have hask : chain.noted.feeQuote.run (calls ++ [.chainId], s₁) = (quote, calls ++ [.chainId, .feeQuote], s₂) := by
    show (Chain.noting _ _).run _ = _
    rw [Chain.run_noting, hquote, List.append_assoc]
    rfl
  have hanswers : EstimateAnswers.ofChain chain tx s = ⟨id, quote, ((chain.estimateGas tx).run s₂).1⟩ := by
    simp only [EstimateAnswers.ofChain, hid, hquote]
  rw [hanswers]
  cases id with
  | error stop => exact ⟨_, _, _, Run.run_bind_of_error hidentify _, .unidentified stop rfl⟩
  | ok id =>
  rw [Run.run_bind_of_ok hidentify]
  cases quote with
  | error stop => exact ⟨_, _, _, Run.run_bind_of_error hask _, .unquoted id stop rfl rfl⟩
  | ok quote =>
  rw [Run.run_bind_of_ok hask]
  cases hfees : Fees.resolve? quote r.overrides with
  | none => exact ⟨_, _, _, run_settle _ _, .unpriced id quote rfl rfl hfees⟩
  | some fees =>
  have hprices : r.Prices ⟨.ok id, .ok quote, ((chain.estimateGas tx).run s₂).1⟩ id quote :=
    ⟨rfl, rfl, by rw [hfees]; rfl⟩
  obtain ⟨made, result, s', hrun, hgoes⟩ :=
    run_goes_of_prices r chain tx hprices (calls ++ [.chainId, .feeQuote]) rfl
  exact ⟨_, result, s', by rw [← List.append_assoc]; exact hrun, hgoes⟩

/-- Noting the calls changes nothing else. -/
theorem notes_run : Chain.Notes (r.run chain tx) (r.run chain.noted tx) := by
  unfold run
  refine (Chain.notes_noting .chainId chain.chainId).bind fun id => ?_
  refine (Chain.notes_noting .feeQuote chain.feeQuote).bind fun quote => ?_
  split
  · exact Chain.notes_result _
  · refine Chain.Notes.bind ?_ fun gas => ?_
    · unfold gas
      cases r.gasLimit with
      | some limit => exact Chain.notes_result _
      | none => exact Chain.notes_noting (.estimateGas tx) (ExceptT.adapt (Stop.map gasFailure) (chain.estimateGas tx))
    · cases CostEstimate.compute id gas quote r.overrides r.fiat <;> exact Chain.notes_result _

/-- Whatever a chain answers: an estimate calls for the chain id, the quote and the gas, in this order and each
    only once and only if it is needed, and ends as the answers have it. -/
theorem run_follows (calls : List Chain.Call) (s : σ) : ∃ made result s',
    (r.run chain tx).run s = (result, s') ∧ (r.run chain.noted tx).run (calls, s) = (result, calls ++ made, s') ∧
      r.Follows tx (.ofChain chain tx s) made result := by
  obtain ⟨made, result, s', hrun, hgoes⟩ := run_goes r chain tx calls s
  obtain ⟨noted, hnoted⟩ := notes_run r chain tx calls s
  have hsame := hrun.symm.trans hnoted
  rw [Prod.mk.injEq, Prod.mk.injEq] at hsame
  exact ⟨made, result, s', Prod.ext hsame.1.symm hsame.2.2.symm, hrun, hgoes.follows⟩

end EstimateRequest
end SplitterLaunch
