import Mathlib.Data.List.Infix
import Mathlib.Data.List.Nodup
import SplitterLaunch.Command.Estimate
import SplitterLaunch.Proofs.Session.Requests
import SplitterLaunch.Proofs.Settings.Signer

/-! Commands that only look. They ask a node along a plan, each request at most once and none after one that did
    not get through, print, and change nothing else. So an estimate asks for nothing but the chain id, the fees
    and, without a gas limit, the gas, and a balance for nothing but the chain id and the balance. -/

namespace SplitterLaunch

/-! ### Plans -/

/-- What is asked along a plan, the latest first: requests that may be made, their methods in the order of the
    plan, and nothing after a request that did not reach the node. With an answer the plan is completed. -/
structure Keeps {α : Type} (may : Request → Prop) (plan : List String) (sent : List Exchange)
    (result : Except (Stop Failure) α) : Prop where
  may : ∀ e ∈ sent, may e.request
  inOrder : (sent.map fun e => e.request.method).reverse <+: plan
  unbroken : sent.Pairwise fun _ earlier => earlier.received = true
  complete : ∀ a, result = .ok a →
    (sent.map fun e => e.request.method).reverse = plan ∧ ∀ e ∈ sent, e.received = true

/-- A part that asks along a plan, prints, and does nothing else. -/
def Inspects {α : Type} (may : Request → Prop) (plan : List String) (x : Run α) : Prop :=
  ∀ w, ∃ sent lines, (x.run w).2 = (w.after sent).saying lines ∧ Keeps may plan sent (x.run w).1

section
variable {α β : Type} {may : Request → Prop} {plan next : List String} {x : Run α}

theorem keeps_nothing (stop : Stop Failure) : Keeps (α := α) may plan [] (.error stop) where
  may := by simp
  inOrder := List.nil_prefix
  unbroken := List.Pairwise.nil
  complete := by simp

theorem keeps_empty (result : Except (Stop Failure) α) : Keeps may [] [] result where
  may := by simp
  inOrder := List.nil_prefix
  unbroken := List.Pairwise.nil
  complete := by simp

theorem inspects_throw (stop : Stop Failure) : Inspects may plan (throw stop : Run α) :=
  fun w => ⟨[], [], (w.saying_nil).symm, keeps_nothing stop⟩

theorem inspects_pure (a : α) : Inspects may [] (pure a : Run α) :=
  fun w => ⟨[], [], (w.saying_nil).symm, keeps_empty _⟩

theorem inspects_printAll (lines : List String) : Inspects may [] (Run.printAll lines) := by
  intro w
  rw [Run.run_printAll]
  exact ⟨[], lines, rfl, keeps_empty _⟩

theorem inspects_print (line : String) : Inspects may [] (Run.print line) := by
  intro w
  rw [Run.run_print]
  exact ⟨[], [line], rfl, keeps_empty _⟩

/-- Along a sequence one plan is followed after the other. -/
theorem Inspects.bind {f : α → Run β} (h : Inspects may plan x) (hf : ∀ a, Inspects may next (f a)) :
    Inspects may (plan ++ next) (x >>= f) := by
  intro w
  obtain ⟨sent, lines, hw, hsent⟩ := h w
  cases hx : x.run w with
  | mk result w' =>
  rw [hx] at hw hsent
  subst hw
  cases result with
  | error stop =>
    rw [Run.run_bind_of_error hx]
    refine ⟨sent, lines, rfl, hsent.may, hsent.inOrder.trans (List.prefix_append _ _), hsent.unbroken, by simp⟩
  | ok a =>
    rw [Run.run_bind_of_ok hx]
    obtain ⟨hplan, hreceived⟩ := hsent.complete a rfl
    obtain ⟨further, said, hw, hfurther⟩ := hf a ((w.after sent).saying lines)
    refine ⟨further ++ sent, lines ++ said, ?_, ?_, ?_, ?_, ?_⟩
    · rw [hw, World.saying_after, World.after_after, World.saying_saying]
    · exact fun e he => (List.mem_append.mp he).elim (hfurther.may e) (hsent.may e)
    · rw [List.map_append, List.reverse_append, hplan, List.prefix_append_right_inj]
      exact hfurther.inOrder
    · exact List.pairwise_append.mpr ⟨hfurther.unbroken, hsent.unbroken, fun _ _ e he => hreceived e he⟩
    · intro b hb
      obtain ⟨hnext, hlater⟩ := hfurther.complete b hb
      refine ⟨by rw [List.map_append, List.reverse_append, hplan, hnext], fun e he => ?_⟩
      exact (List.mem_append.mp he).elim (hlater e) (hreceived e)

/-- How a failure is told does not matter to the plan. -/
theorem Inspects.adapt (h : Inspects may plan x) (f : Stop Failure → Stop Failure) :
    Inspects may plan (ExceptT.adapt f x) := by
  intro w
  obtain ⟨sent, lines, hw, hsent⟩ := h w
  have hrun : (ExceptT.adapt f x).run w = ((x.run w).1.mapError f, (x.run w).2) := rfl
  rw [hrun]
  exact ⟨sent, lines, hw, hsent.may, hsent.inOrder, hsent.unbroken,
    fun a ha => hsent.complete a (Outcome.mapError_eq_ok_iff.mp ha)⟩

/-- A part that asks nothing is done with before the plan begins. -/
theorem inspects_require_bind {ε : Type} {failure : ε → Failure} {result : Except ε α} {f : α → Run β}
    (h : ∀ a, result = .ok a → Inspects may plan (f a)) : Inspects may plan (Run.require failure result >>= f) := by
  cases result with
  | error fault => exact inspects_throw _
  | ok a => exact h a rfl

theorem inspects_settle_bind {ε : Type} {failure : ε → Failure} {result : Outcome ε α} {f : α → Run β}
    (h : ∀ a, result = .ok a → Inspects may plan (f a)) : Inspects may plan (Run.settle failure result >>= f) := by
  cases result with
  | error stop => exact inspects_throw _
  | ok a => exact h a rfl

theorem inspects_files_bind {f : Files → Run β} (h : ∀ files, Inspects may plan (f files)) :
    Inspects may plan (Run.files >>= f) := by
  intro w
  rw [Run.run_bind_of_ok Run.run_files]
  exact h w.disk.files w

end

/-! ### Calls -/

namespace Connection
variable {α : Type} {may : Request → Prop} {request : Request} {reply : Reply}

theorem keeps_single {result : Except (Stop Failure) α} (h : may request)
    (hreply : ∀ a, result = .ok a → Exchange.received ⟨request, reply⟩ = true) :
    Keeps may [request.method] [⟨request, reply⟩] result where
  may := by simpa using h
  inOrder := List.prefix_rfl
  unbroken := List.pairwise_singleton _ _
  complete a ha := ⟨rfl, by simpa using hreply a ha⟩

theorem inspects_of_asks {x : Run α} {plan : List String} (h : Run.Asks x (Keeps may plan)) :
    Inspects may plan x := by
  intro w
  obtain ⟨sent, hw, hsent⟩ := h w
  exact ⟨sent, [], by rw [hw, World.saying_nil], hsent⟩

variable (c : Connection) (decode : Json.Source → Option α)

/-- A call is made at most once, and answers only if it reached the node. -/
theorem inspects_call (h : may request) : Inspects may [request.method] (c.call request decode) := by
  refine inspects_of_asks ?_
  unfold call
  refine (c.asks_request request decode).bind ?_ ?_
  · rintro sent stop (⟨-, fault, -, h⟩ | ⟨reply, -, h⟩) <;> cases h
  rintro sent outcome (⟨rfl, fault, -, h⟩ | ⟨reply, rfl, h⟩) <;> cases h
  · exact Run.asks_require (keeps_nothing _)
  refine Run.asks_require (keeps_single h fun a ha => ?_)
  cases reply with
  | unreachable fault => cases ha
  | silence | body text => rfl

/-- An optional call does without an answer only if the node refuses one. -/
theorem inspects_optionalCall (h : may request) : Inspects may [request.method] (c.optionalCall request decode) := by
  refine inspects_of_asks ?_
  unfold optionalCall
  refine (c.asks_request request decode).bind ?_ ?_
  · rintro sent stop (⟨-, fault, -, h⟩ | ⟨reply, -, h⟩) <;> cases h
  rintro sent outcome (⟨rfl, fault, hfault, h⟩ | ⟨reply, rfl, h⟩) <;> cases h
  · cases fault with
    | refused => cases hfault
    | unreachable | unsupported | unsendable | undecodable | other => exact Run.asks_fail (keeps_nothing _)
  cases reply with
  | silence | unreachable => exact Run.asks_fail (keeps_single h nofun)
  | body text =>
    split
    · exact Run.asks_pure (keeps_single h fun _ _ => rfl)
    · exact Run.asks_pure (keeps_single h fun _ _ => rfl)
    · exact Run.asks_fail (keeps_single h fun _ _ => rfl)

theorem inspects_chainId (h : may .chainId) : Inspects may ["eth_chainId"] c.chainId :=
  (c.inspects_call _ h).bind fun id => by
    split
    · exact inspects_pure _
    · exact inspects_throw _

theorem inspects_feeQuote (hblock : may .latestBlock) (hprice : may .gasPrice) (hfee : may .priorityFee) :
    Inspects may ["eth_getBlockByNumber", "eth_gasPrice", "eth_maxPriorityFeePerGas"] c.feeQuote :=
  (c.inspects_call _ hblock).bind fun _ => (c.inspects_optionalCall _ hprice).bind fun _ =>
    (c.inspects_optionalCall _ hfee).bind fun _ => inspects_pure _

end Connection

/-! ### The commands -/

/-- The methods that an estimate calls once it has fees. -/
def Estimate.gasPlan (settings : Settings) : List String :=
  if settings.gasLimit.isNone then ["eth_estimateGas"] else []

/-- The methods that an estimate calls. -/
def Estimate.plan (settings : Settings) : List String :=
  ["eth_chainId", "eth_getBlockByNumber", "eth_gasPrice", "eth_maxPriorityFeePerGas"] ++ gasPlan settings

/-- The methods that a balance calls. -/
def Balance.plan : List String := ["eth_chainId", "eth_getBalance"]

/-- The requests that an estimate may make: a transaction whose gas is asked for is sent from the account that
    deploys. -/
def Estimate.May (settings : Settings) (request : Request) : Prop :=
  ∀ tx, request = .estimateGas tx → ∃ account, tx.sender = some account ∧ settings.SendsFrom account

theorem inspects_settle (result : Except CostFault α) :
    Inspects may [] (EstimateRequest.settle result : Run α) := by
  cases result with
  | ok a => exact inspects_pure a
  | error fault => exact inspects_throw _

namespace Estimate
variable {settings : Settings} {tx : Transaction} {account : Address} (c : Connection)

theorem inspects_gas (hsender : tx.sender = some account) (haccount : settings.SendsFrom account) :
    Inspects (May settings) (gasPlan settings) ((request settings).gas c.chain tx) := by
  have hlimit : (request settings).gasLimit = settings.gasLimit := rfl
  unfold EstimateRequest.gas gasPlan
  rw [hlimit]
  cases settings.gasLimit with
  | some limit => exact inspects_pure limit
  | none =>
    refine (c.inspects_call _ ?_).adapt _
    rintro tx' ⟨⟩
    exact ⟨account, hsender, haccount⟩

theorem may_of_ne {request : Request} (h : ∀ tx, request ≠ .estimateGas tx) : May settings request :=
  fun tx heq => absurd heq (h tx)

theorem inspects_request (hsender : tx.sender = some account) (haccount : settings.SendsFrom account) :
    Inspects (May settings) (plan settings) ((request settings).run c.chain tx) := by
  unfold EstimateRequest.run
  refine (c.inspects_chainId (may_of_ne fun _ => nofun)).bind fun id => ?_
  have hmay : May settings .latestBlock ∧ May settings .gasPrice ∧ May settings .priorityFee :=
    ⟨may_of_ne fun _ => nofun, may_of_ne fun _ => nofun, may_of_ne fun _ => nofun⟩
  refine (c.inspects_feeQuote hmay.1 hmay.2.1 hmay.2.2).bind fun quote => ?_
  cases Fees.resolve? quote (request settings).overrides with
  | none => exact inspects_throw _
  | some fees =>
    rw [← List.append_nil (gasPlan settings)]
    exact (inspects_gas c hsender haccount).bind fun gas => inspects_settle _

end Estimate

theorem Estimate.inspects_run (settings : Settings) (network : Network) (json : Bool) :
    Inspects (Estimate.May settings) (Estimate.plan settings) (Estimate.run settings network json) := by
  unfold Estimate.run
  refine inspects_require_bind fun admin hadmin => ?_
  refine inspects_require_bind fun account haccount => ?_
  refine inspects_files_bind fun files => ?_
  refine inspects_settle_bind fun artifact _ => ?_
  refine inspects_require_bind fun c _ => ?_
  refine inspects_require_bind fun tx _ => ?_
  rw [← List.append_nil (Estimate.plan settings)]
  refine (Estimate.inspects_request c rfl (Settings.deployer_eq_ok_iff.mp haccount)).bind fun estimate => ?_
  split
  · exact inspects_print _
  · exact inspects_printAll _

theorem Balance.inspects_run (settings : Settings) (network : Network) (named : Option String) :
    Inspects (fun _ => True) Balance.plan (Balance.run settings network named) := by
  unfold Balance.run
  refine inspects_require_bind fun account _ => ?_
  refine inspects_require_bind fun c _ => ?_
  exact (c.inspects_chainId trivial).bind fun id => (c.inspects_call _ trivial).bind fun balance => inspects_printAll _

/-! ### What a look leaves behind -/

/-- What a run that only looks does to its world: it makes requests along a plan, each method at most once and no
    transaction among them, and leaves the disk alone. -/
structure Looked (plan : List String) (w w' : World) (sent : List Exchange) : Prop where
  exchanges : w'.exchanges = sent ++ w.exchanges
  disk : w'.disk = w.disk
  inOrder : (sent.map fun e => e.request.method).reverse <+: plan
  /-- The same is true of the requests that reach the node. -/
  received : ((sent.filter Exchange.received).map fun e => e.request.method).reverse <+: plan
  once : (sent.map fun e => e.request.method).Nodup
  unsubmitted : ∀ e ∈ sent, e.request.isBroadcast = false

theorem Request.method_of_isBroadcast {request : Request} (h : request.isBroadcast = true) :
    request.method = "eth_sendRawTransaction" := by
  cases request <;> first | rfl | cases h

/-- Only the latest request may not have reached the node, so those that did are still in order. -/
theorem Keeps.received {α : Type} {may : Request → Prop} {plan : List String} {sent : List Exchange}
    {result : Except (Stop Failure) α} (h : Keeps may plan sent result) :
    ((sent.filter Exchange.received).map fun e => e.request.method).reverse <+: plan := by
  cases sent with
  | nil => exact List.nil_prefix
  | cons e sent =>
    have hearlier : sent.filter Exchange.received = sent :=
      List.filter_eq_self.mpr (List.pairwise_cons.mp h.unbroken).1
    have horder := h.inOrder
    rw [List.map_cons, List.reverse_cons] at horder
    by_cases he : e.received = true
    · rw [List.filter_cons_of_pos he, hearlier]
      exact h.inOrder
    · rw [List.filter_cons_of_neg he, hearlier]
      exact (List.prefix_append _ _).trans horder

theorem Inspects.looked {α : Type} {may : Request → Prop} {plan : List String} {x : Run α} (h : Inspects may plan x)
    (honce : plan.Nodup) (hquiet : "eth_sendRawTransaction" ∉ plan) (w : World) :
    ∃ sent, Looked plan w (x.run w).2 sent ∧ ∀ e ∈ sent, may e.request := by
  obtain ⟨sent, lines, hw, hsent⟩ := h w
  rw [hw]
  refine ⟨sent, ⟨rfl, rfl, hsent.inOrder, hsent.received, ?_, fun e he => ?_⟩, hsent.may⟩
  · exact List.nodup_reverse.mp (honce.sublist hsent.inOrder.sublist)
  · rw [← Bool.not_eq_true]
    intro hbroadcast
    have hmem : e.request.method ∈ (sent.map fun e => e.request.method).reverse :=
      List.mem_reverse.mpr (List.mem_map_of_mem he)
    exact hquiet (Request.method_of_isBroadcast hbroadcast ▸ hsent.inOrder.subset hmem)

/-- Whatever the settings, the files and the replies: an estimate and a balance only look, and the transaction
    whose gas is asked for is sent from the account of the key, or from the administrator without one. -/
theorem estimate_and_balance_look (settings : Settings) (network : Network) (w : World) :
    (∀ json, ∃ sent, Looked (Estimate.plan settings) w ((Estimate.run settings network json).run w).2 sent ∧
      ∀ e ∈ sent, Estimate.May settings e.request) ∧
    ∀ named, ∃ sent, Looked Balance.plan w ((Balance.run settings network named).run w).2 sent := by
  constructor
  · intro json
    refine (Estimate.inspects_run settings network json).looked ?_ ?_ w <;>
      · unfold Estimate.plan Estimate.gasPlan
        split <;> decide
  · intro named
    obtain ⟨sent, hlooked, -⟩ := (Balance.inspects_run settings network named).looked (by decide) (by decide) w
    exact ⟨sent, hlooked⟩

end SplitterLaunch
