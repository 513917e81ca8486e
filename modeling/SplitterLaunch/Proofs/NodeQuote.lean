import SplitterLaunch.Proofs.CostBounds
import SplitterLaunch.Proofs.Session.Hearing
import SplitterLaunch.Proofs.Session.Replies

/-! What a node tells about fees, and the estimate that comes of it when the user sets no fees. The maximum
    that is suggested leaves room for base fee and priority fee together, so a lower bound never needs to be
    cut down to the upper one, except where the estimate fails anyway. -/

namespace SplitterLaunch

/-! ### What a node tells -/

/-- The fees that a node gives, each missing where the node has none or refuses to tell it. -/
structure NodeFees where
  baseFee : Option Quantity
  gasPrice : Option Quantity
  priorityFee : Option Quantity

namespace NodeFees

/-- The priority fee that counts, one gwei where the node refuses to tell one. -/
def tip (fees : NodeFees) : Nat := (fees.priorityFee.map Quantity.toNat).getD (10 ^ 9)

/-- The maximum that is suggested for a base fee: twice this fee and the priority fee, or the largest quantity. -/
def maximum (fees : NodeFees) (baseFee : Quantity) : Nat := min (2 * baseFee.toNat + fees.tip) (2 ^ 256 - 1)

def quote (fees : NodeFees) : FeeQuote := .ofNode fees.baseFee fees.gasPrice fees.priorityFee

end NodeFees

/-- Whether a reply gives a quantity, or tells that the node refuses to give one. -/
def Reply.Offers (reply : Reply) : Option Quantity → Prop
  | some q => Rpc.result? Connection.decodeQuantity reply = some q
  | none => ∃ text fault, reply = .body text ∧ Rpc.read? text = some (.error fault) ∧ fault.isRefusal = true

/-- Whether the node of a world tells fees when it is asked for them. -/
structure World.Tells (w : World) (fees : NodeFees) : Prop where
  block : ∃ block, Rpc.result? Connection.decodeBlock (w.reply .latestBlock) = some block ∧
    block.bind Rpc.Block.baseFee = fees.baseFee
  gasPrice : ((w.asked .latestBlock).reply .gasPrice).Offers fees.gasPrice
  priorityFee : (((w.asked .latestBlock).asked .gasPrice).reply .priorityFee).Offers fees.priorityFee

theorem Rpc.hearing_of_offers_none {α : Type} {url : Url} {decode : Json.Source → Option α} {reply : Reply}
    (h : reply.Offers none) : ∃ fault, reply.hearing url decode = .refusal fault := by
  obtain ⟨text, fault, rfl, hread, -⟩ := h
  exact ⟨fault, by rw [Reply.hearing, hread]⟩

namespace Connection
variable {c : Connection} {w : World} {fees : NodeFees}

theorem run_optionalCall_of_offers (hurl : c.url.TakesRequests) {request : Request} {fee : Option Quantity}
    (h : (w.reply request).Offers fee) :
    (c.optionalCall request decodeQuantity).run w = (.ok fee, w.asked request) := by
  rw [run_optionalCall hurl]
  cases fee with
  | some q =>
    rw [Rpc.hearing_eq_value_iff.mpr h]
    rfl
  | none =>
    obtain ⟨fault, hfault⟩ := Rpc.hearing_of_offers_none h
    rw [hfault]
    rfl

/-- A node that tells its fees is quoted with them. -/
theorem run_feeQuote (hurl : c.url.TakesRequests) (h : w.Tells fees) : (c.feeQuote.run w).1 = .ok fees.quote := by
  obtain ⟨block, hblock, hbase⟩ := h.block
  unfold feeQuote
  rw [Run.run_bind_of_ok (run_call_eq_ok_iff.mpr ⟨hurl, hblock, rfl⟩),
    Run.run_bind_of_ok (run_optionalCall_of_offers hurl h.gasPrice),
    Run.run_bind_of_ok (run_optionalCall_of_offers hurl h.priorityFee), hbase]
  rfl

end Connection

/-! ### The estimate -/

namespace FeeQuote

theorem toNat_getD_oneGwei (fee : Option Quantity) :
    (fee.getD oneGwei).toNat = (fee.map Quantity.toNat).getD (10 ^ 9) := by
  cases fee <;> rfl

theorem maxFee_ofNode (baseFee gasPrice priorityFee : Option Quantity) :
    (ofNode baseFee gasPrice priorityFee).maxFee.map Quantity.toNat = baseFee.map fun fee =>
      min (2 * fee.toNat + (priorityFee.map Quantity.toNat).getD (10 ^ 9)) (2 ^ 256 - 1) := by
  cases baseFee with
  | none => rfl
  | some fee =>
    show some (Quantity.saturate (2 * fee.toNat + (priorityFee.getD oneGwei).toNat)).toNat = _
    rw [Quantity.toNat_saturate_eq_min, toNat_getD_oneGwei]
    rfl

end FeeQuote

namespace NodeFees

/-- The fee that a transaction pays is within what is suggested, if it is a quantity at all. -/
theorem add_tip_le_maximum {fees : NodeFees} {baseFee : Quantity} (h : baseFee.toNat + fees.tip < 2 ^ 256) :
    baseFee.toNat + fees.tip ≤ fees.maximum baseFee := by
  unfold maximum
  omega

theorem maxFee?_quote (fees : NodeFees) : CostEstimate.maxFee? fees.quote .none =
    (fees.baseFee.map fees.maximum <|> fees.gasPrice.map Quantity.toNat) := by
  obtain ⟨baseFee, gasPrice, priorityFee⟩ := fees
  cases baseFee with
  | none => cases gasPrice <;> rfl
  | some b => exact FeeQuote.maxFee_ofNode (some b) gasPrice priorityFee

theorem priorityFee_quote (fees : NodeFees) : CostEstimate.priorityFee fees.quote .none = fees.tip := by
  obtain ⟨-, -, priorityFee⟩ := fees
  cases priorityFee <;> rfl

section
variable (fees : NodeFees) (chainId : UInt64) (gas : Quantity) (fiat : FiatSettings)

/-- What an estimate from these fees comes to. On a chain with a base fee neither bound is cut down to the other. -/
structure Prices (gas : Nat) (e : CostEstimate) : Prop where
  market : ∀ b, fees.baseFee = some b →
    e.cost.lower.toNat = gas * (b.toNat + fees.tip) ∧ e.cost.upper.toNat = gas * fees.maximum b ∧
      (e.cost.isExact = true ↔ gas = 0 ∨ b.toNat + fees.tip = fees.maximum b)
  flat : fees.baseFee = none → ∃ cost price, e.cost = .exact cost ∧ fees.gasPrice = some price ∧
    cost.toNat = gas * price.toNat

theorem prices_of_compute {e : CostEstimate} (h : CostEstimate.compute chainId gas fees.quote .none fiat = .ok e) :
    fees.Prices gas.toNat e := by
  have ends := CostEstimate.compute_ends chainId gas fees.quote .none fiat
  have hexact := CostEstimate.isExact_cost_iff h
  rw [h, maxFee?_quote, priorityFee_quote] at ends
  cases ends with
  | estimate hmax hf hp hupper hlower =>
  refine ⟨fun b hb => ?_, fun hnone => ?_⟩
  · have hbase : fees.quote.baseFee.map Quantity.toNat = some b.toNat := congrArg (Option.map Quantity.toNat) hb
    rw [hb] at hmax
    cases hmax
    have hle := add_tip_le_maximum (hp _ hbase)
    rw [hbase, CostEstimate.leastCost, Nat.min_eq_left hle] at hlower
    refine ⟨hlower, hupper, ?_⟩
    rw [hexact, hlower, hupper]
    constructor
    · intro heq
      exact (Nat.eq_zero_or_pos gas.toNat).imp_right fun hpos => Nat.eq_of_mul_eq_mul_left hpos heq
    · rintro (hzero | heq)
      · rw [hzero, Nat.zero_mul, Nat.zero_mul]
      · rw [heq]
  · have hbase : fees.quote.baseFee.map Quantity.toNat = none := congrArg (Option.map Quantity.toNat) hnone
    rw [hbase, CostEstimate.leastCost] at hlower
    rw [hnone] at hmax
    obtain ⟨price, hprice, rfl⟩ := Option.map_eq_some_iff.mp hmax
    have hisExact : e.cost.isExact = true := hexact.mpr (hlower.trans hupper.symm)
    cases hcost : e.cost with
    | exact cost =>
      rw [hcost] at hupper
      exact ⟨cost, price, rfl, hprice, hupper⟩
    | range lower upper =>
      rw [hcost] at hisExact
      cases hisExact

/-- Whether the costs that the fees give for an amount of gas are quantities. -/
def Priceable (gas : Nat) : Prop :=
  (∀ b, fees.baseFee = some b → gas * fees.maximum b < 2 ^ 256 ∧ b.toNat + fees.tip < 2 ^ 256) ∧
  (fees.baseFee = none → ∃ price, fees.gasPrice = some price ∧ gas * price.toNat < 2 ^ 256)

theorem compute_eq_ok_iff : (∃ e, CostEstimate.compute chainId gas fees.quote .none fiat = .ok e) ↔
    fees.Priceable gas.toNat := by
  rw [CostEstimate.exists_compute_eq_ok_iff, maxFee?_quote, priorityFee_quote]
  show (∃ f, _ ∧ _ ∧ ∀ b, fees.baseFee.map Quantity.toNat = some b → _) ↔ _
  unfold Priceable
  cases fees.baseFee with
  | none => simp
  | some b => simp

theorem compute_eq_noFees_iff : CostEstimate.compute chainId gas fees.quote .none fiat = .error .noFees ↔
    fees.baseFee = none ∧ fees.gasPrice = none := by
  have hmax : CostEstimate.maxFee? fees.quote .none = none ↔ fees.baseFee = none ∧ fees.gasPrice = none := by
    rw [maxFee?_quote]
    cases fees.baseFee <;> cases fees.gasPrice <;> simp
  rw [← hmax]
  have ends := CostEstimate.compute_ends chainId gas fees.quote .none fiat
  generalize CostEstimate.compute chainId gas fees.quote .none fiat = outcome at ends ⊢
  cases ends with
  | noFees h => simp [h]
  | upperBound h _ => simp [h]
  | effectivePrice h _ _ _ => simp [h]
  | estimate h _ _ _ _ => simp [h]

end

end NodeFees

namespace Connection

/-- Against a node that tells its fees there is a quote. The estimate from this quote alone has the bounds of these
    fees, which nothing cuts down; it exists if the costs are quantities, and fails for want of fees exactly where the
    node has neither a base fee nor a gas price. -/
theorem feeQuote_prices (c : Connection) (w : World) (fees : NodeFees) (hurl : c.url.TakesRequests) (htells : w.Tells fees)
    (chainId : UInt64) (gas : Quantity) (fiat : FiatSettings) :
    ∃ quote, (c.feeQuote.run w).1 = .ok quote ∧
      (∀ e, CostEstimate.compute chainId gas quote .none fiat = .ok e → fees.Prices gas.toNat e) ∧
      ((∃ e, CostEstimate.compute chainId gas quote .none fiat = .ok e) ↔ fees.Priceable gas.toNat) ∧
      (CostEstimate.compute chainId gas quote .none fiat = .error .noFees ↔
        fees.baseFee = none ∧ fees.gasPrice = none) :=
  ⟨fees.quote, run_feeQuote hurl htells, fun _ h => fees.prices_of_compute chainId gas fiat h,
    fees.compute_eq_ok_iff chainId gas fiat, fees.compute_eq_noFees_iff chainId gas fiat⟩

end Connection

/-! ### A dear chain -/

/-- A base fee that cannot double. -/
def dearFee : Quantity := ⟨2 ^ 255, by decide⟩

def dearBlock : Json :=
  .object [("baseFeePerGas", .string "0x8000000000000000000000000000000000000000000000000000000000000000")]

def refusal : String :=
  "\x7b\"jsonrpc\":\"2.0\",\"id\":1,\"error\":\x7b\"code\":-32601,\"message\":\"Method not found\"\x7d\x7d"

/-- A world whose node has that base fee and knows nothing else about fees. -/
def dearWorld : World :=
  .start ⟨fun _ request => if request = .latestBlock then Rpc.answer dearBlock else .body refusal⟩ (.empty []) .epoch

def localConnection : Connection := ⟨⟨"http", "", some "[::1]:8545", "/", none, none⟩, 30000⟩

theorem tells_dearWorld : dearWorld.Tells ⟨some dearFee, none, none⟩ := by
  have hblock : Json.asNullable? Rpc.block? dearBlock = some (some ⟨some dearFee⟩) := by decide +kernel
  have hplain : dearBlock.IsPlain Json.maxDepth := ⟨by decide +kernel, by decide +kernel⟩
  have hrefused : (Reply.body refusal).Offers none := by
    have hread : (Rpc.read? refusal).any (fun | .error fault => fault.isRefusal | _ => false) = true := by decide +kernel
    obtain ⟨fault, hfault, hrefusal⟩ : ∃ fault, Rpc.read? refusal = some (.error fault) ∧ fault.isRefusal = true := by
      match hsaid : Rpc.read? refusal with
      | some (.error fault) => exact ⟨fault, rfl, by rw [hsaid] at hread; exact hread⟩
      | some (.ok result) => rw [hsaid] at hread; cases hread
      | none => rw [hsaid] at hread; cases hread
    exact ⟨refusal, fault, rfl, hfault, hrefusal⟩
  exact ⟨⟨_, Rpc.result?_answer_of_read (fun _ => rfl) (by decide +kernel) hplain hblock, rfl⟩, hrefused, hrefused⟩

/-- On a dear chain one unit of gas has both bounds, and no sum is cut down but the maximum. -/
theorem Connection.feeQuote_prices_dear :
    ∃ quote, (localConnection.feeQuote.run dearWorld).1 = .ok quote ∧
      ∃ e, CostEstimate.compute 1 ⟨1, by decide⟩ quote .none ⟨[], FiatSettings.defaultUsdToIdr⟩ = .ok e ∧
        e.cost.lower.toNat = 2 ^ 255 + 10 ^ 9 ∧ e.cost.upper.toNat = 2 ^ 256 - 1 ∧ e.cost.isExact = false := by
  have hurl : localConnection.url.TakesRequests := ⟨by decide +kernel, by decide +kernel⟩
  obtain ⟨quote, hquote, hprices, hok, -⟩ := localConnection.feeQuote_prices dearWorld _ hurl tells_dearWorld 1
    ⟨1, by decide⟩ ⟨[], FiatSettings.defaultUsdToIdr⟩
  obtain ⟨e, he⟩ := hok.mpr ⟨by rintro _ ⟨⟩; decide, nofun⟩
  obtain ⟨hlower, hupper, hexact⟩ := (hprices e he).market dearFee rfl
  have hrange : e.cost.isExact ≠ true := by
    rw [Ne, hexact]
    decide
  exact ⟨quote, hquote, e, he, hlower.trans (by decide), hupper.trans (by decide), by simpa using hrange⟩

end SplitterLaunch
