import SplitterLaunch.Proofs.NodeQuote

/-! What a fee quote asks of a node, and what it makes of the replies. It asks for the latest block, the gas price and
    the priority fee, in this order, and goes on as long as nothing is heard that ends it: for the block that is
    anything but a block, for the two fees anything but a value and an error of the node itself. -/

namespace SplitterLaunch

namespace Connection
variable {c : Connection}

/-- What a quote asks and how it ends, given what is heard of the block, the gas price and the priority fee. -/
structure Quotes (c : Connection) (block : Hearing (Option Rpc.Block)) (gasPrice priorityFee : Hearing Quantity)
    (made : List Request) (result : Outcome Failure FeeQuote) : Prop where
  inOrder : made <+: [.latestBlock, .gasPrice, .priorityFee]
  asksBlock : .latestBlock ∈ made
  asksGasPrice : .gasPrice ∈ made ↔ ∃ b, block = .value b
  asksPriorityFee : .priorityFee ∈ made ↔ (∃ b, block = .value b) ∧ ¬ gasPrice.IsFatal
  blockTimedOut : block = .silence → result = .error (.failed (.timeout "eth_getBlockByNumber" (c.timeout / 1000)))
  blockFailed : ∀ fault, block = .refusal fault ∨ block = .failure fault → result = .error (.failed (.rpc fault))
  gasPriceTimedOut : (∃ b, block = .value b) → gasPrice = .silence →
    result = .error (.failed (.timeout "eth_gasPrice" (c.timeout / 1000)))
  gasPriceFailed : ∀ fault, (∃ b, block = .value b) → gasPrice = .failure fault → result = .error (.failed (.rpc fault))
  priorityFeeTimedOut : (∃ b, block = .value b) → ¬ gasPrice.IsFatal → priorityFee = .silence →
    result = .error (.failed (.timeout "eth_maxPriorityFeePerGas" (c.timeout / 1000)))
  priorityFeeFailed : ∀ fault, (∃ b, block = .value b) → ¬ gasPrice.IsFatal → priorityFee = .failure fault →
    result = .error (.failed (.rpc fault))
  quoted : ∀ b, block = .value b → ¬ gasPrice.IsFatal → ¬ priorityFee.IsFatal →
    ∃ quote, result = .ok quote ∧ quote.baseFee = b.bind Rpc.Block.baseFee ∧
      quote.gasPrice = gasPrice.value? ∧ quote.priorityFee = priorityFee.value? ∧
      quote.maxFee.map Quantity.toNat = quote.baseFee.map fun baseFee =>
        min (2 * baseFee.toNat + (quote.priorityFee.map Quantity.toNat).getD (10 ^ 9)) (2 ^ 256 - 1)

/-- The ways that a quote goes, by what its calls come to. -/
inductive QuoteGoes (c : Connection) (block : Hearing (Option Rpc.Block)) (gasPrice priorityFee : Hearing Quantity) :
    List Request → Outcome Failure FeeQuote → Prop where
  | unblocked (stop : Stop Failure) (hblock : block.needed c "eth_getBlockByNumber" = .error stop) :
    QuoteGoes c block gasPrice priorityFee [.latestBlock] (.error stop)
  | unpriced (b : Option Rpc.Block) (stop : Stop Failure) (hblock : block.needed c "eth_getBlockByNumber" = .ok b)
    (hprice : gasPrice.offered c "eth_gasPrice" = .error stop) :
    QuoteGoes c block gasPrice priorityFee [.latestBlock, .gasPrice] (.error stop)
  | untipped (b : Option Rpc.Block) (price : Option Quantity) (stop : Stop Failure)
    (hblock : block.needed c "eth_getBlockByNumber" = .ok b) (hprice : gasPrice.offered c "eth_gasPrice" = .ok price)
    (hfee : priorityFee.offered c "eth_maxPriorityFeePerGas" = .error stop) :
    QuoteGoes c block gasPrice priorityFee [.latestBlock, .gasPrice, .priorityFee] (.error stop)
  | quoted (b : Option Rpc.Block) (price fee : Option Quantity)
    (hblock : block.needed c "eth_getBlockByNumber" = .ok b) (hprice : gasPrice.offered c "eth_gasPrice" = .ok price)
    (hfee : priorityFee.offered c "eth_maxPriorityFeePerGas" = .ok fee) :
    QuoteGoes c block gasPrice priorityFee [.latestBlock, .gasPrice, .priorityFee]
      (.ok (.ofNode (b.bind Rpc.Block.baseFee) price fee))

theorem run_feeQuote_goes (hurl : c.url.TakesRequests) (w : World) : ∃ made result,
    c.feeQuote.run w = (result, made.foldl World.asked w) ∧
      c.QuoteGoes ((w.reply .latestBlock).hearing c.url decodeBlock)
        (((w.asked .latestBlock).reply .gasPrice).hearing c.url decodeQuantity)
        ((((w.asked .latestBlock).asked .gasPrice).reply .priorityFee).hearing c.url decodeQuantity) made result := by
  have hblock := run_call hurl .latestBlock decodeBlock w
  have hprice := run_optionalCall hurl .gasPrice decodeQuantity (w.asked .latestBlock)
  have hfee := run_optionalCall hurl .priorityFee decodeQuantity ((w.asked .latestBlock).asked .gasPrice)
  generalize (w.reply .latestBlock).hearing c.url decodeBlock = block at hblock ⊢
  generalize ((w.asked .latestBlock).reply .gasPrice).hearing c.url decodeQuantity = gasPrice at hprice ⊢
  generalize (((w.asked .latestBlock).asked .gasPrice).reply .priorityFee).hearing c.url decodeQuantity = priorityFee at hfee ⊢
  unfold feeQuote
  cases hb : block.needed c "eth_getBlockByNumber" with
  | error stop => exact ⟨_, _, Run.run_bind_of_error (hblock.trans (by rw [← hb]; rfl)) _, .unblocked stop hb⟩
  | ok b =>
  rw [Run.run_bind_of_ok (hblock.trans (by rw [← hb]; rfl))]
  cases hp : gasPrice.offered c "eth_gasPrice" with
  | error stop => exact ⟨_, _, Run.run_bind_of_error (hprice.trans (by rw [← hp]; rfl)) _, .unpriced b stop hb hp⟩
  | ok price =>
  rw [Run.run_bind_of_ok (hprice.trans (by rw [← hp]; rfl))]
  cases hf : priorityFee.offered c "eth_maxPriorityFeePerGas" with
  | error stop => exact ⟨_, _, Run.run_bind_of_error (hfee.trans (by rw [← hf]; rfl)) _, .untipped b price stop hb hp hf⟩
  | ok fee =>
  rw [Run.run_bind_of_ok (hfee.trans (by rw [← hf]; rfl))]
  exact ⟨_, _, rfl, .quoted b price fee hb hp hf⟩

theorem QuoteGoes.quotes {block : Hearing (Option Rpc.Block)} {gasPrice priorityFee : Hearing Quantity}
    {made : List Request} {result : Outcome Failure FeeQuote} (h : c.QuoteGoes block gasPrice priorityFee made result) :
    c.Quotes block gasPrice priorityFee made result := by
  cases h with
  | unblocked stop hblock =>
    rcases Hearing.needed_eq_error_iff.mp hblock with ⟨rfl, rfl⟩ | ⟨fault, rfl | rfl, rfl⟩ <;> constructor <;> simp
  | unpriced b stop hblock hprice =>
    cases Hearing.needed_eq_ok_iff.mp hblock
    rcases Hearing.offered_eq_error_iff.mp hprice with ⟨rfl, rfl⟩ | ⟨fault, rfl, rfl⟩ <;> constructor <;>
      simp [Hearing.IsFatal]
  | untipped b price stop hblock hprice hfee =>
    cases Hearing.needed_eq_ok_iff.mp hblock
    obtain ⟨hpriced, -⟩ := Hearing.offered_eq_ok_iff.mp hprice
    rcases Hearing.offered_eq_error_iff.mp hfee with ⟨rfl, rfl⟩ | ⟨fault, rfl, rfl⟩ <;> constructor <;>
      simp_all [Hearing.IsFatal]
  | quoted b price fee hblock hprice hfee =>
    cases Hearing.needed_eq_ok_iff.mp hblock
    obtain ⟨hpriced, rfl⟩ := Hearing.offered_eq_ok_iff.mp hprice
    obtain ⟨htipped, rfl⟩ := Hearing.offered_eq_ok_iff.mp hfee
    constructor
    case quoted =>
      rintro _ ⟨⟩ - -
      exact ⟨_, rfl, rfl, rfl, rfl, FeeQuote.maxFee_ofNode ..⟩
    all_goals simp_all [Hearing.IsFatal]

/-- Whatever a node replies: a quote asks for the block, the gas price and the priority fee in this order, goes on until
    something is heard that ends it, and ends as this has it or with the fees that were heard. Where requests cannot be
    sent at all, nothing is asked. -/
theorem feeQuote_classifies (c : Connection) (w : World) :
    (c.url.TakesRequests → ∃ made result, c.feeQuote.run w = (result, made.foldl World.asked w) ∧
      c.Quotes ((w.reply .latestBlock).hearing c.url decodeBlock)
        (((w.asked .latestBlock).reply .gasPrice).hearing c.url decodeQuantity)
        ((((w.asked .latestBlock).asked .gasPrice).reply .priorityFee).hearing c.url decodeQuantity) made result) ∧
    (¬ c.url.TakesRequests → ∃ fault, c.feeQuote.run w = (.error (.failed (.rpc fault)), w)) := by
  constructor
  · intro hurl
    obtain ⟨made, result, hrun, hgoes⟩ := run_feeQuote_goes hurl w
    exact ⟨made, result, hrun, hgoes.quotes⟩
  · intro hurl
    obtain ⟨fault, hfault⟩ := run_call_of_not_takesRequests hurl .latestBlock decodeBlock w
    exact ⟨fault, Run.run_bind_of_error hfault _⟩

end Connection

/-- The world of a dear chain whose node keeps silent on the priority fee. -/
def hushedWorld : World :=
  .start ⟨fun before request => if request = .priorityFee then .silence else dearWorld.node.reply before request⟩
    (.empty []) .epoch

/-- A silent node is reported with the method that it was silent on, though it refused the gas price before. -/
theorem Connection.feeQuote_classifies_hushed :
    localConnection.url.TakesRequests ∧ ∃ made : List Request,
      localConnection.feeQuote.run hushedWorld =
        (.error (.failed (.timeout "eth_maxPriorityFeePerGas" 30)), made.foldl World.asked hushedWorld) ∧
      Request.priorityFee ∈ made := by
  have hurl : localConnection.url.TakesRequests := ⟨by decide +kernel, by decide +kernel⟩
  obtain ⟨made, result, hrun, hquotes⟩ := (localConnection.feeQuote_classifies hushedWorld).1 hurl
  obtain ⟨block, hblock, -⟩ := tells_dearWorld.block
  have hblock : ∃ b, (hushedWorld.reply .latestBlock).hearing localConnection.url decodeBlock = .value b :=
    ⟨block, Rpc.hearing_eq_value_iff.mpr hblock⟩
  obtain ⟨fault, hprice⟩ : ∃ fault,
      ((hushedWorld.asked .latestBlock).reply .gasPrice).hearing localConnection.url decodeQuantity = .refusal fault :=
    Rpc.hearing_of_offers_none tells_dearWorld.gasPrice
  have hpriced : ¬ (((hushedWorld.asked .latestBlock).reply .gasPrice).hearing localConnection.url decodeQuantity).IsFatal := by
    rintro (h | ⟨fault', h⟩) <;> cases hprice.symm.trans h
  refine ⟨hurl, made, ?_, hquotes.asksPriorityFee.mpr ⟨hblock, hpriced⟩⟩
  rw [hrun, hquotes.priorityFeeTimedOut hblock hpriced rfl]
  rfl

end SplitterLaunch
