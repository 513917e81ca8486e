import SplitterLaunch.Cost.Summary
import SplitterLaunch.Proofs.Codec.Record
import SplitterLaunch.Proofs.CostBounds
import SplitterLaunch.Proofs.DecimalText
import SplitterLaunch.Proofs.Json.Rereading
import SplitterLaunch.Proofs.Worth

/-! The JSON of an estimate. Its text is read as an object that tells the estimate: every quantity to the last digit,
    and all bounds in the form that those of the cost have. -/

namespace SplitterLaunch

/-! ### Quantities and bounds -/

/-- Reads a quantity from its decimal text. -/
def Quantity.ofJson? (j : Json) : Option Quantity := j.asString?.bind fun s => (Quantity.read s.toList).toOption

theorem Quantity.ofJson?_toJson (q : Quantity) : ofJson? q.toJson = some q := by
  have hread : Quantity.read q.decimal.toList = .ok q := by
    rw [read_eq_ok_iff, decimal, String.toList_ofList]
    exact ⟨fun _ hc => Numeral.isDigit_of_mem_decimal hc, Numeral.value_decimal _⟩
  show (Quantity.read q.decimal.toList).toOption = some q
  rw [hread]
  rfl

namespace Bounds
variable {α β : Type}

/-- Reads bounds from one value under `exact` or from both ends under `range`. -/
def ofJson? (read : Json → Option α) : Json → Option (Bounds α)
  | .object [("exact", value)] => (read value).map .exact
  | .object [("range", .object [("lower", lower), ("upper", upper)])] => do
    return .range (← read lower) (← read upper)
  | _ => none

theorem ofJson?_toJson {read : Json → Option α} {f : α → Json} (h : ∀ x, read (f x) = some x) (b : Bounds α) :
    ofJson? read (b.toJson f) = some b := by
  cases b with
  | exact x =>
    show (read (f x)).map exact = _
    rw [h]
    rfl
  | range x y =>
    show ((read (f x)).bind fun lower => (read (f y)).bind fun upper => some (range lower upper)) = _
    rw [h, h]
    rfl

theorem isOrdered_toJson {f : α → Json} (h : ∀ x, Json.isOrdered (f x) = true) (b : Bounds α) :
    Json.isOrdered (b.toJson f) = true := by
  cases b with
  | exact x => simp [toJson, Json.isOrdered, Json.isOrderedMembers, h]
  | range x y =>
    have hnames : Text.precedes "lower" "upper" = true := by decide
    simp [toJson, Json.isOrdered, Json.isOrderedMembers, h, hnames]

theorem isExact_toJson {f : α → Json} (h : ∀ x, Json.isExact (f x) = true) (b : Bounds α) :
    Json.isExact (b.toJson f) = true := by
  cases b <;> simp [toJson, Json.isExact, Json.isExactMembers, h]

end Bounds

/-- Whether bounds are exact, whatever values they have. -/
def Bounds.isExact? (j : Json) : Option Bool := (ofJson? some j).map isExact

namespace CostEstimate

/-- Whether a value tells an estimate: each field is read from the member of its name, and the values in dollars and
    rupiah have the form of the others. -/
structure IsToldBy (e : CostEstimate) (j : Json) : Prop where
  isObject : ∃ members, j = .object members
  chainId : (j.member? "chainId").bind Json.asUInt64? = some e.chainId
  gas : (j.member? "gasUnits").bind Quantity.ofJson? = some e.gas
  baseFee : (j.member? "baseFeePerGas").bind (Json.asNullable? Quantity.ofJson?) = some e.quote.baseFee
  maxFee : (j.member? "maxFeePerGas").bind Quantity.ofJson? = some e.fees.maxFee
  priorityFee : (j.member? "priorityFeePerGas").bind Quantity.ofJson? = some e.fees.priorityFee
  cost : (j.member? "costWei").bind (Bounds.ofJson? Quantity.ofJson?) = some e.cost
  costNative : (j.member? "costNative").bind (Bounds.ofJson? Json.asString?) = some e.costNative
  upperNative : (j.member? "upperNative").bind Json.asString? = some e.costNative.upper
  lowerNative : (j.member? "lowerNative").bind Json.asString? = some e.costNative.lower
  fiat : (j.member? "fiat").bind (Json.asNullable? Bounds.isExact?) = some (e.fiat.map Bounds.isExact)

/-- Whether all bounds of an estimate have one form, by whether those of its cost agree. -/
structure IsUniform (e : CostEstimate) : Prop where
  cost : e.cost.isExact = true ↔ e.cost.lower = e.cost.upper
  costNative : e.costNative.isExact = e.cost.isExact
  fiat : ∀ b, e.fiat = some b → b.isExact = e.cost.isExact
  ends : ∀ lower upper, e.costNative = .range lower upper → lower ≠ upper

/-- Whether two estimates have the same fields, amounts in dollars and rupiah as far as they are finite. -/
structure Agrees (e e' : CostEstimate) : Prop where
  chainId : e.chainId = e'.chainId
  gas : e.gas = e'.gas
  baseFee : e.quote.baseFee = e'.quote.baseFee
  maxFee : e.fees.maxFee = e'.fees.maxFee
  priorityFee : e.fees.priorityFee = e'.fees.priorityFee
  cost : e.cost = e'.cost
  costNative : e.costNative = e'.costNative
  fiat : e.fiat.map (Bounds.map FiatAmount.finite?) = e'.fiat.map (Bounds.map FiatAmount.finite?)

/-! ### The form of the bounds -/

section
variable {chainId : UInt64} {gas : Quantity} {quote : FeeQuote} {overrides : FeeOverrides} {fiat : FiatSettings}
  {e : CostEstimate}

theorem isUniform_of_compute (h : compute chainId gas quote overrides fiat = .ok e) : e.IsUniform := by
  obtain ⟨fees, lower, upper, rfl⟩ := exists_eq_ofCost h
  constructor
  case cost =>
    show (Bounds.between lower upper).isExact = true ↔
      (Bounds.between lower upper).lower = (Bounds.between lower upper).upper
    rw [Bounds.isExact_between, Bounds.lower_between, Bounds.upper_between]
  case costNative => exact Bounds.isExact_map _ _
  case fiat =>
    intro b hb
    obtain ⟨rates, -, rfl⟩ := Option.map_eq_some_iff.mp hb
    exact Bounds.isExact_map _ _
  case ends =>
    intro l u hrange heq
    change (Bounds.between lower upper).map Quantity.native = .range l u at hrange
    unfold Bounds.between at hrange
    split at hrange
    · cases hrange
    · rename_i hne
      cases hrange
      exact hne (Quantity.inUnit_injective heq)

end

end CostEstimate

/-! ### The value that is read -/

namespace Json

/-- A value that is read is not `null`, if `null` is not read. -/
theorem asNullable?_of_eq_some {α : Type} {read : Json → Option α} {j : Json} {x : α} (h : read j = some x)
    (hnull : read .null = none) : asNullable? read j = some (some x) := by
  cases j with
  | null => cases hnull.symm.trans h
  | _ => exact congrArg (Option.map some) h

theorem writtenMembers?_sourceMembers_cons {name : String} {v : Json} {members ms : Members}
    (h : writtenMembers? (sourceMembers ((name, v) :: members)) = some ms) :
    ∃ w ms', written? (source v) = some w ∧ writtenMembers? (sourceMembers members) = some ms' ∧
      ms = (name, w) :: ms' := by
  rw [sourceMembers] at h
  obtain ⟨name', w, ms', hname, hw, hms', rfl⟩ := writtenMembers?_cons_eq_some_iff.mp h
  rw [nameOf?_spelled] at hname
  cases hname
  exact ⟨w, ms', hw, hms', rfl⟩

theorem written?_source_single {name : String} {v w : Json} (h : written? (source (.object [(name, v)])) = some w) :
    ∃ w', written? (source v) = some w' ∧ w = .object [(name, w')] := by
  rw [source, written?, Option.map_eq_some_iff] at h
  obtain ⟨ms, hms, rfl⟩ := h
  obtain ⟨w', ms', hw', hnil, rfl⟩ := writtenMembers?_sourceMembers_cons hms
  cases hnil
  exact ⟨w', hw', rfl⟩

end Json

namespace Bounds
variable {α : Type} {f : α → Json}

theorem hasDistinctNames_source (h : ∀ x, Json.hasDistinctNames (Json.source (f x)) = true) (b : Bounds α) :
    Json.hasDistinctNames (Json.source (b.toJson f)) = true := by
  cases b with
  | exact x => exact Json.hasDistinctNames_source_object (by decide : [some "exact"].Nodup) (by simpa using h x)
  | range x y =>
    refine Json.hasDistinctNames_source_object (by decide : [some "range"].Nodup) ?_
    rw [List.forall_mem_singleton]
    exact Json.hasDistinctNames_source_object (by decide : [some "lower", some "upper"].Nodup) (by simp [h])

theorem depth_toJson_le {n : Nat} (h : ∀ x, (f x).depth ≤ n) (b : Bounds α) : (b.toJson f).depth ≤ n + 2 := by
  cases b with
  | exact x =>
    have := h x
    simp only [toJson, Json.Tree.depth, Json.Tree.depthMembers]
    omega
  | range x y =>
    have := h x
    have := h y
    simp only [toJson, Json.Tree.depth, Json.Tree.depthMembers]
    omega

/-- Bounds keep their form, whatever their values are read as. -/
theorem isExact?_of_ofSource? (b : Bounds α) {j : Json} (h : Json.ofSource? (Json.source (b.toJson f)) = some j) :
    isExact? j = some b.isExact := by
  obtain ⟨w, hw, rfl⟩ := Option.map_eq_some_iff.mp h
  cases b with
  | exact x =>
    obtain ⟨v, -, rfl⟩ := Json.written?_source_single hw
    rfl
  | range x y =>
    obtain ⟨v, hv, rfl⟩ := Json.written?_source_single hw
    rw [Json.source, Json.written?, Option.map_eq_some_iff] at hv
    obtain ⟨ms, hms, rfl⟩ := hv
    obtain ⟨l, ms', -, hms', rfl⟩ := Json.writtenMembers?_sourceMembers_cons hms
    obtain ⟨u, ms'', -, hnil, rfl⟩ := Json.writtenMembers?_sourceMembers_cons hms'
    cases hnil
    rfl

end Bounds

theorem FiatAmount.hasDistinctNames_source (a : FiatAmount) : Json.hasDistinctNames (Json.source a.toJson) = true := by
  have hnumber : ∀ x : Binary64, Json.hasDistinctNames (Json.source (Json.ofBinary64 x)) = true := fun x =>
    Json.hasDistinctNames_source (.number (.float x)) rfl
  refine Json.hasDistinctNames_source_object (by decide : [some "usd", some "idr"].Nodup) ?_
  simp only [List.forall_mem_cons]
  exact ⟨hnumber _, hnumber _, nofun⟩

namespace CostEstimate
variable (e : CostEstimate)

/-- The names of the members of an estimate's JSON. -/
def memberNames : List String :=
  ["chainId", "nativeSymbol", "gasUnits", "baseFeePerGas", "maxFeePerGas", "priorityFeePerGas", "costWei", "costNative",
   "upperNative", "lowerNative", "fiat"]

theorem hasDistinctNames_source : Json.hasDistinctNames (Json.source e.toJson) = true := by
  refine Json.hasDistinctNames_source_object (by decide : (memberNames.map some).Nodup) ?_
  have hfiat : Json.hasDistinctNames (Json.source (Json.ofOption (Bounds.toJson FiatAmount.toJson) e.fiat)) = true := by
    cases e.fiat with
    | none => rfl
    | some b => exact Bounds.hasDistinctNames_source FiatAmount.hasDistinctNames_source b
  have hbaseFee : Json.hasDistinctNames (Json.source (Json.ofOption Quantity.toJson e.quote.baseFee)) = true := by
    cases e.quote.baseFee <;> rfl
  have hcost := Bounds.hasDistinctNames_source (f := Quantity.toJson) (fun _ => rfl) e.cost
  have hnative := Bounds.hasDistinctNames_source (f := Json.Tree.string) (fun _ => rfl) e.costNative
  simp only [List.forall_mem_cons]
  exact ⟨rfl, rfl, rfl, hbaseFee, rfl, rfl, hcost, hnative, rfl, rfl, hfiat, nofun⟩

theorem depth_toJson_le : e.toJson.depth ≤ Json.maxDepth := by
  have hfiat : (Json.ofOption (Bounds.toJson FiatAmount.toJson) e.fiat).depth ≤ 3 := by
    cases e.fiat with
    | none => exact Nat.zero_le 3
    | some b => exact Bounds.depth_toJson_le (fun _ => Nat.le_refl 1) b
  have hbaseFee : (Json.ofOption Quantity.toJson e.quote.baseFee).depth ≤ 3 := by
    cases e.quote.baseFee <;> exact Nat.zero_le 3
  have hcost := Bounds.depth_toJson_le (f := Quantity.toJson) (fun _ => Nat.zero_le 1) e.cost
  have hnative := Bounds.depth_toJson_le (f := Json.Tree.string) (fun _ => Nat.zero_le 1) e.costNative
  refine Nat.le_trans (Nat.succ_le_succ (Json.depthMembers_le_iff.mpr ?_)) (by decide : 3 + 1 ≤ Json.maxDepth)
  simp only [List.forall_mem_cons]
  exact ⟨Nat.zero_le 3, Nat.zero_le 3, Nat.zero_le 3, hbaseFee, Nat.zero_le 3, Nat.zero_le 3, hcost, hnative,
    Nat.zero_le 3, Nat.zero_le 3, hfiat, nofun⟩

/-- What is written for the amounts in dollars and rupiah. -/
theorem at?_fiat : (Json.source e.toJson).at? [.key "fiat"] =
    some (Json.source (Json.ofOption (Bounds.toJson FiatAmount.toJson) e.fiat)) := Json.at?_source _ _

theorem isToldBy_of_denotes {j : Json} (h : Json.Denotes (Json.source e.toJson) j) : e.IsToldBy j := by
  have htold : ∀ {name : String} {v : Json}, e.toJson.at? [.key name] = some v → Json.isOrdered v = true →
      Json.isExact v = true → j.member? name = some v := fun hv hordered hexact =>
    (Json.member?_eq_at? _ _).trans (Json.at?_of_denotes_source h hv hordered hexact)
  have hquantity : ∀ {name : String} {q : Quantity}, e.toJson.at? [.key name] = some q.toJson →
      (j.member? name).bind Quantity.ofJson? = some q := fun hv => by
    rw [htold hv rfl rfl, Option.bind_some, Quantity.ofJson?_toJson]
  have htext : ∀ {name text : String}, e.toJson.at? [.key name] = some (.string text) →
      (j.member? name).bind Json.asString? = some text := fun hv => by
    rw [htold hv rfl rfl]
    rfl
  have hid : j.member? "chainId" = some (Json.ofUInt64 e.chainId) := htold rfl rfl rfl
  constructor
  case isObject =>
    cases j with
    | object members => exact ⟨members, rfl⟩
    | _ => cases hid
  case chainId =>
    rw [hid]
    exact Json.asUInt64?_ofUInt64 e.chainId
  case gas => exact hquantity rfl
  case baseFee =>
    have hfee : j.member? "baseFeePerGas" = some (Json.ofOption Quantity.toJson e.quote.baseFee) :=
      htold rfl (by cases e.quote.baseFee <;> rfl) (by cases e.quote.baseFee <;> rfl)
    rw [hfee]
    exact Json.asNullable?_ofOption (f := Quantity.toJson) (fun q => ⟨q.ofJson?_toJson, nofun⟩) e.quote.baseFee
  case maxFee => exact hquantity rfl
  case priorityFee => exact hquantity rfl
  case cost =>
    have hcost : j.member? "costWei" = some (e.cost.toJson Quantity.toJson) :=
      htold rfl (Bounds.isOrdered_toJson (fun _ => rfl) _) (Bounds.isExact_toJson (fun _ => rfl) _)
    rw [hcost]
    exact Bounds.ofJson?_toJson Quantity.ofJson?_toJson e.cost
  case costNative =>
    have hnative : j.member? "costNative" = some (e.costNative.toJson .string) :=
      htold rfl (Bounds.isOrdered_toJson (fun _ => rfl) _) (Bounds.isExact_toJson (fun _ => rfl) _)
    rw [hnative]
    exact Bounds.ofJson?_toJson (f := Json.Tree.string) (fun _ => rfl) e.costNative
  case upperNative => exact htext rfl
  case lowerNative => exact htext rfl
  -- The amounts in dollars and rupiah may be read as neighbours of what is written, so only their form is kept.
  case fiat =>
    rw [Json.member?_eq_at?, h.at?, e.at?_fiat, Option.bind_some]
    cases e.fiat with
    | none => rfl
    | some b =>
      obtain ⟨w, hw⟩ := Json.exists_written?_source (b.toJson FiatAmount.toJson)
      have hsource : Json.ofSource? (Json.source (b.toJson FiatAmount.toJson)) = some (Json.sorted w) := by
        rw [Json.ofSource?, hw, Option.map_some]
      show (Json.ofSource? (Json.source (b.toJson FiatAmount.toJson))).bind _ = _
      rw [hsource]
      exact Json.asNullable?_of_eq_some (b.isExact?_of_ofSource? hsource) rfl

/-- The text of an estimate is read as a value that tells it. -/
theorem exists_read?_summary : ∃ j, Json.read? e.summary.toList = some j ∧ e.IsToldBy j := by
  obtain ⟨j, hread, hdenotes⟩ := Json.exists_read?_pretty e.hasDistinctNames_source e.depth_toJson_le
  exact ⟨j, hread, e.isToldBy_of_denotes hdenotes⟩

end CostEstimate

/-! ### Estimates with the same text -/

/-- Two optional values that are written alike agree in what their written values tell. -/
theorem Json.map_eq_of_source_ofOption {α β : Type} {f : α → Json} {g : α → β} (hnull : ∀ x, source (f x) ≠ .null)
    (hfg : ∀ x y, source (f x) = source (f y) → g x = g y) {o o' : Option α}
    (h : source (ofOption f o) = source (ofOption f o')) : o.map g = o'.map g := by
  cases o with
  | none =>
    cases o' with
    | none => rfl
    | some y => exact absurd h.symm (hnull y)
  | some x =>
    cases o' with
    | none => exact absurd h (hnull x)
    | some y => exact congrArg some (hfg x y h)

namespace Bounds
variable {α β γ : Type}

theorem map_source_eq {f : α → Json} {b b' : Bounds α} (h : Json.source (b.toJson f) = Json.source (b'.toJson f)) :
    b.map (fun x => Json.source (f x)) = b'.map fun x => Json.source (f x) := by
  have hnames : Json.spelled "exact" ≠ Json.spelled "range" := by decide
  cases b <;> cases b' <;>
    simp only [toJson, Json.source, Json.sourceMembers, Json.Tree.object.injEq, List.cons.injEq, Prod.mk.injEq,
      true_and, and_true, hnames, hnames.symm, false_and] at h
  · rw [map, map, h]
  · rw [map, map, h.1, h.2]

theorem map_eq_of_map_eq {f : α → β} {g : α → γ} (hfg : ∀ x y, f x = f y → g x = g y) {b b' : Bounds α}
    (h : b.map f = b'.map f) : b.map g = b'.map g := by
  cases b <;> cases b' <;> simp only [map, exact.injEq, range.injEq, reduceCtorEq] at h ⊢
  · exact hfg _ _ h
  · exact ⟨hfg _ _ h.1, hfg _ _ h.2⟩

end Bounds

theorem FiatAmount.finite?_eq {a a' : FiatAmount} (h : Json.source a.toJson = Json.source a'.toJson) :
    a.finite? = a'.finite? := by
  simp only [toJson, Json.source, Json.sourceMembers, Json.ofBinary64, Json.Tree.object.injEq, List.cons.injEq,
    Prod.mk.injEq, true_and, and_true] at h
  exact Prod.ext (Json.Number.source_float_eq_iff.mp h.1) (Json.Number.source_float_eq_iff.mp h.2)

namespace CostEstimate
variable {e e' : CostEstimate}

theorem finite?_fiat_eq (h : e.summary = e'.summary) :
    e.fiat.map (Bounds.map FiatAmount.finite?) = e'.fiat.map (Bounds.map FiatAmount.finite?) := by
  have hsource : some (Json.source e.toJson) = some (Json.source e'.toJson) := by
    rw [← Json.sourceOf_pretty, ← Json.sourceOf_pretty]
    exact congrArg (fun s : String => Json.Source.read? s.toList) h
  have hfiat := e.at?_fiat
  rw [Option.some.inj hsource, e'.at?_fiat] at hfiat
  refine Json.map_eq_of_source_ofOption (f := Bounds.toJson FiatAmount.toJson) ?_ ?_ (Option.some.inj hfiat).symm
  · intro b
    cases b <;> exact nofun
  · intro b b' hb
    exact Bounds.map_eq_of_map_eq (fun _ _ => FiatAmount.finite?_eq) (Bounds.map_source_eq hb)

theorem agrees_of_summary_eq (h : e.summary = e'.summary) : e.Agrees e' := by
  obtain ⟨j, hread, htold⟩ := e.exists_read?_summary
  obtain ⟨j', hread', htold'⟩ := e'.exists_read?_summary
  rw [h] at hread
  cases hread.symm.trans hread'
  exact {
    chainId := Option.some.inj (htold.chainId.symm.trans htold'.chainId)
    gas := Option.some.inj (htold.gas.symm.trans htold'.gas)
    baseFee := Option.some.inj (htold.baseFee.symm.trans htold'.baseFee)
    maxFee := Option.some.inj (htold.maxFee.symm.trans htold'.maxFee)
    priorityFee := Option.some.inj (htold.priorityFee.symm.trans htold'.priorityFee)
    cost := Option.some.inj (htold.cost.symm.trans htold'.cost)
    costNative := Option.some.inj (htold.costNative.symm.trans htold'.costNative)
    fiat := finite?_fiat_eq h }

end CostEstimate

/-! ### Estimates under sound rates -/

namespace Bounds
variable {α β : Type}

/-- Whether a lower and an upper bound fulfil a condition. -/
def All (P : α → Prop) (b : Bounds α) : Prop := P b.lower ∧ P b.upper

theorem all_map {P : β → Prop} {f : α → β} (h : ∀ x, P (f x)) (b : Bounds α) : (b.map f).All P := by
  cases b <;> exact ⟨h _, h _⟩

theorem eq_of_map_eq {P : α → Prop} {f : α → β} (hf : ∀ {x y}, P x → P y → f x = f y → x = y) {b b' : Bounds α}
    (hb : b.All P) (hb' : b'.All P) (h : b.map f = b'.map f) : b = b' := by
  cases b <;> cases b' <;> simp only [map, exact.injEq, range.injEq, reduceCtorEq] at h ⊢
  · exact hf hb.1 hb'.1 h
  · exact ⟨hf hb.1 hb'.1 h.1, hf hb.2 hb'.2 h.2⟩

end Bounds

namespace CostEstimate
variable {chainId chainId' : UInt64} {gas gas' : Quantity} {quote quote' : FeeQuote}
  {overrides overrides' : FeeOverrides} {fiat fiat' : FiatSettings} {e e' : CostEstimate}

theorem isCapped_fiat (h : compute chainId gas quote overrides fiat = .ok e) (hfiat : fiat.IsSound) :
    ∀ b ∈ e.fiat, b.All FiatAmount.IsCapped := by
  intro b hb
  obtain ⟨fees, lower, upper, rfl⟩ := exists_eq_ofCost h
  obtain ⟨rates, hrates, rfl⟩ := Option.map_eq_some_iff.mp hb
  exact Bounds.all_map (fun amount => FiatAmount.isCapped_worth amount (hfiat.ratesFor? hrates)) _

/-- Under sound rates the finite parts of the amounts decide them. -/
theorem Agrees.fiat_eq (hagrees : e.Agrees e') (h : compute chainId gas quote overrides fiat = .ok e)
    (hfiat : fiat.IsSound) (h' : compute chainId' gas' quote' overrides' fiat' = .ok e') (hfiat' : fiat'.IsSound) :
    e.fiat = e'.fiat := by
  have hall := isCapped_fiat h hfiat
  have hall' := isCapped_fiat h' hfiat'
  have heq := hagrees.fiat
  generalize e.fiat = a at hall heq ⊢
  generalize e'.fiat = a' at hall' heq ⊢
  cases a <;> cases a' <;> simp only [Option.map_none, Option.map_some, Option.some.injEq, reduceCtorEq] at heq ⊢
  exact Bounds.eq_of_map_eq FiatAmount.IsCapped.eq_of_finite? (hall _ rfl) (hall' _ rfl) heq

theorem compute_eq_ok {fees : Fees} {lower upper : Quantity} (hfees : Fees.resolve? quote overrides = some fees)
    (hupper : gas.mul? fees.maxFee = some upper) (hlower : lowerBound gas fees upper quote.baseFee = .ok lower) :
    compute chainId gas quote overrides fiat =
      .ok (ofCost chainId gas quote overrides fiat fees (.between lower upper)) := by
  rw [compute_of_fees hfees, hupper]
  show (lowerBound gas fees upper quote.baseFee >>= fun lower => _) = _
  rw [hlower]
  rfl

/-- The text of an estimate is read as an object that tells it, and all its bounds have one form. Estimates with one
    text have the same fields, whatever they were computed from: amounts in dollars and rupiah agree as far as they
    are finite, and altogether if both settings are sound. -/
theorem summary_tells (h : compute chainId gas quote overrides fiat = .ok e) :
    (∃ j, Json.read? e.summary.toList = some j ∧ e.IsToldBy j) ∧ e.IsUniform ∧
    ∀ {chainId' gas' quote' overrides' fiat' e'}, compute chainId' gas' quote' overrides' fiat' = .ok e' →
      e.summary = e'.summary → e.Agrees e' ∧ (fiat.IsSound → fiat'.IsSound → e.fiat = e'.fiat) := by
  refine ⟨e.exists_read?_summary, isUniform_of_compute h, fun h' heq => ?_⟩
  have hagrees := agrees_of_summary_eq heq
  exact ⟨hagrees, fun hfiat hfiat' => hagrees.fiat_eq h hfiat h' hfiat'⟩

/-- A gas price beside a base fee leaves the text as it is; one more unit of gas does not. -/
theorem summary_tells_oneMoreGas : ∃ fiat e e' e'',
    fiat.prices = [("ETH_USD_PRICE", .ofNat 3000)] ∧
    compute 1 ⟨21000, by decide⟩ (.ofNode (some oneGwei) none none) .none fiat = .ok e ∧
    compute 1 ⟨21000, by decide⟩ (.ofNode (some oneGwei) (some oneGwei) none) .none fiat = .ok e' ∧
    compute 1 ⟨21001, by decide⟩ (.ofNode (some oneGwei) none none) .none fiat = .ok e'' ∧
    e.IsUniform ∧ e.cost.isExact = false ∧ e.fiat.isSome = true ∧ e.summary = e'.summary ∧ e.fiat = e'.fiat ∧
    e.summary ≠ e''.summary := by
  have hfiat : FiatSettings.IsSound ⟨[("ETH_USD_PRICE", .ofNat 3000)], .ofNat 17000⟩ :=
    ⟨by decide, by decide, by decide⟩
  refine ⟨⟨[("ETH_USD_PRICE", .ofNat 3000)], .ofNat 17000⟩, _, _, _, rfl, compute_eq_ok rfl rfl rfl,
    compute_eq_ok rfl rfl rfl, compute_eq_ok rfl rfl rfl, ?_, rfl, rfl, rfl, ?_, ?_⟩
  · exact (summary_tells (compute_eq_ok rfl rfl rfl)).2.1
  · exact ((summary_tells (compute_eq_ok rfl rfl rfl)).2.2 (compute_eq_ok rfl rfl rfl) rfl).2 hfiat hfiat
  · intro heq
    have hagrees := ((summary_tells (compute_eq_ok rfl rfl rfl)).2.2 (compute_eq_ok rfl rfl rfl) heq).1
    exact absurd hagrees.gas (by decide)

end CostEstimate
end SplitterLaunch
