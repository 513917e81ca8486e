import SplitterLaunch.Ledger
import SplitterLaunch.Proofs.Codec.FixedBytes
import SplitterLaunch.Proofs.Codec.Timestamp
import SplitterLaunch.Proofs.Json.Members

/-! Records and latest deployments are read back from their values, with the members as they are declared or as
    a ledger orders them. Each field is read back from its own value, and only the members' names count. A time
    that was read is one that is read back, so whatever a record was read from, it is read back from its own value. -/

namespace SplitterLaunch

/-! ### Fields -/

namespace Json

theorem asFixedBytes?_toJson {n : Nat} (b : FixedBytes n) : asFixedBytes? n b.toJson = some b := b.ofText?_text

theorem asUInt64?_ofUInt64 (n : UInt64) : asUInt64? (ofUInt64 n) = some n := by
  show (if (0 : Int) ≤ n.toNat then some (UInt64.ofNat (Int.toNat n.toNat)) else none) = some n
  rw [if_pos (Int.natCast_nonneg _), Int.toNat_natCast, UInt64.ofNat_toNat]

theorem asStrings?_map (xs : List String) : asStrings? (.array (xs.map .string)) = some xs := by
  show (xs.map Tree.string).mapM asString? = some xs
  induction xs with
  | nil => rfl
  | cons x xs ih =>
    rw [List.map_cons, List.mapM_cons, ih]
    rfl

theorem asNullable?_ofOption {α : Type} {read : Json → Option α} {f : α → Json}
    (h : ∀ x, read (f x) = some x ∧ f x ≠ .null) (o : Option α) :
    asNullable? read (ofOption f o) = some o := by
  cases o with
  | none => rfl
  | some x =>
    obtain ⟨hread, hne⟩ := h x
    show asNullable? read (f x) = some (some x)
    unfold asNullable?
    split
    · rename_i heq
      exact absurd heq hne
    · rw [hread]
      rfl

theorem asNullable?_words (o : Option UInt64) : asNullable? asUInt64? (ofOption ofUInt64 o) = some o :=
  asNullable?_ofOption (fun n => ⟨asUInt64?_ofUInt64 n, fun h => by cases h⟩) o

theorem asNullable?_strings (o : Option String) : asNullable? asString? (ofOption .string o) = some o :=
  asNullable?_ofOption (f := Tree.string) (fun _ => ⟨rfl, fun h => by cases h⟩) o

namespace Fields
variable {α : Type} {ms : Members} {position : Nat} {name : String} {j : Json} {read : Json → Option α}

theorem required?_named {x : α} (hget : ms.get? name = some j) (hread : read j = some x) :
    required? (.named ms) position name read = some x := by
  show (ms.get? name).bind read = some x
  rw [hget, Option.bind_some, hread]

theorem nullable?_named {x : Option α} (hget : ms.get? name = some j) (hread : asNullable? read j = some x) :
    nullable? (.named ms) position name read = some x := by
  unfold nullable?
  simp only [get?, hget, hread]

theorem optional?_named {x : Option α} (h : match ms.get? name with
      | some j => asNullable? read j = some x
      | none => x = none) :
    optional? (.named ms) position name read = some x := by
  unfold optional?
  simp only [get?]
  cases hget : ms.get? name with
  | some j =>
    rw [hget] at h
    exact h
  | none =>
    rw [hget] at h
    exact congrArg some h.symm

end Fields
end Json

/-- A time of the years that the text of a time writes with four digits and no sign. -/
def Timestamp.HasPlainYear (t : Timestamp) : Prop := 0 ≤ t.date.year ∧ t.date.year ≤ 9999

namespace Timestamp
variable {t : Timestamp} {j : Json}

theorem HasPlainYear.inRange (h : t.HasPlainYear) : t.InRange := by
  obtain ⟨hlow, hhigh⟩ := h
  simp only [InRange, yearInRange, Bool.and_eq_true, decide_eq_true_eq]
  omega

theorem ofJson?_toJson (h : t.InRange) : ofJson? t.toJson = some t := by
  rw [ofJson?, toJson, Json.asString?, Option.bind_some, text, String.toList_ofList, read?_write h]

theorem inRange_of_ofJson? (h : ofJson? j = some t) : t.InRange := by
  obtain ⟨s, -, hread⟩ := Option.bind_eq_some_iff.mp h
  exact inRange_of_read? hread

end Timestamp

/-- A field that was read has its value from somewhere. -/
theorem Json.Fields.exists_of_required? {α : Type} {f : Fields} {position : Nat} {name : String} {read : Json → Option α}
    {x : α} (h : f.required? position name read = some x) : ∃ j, read j = some x := by
  obtain ⟨j, -, hread⟩ := Option.bind_eq_some_iff.mp h
  exact ⟨j, hread⟩

/-! ### Records -/

namespace DeploymentRecord

/-- The names of the members that every record has. -/
def fieldNames : List String :=
  ["address", "admin", "networkName", "chainId", "deployTx", "blockNumber", "deployedAt", "explorer",
   "constructorArgs"]

theorem nodup_members (r : DeploymentRecord) : (r.members.map Prod.fst).Nodup := by
  have hnames : r.members.map Prod.fst = fieldNames ++ (r.note.map fun _ => "implementationNote").toList := by
    unfold members
    cases r.note <;> rfl
  rw [hnames]
  cases r.note with
  | none => exact (by decide : fieldNames.Nodup)
  | some note => exact (by decide : (fieldNames ++ ["implementationNote"]).Nodup)

/-- Whether a record is read from its value, and from the ordered one that a ledger holds. -/
def IsReread (r : DeploymentRecord) : Prop := ofJson? r.toJson = some r ∧ ofJson? (Ledger.sorted r.members) = some r

section
variable {r : DeploymentRecord}

theorem ofJson?_of_get? {ms : Json.Members} (hget : ∀ name, ms.get? name = r.members.get? name)
    (h : r.deployedAt.InRange) : ofJson? (.object ms) = some r := by
  have hnote : match ms.get? "implementationNote" with
      | some j => Json.asNullable? Json.asString? j = some r.note
      | none => r.note = none := by
    rw [hget]
    unfold members
    cases r.note <;> rfl
  unfold ofJson?
  simp only [Json.fields?, Option.bind_eq_bind, Option.bind_some, Json.Fields.fits, if_true,
    Json.Fields.required?_named (hget "address") (Json.asFixedBytes?_toJson r.address),
    Json.Fields.required?_named (hget "admin") (Json.asFixedBytes?_toJson r.admin),
    Json.Fields.required?_named (hget "networkName") (rfl : Json.asString? (.string r.networkName) = _),
    Json.Fields.required?_named (hget "chainId") (Json.asUInt64?_ofUInt64 r.chainId),
    Json.Fields.required?_named (hget "deployTx") (Json.asFixedBytes?_toJson r.transaction),
    Json.Fields.nullable?_named (hget "blockNumber") (Json.asNullable?_words r.blockNumber),
    Json.Fields.required?_named (hget "deployedAt") (Timestamp.ofJson?_toJson h),
    Json.Fields.nullable?_named (hget "explorer") (Json.asNullable?_strings r.explorer),
    Json.Fields.required?_named (hget "constructorArgs") (Json.asStrings?_map r.constructorArguments),
    Json.Fields.optional?_named hnote]
  rfl

theorem ofJson?_sorted (h : r.deployedAt.InRange) : ofJson? (Ledger.sorted r.members) = some r :=
  ofJson?_of_get? (Json.Members.get?_ofList r.nodup_members) h

theorem isReread (h : r.deployedAt.InRange) : r.IsReread := ⟨ofJson?_of_get? (fun _ => rfl) h, ofJson?_sorted h⟩

theorem inRange_of_ofJson? {j : Json} (h : ofJson? j = some r) : r.deployedAt.InRange := by
  simp only [ofJson?, Option.bind_eq_bind, Option.bind_eq_some_iff] at h
  obtain ⟨f, -, address, -, admin, -, networkName, -, chainId, -, transaction, -, blockNumber, -, deployedAt, hdeployedAt,
    explorer, -, constructorArguments, -, note, -, h⟩ := h
  split at h
  · cases h
    obtain ⟨j, hj⟩ := Json.Fields.exists_of_required? hdeployedAt
    exact Timestamp.inRange_of_ofJson? hj
  · cases h

end

end DeploymentRecord

/-! ### Latest deployments -/

namespace LatestDeployment

theorem nodup_members (d : LatestDeployment) : (d.members.map Prod.fst).Nodup :=
  (by decide : ["address", "chainId", "contract", "updatedAt"].Nodup)

/-- Whether a latest deployment is read from its value, and from the ordered one that a ledger holds. -/
def IsReread (d : LatestDeployment) : Prop := ofJson? d.toJson = some d ∧ ofJson? (Ledger.sorted d.members) = some d

section
variable {d : LatestDeployment}

theorem ofJson?_of_get? {ms : Json.Members} (hget : ∀ name, ms.get? name = d.members.get? name)
    (h : d.updatedAt.InRange) : ofJson? (.object ms) = some d := by
  unfold ofJson?
  simp only [Json.fields?, Option.bind_eq_bind, Option.bind_some, Json.Fields.fits, if_true,
    Json.Fields.required?_named (hget "address") (Json.asFixedBytes?_toJson d.address),
    Json.Fields.required?_named (hget "chainId") (Json.asUInt64?_ofUInt64 d.chainId),
    Json.Fields.required?_named (hget "contract") (rfl : Json.asString? (.string d.contract) = _),
    Json.Fields.required?_named (hget "updatedAt") (Timestamp.ofJson?_toJson h)]
  rfl

theorem ofJson?_sorted (h : d.updatedAt.InRange) : ofJson? (Ledger.sorted d.members) = some d :=
  ofJson?_of_get? (Json.Members.get?_ofList d.nodup_members) h

theorem isReread (h : d.updatedAt.InRange) : d.IsReread := ⟨ofJson?_of_get? (fun _ => rfl) h, ofJson?_sorted h⟩

theorem inRange_of_ofJson? {j : Json} (h : ofJson? j = some d) : d.updatedAt.InRange := by
  simp only [ofJson?, Option.bind_eq_bind, Option.bind_eq_some_iff] at h
  obtain ⟨f, -, address, -, chainId, -, contract, -, updatedAt, hupdatedAt, h⟩ := h
  split at h
  · cases h
    obtain ⟨j, hj⟩ := Json.Fields.exists_of_required? hupdatedAt
    exact Timestamp.inRange_of_ofJson? hj
  · cases h

end

end LatestDeployment

/-! ### Reading again -/

/-- Every record and every latest deployment of a year from -262143 to 262142 is read again as it was written, down
    to the nanosecond; and so is whatever was read from any value, in any of the forms that can be read. -/
theorem isReread_of_inRange :
    (∀ r : DeploymentRecord, r.deployedAt.InRange → r.IsReread) ∧
      (∀ d : LatestDeployment, d.updatedAt.InRange → d.IsReread) ∧
      (∀ j r, DeploymentRecord.ofJson? j = some r → r.IsReread) ∧
      ∀ j d, LatestDeployment.ofJson? j = some d → d.IsReread := by
  refine ⟨fun _ => DeploymentRecord.isReread, fun _ => LatestDeployment.isReread, fun j r h => ?_, fun j d h => ?_⟩
  · exact DeploymentRecord.isReread (DeploymentRecord.inRange_of_ofJson? h)
  · exact LatestDeployment.isReread (LatestDeployment.inRange_of_ofJson? h)

/-- A record of the last nanosecond of the year 9999, if that ended with a leap second. -/
def lateRecord : DeploymentRecord where
  address := .zero
  admin := .zero
  networkName := "\x00"
  chainId := 18446744073709551615
  transaction := .zero
  blockNumber := some 0
  deployedAt := (Timestamp.read? "9999-12-31T23:59:60.999999999Z".toList).getD .epoch
  explorer := some ""
  constructorArguments := ["😀", "\""]
  note := some "null"

/-- A list of a latest deployment's fields, its time with an offset and without leading zeros. -/
def distantFields : Json :=
  .array [(.zero : Address).toJson, Json.ofUInt64 137, .string "Splitter", .string "+12345-1-1 0:9:60.50+00:30"]

/-- What these fields say, half an hour earlier. -/
def distantLatest : LatestDeployment :=
  ⟨.zero, 137, "Splitter", (Timestamp.read? "+12344-12-31T23:39:60.500Z".toList).getD .epoch⟩

theorem isReread_distant : lateRecord.deployedAt.InRange ∧ lateRecord.IsReread ∧
    LatestDeployment.ofJson? distantFields = some distantLatest ∧ distantLatest.IsReread := by
  have hlate : lateRecord.deployedAt.InRange := by
    unfold Timestamp.InRange
    decide +kernel
  have hfields : LatestDeployment.ofJson? distantFields = some distantLatest := by decide +kernel
  obtain ⟨hrecord, -, -, hlatest⟩ := isReread_of_inRange
  exact ⟨hlate, hrecord _ hlate, hfields, hlatest _ _ hfields⟩

end SplitterLaunch
