import SplitterLaunch.Json.Decode
import SplitterLaunch.Proofs.Json.Members
import SplitterLaunch.Proofs.Json.RoundTrip

/-! Places in values. A place is reached by names of members and positions of items. Reading and writing keep
    all places of a value whose objects have distinct names, and what stands at them, but for numbers: a number
    keeps what it denotes exactly if the numeral that is written for it does (`head_source_iff`). -/

namespace SplitterLaunch
namespace Json

/-- A step from a value into one that it holds. -/
inductive Step where
  | key (name : String)
  | item (i : Nat)
deriving DecidableEq, Repr

/-- The name that the characters between two quotes denote. -/
def nameOf? (cs : List Char) : Option String := (text? cs).map String.ofList

namespace Tree
variable {σ ν : Type}

/-- What one step leads to, with names from `nameOf`. -/
def child? (nameOf : σ → Option String) : Tree σ ν → Step → Option (Tree σ ν)
  | .object members, .key name => (members.find? fun m => nameOf m.1 == some name).map Prod.snd
  | .array items, .item i => items[i]?
  | _, _ => none

/-- What several steps lead to. -/
def follow? (nameOf : σ → Option String) (t : Tree σ ν) : List Step → Option (Tree σ ν)
  | [] => some t
  | step :: steps => (t.child? nameOf step).bind fun t => t.follow? nameOf steps

end Tree

/-- What stands at a place of a written value. -/
abbrev Source.at? (s : Source) (steps : List Step) : Option Source := Tree.follow? nameOf? s steps

/-- What stands at a place of a value. -/
abbrev at? (j : Json) (steps : List Step) : Option Json := Tree.follow? some j steps

theorem child?_key (members : Members) (name : String) :
    Tree.child? some (.object members) (.key name) = members.get? name := by
  induction members with
  | nil => rfl
  | cons m members ih =>
    obtain ⟨key, value⟩ := m
    rw [Tree.child?, List.find?_cons, Members.get?]
    by_cases h : key = name
    · simp [h]
    · simp [h, beq_false_of_ne h, ← ih, Tree.child?]

theorem member?_eq_at? (j : Json) (name : String) : j.member? name = j.at? [.key name] := by
  cases j with
  | object members =>
    show Members.get? name members = (Tree.child? some (.object members) (.key name)).bind some
    rw [child?_key, Option.bind_fun_some]
  | _ => rfl

/-! ### Values that are read -/

mutual

/-- Whether no two members of an object have the same name. -/
def hasDistinctNames : Source → Bool
  | .array items => hasDistinctNamesItems items
  | .object members => decide (members.map fun m => nameOf? m.1).Nodup && hasDistinctNamesMembers members
  | _ => true

def hasDistinctNamesItems : List Source → Bool
  | [] => true
  | item :: items => hasDistinctNames item && hasDistinctNamesItems items

def hasDistinctNamesMembers : List (List Char × Source) → Bool
  | [] => true
  | (_, item) :: members => hasDistinctNames item && hasDistinctNamesMembers members

end

/-- A written value with distinct names and the value that it denotes. -/
structure Denotes (s : Source) (j : Json) : Prop where
  value : ofSource? s = some j
  distinct : hasDistinctNames s = true

theorem writtenItems?_cons_eq_some_iff {item : Source} {items : List Source} {js : List Json} :
    writtenItems? (item :: items) = some js ↔
      ∃ j js', written? item = some j ∧ writtenItems? items = some js' ∧ js = j :: js' := by
  simp only [writtenItems?, Option.bind_eq_bind, Option.bind_eq_some_iff, Option.pure_def, Option.some.injEq]
  constructor
  · rintro ⟨j, hj, js', hjs', rfl⟩
    exact ⟨j, js', hj, hjs', rfl⟩
  · rintro ⟨j, js', hj, hjs', rfl⟩
    exact ⟨j, hj, js', hjs', rfl⟩

theorem writtenMembers?_cons_eq_some_iff {key : List Char} {item : Source} {members : List (List Char × Source)}
    {ms : Members} : writtenMembers? ((key, item) :: members) = some ms ↔
      ∃ name j ms', nameOf? key = some name ∧ written? item = some j ∧ writtenMembers? members = some ms' ∧
        ms = (name, j) :: ms' := by
  simp only [writtenMembers?, Option.bind_eq_bind, Option.bind_eq_some_iff, Option.pure_def, Option.some.injEq,
    nameOf?, Option.map_eq_some_iff]
  constructor
  · rintro ⟨cs, hcs, j, hj, ms', hms', rfl⟩
    exact ⟨String.ofList cs, j, ms', ⟨cs, hcs, rfl⟩, hj, hms', rfl⟩
  · rintro ⟨name, j, ms', ⟨cs, hcs, rfl⟩, hj, hms', rfl⟩
    exact ⟨cs, hcs, j, hj, ms', hms', rfl⟩

/-- The items of an array that is read are those that are written, each as it is read. -/
theorem getElem?_sortedItems {items : List Source} {js : List Json} (h : writtenItems? items = some js) (i : Nat) :
    (sortedItems js)[i]? = items[i]?.bind ofSource? := by
  induction items generalizing js i with
  | nil =>
    cases h
    rfl
  | cons item items ih =>
    obtain ⟨j, js', hj, hjs', rfl⟩ := writtenItems?_cons_eq_some_iff.mp h
    cases i with
    | zero => simp [sortedItems, ofSource?, hj]
    | succ i => simpa [sortedItems] using ih hjs' i

theorem length_sortedItems {items : List Source} {js : List Json} (h : writtenItems? items = some js) :
    (sortedItems js).length = items.length := by
  induction items generalizing js with
  | nil =>
    cases h
    rfl
  | cons item items ih =>
    obtain ⟨j, js', -, hjs', rfl⟩ := writtenItems?_cons_eq_some_iff.mp h
    rw [sortedItems, List.length_cons, List.length_cons, ih hjs']

theorem get?_sortedMembers {members : List (List Char × Source)} {ms : Members}
    (h : writtenMembers? members = some ms) (name : String) :
    Members.get? name (sortedMembers ms) =
      (Tree.child? nameOf? (.object members) (.key name)).bind ofSource? := by
  induction members generalizing ms with
  | nil =>
    cases h
    rfl
  | cons m members ih =>
    obtain ⟨key, item⟩ := m
    obtain ⟨name', j, ms', hname, hj, hms', rfl⟩ := writtenMembers?_cons_eq_some_iff.mp h
    rw [sortedMembers, Members.get?, Tree.child?, List.find?_cons]
    by_cases heq : name' = name
    · simp [heq, hname, ofSource?, hj]
    · have hfind := ih hms'
      rw [Tree.child?] at hfind
      simp [heq, beq_false_of_ne heq, hname, hfind]

theorem names_sortedMembers (ms : Members) : (sortedMembers ms).map Prod.fst = ms.map Prod.fst := by
  induction ms with
  | nil => rfl
  | cons m ms ih => simp [sortedMembers, ih]

theorem names_of_writtenMembers? {members : List (List Char × Source)} {ms : Members}
    (h : writtenMembers? members = some ms) : (members.map fun m => nameOf? m.1) = (ms.map Prod.fst).map some := by
  induction members generalizing ms with
  | nil =>
    cases h
    rfl
  | cons m members ih =>
    obtain ⟨key, item⟩ := m
    obtain ⟨name, j, ms', hname, -, hms', rfl⟩ := writtenMembers?_cons_eq_some_iff.mp h
    simp [hname, ih hms']

theorem nodup_names {members : List (List Char × Source)} {ms : Members} (h : writtenMembers? members = some ms)
    (hdistinct : (members.map fun m => nameOf? m.1).Nodup) : ((sortedMembers ms).map Prod.fst).Nodup := by
  rw [names_of_writtenMembers? h] at hdistinct
  rw [names_sortedMembers]
  exact List.Pairwise.of_map some (fun a b hne heq => hne (congrArg some heq)) hdistinct

theorem hasDistinctNamesItems_iff {items : List Source} :
    hasDistinctNamesItems items = true ↔ ∀ item ∈ items, hasDistinctNames item = true := by
  induction items with
  | nil => simp [hasDistinctNamesItems]
  | cons item items ih => simp [hasDistinctNamesItems, ih]

theorem hasDistinctNamesMembers_iff {members : List (List Char × Source)} :
    hasDistinctNamesMembers members = true ↔ ∀ m ∈ members, hasDistinctNames m.2 = true := by
  induction members with
  | nil => simp [hasDistinctNamesMembers]
  | cons m members ih => simp [hasDistinctNamesMembers, ih]

theorem isSome_written?_of_mem {items : List Source} {js : List Json} (h : writtenItems? items = some js)
    {item : Source} (hitem : item ∈ items) : ∃ j, written? item = some j := by
  induction items generalizing js with
  | nil => cases hitem
  | cons other items ih =>
    obtain ⟨j, js', hj, hjs', rfl⟩ := writtenItems?_cons_eq_some_iff.mp h
    rcases List.mem_cons.mp hitem with rfl | hitem
    · exact ⟨j, hj⟩
    · exact ih hjs' hitem

theorem isSome_writtenMembers?_of_mem {members : List (List Char × Source)} {ms : Members}
    (h : writtenMembers? members = some ms) {m : List Char × Source} (hm : m ∈ members) :
    ∃ j, written? m.2 = some j := by
  induction members generalizing ms with
  | nil => cases hm
  | cons other members ih =>
    obtain ⟨key, item⟩ := other
    obtain ⟨name, j, ms', -, hj, hms', rfl⟩ := writtenMembers?_cons_eq_some_iff.mp h
    rcases List.mem_cons.mp hm with rfl | hm
    · exact ⟨j, hj⟩
    · exact ih hms' hm

theorem denotes_of_written? {s : Source} {j : Json} (h : written? s = some j) (hdistinct : hasDistinctNames s = true) :
    Denotes s (sorted j) := ⟨by rw [ofSource?, h]; rfl, hdistinct⟩

/-- A step leads in a value to what it leads to in the written one. -/
theorem Denotes.child? {s : Source} {j : Json} (h : Denotes s j) (step : Step) :
    Tree.child? some j step = (Tree.child? nameOf? s step).bind ofSource? ∧
      ∀ v, Tree.child? nameOf? s step = some v → ∃ w, Denotes v w := by
  obtain ⟨value, distinct⟩ := h
  obtain ⟨j, hj, rfl⟩ := Option.map_eq_some_iff.mp value
  cases s with
  | array items =>
    rw [written?, Option.map_eq_some_iff] at hj
    obtain ⟨js, hjs, rfl⟩ := hj
    cases step with
    | key name => exact ⟨rfl, fun v hv => by cases hv⟩
    | item i =>
      refine ⟨getElem?_sortedItems hjs i, fun v hv => ?_⟩
      have hmem : v ∈ items := List.mem_of_getElem? hv
      obtain ⟨w, hw⟩ := isSome_written?_of_mem hjs hmem
      exact ⟨_, denotes_of_written? hw (hasDistinctNamesItems_iff.mp distinct v hmem)⟩
  | object members =>
    rw [written?, Option.map_eq_some_iff] at hj
    obtain ⟨ms, hms, rfl⟩ := hj
    rw [hasDistinctNames, Bool.and_eq_true, decide_eq_true_eq] at distinct
    cases step with
    | item i => exact ⟨rfl, fun v hv => by cases hv⟩
    | key name =>
      refine ⟨?_, fun v hv => ?_⟩
      -- reading keeps the last member of a name, looking up in what is written finds the first
      · rw [sorted, child?_key, Members.get?_ofList (nodup_names hms distinct.1), get?_sortedMembers hms]
      · obtain ⟨m, hm, rfl⟩ := Option.map_eq_some_iff.mp hv
        have hmem := List.mem_of_find?_eq_some hm
        obtain ⟨w, hw⟩ := isSome_writtenMembers?_of_mem hms hmem
        exact ⟨_, denotes_of_written? hw (hasDistinctNamesMembers_iff.mp distinct.2 m hmem)⟩
  | null =>
    cases hj
    cases step <;> exact ⟨rfl, fun v hv => by cases hv⟩
  | bool b =>
    cases hj
    cases step <;> exact ⟨rfl, fun v hv => by cases hv⟩
  | number n =>
    rw [written?, Option.map_eq_some_iff] at hj
    obtain ⟨_, -, rfl⟩ := hj
    cases step <;> exact ⟨rfl, fun v hv => by cases hv⟩
  | string cs =>
    rw [written?, Option.map_eq_some_iff] at hj
    obtain ⟨_, -, rfl⟩ := hj
    cases step <;> exact ⟨rfl, fun v hv => by cases hv⟩

/-- What stands at a place of a value is what stands there in the written one. -/
theorem Denotes.at? {s : Source} {j : Json} (h : Denotes s j) (steps : List Step) :
    j.at? steps = (s.at? steps).bind ofSource? := by
  induction steps generalizing s j with
  | nil => exact h.value.symm
  | cons step steps ih =>
    obtain ⟨hchild, hdenotes⟩ := h.child? step
    show (Tree.child? some j step).bind _ = ((Tree.child? nameOf? s step).bind _).bind ofSource?
    rw [hchild]
    cases hstep : Tree.child? nameOf? s step with
    | none => rfl
    | some v =>
      obtain ⟨w, hw⟩ := hdenotes v hstep
      rw [Option.bind_some, Option.bind_some, hw.value, Option.bind_some]
      exact ih hw

theorem Denotes.of_at? {s : Source} {j : Json} (h : Denotes s j) {steps : List Step} {v : Source}
    (hv : s.at? steps = some v) : ∃ w, Denotes v w := by
  induction steps generalizing s j with
  | nil =>
    cases hv
    exact ⟨j, h⟩
  | cons step steps ih =>
    obtain ⟨v₁, hstep, hrest⟩ := Option.bind_eq_some_iff.mp hv
    obtain ⟨w₁, hw₁⟩ := (h.child? step).2 v₁ hstep
    exact ih hw₁ hrest

/-! ### Values that are written -/

theorem nameOf?_spelled (s : String) : nameOf? (spelled s) = some s := by
  rw [nameOf?, text?_spelled, Option.map_some, String.ofList_toList]

theorem sourceItems_eq_map (items : List Json) : sourceItems items = items.map source := by
  induction items with
  | nil => rfl
  | cons item items ih => rw [sourceItems, ih, List.map_cons]

theorem sourceMembers_eq_map (members : Members) :
    sourceMembers members = members.map fun m => (spelled m.1, source m.2) := by
  induction members with
  | nil => rfl
  | cons m members ih =>
    obtain ⟨key, item⟩ := m
    rw [sourceMembers, ih, List.map_cons]

theorem find?_sourceMembers (members : Members) (name : String) :
    Tree.child? nameOf? (.object (sourceMembers members)) (.key name) = (members.get? name).map source := by
  induction members with
  | nil => rfl
  | cons m members ih =>
    obtain ⟨key, value⟩ := m
    rw [Tree.child?] at ih
    rw [sourceMembers, Tree.child?, List.find?_cons, Members.get?, nameOf?_spelled]
    by_cases h : key = name
    · simp [h]
    · simp [h, beq_false_of_ne h, ih]

theorem child?_source (j : Json) (step : Step) :
    Tree.child? nameOf? (source j) step = (Tree.child? some j step).map source := by
  cases j with
  | array items =>
    cases step with
    | key name => rfl
    | item i =>
      rw [source, Tree.child?, sourceItems_eq_map, List.getElem?_map]
      rfl
  | object members =>
    cases step with
    | key name => rw [source, find?_sourceMembers, child?_key]
    | item i => rfl
  | number n =>
    cases n with
    | integer n => cases step <;> rfl
    | float x =>
      rw [source, Number.source]
      split <;> cases step <;> rfl
  | _ => cases step <;> rfl

theorem at?_source (j : Json) (steps : List Step) : (source j).at? steps = (j.at? steps).map source := by
  induction steps generalizing j with
  | nil => rfl
  | cons step steps ih =>
    show (Tree.child? nameOf? (source j) step).bind _ = ((Tree.child? some j step).bind _).map source
    rw [child?_source]
    cases Tree.child? some j step with
    | none => rfl
    | some v => exact ih v

/-! ### What stands at a place -/

/-- A value without the values that it holds. -/
inductive Head (κ : Type) where
  | null
  | bool (b : Bool)
  | number (n : κ)
  | string (text : Option (List Char))
  | array (length : Nat)
  | object
deriving DecidableEq

/-- The head of a value, with texts from `textOf` and numbers from `numberOf`. -/
def Tree.headWith {σ ν κ : Type} (textOf : σ → Option (List Char)) (numberOf : ν → κ) : Tree σ ν → Head κ
  | .null => .null
  | .bool b => .bool b
  | .number n => .number (numberOf n)
  | .string s => .string (textOf s)
  | .array items => .array items.length
  | .object _ => .object

/-- The head of a written value: its text, or the very number that it spells. -/
abbrev Source.head (s : Source) : Head Rat := Tree.headWith text? Numeral.exactly s

abbrev head (j : Json) : Head Number := Tree.headWith (fun s => some s.toList) id j

/-- Whether the number that a numeral spells is the one that is written for it: if it is held exactly, or if the
    shortest decimal of the floating-point number that it is read as is this very number. -/
def Numeral.isKept (n : Numeral) : Bool :=
  match n.number? with
  | some (.integer _) => true
  | some (.float x) => x.isFinite && decide (x.shown = n.exactly)
  | none => false

theorem Numeral.exactly_of_integer? {n : Numeral} {i : Integer} (h : n.integer? = some i) : n.exactly = i.toInt := by
  obtain ⟨negative, whole, fraction, exponent⟩ := n
  unfold integer? at h
  split at h
  · cases h
  · rename_i hnone
    simp only [Bool.or_eq_true, not_or, Bool.not_eq_true, Option.isSome_eq_false_iff, Option.isNone_iff_eq_none] at hnone
    obtain ⟨rfl, rfl⟩ := hnone
    have hmagnitude : magnitude ⟨negative, whole, none, none⟩ = (SplitterLaunch.Numeral.value whole : Rat) := by
      show (SplitterLaunch.Numeral.value (whole ++ []) : Rat) * 10 ^ ((0 : Int) - (0 : Nat)) = _
      rw [List.append_nil]
      exact mul_one _
    rw [exactly_eq, hmagnitude]
    dsimp only at h ⊢
    split at h
    · rename_i hnegative
      split at h
      · cases h
        rw [if_pos hnegative, Int.cast_neg, Int.cast_natCast]
      · cases h
    · rename_i hnegative
      split at h
      · cases h
        rw [if_neg hnegative, Int.cast_natCast]
      · cases h

theorem Number.head_source_iff {n : Numeral} {number : Number} (h : n.number? = some number) :
    Source.head number.source = .number n.exactly ↔ n.isKept = true := by
  unfold Numeral.isKept
  rw [h]
  cases number with
  | integer i =>
    have hinteger : n.integer? = some i := by
      unfold Numeral.number? at h
      split at h
      · rename_i heq
        cases h
        exact heq
      · obtain ⟨x, -, hx⟩ := Option.map_eq_some_iff.mp h
        cases hx
    rw [Numeral.exactly_of_integer? hinteger]
    show Head.number (Numeral.ofInteger i.toInt).exactly = _ ↔ _
    rw [Numeral.exactly_ofInteger]
    simp
  | float x =>
    rw [Number.source]
    by_cases hx : x.isFinite = true
    · rw [if_pos hx]
      show Head.number (Numeral.ofBinary64 x).exactly = _ ↔ _
      rw [Numeral.exactly_ofBinary64]
      simp [hx]
    · rw [if_neg hx]
      simp [Tree.headWith, hx]

/-- What is written for a value stands for the same as the written value that it was read from, if this is no
    number that changes. -/
theorem head_source_iff {v : Source} {w w' : Json} (hv : ofSource? v = some w) (hw : w'.head = w.head) :
    Source.head (source w') = Source.head v ↔ ∀ n, v = .number n → n.isKept = true := by
  obtain ⟨j, hj, rfl⟩ := Option.map_eq_some_iff.mp hv
  cases v with
  | null =>
    cases hj
    cases w' <;> cases hw
    simp [source, Tree.headWith]
  | bool b =>
    cases hj
    cases w' <;> cases hw
    simp [source, Tree.headWith]
  | number n =>
    rw [written?, Option.map_eq_some_iff] at hj
    obtain ⟨number, hnumber, rfl⟩ := hj
    cases w' <;> cases hw
    have hkept := Number.head_source_iff hnumber
    simp only [Tree.number.injEq, forall_eq']
    exact hkept
  | string cs =>
    rw [written?, Option.map_eq_some_iff] at hj
    obtain ⟨text, htext, rfl⟩ := hj
    cases w' with
    | string s =>
      have hs : s.toList = text := by simpa [Tree.headWith, sorted] using hw
      simp [Tree.headWith, source, text?_spelled, hs, htext]
    | _ => cases hw
  | array items =>
    rw [written?, Option.map_eq_some_iff] at hj
    obtain ⟨js, hjs, rfl⟩ := hj
    cases w' with
    | array items' =>
      have hsorted : items'.length = (sortedItems js).length := by simpa [Tree.headWith, sorted] using hw
      have hitems : items'.length = items.length := hsorted.trans (length_sortedItems hjs)
      simp [Tree.headWith, source, sourceItems_eq_map, hitems]
    | _ => cases hw
  | object members =>
    rw [written?, Option.map_eq_some_iff] at hj
    obtain ⟨ms, -, rfl⟩ := hj
    cases w' <;> cases hw
    simp [Tree.headWith, source]

end Json
end SplitterLaunch
