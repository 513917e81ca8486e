import SplitterLaunch.Proofs.Json.Places
import SplitterLaunch.Proofs.Ledger.Recording

/-! What a deposit leaves of the other entries in a file. Everything in the file's text but the two places of the
    deposit is in the new text at its old place and stands for the same, with one exception. A number that is no
    64-bit integer is read as a floating-point number and written as the shortest decimal that is read so: if
    this is another number, it has changed. -/

namespace SplitterLaunch
namespace Ledger
open Json (Step Source Tree Denotes nameOf?)

/-! ### Places beside a deposit -/

/-- A place that a value put in as a member of a member leaves alone: any but this member and what is in it,
    and but the outer member and what is in it if that is no object. -/
def Spared {σ ν : Type} (nameOf : σ → Option String) (t : Tree σ ν) (outer inner : String) (steps : List Step) : Prop :=
  ∀ rest, steps = .key outer :: rest →
    (∃ members, t.child? nameOf (.key outer) = some (.object members)) ∧ ∀ rest', rest ≠ .key inner :: rest'

theorem spared_of_ne {σ ν : Type} {nameOf : σ → Option String} {t : Tree σ ν} {outer inner : String} {steps : List Step}
    (h : steps.head? ≠ some (.key outer)) : Spared nameOf t outer inner steps := by
  rintro rest rfl
  exact absurd rfl h

section PutInner
variable {l : Ledger} {outer inner : String} {value : Json} {steps : List Step}

theorem child?_toJson (l : Ledger) (name : String) : Tree.child? some l.toJson (.key name) = l.entries.get? name :=
  Json.child?_key l.entries name

theorem child?_putInner_self (hv : Json.isOrdered value = true) :
    Tree.child? some (l.putInner outer inner value hv).toJson (.key outer) =
      some (.object (putIn (l.entries.get? outer) inner value)) :=
  (child?_toJson _ outer).trans (Json.Members.get?_insert_self _ _ _)

theorem child?_putInner_of_ne (hv : Json.isOrdered value = true) {name : String} (h : name ≠ outer) :
    Tree.child? some (l.putInner outer inner value hv).toJson (.key name) = Tree.child? some l.toJson (.key name) := by
  rw [child?_toJson, child?_toJson]
  exact Json.Members.get?_insert_of_ne h _ _

/-- What stands at a spared place stands there afterwards, an object perhaps with one member more. -/
theorem head_at?_putInner (hv : Json.isOrdered value = true) (h : Spared some l.toJson outer inner steps) :
    ((l.putInner outer inner value hv).toJson.at? steps).map Json.head = (l.toJson.at? steps).map Json.head := by
  rcases steps with _ | ⟨name | i, rest⟩
  · rfl
  · show ((Tree.child? some _ (.key name)).bind _).map _ = ((Tree.child? some _ (.key name)).bind _).map _
    -- under another name nothing changes; under this one there is an object, before and afterwards
    by_cases hname : name = outer
    · subst hname
      obtain ⟨⟨members, hmembers⟩, hrest⟩ := h rest rfl
      rw [child?_putInner_self hv, ← child?_toJson, hmembers]
      rcases rest with _ | ⟨name' | i, rest'⟩
      · rfl
      · have hname' : name' ≠ inner := fun heq => hrest rest' (heq ▸ rfl)
        show ((Tree.child? some (.object _) (.key name')).bind _).map _ =
          ((Tree.child? some (.object members) (.key name')).bind _).map _
        rw [Json.child?_key, Json.child?_key, putIn_get?_of_ne hname']
        rfl
      · rfl
    · rw [child?_putInner_of_ne hv hname]
  · rfl

theorem Spared.putInner {outer' inner' : String} (hne : outer' ≠ outer) (hv : Json.isOrdered value = true)
    (h : Spared some l.toJson outer' inner' steps) :
    Spared some (l.putInner outer inner value hv).toJson outer' inner' steps := by
  intro rest hsteps
  rw [child?_putInner_of_ne hv hne]
  exact h rest hsteps

/-- A place that is spared in a written value is spared in what it denotes. -/
theorem Spared.denotes {s : Source} {j : Json} (hs : Denotes s j) (h : Spared nameOf? s outer inner steps) :
    Spared some j outer inner steps := by
  intro rest hsteps
  obtain ⟨⟨members, hmembers⟩, hrest⟩ := h rest hsteps
  obtain ⟨hchild, hdenotes⟩ := hs.child? (.key outer)
  obtain ⟨w, hw⟩ := hdenotes _ hmembers
  obtain ⟨j, hj, rfl⟩ := Option.map_eq_some_iff.mp hw.value
  rw [Json.written?, Option.map_eq_some_iff] at hj
  obtain ⟨ms, -, rfl⟩ := hj
  rw [hmembers, Option.bind_some, hw.value] at hchild
  exact ⟨⟨_, hchild⟩, hrest⟩

end PutInner

/-- A place that a deposit leaves alone. -/
structure Deposit.Spares {σ ν : Type} (nameOf : σ → Option String) (t : Tree σ ν) (d : Deposit) (steps : List Step) :
    Prop where
  record : Spared nameOf t (chainKey d.chainId) d.contract steps
  latest : Spared nameOf t latestKey d.record.networkName steps

theorem head_at?_deposit {l : Ledger} {d : Deposit} {steps : List Step} (h : d.Spares some l.toJson steps) :
    ((l.deposit d).toJson.at? steps).map Json.head = (l.toJson.at? steps).map Json.head := by
  have hrecord : Spared some (l.putInner latestKey d.record.networkName (sorted d.latest.members)
      (isOrdered_latest d.latest)).toJson (chainKey d.chainId) d.contract steps :=
    h.record.putInner (chainKey_ne_latestKey d.chainId) (isOrdered_latest d.latest)
  exact (head_at?_putInner (isOrdered_record d.record) hrecord).trans (head_at?_putInner (isOrdered_latest d.latest) h.latest)

/-! ### A call and the text of the file -/

/-- The text that a ledger is read from, as it is written. -/
theorem exists_denotes {text : String} {l : Ledger} (h : read? text = some l) :
    ∃ s, Source.read? text.toList = some s ∧ Json.ofSource? s = some l.toJson := by
  have hread := toJson_of_read? h
  unfold Json.read? at hread
  obtain ⟨s, hs, hvalue⟩ := Option.bind_eq_some_iff.mp hread
  split at hvalue
  · exact ⟨s, hs, hvalue⟩
  · cases hvalue

/-- The file of a ledger is read as its ledger is written. -/
theorem source_fileText (l : Ledger) : Source.read? l.fileText.toList = some (Json.source l.toJson) := by
  rw [toList_fileText]
  exact Json.read?_write Json.Layout.blank_pretty l.toJson (by simp [Json.isSpace])

/-- What a deposit writes at the places that it spares: what it read there, if this is no number that changes. -/
theorem head_source_deposit_iff {l : Ledger} {d : Deposit} {s : Source} (hs : Denotes s l.toJson) {steps : List Step}
    (h : d.Spares nameOf? s steps) :
    ((Json.source (l.deposit d).toJson).at? steps).map Source.head = (s.at? steps).map Source.head ↔
      ∀ n, s.at? steps = some (.number n) → n.isKept = true := by
  have hspared : d.Spares some l.toJson steps := ⟨h.record.denotes hs, h.latest.denotes hs⟩
  have hhead := head_at?_deposit hspared
  rw [hs.at?] at hhead
  rw [Json.at?_source]
  cases hv : s.at? steps with
  | none =>
    rw [hv] at hhead
    have hnone : (l.deposit d).toJson.at? steps = none := Option.map_eq_none_iff.mp hhead
    simp [hnone]
  | some v =>
    obtain ⟨w, hw⟩ := hs.of_at? hv
    rw [hv, Option.bind_some, hw.value, Option.map_some, Option.map_eq_some_iff] at hhead
    obtain ⟨w', hw', hhead⟩ := hhead
    simp only [hw', Option.map_some, Option.some.injEq]
    exact Json.head_source_iff hw.value hhead

/-- A successful call on a file with a ledger leaves a text in which everything beside the deposit stands for
    what it stood for, but for the numbers that are not kept: each of them has become another number. -/
theorem head_at?_attempt_iff {path : String} {f : Files} {a : Attempt} {text : String} {s : Source} {l : Ledger}
    (htext : ((⟨f, a.mishaps⟩ : Disk).readText path).1 = .ok text) (hledger : (read? text).isSome = true)
    (hs : Source.read? text.toList = some s) (hdistinct : Json.hasDistinctNames s = true)
    (hok : (attempt path f a).1 = .ok l) :
    ∃ text' s', (attempt path f a).2.readText path = .ok text' ∧ Source.read? text'.toList = some s' ∧
      ∀ steps, a.deposit.Spares nameOf? s steps →
        ((s'.at? steps).map Source.head = (s.at? steps).map Source.head ↔
          ∀ n, s.at? steps = some (.number n) → n.isKept = true) := by
  obtain ⟨l₀, hl₀⟩ := Option.isSome_iff_exists.mp hledger
  obtain ⟨s₀, hs₀, hvalue⟩ := exists_denotes hl₀
  cases hs.symm.trans hs₀
  have hbase : a.base (load f path) = l₀ := by
    rw [← ofText_readText, htext]
    show (read? text).getD empty = l₀
    rw [hl₀]
    rfl
  have hsaved : (attempt path f a).1.isOk = true := by
    rw [hok]
    rfl
  obtain ⟨l₁, hl₁, -, hreplaced⟩ := attempt_of_isOk hsaved
  rw [hbase] at hl₁
  subst hl₁
  refine ⟨_, _, readText_of_read (read_of_replaced hreplaced), source_fileText _, fun steps hspares => ?_⟩
  exact head_source_deposit_iff ⟨hvalue, hdistinct⟩ hspares

/-- A text with the first integer that is too long for 64 bits, and with a fraction. -/
def longInteger : String := "\x7b\"a\":18446744073709551616,\"b\":[1.5]\x7d"

/-- The value in this text as it is written. -/
def longIntegerSource : Source := .object [(['a'], .number ⟨false, "18446744073709551616".toList, none, none⟩),
  (['b'], .array [.number ⟨false, ['1'], some ['5'], none⟩])]

/-- A deposit changes the integer and keeps the fraction. -/
theorem head_at?_attempt_longInteger :
    ∃ l, ((⟨shelf longInteger false, []⟩ : Disk).readText "a.json").1 = .ok longInteger ∧
      (read? longInteger).isSome = true ∧ Source.read? longInteger.toList = some longIntegerSource ∧
      Json.hasDistinctNames longIntegerSource = true ∧
      (attempt "a.json" (shelf longInteger false) ⟨amoyDeposit, []⟩).1 = .ok l ∧
      ∃ text' s', (attempt "a.json" (shelf longInteger false) ⟨amoyDeposit, []⟩).2.readText "a.json" = .ok text' ∧
        Source.read? text'.toList = some s' ∧
        (s'.at? [.key "a"]).map Source.head ≠ (longIntegerSource.at? [.key "a"]).map Source.head ∧
        (s'.at? [.key "b", .item 0]).map Source.head = (longIntegerSource.at? [.key "b", .item 0]).map Source.head := by
  have htext : ((⟨shelf longInteger false, []⟩ : Disk).readText "a.json").1 = .ok longInteger := by decide +kernel
  have hledger : (read? longInteger).isSome = true := by decide +kernel
  have hs : Source.read? longInteger.toList = some longIntegerSource := by rfl
  have hdistinct : Json.hasDistinctNames longIntegerSource = true := by decide +kernel
  have hok : (attempt "a.json" (shelf longInteger false) ⟨amoyDeposit, []⟩).1.isOk = true := by decide +kernel
  have hinteger : amoyDeposit.Spares nameOf? longIntegerSource [.key "a"] :=
    ⟨spared_of_ne (by decide +kernel), spared_of_ne (by decide)⟩
  have hfraction : amoyDeposit.Spares nameOf? longIntegerSource [.key "b", .item 0] :=
    ⟨spared_of_ne (by decide +kernel), spared_of_ne (by decide)⟩
  obtain ⟨l, -, hresult, -⟩ := attempt_of_isOk hok
  obtain ⟨text', s', htext', hs', hplaces⟩ := head_at?_attempt_iff htext hledger hs hdistinct hresult
  refine ⟨l, htext, hledger, hs, hdistinct, hresult, text', s', htext', hs', ?_, ?_⟩
  · intro hsame
    have hkept := (hplaces [.key "a"] hinteger).mp hsame ⟨false, "18446744073709551616".toList, none, none⟩ rfl
    exact absurd hkept (by decide +kernel)
  · refine (hplaces [.key "b", .item 0] hfraction).mpr fun n hn => ?_
    obtain rfl : ⟨false, ['1'], some ['5'], none⟩ = n := by cases hn; rfl
    decide +kernel

end Ledger
end SplitterLaunch
