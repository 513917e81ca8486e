import SplitterLaunch.Proofs.Json.Rereading
import SplitterLaunch.Proofs.Ledger.Recording

/-! Putting one record into the ledger in a file. Whatever the file held, once a call succeeds the ledger that is
    loaded from the file has the record and the latest deployment at their places. -/

namespace SplitterLaunch
namespace Ledger
variable {path : String}

/-! ### Depth -/

theorem depth_ofText_le (text : Except OsFault String) : (ofText text).toJson.depth ≤ Json.maxDepth := by
  cases text with
  | error fault => exact isPlain_empty.depth
  | ok s =>
    show ((read? s).getD empty).toJson.depth ≤ _
    cases hread : read? s with
    | none => exact isPlain_empty.depth
    | some l => exact Json.depth_of_read? (toJson_of_read? hread)

theorem depth_base_le (a : Attempt) {l : Ledger} (h : l.toJson.depth ≤ Json.maxDepth) :
    (a.base l).toJson.depth ≤ Json.maxDepth := by
  unfold Attempt.base
  split
  · exact isPlain_empty.depth
  · exact h

theorem depth_object_le_iff {members : Json.Members} {n : Nat} :
    Json.Tree.depth (.object members : Json) ≤ n + 1 ↔ ∀ m ∈ members, m.2.depth ≤ n :=
  Nat.succ_le_succ_iff.trans Json.depthMembers_le_iff

theorem depth_putInner_le {l : Ledger} (hl : l.toJson.depth ≤ Json.maxDepth) {outer inner : String} {value : Json}
    (hv : Json.isOrdered value = true) (hvalue : value.depth ≤ 125) :
    (l.putInner outer inner value hv).toJson.depth ≤ Json.maxDepth :=
  putInner_of_members (P := (·.depth ≤ Json.maxDepth)) (Q := (·.depth ≤ 126)) (R := (·.depth ≤ 125))
    (fun _ => depth_object_le_iff) (fun _ => depth_object_le_iff) hl hv hvalue

theorem depth_deposit_le {l : Ledger} (h : l.toJson.depth ≤ Json.maxDepth) (d : Deposit) :
    (l.deposit d).toJson.depth ≤ Json.maxDepth :=
  depth_putInner_le (depth_putInner_le h (isOrdered_latest d.latest) (isPlain_latest _).depth) (isOrdered_record _)
    (isPlain_record _).depth

/-! ### A ledger that is read again -/

theorem inner?_eq_at? (l : Ledger) (outer inner : String) :
    l.inner? outer inner = l.toJson.at? [.key outer, .key inner] := by
  show (l.entries.get? outer).bind _ = (Json.Tree.child? some l.toJson (.key outer)).bind _
  rw [show Json.Tree.child? some l.toJson (.key outer) = l.entries.get? outer from Json.child?_key l.entries outer]
  cases l.entries.get? outer with
  | none => rfl
  | some j =>
    show j.members?.bind _ = (Json.Tree.child? some j (.key inner)).bind some
    cases j with
    | object members =>
      rw [Json.child?_key]
      exact (Option.bind_fun_some _).symm
    | _ => rfl

/-- A ledger is read from every file that one was written to. -/
theorem exists_read?_fileText {l : Ledger} (h : l.toJson.depth ≤ Json.maxDepth) :
    ∃ l', read? l.fileText = some l' ∧ Json.Denotes (Json.source l.toJson) l'.toJson := by
  obtain ⟨j, hj⟩ := Json.exists_denotes_source (j := l.toJson) l.ordered
  have hordered := Json.isOrdered_ofSource? hj.value
  rw [read?_fileText_eq h, hj.value]
  obtain ⟨written, hwritten, rfl⟩ := Option.map_eq_some_iff.mp hj.value
  rw [toJson, Json.source, Json.written?, Option.map_eq_some_iff] at hwritten
  obtain ⟨members, -, rfl⟩ := hwritten
  exact ⟨⟨_, hordered⟩, dif_pos hordered, hj⟩

/-- What is at two keys of a ledger is there in the ledger that is read from its file, if all its numbers are
    exact. -/
theorem inner?_of_read?_fileText {l : Ledger} (h : l.toJson.depth ≤ Json.maxDepth) {outer inner : String} {v : Json}
    (hv : l.inner? outer inner = some v) (hordered : Json.isOrdered v = true) (hexact : Json.isExact v = true) :
    ((read? l.fileText).getD empty).inner? outer inner = some v := by
  obtain ⟨l', hread, hdenotes⟩ := exists_read?_fileText h
  rw [inner?_eq_at?] at hv
  rw [hread, Option.getD_some, inner?_eq_at?]
  exact Json.at?_of_denotes_source hdenotes hv hordered hexact

/-! ### One record put in -/

/-- Whether the ledger in a file has a deposit's record and latest deployment. -/
structure Holds (path : String) (f : Files) (d : Deposit) : Prop where
  record : (load f path).inner? (chainKey d.chainId) d.contract = some (sorted d.record.members)
  latest : (load f path).inner? latestKey d.record.networkName = some (sorted d.latest.members)

theorem holds_of_replaced {f f' : Files} {l : Ledger} {d : Deposit} (hdepth : l.toJson.depth ≤ Json.maxDepth)
    (h : Replaced path (Text.toBytes (l.deposit d).fileText) f f') : Holds path f' d := by
  have hload := load_of_read (read_of_replaced h)
  have hdeposit := depth_deposit_le hdepth d
  have hrecord : (l.deposit d).inner? (chainKey d.chainId) d.contract = some (sorted d.record.members) := by
    rw [inner?_deposit, if_pos ⟨rfl, rfl⟩]
  have hlatest : (l.deposit d).inner? latestKey d.record.networkName = some (sorted d.latest.members) := by
    rw [inner?_deposit, if_neg fun hkeys => chainKey_ne_latestKey d.chainId hkeys.1.symm, if_pos ⟨rfl, rfl⟩]
  constructor
  · rw [hload]
    exact inner?_of_read?_fileText hdeposit hrecord (isOrdered_record _) (isPlain_record _).exact
  · rw [hload]
    exact inner?_of_read?_fileText hdeposit hlatest (isOrdered_latest _) (isPlain_latest _).exact

/-- A call leaves a file with the record, or fails on the way. -/
theorem upsertFile_cases (path : String) (d : Deposit) (disk : Disk) :
    (∃ l disk', upsertFile path d.chainId d.contract d.record disk = (.ok l, disk') ∧ Holds path disk'.files d) ∨
      ∃ fault disk', upsertFile path d.chainId d.contract d.record disk = (.error fault, disk') ∧
        Attempted path disk.files disk'.files := by
  have hattempt : attempt path disk.files ⟨d, disk.mishaps⟩ =
      ((upsertFile path d.chainId d.contract d.record disk).1, (upsertFile path d.chainId d.contract d.record disk).2.files) :=
    rfl
  have hcases := attempt_cases path disk.files ⟨d, disk.mishaps⟩
  rw [hattempt] at hcases
  rcases hupsert : upsertFile path d.chainId d.contract d.record disk with ⟨result, disk'⟩
  rw [hupsert] at hcases
  rcases hcases with ⟨l, rfl, hok, hreplaced⟩ | ⟨fault, herror, hattempted⟩
  · refine .inl ⟨_, disk', congrArg (·, disk') hok, holds_of_replaced ?_ hreplaced⟩
    exact depth_base_le _ (depth_ofText_le _)
  · exact .inr ⟨fault, disk', congrArg (·, disk') herror, hattempted⟩

theorem holds_of_upsertFile {path : String} {d : Deposit} {disk disk' : Disk} {l : Ledger}
    (h : upsertFile path d.chainId d.contract d.record disk = (.ok l, disk')) : Holds path disk'.files d := by
  rcases upsertFile_cases path d disk with ⟨l', disk₁, hok, hholds⟩ | ⟨fault, disk₁, herror, -⟩
  · cases hok.symm.trans h
    exact hholds
  · cases herror.symm.trans h

end Ledger
end SplitterLaunch
