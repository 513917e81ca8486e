import Mathlib.Data.List.Nodup
import SplitterLaunch.Proofs.CommandLine.Arguments

/-! Options in a row. Arguments are read to their end exactly if they give options of the level one after the other, none of
    them twice, and then they say what these options say (`ends_start_iff`). The induction is on the options that are left,
    and carries those that have been read: whatever is pending, what is given so far is what they say. -/

namespace SplitterLaunch
namespace CommandLine
variable {l : Level} {s : Switch} {r r' : Reading} {g g' : Given} {arg v : String} {args row : List String} {closed : Bool}
  {options before : List (Switch × String)}

/-! ### Rows -/

/-- Whether a row of arguments gives an option with its value. -/
inductive Writes : Switch → String → List String → Prop where
  | apart {s : Switch} {arg v : String} (harg : Announces s arg) (hv : IsPlain v) : Writes s v [arg, v]
  | carried {s : Switch} {arg v : String} (harg : Carries s v arg) : Writes s v [arg]

/-- Whether a row of arguments gives options of a level with their values, one after the other. -/
inductive Lists (l : Level) : List (Switch × String) → List String → Prop where
  | nil : Lists l [] []
  | cons {s : Switch} {v : String} {row rest : List String} {options : List (Switch × String)} (h : l.Offers s)
      (hrow : Writes s v row) (hrest : Lists l options rest) : Lists l ((s, v) :: options) (row ++ rest)

/-- What stands at the end of a row: the double dash if it closes the options. -/
def closing (closed : Bool) : List String := if closed then ["--"] else []

theorem Writes.isSetting (h : Writes s v row) : s.IsSetting := by
  cases h with
  | apart harg _ => exact harg.isSetting
  | carried harg => exact harg.isSetting

theorem Lists.append {options' : List (Switch × String)} {row' : List String} (h : Lists l options row)
    (h' : Lists l options' row') : Lists l (options ++ options') (row ++ row') := by
  induction h with
  | nil => exact h'
  | cons hoffers hrow _ ih =>
    rw [List.append_assoc]
    exact .cons hoffers hrow ih

theorem Writes.lists (h : l.Offers s) (hrow : Writes s v row) : Lists l [(s, v)] row :=
  List.append_nil row ▸ .cons h hrow .nil

/-! ### What options say -/

/-- What options say together. -/
def Given.of (options : List (Switch × String)) : Given :=
  ⟨options.lookup .network, options.lookup .address, (options.lookup .json).isSome⟩

theorem isSome_lookup_iff : (options.lookup s).isSome = true ↔ s ∈ options.map Prod.fst := by
  rw [List.lookup_isSome_iff, List.mem_map]
  exact exists_congr fun _ => and_congr_right fun _ => beq_iff_eq.trans eq_comm

theorem lookup_eq_none_iff : options.lookup s = none ↔ s ∉ options.map Prod.fst := by
  rw [← isSome_lookup_iff, Option.not_isSome_iff_eq_none]

theorem lookup_concat (before : List (Switch × String)) (s : Switch) (v : String) :
    (before ++ [(s, v)]).lookup s = (before.lookup s).or (some v) := by
  rw [List.lookup_append, List.lookup_cons_self]

theorem lookup_concat_of_ne {t : Switch} (h : t ≠ s) : (before ++ [(s, v)]).lookup t = before.lookup t := by
  rw [List.lookup_append, List.lookup_cons, beq_eq_false_iff_ne.mpr h]
  exact Option.or_none

/-- An option is added to others exactly if it is none of them. -/
theorem insert_of_eq_ok_iff (h : s.IsSetting) :
    (Given.of before).insert s v = .ok g ↔ s ∉ before.map Prod.fst ∧ g = .of (before ++ [(s, v)]) := by
  rw [← isSome_lookup_iff]
  unfold Given.insert Given.of
  rcases h with rfl | rfl | rfl
  · rw [lookup_concat, lookup_concat_of_ne (by decide), lookup_concat_of_ne (by decide)]
    cases before.lookup .network <;> simp [eq_comm]
  · rw [lookup_concat, lookup_concat_of_ne (by decide), lookup_concat_of_ne (by decide)]
    cases before.lookup .address <;> simp [eq_comm]
  · rw [lookup_concat, lookup_concat_of_ne (by decide), lookup_concat_of_ne (by decide)]
    cases before.lookup .json <;> simp [eq_comm]

namespace Reading

/-! ### Reading to the end -/

/-- Whether reading arguments comes to what options say, and to a double dash at the end or none. -/
def Ends (l : Level) (r : Reading) (args : List String) (closed : Bool) (g : Given) : Prop :=
  ∃ r', args.foldlM (argument l) r = .ok r' ∧ r'.closed = closed ∧ r'.Settles g

theorem ends_nil_iff : Ends l r [] closed g ↔ r.closed = closed ∧ r.Settles g := by
  constructor
  · rintro ⟨_, h, hend⟩
    cases h
    exact hend
  · exact fun h => ⟨r, rfl, h⟩

theorem ends_cons_iff : Ends l r (arg :: args) closed g ↔ ∃ r', r.argument l arg = .ok r' ∧ Ends l r' args closed g := by
  unfold Ends
  simp only [List.foldlM_cons, Outcome.bind_eq_ok_iff]
  constructor
  · rintro ⟨r'', ⟨r', hargument, hrest⟩, hend⟩
    exact ⟨r', hargument, r'', hrest, hend⟩
  · rintro ⟨r', hargument, r'', hrest, hend⟩
    exact ⟨r'', ⟨r', hargument, hrest⟩, hend⟩

theorem ends_cons_iff_step (hopen : r.closed = false) :
    Ends l r (arg :: args) closed g ↔ ∃ r', Step l r arg r' ∧ Ends l r' args closed g := by
  simp only [ends_cons_iff, argument_eq_ok_iff hopen]

theorem ends_of_closed_iff (hclosed : r.closed = true) :
    Ends l r args closed g ↔ args = [] ∧ closed = true ∧ r.Settles g := by
  cases args with
  | nil => rw [ends_nil_iff, hclosed, eq_comm, and_iff_right rfl]
  | cons arg args =>
    refine iff_of_false (fun h => ?_) fun h => List.cons_ne_nil _ _ h.1
    obtain ⟨r', hargument, -⟩ := ends_cons_iff.mp h
    exact argument_of_closed hclosed hargument

/-- Where a value is awaited, nothing but a value comes next. -/
theorem ends_awaiting_iff : Ends l ⟨g, some (s, none), false⟩ args closed g' ↔
    ∃ v rest, args = v :: rest ∧ IsPlain v ∧ Ends l ⟨g, some (s, some v), false⟩ rest closed g' := by
  cases args with
  | nil =>
    rw [ends_nil_iff]
    exact iff_of_false (fun h => h.2.pending_ne rfl) nofun
  | cons arg args =>
    rw [ends_cons_iff_step rfl]
    constructor
    · rintro ⟨r', hstep, hrest⟩
      cases hstep with
      | closes => exact absurd rfl ((ends_of_closed_iff rfl).mp hrest).2.2.pending_ne
      | completes hpending hv =>
        cases hpending
        exact ⟨arg, args, rfl, hv, hrest⟩
      | announces _ _ hr' =>
        obtain ⟨_, hsettles, -⟩ := hr'
        exact absurd rfl hsettles.pending_ne
      | carries _ _ hr' =>
        obtain ⟨_, _, hsettles, -⟩ := hr'
        exact absurd rfl hsettles.pending_ne
    · rintro ⟨v, rest, h, hv, hrest⟩
      cases h
      exact ⟨_, .completes rfl hv, hrest⟩

/-- A value that has come can be taken over, whatever is read next. -/
theorem exists_insert_of_ends (h : Ends l ⟨g, some (s, some v), false⟩ args closed g') :
    ∃ g'', g.insert s v = .ok g'' := by
  cases args with
  | nil => exact ⟨g', settles_some_iff.mp (ends_nil_iff.mp h).2⟩
  | cons arg args =>
    obtain ⟨r', hstep, hrest⟩ := (ends_cons_iff_step rfl).mp h
    cases hstep with
    | closes => exact ⟨g', settles_some_iff.mp ((ends_of_closed_iff rfl).mp hrest).2.2⟩
    | completes hpending => cases hpending
    | announces _ _ hr' =>
      obtain ⟨g'', hsettles, -⟩ := hr'
      exact ⟨g'', settles_some_iff.mp hsettles⟩
    | carries _ _ hr' =>
      obtain ⟨g'', _, hsettles, -⟩ := hr'
      exact ⟨g'', settles_some_iff.mp hsettles⟩

/-! ### One option -/

/-- An option that is new can be put in front of what is read after it. -/
theorem ends_append_of_writes (hopen : r.closed = false) (hsettles : r.Settles (.of before)) (h : l.Offers s)
    (hrow : Writes s v row) (hnew : s ∉ before.map Prod.fst) : ∃ r', r'.closed = false ∧
      r'.Settles (.of (before ++ [(s, v)])) ∧
      ∀ args closed g, Ends l r' args closed g → Ends l r (row ++ args) closed g := by
  have hinsert : (Given.of before).insert s v = .ok (.of (before ++ [(s, v)])) :=
    (insert_of_eq_ok_iff hrow.isSetting).mpr ⟨hnew, rfl⟩
  cases hrow with
  | apart harg hv =>
    refine ⟨⟨.of before, some (s, some v), false⟩, rfl, settles_some_iff.mpr hinsert, fun args closed g hrest => ?_⟩
    refine (ends_cons_iff_step hopen).mpr ⟨⟨.of before, some (s, none), false⟩, ?_, ?_⟩
    · exact .announces h harg ⟨_, hsettles, by rw [hopen]⟩
    · exact ends_awaiting_iff.mpr ⟨v, args, rfl, hv, hrest⟩
  | carried harg =>
    refine ⟨⟨.of (before ++ [(s, v)]), none, false⟩, rfl, settles_none_iff.mpr rfl, fun args closed g hrest => ?_⟩
    exact (ends_cons_iff_step hopen).mpr ⟨_, .carries h harg ⟨_, _, hsettles, hinsert, by rw [hopen]⟩, hrest⟩

/-- What is read to the end is nothing but the end, or an option that is new comes first. -/
theorem exists_writes_of_ends (hopen : r.closed = false) (hsettles : r.Settles (.of before)) (h : Ends l r args closed g) :
    (args = closing closed ∧ g = .of before) ∨ ∃ s v row rest r', args = row ++ rest ∧ rest.length < args.length ∧
      l.Offers s ∧ Writes s v row ∧ s ∉ before.map Prod.fst ∧
      r'.closed = false ∧ r'.Settles (.of (before ++ [(s, v)])) ∧ Ends l r' rest closed g := by
  cases args with
  | nil =>
    obtain ⟨hclosed, hg⟩ := ends_nil_iff.mp h
    rw [hopen] at hclosed
    exact .inl ⟨hclosed ▸ rfl, hg.unique hsettles⟩
  | cons arg args =>
    obtain ⟨r', hstep, hrest⟩ := (ends_cons_iff_step hopen).mp h
    cases hstep with
    | closes =>
      obtain ⟨rfl, rfl, hg⟩ := (ends_of_closed_iff rfl).mp hrest
      exact .inl ⟨rfl, (settles_close_iff.mp hg).unique hsettles⟩
    | completes hpending => exact absurd hpending hsettles.pending_ne
    | @announces s _ _ hoffers harg hr' =>
      obtain ⟨g', hg', rfl⟩ := hr'
      obtain rfl := hg'.unique hsettles
      rw [hopen, ends_awaiting_iff] at hrest
      obtain ⟨v, rest, rfl, hv, hrest⟩ := hrest
      obtain ⟨g', hinsert⟩ := exists_insert_of_ends hrest
      obtain ⟨hnew, rfl⟩ := (insert_of_eq_ok_iff harg.isSetting).mp hinsert
      refine .inr ⟨s, v, [arg, v], rest, _, rfl, ?_, hoffers, .apart harg hv, hnew, rfl, ?_, hrest⟩
      · exact Nat.lt_add_of_pos_right (Nat.succ_pos 1)
      · exact settles_some_iff.mpr hinsert
    | @carries s v _ _ hoffers harg hr' =>
      obtain ⟨g', g'', hg', hinsert, rfl⟩ := hr'
      obtain rfl := hg'.unique hsettles
      obtain ⟨hnew, rfl⟩ := (insert_of_eq_ok_iff harg.isSetting).mp hinsert
      refine .inr ⟨s, v, [arg], args, _, rfl, Nat.lt_succ_self _, hoffers, .carried harg, hnew, ?_, ?_, hrest⟩
      · exact hopen
      · exact settles_none_iff.mpr rfl

/-! ### All options -/

theorem ends_of_lists (hopen : r.closed = false) (hsettles : r.Settles (.of before)) (hlists : Lists l options row)
    (hnodup : ((before ++ options).map Prod.fst).Nodup) :
    Ends l r (row ++ closing closed) closed (.of (before ++ options)) := by
  induction hlists generalizing r before with
  | nil =>
    rw [List.append_nil]
    cases closed with
    | false => exact ends_nil_iff.mpr ⟨hopen, hsettles⟩
    | true =>
      exact (ends_cons_iff_step hopen).mpr ⟨_, .closes, ends_nil_iff.mpr ⟨rfl, settles_close_iff.mpr hsettles⟩⟩
  | @cons s v row rest options hoffers hrow _ ih =>
    have hnew : s ∉ before.map Prod.fst := by
      rw [List.map_append, List.nodup_append] at hnodup
      exact fun hmem => hnodup.2.2 s hmem s List.mem_cons_self rfl
    rw [List.append_cons] at hnodup ⊢
    obtain ⟨r', hopen', hsettles', hrest⟩ := ends_append_of_writes hopen hsettles hoffers hrow hnew
    rw [List.append_assoc]
    exact hrest _ _ _ (ih hopen' hsettles' hnodup)

theorem exists_lists_of_ends (hopen : r.closed = false) (hsettles : r.Settles (.of before))
    (hnodup : (before.map Prod.fst).Nodup) (h : Ends l r args closed g) :
    ∃ options row, args = row ++ closing closed ∧ Lists l options row ∧
      ((before ++ options).map Prod.fst).Nodup ∧ g = .of (before ++ options) := by
  -- An option takes one argument or two, so the induction is on the number of the arguments.
  induction hn : args.length using Nat.strongRecOn generalizing r before args with
  | _ n ih
  rcases exists_writes_of_ends hopen hsettles h with ⟨rfl, rfl⟩ |
    ⟨s, v, row, rest, r', rfl, hlength, hoffers, hrow, hnew, hopen', hsettles', hrest⟩
  · exact ⟨[], [], rfl, .nil, by rwa [List.append_nil], by rw [List.append_nil]⟩
  · have hnodup' : ((before ++ [(s, v)]).map Prod.fst).Nodup := by
      rw [List.map_append, List.nodup_append]
      refine ⟨hnodup, List.nodup_singleton s, fun t ht u hu htu => hnew ?_⟩
      have hs : u = s := List.mem_singleton.mp hu
      rwa [← hs, ← htu]
    obtain ⟨options, row', rfl, hlists, hdistinct, rfl⟩ := ih _ (hn ▸ hlength) hopen' hsettles' hnodup' hrest rfl
    rw [← List.append_cons] at hdistinct ⊢
    exact ⟨(s, v) :: options, row ++ row', (List.append_assoc ..).symm, .cons hoffers hrow hlists, hdistinct, rfl⟩

theorem settles_start : start.Settles (.of []) := rfl

/-- Arguments are read to their end exactly if they list options of the level, none of them twice, and then they say what
    these say. -/
theorem ends_start_iff : Ends l start args closed g ↔ ∃ options row, args = row ++ closing closed ∧
    Lists l options row ∧ (options.map Prod.fst).Nodup ∧ g = .of options := by
  constructor
  · exact exists_lists_of_ends rfl settles_start List.nodup_nil
  · rintro ⟨options, row, rfl, hlists, hnodup, rfl⟩
    exact ends_of_lists rfl settles_start hlists hnodup

end Reading

end CommandLine
end SplitterLaunch
