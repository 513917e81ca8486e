import SplitterLaunch.Proofs.CommandLine.Rows

/-! Whole command lines. A line invokes a command exactly if it is options, a command and the command's own options
    (`read_eq_ok_iff`). The network is an option on both sides of the command, so it may be named in front of it and
    anywhere behind it, to the same effect, whatever the environment says (`read_named_anywhere`). -/

namespace SplitterLaunch
namespace CommandLine
open Reading
variable {l : Level} {r r' : Reading} {g own : Given} {arg v : String} {args row : List String} {c : CommandName}
  {options before after : List (Switch × String)} {networkVariable : Option String}

/-! ### Finding the command -/

theorem ofString?_eq_some_iff : CommandName.ofString? arg = some c ↔ arg = c.text := by
  constructor
  · intro h
    have hname := List.find?_some h
    exact (beq_iff_eq.mp hname).symm
  · rintro rfl
    exact c.ofString?_text

theorem isPlain_text (c : CommandName) : IsPlain c.text := by
  cases c <;> exact fun h => absurd (Option.some.inj h) (by decide)

theorem isPlain_helpCommand : IsPlain Level.helpCommand := fun h => absurd (Option.some.inj h) (by decide)

theorem closed_of_awaitsCommand (h : r.awaitsCommand = true) : r.closed = false := by
  unfold awaitsCommand at h
  simpa using (Bool.and_eq_true_iff.mp h).1

theorem awaitsCommand_of_settles (hopen : r.closed = false) (h : r.Settles g) : r.awaitsCommand = true := by
  unfold awaitsCommand awaitsValue
  rw [hopen]
  split
  · exact absurd ‹_› h.pending_ne
  · rfl

/-- Where a command is awaited, options alone are read in front of it. -/
theorem not_isPlain_of_argument (hawaits : r.awaitsCommand = true) (h : r.argument l arg = .ok r') : ¬IsPlain arg := by
  intro hplain
  have hopen := closed_of_awaitsCommand hawaits
  rw [argument_of_isPlain hopen hplain] at h
  split at h
  · rename_i hpending
    simp [awaitsCommand, awaitsValue, hpending, hopen] at hawaits
  · cases h

theorem readFrom_text (hawaits : r.awaitsCommand = true) : readFrom r (c.text :: args) = (do
    let own ← readOwn c args
    return ((← r.settle).given, some (c, own))) := by
  have hhelp : (c.text == Level.helpCommand) = false := by cases c <;> decide
  rw [readFrom, hawaits, hhelp]
  simp only [Bool.and_false, Bool.false_eq_true, if_false, if_true, CommandName.ofString?_text]

theorem readFrom_of_argument (h : r.argument .top arg = .ok r') : readFrom r (arg :: args) = readFrom r' args := by
  rw [readFrom]
  by_cases hawaits : r.awaitsCommand = true
  · have hplain := not_isPlain_of_argument hawaits h
    have hhelp : (arg == Level.helpCommand) = false :=
      beq_eq_false_iff_ne.mpr fun heq => hplain (heq ▸ isPlain_helpCommand)
    have hname : CommandName.ofString? arg = none := by
      refine Option.eq_none_iff_forall_ne_some.mpr fun c hc => hplain ?_
      exact ofString?_eq_some_iff.mp hc ▸ isPlain_text c
    simp only [hawaits, hhelp, hname, Bool.and_false, Bool.false_eq_true, if_false, if_true, h]
    rfl
  · simp only [hawaits, Bool.false_and, Bool.false_eq_true, if_false, h]
    rfl

theorem readOwn_eq_ok_iff : readOwn c args = .ok g ↔ ∃ closed, Ends (.after c) .start args closed g := by
  unfold readOwn Ends
  simp only [Outcome.bind_eq_ok_iff, settle_eq_ok_iff]
  constructor
  · rintro ⟨r', hread, _, ⟨g', hg', rfl⟩, h⟩
    cases h
    exact ⟨r'.closed, r', hread, rfl, hg'⟩
  · rintro ⟨_, r', hread, rfl, hg'⟩
    exact ⟨r', hread, _, ⟨g, hg', rfl⟩, rfl⟩

theorem exists_front_of_readFrom (h : readFrom r args = .ok (g, some (c, own))) : ∃ front behind,
    args = front ++ c.text :: behind ∧ Ends .top r front false g ∧ readOwn c behind = .ok own := by
  induction args generalizing r with
  | nil =>
    obtain ⟨_, -, hend⟩ := Outcome.bind_eq_ok_iff.mp h
    cases hend
  | cons arg args ih =>
    rw [readFrom] at h
    split at h
    · cases h
    split at h
    · rename_i c' hcommand
      split at hcommand
      · rename_i hawaits
        obtain ⟨own', hown, hrest⟩ := Outcome.bind_eq_ok_iff.mp h
        obtain ⟨r', hsettle, hpair⟩ := Outcome.bind_eq_ok_iff.mp hrest
        obtain ⟨g', hg', rfl⟩ := settle_eq_ok_iff.mp hsettle
        cases hpair
        obtain rfl := ofString?_eq_some_iff.mp hcommand
        exact ⟨[], args, rfl, ends_nil_iff.mpr ⟨closed_of_awaitsCommand hawaits, hg'⟩, hown⟩
      · cases hcommand
    · obtain ⟨r', hargument, hrest⟩ := Outcome.bind_eq_ok_iff.mp h
      obtain ⟨front, behind, rfl, hends, hown⟩ := ih hrest
      exact ⟨arg :: front, behind, rfl, ends_cons_iff.mpr ⟨r', hargument, hends⟩, hown⟩

theorem readFrom_append {front behind : List String} (hends : Ends .top r front false g)
    (hown : readOwn c behind = .ok own) : readFrom r (front ++ c.text :: behind) = .ok (g, some (c, own)) := by
  induction front generalizing r with
  | nil =>
    obtain ⟨hopen, hsettles⟩ := ends_nil_iff.mp hends
    have hsettle : r.settle = .ok ⟨g, none, r.closed⟩ := hsettles
    rw [List.nil_append, readFrom_text (awaitsCommand_of_settles hopen hsettles), hown, hsettle]
    rfl
  | cons arg front ih =>
    obtain ⟨r', hargument, hrest⟩ := ends_cons_iff.mp hends
    rw [List.cons_append, readFrom_of_argument hargument]
    exact ih hrest

/-! ### Lines -/

/-- Whether arguments are a command between options in front of it and options of its own, none of them twice on one side. -/
inductive Calls (c : CommandName) (front behind : List (Switch × String)) : List String → Prop where
  | intro {top own : List String} (closed : Bool) (htop : Lists .top front top) (hown : Lists (.after c) behind own)
      (hfront : (front.map Prod.fst).Nodup) (hbehind : (behind.map Prod.fst).Nodup) :
      Calls c front behind (top ++ c.text :: (own ++ closing closed))

/-- What a line invokes: the command with what its own options say, on the network that they name, or else those in front
    of the command, or else the environment. -/
theorem read_eq_ok_iff {invocation : Invocation} : read args networkVariable = .ok invocation ↔
    ∃ c front behind, Calls c front behind args ∧ invocation =
      ⟨behind.lookup .network <|> front.lookup .network <|> networkVariable, (Given.of behind).command c⟩ := by
  unfold read
  rw [Outcome.bind_eq_ok_iff]
  constructor
  · rintro ⟨⟨g, _ | ⟨c, own⟩⟩, hread, h⟩
    · cases h
    cases h
    obtain ⟨top, rest, rfl, htop, hown⟩ := exists_front_of_readFrom hread
    obtain ⟨front, topRow, rfl, hlists, hfront, rfl⟩ := ends_start_iff.mp htop
    obtain ⟨closed, hends⟩ := readOwn_eq_ok_iff.mp hown
    obtain ⟨behind, row, rfl, hlists', hbehind, rfl⟩ := ends_start_iff.mp hends
    refine ⟨c, front, behind, ?_, rfl⟩
    have hopen : closing false = [] := rfl
    rw [hopen, List.append_nil]
    exact .intro closed hlists hlists' hfront hbehind
  · rintro ⟨c, front, behind, ⟨closed, htop, hown, hfront, hbehind⟩, rfl⟩
    refine ⟨⟨.of front, some (c, .of behind)⟩, readFrom_append ?_ ?_, rfl⟩
    · exact ends_start_iff.mpr ⟨front, _, (List.append_nil _).symm, htop, hfront, rfl⟩
    · exact readOwn_eq_ok_iff.mpr ⟨closed, ends_start_iff.mpr ⟨behind, _, rfl, hown, hbehind, rfl⟩⟩

/-! ### Naming the network -/

/-- Options none of which is twice there, and none is the network. -/
structure Unnamed (options : List (Switch × String)) : Prop where
  distinct : (options.map Prod.fst).Nodup
  not_mem : .network ∉ options.map Prod.fst

theorem unnamed_iff : Unnamed options ↔ (options.map Prod.fst).Nodup ∧ options.lookup .network = none := by
  rw [lookup_eq_none_iff]
  exact ⟨fun h => ⟨h.distinct, h.not_mem⟩, fun h => ⟨h.1, h.2⟩⟩

theorem Unnamed.distinct_middle (h : Unnamed (before ++ after)) :
    ((before ++ (.network, v) :: after).map Prod.fst).Nodup := by
  have hdistinct := h.distinct
  have hnot := h.not_mem
  rw [List.map_append] at hdistinct hnot ⊢
  rw [List.map_cons, List.nodup_middle]
  exact List.nodup_cons.mpr ⟨hnot, hdistinct⟩

theorem Unnamed.lookup_middle (h : Unnamed (before ++ after)) :
    (before ++ (.network, v) :: after).lookup .network = some v := by
  have hnone := (unnamed_iff.mp h).2
  rw [List.lookup_append, Option.or_eq_none_iff] at hnone
  rw [List.lookup_append, hnone.1, List.lookup_cons_self]
  rfl

/-- The network makes no difference to what a command is told besides. -/
theorem command_of_middle :
    (Given.of (before ++ (.network, v) :: after)).command c = (Given.of (before ++ after)).command c := by
  have hskip (s : Switch) (h : (s == .network) = false) :
      (before ++ (.network, v) :: after).lookup s = (before ++ after).lookup s := by
    rw [List.lookup_append, List.lookup_append, List.lookup_cons, h]
  cases c with
  | balance => exact congrArg Command.balance (hskip .address rfl)
  | estimate => exact congrArg (fun value => Command.estimate (Option.isSome value)) (hskip .json rfl)
  | deploy => rfl
  | networks => rfl

theorem read_text_eq_ok_iff {invocation : Invocation} : read (c.text :: args) networkVariable = .ok invocation ↔
    ∃ closed g, Ends (.after c) .start args closed g ∧ invocation = ⟨g.network <|> networkVariable, g.command c⟩ := by
  unfold read
  rw [Outcome.bind_eq_ok_iff, readFrom_text rfl]
  constructor
  · rintro ⟨_, hread, h⟩
    obtain ⟨own, hown, hpair⟩ := Outcome.bind_eq_ok_iff.mp hread
    obtain ⟨closed, hends⟩ := readOwn_eq_ok_iff.mp hown
    cases hpair
    cases h
    exact ⟨closed, own, hends, rfl⟩
  · rintro ⟨closed, own, hends, rfl⟩
    refine ⟨⟨.none, some (c, own)⟩, ?_, rfl⟩
    rw [readOwn_eq_ok_iff.mpr ⟨closed, hends⟩]
    rfl

/-- All that may stand behind a command, no network being named. -/
theorem read_unnamed_iff {command : Command} : read (c.text :: args) none = .ok ⟨none, command⟩ ↔
    ∃ options row closed, args = row ++ closing closed ∧ Lists (.after c) options row ∧ Unnamed options ∧
      command = (Given.of options).command c := by
  simp only [read_text_eq_ok_iff, ends_start_iff, unnamed_iff, Invocation.mk.injEq]
  constructor
  · rintro ⟨closed, _, ⟨options, row, hargs, hlists, hdistinct, rfl⟩, hnetwork, hcommand⟩
    have hnone : (Given.of options).network = none := by simpa using hnetwork.symm
    exact ⟨options, row, closed, hargs, hlists, ⟨hdistinct, hnone⟩, hcommand⟩
  · rintro ⟨options, row, closed, hargs, hlists, ⟨hdistinct, hnone⟩, hcommand⟩
    have hnetwork : (Given.of options).network = none := hnone
    exact ⟨closed, _, ⟨options, row, hargs, hlists, hdistinct, rfl⟩, by rw [hnetwork]; rfl, hcommand⟩

theorem writes_network (h : v.toList.head? ≠ some '-') : Writes .network v ["--network", v] ∧
    Writes .network v ["--network=" ++ v] ∧ Writes .network v ["-n", v] := by
  have hplain : IsPlain v := fun hdash => absurd hdash h
  exact ⟨.apart .network hplain, .carried (.network v), .apart .short hplain⟩

/-- The network may be named in front of the command, and behind it in front of, between and after the options of its own,
    in every way in which an option is written, and the command is called on this network with what the other options say.
    Where it is not named, the command is called with the same and on the network that the environment names. The options
    may be any with which the command can be called. -/
theorem read_named_anywhere (c : CommandName) :
    (∀ own command, read (c.text :: own) none = .ok ⟨none, command⟩ ↔ ∃ options row closed, own = row ++ closing closed ∧
      Lists (.after c) options row ∧ Unnamed options ∧ command = (Given.of options).command c) ∧
    ∀ before after front behind closed networkVariable,
      Lists (.after c) before front → Lists (.after c) after behind → Unnamed (before ++ after) →
        read (c.text :: (front ++ behind ++ closing closed)) networkVariable =
          .ok ⟨networkVariable, (Given.of (before ++ after)).command c⟩ ∧
        ∀ v named, Writes .network v named →
          read (named ++ c.text :: (front ++ behind ++ closing closed)) networkVariable =
            .ok ⟨some v, (Given.of (before ++ after)).command c⟩ ∧
          read (c.text :: (front ++ named ++ behind ++ closing closed)) networkVariable =
            .ok ⟨some v, (Given.of (before ++ after)).command c⟩ := by
  refine ⟨fun own command => read_unnamed_iff, ?_⟩
  intro before after front behind closed networkVariable hfront hbehind hunnamed
  have hown := hfront.append hbehind
  obtain ⟨hdistinct, hnone⟩ := unnamed_iff.mp hunnamed
  constructor
  · refine read_eq_ok_iff.mpr ⟨c, [], before ++ after, .intro closed .nil hown List.nodup_nil hdistinct, ?_⟩
    rw [hnone]
    rfl
  intro v named hnamed
  constructor
  · have htop : Lists .top [(.network, v)] named := hnamed.lists (.network .top)
    refine read_eq_ok_iff.mpr ⟨c, _, before ++ after, .intro closed htop hown (List.nodup_singleton _) hdistinct, ?_⟩
    rw [hnone]
    rfl
  · have hmiddle : Lists (.after c) (before ++ (.network, v) :: after) (front ++ named ++ behind) := by
      rw [List.append_cons]
      exact (hfront.append (hnamed.lists (.network _))).append hbehind
    refine read_eq_ok_iff.mpr ⟨c, [], _, .intro closed .nil hmiddle List.nodup_nil hunnamed.distinct_middle, ?_⟩
    rw [hunnamed.lookup_middle, command_of_middle]
    rfl

/-- The network of a balance is named in front of the command, before the account and after it; another one that the
    environment names does not count. -/
theorem read_named_anywhere_amoy :
    read ["--network", "amoy", "balance", "--address", "0xabc"] (some "hardhat") = .ok ⟨some "amoy", .balance (some "0xabc")⟩ ∧
    read ["balance", "--network=amoy", "--address", "0xabc"] (some "hardhat") = .ok ⟨some "amoy", .balance (some "0xabc")⟩ ∧
    read ["balance", "--address", "0xabc", "-n", "amoy"] (some "hardhat") = .ok ⟨some "amoy", .balance (some "0xabc")⟩ ∧
    read ["balance", "--address", "0xabc"] (some "hardhat") = .ok ⟨some "hardhat", .balance (some "0xabc")⟩ := by
  obtain ⟨hlong, hequals, hshort⟩ := writes_network (v := "amoy") (by decide)
  have haddress : Lists (.after .balance) [(.address, "0xabc")] ["--address", "0xabc"] :=
    Writes.lists .address (.apart .address fun h => absurd (Option.some.inj h) (by decide))
  have hunnamed : Unnamed [(.address, "0xabc")] := ⟨by decide, by decide⟩
  obtain ⟨-, hanywhere⟩ := read_named_anywhere .balance
  obtain ⟨hplain, hbefore⟩ := hanywhere [] [(.address, "0xabc")] [] _ false (some "hardhat") .nil haddress hunnamed
  obtain ⟨-, hafter⟩ := hanywhere [(.address, "0xabc")] [] _ [] false (some "hardhat") haddress .nil hunnamed
  exact ⟨(hbefore "amoy" _ hlong).1, (hbefore "amoy" _ hequals).2, (hafter "amoy" _ hshort).2, hplain⟩

end CommandLine
end SplitterLaunch
