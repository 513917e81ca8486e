import SplitterLaunch.CommandLine
import SplitterLaunch.Outcome

/-! What one argument of a command line does. An option is announced by an argument whose value is the next one, or it is
    carried by one argument together with its value (`Announces`, `Carries`). Reading goes on after an argument exactly if
    it is one of these, the value that is awaited, or the double dash (`argument_eq_ok_iff`); before another option is
    looked at, the one that is read last has been taken over (`Settles`). -/

namespace SplitterLaunch
namespace CommandLine
variable {l : Level} {s : Switch} {r r' : Reading} {g g' : Given} {arg v : String} {cs : List Char} {c : Char} {b : Bool}

/-! ### How options are written -/

/-- Whether an argument can be the value of the option in front of it: it is no option itself. A dash alone is none. -/
def IsPlain (arg : String) : Prop := arg.toList.head? = some '-' → arg = "-"

/-- The options that there are at a level. -/
inductive Level.Offers : Level → Switch → Prop where
  | network (l : Level) : Offers l .network
  | help (l : Level) : Offers l .help
  | version : Offers .top .version
  | address : Offers (.after .balance) .address
  | json : Offers (.after .estimate) .json

/-- Whether an argument is an option whose value is the next argument. -/
inductive Announces : Switch → String → Prop where
  | network : Announces .network "--network"
  | short : Announces .network "-n"
  | address : Announces .address "--address"

/-- Whether an argument is an option together with its value, which is empty for one that takes none. -/
inductive Carries : Switch → String → String → Prop where
  | network (v : String) : Carries .network v ("--network=" ++ v)
  | short (v : String) : Carries .network v ("-n=" ++ v)
  | joined (v : String) (h : ∃ c ∈ v.toList.head?, c ≠ '=') : Carries .network v ("-n" ++ v)
  | address (v : String) : Carries .address v ("--address=" ++ v)
  | json : Carries .json "" "--json"

/-- The options that say something about a command, and do not end the reading. -/
def Switch.IsSetting (s : Switch) : Prop := s = .network ∨ s = .address ∨ s = .json

theorem Announces.isSetting (h : Announces s arg) : s.IsSetting := by
  cases h <;> simp [Switch.IsSetting]

theorem Carries.isSetting (h : Carries s v arg) : s.IsSetting := by
  cases h <;> simp [Switch.IsSetting]

/-! ### Names -/

/-- The long name of an option. -/
def Switch.name : Switch → String
  | network => "network"
  | address => "address"
  | json => "json"
  | help => "help"
  | version => "version"

theorem name_ne_equals (s : Switch) : ∀ c ∈ s.name.toList, decide (c ≠ '=') = true := by
  have hall : (s.name.toList.all fun c => decide (c ≠ '=')) = true := by cases s <;> decide
  exact List.all_eq_true.mp hall

theorem long?_eq_some_iff {name : String} : l.long? name = some s ↔ l.Offers s ∧ name = s.name := by
  constructor
  · intro h
    unfold Level.long? at h
    split at h
    all_goals cases h
    · exact ⟨.network _, rfl⟩
    · exact ⟨.help _, rfl⟩
    · exact ⟨.version, rfl⟩
    · exact ⟨.address, rfl⟩
    · exact ⟨.json, rfl⟩
  · rintro ⟨h, rfl⟩
    cases h <;> rfl

theorem short?_eq_some (h : l.short? c = some s) : c = 'n' ∧ s = .network ∨ s = .help ∨ s = .version := by
  unfold Level.short? at h
  split at h
  all_goals cases h
  · exact .inl ⟨rfl, rfl⟩
  · exact .inr (.inl rfl)
  · exact .inr (.inr rfl)

namespace Reading

/-! ### Taking options over -/

/-- What the options say once the one that is read last is taken over. -/
def Settles (r : Reading) (g : Given) : Prop := r.settle = .ok ⟨g, none, r.closed⟩

/-- Whether reading goes on with an option whose value is to come. -/
def Expects (r : Reading) (s : Switch) (r' : Reading) : Prop := ∃ g, r.Settles g ∧ r' = ⟨g, some (s, none), r.closed⟩

/-- Whether reading goes on with an option that has its value. -/
def Sets (r : Reading) (s : Switch) (v : String) (r' : Reading) : Prop :=
  ∃ g g', r.Settles g ∧ g.insert s v = .ok g' ∧ r' = ⟨g', none, r.closed⟩

theorem settle_eq_ok_iff : r.settle = .ok r' ↔ ∃ g, r.Settles g ∧ r' = ⟨g, none, r.closed⟩ := by
  constructor
  · intro h
    have hshape : r' = ⟨r'.given, none, r.closed⟩ := by
      unfold settle at h
      split at h
      case h_1 hnone =>
        cases h
        rw [← hnone]
      case h_2 => cases h
      case h_3 =>
        obtain ⟨g, -, hr'⟩ := Outcome.bind_eq_ok_iff.mp h
        cases hr'
        rfl
    exact ⟨r'.given, h.trans (congrArg Except.ok hshape), hshape⟩
  · rintro ⟨g, h, rfl⟩
    exact h

theorem settles_none_iff : Settles ⟨g, none, b⟩ g' ↔ g = g' := by
  simp [Settles, settle]

theorem settles_some_iff : Settles ⟨g, some (s, some v), b⟩ g' ↔ g.insert s v = .ok g' := by
  simp only [Settles, settle, Outcome.bind_eq_ok_iff]
  constructor
  · rintro ⟨_, hinsert, h⟩
    cases h
    exact hinsert
  · exact fun h => ⟨_, h, rfl⟩

theorem Settles.pending_ne (h : r.Settles g) : r.pending ≠ some (s, none) := by
  intro hpending
  unfold Settles settle at h
  rw [hpending] at h
  cases h

theorem Settles.unique (h : r.Settles g) (h' : r.Settles g') : g = g' := by
  have heq := Except.ok.inj (h.symm.trans h')
  cases heq
  rfl

/-- Whether options have been closed makes no difference to what they say. -/
theorem settles_close_iff : Settles { r with closed := b } g ↔ r.Settles g := by
  obtain ⟨given, pending, closed⟩ := r
  match pending with
  | none => rw [settles_none_iff, settles_none_iff]
  | some (s, none) => exact iff_of_false (fun h => h.pending_ne rfl) (fun h => h.pending_ne rfl)
  | some (s, some v) => rw [settles_some_iff, settles_some_iff]

theorem attached_eq_ok_iff : r.attached s v = .ok r' ↔ r.Sets s v r' := by
  unfold attached Sets
  simp only [Outcome.bind_eq_ok_iff, settle_eq_ok_iff]
  constructor
  · rintro ⟨_, ⟨g, hsettles, rfl⟩, g', hinsert, h⟩
    cases h
    exact ⟨g, g', hsettles, hinsert, rfl⟩
  · rintro ⟨g, g', hsettles, hinsert, rfl⟩
    exact ⟨_, ⟨g, hsettles, rfl⟩, g', hinsert, rfl⟩

theorem flag_eq_ok_iff_expects (h : takesValue s = true) : r.flag l s = .ok r' ↔ r.Expects s r' := by
  unfold flag Expects
  simp only [Outcome.bind_eq_ok_iff, settle_eq_ok_iff]
  constructor
  · rintro ⟨_, ⟨g, hsettles, rfl⟩, hpending⟩
    cases s <;> cases h <;> cases hpending <;> exact ⟨g, hsettles, rfl⟩
  · rintro ⟨g, hsettles, rfl⟩
    refine ⟨_, ⟨g, hsettles, rfl⟩, ?_⟩
    cases s <;> cases h <;> rfl

theorem flag_json_eq_ok_iff : r.flag l .json = .ok r' ↔ r.Sets .json "" r' := attached_eq_ok_iff

theorem flag_ne_ok (h : s = .help ∨ s = .version) : r.flag l s ≠ .ok r' := by
  unfold flag
  rw [Ne, Outcome.bind_eq_ok_iff]
  rcases h with rfl | rfl <;> rintro ⟨_, -, hend⟩ <;> cases hend

/-! ### Options of one letter -/

theorem shorts_network_eq_ok_iff : r.shorts l ('n' :: cs) = .ok r' ↔ cs = [] ∧ r.Expects .network r' ∨
    ∃ v : String, (cs = '=' :: v.toList ∨ cs = v.toList ∧ ∃ d ∈ v.toList.head?, d ≠ '=') ∧ r.Sets .network v r' := by
  have hnetwork : l.short? 'n' = some .network := by cases l <;> rfl
  rw [shorts]
  simp only [hnetwork, takesValue, if_true]
  split
  · rw [flag_eq_ok_iff_expects rfl]
    constructor
    · exact fun h => .inl ⟨rfl, h⟩
    · rintro (⟨-, h⟩ | ⟨v, hv | ⟨hv, d, hd, -⟩, -⟩)
      · exact h
      · cases hv
      · rw [← hv] at hd
        cases hd
  · rw [attached_eq_ok_iff]
    constructor
    · exact fun h => .inr ⟨_, .inl (by rw [String.toList_ofList]), h⟩
    · rintro (⟨hnil, -⟩ | ⟨v, hv | ⟨hv, d, hd, hne⟩, h⟩)
      · cases hnil
      · obtain rfl := (List.cons.inj hv).2
        rwa [String.ofList_toList]
      -- An equals sign that follows the letter is never part of the value.
      · rw [← hv] at hd
        exact absurd (Option.some.inj hd).symm hne
  · rename_i hnil hequals
    rw [attached_eq_ok_iff]
    constructor
    · obtain ⟨d, ds, rfl⟩ := List.exists_cons_of_ne_nil hnil
      have hd : d ≠ '=' := fun h => hequals ds (h ▸ rfl)
      refine fun h => .inr ⟨_, .inr ⟨String.toList_ofList.symm, d, ?_, hd⟩, h⟩
      rw [String.toList_ofList]
      rfl
    · rintro (⟨hcs, -⟩ | ⟨v, hv | ⟨rfl, -⟩, h⟩)
      · exact absurd hcs hnil
      · exact absurd hv (hequals _)
      · rwa [String.ofList_toList]

/-- Reading goes on after no other option of one letter. -/
theorem eq_network_of_shorts (h : r.shorts l (c :: cs) = .ok r') : c = 'n' := by
  rw [shorts] at h
  split at h
  · cases h
  · rename_i hs
    rcases short?_eq_some hs with ⟨hc, -⟩ | hend
    · exact hc
    · split at h
      · rename_i htakes
        rcases hend with rfl | rfl <;> cases htakes
      · obtain ⟨_, hflag, -⟩ := Outcome.bind_eq_ok_iff.mp h
        exact absurd hflag (flag_ne_ok hend)

/-! ### Options by their names -/

/-- The name of an option ends at an equals sign. -/
theorem long_append (h : l.Offers s) {rest : List Char} (hrest : ∀ c ∈ rest.head?, c = '=') :
    r.long l (s.name.toList ++ rest) = match rest with
      | [] => r.flag l s
      | _ :: value => if takesValue s then r.attached s (String.ofList value) else .error (.fault .unwantedValue) := by
  have hname : (s.name.toList ++ rest).takeWhile (· ≠ '=') = s.name.toList := by
    rw [List.takeWhile_append_of_pos (name_ne_equals s)]
    cases rest with
    | nil => exact List.append_nil _
    | cons c rest => rw [List.takeWhile_cons_of_neg (by simp [hrest c rfl]), List.append_nil]
  have hvalue : (s.name.toList ++ rest).dropWhile (· ≠ '=') = rest := by
    rw [List.dropWhile_append_of_pos (name_ne_equals s)]
    cases rest with
    | nil => rfl
    | cons c rest => exact List.dropWhile_cons_of_neg (by simp [hrest c rfl])
  unfold long
  simp only [hname, hvalue, String.ofList_toList, long?_eq_some_iff.mpr ⟨h, rfl⟩]
  cases rest <;> rfl

theorem long_name (h : l.Offers s) : r.long l s.name.toList = r.flag l s := by
  rw [← List.append_nil s.name.toList, long_append h (fun _ hc => by cases hc)]

theorem long_equals (h : l.Offers s) (htakes : takesValue s = true) (v : String) :
    r.long l (s.name.toList ++ '=' :: v.toList) = r.attached s v := by
  rw [long_append h (by rintro c ⟨⟩; rfl)]
  simp only [htakes, if_true, String.ofList_toList]

theorem long_eq_ok (h : r.long l cs = .ok r') : ∃ s, l.Offers s ∧
    (cs = s.name.toList ∧ r.flag l s = .ok r' ∨
      takesValue s = true ∧ ∃ v : String, cs = s.name.toList ++ '=' :: v.toList ∧ r.Sets s v r') := by
  have happend : cs.takeWhile (· ≠ '=') ++ cs.dropWhile (· ≠ '=') = cs := List.takeWhile_append_dropWhile
  have hequals := List.head?_dropWhile_not (· ≠ '=') cs
  unfold long at h
  simp only at h
  split at h
  · cases h
  · rename_i s hname hrest
    obtain ⟨hoffers, hname⟩ := long?_eq_some_iff.mp hname
    refine ⟨s, hoffers, .inl ⟨?_, h⟩⟩
    rw [← happend, hrest, List.append_nil, ← hname, String.toList_ofList]
  · rename_i s c value hname hrest
    obtain ⟨hoffers, hname⟩ := long?_eq_some_iff.mp hname
    split at h
    · rename_i htakes
      have hc : c = '=' := by
        rw [hrest] at hequals
        simpa using hequals
      refine ⟨s, hoffers, .inr ⟨htakes, String.ofList value, ?_, attached_eq_ok_iff.mp h⟩⟩
      rw [← happend, hrest, ← hname, String.toList_ofList, String.toList_ofList, hc]
    · cases h

/-! ### One argument -/

/-- How reading goes on after an argument while options are open. -/
inductive Step (l : Level) (r : Reading) : String → Reading → Prop where
  | closes : Step l r "--" { r with closed := true }
  | completes {s : Switch} {v : String} (h : r.pending = some (s, none)) (hv : IsPlain v) :
      Step l r v { r with pending := some (s, some v) }
  | announces {s : Switch} {arg : String} {r' : Reading} (h : l.Offers s) (harg : Announces s arg)
      (hr' : r.Expects s r') : Step l r arg r'
  | carries {s : Switch} {v arg : String} {r' : Reading} (h : l.Offers s) (harg : Carries s v arg)
      (hr' : r.Sets s v r') : Step l r arg r'

theorem step_of_long (h : r.long l cs = .ok r') (harg : arg.toList = '-' :: '-' :: cs) : Step l r arg r' := by
  obtain ⟨s, hoffers, ⟨rfl, hflag⟩ | ⟨htakes, v, rfl, hsets⟩⟩ := long_eq_ok h
  · cases s with
    | network =>
      have heq : arg = "--network" := String.toList_inj.mp (harg.trans rfl)
      exact heq ▸ .announces hoffers .network ((flag_eq_ok_iff_expects rfl).mp hflag)
    | address =>
      have heq : arg = "--address" := String.toList_inj.mp (harg.trans rfl)
      exact heq ▸ .announces hoffers .address ((flag_eq_ok_iff_expects rfl).mp hflag)
    | json =>
      have heq : arg = "--json" := String.toList_inj.mp (harg.trans rfl)
      exact heq ▸ .carries hoffers .json (flag_json_eq_ok_iff.mp hflag)
    | help => exact absurd hflag (flag_ne_ok (.inl rfl))
    | version => exact absurd hflag (flag_ne_ok (.inr rfl))
  · cases s with
    | network =>
      have heq : arg = "--network=" ++ v := String.toList_inj.mp (by rw [harg, String.toList_append]; rfl)
      exact heq ▸ .carries hoffers (.network v) hsets
    | address =>
      have heq : arg = "--address=" ++ v := String.toList_inj.mp (by rw [harg, String.toList_append]; rfl)
      exact heq ▸ .carries hoffers (.address v) hsets
    | json => cases htakes
    | help => cases htakes
    | version => cases htakes

theorem step_of_shorts (h : r.shorts l (c :: cs) = .ok r') (harg : arg.toList = '-' :: c :: cs) : Step l r arg r' := by
  obtain rfl := eq_network_of_shorts h
  rcases shorts_network_eq_ok_iff.mp h with ⟨rfl, hexpects⟩ | ⟨v, rfl | ⟨rfl, hequals⟩, hsets⟩
  · have heq : arg = "-n" := String.toList_inj.mp harg
    exact heq ▸ .announces (.network l) .short hexpects
  · have heq : arg = "-n=" ++ v := String.toList_inj.mp (by rw [harg, String.toList_append]; rfl)
    exact heq ▸ .carries (.network l) (.short v) hsets
  · have heq : arg = "-n" ++ v := String.toList_inj.mp (by rw [harg, String.toList_append]; rfl)
    exact heq ▸ .carries (.network l) (.joined v hequals) hsets

theorem argument_of_isPlain (hopen : r.closed = false) (h : IsPlain arg) : r.argument l arg = match r.pending with
    | some (s, none) => .ok { r with pending := some (s, some arg) }
    | _ => .error (.fault (l.stray false arg)) := by
  have hdash {c : Char} {cs : List Char} : arg.toList ≠ '-' :: c :: cs := fun harg => by
    have hone : arg = "-" := h (by rw [harg]; rfl)
    rw [hone] at harg
    cases harg
  unfold argument
  rw [if_neg (ne_true_of_eq_false hopen)]
  split
  · exact absurd ‹_› hdash
  · exact absurd ‹_› hdash
  · exact absurd ‹_› hdash
  · rfl

theorem argument_of_long (hopen : r.closed = false) (harg : arg.toList = '-' :: '-' :: c :: cs) :
    r.argument l arg = r.long l (c :: cs) := by
  unfold argument
  rw [if_neg (ne_true_of_eq_false hopen), harg]
  rfl

theorem argument_of_short (hopen : r.closed = false) (harg : arg.toList = '-' :: 'n' :: cs) :
    r.argument l arg = r.shorts l ('n' :: cs) := by
  unfold argument
  rw [if_neg (ne_true_of_eq_false hopen), harg]
  rfl

theorem argument_of_announces (hopen : r.closed = false) (h : l.Offers s) (harg : Announces s arg) (hr' : r.Expects s r') :
    r.argument l arg = .ok r' := by
  cases harg with
  | network => exact (argument_of_long hopen rfl).trans ((long_name h).trans ((flag_eq_ok_iff_expects rfl).mpr hr'))
  | short => exact (argument_of_short hopen rfl).trans (shorts_network_eq_ok_iff.mpr (.inl ⟨rfl, hr'⟩))
  | address => exact (argument_of_long hopen rfl).trans ((long_name h).trans ((flag_eq_ok_iff_expects rfl).mpr hr'))

theorem argument_of_carries (hopen : r.closed = false) (h : l.Offers s) (harg : Carries s v arg) (hr' : r.Sets s v r') :
    r.argument l arg = .ok r' := by
  have hattached := attached_eq_ok_iff.mpr hr'
  cases harg with
  | network => exact (argument_of_long hopen (String.toList_append ..)).trans ((long_equals h rfl v).trans hattached)
  | short =>
    have hshorts : r.shorts l ('n' :: '=' :: v.toList) = .ok r' :=
      shorts_network_eq_ok_iff.mpr (.inr ⟨v, .inl rfl, hr'⟩)
    exact (argument_of_short hopen (String.toList_append ..)).trans hshorts
  | joined _ hequals =>
    have hshorts : r.shorts l ('n' :: v.toList) = .ok r' :=
      shorts_network_eq_ok_iff.mpr (.inr ⟨v, .inr ⟨rfl, hequals⟩, hr'⟩)
    exact (argument_of_short hopen (String.toList_append ..)).trans hshorts
  | address => exact (argument_of_long hopen (String.toList_append ..)).trans ((long_equals h rfl v).trans hattached)
  | json => exact (argument_of_long hopen rfl).trans ((long_name h).trans (flag_json_eq_ok_iff.mpr hr'))

theorem argument_eq_ok_iff (hopen : r.closed = false) : r.argument l arg = .ok r' ↔ Step l r arg r' := by
  constructor
  · intro h
    unfold argument at h
    rw [if_neg (ne_true_of_eq_false hopen)] at h
    split at h
    · rename_i harg
      have heq : arg = "--" := String.toList_inj.mp harg
      cases h
      exact heq ▸ .closes
    · exact step_of_long h ‹_›
    · exact step_of_shorts h ‹_›
    · rename_i hshort
      split at h
      · rename_i s hpending
        cases h
        refine .completes hpending fun hhead => ?_
        obtain ⟨rest, hrest⟩ := List.head?_eq_some_iff.mp hhead
        cases rest with
        | nil => exact String.toList_inj.mp hrest
        | cons c cs => exact absurd hrest (hshort c cs)
      · cases h
  · rintro (_ | ⟨hpending, hv⟩ | ⟨h, harg, hr'⟩ | ⟨h, harg, hr'⟩)
    · unfold argument
      rw [if_neg (ne_true_of_eq_false hopen)]
      rfl
    · rw [argument_of_isPlain hopen hv, hpending]
    · exact argument_of_announces hopen h harg hr'
    · exact argument_of_carries hopen h harg hr'

theorem argument_of_closed (hclosed : r.closed = true) : r.argument l arg ≠ .ok r' := by
  unfold argument
  rw [if_pos hclosed]
  exact nofun

end Reading

end CommandLine
end SplitterLaunch
