import Mathlib.Data.List.TakeWhile
import SplitterLaunch.Settings

/-! What blanks do in an environment. Of a value, all that counts is what is left of it without the blanks at its ends
    (`trim_eq_iff`), and a value without anything else is as good as none; and only the variables that are named count. Two
    environments that are alike in this respect have the same settings, or the same fault. -/

namespace SplitterLaunch

/-! ### Texts without blanks at their ends -/

namespace Text

/-- Whether a text is another without the blanks at its ends. -/
structure IsCoreOf (core cs : List Char) : Prop where
  ends : ∃ before after, cs = before ++ core ++ after ∧ (∀ c ∈ before, isBlank c = true) ∧ ∀ c ∈ after, isBlank c = true
  head : ∀ c ∈ core.head?, isBlank c = false
  last : ∀ c ∈ core.getLast?, isBlank c = false

theorem IsCoreOf.self {core cs : List Char} (h : IsCoreOf core cs) : IsCoreOf core core :=
  ⟨⟨[], [], (List.append_nil core).symm, nofun, nofun⟩, h.head, h.last⟩

theorem trimStart_append {before cs : List Char} (h : ∀ c ∈ before, isBlank c = true) :
    trimStart (before ++ cs) = trimStart cs := List.dropWhile_append_of_pos h

theorem trimEnd_append {cs after : List Char} (h : ∀ c ∈ after, isBlank c = true) :
    trimEnd (cs ++ after) = trimEnd cs := by
  have hreverse : ∀ c ∈ after.reverse, isBlank c = true := fun c hc => h c (List.mem_reverse.mp hc)
  rw [trimEnd, List.reverse_append, List.dropWhile_append_of_pos hreverse]
  rfl

theorem exists_trimStart_append (cs : List Char) :
    ∃ before, cs = before ++ trimStart cs ∧ ∀ c ∈ before, isBlank c = true :=
  ⟨cs.takeWhile isBlank, List.takeWhile_append_dropWhile.symm, fun _ hc => List.mem_takeWhile_imp hc⟩

theorem exists_trimEnd_append (cs : List Char) :
    ∃ after, cs = trimEnd cs ++ after ∧ ∀ c ∈ after, isBlank c = true := by
  obtain ⟨before, hcs, hblank⟩ := exists_trimStart_append cs.reverse
  refine ⟨before.reverse, ?_, fun c hc => hblank c (List.mem_reverse.mp hc)⟩
  have hreverse := congrArg List.reverse hcs
  rwa [List.reverse_reverse, List.reverse_append] at hreverse

theorem trim_eq_iff {core cs : List Char} : trim cs = core ↔ IsCoreOf core cs := by
  constructor
  · rintro rfl
    obtain ⟨before, hstart, hbefore⟩ := exists_trimStart_append cs
    obtain ⟨after, hend, hafter⟩ := exists_trimEnd_append (trimStart cs)
    refine ⟨⟨before, after, ?_, hbefore, hafter⟩, isBlank_head_trim cs, isBlank_getLast_trimEnd _⟩
    rw [List.append_assoc, trim, ← hend, ← hstart]
  · rintro ⟨⟨before, after, rfl, hbefore, hafter⟩, hhead, hlast⟩
    rw [trim, List.append_assoc, trimStart_append hbefore]
    cases core with
    | nil =>
      have hnil : trimStart after = [] := List.dropWhile_eq_nil_iff.mpr hafter
      rw [List.nil_append, hnil]
      rfl
    | cons c core =>
      have hstart : trimStart ((c :: core) ++ after) = (c :: core) ++ after := trimStart_eq_self hhead
      rw [hstart, trimEnd_append hafter, trimEnd_eq_self hlast]

end Text

/-! ### Environments -/

namespace Environment
variable {env : Environment} {name text : String}

theorem trimmed_eq_some_iff : env.trimmed name = some text ↔
    text ≠ "" ∧ ∃ value, env name = some value ∧ Text.IsCoreOf text.toList value.toList := by
  unfold trimmed
  rw [Option.bind_eq_some_iff]
  constructor
  · rintro ⟨value, hvalue, h⟩
    dsimp only at h
    split at h
    · cases h
    · rename_i hne
      obtain rfl := Option.some.inj h
      refine ⟨fun hempty => hne ?_, value, hvalue, ?_⟩
      · rw [String.ofList_eq_empty_iff.mp hempty]
        rfl
      · rw [String.toList_ofList]
        exact Text.trim_eq_iff.mp rfl
  · rintro ⟨hne, value, hvalue, hcore⟩
    refine ⟨value, hvalue, ?_⟩
    dsimp only
    rw [Text.trim_eq_iff.mpr hcore, String.ofList_toList, if_neg]
    exact fun hempty => hne (String.toList_eq_nil_iff.mp (List.isEmpty_iff.mp hempty))

theorem trimmed_trimmed (env : Environment) : env.trimmed.trimmed = env.trimmed := by
  funext name
  cases h : env.trimmed name with
  | none =>
    unfold trimmed at h ⊢
    rw [h]
    rfl
  | some text =>
    obtain ⟨hne, value, -, hcore⟩ := trimmed_eq_some_iff.mp h
    exact trimmed_eq_some_iff.mpr ⟨hne, text, h, hcore.self⟩

/-- The environment in which these variables are set. -/
def ofTexts (texts : List (String × String)) : Environment := fun name => texts.lookup name

end Environment

/-! ### What is read of them -/

theorem Outcome.mapM_congr {ε α β : Type} {f g : α → Except ε β} {xs : List α} (h : ∀ x ∈ xs, f x = g x) :
    xs.mapM f = xs.mapM g := by
  induction xs with
  | nil => rfl
  | cons x xs ih =>
    rw [List.forall_mem_cons] at h
    rw [List.mapM_cons, List.mapM_cons, h.1, ih h.2]

variable {env env' : Environment}

namespace KnownNetwork
variable {known : KnownNetwork}

/-- Whether two environments have the same texts for the two variables of a network. -/
structure AgreeOn (known : KnownNetwork) (env env' : Environment) : Prop where
  rpc : env known.rpcVariable = env' known.rpcVariable
  chain : ∀ name ∈ known.chainVariable, env name = env' name

theorem agreeOn_of_forall (h : ∀ name ∈ known.rpcVariable :: known.chainVariable.toList, env name = env' name) :
    known.AgreeOn env env' where
  rpc := h _ List.mem_cons_self
  chain name hname := h name (List.mem_cons_of_mem _ (Option.mem_toList.mpr hname))

/-- A network of the list is looked up by its own two variables. -/
theorem AgreeOn.networkIn_eq (h : known.AgreeOn env env') : known.networkIn env = known.networkIn env' := by
  have hid : known.chainIdIn env = known.chainIdIn env' := by
    unfold chainIdIn
    cases hname : known.chainVariable with
    | none => rfl
    | some name =>
      dsimp only
      rw [h.chain name hname]
  unfold networkIn
  rw [hid, h.rpc]

end KnownNetwork

theorem Registry.ofEnvironment_congr (h : ∀ known ∈ knownNetworks, known.AgreeOn env env') :
    Registry.ofEnvironment env = Registry.ofEnvironment env' := by
  unfold Registry.ofEnvironment
  rw [Outcome.mapM_congr fun known hknown => (h known hknown).networkIn_eq]

namespace Settings

/-- Whether two environments have the same texts for the variables that are named. -/
def Agree (env env' : Environment) : Prop := ∀ name ∈ variableNames, env name = env' name

theorem readVariable_congr {α : Type} {name : String} {read : String → Outcome ValueFault α} (h : env name = env' name) :
    readVariable env name read = readVariable env' name read := by
  unfold readVariable readOptional
  rw [h]

theorem readPrices_congr {names : List String} (h : ∀ name ∈ names, env name = env' name) :
    readPrices env names = readPrices env' names := by
  induction names with
  | nil => rfl
  | cons name names ih =>
    rw [List.forall_mem_cons] at h
    unfold readPrices
    rw [readVariable_congr h.1, ih h.2]

namespace Agree
variable (h : Agree env env')
include h

theorem adminIn_eq : adminIn env = adminIn env' := by
  funext _
  simp only [adminIn, adminVariables, List.findSome?, h "ADMIN_WALLET" (by decide), h "X402_ADMIN_WALLET" (by decide)]

theorem readPrices_eq : readPrices env NativeToken.priceVariables = readPrices env' NativeToken.priceVariables :=
  readPrices_congr fun name hname => h name (by simp [variableNames, hname])

theorem registry_eq : Registry.ofEnvironment env = Registry.ofEnvironment env' :=
  Registry.ofEnvironment_congr fun known hknown => KnownNetwork.agreeOn_of_forall fun name hname =>
    h name (List.mem_append_right _ (List.mem_flatMap.mpr ⟨known, hknown, hname⟩))

theorem readTrimmed_eq : readTrimmed env = readTrimmed env' := by
  unfold readTrimmed
  rw [h.adminIn_eq, h.readPrices_eq, h.registry_eq, readVariable_congr (h "CONFIRMATIONS" (by decide)),
    readVariable_congr (h "GAS_LIMIT" (by decide)), readVariable_congr (h "MAX_FEE_GWEI" (by decide)),
    readVariable_congr (h "MAX_PRIORITY_FEE_GWEI" (by decide)), readVariable_congr (h "DOLLAR_USD_TO_RUPIAH" (by decide)),
    readVariable_congr (h "RPC_TIMEOUT_SECS" (by decide)), readVariable_congr (h "DEPLOY_TIMEOUT_SECS" (by decide)),
    h "PRIVATE_KEY" (by decide), h "AUTO_VERIFY" (by decide), h "DEPLOYMENTS_FILE" (by decide),
    h "X402_ARTIFACT" (by decide)]

end Agree

/-- Trimming an environment changes nothing of what is read of it, be it settings or a fault, and nothing else of it counts
    than the trimmed texts of the variables that are named. -/
theorem ofEnvironment_trimmed (env : Environment) :
    ofEnvironment env.trimmed = ofEnvironment env ∧
    (∀ env', Agree env.trimmed env'.trimmed → ofEnvironment env = ofEnvironment env') ∧
    ∀ name text, env.trimmed name = some text ↔
      text ≠ "" ∧ ∃ value, env name = some value ∧ Text.IsCoreOf text.toList value.toList := by
  refine ⟨?_, fun env' h => ?_, fun _ _ => Environment.trimmed_eq_some_iff⟩
  · unfold ofEnvironment
    rw [env.trimmed_trimmed]
  · unfold ofEnvironment
    rw [h.readTrimmed_eq]

/-- Wide blanks around a fee, an administrator of nothing but blanks and a variable that has no meaning make no
    difference. -/
theorem ofEnvironment_trimmed_wide :
    ofEnvironment (.ofTexts [("ADMIN_WALLET", " \t"), ("MAX_FEE_GWEI", "\u3000 1.5\n"), ("HOME", "/root")]) =
      ofEnvironment (.ofTexts [("MAX_FEE_GWEI", "1.5")]) := by
  refine (ofEnvironment_trimmed _).2.1 _ fun name hname => ?_
  revert name
  decide

end Settings
end SplitterLaunch
