import SplitterLaunch.World

/-! How the parts of a command change its world. A part that only asks adds exchanges; what it asked and how
    it ended is said by one predicate on both, which is built up along the parts. -/

namespace SplitterLaunch

namespace World

/-- The world after more exchanges with the node, the latest first. -/
def after (w : World) (sent : List Exchange) : World := { w with exchanges := sent ++ w.exchanges }

/-- The world after more lines are printed. -/
def saying (w : World) (lines : List String) : World :=
  { w with printed := w.printed ++ String.join (lines.map (· ++ "\n")) }

/-- What the node replies to a request now. -/
def reply (w : World) (request : Request) : Reply := w.node.reply w.exchanges request

/-- The world after a request, with the reply that came. -/
def asked (w : World) (request : Request) : World := w.after [⟨request, w.reply request⟩]

/-- The world with another disk. -/
def withDisk (w : World) (disk : Disk) : World := { w with disk := disk }

variable (w : World)

theorem after_after (sent next : List Exchange) : (w.after sent).after next = w.after (next ++ sent) := by
  unfold after
  rw [List.append_assoc]

@[simp] theorem saying_nil : w.saying [] = w := by simp [saying]

theorem saying_saying (lines next : List String) : (w.saying lines).saying next = w.saying (lines ++ next) := by
  simp [saying, String.append_assoc]

theorem saying_after (lines : List String) (sent : List Exchange) :
    (w.saying lines).after sent = (w.after sent).saying lines := rfl

end World

namespace Run
variable {α β : Type} {w : World}

/-! ### Single steps -/

section
variable {ε σ : Type} {s s' : σ}

theorem run_bind (x : ExceptT ε (StateM σ) α) (f : α → ExceptT ε (StateM σ) β) :
    (x >>= f).run s = match x.run s with
      | (.ok a, s') => (f a).run s'
      | (.error stop, s') => (.error stop, s') := by
  show (ExceptT.bindCont f (x.run s).1) (x.run s).2 = _
  cases x.run s with
  | mk result s' => cases result <;> rfl

theorem run_bind_of_ok {x : ExceptT ε (StateM σ) α} {a : α} (h : x.run s = (.ok a, s'))
    (f : α → ExceptT ε (StateM σ) β) : (x >>= f).run s = (f a).run s' := by
  rw [run_bind, h]

theorem run_bind_of_error {x : ExceptT ε (StateM σ) α} {stop : ε} (h : x.run s = (.error stop, s'))
    (f : α → ExceptT ε (StateM σ) β) : (x >>= f).run s = (.error stop, s') := by
  rw [run_bind, h]

end

theorem run_bind_eq_ok_iff {x : Run α} {f : α → Run β} {w' : World} {b : β} :
    (x >>= f).run w = (.ok b, w') ↔ ∃ a w₁, x.run w = (.ok a, w₁) ∧ (f a).run w₁ = (.ok b, w') := by
  rw [run_bind]
  rcases x.run w with ⟨stop | a, w₁⟩
  · exact ⟨nofun, fun ⟨_, _, h, _⟩ => nomatch h⟩
  · refine ⟨fun h => ⟨a, w₁, rfl, h⟩, ?_⟩
    rintro ⟨_, _, heq, h⟩
    cases heq
    exact h

theorem run_require {ε : Type} (failure : ε → Failure) (result : Except ε α) :
    (require failure result).run w = (result.mapError fun fault => .failed (failure fault), w) := by
  cases result <;> rfl

theorem run_tryCatch (x : Run α) (handle : Stop Failure → Run α) :
    (tryCatch x handle).run w = match x.run w with
      | (.ok a, w') => (.ok a, w')
      | (.error stop, w') => (handle stop).run w' := by
  simp only [tryCatch, tryCatchThe, MonadExceptOf.tryCatch, ExceptT.tryCatch, ExceptT.run, ExceptT.mk, bind, StateT.bind]
  cases x w with
  | mk result w' => cases result <;> rfl

theorem require_ok_bind {ε : Type} (failure : ε → Failure) (a : α) (f : α → Run β) :
    (require failure (.ok a) >>= f) = f a := rfl

theorem require_error_bind {ε : Type} (failure : ε → Failure) (fault : ε) (f : α → Run β) :
    (require failure (.error fault) >>= f) = fail (failure fault) := rfl

theorem run_settle {ε : Type} (failure : ε → Failure) (result : Outcome ε α) :
    (settle failure result).run w = (result.mapError (Stop.map failure), w) := by
  cases result <;> rfl

theorem run_files : files.run w = (.ok w.disk.files, w) := rfl

theorem run_ask (request : Request) : (ask request).run w = (.ok (w.reply request), w.asked request) := rfl

theorem run_print (line : String) : (print line).run w = (.ok (), w.saying [line]) := by
  show (Except.ok (), { w with printed := w.printed ++ line ++ "\n" }) = _
  simp [World.saying, String.append_assoc]

theorem run_printAll (lines : List String) : (printAll lines).run w = (.ok (), w.saying lines) := by
  unfold printAll
  induction lines generalizing w with
  | nil => rw [World.saying_nil]; rfl
  | cons line lines ih =>
    show (print line >>= fun _ => lines.forM print).run w = _
    rw [run_bind_of_ok (run_print line), ih, World.saying_saying]
    rfl

/-! ### Parts that only ask -/

/-- A part that does nothing but ask. What it asked, the latest first, and how it ends are as the condition
    says, whatever the world it runs in. -/
def Asks (x : Run α) (post : List Exchange → Except (Stop Failure) α → Prop) : Prop :=
  ∀ w, ∃ sent, (x.run w).2 = w.after sent ∧ post sent (x.run w).1

variable {x : Run α} {post : List Exchange → Except (Stop Failure) α → Prop}

theorem Asks.run (h : Asks x post) (w : World) : ∃ sent result, x.run w = (result, w.after sent) ∧ post sent result := by
  obtain ⟨sent, hw, hpost⟩ := h w
  exact ⟨sent, _, Prod.ext rfl hw, hpost⟩

theorem Asks.mono {post' : List Exchange → Except (Stop Failure) α → Prop} (h : Asks x post)
    (hpost : ∀ sent result, post sent result → post' sent result) : Asks x post' := by
  intro w
  obtain ⟨sent, hw, hsent⟩ := h w
  exact ⟨sent, hw, hpost _ _ hsent⟩

/-- A part that two conditions hold of asked the same for both. -/
theorem Asks.and {post' : List Exchange → Except (Stop Failure) α → Prop} (h : Asks x post) (h' : Asks x post') :
    Asks x fun sent result => post sent result ∧ post' sent result := by
  intro w
  obtain ⟨sent, hw, hpost⟩ := h w
  obtain ⟨sent', hw', hpost'⟩ := h' w
  have heq : sent = sent' := by
    have := congrArg World.exchanges (hw.symm.trans hw')
    exact List.append_cancel_right this
  subst heq
  exact ⟨sent, hw, hpost, hpost'⟩

theorem asks_pure {a : α} (h : post [] (.ok a)) : Asks (pure a : Run α) post := fun _ => ⟨[], rfl, h⟩

theorem asks_fail {failure : Failure} (h : post [] (.error (.failed failure))) : Asks (fail failure : Run α) post :=
  fun _ => ⟨[], rfl, h⟩

theorem asks_crash (h : post [] (.error .crashed)) : Asks (crash : Run α) post := fun _ => ⟨[], rfl, h⟩

theorem asks_require {ε : Type} {failure : ε → Failure} {result : Except ε α}
    (h : post [] (result.mapError fun fault => .failed (failure fault))) : Asks (require failure result) post := by
  intro w
  rw [run_require]
  exact ⟨[], rfl, h⟩

theorem asks_ask (request : Request) :
    Asks (ask request) fun sent result => ∃ reply, sent = [⟨request, reply⟩] ∧ result = .ok reply :=
  fun _ => ⟨_, rfl, _, rfl, rfl⟩

/-- What is asked along a sequence: what its first part asked, then, if that answered, what the rest asked. -/
theorem Asks.bind {f : α → Run β} {post' : List Exchange → Except (Stop Failure) β → Prop} (h : Asks x post)
    (hstop : ∀ sent stop, post sent (.error stop) → post' sent (.error stop))
    (hf : ∀ sent a, post sent (.ok a) → Asks (f a) fun next result => post' (next ++ sent) result) :
    Asks (x >>= f) post' := by
  intro w
  obtain ⟨sent, result, hx, hpost⟩ := h.run w
  cases result with
  | error stop =>
    rw [run_bind_of_error hx]
    exact ⟨sent, rfl, hstop _ _ hpost⟩
  | ok a =>
    rw [run_bind_of_ok hx]
    obtain ⟨next, hw, hnext⟩ := hf sent a hpost (w.after sent)
    exact ⟨next ++ sent, by rw [hw, World.after_after], hnext⟩

/-! ### Answers -/

/-- A part whose answers are as a condition says, whatever it does until it has one. -/
def Gives (x : Run α) (P : α → Prop) : Prop := ∀ w a, (x.run w).1 = .ok a → P a

variable {P : α → Prop}

theorem gives_pure {a : α} (h : P a) : Gives (pure a : Run α) P := by
  rintro w _ ⟨⟩
  exact h

theorem Gives.bind {f : α → Run β} {Q : β → Prop} (h : Gives x P) (hf : ∀ a, P a → Gives (f a) Q) : Gives (x >>= f) Q := by
  intro w b hb
  rw [run_bind] at hb
  split at hb
  · rename_i a w' hx
    exact hf a (h w a (by rw [hx])) w' b hb
  · cases hb

theorem gives_bind {f : α → Run β} {P : β → Prop} (h : ∀ a, Gives (f a) P) : Gives (x >>= f) P :=
  Gives.bind (fun _ _ _ => trivial) fun a _ => h a

theorem Asks.gives (h : Asks x post) (hx : Gives x P) :
    Asks x fun sent result => post sent result ∧ ∀ a, result = .ok a → P a := by
  intro w
  obtain ⟨sent, hw, hpost⟩ := h w
  exact ⟨sent, hw, hpost, hx w⟩

/-! ### Parts that answer -/

/-- A part that asks nothing but a node and answers, as a condition says, whatever was asked before. -/
def Succeeds (node : Node) (x : Run α) (P : α → Prop) : Prop :=
  ∀ w : World, w.node = node → ∃ sent a, x.run w = (.ok a, w.after sent) ∧ P a

variable {node : Node}

theorem succeeds_pure {a : α} (h : P a) : Succeeds node (pure a : Run α) P := fun _ _ => ⟨[], a, rfl, h⟩

theorem Succeeds.bind {f : α → Run β} {Q : β → Prop} (h : Succeeds node x P)
    (hf : ∀ a, P a → Succeeds node (f a) Q) : Succeeds node (x >>= f) Q := by
  intro w hw
  obtain ⟨sent, a, hx, ha⟩ := h w hw
  obtain ⟨next, b, hb, hQ⟩ := hf a ha (w.after sent) hw
  exact ⟨next ++ sent, b, by rw [run_bind_of_ok hx, hb, World.after_after], hQ⟩

end Run
end SplitterLaunch
