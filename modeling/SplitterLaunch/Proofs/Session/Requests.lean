import SplitterLaunch.Proofs.Run
import SplitterLaunch.Deployment

/-! Requests of a deployment and what they come to. Each belongs to one stage, so that what was answered in
    one stage was not asked in another. A request is sent at most once, and answers only by a reply that gives
    a result. -/

namespace SplitterLaunch

variable {α β : Type}

/-! ### Replies -/

namespace Rpc
/-- The result that a reply gives, if it gives one that can be read. -/
def result? (decode : Json.Source → Option α) : Reply → Option α
  | .body text =>
    match read? text with
    | some (.ok result) => decode result
    | _ => none
  | _ => none

@[simp] theorem result?_silence : result? decode .silence = none := rfl

/-- A reply that does not come is told apart from one that gives no result. -/
theorem interpret_cases (url : Url) (decode : Json.Source → Option α) (reply : Reply) :
    (∃ x, result? decode reply = some x ∧ interpret url decode reply = .ok x) ∨
    (reply = .silence ∧ interpret url decode reply = .error .silence) ∨
    (reply ≠ .silence ∧ result? decode reply = none ∧ ∃ fault, interpret url decode reply = .error (.fault fault)) := by
  cases reply with
  | silence => exact .inr (.inl ⟨rfl, rfl⟩)
  | unreachable fault => exact .inr (.inr ⟨nofun, rfl, _, rfl⟩)
  | body text =>
    unfold interpret result?
    dsimp only
    cases read? text with
    | none => exact .inr (.inr ⟨nofun, rfl, _, rfl⟩)
    | some said =>
      cases said with
      | error fault => exact .inr (.inr ⟨nofun, rfl, _, rfl⟩)
      | ok result =>
        dsimp only
        cases decode result with
        | none => exact .inr (.inr ⟨nofun, rfl, _, rfl⟩)
        | some x => exact .inl ⟨x, rfl, rfl⟩

theorem interpret_of_result? {url : Url} {reply : Reply} {x : α} (h : result? decode reply = some x) :
    interpret url decode reply = .ok x := by
  rcases interpret_cases url decode reply with ⟨y, hy, hok⟩ | ⟨rfl, -⟩ | ⟨-, hnone, -⟩
  · cases h.symm.trans hy
    exact hok
  · cases h
  · cases h.symm.trans hnone

end Rpc

/-! ### Stages -/

/-- The stages of a deployment, in their order. -/
inductive Stage where
  | identifying
  | settling
  | broadcasting
  | awaiting
  | checking
deriving DecidableEq, Repr

/-- The stage that a request belongs to. -/
def Request.stage : Request → Stage
  | .chainId => .identifying
  | .broadcast _ _ => .broadcasting
  | .transaction _ => .awaiting
  | .receipt _ => .awaiting
  | .blockNumber => .awaiting
  | .code _ => .checking
  | _ => .settling

theorem Request.isBroadcast_iff {request : Request} : request.isBroadcast = true ↔ request.stage = .broadcasting := by
  cases request <;> simp [isBroadcast, stage]

/-- Whether all exchanges are of one stage. -/
def AllOf (stage : Stage) (sent : List Exchange) : Prop := ∀ e ∈ sent, e.request.stage = stage

/-- Whether a reply came to every request. -/
def Heard (sent : List Exchange) : Prop := ∀ e ∈ sent, e.reply ≠ .silence

/-- Whether one request was made over and over, and no other. -/
def Only (request : Request) (sent : List Exchange) : Prop := ∀ e ∈ sent, e.request = request

/-- Whether a request is among exchanges with a reply that gives a result. -/
def Answered (request : Request) (decode : Json.Source → Option α) (x : α) (sent : List Exchange) : Prop :=
  ∃ e ∈ sent, e.request = request ∧ Rpc.result? decode e.reply = some x

section
variable {stage : Stage} {sent next : List Exchange} {request : Request} {decode : Json.Source → Option α} {x : α}

@[simp] theorem allOf_nil : AllOf stage [] := by simp [AllOf]

@[simp] theorem allOf_append : AllOf stage (next ++ sent) ↔ AllOf stage next ∧ AllOf stage sent := by
  simp [AllOf, or_imp, forall_and]

@[simp] theorem heard_nil : Heard [] := by simp [Heard]

@[simp] theorem heard_append : Heard (next ++ sent) ↔ Heard next ∧ Heard sent := by
  simp [Heard, or_imp, forall_and]

@[simp] theorem not_answered_nil : ¬ Answered request decode x [] := by simp [Answered]

@[simp] theorem answered_cons {e : Exchange} : Answered request decode x (e :: sent) ↔
    (e.request = request ∧ Rpc.result? decode e.reply = some x) ∨ Answered request decode x sent := by
  simp [Answered]

@[simp] theorem answered_append :
    Answered request decode x (next ++ sent) ↔ Answered request decode x next ∨ Answered request decode x sent := by
  simp [Answered, or_and_right, exists_or]

@[simp] theorem only_nil : Only request [] := by simp [Only]

@[simp] theorem only_append : Only request (next ++ sent) ↔ Only request next ∧ Only request sent := by
  simp [Only, or_imp, forall_and]

@[simp] theorem only_singleton {request' : Request} {reply : Reply} :
    Only request [⟨request', reply⟩] ↔ request' = request := by simp [Only]

theorem Only.allOf (h : Only request sent) : AllOf request.stage sent := fun e he => congrArg Request.stage (h e he)

theorem Only.not_answered {request' : Request} (h : Only request' sent) (hne : request ≠ request') :
    ¬ Answered request decode x sent := by
  rintro ⟨e, he, rfl, -⟩
  exact hne (h e he)

theorem not_answered_of_stage (h : ∀ e ∈ sent, e.request.stage ≠ request.stage) : ¬ Answered request decode x sent := by
  rintro ⟨e, he, rfl, -⟩
  exact h e he rfl

theorem AllOf.not_answered (h : AllOf stage sent) (hne : stage ≠ request.stage) : ¬ Answered request decode x sent :=
  not_answered_of_stage fun e he => h e he ▸ hne

end

/-! ### One request -/

/-- What a request that is sent at most once came to. -/
inductive Session.Attempted (s : Session) (request : Request) (decode : Json.Source → Option α) :
    List Exchange → Except (Stop Failure) (Except RpcFault α) → Prop where
  /-- The node's URL is none that requests can be sent to. -/
  | unsent (fault : RpcFault) : Attempted s request decode [] (.ok (.error fault))
  | silent : Attempted s request decode [⟨request, .silence⟩] (.error (.failed (.timeout "deploy" (s.timeout / 1000))))
  | refused (reply : Reply) (fault : RpcFault) (hreply : reply ≠ .silence) (hnone : Rpc.result? decode reply = none) :
    Attempted s request decode [⟨request, reply⟩] (.ok (.error fault))
  | answered (reply : Reply) (x : α) (hsome : Rpc.result? decode reply = some x) :
    Attempted s request decode [⟨request, reply⟩] (.ok (.ok x))

/-- A request is sent where the URL takes requests, and is a fault elsewhere, but no refusal. -/
theorem Connection.asks_request (c : Connection) (request : Request) (decode : Json.Source → Option α) :
    Run.Asks (c.request request decode) fun sent result =>
      (sent = [] ∧ ∃ fault : RpcFault, fault.isRefusal = false ∧ result = .ok (.error (.fault fault))) ∨
      ∃ reply, sent = [⟨request, reply⟩] ∧ result = .ok (Rpc.interpret c.url decode reply) := by
  unfold Connection.request
  split
  · exact Run.asks_pure (.inl ⟨rfl, _, rfl, rfl⟩)
  split
  · exact Run.asks_pure (.inl ⟨rfl, _, rfl, rfl⟩)
  refine (Run.asks_ask request).bind ?_ ?_
  · rintro sent stop ⟨reply, -, h⟩
    cases h
  · rintro sent reply ⟨_, rfl, h⟩
    cases h
    exact Run.asks_pure (.inr ⟨reply, rfl, rfl⟩)

/-- A call is sent at most once. It answers as its only reply does, and else fails. -/
theorem Connection.asks_call (c : Connection) (request : Request) (decode : Json.Source → Option α) :
    Run.Asks (c.call request decode) fun sent result => Only request sent ∧
      ((∃ x, (∀ y, Answered request decode y sent ↔ y = x) ∧ result = .ok x) ∨
       ((∀ x, ¬ Answered request decode x sent) ∧ ∃ failure, result = .error (.failed failure))) := by
  unfold Connection.call
  refine (c.asks_request request decode).bind ?_ ?_
  · rintro sent stop (⟨-, fault, -, h⟩ | ⟨reply, -, h⟩) <;> cases h
  rintro sent outcome (⟨rfl, fault, -, h⟩ | ⟨reply, rfl, h⟩) <;> cases h
  · exact Run.asks_require ⟨by simp, .inr ⟨by simp, _, rfl⟩⟩
  obtain ⟨x, hsome, h⟩ | ⟨rfl, h⟩ | ⟨-, hnone, fault, h⟩ := Rpc.interpret_cases c.url decode reply <;> rw [h]
  · exact Run.asks_require ⟨by simp, .inl ⟨x, by simp [hsome, eq_comm], rfl⟩⟩
  · exact Run.asks_require ⟨by simp, .inr ⟨by simp, _, rfl⟩⟩
  · exact Run.asks_require ⟨by simp, .inr ⟨by simp [hnone], _, rfl⟩⟩

/-- Whether requests can be sent to a URL. -/
structure Url.TakesRequests (url : Url) : Prop where
  web : url.isWeb = true
  sendable : url.isSendable = true

namespace Connection
variable {c : Connection} {w : World} {request : Request} {decode : Json.Source → Option α} {x : α}

theorem run_request (c : Connection) (hurl : c.url.TakesRequests) (request : Request) (decode : Json.Source → Option α)
    (w : World) :
    (c.request request decode).run w = (.ok (Rpc.interpret c.url decode (w.reply request)), w.asked request) := by
  unfold Connection.request
  rw [hurl.web, hurl.sendable]
  simp only [Bool.not_true, Bool.false_eq_true, if_false]
  rw [Run.run_bind_of_ok (Run.run_ask request)]
  rfl

theorem run_request_of_not (h : ¬ c.url.TakesRequests) (request : Request) (decode : Json.Source → Option α)
    (w : World) : ∃ fault, (c.request request decode).run w = (.ok (.error (.fault fault)), w) := by
  unfold Connection.request
  by_cases hweb : c.url.isWeb = true
  · have hsendable : c.url.isSendable = false := Bool.eq_false_iff.mpr fun hsendable => h ⟨hweb, hsendable⟩
    rw [hweb, hsendable]
    exact ⟨_, rfl⟩
  · rw [Bool.eq_false_iff.mpr hweb]
    exact ⟨_, rfl⟩

theorem run_request_of_result? (c : Connection) (hurl : c.url.TakesRequests)
    (h : Rpc.result? decode (w.reply request) = some x) :
    (c.request request decode).run w = (.ok (.ok x), w.asked request) := by
  rw [c.run_request hurl, Rpc.interpret_of_result? h]

end Connection

theorem Session.Attempted.only {s : Session} {request : Request} {decode : Json.Source → Option α}
    {sent : List Exchange} {result : Except (Stop Failure) (Except RpcFault α)}
    (h : s.Attempted request decode sent result) : Only request sent ∧ sent.length ≤ 1 := by
  cases h <;> simp [Only]

namespace Session
variable {s : Session} {request : Request} {decode : Json.Source → Option α}

theorem asks_giveUp {post : List Exchange → Except (Stop Failure) α → Prop}
    (h : post [] (.error (.failed (.timeout "deploy" (s.timeout / 1000))))) : Run.Asks (s.giveUp : Run α) post :=
  Run.asks_fail h

theorem asks_attempt (s : Session) (request : Request) (decode : Json.Source → Option α) :
    Run.Asks (s.attempt request decode) (s.Attempted request decode) := by
  unfold attempt
  refine (s.connection.asks_request request decode).bind ?_ ?_
  · rintro sent stop (⟨-, fault, -, h⟩ | ⟨reply, -, h⟩) <;> cases h
  rintro sent outcome (⟨rfl, fault, -, h⟩ | ⟨reply, rfl, h⟩) <;> cases h
  · exact Run.asks_pure (.unsent fault)
  obtain ⟨x, hsome, h⟩ | ⟨rfl, h⟩ | ⟨hreply, hnone, fault, h⟩ := Rpc.interpret_cases s.connection.url decode reply <;>
    rw [h]
  · exact Run.asks_pure (.answered reply x hsome)
  · exact asks_giveUp .silent
  · exact Run.asks_pure (.refused reply fault hreply hnone)

/-- A request that must be answered is sent at most once, and answers as its reply does. -/
theorem asks_call (s : Session) (request : Request) (decode : Json.Source → Option α) :
    Run.Asks (s.call request decode) fun sent result =>
      (sent = [] ∧ ∃ stop, result = .error stop) ∨
      ∃ reply, sent = [⟨request, reply⟩] ∧ ∀ x, result = .ok x ↔ Rpc.result? decode reply = some x := by
  unfold call
  refine (asks_attempt s request decode).bind ?_ ?_
  · intro sent stop h
    cases h with
    | silent => exact .inr ⟨.silence, rfl, by simp⟩
  · intro sent outcome h
    cases h with
    | unsent fault => exact Run.asks_fail (.inl ⟨rfl, _, rfl⟩)
    | refused reply fault hreply hnone => exact Run.asks_fail (.inr ⟨reply, rfl, by simp [hnone]⟩)
    | answered reply x hsome => exact Run.asks_pure (.inr ⟨reply, rfl, by simp [hsome]⟩)

/-! ### Parts of one stage -/

/-- A part of a session that asks in one stage alone, and answers only if every reply came. -/
def Stays (stage : Stage) (x : Run α) : Prop :=
  Run.Asks x fun sent result => AllOf stage sent ∧ ∀ a, result = .ok a → Heard sent

variable {stage : Stage}

theorem stays_pure (a : α) : Stays stage (pure a : Run α) := Run.asks_pure ⟨allOf_nil, fun _ _ => heard_nil⟩

theorem stays_fail (failure : Failure) : Stays stage (Run.fail failure : Run α) := Run.asks_fail ⟨allOf_nil, nofun⟩

theorem stays_crash : Stays stage (Run.crash : Run α) := Run.asks_crash ⟨allOf_nil, nofun⟩

theorem Stays.bind {x : Run α} {f : α → Run β} (hx : Stays stage x) (hf : ∀ a, Stays stage (f a)) :
    Stays stage (x >>= f) := by
  refine Run.Asks.bind hx ?_ ?_
  · rintro sent stop ⟨hall, -⟩
    exact ⟨hall, nofun⟩
  · rintro sent a ⟨hall, hheard⟩
    refine (hf a).mono ?_
    rintro next result ⟨hnext, hresult⟩
    exact ⟨allOf_append.mpr ⟨hnext, hall⟩, fun b hb => heard_append.mpr ⟨hresult b hb, hheard a rfl⟩⟩

theorem stays_attempt (h : request.stage = stage) : Stays stage (s.attempt request decode) := by
  refine (asks_attempt s request decode).mono ?_
  intro sent result hattempt
  cases hattempt with
  | unsent fault => exact ⟨allOf_nil, fun _ _ => heard_nil⟩
  | silent => exact ⟨by simpa [AllOf] using h, nofun⟩
  | refused reply fault hreply hnone => exact ⟨by simpa [AllOf] using h, fun _ _ => by simpa [Heard] using hreply⟩
  | answered reply x hsome =>
    have hreply : reply ≠ .silence := by
      rintro rfl
      cases hsome
    exact ⟨by simpa [AllOf] using h, fun _ _ => by simpa [Heard] using hreply⟩

theorem stays_call (h : request.stage = stage) : Stays stage (s.call request decode) := by
  refine (stays_attempt h).bind fun outcome => ?_
  cases outcome with
  | ok x => exact stays_pure x
  | error fault => exact stays_fail _

end Session
end SplitterLaunch
