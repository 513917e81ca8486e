import SplitterLaunch.Proofs.Session.Requests

/-! What a call hears from a node, and how it ends with that. A call that needs a value ends with anything else; one that
    can do without puts up with an error of the node itself, and with nothing else. -/

namespace SplitterLaunch

/-! ### What is heard -/

/-- What a call hears from a node. -/
inductive Hearing (α : Type) where
  | value (x : α)
  /-- The node answers with an error. -/
  | refusal (fault : RpcFault)
  /-- The request does not get through, or what comes back cannot be read. -/
  | failure (fault : RpcFault)
  /-- Nothing comes back in time. -/
  | silence

namespace Hearing
variable {α : Type}

def value? : Hearing α → Option α
  | .value x => some x
  | _ => none

/-- Whether this ends a call that can do without a value. -/
def IsFatal (h : Hearing α) : Prop := h = .silence ∨ ∃ fault, h = .failure fault

def answer : Hearing α → Except Unanswered α
  | .value x => .ok x
  | .refusal fault => .error (.fault fault)
  | .failure fault => .error (.fault fault)
  | .silence => .error .silence

/-- How a call ends that needs a value. -/
def needed (c : Connection) (method : String) : Hearing α → Outcome Failure α
  | .value x => .ok x
  | .refusal fault => .error (.failed (.rpc fault))
  | .failure fault => .error (.failed (.rpc fault))
  | .silence => .error (.failed (.timeout method (c.timeout / 1000)))

/-- How a call ends that can do without a value. -/
def offered (c : Connection) (method : String) : Hearing α → Outcome Failure (Option α)
  | .value x => .ok (some x)
  | .refusal _ => .ok none
  | .failure fault => .error (.failed (.rpc fault))
  | .silence => .error (.failed (.timeout method (c.timeout / 1000)))

variable {h : Hearing α} {c : Connection} {method : String}

theorem value?_eq_some_iff {x : α} : h.value? = some x ↔ h = .value x := by
  cases h <;> simp [value?]

theorem needed_eq_ok_iff {x : α} : h.needed c method = .ok x ↔ h = .value x := by
  cases h <;> simp [needed]

theorem needed_eq_error_iff {stop : Stop Failure} : h.needed c method = .error stop ↔
    (h = .silence ∧ stop = .failed (.timeout method (c.timeout / 1000))) ∨
    ∃ fault, (h = .refusal fault ∨ h = .failure fault) ∧ stop = .failed (.rpc fault) := by
  cases h <;> simp [needed, eq_comm]

theorem offered_eq_ok_iff {x : Option α} : h.offered c method = .ok x ↔ ¬ h.IsFatal ∧ h.value? = x := by
  cases h <;> simp [offered, IsFatal, value?]

theorem offered_eq_error_iff {stop : Stop Failure} : h.offered c method = .error stop ↔
    (h = .silence ∧ stop = .failed (.timeout method (c.timeout / 1000))) ∨
    ∃ fault, h = .failure fault ∧ stop = .failed (.rpc fault) := by
  cases h <;> simp [offered, eq_comm]

end Hearing

/-- What a reply to a request at a URL tells, given how to read its result. -/
def Reply.hearing {α : Type} (url : Url) (decode : Json.Source → Option α) : Reply → Hearing α
  | .silence => .silence
  | .unreachable fault => .failure (.unreachable url.text fault)
  | .body text =>
    match Rpc.read? text with
    | none => .failure (.undecodable text)
    | some (.error fault) => .refusal fault
    | some (.ok result) =>
      match decode result with
      | some x => .value x
      | none => .failure (.undecodable text)

namespace Rpc
variable {α : Type} {url : Url} {decode : Json.Source → Option α} {reply : Reply}

theorem isRefusal_of_refusal? {source : Json.Source} {fault : RpcFault} (h : refusal? source = some fault) :
    fault.isRefusal = true := by
  unfold refusal? at h
  simp only [Option.bind_eq_bind, Option.bind_eq_some_iff, Option.ite_none_right_eq_some] at h
  obtain ⟨_, -, _, -, _, -, _, -, _, -, -, h⟩ := h
  cases h
  rfl

/-- An error that a reply holds is a refusal of the node. -/
theorem isRefusal_of_read? {text : String} {fault : RpcFault} (h : read? text = some (.error fault)) :
    fault.isRefusal = true := by
  unfold read? at h
  simp only [Option.bind_eq_bind, Option.bind_eq_some_iff, Option.ite_none_left_eq_some] at h
  obtain ⟨_, -, member, -, _, -, _, -, -, -, -, h⟩ := h
  split at h
  · cases h
  · obtain ⟨refusal, hrefusal, h⟩ := Option.bind_eq_some_iff.mp h
    cases h
    exact isRefusal_of_refusal? hrefusal
  · cases h

theorem interpret_eq_answer (url : Url) (decode : Json.Source → Option α) (reply : Reply) :
    interpret url decode reply = (reply.hearing url decode).answer := by
  cases reply with
  | silence => rfl
  | unreachable fault => rfl
  | body text =>
    unfold interpret Reply.hearing
    dsimp only
    cases read? text with
    | none => rfl
    | some said =>
      cases said with
      | error fault => rfl
      | ok result =>
        dsimp only
        cases decode result <;> rfl

theorem value?_hearing (url : Url) (decode : Json.Source → Option α) (reply : Reply) :
    (reply.hearing url decode).value? = result? decode reply := by
  cases reply with
  | silence => rfl
  | unreachable fault => rfl
  | body text =>
    unfold result? Reply.hearing
    dsimp only
    cases read? text with
    | none => rfl
    | some said =>
      cases said with
      | error fault => rfl
      | ok result =>
        dsimp only
        cases decode result <;> rfl

theorem hearing_eq_value_iff {x : α} : reply.hearing url decode = .value x ↔ result? decode reply = some x := by
  rw [← value?_hearing url, Hearing.value?_eq_some_iff]

theorem isRefusal_of_hearing {fault : RpcFault} (h : reply.hearing url decode = .refusal fault) : fault.isRefusal = true := by
  unfold Reply.hearing at h
  split at h
  · cases h
  · cases h
  split at h
  · cases h
  · rename_i hread
    cases h
    exact isRefusal_of_read? hread
  · split at h <;> cases h

theorem not_isRefusal_of_hearing {fault : RpcFault} (h : reply.hearing url decode = .failure fault) :
    fault.isRefusal = false := by
  unfold Reply.hearing at h
  split at h
  · cases h
  · cases h
    rfl
  split at h
  · cases h
    rfl
  · cases h
  · split at h <;> cases h
    rfl

end Rpc

/-! ### Single calls -/

namespace Connection
variable {α : Type} {c : Connection}

theorem run_call (hurl : c.url.TakesRequests) (request : Request) (decode : Json.Source → Option α) (w : World) :
    (c.call request decode).run w = (((w.reply request).hearing c.url decode).needed c request.method, w.asked request) := by
  unfold call
  rw [Run.run_bind_of_ok (c.run_request hurl request decode w), Rpc.interpret_eq_answer, Run.run_require]
  cases (w.reply request).hearing c.url decode <;> rfl

theorem run_optionalCall (hurl : c.url.TakesRequests) (request : Request) (decode : Json.Source → Option α) (w : World) :
    (c.optionalCall request decode).run w =
      (((w.reply request).hearing c.url decode).offered c request.method, w.asked request) := by
  unfold optionalCall
  rw [Run.run_bind_of_ok (c.run_request hurl request decode w), Rpc.interpret_eq_answer]
  cases hhearing : (w.reply request).hearing c.url decode with
  | value x => rfl
  | silence => rfl
  | refusal fault =>
    have hrefusal := Rpc.isRefusal_of_hearing hhearing
    cases fault with
    | refused code message data => rfl
    | _ => cases hrefusal
  | failure fault =>
    have hrefusal := Rpc.not_isRefusal_of_hearing hhearing
    cases fault with
    | refused code message data => cases hrefusal
    | _ => rfl

theorem run_call_of_not_takesRequests (hurl : ¬ c.url.TakesRequests) (request : Request) (decode : Json.Source → Option α)
    (w : World) : ∃ fault, (c.call request decode).run w = (.error (.failed (.rpc fault)), w) := by
  obtain ⟨fault, hfault⟩ := run_request_of_not hurl request decode w
  exact ⟨fault, Run.run_bind_of_ok hfault _⟩

/-- A call answers exactly by a reply that gives a result, at a URL that takes requests. -/
theorem run_call_eq_ok_iff {request : Request} {decode : Json.Source → Option α} {w w' : World} {x : α} :
    (c.call request decode).run w = (.ok x, w') ↔
      c.url.TakesRequests ∧ Rpc.result? decode (w.reply request) = some x ∧ w' = w.asked request := by
  by_cases hurl : c.url.TakesRequests
  · rw [run_call hurl, Prod.mk.injEq, Hearing.needed_eq_ok_iff, Rpc.hearing_eq_value_iff, eq_comm (b := w'),
      and_iff_right hurl]
  · obtain ⟨fault, hfault⟩ := run_call_of_not_takesRequests hurl request decode w
    rw [hfault]
    exact ⟨nofun, fun h => absurd h.1 hurl⟩

end Connection
end SplitterLaunch
