import SplitterLaunch.Proofs.Json.Rereading
import SplitterLaunch.Proofs.Session.Requests

/-! Replies that give a result. A reply that is written around a value is read as this value, whatever it is. -/

namespace SplitterLaunch
namespace Rpc
open Json (source spelled)

/-- The members of a reply with a result. -/
def answerMembers (result : Json) : Json.Members :=
  [("id", Json.ofUInt64 1), ("jsonrpc", .string "2.0"), ("result", result)]

/-- A reply with a result. -/
def answer (result : Json) : Reply := .body (Json.compact (.object (answerMembers result)))

theorem members?_source_answer (result : Json) : members? (source (.object (answerMembers result))) =
    some fun name => [("id", source (Json.ofUInt64 1)), ("jsonrpc", source (.string "2.0")), ("result", source result)].lookup name := by
  have hid : String.ofList (spelled "id") = "id" := by decide +kernel
  have hversion : String.ofList (spelled "jsonrpc") = "jsonrpc" := by decide +kernel
  have hresult : String.ofList (spelled "result") = "result" := by decide +kernel
  simp [members?, answerMembers, source, Json.sourceMembers, Json.Tree.members?, hid, hversion, hresult, memberNames]

theorem read?_answer (result : Json) :
    read? (Json.compact (.object (answerMembers result))) = some (.ok (source result)) := by
  have hversion : String.ofList (spelled "2.0") = "2.0" := by decide +kernel
  have hid : Json.ofSource? (source (Json.ofUInt64 1)) = some (Json.ofUInt64 1) := Json.ofSource?_source rfl rfl
  have hnumber : (Json.ofUInt64 1).asUInt64? = some 1 := by decide
  unfold read?
  rw [Json.toList_compact, Json.read?_write Json.Layout.blank_compact _ (by simp)]
  simp only [Option.bind_eq_bind, Option.bind_some, members?_source_answer, List.lookup_cons, List.lookup_nil]
  simp [hversion, hid, hnumber, source]

/-- What is written around a value gives the value, if this is a result. -/
theorem result?_answer {α : Type} {decode : Json.Source → Option α} {result : Json} {x : α}
    (h : decode (source result) = some x) : result? decode (answer result) = some x := by
  unfold result? answer
  dsimp only
  rw [read?_answer]
  exact h

/-- A value whose members are in their order has none of them twice. -/
theorem isKept_of_isOrdered (s : Shape) {j : Json} (h : Json.isOrdered j = true) : s.isKept j = true := by
  have hitems : ∀ item ∈ itemsOf s.list j, item.isOrdered = true := by
    unfold itemsOf
    cases hlist : (j.member? s.list).bind Json.asArray? with
    | none => simp
    | some items =>
      obtain ⟨value, hvalue, hitems⟩ := Option.bind_eq_some_iff.mp hlist
      exact Json.isOrdered_of_asArray? (Json.isOrdered_of_member? h hvalue) hitems
  unfold Shape.isKept
  rw [Json.repeatsNone_of_isOrdered s.names h, Bool.true_and, List.all_eq_true]
  exact fun item hitem => Json.repeatsNone_of_isOrdered s.itemNames (hitems item hitem)

/-- A plain value is read from its source as it is, of whatever shape. -/
theorem json?_source {s : Shape} {j : Json} (hordered : Json.isOrdered j = true) (hplain : j.IsPlain Json.maxDepth) :
    json? s (source j) = some j := by
  have hdepth : (source j).depth + 0 ≤ Json.maxDepth := (Json.depth_source j).symm ▸ hplain.depth
  unfold json? Json.writtenInside?
  rw [if_pos hdepth, Json.written?_source j hplain.exact, Option.filter_some_pos (isKept_of_isOrdered s hordered),
    Option.map_some, Json.sorted_of_isOrdered j hordered]

/-- A reply that is written around a plain value gives what is read from this value. -/
theorem result?_answer_of_read {α : Type} {decode : Json.Source → Option α} {read : Json → Option α} {result : Json} {x : α}
    {s : Shape} (hdecode : ∀ source, decode source = (json? s source).bind read) (hordered : Json.isOrdered result = true)
    (hplain : result.IsPlain Json.maxDepth) (hread : read result = some x) : result? decode (answer result) = some x := by
  refine result?_answer ?_
  rw [hdecode, json?_source hordered hplain, Option.bind_some, hread]

end Rpc
end SplitterLaunch
