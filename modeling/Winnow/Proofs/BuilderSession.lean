import Winnow.Proofs.Requirement

/-! # Sessions with a builder

A builder is called in any order: maps are appended, some of them without a query for its index,
and requests are built, some of them with an argument missing. What it holds in the end is what the
appends carried that succeeded.
-/

namespace Winnow

/-- The map with nothing but its clause for an index. -/
def IndexQueries.cutTo (index : String) (queries : IndexQueries) : IndexQueries :=
  { queries with clauses := (queries.get? index).toList.map (index, ·) }

theorem IndexQueries.get?_cutTo (index : String) (queries : IndexQueries) :
    (queries.cutTo index).get? index = queries.get? index := by
  unfold cutTo
  cases found : queries.get? index <;> simp [get?]

namespace RequestBuilder

/-- A call on a builder. -/
inductive Call where
  | append (queries : IndexQueries) (isRequired : Bool)
  /-- Builds the query alone. -/
  | query
  /-- Builds a search request. -/
  | search (page size : Nat) (sort : List SortField)
  /-- Builds an aggregation request. -/
  | aggregate (name field key : String) (size : Nat)

/-- What a call comes to. -/
inductive Reply where
  /-- A map was appended. -/
  | appended
  /-- A document was built. -/
  | built (document : Json)
  /-- The call failed. -/
  | refused (error : QueryError)

/-- What a call comes to, and the builder that the session goes on with. -/
def respond (builder : RequestBuilder) : Call → Reply × RequestBuilder
  | .append queries isRequired =>
      match builder.appendWith queries isRequired with
      | (.ok (), next) => (.appended, next)
      | (.error e, next) => (.refused e, next)
  | .query => (.built builder.query.toJson, builder)
  | .search page size sort => (.built (builder.search page size sort), builder)
  | .aggregate name field key size =>
      match builder.aggregate name field key size with
      | .ok document => (.built document, builder)
      | .error e => (.refused e, builder)

/-- A call in a session. -/
structure Step where
  /-- The builder that is called. -/
  before : RequestBuilder
  call : Call
  /-- What it comes to. -/
  reply : Reply
  /-- The builder after the call. -/
  next : RequestBuilder

def step (builder : RequestBuilder) (call : Call) : Step :=
  ⟨builder, call, (builder.respond call).1, (builder.respond call).2⟩

/-- The steps of a session. -/
def steps (builder : RequestBuilder) : List Call → List Step
  | [] => []
  | call :: rest => builder.step call :: (builder.step call).next.steps rest

/-- The builder after a session. -/
def after (builder : RequestBuilder) : List Call → RequestBuilder
  | [] => builder
  | call :: rest => (builder.step call).next.after rest

namespace Step

/-- The append that succeeds in a step, if it is one. -/
def appended? (step : Step) : Option (IndexQueries × Bool) :=
  match step.call, step.reply with
  | .append queries isRequired, .appended => some (queries, isRequired)
  | _, _ => none

theorem appended?_eq_none {step : Step} (other : (∃ error, step.reply = .refused error) ∨
    ∀ queries isRequired, step.call ≠ .append queries isRequired) : step.appended? = none := by
  unfold appended?
  split
  · next queries isRequired appends done =>
    rcases other with ⟨error, refused⟩ | builds
    · cases done.symm.trans refused
    · exact absurd appends (builds queries isRequired)
  · rfl

/-- The clause that a successful append carries, and whether it is required. -/
def carried? (step : Step) : Option RequestItem :=
  step.appended?.bind fun (queries, isRequired) =>
    (queries.get? step.before.index).map (⟨·, isRequired⟩)

/-- A successful append, of nothing but what it carries. -/
def replayed? (step : Step) : Option Call :=
  step.appended?.map fun (queries, isRequired) =>
    .append (queries.cutTo step.before.index) isRequired

end Step

/-! ## Single calls -/

namespace Call

/-- What a call adds to a builder for an index. -/
def item? (index : String) : Call → Option RequestItem
  | append queries isRequired => (queries.get? index).map (⟨·, isRequired⟩)
  | query | search _ _ _ | aggregate _ _ _ _ => none

end Call

variable {builder start : RequestBuilder} {calls : List Call}

/-- A call is an append that succeeds, or it leaves the builder as it is. -/
theorem step_cases (builder : RequestBuilder) (call : Call) :
    (∃ queries isRequired clause, call = .append queries isRequired ∧
      queries.get? builder.index = some clause ∧
      builder.step call = ⟨builder, call, .appended,
        { builder with items := builder.items ++ [⟨clause, isRequired⟩] }⟩) ∨
    call.item? builder.index = none ∧ (builder.step call).appended? = none ∧
      (builder.step call).next = builder := by
  cases call with
  | append queries isRequired =>
      cases found : queries.get? builder.index with
      | none =>
          have failed := appendWith_absent found isRequired
          refine .inr ⟨?_, ?_, ?_⟩ <;>
            simp [Call.item?, Step.appended?, step, respond, failed, found]
      | some clause =>
          have done := appendWith_present found isRequired
          refine .inl ⟨queries, isRequired, clause, rfl, found, ?_⟩
          simp [step, respond, done]
  | query | search => exact .inr ⟨rfl, rfl, rfl⟩
  | aggregate name field key size =>
      refine .inr ⟨rfl, rfl, ?_⟩
      simp only [step, respond]
      split <;> rfl

theorem step_append (builder : RequestBuilder) (queries : IndexQueries) (isRequired : Bool) :
    (builder.step (.append queries isRequired)).reply =
      if queries.get? builder.index = none then .refused (.missingIndex builder.index)
      else .appended := by
  cases found : queries.get? builder.index with
  | none => simp [step, respond, appendWith_absent found]
  | some clause => simp [step, respond, appendWith_present found]

theorem step_next (builder : RequestBuilder) (call : Call) :
    (builder.step call).next =
      { builder with items := builder.items ++ (call.item? builder.index).toList } := by
  rcases step_cases builder call with ⟨queries, isRequired, clause, rfl, found, same⟩ | ⟨none, _, same⟩
  · simp [same, Call.item?, found]
  · simp [same, none]

theorem step_index (builder : RequestBuilder) (call : Call) :
    (builder.step call).next.index = builder.index := by
  rw [step_next]

theorem step_carried? (builder : RequestBuilder) (call : Call) :
    (builder.step call).carried? = call.item? builder.index := by
  rcases step_cases builder call with ⟨queries, isRequired, clause, rfl, found, same⟩ | ⟨none, other, _⟩
  · simp [same, Step.carried?, Step.appended?, Call.item?, found]
  · simp [Step.carried?, other, none]

theorem step_appended? (builder : RequestBuilder) (call : Call) :
    (builder.step call).appended?.isSome = (call.item? builder.index).isSome := by
  rcases step_cases builder call with ⟨queries, isRequired, clause, rfl, found, same⟩ | ⟨none, other, _⟩
  · simp [same, Step.appended?, Call.item?, found]
  · simp [other, none]

theorem step_replayed? (builder : RequestBuilder) (call : Call) :
    ((builder.step call).replayed? = none ∧ call.item? builder.index = none) ∨
    ∃ again item, (builder.step call).replayed? = some again ∧
      again.item? builder.index = some item ∧ call.item? builder.index = some item := by
  rcases step_cases builder call with ⟨queries, isRequired, clause, rfl, found, same⟩ | ⟨none, other, _⟩
  · refine .inr ⟨.append (queries.cutTo builder.index) isRequired, ⟨clause, isRequired⟩, ?_⟩
    simp [same, Step.replayed?, Step.appended?, Call.item?, found, IndexQueries.get?_cutTo]
  · exact .inl ⟨by simp [Step.replayed?, other], none⟩

theorem next_eq_of_unappended {call : Call} (other : (builder.step call).appended? = none) :
    (builder.step call).next = builder := by
  have none : (call.item? builder.index).isSome = false := by
    rw [← step_appended?, other]
    rfl
  rw [Option.isSome_eq_false_iff, Option.isNone_iff_eq_none] at none
  rw [step_next, none]
  simp

/-! ## Whole sessions -/

theorem eq_step_of_mem {step : Step} (member : step ∈ start.steps calls) :
    step = step.before.step step.call ∧ step.before.index = start.index ∧ step.call ∈ calls := by
  induction calls generalizing start with
  | nil => cases member
  | cons call rest ih =>
      rcases List.mem_cons.mp member with rfl | later
      · exact ⟨rfl, rfl, List.mem_cons_self⟩
      · obtain ⟨same, index, among⟩ := ih later
        exact ⟨same, index.trans (step_index start call), List.mem_cons_of_mem _ among⟩

/-- After a session, a builder holds what the calls have added. -/
theorem after_eq (start : RequestBuilder) (calls : List Call) :
    start.after calls =
      { start with items := start.items ++ calls.filterMap (Call.item? start.index) } := by
  induction calls generalizing start with
  | nil => simp [after]
  | cons call rest ih =>
      rw [after, ih, step_next]
      cases added : call.item? start.index <;> simp [added]

theorem steps_carried (start : RequestBuilder) (calls : List Call) :
    (start.steps calls).filterMap Step.carried? = calls.filterMap (Call.item? start.index) := by
  induction calls generalizing start with
  | nil => rfl
  | cons call rest ih =>
      rw [steps, List.filterMap_cons, List.filterMap_cons, step_carried?, ih, step_index]

theorem steps_appended (start : RequestBuilder) (calls : List Call) :
    (start.steps calls).countP (·.appended?.isSome) =
      (calls.filterMap (Call.item? start.index)).length := by
  induction calls generalizing start with
  | nil => rfl
  | cons call rest ih =>
      rw [steps, List.countP_cons, List.filterMap_cons, step_appended?, ih, step_index]
      cases call.item? start.index <;> simp

theorem replayed_items (start : RequestBuilder) (calls : List Call) :
    ((start.steps calls).filterMap Step.replayed?).filterMap (Call.item? start.index) =
      calls.filterMap (Call.item? start.index) := by
  rw [List.filterMap_filterMap, ← steps_carried]
  refine List.filterMap_congr fun step member => ?_
  obtain ⟨same, index, _⟩ := eq_step_of_mem member
  rw [same, step_carried?, ← index]
  rcases step_replayed? step.before step.call with
    ⟨again, none⟩ | ⟨again, item, replays, carries, carried⟩
  · rw [again, none, Option.bind_none]
  · rw [replays, carried, Option.bind_some, carries]

theorem after_replayed (start : RequestBuilder) (calls : List Call) :
    start.after ((start.steps calls).filterMap Step.replayed?) = start.after calls := by
  rw [after_eq, after_eq, replayed_items]

theorem replayed_succeed {step : Step}
    (member : step ∈ start.steps ((start.steps calls).filterMap Step.replayed?)) :
    step.appended?.isSome = true := by
  obtain ⟨same, index, among⟩ := eq_step_of_mem member
  obtain ⟨first, earlier, replays⟩ := List.mem_filterMap.mp among
  obtain ⟨own, before, _⟩ := eq_step_of_mem earlier
  rw [own] at replays
  rw [same, step_appended?, index, ← before]
  rcases step_replayed? first.before first.call with
    ⟨none, _⟩ | ⟨again, item, found, carries, _⟩
  · cases none.symm.trans replays
  · obtain rfl := Option.some.inj (found.symm.trans replays)
    rw [carries]
    rfl

theorem reply_eq_of_items_eq {other : RequestBuilder} (same : other.items = builder.items)
    {call : Call} (builds : ∀ queries isRequired, call ≠ .append queries isRequired) :
    (other.step call).reply = (builder.step call).reply := by
  have query : other.query = builder.query := by
    rw [RequestBuilder.query, RequestBuilder.query, same]
  cases call with
  | append queries isRequired => exact absurd rfl (builds queries isRequired)
  | query => simp only [step, respond, query]
  | search page size sort => simp only [step, respond, search, query]
  | aggregate name field key size =>
      have whole : other.aggregate name field key size = builder.aggregate name field key size := by
        rw [aggregate, aggregate, query]
      simp only [step, respond, whole]
      cases builder.aggregate name field key size <;> rfl

end RequestBuilder

/-- In a session with a builder, an append fails if its map has no clause for the builder's index,
    for that reason and for no other, and no call but an append that succeeds changes the builder.
    It has an item for each of these, and they make the same builder if they are replayed with
    nothing in their maps but the clause for the index. Sessions that carry the same clauses, in
    one order and with the same flags, build the same requests. -/
theorem builder_session_traceless (start : RequestBuilder) (calls : List RequestBuilder.Call) :
    (∀ step ∈ start.steps calls,
      (∀ queries isRequired, step.call = .append queries isRequired →
        step.reply = if queries.get? start.index = none then .refused (.missingIndex start.index)
          else .appended) ∧
      ((∃ error, step.reply = .refused error) ∨
        (∀ queries isRequired, step.call ≠ .append queries isRequired) →
          step.next = step.before)) ∧
    (start.after calls).items.length =
      start.items.length + (start.steps calls).countP (·.appended?.isSome) ∧
    start.after ((start.steps calls).filterMap RequestBuilder.Step.replayed?) = start.after calls ∧
    (∀ step ∈ start.steps ((start.steps calls).filterMap RequestBuilder.Step.replayed?),
      step.appended?.isSome = true) ∧
    ∀ (other : RequestBuilder) (otherCalls : List RequestBuilder.Call),
      other.items = start.items →
      (other.steps otherCalls).filterMap RequestBuilder.Step.carried? =
        (start.steps calls).filterMap RequestBuilder.Step.carried? →
      ∀ call, (∀ queries isRequired, call ≠ .append queries isRequired) →
        ((other.after otherCalls).step call).reply = ((start.after calls).step call).reply := by
  refine ⟨fun step member => ?_, ?_, RequestBuilder.after_replayed start calls,
    fun step => RequestBuilder.replayed_succeed,
    fun other otherCalls items carried call builds => ?_⟩
  · obtain ⟨same, index, _⟩ := RequestBuilder.eq_step_of_mem member
    refine ⟨fun queries isRequired appends => ?_, fun other => ?_⟩
    · rw [same, appends, RequestBuilder.step_append, index]
    · have none := RequestBuilder.Step.appended?_eq_none other
      rw [same] at none ⊢
      exact RequestBuilder.next_eq_of_unappended none
  · rw [RequestBuilder.after_eq, RequestBuilder.steps_appended, List.length_append]
  · refine RequestBuilder.reply_eq_of_items_eq ?_ builds
    rw [RequestBuilder.steps_carried, RequestBuilder.steps_carried] at carried
    rw [RequestBuilder.after_eq, RequestBuilder.after_eq, items, carried]

/-- A map for two indices. -/
def tagQueries : IndexQueries :=
  ⟨[("orders", .leaf (.matching "tag" "late")), ("people", .leaf (.matching "tag" "new"))], false⟩

/-- A session in which an append and an aggregation fail. -/
def interruptedSession : List RequestBuilder.Call :=
  [.append ⟨[("orders", .leaf (.matching "tag" "late"))], true⟩ true, .search 0 10 [],
    .append tagQueries false, .aggregate "" "tag" "key" 5, .append tagQueries true, .query]

theorem interrupted_session_traceless :
    let start : RequestBuilder := ⟨"people", []⟩
    (start.after interruptedSession).items.length = 2 ∧
    start.after ((start.steps interruptedSession).filterMap RequestBuilder.Step.replayed?) =
      start.after interruptedSession ∧
    ∀ page size sort,
      ((start.after [.append tagQueries false, .append tagQueries true]).step
        (.search page size sort)).reply =
      ((start.after interruptedSession).step (.search page size sort)).reply := by
  intro start
  obtain ⟨_, count, replayed, _, requests⟩ := builder_session_traceless start interruptedSession
  exact ⟨count, replayed, fun page size sort => requests start _ rfl rfl _ nofun⟩

end Winnow
