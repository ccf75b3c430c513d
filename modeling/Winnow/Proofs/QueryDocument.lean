import Winnow.Proofs.ClauseShape
import Winnow.Proofs.Construction
import Winnow.Proofs.FileRequest
import Winnow.Proofs.JsonPrinting

/-! # Documents of queries

The documents of clauses, index maps and requests name each member of an object once, hold counts
of 64 bits, and nest so little that their texts can be read back.
-/

namespace Winnow

theorem Json.Plain.single {depth : Nat} {v : Json} (plain : v.Plain depth) (name : String) :
    (Json.single name v).Plain (depth + 1) :=
  .object (List.nodup_singleton name) (List.forall_mem_singleton.mpr plain)

namespace Leaf

theorem bounds_plain (lower upper : Option Bound) :
    (Json.object (lowerJson lower ++ upperJson upper)).Plain 1 := by
  refine .object ?_ fun member written => ?_
  · rcases lower with _ | ⟨_ | _, low⟩ <;> rcases upper with _ | ⟨_ | _, high⟩ <;>
      simp [lowerJson, upperJson]
  · rcases List.mem_append.mp written with inside | inside
    · cases lower with
      | none => cases inside
      | some low =>
          rw [List.mem_singleton.mp inside]
          exact .string _
    · cases upper with
      | none => cases inside
      | some high =>
          rw [List.mem_singleton.mp inside]
          exact .string _

theorem toJson_plain (test : Leaf) : test.toJson.Plain 3 := by
  cases test with
  | matching field text => exact ((Json.Plain.string text).single field).single "match"
  | wildcard field pattern => exact ((Json.Plain.string pattern).single field).single "wildcard"
  | range field lower upper => exact ((bounds_plain lower upper).single field).single "range"

end Leaf

namespace Clause

theorem Formed.toJson_plain {depth : Nat} {clause : Clause} (formed : clause.Formed depth) :
    clause.toJson.Plain (3 * depth + 3) := by
  induction formed with
  | @leaf depth test => exact test.toJson_plain.deeper (by omega)
  | @bool depth must should mustNot _ _ ih =>
      rw [bool_toJson]
      have members : (Json.object (boolMembers must should mustNot)).Plain (3 * depth + 5) := by
        have names := occurrences_named must should mustNot
        refine .object ?_ fun member written => ?_
        · rw [boolMembers, List.map_map, List.map_map]
          exact List.Nodup.sublist names (by decide)
        obtain ⟨_, among, rfl⟩ := List.mem_map.mp written
        obtain ⟨occurrence, inside, rfl⟩ := List.mem_map.mp among
        refine .array fun query queried => ?_
        obtain ⟨part, one, rfl⟩ := exists_of_mem_toJsonList queried
        exact ih part ((mem_of_mem_occurrences inside).2 part one)
      exact members.single "bool"

theorem toJsonList_plain {depth : Nat} {clauses : List Clause}
    (each : ∀ clause ∈ clauses, clause.Formed depth) :
    (Json.array (toJsonList clauses)).Plain (3 * depth + 4) := by
  refine .array fun query queried => ?_
  obtain ⟨clause, member, rfl⟩ := exists_of_mem_toJsonList queried
  exact (each clause member).toJson_plain

end Clause

namespace IndexQueries

theorem toJson_plain {depth : Nat} {queries : IndexQueries} (distinct : queries.indices.Nodup)
    (each : ∀ entry ∈ queries.clauses, entry.2.Formed depth) :
    queries.toJson.Plain (3 * depth + 4) := by
  refine .object ?_ fun member written => ?_
  · rw [List.map_map]
    exact distinct
  · obtain ⟨entry, inside, rfl⟩ := List.mem_map.mp written
    exact (each entry inside).toJson_plain

theorem assembled_plain {asOr : Bool} {specs : List Specification} {queries : IndexQueries}
    (valid : ∀ spec ∈ specs, spec.Valid) (assembled : assemble asOr specs = .ok queries) :
    queries.toJson.Plain 16 := by
  refine toJson_plain ?_ (assembled_formed valid assembled)
  rw [indices_assembled assembled]
  exact Grouping.eraseDups_nodup _

end IndexQueries

/-! ## Requests -/

namespace RequestBuilder

/-- A builder with clauses that have no empty nodes. -/
def Formed (builder : RequestBuilder) (depth : Nat) : Prop :=
  ∀ item ∈ builder.items, item.clause.Formed depth

variable {builder : RequestBuilder} {depth : Nat}

theorem Formed.query_plain (formed : builder.Formed depth) :
    builder.query.toJson.Plain (3 * depth + 6) := by
  have must : ∀ clause ∈ builder.query.must, clause.Formed depth := by
    intro clause member
    obtain ⟨item, kept, inside⟩ := List.mem_flatMap.mp member
    exact Clause.requiredParts_formed (formed item (List.mem_filter.mp kept).1) clause inside
  have should : ∀ clause ∈ builder.query.should, clause.Formed depth := by
    intro clause member
    obtain ⟨item, kept, inside⟩ := List.mem_flatMap.mp member
    exact Clause.optionalParts_formed (formed item (List.mem_filter.mp kept).1) clause inside
  have both : (Json.object [("must", .array (Clause.toJsonList builder.query.must)),
      ("should", .array (Clause.toJsonList builder.query.should))]).Plain (3 * depth + 5) := by
    refine .object (by simp) ?_
    simp only [List.forall_mem_cons, List.not_mem_nil, false_implies, implies_true, and_true]
    exact ⟨Clause.toJsonList_plain must, Clause.toJsonList_plain should⟩
  exact both.single "bool"

theorem Formed.search_plain (formed : builder.Formed depth) (page : Nat) {size : Nat}
    (fits : size < wordLimit) (sort : List SortField) :
    (builder.search page size sort).Plain (3 * depth + 7) := by
  have clipped : min (page * size) maxCount < wordLimit :=
    Nat.lt_of_le_of_lt (Nat.min_le_right _ _) (by decide)
  have order : (Json.array (sort.map (·.toJson))).Plain (3 * depth + 6) := by
    refine .array fun entry written => ?_
    obtain ⟨field, _, rfl⟩ := List.mem_map.mp written
    exact ((Json.Plain.string _).single field.field)
  refine .object (by simp) ?_
  simp only [List.forall_mem_cons, List.not_mem_nil, false_implies, implies_true, and_true]
  exact ⟨.nat clipped, .nat fits, formed.query_plain, order⟩

theorem Formed.aggregate_plain (formed : builder.Formed depth) {name field key : String}
    {size : Nat} (fits : size < wordLimit) {document : Json}
    (built : builder.aggregate name field key size = .ok document) :
    document.Plain (3 * depth + 8) := by
  obtain ⟨_, _, built⟩ := bind_eq_ok_iff.mp built
  obtain ⟨_, _, built⟩ := bind_eq_ok_iff.mp built
  obtain ⟨_, _, built⟩ := bind_eq_ok_iff.mp built
  obtain rfl := Except.ok.inj built
  have none : (0 : Nat) < wordLimit := by decide
  have source : (Json.single key (.single "terms" (.single "field" (.string field)))).Plain 3 :=
    (((Json.Plain.string field).single "field").single "terms").single key
  have composite : (Json.object [("size", .nat size), ("source", .array
      [Json.single key (.single "terms" (.single "field" (.string field)))])]).Plain 5 := by
    refine .object (by simp) ?_
    simp only [List.forall_mem_cons, List.not_mem_nil, false_implies, implies_true, and_true]
    exact ⟨.nat fits, .array (List.forall_mem_singleton.mpr source)⟩
  refine .object (by simp) ?_
  simp only [List.forall_mem_cons, List.not_mem_nil, false_implies, implies_true, and_true]
  exact ⟨.nat none, formed.query_plain.deeper (Nat.le_succ _),
    ((composite.single "composite").single name).deeper (by omega)⟩

end RequestBuilder

/-! ## Filter files -/

namespace FilterFile

variable {file : FilterFile}

/-- A file with groups of valid specifications. -/
def Valid (file : FilterFile) : Prop :=
  ∀ group ∈ file.groups, ∀ spec ∈ group.filters, spec.Valid

theorem parse_valid {text : String} {defaults : GroupDefaults}
    (read : parse text defaults = .ok file) : file.Valid :=
  fun _ member spec inside => (made_of_parse read member spec inside).valid

theorem Valid.builder_formed (valid : file.Valid) {index : String} {builder : RequestBuilder}
    (built : file.builder index = .ok builder) : builder.Formed 4 := by
  obtain ⟨named, _⟩ := exists_builder_iff.mp ⟨builder, built⟩
  rw [builder_eq named] at built
  obtain ⟨items, collected, rfl⟩ := map_eq_ok_iff.mp built
  intro item member
  obtain ⟨group, inside, given⟩ :=
    exists_of_forall₂ (mapM_eq_ok_iff_forall₂.mp collected) member
  obtain ⟨queries, clause, assembled, found, rfl⟩ := FilterGroup.item_eq_ok_iff.mp given
  exact IndexQueries.assembled_formed (valid group inside) assembled _
    (IndexQueries.mem_clauses_of_get? found)

theorem Valid.queriesJson_plain (valid : file.Valid) {document : Json}
    (built : file.queriesJson = .ok document) : document.Plain 17 := by
  obtain ⟨maps, assembled, same⟩ := bind_eq_ok_iff.mp built
  have each : ∀ queries ∈ maps, queries.toJson.Plain 16 := by
    intro queries member
    obtain ⟨group, inside, given⟩ :=
      exists_of_forall₂ (mapM_eq_ok_iff_forall₂.mp assembled) member
    exact IndexQueries.assembled_plain (valid group inside) given
  split at same
  · obtain rfl := Except.ok.inj same
    exact (each _ (List.mem_singleton_self _)).deeper (by decide)
  · obtain rfl := Except.ok.inj same
    refine .array fun item written => ?_
    obtain ⟨queries, member, rfl⟩ := List.mem_map.mp written
    exact each queries member

end FilterFile

end Winnow
