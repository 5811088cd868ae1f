import CommandLink.Proofs.JsonPrinting
import CommandLink.Proofs.ProgressReports

/-!
# Progress documents

A progress document is a pattern with two names and three numbers in it, and what does not fit
its capacity would be cut off. The largest numbers of 64 bits have twenty digits, and even with
these and the longest names there is room for all of it. So the peer always reads a whole document.
-/

namespace CommandLink

/-! ## Percents -/

/-- Whole percents of numbers of 64 bits, by a product that must fit into 128 bits and a quotient
that must fit into a byte. -/
def percent? (done total : UInt64) : Option UInt8 :=
  if total = 0 then
    some 100
  else
    let product := (min done total).toNat * 100
    let quotient := product / total.toNat
    if product < 2 ^ 128 ∧ quotient < 2 ^ 8 then some (UInt8.ofNat quotient) else none

/-- Neither of them overflows. -/
theorem percent?_eq (done total : UInt64) :
    (percent? done total).map UInt8.toNat = some (percent done.toNat total.toNat) := by
  unfold percent?
  split
  next empty =>
    subst empty
    rfl
  next some =>
    have positive : total.toNat ≠ 0 := fun zero => some (UInt64.toNat_inj.mp zero)
    have least : (min done total).toNat = min done.toNat total.toNat := UInt64.toNat_min done total
    have value : (min done total).toNat * 100 / total.toNat = percent done.toNat total.toNat := by
      rw [percent, if_neg positive, least]
    have wide : (min done total).toNat * 100 < 2 ^ 128 := by
      have few := (min done total).toNat_lt
      omega
    have byte : percent done.toNat total.toNat < 2 ^ 8 :=
      Nat.lt_of_le_of_lt (percent_le _ _) (by decide)
    dsimp only
    rw [value, if_pos ⟨wide, byte⟩, Option.map_some, UInt8.toNat_ofNat_of_lt' byte]

/-! ## Documents -/

namespace Progress

/-- The fields of a progress document. -/
def fields (activity : Activity) (done total : Nat) : List (String × Json) :=
  [("type", .text activity.kind), ("progress", .ofNat (percent done total)),
    (activity.counter, .ofNat done), ("total_bytes", .ofNat total)]

theorem names_plain (activity : Activity) :
    ∀ name ∈ ["type", "progress", "total_bytes", activity.kind, activity.counter],
      name.toList.all Json.plain = true := by
  cases activity <;> decide

/-- The pattern has the fields in their order. -/
theorem render_fields (activity : Activity) (done total : Nat) :
    (Json.object (fields activity done total)).render =
      String.join (pieces activity done total) := by
  have names : ∀ name ∈ ["type", "progress", "total_bytes", activity.kind, activity.counter],
      Json.quoted name = "\"" ++ name ++ "\"" :=
    fun name member => Json.quoted_plain (names_plain activity name member)
  have number (n : Nat) : (Json.ofNat n).render = toString n := rfl
  simp only [List.forall_mem_cons] at names
  simp only [fields, Json.renderFields, Json.render, number, names, pieces]
  -- What is left is how the constant parts are cut.
  simp only [String.join_cons, String.join_nil, ← String.toList_inj, String.toList_append]
  simp

theorem fields_distinct (activity : Activity) (done total : Nat) :
    ((fields activity done total).map Prod.fst).Nodup := by
  change ["type", "progress", activity.counter, "total_bytes"].Nodup
  cases activity <;> decide

theorem fields_flat (activity : Activity) {done total : Nat} (little : done < 2 ^ 64)
    (few : total < 2 ^ 64) : ∀ field ∈ fields activity done total, Json.Flat field := by
  have names := names_plain activity
  have percents : percent done total < 2 ^ 64 :=
    Nat.lt_of_le_of_lt (percent_le done total) (by decide)
  simp only [List.forall_mem_cons] at names
  obtain ⟨type, progress, whole, kind, counter, -⟩ := names
  simp only [fields, List.forall_mem_cons]
  exact ⟨⟨type, Json.scalar_text kind⟩, ⟨progress, Json.scalar_ofNat percents⟩,
    ⟨counter, Json.scalar_ofNat little⟩, ⟨whole, Json.scalar_ofNat few⟩, List.forall_mem_nil _⟩

end Progress

/-! ## The theorem -/

/-- Whatever the activity, and whatever is done of whatever total: each piece of the document finds
room, so that it is whole. The peer reads the kind of the activity, the percents rounded down, which
are 100 when there is nothing to do or more is done than there was, and the two counts. -/
theorem progress_document_whole (activity : Activity) (done total : UInt64) :
    let pieces := Progress.pieces activity done.toNat total.toNat
    let document := Progress.document activity done.toNat total.toNat
    let percents := if total = 0 then 100 else 100 * min done.toNat total.toNat / total.toNat
    let value := Json.ofFields [("type", .text activity.kind), ("progress", .ofNat percents),
      (activity.counter, .ofNat done.toNat), ("total_bytes", .ofNat total.toNat)]
    (∀ count, (String.join (pieces.take count)).utf8ByteSize ≤ Progress.capacity) ∧
      document = String.join pieces ∧
      (percent? done total).map UInt8.toNat = some percents ∧
      Json.read (Bytes.ofText document) = .ok value ∧
      value.field? "type" = some (.text activity.kind) ∧
      value.field? "progress" = some (.ofNat percents) ∧
      value.field? activity.counter = some (.ofNat done.toNat) ∧
      value.field? "total_bytes" = some (.ofNat total.toNat) := by
  intro pieces document percents value
  have little : done.toNat < 2 ^ 64 := done.toNat_lt
  have few : total.toNat < 2 ^ 64 := total.toNat_lt
  have twenty : (2 : Nat) ^ 64 ≤ 10 ^ 20 := by decide
  have room : (String.join pieces).utf8ByteSize ≤ Progress.capacity :=
    Progress.size_pieces_le activity (Nat.lt_of_lt_of_le little twenty)
      (Nat.lt_of_lt_of_le few twenty)
  have whole : document = String.join pieces :=
    Progress.document_eq activity (Nat.lt_of_lt_of_le little twenty)
      (Nat.lt_of_lt_of_le few twenty)
  have same : percent done.toNat total.toNat = percents := by
    have empty : total.toNat = 0 ↔ total = 0 := UInt64.toNat_inj (b := 0)
    simp only [percent, empty, Nat.mul_comm, percents]
  have meant : Json.ofFields (Progress.fields activity done.toNat total.toNat) = value := by
    simp only [Progress.fields, same, value]
  refine ⟨fun count => ?_, whole, ?_, ?_, ?_⟩
  · have parts := congrArg String.join (List.take_append_drop count pieces)
    rw [← parts, String.join_append, String.utf8ByteSize_append] at room
    omega
  · rw [percent?_eq, same]
  · have read := Json.read_serialize (Progress.fields_flat activity little few)
    rw [Json.serialize, Progress.render_fields, meant] at read
    rw [whole]
    exact read
  · have found := Json.field?_ofFields (Progress.fields_distinct activity done.toNat total.toNat)
    rw [meant] at found
    simp only [Progress.fields, List.forall_mem_cons, same] at found
    obtain ⟨kind, progress, counter, size, -⟩ := found
    exact ⟨kind, progress, counter, size⟩

end CommandLink
