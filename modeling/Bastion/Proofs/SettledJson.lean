import Bastion.Json.Parser
import Bastion.Proofs.KeyedEntries

set_option autoImplicit false

namespace Bastion.Json

open Keyed (names mapValues collect)

theorem settledItems_eq_map (items : List Json) : settledItems items = items.map settled := by
  induction items with
  | nil => rfl
  | cons item items ih => exact congrArg (item.settled :: ·) ih

theorem settledMembers_eq_mapValues (members : List (String × Json)) :
    settledMembers members = mapValues settled members := by
  induction members with
  | nil => rfl
  | cons member members ih => exact congrArg ((member.1, member.2.settled) :: ·) ih

mutual

theorem settled_settled : ∀ value : Json, value.settled.settled = value.settled
  | .null => rfl
  | .bool _ => rfl
  | .int _ => rfl
  | .float _ => rfl
  | .string _ => rfl
  | .array items => congrArg Json.array (settledItems_settled items)
  | .object members => by
    have once := settledMembers_settled members
    change Json.object (collect (settledMembers (collect (settledMembers members)))) =
      Json.object (collect (settledMembers members))
    simp only [settledMembers_eq_mapValues] at once ⊢
    rw [← Keyed.collect_mapValues, once, Keyed.collect_of_nodup (Keyed.nodup_collect _)]

theorem settledItems_settled : ∀ items : List Json,
    settledItems (settledItems items) = settledItems items
  | [] => rfl
  | item :: items => congrArg₂ List.cons (settled_settled item) (settledItems_settled items)

theorem settledMembers_settled : ∀ members : List (String × Json),
    settledMembers (settledMembers members) = settledMembers members
  | [] => rfl
  | (name, value) :: members =>
    congrArg₂ List.cons (congrArg (Prod.mk name) (settled_settled value))
      (settledMembers_settled members)

end

/-- A value is settled if no object in it has two members of one name. -/
theorem settled_object_iff {members : List (String × Json)} :
    (Json.object members).settled = .object members ↔
      (names members).Nodup ∧ ∀ member ∈ members, member.2.settled = member.2 := by
  change Json.object (collect (settledMembers members)) = _ ↔ _
  rw [settledMembers_eq_mapValues, Json.object.injEq]
  constructor
  · intro same
    refine ⟨same ▸ Keyed.nodup_collect _, fun member held => ?_⟩
    rw [← same] at held
    obtain ⟨first, _, rfl⟩ := List.mem_map.1 (Keyed.mem_of_mem_collect held)
    exact settled_settled first.2
  · rintro ⟨distinct, settledValues⟩
    have unchanged : mapValues settled members = members := by
      refine (List.map_congr_left fun member held => ?_).trans (List.map_id members)
      exact congrArg (Prod.mk member.1) (settledValues member held)
    rw [unchanged, Keyed.collect_of_nodup distinct]

theorem get?_settled (members : List (String × Json)) (name : String) :
    Keyed.get? (collect (settledMembers members)) name =
      (Keyed.last? members name).map settled := by
  rw [settledMembers_eq_mapValues, Keyed.collect_mapValues, Keyed.get?_mapValues, Keyed.get?_collect]

theorem written_of_parse {text : String} {value : Json} (read : parse text = .ok value) :
    ∃ first, parseWritten .whole text = .ok first ∧ first.settled = value := by
  unfold parse at read
  cases lenient : parseWritten .lenient text with
  | error error =>
    rw [lenient] at read
    cases read
  | ok _ =>
    cases whole : parseWritten .whole text with
    | error error =>
      rw [lenient, whole] at read
      cases read
    | ok first =>
      rw [lenient, whole] at read
      exact ⟨first, rfl, Except.ok.inj read⟩

theorem parse_of_written {text : String} {value : Json}
    (written : ∀ reading, parseWritten reading text = .ok value) :
    parse text = .ok value.settled := by
  unfold parse
  rw [written .lenient, written .whole]
  rfl

theorem settled_of_parse {text : String} {value : Json} (read : parse text = .ok value) :
    value.settled = value := by
  obtain ⟨first, _, rfl⟩ := written_of_parse read
  exact settled_settled first

end Bastion.Json
