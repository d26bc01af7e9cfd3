import OcFleet.Foundation.JsonValues

/-!
Records in JSON. A closed record is read from an object that has no other members
than the record's fields, or from an array of its fields in order; a field that may
be absent is read as absent from `null` too. Writing a record leaves absent fields
out.
-/

namespace OcFleet.Foundation

namespace Json

/-- The fields of a closed record, by name. -/
def closedRecord (names : List String) : Json → Option (String → Option Json)
  | .object members =>
      if members.all (fun member => names.contains member.1) then
        some (fun name => (Json.object members).get? name)
      else none
  | .array items =>
      if items.length ≤ names.length then some (fun name => (names.zip items).lookup name)
      else none
  | _ => none

section

variable {α : Type}

def required (read : Json → Option α) (field : Option Json) : Option α := field.bind read

def optional (read : Json → Option α) : Option Json → Option (Option α)
  | none | some .null => some none
  | some value => (read value).map some

/-- A variant without data is its name, or an object that maps its name to `null`. -/
def readVariant (variants : List (String × α)) : Json → Option α
  | .string name => variants.lookup name
  | .object [(name, .null)] => variants.lookup name
  | _ => none

def readList (read : Json → Option α) : Json → Option (List α)
  | .array items => items.mapM read
  | _ => none

end

def asBool : Json → Option Bool
  | .bool b => some b
  | _ => none

def asArray : Json → Option (List Json)
  | .array items => some items
  | _ => none

def asU64 : Json → Option UInt64
  | .number (.posInt n) => if n < 2 ^ 64 then some (UInt64.ofNat n) else none
  | _ => none

def asU32 : Json → Option UInt32
  | .number (.posInt n) => if n < 2 ^ 32 then some (UInt32.ofNat n) else none
  | _ => none

def asI64 : Json → Option Int64
  | .number (.posInt n) => if n < 2 ^ 63 then some (Int64.ofInt n) else none
  | .number (.negInt n) => if -(2 ^ 63) ≤ n ∧ n < 0 then some (Int64.ofInt n) else none
  | _ => none

/-- The members of a record that are present. -/
def presentMembers (fields : List (String × Option Json)) : List (String × Json) :=
  fields.filterMap (fun field => field.2.map (fun value => (field.1, value)))

def record (fields : List (String × Option Json)) : Json := .object (presentMembers fields)

theorem mem_presentMembers {fields : List (String × Option Json)} {member : String × Json} :
    member ∈ presentMembers fields ↔ (member.1, some member.2) ∈ fields := by
  simp only [presentMembers, List.mem_filterMap, Option.map_eq_some_iff]
  constructor
  · rintro ⟨⟨name, _⟩, hField, value, rfl, rfl⟩
    exact hField
  · intro hField
    exact ⟨_, hField, member.2, rfl, rfl⟩

theorem presentMembers_names_sublist (fields : List (String × Option Json)) :
    ((presentMembers fields).map Prod.fst).Sublist (fields.map Prod.fst) := by
  induction fields with
  | nil => exact List.Sublist.refl _
  | cons field fields ih =>
    obtain ⟨name, value⟩ := field
    cases value with
    | none => exact ih.cons name
    | some value => exact ih.cons_cons name

theorem length_presentMembers_le (fields : List (String × Option Json)) :
    (presentMembers fields).length ≤ fields.length :=
  List.length_filterMap_le _ _

/-- Reading a field back from a written record. -/
theorem get?_record {fields : List (String × Option Json)} (hNodup : (fields.map Prod.fst).Nodup)
    {name : String} {value : Option Json} (h : (name, value) ∈ fields) :
    (record fields).get? name = value := by
  have hDistinct := hNodup.sublist (presentMembers_names_sublist fields)
  cases value with
  | some value => exact get?_of_mem hDistinct (mem_presentMembers.mpr h)
  | none =>
    cases hFound : (record fields).get? name with
    | none => rfl
    | some value =>
      have hOther := mem_presentMembers.mp (mem_of_get? hFound)
      have hSame := List.inj_on_of_nodup_map hNodup h hOther rfl
      cases hSame

end Json

end OcFleet.Foundation
