import Mathlib

/-!
JSON values as a deserializer hands them over. An object is the list of its
members; a number keeps the three shapes a decoder distinguishes, and a number
outside the integer shapes is kept as its text.
-/

namespace OcFleet.Foundation

def decimalChar (c : Char) : Bool :=
  c.isDigit || c == '-' || c == '+' || c == '.' || c == 'e' || c == 'E'

/-- The text of a number that is not an integer of the decoder. -/
structure DecimalText where
  text : String
  decimal : text.toList.all decimalChar = true
  deriving DecidableEq, Repr

inductive JsonNumber where
  | posInt (n : Nat)
  | negInt (n : Int)
  | float (text : DecimalText)
  deriving DecidableEq, Repr

inductive Json where
  | null
  | bool (b : Bool)
  | number (n : JsonNumber)
  | string (s : String)
  | array (items : List Json)
  | object (members : List (String × Json))
  deriving Repr

namespace Json

def emptyObject : Json := .object []

def nat (n : Nat) : Json := .number (.posInt n)

/-- An integer takes the shape of its sign. -/
def int (n : Int) : Json :=
  if 0 ≤ n then .number (.posInt n.toNat) else .number (.negInt n)

def get? (value : Json) (key : String) : Option Json :=
  match value with
  | .object members => (members.find? (fun m => m.1 == key)).map Prod.snd
  | _ => none

def asStr : Json → Option String
  | .string s => some s
  | _ => none

def asObject : Json → Option (List (String × Json))
  | .object members => some members
  | _ => none

def ofOption : Option String → Json
  | some s => .string s
  | none => .null

mutual

/-- Equality test, structural so that it evaluates. -/
def beq : Json → Json → Bool
  | .null, .null => true
  | .bool a, .bool b => a == b
  | .number a, .number b => decide (a = b)
  | .string a, .string b => a == b
  | .array a, .array b => beqItems a b
  | .object a, .object b => beqMembers a b
  | _, _ => false

def beqItems : List Json → List Json → Bool
  | [], [] => true
  | a :: as, b :: bs => beq a b && beqItems as bs
  | _, _ => false

def beqMembers : List (String × Json) → List (String × Json) → Bool
  | [], [] => true
  | (k, a) :: as, (l, b) :: bs => k == l && beq a b && beqMembers as bs
  | _, _ => false

end

instance : BEq Json := ⟨beq⟩

mutual

theorem eq_of_beqValue : (a b : Json) → beq a b = true → a = b
  | .null, .null, _ => rfl
  | .bool a, .bool b, h => by
    have hSame : a = b := by simpa [beq] using h
    rw [hSame]
  | .number a, .number b, h => by
    have hSame : a = b := by simpa [beq] using h
    rw [hSame]
  | .string a, .string b, h => by
    have hSame : a = b := by simpa [beq] using h
    rw [hSame]
  | .array a, .array b, h => by
    rw [beq] at h
    rw [eq_of_beqItems a b h]
  | .object a, .object b, h => by
    rw [beq] at h
    rw [eq_of_beqMembers a b h]

theorem eq_of_beqItems : (a b : List Json) → beqItems a b = true → a = b
  | [], [], _ => rfl
  | a :: as, b :: bs, h => by
    rw [beqItems, Bool.and_eq_true] at h
    rw [eq_of_beqValue a b h.1, eq_of_beqItems as bs h.2]

theorem eq_of_beqMembers : (a b : List (String × Json)) → beqMembers a b = true → a = b
  | [], [], _ => rfl
  | (k, a) :: as, (l, b) :: bs, h => by
    rw [beqMembers, Bool.and_eq_true, Bool.and_eq_true] at h
    rw [eq_of_beq h.1.1, eq_of_beqValue a b h.1.2, eq_of_beqMembers as bs h.2]

end

mutual

theorem beq_self : (a : Json) → beq a a = true
  | .null | .bool _ | .number _ | .string _ => by simp [beq]
  | .array items => by
    rw [beq]
    exact beqItems_self items
  | .object members => by
    rw [beq]
    exact beqMembers_self members

theorem beqItems_self : (items : List Json) → beqItems items items = true
  | [] => rfl
  | item :: items => by rw [beqItems, beq_self item, beqItems_self items]; rfl

theorem beqMembers_self : (members : List (String × Json)) → beqMembers members members = true
  | [] => rfl
  | (key, value) :: members => by
    rw [beqMembers, beq_self value, beqMembers_self members]
    simp

end

instance : LawfulBEq Json where
  eq_of_beq := eq_of_beqValue _ _
  rfl := beq_self _

variable {members : List (String × Json)} {name : String} {value : Json}

theorem mem_of_get?
    (h : (Json.object members).get? name = some value) : (name, value) ∈ members := by
  obtain ⟨member, hFound, rfl⟩ := Option.map_eq_some_iff.mp h
  have hName : member.1 = name := by simpa using List.find?_some hFound
  exact hName ▸ List.mem_of_find?_eq_some hFound

theorem get?_of_mem (hNodup : (members.map Prod.fst).Nodup) (h : (name, value) ∈ members) :
    (Json.object members).get? name = some value := by
  induction members with
  | nil => cases h
  | cons member members ih =>
    rw [List.map_cons, List.nodup_cons] at hNodup
    rcases List.mem_cons.mp h with rfl | hTail
    · simp [get?]
    · have hOther : member.1 ≠ name := by
        rintro rfl
        exact hNodup.1 (List.mem_map.mpr ⟨_, hTail, rfl⟩)
      simpa [get?, hOther] using ih hNodup.2 hTail

end Json

end OcFleet.Foundation
