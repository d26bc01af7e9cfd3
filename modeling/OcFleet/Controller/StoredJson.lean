import OcFleet.Controller.WebhookSender

/-!
What the content check says about the JSON it accepts: bounds on its size, no forbidden member
name, and which addresses its strings may still hold.
-/

namespace OcFleet.Controller

open Foundation

/-- A value occurs in another one, with its depth and the name of the nearest member around it,
when the outer value stands at the given depth under the given name. -/
inductive Occurs : Nat → Option String → Json → Nat → Option String → Json → Prop
  | here {depth : Nat} {key : Option String} {value : Json} : Occurs depth key value depth key value
  | member {depth depth' : Nat} {key key' : Option String} {name : String} {value value' : Json}
      {members : List (String × Json)} (mem : (name, value) ∈ members)
      (inner : Occurs (depth + 1) (some name) value depth' key' value') :
      Occurs depth key (.object members) depth' key' value'
  | item {depth depth' : Nat} {key key' : Option String} {value value' : Json} {items : List Json}
      (mem : value ∈ items) (inner : Occurs (depth + 1) key value depth' key' value') :
      Occurs depth key (.array items) depth' key' value'

mutual

/-- The members and items of a value, at every depth. -/
def entryCount : Json → Nat
  | .object members => countMembers members
  | .array items => countItems items
  | _ => 0

def countMembers : List (String × Json) → Nat
  | [] => 0
  | (_, value) :: rest => entryCount value + 1 + countMembers rest

def countItems : List Json → Nat
  | [] => 0
  | value :: rest => entryCount value + 1 + countItems rest

end

/-- A maximal run of digits and dots that is a dotted address. -/
structure AddressRun (text before run after : List Char) : Prop where
  split : text = before ++ run ++ after
  dotted : readIpv4Addr run = some []
  starts : ∀ c ∈ before.getLast?, ¬ (c.isDigit ∨ c = '.')
  ends : ∀ c ∈ after.head?, ¬ (c.isDigit ∨ c = '.')

/-- The characters other than digits and dots that the check does not split at. -/
def joinsAddress (c : Char) : Bool :=
  ('a' ≤ c && c ≤ 'f') || ('A' ≤ c && c ≤ 'F') || c == ':'

/-- A string under a name that may not hold an address. -/
def Guarded (value : Json) (text : String) : Prop :=
  ∃ depth key, Occurs 0 none value depth key (.string text) ∧
    key ≠ some "endpoint_host" ∧ key ≠ some "host_allow"

structure StoredSafely (value : Json) : Prop where
  clear : ∀ text, Guarded value text → ∀ before run after,
    ¬ AddressRun text.toList before run after
  keys : ∀ depth key members, Occurs 0 none value depth key (.object members) →
    ∀ member ∈ members, forbiddenStoredKey member.1 = false
  depth : ∀ depth key inner, Occurs 0 none value depth key inner → depth ≤ 8
  entries : entryCount value ≤ 256

def splitsParts (c : Char) : Bool := !(asciiHexDigit c || c == '.' || c == ':')

theorem splitsParts_toLower {c : Char} (h : ¬ (c.isDigit ∨ c = '.'))
    (hFree : joinsAddress c = false) :
    splitsParts c.toLower = true := by
  have hDot : c.toLower = '.' ↔ c = '.' := toLower_eq_iff (by decide) (by decide)
  have hColon : c.toLower = ':' ↔ c = ':' := toLower_eq_iff (by decide) (by decide)
  have hHex : ∀ d : Char, asciiHexDigit d = true ↔ (48 ≤ d.toNat ∧ d.toNat ≤ 57) ∨
      (97 ≤ d.toNat ∧ d.toNat ≤ 102) ∨ (65 ≤ d.toNat ∧ d.toNat ≤ 70) := by
    intro d
    simp only [asciiHexDigit, Char.isDigit, Bool.or_eq_true, Bool.and_eq_true, decide_eq_true_eq,
      or_assoc]
    exact Iff.rfl
  have hDigit : c.isDigit = true ↔ 48 ≤ c.toNat ∧ c.toNat ≤ 57 := by
    simp only [Char.isDigit, Bool.and_eq_true, decide_eq_true_eq]
    exact Iff.rfl
  have hLetter : joinsAddress c = true ↔ ((97 ≤ c.toNat ∧ c.toNat ≤ 102) ∨
      (65 ≤ c.toNat ∧ c.toNat ≤ 70)) ∨ c = ':' := by
    simp only [joinsAddress, Bool.or_eq_true, Bool.and_eq_true, decide_eq_true_eq, beq_iff_eq]
    exact Iff.rfl
  have hNot : ¬ asciiHexDigit c.toLower = true := by
    rw [hHex, toNat_toLower, lowerCode]
    rw [hDigit] at h
    rw [← Bool.not_eq_true, hLetter] at hFree
    simp only [Bool.and_eq_true, Nat.ble_eq]
    split
    · omega
    · omega
  rw [← Bool.not_eq_true, hLetter] at hFree
  simp only [splitsParts, Bool.not_eq_true', Bool.or_eq_false_iff, beq_eq_false_iff_ne, ne_eq,
    hDot, hColon]
  exact ⟨⟨by simpa using hNot, fun hc => h (.inr hc)⟩, fun hc => hFree (.inr hc)⟩

theorem splitsParts_of_digit {c : Char} (h : (digitValue 10 c).isSome ∨ c = '.') :
    splitsParts c = false := by
  obtain hDigit | rfl := h
  · by_cases hc : c.isDigit = true
    · simp [splitsParts, asciiHexDigit, hc]
    · simp only [digitValue, if_neg hc] at hDigit
      split at hDigit
      · simp [Option.filter] at hDigit
      · split at hDigit
        · simp [Option.filter] at hDigit
        · simp at hDigit
  · decide

/-- An address that touches no such character is found. -/
theorem AddressRun.found {text : String} {before run after : List Char}
    (h : AddressRun text.toList before run after)
    (hBefore : ∀ c ∈ before.getLast?, joinsAddress c = false)
    (hAfter : ∀ c ∈ after.head?, joinsAddress c = false) :
    containsIp (toAsciiLowercase text) = true := by
  obtain ⟨hChars, -⟩ := Webhook.dotted_of_readIpv4Addr h.dotted
  have hRun : run.map Char.toLower = run :=
    (List.map_congr_left (fun c hc => Webhook.toLower_of_digit (hChars c hc))).trans
      (List.map_id' _)
  have hWhole : ∀ c ∈ run, splitsParts c = false := fun c hc => splitsParts_of_digit (hChars c hc)
  have hPart : ∀ rest, (∀ c ∈ rest.head?, splitsParts c = true) →
      run ∈ (run ++ rest).splitOnP splitsParts := by
    intro rest hRest
    cases rest with
    | nil => simp [List.splitOnP_eq_singleton hWhole]
    | cons c rest =>
      rw [List.splitOnP_append_cons_of_forall_mem hWhole c (hRest c rfl)]
      exact List.mem_cons_self ..
  have hRest : run ∈ (run ++ after.map Char.toLower).splitOnP splitsParts := by
    refine hPart _ ?_
    cases after with
    | nil => exact fun _ hNone => nomatch hNone
    | cons c after =>
      intro _ hHead
      cases hHead
      exact splitsParts_toLower (h.ends c rfl) (hAfter c rfl)
  have hSplit : run ∈ (toAsciiLowercase text).splitOnP splitsParts := by
    rw [toAsciiLowercase, h.split, List.append_assoc, List.map_append, List.map_append, hRun]
    obtain rfl | ⟨front, c, rfl⟩ := List.eq_nil_or_concat before
    · exact hRest
    · have hLast : c ∈ (front.concat c).getLast? := by simp
      rw [List.concat_eq_append, List.map_append, List.map_singleton, List.append_assoc,
        List.singleton_append,
        List.splitOnP_append_cons _ _ (splitsParts_toLower (h.starts c hLast) (hBefore c hLast))]
      exact List.mem_append_right _ hRest
  refine List.any_eq_true.mpr ⟨run, hSplit, ?_⟩
  simp [isAddressPart, parsesIpAddr, h.dotted]

section

variable {field : String} {depth entries count : Nat} {key : Option String}

theorem member_checked {members : List (String × Json)} {name : String} {value : Json}
    (h : validateLowSensitiveMembers field depth entries members = .ok count)
    (hMem : (name, value) ∈ members) :
    forbiddenStoredKey name = false ∧ ∃ entries count,
      validateLowSensitiveJsonValue field (depth + 1) entries (some name) value = .ok count := by
  induction members generalizing entries with
  | nil => cases hMem
  | cons member members ih =>
    simp only [validateLowSensitiveMembers, bind_eq_ok_iff, require_eq_ok_iff, Bool.not_eq_true',
      Bool.or_eq_false_iff] at h
    obtain ⟨_, _, _, hKey, entries', hValue, hRest⟩ := h
    obtain rfl | hMem := List.mem_cons.mp hMem
    · exact ⟨hKey.2, _, _, hValue⟩
    · exact ih hRest hMem

theorem item_checked {items : List Json} {value : Json}
    (h : validateLowSensitiveItems field depth entries key items = .ok count)
    (hMem : value ∈ items) : ∃ entries count,
      validateLowSensitiveJsonValue field (depth + 1) entries key value = .ok count := by
  induction items generalizing entries with
  | nil => cases hMem
  | cons item items ih =>
    simp only [validateLowSensitiveItems, bind_eq_ok_iff] at h
    obtain ⟨_, _, entries', hValue, hRest⟩ := h
    obtain rfl | hMem := List.mem_cons.mp hMem
    · exact ⟨_, _, hValue⟩
    · exact ih hRest hMem

/-- Whatever occurs in an accepted value was accepted where it stands. -/
theorem Occurs.checked {depth' : Nat} {key' : Option String} {value value' : Json}
    (hOccurs : Occurs depth key value depth' key' value')
    (h : validateLowSensitiveJsonValue field depth entries key value = .ok count) :
    ∃ entries count,
      validateLowSensitiveJsonValue field depth' entries key' value' = .ok count := by
  induction hOccurs generalizing entries count with
  | here => exact ⟨entries, count, h⟩
  | member hMem _ ih =>
    simp only [validateLowSensitiveJsonValue, bind_eq_ok_iff] at h
    obtain ⟨_, _, hMembers⟩ := h
    obtain ⟨-, _, _, hValue⟩ := member_checked hMembers hMem
    exact ih hValue
  | item hMem _ ih =>
    simp only [validateLowSensitiveJsonValue, bind_eq_ok_iff] at h
    obtain ⟨_, _, hItems⟩ := h
    obtain ⟨_, _, hValue⟩ := item_checked hItems hMem
    exact ih hValue

mutual

theorem entryCount_le (field : String) (depth entries count : Nat) (key : Option String)
    (hEntries : entries ≤ 256) : (value : Json) →
    validateLowSensitiveJsonValue field depth entries key value = .ok count →
      entries + entryCount value = count ∧ count ≤ 256
  | .object members, h => by
    simp only [validateLowSensitiveJsonValue, bind_eq_ok_iff] at h
    obtain ⟨_, _, hMembers⟩ := h
    exact countMembers_le field depth entries count hEntries members hMembers
  | .array items, h => by
    simp only [validateLowSensitiveJsonValue, bind_eq_ok_iff] at h
    obtain ⟨_, _, hItems⟩ := h
    exact countItems_le field depth entries count key hEntries items hItems
  | .string _, h => by
    simp only [validateLowSensitiveJsonValue, bind_eq_ok_iff, pure_eq_ok_iff] at h
    obtain ⟨_, _, _, _, rfl⟩ := h
    exact ⟨rfl, hEntries⟩
  | .null, h | .bool _, h | .number _, h => by
    simp only [validateLowSensitiveJsonValue, bind_eq_ok_iff, pure_eq_ok_iff] at h
    obtain ⟨_, _, rfl⟩ := h
    exact ⟨rfl, hEntries⟩

theorem countMembers_le (field : String) (depth entries count : Nat) (hEntries : entries ≤ 256) :
    (members : List (String × Json)) →
    validateLowSensitiveMembers field depth entries members = .ok count →
      entries + countMembers members = count ∧ count ≤ 256
  | [], h => by
    cases h
    exact ⟨rfl, hEntries⟩
  | (name, value) :: rest, h => by
    simp only [validateLowSensitiveMembers, entryLimit, bind_eq_ok_iff, require_eq_ok_iff,
      decide_eq_true_eq] at h
    obtain ⟨_, hLimit, _, _, entries', hValue, hRest⟩ := h
    obtain ⟨hCount, hBound⟩ := entryCount_le field _ _ _ _ hLimit value hValue
    obtain ⟨hCount', hBound'⟩ := countMembers_le field _ _ _ hBound rest hRest
    simp only [countMembers]
    omega

theorem countItems_le (field : String) (depth entries count : Nat) (key : Option String)
    (hEntries : entries ≤ 256) : (items : List Json) →
    validateLowSensitiveItems field depth entries key items = .ok count →
      entries + countItems items = count ∧ count ≤ 256
  | [], h => by
    cases h
    exact ⟨rfl, hEntries⟩
  | value :: rest, h => by
    simp only [validateLowSensitiveItems, entryLimit, bind_eq_ok_iff, require_eq_ok_iff,
      decide_eq_true_eq] at h
    obtain ⟨_, hLimit, entries', hValue, hRest⟩ := h
    obtain ⟨hCount, hBound⟩ := entryCount_le field _ _ _ _ hLimit value hValue
    obtain ⟨hCount', hBound'⟩ := countItems_le field _ _ _ _ hBound rest hRest
    simp only [countItems]
    omega

end

theorem nesting_checked {value : Json}
    (h : validateLowSensitiveJsonValue field depth entries key value = .ok count) : depth ≤ 8 := by
  cases value <;> simp only [validateLowSensitiveJsonValue, nestingLimit, bind_eq_ok_iff,
    require_eq_ok_iff, decide_eq_true_eq] at h <;> obtain ⟨_, hDepth, _⟩ := h <;> exact hDepth

end

/-- An accepted value holds no address exactly when no address in it touches a hexadecimal letter
or a colon; its member names, depth and number of entries are bounded in any case. -/
theorem stored_json_safe_iff (value : Json) (field : String)
    (h : validateLowSensitiveJson value field = .ok ()) :
    StoredSafely value ↔ ∀ text, Guarded value text → ∀ before run after,
      AddressRun text.toList before run after →
        (∀ c ∈ before.getLast?, joinsAddress c = false) ∧
          ∀ c ∈ after.head?, joinsAddress c = false := by
  simp only [validateLowSensitiveJson, bind_eq_ok_iff] at h
  obtain ⟨_, _, count, hValue, _⟩ := h
  constructor
  · intro hSafe text hGuarded before run after hRun
    exact absurd hRun (hSafe.clear text hGuarded before run after)
  · intro hFree
    refine ⟨?_, ?_, ?_, ?_⟩
    · intro text hGuarded before run after hRun
      obtain ⟨hBefore, hAfter⟩ := hFree text hGuarded before run after hRun
      obtain ⟨depth, key, hOccurs, hHost, hAllow⟩ := hGuarded
      obtain ⟨_, _, hText⟩ := hOccurs.checked hValue
      simp only [validateLowSensitiveJsonValue, unsafeStoredString, forbiddenStoredValue,
        bind_eq_ok_iff, require_eq_ok_iff, hRun.found hBefore hAfter] at hText
      obtain ⟨_, _, _, hSafe, _⟩ := hText
      simp [hHost, hAllow] at hSafe
    · intro depth key members hOccurs member hMember
      obtain ⟨_, _, hObject⟩ := hOccurs.checked hValue
      simp only [validateLowSensitiveJsonValue, bind_eq_ok_iff] at hObject
      obtain ⟨_, _, hMembers⟩ := hObject
      exact (member_checked hMembers hMember).1
    · intro depth key inner hOccurs
      obtain ⟨_, _, hInner⟩ := hOccurs.checked hValue
      exact nesting_checked hInner
    · obtain ⟨hCount, hBound⟩ := entryCount_le field 0 0 count none (Nat.zero_le _) value hValue
      omega

def attachedAddress : Json := .object [("note", .string "b10.0.0.1")]

theorem attachedAddress_safe_iff : StoredSafely attachedAddress ↔
    ∀ text, Guarded attachedAddress text → ∀ before run after,
      AddressRun text.toList before run after →
        (∀ c ∈ before.getLast?, joinsAddress c = false) ∧
          ∀ c ∈ after.head?, joinsAddress c = false :=
  stored_json_safe_iff attachedAddress "note" (by decide)

/-- An address behind a letter that could be part of one is stored. -/
theorem attached_address_stored :
    validateLowSensitiveJson attachedAddress "note" = .ok () ∧ ¬ StoredSafely attachedAddress := by
  refine ⟨by decide, fun hSafe => ?_⟩
  exact hSafe.clear "b10.0.0.1" ⟨1, some "note", .member (List.mem_singleton.mpr rfl) .here,
    by decide, by decide⟩ ['b'] "10.0.0.1".toList []
    ⟨by decide, by decide, fun c hc => by cases hc; decide, fun c hc => nomatch hc⟩

end OcFleet.Controller
