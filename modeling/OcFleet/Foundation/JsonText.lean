import OcFleet.Foundation.JsonValues
import OcFleet.Foundation.LineFraming

/-!
The compact text of a JSON value: members and items separated by single commas,
strings with the short escapes where JSON has them and a four-digit escape for
the other control characters. The text of a value therefore has no control
character of its own, whatever strings the value holds.
-/

namespace OcFleet.Foundation

namespace Json

def hexDigit (n : Nat) : Char := Nat.digitChar n

def escapeChar (c : Char) : List Char :=
  if c = '"' then ['\\', '"']
  else if c = '\\' then ['\\', '\\']
  else if c = '\x08' then ['\\', 'b']
  else if c = '\t' then ['\\', 't']
  else if c = '\n' then ['\\', 'n']
  else if c = '\x0c' then ['\\', 'f']
  else if c = '\r' then ['\\', 'r']
  else if c.toNat < 32 then
    ['\\', 'u', '0', '0', hexDigit (c.toNat / 16), hexDigit (c.toNat % 16)]
  else [c]

def renderString (s : String) : List Char :=
  '"' :: (s.toList.flatMap escapeChar ++ ['"'])

def renderNumber : JsonNumber → List Char
  | .posInt n => Nat.toDigits 10 n
  | .negInt n => '-' :: Nat.toDigits 10 n.natAbs
  | .float decimal => decimal.text.toList

mutual

def renderChars : Json → List Char
  | .null => ['n', 'u', 'l', 'l']
  | .bool true => ['t', 'r', 'u', 'e']
  | .bool false => ['f', 'a', 'l', 's', 'e']
  | .number n => renderNumber n
  | .string s => renderString s
  | .array items => '[' :: (renderItems items ++ [']'])
  | .object members => '{' :: (renderMembers members ++ ['}'])

def renderItems : List Json → List Char
  | [] => []
  | [value] => renderChars value
  | value :: rest => renderChars value ++ ',' :: renderItems rest

def renderMembers : List (String × Json) → List Char
  | [] => []
  | [(name, value)] => renderString name ++ ':' :: renderChars value
  | (name, value) :: rest =>
      renderString name ++ ':' :: (renderChars value ++ ',' :: renderMembers rest)

end

def render (value : Json) : String := String.ofList value.renderChars

def PlainChars (chars : List Char) : Prop := ∀ c ∈ chars, 32 ≤ c.toNat

section

theorem plainChars_nil : PlainChars [] := by simp [PlainChars]

variable {c : Char} {chars : List Char} {n : Nat}

theorem plainChars_cons_iff :
    PlainChars (c :: chars) ↔ 32 ≤ c.toNat ∧ PlainChars chars := by
  simp [PlainChars]

theorem plainChars_append_iff {more : List Char} :
    PlainChars (chars ++ more) ↔ PlainChars chars ∧ PlainChars more := by
  simp only [PlainChars, List.mem_append, or_imp, forall_and]

theorem plain_of_isDigit (h : c.isDigit = true) : 32 ≤ c.toNat := by
  simp only [Char.isDigit, Bool.and_eq_true, decide_eq_true_eq] at h
  have h48 : (48 : UInt32) ≤ c.val := h.1
  have hNat : (48 : UInt32).toNat ≤ c.val.toNat := UInt32.le_iff_toNat_le.mp h48
  exact Nat.le_trans (by decide) hNat

theorem plainChars_of_all
    (h : chars.all (fun c => decide (32 ≤ c.toNat)) = true) : PlainChars chars :=
  fun c hc => of_decide_eq_true (List.all_eq_true.mp h c hc)

theorem plain_hexDigit (h : n < 16) : 32 ≤ (hexDigit n).toNat := by
  have hAll : ∀ i : Fin 16, 32 ≤ (hexDigit i).toNat := by decide
  exact hAll ⟨n, h⟩

theorem plainChars_unicodeEscape (h : n < 32) :
    PlainChars ['\\', 'u', '0', '0', hexDigit (n / 16), hexDigit (n % 16)] := by
  simp only [plainChars_cons_iff]
  exact ⟨by decide, by decide, by decide, by decide, plain_hexDigit (by omega),
    plain_hexDigit (by omega), plainChars_nil⟩

theorem plainChars_escapeChar (c : Char) : PlainChars (escapeChar c) := by
  have hShort : ∀ e ∈ ['"', '\\', 'b', 't', 'n', 'f', 'r'], PlainChars ['\\', e] := by
    have hAll : (['"', '\\', 'b', 't', 'n', 'f', 'r'].all
        (fun e => ['\\', e].all (fun c => decide (32 ≤ c.toNat)))) = true := by decide
    exact fun e he => plainChars_of_all (List.all_eq_true.mp hAll e he)
  unfold escapeChar
  repeat' split
  all_goals first
    | exact hShort _ (by decide)
    | exact plainChars_unicodeEscape (by assumption)
    | exact plainChars_cons_iff.mpr ⟨by omega, plainChars_nil⟩

theorem plainChars_renderString (s : String) : PlainChars (renderString s) := by
  unfold renderString
  rw [plainChars_cons_iff, plainChars_append_iff]
  refine ⟨by decide, ?_, plainChars_cons_iff.mpr ⟨by decide, plainChars_nil⟩⟩
  intro c hc
  obtain ⟨d, -, hc⟩ := List.mem_flatMap.mp hc
  exact plainChars_escapeChar d c hc

theorem plainChars_toDigits (n : Nat) : PlainChars (Nat.toDigits 10 n) :=
  fun _ hc => plain_of_isDigit (Nat.isDigit_of_mem_toDigits (by decide) (by decide) hc)

theorem plain_of_decimalChar (h : decimalChar c = true) : 32 ≤ c.toNat := by
  simp only [decimalChar, Bool.or_eq_true, beq_iff_eq] at h
  obtain ((((h | rfl) | rfl) | rfl) | rfl) | rfl := h
  · exact plain_of_isDigit h
  all_goals decide

theorem plainChars_renderNumber (n : JsonNumber) : PlainChars (renderNumber n) := by
  cases n with
  | posInt n => exact plainChars_toDigits n
  | negInt n => exact plainChars_cons_iff.mpr ⟨by decide, plainChars_toDigits _⟩
  | float decimal =>
    exact fun c hc => plain_of_decimalChar (List.all_eq_true.mp decimal.decimal c hc)

mutual

theorem plainChars_renderChars (value : Json) : PlainChars value.renderChars := by
  match value with
  | .null | .bool true | .bool false =>
    exact plainChars_of_all rfl
  | .number n => exact plainChars_renderNumber n
  | .string s => exact plainChars_renderString s
  | .array items =>
    simp only [renderChars, plainChars_cons_iff, plainChars_append_iff]
    exact ⟨by decide, plainChars_renderItems items, by decide, plainChars_nil⟩
  | .object members =>
    simp only [renderChars, plainChars_cons_iff, plainChars_append_iff]
    exact ⟨by decide, plainChars_renderMembers members, by decide, plainChars_nil⟩

theorem plainChars_renderItems (items : List Json) : PlainChars (renderItems items) := by
  match items with
  | [] => exact plainChars_nil
  | [value] => exact plainChars_renderChars value
  | value :: next :: rest =>
    simp only [renderItems, plainChars_append_iff, plainChars_cons_iff]
    exact ⟨plainChars_renderChars value, by decide, plainChars_renderItems (next :: rest)⟩

theorem plainChars_renderMembers (members : List (String × Json)) :
    PlainChars (renderMembers members) := by
  match members with
  | [] => exact plainChars_nil
  | [(name, value)] =>
    simp only [renderMembers, plainChars_append_iff, plainChars_cons_iff]
    exact ⟨plainChars_renderString name, by decide, plainChars_renderChars value⟩
  | (name, value) :: next :: rest =>
    simp only [renderMembers, plainChars_append_iff, plainChars_cons_iff]
    exact ⟨plainChars_renderString name, by decide, plainChars_renderChars value, by decide,
      plainChars_renderMembers (next :: rest)⟩

end

/-- The text of a JSON value fits on one line of a text file. -/
theorem noControl_render (value : Json) : NoControl value.render := by
  intro c hc
  rw [render, String.toList_ofList] at hc
  exact plainChars_renderChars value c hc

end

end Json

end OcFleet.Foundation
