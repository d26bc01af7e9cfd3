import OcFleet.Foundation.JsonText

/-!
The text of a JSON string determines the string, and where it ends. Reading one escaped
character back is enough for that: two texts that agree are read alike, character by character.
-/

namespace OcFleet.Foundation

namespace Json

variable {rest rest' : List Char}

def hexDigitValue (c : Char) : Nat :=
  if c.toNat < 58 then c.toNat - 48 else c.toNat - 87

/-- The first character of an escaped text, and what follows it. -/
def unescape : List Char → Option (Char × List Char)
  | [] => none
  | c :: rest =>
      if c = '\\' then
        match rest with
        | 'b' :: rest => some ('\x08', rest)
        | 't' :: rest => some ('\t', rest)
        | 'n' :: rest => some ('\n', rest)
        | 'f' :: rest => some ('\x0c', rest)
        | 'r' :: rest => some ('\r', rest)
        | 'u' :: _ :: _ :: high :: low :: rest =>
            some (Char.ofNat (hexDigitValue high * 16 + hexDigitValue low), rest)
        | d :: rest => some (d, rest)
        | [] => none
      else some (c, rest)

variable {c : Char} {members members' : List (String × Option String)}

theorem unescape_plain (h : c ≠ '\\') (rest : List Char) :
    unescape (c :: rest) = some (c, rest) := by
  simp [unescape, h]

theorem hexDigitValue_hexDigit {n : Nat} (h : n < 16) : hexDigitValue (hexDigit n) = n := by
  have hAll : ∀ i : Fin 16, hexDigitValue (hexDigit i) = i := by decide
  exact hAll ⟨n, h⟩

theorem unescape_escapeChar (c : Char) (rest : List Char) :
    unescape (escapeChar c ++ rest) = some (c, rest) := by
  unfold escapeChar
  repeat' split
  all_goals first
    | (subst_vars; rfl)
    | skip
  · rename_i hControl
    have hValue : hexDigitValue (hexDigit (c.toNat / 16)) * 16 +
        hexDigitValue (hexDigit (c.toNat % 16)) = c.toNat := by
      rw [hexDigitValue_hexDigit (by omega), hexDigitValue_hexDigit (by omega)]
      omega
    show some (Char.ofNat _, rest) = _
    rw [hValue, Char.ofNat_toNat]
  · rename_i hSlash _ _ _ _ _ _
    exact unescape_plain hSlash rest

theorem escapeChar_append_inj {d : Char} (h : escapeChar c ++ rest = escapeChar d ++ rest') :
    c = d ∧ rest = rest' := by
  have hRead := congrArg unescape h
  rw [unescape_escapeChar, unescape_escapeChar, Option.some.injEq, Prod.mk.injEq] at hRead
  exact hRead

theorem escaped_append_inj {chars chars' : List Char}
    (h : chars.flatMap escapeChar ++ '"' :: rest = chars'.flatMap escapeChar ++ '"' :: rest') :
    chars = chars' ∧ rest = rest' := by
  have hQuote : ∀ (d : Char) (X Y : List Char), '"' :: X ≠ escapeChar d ++ Y := by
    intro d X Y hEq
    have hRead := congrArg unescape hEq
    rw [unescape_escapeChar, unescape_plain (by decide), Option.some.injEq, Prod.mk.injEq] at hRead
    rw [← hRead.1] at hEq
    cases hEq
  induction chars generalizing chars' with
  | nil =>
    cases chars' with
    | nil => exact ⟨rfl, (List.cons.inj h).2⟩
    | cons d chars' =>
      rw [List.flatMap_cons, List.append_assoc] at h
      exact absurd h (hQuote d _ _)
  | cons c chars ih =>
    cases chars' with
    | nil =>
      rw [List.flatMap_cons, List.append_assoc] at h
      exact absurd h.symm (hQuote c _ _)
    | cons d chars' =>
      rw [List.flatMap_cons, List.flatMap_cons, List.append_assoc, List.append_assoc] at h
      obtain ⟨rfl, hTail⟩ := escapeChar_append_inj h
      obtain ⟨rfl, hRest⟩ := ih hTail
      exact ⟨rfl, hRest⟩

/-- The text of a string ends where it says. -/
theorem renderString_append_inj {s t : String}
    (h : renderString s ++ rest = renderString t ++ rest') : s = t ∧ rest = rest' := by
  simp only [renderString, List.cons_append, List.append_assoc, List.cons.injEq, true_and] at h
  obtain ⟨hChars, hRest⟩ := escaped_append_inj h
  exact ⟨String.toList_injective hChars, hRest⟩

/-- The text of an optional string, `null` without one. -/
theorem renderOption_append_inj {s t : Option String}
    (h : renderChars ((s.map Json.string).getD .null) ++ rest = renderChars ((t.map
      Json.string).getD .null) ++ rest') : s = t ∧ rest = rest' := by
  cases s with
  | none =>
    cases t with
    | none => exact ⟨rfl, List.append_cancel_left h⟩
    | some t =>
      simp [renderChars, renderString] at h
  | some s =>
    cases t with
    | none =>
      simp [renderChars, renderString] at h
    | some t =>
      simp only [Option.map_some, Option.getD_some, renderChars] at h
      obtain ⟨rfl, hRest⟩ := renderString_append_inj h
      exact ⟨rfl, hRest⟩

/-- A member whose value is a string, or `null` without one. -/
def optionalMember (member : String × Option String) : String × Json :=
  (member.1, (member.2.map Json.string).getD .null)

theorem optionalMember_append_inj {m m' : String × Option String}
    (h : renderString (optionalMember m).1 ++ ':' :: (renderChars (optionalMember m).2 ++ rest) =
      renderString (optionalMember m').1 ++ ':' :: (renderChars (optionalMember m').2 ++ rest')) :
    m = m' ∧ rest = rest' := by
  obtain ⟨hName, hTail⟩ := renderString_append_inj h
  obtain ⟨hValue, hRest⟩ := renderOption_append_inj (List.cons.inj hTail).2
  exact ⟨Prod.ext hName hValue, hRest⟩

theorem optionalMembers_append_inj (hLength : members.length = members'.length)
    (h : renderMembers (members.map optionalMember) ++ rest = renderMembers (members'.map
      optionalMember) ++ rest') :
    members = members' ∧ rest = rest' := by
  induction members generalizing members' with
  | nil =>
    obtain rfl := List.length_eq_zero_iff.mp hLength.symm
    exact ⟨rfl, h⟩
  | cons m members ih =>
    obtain ⟨m', members', rfl⟩ := List.exists_cons_of_length_eq_add_one hLength.symm
    -- the last member is written without a comma behind it
    cases members with
    | nil =>
      obtain rfl := List.length_eq_zero_iff.mp (Nat.succ.inj hLength).symm
      simp only [List.map_cons, List.map_nil, renderMembers, List.append_assoc,
        List.cons_append] at h
      obtain ⟨rfl, hRest⟩ := optionalMember_append_inj h
      exact ⟨rfl, hRest⟩
    | cons next members =>
      obtain ⟨next', members', rfl⟩ :=
        List.exists_cons_of_length_eq_add_one (Nat.succ.inj hLength).symm
      simp only [List.map_cons, renderMembers, List.append_assoc, List.cons_append] at h
      obtain ⟨rfl, hTail⟩ := optionalMember_append_inj h
      obtain ⟨hMembers, hRest⟩ := ih (Nat.succ.inj hLength) (List.cons.inj hTail).2
      exact ⟨hMembers ▸ rfl, hRest⟩

/-- The text of an object of optional strings determines them. -/
theorem optionalObject_inj (hLength : members.length = members'.length)
    (h : render (.object (members.map optionalMember)) =
      render (.object (members'.map optionalMember))) : members = members' := by
  have hText := String.ofList_injective h
  simp only [renderChars, List.cons.injEq, true_and] at hText
  exact (optionalMembers_append_inj hLength hText).1

end Json

end OcFleet.Foundation
