import OcFleet.Foundation.JsonText
import OcFleet.Foundation.TextBytes

/-!
How many bytes the compact text of a JSON value takes. Every character that is
escaped takes one more byte, the escapes of control characters excepted, so the
text of a string is at most twice as long as the string; an object takes what its
members take and the punctuation between them.
-/

namespace OcFleet.Foundation

open String (utf8Len utf8Len_nil utf8Len_cons utf8Len_append utf8ByteSize_ofList)

namespace Json

theorem byteLen_render (value : Json) : byteLen value.render = utf8Len value.renderChars :=
  utf8ByteSize_ofList _

theorem byteLen_eq_utf8Len (s : String) : byteLen s = utf8Len s.toList := by
  conv_lhs => rw [← String.ofList_toList (s := s)]
  exact utf8ByteSize_ofList _

theorem utf8Len_escapeChar_le {c : Char} (h : 32 ≤ c.toNat) :
    utf8Len (escapeChar c) ≤ 2 * c.utf8Size := by
  have hPos : 0 < c.utf8Size := c.utf8Size_pos
  unfold escapeChar
  repeat' split
  all_goals first
    | omega
    | (subst_vars; decide)
    | (simp only [utf8Len_cons, utf8Len_nil]; omega)

theorem utf8Len_flatMap_escapeChar_le {chars : List Char} (h : PlainChars chars) :
    utf8Len (chars.flatMap escapeChar) ≤ 2 * utf8Len chars := by
  induction chars with
  | nil => simp
  | cons c chars ih =>
    rw [plainChars_cons_iff] at h
    have hHead := utf8Len_escapeChar_le h.1
    have hTail := ih h.2
    rw [List.flatMap_cons, utf8Len_append, utf8Len_cons]
    omega

/-- A string without control characters at most doubles, with two quotes. -/
theorem utf8Len_renderString_le {s : String} (h : PlainChars s.toList) :
    utf8Len (renderString s) ≤ 2 * byteLen s + 2 := by
  have hChars := utf8Len_flatMap_escapeChar_le h
  have hQuote : ('"' : Char).utf8Size = 1 := by decide
  rw [byteLen_eq_utf8Len, renderString, utf8Len_cons, utf8Len_append, utf8Len_cons, utf8Len_nil]
  omega

/-- What a member takes: its name, its value, a colon and a comma. -/
def memberSize (member : String × Json) : Nat :=
  utf8Len (renderString member.1) + utf8Len (renderChars member.2) + 2

/-- The exact size of an object: the last member has no comma. -/
theorem utf8Len_renderMembers_cons (member : String × Json) (rest : List (String × Json)) :
    utf8Len (renderMembers (member :: rest)) + 1 = ((member :: rest).map memberSize).sum := by
  have hColon : (':' : Char).utf8Size = 1 := by decide
  have hComma : (',' : Char).utf8Size = 1 := by decide
  match member, rest with
  | (name, value), [] =>
    simp only [renderMembers, utf8Len_append, utf8Len_cons, List.map_cons, List.map_nil,
      List.sum_cons, List.sum_nil, memberSize]
    omega
  | (name, value), next :: rest =>
    have hRest := utf8Len_renderMembers_cons next rest
    simp only [renderMembers, utf8Len_append, utf8Len_cons, List.map_cons, List.sum_cons,
      memberSize] at hRest ⊢
    omega

theorem utf8Len_renderChars_object_cons (member : String × Json) (rest : List (String × Json)) :
    utf8Len (renderChars (.object (member :: rest))) =
      ((member :: rest).map memberSize).sum + 1 := by
  have hMembers := utf8Len_renderMembers_cons member rest
  have hOpen : ('{' : Char).utf8Size = 1 := by decide
  have hClose : ('}' : Char).utf8Size = 1 := by decide
  simp only [renderChars, utf8Len_cons, utf8Len_append, utf8Len_nil]
  omega

theorem utf8Len_renderChars_object_le (members : List (String × Json)) :
    utf8Len (renderChars (.object members)) ≤ (members.map memberSize).sum + 2 := by
  cases members with
  | nil => decide
  | cons member rest =>
    rw [utf8Len_renderChars_object_cons]
    omega

/-- Text that is written as it is. -/
def Unescaped (chars : List Char) : Prop := ∀ c ∈ chars, escapeChar c = [c]

theorem unescaped_append {chars more : List Char} (h : Unescaped chars) (h' : Unescaped more) :
    Unescaped (chars ++ more) := by
  intro c hc
  rcases List.mem_append.mp hc with hc | hc
  · exact h c hc
  · exact h' c hc

theorem unescaped_of_all {chars : List Char}
    (h : chars.all (fun c => decide (escapeChar c = [c])) = true) : Unescaped chars :=
  fun c hc => of_decide_eq_true (List.all_eq_true.mp h c hc)

theorem escapeChar_of_isDigit {c : Char} (h : c.isDigit = true) : escapeChar c = [c] := by
  have hDigits : ∀ n : Fin 58, 48 ≤ n.val → escapeChar (Char.ofNat n) = [Char.ofNat n] := by decide
  simp only [Char.isDigit, Bool.and_eq_true, decide_eq_true_eq] at h
  have hLow : 48 ≤ c.toNat := UInt32.le_iff_toNat_le.mp h.1
  have hHigh : c.toNat ≤ 57 := UInt32.le_iff_toNat_le.mp h.2
  have hChar := hDigits ⟨c.toNat, by omega⟩ hLow
  rwa [Char.ofNat_toNat] at hChar

theorem unescaped_toDigits (n : Nat) : Unescaped (Nat.toDigits 10 n) :=
  fun _ hc => escapeChar_of_isDigit (Nat.isDigit_of_mem_toDigits (by decide) (by decide) hc)

theorem flatMap_escapeChar_of_unescaped {chars : List Char} (h : Unescaped chars) :
    chars.flatMap escapeChar = chars := by
  induction chars with
  | nil => rfl
  | cons c chars ih =>
    rw [List.flatMap_cons, h c (List.mem_cons_self ..),
      ih (fun d hd => h d (List.mem_cons_of_mem _ hd))]
    rfl

theorem utf8Len_renderString_of_unescaped {s : String} (h : Unescaped s.toList) :
    utf8Len (renderString s) = byteLen s + 2 := by
  have hQuote : ('"' : Char).utf8Size = 1 := by decide
  rw [byteLen_eq_utf8Len, renderString, utf8Len_cons, utf8Len_append, utf8Len_cons, utf8Len_nil,
    flatMap_escapeChar_of_unescaped h]
  omega

/-- The longest escape takes six bytes. -/
theorem utf8Len_renderString_le_six (s : String) :
    utf8Len (renderString s) ≤ 6 * byteLen s + 2 := by
  have hChar : ∀ c : Char, utf8Len (escapeChar c) ≤ 6 * c.utf8Size := by
    intro c
    have hPos : 0 < c.utf8Size := c.utf8Size_pos
    have hHex : ∀ n : Nat, n < 16 → (hexDigit n).utf8Size = 1 := by
      have hAll : ∀ n : Fin 16, (hexDigit n).utf8Size = 1 := by decide
      exact fun n hn => hAll ⟨n, hn⟩
    unfold escapeChar
    repeat' split
    all_goals simp only [utf8Len_cons, utf8Len_nil]
    all_goals first
      | omega
      | (subst_vars; decide)
      | skip
    rw [hHex _ (by omega), hHex _ (by omega), show ('\\' : Char).utf8Size = 1 by decide,
      show ('u' : Char).utf8Size = 1 by decide, show ('0' : Char).utf8Size = 1 by decide]
    omega
  have hChars : ∀ chars : List Char, utf8Len (chars.flatMap escapeChar) ≤ 6 * utf8Len chars := by
    intro chars
    induction chars with
    | nil => simp
    | cons c chars ih =>
      have hHead := hChar c
      rw [List.flatMap_cons, utf8Len_append, utf8Len_cons]
      omega
  have hText := hChars s.toList
  have hQuote : ('"' : Char).utf8Size = 1 := by decide
  rw [byteLen_eq_utf8Len, renderString, utf8Len_cons, utf8Len_append, utf8Len_cons, utf8Len_nil]
  omega

theorem utf8Len_toDigits_le {n width : Nat} (hWidth : 0 < width) (h : n < 10 ^ width) :
    utf8Len (Nat.toDigits 10 n) ≤ width := by
  have hDigits : ∀ c ∈ Nat.toDigits 10 n, c.utf8Size = 1 := by
    intro c hc
    have hDigit := Nat.isDigit_of_mem_toDigits (by decide) (by decide) hc
    simp only [Char.isDigit, Bool.and_eq_true, decide_eq_true_eq] at hDigit
    have hSmall : c.val ≤ 57 := hDigit.2
    exact Char.utf8Size_eq_one_iff.mpr (UInt32.le_trans hSmall (by decide))
  have hLength : ∀ chars : List Char, (∀ c ∈ chars, c.utf8Size = 1) →
      utf8Len chars = chars.length := by
    intro chars hChars
    induction chars with
    | nil => rfl
    | cons c chars ih =>
      rw [utf8Len_cons, hChars c (by simp), ih (fun d hd => hChars d (by simp [hd]))]
      rfl
  rw [hLength _ hDigits]
  exact Nat.toDigits_length 10 n width hWidth h

-- At most one name of the list is the key, so its value is counted at most once.
theorem sum_replaced_le {names : List String} (hNodup : names.Nodup) (key : String) (cost : Nat)
    (other : String → Nat) :
    (names.map (fun name => if key = name then cost else other name)).sum ≤
      cost + (names.map other).sum := by
  induction names with
  | nil => simp
  | cons name names ih =>
    rw [List.nodup_cons] at hNodup
    rw [List.map_cons, List.sum_cons, List.map_cons, List.sum_cons]
    by_cases hKey : key = name
    · have hRest : names.map (fun name => if key = name then cost else other name) =
          names.map other := by
        refine List.map_congr_left fun found hFound => if_neg ?_
        rintro rfl
        exact hNodup.1 (hKey ▸ hFound)
      rw [if_pos hKey, hRest]
      omega
    · have hRest := ih hNodup.2
      rw [if_neg hKey]
      omega

/-- Looking up distinct names gives no more text than the members hold, apart from
one `null` for each name. -/
theorem sum_get?_le {names : List String} (hNodup : names.Nodup)
    (members : List (String × Json)) :
    (names.map (fun name =>
      utf8Len (renderChars (((Json.object members).get? name).getD .null)))).sum ≤
      4 * names.length + (members.map (fun member => utf8Len (renderChars member.2))).sum := by
  induction members with
  | nil =>
    have hNull : utf8Len (renderChars .null) = 4 := by decide
    simp [get?, hNull, Nat.mul_comm]
  | cons member members ih =>
    have hFound : ∀ name,
        utf8Len (renderChars (((Json.object (member :: members)).get? name).getD .null)) =
          if member.1 = name then utf8Len (renderChars member.2)
          else utf8Len (renderChars (((Json.object members).get? name).getD .null)) := by
      intro name
      by_cases hName : member.1 = name
      · simp [get?, hName]
      · simp [get?, hName]
    have hReplaced := sum_replaced_le hNodup member.1 (utf8Len (renderChars member.2))
      (fun name => utf8Len (renderChars (((Json.object members).get? name).getD .null)))
    simp only [hFound, List.map_cons, List.sum_cons]
    omega

end Json

end OcFleet.Foundation
