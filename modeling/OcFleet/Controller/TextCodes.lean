import OcFleet.Foundation.JsonSize
import OcFleet.Controller.LowSensitive

/-!
The checks on stored texts, over the numbers of their characters. A text is accepted when
the numbers pass; comparing numbers is what makes it feasible to evaluate the checks on
the texts that the controller writes itself.
-/

namespace OcFleet.Controller

open Foundation
open String (utf8Len)

def codes (text : List Char) : List Nat := text.map Char.toNat

theorem char_toNat_inj {a b : Char} (h : a.toNat = b.toNat) : a = b :=
  Char.ext (UInt32.toNat_inj.mp h)

def prefixCodes : List Nat → List Nat → Bool
  | [], _ => true
  | _ :: _, [] => false
  | a :: as, b :: bs => Nat.beq a b && prefixCodes as bs

theorem isPrefixOf_codes (marker text : List Char) :
    marker.isPrefixOf text = prefixCodes (codes marker) (codes text) := by
  induction marker generalizing text with
  | nil => cases text <;> rfl
  | cons a marker ih =>
    cases text with
    | nil => rfl
    | cons b text =>
      have hHead : (a == b) = Nat.beq a.toNat b.toNat := by
        rw [Bool.eq_iff_iff, beq_iff_eq, Nat.beq_eq]
        exact ⟨congrArg Char.toNat, char_toNat_inj⟩
      rw [List.isPrefixOf_cons_cons, hHead, ih]
      rfl

def containsCodes : List Nat → List Nat → Bool
  | [], marker => prefixCodes marker []
  | c :: text, marker => prefixCodes marker (c :: text) || containsCodes text marker

theorem containsText_codes (text : List Char) (marker : String) :
    containsText text marker = containsCodes (codes text) (codes marker.toList) := by
  induction text with
  | nil => simp [containsText, containsCodes, codes, isPrefixOf_codes]
  | cons c text ih =>
    rw [containsText] at ih
    rw [containsText, List.tails_cons, List.any_cons, ih, isPrefixOf_codes]
    rfl

def sameCodes : List Nat → List Nat → Bool
  | [], [] => true
  | a :: as, b :: bs => Nat.beq a b && sameCodes as bs
  | _, _ => false

theorem beq_codes (a b : List Char) : (a == b) = sameCodes (codes a) (codes b) := by
  induction a generalizing b with
  | nil => cases b <;> rfl
  | cons x a ih =>
    cases b with
    | nil => rfl
    | cons y b =>
      have hHead : (x == y) = Nat.beq x.toNat y.toNat := by
        rw [Bool.eq_iff_iff, beq_iff_eq, Nat.beq_eq]
        exact ⟨congrArg Char.toNat, char_toNat_inj⟩
      rw [List.cons_beq_cons, hHead, ih]
      rfl

def lowerCode (n : Nat) : Nat :=
  if Nat.ble 65 n && Nat.ble n 90 then n + 32 else n

theorem toNat_toLower (c : Char) : c.toLower.toNat = lowerCode c.toNat := by
  have hUpper : (c.val ≥ 'A'.val ∧ c.val ≤ 'Z'.val) ↔ (65 ≤ c.toNat ∧ c.toNat ≤ 90) := Iff.rfl
  unfold Char.toLower lowerCode
  by_cases h : 65 ≤ c.toNat ∧ c.toNat ≤ 90
  · rw [dif_pos (hUpper.mpr h), if_pos (by simpa using h)]
    have hSum : (c.val + 32).toNat = c.val.toNat + 32 := by
      have hSmall : c.val.toNat ≤ 90 := h.2
      rw [UInt32.toNat_add]
      exact Nat.mod_eq_of_lt (by
        rw [show (32 : UInt32).toNat = 32 from rfl]
        omega)
    exact hSum
  · rw [dif_neg (fun hc => h (hUpper.mp hc)), if_neg (by simpa using h)]

theorem codes_toAsciiLowercase (s : String) :
    codes (toAsciiLowercase s) = (codes s.toList).map lowerCode := by
  simp only [codes, toAsciiLowercase, List.map_map]
  exact List.map_congr_left (fun c _ => toNat_toLower c)

/-- The bytes of a text; those of printable text are the numbers of its characters. -/
def bytes (s : String) : List Nat := s.toByteArray.data.toList.map UInt8.toNat

def printableCode (n : Nat) : Bool := Nat.ble 32 n && Nat.ble n 126

theorem map_utf8EncodeChar {c : Char}
    (h : ((String.utf8EncodeChar c).map UInt8.toNat).all printableCode = true) :
    (String.utf8EncodeChar c).map UInt8.toNat = [c.toNat] := by
  have hSmall : c.toNat ≤ 127 := by
    by_contra hLarge
    have hVal : ¬ c.val.toNat ≤ 127 := hLarge
    simp only [String.utf8EncodeChar, if_neg hVal] at h
    split_ifs at h <;>
      simp only [List.map_cons, List.all_cons, Bool.and_eq_true, printableCode, Nat.ble_eq,
        UInt8.toNat_ofNat'] at h <;> omega
  have hVal : c.val.toNat ≤ 127 := hSmall
  simp only [String.utf8EncodeChar, if_pos hVal, List.map_cons, List.map_nil, UInt8.toNat_ofNat']
  rw [Nat.mod_eq_of_lt (by omega)]
  rfl

theorem bytes_ofList (chars : List Char) :
    bytes (String.ofList chars) =
      chars.flatMap (fun c => (String.utf8EncodeChar c).map UInt8.toNat) := by
  rw [bytes, String.toByteArray_ofList, List.utf8Encode, List.data_toByteArray, List.map_flatMap]

theorem codes_of_bytes {s : String} (h : (bytes s).all printableCode = true) :
    codes s.toList = bytes s := by
  rw [← String.ofList_toList (s := s), bytes_ofList] at h ⊢
  rw [String.toList_ofList]
  generalize s.toList = chars at h
  induction chars with
  | nil => rfl
  | cons c chars ih =>
    rw [List.flatMap_cons, List.all_append, Bool.and_eq_true] at h
    rw [List.flatMap_cons, map_utf8EncodeChar h.1, ← ih h.2]
    rfl

theorem markers_printable : (forbiddenValueMarkers ++ forbiddenKeyNames ++ forbiddenKeyMarkers ++
    forbiddenKeySegments ++ ["token_id", "hmac_key_id", "key_id"]).all
      (fun marker => (bytes marker).all printableCode) = true := by
  decide +kernel

theorem codes_marker {marker : String} (h : marker ∈ forbiddenValueMarkers ++ forbiddenKeyNames ++
    forbiddenKeyMarkers ++ forbiddenKeySegments ++ ["token_id", "hmac_key_id", "key_id"]) :
    codes marker.toList = bytes marker :=
  codes_of_bytes (List.all_eq_true.mp markers_printable marker h)

section

variable {input rest : List Char} {c : Char}

theorem count_readNumber {radix limit : Nat} {maxDigits : Option Nat} {zero : Bool}
    (hc : digitValue radix c = none) (h : readNumber radix maxDigits zero limit input = some rest) :
    rest.count c = input.count c := by
  have hRest : rest = input.dropWhile (fun c => (digitValue radix c).isSome) := by
    unfold readNumber at h
    grind
  have hTaken : (input.takeWhile (fun c => (digitValue radix c).isSome)).count c = 0 := by
    refine List.count_eq_zero.mpr (fun hMem => ?_)
    have hDigit := List.mem_takeWhile_imp hMem
    rw [hc] at hDigit
    cases hDigit
  conv_rhs => rw [← List.takeWhile_append_dropWhile (p := fun c => (digitValue radix c).isSome)
    (l := input), List.count_append, hTaken, Nat.zero_add, ← hRest]

theorem count_readGivenChar
    (h : readGivenChar c input = some rest) : input.count c = rest.count c + 1 := by
  cases input with
  | nil => cases h
  | cons d input =>
    simp only [readGivenChar, Option.ite_none_right_eq_some] at h
    obtain ⟨rfl, hRest⟩ := h
    cases hRest
    exact List.count_cons_self

/-- A dotted address has three dots. -/
theorem three_dots_of_readIpv4Addr (h : readIpv4Addr input = some rest) :
    3 ≤ input.count '.' := by
  have hDot : digitValue 10 '.' = none := by decide
  simp only [readIpv4Addr, List.foldlM_cons, List.foldlM_nil, readSeparator, readIpv4Octet,
    Nat.lt_irrefl, if_false, Nat.zero_lt_succ, if_true, Option.bind_eq_bind,
    Option.bind_eq_some_iff, Option.pure_def] at h
  obtain ⟨a, ha, b, ⟨b', hb', hb⟩, c, ⟨c', hc', hc⟩, d, ⟨d', hd', hd⟩, -⟩ := h
  have h1 := count_readNumber hDot ha
  have h2 := count_readGivenChar hb'
  have h3 := count_readNumber hDot hb
  have h4 := count_readGivenChar hc'
  have h5 := count_readNumber hDot hc
  have h6 := count_readGivenChar hd'
  omega

theorem readGivenChar_none (h : input.count c = 0) :
    readGivenChar c input = none := by
  cases hRead : readGivenChar c input with
  | none => rfl
  | some rest =>
    have hCount := count_readGivenChar hRead
    omega

/-- Without a colon there is no address of the longer form. -/
theorem readIpv6Addr_none (h : input.count ':' = 0) :
    readIpv6Addr input = none := by
  have hColon : digitValue 16 ':' = none := by decide
  have hLater : ∀ fuel {index : Nat} {rest : List Char}, 0 < index → rest.count ':' = 0 →
      readGroups 8 fuel index rest = (index, false, rest) := by
    intro fuel index rest hIndex hRest
    cases fuel with
    | zero => rfl
    | succ fuel => simp [readGroups, readSeparator, hIndex, readGivenChar_none hRest]
  have hFirst : (readGroups 8 8 0 input).2.1 = true ∧ (readGroups 8 8 0 input).1 = 2 ∨
      (readGroups 8 8 0 input).1 < 2 ∧ (readGroups 8 8 0 input).2.2.count ':' = 0 := by
    rw [readGroups]
    simp only [readSeparator, Nat.lt_irrefl, if_false, Nat.zero_lt_succ, if_true]
    split
    · exact .inl ⟨rfl, rfl⟩
    · split
      · rename_i rest hNumber
        have hCount := count_readNumber hColon hNumber
        rw [hLater 7 Nat.one_pos (hCount.trans h)]
        exact .inr ⟨by omega, hCount.trans h⟩
      · exact .inr ⟨by omega, h⟩
  rcases hFirst with ⟨hDotted, hSize⟩ | ⟨hSize, hCount⟩
  · simp [readIpv6Addr, hDotted, hSize]
  · have hNot : ¬ (readGroups 8 8 0 input).1 = 8 := by omega
    simp [readIpv6Addr, hNot, readGivenChar_none hCount]

/-- Too few dots and no colon: not an address, nor one with a port. -/
theorem not_address {part : List Char} (hColon : part.count ':' = 0) (hDots : part.count '.' < 3) :
    parsesIpAddr part = false ∧ parsesSocketAddrV4 part = false := by
  have hIpv4 : readIpv4Addr part = none := by
    cases hRead : readIpv4Addr part with
    | none => rfl
    | some rest =>
      have hThree := three_dots_of_readIpv4Addr hRead
      omega
  simp [parsesIpAddr, parsesSocketAddrV4, hIpv4, readIpv6Addr_none hColon]

theorem isAddressPart_false {part : List Char} (hColon : part.count ':' = 0)
    (hDots : part.count '.' < 3) : isAddressPart part = false := by
  have hTrimmed :
      ((part.reverse.dropWhile (fun c => c == '.' || c == ':')).reverse).Sublist part := by
    have hSub :=
      (List.dropWhile_sublist (fun c => c == '.' || c == ':') (l := part.reverse)).reverse
    rwa [List.reverse_reverse] at hSub
  obtain ⟨hWhole, hWholePort⟩ := not_address hColon hDots
  obtain ⟨hRest, hRestPort⟩ := not_address
    (Nat.eq_zero_of_le_zero (hColon ▸ hTrimmed.count_le ':'))
    (Nat.lt_of_le_of_lt (hTrimmed.count_le '.') hDots)
  simp [isAddressPart, hWhole, hWholePort, hRest, hRestPort]

theorem sublist_of_mem_splitOnP {α : Type} {p : α → Bool} {l part : List α}
    (h : part ∈ l.splitOnP p) : part.Sublist l := by
  induction l generalizing part with
  | nil =>
    rw [List.splitOnP_nil, List.mem_singleton] at h
    rw [h]
  | cons a l ih =>
    rw [List.splitOnP_cons_eq_if_modifyHead] at h
    split at h
    · rcases List.mem_cons.mp h with rfl | hRest
      · exact List.nil_sublist _
      · exact (ih hRest).cons a
    · cases hParts : l.splitOnP p with
      | nil =>
        rw [hParts] at h
        cases h
      | cons first rest =>
        rw [hParts, List.modifyHead_cons] at h
        rcases List.mem_cons.mp h with rfl | hRest
        · exact (ih (hParts ▸ List.mem_cons_self ..)).cons_cons a
        · exact (ih (hParts ▸ List.mem_cons_of_mem _ hRest)).cons a

theorem containsIp_false {value : List Char} (hColon : value.count ':' = 0)
    (hDots : value.count '.' < 3) : containsIp value = false := by
  refine List.any_eq_false.mpr (fun part hPart => ?_)
  have hSub := sublist_of_mem_splitOnP hPart
  rw [isAddressPart_false (Nat.eq_zero_of_le_zero (hColon ▸ hSub.count_le ':'))
    (Nat.lt_of_le_of_lt (hSub.count_le '.') hDots)]
  exact Bool.false_ne_true

end

section

def countCode (n : Nat) : List Nat → Nat
  | [] => 0
  | m :: rest => cond (Nat.beq m n) (countCode n rest + 1) (countCode n rest)

theorem count_codes (c : Char) (text : List Char) :
    text.count c = countCode c.toNat (codes text) := by
  induction text with
  | nil => rfl
  | cons d text ih =>
    have hHead : (d == c) = Nat.beq d.toNat c.toNat := by
      rw [Bool.eq_iff_iff, beq_iff_eq, Nat.beq_eq]
      exact ⟨congrArg Char.toNat, char_toNat_inj⟩
    have hCodes : codes (d :: text) = d.toNat :: codes text := rfl
    rw [List.count_cons, ih, hHead, hCodes, countCode]
    cases Nat.beq d.toNat c.toNat <;> rfl

/-- Printable text of at most `limit` characters with nothing that may not be stored. -/
def textCodes (limit : Nat) (text : String) : Bool :=
  let numbers := bytes text
  Nat.ble numbers.length limit && numbers.all printableCode &&
    forbiddenValueMarkers.all (fun marker =>
      !containsCodes (numbers.map lowerCode) (bytes marker)) &&
    (Nat.beq (countCode 58 numbers) 0 && Nat.ble (countCode 46 numbers) 2 ||
      !containsIp (toAsciiLowercase text))

variable {text : String} {limit : Nat}

theorem safe_of_printable (h : (bytes text).all printableCode = true) :
    anyChar unsafeStoredChar text = false := by
  rw [← codes_of_bytes h] at h
  refine List.any_eq_false.mpr (fun c hc => ?_)
  have hCode := List.all_eq_true.mp h c.toNat (List.mem_map_of_mem hc)
  simp only [printableCode, Bool.and_eq_true, Nat.ble_eq] at hCode
  simp only [unsafeStoredChar, Bool.or_eq_true, decide_eq_true_eq, beq_iff_eq]
  omega

theorem utf8Len_of_printable {chars : List Char} (h : (codes chars).all printableCode = true) :
    utf8Len chars = (codes chars).length := by
  induction chars with
  | nil => rfl
  | cons c chars ih =>
    simp only [codes, List.map_cons, List.all_cons, Bool.and_eq_true, printableCode,
      Nat.ble_eq] at h
    have hSize : c.utf8Size = 1 := Char.utf8Size_eq_one_iff.mpr (by
      rw [UInt32.le_iff_toNat_le]
      exact Nat.le_trans h.1.2 (by decide))
    rw [String.utf8Len_cons, ih (by simpa [codes, printableCode] using h.2), hSize]
    rfl

theorem byteLen_of_textCodes (h : textCodes limit text = true) : byteLen text ≤ limit := by
  simp only [textCodes, Bool.and_eq_true, Nat.ble_eq] at h
  have hCodes := codes_of_bytes h.1.1.2
  have hPrintable := h.1.1.2
  rw [← hCodes] at hPrintable
  rw [Json.byteLen_eq_utf8Len, utf8Len_of_printable hPrintable, hCodes]
  exact h.1.1.1

theorem toLower_eq_iff {c d : Char} (hd : ¬ (97 ≤ d.toNat ∧ d.toNat ≤ 122))
    (hd' : ¬ (65 ≤ d.toNat ∧ d.toNat ≤ 90)) : c.toLower = d ↔ c = d := by
  have hNat : ∀ e : Char, e = d ↔ e.toNat = d.toNat := fun e =>
    ⟨congrArg Char.toNat, char_toNat_inj⟩
  rw [hNat, hNat, toNat_toLower, lowerCode]
  split
  · rename_i hUpper
    simp only [Bool.and_eq_true, Nat.ble_eq] at hUpper
    omega
  · rfl

theorem count_toAsciiLowercase {d : Char} (hd : ¬ (97 ≤ d.toNat ∧ d.toNat ≤ 122))
    (hd' : ¬ (65 ≤ d.toNat ∧ d.toNat ≤ 90)) :
    (toAsciiLowercase text).count d = text.toList.count d := by
  rw [toAsciiLowercase, List.count, List.countP_map]
  refine List.countP_congr (fun c _ => ?_)
  simp [toLower_eq_iff hd hd']

theorem unsafeStoredString_of_textCodes (h : textCodes limit text = true) (hLimit : limit ≤ 512) :
    unsafeStoredString text none = false := by
  have hBytes := byteLen_of_textCodes h
  simp only [textCodes, Bool.and_eq_true, Bool.or_eq_true] at h
  obtain ⟨⟨⟨-, hPrintable⟩, hMarkers⟩, hAddress⟩ := h
  have hNoMarker : forbiddenValueMarkers.any (containsText (toAsciiLowercase text)) = false := by
    refine List.any_eq_false.mpr (fun marker hMarker => ?_)
    have hNot := List.all_eq_true.mp hMarkers marker hMarker
    rw [containsText_codes, codes_toAsciiLowercase, codes_of_bytes hPrintable,
      codes_marker (by simp only [List.mem_append, hMarker, true_or])]
    simpa using hNot
  have hNoAddress : containsIp (toAsciiLowercase text) = false := by
    rcases hAddress with ⟨hColon, hDots⟩ | hNone
    · rw [Nat.beq_eq] at hColon
      rw [Nat.ble_eq] at hDots
      refine containsIp_false ?_ ?_
      · rw [count_toAsciiLowercase (by decide) (by decide), count_codes,
          codes_of_bytes hPrintable]
        exact hColon
      · rw [count_toAsciiLowercase (by decide) (by decide), count_codes,
          codes_of_bytes hPrintable]
        exact Nat.lt_succ_of_le hDots
    · simpa using hNone
  simp only [unsafeStoredString, forbiddenStoredValue, hNoMarker, hNoAddress,
    safe_of_printable hPrintable, Bool.false_and, Bool.or_false, Bool.false_eq_true, if_false,
    decide_eq_false_iff_not]
  omega

end

def alphanumericCode (n : Nat) : Bool :=
  Nat.ble 48 n && Nat.ble n 57 || Nat.ble 97 n && Nat.ble n 122 || Nat.ble 65 n && Nat.ble n 90

theorem asciiAlphanumeric_code (c : Char) : asciiAlphanumeric c = alphanumericCode c.toNat := by
  rw [Bool.eq_iff_iff]
  simp only [asciiAlphanumeric, alphanumericCode, Char.isDigit, Bool.or_eq_true, Bool.and_eq_true,
    decide_eq_true_eq, Nat.ble_eq]
  exact Iff.rfl

theorem codes_filter_alphanumeric (key : List Char) :
    codes (key.filter asciiAlphanumeric) = (codes key).filter alphanumericCode := by
  rw [codes, codes, List.filter_map]
  congr 1
  exact List.filter_congr (fun c _ => asciiAlphanumeric_code c)

theorem splitOnP_codes {p : Char → Bool} {q : Nat → Bool} (hpq : ∀ c : Char, p c = q c.toNat)
    (text : List Char) : (codes text).splitOnP q = (text.splitOnP p).map codes := by
  induction text with
  | nil => rfl
  | cons c text ih =>
    rw [List.splitOnP_cons_eq_if_modifyHead]
    rw [codes, List.map_cons, List.splitOnP_cons_eq_if_modifyHead, ← codes, ih, hpq]
    split
    · rfl
    · cases text.splitOnP p <;> rfl

/-- Whether a name may not be stored. -/
def keyCodes (key : String) : Bool :=
  let numbers := (bytes key).map lowerCode
  if ["token_id", "hmac_key_id", "key_id"].any (fun name => sameCodes numbers (bytes name))
    then false
  else if forbiddenKeyNames.any (fun name => sameCodes numbers (bytes name)) then true
  else if forbiddenKeyMarkers.any (fun marker =>
    containsCodes (numbers.filter alphanumericCode) (bytes marker)) then true
  else (numbers.splitOnP (fun n => Nat.beq n 95 || Nat.beq n 45)).any
    (fun segment => forbiddenKeySegments.any (fun name => sameCodes segment (bytes name)))

theorem forbiddenStoredKey_codes {key : String} (h : (bytes key).all printableCode = true) :
    forbiddenStoredKey key = keyCodes key := by
  have hSegments := splitOnP_codes (p := fun c => c == '_' || c == '-')
    (q := fun n => Nat.beq n 95 || Nat.beq n 45) (fun c => by
    have hSame : ∀ d : Char, c = d ↔ c.toNat = d.toNat := fun d =>
      ⟨congrArg Char.toNat, char_toNat_inj⟩
    rw [Bool.eq_iff_iff]
    simp only [Bool.or_eq_true, beq_iff_eq, Nat.beq_eq]
    exact or_congr (hSame '_') (hSame '-')) (toAsciiLowercase key)
  have hKey : codes (toAsciiLowercase key) = (bytes key).map lowerCode := by
    rw [codes_toAsciiLowercase, codes_of_bytes h]
  have hAny : ∀ {names : List String} {p q : String → Bool}, (∀ name ∈ names, p name = q name) →
      names.any p = names.any q := by
    intro names p q hpq
    rw [Bool.eq_iff_iff, List.any_eq_true, List.any_eq_true]
    exact exists_congr (fun name => and_congr_right (fun hName => by rw [hpq name hName]))
  have hAllowed : ∀ text, ["token_id", "hmac_key_id", "key_id"].any (fun name =>
      sameCodes text (codes name.toList)) = ["token_id", "hmac_key_id", "key_id"].any (fun name =>
        sameCodes text (bytes name)) := fun text => hAny (fun name hName => by
    rw [codes_marker (by simp only [List.mem_append, hName, or_true])])
  have hNames : ∀ text, forbiddenKeyNames.any (fun name => sameCodes text (codes name.toList)) =
      forbiddenKeyNames.any (fun name => sameCodes text (bytes name)) := fun text =>
    hAny (fun name hName => by
      rw [codes_marker (by simp only [List.mem_append, hName, true_or, or_true])])
  have hNested : ∀ text, forbiddenKeySegments.any (fun name => sameCodes text (codes name.toList)) =
      forbiddenKeySegments.any (fun name => sameCodes text (bytes name)) := fun text =>
    hAny (fun name hName => by
      rw [codes_marker (by simp only [List.mem_append, hName, true_or, or_true])])
  have hMarkers : forbiddenKeyMarkers.any
      (containsText ((toAsciiLowercase key).filter asciiAlphanumeric)) =
      forbiddenKeyMarkers.any (fun marker => containsCodes
        (((bytes key).map lowerCode).filter alphanumericCode) (bytes marker)) :=
    hAny (fun name hName => by
      rw [containsText_codes, codes_filter_alphanumeric, hKey,
        codes_marker (by simp only [List.mem_append, hName, true_or, or_true])])
  rw [hKey] at hSegments
  simp only [forbiddenStoredKey, keyCodes, beq_codes, hKey, hSegments, List.any_map, hAllowed,
    hNames, hNested, hMarkers]
  rfl

/-- A name of at most `limit` characters that may be stored. -/
def plainKeyCodes (limit : Nat) (key : String) : Bool :=
  Nat.ble (bytes key).length limit && (bytes key).all printableCode && !keyCodes key

theorem plainKey_of_codes {limit : Nat} {key : String} (h : plainKeyCodes limit key = true) :
    byteLen key ≤ limit ∧ forbiddenStoredKey key = false ∧
      anyChar unsafeStoredChar key = false := by
  simp only [plainKeyCodes, Bool.and_eq_true, Nat.ble_eq] at h
  obtain ⟨⟨hLength, hPrintable⟩, hKey⟩ := h
  have hCodes := codes_of_bytes hPrintable
  refine ⟨?_, ?_, safe_of_printable hPrintable⟩
  · rw [Json.byteLen_eq_utf8Len, utf8Len_of_printable (hCodes ▸ hPrintable), hCodes]
    exact hLength
  · rw [forbiddenStoredKey_codes hPrintable]
    simpa using hKey

end OcFleet.Controller
