import Mathlib

/-!
Text lines in a byte file. A writer appends the UTF-8 bytes of a line and a
newline; a reader splits at newlines, drops a carriage return before one, and
decodes each piece. The central notion is a file that consists of complete lines
and an unfinished tail, all without control characters: appends that start at a
line boundary extend the list of lines, and appends that stop early extend the
tail.
-/

namespace OcFleet.Foundation

abbrev Bytes := List UInt8

def newline : UInt8 := 10

def carriageReturn : UInt8 := 13

def utf8Bytes (s : String) : Bytes := s.toList.flatMap String.utf8EncodeChar

def decodeUtf8 (bytes : Bytes) : Option String := String.fromUTF8? bytes.toByteArray

/-- A piece that a newline ended loses a carriage return before it. -/
def stripCarriageReturn (piece : Bytes) : Bytes :=
  if piece.getLast? = some carriageReturn then piece.dropLast else piece

/-- The pieces of the rest of a file, given what the current piece has so far. -/
def piecesFrom : Bytes → Bytes → List Bytes
  | current, [] => if current.isEmpty then [] else [current]
  | current, b :: rest =>
      if b = newline then stripCarriageReturn current :: piecesFrom [] rest
      else piecesFrom (current ++ [b]) rest

/-- The lines of a file; `none` is a piece that is not UTF-8. -/
def fileLines (file : Bytes) : List (Option String) :=
  (piecesFrom [] file).map decodeUtf8

def lineBytes (text : String) : Bytes := utf8Bytes text ++ [newline]

def AtLineStart (file : Bytes) : Prop := file = [] ∨ file.getLast? = some newline

instance (file : Bytes) : Decidable (AtLineStart file) :=
  inferInstanceAs (Decidable (_ ∨ _))

def NoControl (s : String) : Prop := ∀ c ∈ s.toList, 32 ≤ c.toNat

section

theorem utf8Bytes_append (s t : String) : utf8Bytes (s ++ t) = utf8Bytes s ++ utf8Bytes t := by
  simp [utf8Bytes]

theorem toByteArray_utf8Bytes (s : String) : (utf8Bytes s).toByteArray = s.toByteArray :=
  String.utf8Encode_toList

variable {s : String}

theorem decodeUtf8_eq_some_iff {bytes : Bytes} :
    decodeUtf8 bytes = some s ↔ utf8Bytes s = bytes := by
  have hInj : ∀ {l m : Bytes}, l.toByteArray = m.toByteArray → l = m := by
    intro l m h
    have hData := congrArg (fun a => a.data.toList) h
    simpa using hData
  unfold decodeUtf8 String.fromUTF8?
  constructor
  · intro h
    split at h
    · cases h
      exact hInj (toByteArray_utf8Bytes _)
    · cases h
  · rintro rfl
    have hValid : (utf8Bytes s).toByteArray.IsValidUTF8 := by
      rw [toByteArray_utf8Bytes]
      exact s.isValidUTF8
    rw [dif_pos hValid]
    congr 1
    rw [← String.toByteArray_inj]
    exact toByteArray_utf8Bytes s

@[simp] theorem decodeUtf8_utf8Bytes (s : String) : decodeUtf8 (utf8Bytes s) = some s :=
  decodeUtf8_eq_some_iff.mpr rfl

theorem utf8Bytes_injective {t : String} (h : utf8Bytes s = utf8Bytes t) : s = t :=
  Option.some.inj (by rw [← decodeUtf8_utf8Bytes s, h, decodeUtf8_utf8Bytes t])

/-- A byte below 128 is the only byte of the character it stands for. -/
theorem toNat_of_mem_utf8EncodeChar {c : Char} {b : UInt8} (hb : b ∈ String.utf8EncodeChar c)
    (hAscii : b.toNat < 128) : c.toNat = b.toNat := by
  change c.val.toNat = b.toNat
  unfold String.utf8EncodeChar at hb
  dsimp only at hb
  split at hb
  · simp only [List.mem_singleton] at hb
    subst hb
    simp only [UInt8.toNat_ofNat']
    omega
  · split at hb
    · simp only [List.mem_cons, List.not_mem_nil, or_false] at hb
      obtain rfl | rfl := hb <;> simp only [UInt8.toNat_ofNat'] at hAscii <;> omega
    · split at hb
      · simp only [List.mem_cons, List.not_mem_nil, or_false] at hb
        obtain rfl | rfl | rfl := hb <;> simp only [UInt8.toNat_ofNat'] at hAscii <;> omega
      · simp only [List.mem_cons, List.not_mem_nil, or_false] at hb
        obtain rfl | rfl | rfl | rfl := hb <;> simp only [UInt8.toNat_ofNat'] at hAscii <;> omega

theorem mem_of_mem_utf8Bytes {b : UInt8} {c : Char} (hb : b ∈ utf8Bytes s)
    (hc : c.toNat = b.toNat) (hAscii : b.toNat < 128) : c ∈ s.toList := by
  obtain ⟨d, hd, hb⟩ := List.mem_flatMap.mp hb
  rwa [Char.toNat_inj.mp (hc.trans (toNat_of_mem_utf8EncodeChar hb hAscii).symm)]

theorem NoControl.le_of_mem (h : NoControl s) {b : UInt8} (hb : b ∈ utf8Bytes s) :
    32 ≤ b.toNat := by
  obtain ⟨c, hc, hb⟩ := List.mem_flatMap.mp hb
  by_contra hLow
  have hSame := toNat_of_mem_utf8EncodeChar hb (by omega)
  exact hLow (hSame ▸ h c hc)

theorem noControl_of_bytes (h : ∀ b ∈ utf8Bytes s, 32 ≤ b.toNat) : NoControl s := by
  intro c hc
  by_contra hSmall
  have hVal : c.val.toNat < 32 := Nat.lt_of_not_le hSmall
  have hByte : UInt8.ofNat c.val.toNat ∈ utf8Bytes s := by
    refine List.mem_flatMap.mpr ⟨c, hc, ?_⟩
    unfold String.utf8EncodeChar
    rw [if_pos (by omega)]
    exact List.mem_singleton_self _
  have hLe := h _ hByte
  rw [UInt8.toNat_ofNat'] at hLe
  omega

theorem NoControl.newline_not_mem (h : NoControl s) : newline ∉ utf8Bytes s :=
  fun hb => absurd (h.le_of_mem hb) (by decide)

theorem NoControl.append {s t : String} (hs : NoControl s) (ht : NoControl t) :
    NoControl (s ++ t) := by
  intro c hc
  rw [String.toList_append, List.mem_append] at hc
  exact hc.elim (hs c) (ht c)

theorem NoControl.stripCarriageReturn (h : NoControl s) :
    stripCarriageReturn (utf8Bytes s) = utf8Bytes s := by
  unfold Foundation.stripCarriageReturn
  rw [if_neg]
  intro hLast
  exact absurd (h.le_of_mem (List.mem_of_getLast? hLast)) (by decide)

end

section

variable {piece file : Bytes} {lines : List String} {tail : String}

theorem piecesFrom_append (h : newline ∉ piece) (current rest : Bytes) :
    piecesFrom current (piece ++ rest) = piecesFrom (current ++ piece) rest := by
  induction piece generalizing current with
  | nil => simp
  | cons b piece ih =>
    have hb : b ≠ newline := fun hEq => h (hEq ▸ List.mem_cons_self ..)
    have hRest : newline ∉ piece := fun hMem => h (List.mem_cons_of_mem _ hMem)
    rw [List.cons_append, piecesFrom, if_neg hb, ih hRest, List.append_assoc,
      List.singleton_append]

theorem piecesFrom_line (h : newline ∉ piece) (current rest : Bytes) :
    piecesFrom current (piece ++ newline :: rest) =
      stripCarriageReturn (current ++ piece) :: piecesFrom [] rest := by
  rw [piecesFrom_append h, piecesFrom, if_pos rfl]

theorem piecesFrom_tail (h : newline ∉ piece) (current : Bytes) :
    piecesFrom current piece =
      if (current ++ piece).isEmpty then [] else [current ++ piece] := by
  rw [← List.append_nil piece, piecesFrom_append h, piecesFrom, List.append_nil]

/-- The file consists of the given complete lines and an unfinished tail. -/
structure Framed (lines : List String) (tail : String) (file : Bytes) : Prop where
  bytes : file = lines.flatMap lineBytes ++ utf8Bytes tail
  lines_plain : ∀ line ∈ lines, NoControl line
  tail_plain : NoControl tail

theorem framed_nil : Framed [] "" [] where
  bytes := rfl
  lines_plain := by simp
  tail_plain := by simp [NoControl]

/-- What a reader sees of a framed file: its lines, and its tail if there is one. -/
def visibleLines (lines : List String) (tail : String) : List String :=
  lines ++ if tail = "" then [] else [tail]

theorem utf8Bytes_eq_nil_iff {s : String} : utf8Bytes s = [] ↔ s = "" :=
  ⟨fun h => utf8Bytes_injective h, fun h => by rw [h]; rfl⟩

theorem Framed.fileLines (h : Framed lines tail file) :
    fileLines file = (visibleLines lines tail).map some := by
  obtain ⟨rfl, hLines, hTail⟩ := h
  unfold Foundation.fileLines
  induction lines with
  | nil =>
    rw [List.flatMap_nil, List.nil_append, piecesFrom_tail hTail.newline_not_mem]
    by_cases hEmpty : tail = ""
    · subst hEmpty
      rfl
    · have hBytes : utf8Bytes tail ≠ [] := fun hNil => hEmpty (utf8Bytes_eq_nil_iff.mp hNil)
      simp [visibleLines, hEmpty, hBytes]
  | cons line lines ih =>
    have hLine := hLines line (List.mem_cons_self ..)
    have hRest := ih (fun l hl => hLines l (List.mem_cons_of_mem _ hl))
    rw [List.flatMap_cons, lineBytes, List.append_assoc, List.append_assoc,
      List.singleton_append, piecesFrom_line hLine.newline_not_mem, List.nil_append,
      hLine.stripCarriageReturn, List.map_cons, hRest, decodeUtf8_utf8Bytes]
    rfl

/-- A framed file is at a line boundary only when its tail is empty. -/
theorem Framed.tail_eq_empty
    (h : Framed lines tail file) (hStart : AtLineStart file) : tail = "" := by
  by_contra hTail
  have hBytes : utf8Bytes tail ≠ [] := fun hNil => hTail (utf8Bytes_eq_nil_iff.mp hNil)
  obtain hNil | hLast := hStart
  · rw [h.bytes, List.append_eq_nil_iff] at hNil
    exact hBytes hNil.2
  · rw [h.bytes, List.getLast?_append_of_ne_nil _ hBytes] at hLast
    exact h.tail_plain.newline_not_mem (List.mem_of_getLast? hLast)

/-- A complete line closes whatever the tail was. -/
theorem Framed.append_line {text : String} (h : Framed lines tail file) (hText : NoControl text) :
    Framed (lines ++ [tail ++ text]) "" (file ++ lineBytes text) where
  bytes := by
    rw [h.bytes]
    simp [lineBytes, utf8Bytes_append, utf8Bytes_eq_nil_iff.mpr]
  lines_plain := by
    intro line hLine
    rw [List.mem_append, List.mem_singleton] at hLine
    obtain hLine | rfl := hLine
    · exact h.lines_plain line hLine
    · exact h.tail_plain.append hText
  tail_plain := by simp [NoControl]

/-- Part of a line that stops between two characters extends the tail, or is the
whole line. -/
theorem Framed.append_part {text : String}
    (h : Framed lines tail file) (hText : NoControl text) (kept : Nat)
    (hValid : (decodeUtf8 ((lineBytes text).take kept)).isSome = true) :
    ∃ more tail', Framed (lines ++ more) tail' (file ++ (lineBytes text).take kept) := by
  by_cases hAll : (lineBytes text).length ≤ kept
  · rw [List.take_of_length_le hAll]
    exact ⟨_, _, h.append_line hText⟩
  · obtain ⟨part, hPart⟩ := Option.isSome_iff_exists.mp hValid
    rw [decodeUtf8_eq_some_iff] at hPart
    have hWithin : kept ≤ (utf8Bytes text).length := by
      simp only [lineBytes, List.length_append, List.length_singleton] at hAll
      omega
    have hTake : (lineBytes text).take kept = (utf8Bytes text).take kept :=
      List.take_append_of_le_length hWithin
    have hPlain : NoControl part := by
      apply noControl_of_bytes
      intro b hb
      rw [hPart, hTake] at hb
      exact hText.le_of_mem (List.mem_of_mem_take hb)
    refine ⟨[], tail ++ part, ?_, ?_, h.tail_plain.append hPlain⟩
    · rw [h.bytes, ← hPart, utf8Bytes_append]
      simp
    · simpa using h.lines_plain

end

end OcFleet.Foundation
