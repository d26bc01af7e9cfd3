import Mathlib

/-!
Text as the Rust standard library treats it: lengths are UTF-8 byte counts, the
byte predicates are ASCII ones, and `trim` removes Unicode white space. A test
over all bytes with an ASCII predicate is a test over all characters, because
every byte of a longer encoding is at least 128.
-/

namespace OcFleet.Foundation

def byteLen (s : String) : Nat := s.utf8ByteSize

def asciiWhitespace (c : Char) : Bool :=
  c == ' ' || c == '\t' || c == '\n' || c == '\x0c' || c == '\r'

def asciiHexDigit (c : Char) : Bool :=
  c.isDigit || ('a' ≤ c && c ≤ 'f') || ('A' ≤ c && c ≤ 'F')

/-- The characters with the Unicode `White_Space` property. -/
def unicodeWhitespace (c : Char) : Bool :=
  (0x9 ≤ c.toNat && c.toNat ≤ 0xd) || c.toNat == 0x20 || c.toNat == 0x85 ||
    c.toNat == 0xa0 || c.toNat == 0x1680 || (0x2000 ≤ c.toNat && c.toNat ≤ 0x200a) ||
    c.toNat == 0x2028 || c.toNat == 0x2029 || c.toNat == 0x202f || c.toNat == 0x205f ||
    c.toNat == 0x3000

def trimText (s : String) : String :=
  String.ofList
    (((s.toList.dropWhile unicodeWhitespace).reverse.dropWhile unicodeWhitespace).reverse)

def textStartsWith (s start : String) : Bool :=
  start.toList.isPrefixOf s.toList

def textEndsWith (s ending : String) : Bool :=
  ending.toList.isSuffixOf s.toList

def allChars (p : Char → Bool) (s : String) : Bool :=
  s.toList.all p

def anyChar (p : Char → Bool) (s : String) : Bool :=
  s.toList.any p

/-- Text with a character that is not white space does not trim to nothing. -/
theorem trimText_isEmpty_of_mem {s : String} {c : Char} (hMem : c ∈ s.toList)
    (hc : unicodeWhitespace c = false) : (trimText s).isEmpty = false := by
  have hKeep : ∀ l : List Char, c ∈ l → c ∈ l.dropWhile unicodeWhitespace := by
    intro l hl
    induction l with
    | nil => exact hl
    | cons d l ih =>
      rw [List.dropWhile_cons]
      split
      · rename_i hd
        obtain rfl | hl := List.mem_cons.mp hl
        · rw [hc] at hd
          cases hd
        · exact ih hl
      · exact hl
  have hTrim : c ∈ (trimText s).toList := by
    rw [trimText, String.toList_ofList, List.mem_reverse]
    exact hKeep _ (List.mem_reverse.mpr (hKeep _ hMem))
  cases hEmpty : (trimText s).isEmpty with
  | false => rfl
  | true =>
    rw [String.isEmpty_iff] at hEmpty
    rw [hEmpty] at hTrim
    cases hTrim

end OcFleet.Foundation
