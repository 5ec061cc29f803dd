import StyleInline.Program.Html.CharRef.Names
import StyleInline.Text.Basic

/-!
# Character references

A reference stands for characters that are hard to write: by a number in decimal or
hexadecimal notation, or by a name.  It should end in a semicolon.  Numbers and some old
names may lack it; inside an attribute value such a name must not run into a letter, a
digit or an equals sign.

## Main definitions

* `CharRef` — a reference that has been read.
* `CharRef.read?` — the reference at the start of a text, without its ampersand.
* `CharRef.decodeValue` — an attribute value with its references resolved.
-/

namespace StyleInline.Html

/-- A reference that has been read: what it stands for, whether it ended in a semicolon,
and the text behind it. -/
structure CharRef where
  chars : Text
  isClosed : Bool
  behind : Text
deriving Repr, DecidableEq

namespace CharRef

/-! ## Names -/

/-- The character that an open name stands for. -/
def openChar? (name : Text) : Option Char :=
  (openNames.lookup (String.ofList name)).map Char.ofNat

/-- The characters that a name with a semicolon stands for. -/
def closedChars? (name : Text) : Option Text :=
  let key := String.ofList name
  match openChar? name with
  | some c => some [c]
  | none =>
    match closedNames.findSome? (List.lookup key) with
    | some code => some [Char.ofNat code]
    | none => (pairNames.lookup key).map fun (code, next) => [Char.ofNat code, Char.ofNat next]

/-- The longest start of a run of letters and digits, at most `length` long, that is an
open name: its character and its length. -/
def longestOpen? (run : Text) : (length : Nat) → Option (Char × Nat)
  | 0 => none
  | length + 1 =>
    match openChar? (run.take (length + 1)) with
    | some c => some (c, length + 1)
    | none => longestOpen? run length

/-- Reads a name.  With its semicolon any name counts; without one, the longest open
name that the text begins with. -/
def readName? (inValue : Bool) (text : Text) : Option CharRef :=
  let run := text.takeWhile Char.isAlphanum
  let rest := text.drop run.length
  match (if rest.head? = some ';' then closedChars? run else none) with
  | some chars => some ⟨chars, true, rest.tail⟩
  | none =>
    match longestOpen? run run.length with
    | none => none
    | some (c, length) =>
      let rest := text.drop length
      if inValue && rest.head?.any (fun c => c.isAlphanum || c == '=') then none
      else some ⟨[c], false, rest⟩

/-! ## Numbers -/

/-- The characters that the numbers from 128 to 159 were long used for. -/
def controlTable : List (Nat × Nat) := [
  (0x80, 0x20AC), (0x82, 0x201A), (0x83, 0x0192), (0x84, 0x201E), (0x85, 0x2026), (0x86, 0x2020),
  (0x87, 0x2021), (0x88, 0x02C6), (0x89, 0x2030), (0x8A, 0x0160), (0x8B, 0x2039), (0x8C, 0x0152),
  (0x8E, 0x017D), (0x91, 0x2018), (0x92, 0x2019), (0x93, 0x201C), (0x94, 0x201D), (0x95, 0x2022),
  (0x96, 0x2013), (0x97, 0x2014), (0x98, 0x02DC), (0x99, 0x2122), (0x9A, 0x0161), (0x9B, 0x203A),
  (0x9C, 0x0153), (0x9E, 0x017E), (0x9F, 0x0178)]

/-- The character of a number; numbers that are none stand for the replacement
character. -/
def ofNumber (n : Nat) : Char :=
  if n = 0 || 0x10FFFF < n || (0xD800 ≤ n && n ≤ 0xDFFF) then '\ufffd'
  else Char.ofNat ((controlTable.lookup n).getD n)

/-- The value of a digit. -/
def digitValue (c : Char) : Nat :=
  if c.isDigit then c.toNat - '0'.toNat else c.toLower.toNat - 'a'.toNat + 10

/-- Whether a character is a hexadecimal digit. -/
def isHexDigit (c : Char) : Bool :=
  c.isDigit || (0x61 ≤ c.toLower.toNat && c.toLower.toNat ≤ 0x66)

/-- Reads digits in a base, and the semicolon behind them if there is one. -/
def readDigits? (base : Nat) (isDigit : Char → Bool) (text : Text) : Option CharRef :=
  match text.takeWhile isDigit with
  | [] => none
  | digits =>
    let rest := text.drop digits.length
    let chars := [ofNumber (digits.foldl (fun n c => n * base + digitValue c) 0)]
    some (if rest.head? = some ';' then ⟨chars, true, rest.tail⟩ else ⟨chars, false, rest⟩)

/-! ## References -/

/-- Reads a reference whose ampersand has been read. -/
def read? (inValue : Bool) : Text → Option CharRef
  | '#' :: 'x' :: text => readDigits? 16 isHexDigit text
  | '#' :: 'X' :: text => readDigits? 16 isHexDigit text
  | '#' :: text => readDigits? 10 Char.isDigit text
  | text => readName? inValue text

/-- Resolves the references of an attribute value, at most `fuel` steps long. -/
def decodeValueFrom : (fuel : Nat) → Text → Text
  | 0, text => text
  | _, [] => []
  | fuel + 1, c :: rest =>
    if c = '&' then
      match read? true rest with
      | some found => found.chars ++ decodeValueFrom fuel found.behind
      | none => c :: decodeValueFrom fuel rest
    else c :: decodeValueFrom fuel rest

/-- The attribute value that a text stands for. -/
def decodeValue (text : Text) : Text := decodeValueFrom text.length text

end CharRef

end StyleInline.Html
