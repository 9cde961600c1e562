import FlatArith.Text.Extending
import FlatArith.Text.Unprintable

/-!
# Quoted text

A text is shown between double quotes so that it stays on one line and its end can be seen.  Six
characters have a short escape of a backslash and a letter; a character that cannot be shown, or would
attach to the one before it, is written by its code point; every other character stands for itself.

* `escape` writes one character; `quote` writes a whole text.
* The single quote needs no escape, because only double quotes delimit.
-/

namespace FlatArith.Text

/-- The letter behind the backslash, for the characters that have a short escape. -/
def shortEscape? : Char → Option Char
  | '\x00' => some '0'
  | '\t' => some 't'
  | '\r' => some 'r'
  | '\n' => some 'n'
  | '"' => some '"'
  | '\\' => some '\\'
  | _ => none

/-- A code point in lower-case hexadecimal, without leading zeros, between braces. -/
def bracedHex (c : Char) : List Char :=
  '\x7b' :: (Nat.toDigits 16 c.toNat ++ ['\x7d'])

/-- The written form of one character inside a quoted text. -/
def escape (c : Char) : List Char :=
  match shortEscape? c with
  | some letter => ['\\', letter]
  | none =>
      if isExtending c || isUnprintable c then '\\' :: 'u' :: bracedHex c else [c]

/-- A text between double quotes, each of its characters escaped where it has to be. -/
def quote (text : List Char) : List Char :=
  '"' :: (text.flatMap escape ++ ['"'])

theorem escape_of_shortEscape? {c letter : Char} (h : shortEscape? c = some letter) :
    escape c = ['\\', letter] := by
  simp [escape, h]

end FlatArith.Text
