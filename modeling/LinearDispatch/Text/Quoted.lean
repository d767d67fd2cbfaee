-- SUMMARY: Text between quotes: the choice of the quote and the escapes inside it.
import LinearDispatch.Text.Ranges
import LinearDispatch.Text.PrintableTable

/-!
# Quoted text

A text is written between single quotes, or between double quotes when it holds
a single quote and no double quote. Inside, the quote used and the backslash
are escaped, and so is every character without a visible form: by a letter
for the three common line controls, else by two, four or eight hexadecimal
digits, as few as the code point allows.
-/
namespace LinearDispatch.Text

/-- Whether a character is written as itself. -/
def isPrintable (c : Char) : Bool :=
  !inRanges unprintableRanges c

/-- The last `width` hexadecimal digits of a number, in lower case. -/
def hexDigits : (width : Nat) → Nat → List Char
  | 0,         _ => []
  | width + 1, n => hexDigits width (n / 16) ++ [Nat.digitChar (n % 16)]

/-- The escape of a character by its code point. -/
def escapeCode (c : Char) : List Char :=
  let n := c.toNat
  if n < 0x100 then '\\' :: 'x' :: hexDigits 2 n
  else if n < 0x10000 then '\\' :: 'u' :: hexDigits 4 n
  else '\\' :: 'U' :: hexDigits 8 n

/-- A character as it stands between two marks `q`. -/
def quoteChar (q c : Char) : List Char :=
  if c = q || c = '\\' then ['\\', c]
  else if c = '\n' then ['\\', 'n']
  else if c = '\r' then ['\\', 'r']
  else if c = '\t' then ['\\', 't']
  else if isPrintable c then [c]
  else escapeCode c

/-- The mark put around a text. -/
def quoteMark (cs : List Char) : Char :=
  if cs.contains '\'' && !cs.contains '"' then '"' else '\''

/-- The text between quotes. -/
def quote (s : String) : String :=
  let q := quoteMark s.toList
  String.ofList (q :: s.toList.flatMap (quoteChar q) ++ [q])

/-- Several texts, each between quotes, in brackets. -/
def quoteList (names : List String) : String :=
  "[" ++ ", ".intercalate (names.map quote) ++ "]"

end LinearDispatch.Text
