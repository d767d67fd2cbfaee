-- SUMMARY: Full Unicode lower case with the rule of the final sigma, and capitalising a word.
import LinearDispatch.Text.CaseTable

/-!
# Letter case

Lower case takes each character by itself, with two exceptions. The dotted
capital I becomes an `i` and a combining dot. A capital sigma becomes a final
sigma when a cased letter stands before it and none stands after it; the
case-ignorable characters between do not count.
-/
namespace LinearDispatch.Text

/-- Whether a character is looked through when a sigma asks for its neighbours. -/
def isCaseIgnorable (c : Char) : Bool :=
  inRanges ignorableRanges c

/-- Whether a character has a case and is not looked through. -/
def isCased (c : Char) : Bool :=
  inRanges casedRanges c

/-- The lower-case form of a character that is not a capital sigma. -/
def lowerChar (c : Char) : List Char :=
  if c = 'İ' then ['i', '\u0307'] else [shiftChar lowerShifts c]

/-- Whether the next character that is not looked through is cased. -/
def startsCased (cs : List Char) : Bool :=
  match cs.dropWhile isCaseIgnorable with
  | []     => false
  | c :: _ => isCased c

/-- What a sigma after `c` sees, given what a sigma in front of `c` would see. -/
def casedAfter (cased : Bool) (c : Char) : Bool :=
  if isCaseIgnorable c then cased else isCased c

/-- Lower case of the rest of a text; `cased` says whether a cased letter stands in front. -/
def lowerAfter (cased : Bool) : List Char → List Char
  | [] => []
  | c :: rest =>
    (if c = 'Σ' then (if cased && !startsCased rest then ['ς'] else ['σ']) else lowerChar c)
      ++ lowerAfter (casedAfter cased c) rest

/-- The text in lower case. -/
def lower (s : String) : String :=
  String.ofList (lowerAfter false s.toList)

/-- The title-case form of a character. -/
def titleChar (c : Char) : List Char :=
  match titleExpansions.lookup c.toNat with
  | some codes => codes.map Char.ofNat
  | none       => [shiftChar titleShifts c]

/-- The text with its first character in title case and all others in lower case. -/
def capitalize (s : String) : String :=
  match s.toList with
  | []        => ""
  | c :: rest => String.ofList (titleChar c ++ lowerAfter (casedAfter false c) rest)

end LinearDispatch.Text
