import SqlCompose.Text.CaseTable

/-!
# Lower case

Every character is replaced by its lower-case form. Two characters stand out: `İ` becomes an `i`
with a dot above it, and a capital sigma becomes a final sigma where a word ends, that is after a
cased letter and with no cased letter behind it, looking past the characters that case ignores.
-/

namespace SqlCompose.Text

/-- Letters that have, or are, a letter of the other case. -/
def isCased (c : Char) : Bool :=
  inRanges casedRanges c.toNat

/-- Characters that case ignores, such as an apostrophe or an accent. -/
def isCaseIgnorable (c : Char) : Bool :=
  inRanges caseIgnorableRanges c.toNat

/-- The distance from a code point to its lower-case letter. -/
def lowerShift (n : Nat) : Int :=
  match lowerRuns.find? fun r => r.first ≤ n && n ≤ r.last && (n - r.first) % r.step == 0 with
  | some r => r.shift
  | none => 0

/-- The lower-case form of one character, whatever stands around it. -/
def lowerChar (c : Char) : List Char :=
  if c.toNat < 128 then [c.toLower]
  else if c == 'İ' then ['i', '\u0307']
  else [Char.ofNat (c.toNat + lowerShift c.toNat).toNat]

/-- Whether the first character that case does not ignore is cased. -/
def beginsCased (cs : List Char) : Bool :=
  match cs.dropWhile isCaseIgnorable with
  | [] => false
  | c :: _ => isCased c

/-- Lower case of a text that follows `before`, which is given in reverse. -/
def lowerFrom (before : List Char) : List Char → List Char
  | [] => []
  | c :: cs =>
    let lower :=
      if c == 'Σ' then
        if beginsCased before && !beginsCased cs then ['ς'] else ['σ']
      else lowerChar c
    lower ++ lowerFrom (c :: before) cs

/-- The text in lower case. -/
def lowerCase (s : String) : String :=
  String.ofList (lowerFrom [] s.toList)

end SqlCompose.Text
