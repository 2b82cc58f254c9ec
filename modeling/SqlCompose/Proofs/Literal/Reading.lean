import SqlCompose.Literal
import SqlCompose.Text.Word

/-!
# Reading literals

What a database reads where a literal stands in a statement. A string ends at the first quote that
is not written twice; MySQL also gives a meaning to the character behind a backslash
(`Dialect.content?`). Bytes are a string of hexadecimal digits behind an `X`, and in PostgreSQL a
string that is cast. Strings that follow one another are not put together.

Reading the literal of a value gives back what is in the value, and nothing is read beyond the
literal (`Dialect.readText?_stringLiteral`, `Dialect.readBytes?_blobLiteral`). So no value can end
its literal early or carry on behind it.
-/

namespace SqlCompose

namespace Text

/-! ## Hexadecimal digits -/

/-- The number that a hexadecimal digit stands for. -/
def hexValue? (c : Char) : Option Nat :=
  if '0' ≤ c ∧ c ≤ '9' then some (c.toNat - '0'.toNat)
  else if 'a' ≤ c ∧ c ≤ 'f' then some (c.toNat - 'a'.toNat + 10)
  else if 'A' ≤ c ∧ c ≤ 'F' then some (c.toNat - 'A'.toNat + 10)
  else none

/-- The bytes that pairs of hexadecimal digits stand for. -/
def bytesOfHex? : List Char → Option (List UInt8)
  | [] => some []
  | [_] => none
  | high :: low :: cs => do
    let h ← hexValue? high
    let l ← hexValue? low
    let bytes ← bytesOfHex? cs
    some (UInt8.ofNat (16 * h + l) :: bytes)

/-- A text without the separator in front of one is what stands before the first. -/
theorem splitFirst?_append {sep : Char} {cs : List Char} (h : sep ∉ cs) (rest : List Char) :
    splitFirst? sep (cs ++ sep :: rest) = some (cs, rest) := by
  induction cs with
  | nil => rw [List.nil_append, splitFirst?, if_pos rfl]
  | cons c cs ih =>
    rw [List.mem_cons, not_or] at h
    rw [List.cons_append, splitFirst?, if_neg (Ne.symm h.1), ih h.2]
    rfl

/-- Both halves of a byte are digits to the base sixteen. -/
theorem halves_lt (b : UInt8) : b.toNat / 16 < 16 ∧ b.toNat % 16 < 16 := by
  have := b.toNat_lt
  omega

/-- A digit to the base sixteen is read back. -/
theorem hexValue?_hexDigit {ten : Char} (hten : ten = 'a' ∨ ten = 'A') {n : Nat} (hn : n < 16) :
    hexValue? (hexDigit ten n) = some n := by
  rcases hten with rfl | rfl
  · exact (by decide : ∀ n < 16, hexValue? (hexDigit 'a' n) = some n) n hn
  · exact (by decide : ∀ n < 16, hexValue? (hexDigit 'A' n) = some n) n hn

/-- A digit is no quote. -/
theorem hexDigit_ne_quote {ten : Char} (hten : ten = 'a' ∨ ten = 'A') {n : Nat} (hn : n < 16) :
    hexDigit ten n ≠ '\'' := by
  intro h
  have hvalue := hexValue?_hexDigit hten hn
  rw [h] at hvalue
  cases hvalue

/-- The digits of bytes stand for these bytes. -/
theorem bytesOfHex?_hexOf {ten : Char} (hten : ten = 'a' ∨ ten = 'A') (bytes : List UInt8) :
    bytesOfHex? (hexOf ten bytes) = some bytes := by
  induction bytes with
  | nil => rfl
  | cons b bytes ih =>
    obtain ⟨hhigh, hlow⟩ := halves_lt b
    have hb : UInt8.ofNat (16 * (b.toNat / 16) + b.toNat % 16) = b := by
      rw [Nat.div_add_mod, UInt8.ofNat_toNat]
    rw [hexOf] at ih
    rw [hexOf, List.flatMap_cons, List.cons_append, List.cons_append, List.nil_append, bytesOfHex?,
      hexValue?_hexDigit hten hhigh, hexValue?_hexDigit hten hlow, ih]
    simp only [Option.bind_eq_bind, Option.bind_some, hb]

/-- No quote is among the digits of bytes. -/
theorem quote_notMem_hexOf {ten : Char} (hten : ten = 'a' ∨ ten = 'A') (bytes : List UInt8) :
    '\'' ∉ hexOf ten bytes := by
  intro h
  obtain ⟨b, -, hb⟩ := List.mem_flatMap.1 h
  obtain ⟨hhigh, hlow⟩ := halves_lt b
  rw [List.mem_cons, List.mem_singleton] at hb
  rcases hb with hb | hb
  · exact hexDigit_ne_quote hten hhigh hb.symm
  · exact hexDigit_ne_quote hten hlow hb.symm

end Text

namespace Dialect

/-! ## Strings -/

/-- Whether a backslash in a string takes or gives a meaning to the character behind it. -/
def hasBackslash : Dialect → Bool
  | .mySql => true
  | _ => false

/-- What a backslash and the character behind it stand for. In front of the wildcards of patterns
the backslash stays. -/
def backslashed : Char → List Char
  | '0' => ['\x00']
  | 'b' => ['\x08']
  | 'n' => ['\n']
  | 'r' => ['\r']
  | 't' => ['\t']
  | 'Z' => ['\x1a']
  | '%' => ['\\', '%']
  | '_' => ['\\', '_']
  | c => [c]

/-- The content of a string behind its first quote, and what follows its last one. -/
def content? (d : Dialect) : List Char → Option (List Char × List Char)
  | [] => none
  | '\'' :: '\'' :: cs => (d.content? cs).map fun (content, rest) => ('\'' :: content, rest)
  | '\'' :: cs => some ([], cs)
  | '\\' :: c :: cs =>
    if d.hasBackslash then
      (d.content? cs).map fun (content, rest) => (backslashed c ++ content, rest)
    else (d.content? (c :: cs)).map fun (content, rest) => ('\\' :: content, rest)
  | c :: cs => (d.content? cs).map fun (content, rest) => (c :: content, rest)

/-- A character as it stands inside a literal. -/
def escapedChar (d : Dialect) (c : Char) : List Char :=
  if c = '\'' ∨ c = '\\' ∧ d.hasBackslash then [c, c] else [c]

/-- Characters are escaped one by one, although quotes and backslashes are doubled in two passes. -/
theorem escapeChars_eq_flatMap (d : Dialect) (cs : List Char) :
    d.escapeChars cs = cs.flatMap d.escapedChar := by
  cases d with
  | mySql =>
    rw [escapeChars, Text.doubled, Text.replaceChar, Text.doubled, Text.replaceChar,
      List.flatMap_assoc]
    congr 1
    funext c
    by_cases hquote : c = '\''
    · subst hquote
      rfl
    · by_cases hbackslash : c = '\\'
      · subst hbackslash
        rfl
      · simp [escapedChar, hquote, hbackslash]
  | postgreSql | sqlite =>
    change cs.flatMap _ = _
    congr 1
    funext c
    by_cases hquote : c = '\''
    · subst hquote
      rfl
    · simp [escapedChar, hquote, hasBackslash]

/-- Without a quote and a meaning of backslashes nothing is escaped. -/
theorem escapeChars_eq_self {d : Dialect} (hd : d.hasBackslash = false) {cs : List Char}
    (hcs : '\'' ∉ cs) : d.escapeChars cs = cs := by
  rw [escapeChars_eq_flatMap]
  induction cs with
  | nil => rfl
  | cons c cs ih =>
    rw [List.mem_cons, not_or] at hcs
    have hc : d.escapedChar c = [c] := by
      rw [escapedChar, if_neg]
      rintro (rfl | ⟨-, hbackslash⟩)
      · exact hcs.1 rfl
      · rw [hd] at hbackslash
        cases hbackslash
    rw [List.flatMap_cons, hc, ih hcs.2, List.singleton_append]

/-- An escaped character is read as that character, whatever follows it. -/
theorem content?_escapedChar (d : Dialect) (c : Char) {cs : List Char} (hcs : cs ≠ []) :
    d.content? (d.escapedChar c ++ cs) =
      (d.content? cs).map fun (content, rest) => (c :: content, rest) := by
  by_cases hquote : c = '\''
  · subst hquote
    rfl
  · by_cases hbackslash : c = '\\'
    · subst hbackslash
      cases hd : d.hasBackslash with
      | true =>
        rw [escapedChar, if_pos (.inr ⟨rfl, hd⟩), List.cons_append, List.cons_append, content?,
          if_pos hd]
        rfl
      | false =>
        obtain ⟨x, xs, rfl⟩ := List.exists_cons_of_ne_nil hcs
        rw [escapedChar, if_neg (by simp [hd]), List.cons_append, List.nil_append, content?,
          if_neg (by simp [hd])]
    · rw [escapedChar, if_neg (by simp [hquote, hbackslash]), List.cons_append, List.nil_append,
        content?]
      all_goals simp [hquote, hbackslash]

/-- Content that was escaped is read as it was, up to a quote that is not written twice. -/
theorem content?_escapeChars (d : Dialect) (cs : List Char) {rest : List Char}
    (hrest : rest.head? ≠ some '\'') :
    d.content? (d.escapeChars cs ++ '\'' :: rest) = some (cs, rest) := by
  rw [escapeChars_eq_flatMap]
  induction cs with
  | nil =>
    cases rest with
    | nil => rfl
    | cons c rest =>
      have hc : c ≠ '\'' := fun h => hrest (congrArg some h)
      rw [List.flatMap_nil, List.nil_append, content?]
      rintro _ ⟨⟩
      exact hc rfl
  | cons c cs ih =>
    rw [List.flatMap_cons, List.append_assoc, content?_escapedChar d c (by simp), ih]
    rfl

/-! ## Lexemes -/

/-- What a literal can be made of. -/
inductive Lexeme where
  | string (content : List Char)
  /-- Bytes behind an `X`. -/
  | bytes (bs : List UInt8)
  /-- Two colons. -/
  | cast
  | word (name : List Char)

/-- The lexeme at the front of a text, and what follows it. -/
def lexeme? (d : Dialect) : List Char → Option (Lexeme × List Char)
  | '\'' :: cs => (d.content? cs).map fun (content, rest) => (.string content, rest)
  | 'X' :: '\'' :: cs =>
    -- In PostgreSQL these would be bits, not bytes.
    if d = .postgreSql then none
    else do
      let (digits, rest) ← Text.splitFirst? '\'' cs
      let bytes ← Text.bytesOfHex? digits
      some (.bytes bytes, rest)
  | ':' :: ':' :: cs => some (.cast, cs)
  | cs =>
    match cs.takeWhile Text.isWord with
    | [] => none
    | name => some (.word name, cs.dropWhile Text.isWord)

/-- The text of the string at the front, and what follows it. -/
def readText? (d : Dialect) (cs : List Char) : Option (String × List Char) :=
  match d.lexeme? cs with
  | some (.string content, rest) => some (String.ofList content, rest)
  | _ => none

/-- The bytes that the content of a string stands for where it is cast to bytes. -/
def bytesOfContent? (content : List Char) : Option (List UInt8) :=
  (Text.after? ['\\', 'x'] content).bind Text.bytesOfHex?

/-- The name of the type of bytes in PostgreSQL. -/
def bytea : List Char := ['b', 'y', 't', 'e', 'a']

/-- The bytes that `content` is cast to, and what follows the cast. -/
def castBytes? (d : Dialect) (content cs : List Char) : Option (List UInt8 × List Char) :=
  match d.lexeme? cs with
  | some (.cast, cs) =>
    match d.lexeme? cs with
    | some (.word name, rest) =>
      if name = bytea then (bytesOfContent? content).map (·, rest) else none
    | _ => none
  | _ => none

/-- The bytes at the front, and what follows them. -/
def readBytes? (d : Dialect) (cs : List Char) : Option (List UInt8 × List Char) :=
  match d.lexeme? cs with
  | some (.bytes bytes, rest) => some (bytes, rest)
  | some (.string content, rest) =>
    if d = .postgreSql then d.castBytes? content rest else none
  | _ => none

/-- Escaped content in quotes is read as a string with that content. -/
theorem lexeme?_escapeChars (d : Dialect) (content : List Char) {rest : List Char}
    (hrest : rest.head? ≠ some '\'') :
    d.lexeme? ('\'' :: (d.escapeChars content ++ '\'' :: rest)) = some (.string content, rest) := by
  rw [lexeme?, content?_escapeChars d content hrest]
  rfl

/-- A string literal is read as the string, up to its end. -/
theorem readText?_stringLiteral (d : Dialect) (s : String) {rest : List Char}
    (hrest : rest.head? ≠ some '\'') :
    d.readText? ((d.stringLiteral s).toList ++ rest) = some (s, rest) := by
  have hchars : (d.stringLiteral s).toList ++ rest =
      '\'' :: (d.escapeChars s.toList ++ '\'' :: rest) := by
    simp [stringLiteral, escapeString, String.toList_append, String.toList_ofList]
  rw [hchars, readText?, lexeme?_escapeChars d s.toList hrest]
  exact congrArg (fun s => some (s, rest)) String.ofList_toList

-- Without its escape a backslash takes the closing quote in MySQL, and only there.
example : mySql.readText? "'\\' OR 1=1".toList = none := by decide
example : sqlite.readText? "'\\' OR 1=1".toList = some ("\\", " OR 1=1".toList) := by decide

/-- Text that neither goes on with a string nor with a word. -/
def Separate (rest : List Char) : Prop :=
  ∀ c, rest.head? = some c → c ≠ '\'' ∧ Text.isWord c = false

/-- What may stand behind a string begins with no quote. -/
theorem Separate.head?_ne_quote {rest : List Char} (h : Separate rest) :
    rest.head? ≠ some '\'' :=
  fun hquote => (h _ hquote).1 rfl

/-- A word ends where no word character follows it. -/
theorem lexeme?_bytea (d : Dialect) {rest : List Char} (hrest : Separate rest) :
    d.lexeme? (bytea ++ rest) = some (.word bytea, rest) := by
  have hword : ∀ c ∈ bytea, Text.isWord c = true := List.all_eq_true.1 rfl
  have htake : (bytea ++ rest).takeWhile Text.isWord = bytea :=
    Text.takeWhile_append hword fun c hc => (hrest c hc).2
  have hdrop : (bytea ++ rest).dropWhile Text.isWord = rest :=
    Text.dropWhile_append hword fun c hc => (hrest c hc).2
  rw [bytea, List.cons_append] at htake hdrop ⊢
  rw [lexeme?, htake, hdrop]
  all_goals simp

/-- Digits in quotes behind an `X` are read as bytes, but not in PostgreSQL. -/
theorem lexeme?_hexOf {d : Dialect} (hd : d ≠ .postgreSql) (bytes : List UInt8)
    (rest : List Char) :
    d.lexeme? ('X' :: '\'' :: (Text.hexOf 'A' bytes ++ '\'' :: rest)) =
      some (.bytes bytes, rest) := by
  have hsplit : Text.splitFirst? '\'' (Text.hexOf 'A' bytes ++ '\'' :: rest) =
      some (Text.hexOf 'A' bytes, rest) :=
    Text.splitFirst?_append (Text.quote_notMem_hexOf (.inr rfl) bytes) rest
  have hbytes := Text.bytesOfHex?_hexOf (.inr rfl) bytes
  rw [lexeme?, if_neg hd, hsplit]
  simp only [Option.bind_eq_bind, Option.bind_some, hbytes]

/-- A cast to bytes ends behind the name of their type. -/
theorem castBytes?_bytea {d : Dialect} {content : List Char} {bytes : List UInt8}
    (hcontent : bytesOfContent? content = some bytes) {rest : List Char} (hrest : Separate rest) :
    d.castBytes? content (':' :: ':' :: (bytea ++ rest)) = some (bytes, rest) := by
  have hcast : d.lexeme? (':' :: ':' :: (bytea ++ rest)) = some (.cast, bytea ++ rest) := by
    rw [lexeme?]
  rw [castBytes?, hcast]
  simp only [lexeme?_bytea d hrest, if_true, hcontent, Option.map_some]

/-- A literal of bytes is read as the bytes, up to its end. -/
theorem readBytes?_blobLiteral (d : Dialect) (bytes : List UInt8) {rest : List Char}
    (hrest : Separate rest) :
    d.readBytes? ((d.blobLiteral bytes).toList ++ rest) = some (bytes, rest) := by
  by_cases hd : d = .postgreSql
  · subst hd
    have hquote : '\'' ∉ '\\' :: 'x' :: Text.hexOf 'a' bytes := by
      simp [Text.quote_notMem_hexOf (.inl rfl) bytes]
    have hcontent : bytesOfContent? ('\\' :: 'x' :: Text.hexOf 'a' bytes) = some bytes := by
      rw [bytesOfContent?]
      exact Text.bytesOfHex?_hexOf (.inl rfl) bytes
    have hchars : (postgreSql.blobLiteral bytes).toList ++ rest =
        '\'' :: (postgreSql.escapeChars ('\\' :: 'x' :: Text.hexOf 'a' bytes) ++
          '\'' :: ':' :: ':' :: (bytea ++ rest)) := by
      rw [escapeChars_eq_self rfl hquote]
      simp [blobLiteral, bytea, String.toList_append, String.toList_ofList]
    rw [hchars, readBytes?, lexeme?_escapeChars postgreSql _ (by simp)]
    exact (if_pos rfl).trans (castBytes?_bytea hcontent hrest)
  · have hchars : (d.blobLiteral bytes).toList ++ rest =
        'X' :: '\'' :: (Text.hexOf 'A' bytes ++ '\'' :: rest) := by
      cases d with
      | postgreSql => exact absurd rfl hd
      | mySql | sqlite => simp [blobLiteral, String.toList_append, String.toList_ofList]
    rw [hchars, readBytes?, lexeme?_hexOf hd]

end Dialect

/-! ## Literals of values -/

namespace Adapter

/-- Without a connection, the literals of text, bytes, dates and times are read back as what they
were written for, and whatever else is in the statement is left to be read. -/
theorem read_quoteValue {a : Adapter} (ha : a.driver = none) {rest : List Char}
    (hrest : Dialect.Separate rest) :
    (∀ s, a.dialect.readText? ((a.quoteValue (.text s)).toList ++ rest) = some (s, rest)) ∧
      (∀ bytes,
        a.dialect.readBytes? ((a.quoteValue (.blob bytes)).toList ++ rest) = some (bytes, rest)) ∧
      (∀ d, a.dialect.readText? ((a.quoteValue (.date d)).toList ++ rest) =
        (Value.date d).plain?.map (·, rest)) ∧
      ∀ t, a.dialect.readText? ((a.quoteValue (.dateTime t)).toList ++ rest) =
        (Value.dateTime t).plain?.map (·, rest) := by
  have hstring (s : String) : a.quoteString s = a.dialect.stringLiteral s := by
    rw [quoteString, ha]
    rfl
  have hread (s : String) :
      a.dialect.readText? ((a.quoteString s).toList ++ rest) = some (s, rest) := by
    rw [hstring]
    exact a.dialect.readText?_stringLiteral s hrest.head?_ne_quote
  exact ⟨hread, fun bytes => a.dialect.readBytes?_blobLiteral bytes hrest, fun d => hread d.text,
    fun t => hread t.text⟩

/-- Of a text with a quote and a backslash, in MySQL and in front of a parenthesis. -/
theorem read_quoteValue_mySql :
    Dialect.mySql.readText? ("'it''s \\\\'".toList ++ [')']) = some ("it's \\", [')']) :=
  (read_quoteValue (a := .ofDialect .mySql "" none) rfl (by rintro _ ⟨⟩; decide)).1 "it's \\"

end Adapter

end SqlCompose
