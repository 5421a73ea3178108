import RockDuck.Utf8Text

/-!
# The time-travel clause of a query

A query may name the transaction it wants to be read as of, by a clause `AS OF
TxnId` with a decimal or a hexadecimal number.
-/

namespace RockDuck

open List

/-- The characters with the property `White_Space`. -/
def isWhitespace (character : Char) : Bool :=
  let code := character.toNat
  (decide (9 ≤ code) && decide (code ≤ 13)) ||
    (decide (0x2000 ≤ code) && decide (code ≤ 0x200A)) ||
    [0x20, 0x85, 0xA0, 0x1680, 0x2028, 0x2029, 0x202F, 0x205F, 0x3000].contains
      code

def trimText (text : List Char) : List Char :=
  trimBy isWhitespace text

/-- Uppercase, one character at a time. -/
structure UppercaseMapping where
  toUpper : Char → List Char
  ascii : ∀ character, character.toNat < 128 →
    toUpper character = [character.toUpper]

def UppercaseMapping.text (uppercase : UppercaseMapping) (text : List Char) : List Char :=
  text.flatMap uppercase.toUpper

def isHexDigit (character : Char) : Bool :=
  character.isDigit ||
    (decide ('a' ≤ character) && decide (character ≤ 'f')) ||
    (decide ('A' ≤ character) && decide (character ≤ 'F'))

def isTokenChar (character : Char) : Bool :=
  character.isAlphanum || character == '_'

/-- `char::to_digit`. -/
def digitValue (radix : Nat) (character : Char) : Option Nat :=
  let value :=
    if character.isDigit then some (character.toNat - '0'.toNat)
    else if 'a' ≤ character ∧ character ≤ 'z' then
      some (character.toNat - 'a'.toNat + 10)
    else if 'A' ≤ character ∧ character ≤ 'Z' then
      some (character.toNat - 'A'.toNat + 10)
    else none
  value.filter fun digit => decide (digit < radix)

/-- The value of digits. -/
def digitsValue (radix : Nat) (digits : List Char) : Option Nat :=
  digits.foldlM (fun value digit =>
    (digitValue radix digit).map fun digit => value * radix + digit) 0

def withoutPlus : List Char → List Char
  | '+' :: digits => digits
  | digits => digits

/-- `u64::from_str_radix`. -/
def parseU64 (radix : Nat) (text : List Char) : Option Nat :=
  if withoutPlus text = [] then none
  else (digitsValue radix (withoutPlus text)).filter fun value => decide (value < 2 ^ 64)

def hasHexMark (text : List Char) : Bool :=
  "0x".toList.isPrefixOf text || "0X".toList.isPrefixOf text

/-- How many bytes of the text behind the keywords the number takes.  For a
hexadecimal one these are counted at the end of the text. -/
def numberBytes (remaining : List Char) : Nat :=
  if hasHexMark remaining then
    let hex := remaining.drop 2
    2 + (byteLength hex - byteLength (hex.rdropWhile isHexDigit))
  else
    byteLength remaining - byteLength (remaining.dropWhile Char.isDigit)

/-- Parse a transaction id. -/
def parseTxnId (number : List Char) : Except String Nat :=
  let shown := String.ofList number
  if hasHexMark number then
    match parseU64 16 (number.drop 2) with
    | some txnId => .ok txnId
    | none => .error s!"invalid AS OF TxnId hex literal: {shown}"
  else
    match parseU64 10 number with
    | some txnId => .ok txnId
    | none => .error s!"invalid AS OF TxnId literal: {shown}"

/-- Put two trimmed texts next to each other. -/
def glueTexts (before after : List Char) : List Char :=
  if before = [] then after
  else if after = [] then before
  else if [';', ',', ')'].any fun mark => after.head? == some mark then
    before ++ after
  else before ++ ' ' :: after

/-- The query without the clause. -/
def joinAround (before after : List Char) : List Char :=
  glueTexts (trimText before) (trimText after)

def clauseKeywords : List Char := "AS OF TXNID".toList

/-- Split a query at its clause. -/
def parseTimeTravel (uppercase : UppercaseMapping) (sql : List Char) :
    Option (Except String (List Char × Option Nat)) :=
  match findText clauseKeywords (uppercase.text sql) with
  | none => some (.ok (sql, none))
  | some asOfPos => do
      let (before, _) ← splitAtByte sql asOfPos
      if before.getLast?.any isTokenChar then
        return .error
          "malformed AS OF TxnId clause: missing token boundary before AS OF"
      let (_, afterKeywords) ← splitAtByte sql (asOfPos + byteLength clauseKeywords)
      let remaining := afterKeywords.dropWhile isWhitespace
      if remaining = [] then
        return .error "malformed AS OF TxnId clause: missing transaction id"
      let (number, after) ← splitAtByte remaining (numberBytes remaining)
      if number = [] then
        return .error "malformed AS OF TxnId clause: missing transaction id"
      match parseTxnId number with
      | .error error => return .error error
      | .ok txnId =>
        if after.head?.any isTokenChar then
          return .error
            "malformed AS OF TxnId clause: invalid trailing token"
        return .ok (joinAround before after, some txnId)

namespace UppercaseMapping

variable (uppercase : UppercaseMapping)

lemma text_append (front back) : uppercase.text (front ++ back) =
      uppercase.text front ++ uppercase.text back := by
  simp [text]

lemma text_of_ascii {characters : List Char}
    (isAscii : characters.all fun char => decide (char.toNat < 128)) :
    uppercase.text characters = characters.map Char.toUpper := by
  induction characters with
  | nil => rfl
  | cons char characters ih =>
    simp only [all_cons, Bool.and_eq_true, decide_eq_true_eq] at isAscii
    have head := uppercase.ascii char isAscii.1
    have tail := ih isAscii.2
    rw [text, flatMap_cons, head, ← text, tail]
    rfl

end UppercaseMapping

variable {character : Char} {radix : Nat} {value : Nat} (before after : List Char)

lemma digitValue_sixteen (isDigit : digitValue 16 character = some value) :
    isHexDigit character = true := by
  unfold digitValue at isDigit
  simp only [Option.filter_eq_some_iff, decide_eq_true_eq] at isDigit
  obtain ⟨found, small⟩ := isDigit
  unfold isHexDigit
  have le (first second : Char) :
      first ≤ second ↔ first.toNat ≤ second.toNat := Iff.rfl
  have : 'a'.toNat = 97 := rfl
  have : 'A'.toNat = 65 := rfl
  have : 'f'.toNat = 102 := rfl
  have : 'F'.toNat = 70 := rfl
  grind

lemma digitValue_ten (isDigit : digitValue 10 character = some value) :
    character.isDigit = true := by
  unfold digitValue at isDigit
  simp only [Option.filter_eq_some_iff, decide_eq_true_eq] at isDigit
  grind

variable {prop : Char → Prop}

lemma digitsValue_forall
    (each : ∀ {character value}, digitValue radix character = some value → prop character) {digits}
    (valued : digitsValue radix digits = some value) : ∀ character ∈ digits, prop character := by
  unfold digitsValue at valued
  suffices all : ∀ (digits : List Char) (start : Nat),
      digits.foldlM (fun value digit =>
        (digitValue radix digit).map fun digit => value * radix + digit)
        start = some value →
      ∀ character ∈ digits, prop character from all digits 0 valued
  intro digits
  induction digits with
  | nil => simp
  | cons digit digits ih =>
    intro start folded
    rw [foldlM_cons] at folded
    cases first : digitValue radix digit with
    | none => simp [first] at folded
    | some digitNumber =>
      simp only [first, Option.map_some, Option.bind_eq_bind, Option.bind_some] at folded
      simp only [mem_cons, forall_eq_or_imp]
      exact ⟨each first, ih _ folded⟩

lemma isTokenChar_of_isHexDigit (hexDigit : isHexDigit character = true) :
    isTokenChar character = true := by
  unfold isHexDigit at hexDigit
  unfold isTokenChar Char.isAlphanum Char.isAlpha Char.isUpper Char.isLower
  have le (first second : Char) :
      first ≤ second ↔ first.val ≤ second.val := Iff.rfl
  have : 'a'.val = 97 := rfl
  have : 'A'.val = 65 := rfl
  have : 'f'.val = 102 := rfl
  have : 'F'.val = 70 := rfl
  simp only [le, Bool.or_eq_true, Bool.and_eq_true, decide_eq_true_eq] at hexDigit ⊢
  grind

lemma isTokenChar_of_isDigit (digit : character.isDigit = true) : isTokenChar character = true := by
  simp [isTokenChar, Char.isAlphanum, digit]

private lemma toNat_of_isTokenChar (token : isTokenChar character = true) :
    48 ≤ character.toNat ∧ character.toNat ≤ 122 := by
  unfold isTokenChar Char.isAlphanum Char.isAlpha Char.isUpper Char.isLower Char.isDigit at token
  have val : character.val.toNat = character.toNat := rfl
  simp only [Bool.or_eq_true, Bool.and_eq_true, decide_eq_true_eq,
    beq_iff_eq, ge_iff_le, UInt32.le_iff_toNat_le, val] at token
  rcases token with ((upper | lower) | digit) | rfl
  · simp at upper; omega
  · simp at lower; omega
  · simp at digit; omega
  · decide

lemma isWhitespace_of_isTokenChar (token : isTokenChar character = true) :
    isWhitespace character = false := by
  have bounds := toNat_of_isTokenChar token
  unfold isWhitespace
  simp only [Bool.or_eq_false_iff, Bool.and_eq_false_iff, decide_eq_false_iff_not, contains_eq_mem,
    mem_cons, not_mem_nil, or_false]
  omega

lemma byteLength_of_tokens (tokens : ∀ character ∈ text, isTokenChar character = true) :
    byteLength text = text.length := by
  induction text with
  | nil => rfl
  | cons character text ih =>
    have size : character.utf8Size = 1 := by
      have bounds := toNat_of_isTokenChar (tokens character (by simp))
      have val : character.val.toNat = character.toNat := rfl
      rw [Char.utf8Size_eq_one_iff, UInt32.le_iff_toNat_le]
      simp
      omega
    rw [byteLength_cons, size, ih fun other mem => tokens other (by simp [mem]), length_cons]
    omega

def hexRun (text : List Char) : Nat :=
  (text.rtakeWhile isHexDigit).length

lemma numberBytes_of_hexMark (marked : hasHexMark rest = true) :
    numberBytes rest = 2 + hexRun (rest.drop 2) := by
  have run : byteLength ((rest.drop 2).rtakeWhile isHexDigit) = hexRun (rest.drop 2) :=
    byteLength_of_tokens fun character mem =>
      isTokenChar_of_isHexDigit (mem_rtakeWhile_imp mem)
  have whole := congrArg byteLength (rdropWhile_append_rtakeWhile
    (p := isHexDigit) (l := rest.drop 2))
  rw [byteLength_append, run] at whole
  simp only [numberBytes, marked, if_true]
  omega

lemma numberBytes_of_not_hexMark (unmarked : hasHexMark rest = false) : numberBytes rest =
      byteLength (rest.takeWhile Char.isDigit) := by
  have whole := congrArg byteLength (takeWhile_append_dropWhile (p := Char.isDigit) (l := rest))
  rw [byteLength_append] at whole
  rw [numberBytes, if_neg (by simp [unmarked])]
  omega

lemma hexRun_append_cons (front) (stops : isHexDigit character = false) (back) :
    hexRun (front ++ character :: back) = hexRun back := by
  have whole := congrArg List.length (rdropWhile_append_rtakeWhile
    (p := isHexDigit) (l := front ++ character :: back))
  have rest := congrArg List.length (rdropWhile_append_rtakeWhile (p := isHexDigit) (l := back))
  rw [rdropWhile_append_cons front stops] at whole
  simp only [length_append, length_cons] at whole rest
  unfold hexRun
  omega

private lemma eq_withoutPlus (text) : text = withoutPlus text ∨ text = '+' :: withoutPlus text := by
  unfold withoutPlus
  split <;> simp

lemma parseU64_forall {text}
    (each : ∀ {character value}, digitValue radix character = some value → prop character)
    (parsed : parseU64 radix text = some value) :
    ∀ character ∈ text, character = '+' ∨ prop character := by
  unfold parseU64 at parsed
  split at parsed
  · cases parsed
  · rw [Option.filter_eq_some_iff] at parsed
    have all := digitsValue_forall each parsed.1
    intro character mem
    rcases eq_withoutPlus text with same | signed
    · rw [same] at mem
      exact Or.inr (all character mem)
    · rw [signed, mem_cons] at mem
      exact mem.imp_right (all character)

lemma parseTxnId_ok (parsed : parseTxnId num = .ok txnId) :
    (hasHexMark num = true ∧ parseU64 16 (num.drop 2) = some txnId) ∨
      (hasHexMark num = false ∧ parseU64 10 num = some txnId) := by
  unfold parseTxnId at parsed
  split at parsed
  · rename_i marked
    cases value : parseU64 16 (num.drop 2) with
    | none => simp [value] at parsed
    | some found =>
      simp only [value, Except.ok.injEq] at parsed
      exact Or.inl ⟨marked, by rw [parsed]⟩
  · rename_i unmarked
    cases value : parseU64 10 num with
    | none => simp [value] at parsed
    | some found =>
      simp only [value, Except.ok.injEq] at parsed
      exact Or.inr ⟨by simpa using unmarked, by rw [parsed]⟩

lemma hasHexMark_iff : hasHexMark text = true ↔
      ∃ mark rest, text = '0' :: mark :: rest ∧ (mark = 'x' ∨ mark = 'X') := by
  unfold hasHexMark
  rw [Bool.or_eq_true, isPrefixOf_iff_prefix, isPrefixOf_iff_prefix]
  constructor
  · rintro (⟨rest, rfl⟩ | ⟨rest, rfl⟩)
    · exact ⟨'x', rest, rfl, Or.inl rfl⟩
    · exact ⟨'X', rest, rfl, Or.inr rfl⟩
  · rintro ⟨mark, rest, rfl, rfl | rfl⟩
    · exact Or.inl ⟨rest, rfl⟩
    · exact Or.inr ⟨rest, rfl⟩

lemma parseU64_of_digits (valued : digitsValue radix digits = some value) (small : value < 2 ^ 64)
    (ne : digits ≠ []) (tokens : ∀ character ∈ digits, isTokenChar character = true) :
    parseU64 radix digits = some value := by
  have unsigned : withoutPlus digits = digits := by
    unfold withoutPlus
    split
    · exact absurd (tokens '+' (by simp)) (by decide)
    · rfl
  rw [parseU64, unsigned, if_neg ne, valued]
  simpa using small

lemma glueTexts_append (ne : before ≠ []) :
    glueTexts (front ++ before) after = front ++ glueTexts before after := by
  unfold glueTexts
  rw [if_neg (by simp [ne]), if_neg ne]
  split
  · rfl
  · split <;> simp

lemma glueTexts_nil (after) : glueTexts [] after = after := by
  simp [glueTexts]

lemma exists_glueTexts : ∃ gap, (gap = [] ∨ gap = [' ']) ∧
      glueTexts before after = before ++ (gap ++ after) := by
  unfold glueTexts
  split
  · exact ⟨[], Or.inl rfl, by simp [*]⟩
  · split
    · exact ⟨[], Or.inl rfl, by simp [*]⟩
    · split
      · exact ⟨[], Or.inl rfl, by simp⟩
      · exact ⟨[' '], Or.inr rfl, by simp⟩

lemma trimText_of_extended {before after} (kept : isWhitespace first = false)
    (same : joinAround (before ++ ' ' :: first :: extension) back = joinAround before after) :
    trimText after = joinAround (first :: extension) back := by
  have ne : trimText (first :: extension) ≠ [] := by
    rw [trimText, trimBy_cons_of_not kept]
    simp
  have blank : ∀ character ∈ [' '], isWhitespace character = true := by
    simp only [mem_singleton, forall_eq]
    rfl
  by_cases empty : trimText before = []
  · -- A blank text in front does not count.
    have allBlank : ∀ character ∈ before ++ [' '], isWhitespace character = true := by
      simp only [mem_append]
      rintro character (inBefore | inBlank)
      · exact trimBy_eq_nil_iff.mp empty character inBefore
      · exact blank character inBlank
    have trimmed : trimText (before ++ ' ' :: first :: extension) =
        trimText (first :: extension) := by
      rw [trimText, ← singleton_append, ← append_assoc, trimBy_blank_append allBlank, trimText]
    rw [joinAround, trimmed, joinAround, empty, glueTexts_nil] at same
    exact same.symm
  · have notBlank : trimBy isWhitespace before ≠ [] := empty
    obtain ⟨trail, trailBlank, extended⟩ := trimBy_append_cons notBlank
    have trimmed : trimText (before ++ ' ' :: first :: extension) =
        trimText before ++
          ((trail ++ [' ']) ++ trimText (first :: extension)) := by
      have := extended [' '] first extension kept
      simpa [trimText] using this
    rw [joinAround, trimmed, ← append_assoc,
      glueTexts_append _ _ ne, append_assoc, joinAround] at same
    obtain ⟨start, others, shape⟩ : ∃ start others, trimText after = start :: others := by
      apply exists_cons_of_ne_nil
      intro none
      rw [none] at same
      have := congrArg List.length same
      simp [glueTexts, empty] at this
    have startKept : isWhitespace start = false := head_trimBy shape
    obtain ⟨gap, gapShape, glued⟩ := exists_glueTexts (trimText before) (trimText after)
    rw [glued, append_cancel_left_eq, shape] at same
    rw [shape, joinAround]
    rcases append_eq_append_iff.mp same with ⟨more, gapEq, rest⟩ | ⟨more, separatorEq, rest⟩
    · have none : more = [] := by
        have lengths := congrArg List.length gapEq
        apply eq_nil_of_length_eq_zero
        rcases gapShape with rfl | rfl
        · simp at lengths
        · simp at lengths
          omega
      simpa [none] using rest.symm
    · cases more with
      | nil => simpa using rest
      | cons character more =>
        have isBlank : isWhitespace character = true := by
          have mem : character ∈ trail ++ [' '] := by simp [separatorEq]
          rcases mem_append.mp mem with inTrail | inBlank
          · exact trailBlank character inTrail
          · exact blank character inBlank
        rw [cons_append, List.cons.injEq] at rest
        rw [rest.1, isBlank] at startKept
        cases startKept

end RockDuck
