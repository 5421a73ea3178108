import RockDuck.FilterParsing

/-!
# Printed filters are parsed back

A filter is printed with a parenthesis only where the precedence of its
connectives or their association to the left asks for one.
-/

namespace RockDuck

open List

/-- The sign that is printed for a comparison. -/
def CompareOp.symbol : CompareOp → List Char
  | eq => ['=']
  | ne => ['!', '=']
  | lt => ['<']
  | le => ['<', '=']
  | gt => ['>']
  | ge => ['>', '=']

def escapeChar (character : Char) : List Char :=
  if character = '\\' ∨ character = '"' then ['\\', character] else [character]

/-- A string in quotes. -/
def quoteText (text : List Char) : List Char :=
  '"' :: (text.flatMap escapeChar ++ ['"'])

def printInt (value : Int) : List Char :=
  if value < 0 then '-' :: Nat.toDigits 10 value.natAbs
  else Nat.toDigits 10 value.natAbs

def parenthesize {Symbol : Type*} (opening closing : Symbol) (needed : Bool)
    (text : List Symbol) : List Symbol :=
  if needed then opening :: (text ++ [closing]) else text

/-- The character can stand in a name that is printed. -/
def isNameChar (character : Char) : Bool :=
  character.isLower || character.isDigit || character == '_'

def isColumnName (name : String) : Bool :=
  match name.toList with
  | [] => false
  | first :: rest =>
    !first.isDigit && (first :: rest).all isNameChar &&
      decide (name ∉ ["and", "or", "not"])

section Print

variable {Float64 : Type*} (format : TextFormat Float64)

/-- A constant as text. -/
def ScalarVal.print : ScalarVal Float64 → List Char
  | null => ['n', 'u', 'l', 'l']
  | bool true => ['t', 'r', 'u', 'e']
  | bool false => ['f', 'a', 'l', 's', 'e']
  | int64 value => printInt value
  | float64 value => (format.debugF64 value).toList
  | string value => quoteText value.toList

/-- The text of a filter as the operand of a connective: of anything at level
zero, of a conjunction at level one, of a negation at level two. -/
def Expr.printAt (level : Nat) : Expr Float64 → List Char
  | comparison col op val => col.toList ++ ' ' :: (op.symbol ++ ' ' :: val.print format)
  | and left right =>
    parenthesize '(' ')' (decide (1 < level))
      (left.printAt 1 ++ ' ' :: (['A', 'N', 'D'] ++ ' ' :: right.printAt 2))
  | or left right =>
    parenthesize '(' ')' (decide (0 < level))
      (left.printAt 0 ++ ' ' :: (['O', 'R'] ++ ' ' :: right.printAt 1))
  | not inner => ['N', 'O', 'T'] ++ ' ' :: inner.printAt 2

/-- A filter as text. -/
def Expr.print (expr : Expr Float64) : String :=
  String.ofList (expr.printAt format 0)

/-- The constants that are printed exactly: no floating-point numbers, and not
the least of the integers, whose absolute value is out of range. -/
def ScalarVal.Printable : ScalarVal Float64 → Prop
  | int64 value => -2 ^ 63 < value ∧ value < 2 ^ 63
  | float64 _ => False
  | null | bool _ | string _ => True

/-- The names and constants of the filter can be printed. -/
def Expr.Printable : Expr Float64 → Prop
  | comparison col _ val => isColumnName col = true ∧ val.Printable
  | and left right | or left right => left.Printable ∧ right.Printable
  | not inner => inner.Printable

end Print

section Tokens

variable {Float64 : Type*}

def intTokens (value : Int) : List Token :=
  if value < 0 then
    [.minus, .number (String.ofList (Nat.toDigits 10 value.natAbs))]
  else [.number (String.ofList (Nat.toDigits 10 value.natAbs))]

def ScalarVal.tokens : ScalarVal Float64 → List Token
  | null => [.ident "null"]
  | bool true => [.ident "true"]
  | bool false => [.ident "false"]
  | int64 value => intTokens value
  | float64 _ => []
  | string value => [.string value]

/-- The tokens of a filter at a level of precedence. -/
def Expr.tokensAt (level : Nat) : Expr Float64 → List Token
  | comparison col op val => .ident col :: .op op :: val.tokens
  | and left right =>
    parenthesize .lParen .rParen (decide (1 < level))
      (left.tokensAt 1 ++ .and :: right.tokensAt 2)
  | or left right =>
    parenthesize .lParen .rParen (decide (0 < level))
      (left.tokensAt 0 ++ .or :: right.tokensAt 1)
  | not inner => .not :: inner.tokensAt 2

end Tokens

/-- A text that continues neither a word nor a number nor an operator. -/
def Separated (text : List Char) : Prop :=
  ∀ character ∈ text.head?, character = ' ' ∨ character = ')'

lemma separated_nil : Separated [] := by
  simp [Separated]

variable (text : List Char)

lemma separated_space : Separated (' ' :: text) := by
  simp [Separated]

lemma separated_paren : Separated (')' :: text) := by
  simp [Separated]

/-- The text gives the tokens, whatever may follow them. -/
def Lexes (text : List Char) (tokens : List Token) : Prop :=
  ∀ rest, Separated rest →
    tokenizeFrom (text ++ rest) = (tokenizeFrom rest).map (tokens ++ ·)

variable {first : Char} {name : String} {rest : List Char}

lemma tokenizeFrom_cons {after : List Char} {token shorter}
    (cut : lexToken first rest = .ok ⟨token, after, shorter⟩) :
    tokenizeFrom (first :: rest) = (tokenizeFrom after).map (token.toList ++ ·) := by
  rw [tokenizeFrom, cut]

lemma tokenizeFrom_space (rest) : tokenizeFrom (' ' :: rest) = tokenizeFrom rest := by
  have cut : lexToken ' ' rest = .ok ⟨none, rest, le_rfl⟩ := rfl
  rw [tokenizeFrom_cons cut]
  cases tokenizeFrom rest <;> rfl

variable {word : List Char} {character : Char}

lemma Lexes.append {first second} (lexesFirst : Lexes first firstTokens)
    (lexesSecond : Lexes second secondTokens) (separated : ∀ rest, Separated (second ++ rest)) :
    Lexes (first ++ second) (firstTokens ++ secondTokens) := by
  intro rest ends
  rw [append_assoc, lexesFirst _ (separated rest), lexesSecond rest ends]
  cases tokenizeFrom rest <;> simp [Except.map]

lemma Lexes.space {text tokens} (lexes : Lexes text tokens) : Lexes (' ' :: text) tokens := by
  intro rest ends
  rw [cons_append, tokenizeFrom_space, lexes rest ends]

lemma Lexes.before_space {first second} (lexesFirst : Lexes first firstTokens)
    (lexesSecond : Lexes second secondTokens) :
    Lexes (first ++ ' ' :: second) (firstTokens ++ secondTokens) :=
  lexesFirst.append lexesSecond.space fun _ => separated_space _

lemma Lexes.parenthesize {text tokens}
    (lexes : Lexes text tokens) (needed : Bool) : Lexes (parenthesize '(' ')' needed text)
      (parenthesize .lParen .rParen needed tokens) := by
  cases needed with
  | false => exact lexes
  | true =>
    intro rest ends
    have opening : lexToken '(' (text ++ ')' :: rest) =
        .ok ⟨some .lParen, text ++ ')' :: rest, le_rfl⟩ := rfl
    have closing : lexToken ')' rest = .ok ⟨some .rParen, rest, le_rfl⟩ := rfl
    simp only [RockDuck.parenthesize, if_true, cons_append, append_assoc, nil_append]
    rw [tokenizeFrom_cons opening, lexes _ (separated_paren rest), tokenizeFrom_cons closing]
    cases tokenizeFrom rest <;> simp [Except.map]

lemma Separated.dropWhile_eq (ends : Separated rest) :
    rest.takeWhile isTokenChar = [] ∧ rest.dropWhile isTokenChar = rest := by
  cases rest with
  | nil => exact ⟨rfl, rfl⟩
  | cons character rest => rcases ends character rfl with rfl | rfl <;> exact ⟨rfl, rfl⟩

lemma lexToken_word (starts : first.isAlpha = true ∨ first = '_') (rest) : lexToken first rest =
      .ok ⟨some (wordToken (first :: rest.takeWhile isTokenChar)),
        rest.dropWhile isTokenChar, List.length_dropWhile_le _ _⟩ := by
  have word : (first.isAlpha || first == '_') = true := by simpa using starts
  unfold lexToken
  split <;> first
    | exact absurd word (by decide)
    | rw [if_pos word]

lemma lexes_word {token} (starts : first.isAlpha = true ∨ first = '_')
    (letters : word.all isTokenChar = true) (read : wordToken (first :: word) = token) :
    Lexes (first :: word) [token] := by
  intro rest ends
  rw [all_eq_true] at letters
  have taken : (word ++ rest).takeWhile isTokenChar = word := by
    rw [takeWhile_append_of_pos letters, ends.dropWhile_eq.1, append_nil]
  have after : (word ++ rest).dropWhile isTokenChar = rest := by
    rw [dropWhile_append_of_pos letters, ends.dropWhile_eq.2]
  rw [cons_append, tokenizeFrom_cons (lexToken_word starts _), taken, after, read]
  rfl

lemma scanString_escaped (text rest : List Char) :
    scanString (text.flatMap escapeChar ++ '"' :: rest) = some (text, rest) := by
  induction text with
  | nil => simp [scanString]
  | cons character text ih =>
    rw [flatMap_cons, append_assoc]
    by_cases escaped : character = '\\' ∨ character = '"'
    · rcases escaped with rfl | rfl <;> simp [escapeChar, scanString, ih]
    · have plain := not_or.mp escaped
      rw [escapeChar, if_neg escaped, singleton_append, scanString, ih]
      · rfl
      all_goals simp_all

lemma lexToken_quote {val after} (scanned : scanString rest = some (val, after)) :
    lexToken '"' rest = .ok ⟨some (.string (String.ofList val)), after,
      scanString_shorter scanned⟩ := by
  simp only [lexToken, lexString]
  split
  case h_1 unterminated => simp [scanned] at unterminated
  case h_2 found =>
      cases scanned.symm.trans found
      rfl

lemma lexes_quoteText : Lexes (quoteText text) [.string (String.ofList text)] := by
  intro rest ends
  simp only [quoteText, cons_append, append_assoc, nil_append]
  rw [tokenizeFrom_cons (lexToken_quote (scanString_escaped text rest))]
  rfl

lemma scanNumber_digits (isDigits : ∀ digit ∈ digits, digit.isDigit = true)
    (ends : Separated rest) : scanNumber false (digits ++ rest) = (digits, rest) := by
  induction digits with
  | nil =>
    cases rest with
    | nil => rfl
    | cons character rest => rcases ends character rfl with rfl | rfl <;> rfl
  | cons digit digits ih =>
    have found := ih fun other mem => isDigits other (mem_cons_of_mem _ mem)
    simp [scanNumber, isDigits digit mem_cons_self, found]

lemma lexToken_digit (digit : first.isDigit = true) (rest) :
    lexToken first rest = .ok ⟨some (.number (String.ofList (first :: (scanNumber false rest).1))),
        (scanNumber false rest).2, scanNumber_shorter false rest⟩ := by
  have noWord : (first.isAlpha || first == '_') = false := by
    have notUnderscore : first ≠ '_' := by
      rintro rfl
      simp at digit
    simp only [Char.isDigit, Bool.and_eq_true, decide_eq_true_eq] at digit
    simp [Char.isAlpha, Char.isUpper, Char.isLower, notUnderscore]
    grind
  unfold lexToken
  split <;> first
    | exact absurd digit (by decide)
    | rw [if_neg (by simp [noWord]), if_pos digit]

lemma lexes_digits (ne : digits ≠ []) (isDigits : ∀ digit ∈ digits, digit.isDigit = true) :
    Lexes digits [.number (String.ofList digits)] := by
  obtain ⟨first, others, rfl⟩ := exists_cons_of_ne_nil ne
  intro rest ends
  have scanned := scanNumber_digits (fun digit mem =>
    isDigits digit (mem_cons_of_mem _ mem)) ends
  rw [cons_append, tokenizeFrom_cons (lexToken_digit (isDigits first mem_cons_self) _), scanned]
  rfl

lemma isTokenChar_of_isNameChar (named : isNameChar character = true) :
    isTokenChar character = true := by
  simp only [isNameChar, isTokenChar, Char.isAlphanum, Char.isAlpha, Bool.or_eq_true] at named ⊢
  tauto

lemma toLower_of_isNameChar (named : isNameChar character = true) :
    character.toLower = character := by
  simp only [isNameChar, Char.isLower, Char.isDigit, Bool.or_eq_true,
    Bool.and_eq_true, decide_eq_true_eq, beq_iff_eq] at named
  refine dif_neg fun upper => ?_
  rcases named with (lower | digit) | rfl
  · grind
  · grind
  · simp at upper

lemma lowercase_of_isNameChar (named : ∀ character ∈ word, isNameChar character = true) :
    lowercase word = String.ofList word := by
  rw [lowercase, map_congr_left fun character mem =>
    toLower_of_isNameChar (named character mem), map_id']

section

variable (named : isColumnName name = true)
include named

lemma isColumnName_spec : (∀ character ∈ name.toList, isNameChar character = true) ∧
      name ≠ "and" ∧ name ≠ "or" ∧ name ≠ "not" := by
  unfold isColumnName at named
  cases letters : name.toList with
  | nil => simp [letters] at named
  | cons first rest =>
    simp only [letters, Bool.and_eq_true, decide_eq_true_eq, all_eq_true, mem_cons, not_or] at named
    obtain ⟨⟨_, allLetters⟩, notAnd, notOr, notNot, _⟩ := named
    exact ⟨by simpa using allLetters, notAnd, notOr, notNot⟩

lemma starts_of_isColumnName :
    ∃ first rest, name.toList = first :: rest ∧ (first.isAlpha = true ∨ first = '_') := by
  have letters := (isColumnName_spec named).1
  unfold isColumnName at named
  cases split : name.toList with
  | nil => simp [split] at named
  | cons first rest =>
    rw [split] at letters
    have firstLetter := letters first mem_cons_self
    simp only [split, Bool.and_eq_true, Bool.not_eq_true'] at named
    simp only [isNameChar, named.1.1, Bool.or_false, Bool.or_eq_true, beq_iff_eq] at firstLetter
    exact ⟨first, rest, rfl, firstLetter.imp_left fun lower => by
      simp [Char.isAlpha, lower]⟩

lemma lexes_columnName : Lexes name.toList [.ident name] := by
  obtain ⟨letters, notAnd, notOr, notNot⟩ := isColumnName_spec named
  obtain ⟨first, rest, split, starts⟩ := starts_of_isColumnName named
  have lower := lowercase_of_isNameChar letters
  rw [String.ofList_toList] at lower
  have tokenChars : rest.all isTokenChar = true := by
    rw [all_eq_true]
    intro character mem
    exact isTokenChar_of_isNameChar (letters character (by simp [split, mem]))
  rw [split] at lower ⊢
  refine lexes_word starts tokenChars ?_
  simp [wordToken, lower, notAnd, notOr, notNot]

end

lemma either_of_separated (ends : Separated rest) (long short) :
    Lexed.either '=' long short rest = Lexed.one short rest := by
  cases rest with
  | nil => rfl
  | cons character rest => rcases ends character rfl with rfl | rfl <;> rfl

lemma lexes_symbol (op : CompareOp) : Lexes op.symbol [.op op] := by
  intro rest ends
  have short (first : Char) (long short : Token)
      (cut : lexToken first rest = .ok (.either '=' long short rest)) :
      tokenizeFrom ([first] ++ rest) = (tokenizeFrom rest).map ([short] ++ ·) := by
    rw [either_of_separated ends] at cut
    exact tokenizeFrom_cons cut
  have long (first : Char) (long short : Token)
      (cut : lexToken first ('=' :: rest) = .ok (.either '=' long short ('=' :: rest))) :
      tokenizeFrom ([first, '='] ++ rest) =
        (tokenizeFrom rest).map ([long] ++ ·) :=
    tokenizeFrom_cons cut
  cases op with
  | eq => exact short '=' _ _ rfl
  | lt => exact short '<' _ _ rfl
  | gt => exact short '>' _ _ rfl
  | ne => exact long '!' _ _ rfl
  | le => exact long '<' _ _ rfl
  | ge => exact long '>' _ _ rfl

lemma lexes_printInt (val : Int) : Lexes (printInt val) (intTokens val) := by
  have digits : Lexes (Nat.toDigits 10 val.natAbs)
      [.number (String.ofList (Nat.toDigits 10 val.natAbs))] :=
    lexes_digits (by simp) fun digit mem => Nat.isDigit_of_mem_toDigits (by decide) le_rfl mem
  unfold printInt intTokens
  split
  · intro rest ends
    have cut : lexToken '-' (Nat.toDigits 10 val.natAbs ++ rest) =
        .ok ⟨some .minus, _, le_rfl⟩ := rfl
    rw [cons_append, tokenizeFrom_cons cut, digits rest ends]
    cases tokenizeFrom rest <;> rfl
  · exact digits

section Filters

variable {Float64 : Type*} (format : TextFormat Float64)

lemma lexes_scalarVal {val : ScalarVal Float64} (printable : val.Printable) :
    Lexes (val.print format) val.tokens := by
  cases val with
  | null => exact lexes_word (by decide) (by decide) (by decide +kernel)
  | bool value => cases value <;> exact lexes_word (by decide) (by decide) (by decide +kernel)
  | int64 value => exact lexes_printInt value
  | float64 value => exact printable.elim
  | string value =>
    have quoted := lexes_quoteText value.toList
    rw [String.ofList_toList] at quoted
    exact quoted

lemma lexes_printAt (level : Nat) {expr : Expr Float64} (printable : expr.Printable) :
    Lexes (expr.printAt format level) (expr.tokensAt level) := by
  induction expr generalizing level with
  | comparison col op val =>
    have column := lexes_columnName printable.1
    have value := lexes_scalarVal format printable.2
    exact column.before_space ((lexes_symbol op).before_space value)
  | and left right leftIh rightIh =>
    have keyword : Lexes ['A', 'N', 'D'] [.and] :=
      lexes_word (by decide) (by decide) (by decide +kernel)
    exact ((leftIh 1 printable.1).before_space
      (keyword.before_space (rightIh 2 printable.2))).parenthesize _
  | or left right leftIh rightIh =>
    have keyword : Lexes ['O', 'R'] [.or] := lexes_word (by decide) (by decide) (by decide +kernel)
    exact ((leftIh 0 printable.1).before_space
      (keyword.before_space (rightIh 1 printable.2))).parenthesize _
  | not inner ih =>
    have keyword : Lexes ['N', 'O', 'T'] [.not] :=
      lexes_word (by decide) (by decide) (by decide +kernel)
    exact keyword.before_space (ih 2 printable)

end Filters

lemma digitsValue_eq_ofDigitChars (isDigits : ∀ digit ∈ digits, digit.isDigit = true) :
    digitsValue 10 digits = some (Nat.ofDigitChars 10 digits 0) := by
  unfold digitsValue Nat.ofDigitChars
  generalize 0 = start
  induction digits generalizing start with
  | nil => rfl
  | cons digit digits ih =>
    have isDigit := isDigits digit mem_cons_self
    have val : digitValue 10 digit = some (digit.toNat - '0'.toNat) := by
      have atMost : digit.toNat ≤ 57 := by
        simp only [Char.isDigit, Bool.and_eq_true, decide_eq_true_eq] at isDigit
        exact isDigit.2
      simp only [digitValue, isDigit, if_true, Option.filter_some, decide_eq_true_eq]
      exact if_pos (by simp; omega)
    rw [foldlM_cons, val, foldl_cons, Nat.mul_comm 10 start]
    exact ih (fun other mem => isDigits other (mem_cons_of_mem _ mem)) _

lemma parseI64_toDigits (small : val < 2 ^ 63) :
    parseI64 (Nat.toDigits 10 val) = .ok (val : Int) := by
  have digits := digitsValue_eq_ofDigitChars fun digit mem =>
    Nat.isDigit_of_mem_toDigits (b := 10) (n := val) (by decide) le_rfl mem
  rw [Nat.ofDigitChars_toDigits (by decide) le_rfl] at digits
  simpa [parseI64, digits] using small

namespace Parser

variable {Float64 : Type*} {format : TextFormat Float64}

lemma numberValue_toDigits (small : value < 2 ^ 63) :
    numberValue format (String.ofList (Nat.toDigits 10 value)) = .ok (.int64 value) := by
  have noPoint : '.' ∉ Nat.toDigits 10 value := fun mem =>
    absurd (Nat.isDigit_of_mem_toDigits (by decide) le_rfl mem) (by decide)
  simp [numberValue, noPoint, parseI64_toDigits small, Except.map]

variable {val : ScalarVal Float64}

lemma parseValue_number {digits} (read : numberValue format digits = .ok val) (rest) :
    parseValue format (.number digits :: rest) = .ok ⟨val, rest, Nat.lt_succ_self _⟩ := by
  rw [parseValue, read]
  rfl

lemma parseValue_minus {tokens after : List Token} {negated shorter}
    (parsed : parseValue format tokens = .ok ⟨val, after, shorter⟩)
    (negates : negate format val = .ok negated) : parseValue format (.minus :: tokens) =
      .ok ⟨negated, after, Nat.lt_succ_of_lt shorter⟩ := by
  simp only [parseValue, parsed, negates]
  rfl

variable {tokens rest : List Token}

lemma parseValue_tokens (printable : val.Printable) (starts : tokens = val.tokens ++ rest) :
    ∃ below, parseValue format tokens = .ok ⟨val, rest, below⟩ := by
  cases val with
  | null => exact starts ▸ ⟨_, rfl⟩
  | bool value => cases value <;> exact starts ▸ ⟨_, rfl⟩
  | string value => exact starts ▸ ⟨_, rfl⟩
  | float64 value => exact printable.elim
  | int64 value =>
    have small : value.natAbs < 2 ^ 63 := by
      have bounds := printable
      simp only [ScalarVal.Printable] at bounds
      omega
    have num : numberValue format _ = _ := numberValue_toDigits small
    rw [ScalarVal.tokens, intTokens] at starts
    split at starts <;> subst starts
    · have same : -(value.natAbs : Int) = value := by omega
      exact ⟨_, parseValue_minus (parseValue_number num rest) (by rw [negate, same])⟩
    · have same : (value.natAbs : Int) = value := by omega
      rw [same] at num
      exact ⟨_, parseValue_number num rest⟩

variable {isOperator : Token → Bool} {connect : Expr Float64 → Expr Float64 → Expr Float64}

section

variable {limit : Nat}
    {operand : (tokens : List Token) → tokens.length < limit → Except String (Parsed (Expr Float64)
      tokens.length)}

lemma parseChain_stop (stops : isOperator (current tokens) = false) :
    parseChain isOperator connect limit operand left tokens below = .ok ⟨left, tokens, below⟩ := by
  cases tokens with
  | nil => rw [parseChain]
  | cons token rest =>
    have noOperator : isOperator token = false := stops
    simp [parseChain, noOperator]

lemma parseChain_operator {left right token after below} (isOp : isOperator token = true)
    (parsed : ∃ shorter, operand rest (Nat.lt_of_succ_lt below) = .ok ⟨right, after, shorter⟩) :
    ∃ afterBelow, parseChain isOperator connect limit operand left (token :: rest) below =
      parseChain isOperator connect limit operand (connect left right) after afterBelow := by
  obtain ⟨shorter, parsed⟩ := parsed
  refine ⟨shorter.trans (Nat.lt_of_succ_lt below), ?_⟩
  rw [parseChain]
  simp only [isOp, if_true, parsed]

end

variable (format)

/-- An operand is parsed by `parse_not`. -/
def ParsesOperand (expr : Expr Float64) : Prop :=
  ∀ tokens rest, tokens = expr.tokensAt 2 ++ rest →
    ∃ below, parseNot format tokens = .ok ⟨expr, rest, below⟩

/-- After a conjunction the parser is where it would be after its left operand,
and goes on with what follows. -/
def ParsesConjunction (expr : Expr Float64) : Prop :=
  ∀ tokens rest, tokens = expr.tokensAt 1 ++ rest →
    ∃ below, parseAnd format tokens =
      parseChain Token.isAnd .and tokens.length
        (fun operand _ => parseNot format operand) expr rest below

/-- After a disjunction the parser is where it would be after its left operand. -/
def ParsesDisjunction (expr : Expr Float64) : Prop :=
  ∀ tokens rest, tokens = expr.tokensAt 0 ++ rest →
    (current rest).isAnd = false →
    ∃ below, parseOr format tokens =
      parseChain Token.isOr .or tokens.length
        (fun operand _ => parseAnd format operand) expr rest below

variable {format} {expr : Expr Float64}

lemma ParsesOperand.conjunction (operand : ParsesOperand format expr)
    (same : expr.tokensAt 1 = expr.tokensAt 2) : ParsesConjunction format expr := by
  intro tokens rest starts
  rw [same] at starts
  obtain ⟨below, parsed⟩ := operand tokens rest starts
  exact ⟨below, by rw [parseAnd, parsed]⟩

lemma ParsesConjunction.parseAnd_eq (conjunction : ParsesConjunction format expr)
    (starts : tokens = expr.tokensAt 1 ++ rest) (ends : (current rest).isAnd = false) :
    ∃ below, parseAnd format tokens = .ok ⟨expr, rest, below⟩ := by
  obtain ⟨below, parsed⟩ := conjunction tokens rest starts
  exact ⟨below, parsed.trans (parseChain_stop ends)⟩

lemma ParsesConjunction.disjunction (conjunction : ParsesConjunction format expr)
    (same : expr.tokensAt 0 = expr.tokensAt 1) : ParsesDisjunction format expr := by
  intro tokens rest starts ends
  rw [same] at starts
  obtain ⟨below, parsed⟩ := conjunction.parseAnd_eq starts ends
  exact ⟨below, by rw [parseOr, parsed]⟩

lemma ParsesDisjunction.operand (disjunction : ParsesDisjunction format expr)
    (parenthesized : expr.tokensAt 2 = .lParen :: (expr.tokensAt 0 ++ [.rParen])) :
    ParsesOperand format expr := by
  intro tokens rest starts
  rw [parenthesized, cons_append, append_assoc] at starts
  obtain ⟨below, parsed⟩ := disjunction _ ([.rParen] ++ rest) rfl rfl
  rw [parseChain_stop rfl] at parsed
  subst starts
  refine ⟨Nat.lt_add_right 1 (Nat.lt_of_succ_lt below), ?_⟩
  rw [parseNot, if_neg (by decide), parsePrimary, parsed]
  rfl

lemma isNot_columnName (named : isColumnName name = true) : (Token.ident name).isNot = false := by
  obtain ⟨letters, _, _, notNot⟩ := isColumnName_spec named
  have lower := lowercase_of_isNameChar letters
  rw [String.ofList_toList] at lower
  simp [Token.isNot, Token.isWord, lower, notNot]

lemma parsesOperand_comparison (printable : (Expr.comparison col op val).Printable) :
    ParsesOperand format (.comparison col op val) := by
  intro tokens rest starts
  obtain ⟨below, parsed⟩ : ∃ below, parseValue format (val.tokens ++ rest) =
      .ok ⟨val, rest, below⟩ := parseValue_tokens printable.2 rfl
  simp only [Expr.tokensAt, cons_append] at starts
  subst starts
  refine ⟨Nat.lt_add_right 2 below, ?_⟩
  rw [parseNot, if_neg (by simp [isNot_columnName printable.1]), parsePrimary, parseComparison]
  simp only [Token.columnName?, Token.compareOp?, parsed]

/-- The three levels of the parser, by induction on the filter. -/
lemma parses (printable : expr.Printable) :
    ParsesOperand format expr ∧ ParsesConjunction format expr ∧ ParsesDisjunction format expr := by
  induction expr with
  | comparison col op val =>
    have operand : ParsesOperand format (.comparison col op val) :=
      parsesOperand_comparison printable
    have conjunction := operand.conjunction rfl
    exact ⟨operand, conjunction, conjunction.disjunction rfl⟩
  | not inner ih =>
    have operand : ParsesOperand format inner.not := by
      intro tokens rest starts
      obtain ⟨below, parsed⟩ := (ih printable).1 _ rest rfl
      simp only [Expr.tokensAt, cons_append] at starts
      subst starts
      exact ⟨_, by rw [parseNot, if_pos (by decide), parsed]⟩
    have conjunction := operand.conjunction rfl
    exact ⟨operand, conjunction, conjunction.disjunction rfl⟩
  | and left right leftIh rightIh =>
    have conjunction : ParsesConjunction format (left.and right) := by
      intro tokens rest starts
      have parts : tokens = left.tokensAt 1 ++ (.and :: (right.tokensAt 2 ++ rest)) := by
        simpa [Expr.tokensAt, parenthesize] using starts
      obtain ⟨below, parsed⟩ := (leftIh printable.1).2.1 _ _ parts
      rw [parsed]
      exact parseChain_operator rfl ((rightIh printable.2).1 _ rest rfl)
    have disjunction := conjunction.disjunction rfl
    exact ⟨disjunction.operand rfl, conjunction, disjunction⟩
  | or left right leftIh rightIh =>
    have disjunction : ParsesDisjunction format (left.or right) := by
      intro tokens rest starts ends
      have parts : tokens = left.tokensAt 0 ++ (.or :: (right.tokensAt 1 ++ rest)) := by
        simpa [Expr.tokensAt, parenthesize] using starts
      obtain ⟨below, parsed⟩ := (leftIh printable.1).2.2 _ _ parts rfl
      rw [parsed]
      exact parseChain_operator rfl ((rightIh printable.2).2.1.parseAnd_eq rfl ends)
    have operand := disjunction.operand rfl
    exact ⟨operand, operand.conjunction rfl, disjunction⟩

end Parser

/-- A printed filter is parsed back. -/
theorem Expr.parse_print {Float64 : Type*} (format : TextFormat Float64) (expr : Expr Float64)
    (printable : expr.Printable) : Expr.parse format (expr.print format) = .ok expr := by
  have cut := lexes_printAt format 0 printable [] separated_nil
  have parses : Parser.ParsesDisjunction format expr := (Parser.parses printable).2.2
  obtain ⟨below, parsed⟩ := parses _ [.eof] rfl rfl
  rw [Parser.parseChain_stop rfl] at parsed
  have tokens : tokenize (expr.print format) = .ok (expr.tokensAt 0 ++ [.eof]) := by
    rw [tokenize, Expr.print, String.toList_ofList]
    rw [append_nil, tokenizeFrom] at cut
    exact cut
  simp only [Expr.parse, tokens, Parser.parse, parsed, Parser.current]
  rfl

private def wholeNumbers : TextFormat Empty :=
  ⟨fun _ => .error "invalid float literal", id, fun _ => "", id⟩

private def nested : Expr Empty :=
  .and (.not (.or (.comparison "a" .eq (.int64 (-5)))
      (.comparison "b" .ne (.string "\""))))
    (.comparison "c" .le .null)

theorem nested_parsed : nested.print wholeNumbers = "NOT (a = -5 OR b != \"\\\"\") AND c <= null" ∧
      Expr.parse wholeNumbers (nested.print wholeNumbers) = .ok nested :=
  ⟨by decide +kernel, Expr.parse_print wholeNumbers nested
      (by simp [nested, Expr.Printable, ScalarVal.Printable]; decide +kernel)⟩

end RockDuck
