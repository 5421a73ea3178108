import RockDuck.FilterExpr
import RockDuck.TimeTravelClause

/-!
# Parsing of filter expressions

A filter is written as text.
-/

namespace RockDuck

/-- How floating-point numbers are read, negated and shown, and how a string is
shown between quotes. -/
structure TextFormat (Float64 : Type*) where
  parseF64 : String → Except String Float64
  negF64 : Float64 → Float64
  debugF64 : Float64 → String
  debugString : String → String

/-- A token.  Words are in lower case. -/
inductive Token where
  | ident (name : String)
  | string (value : String)
  | number (digits : String)
  | op (compareOp : CompareOp)
  | and
  | or
  | not
  | minus
  | lParen
  | rParen
  | eof
  deriving DecidableEq

/-- What is left of a text of the given length after a token.  White space makes
no token. -/
structure Lexed (length : Nat) where
  token : Option Token
  rest : List Char
  shorter : rest.length ≤ length

/-- The value of a string literal and what follows its closing quote. -/
def scanString : List Char → Option (List Char × List Char)
  | [] => none
  | '"' :: rest => some ([], rest)
  | '\\' :: [] => none
  | '\\' :: escaped :: rest =>
    let character :=
      match escaped with
      | 'n' => '\n'
      | 't' => '\t'
      | 'r' => '\r'
      | other => other
    (scanString rest).map fun found => (character :: found.1, found.2)
  | character :: rest => (scanString rest).map fun found => (character :: found.1, found.2)

lemma scanString_shorter {text val rest}
    (scanned : scanString text = some (val, rest)) : rest.length ≤ text.length := by
  induction text using scanString.induct generalizing val with
  | case1 => simp [scanString] at scanned
  | case2 text =>
    simp only [scanString, Option.some.injEq, Prod.mk.injEq] at scanned
    simp [scanned.2]
  | case3 => simp [scanString] at scanned
  | case4 escaped text ih =>
    obtain ⟨found, inner, same⟩ := Option.map_eq_some_iff.mp scanned
    obtain ⟨val, left⟩ := found
    cases same
    exact (ih inner).trans (Nat.le_add_right _ 2)
  | case5 char text noQuote noEnd noEscape ih =>
    rw [scanString] at scanned
    · obtain ⟨found, inner, same⟩ := Option.map_eq_some_iff.mp scanned
      obtain ⟨val, left⟩ := found
      cases same
      exact (ih inner).trans (Nat.le_succ _)
    all_goals assumption

/-- Digits, with one dot at most. -/
def scanNumber (hasDot : Bool) : List Char → List Char × List Char
  | [] => ([], [])
  | character :: rest =>
    if character.isDigit then
      let found := scanNumber hasDot rest
      (character :: found.1, found.2)
    else if character = '.' ∧ hasDot = false then
      let found := scanNumber true rest
      (character :: found.1, found.2)
    else ([], character :: rest)

lemma scanNumber_shorter (hasDot : Bool) (text) :
    (scanNumber hasDot text).2.length ≤ text.length := by
  induction text generalizing hasDot with
  | nil => rfl
  | cons char text ih =>
    unfold scanNumber
    split
    · exact (ih hasDot).trans (Nat.le_succ _)
    · split
      · exact (ih true).trans (Nat.le_succ _)
      · rfl

def lowercase (text : List Char) : String :=
  String.ofList (text.map Char.toLower)

/-- A word is a keyword or an identifier. -/
def wordToken (word : List Char) : Token :=
  let ident := lowercase word
  if ident = "and" then .and
  else if ident = "or" then .or
  else if ident = "not" then .not
  else .ident ident

namespace Lexed

def one (token : Token) (rest : List Char) : Lexed rest.length :=
  ⟨some token, rest, le_rfl⟩

/-- A sign that may be followed by another. -/
def either (next : Char) (long short : Token) (rest : List Char) : Lexed rest.length :=
  match rest with
  | [] => one short []
  | character :: rest =>
    if character = next then ⟨some long, rest, by simp⟩
    else one short (character :: rest)

end Lexed

/-- A string, after its opening quote. -/
def lexString (rest : List Char) : Except String (Lexed rest.length) :=
  match scanned : scanString rest with
  | none => .error "Unterminated string literal"
  | some (value, after) =>
    .ok ⟨some (.string (String.ofList value)), after, scanString_shorter scanned⟩

/-- A sign that must come twice. -/
def lexDoubled (sign : Char) (token : Token) (message : String)
    (rest : List Char) : Except String (Lexed rest.length) :=
  match rest with
  | [] => .error message
  | character :: rest =>
    if character = sign then .ok ⟨some token, rest, by simp⟩
    else .error message

/-- The token that starts with a character, or none for a blank. -/
def lexToken (first : Char) (rest : List Char) : Except String (Lexed rest.length) :=
  match first with
  | ' ' | '\t' | '\n' | '\r' => .ok ⟨none, rest, le_rfl⟩
  | '"' => lexString rest
  | '(' => .ok (.one .lParen rest)
  | ')' => .ok (.one .rParen rest)
  | '!' => .ok (.either '=' (.op .ne) .not rest)
  | '=' => .ok (.either '=' (.op .eq) (.op .eq) rest)
  | '<' => .ok (.either '=' (.op .le) (.op .lt) rest)
  | '>' => .ok (.either '=' (.op .ge) (.op .gt) rest)
  | '&' => lexDoubled '&' .and "Unexpected '&'. Use '&&' for AND." rest
  | '|' => lexDoubled '|' .or "Unexpected '|'. Use '||' for OR." rest
  | '-' => .ok (.one .minus rest)
  | first =>
    if first.isAlpha || first == '_' then
      .ok ⟨some (wordToken (first :: rest.takeWhile isTokenChar)),
        rest.dropWhile isTokenChar, List.length_dropWhile_le _ _⟩
    else if first.isDigit then
      .ok ⟨some (.number (String.ofList (first :: (scanNumber false rest).1))),
        (scanNumber false rest).2, scanNumber_shorter false rest⟩
    else .error s!"Unexpected character: '{first}'"

def tokenizeFrom : List Char → Except String (List Token)
  | [] => .ok [.eof]
  | first :: rest =>
    match lexToken first rest with
    | .error error => .error error
    | .ok lexed =>
      (tokenizeFrom lexed.rest).map fun tokens => lexed.token.toList ++ tokens
termination_by text => text.length
decreasing_by
  exact Nat.lt_succ_of_le lexed.shorter

/-- The tokens of a text. -/
def tokenize (text : String) : Except String (List Token) :=
  tokenizeFrom text.toList

section Debug

variable {Float64 : Type*} (format : TextFormat Float64)

def Token.debug : Token → String
  | ident name => "Ident(" ++ format.debugString name ++ ")"
  | string value => "String(" ++ format.debugString value ++ ")"
  | number digits => "Number(" ++ format.debugString digits ++ ")"
  | .op compareOp => "Op(" ++ compareOp.debug ++ ")"
  | and => "And"
  | or => "Or"
  | not => "Not"
  | minus => "Minus"
  | lParen => "LParen"
  | rParen => "RParen"
  | eof => "Eof"

def ScalarVal.debug : ScalarVal Float64 → String
  | null => "Null"
  | bool value => s!"Bool({value})"
  | int64 value => s!"Int64({value})"
  | float64 value => "Float64(" ++ format.debugF64 value ++ ")"
  | string value => "String(" ++ format.debugString value ++ ")"

end Debug

namespace Token

/-- The token is an identifier that spells the word in any case. -/
def isWord (word : String) : Token → Bool
  | ident name => decide (lowercase name.toList = word)
  | _ => false

def isAnd (token : Token) : Bool :=
  decide (token = and) || token.isWord "and"

def isOr (token : Token) : Bool :=
  decide (token = or) || token.isWord "or"

def isNot (token : Token) : Bool :=
  decide (token = not) || token.isWord "not"

def columnName? : Token → Option String
  | ident name => some name
  | number digits => some digits
  | _ => none

/-- The comparison that a token stands for, as a sign or a word. -/
def compareOp? : Token → Option CompareOp
  | .op compareOp => some compareOp
  | ident name =>
    match lowercase name.toList with
    | "eq" => some .eq
    | "ne" | "neq" => some .ne
    | "lt" => some .lt
    | "le" | "lte" => some .le
    | "gt" => some .gt
    | "ge" | "gte" => some .ge
    | _ => none
  | _ => none

end Token

/-- `i64::from_str` on digits. -/
def parseI64 (text : List Char) : Except String Int :=
  if text = [] then .error "cannot parse integer from empty string"
  else
    match digitsValue 10 text with
    | none => .error "invalid digit found in string"
    | some value =>
      if value < 2 ^ 63 then .ok value
      else .error "number too large to fit in target type"

namespace Parser

/-- A value, and what is left of fewer than the given number of tokens. -/
structure Parsed (Value : Type*) (limit : Nat) where
  value : Value
  rest : List Token
  shorter : rest.length < limit

variable {Float64 : Type*} (format : TextFormat Float64)

def current : List Token → Token
  | [] => .eof
  | token :: _ => token

/-- The constant that a word stands for. -/
def wordValue (word : String) : ScalarVal Float64 :=
  match lowercase word.toList with
  | "null" => .null
  | "true" => .bool true
  | "false" => .bool false
  | other =>
    match parseI64 other.toList with
    | .ok value => .int64 value
    | .error _ =>
      match format.parseF64 other with
      | .ok value => .float64 value
      | .error _ => .string word

/-- A number with a dot is a float. -/
def numberValue (digits : String) : Except String (ScalarVal Float64) :=
  if digits.toList.contains '.' then
    (format.parseF64 digits).map .float64
  else (parseI64 digits.toList).map .int64

def negate : ScalarVal Float64 → Except String (ScalarVal Float64)
  | .int64 value => .ok (.int64 (-value))
  | .float64 value => .ok (.float64 (format.negF64 value))
  | other =>
    .error ("Unary minus cannot be applied to " ++ other.debug format)

/-- Parse a constant. -/
def parseValue : (tokens : List Token) → Except String (Parsed (ScalarVal Float64) tokens.length)
  | .ident word :: rest => .ok ⟨wordValue format word, rest, by simp⟩
  | .number digits :: rest => (numberValue format digits).map fun value => ⟨value, rest, by simp⟩
  | .minus :: rest =>
    match parseValue rest with
    | .error error => .error error
    | .ok parsed =>
      (negate format parsed.value).map fun value =>
        ⟨value, parsed.rest, Nat.lt_succ_of_lt parsed.shorter⟩
  | .string value :: rest => .ok ⟨.string value, rest, by simp⟩
  | tokens =>
    .error ("Expected value, got " ++ (current tokens).debug format)

/-- Parse a column name, a comparison and a constant. -/
def parseComparison (tokens : List Token) : Except String (Parsed (Expr Float64) tokens.length) :=
  match tokens with
  | [] => .error ("Expected column name, got " ++ Token.eof.debug format)
  | column :: rest =>
    match column.columnName? with
    | none => .error ("Expected column name, got " ++ column.debug format)
    | some col =>
      match rest with
      | [] => .error ("Expected operator, got " ++ Token.eof.debug format)
      | operator :: rest =>
        match operator.compareOp? with
        | none =>
          .error ("Expected operator, got " ++ operator.debug format)
        | some op =>
          match parseValue format rest with
          | .error error => .error error
          | .ok parsed =>
            .ok ⟨.comparison col op parsed.value, parsed.rest, Nat.lt_add_right 2 parsed.shorter⟩

/-- Parse operands while the operator follows, joined to the left. -/
def parseChain (isOperator : Token → Bool) (connect : Expr Float64 → Expr Float64 → Expr Float64)
    (limit : Nat) (operand : (tokens : List Token) → tokens.length < limit →
      Except String (Parsed (Expr Float64) tokens.length)) (left : Expr Float64)
    (tokens : List Token) (below : tokens.length < limit) :
    Except String (Parsed (Expr Float64) limit) :=
  match tokens with
  | [] => .ok ⟨left, [], below⟩
  | token :: rest =>
    if isOperator token then
      have restBelow : rest.length < limit := (Nat.lt_succ_self _).trans below
      match operand rest restBelow with
      | .error error => .error error
      | .ok right =>
        parseChain isOperator connect limit operand
          (connect left right.value) right.rest
          (right.shorter.trans restBelow)
    else .ok ⟨left, token :: rest, below⟩
termination_by tokens.length
decreasing_by exact Nat.lt_succ_of_lt right.shorter

/-- Expect the closing parenthesis. -/
def closeParen {limit : Nat} (inner : Parsed (Expr Float64) limit) :
    Except String (Parsed (Expr Float64) (limit + 1)) :=
  match inner with
  | ⟨_, [], _⟩ => .error ("Expected ')', got " ++ Token.eof.debug format)
  | ⟨expr, token :: after, shorter⟩ =>
    if token = .rParen then
      .ok ⟨expr, after, Nat.lt_succ_of_lt (Nat.lt_of_succ_lt shorter)⟩
    else .error ("Expected ')', got " ++ token.debug format)

mutual

def parseOr (tokens : List Token) : Except String (Parsed (Expr Float64) tokens.length) :=
  match parseAnd tokens with
  | .error error => .error error
  | .ok left =>
    parseChain Token.isOr .or tokens.length
      (fun operand _ => parseAnd operand) left.value left.rest left.shorter
termination_by (tokens.length, 3)

def parseAnd (tokens : List Token) : Except String (Parsed (Expr Float64) tokens.length) :=
  match parseNot tokens with
  | .error error => .error error
  | .ok left =>
    parseChain Token.isAnd .and tokens.length
      (fun operand _ => parseNot operand) left.value left.rest left.shorter
termination_by (tokens.length, 2)

def parseNot (tokens : List Token) : Except String (Parsed (Expr Float64) tokens.length) :=
  match tokens with
  | [] => parsePrimary []
  | token :: rest =>
    if token.isNot then
      match parseNot rest with
      | .error error => .error error
      | .ok inner => .ok ⟨.not inner.value, inner.rest, Nat.lt_succ_of_lt inner.shorter⟩
    else parsePrimary (token :: rest)
termination_by (tokens.length, 1)

def parsePrimary (tokens : List Token) : Except String (Parsed (Expr Float64) tokens.length) :=
  match tokens with
  | .lParen :: rest =>
    match parseOr rest with
    | .error error => .error error
    | .ok inner => closeParen format inner
  | .ident name :: rest => parseComparison format (.ident name :: rest)
  | .number digits :: rest => parseComparison format (.number digits :: rest)
  | .string value :: rest => parseComparison format (.string value :: rest)
  | others =>
    .error ("Unexpected token in primary: " ++ (current others).debug format)
termination_by (tokens.length, 0)

end

/-- Parse all tokens. -/
def parse (tokens : List Token) : Except String (Expr Float64) :=
  match parseOr format tokens with
  | .error error => .error error
  | .ok parsed =>
    if current parsed.rest ≠ .eof then
      .error ("Unexpected token: " ++ (current parsed.rest).debug format)
    else .ok parsed.value

end Parser

/-- Parse a filter from its text. -/
def Expr.parse {Float64 : Type*} (format : TextFormat Float64)
    (text : String) : Except String (Expr Float64) :=
  match tokenize text with
  | .error error => .error error
  | .ok tokens => Parser.parse format tokens

end RockDuck
