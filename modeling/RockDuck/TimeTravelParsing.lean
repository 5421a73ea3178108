import RockDuck.TimeTravelClause

/-!
# What the time-travel parser reads

A query is put together from a text, a clause and another text, and the parser
is asked for the number of the clause and the two texts without it.
-/

namespace RockDuck

open List

def spelledKeywords : List Char := "AS OF TxnId".toList

variable (uppercase : UppercaseMapping)

lemma text_spelledKeywords : uppercase.text spelledKeywords = clauseKeywords := by
  rw [uppercase.text_of_ascii rfl]
  rfl

/-- A transaction id as it is written. -/
inductive TxnIdLiteral where
  | decimal (digits : List Char)
  | hex (digits : List Char)

namespace TxnIdLiteral

def digits : TxnIdLiteral → List Char
  | decimal digits => digits
  | hex digits => digits

def text : TxnIdLiteral → List Char
  | decimal digits => digits
  | hex digits => '0' :: 'x' :: digits

def value : TxnIdLiteral → Option Nat
  | decimal digits => digitsValue 10 digits
  | hex digits => digitsValue 16 digits

def FitsSuffix (after : List Char) : TxnIdLiteral → Prop
  | decimal _ => True
  | hex digits => (after.rtakeWhile isHexDigit).length = digits.length

end TxnIdLiteral

/-- A query with a clause. -/
def clauseQuery (before : List Char) (literal : TxnIdLiteral) (after : List Char) : List Char :=
  (before ++ [' ']) ++
    (spelledKeywords ++ (' ' :: (literal.text ++ ' ' :: after)))

lemma findText_clauseQuery {before} (lit after)
    (absent : ¬ clauseKeywords <:+: uppercase.text before) : findText clauseKeywords
        (uppercase.text (clauseQuery before lit after)) =
      some (byteLength (uppercase.text before) + 1) := by
  have blank : uppercase.text [' '] = [' '] := uppercase.text_of_ascii rfl
  have shape : clauseKeywords = "AS OF TXNI".toList ++ ['D'] := rfl
  rw [clauseQuery, uppercase.text_append, uppercase.text_append, blank,
    uppercase.text_append, text_spelledKeywords, shape, findText_append]
  · simp
    rfl
  · decide
  · intro occurs
    exact absent (infix_of_infix_append (by decide) occurs)

/-- A number read behind the keywords, as the text in front of it and behind
it. -/
structure ClauseReading (sql : List Char) (txnId : Nat) where
  before : List Char
  keywords : List Char
  gap : List Char
  number : List Char
  after : List Char
  split : sql = before ++ (keywords ++ (gap ++ (number ++ after)))
  keywordsLength : byteLength keywords = byteLength clauseKeywords
  boundary : before.getLast?.any isTokenChar = false
  gapBlank : ∀ character ∈ gap, isWhitespace character = true
  numberLength : byteLength number = numberBytes (number ++ after)
  parsed : parseTxnId number = .ok txnId
  trailing : after.head?.any isTokenChar = false

variable {txnId : Nat}

lemma exists_clauseReading {uppercase sql stripped}
    (parsed : parseTimeTravel uppercase sql = some (.ok (stripped, some txnId))) :
    ∃ reading : ClauseReading sql txnId, findText clauseKeywords (uppercase.text sql) =
          some (byteLength reading.before) ∧
        stripped = joinAround reading.before reading.after := by
  unfold parseTimeTravel at parsed
  split at parsed
  · simp at parsed
  · rename_i asOfPos found
    simp only [Option.bind_eq_bind, Option.bind_eq_some_iff] at parsed
    obtain ⟨⟨before, rest⟩, cutBefore, parsed⟩ := parsed
    split at parsed
    · simp at parsed
    · rename_i boundary
      simp only [Option.bind_eq_some_iff] at parsed
      obtain ⟨⟨head, afterKeywords⟩, cutKeywords, parsed⟩ := parsed
      split at parsed
      · simp at parsed
      · simp only [Option.bind_eq_some_iff] at parsed
        obtain ⟨⟨number, after⟩, cutNumber, parsed⟩ := parsed
        obtain ⟨keywords, rfl, restEq, keywordsLength⟩ := splitAtByte_add cutBefore cutKeywords
        obtain ⟨whole, pos⟩ := splitAtByte_eq_some_iff.mp cutBefore
        obtain ⟨remaining, numberLength⟩ := splitAtByte_eq_some_iff.mp cutNumber
        have gapEq : afterKeywords = afterKeywords.takeWhile isWhitespace ++ (number ++ after) := by
          rw [← remaining, takeWhile_append_dropWhile]
        split at parsed
        · simp at parsed
        · split at parsed
          · simp at parsed
          · rename_i found' parsedNumber
            split at parsed
            · simp at parsed
            · rename_i trailing
              simp only [pure, Option.some.injEq, Except.ok.injEq, Prod.mk.injEq] at parsed
              obtain ⟨rfl, rfl⟩ := parsed
              refine ⟨{
                before := before
                keywords := keywords
                gap := afterKeywords.takeWhile isWhitespace
                number := number
                after := after
                split := by rw [whole, restEq, ← gapEq]
                keywordsLength := keywordsLength
                boundary := by simpa using boundary
                gapBlank := fun char => mem_takeWhile_imp
                numberLength := by rw [numberLength, remaining]
                parsed := parsedNumber
                trailing := by simpa using trailing }, ?_, rfl⟩
              rw [found, pos]

namespace ClauseReading

variable {sql : List Char} {txnId : Nat} (reading : ClauseReading sql txnId)

lemma number_shape : (∃ digit rest, reading.number = digit :: rest ∧ digit.isDigit = true) ∧
      ' ' ∉ reading.number := by
  rcases parseTxnId_ok reading.parsed with ⟨marked, value⟩ | ⟨unmarked, value⟩
  · obtain ⟨mark, digits, shape, markEq⟩ := hasHexMark_iff.mp marked
    rw [shape] at value ⊢
    refine ⟨⟨'0', mark :: digits, rfl, rfl⟩, ?_⟩
    have all := parseU64_forall digitValue_sixteen value
    simp only [drop_succ_cons, drop_zero] at all
    intro blank
    simp only [mem_cons, Char.reduceEq, false_or] at blank
    rcases blank with rfl | member
    · simp at markEq
    · rcases all ' ' member with plus | digit
      · simp at plus
      · exact absurd digit (by decide)
  · have all := parseU64_forall digitValue_ten value
    have ne : reading.number ≠ [] := by
      intro empty
      simp [empty, parseU64, withoutPlus] at value
    obtain ⟨first, rest, shape⟩ := exists_cons_of_ne_nil ne
    refine ⟨⟨first, rest, shape, ?_⟩, ?_⟩
    · -- A sign would not have been taken as part of the number.
      cases marked : hasHexMark (reading.number ++ reading.after) with
      | true =>
        obtain ⟨mark, others, whole, -⟩ := hasHexMark_iff.mp marked
        rw [shape, cons_append, List.cons.injEq] at whole
        rw [whole.1]
        decide
      | false =>
        have length := reading.numberLength
        rw [numberBytes_of_not_hexMark marked] at length
        have same := (append_inj_of_byteLength_eq (takeWhile_append_dropWhile (p := Char.isDigit)
            (l := reading.number ++ reading.after)) length.symm).1
        have member : first ∈ (reading.number ++ reading.after).takeWhile Char.isDigit := by
          rw [same, shape]
          simp
        exact mem_takeWhile_imp member
    · intro blank
      rcases all ' ' blank with plus | digit
      · simp at plus
      · exact absurd digit (by decide)

lemma number_eq_of_word (same : reading.number ++ reading.after = word ++ ' ' :: rest)
    (tokens : ∀ char ∈ word, isTokenChar char = true) :
    reading.number = word ∧ reading.after = ' ' :: rest := by
  rcases append_eq_append_iff.mp same with ⟨more, wordEq, afterEq⟩ | ⟨more, numberEq, restEq⟩
  · cases more with
    | nil => exact ⟨by simpa using wordEq.symm, by simpa using afterEq⟩
    | cons char more =>
      have token := tokens char (by simp [wordEq])
      have trailing := reading.trailing
      rw [afterEq] at trailing
      simp [token] at trailing
  · cases more with
    | nil => exact ⟨by simpa using numberEq, by simpa using restEq.symm⟩
    | cons char more =>
      simp only [cons_append, List.cons.injEq] at restEq
      have blank : ' ' ∈ reading.number := by
        rw [numberEq]
        simp [← restEq.1]
      exact absurd blank reading.number_shape.2

lemma prefix_of_no_digits (same : front ++ (reading.number ++ reading.after) = region ++ back)
    (noDigits : region.all fun char => !char.isDigit) : region <+: front := by
  obtain ⟨digit, rest, shape, isDigit⟩ := reading.number_shape.1
  rcases append_eq_append_iff.mp same with ⟨more, regionEq, numberEq⟩ | ⟨more, frontEq, -⟩
  · cases more with
    | nil => exact ⟨[], by simpa using regionEq⟩
    | cons char more =>
      rw [shape, cons_append, cons_append, List.cons.injEq] at numberEq
      have absent := all_eq_true.mp noDigits char (by simp [regionEq])
      rw [← numberEq.1, isDigit] at absent
      cases absent
  · exact ⟨more, frontEq.symm⟩

end ClauseReading

private lemma spelledKeywords_eq : spelledKeywords = 'A' :: ("S OF TxnI".toList ++ ['d']) :=
  rfl

private lemma spelledKeywords_concat : spelledKeywords = "AS OF TxnI".toList ++ ['d'] :=
  rfl

private lemma byteLength_spelledKeywords :
    byteLength spelledKeywords = byteLength clauseKeywords := by
  decide

lemma spelledKeywords_infix_trimText (occurs : spelledKeywords <:+: text) :
    spelledKeywords <:+: trimText text := by
  obtain ⟨lead, trail, whole, leadBlank, trailBlank⟩ := exists_trimBy isWhitespace text
  rw [whole] at occurs
  have inTrimmed : spelledKeywords <:+: trimText text ++ trail := by
    rw [spelledKeywords_eq] at occurs ⊢
    refine infix_of_append_infix (fun mem => ?_) occurs
    have := leadBlank 'A' mem
    revert this
    decide
  rw [spelledKeywords_concat] at inTrimmed ⊢
  refine infix_of_infix_append (fun mem => ?_) inTrimmed
  have := trailBlank 'd' mem
  revert this
  decide

lemma clauseKeywords_infix_of_spelled {text} (occurs : spelledKeywords <:+: text) :
    clauseKeywords <:+: uppercase.text text := by
  obtain ⟨front, back, rfl⟩ := occurs
  refine ⟨uppercase.text front, uppercase.text back, ?_⟩
  rw [← text_spelledKeywords uppercase, uppercase.text_append, uppercase.text_append]

/-- A query that keeps its keywords in the text behind the cut is not the
query without its clause. -/
lemma joinAround_ne_of_keywords {before after front middle}
    (absent : ¬ spelledKeywords <:+: before) (occurs : spelledKeywords <:+: middle) :
    joinAround front (middle ++ after) ≠ joinAround before after := by
  intro same
  have kept : spelledKeywords <:+: trimText middle := spelledKeywords_infix_trimText occurs
  have ne : trimBy isWhitespace middle ≠ [] := by
    intro none
    rw [trimText, none, spelledKeywords_eq] at kept
    simp at kept
  -- The text behind ends in the same way on both sides.
  obtain ⟨separator, trimmed⟩ := exists_trimBy_append ne after
  obtain ⟨gap, -, glued⟩ := exists_glueTexts (trimText front) (trimText (middle ++ after))
  obtain ⟨gap', gapShape', glued'⟩ := exists_glueTexts (trimText before) (trimText after)
  have starts : (trimText front ++ gap ++ trimText middle ++ separator) ++
      trimText after = (trimText before ++ gap') ++ trimText after := by
    rw [joinAround, joinAround, glued, glued',
      show trimText (middle ++ after) = _ from trimmed] at same
    simpa [trimText] using same
  have inBefore : spelledKeywords <:+: trimText before ++ gap' := by
    rw [← append_cancel_right starts]
    exact kept.trans ⟨trimText front ++ gap, separator, rfl⟩
  have inTrimmed : spelledKeywords <:+: trimText before := by
    rw [spelledKeywords_concat] at inBefore ⊢
    refine infix_of_infix_append ?_ inBefore
    rcases gapShape' with rfl | rfl <;> decide
  obtain ⟨lead, trail, whole, -, -⟩ := exists_trimBy isWhitespace before
  exact absent (inTrimmed.trans ⟨lead, trail, by
    rw [trimText, append_assoc]
    exact whole.symm⟩)

namespace TxnIdLiteral

variable {lit : TxnIdLiteral}

lemma digits_forall (valued : lit.value = some txnId) :
    ∀ char ∈ lit.text, isTokenChar char = true := by
  cases lit with
  | decimal digits =>
    exact digitsValue_forall (fun digit => isTokenChar_of_isDigit (digitValue_ten digit)) valued
  | hex digits =>
    have all := digitsValue_forall
      (fun digit => isTokenChar_of_isHexDigit (digitValue_sixteen digit))
      valued
    simp only [text, mem_cons, forall_eq_or_imp]
    exact ⟨by decide, by decide, all⟩

lemma text_ne_nil (ne : lit.digits ≠ []) : lit.text ≠ [] := by
  cases lit with
  | decimal digits => exact ne
  | hex digits => simp [text]

lemma dropWhile_text (valued : lit.value = some txnId) (ne : lit.digits ≠ []) (after) :
    (' ' :: (lit.text ++ after)).dropWhile isWhitespace = lit.text ++ after := by
  obtain ⟨first, rest, shape⟩ := exists_cons_of_ne_nil (text_ne_nil ne)
  have kept := isWhitespace_of_isTokenChar (digits_forall valued first (by simp [shape]))
  rw [shape, cons_append, dropWhile_cons_of_pos (by rfl), dropWhile_cons_of_neg (by simp [kept])]

end TxnIdLiteral

open TxnIdLiteral

variable {lit : TxnIdLiteral} {sql : List Char}

section

variable {before after : List Char} (query : sql = clauseQuery before lit after)
include query

lemma ClauseReading.fitsSuffix_of_before_eq (valued : lit.value = some txnId)
    (ne : lit.digits ≠ []) (reading : ClauseReading sql found)
    (located : reading.before = before ++ [' ']) : lit.FitsSuffix after := by
  have behind := query.symm.trans reading.split
  rw [clauseQuery, located, append_cancel_left_eq] at behind
  obtain ⟨-, gapEq⟩ := append_inj_of_byteLength_eq behind
    (byteLength_spelledKeywords.trans reading.keywordsLength.symm)
  obtain ⟨digit, rest, numberShape, isDigit⟩ := reading.number_shape.1
  have numberEq : reading.number ++ reading.after = lit.text ++ ' ' :: after := by
    have dropped := congrArg (List.dropWhile isWhitespace) gapEq
    rw [dropWhile_text valued ne, numberShape, cons_append, dropWhile_append_cons
      reading.gapBlank (isWhitespace_of_isTokenChar (isTokenChar_of_isDigit isDigit))]
      at dropped
    rw [numberShape, cons_append, ← dropped]
  obtain ⟨sameNumber, -⟩ := reading.number_eq_of_word numberEq (digits_forall valued)
  cases lit with
  | decimal digits => trivial
  | hex digits =>
    have length := reading.numberLength
    rw [numberEq, sameNumber, byteLength_of_tokens (digits_forall valued),
      numberBytes_of_hexMark (by rfl)] at length
    simp only [text, cons_append, drop_succ_cons, drop_zero, length_cons,
      hexRun_append_cons digits (by decide : isHexDigit ' ' = false)]
      at length
    change hexRun after = digits.length
    omega

lemma ClauseReading.ne_of_before_prefix (absent : ¬ spelledKeywords <:+: before)
    (reading : ClauseReading sql found) (early : reading.before <+: before) :
    joinAround reading.before reading.after ≠ joinAround before after := by
  obtain ⟨rest, restEq⟩ := early
  have behind : (reading.keywords ++ reading.gap) ++ (reading.number ++ reading.after) =
      rest ++ ((' ' :: spelledKeywords) ++ (' ' :: (lit.text ++ ' ' :: after))) := by
    have split := query.symm.trans reading.split
    rw [clauseQuery, ← restEq] at split
    simpa using split.symm
  rcases append_eq_append_iff.mp behind with
    ⟨more, restSplit, numberEq⟩ | ⟨more, keySplit, regionEq⟩
  · -- The number stands in the text in front, and ends there.
    obtain ⟨tail, afterEq⟩ : ∃ tail, reading.after =
        tail ++ ((' ' :: spelledKeywords) ++ (' ' :: (lit.text ++ ' ' :: after))) := by
      rcases append_eq_append_iff.mp numberEq with
        ⟨tail, -, afterEq⟩ | ⟨tail, numberSplit, regionEq⟩
      · exact ⟨tail, afterEq⟩
      · cases tail with
        | nil => exact ⟨[], by simpa using regionEq.symm⟩
        | cons char tail =>
          rw [cons_append, cons_append, List.cons.injEq] at regionEq
          exact absurd (by rw [numberSplit]; simp [← regionEq.1])
            reading.number_shape.2
    have shape : reading.after =
        (tail ++ ((' ' :: spelledKeywords) ++ (' ' :: (lit.text ++ [' '])))) ++ after := by
      rw [afterEq]
      simp
    rw [shape]
    exact joinAround_ne_of_keywords absent ⟨tail ++ [' '], ' ' :: (lit.text ++ [' ']), by simp⟩
  · -- No number stands in the keywords, and they do not fit in front of it.
    obtain ⟨extra, coveredEq⟩ := reading.prefix_of_no_digits regionEq.symm (by rfl)
    have whole : (rest ++ ' ' :: "AS OF TxnI".toList) ++ ['d'] ++ extra =
        reading.keywords ++ reading.gap := by
      rw [keySplit, ← coveredEq, spelledKeywords_concat]
      simp only [append_assoc, cons_append]
    obtain ⟨others, keywordsEq⟩ := prefix_of_append_eq_append_blank whole
      reading.gapBlank (by decide)
    have length := reading.keywordsLength
    have keywords : byteLength (' ' :: "AS OF TxnI".toList ++ ['d']) =
        byteLength clauseKeywords + 1 := by decide
    rw [← keywordsEq, append_assoc rest, byteLength_append, byteLength_append, keywords] at length
    omega

end

private lemma shortCut_cases (split : spelledKeywords = start ++ rest)
    (boundary : start.getLast?.any isTokenChar = false) (ne : start ≠ []) :
    (start = "AS ".toList ∧ rest = "OF TxnId".toList) ∨
      (start = "AS OF ".toList ∧ rest = "TxnId".toList) := by
  have startEq : start = spelledKeywords.take start.length := by rw [split, take_left]
  have restEq : rest = spelledKeywords.drop start.length := by rw [split, drop_left]
  have bound : start.length ≤ 11 := by
    have whole : spelledKeywords.length = 11 := by decide
    rw [split, length_append] at whole
    omega
  have pos : 0 < start.length := length_pos_iff.mpr ne
  generalize start.length = size at startEq restEq bound pos
  subst startEq restEq
  interval_cases size <;> revert boundary <;> decide

private lemma isInfix_of_trimText (text) : trimText text <:+: text := by
  obtain ⟨lead, trail, whole, -, -⟩ := exists_trimBy isWhitespace text
  refine ⟨lead, trail, ?_⟩
  rw [trimText, append_assoc]
  exact whole.symm

private lemma ClauseReading.false_of_shortCut {after} {lit : TxnIdLiteral} {sql txnId found}
    (valued : lit.value = some txnId) (reading : ClauseReading sql found) {start rest} (word)
    (last : Char) (lastKept : isWhitespace last = false) (wordEq : trimText start = word ++ [last])
    (noDigits : (word ++ [last]).all fun char => !char.isDigit)
    (lengths : byteLength (rest ++ [' ']) + byteLength (word ++ [last]) = byteLength clauseKeywords)
    (behind : reading.keywords ++ (reading.gap ++ (reading.number ++ reading.after)) =
      rest ++ ' ' :: (lit.text ++ ' ' :: after))
    (taken : trimText after = joinAround start reading.after) : False := by
  have wordLength : 0 < byteLength (word ++ [last]) := by
    rw [byteLength_append, byteLength_cons]
    have := last.utf8Size_pos
    omega
  have whole := reading.keywordsLength
  obtain ⟨key, keyEq, keyBehind⟩ : ∃ key,
      reading.keywords = (rest ++ [' ']) ++ key ∧
        lit.text ++ ' ' :: after = (key ++ reading.gap) ++
          (reading.number ++ reading.after) := by
    have aligned : reading.keywords ++ (reading.gap ++ (reading.number ++ reading.after)) =
        (rest ++ [' ']) ++ (lit.text ++ ' ' :: after) := by
      rw [behind]
      simp
    rcases append_eq_append_iff.mp aligned with ⟨more, restEq, -⟩ | ⟨key, keyEq, keyBehind⟩
    · rw [restEq, byteLength_append] at lengths
      omega
    · exact ⟨key, keyEq, by rw [keyBehind, append_assoc]⟩
  have keyLength : byteLength key = byteLength (word ++ [last]) := by
    rw [keyEq, byteLength_append] at whole
    omega
  rw [joinAround, wordEq] at taken
  obtain ⟨separator, -, glued⟩ := exists_glueTexts (word ++ [last]) (trimText reading.after)
  rw [glued] at taken
  rcases append_eq_append_iff.mp keyBehind.symm with
    ⟨more, literalEq, numberEq⟩ | ⟨more, keySplit, afterEq⟩
  · -- The number is the end of the literal, and the text behind is too long.
    have tokens : ∀ char ∈ more, isTokenChar char = true :=
      fun char mem => digits_forall valued char
        (by rw [literalEq]; simp [mem])
    obtain ⟨-, afterEq⟩ := reading.number_eq_of_word numberEq tokens
    have trimmed : trimText (' ' :: after) = trimText after := by
      rw [trimText, ← singleton_append, trimBy_blank_append (by
        simp only [mem_singleton, forall_eq]
        rfl), trimText]
    rw [afterEq, trimmed] at taken
    have tooLong := congrArg List.length taken
    simp only [length_append, length_cons, length_nil] at tooLong
    omega
  · -- The words in front of the number do not fit.
    obtain ⟨lead, trail, split, leadBlank, -⟩ := exists_trimBy isWhitespace after
    have region : more ++ (reading.number ++ reading.after) =
        (' ' :: lead ++ (word ++ [last])) ++
          (separator ++ trimText reading.after ++ trail) := by
      rw [← afterEq, split, show trimBy isWhitespace after = _ from taken]
      simp
    obtain ⟨extra, covered⟩ := reading.prefix_of_no_digits region (by
      rw [all_append, noDigits, Bool.and_true, all_eq_true]
      intro char mem
      rcases mem_cons.mp mem with rfl | inLead
      · decide
      · by_contra digit
        have notBlank := isWhitespace_of_isTokenChar (isTokenChar_of_isDigit (by simpa using digit))
        rw [leadBlank char inLead] at notBlank
        cases notBlank)
    have aligned : (lit.text ++ ' ' :: lead ++ word) ++ [last] ++ extra = key ++ reading.gap := by
      rw [keySplit, ← covered]
      simp
    obtain ⟨others, keyShape⟩ := prefix_of_append_eq_append_blank aligned reading.gapBlank lastKept
    rw [← keyShape] at keyLength
    simp only [byteLength_append, byteLength_cons] at keyLength
    have := ' '.utf8Size_pos
    omega

lemma ClauseReading.ne_of_prefix_before {before after}
    (query : sql = clauseQuery before lit after) (valued : lit.value = some txnId)
    (absent : ¬ spelledKeywords <:+: after) (reading : ClauseReading sql found) {first start}
    (late : reading.before = before ++ ' ' :: first :: start) :
    joinAround reading.before reading.after ≠ joinAround before after := by
  intro same
  have behind : (first :: start) ++ (reading.keywords ++ (reading.gap ++
      (reading.number ++ reading.after))) =
      spelledKeywords ++ (' ' :: (lit.text ++ ' ' :: after)) := by
    have split := query.symm.trans reading.split
    rw [clauseQuery, late] at split
    simpa using split.symm
  have firstEq : first = 'A' := by
    rw [spelledKeywords_eq, cons_append, cons_append, List.cons.injEq] at behind
    exact behind.1
  rw [late] at same
  have taken := trimText_of_extended (by rw [firstEq]; decide) same
  rcases append_eq_append_iff.mp behind with ⟨rest, keywordsEq, behind⟩ | ⟨rest, startEq, -⟩
  · have boundary := reading.boundary
    rw [late, show before ++ ' ' :: first :: start = (before ++ [' ']) ++ (first :: start) by simp,
      getLast?_append_of_ne_nil _ (by simp)] at boundary
    rcases shortCut_cases keywordsEq boundary (by simp) with ⟨startEq, restEq⟩ | ⟨startEq, restEq⟩
    · rw [startEq] at taken
      rw [restEq] at behind
      exact reading.false_of_shortCut valued ['A'] 'S'
        (by decide) (by decide) (by rfl) (by decide) behind taken
    · rw [startEq] at taken
      rw [restEq] at behind
      exact reading.false_of_shortCut valued "AS O".toList 'F'
        (by decide) (by decide) (by rfl) (by decide) behind taken
  · -- All the keywords were taken, so the text behind has them.
    apply absent
    have inStart : spelledKeywords <:+: trimText (first :: start) :=
      spelledKeywords_infix_trimText ⟨[], rest, by simpa using startEq.symm⟩
    obtain ⟨gap, -, glued⟩ := exists_glueTexts (trimText (first :: start)) (trimText reading.after)
    refine (inStart.trans ?_).trans (isInfix_of_trimText after)
    rw [taken, joinAround, glued]
    exact ⟨[], gap ++ trimText reading.after, rfl⟩

namespace TxnIdLiteral

variable {lit : TxnIdLiteral}

lemma parseTxnId_text (valued : lit.value = some txnId) (ne : lit.digits ≠ [])
    (small : txnId < 2 ^ 64) : parseTxnId lit.text = .ok txnId := by
  have tokens := digits_forall valued
  cases lit with
  | decimal digits =>
    have unmarked : hasHexMark digits = false := by
      rw [← Bool.not_eq_true, hasHexMark_iff]
      rintro ⟨mark, rest, shape, markEq⟩
      have isDigit : mark.isDigit = true :=
        digitsValue_forall digitValue_ten valued mark (by simp [shape])
      rcases markEq with rfl | rfl <;> revert isDigit <;> decide
    have parsed := parseU64_of_digits valued small ne tokens
    simp [parseTxnId, text, unmarked, parsed]
  | hex digits =>
    have parsed := parseU64_of_digits valued small ne
      (fun char mem => tokens char (by simp [text, mem]))
    have marked : hasHexMark ('0' :: 'x' :: digits) = true := by rfl
    simp [parseTxnId, text, marked, parsed]

lemma numberBytes_text (valued : lit.value = some txnId) {after} (fits : lit.FitsSuffix after) :
    numberBytes (lit.text ++ ' ' :: after) = byteLength lit.text := by
  have tokens := digits_forall valued
  cases lit with
  | decimal digits =>
    have isDigits := digitsValue_forall digitValue_ten valued
    have unmarked : hasHexMark (digits ++ ' ' :: after) = false := by
      rw [← Bool.not_eq_true, hasHexMark_iff]
      rintro ⟨mark, rest, shape, markEq⟩
      rcases digits with - | ⟨first, - | ⟨second, digits⟩⟩
      · simp at shape
      · simp only [cons_append, nil_append, List.cons.injEq] at shape
        rw [← shape.2.1] at markEq
        simp at markEq
      · simp only [cons_append, List.cons.injEq] at shape
        have isDigit := isDigits second (by simp)
        rw [shape.2.1] at isDigit
        rcases markEq with rfl | rfl <;> revert isDigit <;> decide
    have taken : (digits ++ ' ' :: after).takeWhile Char.isDigit = digits := by
      rw [takeWhile_append_of_pos isDigits]
      simp
    rw [text, numberBytes_of_not_hexMark unmarked, taken]
  | hex digits =>
    have marked : hasHexMark ('0' :: 'x' :: digits ++ ' ' :: after) = true := by rfl
    rw [byteLength_of_tokens tokens, text, numberBytes_of_hexMark marked]
    simp only [cons_append, drop_succ_cons, drop_zero,
      hexRun_append_cons digits (by decide : isHexDigit ' ' = false),
      length_cons]
    change hexRun after = digits.length at fits
    omega

end TxnIdLiteral

lemma parseTimeTravel_clauseQuery {before after} (valued : lit.value = some txnId)
    (ne : lit.digits ≠ []) (small : txnId < 2 ^ 64)
    (absent : ¬ clauseKeywords <:+: uppercase.text before)
    (located : byteLength (uppercase.text before) = byteLength before) (fits : lit.FitsSuffix after)
    : parseTimeTravel uppercase (clauseQuery before lit after) =
      some (.ok (joinAround before after, some txnId)) := by
  have cutBefore : splitAtByte (clauseQuery before lit after)
      (byteLength before + 1) = some (before ++ [' '],
        spelledKeywords ++ (' ' :: (lit.text ++ ' ' :: after))) := by
    rw [splitAtByte_eq_some_iff]
    exact ⟨rfl, by rw [byteLength_append]; rfl⟩
  have cutKeywords : splitAtByte (clauseQuery before lit after)
      (byteLength before + 1 + byteLength clauseKeywords) =
        some ((before ++ [' ']) ++ spelledKeywords, ' ' :: (lit.text ++ ' ' :: after)) := by
    rw [splitAtByte_eq_some_iff]
    refine ⟨by rw [clauseQuery, append_assoc (before ++ [' '])], ?_⟩
    rw [byteLength_append, byteLength_append, byteLength_spelledKeywords]
    rfl
  have cutNumber := splitAtByte_append lit.text (' ' :: after)
  rw [← numberBytes_text valued fits] at cutNumber
  have joined : joinAround (before ++ [' ']) (' ' :: after) = joinAround before after := by
    have blank : ∀ char ∈ [' '], isWhitespace char = true := by
      simp only [mem_singleton, forall_eq]
      rfl
    rw [joinAround, trimText, trimBy_append_blank blank, trimText, ← singleton_append,
      trimBy_blank_append blank, joinAround, trimText, trimText]
  unfold parseTimeTravel
  rw [findText_clauseQuery uppercase lit after absent, located]
  simp only [cutBefore, cutKeywords, Option.bind_eq_bind, Option.bind_some, getLast?_concat,
    dropWhile_text valued ne, cutNumber, parseTxnId_text valued ne small,
    text_ne_nil ne, append_eq_nil_iff, false_and, if_false, joined]
  rfl

/-- The number, as the parser measures it, ends between two characters. -/
def HexCutFits (remaining : List Char) : Prop :=
  hasHexMark remaining = true →
    ∃ number after, remaining = number ++ after ∧
      byteLength number = 2 + hexRun (remaining.drop 2)

/-- Each cut the parser makes falls between two characters: in front of the
keywords it found and, unless a word runs into them, behind them and at the
end of the number. -/
def CutsBetweenCharacters (uppercase : UppercaseMapping) (sql : List Char) : Prop :=
  ∀ position,
    findText clauseKeywords (uppercase.text sql) = some position →
    ∃ before rest, sql = before ++ rest ∧ byteLength before = position ∧
      (before.getLast?.any isTokenChar = false → ∃ keywords behind, rest = keywords ++ behind ∧
          byteLength keywords = byteLength clauseKeywords ∧
          HexCutFits (behind.dropWhile isWhitespace))

private lemma splitAtByte_numberBytes (remaining) :
    (∃ parts, splitAtByte remaining (numberBytes remaining) = some parts) ↔
      HexCutFits remaining := by
  unfold HexCutFits
  cases marked : hasHexMark remaining with
  | true =>
    rw [numberBytes_of_hexMark marked]
    constructor
    · rintro ⟨⟨num, after⟩, cut⟩ -
      obtain ⟨whole, length⟩ := splitAtByte_eq_some_iff.mp cut
      exact ⟨num, after, whole, length⟩
    · intro fits
      obtain ⟨num, after, whole, length⟩ := fits rfl
      exact ⟨(num, after), splitAtByte_eq_some_iff.mpr ⟨whole, length⟩⟩
  | false =>
    rw [numberBytes_of_not_hexMark marked]
    simp only [Bool.false_eq_true, false_implies, iff_true]
    exact ⟨_, splitAtByte_eq_some_iff.mpr ⟨(takeWhile_append_dropWhile).symm, rfl⟩⟩

lemma parseTimeTravel_ne_none_iff (sql) :
    parseTimeTravel uppercase sql ≠ none ↔ CutsBetweenCharacters uppercase sql := by
  unfold parseTimeTravel CutsBetweenCharacters
  cases found : findText clauseKeywords (uppercase.text sql) with
  | none => simp
  | some pos =>
    simp only [Option.some.injEq, forall_eq']
    constructor
    · intro returns
      cases cutBefore : splitAtByte sql pos with
      | none => simp [cutBefore] at returns
      | some parts =>
        obtain ⟨before, rest⟩ := parts
        obtain ⟨whole, length⟩ := splitAtByte_eq_some_iff.mp cutBefore
        refine ⟨before, rest, whole, length, fun word => ?_⟩
        cases cutKeywords : splitAtByte sql (pos + byteLength clauseKeywords) with
        | none => simp [cutBefore, word, cutKeywords] at returns
        | some parts =>
          obtain ⟨head, behind⟩ := parts
          obtain ⟨keywords, -, restEq, keywordsLength⟩ := splitAtByte_add cutBefore cutKeywords
          refine ⟨keywords, behind, restEq, keywordsLength, ?_⟩
          by_cases missing : behind.dropWhile isWhitespace = []
          · rw [missing]
            intro marked
            cases marked
          · rw [← splitAtByte_numberBytes]
            apply Option.ne_none_iff_exists'.mp
            intro panics
            apply returns
            simp only [cutBefore, Option.bind_eq_bind, Option.bind_some, word, Bool.false_eq_true,
              if_false, cutKeywords, missing, panics, Option.bind_none]
    · rintro ⟨before, rest, rfl, rfl, behindWord⟩
      rw [splitAtByte_append]
      cases word : before.getLast?.any isTokenChar with
      | true => simp [word]
      | false =>
        obtain ⟨keywords, behind, rfl, length, fits⟩ := behindWord word
        have cut := splitAtByte_append (before ++ keywords) behind
        rw [byteLength_append, length, append_assoc] at cut
        obtain ⟨⟨num, after⟩, cutNumber⟩ := (splitAtByte_numberBytes _).mpr fits
        simp only [Option.bind_eq_bind, Option.bind_some, word,
          Bool.false_eq_true, if_false, cut, cutNumber]
        grind

/-- A clause is read and removed exactly when the text in front of it keeps
its length in upper case and a hexadecimal number has as many digits as the
query ends with.  The parser returns exactly when its cuts fall between
characters. -/
theorem parseTimeTravel_correct_iff (uppercase : UppercaseMapping) :
    (∀ (before after : List Char) (literal : TxnIdLiteral) (txnId : Nat),
        literal.digits ≠ [] → literal.value = some txnId → txnId < 2 ^ 64 →
        ¬ clauseKeywords <:+: uppercase.text before →
        ¬ clauseKeywords <:+: uppercase.text after →
        (parseTimeTravel uppercase (clauseQuery before literal after) =
            some (.ok (joinAround before after, some txnId)) ↔
          byteLength (uppercase.text before) = byteLength before ∧
            literal.FitsSuffix after)) ∧
      ∀ sql, parseTimeTravel uppercase sql ≠ none ↔ CutsBetweenCharacters uppercase sql := by
  refine ⟨fun before after literal txnId ne valued small absentBefore
    absentAfter => ⟨fun parsed => ?_, fun ⟨located, fits⟩ =>
      parseTimeTravel_clauseQuery uppercase valued ne small absentBefore
        located fits⟩, parseTimeTravel_ne_none_iff uppercase⟩
  obtain ⟨reading, found, joined⟩ := exists_clauseReading parsed
  rw [findText_clauseQuery uppercase literal after absentBefore, Option.some.injEq] at found
  have unspelledBefore : ¬ spelledKeywords <:+: before := fun occurs =>
    absentBefore (clauseKeywords_infix_of_spelled uppercase occurs)
  have unspelledAfter : ¬ spelledKeywords <:+: after := fun occurs =>
    absentAfter (clauseKeywords_infix_of_spelled uppercase occurs)
  have comparable : reading.before <+: before ++ [' '] ∨ before ++ [' '] <+: reading.before := by
    have starts : reading.before <+: clauseQuery before literal after := ⟨_, reading.split.symm⟩
    exact prefix_or_prefix_of_prefix starts ⟨_, rfl⟩
  rcases comparable with early | late
  · rcases prefix_concat_iff.mp early with located | early
    · refine ⟨?_, reading.fitsSuffix_of_before_eq rfl valued ne located⟩
      rw [located, byteLength_append] at found
      have : byteLength [' '] = 1 := rfl
      omega
    · exact absurd joined.symm (reading.ne_of_before_prefix rfl unspelledBefore early)
  · obtain ⟨start, startEq⟩ := late
    cases start with
    | nil =>
      rw [append_nil] at startEq
      refine ⟨?_, reading.fitsSuffix_of_before_eq rfl valued ne startEq.symm⟩
      rw [← startEq, byteLength_append] at found
      have : byteLength [' '] = 1 := rfl
      omega
    | cons first start =>
      have late : reading.before = before ++ ' ' :: first :: start := by simpa using startEq.symm
      exact absurd joined.symm (reading.ne_of_prefix_before rfl valued unspelledAfter late)

def asciiUppercase : UppercaseMapping where
  toUpper character := [character.toUpper]
  ascii _ _ := rfl

/-- A hexadecimal number in front of more text is not read, and one in front
of a wide character makes the parser panic. -/
theorem parseTimeTravel_hex_fails : (TxnIdLiteral.hex "1F3A".toList).value = some 0x1F3A ∧
    parseTimeTravel asciiUppercase
        (clauseQuery "SELECT * FROM t".toList (.hex "1F3A".toList)
          "LIMIT 10".toList) =
      some (.error "malformed AS OF TxnId clause: invalid trailing token") ∧
    parseTimeTravel asciiUppercase "t AS OF TxnId 0xé1".toList = none := by
  decide +kernel

end RockDuck
