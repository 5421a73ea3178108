import Mathlib

/-!
# Texts cut at byte offsets

A text is a list of characters, and a position in it is a number of bytes of
its UTF-8 form.
-/

namespace RockDuck

open List

def byteLength (text : List Char) : Nat :=
  (text.map Char.utf8Size).sum

@[simp]
lemma byteLength_nil : byteLength [] = 0 := rfl

@[simp]
lemma byteLength_cons (char : Char) (text) :
    byteLength (char :: text) = char.utf8Size + byteLength text := by
  simp [byteLength]

@[simp]
lemma byteLength_append (front back) :
    byteLength (front ++ back) = byteLength front + byteLength back := by
  simp [byteLength]

lemma length_le_byteLength (text : List Char) : text.length ≤ byteLength text := by
  induction text with
  | nil => simp
  | cons char text ih =>
    have := char.utf8Size_pos
    simp
    omega

/-- Cut a text after a number of bytes.  There is no cut inside a character,
and none behind the end. -/
def splitAtByte : List Char → Nat → Option (List Char × List Char)
  | text, 0 => some ([], text)
  | [], _ + 1 => none
  | character :: text, offset + 1 =>
    if character.utf8Size ≤ offset + 1 then
      (splitAtByte text (offset + 1 - character.utf8Size)).map fun parts =>
        (character :: parts.1, parts.2)
    else none

lemma splitAtByte_append (front back) :
    splitAtByte (front ++ back) (byteLength front) = some (front, back) := by
  induction front with
  | nil => cases back <;> rfl
  | cons char front ih =>
    obtain ⟨size, sizeEq⟩ := Nat.exists_eq_succ_of_ne_zero char.utf8Size_pos.ne'
    have off : byteLength (char :: front) = (size + byteLength front) + 1 := by
      rw [byteLength_cons, sizeEq]
      omega
    have rest : size + byteLength front + 1 - char.utf8Size = byteLength front := by
      rw [sizeEq]
      omega
    rw [off, cons_append, splitAtByte, if_pos (by rw [sizeEq]; omega), rest, ih]
    rfl

variable {front back pattern : List Char}

lemma splitAtByte_eq_some_iff : splitAtByte text offset = some (front, back) ↔
      text = front ++ back ∧ byteLength front = offset := by
  constructor
  · intro cut
    induction text, offset using splitAtByte.induct generalizing front with
    | case1 text =>
      rw [splitAtByte] at cut
      cases cut
      simp
    | case2 offset => simp [splitAtByte] at cut
    | case3 char text offset fits ih =>
      rw [splitAtByte, if_pos fits, Option.map_eq_some_iff] at cut
      obtain ⟨⟨first, second⟩, cutRest, same⟩ := cut
      cases same
      obtain ⟨rfl, size⟩ := ih cutRest
      refine ⟨rfl, ?_⟩
      rw [byteLength_cons, size]
      omega
    | case4 char text offset tooWide => simp [splitAtByte, tooWide] at cut
  · rintro ⟨rfl, rfl⟩
    exact splitAtByte_append front back

/-- A cut is determined by its position. -/
lemma append_inj_of_byteLength_eq (same : front ++ back = front' ++ back')
    (sameLength : byteLength front = byteLength front') : front = front' ∧ back = back' := by
  have first := splitAtByte_append front back
  rw [same, sameLength, splitAtByte_append] at first
  simpa using first.symm

lemma splitAtByte_add {text head tail first second}
    (cutFirst : splitAtByte text first = some (front, back))
    (cutSecond : splitAtByte text (first + second) = some (head, tail)) :
    ∃ middle, head = front ++ middle ∧ back = middle ++ tail ∧ byteLength middle = second := by
  obtain ⟨rfl, frontLength⟩ := splitAtByte_eq_some_iff.mp cutFirst
  obtain ⟨same, headLength⟩ := splitAtByte_eq_some_iff.mp cutSecond
  rcases append_eq_append_iff.mp same with ⟨middle, rfl, backEq⟩ | ⟨more, frontEq, tailEq⟩
  · rw [byteLength_append] at headLength
    exact ⟨middle, rfl, backEq, by omega⟩
  · have lengths := congrArg byteLength frontEq
    rw [byteLength_append] at lengths
    have none : more = [] := by
      have := length_le_byteLength more
      exact eq_nil_of_length_eq_zero (by omega)
    refine ⟨[], ?_, ?_, ?_⟩
    · simp [frontEq, none]
    · simp [tailEq, none]
    · simp
      omega

/-- The place of the first occurrence. -/
def findText (pattern : List Char) : List Char → Option Nat
  | [] => if pattern = [] then some 0 else none
  | character :: text =>
    if pattern.isPrefixOf (character :: text) then some 0
    else (findText pattern text).map fun position => character.utf8Size + position

lemma infix_of_infix_append (absent : last ∉ gap)
    (occurs : pattern ++ [last] <:+: front ++ gap) : pattern ++ [last] <:+: front := by
  obtain ⟨start, rest, split⟩ := occurs
  have ends : (start ++ pattern ++ [last]) ++ rest = front ++ gap := by simpa using split
  rcases append_eq_append_iff.mp ends with ⟨more, frontEq, -⟩ | ⟨more, whole, gapEq⟩
  · exact ⟨start, more, by simpa using frontEq.symm⟩
  · rcases eq_nil_or_concat more with rfl | ⟨init, final, rfl⟩
    · exact ⟨start, [], by simpa using whole⟩
    · have lastEq : final = last := by
        have := congrArg List.getLast? whole
        simpa using this.symm
      exact absurd (by simp [gapEq, lastEq]) absent

lemma infix_of_append_infix (absent : first ∉ gap)
    (occurs : first :: pattern <:+: gap ++ back) : first :: pattern <:+: back := by
  have reversed : pattern.reverse ++ [first] <:+: back.reverse ++ gap.reverse := by
    simpa using reverse_infix.mpr occurs
  have found := infix_of_infix_append (by simpa using absent) reversed
  have := reverse_infix.mpr found
  simpa using this

/-- The first occurrence is the one in front of which there is none. -/
lemma findText_append (back) (simple : last ∉ pattern) (absent : ¬ pattern ++ [last] <:+: front) :
    findText (pattern ++ [last]) (front ++ (pattern ++ [last] ++ back)) =
      some (byteLength front) := by
  induction front with
  | nil =>
    cases shape : pattern ++ [last] with
    | nil => simp at shape
    | cons char rest => simp [findText]
  | cons char front ih =>
    have later : ¬ pattern ++ [last] <:+: front := fun occurs =>
      absent (occurs.trans (suffix_cons char front).isInfix)
    have here : ¬ pattern ++ [last] <+: char :: front ++ (pattern ++ [last] ++ back) := by
      intro starts
      apply absent
      -- It cannot reach the last char of the given occurrence, so it
      -- would lie in the front and the rest of the pattern.
      have short : pattern ++ [last] <+: (char :: front) ++ pattern := by
        refine prefix_of_prefix_length_le starts ?_ (by simp)
        exact ⟨[last] ++ back, by simp⟩
      exact infix_of_infix_append simple short.isInfix
    rw [cons_append] at here
    rw [cons_append, findText, if_neg (by rwa [List.isPrefixOf_iff_prefix]), ih later]
    simp

section Trimming

variable {Item : Type*} (blank : Item → Bool)

/-- Trim at both ends. -/
def trimBy (items : List Item) : List Item :=
  (items.dropWhile blank).rdropWhile blank

variable {blank} {lead : List Item} {item : Item}

lemma dropWhile_append_cons (allBlank : ∀ item ∈ lead, blank item = true)
    (kept : blank item = false) (rest) : (lead ++ item :: rest).dropWhile blank = item :: rest := by
  rw [dropWhile_append_of_pos allBlank, dropWhile_cons_of_neg (by simp [kept])]

private lemma rdropWhile_append_of_blank {trail : List Item}
    (allBlank : ∀ item ∈ trail, blank item = true) (front) :
    (front ++ trail).rdropWhile blank = front.rdropWhile blank := by
  rw [rdropWhile, reverse_append, dropWhile_append_of_pos (by simpa using allBlank), rdropWhile]

lemma rdropWhile_append_cons (front) (kept : blank item = false) (back) :
    (front ++ item :: back).rdropWhile blank = front ++ item :: back.rdropWhile blank := by
  induction back using List.reverseRecOn with
  | nil => simp [kept]
  | append_singleton back last ih =>
    rw [← cons_append, ← append_assoc]
    by_cases dropped : blank last = true
    · rw [rdropWhile_concat_pos _ _ _ dropped, ih, rdropWhile_concat_pos _ _ _ dropped]
    · rw [rdropWhile_concat_neg _ _ _ dropped, rdropWhile_concat_neg _ _ _ dropped]
      simp

lemma trimBy_blank_append (allBlank : ∀ item ∈ lead, blank item = true) (rest) :
    trimBy blank (lead ++ rest) = trimBy blank rest := by
  rw [trimBy, dropWhile_append_of_pos allBlank, trimBy]

lemma trimBy_append_blank (allBlank : ∀ item ∈ trail, blank item = true) (front) :
    trimBy blank (front ++ trail) = trimBy blank front := by
  by_cases onlyBlank : ∀ item ∈ front, blank item = true
  · have all : ∀ item ∈ front ++ trail, blank item = true := by
      simpa [or_imp, forall_and] using ⟨onlyBlank, allBlank⟩
    rw [trimBy, trimBy, dropWhile_eq_nil_iff.mpr all, dropWhile_eq_nil_iff.mpr onlyBlank]
  · have left : front.dropWhile blank ≠ [] := by rwa [ne_eq, dropWhile_eq_nil_iff]
    rw [trimBy, dropWhile_append, if_neg (by simpa using left),
      rdropWhile_append_of_blank allBlank, trimBy]

/-- What trimming takes away at the two ends. -/
lemma exists_trimBy (blank : Item → Bool) (items : List Item) :
    ∃ lead trail, items = lead ++ (trimBy blank items ++ trail) ∧
      (∀ item ∈ lead, blank item = true) ∧ ∀ item ∈ trail, blank item = true := by
  refine ⟨items.takeWhile blank, (items.dropWhile blank).rtakeWhile blank,
    ?_, fun item => mem_takeWhile_imp,
    fun item => mem_rtakeWhile_imp⟩
  rw [trimBy, rdropWhile_append_rtakeWhile, takeWhile_append_dropWhile]

@[simp]
lemma trimBy_trimBy (items : List Item) :
    trimBy blank (trimBy blank items) = trimBy blank items := by
  obtain ⟨lead, trail, whole, leadBlank, trailBlank⟩ := exists_trimBy blank items
  have inner := congrArg (trimBy blank) whole
  rw [trimBy_blank_append leadBlank, trimBy_append_blank trailBlank] at inner
  exact inner.symm

lemma head_trimBy (starts : trimBy blank items = item :: rest) : blank item = false := by
  have begins : item :: rest <+: items.dropWhile blank := by
    rw [← starts]
    exact rdropWhile_prefix _ _
  obtain ⟨more, whole⟩ := begins
  have kept := head?_dropWhile_not blank items
  rw [← whole] at kept
  simpa using kept

lemma trimBy_cons_of_not (kept : blank item = false) (rest) :
    trimBy blank (item :: rest) = item :: rest.rdropWhile blank := by
  rw [trimBy, dropWhile_cons_of_neg (by simp [kept])]
  exact rdropWhile_append_cons [] kept rest

/-- Text added behind a text that is not blank stays, with whatever separated
the two. -/
lemma trimBy_append_cons (notBlank : trimBy blank items ≠ []) :
    ∃ trail, (∀ item ∈ trail, blank item = true) ∧
      ∀ (gap : List Item) (item : Item) (rest : List Item), blank item = false →
        trimBy blank (items ++ (gap ++ item :: rest)) = trimBy blank items ++
            (trail ++ (gap ++ trimBy blank (item :: rest))) := by
  obtain ⟨lead, trail, whole, leadBlank, trailBlank⟩ := exists_trimBy blank items
  refine ⟨trail, trailBlank, fun gap item rest kept => ?_⟩
  obtain ⟨first, others, starts⟩ := exists_cons_of_ne_nil notBlank
  have split : items ++ (gap ++ item :: rest) =
      lead ++ (first :: (others ++ trail ++ gap ++ item :: rest)) := by
    rw [starts] at whole
    rw [whole]
    simp
  rw [split, trimBy_blank_append leadBlank, trimBy,
    dropWhile_cons_of_neg (by simp [head_trimBy starts]),
    ← cons_append, rdropWhile_append_cons _ kept,
    trimBy_cons_of_not kept, starts]
  simp

lemma trimBy_eq_nil_iff : trimBy blank items = [] ↔ ∀ item ∈ items, blank item = true := by
  constructor
  · intro empty
    obtain ⟨lead, trail, whole, leadBlank, trailBlank⟩ := exists_trimBy blank items
    rw [whole, empty]
    simp only [nil_append, mem_append]
    rintro item (inLead | inTrail)
    · exact leadBlank item inLead
    · exact trailBlank item inTrail
  · intro allBlank
    rw [trimBy, dropWhile_eq_nil_iff.mpr allBlank, rdropWhile_nil]

/-- Trimming keeps whatever stands between two texts that are not blank. -/
lemma exists_trimBy_append (notBlank : trimBy blank items ≠ []) (more : List Item) :
    ∃ separator, trimBy blank (items ++ more) =
      trimBy blank items ++ (separator ++ trimBy blank more) := by
  cases shape : trimBy blank more with
  | nil =>
    refine ⟨[], ?_⟩
    rw [trimBy_append_blank (trimBy_eq_nil_iff.mp shape)]
    simp
  | cons first rest =>
    obtain ⟨lead, trail, whole, -, trailBlank⟩ := exists_trimBy blank more
    obtain ⟨separator, -, extended⟩ := trimBy_append_cons notBlank
    have firstKept := head_trimBy shape
    refine ⟨separator ++ lead, ?_⟩
    have trimmed : trimBy blank (first :: rest) = first :: rest := by rw [← shape, trimBy_trimBy]
    have split : items ++ more = (items ++ (lead ++ first :: rest)) ++ trail := by
      rw [shape] at whole
      rw [whole]
      simp
    rw [split, trimBy_append_blank trailBlank, extended lead first rest firstKept, trimmed]
    simp

lemma prefix_of_append_eq_append_blank {front more key gap last}
    (same : front ++ [last] ++ more = key ++ gap) (gapBlank : ∀ item ∈ gap, blank item = true)
    (kept : blank last = false) : front ++ [last] <+: key := by
  rcases append_eq_append_iff.mp same with ⟨rest, keyEq, -⟩ | ⟨rest, frontEq, gapEq⟩
  · exact ⟨rest, keyEq.symm⟩
  · rcases eq_nil_or_concat rest with rfl | ⟨init, final, rfl⟩
    · exact ⟨[], by simpa using frontEq⟩
    · have lastEq : last = final := by
        have := congrArg List.getLast? frontEq
        simpa using this
      have : blank final = true := gapBlank final (by simp [gapEq])
      rw [← lastEq, kept] at this
      cases this

end Trimming

end RockDuck
