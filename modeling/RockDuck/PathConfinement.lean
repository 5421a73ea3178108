import Mathlib

/-!
# Confinement of table paths

A table function is given the path of a table by the query that calls it.
-/

namespace RockDuck

abbrev OsText := List UInt8

def pathSeparator : UInt8 := 47

/-- An absolute path free of links and dots, by the names on it. -/
structure CanonicalPath where
  components : List OsText
  validName : ∀ name ∈ components, name ≠ [] ∧ pathSeparator ∉ name
  deriving DecidableEq

namespace CanonicalPath

def bytes (path : CanonicalPath) : OsText :=
  match path.components with
  | [] => [pathSeparator]
  | names => names.flatMap fun name => pathSeparator :: name

/-- The path is the other one or lies below it. -/
def Within (path root : CanonicalPath) : Prop :=
  root.components <+: path.components

/-- The bytes of a path, without the separator that stands for the root directory alone. -/
def stem (path : CanonicalPath) : OsText :=
  path.components.flatMap fun name => pathSeparator :: name

end CanonicalPath

/-- Names without a separator end where the text goes on with one. -/
lemma append_cut {name other rest more : OsText} (plain : pathSeparator ∉ name)
    (otherPlain : pathSeparator ∉ other) (separated : ∀ byte ∈ rest.head?, byte = pathSeparator)
    (moreSeparated : ∀ byte ∈ more.head?, byte = pathSeparator)
    (same : name ++ rest = other ++ more) : name = other ∧ rest = more := by
  have cut : ∀ {name rest : OsText}, pathSeparator ∉ name →
      (∀ byte ∈ rest.head?, byte = pathSeparator) →
        (name ++ rest).takeWhile (· ≠ pathSeparator) = name := by
    intro name rest plain separated
    rw [List.takeWhile_append_of_pos fun byte mem => by simpa using ne_of_mem_of_not_mem mem plain]
    cases rest with
    | nil => simp
    | cons byte rest => simp [separated byte rfl]
  obtain rfl : name = other := by
    rw [← cut plain separated, same, cut otherPlain moreSeparated]
  exact ⟨rfl, List.append_cancel_left same⟩

lemma head?_stem_names (names : List OsText) (rest : OsText)
    (separated : ∀ byte ∈ rest.head?, byte = pathSeparator) :
    ∀ byte ∈ ((names.flatMap fun name => pathSeparator :: name) ++ rest).head?,
      byte = pathSeparator := by
  cases names with
  | nil => simpa using separated
  | cons name names => simp

/-- By their bytes: the path is the other one, or goes on with a separator behind it. -/
lemma CanonicalPath.within_iff (path root : CanonicalPath) :
    path.Within root ↔ path.stem = root.stem ∨ root.stem ++ [pathSeparator] <+: path.stem := by
  obtain ⟨names, valid⟩ := path
  obtain ⟨rootNames, rootValid⟩ := root
  simp only [Within, stem]
  induction rootNames generalizing names with
  | nil =>
    cases names with
    | nil => simp
    | cons name names => simp
  | cons rootName rootNames ih =>
    cases names with
    | nil => simp
    | cons name names =>
      have plain := (valid name List.mem_cons_self).2
      have rootPlain := (rootValid rootName List.mem_cons_self).2
      have rest := ih names (fun other mem => valid other (List.mem_cons_of_mem _ mem))
        fun other mem => rootValid other (List.mem_cons_of_mem _ mem)
      have start := head?_stem_names names [] (by simp)
      rw [List.append_nil] at start
      rw [List.cons_prefix_cons, rest, List.flatMap_cons, List.flatMap_cons]
      constructor
      · rintro ⟨rfl, same | further⟩
        · exact .inl (by rw [same])
        · refine .inr ?_
          rw [List.append_assoc]
          exact (List.prefix_append_right_inj _).mpr further
      · rintro (same | ⟨more, same⟩)
        · obtain ⟨rfl, tails⟩ := append_cut plain rootPlain start
            (by simpa using head?_stem_names rootNames [] (by simp)) (List.cons.inj same).2
          exact ⟨rfl, .inl tails⟩
        · rw [List.append_assoc, List.append_assoc] at same
          obtain ⟨rfl, tails⟩ := append_cut rootPlain plain
            (head?_stem_names rootNames _ (by simp)) start (List.cons.inj same).2
          exact ⟨rfl, .inr ⟨more, by rw [List.append_assoc, tails]⟩⟩

structure TextConversions where
  toStringLossy : OsText → List Char
  toLowercase : List Char → List Char

/-- What path checks ask the file system. -/
structure FileSystem where
  canonicalize : OsText → Except String CanonicalPath
  isDir : CanonicalPath → Bool

variable (text : TextConversions)

def displayPath (path : OsText) : String :=
  String.ofList (text.toStringLossy path)

def isAbsolute (path : OsText) : Bool :=
  path.head? == some pathSeparator

/-- Join two paths. -/
def joinPath (root relative : OsText) : OsText :=
  match root.getLast? with
  | none => relative
  | some last =>
    if last = pathSeparator then root ++ relative
    else root ++ pathSeparator :: relative

def joinedPath (root rawPath : OsText) : OsText :=
  if isAbsolute rawPath then rawPath else joinPath root rawPath

/-- A path as the check compares it. -/
def comparedText (path : CanonicalPath) : List Char :=
  text.toLowercase
    ((text.toStringLossy path.bytes).rdropWhile fun character =>
      character == '/' || character == '\\')

/-- The check of a path against the data root. -/
def validateAndCanonicalizePath (fileSystem : FileSystem)
    (dataRoot : Option OsText) (rawPath : OsText) : Except String CanonicalPath :=
  match dataRoot with
  | none => .error "vTab data root is not configured"
  | some root =>
    let joined := joinedPath root rawPath
    match fileSystem.canonicalize joined with
    | .error error =>
      let shown := displayPath text joined
      .error s!"canonicalize '{shown}': {error}"
    | .ok canonical =>
      match fileSystem.canonicalize root with
      | .error error => .error s!"canonicalize root: {error}"
      | .ok canonicalRoot =>
        let shown := displayPath text canonical.bytes
        let shownRoot := displayPath text root
        if !(comparedText text canonicalRoot).isPrefixOf
            (comparedText text canonical) then
          .error s!"Path '{shown}' escapes data root '{shownRoot}' -- traversal blocked"
        else if !fileSystem.isDir canonical then
          .error s!"'{shown}' is not a directory"
        else .ok canonical

/-- A directory whose text starts like that of the root, and whose bytes neither are those of the
root nor go on with a separator behind them. -/
structure Lookalike (fileSystem : FileSystem) (root path : CanonicalPath) :
    Prop where
  directory : fileSystem.isDir path = true
  differs : path.stem ≠ root.stem
  goesOn : ¬ root.stem ++ [pathSeparator] <+: path.stem
  sameStart : comparedText text root <+: comparedText text path

lemma validateAndCanonicalizePath_eq_ok_iff :
    validateAndCanonicalizePath text fileSystem (some root) rawPath = .ok path ↔
      fileSystem.canonicalize (joinedPath root rawPath) = .ok path ∧
        ∃ canonicalRoot, fileSystem.canonicalize root = .ok canonicalRoot ∧
          comparedText text canonicalRoot <+: comparedText text path ∧
          fileSystem.isDir path = true := by
  cases resolved : fileSystem.canonicalize (joinedPath root rawPath) with
  | error error => simp [validateAndCanonicalizePath, resolved]
  | ok canonical =>
    cases resolvedRoot : fileSystem.canonicalize root with
    | error error => simp [validateAndCanonicalizePath, resolved, resolvedRoot]
    | ok canonicalRoot =>
      simp only [validateAndCanonicalizePath, resolved, resolvedRoot,
        ← List.isPrefixOf_iff_prefix, Except.ok.injEq, exists_eq_left']
      cases begins : (comparedText text canonicalRoot).isPrefixOf (comparedText text canonical) with
      | false =>
        simp only [Bool.not_false, if_true, reduceCtorEq, false_iff]
        rintro ⟨rfl, begins', -⟩
        simp [begins] at begins'
      | true =>
        cases directory : fileSystem.isDir canonical with
        | false =>
          simp only [Bool.not_false, Bool.not_true, if_true,
            Bool.false_eq_true, if_false, reduceCtorEq, false_iff]
          rintro ⟨rfl, -, directory'⟩
          simp [directory] at directory'
        | true =>
          simp only [Bool.not_true, Bool.false_eq_true, if_false, Except.ok.injEq, iff_self_and]
          rintro rfl
          exact ⟨begins, directory⟩

/-- Accepted paths lie in the root exactly when the raw path does not lead to
a lookalike of it. -/
theorem validateAndCanonicalizePath_within_iff (fileSystem : FileSystem) (root rawPath : OsText) :
    (∀ path canonicalRoot,
        validateAndCanonicalizePath text fileSystem (some root) rawPath = .ok path →
        fileSystem.canonicalize root = .ok canonicalRoot → path.Within canonicalRoot) ↔
      ∀ path canonicalRoot,
        fileSystem.canonicalize (joinedPath root rawPath) = .ok path →
        fileSystem.canonicalize root = .ok canonicalRoot →
        ¬ Lookalike text fileSystem canonicalRoot path := by
  constructor
  · intro confined path canonicalRoot resolved resolvedRoot lookalike
    have accepted := (validateAndCanonicalizePath_eq_ok_iff text).mpr
      ⟨resolved, canonicalRoot, resolvedRoot, lookalike.sameStart, lookalike.directory⟩
    rcases (path.within_iff canonicalRoot).mp (confined path canonicalRoot accepted resolvedRoot)
      with same | further
    · exact lookalike.differs same
    · exact lookalike.goesOn further
  · intro noLookalike path canonicalRoot accepted resolvedRoot
    obtain ⟨resolved, otherRoot, resolvedOther, sameStart, directory⟩ :=
      (validateAndCanonicalizePath_eq_ok_iff text).mp accepted
    obtain rfl : otherRoot = canonicalRoot := Except.ok.inj (resolvedOther.symm.trans resolvedRoot)
    rw [path.within_iff]
    by_contra outside
    obtain ⟨differs, goesOn⟩ := not_or.mp outside
    exact noLookalike path otherRoot resolved resolvedRoot ⟨directory, differs, goesOn, sameStart⟩

def asciiConversions : TextConversions where
  toStringLossy bytes := bytes.map fun byte => Char.ofNat byte.toNat
  toLowercase characters := characters.map Char.toLower

def asciiBytes (characters : String) : OsText :=
  characters.toList.map fun character => UInt8.ofNat character.toNat

def siblingDirectories : FileSystem where
  canonicalize path :=
    if path = asciiBytes "/data" then
      .ok ⟨[asciiBytes "data"], by decide⟩
    else if path = asciiBytes "/data-evil" then
      .ok ⟨[asciiBytes "data-evil"], by decide⟩
    else .error "No such file or directory (os error 2)"
  isDir _ := true

/-- The name of the sibling extends the one of the root, so it is accepted. -/
theorem extendedSibling_accepted : ∃ path canonicalRoot,
      validateAndCanonicalizePath asciiConversions siblingDirectories
          (some (asciiBytes "/data")) (asciiBytes "/data-evil") = .ok path ∧
        siblingDirectories.canonicalize (asciiBytes "/data") =
          .ok canonicalRoot ∧ ¬ path.Within canonicalRoot := by
  refine ⟨⟨[asciiBytes "data-evil"], by decide⟩,
    ⟨[asciiBytes "data"], by decide⟩, ?_, by decide +kernel, ?_⟩
  · rw [validateAndCanonicalizePath_eq_ok_iff]
    refine ⟨by decide +kernel, ⟨[asciiBytes "data"], by decide⟩,
      by decide +kernel, ?_, rfl⟩
    decide +kernel
  · unfold CanonicalPath.Within
    decide +kernel

end RockDuck
