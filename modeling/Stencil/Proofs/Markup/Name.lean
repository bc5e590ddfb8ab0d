import Stencil.Markup.Name

/-!
What the readers of names, paths and blanks accept.

Each shape is described without its reader, and the reader takes exactly as much of a text as has the shape,
provided the text after it does not go on with a character of the same kind.
-/

namespace Stencil.Markup

/-- A text that does not go on with a character of a kind. -/
def Stops (kind : Char → Bool) (s : List Char) : Prop :=
  ∀ c ∈ s.head?, kind c = false

theorem stops_cons {kind : Char → Bool} {c : Char} {s : List Char} (other : kind c = false) :
    Stops kind (c :: s) := by
  intro d member
  simp only [List.head?_cons, Option.mem_some_iff] at member
  rw [← member, other]

theorem Stops.mono {kind kind' : Char → Bool} {s : List Char} (stop : Stops kind' s)
    (more : ∀ c, kind c = true → kind' c = true) : Stops kind s := by
  intro c member
  cases first : kind c with
  | false => rfl
  | true => exact (more c first).symm.trans (stop c member)

theorem ne_of_kind {kind : Char → Bool} {c d : Char} (inside : kind c = true) (outside : kind d = false) : c ≠ d := by
  rintro rfl
  cases inside.symm.trans outside

theorem takeWhile_append_of_stops {kind : Char → Bool} {run rest : List Char}
    (inside : ∀ c ∈ run, kind c = true) (stop : Stops kind rest) :
    (run ++ rest).takeWhile kind = run := by
  rw [List.takeWhile_append_of_pos inside]
  cases rest with
  | nil => simp
  | cons c rest => simp [stop c rfl]

theorem dropWhile_append_of_stops {kind : Char → Bool} {run rest : List Char}
    (inside : ∀ c ∈ run, kind c = true) (stop : Stops kind rest) :
    (run ++ rest).dropWhile kind = rest := by
  rw [List.dropWhile_append_of_pos inside]
  cases rest with
  | nil => simp
  | cons c rest => simp [stop c rfl]

theorem takeWhile_mem {kind : Char → Bool} {s : List Char} :
    ∀ c ∈ s.takeWhile kind, kind c = true :=
  List.all_eq_true.mp List.all_takeWhile

/-- A character of one kind and any number of characters of another after it. -/
def IsRun (first others : Char → Bool) (s : List Char) : Prop :=
  ∃ c rest, s = c :: rest ∧ first c = true ∧ ∀ d ∈ rest, others d = true

/-- A name: a letter or underscore, then letters, digits and underscores. -/
def IsName : List Char → Prop :=
  IsRun isNameStart isNameChar

/-- The name of a region: a character of a name, then such characters, dots and dashes. -/
def IsRegionName : List Char → Prop :=
  IsRun isNameChar isRegionChar

/-- Whether a character can continue a path in one way or another. -/
def isPathChar (c : Char) : Bool :=
  isNameChar c || c == '.'

/-- Name characters, and dots each of which stands before one. -/
inductive IsPathTail : List Char → Prop
  | nil : IsPathTail []
  | char {c s} : isNameChar c = true → IsPathTail s → IsPathTail (c :: s)
  | dot {c s} : isNameChar c = true → IsPathTail s → IsPathTail ('.' :: c :: s)

/-- A dotted path: a name and any number of further segments. -/
def IsPath (s : List Char) : Prop :=
  ∃ c rest, s = c :: rest ∧ isNameStart c = true ∧ IsPathTail rest

theorem IsPathTail.chars {s : List Char} (shape : IsPathTail s) : ∀ c ∈ s, isPathChar c = true := by
  induction shape with
  | nil => simp
  | char named _ ih => exact List.forall_mem_cons.mpr ⟨by simp [isPathChar, named], ih⟩
  | dot named _ ih =>
    exact List.forall_mem_cons.mpr ⟨by decide, List.forall_mem_cons.mpr ⟨by simp [isPathChar, named], ih⟩⟩

/-- A text of blanks alone. -/
def IsBlankRun (s : List Char) : Prop :=
  ∀ c ∈ s, Text.isBlank c = true

theorem isBlankRun_nil : IsBlankRun [] :=
  fun _ member => absurd member List.not_mem_nil

theorem isBlankRun_space : IsBlankRun [' '] := by
  intro c member
  rw [List.mem_singleton.mp member]
  decide

theorem toNat_of_isAlpha {c : Char} (alpha : c.isAlpha = true) : 65 ≤ c.toNat ∧ c.toNat ≤ 122 := by
  rcases (Bool.or_eq_true_iff.mp alpha : c.isUpper = true ∨ c.isLower = true) with upper | lower
  · obtain ⟨low, high⟩ : 'A'.val ≤ c.val ∧ c.val ≤ 'Z'.val := of_decide_eq_true upper
    exact ⟨UInt32.le_iff_toNat_le.mp low, Nat.le_trans (UInt32.le_iff_toNat_le.mp high) (by decide)⟩
  · obtain ⟨low, high⟩ := Bool.and_eq_true_iff.mp lower
    have low : 'a'.val ≤ c.val := of_decide_eq_true low
    have high : c.val ≤ 'z'.val := of_decide_eq_true high
    exact ⟨Nat.le_trans (by decide) (UInt32.le_iff_toNat_le.mp low), UInt32.le_iff_toNat_le.mp high⟩

theorem toNat_of_isDigit {c : Char} (digit : c.isDigit = true) : 48 ≤ c.toNat ∧ c.toNat ≤ 57 := by
  obtain ⟨low, high⟩ := Bool.and_eq_true_iff.mp digit
  have low : '0'.val ≤ c.val := of_decide_eq_true low
  have high : c.val ≤ '9'.val := of_decide_eq_true high
  exact ⟨UInt32.le_iff_toNat_le.mp low, UInt32.le_iff_toNat_le.mp high⟩

theorem isBlank_of_isNameChar {c : Char} (named : isNameChar c = true) : Text.isBlank c = false := by
  simp only [isNameChar, Char.isAlphanum, Bool.or_eq_true, beq_iff_eq] at named
  have small : 48 ≤ c.toNat ∧ c.toNat ≤ 122 := by
    rcases named with (alpha | digit) | rfl
    · have range := toNat_of_isAlpha alpha
      omega
    · have range := toNat_of_isDigit digit
      omega
    · decide
  simp only [Text.isBlank, Bool.or_eq_false_iff, Bool.and_eq_false_iff, decide_eq_false_iff_not,
    beq_eq_false_iff_ne, ne_eq]
  omega

theorem isNameChar_of_isNameStart {c : Char} (start : isNameStart c = true) : isNameChar c = true := by
  simp only [isNameStart, isNameChar, Char.isAlphanum, Bool.or_eq_true] at start ⊢
  exact start.imp_left Or.inl

theorem noSign_of_isNameStart {c : Char} (start : isNameStart c = true) : '#' ≠ c ∧ '/' ≠ c ∧ '{' ≠ c :=
  ⟨(ne_of_kind start (by decide)).symm, (ne_of_kind start (by decide)).symm, (ne_of_kind start (by decide)).symm⟩

theorem IsName.chars {name : List Char} (shape : IsName name) : ∀ c ∈ name, isPathChar c = true := by
  obtain ⟨c, rest, rfl, start, inside⟩ := shape
  intro d member
  rcases List.mem_cons.mp member with rfl | member
  · simp [isPathChar, isNameChar_of_isNameStart start]
  · simp [isPathChar, inside d member]

theorem IsPath.chars {path : List Char} (shape : IsPath path) : ∀ c ∈ path, isPathChar c = true := by
  obtain ⟨c, rest, rfl, start, inside⟩ := shape
  intro d member
  rcases List.mem_cons.mp member with rfl | member
  · simp [isPathChar, isNameChar_of_isNameStart start]
  · exact inside.chars d member

theorem expect_eq_some_iff {pattern s rest : List Char} :
    expect pattern s = some rest ↔ s = pattern ++ rest := by
  induction pattern generalizing s with
  | nil => simp [expect]
  | cons p pattern ih =>
    cases s with
    | nil => simp [expect]
    | cons c s =>
      by_cases same : p = c
      · subst same
        simp [expect, ih]
      · simp [expect, same, Ne.symm same]

theorem expect_append (pattern rest : List Char) : expect pattern (pattern ++ rest) = some rest :=
  expect_eq_some_iff.mpr rfl

theorem skipBlanks?_append {blanks rest : List Char} (nonempty : blanks ≠ []) (blank : IsBlankRun blanks)
    (stop : Stops Text.isBlank rest) : skipBlanks? (blanks ++ rest) = some rest := by
  cases blanks with
  | nil => exact absurd rfl nonempty
  | cons c blanks =>
    have first := blank c (List.mem_cons_self ..)
    have others := dropWhile_append_of_stops (fun d member => blank d (List.mem_cons_of_mem c member)) stop
    simp only [List.cons_append, skipBlanks?, first, if_true, others]

theorem skipBlanks?_sound {s rest : List Char} (run : skipBlanks? s = some rest) :
    ∃ blanks, blanks ≠ [] ∧ IsBlankRun blanks ∧ s = blanks ++ rest := by
  cases s with
  | nil => simp [skipBlanks?] at run
  | cons c s =>
    simp only [skipBlanks?, Option.ite_none_right_eq_some, Option.some.injEq] at run
    obtain ⟨first, rfl⟩ := run
    refine ⟨c :: s.takeWhile Text.isBlank, List.cons_ne_nil _ _, ?_, ?_⟩
    · intro d member
      rcases List.mem_cons.mp member with rfl | member
      · exact first
      · exact takeWhile_mem d member
    · simp

theorem dropWhile_blanks_sound {s rest : List Char} (skip : s.dropWhile Text.isBlank = rest) :
    ∃ blanks, IsBlankRun blanks ∧ s = blanks ++ rest :=
  ⟨s.takeWhile Text.isBlank, takeWhile_mem, by rw [← skip, List.takeWhile_append_dropWhile]⟩

/-- Reads a run from the start of a text. -/
def readRun? (first others : Char → Bool) : List Char → Option (List Char × List Char)
  | c :: rest =>
    if first c then some (c :: rest.takeWhile others, rest.dropWhile others) else none
  | [] => none

theorem readName?_eq_readRun? (s : List Char) : readName? s = readRun? isNameStart isNameChar s := by
  cases s <;> rfl

theorem readRegionName?_eq_readRun? (s : List Char) :
    readRegionName? s = readRun? isNameChar isRegionChar s := by
  cases s <;> rfl

theorem readRun?_append {first others : Char → Bool} {run rest : List Char} (shape : IsRun first others run)
    (stop : Stops others rest) : readRun? first others (run ++ rest) = some (run, rest) := by
  obtain ⟨c, tail, rfl, start, inside⟩ := shape
  simp only [List.cons_append, readRun?, start, if_true, takeWhile_append_of_stops inside stop,
    dropWhile_append_of_stops inside stop]

theorem readRun?_sound {first others : Char → Bool} {s run rest : List Char}
    (read : readRun? first others s = some (run, rest)) : IsRun first others run ∧ s = run ++ rest := by
  cases s with
  | nil => simp [readRun?] at read
  | cons c s =>
    simp only [readRun?, Option.ite_none_right_eq_some, Option.some.injEq, Prod.mk.injEq] at read
    obtain ⟨start, rfl, rfl⟩ := read
    exact ⟨⟨c, _, rfl, start, takeWhile_mem⟩, by simp⟩

theorem readPathTail_append {tail rest : List Char} (shape : IsPathTail tail)
    (stop : Stops isPathChar rest) : readPathTail (tail ++ rest) = (tail, rest) := by
  induction shape with
  | nil =>
    cases rest with
    | nil => rfl
    | cons c rest =>
      have other := stop c rfl
      simp only [isPathChar, Bool.or_eq_false_iff, beq_eq_false_iff_ne] at other
      rw [List.nil_append, readPathTail.eq_3 c rest (fun _ _ dot _ => other.2 dot), if_neg (by simp [other.1])]
  | @char c tail named _ ih =>
    have noDot : c ≠ '.' := ne_of_kind named (by decide)
    rw [List.cons_append, readPathTail.eq_3 c _ (fun _ _ dot _ => noDot dot), if_pos named, ih]
  | @dot c tail named _ ih =>
    rw [List.cons_append, List.cons_append, readPathTail.eq_2, if_pos named, ih]

theorem readPathTail_sound (s : List Char) :
    IsPathTail (readPathTail s).1 ∧ s = (readPathTail s).1 ++ (readPathTail s).2 := by
  fun_induction readPathTail s with
  | case1 => exact ⟨.nil, rfl⟩
  | case2 c rest named tail after split ih =>
    rw [split] at ih
    exact ⟨.dot named ih.1, by rw [ih.2]; rfl⟩
  | case3 c rest _ => exact ⟨.nil, rfl⟩
  | case4 c rest _ named tail after split ih =>
    rw [split] at ih
    exact ⟨.char named ih.1, by rw [ih.2]; rfl⟩
  | case5 c rest _ _ => exact ⟨.nil, rfl⟩

theorem isBlank_of_isNameStart {c : Char} (start : isNameStart c = true) : Text.isBlank c = false :=
  isBlank_of_isNameChar (isNameChar_of_isNameStart start)

theorem isNameChar_of_isBlank {c : Char} (blank : Text.isBlank c = true) : isNameChar c = false := by
  cases named : isNameChar c with
  | false => rfl
  | true => rw [isBlank_of_isNameChar named] at blank; cases blank

theorem isPathChar_of_isBlank {c : Char} (blank : Text.isBlank c = true) : isPathChar c = false := by
  have noDot : c ≠ '.' := ne_of_kind blank (by decide)
  simp [isPathChar, isNameChar_of_isBlank blank, noDot]

theorem isRegionChar_of_isBlank {c : Char} (blank : Text.isBlank c = true) : isRegionChar c = false := by
  have noDot : c ≠ '.' := ne_of_kind blank (by decide)
  have noDash : c ≠ '-' := ne_of_kind blank (by decide)
  simp [isRegionChar, isNameChar_of_isBlank blank, noDot, noDash]

theorem stops_blanks {kind : Char → Bool} {blanks rest : List Char} (run : IsBlankRun blanks)
    (other : ∀ c, Text.isBlank c = true → kind c = false) (stop : Stops kind rest) :
    Stops kind (blanks ++ rest) := by
  cases blanks with
  | nil => exact stop
  | cons c blanks => exact stops_cons (other c (run c (List.mem_cons_self ..)))

theorem stops_some_blanks {kind : Char → Bool} {blanks rest : List Char} (nonempty : blanks ≠ [])
    (run : IsBlankRun blanks) (other : ∀ c, Text.isBlank c = true → kind c = false) :
    Stops kind (blanks ++ rest) := by
  cases blanks with
  | nil => exact absurd rfl nonempty
  | cons c blanks => exact stops_cons (other c (run c (List.mem_cons_self ..)))

theorem IsRun.not_blank {first others : Char → Bool} {run : List Char} (shape : IsRun first others run)
    (visible : ∀ c, first c = true → Text.isBlank c = false) (rest : List Char) :
    Stops Text.isBlank (run ++ rest) := by
  obtain ⟨c, tail, rfl, start, _⟩ := shape
  exact stops_cons (visible c start)

theorem IsPath.not_blank {path : List Char} (shape : IsPath path) (rest : List Char) :
    Stops Text.isBlank (path ++ rest) := by
  obtain ⟨c, tail, rfl, start, _⟩ := shape
  exact stops_cons (isBlank_of_isNameStart start)

theorem readPath?_append {path rest : List Char} (shape : IsPath path) (stop : Stops isPathChar rest) :
    readPath? (path ++ rest) = some (path, rest) := by
  obtain ⟨c, tail, rfl, first, more⟩ := shape
  simp only [List.cons_append, readPath?, first, if_true, readPathTail_append more stop]

theorem readPath?_sound {s path rest : List Char} (read : readPath? s = some (path, rest)) :
    IsPath path ∧ s = path ++ rest := by
  cases s with
  | nil => simp [readPath?] at read
  | cons c s =>
    simp only [readPath?, Option.ite_none_right_eq_some, Option.some.injEq, Prod.mk.injEq] at read
    obtain ⟨first, rfl, rfl⟩ := read
    obtain ⟨tail, whole⟩ := readPathTail_sound s
    exact ⟨⟨c, _, rfl, first, tail⟩, by rw [List.cons_append, ← whole]⟩

theorem isPath_iff {s : List Char} : isPath s = true ↔ IsPath s := by
  constructor
  · intro whole
    unfold isPath at whole
    split at whole
    · rename_i path read
      obtain ⟨shape, same⟩ := readPath?_sound read
      rwa [same, List.append_nil]
    · cases whole
  · intro shape
    have read := readPath?_append shape (fun c (member : c ∈ ([] : List Char).head?) => absurd member (by simp))
    rw [List.append_nil] at read
    rw [isPath, read]

instance : DecidablePred IsPath := fun s => decidable_of_iff (isPath s = true) isPath_iff

theorem isRegionName_iff {s : List Char} : isRegionName s = true ↔ IsRegionName s := by
  constructor
  · intro whole
    unfold isRegionName at whole
    split at whole
    · rename_i name read
      rw [readRegionName?_eq_readRun?] at read
      obtain ⟨shape, same⟩ := readRun?_sound read
      rwa [same, List.append_nil]
    · cases whole
  · intro shape
    have stop : Stops isRegionChar [] := fun c member => absurd member (by simp)
    have read := readRun?_append shape stop
    rw [List.append_nil, ← readRegionName?_eq_readRun?] at read
    rw [isRegionName, read]

theorem isRun_cons_iff {first others : Char → Bool} {c : Char} {s : List Char} :
    IsRun first others (c :: s) ↔ (first c && s.all others) = true := by
  rw [Bool.and_eq_true, List.all_eq_true]
  constructor
  · rintro ⟨_, _, split, start, inside⟩
    cases split
    exact ⟨start, inside⟩
  · rintro ⟨start, inside⟩
    exact ⟨c, s, rfl, start, inside⟩

instance (first others : Char → Bool) : DecidablePred (IsRun first others)
  | [] => isFalse fun ⟨_, _, split, _⟩ => List.cons_ne_nil _ _ split.symm
  | c :: s => decidable_of_iff ((first c && s.all others) = true) isRun_cons_iff.symm

instance : DecidablePred IsName := inferInstanceAs (DecidablePred (IsRun isNameStart isNameChar))

instance : DecidablePred IsRegionName := inferInstanceAs (DecidablePred (IsRun isNameChar isRegionChar))

end Stencil.Markup
