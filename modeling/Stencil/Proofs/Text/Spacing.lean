import Mathlib.Data.List.Chain
import Stencil.Proofs.Text.Blank

/-!
Words and the white space between them.

The words of a text are its longest stretches without blanks. Trimming a text and squeezing its blanks leave them as
they are (`words_collapse`), and text in which single spaces divide words is its words joined by spaces
(`Tidy.unwords_words`). So collapsing the white space of a text comes to joining its words (`collapse_eq_unwords`).
-/

namespace Stencil.Text

/-- The words of a text: the stretches between its blanks that are not empty. -/
def words (s : List Char) : List (List Char) :=
  (s.splitOnP isBlank).filter fun word => !word.isEmpty

/-- Words joined by single spaces. -/
def unwords (ws : List (List Char)) : List Char :=
  [' '].intercalate ws

/-- Text without blanks at its ends, in which no two blanks follow each other and all blanks are spaces. -/
structure Tidy (s : List Char) : Prop where
  starts : ∀ c ∈ s.head?, isBlank c = false
  ends : ∀ c ∈ s.getLast?, isBlank c = false
  single : s.IsChain fun c d => isBlank c = true → isBlank d = false
  spaces : ∀ c ∈ s, isBlank c = true → c = ' '

section Squeeze

theorem squeeze_cons_of_not_blank {c : Char} (black : isBlank c = false) (rest : List Char) :
    squeeze (c :: rest) = c :: squeeze rest := by
  simp [squeeze, black]

theorem squeeze_cons_of_blank {c : Char} (blank : isBlank c = true) (rest : List Char) :
    squeeze (c :: rest) = squeeze rest ∨ squeeze (c :: rest) = ' ' :: squeeze rest := by
  cases rest with
  | nil => simp [squeeze, blank]
  | cons next rest =>
    rw [squeeze, if_pos blank]
    cases isBlank next with
    | true => exact .inl rfl
    | false => exact .inr rfl

theorem mem_squeeze {s : List Char} {c : Char} (member : c ∈ squeeze s) : c = ' ' ∨ c ∈ s := by
  induction s with
  | nil => cases member
  | cons d s ih =>
    have later : c ∈ squeeze s → c = ' ' ∨ c ∈ d :: s := fun member => (ih member).imp_right (List.mem_cons_of_mem d)
    cases blank : isBlank d with
    | false =>
      rw [squeeze_cons_of_not_blank blank, List.mem_cons] at member
      rcases member with rfl | member
      · exact .inr (List.mem_cons_self ..)
      · exact later member
    | true =>
      rcases squeeze_cons_of_blank blank s with same | same
      · exact later (same ▸ member)
      · rw [same, List.mem_cons] at member
        rcases member with rfl | member
        · exact .inl rfl
        · exact later member

theorem mem_collapse {s : List Char} {c : Char} (member : c ∈ collapse s) : c = ' ' ∨ c ∈ s :=
  mem_squeeze (mem_of_mem_strip member)

end Squeeze

section Words

variable {c : Char} {s word blanks : List Char}

@[simp] theorem words_nil : words [] = [] := rfl

/-- A blank divides the words before it from those after it. -/
theorem words_append_cons (before : List Char) (blank : isBlank c = true) (after : List Char) :
    words (before ++ c :: after) = words before ++ words after := by
  have cut := List.splitOnP_append_cons before after blank
  simp only [words, cut, List.filter_append]

theorem words_cons (blank : isBlank c = true) (s : List Char) : words (c :: s) = words s :=
  words_append_cons [] blank s

theorem words_append_blanks (blank : ∀ c ∈ blanks, isBlank c = true) : words (s ++ blanks) = words s := by
  induction blanks generalizing s with
  | nil => rw [List.append_nil]
  | cons c blanks ih =>
    obtain ⟨first, others⟩ := List.forall_mem_cons.mp blank
    have rest : words blanks = words [] := ih (s := []) others
    rw [words_append_cons s first, rest, words_nil, List.append_nil]

theorem words_blanks_append (blank : ∀ c ∈ blanks, isBlank c = true) : words (blanks ++ s) = words s := by
  induction blanks with
  | nil => rfl
  | cons c blanks ih =>
    obtain ⟨first, others⟩ := List.forall_mem_cons.mp blank
    rw [List.cons_append, words_cons first, ih others]

/-- Text without blanks is one word, unless it is empty. -/
theorem words_of_visible (visible : ∀ c ∈ word, isBlank c = false) (filled : word ≠ []) : words word = [word] := by
  rw [words, List.splitOnP_eq_singleton visible]
  simp [filled]

theorem words_strip (s : List Char) : words (strip s) = words s := by
  obtain ⟨before, whole, blank⟩ := stripStart_append s
  obtain ⟨after, whole', blank'⟩ := stripEnd_append (stripStart s)
  calc words (strip s) = words (strip s ++ after) := (words_append_blanks blank').symm
    _ = words (stripStart s) := by rw [strip, ← whole']
    _ = words (before ++ stripStart s) := (words_blanks_append blank).symm
    _ = words s := by rw [← whole]

/-- Squeezing keeps the words, whatever stands before the text. -/
theorem words_append_squeeze (before s : List Char) : words (before ++ squeeze s) = words (before ++ s) := by
  have space : isBlank ' ' = true := by decide
  fun_induction squeeze s generalizing before with
  | case1 => rfl
  | case2 c blank => rw [words_append_cons before space, words_append_cons before blank]
  | case3 c blank next rest blank' ih =>
    have kept := ih before
    rw [words_append_cons before blank'] at kept
    rw [kept, words_append_cons before blank, words_cons blank']
  | case4 c blank next rest visible ih =>
    have kept := ih []
    rw [List.nil_append, List.nil_append] at kept
    rw [words_append_cons before space, words_append_cons before blank, kept]
  | case5 c rest visible ih => rw [List.append_cons, ih, ← List.append_cons]

theorem words_collapse (s : List Char) : words (collapse s) = words s := by
  rw [collapse, words_strip]
  exact words_append_squeeze [] s

/-- The words of a text are all of it but the blanks. -/
theorem flatten_words (s : List Char) : (words s).flatten = s.filter fun c => !isBlank c := by
  rw [words, List.flatten_filter_not_isEmpty]
  induction s with
  | nil => rfl
  | cons c s ih =>
    obtain ⟨word, others, cut⟩ := List.exists_cons_of_ne_nil (List.splitOnP_ne_nil isBlank s)
    rw [cut] at ih
    rw [List.splitOnP_cons_eq_if_modifyHead, cut]
    cases blank : isBlank c with
    | true =>
      rw [if_pos rfl, List.flatten_cons, List.nil_append, ih, List.filter_cons_of_neg (by simp [blank])]
    | false =>
      rw [if_neg Bool.false_ne_true, List.modifyHead_cons, List.flatten_cons, List.cons_append, ← List.flatten_cons, ih,
        List.filter_cons_of_pos (by simp [blank])]

theorem filter_collapse (s : List Char) :
    (collapse s).filter (fun c => !isBlank c) = s.filter fun c => !isBlank c := by
  rw [← flatten_words, ← flatten_words, words_collapse]

theorem unwords_cons {ws : List (List Char)} (more : ws ≠ []) (word : List Char) :
    unwords (word :: ws) = word ++ ' ' :: unwords ws := by
  obtain ⟨next, rest, rfl⟩ := List.exists_cons_of_ne_nil more
  rw [unwords, List.intercalate_cons_cons]
  simp [unwords]

end Words

section Tidy

variable {c : Char} {s word : List Char}

theorem Tidy.tail_of_blank (tidy : Tidy (word ++ c :: s)) (blank : isBlank c = true) : Tidy s where
  starts d head := tidy.single.right_of_append.rel_head? head blank
  ends d last := by
    have whole : (word ++ c :: s).getLast? = some d := by
      simp [List.getLast?_append, List.getLast?_cons, Option.mem_def.mp last]
    exact tidy.ends d whole
  single := tidy.single.right_of_append.tail
  spaces d member := tidy.spaces d (by simp [member])

theorem Tidy.unwords_words_append (tidy : Tidy (word ++ s)) (visible : ∀ c ∈ word, isBlank c = false) :
    unwords (words (word ++ s)) = word ++ s := by
  -- On the text behind the word that is being read.
  induction s generalizing word with
  | nil =>
    rw [List.append_nil]
    by_cases filled : word = []
    · rw [filled]
      rfl
    · rw [words_of_visible visible filled]
      exact List.intercalate_singleton
  | cons c s ih =>
    cases blank : isBlank c with
    | false =>
      rw [List.append_cons] at tidy ⊢
      exact ih tidy (List.forall_mem_append.mpr ⟨visible, List.forall_mem_singleton.mpr blank⟩)
    | true =>
      have filled : word ≠ [] := by
        rintro rfl
        cases (tidy.starts c rfl).symm.trans blank
      have behind : s ≠ [] := by
        rintro rfl
        cases (tidy.ends c List.getLast?_concat).symm.trans blank
      have space : c = ' ' := tidy.spaces c (by simp) blank
      have rest : unwords (words ([] ++ s)) = [] ++ s := ih (tidy.tail_of_blank blank) (List.forall_mem_nil _)
      rw [List.nil_append] at rest
      have more : words s ≠ [] := by
        intro nothing
        rw [nothing] at rest
        exact behind rest.symm
      calc unwords (words (word ++ c :: s)) = unwords (word :: words s) := by
            rw [words_append_cons word blank, words_of_visible visible filled, List.singleton_append]
        _ = word ++ ' ' :: unwords (words s) := unwords_cons more word
        _ = word ++ c :: s := by rw [rest, space]

/-- Text in which single spaces divide words is its words joined by spaces. -/
theorem Tidy.unwords_words (tidy : Tidy s) : unwords (words s) = s :=
  @Tidy.unwords_words_append s [] tidy (List.forall_mem_nil _)

theorem single_squeeze (s : List Char) : (squeeze s).IsChain fun c d => isBlank c = true → isBlank d = false := by
  fun_induction squeeze s with
  | case1 => exact .nil
  | case2 c blank => exact .singleton _
  | case3 c blank next rest blank' ih => exact ih
  | case4 c blank next rest visible ih =>
    have visible : isBlank next = false := by simpa using visible
    refine ih.cons fun d head _ => ?_
    rw [squeeze_cons_of_not_blank visible, List.head?_cons] at head
    cases head
    exact visible
  | case5 c rest visible ih => exact ih.cons fun _ _ blank => absurd blank visible

theorem spaces_squeeze (s : List Char) : ∀ c ∈ squeeze s, isBlank c = true → c = ' ' := by
  fun_induction squeeze s with
  | case1 => exact List.forall_mem_nil _
  | case2 c blank => exact List.forall_mem_singleton.mpr fun _ => rfl
  | case3 c blank next rest blank' ih => exact ih
  | case4 c blank next rest visible ih => exact List.forall_mem_cons.mpr ⟨fun _ => rfl, ih⟩
  | case5 c rest visible ih => exact List.forall_mem_cons.mpr ⟨fun blank => absurd blank visible, ih⟩

theorem visible_of_head?_dropWhile (head : c ∈ (s.dropWhile isBlank).head?) : isBlank c = false := by
  have stops := List.head?_dropWhile_not isBlank s
  rw [Option.mem_def.mp head] at stops
  exact stops

theorem visible_of_head?_strip (head : c ∈ (strip s).head?) : isBlank c = false := by
  obtain ⟨after, whole, _⟩ := stripEnd_append (stripStart s)
  refine visible_of_head?_dropWhile (s := s) ?_
  rw [← stripStart, whole]
  exact List.mem_head?_append_of_mem_head? head

theorem visible_of_getLast?_strip (last : c ∈ (strip s).getLast?) : isBlank c = false := by
  rw [strip, stripEnd, List.getLast?_reverse] at last
  exact visible_of_head?_dropWhile last

/-- Collapsed text has single spaces between its words and no other blanks. -/
theorem tidy_collapse (s : List Char) : Tidy (collapse s) where
  starts _ := visible_of_head?_strip
  ends _ := visible_of_getLast?_strip
  single := by
    obtain ⟨before, after, whole⟩ := isInfix_strip (squeeze s)
    have single := single_squeeze s
    rw [← whole] at single
    exact single.left_of_append.right_of_append
  spaces c member := spaces_squeeze s c (mem_of_mem_strip member)

/-- Collapsing the white space of a text joins its words by single spaces. -/
theorem collapse_eq_unwords (s : List Char) : collapse s = unwords (words s) := by
  rw [← words_collapse, (tidy_collapse s).unwords_words]

theorem collapse_collapse (s : List Char) : collapse (collapse s) = collapse s := by
  rw [collapse_eq_unwords, words_collapse, ← collapse_eq_unwords]

end Tidy

end Stencil.Text
