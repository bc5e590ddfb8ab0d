import Stencil.Markup.Argument
import Stencil.Proofs.Markup.Name
import Stencil.Proofs.Text.Blank

/-!
How the text between the parentheses of a call is cut into arguments.

A part of the text is passed over if no comma in it stands outside quotes. Such a part lies within one argument, and
what is cut after it depends only on the quote that is open then (`cutArguments_append`). So arguments that are passed
over come back from the text that lists them (`splitArguments_of_lists`), and arguments that close their quotes are
passed over (`splitArguments_joined`).
-/

namespace Stencil.Markup

/-- Texts without a comma outside quotes, with the quotes that are open before and after them. -/
inductive Passes : Option Char → List Char → Option Char → Prop
  | nil {quote} : Passes quote [] quote
  | cons {quote c s quote'} : (c = ',' → quote ≠ none) → Passes (nextQuote quote c) s quote' →
      Passes quote (c :: s) quote'

/-- Parts with a text put before the first of them. -/
def prependTo (s : List Char) : List (List Char) → List (List Char)
  | [] => [s]
  | part :: parts => (s ++ part) :: parts

section Passing

variable {quote quote' quote'' : Option Char} {s t : List Char}

theorem Passes.append (first : Passes quote s quote') (second : Passes quote' t quote'') :
    Passes quote (s ++ t) quote'' := by
  induction first with
  | nil => exact second
  | cons inside _ ih => exact .cons inside (ih second)

/-- Whether a character neither cuts arguments apart nor opens a quote. -/
def isPlainChar (c : Char) : Bool :=
  c != ',' && c != '"' && c != '\''

theorem passes_of_plain (plain : ∀ c ∈ s, isPlainChar c = true) : Passes none s none := by
  induction s with
  | nil => exact .nil
  | cons c s ih =>
    obtain ⟨first, others⟩ := List.forall_mem_cons.mp plain
    simp only [isPlainChar, Bool.and_eq_true, bne_iff_ne, ne_eq] at first
    have same : nextQuote none c = none := by simp [nextQuote, first]
    exact .cons (fun comma => absurd comma first.1.1) (same.symm ▸ ih others)

/-- A character of a kind that the comma and the quotes are not of is plain. -/
theorem isPlainChar_of_kind {p : Char → Bool} {c : Char} (inside : p c = true)
    (outside : p ',' = false ∧ p '"' = false ∧ p '\'' = false) : isPlainChar c = true := by
  obtain ⟨comma, double, single⟩ := outside
  simp only [isPlainChar, Bool.and_eq_true, bne_iff_ne]
  exact ⟨⟨ne_of_kind inside comma, ne_of_kind inside double⟩, ne_of_kind inside single⟩

theorem passes_blanks (blank : IsBlankRun s) : Passes none s none :=
  passes_of_plain fun c member => isPlainChar_of_kind (blank c member) (by decide)

theorem passes_within {q : Char} (free : q ∉ s) : Passes (some q) s (some q) := by
  induction s with
  | nil => exact .nil
  | cons c s ih =>
    obtain ⟨first, others⟩ := not_or.mp (fun member => free (List.mem_cons.mpr member))
    have same : nextQuote (some q) c = some q := by simp [nextQuote, Ne.symm first]
    exact .cons (fun _ => nofun) (same.symm ▸ ih others)

/-- A text in quotes is passed over. -/
theorem passes_quoted {q : Char} (kind : q = '"' ∨ q = '\'') (free : q ∉ s) :
    Passes none (q :: (s ++ [q])) none := by
  have opens : nextQuote none q = some q := by rcases kind with rfl | rfl <;> rfl
  have closes : Passes (some q) [q] none := .cons (fun _ => nofun) (by simpa [nextQuote] using .nil)
  refine .cons ?_ (opens.symm ▸ (passes_within free).append closes)
  rintro rfl
  exact absurd kind (by decide)

theorem cutArguments_ne_nil (quote : Option Char) (s : List Char) : cutArguments quote s ≠ [] := by
  cases s with
  | nil => exact List.cons_ne_nil _ _
  | cons c s =>
    unfold cutArguments
    split
    · exact List.cons_ne_nil _ _
    · split <;> exact List.cons_ne_nil _ _

theorem prependTo_nil {parts : List (List Char)} (nonempty : parts ≠ []) : prependTo [] parts = parts := by
  cases parts with
  | nil => exact absurd rfl nonempty
  | cons part parts => rfl

theorem cutArguments_append (passes : Passes quote s quote') (rest : List Char) :
    cutArguments quote (s ++ rest) = prependTo s (cutArguments quote' rest) := by
  induction passes with
  | nil => exact (prependTo_nil (cutArguments_ne_nil _ rest)).symm
  | @cons quote c s quote' inside _ ih =>
    have stays : (c == ',' && quote.isNone) = false := by
      cases quote with
      | none => simpa using fun comma => inside comma rfl
      | some q => simp
    rw [List.cons_append, cutArguments, stays, ih]
    cases cutArguments quote' rest <;> rfl

/-- A text that is passed over is one argument. -/
theorem cutArguments_of_passes (passes : Passes none s none) : cutArguments none s = [s] := by
  have whole := cutArguments_append passes []
  rw [List.append_nil] at whole
  simpa [cutArguments, prependTo] using whole

/-- The comma after such a text cuts it off. -/
theorem cutArguments_comma (passes : Passes none s none) (rest : List Char) :
    cutArguments none (s ++ ',' :: rest) = s :: cutArguments none rest := by
  rw [cutArguments_append passes]
  simp [cutArguments, prependTo]

end Passing

theorem dropEmptyLast_of_nonempty {parts : List (List Char)} (nonempty : ∀ part ∈ parts, part ≠ []) :
    dropEmptyLast parts = parts := by
  induction parts with
  | nil => rfl
  | cons part parts ih =>
    obtain ⟨first, others⟩ := List.forall_mem_cons.mp nonempty
    cases parts with
    | nil => simp [dropEmptyLast, first]
    | cons next parts => rw [dropEmptyLast, ih others]; nofun

/-- A text that lists arguments, with commas between them and blanks around the commas. -/
inductive Lists : List (List Char) → List Char → Prop
  | last {argument} : Lists [argument] argument
  | more {argument before after arguments rest} : IsBlankRun before → IsBlankRun after → Lists arguments rest →
      Lists (argument :: arguments) (argument ++ before ++ ',' :: after ++ rest)

/-- An argument that the splitter leaves as it is. -/
structure IsArgument (s : List Char) : Prop where
  filled : s ≠ []
  trimmed : Text.strip s = s
  passes : Passes none s none

theorem strip_cutArguments_of_lists {arguments : List (List Char)} {s lead : List Char} (lists : Lists arguments s)
    (each : ∀ argument ∈ arguments, IsArgument argument) (blank : IsBlankRun lead) :
    (cutArguments none (lead ++ s)).map Text.strip = arguments := by
  induction lists generalizing lead with
  | @last argument =>
    have shape := each argument (List.mem_singleton_self argument)
    have bare := Text.strip_blanks blank isBlankRun_nil (s := argument)
    rw [List.append_nil] at bare
    rw [cutArguments_of_passes ((passes_blanks blank).append shape.passes), List.map_singleton, bare, shape.trimmed]
  | @more argument before after arguments rest blank₁ blank₂ _ ih =>
    obtain ⟨shape, others⟩ := List.forall_mem_cons.mp each
    have passes := (passes_blanks blank).append (shape.passes.append (passes_blanks blank₁))
    have whole : lead ++ (argument ++ before ++ ',' :: after ++ rest) =
        lead ++ (argument ++ before) ++ ',' :: (after ++ rest) := by simp
    rw [whole, cutArguments_comma passes, List.map_cons, Text.strip_blanks blank blank₁, shape.trimmed, ih others blank₂]

/-- Splitting the text that lists arguments gives them back. -/
theorem splitArguments_of_lists {arguments : List (List Char)} {s : String} (lists : Lists arguments s.toList)
    (each : ∀ argument ∈ arguments, IsArgument argument) : splitArguments s = arguments.map String.ofList := by
  have cut := strip_cutArguments_of_lists lists each isBlankRun_nil
  rw [List.nil_append] at cut
  rw [splitArguments, cut, dropEmptyLast_of_nonempty fun argument member => (each argument member).filled]

/-- Several arguments as they are usually written. -/
def spellArguments (arguments : List String) : String :=
  ", ".intercalate arguments

theorem lists_spellArguments {arguments : List String} (filled : arguments ≠ []) :
    Lists (arguments.map String.toList) (spellArguments arguments).toList := by
  induction arguments with
  | nil => exact absurd rfl filled
  | cons first rest ih =>
    cases rest with
    | nil =>
      rw [spellArguments, String.intercalate_singleton]
      exact .last
    | cons second rest =>
      have more : Lists (first.toList :: _) _ := .more isBlankRun_nil isBlankRun_space (ih (List.cons_ne_nil _ _))
      rw [spellArguments, String.intercalate_cons_cons]
      simpa [spellArguments] using more

theorem splitArguments_spellArguments {arguments : List String}
    (each : ∀ argument ∈ arguments, IsArgument argument.toList) :
    splitArguments (spellArguments arguments) = arguments := by
  by_cases filled : arguments = []
  · subst filled
    rfl
  · have split := splitArguments_of_lists (lists_spellArguments filled) (by simpa using each)
    simpa [Function.comp_def] using split

/-- A text in which every quote that opens is closed by its own kind, and every comma stands in quotes. Other quotes
stand for themselves in there. -/
inductive WellQuoted : List Char → Prop
  | nil : WellQuoted []
  | char {c s} : isPlainChar c = true → WellQuoted s → WellQuoted (c :: s)
  | quoted {q inside s} : q = '"' ∨ q = '\'' → q ∉ inside → WellQuoted s → WellQuoted (q :: (inside ++ [q]) ++ s)

theorem WellQuoted.passes {s : List Char} (quoted : WellQuoted s) : Passes none s none := by
  induction quoted with
  | nil => exact .nil
  | @char c s plain _ ih =>
    have first : Passes none [c] none := passes_of_plain (List.forall_mem_singleton.mpr plain)
    exact first.append ih
  | quoted kind free _ ih => exact (passes_quoted kind free).append ih

/-- A text that joins arguments: commas stand between them, with blanks around each, and without arguments it is empty. -/
def Joins (arguments : List (List Char)) (s : List Char) : Prop :=
  arguments = [] ∧ s = [] ∨ Lists arguments s

/-- Splitting undoes joining: a text gives back the arguments that it joins if none of them is empty or has blanks at its
ends, and all of them close their quotes and have commas in quotes only. -/
theorem splitArguments_joined {arguments : List String} {s : String} (filled : ∀ argument ∈ arguments, argument ≠ "")
    (trimmed : ∀ argument ∈ arguments, Text.strip argument.toList = argument.toList)
    (quoted : ∀ argument ∈ arguments, WellQuoted argument.toList)
    (joins : Joins (arguments.map String.toList) s.toList) : splitArguments s = arguments := by
  rcases joins with ⟨nothing, empty⟩ | lists
  · rw [List.map_eq_nil_iff.mp nothing, String.toList_eq_nil_iff.mp empty]
    rfl
  · have each : ∀ argument ∈ arguments.map String.toList, IsArgument argument := by
      intro argument member
      obtain ⟨text, inside, rfl⟩ := List.mem_map.mp member
      have nonempty : text.toList ≠ [] := fun empty => filled text inside (String.toList_eq_nil_iff.mp empty)
      exact ⟨nonempty, trimmed text inside, (quoted text inside).passes⟩
    have split := splitArguments_of_lists lists each
    simpa [Function.comp_def] using split

/-- Arguments with commas and quotes in quotes. -/
def picnic : List String :=
  ["bread", "\", '\"", "a'x, \"y'\"b\""]

/-- The arguments with blanks of several kinds around the commas. -/
def picnicText : String :=
  "bread \u00a0,\n\", '\"\u2003\t,a'x, \"y'\"b\""

theorem picnic_joined :
    (∀ argument ∈ picnic, WellQuoted argument.toList) ∧ Joins (picnic.map String.toList) picnicText.toList ∧
      splitArguments picnicText = picnic := by
  have quoted : ∀ argument ∈ picnic, WellQuoted argument.toList := by
    have second : WellQuoted "\", '\"".toList := @WellQuoted.quoted '"' ", '".toList [] (.inl rfl) (by decide) .nil
    have third : WellQuoted "a'x, \"y'\"b\"".toList := .char rfl
      (@WellQuoted.quoted '\'' "x, \"y".toList _ (.inr rfl) (by decide)
        (@WellQuoted.quoted '"' ['b'] [] (.inl rfl) (by decide) .nil))
    have first : WellQuoted "bread".toList := .char rfl (.char rfl (.char rfl (.char rfl (.char rfl .nil))))
    simpa [picnic] using ⟨first, second, third⟩
  have blanks {s : List Char} (all : s.all Text.isBlank = true) : IsBlankRun s := List.all_eq_true.mp all
  have joins : Joins (picnic.map String.toList) picnicText.toList :=
    .inr (@Lists.more "bread".toList " \u00a0".toList ['\n'] _ _ (blanks rfl) (blanks rfl)
      (@Lists.more "\", '\"".toList "\u2003\t".toList [] _ _ (blanks rfl) (blanks rfl) .last))
  exact ⟨quoted, joins, splitArguments_joined (by decide) (by decide) quoted joins⟩

end Stencil.Markup
