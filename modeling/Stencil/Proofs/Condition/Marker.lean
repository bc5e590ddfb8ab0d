import Stencil.Proofs.Condition.Argument
import Stencil.Proofs.Markup.Alone

/-!
Quoted text in markers.

Where a marker ends is decided without regard to quotes. So quoted text is taken for what it is exactly as long as it
does not hold what ends the marker around it: the arguments of a call stay on one line and do not hold the end of a
call, and a condition does not hold a closing brace (`quoted_in_markers`).
-/

namespace Stencil.Condition

open Markup

theorem IsQuoted.isArgument {s : List Char} (quoted : IsQuoted s) : IsArgument s where
  filled := by
    obtain ⟨q, inside, _, _, rfl⟩ := quoted
    exact List.cons_ne_nil _ _
  trimmed := by
    have spells : LexemeKind.Spells .string s := quoted
    simpa using spells.strip isBlankRun_nil isBlankRun_nil
  passes := by
    obtain ⟨q, inside, quote, free, rfl⟩ := quoted
    exact passes_quoted quote free

theorem ne_empty_of_compile {expression : String} {c : Condition} (compiled : compile expression = .ok c) :
    expression ≠ "" := by
  rintro rfl
  have nothing : (compile "").isOk = false := by decide +kernel
  rw [compiled] at nothing
  cases nothing

/-- A call of quoted texts by itself is read as the call with these arguments exactly if its name is a name and each
of the texts can stand in a marker. A conditional around literal text is read as such with an expression for its
condition exactly if the expression has no closing brace. -/
theorem quoted_in_markers :
    (∀ (name : String) (arguments : List String), (∀ argument ∈ arguments, IsQuoted argument.toList) →
      ((∃ spelling, parse {} (spellMarker (name ++ "(" ++ spellArguments arguments ++ ")")) =
          .ok [.call name arguments spelling]) ↔
        IsName name.toList ∧ ∀ argument ∈ arguments, IsWritten argument)) ∧
    ∀ (expression : String) (c : Condition), compile expression = .ok c →
      ∀ text : String, text ≠ "" → Inert text.toList →
        (parse {} (spellBlock .conditional expression text) =
            .ok [.conditional (String.ofList (Text.strip expression.toList)) [.text text] []] ↔
          '}' ∉ expression.toList) := by
  constructor
  · intro name arguments quoted
    have split : splitArguments (spellArguments arguments) = arguments :=
      splitArguments_spellArguments fun argument member => (quoted argument member).isArgument
    rw [parse_call_iff split, isWritten_spellArguments]
  · intro expression c compiled text filled inert
    exact parse_if_iff (ne_empty_of_compile compiled) filled inert

/-- Quoted texts with a comma, with a parenthesis and with braces. -/
def quotedNames : List String :=
  ["\"Ada, Bo\"", "'Cy)'", "'\x7d\x7d'"]

theorem quoted_names_read :
    (∃ spelling, parse {} (spellMarker ("join" ++ "(" ++ spellArguments quotedNames ++ ")")) =
      .ok [.call "join" quotedNames spelling]) ∧
    parse {} (spellBlock .conditional " who == '\x7b' " "x") =
      .ok [.conditional "who == '\x7b'" [.text "x"] []] := by
  obtain ⟨calls, conditionals⟩ := quoted_in_markers
  constructor
  · have quoted : ∀ argument ∈ quotedNames, IsQuoted argument.toList := by
      simp only [quotedNames, List.forall_mem_cons, List.not_mem_nil, false_implies, implies_true, and_true]
      exact ⟨⟨'"', "Ada, Bo".toList, .inl rfl, by decide, by decide⟩,
        ⟨'\'', "Cy)".toList, .inr rfl, by decide, by decide⟩,
        ⟨'\'', "\x7d\x7d".toList, .inr rfl, by decide, by decide⟩⟩
    have free : ∀ argument ∈ quotedNames, IsWritten argument := by
      unfold IsWritten
      decide +kernel
    exact (calls "join" quotedNames quoted).mpr ⟨by decide, free⟩
  · have compiled : compile " who == '\x7b' " =
        .ok ⟨" who == '\x7b' ", .reference "who", some (.eq, .literal (.str "\x7b"))⟩ := by with_unfolding_all rfl
    exact (conditionals _ _ compiled "x" (by decide) (inert_of_free (by decide))).mpr (by decide)

/-- A call whose argument holds the end of a call. -/
def hastyCall : String :=
  spellMarker ("f" ++ "(" ++ spellArguments ["\")\x7d\x7d\""] ++ ")")

/-- A call whose argument holds a line break. -/
def brokenCall : String :=
  spellMarker ("f" ++ "(" ++ spellArguments ["\"\n\""] ++ ")")

/-- Quotes do not keep the end of a marker from ending it: the call ends in its argument, or is literal text, and the
conditional does not begin. -/
theorem quoted_end_breaks_out :
    IsName "f".toList ∧
    (IsQuoted "\")\x7d\x7d\"".toList ∧
      parse {} hastyCall = .ok [.call "f" ["\""] "\x7b\x7bf(\")\x7d\x7d", .text "\")\x7d\x7d"]) ∧
    (IsQuoted "\"\n\"".toList ∧ parse {} brokenCall = .ok [.text brokenCall]) ∧
    (compile "'\x7d'").isOk = true ∧ (parse {} (spellBlock .conditional "'\x7d'" "x")).isOk = false := by
  have hasty : scan hastyCall.toList =
      [.token ⟨.call "f" "\"", "\x7b\x7bf(\")\x7d\x7d"⟩, .text "\")\x7d\x7d".toList] := by decide +kernel
  have broken : scan brokenCall.toList = [.text brokenCall.toList] := by decide +kernel
  refine ⟨by decide, ⟨⟨'"', ")\x7d\x7d".toList, .inl rfl, by decide, by decide⟩, ?_⟩,
    ⟨⟨'"', "\n".toList, .inl rfl, by decide, by decide⟩, ?_⟩, by decide +kernel, by decide +kernel⟩
  · exact parse_of_derives (by rw [hasty]; exact .call (.text .nil))
  · have derives := @Derives.text 0 brokenCall.toList [] [] .nil
    rw [String.ofList_toList] at derives
    exact parse_of_derives (by rw [broken]; exact derives)

end Stencil.Condition
