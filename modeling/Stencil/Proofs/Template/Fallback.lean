import Stencil.Proofs.Condition.Marker
import Stencil.Proofs.Template.Sequence
import Stencil.Proofs.Value.Place

/-!
Fallbacks.

A value gives way to a fallback if it is missing, false, empty text or a zero of any kind of numbers
(`isBlankValue_iff`). Before a function is called its arguments are resolved, and a name that leads nowhere is a
literal like any other bare word. So a fallback is written for what a bound name stands for, while an unbound one is
written itself (`default_renders`).
-/

namespace Stencil

namespace Number

theorem Decimal.compare?_zero_iff {d : Decimal} : d.compare? (ofInt 0) = some .eq ↔ d.isZero = true := by
  cases d with
  | nan => exact iff_of_false nofun nofun
  | infinite negative => cases negative <;> exact iff_of_false nofun nofun
  | finite negative coefficient exponent =>
    have zero : scaledTo (min exponent 0) (decide ((0 : Int) < 0)) (Int.natAbs 0) 0 = 0 := by simp [scaledTo]
    have scaled (n : Nat) : (coefficient * tenTo n : Int) = 0 ↔ coefficient = 0 := by
      have positive : tenTo n ≠ 0 := (Nat.pow_pos (by decide)).ne'
      rw [← Int.natCast_mul, Int.natCast_eq_zero, Nat.mul_eq_zero, or_iff_left positive]
    rw [ofInt, compare?, zero, Option.some.injEq, Int.compare_eq_eq, isZero, beq_iff_eq, scaledTo]
    cases negative with
    | true => rw [if_pos rfl, Int.neg_eq_zero, scaled]
    | false => rw [if_neg Bool.false_ne_true, scaled]

/-- A double is exactly zero if all of its bits are zero but perhaps the sign. -/
theorem Decimal.isZero_exactly_iff {x : Float} : (exactly x).isZero = true ↔ Dyadic.magnitudeBits x = 0 := by
  have positive (n : Nat) : twoTo n ≠ 0 := (Nat.pow_pos (by decide)).ne'
  have mantissa : (Dyadic.ofFloat x).mantissa = 0 ↔ Dyadic.magnitudeBits x = 0 := by
    rw [Dyadic.ofFloat]
    -- Only without exponent bits is there no leading one, and then the bits are those of the mantissa.
    by_cases small : Dyadic.magnitudeBits x / twoTo 52 = 0
    · have below : Dyadic.magnitudeBits x < twoTo 52 :=
        (Nat.div_eq_zero_iff_lt (Nat.pos_of_ne_zero (positive 52))).mp small
      simp [small, Nat.mod_eq_of_lt below]
    · have other : Dyadic.magnitudeBits x ≠ 0 := fun zero => small (by simp [zero])
      simp [small, positive, other]
  unfold exactly
  by_cases number : Dyadic.isNaN x = true
  · have other : Dyadic.magnitudeBits x ≠ 0 := fun zero => by simp [Dyadic.isNaN, zero] at number
    simp [number, isZero, other]
  · by_cases finite : Dyadic.isFinite x = true
    · rw [← mantissa]
      simp only [number, finite, Bool.not_true, Bool.false_eq_true, if_false]
      have five (n : Nat) : Nat.pow 5 n ≠ 0 := (Nat.pow_pos (by decide)).ne'
      split
      · rw [isZero, beq_iff_eq, Nat.mul_eq_zero, or_iff_left (positive _)]
      · rw [isZero, beq_iff_eq, Nat.mul_eq_zero, or_iff_left (five _)]
    · have other : Dyadic.magnitudeBits x ≠ 0 := fun zero => finite (by simp [Dyadic.isFinite, zero, twoTo])
      simp [number, finite, isZero, other]

end Number

namespace Function

open Number

/-- Values that give way to a fallback: missing ones, false, empty text, and zeros. -/
inductive GivesWay : Value → Prop
  | null : GivesWay .null
  | false : GivesWay (.bool false)
  | empty : GivesWay (.str "")
  | integer : GivesWay (.int 0)
  | float {x} : Dyadic.magnitudeBits x = 0 → GivesWay (.float x)
  | decimal {d} : d.isZero = true → GivesWay (.decimal d)

/-- What is compared with zero by its exact value gives way if that is zero. -/
theorem isBlankValue_numeric {v : Value} {d : Decimal} (other : v ≠ .str "")
    (compared : isBlankValue v = (v == .str "" || d.compare? (.ofInt 0) == some .eq)) :
    isBlankValue v = true ↔ d.isZero = true := by
  rw [compared, Bool.or_eq_true, Value.beq_str, beq_iff_eq, or_iff_right other, Decimal.compare?_zero_iff]

theorem isBlankValue_iff {v : Value} : isBlankValue v = true ↔ GivesWay v := by
  cases v with
  | null => exact iff_of_true rfl .null
  | bool b =>
    cases b with
    | false => exact iff_of_true rfl .false
    | true => exact iff_of_false nofun nofun
  | int n =>
    have zero : isBlankValue (.int n) = true ↔ n = 0 := by
      change (Value.int n == .str "" || n == 0) = true ↔ n = 0
      rw [Bool.or_eq_true, Value.beq_str, beq_iff_eq, or_iff_right nofun]
    rw [zero]
    exact ⟨fun same => same ▸ .integer, fun gives => by cases gives; rfl⟩
  | float x =>
    rw [@isBlankValue_numeric (.float x) _ nofun rfl, Decimal.isZero_exactly_iff]
    exact ⟨.float, fun gives => by cases gives; assumption⟩
  | decimal d =>
    rw [@isBlankValue_numeric (.decimal d) _ nofun rfl]
    exact ⟨.decimal, fun gives => by cases gives; assumption⟩
  | str s =>
    have empty : isBlankValue (.str s) = true ↔ s = "" := by
      change (Value.str s == .str "" || false) = true ↔ s = ""
      rw [Bool.or_false, Value.beq_str, Value.str.injEq]
    rw [empty]
    exact ⟨fun same => same ▸ .empty, fun gives => by cases gives; rfl⟩
  | list items => exact iff_of_false nofun nofun
  | map entries => exact iff_of_false nofun nofun
  | temporal t => exact iff_of_false nofun nofun
  | thing o => cases o <;> exact iff_of_false nofun nofun

end Function

namespace Markup

open Condition

theorem IsPath.isArgument {s : List Char} (shape : IsPath s) : IsArgument s where
  filled := by
    obtain ⟨c, rest, rfl, _⟩ := shape
    exact List.cons_ne_nil _ _
  trimmed := by
    have spells : LexemeKind.Spells .name s := shape
    simpa using spells.strip isBlankRun_nil isBlankRun_nil
  passes := by
    have spells : LexemeKind.Spells .name s := shape
    exact spells.passes rfl

theorem IsPath.isWritten {path : String} (shape : IsPath path.toList) : IsWritten path := by
  constructor
  · intro member
    cases shape.chars _ member
  · intro inside
    cases shape.chars ')' (inside.subset (List.mem_cons_self ..))

end Markup

namespace Render

open Markup Condition

/-- A call of the function that supplies a fallback. -/
def withFallback (path fallback : String) : String :=
  spellMarker ("default" ++ "(" ++ spellArguments [path, fallback] ++ ")")

variable {setting : Setting} {scope : Scope} {path fallback : String} {s : Session}

theorem parse_withFallback (shape : IsPath path.toList) (quoted : IsQuoted fallback.toList)
    (written : IsWritten fallback) :
    ∃ spelling, parse {} (withFallback path fallback) = .ok [.call "default" [path, fallback] spelling] := by
  have split : splitArguments (spellArguments [path, fallback]) = [path, fallback] :=
    splitArguments_spellArguments
      (List.forall_mem_cons.mpr ⟨shape.isArgument, List.forall_mem_singleton.mpr quoted.isArgument⟩)
  refine (parse_call_iff split).mpr ⟨by decide, isWritten_spellArguments.mpr ?_⟩
  exact List.forall_mem_cons.mpr ⟨shape.isWritten, List.forall_mem_singleton.mpr written⟩

/-- Text as it is written, escaped or not. -/
def shown (setting : Setting) (text : String) : String :=
  if setting.escapesHtml then String.ofList (Text.escape text.toList) else text

theorem output_eq (v : Value) : output setting v = v.toText.map (shown setting) := by
  unfold output
  cases v.toText <;> rfl

/-- The function is the common one, as it is unless a template has its own. -/
def SuppliesFallbacks (setting : Setting) : Prop :=
  setting.functions.get? "default" = some (Function.ofPure (Function.binary Function.default))

/-- The call writes the value of its first argument, or that of the second one if the first gives way. -/
theorem result_withFallback (supplies : SuppliesFallbacks setting) (shape : IsPath path.toList)
    (quoted : IsQuoted fallback.toList) (written : IsWritten fallback) {v : Value}
    (resolved : resolveArgument path scope = .ok v) :
    result (text setting scope (withFallback path fallback)) s =
      output setting (if Function.isBlankValue v then unquote fallback else v) := by
  obtain ⟨spelling, read⟩ := parse_withFallback shape quoted written
  have values : arguments scope [path, fallback] = .ok [v, unquote fallback] := by
    rw [arguments, resolved, arguments, resolveArgument_of_isQuoted quoted]
    rfl
  rw [text_of_read read, nodes_singleton, node, call, supplies]
  have supplied (s : Session) :
      result (Run.ofCall (Function.ofPure (Function.binary Function.default) [v, unquote fallback])) s =
        .ok (if Function.isBlankValue v then unquote fallback else v) := by
    rw [result_ofCall]
    rfl
  simp only [values]
  rw [result_bind_of_ok (result_ofExcept _ s), result_bind_of_ok rfl, result_bind_of_ok (supplied _), result_ofExcept]

theorem resolveArgument_of_bound (shape : IsPath path.toList) {v : Value} (bound : scope.lookup path = .ok (some v)) :
    resolveArgument path scope = .ok v := by
  obtain ⟨c, rest, same, start, _⟩ := shape
  rw [resolveArgument_of_not_isQuote same (isQuote_of_isNameStart start), bound]
  rfl

theorem resolveArgument_of_unbound (shape : IsPath path.toList) (unbound : scope.lookup path = .ok none) :
    resolveArgument path scope = .ok (parseLiteral path) := by
  obtain ⟨c, rest, same, start, _⟩ := shape
  rw [resolveArgument_of_not_isQuote same (isQuote_of_isNameStart start), unbound]
  rfl

/-- A bare word, taken as a literal, is written as it is spelled. Of all bare words only the one for falsehood gives
way to a fallback. -/
theorem bare_word (shape : IsPath path.toList) :
    (parseLiteral path).toText = .ok path ∧ (Function.GivesWay (parseLiteral path) ↔ path = "false") := by
  by_cases truth : IsTruth path
  · obtain rfl | rfl := truth
    · exact ⟨rfl, iff_of_false nofun (by decide)⟩
    · exact ⟨rfl, iff_of_true .false rfl⟩
  · rw [parseLiteral_of_path shape truth]
    refine ⟨rfl, iff_of_false (fun gives => ?_) fun same => truth (.inr same)⟩
    obtain ⟨c, rest, same, _⟩ := shape
    cases gives
    cases same

/-- A text between quotes. -/
def inQuotes (q : Char) (text : String) : String :=
  String.ofList (q :: (text.toList ++ [q]))

theorem unquote_inQuotes (q : Char) (text : String) : unquote (inQuotes q text) = .str text := by
  simp [unquote, inQuotes]

/-- What is written for a call of the common function with a path and a quoted text. Where the path leads to a value,
that value is written, and the text instead if the value gives way. A path that leads nowhere is a literal, and is
written as it is spelled unless it is the word for falsehood, which gives way to the text. -/
theorem default_renders (supplies : SuppliesFallbacks setting) (shape : IsPath path.toList) {q : Char} {fallback : String}
    (quote : q = '"' ∨ q = '\'') (free : q ∉ fallback.toList) (written : IsWritten (inQuotes q fallback))
    (scope : Scope) (s : Session) :
    (∀ v, scope.lookup path = .ok (some v) → Function.GivesWay v →
        result (text setting scope (withFallback path (inQuotes q fallback))) s = .ok (shown setting fallback)) ∧
      (∀ v, scope.lookup path = .ok (some v) → ¬ Function.GivesWay v →
        result (text setting scope (withFallback path (inQuotes q fallback))) s = v.toText.map (shown setting)) ∧
      (scope.lookup path = .ok none → path ≠ "false" →
        result (text setting scope (withFallback path (inQuotes q fallback))) s = .ok (shown setting path)) ∧
      (scope.lookup path = .ok none → path = "false" →
        result (text setting scope (withFallback path (inQuotes q fallback))) s = .ok (shown setting fallback)) := by
  have quoted : IsQuoted (inQuotes q fallback).toList := ⟨q, fallback.toList, quote, free, String.toList_ofList⟩
  have gives {v : Value} (resolved : resolveArgument path scope = .ok v) (gives : Function.GivesWay v) :
      result (text setting scope (withFallback path (inQuotes q fallback))) s = .ok (shown setting fallback) := by
    rw [result_withFallback supplies shape quoted written resolved, if_pos (Function.isBlankValue_iff.mpr gives),
      unquote_inQuotes, output_eq]
    rfl
  have keeps {v : Value} (resolved : resolveArgument path scope = .ok v) (keeps : ¬ Function.GivesWay v) :
      result (text setting scope (withFallback path (inQuotes q fallback))) s = v.toText.map (shown setting) := by
    rw [result_withFallback supplies shape quoted written resolved, if_neg (mt Function.isBlankValue_iff.mp keeps),
      output_eq]
  obtain ⟨spelled, word⟩ := bare_word shape
  refine ⟨fun v bound => gives (resolveArgument_of_bound shape bound),
    fun v bound => keeps (resolveArgument_of_bound shape bound), fun unbound other => ?_, fun unbound same => ?_⟩
  · rw [keeps (resolveArgument_of_unbound shape unbound) (mt word.mp other), spelled]
    rfl
  · exact gives (resolveArgument_of_unbound shape unbound) (word.mpr same)

/-- Templates with the common functions, whose values are not escaped. -/
def common : Setting :=
  ⟨Function.builtins, false⟩

theorem common_supplies : SuppliesFallbacks common :=
  rfl

theorem isPath_nickname : IsPath "nickname".toList :=
  isPath_iff.mp (by decide)

theorem isWritten_friend : IsWritten (inQuotes '"' "friend") := by
  unfold IsWritten
  decide +kernel

/-- The call that greets by a name. -/
def greeting : String :=
  withFallback "nickname" (inQuotes '"' "friend")

theorem greeting_renders :
    result (text common (.ofBindings [("nickname", .str "")]) greeting) {} = .ok "friend" ∧
      result (text common (.ofBindings [("nickname", .str "Ada")]) greeting) {} = .ok "Ada" := by
  have renders (scope : Scope) :=
    @default_renders _ _ common_supplies isPath_nickname '"' "friend" (.inl rfl) (by decide) isWritten_friend scope {}
  have kept : ¬ Function.GivesWay (.str "Ada") := mt Function.isBlankValue_iff.mpr (by decide)
  exact ⟨(renders _).1 (.str "") rfl .empty, (renders _).2.1 (.str "Ada") rfl kept⟩

/-- Where no nickname is bound, the greeting has its name instead of a friend. -/
theorem nickname_unbound :
    greeting = "\x7b\x7bdefault(nickname, \"friend\")\x7d\x7d" ∧
      (Scope.ofBindings []).lookup "nickname" = .ok none ∧
      result (text common (.ofBindings []) greeting) {} = .ok "nickname" ∧
      result (text common (.ofBindings []) greeting) {} ≠ .ok "friend" := by
  have unbound : (Scope.ofBindings []).lookup "nickname" = .ok none := rfl
  have resolved : resolveArgument "nickname" (.ofBindings []) = .ok (.str "nickname") := by
    rw [resolveArgument_of_unbound isPath_nickname unbound, parseLiteral_of_path isPath_nickname (by decide)]
  have quoted : IsQuoted (inQuotes '"' "friend").toList :=
    ⟨'"', "friend".toList, .inl rfl, by decide, String.toList_ofList⟩
  have renders : result (text common (.ofBindings []) greeting) {} = .ok "nickname" :=
    (result_withFallback common_supplies isPath_nickname quoted isWritten_friend resolved).trans rfl
  refine ⟨rfl, unbound, renders, ?_⟩
  rw [renders]
  exact fun same => absurd (Except.ok.inj same) (by decide)

end Render

end Stencil
