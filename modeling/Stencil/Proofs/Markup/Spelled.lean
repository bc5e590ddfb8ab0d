import Stencil.Markup.Marker
import Stencil.Proofs.Markup.Name

/-!
Which texts spell a marker.

`Spells` lists the written forms of the markers and says nothing of how they are recognized. The main
statement, `Marker.read?_eq_some_iff`, is that a text starts with a marker exactly if it starts with a
written form of it. What follows the form has no say, so a marker means the same wherever it stands.
-/

namespace Stencil.Markup

/-- The written forms of the markers. Blanks may stand around the condition of a conditional, between the
parts of the opening of a loop or region, and before its closing braces; nowhere else. -/
inductive Spells : Marker → List Char → Prop
  | ifOpen {blank inside} : Text.isBlank blank = true → inside ≠ [] → '}' ∉ inside →
      Spells (.ifOpen (String.ofList (Text.strip (blank :: inside))))
        (Marker.opening ++ "#if".toList ++ blank :: inside ++ Marker.closing)
  | ifElse : Spells .ifElse (Marker.opening ++ "#else".toList ++ Marker.closing)
  | ifClose : Spells .ifClose (Marker.opening ++ "/if".toList ++ Marker.closing)
  | eachOpen {before array between after item trailing} :
      before ≠ [] → IsBlankRun before → IsPath array → between ≠ [] → IsBlankRun between →
      after ≠ [] → IsBlankRun after → IsName item → IsBlankRun trailing →
      Spells (.eachOpen (String.ofList array) (String.ofList item))
        (Marker.opening ++ "#each".toList ++ before ++ array ++ between ++ "as".toList ++ after ++ item
          ++ trailing ++ Marker.closing)
  | eachClose : Spells .eachClose (Marker.opening ++ "/each".toList ++ Marker.closing)
  | regionOpen {kind before name trailing} :
      before ≠ [] → IsBlankRun before → IsRegionName name → IsBlankRun trailing →
      Spells (.regionOpen kind (String.ofList name))
        (Marker.opening ++ '#' :: kind.word.toList ++ before ++ name ++ trailing ++ Marker.closing)
  | regionClose {kind} :
      Spells (.regionClose kind) (Marker.opening ++ '/' :: kind.word.toList ++ Marker.closing)
  | call {name written} : IsName name → '\n' ∉ written → ¬ ')' :: Marker.closing <:+: written →
      Spells (.call (String.ofList name) (String.ofList written))
        (Marker.opening ++ name ++ '(' :: written ++ ')' :: Marker.closing)
  | doubleSlot {path} : IsPath path →
      Spells (.slot (String.ofList path)) (Marker.opening ++ path ++ Marker.closing)
  | singleSlot {path} : IsPath path →
      Spells (.slot (String.ofList path)) ('{' :: path ++ ['}'])

namespace Marker

theorem fixed?_eq_some_iff {marker read : Marker} {word : String} {s rest : List Char} :
    fixed? marker word s = some (read, rest) ↔
      read = marker ∧ s = opening ++ word.toList ++ closing ++ rest := by
  simp only [fixed?, Option.bind_eq_bind, Option.bind_eq_some_iff, expect_eq_some_iff, Option.some.injEq,
    Prod.mk.injEq]
  constructor
  · rintro ⟨_, whole, rfl, rfl⟩
    exact ⟨rfl, whole⟩
  · rintro ⟨rfl, whole⟩
    exact ⟨rest, whole, rfl, rfl⟩

theorem readArguments?_append {written : List Char} (oneLine : '\n' ∉ written)
    (noEnd : ¬ ')' :: closing <:+: written) (rest : List Char) :
    readArguments? (written ++ ')' :: closing ++ rest) = some (written, rest) := by
  induction written with
  | nil => rw [readArguments?.eq_def, List.nil_append, expect_append]
  | cons c written ih =>
    have later : ¬ ')' :: closing <:+: written := fun inside => noEnd (List.infix_cons inside)
    have early : expect (')' :: closing) (c :: written ++ ')' :: closing ++ rest) = none := by
      cases run : expect (')' :: closing) (c :: written ++ ')' :: closing ++ rest) with
      | none => rfl
      | some after =>
        -- The end cannot begin at `c` without lying in the arguments: its braces are no parentheses.
        have starts := expect_eq_some_iff.mp run
        match written, noEnd, starts with
        | [], _, starts => simp [closing] at starts
        | [_], _, starts => simp [closing] at starts
        | _ :: _ :: tail, noEnd, starts =>
          simp only [closing, List.cons_append, List.cons.injEq] at starts
          obtain ⟨rfl, rfl, rfl, _⟩ := starts
          exact absurd ⟨[], tail, rfl⟩ noEnd
    have noBreak : c ≠ '\n' := fun same => oneLine (same ▸ List.mem_cons_self ..)
    rw [readArguments?.eq_def, early]
    simp only [List.cons_append, beq_iff_eq, noBreak, if_false]
    have ih' := ih (fun member => oneLine (List.mem_cons_of_mem c member)) later
    simp only [List.append_assoc, List.cons_append] at ih' ⊢
    rw [ih', Option.map_some]

theorem readArguments?_sound {s written rest : List Char}
    (read : readArguments? s = some (written, rest)) :
    '\n' ∉ written ∧ ¬ ')' :: closing <:+: written ∧ s = written ++ ')' :: closing ++ rest := by
  fun_induction readArguments? s generalizing written with
  | case1 s after run =>
    simp only [Option.some.injEq, Prod.mk.injEq] at read
    obtain ⟨rfl, rfl⟩ := read
    exact ⟨List.not_mem_nil, by simp [closing], expect_eq_some_iff.mp run⟩
  | case2 => simp at read
  | case3 => simp at read
  | case4 c cs noBreak noEnd ih =>
    simp only [Option.map_eq_some_iff, Prod.exists, Prod.mk.injEq] at read
    obtain ⟨inner, after, run, rfl, rfl⟩ := read
    obtain ⟨oneLine, noEnd', whole⟩ := ih run
    refine ⟨?_, ?_, by simp [whole]⟩
    · intro member
      rcases List.mem_cons.mp member with rfl | member
      · exact noBreak rfl
      · exact oneLine member
    · rintro inside
      rcases List.infix_cons_iff.mp inside with starts | inside
      · obtain ⟨tail, whole'⟩ := starts
        have run' : expect (')' :: closing) (c :: cs) = some (tail ++ ')' :: closing ++ after) := by
          rw [expect_eq_some_iff, whole, ← List.append_assoc, ← List.append_assoc, whole']
          simp
        rw [noEnd] at run'
        cases run'
      · exact noEnd' inside

theorem ifOpen?_eq_some_iff {marker : Marker} {s rest : List Char} :
    ifOpen? s = some (marker, rest) ↔ ∃ blank inside, Text.isBlank blank = true ∧ inside ≠ [] ∧
      '}' ∉ inside ∧ marker = .ifOpen (String.ofList (Text.strip (blank :: inside))) ∧
      s = opening ++ "#if".toList ++ blank :: inside ++ closing ++ rest := by
  constructor
  · intro read
    simp only [ifOpen?, Option.bind_eq_bind, Option.bind_eq_some_iff, expect_eq_some_iff] at read
    obtain ⟨body, whole, after, ending, read⟩ := read
    have split := List.takeWhile_append_dropWhile (p := (· != '}')) (l := body)
    rw [ending] at split
    split at read
    · rename_i blank next inside found
      have free : ∀ c ∈ body.takeWhile (· != '}'), (c != '}') = true := takeWhile_mem
      rw [found] at split free
      simp only [Option.ite_none_right_eq_some, Option.some.injEq, Prod.mk.injEq] at read
      obtain ⟨first, rfl, rfl⟩ := read
      refine ⟨blank, next :: inside, first, List.cons_ne_nil _ _, ?_, by rw [found], ?_⟩
      · intro member
        exact absurd (free '}' (List.mem_cons_of_mem _ member)) (by decide)
      · rw [whole, ← split]
        simp
    · cases read
  · rintro ⟨blank, inside, first, nonempty, free, rfl, rfl⟩
    obtain ⟨next, more, rfl⟩ := List.exists_cons_of_ne_nil nonempty
    have unclosed : ∀ c ∈ blank :: next :: more, (c != '}') = true := by
      intro c member
      rcases List.mem_cons.mp member with rfl | member
      · exact bne_iff_ne.mpr (by rintro rfl; exact absurd first (by decide))
      · exact bne_iff_ne.mpr (by rintro rfl; exact free member)
    have stop : Stops (· != '}') (closing ++ rest) := stops_cons (by decide)
    simp only [List.append_assoc, ifOpen?]
    rw [← List.append_assoc opening, expect_append]
    simp only [Option.bind_eq_bind, Option.bind_some, takeWhile_append_of_stops unclosed stop,
      dropWhile_append_of_stops unclosed stop, expect_append, first, if_true]

theorem eachOpen?_eq_some_iff {marker : Marker} {s rest : List Char} :
    eachOpen? s = some (marker, rest) ↔ ∃ before array between after item trailing,
      before ≠ [] ∧ IsBlankRun before ∧ IsPath array ∧ between ≠ [] ∧ IsBlankRun between ∧
      after ≠ [] ∧ IsBlankRun after ∧ IsName item ∧ IsBlankRun trailing ∧
      marker = .eachOpen (String.ofList array) (String.ofList item) ∧
      s = opening ++ "#each".toList ++ before ++ array ++ between ++ "as".toList ++ after ++ item
        ++ trailing ++ closing ++ rest := by
  constructor
  · intro read
    simp only [eachOpen?, Option.bind_eq_bind, Option.bind_eq_some_iff, expect_eq_some_iff, Prod.exists,
      Option.some.injEq, Prod.mk.injEq] at read
    obtain ⟨s₁, rfl, s₂, blanks₁, array, s₃, readArray, s₄, blanks₂, s₅, rfl, s₆, blanks₃, item, s₇, readItem, s₈,
      ending, rfl, rfl⟩ := read
    obtain ⟨before, some₁, run₁, rfl⟩ := skipBlanks?_sound blanks₁
    obtain ⟨path, rfl⟩ := readPath?_sound readArray
    obtain ⟨between, some₂, run₂, rfl⟩ := skipBlanks?_sound blanks₂
    obtain ⟨after, some₃, run₃, rfl⟩ := skipBlanks?_sound blanks₃
    rw [readName?_eq_readRun?] at readItem
    obtain ⟨name, rfl⟩ := readRun?_sound readItem
    obtain ⟨trailing, run₄, rfl⟩ := dropWhile_blanks_sound ending
    exact ⟨before, array, between, after, item, trailing, some₁, run₁, path, some₂, run₂, some₃, run₃, name, run₄,
      rfl, by simp⟩
  · rintro ⟨before, array, between, after, item, trailing, some₁, run₁, path, some₂, run₂, some₃, run₃, name, run₄,
      rfl, rfl⟩
    have stop₁ := path.not_blank (between ++ ("as".toList ++ (after ++ (item ++ (trailing ++ (closing ++ rest))))))
    have stop₂ : Stops isPathChar (between ++ ("as".toList ++ (after ++ (item ++ (trailing ++ (closing ++ rest)))))) :=
      stops_some_blanks some₂ run₂ fun _ => isPathChar_of_isBlank
    have stop₃ : Stops Text.isBlank ("as".toList ++ (after ++ (item ++ (trailing ++ (closing ++ rest))))) :=
      stops_cons (by decide)
    have stop₄ := IsRun.not_blank name (fun _ => isBlank_of_isNameStart) (trailing ++ (closing ++ rest))
    have stop₅ : Stops isNameChar (trailing ++ (closing ++ rest)) :=
      stops_blanks run₄ (fun _ => isNameChar_of_isBlank) (stops_cons (by decide))
    have stop₆ : Stops Text.isBlank (closing ++ rest) := stops_cons (by decide)
    simp only [List.append_assoc, eachOpen?]
    rw [← List.append_assoc opening, expect_append]
    simp only [Option.bind_eq_bind, Option.bind_some, skipBlanks?_append some₁ run₁ stop₁,
      readPath?_append path stop₂, skipBlanks?_append some₂ run₂ stop₃, expect_append,
      skipBlanks?_append some₃ run₃ stop₄, readName?_eq_readRun?, readRun?_append name stop₅,
      dropWhile_append_of_stops run₄ stop₆]

theorem regionOpen?_eq_some_iff {kind : RegionKind} {marker : Marker} {s rest : List Char} :
    regionOpen? kind s = some (marker, rest) ↔ ∃ before name trailing,
      before ≠ [] ∧ IsBlankRun before ∧ IsRegionName name ∧ IsBlankRun trailing ∧
      marker = .regionOpen kind (String.ofList name) ∧
      s = opening ++ '#' :: kind.word.toList ++ before ++ name ++ trailing ++ closing ++ rest := by
  constructor
  · intro read
    simp only [regionOpen?, Option.bind_eq_bind, Option.bind_eq_some_iff, expect_eq_some_iff, Prod.exists,
      Option.some.injEq, Prod.mk.injEq] at read
    obtain ⟨s₁, rfl, s₂, blanks, name, s₃, read, s₄, ending, rfl, rfl⟩ := read
    obtain ⟨before, nonempty, run, rfl⟩ := skipBlanks?_sound blanks
    rw [readRegionName?_eq_readRun?] at read
    obtain ⟨shape, rfl⟩ := readRun?_sound read
    obtain ⟨trailing, run', rfl⟩ := dropWhile_blanks_sound ending
    exact ⟨before, name, trailing, nonempty, run, shape, run', rfl, by simp⟩
  · rintro ⟨before, name, trailing, nonempty, run, shape, run', rfl, rfl⟩
    have stop₁ := IsRun.not_blank shape (fun _ => isBlank_of_isNameChar) (trailing ++ (closing ++ rest))
    have stop₂ : Stops isRegionChar (trailing ++ (closing ++ rest)) :=
      stops_blanks run' (fun _ => isRegionChar_of_isBlank) (stops_cons (by decide))
    have stop₃ : Stops Text.isBlank (closing ++ rest) := stops_cons (by decide)
    simp only [List.append_assoc, regionOpen?]
    rw [← List.append_assoc opening, expect_append]
    simp only [Option.bind_eq_bind, Option.bind_some, skipBlanks?_append nonempty run stop₁,
      readRegionName?_eq_readRun?, readRun?_append shape stop₂, dropWhile_append_of_stops run' stop₃, expect_append]

theorem call?_eq_some_iff {marker : Marker} {s rest : List Char} :
    call? s = some (marker, rest) ↔ ∃ name written, IsName name ∧ '\n' ∉ written ∧
      ¬ ')' :: closing <:+: written ∧ marker = .call (String.ofList name) (String.ofList written) ∧
      s = opening ++ name ++ '(' :: written ++ ')' :: closing ++ rest := by
  constructor
  · intro read
    simp only [call?, Option.bind_eq_bind, Option.bind_eq_some_iff, expect_eq_some_iff, Prod.exists,
      Option.some.injEq, Prod.mk.injEq] at read
    obtain ⟨s₁, rfl, name, s₂, read, s₃, rfl, written, s₄, arguments, rfl, rfl⟩ := read
    rw [readName?_eq_readRun?] at read
    obtain ⟨shape, rfl⟩ := readRun?_sound read
    obtain ⟨oneLine, noEnd, rfl⟩ := readArguments?_sound arguments
    exact ⟨name, written, shape, oneLine, noEnd, rfl, by simp⟩
  · rintro ⟨name, written, shape, oneLine, noEnd, rfl, rfl⟩
    have stop : Stops isNameChar ('(' :: (written ++ (')' :: closing ++ rest))) := stops_cons (by decide)
    have arguments := readArguments?_append oneLine noEnd rest
    have paren := expect_append ['('] (written ++ (')' :: closing ++ rest))
    simp only [List.append_assoc, List.cons_append, List.nil_append, call?] at arguments stop paren ⊢
    simp only [Option.bind_eq_bind, expect_append, Option.bind_some, readName?_eq_readRun?,
      readRun?_append shape stop, paren, arguments]

theorem slot?_eq_some_iff {marker : Marker} {before after s rest : List Char}
    (stop : Stops isPathChar (after ++ rest)) :
    slot? before after s = some (marker, rest) ↔ ∃ path, IsPath path ∧
      marker = .slot (String.ofList path) ∧ s = before ++ path ++ after ++ rest := by
  constructor
  · intro read
    simp only [slot?, Option.bind_eq_bind, Option.bind_eq_some_iff, expect_eq_some_iff, Prod.exists,
      Option.some.injEq, Prod.mk.injEq] at read
    obtain ⟨s₁, rfl, path, s₂, read, s₃, rfl, rfl, rfl⟩ := read
    obtain ⟨shape, rfl⟩ := readPath?_sound read
    exact ⟨path, shape, rfl, by simp⟩
  · rintro ⟨path, shape, rfl, rfl⟩
    simp only [List.append_assoc, slot?, Option.bind_eq_bind, expect_append, Option.bind_some,
      readPath?_append shape stop]

/-- A path between braces is no call: nothing in a path opens a parenthesis. -/
theorem call?_path {path : List Char} (shape : IsPath path) (rest : List Char) :
    call? (opening ++ path ++ closing ++ rest) = none := by
  cases read : call? (opening ++ path ++ closing ++ rest) with
  | none => rfl
  | some result =>
    obtain ⟨name, written, named, _, _, _, whole⟩ := call?_eq_some_iff.mp read
    simp only [List.append_assoc, List.append_cancel_left_eq] at whole
    have after := congrArg (List.dropWhile isPathChar) whole
    have stop : Stops isPathChar (closing ++ rest) := stops_cons (by decide)
    have stop' : Stops isPathChar ('(' :: written ++ (')' :: closing ++ result.2)) := stops_cons (by decide)
    rw [dropWhile_append_of_stops shape.chars stop, dropWhile_append_of_stops (IsName.chars named) stop'] at after
    cases after

theorem read?_sound {marker : Marker} {s rest : List Char} (read : read? s = some (marker, rest)) :
    ∃ form, Spells marker form ∧ s = form ++ rest := by
  simp only [read?, Option.orElse_eq_orElse, Option.orElse_eq_or, Option.or_eq_some_iff] at read
  rcases read with run | ⟨_, run | ⟨_, run | ⟨_, run | ⟨_, run | ⟨_, run | ⟨_, run | ⟨_, run | ⟨_, run | ⟨_, run |
    ⟨_, run | ⟨_, run⟩⟩⟩⟩⟩⟩⟩⟩⟩⟩⟩
  · obtain ⟨_, _, first, nonempty, free, rfl, rfl⟩ := ifOpen?_eq_some_iff.mp run
    exact ⟨_, .ifOpen first nonempty free, rfl⟩
  · obtain ⟨rfl, rfl⟩ := fixed?_eq_some_iff.mp run
    exact ⟨_, .ifElse, rfl⟩
  · obtain ⟨rfl, rfl⟩ := fixed?_eq_some_iff.mp run
    exact ⟨_, .ifClose, rfl⟩
  · obtain ⟨_, _, _, _, _, _, some₁, run₁, path, some₂, run₂, some₃, run₃, name, run₄, rfl, rfl⟩ :=
      eachOpen?_eq_some_iff.mp run
    exact ⟨_, .eachOpen some₁ run₁ path some₂ run₂ some₃ run₃ name run₄, rfl⟩
  · obtain ⟨rfl, rfl⟩ := fixed?_eq_some_iff.mp run
    exact ⟨_, .eachClose, rfl⟩
  · obtain ⟨_, _, _, nonempty, run₁, shape, run₂, rfl, rfl⟩ := regionOpen?_eq_some_iff.mp run
    exact ⟨_, .regionOpen nonempty run₁ shape run₂, rfl⟩
  · obtain ⟨_, _, _, nonempty, run₁, shape, run₂, rfl, rfl⟩ := regionOpen?_eq_some_iff.mp run
    exact ⟨_, .regionOpen nonempty run₁ shape run₂, rfl⟩
  · obtain ⟨rfl, rfl⟩ := fixed?_eq_some_iff.mp run
    exact ⟨_, .regionClose, rfl⟩
  · obtain ⟨rfl, rfl⟩ := fixed?_eq_some_iff.mp run
    exact ⟨_, .regionClose, rfl⟩
  · obtain ⟨_, _, shape, oneLine, noEnd, rfl, rfl⟩ := call?_eq_some_iff.mp run
    exact ⟨_, .call shape oneLine noEnd, rfl⟩
  · obtain ⟨_, shape, rfl, rfl⟩ := (slot?_eq_some_iff (stops_cons (by decide))).mp run
    exact ⟨_, .doubleSlot shape, rfl⟩
  · obtain ⟨_, shape, rfl, rfl⟩ := (slot?_eq_some_iff (stops_cons (by decide))).mp run
    exact ⟨_, .singleSlot shape, rfl⟩

theorem read?_append {marker : Marker} {form : List Char} (spelled : Spells marker form) (rest : List Char) :
    read? (form ++ rest) = some (marker, rest) := by
  cases spelled with
  | @ifOpen blank inside first nonempty free =>
    rw [read?, ifOpen?_eq_some_iff.mpr ⟨blank, inside, first, nonempty, free, rfl, rfl⟩]
    rfl
  | ifElse => simp [read?, ifOpen?, fixed?, expect, opening, closing]
  | ifClose => simp [read?, ifOpen?, fixed?, expect, opening, closing]
  | @eachOpen before array between after item trailing some₁ run₁ path some₂ run₂ some₃ run₃ name run₄ =>
    rw [read?, eachOpen?_eq_some_iff.mpr ⟨before, array, between, after, item, trailing, some₁, run₁, path, some₂, run₂,
      some₃, run₃, name, run₄, rfl, rfl⟩]
    simp [ifOpen?, fixed?, expect, opening, closing]
  | eachClose => simp [read?, ifOpen?, fixed?, expect, opening, closing, eachOpen?]
  | @regionOpen kind before name trailing nonempty run shape run' =>
    have read : regionOpen? kind
        (opening ++ '#' :: kind.word.toList ++ before ++ name ++ trailing ++ closing ++ rest) =
          some (.regionOpen kind (String.ofList name), rest) :=
      regionOpen?_eq_some_iff.mpr ⟨before, name, trailing, nonempty, run, shape, run', rfl, rfl⟩
    cases kind with
    | block =>
      rw [read?, read]
      simp [ifOpen?, fixed?, expect, opening, closing, eachOpen?, RegionKind.word]
    | sect =>
      rw [read?, read]
      simp [ifOpen?, fixed?, expect, opening, closing, eachOpen?, regionOpen?, RegionKind.word]
  | @regionClose kind =>
    cases kind <;> simp [read?, ifOpen?, fixed?, expect, opening, closing, eachOpen?, regionOpen?, RegionKind.word]
  | @call name written shape oneLine noEnd =>
    rw [read?, call?_eq_some_iff.mpr ⟨name, written, shape, oneLine, noEnd, rfl, rfl⟩]
    obtain ⟨c, tail, rfl, start, _⟩ := shape
    obtain ⟨noHash, noSlash, _⟩ := noSign_of_isNameStart start
    simp [ifOpen?, fixed?, expect, opening, closing, eachOpen?, regionOpen?, RegionKind.word, noHash, noSlash]
  | @doubleSlot path shape =>
    have stop : Stops isPathChar (closing ++ rest) := stops_cons (by decide)
    rw [read?, (slot?_eq_some_iff stop).mpr ⟨path, shape, rfl, rfl⟩, call?_path shape]
    obtain ⟨c, tail, rfl, start, _⟩ := shape
    obtain ⟨noHash, noSlash, _⟩ := noSign_of_isNameStart start
    simp [ifOpen?, fixed?, expect, opening, closing, eachOpen?, regionOpen?, RegionKind.word, noHash, noSlash]
  | @singleSlot path shape =>
    have stop : Stops isPathChar (['}'] ++ rest) := stops_cons (by decide)
    have read : slot? ['{'] ['}'] ('{' :: path ++ ['}'] ++ rest) = some (.slot (String.ofList path), rest) :=
      (slot?_eq_some_iff stop).mpr ⟨path, shape, rfl, rfl⟩
    rw [read?, read]
    obtain ⟨c, tail, rfl, start, _⟩ := shape
    obtain ⟨_, _, noBrace⟩ := noSign_of_isNameStart start
    simp [ifOpen?, fixed?, expect, opening, eachOpen?, regionOpen?, call?, slot?, noBrace]

/-- A text starts with a marker exactly if it starts with a written form of it. -/
theorem read?_eq_some_iff {marker : Marker} {s rest : List Char} :
    read? s = some (marker, rest) ↔ ∃ form, Spells marker form ∧ s = form ++ rest := by
  constructor
  · exact read?_sound
  · rintro ⟨form, spelled, rfl⟩
    exact read?_append spelled rest

end Marker

end Stencil.Markup
