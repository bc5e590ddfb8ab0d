import Mathlib.Data.List.Infix
import Stencil.Header.Split
import Stencil.Proofs.Text.Blank

/-!
Headers and the files that they are written in.

The text of a file falls apart at the first line break that dashes follow (`splitAtDashes_eq_some_iff`). The line break
after the dashes that the file starts with counts too, so a header may hold any line that does not begin with dashes:
then it ends where it was written to end, and it comes back with the text after it (`header_recovered`).
-/

namespace Stencil.Header

/-- A line break and the dashes after it. -/
def fence : List Char :=
  '\n' :: dashes

/-- The parts of a text before and after the first fence in it. -/
structure Fenced (s before after : List Char) : Prop where
  whole : s = before ++ fence ++ after
  first : ∀ before' after', s = before' ++ fence ++ after' → before.length ≤ before'.length

section Fenced

variable {c : Char} {s before after header body : List Char}

theorem fenced_fence (after : List Char) : Fenced (fence ++ after) [] after :=
  ⟨rfl, fun _ _ _ => Nat.zero_le _⟩

theorem Fenced.cons (fenced : Fenced s before after) (apart : ¬ fence <+: c :: s) :
    Fenced (c :: s) (c :: before) after := by
  refine ⟨congrArg (c :: ·) fenced.whole, fun before' after' split => ?_⟩
  cases before' with
  | nil => exact absurd ⟨after', split.symm⟩ apart
  | cons d before' =>
    have later := fenced.first before' after' (List.cons.inj split).2
    simp only [List.length_cons]
    omega

theorem Fenced.tail (fenced : Fenced (c :: s) (c :: before) after) : Fenced s before after := by
  refine ⟨(List.cons.inj fenced.whole).2, fun before' after' split => ?_⟩
  have later := fenced.first (c :: before') after' (congrArg (c :: ·) split)
  simp only [List.length_cons] at later
  omega

/-- A fence cannot reach into another one, so the first fence after a text without one is the first of all. -/
theorem fenced_append (free : ¬ fence <:+: before) (after : List Char) : Fenced (before ++ fence ++ after) before after := by
  induction before with
  | nil => exact fenced_fence after
  | cons c before ih =>
    rw [List.infix_cons_iff, not_or] at free
    refine (ih free.2).cons ?_
    rintro ⟨rest, same⟩
    -- The fence would have to go on beyond the text, but there stands a line break and no dash.
    match before, same, free.1 with
    | [], same, _ | [_], same, _ | [_, _], same, _ => simp [fence, dashes] at same
    | d₁ :: d₂ :: d₃ :: before, same, apart =>
      simp only [fence, dashes, List.cons_append, List.nil_append, List.cons.injEq] at same
      obtain ⟨rfl, rfl, rfl, rfl, _⟩ := same
      exact apart ⟨before, rfl⟩

theorem splitAtDashes_fence (after : List Char) : splitAtDashes (fence ++ after) = some ([], after) := rfl

theorem splitAtDashes_cons (apart : ¬ fence <+: c :: s) :
    splitAtDashes (c :: s) = (splitAtDashes s).map fun (before, after) => (c :: before, after) := by
  rw [splitAtDashes]
  rintro rest rfl rfl
  exact apart ⟨rest, rfl⟩

theorem splitAtDashes_eq_some_iff : splitAtDashes s = some (before, after) ↔ Fenced s before after := by
  induction s generalizing before with
  | nil =>
    refine ⟨nofun, fun fenced => ?_⟩
    have whole := fenced.whole
    simp [fence] at whole
  | cons c s ih =>
    by_cases here : fence <+: c :: s
    · obtain ⟨rest, same⟩ := here
      rw [← same, splitAtDashes_fence]
      constructor
      · intro found
        cases found
        exact fenced_fence _
      · intro fenced
        have none_before : before.length ≤ 0 := fenced.first [] rest rfl
        obtain rfl : before = [] := List.length_eq_zero_iff.mp (Nat.le_zero.mp none_before)
        obtain rfl : rest = after := List.append_cancel_left fenced.whole
        rfl
    · rw [splitAtDashes_cons here, Option.map_eq_some_iff]
      constructor
      · rintro ⟨⟨before, after⟩, found, same⟩
        cases same
        exact (ih.mp found).cons here
      · intro fenced
        have whole := fenced.whole
        cases before with
        | nil => exact absurd ⟨after, whole.symm⟩ here
        | cons d before =>
          obtain rfl : c = d := (List.cons.inj whole).1
          exact ⟨(before, after), ih.mpr fenced.tail, rfl⟩

/-- The dashes that a file starts with are no part of a fence. -/
theorem fenced_dashes_iff : Fenced (dashes ++ s) (dashes ++ before) after ↔ Fenced s before after := by
  have apart (t : List Char) : ¬ fence <+: '-' :: t := by
    rintro ⟨rest, same⟩
    cases same
  constructor
  · intro fenced
    exact fenced.tail.tail.tail
  · intro fenced
    exact ((fenced.cons (apart _)).cons (apart _)).cons (apart _)

/-- A text has a header if it starts with dashes and has a fence. -/
theorem split_eq_some_iff : split s = some (header, body) ↔
    ∃ before after, Fenced s (dashes ++ before) after ∧ header = Text.strip before ∧
      body = after.dropWhile (· == '\n') := by
  constructor
  · intro found
    unfold split at found
    split at found
    · rename_i rest
      obtain ⟨⟨before, after⟩, divided, same⟩ := Option.map_eq_some_iff.mp found
      have fenced : Fenced rest before after := splitAtDashes_eq_some_iff.mp divided
      cases same
      exact ⟨before, after, fenced_dashes_iff.mpr fenced, rfl, rfl⟩
    · cases found
  · rintro ⟨before, after, fenced, rfl, rfl⟩
    obtain ⟨rest, rfl⟩ : ∃ rest, s = dashes ++ rest := ⟨before ++ fence ++ after, by simpa using fenced.whole⟩
    have found := splitAtDashes_eq_some_iff.mpr (fenced_dashes_iff.mp fenced)
    change (splitAtDashes rest).map _ = _
    rw [found]
    rfl

end Fenced

/-- The lines of a text. -/
def lines (s : String) : List (List Char) :=
  s.toList.splitOn '\n'

theorem exists_line_of_fence {s : String} (inside : fence <:+: '\n' :: s.toList) : ∃ line ∈ lines s, dashes <+: line := by
  have begins (t : List Char) : ∃ line ∈ (dashes ++ t).splitOn '\n', dashes <+: line := by
    obtain ⟨line, others, cut⟩ := List.exists_cons_of_ne_nil (List.splitOn_ne_nil '\n' t)
    refine ⟨dashes ++ line, ?_, List.prefix_append ..⟩
    simp [dashes, List.splitOn_cons_eq_if_modifyHead, cut]
  obtain ⟨before, after, whole⟩ := inside
  cases before with
  | nil =>
    have start : dashes ++ after = s.toList := (List.cons.inj whole).2
    rw [lines, ← start]
    exact begins after
  | cons c before =>
    have rest : before ++ '\n' :: (dashes ++ after) = s.toList := by
      simpa [fence] using (List.cons.inj whole).2
    obtain ⟨line, member, dashed⟩ := begins after
    rw [lines, ← rest, List.splitOn_append_cons_self]
    exact ⟨line, List.mem_append_right _ member, dashed⟩

/-- The text of a file with a header. -/
def write (header body : String) : String :=
  "---\n" ++ header ++ "\n---\n" ++ body

theorem fenced_write {header body : String} (free : ∀ line ∈ lines header, ¬ dashes <+: line) :
    Fenced (write header body).toList (dashes ++ '\n' :: header.toList) ('\n' :: body.toList) := by
  have inside : ¬ fence <:+: '\n' :: header.toList := fun inside => by
    obtain ⟨line, member, dashed⟩ := exists_line_of_fence inside
    exact free line member dashed
  have whole : (write header body).toList = dashes ++ ('\n' :: header.toList ++ fence ++ '\n' :: body.toList) := by
    simp [write, fence, dashes]
  rw [whole, fenced_dashes_iff]
  exact fenced_append inside _

/-- What is written as a header and a text is divided into these. -/
theorem split_write {header body : String} (free : ∀ line ∈ lines header, ¬ dashes <+: line)
    (begins : body.toList.head? ≠ some '\n') :
    split (write header body).toList = some (Text.strip header.toList, body.toList) := by
  have trimmed : Text.strip ('\n' :: header.toList) = Text.strip header.toList := by
    have blank : ∀ c ∈ ['\n'], Text.isBlank c = true := List.forall_mem_singleton.mpr (by decide)
    have same := @Text.strip_blanks header.toList ['\n'] [] blank (List.forall_mem_nil _)
    rwa [List.append_nil] at same
  have kept : ('\n' :: body.toList).dropWhile (· == '\n') = body.toList := by
    rw [List.dropWhile_cons_of_pos (by rfl)]
    cases start : body.toList with
    | nil => rfl
    | cons c rest =>
      rw [start] at begins
      exact List.dropWhile_cons_of_neg (by simpa using begins)
  have divided := split_eq_some_iff.mpr ⟨_, _, @fenced_write header body free, rfl, rfl⟩
  rwa [trimmed, kept] at divided

/-- The document that a file is if the text of its header is data. Data other than a map makes no header. -/
def Document.ofData (content : String) (body : List Char) : Option Value → Document
  | some (.map fields) => ⟨some fields, String.ofList body⟩
  | _ => ⟨none, content⟩

theorem Document.ofData_eq_header_iff {content text : String} {body : List Char} {data : Option Value} {fields : Fields} :
    ofData content body data = ⟨some fields, text⟩ ↔ data = some (.map fields) ∧ String.ofList body = text := by
  unfold ofData
  split
  · simp
  · rename_i other
    exact ⟨nofun, fun ⟨map, _⟩ => (other fields map).elim⟩

theorem Document.body_of_ofData {content text : String} {body : List Char} {data : Option Value}
    (bare : ofData content body data = ⟨none, text⟩) : text = content := by
  unfold ofData at bare
  split at bare
  · cases bare
  · exact (Document.mk.inj bare).2.symm

section Parse

variable {load : String → Except Failure (Option Value)} {content text : String} {header body : List Char}

theorem parseWith_of_undivided (undivided : split content.toList = none) :
    parseWith load content = .ok ⟨none, content⟩ := by
  rw [parseWith, undivided]
  rfl

theorem parseWith_of_divided (divided : split content.toList = some (header, body)) :
    parseWith load content = (load (String.ofList header)).map (Document.ofData content body) := by
  rw [parseWith, divided]
  simp only
  cases load (String.ofList header) with
  | error e => rfl
  | ok data =>
    cases data with
    | none => rfl
    | some v => cases v <;> rfl

/-- A file has a header exactly if it is divided, and `load` reads a map in the text of the header. -/
theorem parseWith_eq_header_iff {fields : Fields} :
    parseWith load content = .ok ⟨some fields, text⟩ ↔ ∃ header body, split content.toList = some (header, body) ∧
      load (String.ofList header) = .ok (some (.map fields)) ∧ String.ofList body = text := by
  cases divided : split content.toList with
  | none => simp [parseWith_of_undivided divided]
  | some parts =>
    obtain ⟨header, body⟩ := parts
    rw [parseWith_of_divided divided]
    cases loaded : load (String.ofList header) with
    | error e => simp [Except.map, loaded]
    | ok data => simp [Except.map, loaded, Document.ofData_eq_header_iff]

theorem body_of_parseWith_bare (parsed : parseWith load content = .ok ⟨none, text⟩) : text = content := by
  cases divided : split content.toList with
  | none =>
    rw [parseWith_of_undivided divided] at parsed
    exact (Document.mk.inj (Except.ok.inj parsed)).2.symm
  | some parts =>
    rw [parseWith_of_divided divided] at parsed
    cases loaded : load (String.ofList parts.1) with
    | error e =>
      rw [loaded] at parsed
      cases parsed
    | ok data =>
      rw [loaded] at parsed
      exact Document.body_of_ofData (Except.ok.inj parsed)

/-- A file is refused only if `load` refuses the text of its header. -/
theorem parseWith_eq_error_iff {e : Failure} :
    parseWith load content = .error e ↔
      ∃ header body, split content.toList = some (header, body) ∧ load (String.ofList header) = .error e := by
  cases divided : split content.toList with
  | none => simp [parseWith_of_undivided divided]
  | some parts =>
    obtain ⟨header, body⟩ := parts
    rw [parseWith_of_divided divided]
    cases loaded : load (String.ofList header) with
    | error e' => simp [Except.map, loaded]
    | ok data => simp [Except.map, loaded]

end Parse

/-- A header comes back from the file that it is written in, and so does all text after it, whatever that is. Of any file
at all, what comes after the header is the text behind the first line break that dashes follow, without line breaks at
its start; where there is no header the text is that of the whole file, and only `load` refuses files. -/
theorem header_recovered (load : String → Except Failure (Option Value)) :
    (∀ header body fields, (∀ line ∈ lines header, ¬ dashes <+: line) → body.toList.head? ≠ some '\n' →
      load (String.ofList (Text.strip header.toList)) = .ok (some (.map fields)) →
        parseWith load (write header body) = .ok ⟨some fields, body⟩) ∧
    (∀ content fields text, parseWith load content = .ok ⟨some fields, text⟩ ↔
      ∃ before after, Fenced content.toList (dashes ++ before) after ∧
        load (String.ofList (Text.strip before)) = .ok (some (.map fields)) ∧
        String.ofList (after.dropWhile (· == '\n')) = text) ∧
    (∀ content text, parseWith load content = .ok ⟨none, text⟩ → text = content) ∧
    ∀ content e, parseWith load content = .error e → ∃ before after,
      Fenced content.toList (dashes ++ before) after ∧ load (String.ofList (Text.strip before)) = .error e := by
  refine ⟨fun header body fields free begins loaded => ?_, fun content fields text => ?_, fun content text parsed => ?_,
    fun content e refused => ?_⟩
  · exact parseWith_eq_header_iff.mpr ⟨_, _, split_write free begins, loaded, String.ofList_toList⟩
  · rw [parseWith_eq_header_iff]
    constructor
    · rintro ⟨header, body, divided, loaded, same⟩
      obtain ⟨before, after, fenced, rfl, rfl⟩ := split_eq_some_iff.mp divided
      exact ⟨before, after, fenced, loaded, same⟩
    · rintro ⟨before, after, fenced, loaded, same⟩
      exact ⟨_, _, split_eq_some_iff.mpr ⟨before, after, fenced, rfl, rfl⟩, loaded, same⟩
  · exact body_of_parseWith_bare parsed
  · obtain ⟨header, body, divided, failed⟩ := parseWith_eq_error_iff.mp refused
    obtain ⟨before, after, fenced, rfl, _⟩ := split_eq_some_iff.mp divided
    exact ⟨before, after, fenced, failed⟩

/-- Reads a header that has a title and nothing else. -/
def readTitle (header : String) : Except Failure (Option Value) :=
  match header.toList with
  | 't' :: 'i' :: 't' :: 'l' :: 'e' :: ':' :: ' ' :: title => .ok (some (.map [(.str "title", .str (String.ofList title))]))
  | _ => .ok none

/-- A header with dashes in a line, and an empty line around its title on each side. -/
def pamphletHeader : String :=
  "\ntitle: Tea --- at four\n"

def pamphletFields : Fields :=
  [(.str "title", .str "Tea --- at four")]

/-- The text of a pamphlet, which looks like a header itself. -/
def pamphletText : String :=
  "---\n\x7bname\x7d\n---\n\n"

theorem pamphlet_recovered :
    (∀ line ∈ lines pamphletHeader, ¬ dashes <+: line) ∧ pamphletText.toList.head? ≠ some '\n' ∧
      readTitle (String.ofList (Text.strip pamphletHeader.toList)) = .ok (some (.map pamphletFields)) ∧
      parseWith readTitle (write pamphletHeader pamphletText) = .ok ⟨some pamphletFields, pamphletText⟩ := by
  have free : ∀ line ∈ lines pamphletHeader, ¬ dashes <+: line := by decide
  have begins : pamphletText.toList.head? ≠ some '\n' := by decide
  have loaded : readTitle (String.ofList (Text.strip pamphletHeader.toList)) = .ok (some (.map pamphletFields)) := rfl
  exact ⟨free, begins, loaded, (header_recovered readTitle).1 _ _ _ free begins loaded⟩

end Stencil.Header
