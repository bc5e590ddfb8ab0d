import Stencil.Proofs.Template.Effect
import Stencil.Template.Analysis
import Stencil.Template.Literal

/-!
The paths that a rendering may look up, and what static analysis notes of them.

`Mention.ofNodes` reads them off the tree, each with the names that the loops around it bind. Analysis
notes all of them (`Analysis.nodes_notes`): a mention is local, or the first segment of its path is listed,
or it is an argument that leads nowhere in the bindings at hand.
-/

namespace Stencil

namespace Analysis

/-- What a path is looked up for: to be written or looped over, to decide a condition, or as an argument. -/
inductive Use where
  | required
  | tested
  | passed
  deriving DecidableEq, Repr

/-- A path that a rendering may look up, and the names that the loops around it bind. -/
structure Mention where
  use : Use
  locals : List String
  path : String
  deriving DecidableEq, Repr

/-- Whether an argument of a call can name a binding. Text that opens with a quote cannot. -/
def canName (text : String) : Bool :=
  match text.toList with
  | [] => false
  | c :: _ => !isQuote c

/-- The paths that a condition refers to, of which there are none if it cannot be compiled. -/
def conditionPaths (expression : String) : List String :=
  match Condition.compile expression with
  | .ok condition => condition.references
  | .error _ => []

namespace Mention

mutual

/-- The paths that the rendering of a node may look up. -/
def ofNode (locals : List String) : Markup.Node → List Mention
  | .text _ => []
  | .slot path _ => [⟨.required, locals, path⟩]
  | .call _ texts _ => (texts.filter canName).map fun text => ⟨.passed, locals, text⟩
  | .conditional expression accepted rejected =>
    ((conditionPaths expression).map fun path => ⟨.tested, locals, path⟩) ++
      (ofNodes locals accepted ++ ofNodes locals rejected)
  | .loop array item body => ⟨.required, locals, array⟩ :: ofNodes (locals ++ loopNames item) body
  | .region _ _ _ body => ofNodes locals body

/-- The paths that the rendering of nodes may look up. -/
def ofNodes (locals : List String) : List Markup.Node → List Mention
  | [] => []
  | first :: rest => ofNode locals first ++ ofNodes locals rest

end

/-- The paths in nodes that are looked up for a use, at any depth. -/
def paths (use : Use) (ns : List Markup.Node) : List String :=
  ((ofNodes [] ns).filter fun m => m.use == use).map Mention.path

section

variable {locals texts : List String} {name text path spelling expression array item : String} {m : Mention}
  {accepted rejected body : List Markup.Node}

theorem mem_slot : ⟨.required, locals, path⟩ ∈ ofNode locals (.slot path spelling) := by
  simp only [ofNode, List.mem_singleton]

theorem mem_call (member : text ∈ texts) (named : canName text = true) :
    ⟨.passed, locals, text⟩ ∈ ofNode locals (.call name texts spelling) := by
  simp only [ofNode, List.mem_map]
  exact ⟨text, List.mem_filter.mpr ⟨member, named⟩, rfl⟩

theorem mem_condition (member : path ∈ conditionPaths expression) :
    ⟨.tested, locals, path⟩ ∈ ofNode locals (.conditional expression accepted rejected) := by
  simp only [ofNode, List.mem_append, List.mem_map]
  exact .inl ⟨path, member, rfl⟩

theorem mem_branch (taken : Bool) (member : m ∈ ofNodes locals (if taken then accepted else rejected)) :
    m ∈ ofNode locals (.conditional expression accepted rejected) := by
  simp only [ofNode, List.mem_append]
  cases taken with
  | true => exact .inr (.inl member)
  | false => exact .inr (.inr member)

theorem mem_array : ⟨.required, locals, array⟩ ∈ ofNode locals (.loop array item body) := by
  simp only [ofNode, List.mem_cons, true_or]

theorem mem_body (member : m ∈ ofNodes (locals ++ loopNames item) body) :
    m ∈ ofNode locals (.loop array item body) := by
  simp only [ofNode, List.mem_cons]
  exact .inr member

theorem mem_region {kind : Markup.RegionKind} {span : Markup.Span} (member : m ∈ ofNodes locals body) :
    m ∈ ofNode locals (.region kind name span body) := by
  simpa only [ofNode] using member

theorem mem_ofNodes_cons {n : Markup.Node} {rest : List Markup.Node} :
    m ∈ ofNodes locals (n :: rest) ↔ m ∈ ofNode locals n ∨ m ∈ ofNodes locals rest := by
  simp only [ofNodes, List.mem_append]

theorem mem_paths {ns : List Markup.Node} (member : m ∈ ofNodes [] ns) : m.path ∈ paths m.use ns :=
  List.mem_map.mpr ⟨m, List.mem_filter.mpr ⟨member, by simp⟩, rfl⟩

end

/-- Whether an analysis against a scope accounts for a mention. -/
def Noted (scope : Scope) (a : Analysis) (m : Mention) : Prop :=
  isLocal m.locals m.path = true ∨
    match m.use with
    | .required => Value.pathRoot m.path ∈ a.references ∧ Value.pathRoot m.path ∈ a.required
    | .tested => Value.pathRoot m.path ∈ a.references
    | .passed => Markup.isPath m.path.toList = true →
        Value.pathRoot m.path ∈ a.references ∨ scope.lookup m.path = .ok none

end Mention

/-- One analysis lists whatever another does. -/
structure Grows (a b : Analysis) : Prop where
  references : ∀ name ∈ a.references, name ∈ b.references
  required : ∀ name ∈ a.required, name ∈ b.required

theorem Grows.refl (a : Analysis) : Grows a a :=
  ⟨fun _ => id, fun _ => id⟩

theorem Grows.trans {a b c : Analysis} (first : Grows a b) (second : Grows b c) : Grows a c :=
  ⟨fun name member => second.references name (first.references name member),
    fun name member => second.required name (first.required name member)⟩

theorem Mention.Noted.mono {scope : Scope} {a b : Analysis} {m : Mention} (noted : m.Noted scope a)
    (grows : Grows a b) : m.Noted scope b := by
  refine noted.imp_right fun noted => ?_
  obtain ⟨use, locals, path⟩ := m
  cases use with
  | required => exact ⟨grows.references _ noted.1, grows.required _ noted.2⟩
  | tested => exact grows.references _ noted
  | passed => exact fun named => (noted named).imp_left (grows.references _)

/-- An analysis has grown by accounting for mentions. -/
structure Notes (scope : Scope) (a : Analysis) (ms : List Mention) (b : Analysis) : Prop where
  grows : Grows a b
  noted : ∀ m ∈ ms, m.Noted scope b

theorem Grows.notes {a b : Analysis} (grows : Grows a b) (scope : Scope) : Notes scope a [] b :=
  ⟨grows, fun _ member => absurd member List.not_mem_nil⟩

theorem Notes.append {scope : Scope} {a b c : Analysis} {ms ns : List Mention} (first : Notes scope a ms b)
    (second : Notes scope b ns c) : Notes scope a (ms ++ ns) c := by
  refine ⟨first.grows.trans second.grows, fun m member => ?_⟩
  rcases List.mem_append.mp member with member | member
  · exact (first.noted m member).mono second.grows
  · exact second.noted m member

theorem Notes.grow {scope : Scope} {a b c : Analysis} {ms : List Mention} (notes : Notes scope a ms b)
    (grows : Grows b c) : Notes scope a ms c :=
  ⟨notes.grows.trans grows, fun m member => (notes.noted m member).mono grows⟩

theorem mem_insert {names : List String} {name other : String} :
    other ∈ insert names name ↔ other ∈ names ∨ other = name := by
  unfold insert
  split
  · rename_i there
    have there : name ∈ names := by simpa using there
    constructor
    · exact Or.inl
    · rintro (member | rfl)
      · exact member
      · exact there
  · simp

theorem addVariable_grows (a : Analysis) (locals : List String) (required : Bool) (path : String) :
    Grows a (a.addVariable locals required path) := by
  unfold addVariable
  split
  · exact .refl a
  · refine ⟨fun name member => mem_insert.mpr (.inl member), fun name member => ?_⟩
    cases required with
    | true => exact mem_insert.mpr (.inl member)
    | false => exact member

theorem addVariable_references {a : Analysis} {locals : List String} {path : String}
    (free : isLocal locals path = false) (required : Bool) :
    Value.pathRoot path ∈ (a.addVariable locals required path).references := by
  rw [addVariable, free]
  exact mem_insert.mpr (.inr rfl)

theorem addVariable_required {a : Analysis} {locals : List String} {path : String}
    (free : isLocal locals path = false) : Value.pathRoot path ∈ (a.addVariable locals true path).required := by
  rw [addVariable, free]
  exact mem_insert.mpr (.inr rfl)

theorem notes_required (scope : Scope) (a : Analysis) (locals : List String) (path : String) :
    Notes scope a [⟨.required, locals, path⟩] (a.addVariable locals true path) := by
  refine ⟨addVariable_grows .., List.forall_mem_singleton.mpr ?_⟩
  cases free : isLocal locals path with
  | true => exact .inl free
  | false => exact .inr ⟨addVariable_references free true, addVariable_required free⟩

theorem notes_tested (scope : Scope) (a : Analysis) (locals : List String) (path : String) :
    Notes scope a [⟨.tested, locals, path⟩] (a.addVariable locals false path) := by
  refine ⟨addVariable_grows .., List.forall_mem_singleton.mpr ?_⟩
  cases free : isLocal locals path with
  | true => exact .inl free
  | false => exact .inr (addVariable_references free false)

theorem notes_paths (scope : Scope) (a : Analysis) (locals paths : List String) :
    Notes scope a (paths.map fun path => ⟨.tested, locals, path⟩)
      (paths.foldl (fun a path => a.addVariable locals false path) a) := by
  induction paths generalizing a with
  | nil => exact (Grows.refl a).notes scope
  | cons path paths ih => exact (notes_tested scope a locals path).append (ih _)

theorem addFunction_grows (a : Analysis) (name : String) : Grows a (a.addFunction name) :=
  ⟨fun _ => id, fun _ => id⟩

theorem addFunctions_grow (a : Analysis) (names : List String) : Grows a (names.foldl addFunction a) := by
  induction names generalizing a with
  | nil => exact .refl a
  | cons name names ih => exact (addFunction_grows a name).trans (ih _)

theorem addConditional_grows (a : Analysis) (condition : String) (taken : Option Bool) :
    Grows a (a.addConditional condition taken) :=
  ⟨fun _ => id, fun _ => id⟩

theorem addLoops_grow (a : Analysis) (loops : List LoopReport) : Grows a { a with loops } :=
  ⟨fun _ => id, fun _ => id⟩

/-- An argument of a call is noted if it can be looked up at all. -/
theorem notes_passed {scope : Scope} {locals : List String} {text : String} {a : Analysis}
    (noted : Mention.Noted scope a ⟨.passed, locals, text⟩) :
    Notes scope a (([text].filter canName).map fun text => ⟨.passed, locals, text⟩) a := by
  refine ⟨.refl a, fun m member => ?_⟩
  obtain ⟨text', found, rfl⟩ := List.mem_map.mp member
  have same : text' = text := List.mem_singleton.mp (List.mem_filter.mp found).1
  rwa [same]

theorem addArguments_notes {scope : Scope} {locals texts : List String} {a b : Analysis}
    (ok : addArguments scope locals a texts = .ok b) :
    Notes scope a ((texts.filter canName).map fun text => ⟨.passed, locals, text⟩) b := by
  induction texts generalizing a with
  | nil =>
    cases ok
    exact (Grows.refl _).notes scope
  | cons text texts ih =>
    rw [← List.singleton_append, List.filter_append, List.map_append]
    simp only [addArguments] at ok
    split at ok
    · rename_i named
      have free : isLocal locals text = false := by simpa using (Bool.and_eq_true_iff.mp named).2
      cases found : scope.lookup text with
      | error e => simp [Scope.contains, found, bind, Except.bind] at ok
      | ok value =>
        simp only [Scope.contains, found, bind, Except.bind, pure, Except.pure] at ok
        cases value with
        | none => exact (notes_passed (.inr fun _ => .inr found)).append (ih ok)
        | some v =>
          have noted : Mention.Noted scope (a.addVariable locals false text) ⟨.passed, locals, text⟩ :=
            .inr fun _ => .inl (addVariable_references free false)
          have grows := (addVariable_grows a locals false text).notes scope
          exact (grows.append (notes_passed noted)).append (ih ok)
    · rename_i skipped
      refine (notes_passed ?_).append (ih ok)
      cases here : isLocal locals text with
      | true => exact .inl here
      | false => exact .inr fun named => absurd (by simp [named, here]) skipped

theorem result_attempt {α : Type} (r : Run α) (s : Session) : result (Run.attempt r) s = .ok (result r s) :=
  rfl

/-- What analysis makes of a condition: it is undecided if it cannot be compiled, if a local name takes part,
or if it has no value. -/
def outcome (scope : Scope) (functions : Functions) (locals : List String) (calls : Nat) (expression : String) :
    Option Bool :=
  match Condition.compile expression with
  | .error _ => none
  | .ok condition =>
    if condition.references.any (isLocal locals) then none
    else (result (condition.evaluate scope functions) calls).toOption

/-- An analysis in which the names of a condition are noted, if it can be compiled. -/
def withNames (a : Analysis) (locals : List String) (expression : String) : Analysis :=
  match Condition.compile expression with
  | .error _ => a
  | .ok condition =>
    condition.functionNames.foldl addFunction
      (condition.references.foldl (fun a path => a.addVariable locals false path) a)

/-- An analysis that gets past a condition has noted its names and what becomes of it. -/
theorem eq_of_addCondition {scope : Scope} {functions : Functions} {locals : List String} {a b : Analysis}
    {expression : String} {s : Session} (ok : result (addCondition scope functions locals a expression) s = .ok b) :
    b = (a.withNames locals expression).addConditional expression
      (outcome scope functions locals s.calls expression) := by
  unfold addCondition at ok
  unfold withNames outcome
  cases compiled : Condition.compile expression with
  | error e =>
    simp only [compiled, result_bind_eq_ok] at ok
    obtain ⟨_, _, ok⟩ := ok
    cases ok
    rfl
  | ok condition =>
    simp only [compiled] at ok ⊢
    split at ok
    next touched =>
      cases ok
      rw [if_pos touched]
    next free =>
      rw [if_neg free]
      obtain ⟨value, evaluated, ok⟩ := result_bind_eq_ok.mp ok
      rw [result_attempt, result_ofCall] at evaluated
      cases evaluated
      cases value : result (condition.evaluate scope functions) s.calls with
      | ok taken =>
        rw [value] at ok
        cases ok
        rfl
      | error e =>
        -- Other failures than those that leave the condition undecided are those of the analysis.
        simp only [value] at ok
        split at ok
        · obtain ⟨_, _, ok⟩ := result_bind_eq_ok.mp ok
          cases ok
          rfl
        · cases ok

theorem addCondition_notes {scope : Scope} {functions : Functions} {locals : List String} {a b : Analysis}
    {expression : String} {s : Session} (ok : result (addCondition scope functions locals a expression) s = .ok b) :
    Notes scope a ((conditionPaths expression).map fun path => ⟨.tested, locals, path⟩) b := by
  rw [eq_of_addCondition ok]
  refine Notes.grow ?_ (addConditional_grows ..)
  unfold withNames conditionPaths
  cases Condition.compile expression with
  | error e => exact (Grows.refl a).notes scope
  | ok condition => exact (notes_paths scope a locals condition.references).grow (addFunctions_grow _ _)

mutual

theorem node_notes {scope : Scope} {functions : Functions} {locals : List String} {a b : Analysis}
    (n : Markup.Node) {s : Session} (ok : result (node scope functions locals a n) s = .ok b) :
    Notes scope a (Mention.ofNode locals n) b := by
  cases n with
  | text s =>
    cases ok
    exact (Grows.refl _).notes scope
  | slot path spelling =>
    cases ok
    exact notes_required scope a locals path
  | call name texts spelling =>
    simp only [node, result_ofExcept] at ok
    exact ((addFunction_grows a name).notes scope).append (addArguments_notes ok)
  | conditional expression accepted rejected =>
    simp only [node, result_bind_eq_ok] at ok
    obtain ⟨a₁, first, a₂, second, third⟩ := ok
    exact (addCondition_notes first).append ((nodes_notes accepted second).append (nodes_notes rejected third))
  | loop array item body =>
    simp only [node, result_bind_eq_ok] at ok
    obtain ⟨count, _, ok⟩ := ok
    exact (notes_required scope a locals array).append
      (((addLoops_grow _ _).notes scope).append (nodes_notes body ok))
  | region kind name span body => exact nodes_notes body ok

/-- Analysis notes everything that a rendering may look up. -/
theorem nodes_notes {scope : Scope} {functions : Functions} {locals : List String} {a b : Analysis}
    (ns : List Markup.Node) {s : Session} (ok : result (nodes scope functions locals a ns) s = .ok b) :
    Notes scope a (Mention.ofNodes locals ns) b := by
  cases ns with
  | nil =>
    cases ok
    exact (Grows.refl _).notes scope
  | cons first rest =>
    simp only [nodes, result_bind_eq_ok] at ok
    obtain ⟨next, first', rest'⟩ := ok
    exact (node_notes first first').append (nodes_notes rest rest')

end

end Analysis

theorem Template.notes_of_analyze {t : Template} {overrides : Bindings} {s : Session} {a : Analysis}
    (run : result (t.analyze overrides) s = .ok a) :
    ∃ ns, t.tree = .ok ns ∧
      Analysis.Notes (Scope.ofBindings (t.bindingsWith overrides)) {} (Analysis.Mention.ofNodes [] ns) a := by
  rw [Template.analyze, result_reporting, result_bind_eq_ok] at run
  obtain ⟨ns, tree, run⟩ := run
  exact ⟨ns, (t.result_nodes s).symm.trans tree, Analysis.nodes_notes ns run⟩

end Stencil
