import Stencil.Proofs.Template.Layers
import Stencil.Proofs.Template.Mention

/-!
What a rendering comes to.

`Reaches` follows a rendering into branches and iterations. A rendering that fails does so at a node that it
reaches (`nodes_failure`), and so does one that reports on a condition or a call (`nodes_logs`). Whatever a
rendering reaches stands in the tree under loops that bind the local names of the scope at hand
(`Reaches.mentions`).
-/

namespace Stencil.Render

/-- One iteration of a loop: the rendering of the body over the value and position of an item. -/
def turn (setting : Setting) (scope : Scope) (item : String) (body : List Markup.Node) (count : Nat)
    (entry : Value × Nat) : Run String :=
  nodes setting (scope.child (iteration item count entry.2 entry.1)) body

/-- The rendering of nodes in a scope, started from a session, comes to a node in another scope and session:
what stands before the node has been rendered, the conditions around it have been decided in its favour, and
it belongs to an iteration that is carried out. -/
inductive Reaches (setting : Setting) : Scope → Session → List Markup.Node → Scope → Session → Markup.Node → Prop
  | here {scope s n rest} : Reaches setting scope s (n :: rest) scope s n
  | later {scope s first rest text scope' s' n} : result (node setting scope first) s = .ok text →
      Reaches setting scope (after (node setting scope first) s) rest scope' s' n →
      Reaches setting scope s (first :: rest) scope' s' n
  | branch {scope s expression accepted rejected rest taken scope' s' n} :
      result (decide setting scope expression) s = .ok taken →
      Reaches setting scope (after (decide setting scope expression) s) (if taken then accepted else rejected)
        scope' s' n →
      Reaches setting scope s (.conditional expression accepted rejected :: rest) scope' s' n
  | iteration {scope s array item body rest values before v index others done scope' s' n} :
      items scope array = .ok values → values.zipIdx = before ++ (v, index) :: others →
      result (before.mapM (turn setting scope item body values.length)) s = .ok done →
      Reaches setting (scope.child (iteration item values.length index v))
        (after (before.mapM (turn setting scope item body values.length)) s) body scope' s' n →
      Reaches setting scope s (.loop array item body :: rest) scope' s' n
  | region {scope s kind name span body rest scope' s' n} : Reaches setting scope s body scope' s' n →
      Reaches setting scope s (.region kind name span body :: rest) scope' s' n

/-- A node whose own part of the rendering fails: the value of a variable, a call, the decision of a condition,
or the items of a loop. -/
def Fails (setting : Setting) (scope : Scope) (s : Session) (e : Failure) : Markup.Node → Prop
  | .text _ => False
  | .slot path _ => slot setting scope path = .error e
  | .call name texts _ => result (call setting scope name texts) s = .error e
  | .conditional expression _ _ => result (decide setting scope expression) s = .error e
  | .loop array _ _ => items scope array = .error e
  | .region _ _ _ _ => False

mutual

theorem node_failure {setting : Setting} {scope : Scope} {s : Session} {e : Failure} (n : Markup.Node)
    (failed : result (node setting scope n) s = .error e) (rest : List Markup.Node) :
    ∃ scope' s' n', Reaches setting scope s (n :: rest) scope' s' n' ∧ Fails setting scope' s' e n' := by
  cases n with
  | text text =>
    simp only [node] at failed
    cases failed
  | slot path spelling =>
    simp only [node, result_ofExcept] at failed
    exact ⟨_, _, _, .here, failed⟩
  | call name texts spelling =>
    simp only [node] at failed
    exact ⟨_, _, _, .here, failed⟩
  | conditional expression accepted rejected =>
    simp only [node, result_bind_eq_error] at failed
    rcases failed with failed | ⟨taken, decided, failed⟩
    · exact ⟨_, _, _, .here, failed⟩
    · cases taken with
      | true =>
        obtain ⟨scope', s', n', reaches, fails⟩ := nodes_failure accepted failed
        exact ⟨scope', s', n', .branch decided reaches, fails⟩
      | false =>
        obtain ⟨scope', s', n', reaches, fails⟩ := nodes_failure rejected failed
        exact ⟨scope', s', n', .branch decided reaches, fails⟩
  | loop array item body =>
    simp only [node, result_bind_eq_error, result_ofExcept, after_ofExcept] at failed
    rcases failed with failed | ⟨values, found, failed | ⟨_, _, failed⟩⟩
    · exact ⟨_, _, _, .here, failed⟩
    · -- Some iteration fails, and those before it are carried out.
      obtain ⟨before, entry, others, done, split, earlier, failed⟩ := mapM_failure failed
      obtain ⟨scope', s', n', reaches, fails⟩ := nodes_failure body failed
      exact ⟨scope', s', n', .iteration found split earlier reaches, fails⟩
    · cases failed
  | region kind name span body =>
    simp only [node] at failed
    obtain ⟨scope', s', n', reaches, fails⟩ := nodes_failure body failed
    exact ⟨scope', s', n', .region reaches, fails⟩

/-- A rendering that fails does so at a node that it reaches. -/
theorem nodes_failure {setting : Setting} {scope : Scope} {s : Session} {e : Failure} (ns : List Markup.Node)
    (failed : result (nodes setting scope ns) s = .error e) :
    ∃ scope' s' n', Reaches setting scope s ns scope' s' n' ∧ Fails setting scope' s' e n' := by
  cases ns with
  | nil =>
    simp only [nodes] at failed
    cases failed
  | cons n rest =>
    simp only [nodes, result_bind_eq_error] at failed
    rcases failed with failed | ⟨text, first, failed | ⟨_, _, failed⟩⟩
    · exact node_failure n failed rest
    · obtain ⟨scope', s', n', reaches, fails⟩ := nodes_failure rest failed
      exact ⟨scope', s', n', .later first reaches, fails⟩
    · cases failed

end

/-- An event that a node reports by itself: of a call that is made, or of a condition that is decided. -/
def Reports (setting : Setting) (scope : Scope) (s : Session) (e : Event) : Markup.Node → Prop
  | .call name texts _ => ∃ values, arguments scope texts = .ok values ∧
      e = ⟨.debug, "function_called", [("function", .str name), ("argc", .int values.length)]⟩
  | .conditional expression _ _ => ∃ taken, result (decide setting scope expression) s = .ok taken ∧
      e = ⟨.debug, "condition_evaluated", [("condition", .str expression), ("result", .bool taken)]⟩
  | _ => False

/-- Something that is reported at a node that a rendering reaches. -/
def ReportedAt (setting : Setting) (scope : Scope) (s : Session) (ns : List Markup.Node) (e : Event) : Prop :=
  ∃ scope' s' n, Reaches setting scope s ns scope' s' n ∧ Reports setting scope' s' e n

theorem call_logs {setting : Setting} {scope : Scope} {s : Session} (name : String) (texts : List String)
    (spelling : String) (rest : List Markup.Node) :
    Logs (call setting scope name texts) s (ReportedAt setting scope s (.call name texts spelling :: rest)) := by
  unfold call
  split
  · exact logs_of_silent rfl
  · refine Logs.bind .ofExcept fun values found => ?_
    rw [result_ofExcept] at found
    refine (Logs.report ⟨_, _, _, .here, values, found, rfl⟩).bind fun _ _ => ?_
    exact Logs.ofCall.bind fun _ _ => .ofExcept

theorem decide_logs {setting : Setting} {scope : Scope} {s : Session} (expression : String)
    (accepted rejected rest : List Markup.Node) :
    Logs (decide setting scope expression) s
      (ReportedAt setting scope s (.conditional expression accepted rejected :: rest)) := by
  refine Logs.bind .ofExcept fun condition compiled => Logs.bind .ofCall fun taken evaluated => ?_
  have decided : result (decide setting scope expression) s = .ok taken := by
    unfold decide
    rw [result_bind_of_ok compiled, result_bind_of_ok evaluated]
    rfl
  exact (Logs.report ⟨_, _, _, .here, taken, decided, rfl⟩).bind fun _ _ => logs_of_silent rfl

mutual

theorem node_logs (setting : Setting) (scope : Scope) (s : Session) (n : Markup.Node) (rest : List Markup.Node) :
    Logs (node setting scope n) s (ReportedAt setting scope s (n :: rest)) := by
  cases n with
  | text text => exact logs_of_silent rfl
  | slot path spelling => exact .ofExcept
  | call name texts spelling => exact call_logs name texts spelling rest
  | conditional expression accepted rejected =>
    rw [node]
    refine (decide_logs expression accepted rejected rest).bind fun taken decided => ?_
    have inside : ∀ e, ReportedAt setting scope (after (decide setting scope expression) s)
        (if taken then accepted else rejected) e →
          ReportedAt setting scope s (.conditional expression accepted rejected :: rest) e := by
      rintro e ⟨scope', s', n, reaches, reports⟩
      exact ⟨scope', s', n, .branch decided reaches, reports⟩
    cases taken with
    | true => exact (nodes_logs setting scope _ accepted).mono inside
    | false => exact (nodes_logs setting scope _ rejected).mono inside
  | loop array item body =>
    rw [node]
    refine Logs.bind .ofExcept fun values found => Logs.bind (.mapM ?_) fun _ _ => logs_of_silent rfl
    rw [result_ofExcept] at found
    rw [after_ofExcept]
    rintro before ⟨v, index⟩ others done split earlier
    refine (nodes_logs setting _ _ body).mono ?_
    rintro e ⟨scope', s', n, reaches, reports⟩
    exact ⟨scope', s', n, .iteration found split earlier reaches, reports⟩
  | region kind name span body =>
    rw [node]
    refine (nodes_logs setting scope s body).mono ?_
    rintro e ⟨scope', s', n, reaches, reports⟩
    exact ⟨scope', s', n, .region reaches, reports⟩

/-- Whatever a rendering reports, it reports at a node that it reaches. -/
theorem nodes_logs (setting : Setting) (scope : Scope) (s : Session) (ns : List Markup.Node) :
    Logs (nodes setting scope ns) s (ReportedAt setting scope s ns) := by
  cases ns with
  | nil => exact logs_of_silent rfl
  | cons n rest =>
    rw [nodes]
    refine (node_logs setting scope s n rest).bind fun text ok => Logs.bind ?_ fun _ _ => logs_of_silent rfl
    refine (nodes_logs setting scope _ rest).mono ?_
    rintro e ⟨scope', s', n', reaches, reports⟩
    exact ⟨scope', s', n', .later ok reaches, reports⟩

end

open Analysis (Mention)

/-- A node that is reached stands under loops that bind the local names of the scope at hand, over the same
bindings, and what it mentions is mentioned in the tree. -/
theorem Reaches.mentions {setting : Setting} {scope scope' : Scope} {s s' : Session} {ns : List Markup.Node}
    {n : Markup.Node} (reaches : Reaches setting scope s ns scope' s' n) {layers : List Bindings} {base : Bindings}
    {locals : List String} (binds : Binds layers locals) (layered : scope = ⟨layers ++ [base]⟩) :
    ∃ layers' locals', Binds layers' locals' ∧ scope' = ⟨layers' ++ [base]⟩ ∧
      ∀ m ∈ Mention.ofNode locals' n, m ∈ Mention.ofNodes locals ns := by
  -- Only an iteration changes the scope: it adds the layer that binds the names of its loop.
  induction reaches generalizing layers locals with
  | here => exact ⟨layers, locals, binds, layered, fun m member => Mention.mem_ofNodes_cons.mpr (.inl member)⟩
  | later _ _ ih =>
    obtain ⟨layers', locals', binds', layered', inside⟩ := ih binds layered
    exact ⟨layers', locals', binds', layered', fun m member => Mention.mem_ofNodes_cons.mpr (.inr (inside m member))⟩
  | @branch _ _ _ _ _ _ taken _ _ _ _ _ ih =>
    obtain ⟨layers', locals', binds', layered', inside⟩ := ih binds layered
    exact ⟨layers', locals', binds', layered', fun m member =>
      Mention.mem_ofNodes_cons.mpr (.inl (Mention.mem_branch taken (inside m member)))⟩
  | iteration _ _ _ _ ih =>
    subst layered
    obtain ⟨layers', locals', binds', layered', inside⟩ := ih (binds.child _ _ _ _) rfl
    exact ⟨layers', locals', binds', layered', fun m member =>
      Mention.mem_ofNodes_cons.mpr (.inl (Mention.mem_body (inside m member)))⟩
  | region _ ih =>
    obtain ⟨layers', locals', binds', layered', inside⟩ := ih binds layered
    exact ⟨layers', locals', binds', layered', fun m member =>
      Mention.mem_ofNodes_cons.mpr (.inl (Mention.mem_region (inside m member)))⟩

end Stencil.Render
