import Stencil.Proofs.Assoc
import Stencil.Template.Basic

/-!
Results of computations that count calls and report events.

What a computation leaves behind besides its result has no influence on the rest of a rendering, provided
functions do not look at it. `SameResult` says that of two computations, `Avoids` that a computation never
fails in a given way. Both carry over from the parts of a computation to the whole.
-/

namespace Stencil

/-- A computation that may fail and keeps a state of some kind, like `Call` and `Run`. -/
abbrev Effect (σ α : Type) := ExceptT Failure (StateM σ) α

/-- The result of a computation that starts from a state. -/
def result {σ α : Type} (c : Effect σ α) (s : σ) : Except Failure α :=
  (c s).1

/-- The state that a computation leaves behind. -/
def after {σ α : Type} (c : Effect σ α) (s : σ) : σ :=
  (c s).2

section

variable {σ τ α β : Type}

theorem bind_run (c : Effect σ α) (f : α → Effect σ β) (s : σ) :
    (c >>= f) s = match result c s with
      | .ok a => f a (after c s)
      | .error e => (.error e, after c s) := by
  simp only [result, after, bind, ExceptT.bind, ExceptT.mk, StateT.bind]
  generalize c s = out
  obtain ⟨r, next⟩ := out
  cases r <;> rfl

theorem result_bind_of_ok {c : Effect σ α} {s : σ} {a : α} (ok : result c s = .ok a) (f : α → Effect σ β) :
    result (c >>= f) s = result (f a) (after c s) := by
  rw [result, bind_run, ok]
  rfl

theorem result_bind_of_error {c : Effect σ α} {s : σ} {e : Failure} (failed : result c s = .error e)
    (f : α → Effect σ β) : result (c >>= f) s = .error e := by
  rw [result, bind_run, failed]

theorem after_bind_of_ok {c : Effect σ α} {s : σ} {a : α} (ok : result c s = .ok a) (f : α → Effect σ β) :
    after (c >>= f) s = after (f a) (after c s) := by
  rw [after, bind_run, ok]
  rfl

theorem after_bind_of_error {c : Effect σ α} {s : σ} {e : Failure} (failed : result c s = .error e)
    (f : α → Effect σ β) : after (c >>= f) s = after c s := by
  rw [after, bind_run, failed]

theorem result_bind_eq_ok {c : Effect σ α} {f : α → Effect σ β} {s : σ} {b : β} :
    result (c >>= f) s = .ok b ↔ ∃ a, result c s = .ok a ∧ result (f a) (after c s) = .ok b := by
  cases run : result c s with
  | error e => simp [result_bind_of_error run]
  | ok a => simp [result_bind_of_ok run]

theorem result_bind_eq_error {c : Effect σ α} {f : α → Effect σ β} {s : σ} {e : Failure} :
    result (c >>= f) s = .error e ↔
      result c s = .error e ∨ ∃ a, result c s = .ok a ∧ result (f a) (after c s) = .error e := by
  cases run : result c s with
  | error e => simp [result_bind_of_error run]
  | ok a => simp [result_bind_of_ok run]

/-- A computation that goes on without failing makes something of its result. -/
theorem result_bind_of_returns {f : α → Effect σ β} {g : α → β}
    (returns : ∀ a s, result (f a) s = .ok (g a)) (c : Effect σ α) (s : σ) :
    result (c >>= f) s = (result c s).map g := by
  cases run : result c s with
  | error e => rw [result_bind_of_error run, Except.map]
  | ok a => rw [result_bind_of_ok run, returns, Except.map]

/-- Two computations with the same result, whatever states they start from. -/
def SameResult (c : Effect σ α) (d : Effect τ α) : Prop :=
  ∀ s t, result c s = result d t

theorem SameResult.pure (a : α) : SameResult (pure a : Effect σ α) (pure a : Effect τ α) :=
  fun _ _ => rfl

theorem SameResult.throw (e : Failure) : SameResult (throw e : Effect σ α) (throw e : Effect τ α) :=
  fun _ _ => rfl

theorem SameResult.bind_of_ok {c : Effect σ α} {d : Effect τ α} {f : α → Effect σ β} {g : α → Effect τ β}
    (same : SameResult c d) (next : ∀ s a, result c s = .ok a → SameResult (f a) (g a)) :
    SameResult (c >>= f) (d >>= g) := by
  intro s t
  cases run : result c s with
  | error e => rw [result_bind_of_error run, result_bind_of_error ((same s t).symm.trans run)]
  | ok a =>
    rw [result_bind_of_ok run, result_bind_of_ok ((same s t).symm.trans run)]
    exact next s a run _ _

theorem SameResult.bind {c : Effect σ α} {d : Effect τ α} {f : α → Effect σ β} {g : α → Effect τ β}
    (same : SameResult c d) (next : ∀ a, SameResult (f a) (g a)) : SameResult (c >>= f) (d >>= g) :=
  same.bind_of_ok fun _ a _ => next a

theorem SameResult.mapM {ι : Type} {f : ι → Effect σ β} {g : ι → Effect τ β} (items : List ι)
    (same : ∀ item ∈ items, SameResult (f item) (g item)) : SameResult (items.mapM f) (items.mapM g) := by
  induction items with
  | nil =>
    rw [List.mapM_nil, List.mapM_nil]
    exact .pure []
  | cons item items ih =>
    rw [List.mapM_cons, List.mapM_cons]
    refine (same item (List.mem_cons_self ..)).bind fun b => ?_
    exact (ih fun other member => same other (List.mem_cons_of_mem _ member)).bind fun _ => .pure _

/-- If computations in a row fail, then at some item, after those before it have succeeded. -/
theorem mapM_failure {ι : Type} {f : ι → Effect σ β} {items : List ι} {s : σ} {e : Failure}
    (failed : result (items.mapM f) s = .error e) :
    ∃ before item rest done, items = before ++ item :: rest ∧ result (before.mapM f) s = .ok done ∧
      result (f item) (after (before.mapM f) s) = .error e := by
  induction items generalizing s with
  | nil => cases failed
  | cons item items ih =>
    rw [List.mapM_cons] at failed
    rcases result_bind_eq_error.mp failed with failed | ⟨first, ok, failed⟩
    · exact ⟨[], item, items, [], rfl, rfl, failed⟩
    rcases result_bind_eq_error.mp failed with failed | ⟨_, _, failed⟩
    · obtain ⟨before, last, rest, done, rfl, run, stop⟩ := ih failed
      have whole : result ((item :: before).mapM f) s = .ok (first :: done) := by
        rw [List.mapM_cons, result_bind_of_ok ok, result_bind_of_ok run]
        rfl
      have same : after ((item :: before).mapM f) s = after (before.mapM f) (after (f item) s) := by
        rw [List.mapM_cons, after_bind_of_ok ok, after_bind_of_ok run]
        rfl
      exact ⟨item :: before, last, rest, first :: done, rfl, whole, by rw [same]; exact stop⟩
    · cases failed

/-- A failure to read template text. -/
inductive Failure.IsMarkup : Failure → Prop
  | intro (error : Markup.MarkupError) : IsMarkup (.markup error)

/-- A result that is no failure of a kind. -/
def Avoids (kind : Failure → Prop) (r : Except Failure α) : Prop :=
  ∀ e, r = .error e → ¬ kind e

theorem Avoids.ok {kind : Failure → Prop} (a : α) : Avoids kind (.ok a : Except Failure α) :=
  fun _ failed => nomatch failed

theorem Avoids.error {kind : Failure → Prop} {e : Failure} (other : ¬ kind e) :
    Avoids kind (.error e : Except Failure α) := by
  intro e' failed
  cases failed
  exact other

theorem Avoids.mono {kind kind' : Failure → Prop} {r : Except Failure α} (avoids : Avoids kind' r)
    (weaker : ∀ {e}, kind e → kind' e) : Avoids kind r :=
  fun e failed bad => avoids e failed (weaker bad)

theorem Avoids.bind {kind : Failure → Prop} {r : Except Failure α} {f : α → Except Failure β} (avoids : Avoids kind r)
    (next : ∀ a, Avoids kind (f a)) : Avoids kind (r >>= f) := by
  cases r with
  | error e => exact .error (avoids e rfl)
  | ok a => exact next a

/-- A computation that never fails in a way of a kind. -/
def AlwaysAvoids (kind : Failure → Prop) (c : Effect σ α) : Prop :=
  ∀ s, Avoids kind (result c s)

theorem AlwaysAvoids.pure {kind : Failure → Prop} (a : α) : AlwaysAvoids kind (pure a : Effect σ α) :=
  fun _ => .ok a

theorem AlwaysAvoids.bind {kind : Failure → Prop} {c : Effect σ α} {f : α → Effect σ β} (avoids : AlwaysAvoids kind c)
    (next : ∀ a, AlwaysAvoids kind (f a)) : AlwaysAvoids kind (c >>= f) := by
  intro s e failed
  rcases result_bind_eq_error.mp failed with failed | ⟨a, _, failed⟩
  · exact avoids s e failed
  · exact next a _ e failed

/-- A step that may be left out, before the rest of a computation. -/
theorem AlwaysAvoids.unless {kind : Failure → Prop} {c : Effect σ PUnit} {f : PUnit → Effect σ β} (skip : Bool)
    (avoids : AlwaysAvoids kind c) (next : AlwaysAvoids kind (f ())) :
    AlwaysAvoids kind (if skip = true then f () else c >>= f) := by
  cases skip with
  | true => exact next
  | false => exact avoids.bind fun _ => next

/-- A computation that never fails, with results of a kind. -/
def Returns (c : Effect σ α) (post : α → Prop) : Prop :=
  ∀ s, ∃ a, result c s = .ok a ∧ post a

theorem Returns.pure {post : α → Prop} {a : α} (holds : post a) : Returns (pure a : Effect σ α) post :=
  fun _ => ⟨a, rfl, holds⟩

theorem Returns.bind {c : Effect σ α} {f : α → Effect σ β} {post : α → Prop} {post' : β → Prop}
    (returns : Returns c post) (next : ∀ a, post a → Returns (f a) post') : Returns (c >>= f) post' := by
  intro s
  obtain ⟨a, run, holds⟩ := returns s
  obtain ⟨b, run', holds'⟩ := next a holds (after c s)
  exact ⟨b, (result_bind_of_ok run f).trans run', holds'⟩

theorem Returns.avoids {c : Effect σ α} {post : α → Prop} (returns : Returns c post) {kind : Failure → Prop} :
    AlwaysAvoids kind c := by
  intro s e failed
  obtain ⟨a, run, _⟩ := returns s
  cases failed.symm.trans run

theorem Returns.unless {c : Effect σ PUnit} {f : PUnit → Effect σ β} {post : β → Prop} (skip : Bool)
    (returns : Returns c fun _ => True) (next : Returns (f ()) post) :
    Returns (if skip = true then f () else c >>= f) post := by
  cases skip with
  | true => exact next
  | false => exact returns.bind fun _ _ => next

theorem Returns.forM {ι : Type} {f : ι → Effect σ PUnit} (items : List ι)
    (returns : ∀ item, Returns (f item) fun _ => True) : Returns (items.forM f) fun _ => True := by
  induction items with
  | nil => exact .pure trivial
  | cons item items ih => exact (returns item).bind fun _ _ => ih

end

section

variable {α : Type}

theorem Returns.report {severity : Severity} {name : String} {details : Bindings} :
    Returns (Run.report severity name details) fun _ => True :=
  fun _ => ⟨(), rfl, trivial⟩

theorem Returns.notify {notice : String} : Returns (Run.notify notice) fun _ => True :=
  fun _ => ⟨(), rfl, trivial⟩

@[simp] theorem result_ofExcept (r : Except Failure α) (s : Session) : result (Run.ofExcept r) s = r := by
  cases r <;> rfl

@[simp] theorem after_ofExcept (r : Except Failure α) (s : Session) : after (Run.ofExcept r) s = s := by
  cases r <;> rfl

@[simp] theorem result_ofCall (c : Call α) (s : Session) : result (Run.ofCall c) s = result c s.calls := by
  have whole : result (Run.ofCall c) s = result (Run.ofExcept (c s.calls).1) { s with calls := (c s.calls).2 } := rfl
  rw [whole, result_ofExcept]
  rfl

@[simp] theorem result_reporting (t : Template) (r : Run α) (s : Session) :
    result (t.reporting r) s = result r s := by
  unfold Template.reporting
  split <;> rfl

theorem AlwaysAvoids.ofExcept {kind : Failure → Prop} {r : Except Failure α} (avoids : Avoids kind r) :
    AlwaysAvoids kind (Run.ofExcept r) := by
  intro s
  rwa [result_ofExcept]

theorem liftMarkup_failure (r : Except Markup.MarkupError α) :
    AlwaysAvoids (fun e => ¬ e.IsMarkup) (Run.ofExcept (liftMarkup r)) := by
  refine .ofExcept ?_
  cases r with
  | ok a => exact .ok a
  | error error => exact .error (not_not_intro (.intro error))

theorem Returns.ofExcept {r : Except Failure α} {post : α → Prop} {a : α} (ok : r = .ok a) (holds : post a) :
    Returns (Run.ofExcept r) post :=
  fun s => ⟨a, (result_ofExcept r s).trans ok, holds⟩

theorem Returns.ofMarkup {r : Except Markup.MarkupError α} {post : α → Prop} {a : α} (ok : r = .ok a) (holds : post a) :
    Returns (Run.ofExcept (liftMarkup r)) post :=
  .ofExcept (by rw [ok]; rfl) holds

theorem Returns.reporting {t : Template} {r : Run α} {post : α → Prop} (returns : Returns r post) :
    Returns (t.reporting r) post := by
  intro s
  rw [result_reporting]
  exact returns s

theorem SameResult.report {severity severity' : Severity} {name name' : String} {details details' : Bindings} :
    SameResult (Run.report severity name details) (Run.report severity' name' details') :=
  fun _ _ => rfl

theorem SameResult.ofExcept {r r' : Except Failure α} (same : r = r') :
    SameResult (Run.ofExcept r) (Run.ofExcept r') := by
  intro s t
  rw [result_ofExcept, result_ofExcept, same]

theorem SameResult.ofCall {c d : Call α} (same : SameResult c d) : SameResult (Run.ofCall c) (Run.ofCall d) := by
  intro s t
  rw [result_ofCall, result_ofCall]
  exact same _ _

theorem SameResult.reporting {t : Template} {r r' : Run α} (same : SameResult r r') :
    SameResult (t.reporting r) (t.reporting r') := by
  intro s s'
  rw [result_reporting, result_reporting]
  exact same s s'

/-- The events that a run reports are all of a kind. -/
def Logs (r : Run α) (s : Session) (kind : Event → Prop) : Prop :=
  ∃ reported, (after r s).events = s.events ++ reported ∧ ∀ e ∈ reported, kind e

theorem logs_of_silent {r : Run α} {s : Session} {kind : Event → Prop} (silent : (after r s).events = s.events) :
    Logs r s kind :=
  ⟨[], by rw [silent, List.append_nil], fun _ member => absurd member List.not_mem_nil⟩

theorem Logs.mono {r : Run α} {s : Session} {kind kind' : Event → Prop} (logs : Logs r s kind)
    (more : ∀ e, kind e → kind' e) : Logs r s kind' := by
  obtain ⟨reported, split, all⟩ := logs
  exact ⟨reported, split, fun e member => more e (all e member)⟩

theorem Logs.report {severity : Severity} {name : String} {details : Bindings} {s : Session} {kind : Event → Prop}
    (holds : kind ⟨severity, name, details⟩) : Logs (Run.report severity name details) s kind :=
  ⟨[⟨severity, name, details⟩], rfl, List.forall_mem_singleton.mpr holds⟩

theorem Logs.ofExcept {r : Except Failure α} {s : Session} {kind : Event → Prop} : Logs (Run.ofExcept r) s kind :=
  logs_of_silent (by rw [after_ofExcept])

theorem Logs.ofCall {c : Call α} {s : Session} {kind : Event → Prop} : Logs (Run.ofCall c) s kind := by
  have whole : after (Run.ofCall c) s = after (Run.ofExcept (c s.calls).1) { s with calls := (c s.calls).2 } := rfl
  exact logs_of_silent (by rw [whole, after_ofExcept])

theorem Logs.bind {β : Type} {r : Run α} {f : α → Run β} {s : Session} {kind : Event → Prop} (logs : Logs r s kind)
    (next : ∀ a, result r s = .ok a → Logs (f a) (after r s) kind) : Logs (r >>= f) s kind := by
  obtain ⟨first, split, all⟩ := logs
  cases run : result r s with
  | error e => exact ⟨first, by rw [after_bind_of_error run, split], all⟩
  | ok a =>
    obtain ⟨second, split', all'⟩ := next a run
    exact ⟨first ++ second, by rw [after_bind_of_ok run, split', split, List.append_assoc],
      List.forall_mem_append.mpr ⟨all, all'⟩⟩

/-- Runs in a row report what each of them reports after those before it have succeeded. -/
theorem Logs.mapM {ι : Type} {f : ι → Run α} {items : List ι} {s : Session} {kind : Event → Prop}
    (each : ∀ before item rest done, items = before ++ item :: rest → result (before.mapM f) s = .ok done →
      Logs (f item) (after (before.mapM f) s) kind) : Logs (items.mapM f) s kind := by
  induction items generalizing s with
  | nil => exact logs_of_silent rfl
  | cons item items ih =>
    rw [List.mapM_cons]
    refine Logs.bind (each [] item items [] rfl rfl) fun first ok => Logs.bind (ih ?_) fun _ _ => logs_of_silent rfl
    intro before other rest done split run
    have whole : result ((item :: before).mapM f) s = .ok (first :: done) := by
      rw [List.mapM_cons, result_bind_of_ok ok, result_bind_of_ok run]
      rfl
    have logs := each (item :: before) other rest (first :: done) (congrArg (item :: ·) split) whole
    rwa [List.mapM_cons, after_bind_of_ok ok, after_bind_of_ok run] at logs

end

/-- The text that a template renders does not depend on what has been done before. -/
theorem Template.effectiveSource_sameResult (t : Template) : SameResult t.effectiveSource t.effectiveSource := by
  unfold effectiveSource
  split
  · refine SameResult.reporting ((SameResult.ofExcept rfl).bind fun blocks => (SameResult.ofExcept rfl).bind ?_)
    rintro ⟨spliced, unmatched⟩
    cases unmatched with
    | nil => exact .pure spliced
    | cons name rest => exact SameResult.report.bind fun _ => .pure spliced
  · exact .pure _

/-- Nor does its tree. -/
theorem Template.nodes_sameResult (t : Template) : SameResult t.nodes t.nodes :=
  t.effectiveSource_sameResult.bind fun _ => .ofExcept rfl

/-- The tree of the text that a template renders. -/
def Template.tree (t : Template) : Except Failure (List Markup.Node) :=
  result t.nodes {}

theorem Template.result_nodes (t : Template) (s : Session) : result t.nodes s = t.tree :=
  t.nodes_sameResult s {}

/-- A function whose result depends on its arguments alone. -/
def Function.Steady (f : Function) : Prop :=
  ∀ arguments, SameResult (f arguments) (f arguments)

theorem Function.steady_ofPure (f : List Value → Except Failure Value) : (Function.ofPure f).Steady := by
  intro arguments s t
  unfold Function.ofPure
  cases f arguments <;> rfl

/-- Every common function is given by its results alone. -/
theorem Function.builtins_pure : ∀ entry ∈ Function.builtins, ∃ f, entry.2 = Function.ofPure f := by
  simp only [Function.builtins, List.forall_mem_cons]
  exact ⟨⟨_, rfl⟩, ⟨_, rfl⟩, ⟨_, rfl⟩, ⟨_, rfl⟩, ⟨_, rfl⟩, ⟨_, rfl⟩, ⟨_, rfl⟩, ⟨_, rfl⟩, ⟨_, rfl⟩, ⟨_, rfl⟩,
    ⟨_, rfl⟩, ⟨_, rfl⟩, ⟨_, rfl⟩, fun _ member => absurd member List.not_mem_nil⟩

/-- The functions that a template can call are steady if its own are. -/
theorem Template.callable_steady {t : Template} (steady : ∀ entry ∈ t.functions, Function.Steady entry.2)
    {name : String} {f : Function} (found : t.callable.get? name = some f) : f.Steady := by
  have common : ∀ entry ∈ Function.builtins, Function.Steady entry.2 := by
    intro entry member
    obtain ⟨g, same⟩ := Function.builtins_pure entry member
    rw [same]
    exact Function.steady_ofPure g
  obtain ⟨entry, member, rfl⟩ := Assoc.mem_of_get? found
  exact Assoc.forall_merge common steady entry member

end Stencil
