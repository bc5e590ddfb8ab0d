import Stencil.Composition.Composer

/-!
Rules for common names of templates.
-/

namespace Stencil.Composition

/-- A pattern for names, given by its text. -/
def NamePattern.ofText? (text : String) : Option NamePattern :=
  (Pattern.compile text).toOption.map (NamePattern.mk text)

/-- A behavior with a threshold. -/
def atLeast (trait : Trait) (threshold : Float) : Behavior :=
  { trait, threshold := some threshold, hours := none, domain := none }

/-- The stock rules. -/
def stockRules : List Rule :=
  [ { name := "high_complexity_task"
      pattern := NamePattern.ofText? ".*complex.*|.*detailed.*"
      requirements := [⟨"task.complexity", .greater, .int 7⟩]
      priority := 10
      description := "Use detailed templates for complex tasks" },
    { name := "beginner_user"
      pattern := NamePattern.ofText? ".*simple.*|.*basic.*"
      behaviors := [atLeast .usageFrequency 5]
      priority := 8
      description := "Use simple templates for new users" },
    { name := "expert_user"
      pattern := NamePattern.ofText? ".*advanced.*|.*expert.*"
      behaviors := [atLeast .successRate 0.8, atLeast .usageFrequency 50]
      priority := 9
      description := "Use advanced templates for expert users" },
    { name := "morning_productivity"
      pattern := NamePattern.ofText? ".*focused.*|.*productive.*"
      behaviors := [
        { trait := .timeOfDay, threshold := none, hours := some (6, 12), domain := none }]
      priority := 6
      description := "Use focused templates during morning hours" },
    { name := "creative_task"
      pattern := NamePattern.ofText? ".*creative.*|.*brainstorm.*"
      requirements :=
        [⟨"task.type", .among, .ofStrings ["creative", "brainstorming", "ideation"]⟩]
      priority := 7
      description := "Use creative templates for creative tasks" } ]

/-- Adds several rules. -/
def addRules : List Rule → Composing Unit
  | [] => return ()
  | rule :: rest => do
    Composer.addRule rule
    addRules rest

/-- Adds the stock rules. -/
def addStockRules : Composing Unit :=
  addRules stockRules

end Stencil.Composition
