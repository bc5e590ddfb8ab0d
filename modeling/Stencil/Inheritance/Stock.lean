import Stencil.Inheritance.Family

/-!
Three base templates for common prompts.
-/

namespace Stencil.Inheritance

open Stencil.Markup

/-- Lines of text. -/
def lines (texts : List String) : String :=
  "\n".intercalate texts

/-- A block whose markers stand on lines of their own. -/
def block (kind : BlockKind) (details : String) (body : List String) : String :=
  spellBlock kind details ("\n" ++ lines body ++ "\n")

/-- A section whose markers stand on lines of their own. -/
def sectionOf (name : String) (body : List String) : String :=
  block (.region .sect) name body

/-- A replaceable block whose markers stand on lines of their own. -/
def blockOf (name : String) (body : List String) : String :=
  block (.region .block) name body

/-- Sections with an empty line between them. -/
def sections (parts : List String) : String :=
  "\n\n".intercalate parts

/-- The section that holds the main content. -/
def contentSection : String :=
  sectionOf "content" [blockOf "main_content" [spellSlot "content"]]

/-- A base for plain tasks. -/
def basicPrompt : Base where
  name := "basic_prompt"
  source := sections [
    sectionOf "header" ["You are a helpful AI assistant."],
    sectionOf "task" [blockOf "task_description" ["Please help with the following task:"]],
    contentSection,
    sectionOf "instructions"
      [blockOf "instructions" ["Please provide a clear and helpful response."]],
    sectionOf "footer" [blockOf "footer" ["Thank you for using our AI assistant."]]]
  description := "Basic prompt template with standard sections"
  bindings := [("content", .str "Please specify the content to process")]
  required := ["main_content"]
  optional := ["task_description", "instructions", "footer"]

/-- A base for analyses. -/
def analysisPrompt : Base where
  name := "analysis_prompt"
  source := sections [
    sectionOf "header"
      ["You are an expert analyst with deep knowledge in " ++ spellSlot "domain" ++ "."],
    sectionOf "context"
      [blockOf "context" [block .conditional "context" ["Context: " ++ spellSlot "context"]]],
    sectionOf "task"
      [blockOf "analysis_task"
        ["Please analyze the following " ++ spellSlot "content_type" ++ ":"]],
    contentSection,
    sectionOf "requirements"
      [blockOf "analysis_requirements"
        ["Focus on:", block .loop "focus_areas as area" ["- " ++ spellSlot "area"]]],
    sectionOf "output"
      [blockOf "output_format"
        ["Provide your analysis in the following format:", "1. Summary", "2. Key findings",
          "3. Recommendations"]]]
  description := "Template for analytical tasks"
  bindings := [
    ("domain", .str "general analysis"),
    ("content_type", .str "data"),
    ("focus_areas", .ofStrings ["key insights", "patterns", "recommendations"])]
  required := ["main_content", "analysis_task"]
  optional := ["context", "analysis_requirements", "output_format"]

/-- A base for creative work. -/
def creativePrompt : Base where
  name := "creative_prompt"
  source := sections [
    sectionOf "header"
      ["You are a creative AI assistant specializing in " ++ spellSlot "creative_domain" ++ "."],
    sectionOf "inspiration"
      [blockOf "inspiration"
        [block .conditional "inspiration_sources"
          ["Draw inspiration from: " ++ spellSlot "inspiration_sources"]]],
    sectionOf "task"
      [blockOf "creative_task"
        ["Create " ++ spellSlot "creative_output_type" ++ " based on the following:"]],
    contentSection,
    sectionOf "style"
      [blockOf "style_guide"
        [ "Style requirements:", "- Tone: " ++ spellSlot "tone", "- Style: " ++ spellSlot "style",
          block .conditional "constraints" ["- Constraints: " ++ spellSlot "constraints"] ]],
    sectionOf "output"
      [blockOf "creative_output" ["Please provide your creative response below:"]]]
  description := "Template for creative tasks"
  bindings := [
    ("creative_domain", .str "content creation"),
    ("creative_output_type", .str "content"),
    ("tone", .str "engaging"),
    ("style", .str "creative")]
  required := ["main_content", "creative_task"]
  optional := ["inspiration", "style_guide", "creative_output"]

/-- The stock bases. -/
def stockBases : List Base :=
  [basicPrompt, analysisPrompt, creativePrompt]

/-- A family with the stock bases. -/
def stockFamily : Run Family :=
  stockBases.foldlM (fun family base => family.register base) {}

end Stencil.Inheritance
