import DbGateway.Placeholder
import DbGateway.Python

/-!
# DbGateway.Prompts

`prompts/registry.py`: the prompts for the model, with variables filled in.

The variables are replaced one after the other in the text so far, so a value
in which the placeholder of a later variable comes up is filled in once more.
Which variables are filled in all at once is said by `renderPrompt_iff`.
-/

namespace DbGateway.Prompts

open Placeholder

/-! ## Rendering -/

/-- The braces of a placeholder. -/
def braces : Brackets Char := ⟨'\x7b', '\x7d', by decide⟩

/-- A keyword of a call; an identifier has no brace in it. -/
abbrev Keyword := {key : String // '\x7b' ∉ key.toList ∧ '\x7d' ∉ key.toList}

/-- `**kwargs`, as strings: each keyword once, in the order of the call. -/
structure Keywords where
  items : List (Keyword × String)
  nodup : (items.map Prod.fst).Nodup

/-- `"{" + key + "}"` -/
def placeholder (key : Keyword) : String := "\x7b" ++ key.1 ++ "\x7d"

/-- `text.replace(old, new)`, for an `old` that is not empty. -/
def replaceText (text old new : String) : String :=
  String.ofList (replace old.toList new.toList text.toList)

/-- `text.count(word)` -/
def countText (text word : String) : Nat := occurrences word.toList text.toList

/-- `config.get("template", "")` -/
def templateOf (config : Dict String) : String := (config.get? "template").getD ""

/-- `render_prompt` -/
def renderPrompt (config : Dict String) (kwargs : List (Keyword × String)) : String :=
  kwargs.foldl (fun template kv => replaceText template (placeholder kv.1) kv.2) (templateOf config)

/-! ## Simultaneous substitution -/

/-- The name in a placeholder. -/
def nameOf (key : Keyword) : Name braces := ⟨key.1.toList, key.2⟩

/-- The values of the placeholders. -/
def valuesOf (kwargs : List (Keyword × String)) : Values braces :=
  kwargs.map fun kv => (nameOf kv.1, kv.2.toList)

/-- The template with each placeholder replaced by its value, and nothing else. -/
def fillPrompt (config : Dict String) (kwargs : List (Keyword × String)) : String :=
  String.ofList (substitute (rules (valuesOf kwargs)) (templateOf config).toList)

theorem toList_placeholder (key : Keyword) : (placeholder key).toList = slot (nameOf key) := by
  rw [placeholder, String.toList_append, String.toList_append]
  rfl

theorem nameOf_injective : Function.Injective nameOf := by
  intro key key' h
  exact Subtype.ext (String.toList_inj.mp (congrArg Subtype.val h))

theorem toList_renderPrompt (config : Dict String) (kwargs : List (Keyword × String)) :
    (renderPrompt config kwargs).toList =
      replaceEach (valuesOf kwargs) (templateOf config).toList := by
  unfold renderPrompt
  generalize templateOf config = template
  induction kwargs generalizing template with
  | nil => rfl
  | cons kv kwargs ih =>
      rw [List.foldl_cons, ih, replaceText, String.toList_ofList, toList_placeholder]
      rfl

/-- **Prompt rendering is simultaneous substitution**, after each variable,
exactly when filling in the variables before brings up no further placeholder
of a variable, or the value of that variable is the placeholder. -/
theorem renderPrompt_iff (config : Dict String) (kwargs : Keywords) :
    (∀ earlier, earlier <+: kwargs.items →
        renderPrompt config earlier = fillPrompt config earlier) ↔
      ∀ earlier kv, earlier ++ [kv] <+: kwargs.items →
        countText (fillPrompt config earlier) (placeholder kv.1) =
            countText (templateOf config) (placeholder kv.1) ∨
          kv.2 = placeholder kv.1 := by
  have hnodup : (kwargs.items.map fun kv => nameOf kv.1).Nodup := by
    have hnames := kwargs.nodup.map nameOf_injective
    rwa [List.map_map] at hnames
  have hiff := replaceEach_iff (fun kv : Keyword × String => (nameOf kv.1, kv.2.toList)) hnodup
    (templateOf config).toList
  simp only [← String.toList_inj, toList_renderPrompt, countText, fillPrompt, String.toList_ofList,
    toList_placeholder]
  exact hiff

/-- `render_prompt(config, schema=schema, question=question)` -/
def schemaAndQuestion (schema question : String) : Keywords where
  items := [(⟨"schema", by decide⟩, schema), (⟨"question", by decide⟩, question)]
  nodup := by
    show [(⟨"schema", _⟩ : Keyword), ⟨"question", _⟩].Nodup
    decide

/-- A schema with the placeholder of the question in it. -/
theorem not_renderPrompt_schema :
    ¬ ∀ (config : Dict String) (kwargs : Keywords),
      renderPrompt config kwargs.items = fillPrompt config kwargs.items := by
  intro h
  have hschema := h [("template", "{schema}")] (schemaAndQuestion "{question}" "drop")
  revert hschema
  decide

end DbGateway.Prompts
