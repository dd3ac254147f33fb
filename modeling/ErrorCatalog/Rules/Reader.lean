import ErrorCatalog.Rules
import ErrorCatalog.Yaml.Node.Composition
import ErrorCatalog.Yaml.Reading

/-!
# Reading rule files

The form of rule files. A condition, a parse instruction and an entry for
messages that are kept can each be written in several forms; the first form
that fits counts. There, unlike elsewhere, only a scalar that stands for a text
is taken for one.

- `RuleSet.ofText` reads the text of a rule file;
- `RuleSet.load` reads the bytes of a file.
-/

namespace ErrorCatalog

namespace Yaml.Content

/-- A text. -/
def text? : Content → Option String
  | .scalar (.text content) => some content
  | _ => none

/-- A text that may be null. -/
def optionalText? : Content → Option (Option String)
  | .scalar .null => some none
  | .scalar (.text content) => some (some content)
  | _ => none

/-- The place of a key among the fields of a structure: fields are known by their names and by
their numbers, without a minus sign. Other such texts and numbers belong to no field; further keys
are not accepted. -/
def fieldIndex? (names : List String) : Content → Option (Option Nat)
  | .scalar (.text name) => some (names.findIdx? (· = name))
  | .scalar (.natural number) => some (if number < names.length then some number else none)
  | _ => none

/-- The fields of a structure with the places of their names, each at most once. -/
def fields? (names : List String) : Content → Option (List (Nat × Content))
  | .entries pairs => do
      let found ← pairs.mapM fun (key, value) => do return (← fieldIndex? names key, value)
      let known := found.filterMap fun entry => entry.1.map fun index => (index, entry.2)
      if (known.map (·.1)).Nodup then some known else none
  | _ => none

/-- The field at a place. -/
def field? (fields : List (Nat × Content)) (index : Nat) : Option Content :=
  (fields.find? fun entry => entry.1 = index).map (·.2)

/-- The field at a place as a text, which may be null or missing. -/
def optionalField? (fields : List (Nat × Content)) (index : Nat) : Option (Option String) :=
  match field? fields index with
  | some content => content.optionalText?
  | none => some none

end Yaml.Content

open Yaml

/-- A condition: a text, or a pattern in a mapping. -/
def RuleCondition.ofContent? (content : Content) : Option RuleCondition :=
  match content.text? with
  | some text => some (.literal text)
  | none => do
      let fields ← content.fields? ["pattern"]
      return .pattern (← (← Content.field? fields 0).text?)

namespace RuleInstruction

mutual

/-- An instruction: the name of a parser, or a list of instructions. -/
def ofContent? : Content → Option RuleInstruction
  | .scalar (.text name) => some (.reference name)
  | .items items => (ofItems? items).map .chain
  | _ => none

/-- The instructions of a list. -/
def ofItems? : List Content → Option (List RuleInstruction)
  | [] => some []
  | item :: rest => do
      let instruction ← ofContent? item
      return instruction :: (← ofItems? rest)

end

end RuleInstruction

/-- Parse instructions: a list, or a mapping from the names of groups. -/
def RuleParse.ofContent? : Content → Option RuleParse
  | .items items => (RuleInstruction.ofItems? items).map .positional
  | .entries entries => do
      let named ← entries.mapM fun (key, value) => do
        return (← key.text?, ← RuleInstruction.ofContent? value)
      return .named (Register.ofList named)
  | _ => none

/-- An entry for messages that are kept: a condition, or a structure around one. -/
def RulePassthrough.ofContent? (content : Content) : Option RulePassthrough :=
  match RuleCondition.ofContent? content with
  | some condition => some (.bare condition)
  | none => do
      let fields ← content.fields? ["name", "condition", "scope"]
      let condition ← RuleCondition.ofContent? (← Content.field? fields 1)
      return .definition (← Content.optionalField? fields 0) condition
        (← Content.optionalField? fields 2)

namespace Yaml.Reading

/-- A value that is read through its content. -/
def ofContent {α : Type} (read : Content → Option α) : NodeReader α := fun depth node => do
  accept (read (← content depth node))

/-- Lookup tables by name. -/
def tables : NodeReader (Register LookupTable) := entries (entries fields)

end Yaml.Reading

open Yaml.Reading

/-- Settings. -/
def Settings.read : NodeReader Settings := fun depth node => do
  let defaults : Settings := {}
  let members ← members ["context_fields", "create_missing_scopes"] depth node
  return {
    contextFields := ← members.get "context_fields" defaults.contextFields (items text)
    createMissingScopes :=
      ← members.get "create_missing_scopes" defaults.createMissingScopes flag }

/-- A case. -/
def RuleCase.read : NodeReader RuleCase := fun depth node => do
  let members ← members
    ["name", "condition", "message", "use_original", "parsers", "parse", "scope"] depth node
  return {
    name := ← members.get "name" none (optional text)
    condition := ← members.get "condition" none (optional (ofContent RuleCondition.ofContent?))
    message := ← members.get "message" none (optional text)
    keepsMessage := ← members.get "use_original" false flag
    parsers := ← members.get "parsers" Register.empty tables
    parse := ← members.get "parse" none (optional (ofContent RuleParse.ofContent?))
    scope := ← members.get "scope" none (optional text) }

namespace RuleSection

/-- The names of the fields of a section. -/
def fieldNames : List String := ["parsers", "cases", "allow_original"]

/-- The rules of one scope among other fields. -/
def ofMembers (members : Members) : Reading RuleSection := do
  return {
    parsers := ← members.get "parsers" Register.empty tables
    cases := ← members.get "cases" [] (items RuleCase.read)
    passthroughs :=
      ← members.get "allow_original" [] (items (ofContent RulePassthrough.ofContent?)) }

/-- The rules of one scope. -/
def read : NodeReader RuleSection := fun depth node => do
  ofMembers (← members fieldNames depth node)

end RuleSection

namespace RuleSet

/-- A rule file. -/
def read : NodeReader RuleSet := fun depth node => do
  let members ← members ("settings" :: "scopes" :: RuleSection.fieldNames) depth node
  return {
    settings := ← members.get "settings" {} Settings.read
    global := ← RuleSection.ofMembers members
    scopes := ← members.get "scopes" Register.empty (entries RuleSection.read) }

/-- Read a rule file from its text. -/
def ofText (text : String) : Except Error RuleSet :=
  match (Document.ofText? text).bind fun document => document.read? read with
  | some rules => .ok rules
  | none => .error .malformedRules

/-- The reason why bytes that encode no text cannot be read. -/
def invalidEncoding : String := "stream did not contain valid UTF-8"

/-- Read a rule file from what its path leads to: bytes, or the reason why there are none. -/
def load (path : String) (contents : Except String ByteArray) : Except Error RuleSet :=
  match contents with
  | .error reason => .error (.unreadableRules path reason)
  | .ok bytes =>
      match String.fromUTF8? bytes with
      | some text => ofText text
      | none => .error (.unreadableRules path invalidEncoding)

end RuleSet

end ErrorCatalog
