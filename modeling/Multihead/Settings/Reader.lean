import Multihead.Document.Value
import Multihead.Settings.Basic

/-! # Reading settings
Settings are written as one structure whose fields may come in any order, each at most once, or not at all. Fields
of other names are left out. A text that is malformed anywhere gives no settings. -/

set_option autoImplicit false

namespace Multihead

open Document

namespace Settings

/-! ## Fields -/

/-- Reads the name of one of several values. -/
def choice {α : Type} (values : List α) (name : α → String) (cs : List Char) : Option (α × List Char) := do
  let (word, rest) ← identifier cs
  return (← values.find? (name · = String.ofList word), rest)

def bypassOption : List Char → Option (BypassOption × List Char) :=
  choice [.allowed, .prohibited] BypassOption.name

def layout : List Char → Option (Layout × List Char) := choice [.sideBySide, .clone, .single] Layout.name

/-- Reads an unsigned number of 64 bits. -/
def number (cs : List Char) : Option (UInt64 × List Char) := do
  let (n, rest) ← whole cs
  return (← n.toUInt64?, rest)

/-- Reads a field that was not read before. -/
def once {α : Type} (before : Option α) (read : List Char → Option (α × List Char)) (put : α → Draft)
    (cs : List Char) : Option (Draft × List Char) :=
  match before with
  | some _ => none
  | none => (read cs).map fun (a, rest) => (put a, rest)

/-- Reads the value of the field with this name. -/
def value (f : Features) (d : Draft) (field : String) (cs : List Char) : Option (Draft × List Char) :=
  match field with
  | "bypass" => once d.bypass bypassOption (fun v => { d with bypass := some v }) cs
  | "initial_layout" => once d.initialLayout layout (fun v => { d with initialLayout := some v }) cs
  | "composite_render_budget_ms" =>
    once d.compositeBudget number (fun v => { d with compositeBudget := some v }) cs
  | "bypass_render_budget_ms" => once d.bypassBudget number (fun v => { d with bypassBudget := some v }) cs
  | _ => (skipValue f (depthLimit - 2) cs).map (d, ·)

/-- Reads the name of a field, a colon and its value. -/
def field (f : Features) (d : Draft) (cs : List Char) : Option (Draft × List Char) := do
  let (word, rest) ← identifier cs
  value f d (String.ofList word) (← space (← mark ':' rest))

/-! ## Texts -/

/-- Leaves out the name of the structure, which may be missing unless names are asked for. -/
def structureName (f : Features) (cs : List Char) : Option (List Char) :=
  let isNamed := match cs with
    | c :: _ => Text.isIdentifierPart c
    | [] => false
  if isNamed then do
    let (word, rest) ← identifier cs
    if word = "MuxConfig".toList then some rest else none
  else if f.explicitNames then none
  else some cs

/-- Reads settings, if the text is well formed from its start to its end. -/
def read? (cs : List Char) : Option Settings := do
  let (f, rest) ← header cs
  let rest ← mark '(' (← structureName f rest)
  let (d, rest) ← foldEntries (field f) ')' rest.length Draft.empty rest
  if (← space rest).isEmpty then some d.settings else none

/-- Reads settings from the bytes of a file, which have to be text in UTF-8. -/
def ofBytes? (bytes : ByteArray) : Option Settings := (String.fromUTF8? bytes).bind (read? ·.toList)

end Settings

end Multihead
