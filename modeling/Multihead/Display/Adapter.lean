import Multihead.Display.Backend

/-! # Adapters
A simulated display adapter. It answers requests as a script says, and with acceptance once the script is used up.
An accepted configuration replaces the one held, or is merged into it output by output. -/

set_option autoImplicit false

namespace Multihead

structure Adapter where
  /-- The number of the adapter in traces. -/
  label : Nat
  outputs : Configuration
  /-- Whether accepted outputs replace the held ones of the same card and name only. -/
  merges : Bool
  commits : List CommitAnswer
  modeSets : List ModeSetAnswer
  groups : Nat
  lacksContext : Bool
  handlers : List Handler
  deriving DecidableEq

namespace Adapter

/-- Puts `o` in the place of every held output of its card and name. -/
def overwrite (held : Configuration) (o : Output) : Configuration :=
  held.map fun h => if h.card = o.card ∧ h.name = o.name then o else h

/-- What is held after a configuration was accepted. -/
def stored (a : Adapter) (conf : Configuration) : Configuration :=
  if a.merges then conf.foldl overwrite a.outputs else conf

def store (a : Adapter) (conf : Configuration) : Adapter := { a with outputs := a.stored conf }

/-- The card of the first output of a request. -/
def cardOf (conf : Configuration) : CardId :=
  match conf with
  | [] => ⟨0⟩
  | o :: _ => o.card

def configure (a : Adapter) (conf : Configuration) : Configured Adapter :=
  let answer := a.modeSets.headD .accept
  let rest := { a with modeSets := a.modeSets.tail }
  match answer with
  | .accept => ⟨.ok (), rest.store conf, [.configure a.label answer conf]⟩
  | .fail => ⟨.error (.refusal "mode-set rejected"), rest, [.configure a.label answer conf]⟩

def apply (a : Adapter) (conf : Configuration) : Applied Adapter :=
  let answer := a.commits.headD .accept
  let rest := { a with commits := a.commits.tail }
  let events := [Event.apply a.label answer conf]
  match answer with
  | .accept => ⟨.ok true, rest.store conf, events, []⟩
  | .reject => ⟨.ok false, rest, events, []⟩
  | .fail => ⟨.error (.backend (cardOf conf) "atomic commit failed"), rest, events, []⟩
  | .incomplete => ⟨.error (.incomplete (cardOf conf)), rest, events, []⟩

def context (a : Adapter) : Except ConfigureError RenderContext × List Event :=
  (if a.lacksContext then .error (.refusal "no GL context") else .ok ⟨a.label⟩, [.createContext a.label])

instance : Backend Adapter where
  configuration := outputs
  configure := configure
  apply := apply
  syncGroups a := (List.range a.groups).map (⟨a.label, ·⟩)
  register h a := ({ a with handlers := a.handlers ++ [h] }, [.register a.label])
  pause a := (a, [.pause a.label])
  resume a := (a, [.resume a.label])
  context := context

end Adapter

end Multihead
