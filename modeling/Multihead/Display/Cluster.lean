import Multihead.Display.Backend
import Multihead.Display.Routing

/-! # Clusters
Several backends that act as one. A snapshot of a cluster joins the snapshots of its members and numbers the outputs
from one. A request is routed to the members. When a member refuses its slice, the members before it take back
what they had before the request; when one of them does not, the cluster is incomplete from then on and refuses
every request. -/

set_option autoImplicit false

namespace Multihead

structure Cluster (α : Type) where
  members : List α
  /-- The card on which a refused configuration could not be undone. -/
  incomplete : Option CardId
  deriving DecidableEq

/-- A slice handed to the member at this place, with the member's reply. -/
structure Call (ρ : Type) where
  member : Nat
  slice : Slice
  reply : ρ

namespace Cluster

variable {α : Type} [Backend α]

/-! ## Snapshots -/

def configuration (g : Cluster α) : Configuration :=
  Configuration.numbered (g.members.flatMap Backend.configuration)

/-- The cards of each member. -/
def owners (g : Cluster α) : List (List CardId) :=
  g.members.map fun m => Configuration.cards (Backend.configuration m)

/-- The slice of `conf` for each member. -/
def slices (g : Cluster α) (conf : Configuration) : List (Option Slice) := Slice.route g.owners conf.partition

/-! ## Configuring -/

/-- The outcome of configuring a list of members. -/
structure ModeSet (α : Type) where
  answer : Except ConfigureError Unit
  members : List α
  calls : List (Call (Except ConfigureError Unit))
  events : List Event

/-- Configures members one after the other, starting at place `k`, up to the first that fails. -/
def configureFrom (k : Nat) : List α → List (Option Slice) → ModeSet α
  | m :: ms, some s :: rest =>
    let r := Backend.configure m s.outputs
    match r.answer with
    | .ok () =>
      let more := configureFrom (k + 1) ms rest
      ⟨more.answer, r.state :: more.members, ⟨k, s, r.answer⟩ :: more.calls, r.events ++ more.events⟩
    | .error e => ⟨.error (.outputsOf s.card e), r.state :: ms, [⟨k, s, r.answer⟩], r.events⟩
  | m :: ms, none :: rest =>
    let more := configureFrom (k + 1) ms rest
    { more with members := m :: more.members }
  | ms, _ => ⟨.ok (), ms, [], []⟩

/-- Configures every member with its slice; an incomplete cluster refuses without calling any. -/
def modeSet (g : Cluster α) (conf : Configuration) : ModeSet α :=
  match g.incomplete with
  | some card => ⟨.error (.display (.incomplete card)), g.members, [], []⟩
  | none => configureFrom 0 g.members (g.slices conf)

def configure (g : Cluster α) (conf : Configuration) : Configured (Cluster α) :=
  let r := g.modeSet conf
  ⟨r.answer, { g with members := r.members }, r.events⟩

/-! ## Applying, and undoing what was applied -/

/-- Where a pass over the members stopped, and the error if it was not a refusal. -/
structure Stop where
  member : Nat
  error : Option DisplayError
  deriving DecidableEq

/-- The outcome of offering slices to a list of members. -/
structure Pass (α : Type) where
  members : List α
  calls : List (Call (Except DisplayError Bool))
  stop : Option Stop
  asked : List Event
  undone : List Event

/-- Offers slices one after the other, starting at place `k`, up to the first that is not accepted. -/
def offerFrom (k : Nat) : List α → List (Option Slice) → Pass α
  | m :: ms, some s :: rest =>
    let r := Backend.apply m s.outputs
    match r.answer with
    | .ok true =>
      let more := offerFrom (k + 1) ms rest
      ⟨r.state :: more.members, ⟨k, s, r.answer⟩ :: more.calls, more.stop, r.asked ++ more.asked,
        r.undone ++ more.undone⟩
    | .ok false => ⟨r.state :: ms, [⟨k, s, r.answer⟩], some ⟨k, none⟩, r.asked, r.undone⟩
    | .error e => ⟨r.state :: ms, [⟨k, s, r.answer⟩], some ⟨k, some e⟩, r.asked, r.undone⟩
  | m :: ms, none :: rest =>
    let more := offerFrom (k + 1) ms rest
    { more with members := m :: more.members }
  | ms, _ => ⟨ms, [], none, [], []⟩

/-- The outcome of applying a configuration to a cluster: the calls that carried the request, and the calls that
took it back. -/
structure Application (α : Type) where
  answer : Except DisplayError Bool
  cluster : Cluster α
  forward : List (Call (Except DisplayError Bool))
  back : List (Call (Except DisplayError Bool))
  asked : List Event
  undone : List Event

/-- What a pass that stopped is answered with, once it has been undone. -/
def Stop.answer (s : Stop) : Except DisplayError Bool :=
  match s.error with
  | none => .ok false
  | some e => .error e

/-- The card named for the member at this place. -/
def cardAt (slices : List (Option Slice)) (k : Nat) : CardId :=
  match slices[k]? with
  | some (some s) => s.card
  | _ => ⟨0⟩

/-- Gives the members before the one that stopped the pass their slice of the snapshot `before` back. -/
def restore (p : Pass α) (s : Stop) (before : List (Option Slice)) : Application α :=
  let back := offerFrom 0 p.members (before.take s.member)
  match back.stop with
  | none => ⟨s.answer, ⟨back.members, none⟩, p.calls, back.calls, p.asked, p.undone ++ back.asked ++ back.undone⟩
  | some t =>
    let card := cardAt before t.member
    ⟨.error (.incomplete card), ⟨back.members, some card⟩, p.calls, back.calls, p.asked,
      p.undone ++ back.asked ++ back.undone⟩

/-- Offers every member its slice of `conf`, and takes the request back if one does not accept. -/
def application (g : Cluster α) (conf : Configuration) : Application α :=
  match g.incomplete with
  | some card => ⟨.error (.incomplete card), g, [], [], [], []⟩
  | none =>
    let p := offerFrom 0 g.members (g.slices conf)
    match p.stop with
    | none => ⟨.ok true, ⟨p.members, none⟩, p.calls, [], p.asked, p.undone⟩
    | some s => restore p s (g.slices g.configuration)

def apply (g : Cluster α) (conf : Configuration) : Applied (Cluster α) :=
  let r := g.application conf
  ⟨r.answer, r.cluster, r.asked, r.undone⟩

/-! ## All else goes to every member -/

/-- Does the same to every member, in order. -/
def each (f : α → α × List Event) (g : Cluster α) : Cluster α × List Event :=
  let done := g.members.map f
  (⟨done.map (·.1), g.incomplete⟩, done.flatMap (·.2))

/-- A context for drawing comes from the first member. -/
def context (g : Cluster α) : Except ConfigureError RenderContext × List Event :=
  match g.members with
  | [] => (.error (.display .noBackends), [])
  | m :: _ => Backend.context m

instance : Backend (Cluster α) where
  configuration := configuration
  configure := configure
  apply := apply
  syncGroups g := g.members.flatMap Backend.syncGroups
  register h := each (Backend.register h)
  pause := each Backend.pause
  resume := each Backend.resume
  context := context

/-! ## Creation -/

/-- A cluster of at least one backend, laid out by `arrange`. -/
def create (members : List α) (arrange : Configuration → Configuration) :
    Except ConfigureError (Cluster α) × List Event :=
  if members.isEmpty then (.error (.display .noBackends), [])
  else
    let g : Cluster α := ⟨members, none⟩
    let r := g.configure (arrange g.configuration)
    match r.answer with
    | .ok () => (.ok r.state, r.events)
    | .error e => (.error (.firstLayout e), r.events)

/-! ## The text of a cluster -/

def text (g : Cluster α) : String :=
  let poison := match g.incomplete with
    | none => "None"
    | some card => "Some(CardId(" ++ toString card.number.toNat ++ "))"
  "MultiplexingDisplay \x7b displays: " ++ toString g.members.length ++ ", incomplete: " ++ poison ++ " \x7d"

end Cluster

end Multihead
