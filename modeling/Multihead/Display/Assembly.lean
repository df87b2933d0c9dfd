import Multihead.Display.Adapter
import Multihead.Display.Cluster
import Multihead.Display.Notice

/-! # Assemblies
Leaves and clusters nested to a given depth. A nest of depth zero is a leaf; one of depth `n + 1` is a leaf or a cluster
of nests of depth `n`. A nest of backends is a backend, and its leaves stand in a fixed order. In an assembly the leaves
are adapters. -/

set_option autoImplicit false

namespace Multihead

def Nest (α : Type) : Nat → Type
  | 0 => α
  | n + 1 => α ⊕ Cluster (Nest α n)

namespace Nest

variable {α : Type}

instance backend [Backend α] : (n : Nat) → Backend (Nest α n)
  | 0 => inferInstanceAs (Backend α)
  | n + 1 => have := backend n; inferInstanceAs (Backend (α ⊕ Cluster (Nest α n)))

/-- A single leaf, at any depth. -/
def leaf (a : α) : (n : Nat) → Nest α n
  | 0 => a
  | _ + 1 => .inl a

def cluster {n : Nat} (g : Cluster (Nest α n)) : Nest α (n + 1) := .inr g

/-- The leaves, from first to last. -/
def leaves : (n : Nat) → Nest α n → List α
  | 0, a => [a]
  | _ + 1, .inl a => [a]
  | n + 1, .inr g => g.members.flatMap (leaves n)

/-- Changes every leaf and leaves the nesting as it is. -/
def mapLeaves (f : α → α) : (n : Nat) → Nest α n → Nest α n
  | 0, a => f a
  | _ + 1, .inl a => .inl (f a)
  | n + 1, .inr g => .inr { g with members := g.members.map (mapLeaves f n) }

end Nest

abbrev Assembly (n : Nat) : Type := Nest Adapter n

/-- A cluster at the top of an assembly. -/
abbrev Display (n : Nat) : Type := Cluster (Assembly n)

namespace Assembly

/-- A single adapter, at any depth. -/
def adapter (a : Adapter) (n : Nat) : Assembly n := Nest.leaf a n

def cluster {n : Nat} (g : Display n) : Assembly (n + 1) := Nest.cluster g

end Assembly

namespace Display

variable {n : Nat}

def adapters (d : Display n) : List Adapter := d.members.flatMap (Nest.leaves n)

/-- Changes the adapter with this label. -/
def adjust (d : Display n) (label : Nat) (f : Adapter → Adapter) : Display n :=
  let change (a : Adapter) : Adapter := if a.label = label then f a else a
  { d with members := d.members.map (Nest.mapLeaves change n) }

/-- The handlers that the adapter with this label calls when its outputs change. -/
def handlersOf (d : Display n) (label : Nat) : List Handler :=
  ((d.adapters.find? (·.label = label)).map (·.handlers)).getD []

end Display

end Multihead
