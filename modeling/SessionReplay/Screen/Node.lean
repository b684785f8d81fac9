import SessionReplay.Record.Wireframe

/-!
# Nodes

The walk over a tree of views gives a tree of nodes: the wireframes of a view, and the nodes of the
views in it. On the screen everything is painted in pre-order.
-/

namespace SessionReplay

/-- The wireframes of one view and the nodes of the views in it, with pictures given as `ι`. -/
structure Node (ι : Type) where
  /-- The wireframes of the view itself. -/
  wireframes : List (Wireframe ι)
  /-- The nodes of the views in it. -/
  children : List (Node ι)
deriving Inhabited

namespace Node

variable {ι : Type}

mutual

/-- Appends the wireframes of a node: its own ones, then those of its children. -/
def flattenInto (out : Array (Wireframe ι)) : Node ι → Array (Wireframe ι)
  | ⟨wireframes, children⟩ => flattenEachInto (out ++ wireframes) children

/-- Appends the wireframes of several nodes, one node after the other. -/
def flattenEachInto (out : Array (Wireframe ι)) : List (Node ι) → Array (Wireframe ι)
  | [] => out
  | n :: rest => flattenEachInto (n.flattenInto out) rest

end

/-- The wireframes of a node in the order in which they are painted. -/
def flatten (n : Node ι) : List (Wireframe ι) := (n.flattenInto #[]).toList

/-- The wireframes of several nodes in the order in which they are painted. -/
def flattenAll (ns : List (Node ι)) : List (Wireframe ι) := ns.flatMap flatten

end Node

end SessionReplay
