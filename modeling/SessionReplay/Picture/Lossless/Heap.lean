/-!
# Weighted heaps

A binary heap in an array, the lightest entry at the top. Which of two equally heavy entries comes
out first decides the shape of a prefix code, so the order of comparisons and moves is part of the
definition: of two children that are equally heavy the right one moves up, an entry stays above an
equally heavy child, and the entry that fills the gap after a removal goes all the way down before
it comes up again.
-/

namespace SessionReplay.Lossless

/-- A heap of entries with weights. -/
structure Heap (α : Type) where
  /-- Weights and entries; the children of the entry at `i` are at `2 * i + 1` and `2 * i + 2`. -/
  entries : Array (Nat × α) := #[]

namespace Heap

variable {α : Type}

/-- The weight at an index, zero if there is none. -/
def weight (h : Heap α) (i : Nat) : Nat :=
  (h.entries[i]?.map Prod.fst).getD 0

/-- The number of entries. -/
def size (h : Heap α) : Nat := h.entries.size

/-- The heap with two entries exchanged. -/
def swap (h : Heap α) (i j : Nat) : Heap α :=
  ⟨h.entries.swapIfInBounds i j⟩

/-- The child of `i` that would move up, if there is one. -/
def lighterChild? (h : Heap α) (i : Nat) : Option Nat :=
  let left := 2 * i + 1
  if left + 1 < h.size then
    some (if h.weight (left + 1) ≤ h.weight left then left + 1 else left)
  else if left + 1 = h.size then some left
  else none

/-- Lets the entry at `i` sink below lighter ones. The first argument bounds the levels. -/
def siftDown : Nat → Heap α → Nat → Heap α
  | 0, h, _ => h
  | fuel + 1, h, i =>
    match h.lighterChild? i with
    | none => h
    | some c =>
      if h.weight i ≤ h.weight c then h else siftDown fuel (h.swap i c) c

/-- Lets the entry at `i` sink to the bottom; its new index comes with the heap. -/
def sinkToBottom : Nat → Heap α → Nat → Heap α × Nat
  | 0, h, i => (h, i)
  | fuel + 1, h, i =>
    match h.lighterChild? i with
    | none => (h, i)
    | some c => sinkToBottom fuel (h.swap i c) c

/-- Lets the entry at `i` rise above heavier ones. -/
def siftUp : Nat → Heap α → Nat → Heap α
  | 0, h, _ => h
  | fuel + 1, h, i =>
    let parent := (i - 1) / 2
    if i = 0 ∨ h.weight parent ≤ h.weight i then h else siftUp fuel (h.swap i parent) parent

/-- The heap of some entries. -/
def ofArray (entries : Array (Nat × α)) : Heap α :=
  let h : Heap α := ⟨entries⟩
  (List.range (entries.size / 2)).reverse.foldl (fun h i => siftDown entries.size h i) h

/-- Takes the lightest entry out. -/
def pop? (h : Heap α) : Option ((Nat × α) × Heap α) :=
  match h.entries[0]?, h.entries.back? with
  | some top, some last =>
    let rest := h.entries.pop
    if rest.isEmpty then some (top, ⟨rest⟩)
    else
      let (sunk, i) := sinkToBottom rest.size ⟨rest.setIfInBounds 0 last⟩ 0
      some (top, siftUp rest.size sunk i)
  | _, _ => none

/-- Replaces the lightest entry. -/
def replaceTop (h : Heap α) (entry : Nat × α) : Heap α :=
  siftDown h.size ⟨h.entries.setIfInBounds 0 entry⟩ 0

end Heap

end SessionReplay.Lossless
