import SessionReplay.Proofs.Screen.Furnishing
import SessionReplay.Recording.Snapshots

/-!
# Numbered pictures

The pictures of a walk get consecutive numbers in the order in which they are painted
(`Node.pictures_numberAll`), and so do the copies that are asked for them
(`Recording.slot_of_copies`).
-/

namespace SessionReplay

/-- Pictures that are ordered one after the other get the numbers from `next` on. -/
theorem Studio.orderAll_counter (ps : List CopySource) (next : Slot) :
    counter.orderAll ps next = (List.range' next ps.length, next + ps.length) := by
  induction ps generalizing next with
  | nil => rfl
  | cons p ps ih =>
    change (next :: (counter.orderAll ps (next + 1)).1, (counter.orderAll ps (next + 1)).2) = _
    rw [ih, List.length_cons, List.range'_succ, Nat.add_right_comm, Nat.add_assoc]

namespace Node

/-- The pictures of sketches get the next numbers in the order in which they are painted, as many as there
are pictures. -/
theorem pictures_numberAll (next : Slot) (ns : List (Node CopySource)) :
    Wireframe.pictures (flattenAll (numberAll next ns).1)
        = List.range' next (Wireframe.pictures (flattenAll ns)).length ∧
      (numberAll next ns).2 = next + (Wireframe.pictures (flattenAll ns)).length := by
  have hordered := (Studio.counter.furnishNodes_furnishes ns next).ordered
  rw [Studio.orderAll_counter] at hordered
  exact Prod.mk.inj hordered

/-- The slot of every picture is among the numbers given out. -/
theorem slot_of_numberAll {next : Slot} {ns : List (Node CopySource)} {w : Wireframe Slot} {slot : Slot}
    (hw : w ∈ flattenAll (numberAll next ns).1) (hslot : slot ∈ w.picture?) :
    next ≤ slot ∧ slot < (numberAll next ns).2 := by
  obtain ⟨hnumbers, hstop⟩ := pictures_numberAll next ns
  have hmem : slot ∈ Wireframe.pictures (flattenAll (numberAll next ns).1) :=
    List.mem_filterMap.mpr ⟨w, hw, hslot⟩
  rw [hnumbers, List.mem_range'_1] at hmem
  rw [hstop]
  exact hmem

end Node

/-- The copies for the pictures of some nodes belong to the item, and their slots are among the
numbers given out. -/
theorem Recording.slot_of_copies {ns : List (Node CopySource)} {next : Slot} {item : ItemId}
    {copy : Copy} (hcopy : copy ∈ copies ns next item) :
    copy.item = item ∧ next ≤ copy.slot ∧ copy.slot < (Node.numberAll next ns).2 := by
  obtain ⟨i, hi, rfl⟩ := List.mem_mapIdx.mp hcopy
  rw [(Node.pictures_numberAll next ns).2]
  exact ⟨rfl, Nat.le_add_right next i, Nat.add_lt_add_left hi next⟩

end SessionReplay
