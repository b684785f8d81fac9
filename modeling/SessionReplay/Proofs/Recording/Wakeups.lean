import SessionReplay.Proofs.Recording.Deeds
import SessionReplay.Proofs.Station.Wakeups

/-!
# No lost wake-ups in a recording

Snapshots are made, filled and completed in any order, and touches come in between, also while the
worker writes. Every deed consists of acts that leave the station awake (`Awake.act`), and so does
every step of the worker (`Awake.work`). So as long as nobody tells the worker to stop, it is called
whenever the head of the queue can be taken out (`no_lost_wakeup`).
-/

namespace SessionReplay

/-- Every act but telling the worker to stop leaves the station awake. -/
theorem Station.Awake.act {s : Station Output} (h : s.Awake) {a : Act} (ha : a ≠ .sendShutdown) :
    (s.act a).Awake := by
  cases a with
  | addSnapshot screen => exact h.addSnapshot screen
  | startJob id => exact h.startJob id
  | finishJob id => exact h.finishJob id
  | attachNodes id nodes =>
    have hmanned : (s.attachNodes id nodes).2.Manned := h.toManned.congr rfl rfl rfl
    exact hmanned.requestDrain
  | recordTouches records => exact h.recordTouches records
  | startWorker => exact h.startWorker
  | sendFlush => exact h.sendFlush
  | sendShutdown => exact absurd rfl ha
  | _ => exact h.congr rfl rfl rfl rfl

namespace Recording

/-- A recording is awake after any run in which nobody tells its worker to stop. -/
theorem reaches_awake {settings : Settings} {r : Recording}
    (hrun : Reaches (· ≠ .shutdown) (new settings) r) : r.station.Awake := by
  have hplain : ∀ a : Act, a.Plain → a ≠ .sendShutdown := by
    rintro _ hplain rfl
    exact hplain
  exact reaches_induction (· ≠ .sendShutdown) hplain (fun _ _ => nofun) (fun hne => absurd rfl hne)
    (fun _ _ ha hs => hs.act ha)
    (fun _ _ hstep hs => hs.work Station.engine_orderly Station.engine_honest hstep)
    (Station.awake_fresh settings.maxItemDelay settings.maxQueueSize ({} : Output)) hrun

/-- **No wake-up is lost.** After any run in which nobody tells the worker to stop, the first item
that waits, if there is one, is not one that is complete or holds nothing, unless a command that
drains is in the worker's mailbox. -/
theorem no_lost_wakeup {settings : Settings} {r : Recording}
    (hrun : Reaches (· ≠ .shutdown) (new settings) r) :
    ∀ id ∈ r.station.queue.waiting.head?, ∃ item, r.station.queue.item? id = some item ∧
      (item.isReady = true ∨ item.isValid = false →
        .drain ∈ r.station.mailbox ∨ ∃ ticket, .flush ticket ∈ r.station.mailbox) := by
  intro id hfirst
  obtain ⟨n, hn, hwaits⟩ := (reaches_chained hrun).waits
  have hid : id < r.station.queue.items.size := by
    have hmem : id ∈ r.station.queue.waiting := List.mem_of_mem_head? hfirst
    rw [hwaits, List.mem_range'_1, Nat.add_sub_cancel' hn] at hmem
    exact Nat.lt_of_lt_of_eq hmem.2 r.station.queue.nextId_eq.symm
  have hitem : r.station.queue.item? id = some r.station.queue.items[id] :=
    Array.getElem?_eq_getElem hid
  refine ⟨r.station.queue.items[id], hitem, fun hurgent => ?_⟩
  have hhead := Queue.head?_eq_some_iff.mpr ⟨hfirst, hitem⟩
  exact (reaches_awake hrun).summoned id _ hhead hurgent

/-- A snapshot attempt leaves a complete item, and the worker has been asked for a drain. -/
theorem no_lost_wakeup_snapshot :
    ∃ r : Recording, Reaches (· ≠ .shutdown) (new {}) r ∧ r.station.mailbox = [.drain] ∧
      (r.station.queue.item? 0).map Item.isReady = some true ∧
      ∃ item, r.station.queue.item? 0 = some item ∧
        (item.isReady = true ∨ item.isValid = false →
          .drain ∈ r.station.mailbox ∨ ∃ ticket, .flush ticket ∈ r.station.mailbox) := by
  have hrun : Reaches (· ≠ .shutdown) (new {}) _ :=
    (((Relation.ReflTransGen.single (.deed _ .startWorker nofun)).tail
      (.deed _ (.surround oneWindow) nofun)).tail
      (.deed _ (.activate (some ⟨"a", "s", "v"⟩)) nofun)).tail (.deed _ (.snapshot 0) nofun)
  exact ⟨_, hrun, rfl, rfl, no_lost_wakeup hrun 0 rfl⟩

end Recording

end SessionReplay
