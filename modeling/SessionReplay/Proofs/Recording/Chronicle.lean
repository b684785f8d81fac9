import SessionReplay.Proofs.Output.Decisions
import SessionReplay.Proofs.Recording.Deeds

/-!
# The chronicle of a recording

A snapshot attempt makes an item, walks the windows while it asks for copies of their pictures, and
attaches the nodes at the end. All the while copies and encodings end, touches are reported and the
worker drains. A `Chronicle` is a recording seen at that grain: its steps are the single parts of an
attempt, the deeds of others and the moves of the worker, in any order. It keeps account of the
snapshots that are being made, of the copies that were asked for, and of what was written for which
item.

Every run of a recording is seen this way (`reaches_recording`), so what holds of chronicles after
any run holds of recordings.
-/

namespace SessionReplay

namespace Station

/-- One thing that the worker does besides processing an item. The first and the third argument are
the time that the drain which is going on goes by, before and after. -/
inductive Move : Option Int → Station Output → Option Int → Station Output → Prop
  /-- It begins to serve. -/
  | wake (s : Station Output) (starting : s.worker = .starting) :
    Move none s none ({ s with worker := .serving }.note .workerStarted)
  /-- It begins a drain that was requested. -/
  | drain (s : Station Output) (rest : List Command) (serving : s.worker = .serving)
      (mail : s.mailbox = .drain :: rest) :
    Move none s (some s.clock) (readClock { s with mailbox := rest, drainRequested := false })
  /-- It begins a drain that somebody waits for. -/
  | flush (s : Station Output) (ticket : Nat) (rest : List Command) (serving : s.worker = .serving)
      (mail : s.mailbox = .flush ticket :: rest) :
    Move none s (some s.clock) (readClock { s with mailbox := rest })
  /-- It drops an item that is too old. -/
  | stale (now : Int) (s : Station Output) (id : ItemId) (item : Item)
      (head : s.queue.head? = some (id, item))
      (verdict : item.verdict now s.queue.maxItemDelay = .stale) :
    Move (some now) s (some now) (s.takeHead.note (.staleItem item.data.timestamp now))
  /-- It drops an item that holds nothing. -/
  | invalid (now : Int) (s : Station Output) (id : ItemId) (item : Item)
      (head : s.queue.head? = some (id, item))
      (verdict : item.verdict now s.queue.maxItemDelay = .invalid) :
    Move (some now) s (some now) (s.takeHead.note .invalidItem)
  /-- It ends a drain. -/
  | finish (now : Int) (s : Station Output) (ends : ∀ id item, s.queue.head? = some (id, item) →
      item.verdict now s.queue.maxItemDelay = .blocked) :
    Move (some now) s none s
  /-- It answers a flush. -/
  | reply (s : Station Output) (ticket : Nat) (answer : Except CommandError Outcome) :
    Move none s none (s.reply ticket answer)
  /-- It stops. -/
  | stop (s : Station Output) (rest : List Command) (serving : s.worker = .serving)
      (mail : s.mailbox = .shutdown :: rest) :
    Move none s none
      ((((({ s with mailbox := [], worker := .stopped } : Station Output).dropReplies
        rest).note .workerStopping).note .workerStopped))

/-- The moves of the worker leave alone the items, what was written, what is remembered and the
pictures. An item is taken out at most. -/
theorem Move.frame {busy busy' : Option Int} {s t : Station Output} (h : Move busy s busy' t) :
    t.output = s.output ∧ t.tracker = s.tracker ∧
      (t.queue = s.queue ∨ s.queue.waiting ≠ [] ∧ t.queue = s.queue.dropHead) := by
  cases h with
  | stale now _ id item head verdict =>
    rw [ne_eq, Queue.waiting_eq_cons_of_head? head]
    exact ⟨rfl, rfl, .inr ⟨List.cons_ne_nil _ _, rfl⟩⟩
  | invalid now _ id item head verdict =>
    rw [ne_eq, Queue.waiting_eq_cons_of_head? head]
    exact ⟨rfl, rfl, .inr ⟨List.cons_ne_nil _ _, rfl⟩⟩
  | stop _ rest serving mail =>
    obtain ⟨replies, hdrop⟩ := dropReplies_eq { s with mailbox := [], worker := .stopped } rest
    rw [hdrop]
    exact ⟨rfl, rfl, .inl rfl⟩
  | _ => exact ⟨rfl, rfl, .inl rfl⟩

end Station

/-! ## Items that are accepted -/

/-- Between the two queues some items were accepted, and none was taken out. -/
def Queue.Grown (q q' : Queue) : Prop :=
  ∃ ds, q'.data = q.data ++ ds ∧ q'.waiting.length = q.waiting.length + ds.length

namespace Queue.Grown

variable {q q' q'' : Queue}

/-- A queue has grown into itself, by no items. -/
theorem refl (q : Queue) : q.Grown q := ⟨[], (List.append_nil _).symm, rfl⟩

/-- Queues grow one after the other. -/
theorem trans (h : q.Grown q') (h' : q'.Grown q'') : q.Grown q'' := by
  obtain ⟨ds, hdata, hwaiting⟩ := h
  obtain ⟨ds', hdata', hwaiting'⟩ := h'
  refine ⟨ds ++ ds', by rw [hdata', hdata, List.append_assoc], ?_⟩
  rw [hwaiting', hwaiting, List.length_append, Nat.add_assoc]

/-- A call of a station accepts items at most. -/
theorem call {σ : Type} (s : Station σ) (c : Station.Call σ) : s.queue.Grown (s.call c).queue := by
  cases c with
  | add content =>
    change s.queue.Grown (s.addItem content).2.queue
    rcases s.addItem_cases content with ⟨view, -, hadd⟩ | ⟨-, event, hadd⟩ <;> rw [hadd]
    · exact ⟨_, Queue.data_add _ _, Queue.length_append _ _⟩
    · exact refl _
  | requestDrain => exact ⟨[], by simp [Station.call], by simp [Station.call]⟩
  | sendFlush =>
    rcases s.call_sendFlush_cases with ⟨-, hsend⟩ | ⟨-, hsend⟩ <;> rw [hsend] <;> exact refl _
  | startJob id =>
    have hdata := s.data_call_of_ne_add (c := .startJob id) fun _ => nofun
    exact ⟨[], by rw [hdata, List.append_nil], rfl⟩
  | finishJob id =>
    have hdata := s.data_call_of_ne_add (c := .finishJob id) fun _ => nofun
    refine ⟨[], by rw [hdata, List.append_nil], ?_⟩
    change (s.finishJob id).queue.waiting.length = _
    rcases s.finishJob_cases id with hfinish | ⟨-, hfinish⟩ <;> rw [hfinish]
    · rw [Station.queue_requestDrain]
      rfl
    · rfl
  | attachNodes id nodes =>
    have hdata := s.data_call_of_ne_add (c := .attachNodes id nodes) fun _ => nofun
    exact ⟨[], by rw [hdata, List.append_nil], rfl⟩
  | _ => exact refl _

/-- Calls of a station accept items at most. -/
theorem byCalls {σ : Type} {s t : Station σ} (h : s.ByCalls t) : s.queue.Grown t.queue :=
  h.induction (P := fun t => s.queue.Grown t.queue) (fun c t ht => ht.trans (call t c)) (refl _)

end Queue.Grown

namespace Station

/-- Between the two stations items were accepted at most. -/
structure Quiet (s t : Station Output) : Prop where
  /-- No item was taken out. -/
  queue : s.queue.Grown t.queue
  /-- Nothing was written. -/
  written : t.output.storage.written = s.output.storage.written
  /-- The same is remembered. -/
  history : t.output.history = s.output.history

namespace Quiet

variable {s t u : Station Output}

/-- It is quiet while nothing happens. -/
theorem refl (s : Station Output) : Quiet s s := ⟨.refl _, rfl, rfl⟩

/-- It is quiet all the time if it is quiet before and afterwards. -/
theorem trans (h : Quiet s t) (h' : Quiet t u) : Quiet s u :=
  ⟨h.queue.trans h'.queue, h'.written.trans h.written, h'.history.trans h.history⟩

/-- A call that leaves alone what the worker writes to is quiet. -/
theorem call (c : Call Output) (h : (s.call c).output = s.output) : Quiet s (s.call c) :=
  ⟨.call s c, by rw [h], by rw [h]⟩

/-- Acts are quiet. -/
theorem act (s : Station Output) (a : Act) : Quiet s (s.act a) := by
  have hqueue : s.queue.Grown (s.act a).queue := by
    cases a with
    | addSnapshot screen => exact .call s (.add (.snapshot { screen := screen }))
    | startJob id => exact .call s (.startJob id)
    | finishJob id => exact .call s (.finishJob id)
    | attachNodes id nodes =>
      exact (Queue.Grown.call s (.attachNodes id nodes)).trans (.call _ .requestDrain)
    | recordTouches records => exact .byCalls (s.recordTouches_byCalls records)
    | startWorker =>
      unfold Station.act startWorker
      dsimp only
      split <;> exact .refl _
    | sendFlush => exact .call s .sendFlush
    | sendShutdown =>
      unfold Station.act sendShutdown send
      dsimp only
      cases s.worker.takesCommands <;> exact .refl _
    | _ => exact .refl _
  rcases s.output_act_cases a with h | ⟨gallery, -, h⟩ | ⟨script, -, h⟩ <;>
    exact ⟨hqueue, by rw [h], by rw [h]⟩

/-- Acts are quiet. -/
theorem acts {ok : Act → Prop} (h : Acts ok s t) : Quiet s t :=
  acts_induction (P := Quiet s) (fun a t _ ht => ht.trans (act t a)) (refl s) h

end Quiet

end Station

/-- A snapshot that is being made. -/
structure Walk where
  /-- Its item. -/
  item : ItemId
  /-- The nodes that will be attached. -/
  nodes : List (Node Slot)
  /-- The copies that are still to be asked for. -/
  copies : List Copy

/-- An item that the worker was handed. -/
structure Delivery where
  /-- The id of the item. -/
  id : ItemId
  /-- The item as it was then. -/
  item : Item
  /-- What was written for it. -/
  kept : List Written

/-- A recording with what has happened to it. -/
structure Chronicle where
  /-- The recording. -/
  recording : Recording
  /-- The snapshots that are being made. -/
  walks : List Walk := []
  /-- The copies that were asked for. -/
  requested : List Copy := []
  /-- The copies that are done, while their items do not know yet. -/
  releasing : List Copy := []
  /-- The copies that are done, and whose items know it. -/
  finished : List Copy := []
  /-- The copies whose encoding broke off. -/
  broken : List Copy := []
  /-- The item that each slot of the gallery was handed out for. -/
  makers : List ItemId := []
  /-- The items that the worker was handed. -/
  deliveries : List Delivery := []
  /-- The time that the drain which is going on goes by. -/
  draining : Option Int := none

namespace Chronicle

open Station

/-- The station of the recording. -/
def station (c : Chronicle) : Station Output := c.recording.station

/-- The chronicle with another station. -/
def withStation (c : Chronicle) (s : Station Output) : Chronicle :=
  { c with recording := { c.recording with station := s } }

/-- The chronicle after a deed. -/
def doing (c : Chronicle) (d : Deed) : Chronicle :=
  { c with recording := c.recording.perform d }

/-- The chronicle once an item was accepted for a snapshot of some sketches. -/
def beginning (c : Chronicle) (id : ItemId) (sketches : List (Node CopySource))
    (s : Station Output) : Chronicle :=
  let next := s.output.gallery.next
  let numbered := Node.numberAll next sketches
  { c with
    recording := { c.recording with station := s }.mapGallery (·.extend (numbered.2 - next))
    walks := c.walks ++ [⟨id, numbered.1, Recording.copies sketches next id⟩]
    makers := c.makers ++ List.replicate (numbered.2 - next) id }

/-- The chronicle once a copy has ended: it failed, or its pixels are to be encoded. -/
def ending (c : Chronicle) (copy : Copy) : CopyResult → Chronicle
  | .failed code =>
    { c with
      recording := c.recording.note (.copyFailed copy.source.view code)
      releasing := c.releasing ++ [copy] }
  | .copied bitmap =>
    { c with
      recording := { c.recording with encoding := c.recording.encoding ++ [(copy, bitmap)] } }

/-- The chronicle with other copies that have not ended. -/
def withHeld (c : Chronicle) (held : List Copy) : Chronicle :=
  { c with recording := { c.recording with held := held } }

/-- The chronicle once an item knows that another copy will be asked for. -/
def starting (c : Chronicle) (copy : Copy) (walks : List Walk) : Chronicle :=
  { c with
    recording := c.recording.mapStation (·.startJob copy.item)
    walks := walks
    requested := c.requested ++ [copy] }

/-- The chronicle once another copy was asked for, which may end at once. -/
def asking (c : Chronicle) (copy : Copy) (walks : List Walk) : Chronicle :=
  match c.recording.answers.lookup copy.source.view with
  | some result => (c.starting copy walks).ending copy result
  | none => (c.starting copy walks).withHeld (c.recording.held ++ [copy])

/-- The chronicle once a copy has ended that had been asked for. -/
def answering (c : Chronicle) (index : Nat) (copy : Copy) (result : CopyResult) : Chronicle :=
  (c.withHeld (c.recording.held.eraseIdx index)).ending copy result

/-- The chronicle once pixels were encoded, and the picture was put into its slot if there is one. -/
def encoding (c : Chronicle) (index : Nat) (copy : Copy) (bitmap : Bitmap) : Chronicle :=
  let r := { c.recording with encoding := c.recording.encoding.eraseIdx index }
  match bitmap.encode r.settings.imageByteLimit with
  | .encoded picture =>
    { c with
      recording := r.mapGallery fun g => (g.fill copy.slot picture).1
      releasing := c.releasing ++ [copy] }
  | .refused error =>
    { c with
      recording := r.note (.pictureRefused error copy.source.view)
      releasing := c.releasing ++ [copy] }
  | .broken => { c with recording := r, broken := c.broken ++ [copy] }

/-- The chronicle once an item knows that a copy is done. -/
def freeing (c : Chronicle) (copy : Copy) (releasing : List Copy) : Chronicle :=
  { c with
    recording := c.recording.mapStation (·.finishJob copy.item)
    releasing := releasing
    finished := c.finished ++ [copy] }

/-- The chronicle once nodes were attached. -/
def attaching (c : Chronicle) (walk : Walk) (walks : List Walk) : Chronicle :=
  { c.withStation (c.station.attachNodes walk.item walk.nodes).2 with walks := walks }

/-- The chronicle once an item was processed. -/
def delivering (c : Chronicle) (id : ItemId) (item : Item) : Chronicle :=
  let s := c.station.takeHead.afterHandling engine item
  let kept := s.output.storage.written.toList.drop c.station.output.storage.written.size
  { c.withStation s with deliveries := c.deliveries ++ [⟨id, item, kept⟩] }

/-- A deed is one step. Snapshot attempts are not, and neither is the end of a copy or of an
encoding. -/
def Single (d : Deed) : Prop := (∀ w, d ≠ .snapshot w) ∧ ∀ completion, d ≠ .complete completion

/-- One thing that happens to a recording. -/
inductive Step : Chronicle → Chronicle → Prop
  /-- Somebody does something that is one step. -/
  | deed (c : Chronicle) (d : Deed) (single : Single d) : Step c (c.doing d)
  /-- No item is accepted for a snapshot. -/
  | refuse (c : Chronicle) (screen : ScreenInfo) (s : Station Output)
      (refused : c.station.addSnapshot screen = (none, s)) : Step c (c.withStation s)
  /-- An item is accepted for a snapshot. -/
  | accept (c : Chronicle) (screen : ScreenInfo) (sketches : List (Node CopySource)) (id : ItemId)
      (s : Station Output) (accepted : c.station.addSnapshot screen = (some id, s)) :
    Step c (c.beginning id sketches s)
  /-- Another copy for a snapshot is asked for. -/
  | ask (c : Chronicle) (before after : List Walk) (walk : Walk) (copy : Copy) (rest : List Copy)
      (walks : c.walks = before ++ walk :: after) (copies : walk.copies = copy :: rest) :
    Step c (c.asking copy (before ++ { walk with copies := rest } :: after))
  /-- A copy ends that was asked for. -/
  | answer (c : Chronicle) (index : Nat) (copy : Copy) (result : CopyResult)
      (held : c.recording.held[index]? = some copy) : Step c (c.answering index copy result)
  /-- Copied pixels are encoded. -/
  | encode (c : Chronicle) (index : Nat) (copy : Copy) (bitmap : Bitmap)
      (copied : c.recording.encoding[index]? = some (copy, bitmap)) :
    Step c (c.encoding index copy bitmap)
  /-- An item gets to know that one of its copies is done. -/
  | release (c : Chronicle) (before after : List Copy) (copy : Copy)
      (releasing : c.releasing = before ++ copy :: after) : Step c (c.freeing copy (before ++ after))
  /-- All copies for a snapshot were asked for, and its nodes are attached. -/
  | attach (c : Chronicle) (before after : List Walk) (walk : Walk)
      (walks : c.walks = before ++ walk :: after) (copies : walk.copies = []) :
    Step c (c.attaching walk (before ++ after))
  /-- A drain is requested. -/
  | request (c : Chronicle) : Step c (c.withStation c.station.requestDrain)
  /-- The worker makes a move. -/
  | move (c : Chronicle) (busy : Option Int) (s : Station Output)
      (moves : Move c.draining c.station busy s) :
    Step c { c.withStation s with draining := busy }
  /-- The worker is handed an item. -/
  | deliver (c : Chronicle) (now : Int) (id : ItemId) (item : Item) (busy : c.draining = some now)
      (head : c.station.queue.head? = some (id, item))
      (ready : item.verdict now c.station.queue.maxItemDelay = .ready) :
    Step c (c.delivering id item)

/-- What can have become of a recording after some steps. -/
abbrev Reaches : Chronicle → Chronicle → Prop := Relation.ReflTransGen Step

/-- A recording that nothing has happened to. -/
def start (settings : Settings) : Chronicle where
  recording := .new settings

/-! ## Every run is seen -/

/-- A recording is seen to become another one, while the worker does not move, the snapshots that are
being made become the given ones, and no item is kept from knowing that its copies are done. -/
def Sees (c : Chronicle) (r : Recording) (walks : List Walk) : Prop :=
  ∃ k, Reaches c k ∧ k.recording = r ∧ k.walks = walks ∧ k.draining = c.draining ∧
    k.releasing = c.releasing

variable {c : Chronicle}

/-- What is there is seen. -/
theorem Sees.refl (c : Chronicle) : c.Sees c.recording c.walks := ⟨c, .refl, rfl, rfl, rfl, rfl⟩

/-- What is seen next is seen. -/
theorem Sees.trans {r t : Recording} {walks walks' : List Walk} (h : c.Sees r walks)
    (hnext : ∀ k : Chronicle, k.recording = r → k.walks = walks → k.Sees t walks') :
    c.Sees t walks' := by
  obtain ⟨k, hrun, hrecording, hwalks, hdraining, hreleasing⟩ := h
  obtain ⟨l, hrun', hrecording', hwalks', hdraining', hreleasing'⟩ := hnext k hrecording hwalks
  exact ⟨l, hrun.trans hrun', hrecording', hwalks', hdraining'.trans hdraining,
    hreleasing'.trans hreleasing⟩

/-- Deeds that are one step are seen. -/
theorem sees_deed (c : Chronicle) {d : Deed} (single : Single d) :
    c.Sees (c.recording.perform d) c.walks :=
  ⟨_, .single (.deed c d single), rfl, rfl, rfl, rfl⟩

/-- An item is seen to know that a copy is done. -/
theorem sees_freeing {k : Chronicle} {copy : Copy} (hstep : Step c k)
    (hdraining : k.draining = c.draining) (hreleasing : k.releasing = c.releasing ++ [copy]) :
    c.Sees (k.recording.mapStation (·.finishJob copy.item)) k.walks :=
  ⟨_, (Relation.ReflTransGen.single hstep).tail (.release k c.releasing [] copy hreleasing), rfl, rfl,
    hdraining, List.append_nil _⟩

/-- A copy is seen to end, and its item to know it. -/
theorem sees_ending {k : Chronicle} {copy : Copy} {result : CopyResult}
    (hstep : Step c (k.ending copy result)) (hdraining : k.draining = c.draining)
    (hreleasing : k.releasing = c.releasing) : c.Sees (k.recording.endCopy copy result) k.walks := by
  cases result with
  | failed code => exact sees_freeing hstep hdraining (congrArg (· ++ [copy]) hreleasing)
  | copied bitmap => exact ⟨_, .single hstep, rfl, rfl, hdraining, hreleasing⟩

/-- Whatever ends on its own, it is seen. -/
theorem sees_completion (c : Chronicle) (completion : Completion) :
    c.Sees (c.recording.complete completion) c.walks := by
  cases completion with
  | copy index result =>
    unfold Recording.complete Recording.answerCopy
    dsimp only
    split
    next => exact .refl c
    next copy hheld => exact sees_ending (.answer c index copy result hheld) rfl rfl
  | encoding index =>
    unfold Recording.complete Recording.encodeAt
    dsimp only
    split
    next => exact .refl c
    next copy bitmap hcopied =>
      have hencode := Step.encode c index copy bitmap hcopied
      unfold Chronicle.encoding at hencode
      unfold Recording.encode
      dsimp only at hencode ⊢
      cases hresult : bitmap.encode c.recording.settings.imageByteLimit with
      | encoded picture =>
        rw [hresult] at hencode
        exact sees_freeing hencode rfl rfl
      | refused error =>
        rw [hresult] at hencode
        exact sees_freeing hencode rfl rfl
      | broken =>
        rw [hresult] at hencode
        exact ⟨_, .single hencode, rfl, rfl, rfl, rfl⟩

/-- So are several things that end on their own. -/
theorem sees_completions (completions : List Completion) (c : Chronicle) :
    c.Sees (completions.foldl Recording.complete c.recording) c.walks := by
  induction completions generalizing c with
  | nil => exact .refl c
  | cons completion completions ih =>
    refine (c.sees_completion completion).trans fun k hrecording hwalks => ?_
    have hrest := ih k
    rw [hrecording, hwalks] at hrest
    exact hrest

/-- A copy is seen to be asked for, also if it ends at once. -/
theorem sees_request {walk : Walk} {copy : Copy} {copies : List Copy} (c : Chronicle)
    (hwalks : c.walks = [{ walk with copies := copy :: copies }]) :
    c.Sees (c.recording.requestCopy copy) [{ walk with copies := copies }] := by
  let walks : List Walk := [{ walk with copies := copies }]
  have hask : Step c (c.asking copy walks) :=
    .ask c [] [] { walk with copies := copy :: copies } copy copies hwalks rfl
  have hanswers : (c.recording.mapStation (·.startJob copy.item)).answers = c.recording.answers := rfl
  unfold asking at hask
  unfold Recording.requestCopy Recording.ask
  rw [hanswers]
  cases hlookup : c.recording.answers.lookup copy.source.view with
  | some result =>
    rw [hlookup] at hask
    exact sees_ending (k := c.starting copy walks) hask rfl rfl
  | none =>
    rw [hlookup] at hask
    exact ⟨_, .single hask, rfl, rfl, rfl, rfl⟩

/-- The copies for a snapshot are seen to be asked for, while other things end on their own. What ends is
taken off the list by the application. -/
theorem sees_requests {walk : Walk} (copies : List Copy) (c : Chronicle)
    (hwalks : c.walks = [{ walk with copies := copies }]) :
    c.Sees (copies.foldl Recording.requestNext c.recording) [{ walk with copies := [] }] := by
  induction copies generalizing c with
  | nil => exact hwalks ▸ .refl c
  | cons copy copies ih =>
    have hask := c.sees_request hwalks
    have hnext : c.Sees (c.recording.requestNext copy) [{ walk with copies := copies }] := by
      unfold Recording.requestNext Recording.capture
      dsimp only
      split
      · exact hask
      next ended later _ =>
        refine hask.trans fun k hrecording hk => ?_
        have hsurround := k.sees_deed
          (d := .surround { c.recording.requestCopy copy with interludes := later }) ⟨nofun, nofun⟩
        refine hsurround.trans fun l hrecording' hl => ?_
        have hended := l.sees_completions ended
        rw [hrecording', hl, hk] at hended
        unfold Recording.perform at hended
        rw [hrecording] at hended
        exact hended
    refine hnext.trans fun k hrecording hk => ?_
    have hrest := ih k hk
    rw [hrecording] at hrest
    exact hrest

/-- A snapshot attempt is seen. -/
theorem sees_takeSnapshot (w : WatcherRef) (c : Chronicle) (hnone : c.walks = []) :
    c.Sees (c.recording.takeSnapshot w) [] := by
  have hrefl : c.Sees c.recording [] := hnone ▸ .refl c
  unfold Recording.takeSnapshot
  split
  next => exact hrefl
  next watcher _ =>
    split
    next => exact hnone ▸ c.sees_deed (d := .note .ownerGone) ⟨nofun, nofun⟩
    next owner _ =>
      dsimp only
      split
      · exact hrefl
      · let asked : Recording := { c.recording with
          owners := c.recording.owners.setIfInBounds watcher.owner
            (some { owner with asked := owner.asked + 1 }) }
        have hasked : c.Sees asked [] := hnone ▸ c.sees_deed (d := .surround asked) ⟨nofun, nofun⟩
        refine hasked.trans fun k hrecording hk => ?_
        have hstation : k.station = c.recording.station := by
          unfold station
          rw [hrecording]
        split
        next s hrefused =>
          rw [← hstation] at hrefused
          refine ⟨_, .single (.refuse k owner.screen s hrefused), ?_, hk, rfl, rfl⟩
          unfold withStation
          rw [hrecording]
        next id s haccepted =>
          rw [← hstation] at haccepted
          let windows := watcher.windows.filterMap c.recording.window?
          let sketches := View.walkAll c.recording.mappers owner.screen
            (windows.filterMap Window.view)
          let numbered := Node.numberAll s.output.gallery.next sketches
          let walk : Walk := ⟨id, numbered.1, []⟩
          have hbegin : k.Sees ({ asked with station := s }.mapGallery
              (·.extend (numbered.2 - s.output.gallery.next)))
              [{ walk with copies := Recording.copies sketches s.output.gallery.next id }] := by
            refine ⟨_, .single (.accept k owner.screen sketches id s haccepted), ?_, ?_, rfl, rfl⟩
            · unfold beginning
              rw [hrecording]
            · unfold beginning
              rw [hk]
              rfl
          refine hbegin.trans fun l hrecording' hl => ?_
          refine (sees_requests _ l hl).trans fun m hrecording'' hm => ?_
          have hattach : Reaches m (m.attaching walk []) := .single (.attach m [] [] walk hm rfl)
          refine ⟨_, hattach.tail (.request _), ?_, rfl, rfl, rfl⟩
          rw [Recording.fillSnapshot_eq]
          unfold attaching withStation station
          rw [hrecording'', hrecording']
          rfl

/-- A turn of the worker is seen. -/
theorem reaches_turn {now : Int} {s : Station Output} (busy : c.draining = some now)
    (hturn : Turn engine now c.station s) :
    ∃ k, Reaches c k ∧ k.recording = { c.recording with station := s } ∧ k.walks = c.walks ∧
      k.draining = some now ∧ k.releasing = c.releasing := by
  cases hturn with
  | stale id item head verdict =>
    exact ⟨_, .single (.move c _ _ (busy ▸ .stale now _ id item head verdict)), rfl, rfl, rfl, rfl⟩
  | invalid id item head verdict =>
    exact ⟨_, .single (.move c _ _ (busy ▸ .invalid now _ id item head verdict)), rfl, rfl, rfl, rfl⟩
  | ready id item head verdict =>
    exact ⟨_, .single (.deliver c now id item busy head verdict), rfl, rfl, busy, rfl⟩

/-- Turns of the worker are seen. -/
theorem reaches_turns {now : Int} {s : Station Output} (busy : c.draining = some now)
    (hturns : Turns engine now c.station s) :
    ∃ k, Reaches c k ∧ k.recording = { c.recording with station := s } ∧ k.walks = c.walks ∧
      k.draining = some now ∧ k.releasing = c.releasing := by
  induction hturns with
  | refl => exact ⟨c, .refl, rfl, rfl, busy, rfl⟩
  | @tail s t _ hlast ih =>
    obtain ⟨k, hrun, hrecording, hwalks, hbusy, hreleasing⟩ := ih
    have hstation : k.station = s := congrArg Recording.station hrecording
    obtain ⟨l, hrun', hrecording', hwalks', hbusy', hreleasing'⟩ :=
      reaches_turn hbusy (hstation ▸ hlast)
    rw [hrecording] at hrecording'
    exact ⟨l, hrun.trans hrun', hrecording', hwalks'.trans hwalks, hbusy',
      hreleasing'.trans hreleasing⟩

/-- A drain is seen, from its first look at the clock to its end. The note of what was done comes when the
drain is over, and is as good as anybody's. -/
theorem sees_drain (idle : c.draining = none) {s : Station Output}
    (hbegins : Move none c.station (some s.clock) s.readClock) :
    c.Sees { c.recording with station := (s.drain engine).1 } c.walks := by
  let begun : Chronicle := { c.withStation s.readClock with draining := some s.clock }
  have hbegun : Reaches c begun := .single (.move c _ _ (idle ▸ hbegins))
  obtain ⟨k, hrun, hrecording, hwalks, hbusy, hreleasing⟩ :=
    reaches_turns (c := begun) rfl (drain_turns engine s)
  have hstation : k.station = s.drained engine := congrArg Recording.station hrecording
  have hfinish : Step k { k.withStation k.station with draining := none } := by
    refine .move k none k.station ?_
    rw [hbusy]
    refine .finish s.clock _ fun id item head => ?_
    rw [hstation] at head ⊢
    exact drained_ends engine_honest s head
  have hdrained : c.Sees { c.recording with station := s.drained engine } c.walks := by
    refine ⟨_, (hbegun.trans hrun).tail hfinish, ?_, hwalks, idle.symm, hreleasing⟩
    unfold withStation
    rw [hstation, hrecording]
    rfl
  rcases drain_eq engine s with heq | ⟨event, heq⟩ <;> rw [heq]
  · exact hdrained
  · refine hdrained.trans fun l hl hwalks => ?_
    have hnote := l.sees_deed (d := .note event) ⟨nofun, nofun⟩
    rw [hl, hwalks] at hnote
    exact hnote

/-- A step of the worker is seen. -/
theorem sees_work (idle : c.draining = none) {s : Station Output}
    (hstep : c.station.step? engine = some s) :
    c.Sees { c.recording with station := s } c.walks := by
  have hmove : ∀ t, Move none c.station none t →
      c.Sees { c.recording with station := t } c.walks :=
    fun t hmove => ⟨_, .single (.move c _ t (idle ▸ hmove)), rfl, rfl, idle.symm, rfl⟩
  rcases step?_cases hstep with ⟨hstarting, rfl⟩ | ⟨rest, hserving, hmail, rfl⟩ |
    ⟨ticket, rest, answer, hserving, hmail, rfl⟩ | ⟨rest, hserving, hmail, rfl⟩
  · exact hmove _ (.wake _ hstarting)
  · exact sees_drain idle (.drain c.station rest hserving hmail)
  · obtain ⟨k, hrun, hrecording, hwalks, hdraining, hreleasing⟩ :=
      sees_drain (s := { c.station with mailbox := rest }) idle
        (.flush c.station ticket rest hserving hmail)
    have hstep : Step k { k.withStation (k.station.reply ticket answer) with draining := none } :=
      .move k none _ (hdraining ▸ idle ▸ .reply _ ticket answer)
    refine ⟨_, hrun.tail hstep, ?_, hwalks, idle.symm, hreleasing⟩
    unfold withStation station
    rw [hrecording]
    rfl
  · exact hmove _ (.stop _ rest hserving hmail)

/-- **Every run of a recording is seen**, from wherever it begins. -/
theorem reaches_recording {ok : Deed → Prop} {first r : Recording}
    (hrun : Recording.Reaches ok first r) :
    ∃ c, Reaches { recording := first } c ∧ c.recording = r := by
  have hseen : Sees { recording := first } r [] := by
    induction hrun with
    | refl => exact .refl _
    | tail _ hlast ih =>
      obtain ⟨c, hrun, rfl, hwalks, hdraining, hreleasing⟩ := ih
      have hnext : ∀ {t : Recording}, c.Sees t [] → Sees { recording := first } t [] := by
        rintro t ⟨k, hrun', hrecording, hwalks', hdraining', hreleasing'⟩
        exact ⟨k, hrun.trans hrun', hrecording, hwalks', hdraining'.trans hdraining,
          hreleasing'.trans hreleasing⟩
      cases hlast with
      | deed d allowed =>
        cases d with
        | snapshot w => exact hnext (c.sees_takeSnapshot w hwalks)
        | complete completion => exact hnext (hwalks ▸ c.sees_completion completion)
        | _ => exact hnext (hwalks ▸ c.sees_deed ⟨nofun, nofun⟩)
      | work s works => exact hnext (hwalks ▸ sees_work hdraining works)
  obtain ⟨c, hrun, hrecording, -⟩ := hseen
  exact ⟨c, hrun, hrecording⟩

/-! ## What a step does to the station -/

/-- What a deed does to the station is acts. -/
theorem deed_acts (c : Chronicle) (d : Deed) :
    Acts (fun _ => True) c.station (c.recording.perform d).station :=
  Recording.perform_acts (fun _ _ => trivial) c.recording d (fun _ _ => trivial) fun _ => trivial

/-- What the end of a copy does to the station is acts. -/
theorem ending_acts (c : Chronicle) (copy : Copy) (result : CopyResult) :
    Acts Act.Copying c.station (c.ending copy result).station := by
  cases result with
  | failed code => exact acts_single (a := .note (.copyFailed copy.source.view code)) trivial _
  | copied bitmap => exact .refl

/-- What asking for a copy does to the station is acts. -/
theorem asking_acts (c : Chronicle) (copy : Copy) (walks : List Walk) :
    Acts Act.Copying c.station (c.asking copy walks).station := by
  have hstart : Acts Act.Copying c.station (c.starting copy walks).station :=
    acts_single (a := .startJob copy.item) trivial c.station
  unfold asking
  split
  · exact hstart.trans (ending_acts _ copy _)
  · exact hstart

/-- What the answer to a copy does to the station is acts. -/
theorem answering_acts (c : Chronicle) (index : Nat) (copy : Copy) (result : CopyResult) :
    Acts Act.Copying c.station (c.answering index copy result).station :=
  ending_acts (c.withHeld (c.recording.held.eraseIdx index)) copy result

/-- What encoding pixels does to the station is acts. -/
theorem encoding_acts (c : Chronicle) (index : Nat) (copy : Copy) (bitmap : Bitmap) :
    Acts Act.Copying c.station (c.encoding index copy bitmap).station := by
  unfold Chronicle.encoding
  dsimp only
  split
  next picture _ =>
    exact acts_single (a := .hang (c.recording.gallery.fill copy.slot picture).1) trivial c.station
  next error _ =>
    exact acts_single (a := .note (.pictureRefused error copy.source.view)) trivial c.station
  next => exact .refl

/-- **Everything that a step does to the station.** Items are accepted at most, or one is dropped, or
the worker is handed one. -/
theorem Step.effect {k : Chronicle} (h : Step c k) :
    (k.deliveries = c.deliveries ∧ Quiet c.station k.station) ∨
    (k.deliveries = c.deliveries ∧ c.station.queue.waiting ≠ [] ∧
      k.station.queue = c.station.queue.dropHead ∧ k.station.output = c.station.output) ∨
    (∃ now id item, c.station.queue.head? = some (id, item) ∧
      item.verdict now c.station.queue.maxItemDelay = .ready ∧ k = c.delivering id item) := by
  have hadd : ∀ {screen : ScreenInfo} {id : Option ItemId} {s : Station Output},
      c.station.addSnapshot screen = (id, s) → Quiet c.station s := by
    intro screen id s hadd
    have hquiet := Quiet.act c.station (.addSnapshot screen)
    rw [show c.station.act (.addSnapshot screen) = s from congrArg Prod.snd hadd] at hquiet
    exact hquiet
  cases h with
  | deed d single => exact .inl ⟨rfl, .acts (c.deed_acts d)⟩
  | refuse screen s refused => exact .inl ⟨rfl, hadd refused⟩
  | accept screen sketches id s accepted =>
    have hquiet : Quiet c.station (c.beginning id sketches s).station :=
      ⟨(hadd accepted).queue, (hadd accepted).written, (hadd accepted).history⟩
    exact .inl ⟨rfl, hquiet⟩
  | ask before after walk copy rest walks copies =>
    refine .inl ⟨?_, .acts (c.asking_acts copy _)⟩
    unfold asking
    split
    next result _ => cases result <;> rfl
    next => rfl
  | answer index copy result held =>
    refine .inl ⟨?_, .acts (c.answering_acts index copy result)⟩
    cases result <;> rfl
  | encode index copy bitmap copied =>
    refine .inl ⟨?_, .acts (c.encoding_acts index copy bitmap)⟩
    unfold Chronicle.encoding
    dsimp only
    split <;> rfl
  | release before after copy releasing => exact .inl ⟨rfl, .act c.station (.finishJob copy.item)⟩
  | attach before after walk walks copies =>
    exact .inl ⟨rfl, .call (.attachNodes walk.item walk.nodes) rfl⟩
  | request => exact .inl ⟨rfl, .call .requestDrain (output_requestDrain _)⟩
  | move busy s moves =>
    obtain ⟨houtput, -, hqueue | ⟨hwaiting, hqueue⟩⟩ := moves.frame
    · exact .inl ⟨rfl, hqueue ▸ .refl _, congrArg (·.storage.written) houtput,
        congrArg Output.history houtput⟩
    · exact .inr (.inl ⟨rfl, hwaiting, hqueue, houtput⟩)
  | deliver now id item busy head ready => exact .inr (.inr ⟨now, id, item, head, ready, rfl⟩)

/-- **What handing over an item does.** What is written for it comes after what was written before, and
further items are accepted at most. -/
theorem delivering_cases (c : Chronicle) (id : ItemId) (item : Item) :
    ∃ bs history, (c.delivering id item).deliveries
        = c.deliveries ++ [⟨id, item, bs.map c.station.output.gallery.written⟩] ∧
      Adds bs history c.station.output (c.delivering id item).station.output ∧ item.Writes bs ∧
      (history.wireframes = c.station.output.history.wireframes ∨
        history.wireframes = item.wireframes) ∧
      c.station.queue.dropHead.Grown (c.delivering id item).station.queue := by
  obtain ⟨bs, history, hadds, hwrites, hhistory⟩ := process_writes c.station.takeHead item
  have houtput : (c.delivering id item).station.output
      = (process item c.station.takeHead).1.output :=
    output_afterHandling engine item c.station.takeHead
  refine ⟨bs, history, ?_, houtput ▸ hadds, hwrites, hhistory, ?_⟩
  · have hkept : (c.delivering id item).station.output.storage.written.toList.drop
        c.station.output.storage.written.size = bs.map c.station.output.gallery.written := by
      rw [houtput, hadds.written]
      exact List.drop_left' Array.length_toList
    exact congrArg (fun kept => c.deliveries ++ [⟨id, item, kept⟩]) hkept
  · have hhandled := Queue.Grown.byCalls (process_byCalls item c.station.takeHead)
    change c.station.queue.dropHead.Grown (c.station.takeHead.afterHandling engine item).queue
    unfold afterHandling
    split <;> exact hhandled

/-- The items form a chain of views after every step. -/
theorem Step.chained {k : Chronicle} {capacity : Nat} (h : Step c k)
    (hc : c.station.Chained capacity) : k.station.Chained capacity := by
  have hacts : ∀ {ok : Act → Prop} {s : Station Output}, Acts ok c.station s → s.Chained capacity :=
    fun hacts => acts_induction (fun a _ _ hs => hs.act a) hc hacts
  cases h with
  | deed d single => exact hacts (c.deed_acts d)
  | refuse screen s refused =>
    have hadd := hc.call (.add (.snapshot { screen := screen }))
    rw [show c.station.call (.add (.snapshot { screen := screen })) = s from
      congrArg Prod.snd refused] at hadd
    exact hadd
  | accept screen sketches id s accepted =>
    have hadd := hc.call (.add (.snapshot { screen := screen }))
    rw [show c.station.call (.add (.snapshot { screen := screen })) = s from
      congrArg Prod.snd accepted] at hadd
    exact hadd.congr rfl rfl rfl rfl
  | ask before after walk copy rest walks copies => exact hacts (c.asking_acts copy _)
  | answer index copy result held => exact hacts (c.answering_acts index copy result)
  | encode index copy bitmap copied => exact hacts (c.encoding_acts index copy bitmap)
  | release before after copy releasing => exact hc.call (.finishJob copy.item)
  | attach before after walk walks copies => exact hc.call (.attachNodes walk.item walk.nodes)
  | request => exact hc.requestDrain
  | move busy s moves =>
    obtain ⟨-, htracker, hqueue | ⟨-, hqueue⟩⟩ := moves.frame
    · exact hc.of_queue hqueue htracker
    · exact hc.takeHead.of_queue hqueue htracker
  | deliver now id item busy head ready =>
    exact hc.turn engine_orderly (.ready c.station id item head ready)

/-- The items form a chain of views after any run. -/
theorem reaches_chained {settings : Settings} (hrun : Reaches (start settings) c) :
    c.station.Chained settings.maxQueueSize := by
  induction hrun with
  | refl => exact chained_fresh settings.maxItemDelay settings.maxQueueSize ({} : Output)
  | tail _ hstep ih => exact hstep.chained ih

end Chronicle

end SessionReplay
