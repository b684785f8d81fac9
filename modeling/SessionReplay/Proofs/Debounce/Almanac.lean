import Mathlib.Data.List.DropRight
import SessionReplay.Proofs.Debounce.Diary

/-!
# The almanac of a debouncer

An `Almanac` is a diary whose entries are dated. The requests since the last run or cancellation are
the `burst` that is going on. `Dated` says how the debouncer's state follows from them: it remembers
when the burst began, a request of the burst is live, and a timer of the live request ends when the
quiet time has passed after the burst's last request.

So there are two ways for a task to be run, and both take their time: the burst has lasted as long as
the debouncer is patient (`Dated.answer`), or the quiet time has passed since its last request
(`Dated.complete`). All that was run before had been run when the burst began, and so runs are never
closer together than the shorter of the two times (`runs_apart`).
-/

namespace SessionReplay

/-- Something that happened to a debouncer, with the time. -/
structure AlmanacEntry (τ : Type) where
  /-- What happened. -/
  event : DebounceEvent τ
  /-- When it happened. -/
  time : Nat

namespace AlmanacEntry

variable {τ : Type}

/-- A task was requested. -/
def isRequest (e : AlmanacEntry τ) : Bool := e.event.requested?.isSome

/-- The task that was run, with the time, if one was. -/
def run? (e : AlmanacEntry τ) : Option (τ × Nat) := e.event.ran?.map fun run => (run.2, e.time)

end AlmanacEntry

/-- A diary with the time of everything that happened. -/
structure Almanac (τ : Type) where
  /-- The diary. -/
  diary : Diary τ
  /-- What happened, in order. -/
  entries : List (AlmanacEntry τ) := []

namespace Almanac

variable {τ : Type}

/-- An almanac of a debouncer that nothing has happened to. -/
def start (quiet patience now : Nat) (mode : PostMode) : Almanac τ where
  diary := .start quiet patience now mode

/-- The run that the almanac is kept of. -/
def run (a : Almanac τ) : DebounceRun τ := a.diary.run

/-- The present time. -/
def now (a : Almanac τ) : Nat := a.run.agenda.now

/-- The almanac once more has happened, now. -/
def add (a : Almanac τ) (d : Diary τ) (events : List (DebounceEvent τ)) : Almanac τ where
  diary := d
  entries := a.entries ++ events.map (⟨·, a.now⟩)

/-- The requests. -/
def requests (a : Almanac τ) : List (AlmanacEntry τ) := a.entries.filter AlmanacEntry.isRequest

/-- The tasks that were run, with their times. -/
def runs (a : Almanac τ) : List (τ × Nat) := a.entries.filterMap AlmanacEntry.run?

/-- The requests since the last run or cancellation. -/
def burst (a : Almanac τ) : List (AlmanacEntry τ) := a.entries.rtakeWhile AlmanacEntry.isRequest

/-- One thing that happens, of a kind, with what is entered because of it. -/
inductive Step (Happens : Diary τ → Diary τ → Prop) : Almanac τ → Almanac τ → Prop
  | enter (a : Almanac τ) (d : Diary τ) (events : List (DebounceEvent τ))
      (happens : Happens a.diary d) (entered : d.events = a.diary.events ++ events) :
    Step Happens a (a.add d events)

/-- What can have become of an almanac after some things of a kind have happened. -/
abbrev Reaches (Happens : Diary τ → Diary τ → Prop) : Almanac τ → Almanac τ → Prop :=
  Relation.ReflTransGen (Step Happens)

/-! ## Entries -/

section Entries

variable (a : Almanac τ) (d : Diary τ) (id : Nat) (link : τ)

/-- Without events no entries are made. -/
theorem add_nil : a.add d [] = ⟨d, a.entries⟩ := by simp [add]

/-- What happens at the same time can be entered in one go. -/
theorem add_add {d : Diary τ} (hnow : d.run.agenda.now = a.now) (d' : Diary τ)
    (events events' : List (DebounceEvent τ)) :
    (a.add d events).add d' events' = a.add d' (events ++ events') := by
  have hsame : (a.add d events).now = a.now := hnow
  unfold add at hsame ⊢
  simp only [hsame, List.map_append, List.append_assoc]

/-- A request is no run. -/
@[simp] theorem runs_add_requested : (a.add d [.requested id link]).runs = a.runs := by
  unfold runs add
  rw [List.filterMap_append]
  exact List.append_nil _

/-- A run is the last one, at the present time. -/
@[simp] theorem runs_add_ran : (a.add d [.ran id link]).runs = a.runs ++ [(link, a.now)] := by
  unfold runs add
  exact List.filterMap_append

/-- A cancellation is no run. -/
@[simp] theorem runs_add_cancelled : (a.add d [.cancelled]).runs = a.runs := by
  unfold runs add
  rw [List.filterMap_append]
  exact List.append_nil _

/-- A request belongs to the burst that goes on. -/
@[simp] theorem burst_add_requested :
    (a.add d [.requested id link]).burst = a.burst ++ [⟨.requested id link, a.now⟩] := by
  unfold burst add
  exact List.rtakeWhile_concat_pos _ _ _ rfl

/-- A run ends the burst. -/
@[simp] theorem burst_add_ran : (a.add d [.ran id link]).burst = [] := by
  unfold burst add
  exact List.rtakeWhile_concat_neg _ _ _ Bool.false_ne_true

/-- So does a cancellation. -/
@[simp] theorem burst_add_cancelled : (a.add d [.cancelled]).burst = [] := by
  unfold burst add
  exact List.rtakeWhile_concat_neg _ _ _ Bool.false_ne_true

/-- The first request stays the first one. -/
theorem head?_requests_add (events : List (DebounceEvent τ)) {e : AlmanacEntry τ}
    (h : e ∈ a.requests.head?) : e ∈ (a.add d events).requests.head? := by
  unfold requests add
  rw [List.filter_append, List.head?_append]
  exact Option.mem_def.mpr (Option.or_eq_some_iff.mpr (.inl h))

/-- Requests of the burst are requests. -/
theorem mem_requests_of_burst {e : AlmanacEntry τ} (h : e ∈ a.burst) : e ∈ a.requests :=
  List.mem_filter.mpr ⟨(List.rtakeWhile_suffix _ _).subset h, List.mem_rtakeWhile_imp h⟩

end Entries

/-- Everything that happened is in order of time, and in the past. -/
structure Chronological (a : Almanac τ) : Prop where
  /-- Time does not go back. -/
  ordered : a.entries.Pairwise fun e e' => e.time ≤ e'.time
  /-- Nothing has happened in the future. -/
  past : ∀ e ∈ a.entries, e.time ≤ a.now

namespace Chronological

variable {a : Almanac τ}

/-- What happens now comes last. -/
theorem add (h : a.Chronological) (d : Diary τ) (hnow : a.now ≤ d.run.agenda.now)
    (events : List (DebounceEvent τ)) : (a.add d events).Chronological := by
  have hadded : ∀ e ∈ events.map (AlmanacEntry.mk · a.now), e.time = a.now := by
    intro e he
    obtain ⟨event, -, rfl⟩ := List.mem_map.mp he
    rfl
  constructor
  · refine List.pairwise_append.mpr ⟨h.ordered, ?_, ?_⟩
    · exact List.pairwise_of_forall_mem_list fun e he e' he' => by rw [hadded e he, hadded e' he']
    · intro e he e' he'
      rw [hadded e' he']
      exact h.past e he
  · intro e he
    rcases List.mem_append.mp he with he | he
    · exact (h.past e he).trans hnow
    · rw [hadded e he]
      exact hnow

/-- What happened before the burst happened no later than it began. -/
theorem le_first (h : a.Chronological) {e first : AlmanacEntry τ} (he : e ∈ a.entries)
    (hevent : e.isRequest = false) (hfirst : first ∈ a.burst.head?) : e.time ≤ first.time := by
  have hsplit := a.entries.rdropWhile_append_rtakeWhile (p := AlmanacEntry.isRequest)
  have hordered := h.ordered
  rw [← hsplit] at hordered he
  rcases List.mem_append.mp he with he | he
  · exact (List.pairwise_append.mp hordered).2.2 e he first (List.mem_of_mem_head? hfirst)
  · have hrequest := List.mem_rtakeWhile_imp he
    simp [hevent] at hrequest

/-- The burst began no earlier than the first request was made. -/
theorem first_le (h : a.Chronological) {first : AlmanacEntry τ} (hfirst : first ∈ a.burst.head?) :
    ∃ e ∈ a.requests.head?, e.time ≤ first.time := by
  have hmem := a.mem_requests_of_burst (List.mem_of_mem_head? hfirst)
  have hordered : a.requests.Pairwise fun e e' => e.time ≤ e'.time := h.ordered.filter _
  cases hrequests : a.requests with
  | nil => simp [hrequests] at hmem
  | cons e rest =>
    refine ⟨e, rfl, ?_⟩
    rw [hrequests] at hmem hordered
    rcases List.mem_cons.mp hmem with rfl | hmem
    · exact Nat.le_refl _
    · exact (List.pairwise_cons.mp hordered).1 first hmem

/-- The last request of the burst is not earlier than its first one. -/
theorem first_le_last (h : a.Chronological) {first last : AlmanacEntry τ}
    (hfirst : first ∈ a.burst.head?) (hlast : last ∈ a.burst.getLast?) :
    first.time ≤ last.time := by
  have hordered : a.burst.Pairwise fun e e' => e.time ≤ e'.time :=
    h.ordered.sublist (List.rtakeWhile_suffix _ _).sublist
  cases hburst : a.burst with
  | nil => simp [hburst] at hfirst
  | cons e rest =>
    rw [hburst] at hfirst hlast hordered
    obtain rfl : e = first := Option.some.inj hfirst
    rcases List.mem_cons.mp (List.mem_of_getLast? hlast) with rfl | hmem
    · exact Nat.le_refl _
    · exact (List.pairwise_cons.mp hordered).1 last hmem

end Chronological

/-- Runs are apart from each other and from the first request. -/
structure Spaced (gap : Nat) (a : Almanac τ) : Prop where
  /-- Each run is apart from all before it. -/
  apart : a.runs.Pairwise fun x y => x.2 + gap ≤ y.2
  /-- It is apart from the first request, too. -/
  begun : ∀ x ∈ a.runs, ∃ e ∈ a.requests.head?, e.time + gap ≤ x.2

namespace Spaced

variable {gap : Nat} {a : Almanac τ}

/-- Where nothing is run, runs stay apart. -/
theorem add (h : a.Spaced gap) {d : Diary τ} {events : List (DebounceEvent τ)}
    (hruns : (a.add d events).runs = a.runs) : (a.add d events).Spaced gap := by
  constructor
  · rw [hruns]
    exact h.apart
  · rw [hruns]
    intro x hx
    obtain ⟨e, he, hgap⟩ := h.begun x hx
    exact ⟨e, a.head?_requests_add d events he, hgap⟩

/-- A run that is apart from the beginning of the burst is apart from all before it, which were run
before the burst began. -/
theorem add_ran (h : a.Spaced gap) (hchronological : a.Chronological) {first : AlmanacEntry τ}
    (hfirst : first ∈ a.burst.head?) (hgap : first.time + gap ≤ a.now) (d : Diary τ) (id : Nat)
    (link : τ) : (a.add d [.ran id link]).Spaced gap := by
  have hbefore : ∀ x ∈ a.runs, x.2 + gap ≤ a.now := by
    intro x hx
    obtain ⟨e, he, heq⟩ := List.mem_filterMap.mp hx
    obtain ⟨⟨id', link'⟩, hran, rfl⟩ := Option.map_eq_some_iff.mp heq
    have hevent : e.isRequest = false := by
      unfold AlmanacEntry.isRequest
      cases hkind : e.event <;> simp [hkind, DebounceEvent.ran?] at hran
      rfl
    have hle := hchronological.le_first he hevent hfirst
    dsimp only
    omega
  constructor
  · rw [runs_add_ran]
    refine List.pairwise_append.mpr ⟨h.apart, List.pairwise_singleton _ _, ?_⟩
    intro x hx y hy
    rw [List.mem_singleton.mp hy]
    exact hbefore x hx
  · rw [runs_add_ran]
    intro x hx
    rcases List.mem_append.mp hx with hx | hx
    · obtain ⟨e, he, hle⟩ := h.begun x hx
      exact ⟨e, a.head?_requests_add d _ he, hle⟩
    · rw [List.mem_singleton.mp hx]
      obtain ⟨e, he, hle⟩ := hchronological.first_le hfirst
      exact ⟨e, a.head?_requests_add d _ he, by dsimp only; omega⟩

end Spaced

/-! ## What the state follows from -/

/-- The state of a debouncer follows from the entries. -/
structure Dated (quiet patience : Nat) (a : Almanac τ) : Prop
    extends Chronological a, Spaced (min quiet patience) a where
  /-- What the diary tells is right. -/
  told : a.diary.Told
  /-- The entries are those of the diary. -/
  entered : a.entries.map AlmanacEntry.event = a.diary.events
  /-- The runs are those of the debouncer. -/
  ran : a.runs = a.run.ran
  /-- The quiet time stays. -/
  quiet_eq : a.run.debouncer.quiet = quiet
  /-- So does the patience. -/
  patience_eq : a.run.debouncer.patience = patience
  /-- It is remembered when the burst began. -/
  remembered : a.run.debouncer.burstStart = a.burst.head?.map AlmanacEntry.time
  /-- During a burst a request is live. -/
  live : a.burst ≠ [] → a.run.debouncer.live ≠ none
  /-- The last request of a burst came before the patience was over. -/
  young : ∀ first ∈ a.burst.head?, ∀ last ∈ a.burst.getLast?, last.time < first.time + patience
  /-- The timer of the live request ends when the quiet time has passed after the last request. -/
  timed : ∀ last ∈ a.burst.getLast?, ∀ timer ∈ a.run.agenda.timers,
    a.run.debouncer.isLive timer.task.1 = true → timer.deadline = last.time + quiet
  /-- It was posted no earlier than that. -/
  posted : ∀ last ∈ a.burst.getLast?, ∀ task ∈ a.run.agenda.posted,
    a.run.debouncer.isLive task.1 = true → last.time + quiet ≤ a.now

/-- Nothing has happened at the beginning. -/
theorem dated_start (quiet patience now : Nat) (mode : PostMode) :
    (start quiet patience now mode : Almanac τ).Dated quiet patience where
  ordered := .nil
  past := nofun
  apart := .nil
  begun := nofun
  told := Diary.told_start quiet patience now mode
  entered := rfl
  ran := rfl
  quiet_eq := rfl
  patience_eq := rfl
  remembered := rfl
  live h := absurd rfl h
  young := nofun
  timed := nofun
  posted := nofun

namespace Dated

variable {quiet patience : Nat} {a : Almanac τ}

/-- Without a burst there is nothing to be said about it. -/
theorem of_idle (hchronological : a.Chronological) (hspaced : a.Spaced (min quiet patience))
    (htold : a.diary.Told) (hentered : a.entries.map AlmanacEntry.event = a.diary.events)
    (hran : a.runs = a.run.ran) (hquiet : a.run.debouncer.quiet = quiet)
    (hpatience : a.run.debouncer.patience = patience) (hburst : a.burst = [])
    (hstart : a.run.debouncer.burstStart = none) : a.Dated quiet patience where
  toChronological := hchronological
  toSpaced := hspaced
  told := htold
  entered := hentered
  ran := hran
  quiet_eq := hquiet
  patience_eq := hpatience
  remembered := by simp [hburst, hstart]
  live hne := absurd hburst hne
  young := by simp [hburst]
  timed := by simp [hburst]
  posted := by simp [hburst]

/-- What is added to the diary is entered. -/
theorem entered_add (h : a.Dated quiet patience) {d : Diary τ} {events : List (DebounceEvent τ)}
    (hevents : d.events = a.diary.events ++ events) :
    (a.add d events).entries.map AlmanacEntry.event = (a.add d events).diary.events := by
  have hevent : events.map (AlmanacEntry.event ∘ (⟨·, a.now⟩)) = events := List.map_id _
  simp [add, hevents, ← h.entered, hevent]

/-- A request that is live is the last entry, and so the last one of the burst. -/
theorem last_of_live (h : a.Dated quiet patience) {ticket : Nat}
    (hlive : a.run.debouncer.live = some ticket) :
    ∃ last link, a.entries.getLast? = some last ∧ a.burst.getLast? = some last ∧
      last.event = .requested (a.diary.owners.getD ticket 0) link ∧
      ∀ task ∈ a.run.agenda.tasks, task.1 = ticket → ∃ rest, task.2 = link :: rest := by
  obtain ⟨earlier, link, hlast, htask⟩ := h.told.live ticket hlive
  rw [← h.entered] at hlast
  obtain ⟨before, rest, hentries, -, hrest⟩ := List.map_eq_append_iff.mp hlast
  obtain ⟨last, rfl, hevent⟩ := List.map_eq_singleton_iff.mp hrest
  have hrequest : last.isRequest = true := by
    simp [AlmanacEntry.isRequest, hevent, DebounceEvent.requested?]
  refine ⟨last, link, by simp [hentries], ?_, hevent, htask⟩
  unfold burst
  rw [hentries, List.rtakeWhile_concat_pos _ _ _ hrequest, List.getLast?_concat]

/-- The burst that a new request belongs to began when the debouncer remembers, or now. -/
theorem first_of_request (h : a.Dated quiet patience) (d : Diary τ) (id : Nat) (link : τ) :
    ∃ first ∈ (a.add d [.requested id link]).burst.head?,
      first.time = a.run.debouncer.burstStart.getD a.now := by
  rw [burst_add_requested, h.remembered]
  cases a.burst with
  | nil => exact ⟨_, rfl, rfl⟩
  | cons first rest => exact ⟨first, rfl, rfl⟩

/-- Once a request has been answered at once, its burst having lasted long enough, there is none. The request
is entered first, so the burst that ends with the run is the one that it belongs to. -/
theorem answer (h : a.Dated quiet patience) (link : τ)
    (hlong : a.run.debouncer.patience ≤ a.now - a.run.debouncer.burstStart.getD a.now) :
    (a.add (a.diary.answer link)
      [.requested a.diary.made link, .ran a.diary.made link]).Dated quiet patience := by
  let requested := a.add a.diary [.requested a.diary.made link]
  have hadd : a.add (a.diary.answer link) [.requested a.diary.made link, .ran a.diary.made link]
      = requested.add (a.diary.answer link) [.ran a.diary.made link] :=
    (a.add_add rfl _ [.requested a.diary.made link] [.ran a.diary.made link]).symm
  have hchronological : requested.Chronological := h.toChronological.add a.diary (Nat.le_refl _) _
  have hspaced : requested.Spaced (min quiet patience) :=
    h.toSpaced.add (runs_add_requested a a.diary a.diary.made link)
  have hrequested : requested.runs = a.runs := runs_add_requested a a.diary a.diary.made link
  have hgap : ∃ first ∈ requested.burst.head?, first.time + min quiet patience ≤ a.now := by
    obtain ⟨first, hfirst, hstart⟩ := h.first_of_request a.diary a.diary.made link
    have hpast : first.time ≤ a.now := hchronological.past first
      ((List.rtakeWhile_suffix _ _).subset (List.mem_of_mem_head? hfirst))
    rw [h.patience_eq, ← hstart] at hlong
    exact ⟨first, hfirst, by omega⟩
  obtain ⟨first, hfirst, hgap⟩ := hgap
  have hentered := h.entered_add (a.diary.events_answer link)
  rw [hadd] at hentered ⊢
  refine of_idle (hchronological.add (a.diary.answer link) (Nat.le_refl _) _)
    (hspaced.add_ran hchronological hfirst hgap _ _ link) (h.told.answer link) hentered ?ran
    h.quiet_eq h.patience_eq (burst_add_ran ..) rfl
  case ran =>
    rw [runs_add_ran, hrequested, h.ran]
    rfl

/-- **A request that waits** is the last one of its burst, and no other is live. -/
theorem defer (h : a.Dated quiet patience) (link : τ) (rest : List τ)
    (hshort : a.now - a.run.debouncer.burstStart.getD a.now < a.run.debouncer.patience) :
    (a.add (a.diary.defer link rest) [.requested a.diary.made link]).Dated quiet patience := by
  let deferred := a.add (a.diary.defer link rest) [.requested a.diary.made link]
  have hlast : ∀ last ∈ deferred.burst.getLast?, last.time = a.now := by
    intro last hlast
    rw [burst_add_requested, List.getLast?_concat] at hlast
    exact Option.some.inj hlast ▸ rfl
  constructor
  case toChronological => exact h.toChronological.add (a.diary.defer link rest) (Nat.le_refl _) _
  case toSpaced => exact h.toSpaced.add (runs_add_requested ..)
  case told => exact h.told.defer link rest
  case entered => exact h.entered_add (a.diary.events_defer link rest)
  case ran => exact (runs_add_requested ..).trans h.ran
  case quiet_eq => exact h.quiet_eq
  case patience_eq => exact h.patience_eq
  case remembered =>
    obtain ⟨first, hfirst, hstart⟩ :=
      h.first_of_request (a.diary.defer link rest) a.diary.made link
    rw [Option.mem_def.mp hfirst, Option.map_some, hstart]
    rfl
  case live => exact fun _ => Option.some_ne_none _
  case young =>
    intro first hfirst last hmem
    obtain ⟨first', hfirst', hstart⟩ :=
      h.first_of_request (a.diary.defer link rest) a.diary.made link
    obtain rfl := Option.mem_unique hfirst hfirst'
    rw [hlast last hmem, hstart]
    rw [h.patience_eq] at hshort
    omega
  case timed =>
    intro last hmem timer htimer hlive
    rw [hlast last hmem, ← h.quiet_eq]
    rcases (Agenda.start_timers_perm ..).mem_iff.mp htimer |> List.mem_cons.mp with rfl | hold
    · rfl
    · have hdead := h.told.dead_of_defer link rest
        (List.mem_append_left _ (List.mem_map_of_mem hold))
      exact absurd hlive (ne_true_of_eq_false hdead)
  case posted =>
    intro last hmem task htask hlive
    have hdead := h.told.dead_of_defer link rest (List.mem_append_right _ htask)
    exact absurd hlive (ne_true_of_eq_false hdead)

/-- **A request that has waited** is answered when the quiet time has passed since it was made, and
with it the burst ends. -/
theorem complete (h : a.Dated quiet patience) {ticket : Nat} {link : τ}
    (hlive : a.run.debouncer.live = some ticket)
    (htask : ∃ earlier,
      a.diary.events = earlier ++ [.requested (a.diary.owners.getD ticket 0) link])
    (hquiet : ∀ last ∈ a.burst.getLast?, last.time + quiet ≤ a.now) :
    (a.add (a.diary.complete link ticket) [.ran (a.diary.owners.getD ticket 0) link]).Dated
      quiet patience := by
  obtain ⟨last, -, -, hlast, -⟩ := h.last_of_live hlive
  obtain ⟨first, hfirst⟩ : ∃ first, first ∈ a.burst.head? := by
    cases hburst : a.burst with
    | nil => simp [hburst] at hlast
    | cons first rest => exact ⟨first, rfl⟩
  have hgap : first.time + min quiet patience ≤ a.now := by
    have hle := h.first_le_last hfirst hlast
    have hpassed := hquiet last hlast
    omega
  refine of_idle (h.toChronological.add (a.diary.complete link ticket) (Nat.le_refl _) _)
    (h.toSpaced.add_ran h.toChronological hfirst hgap _ _ link) (h.told.complete htask)
    (h.entered_add rfl) ?ran h.quiet_eq h.patience_eq (burst_add_ran ..) rfl
  case ran =>
    rw [runs_add_ran, h.ran]
    rfl

/-- A cancellation ends the burst. -/
theorem cancel (h : a.Dated quiet patience) :
    (a.add a.diary.cancel [.cancelled]).Dated quiet patience :=
  of_idle (h.toChronological.add a.diary.cancel (Nat.le_refl _) _)
    (h.toSpaced.add (runs_add_cancelled ..)) h.told.cancel (h.entered_add rfl)
    ((runs_add_cancelled ..).trans h.ran) h.quiet_eq h.patience_eq (burst_add_cancelled ..) rfl

/-- Time passes, and timers end; those that post their tasks do so when they are due. -/
theorem withAgenda (h : a.Dated quiet patience) {agenda : Agenda (Nat × List τ)}
    (hnow : a.now ≤ agenda.now) (htimers : agenda.timers ⊆ a.run.agenda.timers)
    (hposted : ∀ task ∈ agenda.posted, task ∈ a.run.agenda.posted ∨
      ∃ timer ∈ a.run.agenda.timers, timer.task = task ∧ timer.deadline ≤ agenda.now) :
    (a.add (a.diary.withAgenda agenda) []).Dated quiet patience := by
  have hsub : agenda.tasks ⊆ a.run.agenda.tasks := by
    intro task hmem
    rcases List.mem_append.mp hmem with hmem | hmem
    · exact List.mem_append_left _ (List.map_subset _ htimers hmem)
    · rcases hposted task hmem with hold | ⟨timer, htimer, rfl, -⟩
      · exact List.mem_append_right _ hold
      · exact List.mem_append_left _ (List.mem_map_of_mem htimer)
  have htold := h.told.withAgenda hsub
  have hchronological := h.toChronological.add (a.diary.withAgenda agenda) hnow []
  rw [add_nil] at hchronological ⊢
  constructor
  case toChronological => exact hchronological
  case toSpaced => exact ⟨h.apart, h.begun⟩
  case told => exact htold
  case entered => exact h.entered
  case ran => exact h.ran
  case quiet_eq => exact h.quiet_eq
  case patience_eq => exact h.patience_eq
  case remembered => exact h.remembered
  case live => exact h.live
  case young => exact h.young
  case timed => exact fun last hlast timer hmem => h.timed last hlast timer (htimers hmem)
  case posted =>
    intro last hlast task hmem hlive
    rcases hposted task hmem with hold | ⟨timer, htimer, rfl, hdue⟩
    · exact (h.posted last hlast task hold hlive).trans hnow
    · rw [← h.timed last hlast timer htimer hlive]
      exact hdue

/-- **Requests keep the almanac right**, one link of a chain after the other. -/
theorem request (h : a.Dated quiet patience) (chain : List τ) :
    ∃ events, (a.diary.request chain).events = a.diary.events ++ events ∧
      (a.add (a.diary.request chain) events).Dated quiet patience := by
  induction chain generalizing a with
  | nil =>
    refine ⟨[], (List.append_nil _).symm, ?_⟩
    rw [add_nil]
    exact h
  | cons link rest ih =>
    rcases a.diary.request_cons_cases link rest with ⟨hlong, heq⟩ | ⟨hshort, heq⟩ <;> rw [heq]
    · obtain ⟨events, hevents, hdated⟩ := ih (h.answer link hlong)
      refine ⟨_, ?_, a.add_add (d := a.diary.answer link) rfl _ _ _ ▸ hdated⟩
      exact hevents.trans (List.append_assoc ..)
    · exact ⟨_, a.diary.events_defer link rest, h.defer link rest hshort⟩

/-- So do tasks that are run after the quiet time. -/
theorem runTask (h : a.Dated quiet patience) {task : Nat × List τ}
    (htask : a.run.debouncer.live = some task.1 →
      (∃ earlier link rest, task.2 = link :: rest ∧
        a.diary.events = earlier ++ [.requested (a.diary.owners.getD task.1 0) link]) ∧
      ∀ last ∈ a.burst.getLast?, last.time + quiet ≤ a.now) :
    ∃ events, (a.diary.runTask task).events = a.diary.events ++ events ∧
      (a.add (a.diary.runTask task) events).Dated quiet patience := by
  obtain ⟨ticket, chain⟩ := task
  by_cases hlive : a.run.debouncer.live = some ticket
  · obtain ⟨⟨earlier, link, rest, rfl, hevents⟩, hquiet⟩ := htask hlive
    obtain ⟨events, hadded, hdated⟩ := (h.complete hlive ⟨earlier, hevents⟩ hquiet).request rest
    rw [a.diary.runTask_of_live link rest hlive]
    refine ⟨_, ?_, a.add_add (d := a.diary.complete link ticket) rfl _ _ _ ▸ hdated⟩
    exact hadded.trans (List.append_assoc ..)
  · rw [a.diary.runTask_of_dead chain hlive]
    refine ⟨[], (List.append_nil _).symm, ?_⟩
    rw [add_nil]
    exact h

/-- **Everything that happens keeps the almanac right.** -/
theorem next (h : a.Dated quiet patience) {d : Diary τ} (hstep : Diary.Step a.diary d) :
    ∃ events, d.events = a.diary.events ++ events ∧ (a.add d events).Dated quiet patience := by
  cases hstep with
  | request chain => exact h.request chain
  | cancel => exact ⟨_, rfl, h.cancel⟩
  | elapse nanos =>
    exact ⟨[], (List.append_nil _).symm,
      h.withAgenda (Nat.le_add_right _ _) (List.Subset.refl _) fun _ hmem => .inl hmem⟩
  | fire before after timer timers due =>
    obtain ⟨htimer, hsub⟩ := a.diary.run.agenda.mem_timers timers
    let agenda : Agenda (Nat × List τ) := { a.diary.run.agenda with timers := before ++ after }
    have hnow : a.now = (agenda.post timer.task).now := (agenda.now_post timer.task).symm
    refine ⟨[], (List.append_nil _).symm, h.withAgenda (Nat.le_of_eq hnow) ?_ ?_⟩
    · rw [Agenda.timers_post]
      exact hsub
    · intro task hmem
      rcases agenda.mem_posted_post hmem with rfl | hold
      · exact .inr ⟨timer, htimer, rfl, hnow ▸ of_decide_eq_true due⟩
      · exact .inl hold
  | lapse before after timer timers =>
    refine ⟨[], (List.append_nil _).symm,
      h.withAgenda (Nat.le_refl _) ?_ fun _ hmem => .inl hmem⟩
    exact (a.diary.run.agenda.mem_timers timers).2
  | run task rest posted =>
    have hmem : task ∈ a.run.agenda.posted := by
      rw [show a.run.agenda.posted = task :: rest from posted]
      exact List.mem_cons_self
    have hleft : (a.add (a.diary.withAgenda { a.run.agenda with posted := rest }) []).Dated
        quiet patience := by
      refine h.withAgenda (Nat.le_refl _) (List.Subset.refl _) fun other hother => .inl ?_
      rw [show a.run.agenda.posted = task :: rest from posted]
      exact List.mem_cons_of_mem _ hother
    have htask : a.run.debouncer.live = some task.1 →
        (∃ earlier link rest, task.2 = link :: rest ∧
          a.diary.events = earlier ++ [.requested (a.diary.owners.getD task.1 0) link]) ∧
        ∀ last ∈ a.burst.getLast?, last.time + quiet ≤ a.now := by
      intro hlive
      obtain ⟨earlier, link, hlast, hlinks⟩ := h.told.live task.1 hlive
      obtain ⟨rest', hchain⟩ := hlinks task (List.mem_append_right _ hmem) rfl
      refine ⟨⟨earlier, link, rest', hchain, hlast⟩, fun last hlast' => ?_⟩
      exact h.posted last hlast' task hmem (beq_iff_eq.mpr hlive)
    rw [add_nil] at hleft
    obtain ⟨events, hevents, hdated⟩ := hleft.runTask htask
    exact ⟨events, hevents, a.add_add rfl _ [] events ▸ hdated⟩

/-- So an almanac is right after any run. -/
theorem of_reaches {now : Nat} {mode : PostMode}
    (hrun : Reaches Diary.Step (start quiet patience now mode) a) : a.Dated quiet patience := by
  induction hrun with
  | refl => exact dated_start quiet patience now mode
  | tail _ hstep ih =>
    cases hstep with
    | enter d events happens entered =>
      obtain ⟨events', hevents, hdated⟩ := ih.next happens
      obtain rfl : events = events' := List.append_cancel_left (entered.symm.trans hevents)
      exact hdated

end Dated

/-! ## Runs are apart -/

/-- Whatever happens to a debouncer can be entered in an almanac. -/
theorem exists_reaches {quiet patience now : Nat} {mode : PostMode} {d : Diary τ}
    (hrun : Diary.Reaches (.start quiet patience now mode) d) :
    ∃ a, Reaches Diary.Step (start quiet patience now mode) a ∧ a.diary = d := by
  induction hrun with
  | refl => exact ⟨_, .refl, rfl⟩
  | tail _ hstep ih =>
    obtain ⟨a, hreaches, rfl⟩ := ih
    obtain ⟨events, hevents, -⟩ := (Dated.of_reaches hreaches).next hstep
    exact ⟨_, hreaches.tail (.enter a _ events hstep hevents), rfl⟩

/-- **Tasks are not run more often than they may be.** After any requests, cancellations, timers and
runs of posted tasks, however late, in any order and with time passing in between:

* the almanac has all requests, in order, and all runs with their times;
* each run is at least the shorter of the quiet time and the patience later than every run before it;
* each run is at least that much later than the first request. -/
theorem runs_apart {quiet patience now : Nat} {mode : PostMode} {a : Almanac τ}
    (hrun : Reaches Diary.Step (start quiet patience now mode) a) :
    (a.requests.filterMap (·.event.requested?) = List.range a.diary.made ∧
      a.runs = a.run.ran ∧ a.entries.Pairwise fun e e' => e.time ≤ e'.time) ∧
    (a.run.ran.Pairwise fun x y => x.2 + min quiet patience ≤ y.2) ∧
    ∀ x ∈ a.run.ran, ∃ e ∈ a.requests.head?, e.time + min quiet patience ≤ x.2 := by
  have h := Dated.of_reaches hrun
  rw [← h.ran]
  refine ⟨⟨?requests, rfl, h.ordered⟩, h.apart, h.begun⟩
  case requests =>
    rw [← h.told.numbered, ← h.entered, List.filterMap_map]
    unfold requests
    rw [List.filterMap_filter]
    refine List.filterMap_congr fun e _ => ?_
    unfold AlmanacEntry.isRequest
    cases he : e.event <;> simp [he, DebounceEvent.requested?]

/-- A request that comes when the patience is over is answered at once, and the next one after the
quiet time. -/
theorem runs_apart_answered : ∃ a : Almanac String, Reaches Diary.Step (start 3 5 0 .queued) a ∧
    a.run.ran = [("b", 5), ("c", 8)] ∧
    a.run.ran.Pairwise fun x y => x.2 + min 3 5 ≤ y.2 := by
  have hfirst : Reaches Diary.Step (start 3 5 0 .queued) _ :=
    (((Relation.ReflTransGen.single (.enter _ _ [.requested 0 "a"] (.request _ ["a"]) rfl)).tail
      (.enter _ _ [] (.elapse _ 5) rfl)).tail
      (.enter _ _ [.requested 1 "b", .ran 1 "b"] (.request _ ["b"]) rfl)).tail
      (.enter _ _ [] (.lapse _ [] [] ⟨3, 0, ["a"]⟩ rfl) rfl)
  have hsecond : Reaches Diary.Step (start 3 5 0 .queued) _ :=
    ((hfirst.tail (.enter _ _ [.requested 2 "c"] (.request _ ["c"]) rfl)).tail
      (.enter _ _ [] (.elapse _ 3) rfl)).tail
      (.enter _ _ [] (.fire _ [] [] ⟨8, 1, ["c"]⟩ rfl rfl) rfl)
  have hrun := hsecond.tail (.enter _ _ [.ran 2 "c"] (.run _ (1, ["c"]) [] rfl) rfl)
  exact ⟨_, hrun, rfl, (runs_apart hrun).2.1⟩

end Almanac

end SessionReplay
