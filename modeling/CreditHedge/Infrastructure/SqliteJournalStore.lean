import CreditHedge.Domain.Journal
import CreditHedge.Lib.EventLog

/-!
# The journal store

`infrastructure/persistence/sqlite_journal_store.py`: the event journal and the cycle snapshots,
as the two tables they are. Both are append-only. An event gets the next sequence of the whole
journal, whatever its cycle; a snapshot is stored together with one event, in one transaction, and
gets that event's sequence, whatever sequence it was made from. So snapshots too are at increasing
sequences, none of them past the last event.

Of what is written the store gives back the same; text columns and JSON are not modelled.
-/

set_option autoImplicit false

namespace CreditHedge

structure SqliteJournalStore where
  events : EventLog JournalEvent.sequence
  snapshots : EventLog CycleSnapshot.lastEventSequence
  /-- `event_id TEXT NOT NULL UNIQUE`. -/
  eventIds : (events.entries.map fun e => e.eventId).Nodup
  /-- `REFERENCES event_journal(sequence)`: the event it was stored with, which is its cycle's. -/
  references : ∀ snapshot ∈ snapshots.entries, ∃ e ∈ events.entries,
    e.sequence = snapshot.lastEventSequence ∧ e.cycleId = snapshot.cycleId

namespace SqliteJournalStore

def empty : SqliteJournalStore where
  events := .empty
  snapshots := .empty
  eventIds := List.nodup_nil
  references := by simp [EventLog.empty]

variable (store : SqliteJournalStore)

theorem snapshots_le : store.snapshots.last ≤ store.events.last := by
  refine EventLog.last_le fun snapshot hsnapshot => ?_
  obtain ⟨e, he, hsequence, -⟩ := store.references snapshot hsnapshot
  rw [← hsequence]
  exact EventLog.le_last he

/-! ## Reading -/

/-- `_load_latest_snapshot`. -/
def loadLatestSnapshot (cycleId : String) : Option CycleSnapshot :=
  (store.snapshots.entries.filter fun snapshot => snapshot.cycleId = cycleId).getLast?

/-- `_load_events_after`. -/
def loadEventsAfter (cycleId : String) (sequence : ℕ) : List JournalEvent :=
  store.events.after (fun e => e.cycleId = cycleId) sequence

/-! ## Writing -/

/-- No event of the journal has this id. -/
def NewId (eventId : String) : Prop := ∀ e ∈ store.events.entries, e.eventId ≠ eventId

instance (eventId : String) : Decidable (store.NewId eventId) :=
  inferInstanceAs (Decidable (∀ e ∈ store.events.entries, e.eventId ≠ eventId))

/-- The event as it is stored: `AUTOINCREMENT` gives it the next sequence. -/
def stored (event : PendingJournalEvent) : JournalEvent :=
  { event with sequence := store.events.last + 1, sequence_pos := Nat.succ_pos _ }

theorem last_lt_stored (event : PendingJournalEvent) :
    store.events.last < (store.stored event).sequence :=
  Nat.lt_succ_self _

/-- `_insert_event`. -/
def insertEvent (event : PendingJournalEvent) (h : store.NewId event.eventId) :
    SqliteJournalStore where
  events := store.events.append (store.stored event) (store.last_lt_stored event)
  snapshots := store.snapshots
  eventIds := by
    rw [EventLog.entries_append, List.map_append, List.nodup_append]
    refine ⟨store.eventIds, by simp, ?_⟩
    simp only [List.map_cons, List.map_nil, List.mem_singleton]
    rintro _ hid _ rfl
    obtain ⟨e, he, rfl⟩ := List.mem_map.mp hid
    exact h e he
  references := by
    intro snapshot hsnapshot
    obtain ⟨e, he, hreferred⟩ := store.references snapshot hsnapshot
    exact ⟨e, List.mem_append_left _ he, hreferred⟩

/-- `_append_event`. -/
def appendEvent (event : PendingJournalEvent) : Except Failure (JournalEvent × SqliteJournalStore) :=
  if h : store.NewId event.eventId then .ok (store.stored event, store.insertEvent event h)
  else .error (.valueError "event ID already exists")

/-- `replace(snapshot, last_event_sequence=stored_event.sequence)`. -/
def stamped (event : PendingJournalEvent) (snapshot : CycleSnapshot) : CycleSnapshot :=
  { snapshot with lastEventSequence := (store.stored event).sequence }

theorem last_lt_stamped (event : PendingJournalEvent) (snapshot : CycleSnapshot) :
    store.snapshots.last < (store.stamped event snapshot).lastEventSequence :=
  lt_of_le_of_lt store.snapshots_le (store.last_lt_stored event)

/-- The event and the snapshot, in one transaction. -/
def insertEventAndSnapshot (event : PendingJournalEvent) (snapshot : CycleSnapshot)
    (hcycle : event.cycleId = snapshot.cycleId) (h : store.NewId event.eventId) :
    SqliteJournalStore where
  events := (store.insertEvent event h).events
  snapshots := store.snapshots.append (store.stamped event snapshot)
    (store.last_lt_stamped event snapshot)
  eventIds := (store.insertEvent event h).eventIds
  references := by
    intro row hrow
    rcases List.mem_append.mp hrow with hrow | hrow
    · exact (store.insertEvent event h).references row hrow
    · obtain rfl := List.mem_singleton.mp hrow
      exact ⟨store.stored event, List.mem_append_right _ (by simp), rfl, hcycle⟩

/-- `append_event_and_snapshot`. -/
def appendEventAndSnapshot (event : PendingJournalEvent) (snapshot : CycleSnapshot) :
    Except Failure ((JournalEvent × CycleSnapshot) × SqliteJournalStore) :=
  if hcycle : event.cycleId = snapshot.cycleId then
    if h : store.NewId event.eventId then
      .ok ((store.stored event, store.stamped event snapshot),
        store.insertEventAndSnapshot event snapshot hcycle h)
    else .error (.valueError "event ID already exists")
  else .error (.valueError "event and snapshot cycle IDs differ")

/-! ## What a reader finds -/

variable {store}

theorem loadLatestSnapshot_eq_some {cycleId : String} {snapshot : CycleSnapshot}
    (h : store.loadLatestSnapshot cycleId = some snapshot) :
    snapshot ∈ store.snapshots.entries ∧ snapshot.cycleId = cycleId ∧
      ∀ other ∈ store.snapshots.entries, other.cycleId = cycleId →
        other.lastEventSequence ≤ snapshot.lastEventSequence := by
  obtain ⟨hmem, hcycle⟩ := List.mem_filter.mp (List.mem_of_getLast? h)
  refine ⟨hmem, by simpa using hcycle, fun other hother hsame => ?_⟩
  -- The cycle's snapshots are a log of their own.
  let own : EventLog CycleSnapshot.lastEventSequence :=
    ⟨_, store.snapshots.increasing.filter fun snapshot => snapshot.cycleId = cycleId⟩
  have hlast : own.last = snapshot.lastEventSequence := by
    have hgetLast : own.entries.getLast? = some snapshot := h
    simp [EventLog.last, hgetLast]
  rw [← hlast]
  exact EventLog.le_last (List.mem_filter.mpr ⟨hother, by simpa using hsame⟩)

theorem loadLatestSnapshot_eq_none {cycleId : String}
    (h : store.loadLatestSnapshot cycleId = none) :
    ∀ snapshot ∈ store.snapshots.entries, snapshot.cycleId ≠ cycleId := by
  intro snapshot hmem hcycle
  have hnil := List.getLast?_eq_none_iff.mp h
  have hin : snapshot ∈ store.snapshots.entries.filter fun s => s.cycleId = cycleId :=
    List.mem_filter.mpr ⟨hmem, by simpa using hcycle⟩
  rw [hnil] at hin
  exact absurd hin (by simp)

theorem le_of_snapshot {snapshot : CycleSnapshot} (h : snapshot ∈ store.snapshots.entries) :
    snapshot.lastEventSequence ≤ store.events.last :=
  le_trans (EventLog.le_last h) store.snapshots_le

/-! ## What another writer does -/

/-- Events were appended; the snapshots are as they were. -/
structure Journals (store store' : SqliteJournalStore) : Prop where
  events : store.events.Extends store'.events
  snapshots : store'.snapshots = store.snapshots

theorem Journals.refl (store : SqliteJournalStore) : Journals store store :=
  ⟨.refl _, rfl⟩

theorem Journals.trans {store store' store'' : SqliteJournalStore} (h : Journals store store')
    (h' : Journals store' store'') : Journals store store'' :=
  ⟨h.events.trans h'.events, h'.snapshots.trans h.snapshots⟩

theorem journals_insertEvent {event : PendingJournalEvent} (h : store.NewId event.eventId) :
    Journals store (store.insertEvent event h) :=
  ⟨EventLog.extends_append (store.last_lt_stored event), rfl⟩

end SqliteJournalStore

end CreditHedge
