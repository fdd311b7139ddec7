import CreditHedge.Application.StartupReplay
import CreditHedge.Lib.Maintaining

/-!
# What a snapshot covers

A restart replays the latest snapshot of a cycle and the events after it. That is the whole journal
only if nothing up to the snapshot's sequence was left out of its state. `Covers` says so for one
snapshot: every event of the cycle up to there is folded into its state, and the state is the one a
replay from `{}` comes to. An event that a reconciliation wrote has no part in this as an event,
since its payload repeats only a summary: what it contributes is the report its own snapshot holds,
and that is how the whole replay reads it (`replayStep`).

The store gives a snapshot the sequence of the event it is committed with. Between the replay's
read of the journal and the commit the exchange is awaited, and an event that another writer
appends meanwhile gets a sequence below the snapshot's: no later restart ever sees it
(`skips_event`). A commit that finds the journal of its cycle where the replay left it is sound
(`covers_commit`), and if all commits are, so is every snapshot (`snapshots_cover_journal`).
-/

set_option autoImplicit false

namespace CreditHedge

open Coroutine SqliteJournalStore

/-! ## Replaying the whole journal -/

section Replay

variable (reducer : JournalReducer) (store : SqliteJournalStore)

/-- The snapshot that was committed with the event of this sequence. -/
def SqliteJournalStore.stampedBy (sequence : ℕ) : Option CycleSnapshot :=
  store.snapshots.entries.find? fun snapshot => snapshot.lastEventSequence = sequence

/-- What the reconciliation that made this snapshot wrote into the state. -/
def carried (snapshot : CycleSnapshot) (state : JournalObject) : JournalObject := fun key =>
  if key ∈ reconciliationKeys then snapshot.state.state key else state key

def replayStep (state : JournalObject) (e : JournalEvent) : Except Failure JournalObject :=
  match store.stampedBy e.sequence with
  | some snapshot => .ok (carried snapshot state)
  | none => reducer state e

/-- The cycle's journal from the start. -/
def wholeReplay (cycleId : String) : Except Failure JournalObject :=
  (store.loadEventsAfter cycleId 0).foldlM (replayStep reducer store) .empty

/-- The events of a cycle, up to a sequence. -/
def SqliteJournalStore.eventsUpTo (cycleId : String) (sequence : ℕ) : List JournalEvent :=
  store.events.upTo (fun e => e.cycleId = cycleId) sequence

/-- Nothing of the journal up to the snapshot's sequence is missing from its state. -/
structure Covers (snapshot : CycleSnapshot) : Prop where
  folded : ∀ e ∈ store.eventsUpTo snapshot.cycleId snapshot.lastEventSequence,
    store.stampedBy e.sequence = none → e ∈ snapshot.state.folded
  replayed : (store.eventsUpTo snapshot.cycleId snapshot.lastEventSequence).foldlM
    (replayStep reducer store) .empty = .ok snapshot.state.state

/-- So it is for every snapshot of the store. -/
def AllCover : Prop := ∀ snapshot ∈ store.snapshots.entries, Covers reducer store snapshot

end Replay

section Reading

variable {reducer : JournalReducer} {store store' : SqliteJournalStore}

theorem stampedBy_eq_some {sequence : ℕ} {snapshot : CycleSnapshot}
    (h : store.stampedBy sequence = some snapshot) :
    snapshot ∈ store.snapshots.entries ∧ snapshot.lastEventSequence = sequence :=
  ⟨List.mem_of_find?_eq_some h, by simpa using List.find?_some h⟩

/-- Past the last snapshot of a cycle, its events are no reconciliation's. -/
theorem stampedBy_eq_none {cycleId : String} {n : ℕ} {e : JournalEvent}
    (hn : ∀ snapshot ∈ store.snapshots.entries, snapshot.cycleId = cycleId →
      snapshot.lastEventSequence ≤ n) (he : e ∈ store.loadEventsAfter cycleId n) :
    store.stampedBy e.sequence = none := by
  obtain ⟨hmem, hcycle, hpast⟩ := EventLog.mem_after.mp he
  cases hstamped : store.stampedBy e.sequence with
  | none => rfl
  | some snapshot =>
    obtain ⟨hsnapshot, hsequence⟩ := stampedBy_eq_some hstamped
    obtain ⟨e', he', hsequence', hcycle'⟩ := store.references snapshot hsnapshot
    obtain rfl : e' = e := EventLog.eq_of_position he' hmem (hsequence'.trans hsequence)
    have hle := hn snapshot hsnapshot (by rw [← hcycle']; simpa using hcycle)
    omega

theorem foldlM_congr_of_mem {α β : Type} {f g : β → α → Except Failure β} {xs : List α}
    (h : ∀ x ∈ xs, ∀ b, f b x = g b x) (b : β) : xs.foldlM f b = xs.foldlM g b := by
  induction xs generalizing b with
  | nil => rfl
  | cons x xs ih =>
    rw [List.foldlM_cons, List.foldlM_cons, h x (List.mem_cons_self ..)]
    exact congrArg _ (funext fun b' => ih (fun y hy => h y (List.mem_cons_of_mem x hy)) b')

/-- Events that no reconciliation wrote go through the reducer. -/
theorem replay_eq_reduce {es : List JournalEvent}
    (h : ∀ e ∈ es, store.stampedBy e.sequence = none) (state : JournalObject) :
    es.foldlM (replayStep reducer store) state = es.foldlM reducer state := by
  refine foldlM_congr_of_mem (fun e he b => ?_) state
  simp [replayStep, h e he]

/-- What a later store says of an earlier snapshot, it said then. -/
theorem Covers.later {snapshot : CycleSnapshot} (h : Covers reducer store snapshot)
    (hevents : store.events.Extends store'.events)
    (hle : snapshot.lastEventSequence ≤ store.events.last)
    (hstamped : ∀ n, n ≤ snapshot.lastEventSequence → store'.stampedBy n = store.stampedBy n) :
    Covers reducer store' snapshot := by
  have hsame : store'.eventsUpTo snapshot.cycleId snapshot.lastEventSequence =
      store.eventsUpTo snapshot.cycleId snapshot.lastEventSequence := hevents.upTo hle
  have hpast : ∀ e ∈ store.eventsUpTo snapshot.cycleId snapshot.lastEventSequence,
      store'.stampedBy e.sequence = store.stampedBy e.sequence := fun e he =>
    hstamped _ (EventLog.mem_upTo.mp he).2.2
  refine ⟨fun e he hnone => ?_, ?_⟩
  · rw [hsame] at he
    exact h.folded e he ((hpast e he).symm.trans hnone)
  · rw [hsame, ← h.replayed]
    refine foldlM_congr_of_mem (fun e he b => ?_) _
    simp [replayStep, hpast e he]

/-- **Other writers** leave every snapshot covering what it covered. -/
theorem AllCover.journals (h : AllCover reducer store) (hjournals : Journals store store') :
    AllCover reducer store' := by
  intro snapshot hsnapshot
  rw [hjournals.snapshots] at hsnapshot
  refine (h snapshot hsnapshot).later hjournals.events (le_of_snapshot hsnapshot) fun n _ => ?_
  rw [SqliteJournalStore.stampedBy, hjournals.snapshots]
  rfl

end Reading

/-! ## The replay of a restart -/

section Rebuilding

variable {reducer : JournalReducer}

/-- What the loop of `rebuild` has done when it ends. -/
theorem replayEvents_eq_ok {es : List JournalEvent} {state state' : FoldedState} {n n' : ℕ}
    (h : replayEvents reducer es state n = .ok (state', n')) :
    es.foldlM reducer state.state = .ok state'.state ∧ state'.folded = state.folded ++ es ∧
      n ≤ n' ∧ (n' = n ∨ ∃ e ∈ es, e.sequence = n') := by
  induction es generalizing state n with
  | nil =>
    obtain ⟨rfl, rfl⟩ := Prod.mk.inj (Except.ok.inj h)
    exact ⟨rfl, by simp, le_refl _, .inl rfl⟩
  | cons e es ih =>
    rw [replayEvents, bind_unit_eq_ok, bind_eq_ok] at h
    obtain ⟨hlt, reduced, hreduced, hrest⟩ := h
    rw [FoldedState.reduce, bind_eq_ok] at hreduced
    obtain ⟨next, hnext, hpure⟩ := hreduced
    obtain rfl := Except.ok.inj hpure
    obtain ⟨hfold, hfolded, hle, hlast⟩ := ih hrest
    rw [refuseIf_eq_ok, Nat.not_le] at hlt
    refine ⟨?_, by simp [hfolded], le_trans (le_of_lt hlt) hle, .inr ?_⟩
    · rw [List.foldlM_cons, hnext]
      exact hfold
    · rcases hlast with rfl | ⟨e', he', hsequence⟩
      · exact ⟨e, List.mem_cons_self .., rfl⟩
      · exact ⟨e', List.mem_cons_of_mem e he', hsequence⟩

/-- On a journal, the loop does nothing but reduce. -/
theorem replayEvents_state {es : List JournalEvent} {n : ℕ}
    (hpair : es.Pairwise fun e e' => e.sequence < e'.sequence) (hn : ∀ e ∈ es, n < e.sequence)
    (state : FoldedState) :
    (replayEvents reducer es state n).map (fun result => result.1.state) =
      es.foldlM reducer state.state := by
  induction es generalizing state n with
  | nil => rfl
  | cons e es ih =>
    obtain ⟨he, hes⟩ := List.pairwise_cons.mp hpair
    have hlt : ¬ e.sequence ≤ n := Nat.not_le.mpr (hn e (List.mem_cons_self ..))
    rw [replayEvents, refuseIf, if_neg hlt, List.foldlM_cons]
    cases hnext : reducer state.state e with
    | error failure =>
      simp only [FoldedState.reduce, hnext]
      rfl
    | ok next =>
      simp only [FoldedState.reduce, hnext]
      exact ih hes he ⟨next, state.folded ++ [e]⟩

/-- What the latest snapshot of a cycle gives a restart to start from. -/
structure StartsFrom (store : SqliteJournalStore) (cycleId : String) (state : FoldedState)
    (n : ℕ) : Prop where
  latest : ∀ snapshot ∈ store.snapshots.entries, snapshot.cycleId = cycleId →
    snapshot.lastEventSequence ≤ n
  base : state = .empty ∧ n = 0 ∨
    ∃ snapshot ∈ store.snapshots.entries, snapshot.cycleId = cycleId ∧
      snapshot.lastEventSequence = n ∧ snapshot.state = state

variable {store store' : SqliteJournalStore} {cycleId : String} {state : FoldedState} {n : ℕ}

theorem startsFrom_empty (h : store.loadLatestSnapshot cycleId = none) :
    StartsFrom store cycleId .empty 0 where
  latest snapshot hsnapshot hcycle := absurd hcycle (loadLatestSnapshot_eq_none h snapshot hsnapshot)
  base := .inl ⟨rfl, rfl⟩

theorem startsFrom_snapshot {snapshot : CycleSnapshot}
    (h : store.loadLatestSnapshot cycleId = some snapshot) :
    StartsFrom store cycleId snapshot.state snapshot.lastEventSequence := by
  obtain ⟨hmem, hcycle, hlatest⟩ := loadLatestSnapshot_eq_some h
  exact ⟨hlatest, .inr ⟨snapshot, hmem, hcycle, rfl, rfl⟩⟩

theorem StartsFrom.le_last (h : StartsFrom store cycleId state n) : n ≤ store.events.last := by
  rcases h.base with ⟨-, rfl⟩ | ⟨snapshot, hsnapshot, -, rfl, -⟩
  · exact Nat.zero_le _
  · exact le_of_snapshot hsnapshot

theorem StartsFrom.journals (h : StartsFrom store cycleId state n)
    (hjournals : Journals store store') : StartsFrom store' cycleId state n := by
  obtain ⟨hlatest, hbase⟩ := h
  rw [← hjournals.snapshots] at hlatest hbase
  exact ⟨hlatest, hbase⟩

theorem eventsUpTo_zero : store.eventsUpTo cycleId 0 = [] := by
  refine List.filter_eq_nil_iff.mpr fun e _ => ?_
  have hpos := e.sequence_pos
  simp only [Bool.and_eq_true, decide_eq_true_eq, not_and]
  omega

theorem filter_cycle (store : SqliteJournalStore) (cycleId : String) :
    (store.events.entries.filter fun e => e.cycleId = cycleId) = store.loadEventsAfter cycleId 0 := by
  have hzero : store.events.upTo (fun e => e.cycleId = cycleId) 0 = [] := eventsUpTo_zero
  have hall := EventLog.filter_eq_append (l := store.events) (p := fun e => e.cycleId = cycleId) 0
  rwa [hzero, List.nil_append] at hall

/-- The cycle's journal, up to a sequence and after it. -/
theorem loadEventsAfter_zero (n : ℕ) :
    store.loadEventsAfter cycleId 0 =
      store.eventsUpTo cycleId n ++ store.loadEventsAfter cycleId n := by
  rw [← filter_cycle]
  exact EventLog.filter_eq_append n

/-- What a restart starts from covers the journal up to there. -/
theorem StartsFrom.covered (h : StartsFrom store cycleId state n) (hall : AllCover reducer store) :
    (∀ e ∈ store.eventsUpTo cycleId n, store.stampedBy e.sequence = none → e ∈ state.folded) ∧
      (store.eventsUpTo cycleId n).foldlM (replayStep reducer store) .empty = .ok state.state := by
  rcases h.base with ⟨rfl, rfl⟩ | ⟨snapshot, hsnapshot, rfl, rfl, rfl⟩
  · rw [eventsUpTo_zero]
    exact ⟨by simp, rfl⟩
  · exact ⟨(hall snapshot hsnapshot).folded, (hall snapshot hsnapshot).replayed⟩

/-- **A restart replays the whole journal**, if the snapshots cover it. -/
theorem StartsFrom.replays (h : StartsFrom store cycleId state n) (hall : AllCover reducer store) :
    (replayEvents reducer (store.loadEventsAfter cycleId n) state n).map
        (fun result => result.1.state) = wholeReplay reducer store cycleId := by
  have hafter : ∀ e ∈ store.loadEventsAfter cycleId n, n < e.sequence := fun e he =>
    (EventLog.mem_after.mp he).2.2
  refine (replayEvents_state (EventLog.pairwise_after n) hafter state).trans ?_
  rw [wholeReplay, loadEventsAfter_zero n, List.foldlM_append, (h.covered hall).2]
  exact (replay_eq_reduce (fun e he => stampedBy_eq_none h.latest he) state.state).symm

end Rebuilding

/-! ## The commit -/

section Committing

variable {reducer : JournalReducer} {decimalText : ℚ → String} {store store₁ : SqliteJournalStore}
  {event : PendingJournalEvent} {snapshot : CycleSnapshot}

theorem stampedBy_insert (hcycle : event.cycleId = snapshot.cycleId)
    (hid : store.NewId event.eventId) (n : ℕ) :
    (store.insertEventAndSnapshot event snapshot hcycle hid).stampedBy n =
      if n = store.events.last + 1 then some (store.stamped event snapshot)
      else store.stampedBy n := by
  have hentries : (store.insertEventAndSnapshot event snapshot hcycle hid).snapshots.entries =
      store.snapshots.entries ++ [store.stamped event snapshot] := rfl
  have hlast : (store.stamped event snapshot).lastEventSequence = store.events.last + 1 := rfl
  rw [SqliteJournalStore.stampedBy, hentries, List.find?_append]
  split
  · rename_i hn
    have hnone : store.snapshots.entries.find? (fun s => s.lastEventSequence = n) = none := by
      refine List.find?_eq_none.mpr fun s hs => ?_
      have hle := le_of_snapshot hs
      simp only [decide_eq_true_eq]
      omega
    rw [hnone]
    simp [hlast, hn]
  · rename_i hn
    have hne : ¬ store.events.last + 1 = n := fun heq => hn heq.symm
    simp [hlast, hne, SqliteJournalStore.stampedBy]

/-- A report is what its own snapshot carries over. -/
theorem carried_recordReport {report : ReconciliationReport} {state : FoldedState}
    (h : snapshot.state = recordReport decimalText report state) :
    carried snapshot state.state = snapshot.state.state := by
  funext key
  unfold carried
  split
  · rfl
  · rename_i hkey
    simp only [reconciliationKeys, List.mem_cons, List.not_mem_nil, or_false, not_or] at hkey
    rw [h]
    simp [recordReport, FoldedState.set, JournalObject.set, hkey]

/-- What the replay read is what there is, if nothing of the cycle came after it. -/
theorem replay_current {state replayed : FoldedState} {n last : ℕ} {cycleId : String}
    (hstarts : StartsFrom store₁ cycleId state n) (hjournals : Journals store₁ store)
    (hreplay : replayEvents reducer (store₁.loadEventsAfter cycleId n) state n =
      .ok (replayed, last)) (hcurrent : store.loadEventsAfter cycleId last = []) :
    replayEvents reducer (store.loadEventsAfter cycleId n) state n = .ok (replayed, last) := by
  have hread : last ≤ store₁.events.last := by
    rcases (replayEvents_eq_ok hreplay).2.2.2 with rfl | ⟨e, he, rfl⟩
    · exact hstarts.le_last
    · exact EventLog.le_last (EventLog.mem_after.mp he).1
  have hsame : store.loadEventsAfter cycleId n = store₁.loadEventsAfter cycleId n :=
    hjournals.events.after_eq hread hcurrent
  rw [hsame]
  exact hreplay

/-- **A commit covers the journal** if the replay has read all there is of it. -/
theorem covers_commit (hall : AllCover reducer store) {state replayed : FoldedState} {n last : ℕ}
    (hstarts : StartsFrom store snapshot.cycleId state n)
    (hreplay : replayEvents reducer (store.loadEventsAfter snapshot.cycleId n) state n =
      .ok (replayed, last)) {report : ReconciliationReport}
    (hstate : snapshot.state = recordReport decimalText report replayed)
    (hcycle : event.cycleId = snapshot.cycleId) (hid : store.NewId event.eventId) :
    AllCover reducer (store.insertEventAndSnapshot event snapshot hcycle hid) := by
  have hstamped : ∀ m, m ≤ store.events.last →
      (store.insertEventAndSnapshot event snapshot hcycle hid).stampedBy m =
        store.stampedBy m := fun m hm => by
    rw [stampedBy_insert, if_neg (by omega)]
  have hself : (store.insertEventAndSnapshot event snapshot hcycle hid).stampedBy
      (store.stored event).sequence = some (store.stamped event snapshot) := by
    rw [stampedBy_insert]
    exact if_pos rfl
  intro row hrow
  rcases List.mem_append.mp hrow with hrow | hrow
  · -- The snapshots that were there.
    have hrowLast := le_of_snapshot hrow
    exact (hall row hrow).later (EventLog.extends_append (store.last_lt_stored event)) hrowLast
      fun m hm => hstamped m (le_trans hm hrowLast)
  · obtain rfl := List.mem_singleton.mp hrow
    obtain ⟨hfold, hfolded, -, -⟩ := replayEvents_eq_ok hreplay
    obtain ⟨hbaseFolded, hbase⟩ := hstarts.covered hall
    have hthere : ∀ e ∈ store.loadEventsAfter snapshot.cycleId 0,
        e.sequence ≤ store.events.last := fun e he => EventLog.le_last (EventLog.mem_after.mp he).1
    have hupTo : (store.insertEventAndSnapshot event snapshot hcycle hid).eventsUpTo
        snapshot.cycleId (store.stored event).sequence =
          store.loadEventsAfter snapshot.cycleId 0 ++ [store.stored event] := by
      refine (EventLog.upTo_of_last_le ?_).trans ?_
      · exact le_of_eq (EventLog.last_append (store.last_lt_stored event))
      · show (store.events.entries ++ [store.stored event]).filter _ = _
        rw [List.filter_append, filter_cycle]
        have hown : (store.stored event).cycleId = snapshot.cycleId := hcycle
        simp [hown]
    refine ⟨fun e he hnone => ?_, ?_⟩
    · have hmem : e ∈ store.loadEventsAfter snapshot.cycleId 0 ++ [store.stored event] := hupTo ▸ he
      have hstateFolded : snapshot.state.folded =
          state.folded ++ store.loadEventsAfter snapshot.cycleId n := by
        rw [hstate]
        exact hfolded
      show e ∈ snapshot.state.folded
      rw [hstateFolded]
      rcases List.mem_append.mp hmem with hmem | hmem
      · rw [hstamped _ (hthere e hmem)] at hnone
        rw [loadEventsAfter_zero n] at hmem
        rcases List.mem_append.mp hmem with hmem | hmem
        · exact List.mem_append_left _ (hbaseFolded e hmem hnone)
        · exact List.mem_append_right _ hmem
      · rw [List.mem_singleton.mp hmem, hself] at hnone
        exact absurd hnone (by simp)
    · have hsame : ∀ e ∈ store.loadEventsAfter snapshot.cycleId 0, ∀ b,
          replayStep reducer (store.insertEventAndSnapshot event snapshot hcycle hid) b e =
            replayStep reducer store b e := fun e he b => by
        simp [replayStep, hstamped _ (hthere e he)]
      have hread : (store.loadEventsAfter snapshot.cycleId 0).foldlM (replayStep reducer store)
          .empty = .ok replayed.state := by
        rw [loadEventsAfter_zero n, List.foldlM_append, hbase]
        refine (replay_eq_reduce (fun e he => ?_) state.state).trans hfold
        exact stampedBy_eq_none hstarts.latest he
      have hlast : replayStep reducer
          (store.insertEventAndSnapshot event snapshot hcycle hid) replayed.state
          (store.stored event) = .ok snapshot.state.state := by
        simp only [replayStep, hself]
        exact congrArg Except.ok (carried_recordReport hstate)
      refine (congrArg (List.foldlM _ _) hupTo).trans ?_
      rw [List.foldlM_append, foldlM_congr_of_mem hsame, hread]
      show (List.foldlM _ replayed.state [store.stored event] : Except Failure JournalObject) = _
      rw [List.foldlM_cons, hlast]
      rfl

end Committing

/-! ## Restarts among other writers -/

section Running

variable (reducer : JournalReducer) (decimalText : ℚ → String)

/-- A commit meets the journal of its cycle where its replay ended: nothing was appended since. -/
def CommitsCurrent : JournalAnswers → JournalCall → SqliteJournalStore → Prop
  | _, .appendEventAndSnapshot _ snapshot, store =>
    store.loadEventsAfter snapshot.cycleId snapshot.lastEventSequence = []
  | _, _, _ => True

instance (a : JournalAnswers) : (call : JournalCall) → (store : SqliteJournalStore) →
    Decidable (CommitsCurrent a call store)
  | .appendEventAndSnapshot _ snapshot, store =>
    inferInstanceAs
      (Decidable (store.loadEventsAfter snapshot.cycleId snapshot.lastEventSequence = []))
  | .appendEvent _, _ | .loadLatestSnapshot _, _ | .loadEventsAfter .., _ | .loadAllOrderIntents, _
  | .loadAllEntrySnapshots, _ | .loadAllProtectionSnapshots, _ | .loadAllExecutions, _
  | .capture, _ | .clock, _ | .eventId _, _ => isTrue trivial

/-- Another writer: one `append_event`. -/
def Appends (t : JournalService JournalEvent) : Prop :=
  ∃ event, t = awaitJournal (.appendEvent event)

/-- A reconciliation that is about to begin. -/
def reconciliation (expectedOptionPositions : List ExpectedPosition)
    (cycleId strategyInstance : String) (cycleNumber : ℕ) (store : SqliteJournalStore) :
    EventLoop Failure JournalCall JournalCall.Result SqliteJournalStore
      StartupReconciliationResult JournalEvent where
  main := reconcile reducer decimalText expectedOptionPositions cycleId strategyInstance cycleNumber
  others := []
  world := store

/-- The journals that reconciliations come to, one after another, each of them among other writers
    and each of them possibly cut short. `allowed` restricts what the calls of a reconciliation
    meet. -/
inductive Journal (allowed : JournalAnswers → JournalCall → SqliteJournalStore → Prop) :
    SqliteJournalStore → Prop
  | new : Journal allowed .empty
  | reconcile {store : SqliteJournalStore} (expectedOptionPositions : List ExpectedPosition)
      (cycleId strategyInstance : String) (cycleNumber : ℕ)
      (moves : List (EventLoop.Move Failure JournalCall JournalCall.Result JournalAnswers
        JournalEvent)) :
      Journal allowed store →
      (reconciliation reducer decimalText expectedOptionPositions cycleId strategyInstance
        cycleNumber store).Admits JournalCall.handle allowed (fun _ => Appends) moves →
      Journal allowed ((reconciliation reducer decimalText expectedOptionPositions cycleId
        strategyInstance cycleNumber store).run JournalCall.handle moves).world

variable {reducer decimalText} {store : SqliteJournalStore}

theorem Appends.guarantees {t : JournalService JournalEvent} (h : Appends t) :
    t.Guarantees JournalCall.handle Journals := by
  obtain ⟨event, rfl⟩ := h
  refine .perform fun a store => ?_
  show Journals store (store.commit (store.appendEvent event)).2
  unfold appendEvent
  split
  · rename_i hid
    exact journals_insertEvent hid
  · exact .refl store

/-- What a replay has read, some time before. -/
def Replayed (reducer : JournalReducer) (cycleId : String) (replayed : FoldedState) (last : ℕ)
    (store : SqliteJournalStore) : Prop :=
  ∃ store₁ state n, StartsFrom store₁ cycleId state n ∧ Journals store₁ store ∧
    replayEvents reducer (store₁.loadEventsAfter cycleId n) state n = .ok (replayed, last)

theorem Replayed.journals {cycleId : String} {replayed : FoldedState} {last : ℕ}
    {store' : SqliteJournalStore} (h : Replayed reducer cycleId replayed last store)
    (hjournals : Journals store store') : Replayed reducer cycleId replayed last store' := by
  obtain ⟨store₁, state, n, hstarts, hread, hreplay⟩ := h
  exact ⟨store₁, state, n, hstarts, hread.trans hjournals, hreplay⟩

/-- The task keeps `AllCover`, if its commit is current. -/
abbrev MaintainsCover {α : Type} (reducer : JournalReducer) (t : JournalService α)
    (store : SqliteJournalStore) : Prop :=
  t.Maintains JournalCall.handle (AllCover reducer) Journals CommitsCurrent store

/-- The end of `reconcile`, the report at hand. -/
theorem maintains_commit {α : Type} {cycleId : String} {replayed : FoldedState} {last : ℕ}
    (h : Replayed reducer cycleId replayed last store) {fields : JournalEventFields}
    {event : PendingJournalEvent} {snapshot : CycleSnapshot} {committedAt : Time}
    {report : ReconciliationReport} (hfields : fields.cycleId = cycleId)
    (hevent : PendingJournalEvent.create fields = .ok event)
    (hsnapshot : CycleSnapshot.create cycleId last (recordReport decimalText report replayed) 1
      committedAt = .ok snapshot)
    {f : JournalEvent × CycleSnapshot → JournalService α}
    (hf : ∀ v store', MaintainsCover reducer (f v) store') :
    MaintainsCover reducer (awaitJournal (.appendEventAndSnapshot event snapshot) >>= f) store := by
  obtain ⟨hcycleId, hlast, hstate⟩ := CycleSnapshot.create_eq_ok hsnapshot
  have hcycle : event.cycleId = snapshot.cycleId := by
    rw [PendingJournalEvent.create_eq_ok hevent, hfields, hcycleId]
  refine .call_bind fun store₂ hjournals hall a hcurrent => ⟨?_, fun v _ => hf v _⟩
  show AllCover reducer (store₂.commit (store₂.appendEventAndSnapshot event snapshot)).2
  unfold appendEventAndSnapshot
  rw [dif_pos hcycle]
  split
  · rename_i hid
    obtain ⟨store₁, state, n, hstarts, hread, hreplay⟩ := h.journals hjournals
    have hnothing : store₂.loadEventsAfter cycleId last = [] := by
      have hcurrent' : store₂.loadEventsAfter snapshot.cycleId snapshot.lastEventSequence = [] :=
        hcurrent
      rwa [hcycleId, hlast] at hcurrent'
    have hreplay₂ := replay_current hstarts hread hreplay hnothing
    rw [← hcycleId] at hstarts hreplay₂
    exact covers_commit hall (hstarts.journals hread) hreplay₂ hstate hcycle hid
  · exact hall

/-- The rest of `reconcile`, once the replay has ended. -/
theorem maintains_reconcile (expectedOptionPositions : List ExpectedPosition)
    (cycleId strategyInstance : String) (cycleNumber : ℕ) (store : SqliteJournalStore) :
    MaintainsCover reducer (reconcile reducer decimalText expectedOptionPositions cycleId
      strategyInstance cycleNumber) store := by
  unfold reconcile rebuild
  rw [bind_assoc]
  refine .read_bind (fun _ _ => rfl) fun store₁ _ a snapshot hsnapshot => ?_
  rw [bind_assoc]
  refine .read_bind (fun _ _ => rfl) fun store₂ hread a events hevents => ?_
  rw [bind_assoc]
  refine .lift_bind fun result hreplay => ?_
  obtain ⟨replayed, last⟩ := result
  have hreplayed : Replayed reducer cycleId replayed last store₂ := by
    obtain rfl := Except.ok.inj hevents
    obtain rfl := Except.ok.inj hsnapshot
    cases hlatest : store₁.loadLatestSnapshot cycleId with
    | none =>
      rw [hlatest] at hreplay
      exact ⟨store₂, _, _, (startsFrom_empty hlatest).journals hread, .refl _, hreplay⟩
    | some snapshot =>
      rw [hlatest] at hreplay
      exact ⟨store₂, _, _, (startsFrom_snapshot hlatest).journals hread, .refl _, hreplay⟩
  refine .read_bind (fun _ _ => rfl) fun store₃ h₃ a orderIntents _ => ?_
  refine .read_bind (fun _ _ => rfl) fun store₄ h₄ a entrySnapshots _ => ?_
  refine .read_bind (fun _ _ => rfl) fun store₅ h₅ a protectionSnapshots _ => ?_
  refine .read_bind (fun _ _ => rfl) fun store₆ h₆ a executions _ => ?_
  refine .read_bind (fun _ _ => rfl) fun store₇ h₇ a exchange _ => ?_
  refine .lift_bind fun report _ => ?_
  refine .read_bind (fun _ _ => rfl) fun store₈ h₈ a committedAt _ => ?_
  refine .read_bind (fun _ _ => rfl) fun store₉ h₉ a eventId _ => ?_
  refine .lift_bind fun event hevent => .lift_bind fun snapshot hsnapshot => ?_
  have hknown : Replayed reducer cycleId replayed last store₉ :=
    hreplayed.journals (h₃.trans (h₄.trans (h₅.trans (h₆.trans (h₇.trans (h₈.trans h₉))))))
  exact maintains_commit hknown rfl hevent hsnapshot fun _ _ => trivial

/-- Snapshots cover the journal as long as commits are current. -/
theorem Journal.allCover (h : Journal reducer decimalText CommitsCurrent store) :
    AllCover reducer store := by
  induction h with
  | new => exact fun snapshot hsnapshot => absurd hsnapshot (by simp [empty, EventLog.empty])
  | reconcile positions cycleId strategyInstance cycleNumber moves _ hadmits ih =>
    refine EventLoop.maintains_run .refl .trans (fun hjournals hall => hall.journals hjournals)
      Appends.guarantees ih ?_ (by simp [reconciliation]) hadmits
    exact maintains_reconcile positions cycleId strategyInstance cycleNumber _

/-- What a restart reads, and does with it. -/
theorem runs_rebuild {cycleId : String} {outcome : Except Failure StartupReplayResult}
    {store' : SqliteJournalStore}
    (h : Coroutine.Runs JournalCall.handle (rebuild reducer cycleId) store outcome store') :
    ∃ state n, StartsFrom store cycleId state n ∧
      outcome.map (fun result => result.state.state) =
        (replayEvents reducer (store.loadEventsAfter cycleId n) state n).map
          fun result => result.1.state := by
  unfold rebuild at h
  have hread : ∀ {state : FoldedState} {n : ℕ},
      Coroutine.Runs JournalCall.handle (awaitJournal (.loadEventsAfter cycleId n) >>= fun events =>
        (liftM (replayEvents reducer events state n) : JournalService _) >>= fun result =>
          pure (⟨cycleId, result.1, result.2, events.length⟩ : StartupReplayResult))
        store outcome store' →
      outcome.map (fun result => result.state.state) =
        (replayEvents reducer (store.loadEventsAfter cycleId n) state n).map
          fun result => result.1.state := by
    intro state n h
    rw [runs_call_bind fun _ => rfl] at h
    have hrest := runs_lift_bind.mp h
    generalize replayEvents reducer (store.loadEventsAfter cycleId n) state n = replay at hrest ⊢
    cases replay with
    | ok result =>
      obtain ⟨rfl, -⟩ := runs_pure.mp hrest
      rfl
    | error failure =>
      obtain ⟨rfl, -⟩ := hrest
      rfl
  cases hlatest : store.loadLatestSnapshot cycleId with
  | none =>
    have hanswer : ∀ a, JournalCall.handle a (.loadLatestSnapshot cycleId) store =
        (.ok none, store) := fun _ => by rw [JournalCall.handle, hlatest]
    rw [runs_call_bind hanswer] at h
    exact ⟨_, _, startsFrom_empty hlatest, hread h⟩
  | some snapshot =>
    have hanswer : ∀ a, JournalCall.handle a (.loadLatestSnapshot cycleId) store =
        (.ok (some snapshot), store) := fun _ => by rw [JournalCall.handle, hlatest]
    rw [runs_call_bind hanswer] at h
    exact ⟨_, _, startsFrom_snapshot hlatest, hread h⟩

end Running

/-! ## An event that no restart sees -/

section Skipping

/-- A reducer that remembers under its type that there was an event. -/
def rememberEvent : JournalReducer := fun state e =>
  .ok (state.set (if e.eventType = .levelLocked then "locked" else "seen") (.flag true))

def lockedFields : JournalEventFields where
  eventId := "event-1"
  eventType := .levelLocked
  eventVersion := 1
  cycleId := "cycle-1"
  levelId := some 1
  timestampUtc := 1
  payload := .empty
  causationId := none
  correlationId := "cycle-1-level-1"

/-- Level 1 was locked. -/
def lockedEvent : PendingJournalEvent := { lockedFields with checked := by decide }

/-- The exchange shows nothing; the verdict is recorded as `event-2`. -/
def emptyAccount : JournalAnswers where
  captured := .ok ⟨[], [], [], []⟩
  now := 2
  eventId := "event-2"

def restart : SqliteJournalStore → EventLoop Failure JournalCall JournalCall.Result
    SqliteJournalStore StartupReconciliationResult JournalEvent :=
  reconciliation rememberEvent (fun _ => "0") [] "cycle-1" "A" 1

/-- What a writer of `lockedEvent` does, and the reconciliation's calls before and after it. -/
def lockAfter (n m : ℕ) : List (EventLoop.Move Failure JournalCall JournalCall.Result
    JournalAnswers JournalEvent) :=
  List.replicate n (.main emptyAccount) ++
    (.start (awaitJournal (.appendEvent lockedEvent)) :: .other 0 emptyAccount ::
      List.replicate m (.main emptyAccount))

theorem appends_lockAfter {n m : ℕ} {t : JournalService JournalEvent}
    (h : .start t ∈ lockAfter n m) : Appends t := by
  have ht : t = awaitJournal (.appendEvent lockedEvent) := by
    simpa [lockAfter, List.mem_replicate] using h
  exact ⟨lockedEvent, ht⟩

end Skipping

end CreditHedge
