import CreditHedge.Interfaces.DemoRunner

/-!
# What an emergency close books

A call of `_apply_emergency_exit` first loads, then writes. What it is going to write is settled
by what it has loaded: which snapshots, and with which share of the execution each. That is its
`plan`, and `runs_applyEmergencyExit` says that the call carries it out and then checks that
nothing of the execution is left over.

A plan is the same whatever happens afterwards, so what is true of all of them is a lemma about
the store (`plan_sound`): its shares fit the protections they are for and add up to no more than
the execution. The rest is one induction over its bookings (`runs_bookAll`): each is made if it is
possible, and the first that is not ends the call where it stands.
-/

set_option autoImplicit false

namespace CreditHedge

namespace DemoRunner

/-! ## The plan of a call -/

/-- One write of a call: a share of the execution for a protection, or an entry given up. -/
inductive Booking where
  | share (snapshot : ProtectionSnapshot) (allocation : ℚ)
  | giveUp (snapshot : EntryExecutionSnapshot)

def book (execution : ExecutionUpdate) : Booking → DemoTask Unit
  | .share snapshot allocation => do
    let updatedAt ← awaitDemo .clockTime
    let updated ← applyEmergencyExitExecution snapshot execution updatedAt (some allocation)
    awaitDemo (.transitionProtectionSnapshot snapshot.version updated)
  | .giveUp snapshot => do
    let updatedAt ← awaitDemo .clockTime
    let errored ← transitionEntrySnapshot snapshot .error updatedAt
    awaitDemo (.transitionEntrySnapshot snapshot.version errored)

def bookAll (execution : ExecutionUpdate) : List Booking → DemoTask Unit
  | [] => pure ()
  | booking :: rest => do
    book execution booking
    bookAll execution rest

/-- The shares of the open protections, and what is left after them. -/
def shares : List ProtectionSnapshot → ℚ → List Booking × ℚ
  | [], remaining => ([], remaining)
  | snapshot :: rest, remaining =>
    let allocation := min snapshot.openQuantity remaining
    if allocation = 0 then shares rest remaining
    else
      let (bookings, unallocated) := shares rest (remaining - allocation)
      (.share snapshot allocation :: bookings, unallocated)

/-- The entries that what is left covers whole, and what is left then. -/
def giveUps : List EntryExecutionSnapshot → ℚ → List Booking × ℚ
  | [], remaining => ([], remaining)
  | snapshot :: rest, remaining =>
    if remaining < snapshot.filledQuantity then ([], remaining)
    else
      let (bookings, unallocated) := giveUps rest (remaining - snapshot.filledQuantity)
      (.giveUp snapshot :: bookings, unallocated)

structure Plan where
  bookings : List Booking
  unallocated : ℚ

def Exposure.plan (exposure : Exposure) (execution : ExecutionUpdate) : Plan :=
  if exposure.active = 0 then { bookings := [], unallocated := 0 }
  else
    let (bookings, remaining) :=
      shares (byLevel (fun snapshot => snapshot.entryOrderLinkId) exposure.protections)
        (min execution.quantity exposure.active)
    let (entries, unallocated) :=
      giveUps (byLevel (fun snapshot => snapshot.orderLinkId) exposure.unprotectedEntries)
        remaining
    { bookings := bookings ++ entries, unallocated }

/-- What a call with this execution would do to this store. -/
def plan (execution : ExecutionUpdate) (store : SqliteExecutionStore) : Except Failure Plan := do
  let closeId ← parseCloseId execution
  let protections ← selectM (fun snapshot => inCycle closeId snapshot.entryOrderLinkId)
    store.loadAllProtectionSnapshots
  let exposure ← exposureOf closeId protections store.loadAllEntrySnapshots
  pure (exposure.plan execution)

section Plans

variable {execution : ExecutionUpdate}

theorem bookAll_append (bookings bookings' : List Booking) :
    bookAll execution (bookings ++ bookings') =
      bookAll execution bookings >>= fun _ => bookAll execution bookings' := by
  induction bookings with
  | nil => rfl
  | cons booking rest ih =>
    simp only [List.cons_append, bookAll, ih, Coroutine.bind_assoc]

theorem bookProtections_eq (snapshots : List ProtectionSnapshot) (remaining : ℚ) :
    bookProtections execution snapshots remaining =
      bookAll execution (shares snapshots remaining).1 >>= fun _ =>
        pure (shares snapshots remaining).2 := by
  induction snapshots generalizing remaining with
  | nil => rfl
  | cons snapshot rest ih =>
    unfold bookProtections shares
    dsimp only
    split
    · exact ih remaining
    · simp only [ih, bookAll, book, Coroutine.bind_assoc]

theorem giveUpEntries_eq (execution : ExecutionUpdate) (snapshots : List EntryExecutionSnapshot)
    (remaining : ℚ) :
    giveUpEntries snapshots remaining =
      bookAll execution (giveUps snapshots remaining).1 >>= fun _ =>
        pure (giveUps snapshots remaining).2 := by
  induction snapshots generalizing remaining with
  | nil => rfl
  | cons snapshot rest ih =>
    unfold giveUpEntries giveUps
    dsimp only
    split
    · rfl
    · simp only [ih, bookAll, book, Coroutine.bind_assoc]

theorem bookExposure_eq (exposure : Exposure) :
    bookExposure execution exposure =
      bookAll execution (exposure.plan execution).bookings >>= fun _ =>
        requireAllocated (exposure.plan execution).unallocated := by
  unfold bookExposure Exposure.plan
  split
  · have hnothing : requireAllocated 0 = pure () := if_neg (not_not.mpr rfl)
    exact hnothing.symm
  · simp only [bookProtections_eq, giveUpEntries_eq execution, bookAll_append,
      Coroutine.bind_assoc]
    rfl

/-- **A call carries out its plan.** What it raises before it has one, it raises with nothing
    written. -/
theorem runs_applyEmergencyExit {outcome : Except Failure Unit} {w w' : DemoWorld}
    (h : Coroutine.Runs handle (applyEmergencyExit execution) w outcome w') :
    (∃ failure, plan execution w.store = .error failure ∧ w' = w) ∨
      ∃ plan', plan execution w.store = .ok plan' ∧
        Coroutine.Runs handle
          (bookAll execution plan'.bookings >>= fun _ => requireAllocated plan'.unallocated)
          w outcome w' := by
  unfold plan
  unfold applyEmergencyExit at h
  cases hclose : parseCloseId execution with
  | error failure =>
    rw [hclose] at h
    exact .inl ⟨failure, rfl, (Coroutine.runs_done.mp h).2⟩
  | ok closeId =>
    rw [hclose] at h
    have h := (Coroutine.runs_call_bind fun _ => rfl).mp (Coroutine.runs_lift_bind.mp h)
    dsimp only at h
    cases hown : selectM (fun snapshot => inCycle closeId snapshot.entryOrderLinkId)
        w.store.loadAllProtectionSnapshots with
    | error failure =>
      rw [hown] at h
      exact .inl ⟨failure, by simp [bind, Except.bind, hown], (Coroutine.runs_done.mp h).2⟩
    | ok protections =>
      rw [hown] at h
      have h := (Coroutine.runs_call_bind fun _ => rfl).mp (Coroutine.runs_lift_bind.mp h)
      dsimp only at h
      cases hexposure : exposureOf closeId protections w.store.loadAllEntrySnapshots with
      | error failure =>
        rw [hexposure] at h
        exact .inl ⟨failure, by simp [bind, Except.bind, hown, hexposure],
          (Coroutine.runs_done.mp h).2⟩
      | ok exposure =>
        rw [hexposure] at h
        have h := Coroutine.runs_lift_bind.mp h
        dsimp only at h
        rw [bookExposure_eq] at h
        exact .inr ⟨exposure.plan execution, by simp [bind, Except.bind, hown, hexposure]; rfl, h⟩

end Plans

/-! ## One booking -/

/-- What the protections of the store come to, added up. -/
def total (store : SqliteExecutionStore) (f : ProtectionSnapshot → ℚ) : ℚ :=
  (store.protectionSnapshots.rows.map f).sum

/-- The protections are this much smaller, and the execution's price and fee are booked for it. -/
structure Booked (execution : ExecutionUpdate) (amount : ℚ)
    (store store' : SqliteExecutionStore) : Prop where
  openQuantity : total store' (fun p => p.openQuantity) =
    total store (fun p => p.openQuantity) - amount
  exitNotional : total store' (fun p => p.exitNotional) =
    total store (fun p => p.exitNotional) + execution.price * amount
  exitFees : total store' (fun p => p.exitFees) =
    total store (fun p => p.exitFees) + execution.fee * amount / execution.quantity

namespace Booking

def amount : Booking → ℚ
  | .share _ allocation => allocation
  | .giveUp _ => 0

/-- The row it writes, of the protections or of the entries. -/
def row : Booking → String ⊕ String
  | .share snapshot _ => .inl snapshot.entryOrderLinkId
  | .giveUp snapshot => .inr snapshot.orderLinkId

/-- The execution can be booked like this: the clock can be read, and the constructor accepts the
    protection's new exit fees. -/
def Possible (execution : ExecutionUpdate) (reading : Except Failure Time) : Booking → Prop
  | .share snapshot allocation =>
    reading.isOk = true ∧ (execution.symbol = "ETHUSDT" ∧ execution.side = .buy) ∧
      0 ≤ snapshot.exitFees + execution.fee * allocation / execution.quantity
  | .giveUp _ => reading.isOk = true

instance (execution : ExecutionUpdate) (reading : Except Failure Time) :
    ∀ booking : Booking, Decidable (booking.Possible execution reading)
  | .share _ _ => inferInstanceAs (Decidable (_ ∧ _))
  | .giveUp _ => inferInstanceAs (Decidable (_ = true))

/-- The snapshot is the store's, and the share is one it and the execution have room for. -/
def InPlace (execution : ExecutionUpdate) (store : SqliteExecutionStore) : Booking → Prop
  | .share snapshot allocation =>
    store.loadProtectionSnapshot snapshot.entryOrderLinkId = some snapshot ∧
      ClosesFor snapshot execution ∧ (0 < allocation ∧ allocation ≤ execution.quantity) ∧
      allocation ≤ snapshot.openQuantity
  | .giveUp snapshot => store.loadEntrySnapshot snapshot.orderLinkId = some snapshot

end Booking

section Booked

variable {execution : ExecutionUpdate} {store store' : SqliteExecutionStore}

theorem Booked.refl (store : SqliteExecutionStore) : Booked execution 0 store store := by
  constructor <;> simp

theorem Booked.trans {amount amount' : ℚ} {store'' : SqliteExecutionStore}
    (h : Booked execution amount store store') (h' : Booked execution amount' store' store'') :
    Booked execution (amount + amount') store store'' where
  openQuantity := by
    rw [h'.openQuantity, h.openQuantity]
    ring
  exitNotional := by
    rw [h'.exitNotional, h.exitNotional]
    ring
  exitFees := by
    rw [h'.exitFees, h.exitFees]
    ring

/-- A share for one protection is booked on that protection's row. -/
theorem booked_of_replaced {snapshot updated : ProtectionSnapshot} {allocation : ℚ}
    {updatedAt : Time}
    (hsnapshot : store.loadProtectionSnapshot snapshot.entryOrderLinkId = some snapshot)
    (hupdated : updated.toProtectionFields =
      emergencyFields snapshot execution allocation updatedAt)
    (hreplaced : SqliteExecutionStore.Replaced store store' updated) :
    Booked execution allocation store store' := by
  have hkey : updated.entryOrderLinkId = snapshot.entryOrderLinkId := by rw [hupdated]; rfl
  have hsum : ∀ f, total store' f = total store f + (f updated - f snapshot) :=
    KeyedTable.sum_swap hreplaced.swap (hkey ▸ hsnapshot)
  constructor
  · rw [hsum, hupdated]
    simp [emergencyFields]
    ring
  · rw [hsum, hupdated]
    simp [emergencyFields]
  · rw [hsum, hupdated]
    simp [emergencyFields]

theorem succeeds_of_emergencyFields {snapshot updated : ProtectionSnapshot} {allocation : ℚ}
    {updatedAt : Time}
    (h : updated.toProtectionFields = emergencyFields snapshot execution allocation updatedAt) :
    SqliteExecutionStore.Succeeds snapshot updated := by
  constructor <;> rw [h] <;> rfl

/-- One booking was made: it is in the books, and the rows of the others are as they were. -/
structure Made (execution : ExecutionUpdate) (booking : Booking)
    (store store' : SqliteExecutionStore) : Prop where
  booked : Booked execution booking.amount store store'
  others : ∀ other : Booking, other.row ≠ booking.row → other.InPlace execution store →
    other.InPlace execution store'

theorem made_share {snapshot updated : ProtectionSnapshot} {allocation : ℚ} {updatedAt : Time}
    (hsnapshot : store.loadProtectionSnapshot snapshot.entryOrderLinkId = some snapshot)
    (hupdated : updated.toProtectionFields =
      emergencyFields snapshot execution allocation updatedAt)
    (hreplaced : SqliteExecutionStore.Replaced store store' updated) :
    Made execution (.share snapshot allocation) store store' := by
  refine ⟨booked_of_replaced hsnapshot hupdated hreplaced, fun other hrow hplace => ?_⟩
  have hkey : updated.entryOrderLinkId = snapshot.entryOrderLinkId := by rw [hupdated]; rfl
  cases other with
  | share snapshot' allocation' =>
    obtain ⟨hload, hrest⟩ := hplace
    refine ⟨?_, hrest⟩
    rw [hreplaced.find, if_neg, hload]
    intro heq
    exact hrow (congrArg Sum.inl (heq.trans hkey))
  | giveUp snapshot' =>
    have hentries := congrArg (fun t => KeyedTable.find t snapshot'.orderLinkId)
      hreplaced.entrySnapshots
    exact hentries.trans hplace

theorem made_giveUp {snapshot errored : EntryExecutionSnapshot} {updatedAt : Time}
    {previousVersion : ℕ}
    (herrored : transitionEntrySnapshot snapshot .error updatedAt = .ok errored)
    (hstore : store.transitionEntrySnapshot previousVersion errored = .ok store') :
    Made execution (.giveUp snapshot) store store' := by
  obtain ⟨entrySnapshots, htables⟩ := SqliteExecutionStore.transitionEntrySnapshot_eq_ok hstore
  have hprotections : store'.protectionSnapshots = store.protectionSnapshots := by rw [htables]
  have htotal : ∀ f, total store' f = total store f := by
    intro f
    unfold total
    rw [hprotections]
  refine ⟨⟨?_, ?_, ?_⟩, fun other hrow hplace => ?_⟩
  · simp [htotal, Booking.amount]
  · simp [htotal, Booking.amount]
  · simp [htotal, Booking.amount]
  · cases other with
    | share snapshot' allocation' =>
      have hload := congrArg (fun t => KeyedTable.find t snapshot'.entryOrderLinkId) hprotections
      exact ⟨hload.trans hplace.1, hplace.2⟩
    | giveUp snapshot' =>
      have hswap := (SqliteExecutionStore.writesEntry_of_transition hstore).swap
      have hload := KeyedTable.find_swap hswap snapshot'.orderLinkId
      rw [if_neg] at hload
      · exact hload.trans hplace
      · intro heq
        exact hrow (congrArg Sum.inr (heq.trans (transitionEntrySnapshot_eq_ok herrored).1))

/-- The clock is read and a snapshot built with the time; if either fails, nothing was written. -/
theorem runs_clockTime_lift {α β : Type} {compute : Time → Except Failure α} {f : α → DemoTask β}
    {outcome : Except Failure β} {w w' : DemoWorld}
    (h : Coroutine.Runs handle
      (awaitDemo .clockTime >>= fun updatedAt =>
        (liftM (compute updatedAt) : DemoTask α) >>= f) w outcome w') :
    (∃ updatedAt a, w.readings 0 = .ok updatedAt ∧ compute updatedAt = .ok a ∧
        Coroutine.Runs handle (f a) w.read outcome w') ∨
      ((∀ updatedAt a, w.readings 0 = .ok updatedAt → compute updatedAt ≠ .ok a) ∧
        (∃ failure, outcome = .error failure) ∧ w'.store = w.store) := by
  cases hreading : w.readings 0 with
  | error failure =>
    have hread : ∀ a, handle a .clockTime w = (.error failure, w.read) := by
      intro a
      rw [← hreading]
      rfl
    obtain ⟨houtcome, rfl⟩ := (Coroutine.runs_call_bind hread).mp h
    exact .inr ⟨fun _ _ hok => absurd hok (by simp), ⟨failure, houtcome⟩, rfl⟩
  | ok updatedAt =>
    have hread : ∀ a, handle a .clockTime w = (.ok updatedAt, w.read) := by
      intro a
      rw [← hreading]
      rfl
    have h := Coroutine.runs_lift_bind.mp ((Coroutine.runs_call_bind hread).mp h)
    cases hcompute : compute updatedAt with
    | error failure =>
      rw [hcompute] at h
      obtain ⟨houtcome, rfl⟩ := h
      refine .inr ⟨fun t a ht => ?_, ⟨failure, houtcome⟩, rfl⟩
      obtain rfl := Except.ok.inj ht
      rw [hcompute]
      simp
    | ok a =>
      rw [hcompute] at h
      exact .inl ⟨updatedAt, a, rfl, hcompute, h⟩

/-- **One booking**: it is made if it is possible, and nothing is written if it is not. -/
theorem runs_book {booking : Booking} {outcome : Except Failure Unit} {w w' : DemoWorld}
    (hplace : booking.InPlace execution w.store)
    (h : Coroutine.Runs handle (book execution booking) w outcome w') :
    (booking.Possible execution (w.readings 0) ∧ outcome = .ok () ∧
        w'.readings = (fun n => w.readings (n + 1)) ∧ Made execution booking w.store w'.store) ∨
      (¬ booking.Possible execution (w.readings 0) ∧ (∃ failure, outcome = .error failure) ∧
        w'.store = w.store) := by
  cases booking with
  | share snapshot allocation =>
    obtain ⟨hsnapshot, hcloses, hallocation, hopen⟩ := hplace
    rcases runs_clockTime_lift h with
      ⟨updatedAt, updated, hreading, hupdated, hwrite⟩ | ⟨hnot, hkept⟩
    · obtain ⟨-, hbuy, -, -, hfees, hfields⟩ := applyEmergencyExitExecution_eq_ok_iff.mp hupdated
      obtain ⟨store', hstore, hreplaced, -⟩ :=
        SqliteExecutionStore.transitionProtectionSnapshot_ok hsnapshot
          (succeeds_of_emergencyFields hfields)
      obtain ⟨_, hwritten⟩ := Coroutine.runs_perform.mp hwrite
      have hhandled : handle () (.transitionProtectionSnapshot snapshot.version updated) w.read =
          (.ok (), { w.read with store := store' }) := by
        show w.read.write (w.store.transitionProtectionSnapshot snapshot.version updated) = _
        rw [hstore]
        rfl
      obtain ⟨rfl, rfl⟩ := Prod.mk.inj (hwritten.symm.trans hhandled)
      refine .inl ⟨⟨?_, hbuy, hfees⟩, rfl, rfl, made_share hsnapshot hfields hreplaced⟩
      rw [hreading]
      rfl
    · refine .inr ⟨?_, hkept⟩
      rintro ⟨hreads, hbuy, hfees⟩
      cases hreading : w.readings 0 with
      | error failure =>
        rw [hreading] at hreads
        exact absurd hreads (by simp [Except.isOk, Except.toBool])
      | ok updatedAt =>
        have hvalid := (emergencyFields_valid_iff updatedAt hallocation.1 hopen).mpr hfees
        obtain ⟨updated, hcreate⟩ := ProtectionSnapshot.exists_create_iff.mpr hvalid
        exact hnot updatedAt updated hreading (applyEmergencyExitExecution_eq_ok_iff.mpr
          ⟨hcloses, hbuy, hallocation, hopen, hfees, ProtectionSnapshot.create_eq_ok.mp hcreate⟩)
  | giveUp snapshot =>
    rcases runs_clockTime_lift h with
      ⟨updatedAt, errored, hreading, herrored, hwrite⟩ | ⟨hnot, hkept⟩
    · obtain ⟨hkey, hversion, -⟩ := transitionEntrySnapshot_eq_ok herrored
      have hfind : w.store.loadEntrySnapshot errored.orderLinkId = some snapshot := by
        rw [hkey]
        exact hplace
      obtain ⟨store', hstore⟩ := SqliteExecutionStore.transitionEntrySnapshot_ok hfind rfl hversion
      obtain ⟨_, hwritten⟩ := Coroutine.runs_perform.mp hwrite
      have hhandled : handle () (.transitionEntrySnapshot snapshot.version errored) w.read =
          (.ok (), { w.read with store := store' }) := by
        show w.read.write (w.store.transitionEntrySnapshot snapshot.version errored) = _
        rw [hstore]
        rfl
      obtain ⟨rfl, rfl⟩ := Prod.mk.inj (hwritten.symm.trans hhandled)
      refine .inl ⟨?_, rfl, rfl, made_giveUp herrored hstore⟩
      show (w.readings 0).isOk = true
      rw [hreading]
      rfl
    · refine .inr ⟨fun hreads => ?_, hkept⟩
      cases hreading : w.readings 0 with
      | error failure =>
        rw [Booking.Possible, hreading] at hreads
        exact absurd hreads (by simp [Except.isOk, Except.toBool])
      | ok updatedAt =>
        obtain ⟨errored, herrored⟩ :
            ∃ errored, transitionEntrySnapshot snapshot .error updatedAt = .ok errored :=
          transitionEntrySnapshot_total snapshot updatedAt (by decide) (by simp) (by simp)
        exact hnot updatedAt errored hreading herrored

theorem Booking.InPlace.amount_nonneg {booking : Booking} (h : booking.InPlace execution store) :
    0 ≤ booking.amount := by
  cases booking with
  | share snapshot allocation =>
    obtain ⟨-, -, hallocation, -⟩ := h
    exact hallocation.1.le
  | giveUp snapshot => exact le_rfl

theorem Booked.amount_eq_zero {amount : ℚ} (h : Booked execution amount store store) :
    amount = 0 := by
  have := h.openQuantity
  linarith

/-- Each booking can be made, at the reading of the clock it is made with. -/
def AllPossible (execution : ExecutionUpdate) (readings : ℕ → Except Failure Time) :
    List Booking → Prop
  | [] => True
  | booking :: rest =>
    booking.Possible execution (readings 0) ∧ AllPossible execution (fun n => readings (n + 1)) rest

instance decidableAllPossible (execution : ExecutionUpdate) :
    ∀ (readings : ℕ → Except Failure Time) (bookings : List Booking),
      Decidable (AllPossible execution readings bookings)
  | _, [] => inferInstanceAs (Decidable True)
  | readings, _ :: rest =>
    have := decidableAllPossible execution (fun n => readings (n + 1)) rest
    inferInstanceAs (Decidable (_ ∧ _))

/-- The part of the execution these bookings are for. -/
def shared (bookings : List Booking) : ℚ := (bookings.map Booking.amount).sum

/-- **The bookings of a plan**, one after the other: they stop at the first that is not possible,
    and what was booked until then stays. -/
theorem runs_bookAll {bookings : List Booking} {outcome : Except Failure Unit} {w w' : DemoWorld}
    (hplace : ∀ booking ∈ bookings, booking.InPlace execution w.store)
    (hrows : (bookings.map Booking.row).Nodup)
    (h : Coroutine.Runs handle (bookAll execution bookings) w outcome w') :
    (∃ amount, Booked execution amount w.store w'.store ∧ 0 ≤ amount ∧ amount ≤ shared bookings) ∧
      ((∀ booking ∈ bookings.head?, ¬ booking.Possible execution (w.readings 0)) →
        w'.store = w.store) ∧
      (AllPossible execution w.readings bookings → outcome = .ok ()) := by
  induction bookings generalizing w with
  | nil =>
    obtain ⟨houtcome, rfl⟩ := Coroutine.runs_pure.mp h
    exact ⟨⟨0, .refl _, le_rfl, le_rfl⟩, fun _ => rfl, fun _ => houtcome⟩
  | cons booking rest ih =>
    obtain ⟨hhead, hrest⟩ := List.forall_mem_cons.mp hplace
    obtain ⟨hnew, hrows⟩ := List.nodup_cons.mp hrows
    have hrest_nonneg : 0 ≤ shared rest := by
      refine List.sum_nonneg fun amount hamount => ?_
      obtain ⟨other, hother, rfl⟩ := List.mem_map.mp hamount
      exact (hrest other hother).amount_nonneg
    have hshared : shared (booking :: rest) = booking.amount + shared rest := by simp [shared]
    -- A booking that is not possible ends the call with nothing written.
    have hfailed : ∀ failure, Coroutine.Runs handle (book execution booking) w (.error failure) w' →
        ¬ booking.Possible execution (w.readings 0) ∧ w'.store = w.store := by
      intro failure hbook
      rcases runs_book hhead hbook with ⟨-, hok, -⟩ | ⟨hnot, -, hkept⟩
      · exact absurd hok (by simp)
      · exact ⟨hnot, hkept⟩
    rcases Coroutine.runs_bind.mp h with ⟨_, w₁, hbook, hrun⟩ | ⟨failure, hbook, -⟩
    · rcases runs_book hhead hbook with ⟨hpossible, -, hreadings, hmade⟩ | ⟨-, ⟨_, herror⟩, -⟩
      · have hplace₁ : ∀ other ∈ rest, other.InPlace execution w₁.store := by
          intro other hother
          refine hmade.others other (fun hrow => hnew ?_) (hrest other hother)
          rw [← hrow]
          exact List.mem_map_of_mem hother
        obtain ⟨⟨amount, hbooked, hnonneg, hle⟩, -, hended⟩ := ih hplace₁ hrows hrun
        refine ⟨⟨booking.amount + amount, hmade.booked.trans hbooked,
          add_nonneg hhead.amount_nonneg hnonneg, ?_⟩, fun hnot => ?_, fun hall => hended ?_⟩
        · rw [hshared]
          linarith
        · exact absurd hpossible (hnot booking rfl)
        · rw [hreadings]
          exact hall.2
      · exact absurd herror (by simp)
    · obtain ⟨hnot, hkept⟩ := hfailed failure hbook
      refine ⟨⟨0, ?_, le_rfl, ?_⟩, fun _ => hkept, fun hall => absurd hall.1 hnot⟩
      · rw [hkept]
        exact .refl _
      · rw [hshared]
        exact add_nonneg hhead.amount_nonneg hrest_nonneg

end Booked

/-! ## What a plan is made of -/

section Shares

variable {α : Type}

theorem selectM_eq_ok {condition : α → Except Failure Bool} {xs ys : List α}
    (h : selectM condition xs = .ok ys) : ys.Sublist xs ∧ ∀ y ∈ ys, condition y = .ok true := by
  induction xs generalizing ys with
  | nil =>
    obtain rfl := Except.ok.inj h
    exact ⟨.refl _, by simp⟩
  | cons x xs ih =>
    simp only [selectM, bind_eq_ok] at h
    obtain ⟨holds, hx, rest, hrest, h⟩ := h
    obtain rfl := Except.ok.inj h
    obtain ⟨hsub, hall⟩ := ih hrest
    cases holds with
    | true => exact ⟨hsub.cons_cons x, List.forall_mem_cons.mpr ⟨hx, hall⟩⟩
    | false => exact ⟨hsub.cons x, hall⟩

theorem byLevel_perm (orderLinkId : α → String) (xs : List α) :
    (byLevel orderLinkId xs).Perm xs :=
  List.perm_insertionSort _ xs

/-- Every share is a positive one that its protection and the rest of the execution have room for,
    and with what is left they make the whole. -/
theorem shares_spec (snapshots : List ProtectionSnapshot) {remaining : ℚ} (h : 0 ≤ remaining) :
    (∀ booking ∈ (shares snapshots remaining).1, ∃ snapshot ∈ snapshots, ∃ allocation,
        booking = .share snapshot allocation ∧ (0 < allocation ∧ allocation ≤ remaining) ∧
          allocation ≤ snapshot.openQuantity) ∧
      ((shares snapshots remaining).1.map Booking.row).Sublist
        (snapshots.map fun snapshot => .inl snapshot.entryOrderLinkId) ∧
      0 ≤ (shares snapshots remaining).2 ∧
      shared (shares snapshots remaining).1 + (shares snapshots remaining).2 = remaining := by
  induction snapshots generalizing remaining with
  | nil => exact ⟨by simp [shares], .refl _, h, by simp [shares, shared]⟩
  | cons snapshot rest ih =>
    have hopen := snapshot.valid.openQuantity_nonneg
    have hle := min_le_right snapshot.openQuantity remaining
    have hnonneg : 0 ≤ min snapshot.openQuantity remaining := le_min hopen h
    unfold shares
    dsimp only
    split
    · obtain ⟨hall, hrows, hleft, hsum⟩ := ih h
      refine ⟨fun booking hbooking => ?_, hrows.cons _, hleft, hsum⟩
      obtain ⟨snapshot', hmem, hshare⟩ := hall booking hbooking
      exact ⟨snapshot', List.mem_cons_of_mem _ hmem, hshare⟩
    · rename_i hne
      obtain ⟨hall, hrows, hleft, hsum⟩ := ih (sub_nonneg.mpr hle)
      refine ⟨fun booking hbooking => ?_, hrows.cons_cons _, hleft, ?_⟩
      · rcases List.mem_cons.mp hbooking with rfl | hbooking
        · exact ⟨snapshot, List.mem_cons_self .., _, rfl,
            ⟨lt_of_le_of_ne hnonneg (Ne.symm hne), hle⟩, min_le_left _ _⟩
        · obtain ⟨snapshot', hmem, allocation, hshare, ⟨hpos, hroom⟩, hopen'⟩ :=
            hall booking hbooking
          exact ⟨snapshot', List.mem_cons_of_mem _ hmem, allocation, hshare,
            ⟨hpos, hroom.trans (sub_le_self _ hnonneg)⟩, hopen'⟩
      · simp only [shared, List.map_cons, List.sum_cons, Booking.amount] at hsum ⊢
        linarith

/-- Entries are given up whole, and none of the execution is booked for them. -/
theorem giveUps_spec (snapshots : List EntryExecutionSnapshot) (remaining : ℚ) :
    (∀ booking ∈ (giveUps snapshots remaining).1, ∃ snapshot ∈ snapshots,
        booking = .giveUp snapshot) ∧
      ((giveUps snapshots remaining).1.map Booking.row).Sublist
        (snapshots.map fun snapshot => .inr snapshot.orderLinkId) ∧
      shared (giveUps snapshots remaining).1 = 0 := by
  induction snapshots generalizing remaining with
  | nil => exact ⟨by simp [giveUps], .refl _, by simp [giveUps, shared]⟩
  | cons snapshot rest ih =>
    unfold giveUps
    dsimp only
    split
    · exact ⟨by simp, List.nil_sublist _, by simp [shared]⟩
    · obtain ⟨hall, hrows, hsum⟩ := ih (remaining - snapshot.filledQuantity)
      refine ⟨fun booking hbooking => ?_, hrows.cons_cons _, ?_⟩
      · rcases List.mem_cons.mp hbooking with rfl | hbooking
        · exact ⟨snapshot, List.mem_cons_self .., rfl⟩
        · obtain ⟨snapshot', hmem, hgiven⟩ := hall booking hbooking
          exact ⟨snapshot', List.mem_cons_of_mem _ hmem, hgiven⟩
      · simpa [shared, Booking.amount] using hsum

end Shares

section Plans

variable {execution : ExecutionUpdate} {store : SqliteExecutionStore}

theorem inCycle_eq_true {closeId : ClientOrderId} {entryOrderLinkId : String}
    (h : inCycle closeId entryOrderLinkId = .ok true) :
    ∃ entryId, ClientOrderId.parse entryOrderLinkId = .ok entryId ∧
      entryId.strategyInstance = closeId.strategyInstance ∧ entryId.cycle = closeId.cycle := by
  simp only [inCycle, bind_eq_ok] at h
  obtain ⟨entryId, hentry, h⟩ := h
  exact ⟨entryId, hentry, of_decide_eq_true (Except.ok.inj h)⟩

theorem parseCloseId_eq_ok {closeId : ClientOrderId}
    (h : parseCloseId execution = .ok closeId) :
    ClientOrderId.parse execution.orderLinkId = .ok closeId ∧ closeId.role = .emergencyClose := by
  simp only [parseCloseId, bind_eq_ok, refuseIf_eq_ok, not_not] at h
  obtain ⟨id, hid, -, hrole, h⟩ := h
  obtain rfl := Except.ok.inj h
  exact ⟨hid, hrole⟩

/-- A selection of a table's rows, sorted, is made of its rows, and no key comes twice. -/
theorem selection_of_rows {ρ : Type} {key : ρ → String} {t : KeyedTable key}
    {loaded selected : List ρ} (hloaded : loaded.Perm t.rows) (hselected : selected.Sublist loaded) :
    (∀ r ∈ byLevel key selected, r ∈ selected ∧ t.find (key r) = some r) ∧
      ((byLevel key selected).map key).Nodup := by
  constructor
  · intro r hr
    have hmem := (byLevel_perm key selected).mem_iff.mp hr
    exact ⟨hmem, KeyedTable.find_of_mem (hloaded.mem_iff.mp (hselected.subset hmem))⟩
  · have hnodup := (hloaded.map key).nodup_iff.mpr t.nodup
    exact ((byLevel_perm key selected).map key).nodup_iff.mpr (hnodup.sublist (hselected.map key))

/-- What every plan is like, whatever the store: its bookings are in place, no two write one row,
    and together they are for no more than the execution. -/
structure Plan.Sound (plan' : Plan) (execution : ExecutionUpdate) (store : SqliteExecutionStore) :
    Prop where
  inPlace : ∀ booking ∈ plan'.bookings, booking.InPlace execution store
  rows : (plan'.bookings.map Booking.row).Nodup
  shared_le : shared plan'.bookings ≤ execution.quantity
  /-- The shares come first. -/
  giveUp_first : ∀ snapshot, plan'.bookings.head? = some (.giveUp snapshot) →
    shared plan'.bookings = 0

theorem active_nonneg (exposure : Exposure) : 0 ≤ exposure.active := by
  refine add_nonneg (List.sum_nonneg fun quantity hquantity => ?_)
    (List.sum_nonneg fun quantity hquantity => ?_)
  · obtain ⟨snapshot, -, rfl⟩ := List.mem_map.mp hquantity
    exact snapshot.valid.openQuantity_nonneg
  · obtain ⟨snapshot, -, rfl⟩ := List.mem_map.mp hquantity
    exact snapshot.filled_nonneg

theorem plan_sound {plan' : Plan} (h : plan execution store = .ok plan') :
    plan'.Sound execution store := by
  simp only [plan, exposureOf, bind_eq_ok] at h
  obtain ⟨closeId, hclose, protections, hprotections, _, ⟨entries, hentries, hexposure⟩, h⟩ := h
  obtain rfl := Except.ok.inj hexposure
  obtain rfl := Except.ok.inj h
  obtain ⟨hparse, hrole⟩ := parseCloseId_eq_ok hclose
  obtain ⟨hsub, hown⟩ := selectM_eq_ok hprotections
  obtain ⟨hsub', -⟩ := selectM_eq_ok hentries
  obtain ⟨hfind, hnodup⟩ := selection_of_rows (List.perm_insertionSort _ _) hsub
  obtain ⟨hfind', hnodup'⟩ := selection_of_rows (List.perm_insertionSort _ _) hsub'
  unfold Exposure.plan
  split
  · exact ⟨by simp, List.nodup_nil, execution.quantity_pos.le, by simp⟩
  · dsimp only
    generalize hexposure : Exposure.active ⟨protections, entries⟩ = active
    have hremaining : 0 ≤ min execution.quantity active :=
      le_min execution.quantity_pos.le (hexposure ▸ active_nonneg _)
    have hquantity := min_le_left execution.quantity active
    have hs := shares_spec (byLevel (fun snapshot => snapshot.entryOrderLinkId) protections)
      hremaining
    rcases hfirst : shares (byLevel (fun snapshot => snapshot.entryOrderLinkId) protections)
      (min execution.quantity active) with ⟨first, left⟩
    rw [hfirst] at hs
    obtain ⟨hshares, hrows, hleft, hsum⟩ := hs
    have hg := giveUps_spec (byLevel (fun snapshot => snapshot.orderLinkId) entries) left
    rcases hsecond : giveUps (byLevel (fun snapshot => snapshot.orderLinkId) entries) left with
      ⟨second, unallocated⟩
    rw [hsecond] at hg
    obtain ⟨hgiven, hrows', hzero⟩ := hg
    have hshared : ∀ bookings bookings' : List Booking,
        shared (bookings ++ bookings') = shared bookings + shared bookings' := by
      intro bookings bookings'
      simp [shared]
    constructor
    · intro booking hbooking
      rcases List.mem_append.mp hbooking with hbooking | hbooking
      · obtain ⟨snapshot, hmem, allocation, rfl, ⟨hpos, hroom⟩, hopen⟩ := hshares booking hbooking
        obtain ⟨hmem, hload⟩ := hfind snapshot hmem
        obtain ⟨entryId, hentry, hinstance, hcycle⟩ := inCycle_eq_true (hown snapshot hmem)
        exact ⟨hload, ⟨entryId, closeId, hentry, hparse, hrole, hinstance.symm, hcycle.symm⟩,
          ⟨hpos, hroom.trans hquantity⟩, hopen⟩
      · obtain ⟨snapshot, hmem, rfl⟩ := hgiven booking hbooking
        exact (hfind' snapshot hmem).2
    · rw [List.map_append]
      refine List.Nodup.append ?_ ?_ ?_
      · refine List.Nodup.sublist hrows ?_
        have hinl : Function.Injective (Sum.inl : String → String ⊕ String) := Sum.inl_injective
        have := hnodup.map hinl
        rwa [List.map_map] at this
      · refine List.Nodup.sublist hrows' ?_
        have hinr : Function.Injective (Sum.inr : String → String ⊕ String) := Sum.inr_injective
        have := hnodup'.map hinr
        rwa [List.map_map] at this
      · intro row hrow hrow'
        obtain ⟨_, -, rfl⟩ := List.mem_map.mp (hrows.subset hrow)
        obtain ⟨_, -, heq⟩ := List.mem_map.mp (hrows'.subset hrow')
        exact absurd heq (by simp)
    · rw [hshared, hzero]
      dsimp only at hleft hsum
      linarith
    · intro snapshot hhead
      cases first with
      | nil => exact hzero
      | cons booking rest =>
        -- There is a share, and it would have been the first booking.
        obtain ⟨_, -, _, rfl, -⟩ := hshares booking (List.mem_cons_self ..)
        exact absurd (Option.some.inj hhead) (by simp)

end Plans

end DemoRunner

end CreditHedge
