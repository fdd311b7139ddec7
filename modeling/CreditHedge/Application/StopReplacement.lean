import CreditHedge.Application.ExitTasks

/-!
# Replacing a stop

Any number of `install_stop`, `install_take_profit`, `restore_stop`, `apply_exit_execution` and
`reconcile_after_exit`, in any interleaving, at an exchange that may fill a live exit whenever it
likes and may list an open order or not. Two things one would want of it both hang on the moment
`restore_stop` persists its replacement, because from then on the row no longer knows the stop
that was replaced.

That no fill is lost: it is so if that stop is *exhausted*, done with at the exchange and all its
fills recorded (`fills_recordable_after_replacement`). A stop that has just filled looks exactly
like a missing one, and its fill can then never be recorded (`unrecordable_after_replacement`).

That a level is closed only when none of its exits is live any more: it is so if that stop is
*ended* (`closed_level_has_no_live_exit`). A stop that is only not shown yet stays open while its
level is closed (`closed_level_with_live_stop`).
-/

set_option autoImplicit false

namespace CreditHedge

open Coroutine ProtectiveExitService

/-! ## The runs -/

/-- The services that may be started: on a snapshot that was read, or on a fill that happened. -/
inductive Startable (v : Venue) : Service ProtectionSnapshot → Prop
  | installStop (attempts : ℕ) (entryOrderLinkId : String) (instrument : InstrumentSpec)
      (stopOrderLinkId : String) (stopRate : ℚ) :
      Startable v (installStop attempts entryOrderLinkId instrument stopOrderLinkId stopRate)
  | installTakeProfit (attempts : ℕ) {p : ProtectionSnapshot} (instrument : InstrumentSpec)
      (orderLinkId : String) (desiredPrice : ℚ) (pricePolicy : PriceQuantizationPolicy) :
      v.Seen p →
      Startable v (installTakeProfit attempts p instrument orderLinkId desiredPrice pricePolicy)
  | restoreStop (attempts : ℕ) {p : ProtectionSnapshot} (instrument : InstrumentSpec)
      (orderLinkId : String) (stopRate : ℚ) :
      v.Seen p → Startable v (restoreStop attempts p instrument orderLinkId stopRate)
  | applyExitExecution {e : ExecutionUpdate} (receivedAt : Time) (payloadHash : PayloadHash) :
      e ∈ v.fills → Startable v (ProtectiveExitService.applyExitExecution e receivedAt payloadHash)
  | reconcileAfterExit (entryOrderLinkId : String) :
      Startable v (reconcileAfterExit entryOrderLinkId)

/-- Nothing protected yet, and no exit filled. -/
structure Venue.Unprotected (v : Venue) : Prop where
  rows : v.rows = []
  exits : v.exits = []
  fills : v.fills = []

/-- The loop of the services, with one look at a level's closing. -/
abbrev ExitLoop :=
  EventLoop Failure Call Call.Result Venue (Inspection × ProtectionSnapshot) ProtectionSnapshot

abbrev ExitMove := EventLoop.Move Failure Call Call.Result Response ProtectionSnapshot

def closing (key : String) (v : Venue) : ExitLoop where
  main := reconcileAndInspect key
  others := []
  world := v

/-- A run of the services at an honest exchange, that replaces no stop before it is gone. -/
abbrev Orderly (orderIdOf : String → String) (gone : Venue → String → Prop) (loop : ExitLoop)
    (moves : List ExitMove) : Prop :=
  loop.Allows handleAt (Admissible orderIdOf gone) Startable moves

section Runs

variable {orderIdOf : String → String} {gone : Venue → String → Prop} {v : Venue}

theorem Venue.Unprotected.sound (h : v.Unprotected) : SoundVenue orderIdOf gone v where
  known := by rw [h.exits]; exact fun _ _ hid => absurd hid (by simp)
  unique := by rw [h.exits]; exact fun _ _ _ hid => absurd hid (by simp)
  owner := by rw [h.exits]; exact fun _ _ hid => absurd hid (by simp)
  covers := by rw [h.rows]; exact fun _ hp => absurd hp (by simp)
  current := by rw [h.rows]; exact fun _ hp => absurd hp (by simp)
  books := by rw [h.rows]; exact fun _ hp => absurd hp (by simp)
  orderIds := by rw [h.rows]; exact fun _ hp => absurd hp (by simp)
  recordedFills := by rw [h.exits]; exact fun _ _ _ hid => absurd hid (by simp)
  executionIds := by rw [h.fills]; exact fun _ _ _ he => absurd he (by simp)
  fillIds := by rw [h.fills]; exact List.nodup_nil
  fillOrders := by rw [h.fills]; exact fun _ he => absurd he (by simp)

/-- Whatever is started upholds the invariant. -/
theorem Startable.upholds (hgone : Lasting gone) (hgoneEnded : ∀ v id, gone v id → id ∈ v.ended)
    (hs : SoundVenue orderIdOf gone v) {t : Service ProtectionSnapshot} (h : Startable v t) :
    Uphold orderIdOf gone (fun _ _ => True) t v := by
  cases h with
  | installStop => exact uphold_installStop hgone _ _ _ _ _ _
  | installTakeProfit _ _ _ _ _ hseen => exact uphold_installTakeProfit hgone _ hseen _ _ _ _
  | restoreStop _ _ _ _ hseen => exact uphold_restoreStop hgone _ hseen _ _ _
  | applyExitExecution _ _ he => exact uphold_applyExitExecution hgone he _ _
  | reconcileAfterExit key =>
    refine .bind .refl ((uphold_reconcileAndInspect hgone hgoneEnded hs key).imp ?_)
    intro outcome v' _
    cases outcome with
    | ok result => exact fun _ _ => trivial
    | error failure => exact fun _ _ => trivial

/-- **Every orderly run keeps the invariant**, and a level it closes leaves no exit. -/
theorem sound_of_orderly (hgone : Lasting gone) (hgoneEnded : ∀ v id, gone v id → id ∈ v.ended)
    (hv : v.Unprotected) {key : String} {moves : List ExitMove}
    (h : Orderly orderIdOf gone (closing key v) moves) :
    SoundVenue orderIdOf gone ((closing key v).run handleAt moves).world ∧
      ∀ outcome, ((closing key v).run handleAt moves).main = .done outcome →
        LeavesNoExit key outcome ((closing key v).run handleAt moves).world := by
  have hsound : SoundVenue orderIdOf gone v := hv.sound
  have hupheld : (closing key v).Upheld handleAt (Moves orderIdOf gone)
      (Admissible orderIdOf gone) (LeavesNoExit key) fun _ _ => True :=
    ⟨uphold_reconcileAndInspect hgone hgoneEnded hsound key,
      fun t ht => absurd ht (by simp [closing])⟩
  obtain ⟨hmoves, hpost⟩ := EventLoop.upholds_run .refl (fun h h' => h.trans h')
    (fun v' t hv' ht => ht.upholds hgone hgoneEnded (hv'.sound hsound)) (.refl v) hupheld h
  exact ⟨hmoves.sound hsound, hpost⟩

end Runs

/-! ## Closing a level -/

/-- The exchange is done with the order. -/
def Ended (v : Venue) (orderLinkId : String) : Prop := orderLinkId ∈ v.ended

theorem lasting_ended : Lasting Ended := fun _ _ _ h hid => h.ended hid

/-- **A closed level leaves no live exit**, in every run that replaces a stop only once the
    exchange is done with it: no order in the last list `reconcile_after_exit` has asked for is
    one that was ever placed for the level. -/
theorem closed_level_has_no_live_exit {orderIdOf : String → String} {v : Venue}
    (hv : v.Unprotected) {key : String} {moves : List ExitMove}
    (h : Orderly orderIdOf Ended (closing key v) moves) {seen : Inspection}
    {s : ProtectionSnapshot}
    (hdone : ((closing key v).run handleAt moves).main = .done (.ok (seen, s)))
    (hclosed : IsClosed s) : ∀ order ∈ seen.remainingOrders,
      (key, order.orderLinkId) ∉ ((closing key v).run handleAt moves).world.exits :=
  (sound_of_orderly lasting_ended (fun _ _ hid => hid) hv h).2 _ hdone hclosed

/-! ## Recording the fills of a level -/

/-- The exchange is done with the order, and all its fills are recorded. -/
def Exhausted (v : Venue) (orderLinkId : String) : Prop :=
  orderLinkId ∈ v.ended ∧ ∀ e ∈ v.fills, e.orderLinkId = orderLinkId → v.Recorded e

theorem lasting_exhausted : Lasting Exhausted := by
  intro v v' id h ⟨hended, hrecorded⟩
  refine ⟨h.ended hended, fun e he hlink => ?_⟩
  rcases h.quiet e he with hold | hlive
  · exact h.recorded e (hrecorded e hold hlink)
  · exact absurd hended (hlink ▸ hlive)

namespace Venue

/-- The fills of a level's exits. -/
def fillsOf (v : Venue) (key : String) : List ExecutionUpdate :=
  v.fills.filter fun e => (key, e.orderLinkId) ∈ v.exits

/-- The fills of a level's exits that are recorded. -/
def recordedOf (v : Venue) (key : String) : List ExecutionUpdate :=
  (v.store.executions.rows.map fun row => row.execution).filter
    fun e => (key, e.orderLinkId) ∈ v.exits

end Venue

section Fills

variable {orderIdOf : String → String} {gone : Venue → String → Prop} {v : Venue} {key : String}
  {e : ExecutionUpdate}

theorem mem_fillsOf : e ∈ v.fillsOf key ↔ e ∈ v.fills ∧ (key, e.orderLinkId) ∈ v.exits := by
  simp [Venue.fillsOf]

theorem mem_recordedOf : e ∈ v.recordedOf key ↔
    (∃ row ∈ v.store.executions.rows, row.execution = e) ∧ (key, e.orderLinkId) ∈ v.exits := by
  simp [Venue.recordedOf]

theorem recordedQuantity_eq (v : Venue) (key : String) :
    v.recordedQuantity key = totalQuantity (v.recordedOf key) := by
  unfold Venue.recordedQuantity totalQuantity Venue.recordedOf
  induction v.store.executions.rows with
  | nil => rfl
  | cons row rows ih =>
    by_cases hexit : (key, row.execution.orderLinkId) ∈ v.exits
    · simp [hexit, ih]
    · simp [hexit, ih]

theorem nodup_recordedOf (v : Venue) (key : String) : (v.recordedOf key).Nodup := by
  refine List.Nodup.filter _ (List.Nodup.of_map (fun e => e.executionId) ?_)
  rw [List.map_map]
  exact v.store.executions.nodup

theorem SoundVenue.recordedOf_subset (h : SoundVenue orderIdOf gone v) :
    v.recordedOf key ⊆ v.fillsOf key := by
  intro e he
  obtain ⟨⟨row, hrow, rfl⟩, hexit⟩ := mem_recordedOf.mp he
  exact mem_fillsOf.mpr ⟨h.recordedFills row hrow key hexit, hexit⟩

/-- A recorded fill of a level is among its recorded fills. -/
theorem SoundVenue.mem_recordedOf (h : SoundVenue orderIdOf gone v) (he : e ∈ v.fillsOf key)
    (hrecorded : v.Recorded e) : e ∈ v.recordedOf key := by
  obtain ⟨he, hexit⟩ := mem_fillsOf.mp he
  obtain ⟨row, hrow⟩ := Option.isSome_iff_exists.mp hrecorded
  obtain ⟨hmem, hid⟩ := KeyedTable.find_eq_some.mp hrow
  exact CreditHedge.mem_recordedOf.mpr ⟨⟨row, hmem, h.executionIds row hmem e he hid⟩, hexit⟩

/-- What is still to be recorded fits, if the exchange has filled no more than was entered. -/
theorem SoundVenue.quantity_le_open (h : SoundVenue orderIdOf gone v) {p : ProtectionSnapshot}
    (hp : p ∈ v.rows) (hfits : totalQuantity (v.fillsOf p.entryOrderLinkId) ≤ p.entryQuantity)
    (he : e ∈ v.fillsOf p.entryOrderLinkId) (hnew : ¬ v.Recorded e) :
    e.quantity ≤ p.openQuantity := by
  have hnot : e ∉ v.recordedOf p.entryOrderLinkId := fun hmem => by
    obtain ⟨⟨row, hrow, rfl⟩, -⟩ := CreditHedge.mem_recordedOf.mp hmem
    exact hnew (hasExecution_of_mem hrow rfl)
  have hle : totalQuantity (e :: v.recordedOf p.entryOrderLinkId) ≤
      totalQuantity (v.fillsOf p.entryOrderLinkId) :=
    totalQuantity_le_of_subset (List.nodup_cons.mpr ⟨hnot, nodup_recordedOf v _⟩)
      (List.cons_subset.mpr ⟨he, h.recordedOf_subset⟩)
  have hbooks := h.books p hp
  rw [recordedQuantity_eq] at hbooks
  simp only [totalQuantity, List.map_cons, List.sum_cons] at hle hfits hbooks
  linarith

/-- Once every fill of a level is recorded, its books are those of the exchange. -/
theorem SoundVenue.books_of_recorded (h : SoundVenue orderIdOf gone v) {p : ProtectionSnapshot}
    (hp : p ∈ v.rows) (hall : ∀ e ∈ v.fillsOf p.entryOrderLinkId, v.Recorded e) :
    p.openQuantity = p.entryQuantity - totalQuantity (v.fillsOf p.entryOrderLinkId) := by
  have hnodup : (v.fillsOf p.entryOrderLinkId).Nodup :=
    List.Nodup.filter _ (List.Nodup.of_map _ h.fillIds)
  have hperm : (v.recordedOf p.entryOrderLinkId).Perm (v.fillsOf p.entryOrderLinkId) :=
    (List.perm_ext_iff_of_nodup (nodup_recordedOf v _) hnodup).mpr fun e =>
      ⟨fun he => h.recordedOf_subset he, fun he => h.mem_recordedOf he (hall e he)⟩
  rw [h.books p hp, recordedQuantity_eq, totalQuantity, (hperm.map _).sum_eq, totalQuantity]

/-- A fill of an order that is not exhausted yet belongs to the row of its level. -/
theorem SoundVenue.belongsTo (h : SoundVenue orderIdOf Exhausted v) {p : ProtectionSnapshot}
    (hp : p ∈ v.rows)
    (he : e ∈ v.fillsOf p.entryOrderLinkId) (hnew : ¬ v.Recorded e) : BelongsTo p e := by
  obtain ⟨he, hexit⟩ := mem_fillsOf.mp he
  obtain ⟨hsymbol, hside, horderId⟩ := h.fillOrders e he
  have hcurrent : IsExitOf p e.orderLinkId :=
    (h.current p hp _ hexit).resolve_right fun hexhausted => hnew (hexhausted.2 e he rfl)
  refine ⟨hsymbol, hside, hcurrent, fun expected hexpected => ?_⟩
  split at hexpected
  · rename_i hstop
    rw [horderId, (h.orderIds p hp).stop expected hexpected, hstop]
  · rename_i hstop
    have htp := (hcurrent.resolve_left hstop).symm
    rw [horderId, (h.orderIds p hp).tp _ htp expected hexpected]

end Fills

/-- **Replacing a stop loses no fill**, in every run that replaces a stop only once it is exhausted.
    Whatever the level, and whichever of its exits has filled: a fill that is not recorded yet can
    be, unless the exchange has filled more than was entered or pays for it; and once all are
    recorded, the level's open quantity is what the exchange has left of it. -/
theorem fills_recordable_after_replacement {orderIdOf : String → String} {v₀ v : Venue}
    (hv₀ : v₀.Unprotected) {key : String} {moves : List ExitMove}
    (h : Orderly orderIdOf Exhausted (closing key v₀) moves)
    (hv : ((closing key v₀).run handleAt moves).world = v) {p : ProtectionSnapshot}
    (hp : p ∈ v.rows) :
    (totalQuantity (v.fillsOf p.entryOrderLinkId) ≤ p.entryQuantity →
      ∀ e ∈ v.fillsOf p.entryOrderLinkId, ¬ v.Recorded e → 0 ≤ p.exitFees + e.fee →
        ∀ receivedAt payloadHash, ∃ p' w', Coroutine.Runs handle
          (ProtectiveExitService.applyExitExecution e receivedAt payloadHash) v.world (.ok p') w' ∧
            w'.store.hasExecution e.executionId = true) ∧
      ((∀ e ∈ v.fillsOf p.entryOrderLinkId, v.Recorded e) →
        p.openQuantity = p.entryQuantity - totalQuantity (v.fillsOf p.entryOrderLinkId)) := by
  have hsound : SoundVenue orderIdOf Exhausted v :=
    hv ▸ (sound_of_orderly lasting_exhausted (fun _ _ hid => hid.1) hv₀ h).1
  refine ⟨fun hfits e he hnew hfee receivedAt payloadHash => ?_, hsound.books_of_recorded hp⟩
  have hbelongs := hsound.belongsTo hp he hnew
  have hnew' : v.world.store.hasExecution e.executionId = false := Bool.eq_false_iff.mpr hnew
  obtain ⟨p', w', hruns⟩ : ∃ p' w', Coroutine.Runs handle
      (ProtectiveExitService.applyExitExecution e receivedAt payloadHash) v.world (.ok p') w' :=
    exists_runs hp hnew' hbelongs (hsound.quantity_le_open hp hfits he hnew) hfee
  obtain ⟨-, -, hrecorded⟩ := CreditHedge.Recorded.of_runs hp hbelongs.exit hnew' hruns
  exact ⟨p', w', hruns, by rw [hrecorded.executions, decide_eq_true rfl, Bool.true_or]⟩

/-! ## Runs of two protected levels

A run is put together from pieces, each of them checked for honesty as it is evaluated. -/

section Deciding

variable (orderIdOf : String → String)

instance (v : Venue) (e : ExecutionUpdate) : Decidable (Fillable orderIdOf v e) :=
  decidable_of_iff
    (v.world.Accepted e.orderLinkId ∧ e.orderLinkId ∉ v.ended ∧ e.symbol = "ETHUSDT" ∧
      e.side = .buy ∧ e.orderId = orderIdOf e.orderLinkId)
    ⟨fun ⟨h₁, h₂, h₃, h₄, h₅⟩ => ⟨h₁, h₂, h₃, h₄, h₅⟩,
      fun h => ⟨h.accepted, h.live, h.symbol, h.side, h.orderId⟩⟩

instance (r : Response) (v : Venue) : Decidable (Honest orderIdOf r v) :=
  decidable_of_iff
    ((∀ e ∈ r.fills, Fillable orderIdOf v e) ∧
      ((v.fills ++ r.fills).map fun e => e.executionId).Nodup ∧ (∀ e ∈ r.fills, ¬ v.Recorded e) ∧
      (∀ answer ∈ r.answers.found.toOption, ∀ order ∈ answer,
        order.orderId = orderIdOf order.orderLinkId) ∧
      ∀ orders ∈ r.answers.openOrders.toOption, ∀ order ∈ orders,
        v.world.Accepted order.orderLinkId ∧ order.orderLinkId ∉ (v.after r).ended)
    ⟨fun ⟨h₁, h₂, h₃, h₄, h₅⟩ => ⟨h₁, h₂, h₃, h₄, h₅⟩,
      fun h => ⟨h.fills, h.fresh, h.unrecorded, h.found, h.listed⟩⟩

variable (gone : Venue → String → Prop) [∀ v id, Decidable (gone v id)]

instance (call : Call) (v : Venue) : Decidable (Replaces gone call v) :=
  inferInstanceAs (Decidable (∀ key ∈ call.replaces?, ∀ p ∈ v.rows, p.entryOrderLinkId = key →
    gone v p.stopOrderLinkId))

instance (r : Response) (call : Call) (v : Venue) :
    Decidable (Admissible orderIdOf gone r call v) :=
  decidable_of_iff (Honest orderIdOf r v ∧ Replaces gone call (v.after r))
    ⟨fun h => ⟨h.1, h.2⟩, fun h => ⟨h.honest, h.replaces⟩⟩

end Deciding

instance (v : Venue) (id : String) : Decidable (Ended v id) :=
  inferInstanceAs (Decidable (id ∈ v.ended))

instance (v : Venue) (id : String) : Decidable (Exhausted v id) :=
  inferInstanceAs (Decidable (_ ∧ _))

/-- Whatever is replaced, whenever. -/
def Anyhow (_ : Venue) (_ : String) : Prop := True

instance (v : Venue) (id : String) : Decidable (Anyhow v id) := isTrue trivial

/-- The exchange's order ids. -/
def exchangeId (orderLinkId : String) : String := s!"order-{orderLinkId}"

section Scripts

variable (gone : Venue → String → Prop) [∀ v id, Decidable (gone v id)]

/-- An orderly run leads from the one loop to the other. -/
def Reaches (loop loop' : ExitLoop) : Prop :=
  ∃ moves, Orderly exchangeId gone loop moves ∧ loop.run handleAt moves = loop'

/-- These moves, if they are orderly and start nothing. -/
def proceed (moves : List ExitMove) (loop : ExitLoop) : Option ExitLoop :=
  if loop.Allows handleAt (Admissible exchangeId gone) (fun _ _ => False) moves then
    some (loop.run handleAt moves)
  else none

/-- A service, called and answered without anything else in between. -/
def serve (t : Service ProtectionSnapshot) (responses : List Response) (loop : ExitLoop) :
    Option ExitLoop :=
  proceed gone (responses.map (.other loop.others.length)) (loop.move handleAt (.start t))

variable {gone} {loop loop' loop'' : ExitLoop}

omit [∀ v id, Decidable (gone v id)] in
theorem Reaches.trans (h : Reaches gone loop loop') (h' : Reaches gone loop' loop'') :
    Reaches gone loop loop'' := by
  obtain ⟨moves, hmoves, rfl⟩ := h
  obtain ⟨moves', hmoves', rfl⟩ := h'
  exact ⟨moves ++ moves', hmoves.append hmoves', List.foldl_append⟩

theorem reaches_proceed {moves : List ExitMove} (h : proceed gone moves loop = some loop') :
    Reaches gone loop loop' := by
  unfold proceed at h
  split at h
  · rename_i hallows
    exact ⟨moves, hallows.imp (fun _ _ _ h => h) (fun _ _ h => h.elim), Option.some.inj h⟩
  · exact absurd h (by simp)

theorem reaches_serve {t : Service ProtectionSnapshot} {responses : List Response}
    (ht : Startable loop.world t) (h : serve gone t responses loop = some loop') :
    Reaches gone loop loop' := by
  obtain ⟨moves, hmoves, hrun⟩ := reaches_proceed h
  exact ⟨.start t :: moves, ⟨ht, hmoves⟩, hrun⟩

end Scripts

/-- The exchange takes an order on and shows it; with `last`, what has happened by the last call. -/
def answeredAtOnce (f : PlaceOrderFields) (n : ℕ) (fills : List ExecutionUpdate)
    (ends : List String) : List Response :=
  List.replicate n { answers := promptly f } ++ [{ answers := promptly f, fills, ends }]

def unprotectedTwo : Venue where
  world := openedTwo
  fills := []
  ended := []
  exits := []

theorem unprotected_unprotectedTwo : unprotectedTwo.Unprotected := ⟨rfl, rfl, rfl⟩

/-- Two levels of one unit each, and their stops. By the last call, there may be fills and ended
    orders. -/
def stopsInstalled (gone : Venue → String → Prop) [∀ v id, Decidable (gone v id)]
    (fills : List ExecutionUpdate) (ends : List String) : Option ExitLoop := do
  let loop ← serve gone (installStop 3 (entryIdOf 1) ethPerp (stopIdOf 1) (1 / 200))
    (answeredAtOnce (stopFields 1 2010 (stopIdOf 1)) 7 [] [])
    (closing (entryIdOf 1) unprotectedTwo)
  serve gone (installStop 3 (entryIdOf 2) ethPerp (stopIdOf 2) (1 / 200))
    (answeredAtOnce (stopFields 1 2010 (stopIdOf 2)) 7 fills ends) loop

theorem reaches_stopsInstalled {gone : Venue → String → Prop} [∀ v id, Decidable (gone v id)]
    {fills : List ExecutionUpdate} {ends : List String} {loop : ExitLoop}
    (h : stopsInstalled gone fills ends = some loop) :
    Reaches gone (closing (entryIdOf 1) unprotectedTwo) loop := by
  simp only [stopsInstalled, Option.bind_eq_bind, Option.bind_eq_some_iff] at h
  obtain ⟨loop₁, h₁, h₂⟩ := h
  exact (reaches_serve (.installStop ..) h₁).trans (reaches_serve (.installStop ..) h₂)

def replacementId : String := "ECH-A-C0001-L01-STOP-A02-0000"

/-- Level 1's stop is replaced by one of this quantity. -/
def stopReplaced (gone : Venue → String → Prop) [∀ v id, Decidable (gone v id)] (quantity : ℚ)
    (fills : List ExecutionUpdate) (ends : List String) (loop : ExitLoop) : Option ExitLoop := do
  let p ← loop.world.store.loadProtectionSnapshot (entryIdOf 1)
  serve gone (restoreStop 3 p ethPerp replacementId (1 / 200))
    (answeredAtOnce (stopFields quantity 2010 replacementId) 6 fills ends) loop

theorem reaches_stopReplaced {gone : Venue → String → Prop} [∀ v id, Decidable (gone v id)]
    {quantity : ℚ} {fills : List ExecutionUpdate} {ends : List String} {loop loop' : ExitLoop}
    (h : stopReplaced gone quantity fills ends loop = some loop') : Reaches gone loop loop' := by
  simp only [stopReplaced, Option.bind_eq_bind, Option.bind_eq_some_iff] at h
  obtain ⟨p, hp, h⟩ := h
  exact reaches_serve (.restoreStop _ _ _ _ ⟨p, (KeyedTable.find_eq_some.mp hp).1, rfl, .inl rfl⟩) h

/-- A fill is recorded. -/
def fillRecorded (gone : Venue → String → Prop) [∀ v id, Decidable (gone v id)]
    (e : ExecutionUpdate) (loop : ExitLoop) : Option ExitLoop :=
  if e ∈ loop.world.fills then
    serve gone (ProtectiveExitService.applyExitExecution e e.executedAt zeroHash)
      (List.replicate 4 {}) loop
  else none

theorem reaches_fillRecorded {gone : Venue → String → Prop} [∀ v id, Decidable (gone v id)]
    {e : ExecutionUpdate} {loop loop' : ExitLoop} (h : fillRecorded gone e loop = some loop') :
    Reaches gone loop loop' := by
  unfold fillRecorded at h
  split at h
  · rename_i he
    exact reaches_serve (.applyExitExecution _ _ he) h
  · exact absurd h (by simp)

/-- An exchange that lists these stops, and level 2's short. -/
def listing (stops : List String) : Answers where
  openOrders := .ok (stops.filterMap fun id => (promptly (stopFields 1 2010 id)).found.toOption.join)
  positions := .ok
    [{ category := .linear
       symbol := "ETHUSDT"
       side := some .sell
       quantity := 1
       averagePrice := some 2000
       markPrice := none
       unrealizedPnl := 0
       updatedAt := 0 }]

/-- A fill of level 1 at one of its stops. -/
def stopFill (n : ℕ) (orderLinkId : String) (quantity : ℚ)
    (h : (exitFill n orderLinkId quantity 2010).check = .ok ()) : ExecutionUpdate :=
  ⟨exitFill n orderLinkId quantity 2010, h⟩

def replacementFill : ExecutionUpdate := stopFill 1 replacementId 1 (by decide +kernel)

/-- Level 1's stop has ended or not; it is replaced, the replacement fills, and level 1 is closed
    while these stops are listed. -/
def closedAfterReplacement (gone : Venue → String → Prop) [∀ v id, Decidable (gone v id)]
    (ends listed : List String) : Option ExitLoop := do
  let loop ← stopsInstalled gone [] ends
  let loop ← stopReplaced gone 1 [replacementFill] [replacementId] loop
  let loop ← fillRecorded gone replacementFill loop
  proceed gone (List.replicate 7 (.main { answers := listing listed })) loop

theorem reaches_closedAfterReplacement {gone : Venue → String → Prop}
    [∀ v id, Decidable (gone v id)] {ends listed : List String} {loop : ExitLoop}
    (h : closedAfterReplacement gone ends listed = some loop) :
    Reaches gone (closing (entryIdOf 1) unprotectedTwo) loop := by
  simp only [closedAfterReplacement, Option.bind_eq_bind, Option.bind_eq_some_iff] at h
  obtain ⟨loop₁, h₁, loop₂, h₂, loop₃, h₃, h₄⟩ := h
  exact (((reaches_stopsInstalled h₁).trans (reaches_stopReplaced h₂)).trans
    (reaches_fillRecorded h₃)).trans (reaches_proceed h₄)

instance (p : ProtectionSnapshot) : Decidable (IsClosed p) := inferInstanceAs (Decidable (_ ∨ _))

/-- Once level 1's stop has ended it may be replaced, and only level 2's stop is left open when
    level 1 is closed. -/
theorem closed_level_has_no_live_exit_ended :
    ∃ (moves : List ExitMove) (seen : Inspection) (s : ProtectionSnapshot),
      Orderly exchangeId Ended (closing (entryIdOf 1) unprotectedTwo) moves ∧
      ((closing (entryIdOf 1) unprotectedTwo).run handleAt moves).main = .done (.ok (seen, s)) ∧
      IsClosed s ∧ seen.remainingOrders ≠ [] ∧ ∀ order ∈ seen.remainingOrders,
        (entryIdOf 1, order.orderLinkId) ∉
          ((closing (entryIdOf 1) unprotectedTwo).run handleAt moves).world.exits := by
  have hruns : ((closedAfterReplacement Ended [stopIdOf 1] [stopIdOf 2]).any fun loop =>
      loop.main.returned?.any fun closed =>
        decide (IsClosed closed.2 ∧ closed.1.remainingOrders ≠ [])) = true := by decide +kernel
  obtain ⟨loop, hloop, hrun⟩ := (Option.any_eq_true ..).mp hruns
  obtain ⟨⟨seen, s⟩, hreturned, hseen⟩ := (Option.any_eq_true ..).mp hrun
  obtain ⟨hclosed, hlisted⟩ := of_decide_eq_true hseen
  obtain ⟨moves, hmoves, rfl⟩ := reaches_closedAfterReplacement hloop
  have hdone := returned?_eq_some.mp hreturned
  exact ⟨moves, seen, s, hmoves, hdone, hclosed, hlisted,
    closed_level_has_no_live_exit unprotected_unprotectedTwo hmoves hdone hclosed⟩

/-- **A closed level with a live stop.** Level 1's stop is replaced while it is still open. Its
    replacement fills, the level is closed, and the stop is among the orders the closing was
    shown. -/
theorem closed_level_with_live_stop :
    ∃ (moves : List ExitMove) (seen : Inspection) (s : ProtectionSnapshot),
      Orderly exchangeId Anyhow (closing (entryIdOf 1) unprotectedTwo) moves ∧
      ((closing (entryIdOf 1) unprotectedTwo).run handleAt moves).main = .done (.ok (seen, s)) ∧
      IsClosed s ∧ ∃ order ∈ seen.remainingOrders, (entryIdOf 1, order.orderLinkId) ∈
        ((closing (entryIdOf 1) unprotectedTwo).run handleAt moves).world.exits := by
  have hruns : ((closedAfterReplacement Anyhow [] [stopIdOf 1, stopIdOf 2]).any fun loop =>
      loop.main.returned?.any fun closed =>
        decide (IsClosed closed.2 ∧ ∃ order ∈ closed.1.remainingOrders,
          (entryIdOf 1, order.orderLinkId) ∈ loop.world.exits)) = true := by decide +kernel
  obtain ⟨loop, hloop, hrun⟩ := (Option.any_eq_true ..).mp hruns
  obtain ⟨⟨seen, s⟩, hreturned, hseen⟩ := (Option.any_eq_true ..).mp hrun
  obtain ⟨hclosed, hlisted⟩ := of_decide_eq_true hseen
  obtain ⟨moves, hmoves, rfl⟩ := reaches_closedAfterReplacement hloop
  exact ⟨moves, seen, s, hmoves, returned?_eq_some.mp hreturned, hclosed, hlisted⟩

/-! ## The fills of a replaced stop -/

/-- Half of level 1's stop, and the half that is left at its replacement. -/
def firstHalf : ExecutionUpdate := stopFill 1 (stopIdOf 1) (1 / 2) (by decide +kernel)

def secondHalf : ExecutionUpdate := stopFill 2 replacementId (1 / 2) (by decide +kernel)

/-- The first half is recorded before the stop is replaced. -/
def halfRecorded : Option ExitLoop := do
  let loop ← stopsInstalled Exhausted [firstHalf] [stopIdOf 1]
  let loop ← fillRecorded Exhausted firstHalf loop
  stopReplaced Exhausted (1 / 2) [secondHalf] [replacementId] loop

instance (v : Venue) (e : ExecutionUpdate) (key : String) : Decidable (e ∈ v.fillsOf key) :=
  inferInstanceAs (Decidable (_ ∈ _))

/-- So the second half can be recorded. -/
theorem fills_recordable_after_replacement_halves :
    ∃ (moves : List ExitMove) (v : Venue) (p : ProtectionSnapshot),
      Orderly exchangeId Exhausted (closing (entryIdOf 1) unprotectedTwo) moves ∧
      ((closing (entryIdOf 1) unprotectedTwo).run handleAt moves).world = v ∧ p ∈ v.rows ∧
      v.fillsOf p.entryOrderLinkId = [firstHalf, secondHalf] ∧
      ∃ p' w', Coroutine.Runs handle (ProtectiveExitService.applyExitExecution secondHalf 2 zeroHash)
        v.world (.ok p') w' ∧ w'.store.hasExecution secondHalf.executionId = true := by
  have hruns : (halfRecorded.any fun loop =>
      (loop.world.store.loadProtectionSnapshot (entryIdOf 1)).any fun p =>
        decide (loop.world.fillsOf p.entryOrderLinkId = [firstHalf, secondHalf] ∧
          ¬ loop.world.Recorded secondHalf ∧ p.entryQuantity = 1 ∧
          0 ≤ p.exitFees + secondHalf.fee)) = true := by decide +kernel
  obtain ⟨loop, hloop, hrun⟩ := (Option.any_eq_true ..).mp hruns
  obtain ⟨p, hp, hrun⟩ := (Option.any_eq_true ..).mp hrun
  rw [decide_eq_true_iff] at hrun
  obtain ⟨hfills, hnew, hquantity, hfee⟩ := hrun
  simp only [halfRecorded, Option.bind_eq_bind, Option.bind_eq_some_iff] at hloop
  obtain ⟨loop₁, h₁, loop₂, h₂, h₃⟩ := hloop
  obtain ⟨moves, hmoves, rfl⟩ := ((reaches_stopsInstalled h₁).trans (reaches_fillRecorded h₂)).trans
    (reaches_stopReplaced h₃)
  have hmem := (KeyedTable.find_eq_some.mp hp).1
  have hfits : totalQuantity [firstHalf, secondHalf] ≤ 1 := by decide +kernel
  refine ⟨moves, _, p, hmoves, rfl, hmem, hfills, ?_⟩
  refine (fills_recordable_after_replacement unprotected_unprotectedTwo hmoves rfl hmem).1 ?_
    secondHalf ?_ hnew hfee 2 zeroHash
  · rw [hfills, hquantity]
    exact hfits
  · rw [hfills]
    exact List.mem_cons_of_mem _ (List.mem_singleton_self _)

def wholeFill : ExecutionUpdate := stopFill 1 (stopIdOf 1) 1 (by decide +kernel)

/-- Level 1's stop has filled, and is replaced before the fill arrives. -/
def replacedAfterFill : Option ExitLoop := do
  let loop ← stopsInstalled Anyhow [wholeFill] [stopIdOf 1]
  stopReplaced Anyhow 1 [] [] loop

/-- A fill that no row knows the order of is refused, whatever is answered. -/
theorem refused_of_unknown_exit {w w' : World} {e : ExecutionUpdate} {receivedAt : Time}
    {payloadHash : PayloadHash} {outcome : Except Failure ProtectionSnapshot}
    (hnone : w.store.loadProtectionSnapshotByExitId e.orderLinkId = none)
    (h : Coroutine.Runs handle
      (ProtectiveExitService.applyExitExecution e receivedAt payloadHash) w outcome w') :
    outcome = .error (.valueError "execution has no persisted protection snapshot") := by
  have hload : ∀ a, handle a (.loadProtectionSnapshotByExitId e.orderLinkId) w =
      (.ok none, w) := fun _ => by
    rw [← hnone]
    rfl
  unfold ProtectiveExitService.applyExitExecution at h
  rw [runs_call_bind hload] at h
  exact ((runs_done ..).mp h).1

/-- **A fill lost with a replaced stop.** Level 1's stop has filled, within what was entered, and
    was replaced before the fill arrived; the fill cannot be recorded any more, and the level stays
    open in the books although the exchange holds nothing of it. -/
theorem unrecordable_after_replacement :
    ∃ (moves : List ExitMove) (v : Venue) (p : ProtectionSnapshot),
      Orderly exchangeId Anyhow (closing (entryIdOf 1) unprotectedTwo) moves ∧
      ((closing (entryIdOf 1) unprotectedTwo).run handleAt moves).world = v ∧ p ∈ v.rows ∧
      wholeFill ∈ v.fillsOf p.entryOrderLinkId ∧
      totalQuantity (v.fillsOf p.entryOrderLinkId) = p.entryQuantity ∧ p.openQuantity = 1 ∧
      ∀ receivedAt payloadHash outcome w', Coroutine.Runs handle
        (ProtectiveExitService.applyExitExecution wholeFill receivedAt payloadHash) v.world
        outcome w' →
        outcome = .error (.valueError "execution has no persisted protection snapshot") := by
  have hruns : (replacedAfterFill.any fun loop =>
      (loop.world.store.loadProtectionSnapshot (entryIdOf 1)).any fun p =>
        decide (wholeFill ∈ loop.world.fillsOf p.entryOrderLinkId ∧
          totalQuantity (loop.world.fillsOf p.entryOrderLinkId) = p.entryQuantity ∧
          p.openQuantity = 1 ∧
          loop.world.store.loadProtectionSnapshotByExitId wholeFill.orderLinkId = none)) =
      true := by decide +kernel
  obtain ⟨loop, hloop, hrun⟩ := (Option.any_eq_true ..).mp hruns
  obtain ⟨p, hp, hrun⟩ := (Option.any_eq_true ..).mp hrun
  rw [decide_eq_true_iff] at hrun
  obtain ⟨hfill, htotal, hopen, hnone⟩ := hrun
  simp only [replacedAfterFill, Option.bind_eq_bind, Option.bind_eq_some_iff] at hloop
  obtain ⟨loop₁, h₁, h₂⟩ := hloop
  obtain ⟨moves, hmoves, rfl⟩ := (reaches_stopsInstalled h₁).trans (reaches_stopReplaced h₂)
  exact ⟨moves, _, p, hmoves, rfl, (KeyedTable.find_eq_some.mp hp).1, hfill, htotal, hopen,
    fun _ _ _ _ h => refused_of_unknown_exit hnone h⟩

end CreditHedge
