import CreditHedge.Application.EntryFills
import CreditHedge.Application.OneLevelLifecycle

/-!
# Awaiting an entry

The entry's order at the exchange beside the services: it fills in pieces whenever it likes, until
it has ended. What `await_entry_fill` returns is the order's final size, whatever else is being
recorded at the same time (`upholds_awaitEntryFill`).

There are two ways out of its loop. One is an entry that has filled completely; that there is
nothing left to fill is then in the numbers. In the other one, the order was found in a terminal
status with no more filled than the snapshot has. The snapshot is an old one by then, and the row
that is finalized is read after it. But what is recorded lies between what the snapshot has and
what the exchange has filled, whenever one looks, and at a terminal order these are the same
(`allRecorded_of_ended`).

So two things are carried along: what is recorded only grows, and never beyond what was filled.
-/

set_option autoImplicit false

namespace CreditHedge

open OneLevelEntryService ProtectiveExitService OneLevelLifecycleService

/-! ## The entry at the exchange -/

/-- The order of an entry, as the exchange has it: the executions so far, all under ids of their
    own and no more than was ordered, and the status it has ended in, if it has. -/
structure EntryOrder where
  orderLinkId : String
  quantity : ℚ
  fills : List ExecutionUpdate
  ended : Option String
  own : ∀ e ∈ fills, e.orderLinkId = orderLinkId
  ids : (fills.map fun e => e.executionId).Nodup
  within : totalQuantity fills ≤ quantity

namespace EntryOrder

variable {o o' o'' : EntryOrder}

/-- `cumulative_filled_quantity`. -/
def filled (o : EntryOrder) : ℚ := totalQuantity o.fills

/-- The order after some time. An order that has ended never fills again. -/
structure Grows (o o' : EntryOrder) : Prop where
  orderLinkId : o'.orderLinkId = o.orderLinkId
  quantity : o'.quantity = o.quantity
  fills : o.fills <+: o'.fills
  ended : o.ended.isSome → o'.fills = o.fills ∧ o'.ended = o.ended

instance (o o' : EntryOrder) : Decidable (o.Grows o') :=
  decidable_of_iff
    (o'.orderLinkId = o.orderLinkId ∧ o'.quantity = o.quantity ∧ o.fills <+: o'.fills ∧
      (o.ended.isSome → o'.fills = o.fills ∧ o'.ended = o.ended))
    ⟨fun ⟨h₁, h₂, h₃, h₄⟩ => ⟨h₁, h₂, h₃, h₄⟩, fun h => ⟨h.1, h.2, h.3, h.4⟩⟩

theorem Grows.refl (o : EntryOrder) : o.Grows o :=
  ⟨rfl, rfl, List.prefix_refl _, fun _ => ⟨rfl, rfl⟩⟩

theorem Grows.trans (h : o.Grows o') (h' : o'.Grows o'') : o.Grows o'' where
  orderLinkId := h'.orderLinkId.trans h.orderLinkId
  quantity := h'.quantity.trans h.quantity
  fills := h.fills.trans h'.fills
  ended := by
    intro hended
    obtain ⟨hfills, hsame⟩ := h.ended hended
    obtain ⟨hfills', hsame'⟩ := h'.ended (by rw [hsame]; exact hended)
    exact ⟨hfills'.trans hfills, hsame'.trans hsame⟩

theorem Grows.filled_le (h : o.Grows o') : o.filled ≤ o'.filled := by
  obtain ⟨later, hlater⟩ := h.fills
  unfold filled
  rw [← hlater, totalQuantity_append]
  exact le_add_of_nonneg_right (totalQuantity_nonneg later)

/-- Nothing is left to fill, or nothing will be. -/
def Final (o : EntryOrder) : Prop := o.ended.isSome ∨ o.filled = o.quantity

/-- **Final is final.** -/
theorem Final.grows (hf : o.Final) (h : o.Grows o') : o'.filled = o.filled ∧ o'.Final := by
  rcases hf with hended | hfull
  · obtain ⟨hfills, hsame⟩ := h.ended hended
    refine ⟨congrArg totalQuantity hfills, .inl ?_⟩
    rw [hsame]
    exact hended
  · have hsame : o'.filled = o.filled := by
      refine le_antisymm ?_ h.filled_le
      calc o'.filled ≤ o'.quantity := o'.within
        _ = o.filled := by rw [h.quantity, hfull]
    exact ⟨hsame, .inr (by rw [hsame, hfull, h.quantity])⟩

/-- The order has this much filled, and however long one waits it will have no more. -/
def FinallyFilled (o : EntryOrder) (quantity : ℚ) : Prop :=
  ∀ o', o.Grows o' → o'.filled = quantity

def FinalSize (o : EntryOrder) (quantity : ℚ) : Prop := quantity = o.filled ∧ o.Final

theorem FinalSize.grows {quantity : ℚ} (hf : o.FinalSize quantity) (h : o.Grows o') :
    o'.FinalSize quantity := by
  obtain ⟨hsame, hfinal⟩ := hf.2.grows h
  exact ⟨hf.1.trans hsame.symm, hfinal⟩

theorem FinalSize.finallyFilled {quantity : ℚ} (hf : o.FinalSize quantity) :
    o.FinallyFilled quantity :=
  fun _ h => (hf.grows h).1.symm

/-- What is filled completely is so finally. -/
theorem finalSize_of_full {quantity : ℚ} (hfull : o.quantity ≤ quantity)
    (hle : quantity ≤ o.filled) : o.FinalSize quantity := by
  have hwithin : o.filled ≤ o.quantity := o.within
  exact ⟨le_antisymm hle (hwithin.trans hfull),
    .inr (le_antisymm hwithin (hfull.trans hle))⟩

/-- What an order query may answer: the fill and the status of this moment. -/
structure Reports (o : EntryOrder) (answer : ExchangeOrder) : Prop where
  filled : answer.cumulativeFilledQuantity = o.filled
  status : answer.status ∈ terminalOrderStatuses → o.ended = some answer.status

instance (o : EntryOrder) (answer : ExchangeOrder) : Decidable (o.Reports answer) :=
  decidable_of_iff
    (answer.cumulativeFilledQuantity = o.filled ∧
      (answer.status ∈ terminalOrderStatuses → o.ended = some answer.status))
    ⟨fun ⟨h₁, h₂⟩ => ⟨h₁, h₂⟩, fun h => ⟨h.1, h.2⟩⟩

end EntryOrder

/-! ## The world of the lifecycle -/

/-- The services' world, the entry's order at the exchange, and the orders sent, the last first. -/
structure LifecycleWorld where
  ports : World
  order : EntryOrder
  placed : List PlaceOrderRequest

/-- What the outside world answers, and what the order is by then. -/
structure LifecycleAnswers extends Answers where
  order : EntryOrder
  executions : Except Failure (List ExecutionUpdate) := .error (.exchangeError "not asked")

/-- The order this call sends. -/
def Call.placed? : Call → Option PlaceOrderRequest
  | .placeOrder request => some request
  | _ => none

namespace LifecycleWorld

/-- The exchange has gone on. -/
def pass (w : LifecycleWorld) (order : EntryOrder) : LifecycleWorld := { w with order }

/-- A call of the common ports. -/
def serve (a : LifecycleAnswers) (call : Call) (w : LifecycleWorld) :
    Except Failure call.Result × LifecycleWorld :=
  ((CreditHedge.handle a.toAnswers call w.ports).1,
    { w.pass a.order with
      ports := (CreditHedge.handle a.toAnswers call w.ports).2
      placed := call.placed?.toList ++ w.placed })

def handle (a : LifecycleAnswers) :
    (call : LifecycleCall) → LifecycleWorld → Except Failure call.Result × LifecycleWorld
  | .port call, w => w.serve a call
  | .getExecutionHistory .., w => (a.executions, w.pass a.order)

/-- The recorded executions of the entry. -/
def recorded (w : LifecycleWorld) : List ExecutionUpdate :=
  w.ports.store.executionsOf w.order.orderLinkId

end LifecycleWorld

/-- The order whose executions are asked for. -/
def LifecycleCall.history? : LifecycleCall → Option String
  | .getExecutionHistory _ _ orderLinkId => some orderLinkId
  | _ => none

/-- The order that is asked for. -/
def LifecycleCall.query? : LifecycleCall → Option String
  | .port (.getOrderByLinkId _ _ orderLinkId) => some orderLinkId
  | _ => none

/-- Any exchange: the order fills when it likes until it has ended. The history, which may lag and
    repeat and reorder what it has, shows no fill of it that there was not, and the order itself is
    shown as it is. -/
structure Faithful (a : LifecycleAnswers) (call : LifecycleCall) (w : LifecycleWorld) : Prop where
  order : w.order.Grows a.order
  history : call.history? = some w.order.orderLinkId →
    ∀ executions ∈ a.executions.toOption, ∀ e ∈ executions, e ∈ a.order.fills
  found : call.query? = some w.order.orderLinkId →
    ∀ found ∈ a.found.toOption, ∀ answer ∈ found, a.order.Reports answer

instance (a : LifecycleAnswers) (call : LifecycleCall) (w : LifecycleWorld) :
    Decidable (Faithful a call w) :=
  decidable_of_iff
    (w.order.Grows a.order ∧
      (call.history? = some w.order.orderLinkId →
        ∀ executions ∈ a.executions.toOption, ∀ e ∈ executions, e ∈ a.order.fills) ∧
      (call.query? = some w.order.orderLinkId →
        ∀ found ∈ a.found.toOption, ∀ answer ∈ found, a.order.Reports answer))
    ⟨fun ⟨h₁, h₂, h₃⟩ => ⟨h₁, h₂, h₃⟩, fun h => ⟨h.1, h.2, h.3⟩⟩

/-! ## Sound, and on the way -/

/-- The books balance, with no execution in them that the exchange did not report; an entry that
    counts as active is so at its final size; and that is the size of every order sent. -/
structure SoundEntry (w : LifecycleWorld) : Prop where
  books : BooksBalance w.ports.store
  recorded : w.recorded ⊆ w.order.fills
  target : ∀ s ∈ w.ports.store.entrySnapshots.rows, s.orderLinkId = w.order.orderLinkId →
    s.targetQuantity = w.order.quantity
  active : ∀ s ∈ w.ports.store.entrySnapshots.rows, s.orderLinkId = w.order.orderLinkId →
    s.state = .activeUnprotected → w.order.FinalSize s.filledQuantity
  placed : ∀ request ∈ w.placed, w.order.FinalSize request.quantity

/-- **How the tasks move this world.** -/
structure EntryProgress (w w' : LifecycleWorld) : Prop where
  entries : EntryMoves w.ports w'.ports
  recorded : w.recorded <+: w'.recorded
  order : w.order.Grows w'.order
  sound : SoundEntry w → SoundEntry w'

namespace EntryProgress

variable {w w' w'' : LifecycleWorld}

theorem refl (w : LifecycleWorld) : EntryProgress w w :=
  ⟨.refl _, List.prefix_refl _, .refl _, id⟩

theorem trans (h : EntryProgress w w') (h' : EntryProgress w' w'') : EntryProgress w w'' :=
  ⟨h.entries.trans h'.entries, h.recorded.trans h'.recorded, h.order.trans h'.order,
    fun hs => h'.sound (h.sound hs)⟩

end EntryProgress

theorem nodup_recorded (w : LifecycleWorld) : w.recorded.Nodup := by
  refine List.Nodup.filter _ (List.Nodup.of_map (fun e => e.executionId) ?_)
  rw [List.map_map]
  exact w.ports.store.executions.nodup

namespace SoundEntry

variable {w : LifecycleWorld}

theorem recorded_le_filled (h : SoundEntry w) : totalQuantity w.recorded ≤ w.order.filled :=
  totalQuantity_le_of_subset (nodup_recorded w) h.recorded

theorem filled_eq_recorded (h : SoundEntry w) {s : EntryExecutionSnapshot}
    (hs : s ∈ w.ports.store.entrySnapshots.rows) (hown : s.orderLinkId = w.order.orderLinkId) :
    s.filledQuantity = totalQuantity w.recorded := by
  rw [(h.books s hs).filledQuantity, hown]
  rfl

end SoundEntry

/-- An entry that an execution makes active has filled completely. -/
theorem full_of_applyEntryExecution {s updated : EntryExecutionSnapshot} {e : ExecutionUpdate}
    {updatedAt : Time} (h : applyEntryExecution s e updatedAt = .ok updated)
    (hstate : updated.state = .activeUnprotected) :
    updated.filledQuantity = updated.targetQuantity := by
  simp only [applyEntryExecution, bind_unit_eq_ok, EntryExecutionSnapshot.create_eq_ok] at h
  obtain ⟨-, -, -, -, h⟩ := h
  rw [h] at hstate
  dsimp only at hstate
  split at hstate
  · rename_i hfull
    rw [h]
    exact hfull
  · exact absurd hstate (by simp)

theorem state_of_finalizePartialEntry {s finalized : EntryExecutionSnapshot} {updatedAt : Time}
    (h : finalizePartialEntry s updatedAt = .ok finalized) :
    finalized.state = .activeUnprotected := by
  simp only [finalizePartialEntry, bind_unit_eq_ok, EntryExecutionSnapshot.create_eq_ok] at h
  rw [h.2]

/-! ## Step by step -/

section Steps

variable {w : LifecycleWorld} {a : LifecycleAnswers}

/-- The exchange by itself. -/
theorem progress_pass {order : EntryOrder} (h : w.order.Grows order) :
    EntryProgress w (w.pass order) := by
  have hrecorded : (w.pass order).recorded = w.recorded := by
    unfold LifecycleWorld.recorded LifecycleWorld.pass
    rw [h.orderLinkId]
  refine ⟨.refl _, hrecorded ▸ List.prefix_refl _, h, fun hs => ?_⟩
  exact
    { books := hs.books
      recorded := by
        rw [hrecorded]
        exact List.Subset.trans hs.recorded h.fills.subset
      target := fun s hmem hown =>
        (hs.target s hmem (hown.trans h.orderLinkId)).trans h.quantity.symm
      active := fun s hmem hown hactive =>
        (hs.active s hmem (hown.trans h.orderLinkId) hactive).grows h
      placed := fun request hmem => (hs.placed request hmem).grows h }

/-- The calls that leave the entries and the executions alone. -/
def Call.KeepsEntries : Call → Prop
  | .persistEntryIntent .. | .transitionEntrySnapshot .. | .recordAcknowledgementAndSnapshot ..
  | .recordExecutionAndSnapshot .. | .recordExitExecutionAndSnapshot .. => False
  | _ => True

structure SameEntries (store store' : SqliteExecutionStore) : Prop where
  entries : store'.entrySnapshots = store.entrySnapshots
  executions : store'.executions = store.executions

theorem sameEntries_write {ports : World} {result : Except Failure SqliteExecutionStore}
    (h : ∀ store', result = .ok store' → SameEntries ports.store store') :
    SameEntries ports.store (ports.write result).2.store := by
  cases result with
  | ok store' => exact h store' rfl
  | error failure => exact ⟨rfl, rfl⟩

theorem sameEntries_of_keeps (a : Answers) {call : Call} (ports : World)
    (h : call.KeepsEntries) : SameEntries ports.store (handle a call ports).2.store := by
  cases call with
  | persistEntryIntent | transitionEntrySnapshot | recordAcknowledgementAndSnapshot
  | recordExecutionAndSnapshot | recordExitExecutionAndSnapshot => exact absurd h id
  | placeOrder request =>
    show SameEntries _ (if a.takes then ports.accept _ else ports).store
    split <;> exact ⟨rfl, rfl⟩
  | getOrderByLinkId category symbol orderLinkId =>
    show SameEntries _ (if a.shows then ports.accept _ else ports).store
    split <;> exact ⟨rfl, rfl⟩
  | recordAcknowledgement acknowledgement =>
    refine sameEntries_write fun store' hok => ?_
    simp only [SqliteExecutionStore.recordAcknowledgement, bind_eq_ok,
      SqliteExecutionStore.commit_eq_ok] at hok
    obtain ⟨t, ht, hstore⟩ := hok
    obtain ⟨orderIntents, rfl⟩ := SqliteExecutionStore.acknowledge_eq_ok ht
    constructor <;> rw [hstore]
  | persistProtectionIntent request snapshot persistedAt =>
    refine sameEntries_write fun store' hok => ?_
    simp only [SqliteExecutionStore.persistProtectionIntent, bind_eq_ok,
      SqliteExecutionStore.integrityAs_eq_ok, SqliteExecutionStore.commit_eq_ok] at hok
    obtain ⟨-, -, t, ht, protectionSnapshots, -, hstore⟩ := hok
    obtain ⟨orderIntents, rfl⟩ := SqliteExecutionStore.insertOrderIntent_eq_ok ht
    constructor <;> rw [hstore]
  | persistTakeProfitIntent previousVersion request snapshot persistedAt =>
    refine sameEntries_write fun store' hok => ?_
    simp only [SqliteExecutionStore.persistTakeProfitIntent, bind_eq_ok,
      SqliteExecutionStore.integrityAs_eq_ok, SqliteExecutionStore.commit_eq_ok] at hok
    obtain ⟨-, -, t, ht, t', ht', hstore⟩ := hok
    obtain ⟨orderIntents, rfl⟩ := SqliteExecutionStore.insertOrderIntent_eq_ok ht
    obtain ⟨protectionSnapshots, -, rfl⟩ :=
      SqliteExecutionStore.updateProtectionSnapshot_eq_ok ht'
    constructor <;> rw [hstore]
  | persistReplacementStopIntent previousVersion request snapshot persistedAt =>
    refine sameEntries_write fun store' hok => ?_
    simp only [SqliteExecutionStore.persistReplacementStopIntent, bind_eq_ok,
      SqliteExecutionStore.integrityAs_eq_ok, SqliteExecutionStore.commit_eq_ok] at hok
    obtain ⟨-, -, t, ht, t', ht', hstore⟩ := hok
    obtain ⟨orderIntents, rfl⟩ := SqliteExecutionStore.insertOrderIntent_eq_ok ht
    obtain ⟨protectionSnapshots, -, rfl⟩ :=
      SqliteExecutionStore.updateProtectionSnapshot_eq_ok ht'
    constructor <;> rw [hstore]
  | transitionProtectionSnapshot previousVersion snapshot =>
    refine sameEntries_write fun store' hok => ?_
    simp only [SqliteExecutionStore.transitionProtectionSnapshot, bind_eq_ok,
      SqliteExecutionStore.commit_eq_ok] at hok
    obtain ⟨t, ht, hstore⟩ := hok
    obtain ⟨protectionSnapshots, -, rfl⟩ :=
      SqliteExecutionStore.updateProtectionSnapshot_eq_ok ht
    constructor <;> rw [hstore]
  | transitionRecoveryDebtSnapshot previousVersion snapshot =>
    refine sameEntries_write fun store' hok => ?_
    simp only [SqliteExecutionStore.transitionRecoveryDebtSnapshot, bind_eq_ok,
      SqliteExecutionStore.orFail_eq_ok, SqliteExecutionStore.commit_eq_ok] at hok
    obtain ⟨-, -, recoveryDebts, -, hstore⟩ := hok
    constructor <;> rw [hstore]
  | _ => exact ⟨rfl, rfl⟩

/-- Entries and executions are left alone, and what is sent has the entry's final size. -/
theorem progress_of_sameEntries {ports : World} {requests : List PlaceOrderRequest}
    (h : SameEntries w.ports.store ports.store)
    (hsized : ∀ request ∈ requests, w.order.FinalSize request.quantity) :
    EntryProgress w { w with ports, placed := requests ++ w.placed } := by
  have hsame : ∀ id, ports.store.executionsOf id = w.ports.store.executionsOf id := fun id => by
    unfold SqliteExecutionStore.executionsOf
    rw [h.executions]
  have hentries : EntryMoves w.ports ports := by
    refine ⟨?_, fun hb s hs => ?_⟩
    · rw [h.entries]
      exact .refl _
    · rw [h.entries] at hs
      exact (hb s hs).of_same (hsame _)
  have hrecorded : w.recorded = LifecycleWorld.recorded
      { w with ports, placed := requests ++ w.placed } := (hsame _).symm
  refine ⟨hentries, hrecorded ▸ List.prefix_refl _, .refl _, fun hs => ?_⟩
  exact
    { books := hentries.balanced hs.books
      recorded := hrecorded ▸ hs.recorded
      target := by
        show ∀ s ∈ ports.store.entrySnapshots.rows, _
        rw [h.entries]
        exact hs.target
      active := by
        show ∀ s ∈ ports.store.entrySnapshots.rows, _
        rw [h.entries]
        exact hs.active
      placed := fun request hmem =>
        (List.mem_append.mp hmem).elim (hsized request) (hs.placed request) }

/-- Serving a call is the exchange's part and then the store's. -/
theorem progress_serve {call : Call} (hfaithful : Faithful a (.port call) w)
    (h : EntryProgress (w.pass a.order)
      { w.pass a.order with
        ports := (handle a.toAnswers call w.ports).2, placed := call.placed?.toList ++ w.placed }) :
    EntryProgress w (w.serve a call).2 :=
  (progress_pass hfaithful.order).trans h

theorem progress_serve_keeps {call : Call} (hfaithful : Faithful a (.port call) w)
    (hkeeps : call.KeepsEntries)
    (hsized : ∀ request, call.placed? = some request → w.order.FinalSize request.quantity) :
    EntryProgress w (w.serve a call).2 := by
  refine progress_serve hfaithful
    (progress_of_sameEntries (sameEntries_of_keeps a.toAnswers w.ports hkeeps) ?_)
  intro request hrequest
  exact (hsized request (Option.mem_toList.mp hrequest)).grows hfaithful.order

/-- A call that sends nothing. -/
theorem progress_serve_quiet {call : Call} (hfaithful : Faithful a (.port call) w)
    (hkeeps : call.KeepsEntries) (hplaced : call.placed? = none) :
    EntryProgress w (w.serve a call).2 :=
  progress_serve_keeps hfaithful hkeeps fun request h => absurd (hplaced.symm.trans h) (by simp)

/-- **A write over a row that was seen.** If it makes the entry active, it does so completely
    filled or at what is known to be its final size. -/
theorem progress_of_write {p s : EntryExecutionSnapshot} {store' : SqliteExecutionStore}
    {new : List ExecutionRow} (hseen : w.ports.SeenEntry p)
    (hfills : Fills p s (new.map fun row => row.execution.quantity).sum
      (new.map fun row => row.execution.price * row.execution.quantity).sum
      (new.map fun row => row.execution.fee).sum)
    (hlinks : ∀ row ∈ new, row.execution.orderLinkId = p.orderLinkId)
    (h : SqliteExecutionStore.WritesEntry w.ports.store.toTables store'.toTables p.version s new)
    (hnew : p.orderLinkId = w.order.orderLinkId → ∀ row ∈ new, row.execution ∈ w.order.fills)
    (hactive : s.state = .activeUnprotected → p.orderLinkId = w.order.orderLinkId →
      p ∈ w.ports.store.entrySnapshots.rows →
      s.filledQuantity = s.targetQuantity ∨ w.order.FinalSize s.filledQuantity) :
    EntryProgress w { w with ports := { w.ports with store := store' } } ∧
      World.SeenEntry { w.ports with store := store' } s := by
  obtain ⟨hmoves, hseen'⟩ := moves_of_writesEntry hseen hfills hlinks h
  obtain ⟨hp, hmem⟩ := hseen.swap hfills.orderLinkId h.swap
  have hexecutions : ∀ id, store'.executionsOf id = w.ports.store.executionsOf id ++
      (new.map fun row => row.execution).filter fun e => e.orderLinkId = id := by
    intro id
    unfold SqliteExecutionStore.executionsOf
    rw [h.executions, List.map_append, List.filter_append]
  refine ⟨⟨hmoves, ?_, .refl _, fun hs => ?_⟩, hseen'⟩
  · show _ <+: store'.executionsOf w.order.orderLinkId
    rw [hexecutions]
    exact List.prefix_append _ _
  · have hrecorded : store'.executionsOf w.order.orderLinkId ⊆ w.order.fills := by
      intro e he
      rw [hexecutions, List.mem_append] at he
      rcases he with he | he
      · exact hs.recorded he
      · obtain ⟨he, hown⟩ := List.mem_filter.mp he
        obtain ⟨row, hrow, rfl⟩ := List.mem_map.mp he
        exact hnew ((hlinks row hrow).symm.trans (of_decide_eq_true hown)) row hrow
    have hbooks : BooksBalance store' := hmoves.balanced hs.books
    refine ⟨hbooks, hrecorded, fun x hx hown => ?_, fun x hx hown hstate => ?_, hs.placed⟩
    · rcases (hmem x).mp hx with rfl | ⟨hx, -⟩
      · rw [hfills.targetQuantity]
        exact hs.target p hp (hfills.orderLinkId.symm.trans hown)
      · exact hs.target x hx hown
    · rcases (hmem x).mp hx with rfl | ⟨hx, -⟩
      · have hownP := hfills.orderLinkId.symm.trans hown
        rcases hactive hstate hownP hp with hfull | hfinal
        · refine EntryOrder.finalSize_of_full ?_ ?_
          · rw [hfull, hfills.targetQuantity, hs.target p hp hownP]
          · rw [(hbooks x hx).filledQuantity, hown]
            refine totalQuantity_le_of_subset ?_ hrecorded
            exact nodup_recorded { w with ports := { w.ports with store := store' } }
        · exact hfinal
      · exact hs.active x hx hown hstate

end Steps

/-! ## What a snapshot still says -/

/-- A snapshot that was the row once: of this order, with no more filled than is recorded now, and
    at its final size if it is active. -/
structure KnownEntry (w : LifecycleWorld) (s : EntryExecutionSnapshot) : Prop where
  filled : s.orderLinkId = w.order.orderLinkId → s.filledQuantity ≤ totalQuantity w.recorded
  active : s.orderLinkId = w.order.orderLinkId → s.state = .activeUnprotected →
    w.order.FinalSize s.filledQuantity

namespace KnownEntry

variable {w w' : LifecycleWorld} {s : EntryExecutionSnapshot}

theorem of_mem (hs : SoundEntry w) (hmem : s ∈ w.ports.store.entrySnapshots.rows) :
    KnownEntry w s :=
  ⟨fun hown => (hs.filled_eq_recorded hmem hown).le, hs.active s hmem⟩

theorem progress (h : KnownEntry w s) (hw : EntryProgress w w') : KnownEntry w' s := by
  refine ⟨fun hown => ?_, fun hown hstate => ?_⟩
  · obtain ⟨later, hlater⟩ := hw.recorded
    calc s.filledQuantity ≤ totalQuantity w.recorded :=
          h.filled (hown.trans hw.order.orderLinkId)
      _ ≤ totalQuantity w'.recorded := by
          rw [← hlater, totalQuantity_append]
          exact le_add_of_nonneg_right (totalQuantity_nonneg later)
  · exact (h.active (hown.trans hw.order.orderLinkId) hstate).grows hw.order

end KnownEntry

section Tasks

open Coroutine

variable {w : LifecycleWorld} {α β : Type}

/-- The answers of the common ports are faithful. -/
abbrev FaithfulAt (a : LifecycleAnswers) (call : Call) (w : LifecycleWorld) : Prop :=
  Faithful a (.port call) w

/-- A service in this world. -/
abbrev UpholdsPorts (post : Except Failure α → LifecycleWorld → Prop) (t : Service α)
    (w : LifecycleWorld) : Prop :=
  Upholds LifecycleWorld.serve EntryProgress FaithfulAt post t w

/-- A task in this world. -/
abbrev UpholdsEntry (post : Except Failure α → LifecycleWorld → Prop) (t : LifecycleTask α)
    (w : LifecycleWorld) : Prop :=
  Upholds LifecycleWorld.handle EntryProgress Faithful post t w

theorem UpholdsPorts.onCommonPorts {post : Except Failure α → LifecycleWorld → Prop}
    {t : Service α} (h : UpholdsPorts post t w) : UpholdsEntry post (onCommonPorts t) w := by
  induction t generalizing w with
  | done outcome => exact h
  | call call resume ih =>
    intro w' hw' a ha
    obtain ⟨hstep, hrest⟩ := h w' hw' a ha
    exact ⟨hstep, ih _ hrest⟩

/-- What was returned is of this entry, and was its row once. -/
def RowOf (orderLinkId : String) (s : EntryExecutionSnapshot) (w : LifecycleWorld) : Prop :=
  s.orderLinkId = orderLinkId ∧ w.ports.SeenEntry s ∧ KnownEntry w s

theorem RowOf.progress {orderLinkId : String} {s : EntryExecutionSnapshot} {w' : LifecycleWorld}
    (h : RowOf orderLinkId s w) (hw : EntryProgress w w') : RowOf orderLinkId s w' :=
  ⟨h.1, hw.entries.seen h.2.1, h.2.2.progress hw⟩

/-- A call that sends nothing and leaves the entries alone, and what follows it. -/
theorem upholds_quiet {post : Except Failure α → LifecycleWorld → Prop} {call : Call}
    {f : call.Result → Service α} (hkeeps : call.KeepsEntries) (hplaced : call.placed? = none)
    (hf : ∀ w', EntryProgress w w' → ∀ v, UpholdsPorts post (f v) w')
    (hpost : ∀ failure w', post (.error failure) w') :
    UpholdsPorts post (awaitCall call >>= f) w := by
  refine .call_bind fun w₁ hw₁ a ha => ?_
  have hstep := progress_serve_quiet ha hkeeps hplaced
  exact ⟨hstep, fun v _ => hf _ (hw₁.trans hstep) v, fun failure _ w₂ _ => hpost failure w₂⟩

theorem upholds_requiredRow (orderLinkId : String) (hs : SoundEntry w) :
    UpholdsPorts (IfReturned (RowOf orderLinkId)) (requiredSnapshot orderLinkId) w := by
  refine .call_bind fun w₁ hw₁ a ha => ?_
  have hstep : EntryProgress w₁ (w₁.serve a (.loadEntrySnapshot orderLinkId)).2 :=
    progress_serve_quiet ha trivial rfl
  refine ⟨hstep, fun found hfound => ?_, fun _ _ _ _ => trivial⟩
  cases found with
  | none => exact fun _ _ => trivial
  | some s =>
    obtain ⟨hmem, hown⟩ := KeyedTable.find_eq_some.mp
      (show w₁.ports.store.entrySnapshots.find orderLinkId = some s from Except.ok.inj hfound)
    have hknown := KnownEntry.of_mem (hw₁.sound hs) hmem
    have hrow : RowOf orderLinkId s w₁ := ⟨hown, .of_mem hmem, hknown⟩
    exact fun w₂ hw₂ => hrow.progress (hstep.trans hw₂)

/-! Recording. -/

/-- `apply_execution` from its write on. -/
def writeRecorded (snapshot updated : EntryExecutionSnapshot) (e : ExecutionUpdate)
    (receivedAt : Time) (payloadHash : PayloadHash) : Service EntryExecutionSnapshot := do
  if ← awaitCall (.recordExecutionAndSnapshot snapshot.version e receivedAt payloadHash updated)
  then pure updated
  else requiredSnapshot e.orderLinkId

/-- `apply_execution` once the row is read. -/
def recordOver (snapshot : EntryExecutionSnapshot) (e : ExecutionUpdate) (receivedAt : Time)
    (payloadHash : PayloadHash) : Service EntryExecutionSnapshot := do
  if ← awaitCall (.hasExecution e.executionId) then pure snapshot
  else do
    let updated ← applyEntryExecution snapshot e receivedAt
    writeRecorded snapshot updated e receivedAt payloadHash

theorem applyExecution_eq (e : ExecutionUpdate) (receivedAt : Time) (payloadHash : PayloadHash) :
    applyExecution e receivedAt payloadHash =
      requiredSnapshot e.orderLinkId >>= fun snapshot =>
        recordOver snapshot e receivedAt payloadHash :=
  rfl

/-- The execution, if it is one of the entry's, was reported by the exchange. -/
def Reported (e : ExecutionUpdate) (w : LifecycleWorld) : Prop :=
  e.orderLinkId = w.order.orderLinkId → e ∈ w.order.fills

theorem Reported.progress {e : ExecutionUpdate} {w' : LifecycleWorld} (h : Reported e w)
    (hw : EntryProgress w w') : Reported e w' :=
  fun hown => hw.order.fills.subset (h (hown.trans hw.order.orderLinkId))

variable {p updated : EntryExecutionSnapshot} {e : ExecutionUpdate} {receivedAt : Time}
  {payloadHash : PayloadHash}

theorem progress_recordExecution {a : LifecycleAnswers} (hseen : w.ports.SeenEntry p)
    (happly : applyEntryExecution p e receivedAt = .ok updated) (hreported : Reported e w)
    (ha : FaithfulAt a
      (.recordExecutionAndSnapshot p.version e receivedAt payloadHash updated) w) :
    EntryProgress w (w.serve a
        (.recordExecutionAndSnapshot p.version e receivedAt payloadHash updated)).2 ∧
      ((w.serve a (.recordExecutionAndSnapshot p.version e receivedAt payloadHash updated)).1 =
          .ok true →
        updated ∈ (w.serve a (.recordExecutionAndSnapshot p.version e receivedAt payloadHash
          updated)).2.ports.store.entrySnapshots.rows) := by
  have hserve : w.serve a
      (.recordExecutionAndSnapshot p.version e receivedAt payloadHash updated) =
        ((w.ports.writeWith (w.ports.store.recordExecutionAndSnapshot p.version e receivedAt
            payloadHash updated)).1,
          { w.pass a.order with
            ports := (w.ports.writeWith (w.ports.store.recordExecutionAndSnapshot p.version e
              receivedAt payloadHash updated)).2 }) := rfl
  have hpass := progress_pass ha.order
  rw [hserve]
  cases hresult : w.ports.store.recordExecutionAndSnapshot p.version e receivedAt payloadHash
      updated with
  | error failure => exact ⟨hpass, fun h => absurd h (by simp [World.writeWith])⟩
  | ok recorded =>
    obtain ⟨inserted, store'⟩ := recorded
    rcases SqliteExecutionStore.writesEntry_of_record hresult with ⟨rfl, rfl⟩ | ⟨-, hwrites⟩
    · exact ⟨hpass, fun h => absurd h (by simp [World.writeWith])⟩
    · obtain ⟨hlink, hfills⟩ := fills_of_applyEntryExecution happly
      have hreported' := hreported.progress hpass
      obtain ⟨hstep, -⟩ := progress_of_write (w := w.pass a.order) hseen
        (by simpa [SqliteExecutionStore.executionRow] using hfills)
        (fun row hrow => by rw [List.mem_singleton.mp hrow]; exact hlink) hwrites
        (fun hown row hrow => by
          rw [List.mem_singleton.mp hrow]
          exact hreported' (hlink.trans hown))
        fun hstate _ _ => .inl (full_of_applyEntryExecution happly hstate)
      refine ⟨hpass.trans hstep, fun _ => ?_⟩
      exact ((hseen.swap hfills.orderLinkId hwrites.swap).2 updated).mpr (.inl rfl)

theorem upholds_writeRecorded (hs : SoundEntry w) (hseen : w.ports.SeenEntry p)
    (happly : applyEntryExecution p e receivedAt = .ok updated) (hreported : Reported e w) :
    UpholdsPorts (IfReturned (RowOf e.orderLinkId)) (writeRecorded p updated e receivedAt
      payloadHash) w := by
  refine .call_bind fun w₁ hw₁ a ha => ?_
  obtain ⟨hstep, hwritten⟩ := progress_recordExecution (hw₁.entries.seen hseen) happly
    (hreported.progress hw₁) ha
  refine ⟨hstep, fun inserted hinserted => ?_, fun _ _ _ _ => trivial⟩
  have hs₂ := (hw₁.trans hstep).sound hs
  cases inserted with
  | true =>
    have hmem := hwritten hinserted
    obtain ⟨hlink, hfills⟩ := fills_of_applyEntryExecution happly
    have hrow : RowOf e.orderLinkId updated _ :=
      ⟨hfills.orderLinkId.trans hlink.symm, .of_mem hmem, .of_mem hs₂ hmem⟩
    exact fun w₂ hw₂ => hrow.progress hw₂
  | false => exact upholds_requiredRow e.orderLinkId hs₂

/-- The rest of a recording. A duplicate returns the row that was read. -/
theorem upholds_recordOver {post : EntryExecutionSnapshot → LifecycleWorld → Prop}
    (hs : SoundEntry w) (hseen : w.ports.SeenEntry p) (hreported : Reported e w)
    (hduplicate : ∀ w', EntryProgress w w' → post p w')
    (hrow : ∀ s w', RowOf e.orderLinkId s w' → post s w') :
    UpholdsPorts (IfReturned post) (recordOver p e receivedAt payloadHash) w := by
  refine upholds_quiet trivial rfl (fun w₁ hw₁ known => ?_) fun _ _ => trivial
  cases known with
  | true => exact fun w₂ hw₂ => hduplicate w₂ (hw₁.trans hw₂)
  | false =>
    refine .lift_bind ?_
    cases happly : applyEntryExecution p e receivedAt with
    | ok updated =>
      refine (upholds_writeRecorded (hw₁.sound hs) (hw₁.entries.seen hseen) happly
        (hreported.progress hw₁)).imp fun outcome w₂ hreturned => ?_
      cases outcome with
      | ok s => exact hrow s w₂ hreturned
      | error failure => exact trivial
    | error failure => exact fun _ _ => trivial

theorem upholds_recording (hs : SoundEntry w) (hreported : Reported e w) :
    UpholdsPorts (IfReturned (RowOf e.orderLinkId)) (applyExecution e receivedAt payloadHash)
      w := by
  rw [applyExecution_eq]
  have hkept : UpholdsPorts (fun outcome w' => IfReturned (RowOf e.orderLinkId) outcome w' ∧
      SoundEntry w' ∧ Reported e w') (requiredSnapshot e.orderLinkId) w :=
    (upholds_requiredRow e.orderLinkId hs).keep ⟨hs, hreported⟩
      fun h hw => ⟨hw.sound h.1, h.2.progress hw⟩
  refine .bind .refl (hkept.imp ?_)
  rintro outcome w₁ ⟨hreturned, hs₁, hreported₁⟩
  cases outcome with
  | ok s =>
    exact upholds_recordOver hs₁ hreturned.2.1 hreported₁ (fun _ hw => hreturned.progress hw)
      fun _ _ h => h
  | error failure => exact fun _ _ => trivial

/-! Awaiting. -/

/-- The snapshot is of this entry, which has the final size it says. -/
def AwaitedEntry (s : EntryExecutionSnapshot) (w : LifecycleWorld) : Prop :=
  s.orderLinkId = w.order.orderLinkId ∧ w.order.FinalSize s.filledQuantity

theorem AwaitedEntry.progress {s : EntryExecutionSnapshot} {w' : LifecycleWorld}
    (h : AwaitedEntry s w) (hw : EntryProgress w w') : AwaitedEntry s w' :=
  ⟨h.1.trans hw.order.orderLinkId.symm, h.2.grows hw.order⟩

/-- What the loop carries from one attempt to the next. -/
def AwaitsRow (s : EntryExecutionSnapshot) (w : LifecycleWorld) : Prop :=
  s.orderLinkId = w.order.orderLinkId ∧ KnownEntry w s

theorem AwaitsRow.progress {s : EntryExecutionSnapshot} {w' : LifecycleWorld}
    (h : AwaitsRow s w) (hw : EntryProgress w w') : AwaitsRow s w' :=
  ⟨h.1.trans hw.order.orderLinkId.symm, h.2.progress hw⟩

/-- All that was filled is in the books, and there will be no more. -/
def AllRecorded (w : LifecycleWorld) : Prop := w.order.FinalSize (totalQuantity w.recorded)

/-- **The two answers put together.** A terminal order with no more filled than an old snapshot
    has: then the books have it all. -/
theorem allRecorded_of_ended {s : EntryExecutionSnapshot} {answer : ExchangeOrder}
    (hs : SoundEntry w) (hrow : AwaitsRow s w) (hreports : w.order.Reports answer)
    (hended : endedEntry? s (some answer) = .ok (some true)) : AllRecorded w := by
  unfold endedEntry? at hended
  simp only at hended
  split at hended
  · exact absurd hended (by simp)
  · rename_i hterminal
    split at hended
    · exact absurd hended (by simp)
    · split at hended
      · exact absurd hended (by simp)
      · rename_i hequal
        have hfilled : w.order.filled = s.filledQuantity :=
          hreports.filled.symm.trans (not_not.mp hequal)
        refine ⟨le_antisymm hs.recorded_le_filled ?_, .inl ?_⟩
        · rw [hfilled]
          exact hrow.2.filled hrow.1
        · rw [hreports.status (not_not.mp hterminal)]
          rfl

theorem upholds_applyExecutions (hash : ExecutionUpdate → PayloadHash)
    (es : List ExecutionUpdate) {s : EntryExecutionSnapshot} (hs : SoundEntry w)
    (hrow : AwaitsRow s w) (hes : es ⊆ w.order.fills) :
    UpholdsEntry (IfReturned fun s' w' => SoundEntry w' ∧ AwaitsRow s' w')
      (applyExecutions hash es s) w := by
  induction es generalizing s w with
  | nil => exact fun w' hw' => ⟨hw'.sound hs, hrow.progress hw'⟩
  | cons e es ih =>
    obtain ⟨he, hes⟩ := List.cons_subset.mp hes
    have hown : ∀ w', EntryProgress w w' → e.orderLinkId = w'.order.orderLinkId :=
      fun w' hw' => (w.order.own e he).trans hw'.order.orderLinkId.symm
    refine .call_bind fun w₁ hw₁ a ha => ?_
    have hstep : EntryProgress w₁ (w₁.serve a .clock).2 := progress_serve_quiet ha trivial rfl
    refine ⟨hstep, fun now _ => ?_, fun _ _ _ _ => trivial⟩
    have hw₂ := hw₁.trans hstep
    have hrecording : UpholdsPorts (fun outcome w' => IfReturned (RowOf e.orderLinkId) outcome w' ∧
        EntryProgress w w') (applyExecution e now (hash e)) (w₁.serve a .clock).2 :=
      (upholds_recording (hw₂.sound hs) fun _ => hw₂.order.fills.subset he).keep hw₂
        fun h hw => h.trans hw
    refine .bind .refl (hrecording.onCommonPorts.imp ?_)
    rintro outcome w₃ ⟨hreturned, hw₃⟩
    cases outcome with
    | error failure => exact fun _ _ => trivial
    | ok applied =>
      exact ih (hw₃.sound hs) ⟨hreturned.1.trans (hown w₃ hw₃), hreturned.2.2⟩
        (List.Subset.trans hes hw₃.order.fills.subset)

/-- A transition over a row that was seen. -/
theorem progress_transition {a : LifecycleAnswers} {s : EntryExecutionSnapshot}
    (hseen : w.ports.SeenEntry p) (hfills : Fills p s 0 0 0)
    (hactive : s.state = .activeUnprotected → p.orderLinkId = w.order.orderLinkId →
      p ∈ w.ports.store.entrySnapshots.rows → w.order.FinalSize s.filledQuantity)
    (ha : FaithfulAt a (.transitionEntrySnapshot p.version s) w) :
    EntryProgress w (w.serve a (.transitionEntrySnapshot p.version s)).2 ∧
      ((w.serve a (.transitionEntrySnapshot p.version s)).1 = .ok () →
        s ∈ (w.serve a (.transitionEntrySnapshot p.version s)).2.ports.store.entrySnapshots.rows) := by
  have hserve : w.serve a (.transitionEntrySnapshot p.version s) =
      ((w.ports.write (w.ports.store.transitionEntrySnapshot p.version s)).1,
        { w.pass a.order with
          ports := (w.ports.write (w.ports.store.transitionEntrySnapshot p.version s)).2 }) := rfl
  have hpass := progress_pass ha.order
  rw [hserve]
  cases hresult : w.ports.store.transitionEntrySnapshot p.version s with
  | error failure => exact ⟨hpass, fun h => absurd h (by simp [World.write])⟩
  | ok store' =>
    have hwrites := SqliteExecutionStore.writesEntry_of_transition hresult
    obtain ⟨hstep, -⟩ := progress_of_write (w := w.pass a.order) hseen hfills
      (fun _ h => absurd h (by simp)) hwrites (fun _ _ h => absurd h (by simp))
      fun hstate hown hp =>
        .inr ((hactive hstate (hown.trans ha.order.orderLinkId) hp).grows ha.order)
    refine ⟨hpass.trans hstep, fun _ => ?_⟩
    exact ((hseen.swap hfills.orderLinkId hwrites.swap).2 s).mpr (.inl rfl)

theorem AllRecorded.progress {w' : LifecycleWorld} (h : AllRecorded w) (hs : SoundEntry w')
    (hw : EntryProgress w w') : AllRecorded w' := by
  have hfinal : w'.order.FinalSize (totalQuantity w.recorded) := h.grows hw.order
  have hsame : totalQuantity w'.recorded = totalQuantity w.recorded := by
    refine le_antisymm (hfinal.1 ▸ hs.recorded_le_filled) ?_
    exact totalQuantity_le_of_subset (nodup_recorded w) hw.recorded.subset
  unfold AllRecorded
  rw [hsame]
  exact hfinal

/-- **Finalizing, when all is recorded**: the row that is read for it has it all. -/
theorem upholds_finalize {orderLinkId : String} (hs : SoundEntry w) (hall : AllRecorded w)
    (hown : orderLinkId = w.order.orderLinkId) :
    UpholdsPorts (IfReturned AwaitedEntry) (finalizePartialFill orderLinkId) w := by
  have hkept : UpholdsPorts (fun outcome w' => IfReturned (RowOf orderLinkId) outcome w' ∧
      EntryProgress w w') (requiredSnapshot orderLinkId) w :=
    (upholds_requiredRow orderLinkId hs).keep (.refl w) fun h hw => h.trans hw
  refine .bind .refl (hkept.imp ?_)
  rintro outcome w₁ ⟨hreturned, hw₁⟩
  cases outcome with
  | error failure => exact fun _ _ => trivial
  | ok p =>
    refine upholds_quiet trivial rfl (fun w₂ hw₂ now => .lift_bind ?_) fun _ _ => trivial
    cases hfinalize : finalizePartialEntry p now with
    | error failure => exact fun _ _ => trivial
    | ok finalized =>
      have hfills := fills_of_finalize hfinalize
      refine .call_bind fun w₃ hw₃ a ha => ?_
      have hw := (hw₁.trans hw₂).trans hw₃
      have hs₃ := hw.sound hs
      have hownP : p.orderLinkId = w₃.order.orderLinkId :=
        hreturned.1.trans (hown.trans hw.order.orderLinkId.symm)
      obtain ⟨hstep, hwritten⟩ := progress_transition (hw₃.entries.seen (hw₂.entries.seen
        hreturned.2.1)) hfills (fun _ _ hp => by
          rw [hfills.filledQuantity, add_zero, hs₃.filled_eq_recorded hp hownP]
          exact hall.progress hs₃ hw) ha
      refine ⟨hstep, fun _ hok => ?_, fun _ _ _ _ => trivial⟩
      have hownF := hfills.orderLinkId.trans (hownP.trans hstep.order.orderLinkId.symm)
      have hawaited : AwaitedEntry finalized _ :=
        ⟨hownF, (hstep.sound hs₃).active finalized (hwritten hok) hownF
          (state_of_finalizePartialEntry hfinalize)⟩
      exact fun w₄ hw₄ => hawaited.progress hw₄

theorem upholds_awaitEntryFill (hash : ExecutionUpdate → PayloadHash) (attempts : ℕ)
    {s : EntryExecutionSnapshot} (hs : SoundEntry w) (hrow : AwaitsRow s w) :
    UpholdsEntry (IfReturned AwaitedEntry) (awaitEntryFill hash attempts s) w := by
  induction attempts generalizing s w with
  | zero => exact fun _ _ => trivial
  | succ attempts ih =>
    refine .call_bind fun w₁ hw₁ a ha => ?_
    have hpass : EntryProgress w₁ (w₁.pass a.order) := progress_pass ha.order
    refine ⟨hpass, fun executions hexecutions => ?_, fun _ _ _ _ => trivial⟩
    have hw₂ := hw₁.trans hpass
    have hreported : sortedExecutions executions ⊆ a.order.fills := by
      intro e he
      refine ha.history (congrArg some (hrow.progress hw₁).1) executions ?_ e
        ((List.mem_insertionSort _).mp he)
      rw [show a.executions = .ok executions from hexecutions]
      rfl
    refine .bind .refl ((upholds_applyExecutions hash _ (hw₂.sound hs) (hrow.progress hw₂)
      hreported).imp ?_)
    intro outcome w₃ happlied
    cases outcome with
    | error failure => exact fun _ _ => trivial
    | ok s₃ =>
      obtain ⟨hs₃, hrow₃⟩ := happlied
      dsimp only
      split
      · rename_i hactive
        have hfinal : AwaitedEntry s₃ w₃ := ⟨hrow₃.1, hrow₃.2.active hrow₃.1 hactive⟩
        exact fun w₄ hw₄ => hfinal.progress hw₄
      · refine .call_bind fun w₄ hw₄ a₄ ha₄ => ?_
        have hstep : EntryProgress w₄
            (w₄.serve a₄ (.getOrderByLinkId .linear "ETHUSDT" s₃.orderLinkId)).2 :=
          progress_serve_quiet ha₄ trivial rfl
        refine ⟨hstep, fun order horder => .lift_bind ?_, fun _ _ _ _ => trivial⟩
        have hw₅ := hw₄.trans hstep
        cases hended : endedEntry? s₃ order with
        | error failure => exact fun _ _ => trivial
        | ok ended =>
          match ended with
          | some true =>
            have hw := (hw₄.trans hstep).sound hs₃
            have hrow₅ := hrow₃.progress hw₅
            refine (upholds_finalize hw ?_ hrow₅.1).onCommonPorts
            cases order with
            | none => exact absurd hended (by simp [ endedEntry?])
            | some answer =>
              refine allRecorded_of_ended hw hrow₅ (ha₄.found (congrArg some (hrow₃.progress hw₄).1)
                (some answer) ?_ answer rfl) hended
              rw [show a₄.found = .ok (some answer) from horder]
              rfl
          | some false => exact fun _ _ => trivial
          | none => exact ih (hw₅.sound hs₃) (hrow₃.progress hw₅)

end Tasks

end CreditHedge
