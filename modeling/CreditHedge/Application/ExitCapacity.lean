import CreditHedge.Application.ExitRecording

/-!
# Are the fills of the exits recordable?

In one-way mode there is one aggregate short, and reduce-only is enforced against it. A level's
stop and its take-profit are both for the whole level, so with other levels open the exchange may
fill both of them, one after the other, beyond what belongs to the level. The store then refuses
the fill that does not fit (`unrecordable_fill`).

`Installed` is the store after any levels were opened and any of their exits installed, whatever
the exchange answered on the way; all it takes from there is that nothing has been closed yet
(`Installed.unexited`). `ExchangeGives` is what the exchange can fill from then on. Between the two
the answer is exact (`fills_recordable_iff`): the fills are recordable, and the books right, if
and only if no level's exits fill more than the level together and no running sum of fees is
negative.
-/

set_option autoImplicit false

namespace CreditHedge

open Coroutine ProtectiveExitService

/-! ## Protected levels -/

/-- Nothing of this protection has been closed. -/
def Unexited (p : ProtectionSnapshot) : Prop :=
  p.openQuantity = p.entryQuantity ∧ p.exitFees = 0

def AllUnexited (w : World) : Prop := ∀ p ∈ w.store.protectionSnapshots.rows, Unexited p

/-- What an installation does to the world, as far as exits are concerned. -/
def KeepsUnexited (w w' : World) : Prop := AllUnexited w → AllUnexited w'

theorem KeepsUnexited.of_store_eq {w w' : World}
    (h : w'.store.protectionSnapshots = w.store.protectionSnapshots) : KeepsUnexited w w' := by
  intro hw
  unfold AllUnexited
  rw [h]
  exact hw

/-- A write keeps it if the only row it can add is unexited. -/
theorem KeepsUnexited.write {w : World} {result : Except Failure SqliteExecutionStore}
    (h : ∀ store', result = .ok store' → ∀ p ∈ store'.protectionSnapshots.rows,
      p ∈ w.store.protectionSnapshots.rows ∨ Unexited p) :
    KeepsUnexited w (w.write result).2 := by
  cases hr : result with
  | error failure => exact fun hw => hw
  | ok store' => exact fun hw p hp => (h store' hr p hp).elim (hw p) id

section Installing

variable {p p' : ProtectionSnapshot}

theorem Unexited.of_fields (h : Unexited p) (hopen : p'.openQuantity = p.openQuantity)
    (hentry : p'.entryQuantity = p.entryQuantity) (hfees : p'.exitFees = p.exitFees) :
    Unexited p' :=
  ⟨by rw [hopen, hentry, h.1], by rw [hfees, h.2]⟩

theorem Unexited.of_eq (h : Unexited p) (heq : p' = p) : Unexited p' := heq ▸ h

theorem unexited_forStopIntent {entry : EntryExecutionSnapshot} {stopOrderLinkId : String}
    {price : ℚ} {persistedAt : Time}
    (h : ProtectionSnapshot.forStopIntent entry stopOrderLinkId price persistedAt = .ok p) :
    Unexited p := by
  simp only [ProtectionSnapshot.forStopIntent, bind_eq_ok] at h
  obtain ⟨-, -, h⟩ := h
  split at h
  · exact absurd h (by simp [throw, throwThe, MonadExceptOf.throw])
  · simp only [bind_eq_ok, ProtectionSnapshot.create_eq_ok] at h
    obtain ⟨-, -, h⟩ := h
    exact ⟨by rw [h], by rw [h]⟩

theorem Unexited.confirmStop {orderId : String} {updatedAt : Time} (hp : Unexited p)
    (h : confirmStop p orderId updatedAt = .ok p') : Unexited p' := by
  simp only [CreditHedge.confirmStop, ProtectionSnapshot.create_eq_ok] at h
  exact hp.of_fields (by rw [h]) (by rw [h]) (by rw [h])

theorem Unexited.addTakeProfitIntent {orderLinkId : String} {price : ℚ} {updatedAt : Time}
    (hp : Unexited p) (h : addTakeProfitIntent p orderLinkId price updatedAt = .ok p') :
    Unexited p' := by
  simp only [CreditHedge.addTakeProfitIntent, bind_eq_ok, ProtectionSnapshot.create_eq_ok] at h
  obtain ⟨-, -, -, -, h⟩ := h
  exact hp.of_fields (by rw [h]) (by rw [h]) (by rw [h])

theorem Unexited.confirmTakeProfit {orderId : String} {updatedAt : Time} (hp : Unexited p)
    (h : confirmTakeProfit p orderId updatedAt = .ok p') : Unexited p' := by
  simp only [CreditHedge.confirmTakeProfit, bind_eq_ok, ProtectionSnapshot.create_eq_ok] at h
  obtain ⟨-, -, h⟩ := h
  exact hp.of_fields (by rw [h]) (by rw [h]) (by rw [h])

theorem Unexited.markReconciling {updatedAt : Time} (hp : Unexited p)
    (h : markProtectionReconciling p updatedAt = .ok p') : Unexited p' := by
  unfold markProtectionReconciling at h
  split at h
  · rw [← Except.ok.inj h]
    exact hp
  · rw [ProtectionSnapshot.create_eq_ok] at h
    exact hp.of_fields (by rw [h]) (by rw [h]) (by rw [h])

/-! The services, call by call. -/

theorem keeps_transition (hp : Unexited p) (previousVersion : ℕ) (a : Answers) (w : World) :
    KeepsUnexited w (handle a (.transitionProtectionSnapshot previousVersion p) w).2 :=
  .write fun _ hr _ hq =>
    (SqliteExecutionStore.mem_of_transitionProtectionSnapshot hr hq).imp_right hp.of_eq

theorem guarantees_awaitVisible (request : PlaceOrderRequest) (attempts : ℕ) :
    Guarantees handle KeepsUnexited (awaitVisible request attempts) := by
  induction attempts with
  | zero => exact trivial
  | succ attempts ih =>
    refine .call_bind (fun a w => .of_store_eq ?_) fun found => ?_
    · show (if a.shows then w.accept _ else w).store.protectionSnapshots = _
      split <;> rfl
    · cases found with
      | none => exact ih
      | some order => exact .lift_bind fun _ _ => trivial

theorem guarantees_placeOrDiscover (request : PlaceOrderRequest) :
    Guarantees handle KeepsUnexited (placeOrDiscover request) := by
  refine .tryCatch (.call_bind (fun a w => .of_store_eq ?_) fun _ => trivial) fun failure => ?_
  · show (if a.takes then w.accept _ else w).store.protectionSnapshots = _
    split <;> rfl
  · cases failure with
    | uncertainOrderOutcome operation =>
      refine .call_bind (fun a w => .of_store_eq ?_) fun found => ?_
      · show (if a.shows then w.accept _ else w).store.protectionSnapshots = _
        split <;> rfl
      · cases found with
        | none => exact trivial
        | some order =>
          exact .call_bind (fun _ _ => .of_store_eq rfl) fun _ => .lift_bind fun _ _ => trivial
    | _ => exact trivial

theorem guarantees_placeOrReconcile {attempts : ℕ} {request : PlaceOrderRequest}
    (hp : Unexited p) :
    Guarantees handle KeepsUnexited (placeOrReconcile attempts request p) := by
  refine .tryCatch (.bind (guarantees_placeOrDiscover request) fun placed => ?_) fun failure => ?_
  · refine .call_bind (fun _ _ => .write fun _ hr q hq => .inl ?_) fun _ => ?_
    · rwa [SqliteExecutionStore.rows_of_recordAcknowledgement hr] at hq
    · cases placed.2 with
      | none => exact guarantees_awaitVisible request attempts
      | some order => exact .lift_bind fun _ _ => trivial
  · refine .bind (.call_bind (fun _ _ => .of_store_eq rfl) fun now => ?_) fun _ => trivial
    refine .lift_bind fun reconciling hr => ?_
    split
    · exact trivial
    · exact .call_bind (keeps_transition (hp.markReconciling hr) _) fun _ => trivial

theorem guarantees_installStop (attempts : ℕ) (entryOrderLinkId : String)
    (instrument : InstrumentSpec) (stopOrderLinkId : String) (stopRate : ℚ) :
    Guarantees handle KeepsUnexited
      (installStop attempts entryOrderLinkId instrument stopOrderLinkId stopRate) := by
  refine .lift_bind fun _ _ => .lift_bind fun _ _ => ?_
  refine .call_bind (fun _ _ => .of_store_eq rfl) fun entry => ?_
  cases entry with
  | none => exact trivial
  | some entry =>
    dsimp only
    split
    · exact trivial
    · refine .lift_bind fun request _ => .call_bind (fun _ _ => .of_store_eq rfl) fun now => ?_
      refine .lift_bind fun snapshot hsnapshot => ?_
      have hfresh := unexited_forStopIntent hsnapshot
      refine .call_bind (fun _ _ => .write fun _ hr q hq => ?_) fun _ => ?_
      · rw [SqliteExecutionStore.rows_of_persistProtectionIntent hr, List.mem_append,
          List.mem_singleton] at hq
        exact hq.imp_right hfresh.of_eq
      · refine .bind (guarantees_placeOrReconcile hfresh) fun visible => ?_
        refine .call_bind (fun _ _ => .of_store_eq rfl) fun now => .lift_bind fun _ hconfirm => ?_
        exact .call_bind (keeps_transition (hfresh.confirmStop hconfirm) _) fun _ => trivial

theorem guarantees_installTakeProfit (attempts : ℕ) (hp : Unexited p)
    (instrument : InstrumentSpec) (orderLinkId : String) (desiredPrice : ℚ)
    (pricePolicy : PriceQuantizationPolicy) :
    Guarantees handle KeepsUnexited
      (installTakeProfit attempts p instrument orderLinkId desiredPrice pricePolicy) := by
  refine .lift_bind fun _ _ => .lift_bind fun request _ => ?_
  refine .call_bind (fun _ _ => .of_store_eq rfl) fun now => .lift_bind fun withIntent hintent => ?_
  have hfresh := hp.addTakeProfitIntent hintent
  refine .call_bind (fun _ _ => .write fun _ hr q hq => ?_) fun _ => ?_
  · exact (SqliteExecutionStore.mem_of_persistTakeProfitIntent hr hq).imp_right hfresh.of_eq
  · refine .bind (guarantees_placeOrReconcile hfresh) fun visible => ?_
    refine .call_bind (fun _ _ => .of_store_eq rfl) fun now => .lift_bind fun _ hconfirm => ?_
    exact .call_bind (keeps_transition (hfresh.confirmTakeProfit hconfirm) _) fun _ => trivial

end Installing

/-- The world after levels were opened and their exits installed, in any order and however the
    exchange answered. Opening a level changes no protection row, and a take-profit is installed
    for a persisted protection. -/
inductive Installed : World → Prop
  | start {w : World} : w.store.protectionSnapshots.rows = [] → Installed w
  | opening {w w' : World} : Installed w →
      w'.store.protectionSnapshots = w.store.protectionSnapshots → Installed w'
  | stop {w w' : World} {outcome : Except Failure ProtectionSnapshot} (attempts : ℕ)
      (entryOrderLinkId : String) (instrument : InstrumentSpec) (stopOrderLinkId : String)
      (stopRate : ℚ) : Installed w →
      Coroutine.Runs handle
        (installStop attempts entryOrderLinkId instrument stopOrderLinkId stopRate) w
        outcome w' → Installed w'
  | takeProfit {w w' : World} {outcome : Except Failure ProtectionSnapshot} (attempts : ℕ)
      (p : ProtectionSnapshot) (instrument : InstrumentSpec) (orderLinkId : String)
      (desiredPrice : ℚ) (pricePolicy : PriceQuantizationPolicy) : Installed w →
      p ∈ w.store.protectionSnapshots.rows →
      Coroutine.Runs handle
        (installTakeProfit attempts p instrument orderLinkId desiredPrice pricePolicy) w
        outcome w' → Installed w'

theorem Installed.unexited {w : World} (h : Installed w) : AllUnexited w := by
  have hrefl : ∀ w, KeepsUnexited w w := fun _ hw => hw
  have htrans : ∀ {w w' w''}, KeepsUnexited w w' → KeepsUnexited w' w'' → KeepsUnexited w w'' :=
    fun h h' hw => h' (h hw)
  induction h with
  | start hnone =>
    intro p hp
    rw [hnone] at hp
    exact absurd hp (by simp)
  | opening _ hrows ih => exact KeepsUnexited.of_store_eq hrows ih
  | stop attempts entry instrument stop rate _ hrun ih =>
    exact hrun.guaranteed hrefl htrans
      (guarantees_installStop attempts entry instrument stop rate) ih
  | takeProfit attempts p instrument tp price policy _ hp hrun ih =>
    exact hrun.guaranteed hrefl htrans
      (guarantees_installTakeProfit attempts (ih p hp) instrument tp price policy) ih

/-! ## What the exchange can fill -/

/-- The aggregate short: what was sold for all the protected levels together. -/
def aggregateShort (w : World) : ℚ :=
  (w.store.protectionSnapshots.rows.map fun p => p.entryQuantity).sum

/-- The fills the exchange can give: an exit order fills at most its own quantity, and all of them
    together at most the aggregate short, which is all that reduce-only enforces. -/
structure ExchangeGives (w : World) (es : List ExecutionUpdate) : Prop extends Offered w es where
  orders : ∀ row ∈ w.store.orderIntents.rows,
    totalQuantity (es.filter fun e => e.orderLinkId = row.request.orderLinkId) ≤
      row.request.quantity
  aggregate : totalQuantity es ≤ aggregateShort w

/-- Every fill is accepted, each level is left with its own part, and the parts add up to the
    position the exchange still holds. -/
def Recordable (w : World) (rs : List FillReport) : Prop :=
  ∃ w', AcceptsAll w rs w' ∧
    (∀ p ∈ w.store.protectionSnapshots.rows, ∃ p' ∈ w'.store.protectionSnapshots.rows,
      p'.entryOrderLinkId = p.entryOrderLinkId ∧
        p'.openQuantity = p.entryQuantity - filledOf p (rs.map FillReport.execution)) ∧
    totalOpen w' = aggregateShort w - totalQuantity (rs.map FillReport.execution)

/-- **When the fills are recordable.** For any levels and any fills the exchange can give: if and
    only if the fills of each level's exits stay within the level, and the fees charged to it stay
    nonnegative all along. -/
theorem fills_recordable_iff {w : World} (hw : Installed w) {rs : List FillReport}
    (hgives : ExchangeGives w (rs.map FillReport.execution)) :
    Recordable w rs ↔
      ∀ p ∈ w.store.protectionSnapshots.rows,
        filledOf p (rs.map FillReport.execution) ≤ p.entryQuantity ∧
          ∀ pre, pre <+: rs.map FillReport.execution → 0 ≤ feesOf p pre := by
  have hunexited := hw.unexited
  have hfits : Fits w (rs.map FillReport.execution) ↔
      ∀ p ∈ w.store.protectionSnapshots.rows,
        filledOf p (rs.map FillReport.execution) ≤ p.entryQuantity ∧
          ∀ pre, pre <+: rs.map FillReport.execution → 0 ≤ feesOf p pre := by
    refine forall₂_congr fun p hp => ?_
    unfold FitsInto
    rw [(hunexited p hp).1, (hunexited p hp).2]
    simp only [zero_add]
  rw [← hfits, ← acceptsAll_iff_fits hgives.toOffered]
  constructor
  · rintro ⟨w', haccepts, -⟩
    exact ⟨w', haccepts⟩
  · rintro ⟨w', haccepts⟩
    obtain ⟨hlevels, htotal⟩ := haccepts.books hgives.toOffered
    refine ⟨w', haccepts, fun p hp => ?_, ?_⟩
    · obtain ⟨p', hp', hkey, hopen⟩ := hlevels p hp
      exact ⟨p', hp', hkey, by rw [hopen, (hunexited p hp).1]⟩
    · have : totalOpen w = aggregateShort w := by
        unfold totalOpen aggregateShort
        exact congrArg List.sum (List.map_congr_left fun p hp => (hunexited p hp).1)
      rw [htotal, this]
      rfl

/-! ## Two levels of one unit each -/

/-- The client ids of a level's three orders. -/
def entryIdOf (level : ℕ) : String := s!"ECH-A-C0001-L0{level}-ENTRY-A01-0000"
def stopIdOf (level : ℕ) : String := s!"ECH-A-C0001-L0{level}-STOP-A01-0000"
def tpIdOf (level : ℕ) : String := s!"ECH-A-C0001-L0{level}-TP-A01-0000"

/-- One unit, sold at 2000. -/
def unitEntry (level : ℕ) : EntryFields where
  orderLinkId := entryIdOf level
  state := .activeUnprotected
  targetQuantity := 1
  entryOrderId := some s!"order-{entryIdOf level}"
  filledQuantity := 1
  entryNotional := 2000
  entryFees := 1 / 10
  version := 4
  updatedAt := 0

def unitRequest (level : ℕ) : PlaceOrderFields where
  category := .linear
  symbol := "ETHUSDT"
  side := .sell
  orderType := .market
  quantity := 1
  orderLinkId := entryIdOf level
  timeInForce := .ioc

def unitIntent (level : ℕ) (h : (unitRequest level).check = .ok ()) : OrderIntentRow where
  request := ⟨unitRequest level, h⟩
  persistedAt := 0
  exchangeOrderId := some s!"order-{entryIdOf level}"
  acknowledgedAt := some 0

/-- Two levels opened and filled, nothing protected yet. -/
def openedTwo : World where
  accepted := [entryIdOf 1, entryIdOf 2]
  store :=
    { orderIntents :=
        ⟨[unitIntent 1 (by decide +kernel), unitIntent 2 (by decide +kernel)], by decide +kernel⟩
      entrySnapshots :=
        ⟨[⟨unitEntry 1, by decide +kernel⟩, ⟨unitEntry 2, by decide +kernel⟩], by decide +kernel⟩
      executions := .empty
      protectionSnapshots := .empty
      recoveryDebts := .empty
      constraints := by decide +kernel }

/-- An exchange that takes the order and shows it at once. -/
def promptly (f : PlaceOrderFields) : Answers where
  now := 0
  placed := .ok
    { requestKind := .place, orderId := s!"order-{f.orderLinkId}", orderLinkId := f.orderLinkId
      acknowledgedAt := 0 }
  found := .ok (some
    { category := f.category, orderId := s!"order-{f.orderLinkId}", orderLinkId := f.orderLinkId
      symbol := f.symbol, status := "New", side := f.side, orderType := f.orderType
      price := f.price, quantity := f.quantity, cumulativeFilledQuantity := 0
      averagePrice := none, reduceOnly := f.reduceOnly, createdAt := 0, updatedAt := 0
      triggerPrice := f.triggerPrice, triggerBy := f.triggerBy
      triggerDirection := f.triggerDirection, timeInForce := some f.timeInForce
      positionIdx := some f.positionIdx, closeOnTrigger := f.closeOnTrigger })

/-- A service call that succeeds, on these answers. -/
def succeeded (t : Service ProtectionSnapshot) (as : List Answers) (w : World) :
    Option (ProtectionSnapshot × World) :=
  match execute handle t as w with
  | some (.ok p, w') => some (p, w')
  | _ => none

theorem succeeded_runs {t : Service ProtectionSnapshot} {as : List Answers} {w w' : World}
    {p : ProtectionSnapshot} (h : succeeded t as w = some (p, w')) :
    Coroutine.Runs handle t w (.ok p) w' := by
  unfold succeeded at h
  split at h
  · rename_i hexecute
    obtain ⟨rfl, rfl⟩ := Prod.mk.inj (Option.some.inj h)
    exact runs_of_execute hexecute
  · exact absurd h (by simp)

/-- Stop and take-profit of one level, installed without incident. -/
def protectLevel (level : ℕ) (w : World) : Option World := do
  let (p, w₁) ← succeeded (installStop 3 (entryIdOf level) ethPerp (stopIdOf level) (1 / 200))
    (List.replicate 8 (promptly (stopFields 1 2010 (stopIdOf level)))) w
  guard (p ∈ w₁.store.protectionSnapshots.rows)
  let (_, w₂) ← succeeded (installTakeProfit 3 p ethPerp (tpIdOf level) 1990 .passive)
    (List.replicate 7 (promptly (takeProfitFields 1 1990 (tpIdOf level)))) w₁
  pure w₂

theorem Installed.protectLevel {level : ℕ} {w w' : World} (hw : Installed w)
    (h : protectLevel level w = some w') : Installed w' := by
  simp only [CreditHedge.protectLevel, Option.bind_eq_bind, Option.bind_eq_some_iff,
    Option.guard_eq_some', Option.pure_def, Option.some.injEq] at h
  obtain ⟨⟨p, w₁⟩, hstop, -, hp, ⟨p', w₂⟩, htp, rfl⟩ := h
  exact .takeProfit _ _ _ _ _ _ (.stop _ _ _ _ _ hw (succeeded_runs hstop)) hp
    (succeeded_runs htp)

/-- Both levels protected. -/
def protectedTwo : Option World := do
  let w ← protectLevel 1 openedTwo
  protectLevel 2 w

theorem installed_protectedTwo {w : World} (h : protectedTwo = some w) : Installed w := by
  simp only [protectedTwo, Option.bind_eq_bind, Option.bind_eq_some_iff] at h
  obtain ⟨w₁, h₁, h₂⟩ := h
  have hopened : Installed openedTwo := .start rfl
  exact (hopened.protectLevel h₁).protectLevel h₂

/-- A fill of one of the exits. -/
def exitFill (n : ℕ) (orderLinkId : String) (quantity price : ℚ) : ExecutionFields where
  executionId := s!"exit-{n}"
  orderId := s!"order-{orderLinkId}"
  orderLinkId := orderLinkId
  symbol := "ETHUSDT"
  side := .buy
  price := price
  quantity := quantity
  fee := 1 / 100
  isMaker := some false
  executedAt := n

def zeroHash : PayloadHash where
  text := String.ofList (List.replicate 64 '0')
  isDigest := by decide +kernel

def reportOf (f : ExecutionFields) (h : f.check = .ok ()) : FillReport where
  execution := ⟨f, h⟩
  receivedAt := f.executedAt
  payloadHash := zeroHash

/-- Level 1 in two halves, by its take-profit and then by its stop; level 2 at its take-profit. -/
def fittingFills : List FillReport :=
  [reportOf (exitFill 1 (tpIdOf 1) (1 / 2) 1990) (by decide +kernel),
    reportOf (exitFill 2 (tpIdOf 2) 1 1990) (by decide +kernel),
    reportOf (exitFill 3 (stopIdOf 1) (1 / 2) 2010) (by decide +kernel)]

/-- Half of level 1 by its take-profit, and then its whole stop: the other half of that stop closes
    a part of level 2's short. -/
def overlappingFills : List FillReport :=
  [reportOf (exitFill 1 (tpIdOf 1) (1 / 2) 1990) (by decide +kernel),
    reportOf (exitFill 2 (stopIdOf 1) 1 2010) (by decide +kernel)]

instance (w : World) (es : List ExecutionUpdate) : Decidable (Offered w es) :=
  decidable_of_iff
    ((es.map fun e => e.executionId).Nodup ∧
      (∀ e ∈ es, w.store.hasExecution e.executionId = false) ∧
      ∀ e ∈ es, ∃ p ∈ w.store.protectionSnapshots.rows, BelongsTo p e)
    ⟨fun h => ⟨h.1, h.2.1, h.2.2⟩, fun h => ⟨h.nodup, h.unrecorded, h.belongs⟩⟩

instance (w : World) (es : List ExecutionUpdate) : Decidable (ExchangeGives w es) :=
  decidable_of_iff
    (Offered w es ∧
      (∀ row ∈ w.store.orderIntents.rows,
        totalQuantity (es.filter fun e => e.orderLinkId = row.request.orderLinkId) ≤
          row.request.quantity) ∧
      totalQuantity es ≤ aggregateShort w)
    ⟨fun h => ⟨h.1, h.2.1, h.2.2⟩, fun h => ⟨h.toOffered, h.orders, h.aggregate⟩⟩

instance (w : World) (es : List ExecutionUpdate) : Decidable (Fits w es) :=
  decidable_of_iff
    (∀ p ∈ w.store.protectionSnapshots.rows, filledOf p es ≤ p.openQuantity ∧
      ∀ pre ∈ es.inits, 0 ≤ p.exitFees + feesOf p pre)
    (forall₂_congr fun _ _ => and_congr_right fun _ => forall_congr' fun _ =>
      imp_congr_left (List.mem_inits _ _))

/-- Fills that fit are recorded, both levels on their own, whatever their order. -/
theorem fills_recordable_iff_fittingFills :
    ∃ w, Installed w ∧ ExchangeGives w (fittingFills.map FillReport.execution) ∧
      Recordable w fittingFills := by
  have hruns : (protectedTwo.any fun w =>
      decide (ExchangeGives w (fittingFills.map FillReport.execution)) &&
        decide (Fits w (fittingFills.map FillReport.execution))) = true := by decide +kernel
  obtain ⟨w, hw, hfills⟩ := (Option.any_eq_true ..).mp hruns
  rw [Bool.and_eq_true, decide_eq_true_iff, decide_eq_true_iff] at hfills
  obtain ⟨hgives, hfits⟩ := hfills
  have hinstalled := installed_protectedTwo hw
  refine ⟨w, hinstalled, hgives, (fills_recordable_iff hinstalled hgives).mpr fun p hp => ?_⟩
  obtain ⟨hfilled, hfees⟩ := hfits p hp
  obtain ⟨hopen, hzero⟩ := hinstalled.unexited p hp
  exact ⟨hopen ▸ hfilled, fun pre hpre => by simpa [hzero] using hfees pre hpre⟩

/-- **A fill that is not recordable.** Two levels of one unit; after half of level 1's take-profit
    its stop fills in full, within the stop's own quantity and within the aggregate short. -/
theorem unrecordable_fill :
    ∃ w, Installed w ∧ ExchangeGives w (overlappingFills.map FillReport.execution) ∧
      ¬ ∃ w', AcceptsAll w overlappingFills w' := by
  have hruns : (protectedTwo.any fun w =>
      decide (ExchangeGives w (overlappingFills.map FillReport.execution)) &&
        decide (¬ Fits w (overlappingFills.map FillReport.execution))) = true := by decide +kernel
  obtain ⟨w, hw, hfills⟩ := (Option.any_eq_true ..).mp hruns
  rw [Bool.and_eq_true, decide_eq_true_iff, decide_eq_true_iff] at hfills
  obtain ⟨hgives, hfits⟩ := hfills
  exact ⟨w, installed_protectedTwo hw, hgives,
    fun haccepts => hfits ((acceptsAll_iff_fits hgives.toOffered).mp haccepts)⟩

end CreditHedge
