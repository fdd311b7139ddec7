import CreditHedge.Application.EntryAwaiting
import CreditHedge.Application.ExitCapacity
import CreditHedge.Application.ExitOrders

/-!
# Protected at its final size

The stop and the take-profit of an entry are for the quantity the store has of it at one moment.
If the entry filled on after that moment, the rest would be a short that nothing protects.

It does not (`entry_protected_at_final_size`). What is awaited has its final size, and
`install_stop` does not rely on that: it reads the row again and refuses one that is not active,
and an active row is at its final size too. From the stop's intent on the quantity is the
protection's, which no execution of the entry changes.
-/

set_option autoImplicit false

namespace CreditHedge

open Coroutine OneLevelEntryService ProtectiveExitService OneLevelLifecycleService

/-! ## Placing the exits -/

/-- A call that leaves the entries alone, and if it sends an order, one of this size. -/
def SizedCall (quantity : ℚ) (call : Call) : Prop :=
  call.KeepsEntries ∧ ∀ request, call.placed? = some request → request.quantity = quantity

section Calls

variable {quantity : ℚ} {request : PlaceOrderRequest}

theorem sizedCall_of_placing {snapshot : ProtectionSnapshot} {call : Call}
    (hsize : request.quantity = quantity) (h : PlacingCall request snapshot call) :
    SizedCall quantity call := by
  cases h with
  | place =>
    refine ⟨trivial, fun placed hplaced => ?_⟩
    obtain rfl := Option.some.inj (show some request = some placed from hplaced)
    exact hsize
  | _ => exact ⟨trivial, fun placed hplaced => absurd hplaced (by simp [Call.placed?])⟩

theorem calls_placeOrReconcile (attempts : ℕ) (snapshot : ProtectionSnapshot)
    (hsize : request.quantity = quantity) :
    (placeOrReconcile attempts request snapshot).Calls (SizedCall quantity) :=
  (placingCall_placeOrReconcile attempts).imp fun _ => sizedCall_of_placing hsize

end Calls

section Protecting

variable {w : LifecycleWorld} {α : Type}

/-- Orders of the entry's final size may be sent. -/
theorem upholds_of_sized {quantity : ℚ} {t : Service α} (h : t.Calls (SizedCall quantity))
    (hsize : w.order.FinalSize quantity) : UpholdsPorts (fun _ _ => True) t w := by
  induction t generalizing w with
  | done outcome => exact fun _ _ => trivial
  | call call resume ih =>
    intro w₁ hw₁ a ha
    have hsize₁ := hsize.grows hw₁.order
    have hstep : EntryProgress w₁ (w₁.serve a call).2 :=
      progress_serve_keeps ha h.1.1 fun request hrequest => by
        rw [h.1.2 request hrequest]
        exact hsize₁
    exact ⟨hstep, ih _ (h.2 _) (hsize₁.grows hstep.order)⟩

/-- Orders of the entry's final size, and what follows them. -/
theorem upholds_sized_bind {β : Type} {quantity : ℚ} {t : Service α} {f : α → Service β}
    {post : β → LifecycleWorld → Prop} (h : t.Calls (SizedCall quantity))
    (hsize : w.order.FinalSize quantity)
    (hf : ∀ w', w'.order.FinalSize quantity → ∀ v, UpholdsPorts (IfReturned post) (f v) w') :
    UpholdsPorts (IfReturned post) (t >>= f) w := by
  have hkept : UpholdsPorts (fun _ w' => True ∧ w'.order.FinalSize quantity) t w :=
    (upholds_of_sized h hsize).keep hsize fun hq hw => hq.grows hw.order
  refine .bind .refl (hkept.imp ?_)
  rintro outcome w₁ ⟨-, hsize₁⟩
  cases outcome with
  | ok v => exact hf w₁ hsize₁ v
  | error failure => exact fun _ _ => trivial

/-- An exit of the entry's final size is placed, and what its confirmation makes of the protection
    is written. -/
theorem upholds_place_confirm {quantity : ℚ} {request : PlaceOrderRequest} (attempts : ℕ)
    (snapshot : ProtectionSnapshot) {confirm : String → Time → Except Failure ProtectionSnapshot}
    (hquantity : request.quantity = quantity)
    (hopen : ∀ orderId now p, confirm orderId now = .ok p → p.openQuantity = quantity)
    (hsize : w.order.FinalSize quantity) :
    UpholdsPorts (IfReturned fun p w' => w'.order.FinalSize p.openQuantity)
      (do
        let visible ← placeOrReconcile attempts request snapshot
        let now ← awaitCall .clock
        let confirmed ← confirm visible.orderId now
        awaitCall (.transitionProtectionSnapshot snapshot.version confirmed)
        pure confirmed) w := by
  refine upholds_sized_bind (calls_placeOrReconcile attempts snapshot hquantity) hsize
    fun w₁ hsize₁ visible => ?_
  refine upholds_quiet trivial rfl (fun w₂ hw₂ now => .lift_bind ?_) fun _ _ => trivial
  cases hconfirm : confirm visible.orderId now with
  | error failure => exact fun _ _ => trivial
  | ok confirmed =>
    refine upholds_quiet trivial rfl (fun w₃ hw₃ _ w₄ hw₄ => ?_) fun _ _ => trivial
    show w₄.order.FinalSize confirmed.openQuantity
    rw [hopen _ _ _ hconfirm]
    exact hsize₁.grows (hw₂.trans (hw₃.trans hw₄)).order

/-- What the stop of an entry is for. -/
theorem openQuantity_of_forStopIntent {entry : EntryExecutionSnapshot} {stopOrderLinkId : String}
    {stopTriggerPrice : ℚ} {persistedAt : Time} {s : ProtectionSnapshot}
    (h : ProtectionSnapshot.forStopIntent entry stopOrderLinkId stopTriggerPrice persistedAt =
      .ok s) : entry.state = .activeUnprotected ∧ s.openQuantity = entry.filledQuantity := by
  simp only [ProtectionSnapshot.forStopIntent, bind_unit_eq_ok, refuseIf_eq_ok, not_not] at h
  obtain ⟨hstate, h⟩ := h
  split at h
  · exact absurd h (by simp [throw, throwThe, MonadExceptOf.throw])
  · rw [bind_unit_eq_ok, ProtectionSnapshot.create_eq_ok] at h
    exact ⟨hstate, by rw [h.2]⟩

theorem upholds_installStop (attempts : ℕ) {entryOrderLinkId : String}
    (instrument : InstrumentSpec) (stopOrderLinkId : String) (stopRate : ℚ) (hs : SoundEntry w)
    (hown : entryOrderLinkId = w.order.orderLinkId) :
    UpholdsPorts (IfReturned fun p w' => w'.order.FinalSize p.openQuantity)
      (installStop attempts entryOrderLinkId instrument stopOrderLinkId stopRate) w := by
  unfold installStop
  refine .lift_bind ?_
  split
  · refine .lift_bind ?_
    split
    · refine .call_bind fun w₁ hw₁ a ha => ?_
      have hstep : EntryProgress w₁ (w₁.serve a (.loadEntrySnapshot entryOrderLinkId)).2 :=
        progress_serve_quiet ha trivial rfl
      refine ⟨hstep, fun found hfound => ?_, fun _ _ _ _ => trivial⟩
      cases found with
      | none => exact fun _ _ => trivial
      | some entry =>
        obtain ⟨hmem, hkey⟩ := KeyedTable.find_eq_some.mp
          (show w₁.ports.store.entrySnapshots.find entryOrderLinkId = some entry from
            Except.ok.inj hfound)
        have hknown := KnownEntry.of_mem (hw₁.sound hs) hmem
        have hownE : entry.orderLinkId = w₁.order.orderLinkId :=
          hkey.trans (hown.trans hw₁.order.orderLinkId.symm)
        dsimp only
        cases entry.averageEntryPrice with
        | none => exact fun _ _ => trivial
        | some averagePrice =>
          refine .lift_bind ?_
          cases hrequest : PlaceOrderRequest.create (stopFields entry.filledQuantity
              (quantizeLimitPrice (averagePrice * (1 + stopRate)) instrument.priceFilter.tickSize
                .buy .aggressive) stopOrderLinkId) with
          | error failure => exact fun _ _ => trivial
          | ok request =>
            have hquantity : request.quantity = entry.filledQuantity := by
              rw [PlaceOrderRequest.create_eq_ok.mp hrequest]
              rfl
            refine upholds_quiet trivial rfl (fun w₂ hw₂ now => .lift_bind ?_) fun _ _ => trivial
            cases hintent : ProtectionSnapshot.forStopIntent entry stopOrderLinkId
                (quantizeLimitPrice (averagePrice * (1 + stopRate))
                  instrument.priceFilter.tickSize .buy .aggressive) now with
            | error failure => exact fun _ _ => trivial
            | ok snapshot =>
              obtain ⟨hactive, hopen⟩ := openQuantity_of_forStopIntent hintent
              have hsize : w₁.order.FinalSize entry.filledQuantity := hknown.active hownE hactive
              refine upholds_quiet trivial rfl (fun w₃ hw₃ _ => ?_) fun _ _ => trivial
              have hsize₃ := hsize.grows (hstep.trans (hw₂.trans hw₃)).order
              refine upholds_place_confirm attempts snapshot hquantity
                (fun _ _ p hconfirm => ?_) hsize₃
              rw [confirmStop, ProtectionSnapshot.create_eq_ok] at hconfirm
              rw [hconfirm]
              exact hopen
    · exact fun _ _ => trivial
  · exact fun _ _ => trivial

theorem upholds_installTakeProfit (attempts : ℕ) {p : ProtectionSnapshot}
    (instrument : InstrumentSpec) (orderLinkId : String) (desiredPrice : ℚ)
    (pricePolicy : PriceQuantizationPolicy) (hsize : w.order.FinalSize p.openQuantity) :
    UpholdsPorts (IfReturned fun p' w' => w'.order.FinalSize p'.openQuantity)
      (installTakeProfit attempts p instrument orderLinkId desiredPrice pricePolicy) w := by
  unfold installTakeProfit
  refine .lift_bind ?_
  split
  · refine .lift_bind ?_
    split
    · rename_i request hrequest
      have hquantity : request.quantity = p.openQuantity := by
        rw [PlaceOrderRequest.create_eq_ok.mp hrequest]
        rfl
      refine upholds_quiet trivial rfl (fun w₁ hw₁ now => .lift_bind ?_) fun _ _ => trivial
      split
      · rename_i withIntent hintent
        refine upholds_quiet trivial rfl (fun w₂ hw₂ _ => ?_) fun _ _ => trivial
        refine upholds_place_confirm attempts withIntent hquantity (fun _ _ p' hconfirm => ?_)
          (hsize.grows (hw₁.trans hw₂).order)
        simp only [confirmTakeProfit, addTakeProfitIntent, bind_unit_eq_ok,
          ProtectionSnapshot.create_eq_ok] at hconfirm hintent
        rw [hconfirm.2]
        show withIntent.openQuantity = _
        rw [hintent.2.2]
      · exact fun _ _ => trivial
    · exact fun _ _ => trivial
  · exact fun _ _ => trivial

/-- The check of the position; if it fails, the entry is suspended, which makes none active. -/
theorem upholds_positionCheck {β : Type} {post : β → LifecycleWorld → Prop}
    (activeOrderLinkId : Option String) (positions : List ExchangePosition) (hs : SoundEntry w)
    {f : Bool → Service β}
    (hf : ∀ w', EntryProgress w w' → ∀ matched, UpholdsPorts (IfReturned post) (f matched) w') :
    UpholdsPorts (IfReturned post) (reconcilePosition activeOrderLinkId positions >>= f) w := by
  have hchecked : UpholdsPorts (fun _ _ => True)
      (reconcilePosition activeOrderLinkId positions) w := by
    cases activeOrderLinkId with
    | none => exact fun _ _ => trivial
    | some orderLinkId =>
      refine .bind .refl ((upholds_requiredRow orderLinkId hs).imp ?_)
      intro outcome w₁ hreturned
      cases outcome with
      | error failure => exact fun _ _ => trivial
      | ok p =>
        dsimp only
        split
        · exact fun _ _ => trivial
        · split
          · exact fun _ _ => trivial
          · refine upholds_quiet trivial rfl (fun w₂ hw₂ now => .lift_bind ?_) fun _ _ => trivial
            split
            · rename_i reconciling hreconciling
              refine .call_bind fun w₃ hw₃ a ha => ?_
              obtain ⟨hstep, -⟩ := progress_transition (hw₃.entries.seen (hw₂.entries.seen
                hreturned.2.1)) (fills_of_transition hreconciling) (fun hactive _ _ => by
                  rw [(transitionEntrySnapshot_eq_ok hreconciling).2.2.1] at hactive
                  exact absurd hactive (by simp)) ha
              exact ⟨hstep, fun _ _ _ _ => trivial, fun _ _ _ _ => trivial⟩
            · exact fun _ _ => trivial
  have hkept : UpholdsPorts (fun _ w' => True ∧ EntryProgress w w')
      (reconcilePosition activeOrderLinkId positions) w :=
    hchecked.keep (.refl w) fun h hw => h.trans hw
  refine .bind .refl (hkept.imp ?_)
  rintro outcome w₁ ⟨-, hw₁⟩
  cases outcome with
  | ok matched => exact hf w₁ hw₁ matched
  | error failure => exact fun _ _ => trivial

/-- What the service returns: the entry and its protection, both at the final size. -/
def ProtectedWhole (opened : ProtectedOneLevel) (w : LifecycleWorld) : Prop :=
  w.order.FinalSize opened.entry.filledQuantity ∧
    w.order.FinalSize opened.protection.openQuantity

theorem upholds_protectFilledEntry (plan : Plan) {entry : EntryExecutionSnapshot}
    (hs : SoundEntry w) (hawaited : AwaitedEntry entry w) :
    UpholdsPorts (IfReturned ProtectedWhole) (protectFilledEntry plan entry) w := by
  refine upholds_quiet trivial rfl (fun w₁ hw₁ positions => ?_) fun _ _ => trivial
  refine upholds_positionCheck plan.activeOrderLinkId positions (hw₁.sound hs)
    fun w₂ hw₂ matched => ?_
  cases matched with
  | false => exact fun _ _ => trivial
  | true =>
    have hw := hw₁.trans hw₂
    have hstop : UpholdsPorts (fun outcome w' => IfReturned (fun p w' =>
        w'.order.FinalSize p.openQuantity) outcome w' ∧ AwaitedEntry entry w')
        (installStop plan.visibilityAttempts entry.orderLinkId plan.instrument
          plan.stopOrderLinkId plan.stopRate) w₂ :=
      (upholds_installStop _ _ _ _ (hw.sound hs) (hawaited.progress hw).1).keep
        (hawaited.progress hw) fun h hw => h.progress hw
    refine .bind .refl (hstop.imp ?_)
    rintro outcome w₃ ⟨hreturned, hawaited₃⟩
    cases outcome with
    | error failure => exact fun _ _ => trivial
    | ok stopped =>
      have htp : UpholdsPorts (fun outcome w' => IfReturned (fun p w' =>
          w'.order.FinalSize p.openQuantity) outcome w' ∧ AwaitedEntry entry w')
          (installTakeProfit plan.visibilityAttempts stopped plan.instrument
            plan.takeProfitOrderLinkId plan.takeProfitPrice .passive) w₃ :=
        (upholds_installTakeProfit _ _ _ _ _ hreturned).keep hawaited₃ fun h hw => h.progress hw
      refine .bind .refl (htp.imp ?_)
      rintro outcome w₄ ⟨hreturned₄, hawaited₄⟩
      cases outcome with
      | error failure => exact fun _ _ => trivial
      | ok opened =>
        refine upholds_quiet trivial rfl (fun w₅ hw₅ positions => ?_) fun _ _ => trivial
        split
        · intro w₆ hw₆
          have hw' := (hw₅.trans hw₆).order
          exact ⟨hawaited₄.2.grows hw', EntryOrder.FinalSize.grows hreturned₄ hw'⟩
        · exact fun _ _ => trivial

theorem upholds_protectSubmittedEntry (plan : Plan) {entry : EntryExecutionSnapshot}
    (hs : SoundEntry w) (hrow : AwaitsRow entry w) :
    UpholdsEntry (IfReturned ProtectedWhole) (protectSubmittedEntry plan entry) w := by
  have hawait : UpholdsEntry (fun outcome w' => IfReturned AwaitedEntry outcome w' ∧ SoundEntry w')
      (awaitEntryFill plan.payloadHash plan.fillAttempts entry) w :=
    (upholds_awaitEntryFill _ _ hs hrow).keep hs fun h hw => hw.sound h
  refine .bind .refl (hawait.imp ?_)
  rintro outcome w₁ ⟨hreturned, hs₁⟩
  cases outcome with
  | ok filled => exact (upholds_protectFilledEntry plan hs₁ hreturned).onCommonPorts
  | error failure => exact fun _ _ => trivial

end Protecting

/-! ## Among concurrent recordings -/

/-- A recording of an execution the exchange has reported, from its start, from where it has read
    the row, or from where it has found the execution to be new. -/
inductive Recording (w : LifecycleWorld) : LifecycleTask Unit → Prop
  | start {e : ExecutionUpdate} (receivedAt : Time) (payloadHash : PayloadHash) :
      Reported e w →
        Recording w (onCommonPorts (forEffect (applyExecution e receivedAt payloadHash)))
  | read {e : ExecutionUpdate} {p : EntryExecutionSnapshot} (receivedAt : Time)
      (payloadHash : PayloadHash) : Reported e w → w.ports.SeenEntry p →
      Recording w (onCommonPorts (forEffect (recordOver p e receivedAt payloadHash)))
  | write {e : ExecutionUpdate} {p updated : EntryExecutionSnapshot} {receivedAt : Time}
      (payloadHash : PayloadHash) : Reported e w → w.ports.SeenEntry p →
      applyEntryExecution p e receivedAt = .ok updated →
      Recording w (onCommonPorts (forEffect (writeRecorded p updated e receivedAt payloadHash)))

theorem upholds_effect {w : LifecycleWorld} {α : Type} {t : Service α}
    {post : Except Failure α → LifecycleWorld → Prop} (h : UpholdsPorts post t w) :
    UpholdsEntry (fun _ _ => True) (onCommonPorts (forEffect t)) w := by
  have heffect : UpholdsPorts (fun _ _ => True) (forEffect t) w := by
    refine .bind .refl (h.imp ?_)
    intro outcome w' _
    cases outcome with
    | ok a => exact fun _ _ => trivial
    | error failure => exact fun _ _ => trivial
  exact heffect.onCommonPorts

theorem Recording.upholds {w : LifecycleWorld} {t : LifecycleTask Unit} (h : Recording w t)
    (hs : SoundEntry w) : UpholdsEntry (fun _ _ => True) t w := by
  cases h with
  | start receivedAt payloadHash hreported => exact upholds_effect (upholds_recording hs hreported)
  | @read e p receivedAt payloadHash hreported hseen =>
    have hrest : UpholdsPorts (IfReturned fun _ _ => True)
        (recordOver p e receivedAt payloadHash) w :=
      upholds_recordOver hs hseen hreported (fun _ _ => trivial) fun _ _ _ => trivial
    exact upholds_effect hrest
  | write payloadHash hreported hseen happly =>
    exact upholds_effect (upholds_writeRecorded hs hseen happly hreported)

abbrev LifecycleLoop (α : Type) :=
  EventLoop Failure LifecycleCall LifecycleCall.Result LifecycleWorld α Unit

abbrev LifecycleMove :=
  EventLoop.Move Failure LifecycleCall LifecycleCall.Result LifecycleAnswers Unit

/-- `await_entry_fill`, about to start. -/
def awaiting (plan : Plan) (entry : EntryExecutionSnapshot) (w : LifecycleWorld) :
    LifecycleLoop EntryExecutionSnapshot where
  main := awaitEntryFill plan.payloadHash plan.fillAttempts entry
  others := []
  world := w

/-- `protect_submitted_entry`, about to start. -/
def protecting (plan : Plan) (entry : EntryExecutionSnapshot) (w : LifecycleWorld) :
    LifecycleLoop ProtectedOneLevel where
  main := protectSubmittedEntry plan entry
  others := []
  world := w

/-- The entry was submitted and is on its way: the snapshot is of its row, now or earlier, and
    neither is active with a part of the order only. No exit was sent yet. -/
structure EntryUnderWay (w : LifecycleWorld) (entry : EntryExecutionSnapshot) : Prop where
  books : BooksBalance w.ports.store
  recorded : w.recorded ⊆ w.order.fills
  target : ∀ s ∈ w.ports.store.entrySnapshots.rows, s.orderLinkId = w.order.orderLinkId →
    s.targetQuantity = w.order.quantity
  row : ∀ s ∈ w.ports.store.entrySnapshots.rows, s.orderLinkId = w.order.orderLinkId →
    s.state = .activeUnprotected → s.filledQuantity = w.order.quantity
  own : entry.orderLinkId = w.order.orderLinkId
  filled : entry.filledQuantity ≤ totalQuantity w.recorded
  waiting : entry.state = .activeUnprotected → entry.filledQuantity = w.order.quantity
  placed : w.placed = []

namespace EntryUnderWay

variable {w : LifecycleWorld} {entry : EntryExecutionSnapshot}

theorem recorded_le_filled (h : EntryUnderWay w entry) :
    totalQuantity w.recorded ≤ w.order.filled :=
  totalQuantity_le_of_subset (nodup_recorded w) h.recorded

theorem sound (h : EntryUnderWay w entry) : SoundEntry w where
  books := h.books
  recorded := h.recorded
  target := h.target
  active := by
    intro s hmem hown hstate
    refine EntryOrder.finalSize_of_full (h.row s hmem hown hstate).ge ?_
    calc s.filledQuantity = totalQuantity w.recorded := by
          rw [(h.books s hmem).filledQuantity, hown]
          rfl
      _ ≤ w.order.filled := h.recorded_le_filled
  placed := by
    intro request hmem
    rw [h.placed] at hmem
    exact absurd hmem (by simp)

theorem awaitsRow (h : EntryUnderWay w entry) : AwaitsRow entry w :=
  ⟨h.own, fun _ => h.filled, fun _ hstate =>
    EntryOrder.finalSize_of_full (h.waiting hstate).ge (h.filled.trans h.recorded_le_filled)⟩

end EntryUnderWay

/-- What a run of a task that upholds the entry comes to, among recordings. -/
theorem sound_of_run {α : Type} {loop : LifecycleLoop α} {post : α → LifecycleWorld → Prop}
    (hs : SoundEntry loop.world) (hothers : loop.others = [])
    (hmain : UpholdsEntry (IfReturned post) loop.main loop.world) {moves : List LifecycleMove}
    (hallows : loop.Allows LifecycleWorld.handle Faithful Recording moves) :
    SoundEntry (loop.run LifecycleWorld.handle moves).world ∧
      ∀ v, (loop.run LifecycleWorld.handle moves).main = .done (.ok v) →
        post v (loop.run LifecycleWorld.handle moves).world := by
  have hupheld : loop.Upheld LifecycleWorld.handle EntryProgress Faithful (IfReturned post)
      fun _ _ => True :=
    ⟨hmain, fun t ht => absurd (hothers ▸ ht) (by simp)⟩
  obtain ⟨hprogress, hpost⟩ := EventLoop.upholds_run .refl (fun h h' => h.trans h')
    (fun w t hw ht => ht.upholds (hw.sound hs)) (.refl loop.world) hupheld hallows
  exact ⟨hprogress.sound hs, fun v hv => hpost (.ok v) hv⟩

/-- **An entry is protected at its final size.** Whatever fills of it come when, and whatever is
    recorded of them by others at the same time: what `await_entry_fill` returns has all the order
    will ever have, every exit order that is sent is for that much, and so is the protection. -/
theorem entry_protected_at_final_size {w₀ : LifecycleWorld} {entry : EntryExecutionSnapshot}
    (h₀ : EntryUnderWay w₀ entry) (plan : Plan) (moves : List LifecycleMove) :
    ((awaiting plan entry w₀).Allows LifecycleWorld.handle Faithful Recording moves →
      ∀ loop, (awaiting plan entry w₀).run LifecycleWorld.handle moves = loop →
      ∀ s, loop.main = .done (.ok s) → loop.world.order.FinallyFilled s.filledQuantity) ∧
    ((protecting plan entry w₀).Allows LifecycleWorld.handle Faithful Recording moves →
      ∀ loop, (protecting plan entry w₀).run LifecycleWorld.handle moves = loop →
      (∀ request ∈ loop.world.placed, loop.world.order.FinallyFilled request.quantity) ∧
      ∀ opened, loop.main = .done (.ok opened) →
        loop.world.order.FinallyFilled opened.entry.filledQuantity ∧
        opened.protection.openQuantity = opened.entry.filledQuantity) := by
  constructor
  · rintro hallows loop rfl s hdone
    obtain ⟨-, hpost⟩ := sound_of_run h₀.sound rfl
      (upholds_awaitEntryFill _ _ h₀.sound h₀.awaitsRow) hallows
    exact (hpost s hdone).2.finallyFilled
  · rintro hallows loop rfl
    obtain ⟨hsound, hpost⟩ := sound_of_run h₀.sound rfl
      (upholds_protectSubmittedEntry plan h₀.sound h₀.awaitsRow) hallows
    refine ⟨fun request hmem => (hsound.placed request hmem).finallyFilled, fun opened hdone => ?_⟩
    obtain ⟨hentry, hprotection⟩ := hpost opened hdone
    exact ⟨hentry.finallyFilled, hprotection.1.trans hentry.1.symm⟩

/-! ## A half that is all -/

instance (store : SqliteExecutionStore) (s : EntryExecutionSnapshot) :
    Decidable (EntryBooks store s) :=
  decidable_of_iff
    (s.filledQuantity = ((store.executionsOf s.orderLinkId).map fun e => e.quantity).sum ∧
      s.entryNotional =
        ((store.executionsOf s.orderLinkId).map fun e => e.price * e.quantity).sum ∧
      s.entryFees = ((store.executionsOf s.orderLinkId).map fun e => e.fee).sum)
    ⟨fun ⟨h₁, h₂, h₃⟩ => ⟨h₁, h₂, h₃⟩, fun h => ⟨h.1, h.2, h.3⟩⟩

instance (store : SqliteExecutionStore) : Decidable (BooksBalance store) :=
  inferInstanceAs (Decidable (∀ s ∈ store.entrySnapshots.rows, EntryBooks store s))

/-- One unit was ordered and half of it filled; and that is where it has ended, or not yet. -/
def halfOrder (ended : Option String) : EntryOrder where
  orderLinkId := halvesId
  quantity := 1
  fills := [halfOne]
  ended
  own := by decide +kernel
  ids := by decide +kernel
  within := by decide +kernel

def underWayHalf : LifecycleWorld where
  ports := ((execute handle (submitEntry halvesRequest) (List.replicate 8 takesEntry)
    nothingStored).map fun result => result.2).getD nothingStored
  order := halfOrder none
  placed := []

def submittedHalf : EntryExecutionSnapshot :=
  (underWayHalf.ports.store.loadEntrySnapshot halvesId).get (by decide +kernel)

def halfPlan : Plan where
  payloadHash _ := halvesHash
  fillAttempts := 3
  visibilityAttempts := 3
  instrument := ethPerp
  activeOrderLinkId := some halvesId
  stopOrderLinkId := stopIdOf 1
  takeProfitOrderLinkId := tpIdOf 1
  stopRate := 1 / 200
  takeProfitPrice := 1990

/-- The order has ended with its half, and is shown so; the position is a short of a half. -/
def endedAtHalf : LifecycleAnswers where
  order := halfOrder (some "PartiallyFilledCanceled")
  executions := .ok [halfOne, halfOne]
  found := .ok (some
    { category := .linear, orderId := "order-1", orderLinkId := halvesId, symbol := "ETHUSDT"
      status := "PartiallyFilledCanceled", side := .sell, orderType := .market, price := none
      quantity := 1, cumulativeFilledQuantity := 1 / 2, averagePrice := some 2000
      reduceOnly := false, createdAt := 0, updatedAt := 0 })
  positions := .ok
    [{ category := .linear, symbol := "ETHUSDT", side := some .sell, quantity := 1 / 2
       averagePrice := some 2000, markPrice := none, unrealizedPnl := 0, updatedAt := 0 }]

/-- The exits are taken and shown at once. -/
def exitShown (f : PlaceOrderFields) : LifecycleAnswers :=
  { endedAtHalf with toAnswers := promptly f }

/-- Another recording has read the row before the first look at the history, which lags, and
    writes after it; then the order ends, the history repeats itself, and the exits are sent. -/
def halfRecordedBeside : List LifecycleMove :=
  [.other 0 { order := halfOrder none }, .main { order := halfOrder none, executions := .ok [] },
    .main { order := halfOrder none, found := .ok none }, .other 0 { order := halfOrder none },
    .other 0 { order := halfOrder none }] ++
  List.replicate 13 (.main endedAtHalf) ++
  List.replicate 8 (.main (exitShown (stopFields (1 / 2) 2010 (stopIdOf 1)))) ++
  List.replicate 7 (.main (exitShown (takeProfitFields (1 / 2) 1990 (tpIdOf 1)))) ++
  [.main endedAtHalf]

def recordsHalf : LifecycleTask Unit :=
  onCommonPorts (forEffect (applyExecution halfOne 2 halvesHash))

theorem underWay_half : EntryUnderWay underWayHalf submittedHalf := by
  constructor <;> decide +kernel

/-- The other recording is started, and then nothing more. -/
theorem allows_halfRecorded {α : Type} {loop : LifecycleLoop α}
    (hreported : halfOne ∈ loop.world.order.fills)
    (hrest : (loop.move LifecycleWorld.handle (.start recordsHalf)).Allows LifecycleWorld.handle
      Faithful (fun _ _ => False) halfRecordedBeside) :
    loop.Allows LifecycleWorld.handle Faithful Recording
      (.start recordsHalf :: halfRecordedBeside) :=
  ⟨.start 2 halvesHash fun _ => hreported, hrest.imp (fun _ _ _ h => h) fun _ _ h => h.elim⟩

def awaitedHalf : LifecycleLoop EntryExecutionSnapshot :=
  (awaiting halfPlan submittedHalf underWayHalf).run LifecycleWorld.handle
    (.start recordsHalf :: halfRecordedBeside)

def protectedHalf : LifecycleLoop ProtectedOneLevel :=
  (protecting halfPlan submittedHalf underWayHalf).run LifecycleWorld.handle
    (.start recordsHalf :: halfRecordedBeside)

/-- The order ends half filled, and the half is what is returned and what the exits are for. -/
theorem entry_protected_at_final_size_half :
    (∃ s, awaitedHalf.main = .done (.ok s) ∧ s.filledQuantity = 1 / 2 ∧
      awaitedHalf.world.order.FinallyFilled s.filledQuantity) ∧
    ∃ opened, protectedHalf.main = .done (.ok opened) ∧
      protectedHalf.world.placed.map (fun request => request.quantity) = [1 / 2, 1 / 2] ∧
      (∀ request ∈ protectedHalf.world.placed,
        protectedHalf.world.order.FinallyFilled request.quantity) ∧
      protectedHalf.world.order.FinallyFilled opened.entry.filledQuantity ∧
      opened.protection.openQuantity = opened.entry.filledQuantity := by
  have hawaits : awaitedHalf.main.returned?.any (fun s => s.filledQuantity = 1 / 2) = true := by
    decide +kernel
  have hprotects : (protectedHalf.main.returned?.isSome && decide
      (protectedHalf.world.placed.map (fun request => request.quantity) = [1 / 2, 1 / 2])) =
      true := by decide +kernel
  rw [Bool.and_eq_true, decide_eq_true_iff] at hprotects
  obtain ⟨s, hs, hfilled⟩ := (Option.any_eq_true ..).mp hawaits
  obtain ⟨opened, hopened⟩ := Option.isSome_iff_exists.mp hprotects.1
  have hdone := Coroutine.returned?_eq_some.mp hs
  have hdone' := Coroutine.returned?_eq_some.mp hopened
  obtain ⟨hawait, hprotect⟩ := entry_protected_at_final_size underWay_half halfPlan
    (.start recordsHalf :: halfRecordedBeside)
  have hsize := hawait (allows_halfRecorded (List.mem_singleton_self _) (by decide +kernel))
    awaitedHalf rfl s hdone
  obtain ⟨hplaced, hopen⟩ := hprotect
    (allows_halfRecorded (List.mem_singleton_self _) (by decide +kernel)) protectedHalf rfl
  obtain ⟨hentry, hquantity⟩ := hopen opened hdone'
  exact ⟨⟨s, hdone, of_decide_eq_true hfilled, hsize⟩, opened, hdone', hprotects.2, hplaced,
    hentry, hquantity⟩

end CreditHedge
