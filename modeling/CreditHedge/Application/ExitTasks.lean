import CreditHedge.Application.ExitCalls
import CreditHedge.Application.ExitReconciliation

/-!
# The exit services among each other

Each service, started on a sound venue, moves it along `Moves` at every call, whatever the others
and the exchange do in between. The pieces they share come first: placing an order and seeing it,
and the fallback to `RECONCILING`. A service carries the snapshot it has seen through its calls
(`Upholds.keep`), and a confirmed order id is the exchange's because the exchange has shown the
order.
-/

set_option autoImplicit false

namespace CreditHedge

open Coroutine ProtectiveExitService

section Tasks

variable {orderIdOf : String → String} {gone : Venue → String → Prop} {v : Venue}
  {p s : ProtectionSnapshot} {α : Type}

/-- The task moves the venue along `Moves` and ends in `post`. -/
abbrev Uphold (orderIdOf : String → String) (gone : Venue → String → Prop)
    (post : Except Failure α → Venue → Prop) (t : Service α) (v : Venue) : Prop :=
  Upholds handleAt (Moves orderIdOf gone) (Admissible orderIdOf gone) post t v

/-- What is found under a client id has the exchange's order id for it. -/
def Shown (orderIdOf : String → String) (orderLinkId : String) :
    Except Failure ExchangeOrder → Venue → Prop
  | .ok order, _ => order.orderId = orderIdOf orderLinkId
  | .error _, _ => True

theorem orderLinkId_of_validate {order : ExchangeOrder} {request : PlaceOrderRequest} {u : Unit}
    (h : validateVisibleOrder order request = .ok u) : order.orderLinkId = request.orderLinkId := by
  unfold validateVisibleOrder at h
  split at h
  · exact absurd h (by simp)
  · rename_i hnot
    by_contra hne
    exact hnot (.inl hne)

variable (hgone : Lasting gone)

include hgone

theorem uphold_awaitVisible (request : PlaceOrderRequest) (attempts : ℕ) (v : Venue) :
    Uphold orderIdOf gone (Shown orderIdOf request.orderLinkId) (awaitVisible request attempts)
      v := by
  induction attempts generalizing v with
  | zero => exact fun _ _ => trivial
  | succ attempts ih =>
    refine .call_bind fun v₁ _ r ha => ⟨moves_getOrderByLinkId hgone ha.honest _ _ _, ?_, ?_⟩
    · intro found hfound
      cases found with
      | none => exact ih _
      | some order =>
        refine .lift_bind ?_
        cases hvalid : validateVisibleOrder order request with
        | error failure => exact fun _ _ => trivial
        | ok u =>
          intro _ _
          have hshown := ha.honest.found (some order)
            (by rw [show r.answers.found = .ok (some order) from hfound]; rfl) order rfl
          show order.orderId = _
          rw [hshown, orderLinkId_of_validate hvalid]
    · exact fun _ _ _ _ => trivial

theorem uphold_placeOrDiscover (request : PlaceOrderRequest) (v : Venue) :
    Uphold orderIdOf gone
      (fun outcome _ => ∀ placed, outcome = .ok placed → ∀ order ∈ placed.2,
        order.orderId = orderIdOf order.orderLinkId)
      (placeOrDiscover request) v := by
  refine .tryCatch .refl (.call_bind fun v₁ _ r ha =>
    ⟨moves_placeOrder hgone ha.honest _, fun acknowledgement _ => ?_, fun failure _ v₂ _ => ?_⟩)
  · intro _ _ _ _ placed hplaced order horder
    obtain rfl := Except.ok.inj hplaced
    exact absurd horder (by simp)
  · cases failure with
    | uncertainOrderOutcome operation =>
      refine .call_bind fun v₃ _ r ha => ⟨moves_getOrderByLinkId hgone ha.honest _ _ _, ?_, ?_⟩
      · intro found hfound
        cases found with
        | none => exact fun _ _ placed hplaced => absurd hplaced (by simp)
        | some order =>
          have hshown := ha.honest.found (some order)
            (by rw [show r.answers.found = .ok (some order) from hfound]; rfl) order rfl
          refine .call_bind fun v₄ _ r ha =>
            ⟨moves_reading hgone ha.honest rfl rfl, fun now _ => .lift_bind ?_,
              fun _ _ _ _ placed hplaced => absurd hplaced (by simp)⟩
          split
          · intro _ _ placed hplaced found hfound
            obtain rfl := Except.ok.inj hplaced
            obtain rfl := Option.some.inj hfound
            exact hshown
          · exact fun _ _ placed hplaced => absurd hplaced (by simp)
      · exact fun _ _ _ _ placed hplaced => absurd hplaced (by simp)
    | _ => exact fun _ _ placed hplaced => absurd hplaced (by simp)

theorem uphold_placeAndConfirmVisible (attempts : ℕ) (request : PlaceOrderRequest) (v : Venue) :
    Uphold orderIdOf gone (Shown orderIdOf request.orderLinkId)
      (placeAndConfirmVisible attempts request) v := by
  refine .bind .refl ((uphold_placeOrDiscover hgone request v).imp ?_)
  intro outcome v₁ hdiscovered
  cases outcome with
  | error failure => exact fun _ _ => trivial
  | ok placed =>
    refine .call_bind fun v₂ _ r ha =>
      ⟨moves_recordAcknowledgement hgone ha.honest _, fun _ _ => ?_, fun _ _ _ _ => trivial⟩
    cases hplaced : placed.2 with
    | none => exact uphold_awaitVisible hgone request attempts _
    | some order =>
      refine .lift_bind ?_
      cases hvalid : validateVisibleOrder order request with
      | error failure => exact fun _ _ => trivial
      | ok u =>
        intro _ _
        show order.orderId = _
        rw [hdiscovered placed rfl order hplaced, orderLinkId_of_validate hvalid]

omit hgone in
theorem OrderIds.of_same (h : OrderIds orderIdOf p)
    (hstop : s.stopOrderLinkId = p.stopOrderLinkId) (hstopOrder : s.stopOrderId = p.stopOrderId)
    (htp : s.tpOrderLinkId = p.tpOrderLinkId) (htpOrder : s.tpOrderId = p.tpOrderId) :
    OrderIds orderIdOf s :=
  ⟨by rw [hstop, hstopOrder]; exact h.stop, by rw [htp, htpOrder]; exact h.tp⟩

omit hgone in
/-- Marking leaves a suspended row alone and suspends any other. -/
theorem markProtectionReconciling_cases {updatedAt : Time}
    (h : markProtectionReconciling p updatedAt = .ok s) :
    s.state = .reconciling ∧ (p.state ≠ .reconciling →
      s.toProtectionFields = suspendedFields p updatedAt) := by
  unfold markProtectionReconciling at h
  split at h
  · rename_i hstate
    obtain rfl := Except.ok.inj h
    exact ⟨hstate, fun hne => absurd hstate hne⟩
  · rw [ProtectionSnapshot.create_eq_ok] at h
    exact ⟨by rw [h], fun _ => h⟩

omit hgone in
theorem not_isClosed_of_state {state : LiveExecutionState} (h : p.state = state)
    (htp : state ≠ .closedTp) (hstop : state ≠ .closedStop) : ¬ IsClosed p := by
  rintro (hclosed | hclosed)
  · exact htp (h ▸ hclosed)
  · exact hstop (h ▸ hclosed)

/-- Suspending a live snapshot ends with one that is not closed. -/
theorem uphold_setReconciling (hseen : v.Seen p) (hlive : ¬ IsClosed p)
    {post : Except Failure ProtectionSnapshot → Venue → Prop}
    (hpost : ∀ outcome v', (∀ q, outcome = .ok q → ¬ IsClosed q) → post outcome v') :
    Uphold orderIdOf gone post (setReconciling p) v := by
  refine .call_bind fun v₁ hv₁ r ha => ?_
  have hclock : Moves orderIdOf gone v₁ (handleAt r .clock v₁).2 :=
    moves_reading hgone ha.honest rfl rfl
  refine ⟨hclock, fun now _ => .lift_bind ?_,
    fun failure _ v₂ _ => hpost _ _ fun q hq => absurd hq (by simp)⟩
  have hseen₂ := (hseen.evolves hv₁.evolves).evolves hclock.evolves
  cases hmark : markProtectionReconciling p now with
  | error failure => exact fun v₃ _ => hpost _ _ fun q hq => absurd hq (by simp)
  | ok reconciling =>
    obtain ⟨hstate, hfields⟩ := markProtectionReconciling_cases hmark
    have hended : ∀ q, (Except.ok reconciling : Except Failure _) = .ok q → ¬ IsClosed q := by
      intro q hq
      obtain rfl := Except.ok.inj hq
      exact not_isClosed_of_state hstate (by decide) (by decide)
    dsimp only
    split
    · exact fun v₃ _ => hpost _ _ hended
    · rename_i hne
      have hfields := hfields hne
      have hsuccession : Succession orderIdOf p reconciling :=
        { entry := by rw [hfields]; rfl, version := by rw [hfields]; rfl, live := hlive
          entryQuantity := by rw [hfields]; rfl, openQuantity := by rw [hfields]; rfl
          orderIds := fun h => h.of_same (by rw [hfields]; rfl) (by rw [hfields]; rfl)
            (by rw [hfields]; rfl) (by rw [hfields]; rfl) }
      refine .call_bind fun v₃ hv₃ r' ha' => ⟨?_, fun _ _ v₄ _ => hpost _ _ hended,
        fun failure _ v₄ _ => hpost _ _ fun q hq => absurd hq (by simp)⟩
      exact (swapped_transition hgone ha'.honest (hseen₂.evolves hv₃.evolves) hsuccession
        (by rw [hfields]; rfl) (by rw [hfields]; rfl)).moves

/-- Placing the order of a snapshot, with the fallback. -/
theorem uphold_placeOrReconcile (attempts : ℕ) (request : PlaceOrderRequest) (hseen : v.Seen s)
    (hlive : ¬ IsClosed s) :
    Uphold orderIdOf gone (fun outcome v' =>
        (∀ order, outcome = .ok order → order.orderId = orderIdOf request.orderLinkId) ∧ v'.Seen s)
      (placeOrReconcile attempts request s) v := by
  have hkeeps : ∀ {v v' : Venue}, v.Seen s → Moves orderIdOf gone v v' → v'.Seen s :=
    fun h hm => h.evolves hm.evolves
  refine .tryCatch .refl (((uphold_placeAndConfirmVisible hgone attempts request v).keep hseen
    hkeeps).imp ?_)
  rintro outcome v₁ ⟨hshown, hseen₁⟩
  cases outcome with
  | ok order =>
    refine fun v₂ hv₂ => ⟨fun order' horder' => ?_, hkeeps hseen₁ hv₂⟩
    obtain rfl := Except.ok.inj horder'
    exact hshown
  | error failure =>
    have hsuspends : Uphold orderIdOf gone (fun _ _ => True) (setReconciling s) v₁ :=
      uphold_setReconciling hgone hseen₁ hlive fun _ _ _ => trivial
    refine .bind .refl ((hsuspends.keep hseen₁ hkeeps).imp ?_)
    rintro outcome v₂ ⟨-, hseen₂⟩
    cases outcome with
    | ok q => exact fun v₃ hv₃ => ⟨fun _ h => absurd h (by simp), hkeeps hseen₂ hv₃⟩
    | error e => exact fun v₃ hv₃ => ⟨fun _ h => absurd h (by simp), hkeeps hseen₂ hv₃⟩

/-! The services. -/

/-- What follows a placed exit: its confirmation is written over the snapshot of the intent. -/
theorem uphold_confirm {t : Service ProtectionSnapshot}
    {confirm : ProtectionSnapshot → String → Time → Except Failure ProtectionSnapshot}
    (attempts : ℕ) (request : PlaceOrderRequest) (hseen : v.Seen s) (hlive : ¬ IsClosed s)
    (hsuccession : ∀ {orderId now q}, orderId = orderIdOf request.orderLinkId →
      confirm s orderId now = .ok q → Succession orderIdOf s q ∧
        q.stopOrderLinkId = s.stopOrderLinkId ∧ q.tpOrderLinkId = s.tpOrderLinkId)
    (ht : t = do
      let visible ← placeOrReconcile attempts request s
      let updatedAt ← awaitCall .clock
      let confirmed ← confirm s visible.orderId updatedAt
      awaitCall (.transitionProtectionSnapshot s.version confirmed)
      pure confirmed) :
    Uphold orderIdOf gone (fun _ _ => True) t v := by
  subst ht
  refine .bind .refl ((uphold_placeOrReconcile hgone attempts request hseen hlive).imp ?_)
  rintro outcome v₁ ⟨hshown, hseen₁⟩
  cases outcome with
  | error failure => exact fun _ _ => trivial
  | ok order =>
    refine .call_bind fun v₂ hv₂ r ha => ?_
    have hclock : Moves orderIdOf gone v₂ (handleAt r .clock v₂).2 :=
      moves_reading hgone ha.honest rfl rfl
    have hseen₂ := (hseen₁.evolves hv₂.evolves).evolves hclock.evolves
    refine ⟨hclock, fun now _ => .lift_bind ?_, fun _ _ _ _ => trivial⟩
    cases hconfirm : confirm s order.orderId now with
    | error failure => exact fun _ _ => trivial
    | ok confirmed =>
      obtain ⟨hs, hstop, htp⟩ := hsuccession (hshown order rfl) hconfirm
      exact .call_bind fun v₃ hv₃ r' ha' => ⟨(swapped_transition hgone ha'.honest
        (hseen₂.evolves hv₃.evolves) hs hstop htp).moves, fun _ _ _ _ => trivial,
          fun _ _ _ _ => trivial⟩

omit hgone in
theorem succession_confirmStop {orderId : String} {updatedAt : Time} (hlive : ¬ IsClosed p)
    (hid : orderId = orderIdOf p.stopOrderLinkId) (h : confirmStop p orderId updatedAt = .ok s) :
    Succession orderIdOf p s ∧ s.stopOrderLinkId = p.stopOrderLinkId ∧
      s.tpOrderLinkId = p.tpOrderLinkId := by
  simp only [confirmStop, ProtectionSnapshot.create_eq_ok] at h
  refine ⟨⟨by rw [h], by rw [h], hlive, by rw [h], by rw [h], fun hids => ⟨?_, ?_⟩⟩, by rw [h],
    by rw [h]⟩
  · rw [h]
    intro id hmem
    exact (Option.some.inj hmem).symm.trans hid
  · rw [h]
    exact hids.tp

omit hgone in
theorem succession_confirmTakeProfit {orderId link : String} {updatedAt : Time}
    (hlive : ¬ IsClosed p) (hlink : p.tpOrderLinkId = some link) (hid : orderId = orderIdOf link)
    (h : confirmTakeProfit p orderId updatedAt = .ok s) :
    Succession orderIdOf p s ∧ s.stopOrderLinkId = p.stopOrderLinkId ∧
      s.tpOrderLinkId = p.tpOrderLinkId := by
  simp only [confirmTakeProfit, bind_unit_eq_ok, ProtectionSnapshot.create_eq_ok] at h
  obtain ⟨-, h⟩ := h
  refine ⟨⟨by rw [h], by rw [h], hlive, by rw [h], by rw [h], fun hids => ⟨?_, ?_⟩⟩, by rw [h],
    by rw [h]⟩
  · rw [h]
    exact hids.stop
  · rw [h]
    intro link' hlink' id hmem
    rw [hlink] at hlink'
    obtain rfl := Option.some.inj hlink'
    exact (Option.some.inj hmem).symm.trans hid

omit hgone in
theorem succession_confirmExit {updatedAt : Time} (hlive : ¬ IsClosed p)
    (h : confirmExitReconciliation p updatedAt = .ok s) :
    Succession orderIdOf p s ∧ s.stopOrderLinkId = p.stopOrderLinkId ∧
      s.tpOrderLinkId = p.tpOrderLinkId := by
  unfold confirmExitReconciliation at h
  split at h
  · rw [ProtectionSnapshot.create_eq_ok] at h
    exact ⟨⟨by rw [h], by rw [h], hlive, by rw [h], by rw [h], fun hids =>
      hids.of_same (by rw [h]) (by rw [h]) (by rw [h]) (by rw [h])⟩, by rw [h], by rw [h]⟩
  · exact absurd h (by simp)

omit hgone in
/-- The first row of a level is live, its books are open, and it knows its stop alone. -/
theorem forStopIntent_fields {entry : EntryExecutionSnapshot} {stopOrderLinkId : String}
    {price : ℚ} {persistedAt : Time}
    (h : ProtectionSnapshot.forStopIntent entry stopOrderLinkId price persistedAt = .ok p) :
    p.state = .activeUnprotected ∧ p.stopOrderLinkId = stopOrderLinkId ∧ p.stopOrderId = none ∧
      p.tpOrderLinkId = none ∧ p.openQuantity = p.entryQuantity := by
  simp only [ProtectionSnapshot.forStopIntent, bind_eq_ok] at h
  obtain ⟨-, -, h⟩ := h
  split at h
  · exact absurd h (by simp [throw, throwThe, MonadExceptOf.throw])
  · simp only [bind_eq_ok, ProtectionSnapshot.create_eq_ok] at h
    obtain ⟨-, -, h⟩ := h
    rw [h]
    exact ⟨rfl, rfl, rfl, rfl, rfl⟩

theorem uphold_installStop (attempts : ℕ) (entryOrderLinkId : String)
    (instrument : InstrumentSpec) (stopOrderLinkId : String) (stopRate : ℚ) (v : Venue) :
    Uphold orderIdOf gone (fun _ _ => True)
      (installStop attempts entryOrderLinkId instrument stopOrderLinkId stopRate) v := by
  unfold installStop
  refine .lift_bind ?_
  split
  · refine .lift_bind ?_
    split
    · refine .call_bind fun v₁ _ r ha =>
        ⟨moves_reading hgone ha.honest rfl rfl, fun entry _ => ?_, fun _ _ _ _ => trivial⟩
      cases entry with
      | none => exact fun _ _ => trivial
      | some entry =>
        dsimp only
        split
        · exact fun _ _ => trivial
        · refine .lift_bind ?_
          split
          · rename_i request hrequest
            rw [PlaceOrderRequest.create_eq_ok] at hrequest
            refine .call_bind fun v₂ _ r ha =>
              ⟨moves_reading hgone ha.honest rfl rfl, fun now _ => .lift_bind ?_,
                fun _ _ _ _ => trivial⟩
            split
            · rename_i snapshot hsnapshot
              obtain ⟨hstate, hstop, hstopOrder, htp, hopen⟩ := forStopIntent_fields hsnapshot
              have hlive : ¬ IsClosed snapshot :=
                not_isClosed_of_state hstate (by decide) (by decide)
              refine .call_bind fun v₃ _ r ha => ?_
              obtain ⟨hmoves, hseen⟩ : Moves orderIdOf gone v₃ (handleAt r
                  (.persistProtectionIntent request snapshot snapshot.updatedAt) v₃).2 ∧ _ :=
                moves_protectionIntent hgone ha.honest htp hstopOrder hopen
              refine ⟨hmoves, fun _ hok => ?_, fun _ _ _ _ => trivial⟩
              refine uphold_confirm hgone attempts request (hseen hok) hlive
                (fun hid hconfirm => ?_) rfl
              refine succession_confirmStop hlive (hid.trans ?_) hconfirm
              rw [hrequest, hstop]
              rfl
            · exact fun _ _ => trivial
          · exact fun _ _ => trivial
    · exact fun _ _ => trivial
  · exact fun _ _ => trivial

theorem uphold_installTakeProfit (attempts : ℕ) (hseen : v.Seen p) (instrument : InstrumentSpec)
    (orderLinkId : String) (desiredPrice : ℚ) (pricePolicy : PriceQuantizationPolicy) :
    Uphold orderIdOf gone (fun _ _ => True)
      (installTakeProfit attempts p instrument orderLinkId desiredPrice pricePolicy) v := by
  unfold installTakeProfit
  refine .lift_bind ?_
  split
  · refine .lift_bind ?_
    split
    · rename_i request hrequest
      rw [PlaceOrderRequest.create_eq_ok] at hrequest
      refine .call_bind fun v₁ hv₁ r ha => ?_
      have hclock : Moves orderIdOf gone v₁ (handleAt r .clock v₁).2 :=
        moves_reading hgone ha.honest rfl rfl
      have hseen₁ := (hseen.evolves hv₁.evolves).evolves hclock.evolves
      refine ⟨hclock, fun now _ => .lift_bind ?_, fun _ _ _ _ => trivial⟩
      split
      · rename_i withIntent hintent
        simp only [addTakeProfitIntent, bind_unit_eq_ok, refuseIf_eq_ok, not_not,
          ProtectionSnapshot.create_eq_ok] at hintent
        obtain ⟨hstate, htp, hfields⟩ := hintent
        have hlive : ¬ IsClosed p := not_isClosed_of_state hstate (by decide) (by decide)
        have hstate' : withIntent.state = .activeProtected :=
          (congrArg ProtectionFields.state hfields).trans hstate
        have hlive' : ¬ IsClosed withIntent :=
          not_isClosed_of_state hstate' (by decide) (by decide)
        have hsuccession : Succession orderIdOf p withIntent :=
          { entry := by rw [hfields], version := by rw [hfields], live := hlive
            entryQuantity := by rw [hfields], openQuantity := by rw [hfields]
            orderIds := fun h => by
              refine ⟨by rw [hfields]; exact h.stop, ?_⟩
              -- The take-profit is new, so no order id has been confirmed for it.
              rw [hfields]
              have hnone := (p.valid.tp_absent htp).1
              intro link _ id hid
              rw [show p.tpOrderId = none from hnone] at hid
              exact absurd hid (by simp) }
        refine .call_bind fun v₂ hv₂ r' ha' => ?_
        have hswapped : Swapped orderIdOf gone v₂ p withIntent (handleAt r'
            (.persistTakeProfitIntent p.version request withIntent withIntent.updatedAt) v₂) :=
          swapped_takeProfitIntent hgone ha'.honest (hseen₁.evolves hv₂.evolves) hsuccession
            (by rw [hfields]) htp
        refine ⟨hswapped.moves, fun _ hok => ?_, fun _ _ _ _ => trivial⟩
        refine uphold_confirm hgone attempts request
          (.of_mem (hswapped.written hok).2.1) hlive'
          (fun hid hconfirm => ?_) rfl
        refine succession_confirmTakeProfit hlive' ?_ hid hconfirm
        rw [hfields, hrequest]
        rfl
      · exact fun _ _ => trivial
    · exact fun _ _ => trivial
  · exact fun _ _ => trivial

theorem uphold_restoreStop (attempts : ℕ) (hseen : v.Seen p) (instrument : InstrumentSpec)
    (orderLinkId : String) (stopRate : ℚ) :
    Uphold orderIdOf gone (fun _ _ => True)
      (restoreStop attempts p instrument orderLinkId stopRate) v := by
  unfold restoreStop
  refine .lift_bind ?_
  split
  · refine .lift_bind ?_
    split
    · refine .lift_bind ?_
      split
      · rename_i request hrequest
        rw [PlaceOrderRequest.create_eq_ok] at hrequest
        refine .call_bind fun v₁ hv₁ r ha => ?_
        have hclock : Moves orderIdOf gone v₁ (handleAt r .clock v₁).2 :=
          moves_reading hgone ha.honest rfl rfl
        have hseen₁ := (hseen.evolves hv₁.evolves).evolves hclock.evolves
        refine ⟨hclock, fun now _ => .lift_bind ?_, fun _ _ _ _ => trivial⟩
        split
        · rename_i withIntent hintent
          simp only [replaceStopIntent, bind_unit_eq_ok, refuseIf_eq_ok, not_not, not_le,
            ProtectionSnapshot.create_eq_ok] at hintent
          obtain ⟨hopen, -, hfields⟩ := hintent
          have hlive : ¬ IsClosed p := fun hclosed => by
            have hzero := (p.valid.closed hclosed).1
            linarith
          have hstate' : withIntent.state = .activeUnprotected := by rw [hfields]
          have hlive' : ¬ IsClosed withIntent :=
            not_isClosed_of_state hstate' (by decide) (by decide)
          have hsuccession : Succession orderIdOf p withIntent :=
            { entry := by rw [hfields], version := by rw [hfields], live := hlive
              entryQuantity := by rw [hfields], openQuantity := by rw [hfields]
              orderIds := fun h => by
                refine ⟨?_, by rw [hfields]; exact h.tp⟩
                rw [hfields]
                simp }
          refine .call_bind fun v₂ hv₂ r' ha' => ?_
          have hswapped : Swapped orderIdOf gone v₂ p withIntent (handleAt r'
              (.persistReplacementStopIntent p.version request withIntent withIntent.updatedAt)
              v₂) :=
            swapped_replacement hgone ha'.honest (hseen₁.evolves hv₂.evolves) hsuccession
              (by rw [hfields]) ha'.replaces
          refine ⟨hswapped.moves, fun _ hok => ?_, fun _ _ _ _ => trivial⟩
          refine uphold_confirm hgone attempts request
            (.of_mem (hswapped.written hok).2.1) hlive'
            (fun hid hconfirm => ?_) rfl
          refine succession_confirmStop hlive' (hid.trans ?_) hconfirm
          rw [hfields, hrequest]
          rfl
        · exact fun _ _ => trivial
      · exact fun _ _ => trivial
    · exact fun _ _ => trivial
  · exact fun _ _ => trivial

theorem uphold_applyExitExecution {e : ExecutionUpdate} (he : e ∈ v.fills) (receivedAt : Time)
    (payloadHash : PayloadHash) :
    Uphold orderIdOf gone (fun _ _ => True)
      (ProtectiveExitService.applyExitExecution e receivedAt payloadHash) v := by
  refine .call_bind fun v₁ hv₁ r ha => ?_
  have hload : Moves orderIdOf gone v₁
      (handleAt r (.loadProtectionSnapshotByExitId e.orderLinkId) v₁).2 :=
    moves_reading hgone ha.honest rfl rfl
  refine ⟨hload, fun found hfound => ?_, fun _ _ _ _ => trivial⟩
  cases found with
  | none => exact fun _ _ => trivial
  | some snapshot =>
    have hfind : v₁.store.loadProtectionSnapshotByExitId e.orderLinkId = some snapshot :=
      Except.ok.inj hfound
    have hmem : snapshot ∈ v₁.rows := List.mem_of_find?_eq_some hfind
    have hseen : v₁.Seen snapshot := .of_mem hmem
    refine .call_bind fun v₂ hv₂ r₂ ha₂ => ?_
    have hhas : Moves orderIdOf gone v₂ (handleAt r₂ (.hasExecution e.executionId) v₂).2 :=
      moves_reading hgone ha₂.honest rfl rfl
    refine ⟨hhas, fun known _ => ?_, fun _ _ _ _ => trivial⟩
    split
    · exact fun _ _ => trivial
    · refine .lift_bind ?_
      split
      · rename_i updated happly
        refine .call_bind fun v₃ hv₃ r₃ ha₃ => ?_
        have hmoves := ((hv₁.trans hload).trans (hv₂.trans hhas)).trans hv₃
        have hrecord : Moves orderIdOf gone v₃ (handleAt r₃ (.recordExitExecutionAndSnapshot
            snapshot.version e receivedAt payloadHash updated) v₃).2 :=
          moves_recordExit hgone ha₃.honest
            (hseen.evolves ((hload.trans (hv₂.trans hhas)).trans hv₃).evolves)
            (hmoves.evolves.fills he) happly
        refine ⟨hrecord, fun inserted _ => ?_, fun _ _ _ _ => trivial⟩
        split
        · exact fun _ _ => trivial
        · refine .call_bind fun v₄ _ r₄ ha₄ =>
            ⟨moves_reading hgone ha₄.honest rfl rfl, fun restored _ => ?_, fun _ _ _ _ => trivial⟩
          cases restored with
          | none => exact fun _ _ => trivial
          | some q => exact fun _ _ => trivial
      · exact fun _ _ => trivial

/-! Closing a level. -/

/-- What a list of open orders says of a level that is closed from `p`: as long as `p` is the row,
    the only exits of the level in the list are those `p` knows of. -/
def KnownAmong (p : ProtectionSnapshot) (orders : List ExchangeOrder) (v : Venue) : Prop :=
  v.Seen p ∧ ∀ order ∈ orders, p ∈ v.rows → (p.entryOrderLinkId, order.orderLinkId) ∈ v.exits →
    IsExitOf p order.orderLinkId

omit hgone in
theorem KnownAmong.evolves {orders : List ExchangeOrder} {v v' : Venue}
    (h : KnownAmong p orders v) (he : Evolves v v') : KnownAmong p orders v' := by
  refine ⟨h.1.evolves he, fun order horder hp hid => ?_⟩
  have hp' : p ∈ v.rows := KeyedTable.Seen.mem_of_later h.1 he.rows hp
  exact h.2 order horder hp' (he.exitsOf p hp' hp _ hid)

omit hgone in
/-- **An honest list of open orders shows no forgotten exit**, if forgotten exits are ended. -/
theorem KnownAmong.of_listed {r : Response} (hs : SoundVenue orderIdOf gone (v.after r))
    (hgoneEnded : ∀ v id, gone v id → id ∈ v.ended) (ha : Honest orderIdOf r v)
    (hseen : (v.after r).Seen p) {orders : List ExchangeOrder}
    (horders : r.answers.openOrders = .ok orders) : KnownAmong p orders (v.after r) := by
  refine ⟨hseen, fun order horder hp hid => ?_⟩
  rcases hs.current p hp _ hid with hexit | hlost
  · exact hexit
  · have hlisted := ha.listed orders (by rw [horders]; rfl) order horder
    exact absurd (hgoneEnded _ _ hlost) hlisted.2

theorem uphold_cancelExits (p : ProtectionSnapshot) (orders : List ExchangeOrder) (v : Venue) :
    Uphold orderIdOf gone (fun _ _ => True) (cancelExits p orders) v := by
  induction orders generalizing v with
  | nil => exact fun _ _ => trivial
  | cons order orders ih =>
    unfold cancelExits
    split
    · refine .lift_bind ?_
      split
      · refine .bind .refl (.tryCatch .refl (.call_bind fun v₁ _ r ha =>
          ⟨moves_reading hgone ha.honest rfl rfl, fun _ _ => ?_, fun failure _ v₂ _ => ?_⟩))
        · exact fun v₂ _ v₃ _ => ih v₃
        · cases failure with
          | uncertainOrderOutcome operation => exact fun v₃ _ => ih v₃
          | _ => exact fun _ _ _ _ => trivial
      · exact fun _ _ => trivial
    · exact ih v

omit hgone in
theorem isExitId_iff {orderLinkId : String} :
    isExitId p orderLinkId = true ↔ IsExitOf p orderLinkId := by
  unfold isExitId IsExitOf
  rw [Bool.or_eq_true, decide_eq_true_iff, decide_eq_true_iff]

/-- The last look: what it lists of the level's exits, the snapshot knows. -/
theorem uphold_inspectExits (hgoneEnded : ∀ v id, gone v id → id ∈ v.ended)
    (hseen : v.Seen p) (hs : SoundVenue orderIdOf gone v) :
    Uphold orderIdOf gone
      (fun outcome v' => ∀ seen, outcome = .ok seen → KnownAmong p seen.remainingOrders v')
      (inspectExits p) v := by
  have hkeeps : ∀ {v v' : Venue},
      v.Seen p ∧ SoundVenue orderIdOf gone v → Moves orderIdOf gone v v' →
      v'.Seen p ∧ SoundVenue orderIdOf gone v' := fun h hm => ⟨h.1.evolves hm.evolves, hm.sound h.2⟩
  refine .call_bind fun v₁ hv₁ r ha =>
    ⟨moves_reading hgone ha.honest rfl rfl, fun orders _ => ?_,
      fun _ _ _ _ _ h => absurd h (by simp)⟩
  have hread : Moves orderIdOf gone v₁ (handleAt r (.getOpenOrders .linear "ETHUSDT") v₁).2 :=
    moves_reading hgone ha.honest rfl rfl
  refine .bind .refl (((uphold_cancelExits hgone p orders _).keep
    (hkeeps (hkeeps ⟨hseen, hs⟩ hv₁) hread) hkeeps).imp ?_)
  rintro outcome v₂ ⟨-, hkept⟩
  cases outcome with
  | error failure => exact fun _ _ _ h => absurd h (by simp)
  | ok u =>
    refine .call_bind fun v₃ hv₃ r' ha' => ?_
    have hlist : Moves orderIdOf gone v₃
        (handleAt r' (.getOpenOrders .linear "ETHUSDT") v₃).2 :=
      moves_reading hgone ha'.honest rfl rfl
    refine ⟨hlist, fun remaining hremaining => ?_, fun _ _ _ _ _ h => absurd h (by simp)⟩
    have hafter := moves_after hgone ha'.honest
    obtain ⟨hseen₃, hs₃⟩ := hkeeps (hkeeps hkept hv₃) hafter
    have hknown : KnownAmong p remaining (v₃.after r') :=
      .of_listed hs₃ hgoneEnded ha'.honest hseen₃ hremaining
    have hserved : (handleAt r' (.getOpenOrders .linear "ETHUSDT") v₃).2 = v₃.after r' :=
      served_of_exit_none rfl _
    rw [hserved]
    refine .call_bind fun v₄ hv₄ r₄ ha₄ =>
      ⟨moves_reading hgone ha₄.honest rfl rfl, fun positions _ => ?_,
        fun _ _ _ _ _ h => absurd h (by simp)⟩
    have hpositions : Moves orderIdOf gone v₄ (handleAt r₄ (.getPositions .linear "ETHUSDT") v₄).2 :=
      moves_reading hgone ha₄.honest rfl rfl
    refine .call_bind fun v₅ hv₅ r₅ ha₅ =>
      ⟨moves_reading hgone ha₅.honest rfl rfl, fun snapshots _ => ?_,
        fun _ _ _ _ _ h => absurd h (by simp)⟩
    have hload : Moves orderIdOf gone v₅ (handleAt r₅ .loadAllProtectionSnapshots v₅).2 :=
      moves_reading hgone ha₅.honest rfl rfl
    intro v₆ hv₆ seen hok
    obtain rfl := Except.ok.inj hok
    exact hknown.evolves ((((hv₄.trans hpositions).trans hv₅).trans hload).trans hv₆).evolves

/-- What has been seen of a level that was closed: none of its exits is listed. -/
def LeavesNoExit (key : String) :
    Except Failure (Inspection × ProtectionSnapshot) → Venue → Prop
  | .ok (seen, s), v =>
    IsClosed s → ∀ order ∈ seen.remainingOrders, (key, order.orderLinkId) ∉ v.exits
  | .error _, _ => True

theorem uphold_closeOrSuspend {seen : Inspection} (hlive : ¬ IsClosed p)
    (hknown : KnownAmong p seen.remainingOrders v) :
    Uphold orderIdOf gone (fun outcome v' => ∀ s, outcome = .ok s → ∀ v'',
      Moves orderIdOf gone v' v'' → LeavesNoExit p.entryOrderLinkId (.ok (seen, s)) v'')
      (closeOrSuspend p seen) v := by
  unfold closeOrSuspend
  split
  · rename_i hclear
    have hnone : ∀ order ∈ seen.remainingOrders, ¬ IsExitOf p order.orderLinkId := by
      intro order horder hexit
      rw [Inspection.isClear, Bool.and_eq_true, Bool.not_eq_true', List.any_eq_false] at hclear
      exact hclear.1 order horder (isExitId_iff.mpr hexit)
    refine .call_bind fun v₁ hv₁ r ha => ?_
    have hclock : Moves orderIdOf gone v₁ (handleAt r .clock v₁).2 :=
      moves_reading hgone ha.honest rfl rfl
    refine ⟨hclock, fun now _ => .lift_bind ?_, fun _ _ _ _ _ h => absurd h (by simp)⟩
    have hknown₁ := hknown.evolves (hv₁.trans hclock).evolves
    split
    · rename_i closed hconfirm
      obtain ⟨hs, hstop, htp⟩ := succession_confirmExit hlive hconfirm
      refine .call_bind fun v₂ hv₂ r' ha' => ?_
      have hknown₂ := hknown₁.evolves hv₂.evolves
      have hswapped := swapped_transition hgone ha'.honest hknown₂.1 hs hstop htp
      refine ⟨hswapped.moves, fun _ hok => ?_, fun _ _ _ _ _ h => absurd h (by simp)⟩
      obtain ⟨hp, hclosed, hexits⟩ := hswapped.written hok
      intro v₃ hv₃ s hs' v₄ hv₄ hterminal order horder hid
      obtain rfl := Except.ok.inj hs'
      have hlater := (hv₃.trans hv₄).evolves
      -- The closed row stays, and no exit has been persisted for it since.
      have hstays := hlater.closed closed hclosed hterminal
      rw [← hs.entry] at hid
      have hid' := hlater.exitsOf closed hclosed hstays _ hid
      rw [hs.entry] at hid'
      rcases hexits _ hid' with hold | hnew
      · exact hnone order horder (hknown₂.2 order horder hp hold)
      · refine hnone order horder ?_
        unfold IsExitOf at hnew ⊢
        rwa [hstop, htp] at hnew
    · exact fun _ _ _ h => absurd h (by simp)
  · refine uphold_setReconciling hgone hknown.1 hlive fun outcome v' hlive' s hok v'' _ hclosed => ?_
    exact absurd hclosed (hlive' s hok)

theorem uphold_reconcileAndInspect (hgoneEnded : ∀ v id, gone v id → id ∈ v.ended)
    (hs : SoundVenue orderIdOf gone v) (key : String) :
    Uphold orderIdOf gone (LeavesNoExit key) (reconcileAndInspect key) v := by
  refine .call_bind fun v₁ hv₁ r ha => ?_
  have hload : Moves orderIdOf gone v₁ (handleAt r (.loadProtectionSnapshot key) v₁).2 :=
    moves_reading hgone ha.honest rfl rfl
  refine ⟨hload, fun found hfound => ?_, fun _ _ _ _ => trivial⟩
  cases found with
  | none => exact fun _ _ => trivial
  | some p =>
    obtain ⟨hp, rfl⟩ := KeyedTable.find_eq_some.mp
      (show v₁.store.protectionSnapshots.find key = some p from Except.ok.inj hfound)
    have hseen : (handleAt r (.loadProtectionSnapshot p.entryOrderLinkId) v₁).2.Seen p :=
      Venue.Seen.evolves (.of_mem hp) hload.evolves
    refine .lift_bind ?_
    split
    · rename_i hguard
      rw [refuseIf_eq_ok, not_not] at hguard
      have hlive : ¬ IsClosed p := not_isClosed_of_state hguard (by decide) (by decide)
      refine .bind .refl ((uphold_inspectExits hgone hgoneEnded hseen
        (hload.sound (hv₁.sound hs))).imp ?_)
      intro outcome v₂ hknown
      cases outcome with
      | error failure => exact fun _ _ => trivial
      | ok seen =>
        refine .bind .refl ((uphold_closeOrSuspend hgone hlive (hknown seen rfl)).imp ?_)
        intro outcome v₃ hleaves
        cases outcome with
        | error failure => exact fun _ _ => trivial
        | ok s => exact hleaves s rfl
    · exact fun _ _ => trivial

end Tasks

end CreditHedge
