import CreditHedge.Application.ProtectiveExits
import CreditHedge.Domain.StepQuantisation
import CreditHedge.Lib.Calls

/-!
# What the installations persist and send

Each installation computes one price, and from then on every row it writes and every order it sends
carries that price. `PlacingCall` says once what placing an exit can come to call, whatever it is
answered; the installations are that, an intent before it and a confirmation after it.

The trigger of a stop is strictly above the average entry price because it is rounded up, away from
the entry. Where the rate is not positive nothing is called at all.
-/

set_option autoImplicit false

namespace CreditHedge

open Coroutine ProtectiveExitService

/-! ## Placing an exit -/

/-- What placing this exit comes to call. -/
inductive PlacingCall (request : PlaceOrderRequest) (snapshot : ProtectionSnapshot) : Call → Prop
  | clock : PlacingCall request snapshot .clock
  | place : PlacingCall request snapshot (.placeOrder request)
  | look (category : Category) (symbol orderLinkId : String) :
    PlacingCall request snapshot (.getOrderByLinkId category symbol orderLinkId)
  | acknowledge (acknowledgement : OrderRequestAck) :
    PlacingCall request snapshot (.recordAcknowledgement acknowledgement)
  | reconcile {now : Time} {reconciling : ProtectionSnapshot} :
    markProtectionReconciling snapshot now = .ok reconciling →
      PlacingCall request snapshot (.transitionProtectionSnapshot snapshot.version reconciling)

section Placing

variable {request : PlaceOrderRequest} {snapshot : ProtectionSnapshot}

theorem placingCall_awaitVisible (attempts : ℕ) :
    (awaitVisible request attempts).Calls (PlacingCall request snapshot) := by
  induction attempts with
  | zero => exact .throw _
  | succ attempts ih =>
    refine .call_bind (.look _ _ _) fun found => ?_
    cases found with
    | none => exact ih
    | some order => exact .lift_bind fun _ _ => .pure order

theorem placingCall_placeOrDiscover :
    (placeOrDiscover request).Calls (PlacingCall request snapshot) := by
  refine .tryCatch (.call_bind .place fun _ => .pure _) fun failure => ?_
  cases failure with
  | uncertainOrderOutcome operation =>
    refine .call_bind (.look _ _ _) fun found => ?_
    cases found with
    | none => exact .throw _
    | some discovered => exact .call_bind .clock fun _ => .lift_bind fun _ _ => .pure _
  | _ => exact .throw _

theorem placingCall_placeOrReconcile (attempts : ℕ) :
    (placeOrReconcile attempts request snapshot).Calls (PlacingCall request snapshot) := by
  refine .tryCatch (placingCall_placeOrDiscover.bind fun placed => ?_) fun failure => ?_
  · obtain ⟨acknowledgement, discovered⟩ := placed
    refine .call_bind (.acknowledge acknowledgement) fun _ => ?_
    cases discovered with
    | none => exact placingCall_awaitVisible attempts
    | some order => exact .lift_bind fun _ _ => .pure order
  · refine .bind (.call_bind .clock fun now => .lift_bind fun reconciling hreconciling => ?_)
      fun _ => .throw failure
    split
    · exact .pure _
    · exact .call_bind (.reconcile hreconciling) fun _ => .pure _

/-- The confirmation that follows. -/
theorem calls_place_confirm {p : Call → Prop} (attempts : ℕ)
    {confirm : String → Time → Except Failure ProtectionSnapshot}
    (hplacing : ∀ call, PlacingCall request snapshot call → p call)
    (hconfirm : ∀ orderId now confirmed, confirm orderId now = .ok confirmed →
      p (.transitionProtectionSnapshot snapshot.version confirmed)) :
    Calls p (do
      let visible ← placeOrReconcile attempts request snapshot
      let now ← awaitCall .clock
      let confirmed ← liftM (confirm visible.orderId now)
      awaitCall (.transitionProtectionSnapshot snapshot.version confirmed)
      pure confirmed) := by
  refine ((placingCall_placeOrReconcile attempts).imp hplacing).bind fun visible => ?_
  refine .call_bind (hplacing _ .clock) fun now => .lift_bind fun confirmed h => ?_
  exact .call_bind (hconfirm _ _ _ h) fun _ => .pure _

end Placing

/-! ## Stops -/

/-- The stop of this row has this trigger. -/
def ProtectionSnapshot.HasStop (snapshot : ProtectionSnapshot) (average trigger : ℚ) : Prop :=
  snapshot.averageEntryPrice = average ∧ snapshot.stopTriggerPrice = trigger

/-- What the call writes or sends is a stop with this trigger, if it writes or sends anything. -/
def Call.CarriesStop (average trigger : ℚ) : Call → Prop
  | .persistProtectionIntent request snapshot _ =>
    request.triggerPrice = some trigger ∧ snapshot.HasStop average trigger
  | .persistReplacementStopIntent _ request snapshot _ =>
    request.triggerPrice = some trigger ∧ snapshot.HasStop average trigger
  | .transitionProtectionSnapshot _ snapshot => snapshot.HasStop average trigger
  | .placeOrder request => request.triggerPrice = some trigger
  | .clock | .recordAcknowledgement _ | .getOrderByLinkId .. => True
  | _ => False

theorem ProtectionSnapshot.HasStop.reconciling {snapshot reconciling : ProtectionSnapshot}
    {average trigger : ℚ} {now : Time} (h : snapshot.HasStop average trigger)
    (hreconciling : markProtectionReconciling snapshot now = .ok reconciling) :
    reconciling.HasStop average trigger := by
  unfold markProtectionReconciling at hreconciling
  split at hreconciling
  · obtain rfl := Except.ok.inj hreconciling
    exact h
  · rw [create_eq_ok] at hreconciling
    rw [HasStop, hreconciling]
    exact h

theorem ProtectionSnapshot.HasStop.confirmStop {snapshot confirmed : ProtectionSnapshot}
    {average trigger : ℚ} {orderId : String} {now : Time} (h : snapshot.HasStop average trigger)
    (hconfirmed : CreditHedge.confirmStop snapshot orderId now = .ok confirmed) :
    confirmed.HasStop average trigger := by
  rw [CreditHedge.confirmStop, create_eq_ok] at hconfirmed
  rw [HasStop, hconfirmed]
  exact h

theorem carriesStop_of_placing {request : PlaceOrderRequest} {snapshot : ProtectionSnapshot}
    {average trigger : ℚ} (hrequest : request.triggerPrice = some trigger)
    (hsnapshot : snapshot.HasStop average trigger) {call : Call}
    (h : PlacingCall request snapshot call) : call.CarriesStop average trigger := by
  cases h with
  | place => exact hrequest
  | reconcile hreconciling => exact hsnapshot.reconciling hreconciling
  | _ => exact trivial

/-- The trigger `install_stop` and `restore_stop` compute. -/
theorem lt_stopTrigger {tickSize average stopRate : ℚ} (htick : 0 < tickSize)
    (haverage : 0 < average) (hrate : 0 < stopRate) :
    average < quantizeLimitPrice (average * (1 + stopRate)) tickSize .buy .aggressive :=
  calc average = average * 1 := (mul_one average).symm
    _ < average * (1 + stopRate) := mul_lt_mul_of_pos_left (lt_add_of_pos_right 1 hrate) haverage
    _ ≤ _ := le_quantizeLimitPrice htick _ rfl

theorem triggerPrice_of_stopFields {quantity trigger : ℚ} {stopOrderLinkId : String}
    {request : PlaceOrderRequest}
    (h : PlaceOrderRequest.create (stopFields quantity trigger stopOrderLinkId) = .ok request) :
    request.triggerPrice = some trigger := by
  rw [PlaceOrderRequest.create_eq_ok.mp h]
  rfl

theorem hasStop_of_forStopIntent {entry : EntryExecutionSnapshot} {average trigger : ℚ}
    {stopOrderLinkId : String} {now : Time} {snapshot : ProtectionSnapshot}
    (haverage : entry.averageEntryPrice = some average)
    (h : ProtectionSnapshot.forStopIntent entry stopOrderLinkId trigger now = .ok snapshot) :
    snapshot.HasStop average trigger := by
  simp only [ProtectionSnapshot.forStopIntent, haverage, bind_unit_eq_ok,
    ProtectionSnapshot.create_eq_ok] at h
  rw [ProtectionSnapshot.HasStop, h.2.2]
  exact ⟨rfl, rfl⟩

theorem hasStop_of_replaceStopIntent {p snapshot : ProtectionSnapshot} {trigger : ℚ}
    {orderLinkId : String} {now : Time}
    (h : replaceStopIntent p orderLinkId trigger now = .ok snapshot) :
    snapshot.HasStop p.averageEntryPrice trigger := by
  simp only [replaceStopIntent, bind_unit_eq_ok, ProtectionSnapshot.create_eq_ok] at h
  rw [ProtectionSnapshot.HasStop, h.2.2]
  exact ⟨rfl, rfl⟩

section Stops

variable {attempts : ℕ} {instrument : InstrumentSpec} {orderLinkId : String} {stopRate : ℚ}
  {history : List (Answered Failure Call Call.Result)} {call : Call}
  {resume : Except Failure call.Result → Service ProtectionSnapshot}

/-- Every call of `install_stop` after its first, which loads the entry. -/
theorem comes_installStop {entryOrderLinkId : String}
    (h : Comes (installStop attempts entryOrderLinkId instrument orderLinkId stopRate) history
      (.call call resume)) :
    call = .loadEntrySnapshot entryOrderLinkId ∨
      ∃ entry average trigger rest,
        history = ⟨.loadEntrySnapshot entryOrderLinkId, .ok (some entry)⟩ :: rest ∧
        entry.averageEntryPrice = some average ∧ trigger ∈ grid instrument.priceFilter.tickSize ∧
        average < trigger ∧ call.CarriesStop average trigger := by
  have htick := instrument.priceFilter.tickSize_pos
  obtain ⟨_, -, h⟩ := comes_lift_bind h
  obtain ⟨_, hrate, h⟩ := comes_lift_bind h
  rw [refuseIf_eq_ok, not_le] at hrate
  by_cases hload : call = .loadEntrySnapshot entryOrderLinkId
  · exact .inl hload
  obtain ⟨found, rest, hhistory, h⟩ := comes_call_bind (Ne.symm hload) h
  cases found with
  | none => exact absurd h not_comes_done
  | some entry =>
    dsimp only at h
    cases haverage : entry.averageEntryPrice with
    | none =>
      rw [haverage] at h
      exact absurd h not_comes_done
    | some average =>
      rw [haverage] at h
      have hpositive := (entry.averageEntryPrice_pos haverage).1
      refine .inr ⟨entry, average, _, rest, hhistory, haverage, quantizeLimitPrice_mem htick _ _ _,
        lt_stopTrigger htick hpositive hrate, ?_⟩
      refine (Calls.comes ?_ h).1
      refine .lift_bind fun request hrequest => ?_
      refine .call_bind trivial fun now => .lift_bind fun snapshot hsnapshot => ?_
      have htrigger := triggerPrice_of_stopFields hrequest
      have hstop := hasStop_of_forStopIntent haverage hsnapshot
      exact .call_bind ⟨htrigger, hstop⟩ fun _ => calls_place_confirm attempts
        (fun _ => carriesStop_of_placing htrigger hstop)
        fun _ _ _ hconfirmed => hstop.confirmStop hconfirmed

theorem comes_restoreStop {snapshot : ProtectionSnapshot}
    (h : Comes (restoreStop attempts snapshot instrument orderLinkId stopRate) history
      (.call call resume)) :
    ∃ trigger ∈ grid instrument.priceFilter.tickSize,
      snapshot.averageEntryPrice < trigger ∧
        call.CarriesStop snapshot.averageEntryPrice trigger := by
  have htick := instrument.priceFilter.tickSize_pos
  obtain ⟨_, -, h⟩ := comes_lift_bind h
  obtain ⟨_, hrate, h⟩ := comes_lift_bind h
  rw [refuseIf_eq_ok, not_le] at hrate
  refine ⟨_, quantizeLimitPrice_mem htick _ _ _,
    lt_stopTrigger htick snapshot.valid.averageEntryPrice_pos hrate, (Calls.comes ?_ h).1⟩
  refine .lift_bind fun request hrequest => ?_
  refine .call_bind trivial fun now => .lift_bind fun withIntent hintent => ?_
  have htrigger := triggerPrice_of_stopFields hrequest
  have hstop := hasStop_of_replaceStopIntent hintent
  exact .call_bind ⟨htrigger, hstop⟩ fun _ => calls_place_confirm attempts
    (fun _ => carriesStop_of_placing htrigger hstop)
    fun _ _ _ hconfirmed => hstop.confirmStop hconfirmed

end Stops

/-! ## Take-profits -/

/-- What the call writes or sends is a take-profit at this price, if it writes or sends anything. -/
def Call.CarriesTakeProfit (price : ℚ) : Call → Prop
  | .persistTakeProfitIntent _ request snapshot _ =>
    request.price = some price ∧ snapshot.tpPrice = some price
  | .transitionProtectionSnapshot _ snapshot => snapshot.tpPrice = some price
  | .placeOrder request => request.price = some price
  | .clock | .recordAcknowledgement _ | .getOrderByLinkId .. => True
  | _ => False

theorem tpPrice_of_reconciling {snapshot reconciling : ProtectionSnapshot} {now : Time}
    (h : markProtectionReconciling snapshot now = .ok reconciling) :
    reconciling.tpPrice = snapshot.tpPrice := by
  unfold markProtectionReconciling at h
  split at h
  · rw [Except.ok.inj h]
  · rw [ProtectionSnapshot.create_eq_ok] at h
    rw [h]

theorem comes_installTakeProfit {attempts : ℕ} {snapshot : ProtectionSnapshot}
    {instrument : InstrumentSpec} {orderLinkId : String} {desiredPrice : ℚ}
    {pricePolicy : PriceQuantizationPolicy} {history : List (Answered Failure Call Call.Result)}
    {call : Call} {resume : Except Failure call.Result → Service ProtectionSnapshot}
    (h : Comes (installTakeProfit attempts snapshot instrument orderLinkId desiredPrice pricePolicy)
      history (.call call resume)) :
    call.CarriesTakeProfit
      (quantizeLimitPrice desiredPrice instrument.priceFilter.tickSize .buy pricePolicy) := by
  obtain ⟨_, -, h⟩ := comes_lift_bind h
  refine (Calls.comes ?_ h).1
  refine .lift_bind fun request hrequest => ?_
  refine .call_bind trivial fun now => .lift_bind fun withIntent hintent => ?_
  have hprice : request.price = some (quantizeLimitPrice desiredPrice
      instrument.priceFilter.tickSize .buy pricePolicy) := by
    rw [PlaceOrderRequest.create_eq_ok.mp hrequest]
    rfl
  simp only [addTakeProfitIntent, bind_unit_eq_ok, ProtectionSnapshot.create_eq_ok] at hintent
  have htp : withIntent.tpPrice = some (quantizeLimitPrice desiredPrice
      instrument.priceFilter.tickSize .buy pricePolicy) := by
    rw [hintent.2.2]
  refine .call_bind ⟨hprice, htp⟩ fun _ => calls_place_confirm attempts (fun call hcall => ?_) ?_
  · cases hcall with
    | place => exact hprice
    | reconcile hreconciling => exact (tpPrice_of_reconciling hreconciling).trans htp
    | _ => exact trivial
  · intro orderId now confirmed hconfirmed
    simp only [confirmTakeProfit, bind_unit_eq_ok, ProtectionSnapshot.create_eq_ok] at hconfirmed
    show confirmed.tpPrice = _
    rw [hconfirmed.2]
    exact htp

/-! ## Together -/

theorem quantisation_directed {step : ℚ} (hstep : 0 < step) :
    Directed step ∧
    (∀ attempts entryOrderLinkId instrument stopOrderLinkId stopRate history call resume,
      Comes (installStop attempts entryOrderLinkId instrument stopOrderLinkId stopRate) history
          (.call call resume) →
        call = .loadEntrySnapshot entryOrderLinkId ∨
          ∃ entry average trigger rest,
            history = ⟨.loadEntrySnapshot entryOrderLinkId, .ok (some entry)⟩ :: rest ∧
            entry.averageEntryPrice = some average ∧
            trigger ∈ grid instrument.priceFilter.tickSize ∧ average < trigger ∧
            call.CarriesStop average trigger) ∧
    (∀ attempts (snapshot : ProtectionSnapshot) instrument orderLinkId stopRate history call resume,
      Comes (restoreStop attempts snapshot instrument orderLinkId stopRate) history
          (.call call resume) →
        ∃ trigger ∈ grid instrument.priceFilter.tickSize,
          snapshot.averageEntryPrice < trigger ∧
            call.CarriesStop snapshot.averageEntryPrice trigger) ∧
    ∀ attempts snapshot instrument orderLinkId desiredPrice history call resume,
      Comes (installTakeProfit attempts snapshot instrument orderLinkId desiredPrice .passive)
          history (.call call resume) →
        ∃ price ∈ grid instrument.priceFilter.tickSize,
          price ≤ desiredPrice ∧ call.CarriesTakeProfit price := by
  refine ⟨directed hstep, fun _ _ _ _ _ _ _ _ => comes_installStop,
    fun _ _ _ _ _ _ _ _ => comes_restoreStop, ?_⟩
  intro attempts snapshot instrument orderLinkId desiredPrice history call resume h
  have htick := instrument.priceFilter.tickSize_pos
  exact ⟨_, quantizeLimitPrice_mem htick _ _ _, (directed htick).buy_passive desiredPrice,
    comes_installTakeProfit h⟩

/-- To a hundredth. -/
theorem quantisation_directed_hundredth :
    Directed (1 / 100) ∧ floorToStep (-1 / 300) (1 / 100) = -1 / 100 ∧
      ceilToStep (-1 / 300) (1 / 100) = 0 :=
  ⟨(quantisation_directed (by decide +kernel)).1, by decide +kernel, by decide +kernel⟩

end CreditHedge
