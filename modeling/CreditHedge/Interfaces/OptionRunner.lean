import CreditHedge.Application.OptionSpreads

/-!
# One protective long

`interfaces/demo_runner.py`, the part that decides whether to open an option spread. It looks at the
rows alone: one that is open is used, one whose long is filled is completed, and a new spread is
started only if every row there is was "safely rejected", that is, in error with no order id and no
fill on either leg.

An error row without an order id is also what is left of a long whose placement was uncertain and
which a lookup did not show. The exchange may have it all the same, or take it on later; nobody
asks again, because the late reconciliation skips rows without an order id. So the next call opens a
second long (`two_protective_longs`). If the exchange never takes on an order it has denied, there
is one long at most (`one_protective_long`), interruptions included: a row that was left in the
middle is pending and not in error.

Everything that is read from the public endpoints, and the random part of the client ids, is a
parameter of each call (`OptionMarket`).
-/

set_option autoImplicit false

namespace CreditHedge

open OptionSpreadEntryService

namespace OptionRunner

/-- `_option_entry_policy`. -/
def optionEntryPolicy (quantity expectedNetCredit : ℚ) : Except Failure OptionEntryPolicy :=
  build OptionEntryPolicyFields.check OptionEntryPolicy.mk
    { maxLegWaitSeconds := 15
      allowPartialSpread := false
      minimumMatchedQuantity := quantity
      maximumCreditDeviation := max 1 (expectedNetCredit / 2) }

/-- What the quotes and the instruments come to: the limit price of a short and a client id for it,
    and the plan of a new spread. Each of them may be refused. -/
structure OptionMarket where
  shortLimitPrice : OptionSpreadExecutionSnapshot → Except Failure ℚ
  shortOrderLinkId : OptionSpreadExecutionSnapshot → Except Failure String
  plan : Except Failure OptionSpreadEntryPlan

/-- One term of `safely_rejected`. -/
def SafelyRejected (s : OptionSpreadExecutionSnapshot) : Prop :=
  s.state = .error ∧ s.longOrderId = none ∧ s.shortOrderId = none ∧
    s.longFilledQuantity = 0 ∧ s.shortFilledQuantity = 0

instance (s : OptionSpreadExecutionSnapshot) : Decidable (SafelyRejected s) :=
  inferInstanceAs (Decidable (_ ∧ _))

variable (settings : OptionEntrySettings)

/-- The protective long that is there gets its short. -/
def completeProtected (market : OptionMarket) (snapshot : OptionSpreadExecutionSnapshot) :
    OptionTask OptionSpreadExecutionSnapshot := do
  let shortLimitPrice ← market.shortLimitPrice snapshot
  let shortOrderLinkId ← market.shortOrderLinkId snapshot
  let policy ← optionEntryPolicy snapshot.requestedQuantity snapshot.expectedNetCredit
  completeFromProtectiveLong settings snapshot shortLimitPrice shortOrderLinkId policy

/-- A new spread, unless there is a row that was not safely rejected. -/
def openUnlessHeld (market : OptionMarket) (snapshots : List OptionSpreadExecutionSnapshot) :
    OptionTask OptionSpreadExecutionSnapshot := do
  refuseUnless (∀ s ∈ snapshots, SafelyRejected s)
  let plan ← market.plan
  let policy ← optionEntryPolicy plan.quantity plan.expectedNetCredit
  OptionSpreadEntryService.openSpread settings plan policy
where
  refuseUnless (condition : Prop) [Decidable condition] : Except Failure Unit :=
    if condition then .ok ()
    else .error
      (.demoMutationRefused "durable option state exists but is not exactly one OPEN spread")

/-- `_open_or_load_option_spread`. -/
def openOrLoadOptionSpread (market : Except Failure OptionMarket) :
    OptionTask OptionSpreadExecutionSnapshot := do
  let snapshots ← awaitOption .loadAllOptionSpreadSnapshots
  match snapshots.filter fun s => s.state = .open with
  | [snapshot] => pure snapshot
  | _ =>
    match snapshots.filter fun s => s.state = .longProtectionFilled with
    | [] => do
      let market ← market
      openUnlessHeld settings market snapshots
    | [snapshot] => do
      let market ← market
      completeProtected settings market snapshot
    | _ => throw (.demoMutationRefused "multiple unmatched protective option longs exist")

/-- The rows the late reconciliation looks at. -/
def ReconcilesLate (s : OptionSpreadExecutionSnapshot) : Prop :=
  s.state = .error ∧ s.longOrderId ≠ none ∧ s.shortOrderLinkId = none ∧ s.shortOrderId = none ∧
    s.shortFilledQuantity = 0

instance (s : OptionSpreadExecutionSnapshot) : Decidable (ReconcilesLate s) :=
  inferInstanceAs (Decidable (_ ∧ _))

def reconcileLate (snapshot : OptionSpreadExecutionSnapshot) : OptionTask Unit :=
  tryCatch (do
    let policy ← optionEntryPolicy snapshot.requestedQuantity snapshot.expectedNetCredit
    let _ ← reconcileProtectiveLong settings snapshot policy
    pure ()) fun failure =>
    match failure with
    | .optionSpreadNotOpened _ => do
      match ← awaitOption (.loadOptionSpreadSnapshot snapshot.cycleId) with
      | none => pure ()
      | some refreshed => if 0 < refreshed.longFilledQuantity then throw failure else pure ()
    | _ => throw failure

def reconcileEach : List OptionSpreadExecutionSnapshot → OptionTask Unit
  | [] => pure ()
  | snapshot :: snapshots => do
    if ReconcilesLate snapshot then reconcileLate settings snapshot
    reconcileEach snapshots

/-- `_reconcile_late_option_longs`. -/
def reconcileLateOptionLongs : OptionTask Unit := do
  let snapshots ← awaitOption .loadAllOptionSpreadSnapshots
  reconcileEach settings snapshots

/-- The two calls of the runner, the result of the first one dropped. -/
inductive RunnerCall : OptionTask Unit → Prop
  | openOrLoad (market : Except Failure OptionMarket) :
      RunnerCall (do
        let _ ← openOrLoadOptionSpread settings market
        pure ())
  | reconcileLate : RunnerCall (reconcileLateOptionLongs settings)

end OptionRunner

/-! ## What the exchange has denied -/

/-- The option world, and the client ids of which the exchange has said that it has no such order:
    the placement failed in another way than with an uncertain outcome, or a lookup for a long
    without an order id did not find it. -/
structure RunnerWorld where
  options : OptionWorld
  denied : List String

/-- The row of this long has no order id. -/
def OptionWorld.Awaits (w : OptionWorld) (orderLinkId : String) : Prop :=
  ∃ r ∈ w.store.optionSpreads.rows, r.longOrderLinkId = orderLinkId ∧ r.longOrderId = none

instance (w : OptionWorld) (orderLinkId : String) : Decidable (w.Awaits orderLinkId) :=
  inferInstanceAs (Decidable (∃ r ∈ w.store.optionSpreads.rows, _))

/-- The order this answer denies. -/
def OptionAnswers.denies? (a : OptionAnswers) (w : OptionWorld) : OptionCall → Option String
  | .placeOrder request =>
    match a.placed with
    | .ok _ => none
    | .error (.uncertainOrderOutcome _) => none
    | .error _ => some request.orderLinkId
  | .getOrderByLinkId _ _ orderLinkId =>
    match a.found with
    | .ok (some _) => none
    | _ => if w.Awaits orderLinkId then some orderLinkId else none
  | _ => none

namespace RunnerWorld

def serve (a : OptionAnswers) (call : OptionCall) (w : RunnerWorld) :
    Except Failure call.Result × RunnerWorld :=
  ((OptionWorld.serve a call w.options).1,
    { options := (OptionWorld.serve a call w.options).2
      denied := (a.denies? w.options call).toList ++ w.denied })

end RunnerWorld

/-- An honest exchange, as the runner meets it. -/
def HonestThere (a : OptionAnswers) (call : OptionCall) (w : RunnerWorld) : Prop :=
  HonestOptions a call w.options

/-- An honest exchange that has no long it has denied, and takes none on later. -/
structure Forthright (a : OptionAnswers) (call : OptionCall) (w : RunnerWorld) : Prop where
  honest : HonestOptions a call w.options
  keepsWord : ∀ o ∈ a.orders, o.request.side = .buy →
    o.orderLinkId ∉ (a.denies? w.options call).toList ++ w.denied

instance (a : OptionAnswers) (call : OptionCall) (w : RunnerWorld) :
    Decidable (HonestThere a call w) :=
  inferInstanceAs (Decidable (HonestOptions a call w.options))

instance (a : OptionAnswers) (call : OptionCall) (w : RunnerWorld) :
    Decidable (Forthright a call w) :=
  decidable_of_iff (HonestOptions a call w.options ∧ ∀ o ∈ a.orders, o.request.side = .buy →
      o.orderLinkId ∉ (a.denies? w.options call).toList ++ w.denied)
    ⟨fun ⟨h₁, h₂⟩ => ⟨h₁, h₂⟩, fun h => ⟨h.1, h.2⟩⟩

/-- A new spread is started only when the exchange has no protective long, and it has one at
    most. -/
structure OneProtectiveLong (w : OptionWorld) : Prop where
  started : ∀ p ∈ w.placed, p.request.side = .buy → ∀ o ∈ p.orders, o.request.side ≠ .buy
  one : (w.orders.filter fun o => o.request.side = .buy).length ≤ 1

/-! ## What is settled -/

open Coroutine OneLevelLifecycleService OptionRunner

/-- A snapshot without an order id is pending, or its long was denied. -/
def Told (w : RunnerWorld) (s : OptionSpreadExecutionSnapshot) : Prop :=
  s.longOrderId = none → s.state = .longProtectionPending ∨ s.longOrderLinkId ∈ w.denied

/-- The long of the snapshot has an order id, or was denied. -/
def Answered (w : RunnerWorld) (s : OptionSpreadExecutionSnapshot) : Prop :=
  s ∈ w.options.persisted ∧ (s.longOrderId ≠ none ∨ s.longOrderLinkId ∈ w.denied)

/-- Every row but this one has been denied. -/
def OnlyOpen (w : RunnerWorld) (orderLinkId : String) : Prop :=
  ∀ r ∈ w.options.store.optionSpreads.rows, r.longOrderLinkId ≠ orderLinkId →
    r.longOrderLinkId ∈ w.denied

structure SettledLongs (w : RunnerWorld) : Prop where
  told : ∀ s ∈ w.options.persisted, Told w s
  kept : ∀ o ∈ w.options.orders, o.request.side = .buy → o.orderLinkId ∉ w.denied
  bought : ∀ request ∈ w.options.requests, request.side = .buy →
    ∃ r ∈ w.options.store.optionSpreads.rows, r.longOrderLinkId = request.orderLinkId
  one : ∀ r ∈ w.options.store.optionSpreads.rows, r.longOrderLinkId ∉ w.denied →
    OnlyOpen w r.longOrderLinkId
  started : ∀ p ∈ w.options.placed, p.request.side = .buy → ∀ o ∈ p.orders, o.request.side ≠ .buy

section Settling

variable {w w' : RunnerWorld} {a : OptionAnswers} {s old : OptionSpreadExecutionSnapshot}
  {α β : Type}

/-- What the runner sends and writes, beyond what any task of the service does: a long only if there
    is no other one that was not denied, and no snapshot that leaves a long unanswered behind. -/
def Careful (w : RunnerWorld) : OptionCall → Prop
  | .placeOrder request => request.side = .buy → OnlyOpen w request.orderLinkId ∧
      ∃ r ∈ w.options.store.optionSpreads.rows, r.longOrderLinkId = request.orderLinkId
  | .persistOptionLongIntent _ s _ => Told w s ∧ OnlyOpen w s.longOrderLinkId
  | .persistOptionShortIntent _ _ s _ => Told w s
  | .transitionOptionSpreadSnapshot _ s => Told w s
  | .recordOptionAcknowledgementAndSnapshot _ _ s => Told w s
  | .recordOptionExecutionAndSnapshot _ _ _ _ s => Told w s
  | _ => True

theorem Told.mono (h : Told w s) (hdenied : w.denied ⊆ w'.denied) : Told w' s :=
  fun hnone => (h hnone).imp id fun hmem => hdenied hmem

/-- A compare-and-swap brings no new cycle. -/
theorem cycles_of_write {w : OptionWorld} {s r' : OptionSpreadExecutionSnapshot}
    {result : Except Failure OptionSpreadStore} {previous : ℕ}
    (hswap : ∀ store', result = .ok store' →
      w.store.optionSpreads.swap (fun s => s.version) previous s = some store'.optionSpreads)
    (hr' : r' ∈ (w.write s result).2.store.optionSpreads.rows) :
    ∃ r ∈ w.store.optionSpreads.rows, r.cycleId = r'.cycleId := by
  cases result with
  | error failure => exact ⟨r', hr', rfl⟩
  | ok store' =>
    have hswap := hswap store' rfl
    obtain ⟨⟨r, hr, -⟩, -⟩ := KeyedTable.swap_eq_some.mp hswap
    have hkeys := KeyedTable.map_swap (f := fun s => s.cycleId) hswap hr
      (KeyedTable.find_eq_some.mp hr).2.symm
    have hmem := List.mem_map_of_mem (f := fun s : OptionSpreadExecutionSnapshot => s.cycleId) hr'
    rw [show (w.write s (.ok store')).2.store = store' from rfl, hkeys] at hmem
    exact List.mem_map.mp hmem

/-- Only the intent of a long brings a new cycle. -/
theorem cycles_of_serve {w : OptionWorld} {call : OptionCall} {r' : OptionSpreadExecutionSnapshot}
    (hr' : r' ∈ (OptionWorld.serve a call w).2.store.optionSpreads.rows) :
    (∃ r ∈ w.store.optionSpreads.rows, r.cycleId = r'.cycleId) ∨
      ∃ request persistedAt, call = .persistOptionLongIntent request r' persistedAt := by
  cases call with
  | persistOptionLongIntent request s persistedAt =>
    change r' ∈ (OptionWorld.write _ s (w.store.persistOptionLongIntent request s
      persistedAt)).2.store.optionSpreads.rows at hr'
    cases hresult : w.store.persistOptionLongIntent request s persistedAt with
    | error failure =>
      rw [hresult] at hr'
      exact .inl ⟨r', hr', rfl⟩
    | ok store' =>
      rw [hresult] at hr'
      obtain ⟨-, hinsert⟩ := OptionSpreadStore.persistOptionLongIntent_eq_ok hresult
      change r' ∈ store'.optionSpreads.rows at hr'
      rw [(KeyedTable.insert_eq_some.mp hinsert).2, List.mem_append, List.mem_singleton] at hr'
      rcases hr' with hr' | rfl
      · exact .inl ⟨r', hr', rfl⟩
      · exact .inr ⟨request, persistedAt, rfl⟩
  | persistOptionShortIntent version request s persistedAt =>
    exact .inl (cycles_of_write (w := (w.send _).pass a.orders)
      (fun _ h => (OptionSpreadStore.persistOptionShortIntent_eq_ok h).2) hr')
  | transitionOptionSpreadSnapshot version s =>
    exact .inl (cycles_of_write (w := (w.send _).pass a.orders)
      (fun _ h => (OptionSpreadStore.transitionOptionSpreadSnapshot_eq_ok h).2) hr')
  | recordOptionAcknowledgementAndSnapshot version acknowledgement s =>
    exact .inl (cycles_of_write (w := (w.send _).pass a.orders)
      (fun _ h => (OptionSpreadStore.recordOptionAcknowledgementAndSnapshot_eq_ok h).2) hr')
  | recordOptionExecutionAndSnapshot version e receivedAt payloadHash s =>
    change r' ∈ (OptionWorld.writeIf _ s (w.store.recordOptionExecutionAndSnapshot version e
      receivedAt payloadHash s)).2.store.optionSpreads.rows at hr'
    cases hresult : w.store.recordOptionExecutionAndSnapshot version e receivedAt payloadHash s with
    | error failure =>
      rw [hresult] at hr'
      exact .inl ⟨r', hr', rfl⟩
    | ok recorded =>
      obtain ⟨inserted, store'⟩ := recorded
      rw [hresult] at hr'
      rcases OptionSpreadStore.recordOptionExecutionAndSnapshot_eq_ok hresult with
        ⟨rfl, -, rfl⟩ | ⟨rfl, -, hswap⟩
      · exact .inl ⟨r', hr', rfl⟩
      · have hswaps : ∀ store'', (.ok store' : Except Failure OptionSpreadStore) = .ok store'' →
            w.store.optionSpreads.swap (fun s => s.version) version s =
              some store''.optionSpreads := by
          intro store'' h
          rw [← Except.ok.inj h]
          exact hswap
        exact .inl (cycles_of_write hswaps hr')
  | _ => exact .inl ⟨r', hr', rfl⟩

/-- The store's part of a call leaves the exchange alone. -/
theorem exchange_of_serve (a : OptionAnswers) (call : OptionCall) (w : OptionWorld) :
    (OptionWorld.serve a call w).2.orders = a.orders ∧
      (OptionWorld.serve a call w).2.placed = (w.send call).placed := by
  have hwrite : ∀ (w₁ : OptionWorld) (s' : OptionSpreadExecutionSnapshot)
      (result : Except Failure OptionSpreadStore),
      (w₁.write s' result).2.orders = w₁.orders ∧ (w₁.write s' result).2.placed = w₁.placed := by
    intro w₁ s' result
    cases result <;> exact ⟨rfl, rfl⟩
  cases call with
  | recordOptionExecutionAndSnapshot version e receivedAt payloadHash s' =>
    change (OptionWorld.writeIf _ s' (w.store.recordOptionExecutionAndSnapshot version e
      receivedAt payloadHash s')).2.orders = _ ∧ (OptionWorld.writeIf _ s'
      (w.store.recordOptionExecutionAndSnapshot version e receivedAt payloadHash s')).2.placed = _
    rcases w.store.recordOptionExecutionAndSnapshot version e receivedAt payloadHash s' with
      failure | ⟨_ | _, store'⟩ <;> exact ⟨rfl, rfl⟩
  | persistOptionLongIntent request s' persistedAt => exact hwrite _ _ _
  | persistOptionShortIntent version request s' persistedAt => exact hwrite _ _ _
  | transitionOptionSpreadSnapshot version s' => exact hwrite _ _ _
  | recordOptionAcknowledgementAndSnapshot version acknowledgement s' => exact hwrite _ _ _
  | _ => exact ⟨rfl, rfl⟩

/-- The snapshots persisted after a call. -/
theorem persisted_of_serve {w : OptionWorld} {call : OptionCall}
    (hs : s ∈ (OptionWorld.serve a call w).2.persisted) :
    s ∈ w.persisted ∨ ∀ w' : RunnerWorld, Careful w' call → Told w' s := by
  have hwrite : ∀ {w₁ : OptionWorld} {s' : OptionSpreadExecutionSnapshot}
      {result : Except Failure OptionSpreadStore}, s ∈ (w₁.write s' result).2.persisted →
      s = s' ∨ s ∈ w₁.persisted := by
    intro w₁ s' result h
    cases result with
    | ok store' => exact List.mem_cons.mp h
    | error failure => exact .inr h
  cases call with
  | persistOptionLongIntent request s' persistedAt =>
    rcases hwrite hs with rfl | hs
    · exact .inr fun w' h => h.1
    · exact .inl hs
  | persistOptionShortIntent version request s' persistedAt =>
    rcases hwrite hs with rfl | hs
    · exact .inr fun w' h => h
    · exact .inl hs
  | transitionOptionSpreadSnapshot version s' =>
    rcases hwrite hs with rfl | hs
    · exact .inr fun w' h => h
    · exact .inl hs
  | recordOptionAcknowledgementAndSnapshot version acknowledgement s' =>
    rcases hwrite hs with rfl | hs
    · exact .inr fun w' h => h
    · exact .inl hs
  | recordOptionExecutionAndSnapshot version e receivedAt payloadHash s' =>
    change s ∈ (OptionWorld.writeIf _ s' (w.store.recordOptionExecutionAndSnapshot version e
      receivedAt payloadHash s')).2.persisted at hs
    rcases hresult : w.store.recordOptionExecutionAndSnapshot version e receivedAt payloadHash s'
      with failure | ⟨_ | _, store'⟩
    · rw [hresult] at hs
      exact .inl hs
    · rw [hresult] at hs
      exact .inl hs
    · rw [hresult] at hs
      rcases List.mem_cons.mp hs with rfl | hs
      · exact .inr fun w' h => h
      · exact .inl hs
  | _ => exact .inl hs

theorem settled_serve {call : OptionCall} (h : SettledLongs w) (hsound : SoundSpreads w.options)
    (hsound' : SoundSpreads (RunnerWorld.serve a call w).2.options) (ha : Forthright a call w)
    (hcareful : Careful w call) : SettledLongs (RunnerWorld.serve a call w).2 := by
  have honward : Onward w.options (RunnerWorld.serve a call w).2.options := onward_serve ha.honest
  have hdenied : w.denied ⊆ (RunnerWorld.serve a call w).2.denied :=
    fun _ hid => List.mem_append_right _ hid
  -- A row goes on as a row of its cycle, and a row of now is one of before or the new one.
  have hgoesOn : ∀ r ∈ w.options.store.optionSpreads.rows,
      ∃ r' ∈ (RunnerWorld.serve a call w).2.options.store.optionSpreads.rows, Becomes r r' :=
    fun r hr => hsound'.becomes r (honward.persisted (hsound.rows r hr))
  have hfrom : ∀ r' ∈ (RunnerWorld.serve a call w).2.options.store.optionSpreads.rows,
      (∃ r ∈ w.options.store.optionSpreads.rows, r.longOrderLinkId = r'.longOrderLinkId) ∨
        ∃ request persistedAt, call = .persistOptionLongIntent request r' persistedAt := by
    intro r' hr'
    refine (cycles_of_serve hr').imp (fun ⟨r, hr, hcycle⟩ => ⟨r, hr, ?_⟩) id
    obtain ⟨r'', hr'', hbecomes⟩ := hgoesOn r hr
    rw [KeyedTable.eq_of_key hr' hr'' (hcycle.symm.trans hbecomes.cycleId.symm)]
    exact hbecomes.longOrderLinkId.symm
  have honly : ∀ {id}, OnlyOpen w id →
      (∀ request s persistedAt, call = .persistOptionLongIntent request s persistedAt →
        s.longOrderLinkId = id) → OnlyOpen (RunnerWorld.serve a call w).2 id := by
    intro id hid hnew r' hr' hne
    rcases hfrom r' hr' with ⟨r, hr, hlink⟩ | ⟨request, persistedAt, rfl⟩
    · rw [← hlink] at hne ⊢
      exact hdenied (hid r hr hne)
    · exact absurd (hnew _ _ _ rfl) hne
  obtain ⟨horders, hplaced⟩ := exchange_of_serve a call w.options
  have hrequests : (RunnerWorld.serve a call w).2.options.requests =
      call.sends?.toList ++ w.options.requests := by
    unfold OptionWorld.requests
    rw [show (RunnerWorld.serve a call w).2.options.placed = _ from hplaced, OptionWorld.send]
    cases call.sends? <;> rfl
  have hcarefully : ∀ request ∈ call.sends?, request.side = .buy →
      OnlyOpen w request.orderLinkId ∧ ∃ r ∈ w.options.store.optionSpreads.rows,
        r.longOrderLinkId = request.orderLinkId := by
    intro request hrequest
    cases call with
    | placeOrder request' =>
      obtain rfl := Option.some.inj hrequest
      exact hcareful
    | _ => exact absurd hrequest (by simp [OptionCall.sends?])
  refine ⟨fun s hs => ?_, fun o ho => ha.keepsWord o (horders ▸ ho), fun request hr hside => ?_,
    fun r' hr' hnot => ?_, fun p hp hside o ho hbuy => ?_⟩
  · rcases persisted_of_serve hs with hs | hs
    · exact (h.told s hs).mono hdenied
    · exact (hs w hcareful).mono hdenied
  · have hrow : ∃ r ∈ w.options.store.optionSpreads.rows,
        r.longOrderLinkId = request.orderLinkId := by
      rw [hrequests, List.mem_append, Option.mem_toList] at hr
      rcases hr with hr | hr
      · exact (hcarefully request hr hside).2
      · exact h.bought request hr hside
    obtain ⟨r, hr, hlink⟩ := hrow
    obtain ⟨r', hr', hbecomes⟩ := hgoesOn r hr
    exact ⟨r', hr', hbecomes.longOrderLinkId.trans hlink⟩
  · rcases hfrom r' hr' with ⟨r, hr, hlink⟩ | ⟨request, persistedAt, rfl⟩
    · rw [← hlink] at hnot ⊢
      have hopen := h.one r hr fun hmem => hnot (hdenied hmem)
      refine honly hopen fun request s persistedAt hcall => ?_
      -- A new spread finds every row denied.
      subst hcall
      by_contra hne
      exact hnot (hdenied (hcareful.2 r hr (Ne.symm hne)))
    · refine honly hcareful.2 fun _ _ _ hcall => ?_
      injection hcall with _ hs
      rw [hs]
  · rw [show (RunnerWorld.serve a call w).2.options.placed = _ from hplaced, OptionWorld.send,
      List.mem_append, List.mem_map] at hp
    rcases hp with ⟨request, hrequest, rfl⟩ | hp
    · -- An order of the exchange is a row's long, and so the one that is sent just now.
      rw [Option.mem_toList] at hrequest
      have hsent := hsound.sent o ho
      obtain ⟨r, hr, hlink⟩ := h.bought o.request hsent hbuy
      have hnot : r.longOrderLinkId ∉ w.denied := by
        rw [hlink]
        exact h.kept o ho hbuy
      have hsame : o.request.orderLinkId = request.orderLinkId := by
        by_contra hne
        rw [← hlink] at hne
        exact hnot ((hcarefully request hrequest hside).1 r hr hne)
      have honce := hsound'.sentOnce
      rw [hrequests, Option.mem_def.mp hrequest] at honce
      have hfresh := (List.nodup_cons.mp honce).1
      exact hfresh (List.mem_map.mpr ⟨o.request, hsent, hsame⟩)
    · exact h.started p hp hside o ho hbuy

/-! ## The tasks of the service, once more -/

/-- What is settled stays so at every call of the task, on sound books. -/
abbrev SettlesLongs (post : Except Failure α → RunnerWorld → Prop) (t : OptionTask α)
    (w : RunnerWorld) : Prop :=
  Secures RunnerWorld.serve
    (fun a call w => Forthright a call w ∧ SoundSpreads w.options ∧
      SoundSpreads (RunnerWorld.serve a call w).2.options) SettledLongs post t w

/-- What is asked of a part whose exceptions mark the row as failed. -/
def OrAnswered (s : OptionSpreadExecutionSnapshot) (post : α → RunnerWorld → Prop) :
    Except Failure α → RunnerWorld → Prop
  | .ok v, w => post v w
  | .error _, w => Answered w s

theorem answered_serve {call : OptionCall} (ha : Forthright a call w) (h : Answered w s) :
    Answered (RunnerWorld.serve a call w).2 s :=
  ⟨(onward_serve ha.honest).persisted h.1, h.2.imp id fun hid => List.mem_append_right _ hid⟩

/-- A careful call, and what follows it. -/
theorem settles_call {post : α → RunnerWorld → Prop} {call : OptionCall}
    {f : call.Result → OptionTask α}
    (hcareful : SettledLongs w → SoundSpreads w.options → Careful w call)
    (hf : ∀ a v, Forthright a call w → SoundSpreads w.options →
      (RunnerWorld.serve a call w).1 = .ok v →
      SettlesLongs (IfReturned post) (f v) (RunnerWorld.serve a call w).2) :
    SettlesLongs (IfReturned post) (awaitOption call >>= f) w := by
  refine .call_bind fun hsettled a ha => ?_
  exact ⟨settled_serve hsettled ha.2.1 ha.2.2 ha.1 (hcareful hsettled ha.2.1),
    fun v hv => hf a v ha.1 ha.2.1 hv, fun _ _ => trivial⟩

/-- A careful call that comes last. -/
theorem settles_last {call : OptionCall} {post : Except Failure call.Result → RunnerWorld → Prop}
    (hcareful : SettledLongs w → SoundSpreads w.options → Careful w call)
    (hpost : SettledLongs w → ∀ a, Forthright a call w → SoundSpreads w.options →
      post (RunnerWorld.serve a call w).1 (RunnerWorld.serve a call w).2) :
    SettlesLongs post (awaitOption call) w := by
  refine .perform fun hsettled a ha => ?_
  exact ⟨settled_serve hsettled ha.2.1 ha.2.2 ha.1 (hcareful hsettled ha.2.1),
    hpost hsettled a ha.1 ha.2.1⟩

theorem settles_lift {post : α → RunnerWorld → Prop} {x : Except Failure β}
    {f : β → OptionTask α} (hf : ∀ v, x = .ok v → SettlesLongs (IfReturned post) (f v) w) :
    SettlesLongs (IfReturned post) ((liftM x : OptionTask β) >>= f) w :=
  .lift_bind hf fun _ _ => trivial

theorem settles_bind {post' : β → RunnerWorld → Prop} {post : α → RunnerWorld → Prop}
    {t : OptionTask β} {f : β → OptionTask α} (h : SettlesLongs (IfReturned post') t w)
    (hf : ∀ v w', SettledLongs w' → post' v w' → SettlesLongs (IfReturned post) (f v) w') :
    SettlesLongs (IfReturned post) (t >>= f) w := by
  refine .bind (h.imp fun outcome w' hsettled hpost => ?_)
  cases outcome with
  | ok v => exact hf v w' hsettled hpost
  | error failure => exact trivial

theorem settles_throw {post : α → RunnerWorld → Prop} (failure : Failure) :
    SettlesLongs (IfReturned post) (throw failure : OptionTask α) w :=
  fun _ => trivial

/-- The row of an answered snapshot's cycle is answered. -/
theorem settles_requiredSnapshot (hs : Answered w s) :
    SettlesLongs (IfReturned fun current w' => Answered w' current) (requiredSnapshot s.cycleId)
      w := by
  refine settles_call (fun _ _ => trivial) fun a found ha hsound hfound => ?_
  cases found with
  | none => exact settles_throw _
  | some current =>
    obtain ⟨hmem, hcycle⟩ := KeyedTable.find_eq_some.mp (Except.ok.inj hfound)
    obtain ⟨r, hr, hbecomes⟩ := hsound.becomes s hs.1
    obtain rfl : r = current := KeyedTable.eq_of_key hr hmem (hbecomes.cycleId.trans hcycle.symm)
    have hanswered : Answered w r := by
      refine ⟨hsound.rows r hr, hs.2.imp hbecomes.longOrderId fun hid => ?_⟩
      rw [hbecomes.longOrderLinkId]
      exact hid
    exact fun _ => answered_serve ha hanswered

/-- What becomes of an answered snapshot when it is persisted. -/
theorem told_of_same (h : Answered w old) (hid : s.longOrderId = old.longOrderId)
    (hlink : s.longOrderLinkId = old.longOrderLinkId) : Told w s := by
  intro hnone
  rw [hid] at hnone
  rw [hlink]
  exact .inr (h.2.resolve_left fun hsome => hsome hnone)

theorem answered_of_told (h : Told w s) (hmem : s ∈ w.options.persisted)
    (hstate : s.state ≠ .longProtectionPending) : Answered w s := by
  refine ⟨hmem, ?_⟩
  by_cases hnone : s.longOrderId = none
  · exact .inr ((h hnone).resolve_left hstate)
  · exact .inl hnone

theorem settles_markError (hs : Answered w s) :
    SettlesLongs (IfReturned fun _ _ => True) (markError s) w := by
  refine settles_bind (settles_requiredSnapshot hs) fun current w₁ _ hcurrent => ?_
  refine settles_call (fun _ _ => trivial) fun a now ha _ _ => ?_
  have hcurrent₁ := answered_serve ha hcurrent
  refine settles_lift fun failed hfailed => ?_
  split
  · exact fun _ => trivial
  · rename_i hmoved
    obtain ⟨-, hsame | ⟨-, hrevises, horders⟩⟩ := markOptionExecutionError_eq_ok hfailed
    · exact absurd hsame.2 hmoved
    · refine settles_last (fun _ _ =>
        told_of_same hcurrent₁ horders.longOrderId hrevises.longOrderLinkId) fun _ a' _ _ => ?_
      generalize (RunnerWorld.serve a' _ _).1 = outcome
      cases outcome <;> exact trivial

theorem settles_orNotOpened {settings : OptionEntrySettings} {post : α → RunnerWorld → Prop}
    {t : OptionTask α} (h : SettlesLongs (OrAnswered s post) t w) :
    SettlesLongs (IfReturned post) (orNotOpened settings s t) w := by
  refine .tryCatch (h.imp fun outcome w' _ hpost => ?_)
  cases outcome with
  | ok v => exact hpost
  | error failure =>
    exact settles_bind (settles_markError hpost) fun _ _ _ _ => settles_throw _

/-- A snapshot that is answered stays so, whatever the task raises. -/
theorem orAnswered_of_keep {post : α → RunnerWorld → Prop} {t : OptionTask α}
    (hs : Answered w s) (h : SettlesLongs (IfReturned post) t w) :
    SettlesLongs (OrAnswered s post) t w := by
  refine (h.keep hs fun ha hs => answered_serve ha.1 hs).imp fun outcome w' _ hpost => ?_
  cases outcome with
  | ok v => exact hpost.1
  | error failure => exact hpost.2

theorem settles_recordExecutions {settings : OptionEntrySettings} (es : List ExecutionUpdate)
    (hs : Answered w s) : SettlesLongs (IfReturned fun s' w' => Answered w' s')
      (recordExecutions settings es s) w := by
  induction es generalizing s w with
  | nil => exact fun _ => hs
  | cons e es ih =>
    refine settles_call (fun _ _ => trivial) fun a recorded ha _ _ => ?_
    have hs₁ := answered_serve ha hs
    cases recorded with
    | true => exact ih hs₁
    | false =>
    refine settles_call (fun _ _ => trivial) fun a₁ now ha₁ _ _ => ?_
    have hs₂ := answered_serve ha₁ hs₁
    refine settles_lift fun updated hupdated => ?_
    refine settles_call (fun _ _ => trivial) fun a₂ receivedAt ha₂ _ _ => ?_
    have hs₃ := answered_serve ha₂ hs₂
    obtain ⟨hlink, hid⟩ : updated.longOrderLinkId = s.longOrderLinkId ∧
        (updated.longOrderId = s.longOrderId ∨ updated.longOrderId ≠ none) := by
      obtain ⟨-, -, ⟨-, hrevises, hid, -⟩ | ⟨-, -, hrevises, -, hid⟩⟩ :=
        applyOptionExecution_eq_ok hupdated
      · exact ⟨hrevises.longOrderLinkId, .inr (by rw [hid]; simp)⟩
      · exact ⟨hrevises.longOrderLinkId, .inl hid⟩
    have hanswered : ∀ {w' : RunnerWorld}, Answered w' s → updated ∈ w'.options.persisted →
        Answered w' updated := by
      intro w' hw' hmem
      refine ⟨hmem, ?_⟩
      rcases hid with hid | hid
      · rw [hid, hlink]
        exact hw'.2
      · exact .inl hid
    refine settles_call (fun _ _ => ?_) fun a₃ inserted ha₃ _ hinserted => ?_
    · rcases hid with hid | hid
      · exact told_of_same hs₃ hid hlink
      · exact fun hnone => absurd hnone hid
    have hs₄ := answered_serve ha₃ hs₃
    cases inserted with
    | true => exact ih (hanswered hs₄ ((writeIf_answered hinserted).2 rfl))
    | false => exact settles_bind (settles_requiredSnapshot hs₄) fun _ _ _ hcurrent => ih hcurrent

theorem settles_finalizeLeg {request : PlaceOrderRequest} {policy : OptionEntryPolicy}
    (hs : Answered w s) : SettlesLongs (IfReturned fun s' w' => Answered w' s')
      (finalizeLeg request policy s) w := by
  refine settles_call (fun _ _ => trivial) fun a now ha _ _ => ?_
  have hs₁ := answered_serve ha hs
  refine settles_lift fun finalized hfinalized => ?_
  obtain ⟨hlink, hid⟩ : finalized.longOrderLinkId = s.longOrderLinkId ∧
      finalized.longOrderId = s.longOrderId := by
    unfold finalizedLeg at hfinalized
    split at hfinalized
    · obtain ⟨hrevises, hsame, -⟩ := finalizeProtectiveLong_eq_ok hfinalized
      exact ⟨hrevises.longOrderLinkId, hsame.longOrderId⟩
    · obtain ⟨hrevises, hsame, -⟩ := finalizeShortPremium_eq_ok hfinalized
      exact ⟨hrevises.longOrderLinkId, hsame.longOrderId⟩
  refine settles_call (fun _ _ => told_of_same hs₁ hid hlink) fun a₁ _ ha₁ _ hok => ?_
  have hs₂ := answered_serve ha₁ hs₁
  refine fun _ => ⟨(persisted_of_write hok).1, ?_⟩
  rw [hid, hlink]
  exact hs₂.2

theorem settles_awaitLeg {settings : OptionEntrySettings} {request : PlaceOrderRequest}
    {policy : OptionEntryPolicy} (attempts : ℕ) (hs : Answered w s) :
    SettlesLongs (IfReturned fun s' w' => Answered w' s')
      (awaitLeg settings request policy attempts s) w := by
  induction attempts generalizing s w with
  | zero => exact settles_throw _
  | succ attempts ih =>
    refine settles_call (fun _ _ => trivial) fun a es ha _ _ => ?_
    refine settles_bind (settles_recordExecutions _ (answered_serve ha hs)) fun s₁ w₁ _ hs₁ => ?_
    refine settles_call (fun _ _ => trivial) fun a₁ order ha₁ _ _ => ?_
    have hs₂ := answered_serve ha₁ hs₁
    refine settles_lift fun settled _ => ?_
    cases settled with
    | true => exact settles_finalizeLeg hs₂
    | false => exact ih hs₂

theorem settles_openLeg {settings : OptionEntrySettings} {request : PlaceOrderRequest}
    {policy : OptionEntryPolicy}
    (h : SettlesLongs (OrAnswered s fun s' w' => Answered w' s') (submit s request) w) :
    SettlesLongs (IfReturned fun s' w' => Answered w' s') (openLeg settings policy s request)
      w := by
  refine settles_bind (settles_orNotOpened h) fun s₁ w₁ _ hs₁ => ?_
  exact settles_orNotOpened (orAnswered_of_keep hs₁ (settles_awaitLeg _ hs₁))

/-! ## Submissions -/

/-- The short is sent on an answered long. -/
theorem settles_submit_short {request : PlaceOrderRequest} (hs : Answered w s)
    (hside : request.side = .sell) :
    SettlesLongs (OrAnswered s fun s' w' => Answered w' s') (submit s request) w := by
  refine orAnswered_of_keep hs ?_
  have hplace : SettlesLongs (IfReturned fun _ w' => Answered w' s) (placeOption request) w := by
    refine .tryCatch (settles_last (fun _ _ hbuy => absurd (hside.symm.trans hbuy) (by simp))
      fun _ a ha _ => ?_)
    have hs₁ := answered_serve ha hs
    generalize (RunnerWorld.serve a _ _).1 = outcome
    cases outcome with
    | ok acknowledgement => exact hs₁
    | error failure =>
      cases failure with
      | uncertainOrderOutcome operation =>
        refine settles_call (fun _ _ => trivial) fun a₁ found ha₁ _ _ => ?_
        have hs₂ := answered_serve ha₁ hs₁
        cases found with
        | none => exact settles_throw _
        | some discovered =>
          refine settles_call (fun _ _ => trivial) fun a₂ now ha₂ _ _ => ?_
          have hs₃ := answered_serve ha₂ hs₂
          intro _
          generalize OrderRequestAck.create .place discovered.orderId discovered.orderLinkId now =
            created
          cases created with
          | ok acknowledgement => exact hs₃
          | error failure => exact trivial
      | _ => exact settles_throw _
  refine settles_bind hplace fun acknowledgement w₁ _ hs₁ => ?_
  refine settles_call (fun _ _ => trivial) fun a now ha _ _ => ?_
  have hs₂ := answered_serve ha hs₁
  refine settles_lift fun acknowledged hacknowledged => ?_
  obtain ⟨hrevises, -, -, hleg⟩ := acknowledgeOptionOrder_eq_ok hacknowledged
  have hid : acknowledged.longOrderId ≠ none ∨ acknowledged.longOrderId = s.longOrderId := by
    rcases hleg with ⟨-, hid, -⟩ | ⟨-, -, hid⟩
    · exact .inl (by rw [hid]; simp)
    · exact .inr hid
  refine settles_call (fun _ _ => ?_) fun a₁ _ ha₁ _ hok => ?_
  · rcases hid with hid | hid
    · exact fun hnone => absurd hnone hid
    · exact told_of_same hs₂ hid hrevises.longOrderLinkId
  · have hs₃ := answered_serve ha₁ hs₂
    refine fun _ => ⟨(persisted_of_write hok).1, ?_⟩
    rcases hid with hid | hid
    · exact .inl hid
    · rw [hid, hrevises.longOrderLinkId]
      exact hs₃.2

/-- A lookup that does not find the long of a row denies it, if the row has no order id. -/
theorem answered_of_unfound {category : Category} {symbol : String}
    (hsound : SoundSpreads w.options) (hrow : s ∈ w.options.store.optionSpreads.rows)
    (hunfound : ∀ order, a.found ≠ .ok (some order)) :
    Answered (RunnerWorld.serve a (.getOrderByLinkId category symbol s.longOrderLinkId) w).2 s := by
  refine ⟨hsound.rows s hrow, ?_⟩
  by_cases hnone : s.longOrderId = none
  · refine .inr (List.mem_append_left _ ?_)
    have hawaits : w.options.Awaits s.longOrderLinkId := ⟨s, hrow, rfl, hnone⟩
    unfold OptionAnswers.denies?
    dsimp only
    split
    · rename_i order horder
      exact absurd horder (hunfound order)
    · rw [if_pos hawaits]
      exact List.mem_singleton_self _
  · exact .inl hnone

/-- A long that was sent is the row's, or it is denied. -/
theorem settles_placeLong {request : PlaceOrderRequest}
    (hrow : s ∈ w.options.store.optionSpreads.rows)
    (hlink : request.orderLinkId = s.longOrderLinkId)
    (hopen : OnlyOpen w request.orderLinkId) :
    SettlesLongs (OrAnswered s fun acknowledgement w' => s ∈ w'.options.store.optionSpreads.rows ∧
      acknowledgement.orderLinkId = s.longOrderLinkId ∧ ¬ isBlank acknowledgement.orderId = true)
      (placeOption request) w := by
  have htext : ∀ {orders : List OptionOrder} {id orderId : String}, HasOrder orders id orderId →
      ¬ isBlank orderId = true := by
    rintro orders id orderId ⟨o, -, -, rfl⟩
    exact o.orderId_text
  refine .tryCatch (settles_last (fun _ _ _ => ⟨hopen, s, hrow, hlink.symm⟩)
    fun _ a ha hsound => ?_)
  have hs : s ∈ (RunnerWorld.serve a (.placeOrder request) w).2.options.persisted :=
    hsound.rows s hrow
  have hanswer : (RunnerWorld.serve a (.placeOrder request) w).1 = a.placed := rfl
  rw [hanswer]
  cases hplaced : a.placed with
  | ok acknowledgement =>
    have hsaid := ha.honest.acknowledged request rfl acknowledgement (by rw [hplaced]; rfl)
    exact ⟨hrow, hsaid.1.trans hlink, htext hsaid.2⟩
  | error failure =>
    have hdenies : a.denies? w.options (.placeOrder request) = some request.orderLinkId ∨
        ∃ operation, failure = .uncertainOrderOutcome operation := by
      unfold OptionAnswers.denies?
      simp only [hplaced]
      cases failure with
      | uncertainOrderOutcome operation => exact .inr ⟨operation, rfl⟩
      | _ => exact .inl rfl
    rcases hdenies with hdenies | ⟨operation, rfl⟩
    · have hanswered : Answered (RunnerWorld.serve a (.placeOrder request) w).2 s := by
        refine ⟨hs, .inr (List.mem_append_left _ ?_)⟩
        rw [hdenies, ← hlink]
        exact List.mem_singleton_self _
      cases failure with
      | uncertainOrderOutcome operation =>
        rw [OptionAnswers.denies?, hplaced] at hdenies
        exact absurd hdenies (by simp)
      | _ => exact fun _ => hanswered
    · refine .call_bind fun hsettled a₁ ha₁ => ⟨settled_serve hsettled ha₁.2.1 ha₁.2.2 ha₁.1
        trivial, fun found hfound => ?_, fun failure hfailed => ?_⟩
      · change a₁.found = .ok found at hfound
        cases found with
        | none =>
          intro _
          rw [hlink]
          refine answered_of_unfound ha₁.2.1 hrow fun order h => ?_
          rw [hfound] at h
          exact absurd h (by simp)
        | some discovered =>
          have hsaid := ha₁.1.honest.found _ rfl (some discovered)
            (by rw [hfound]; rfl) discovered rfl
          refine .call_bind fun hsettled₂ a₂ ha₂ => ⟨settled_serve hsettled₂ ha₂.2.1 ha₂.2.2 ha₂.1
            trivial, fun now _ _ => ?_, fun failure h => absurd h (by simp [RunnerWorld.serve,
              OptionWorld.serve, OptionWorld.answer])⟩
          obtain ⟨acknowledgement, hcreated, hlink', hid⟩ := OrderRequestAck.create_ok .place now
            (htext hsaid.2) (hsaid.1 ▸ request.isOwn)
          rw [hcreated]
          refine ⟨hrow, hlink'.trans (hsaid.1.trans hlink), ?_⟩
          rw [hid]
          exact htext hsaid.2
      · rw [hlink]
        refine answered_of_unfound ha₁.2.1 hrow fun order h => ?_
        change a₁.found = .error failure at hfailed
        rw [hfailed] at h
        exact absurd h (by simp)

theorem settles_submit_long {request : PlaceOrderRequest}
    (hrow : s ∈ w.options.store.optionSpreads.rows)
    (hlink : request.orderLinkId = s.longOrderLinkId)
    (hopen : OnlyOpen w request.orderLinkId) :
    SettlesLongs (OrAnswered s fun s' w' => Answered w' s') (submit s request) w := by
  refine .bind ((settles_placeLong hrow hlink hopen).imp fun outcome w₁ _ hpost => ?_)
  cases outcome with
  | error failure => exact hpost
  | ok acknowledgement =>
    obtain ⟨hrow₁, hack, htext⟩ := hpost
    refine .call_bind fun hsettled a ha => ⟨settled_serve hsettled ha.2.1 ha.2.2 ha.1 trivial,
      fun now _ => ?_, fun failure h => absurd h (by simp [RunnerWorld.serve, OptionWorld.serve,
        OptionWorld.answer])⟩
    obtain ⟨acknowledged, hacknowledged⟩ := acknowledges_long hack htext now
    obtain ⟨hrevises, -, hshort, hleg⟩ := acknowledgeOptionOrder_eq_ok hacknowledged
    have hid : acknowledged.longOrderId ≠ none := by
      rcases hleg with ⟨-, hid, -⟩ | ⟨hshort', -, -⟩
      · rw [hid]
        simp
      · rw [hack] at hshort'
        exact absurd hshort' long_ne_short
    rw [hacknowledged]
    refine .call_bind fun hsettled a₁ ha₁ => ⟨settled_serve hsettled ha₁.2.1 ha₁.2.2 ha₁.1
      (fun hnone => absurd hnone hid), fun _ hok _ => ⟨(persisted_of_write hok).1, .inl hid⟩, ?_⟩
    -- The row is the one that was read, so the write goes through.
    intro failure hfailed
    have hknown : w₁.options.store.loadOrderIntent acknowledgement.orderLinkId ≠ none := by
      rw [hack]
      obtain ⟨intent, hintent, -⟩ := (ha₁.2.1.backed s (ha₁.2.1.rows s hrow₁)).long
      rw [show w₁.options.store.loadOrderIntent s.longOrderLinkId = some intent from hintent]
      simp
    obtain ⟨store', hstore⟩ := OptionSpreadStore.recordOptionAcknowledgementAndSnapshot_ok hrow₁
      hrevises.cycleId hrevises.version hrevises.longOrderLinkId hshort hknown
    change (OptionWorld.write _ acknowledged
      (w₁.options.store.recordOptionAcknowledgementAndSnapshot s.version acknowledgement
        acknowledged)).1 = _ at hfailed
    rw [hstore] at hfailed
    exact absurd hfailed (by simp [OptionWorld.write])

theorem settles_completeFromProtectiveLong {settings : OptionEntrySettings} {shortLimitPrice : ℚ}
    {shortOrderLinkId : String} {policy : OptionEntryPolicy} (hs : Answered w s) :
    SettlesLongs (IfReturned fun _ _ => True)
      (completeFromProtectiveLong settings s shortLimitPrice shortOrderLinkId policy) w := by
  unfold completeFromProtectiveLong
  split
  · exact settles_throw _
  refine settles_lift fun request hrequest => ?_
  rw [PlaceOrderRequest.create_eq_ok] at hrequest
  refine settles_call (fun _ _ => trivial) fun a now ha _ _ => ?_
  have hs₁ := answered_serve ha hs
  refine settles_lift fun withShort hwithShort => ?_
  obtain ⟨hrevises, -, -, -, hid, -⟩ := startShortPremium_eq_ok hwithShort
  refine settles_call (fun _ _ => told_of_same hs₁ hid hrevises.longOrderLinkId)
    fun a₁ _ ha₁ _ hok => ?_
  have hs₂ := answered_serve ha₁ hs₁
  have hwith : Answered (RunnerWorld.serve a₁ (.persistOptionShortIntent s.version request withShort
      withShort.updatedAt) (RunnerWorld.serve a .clock w).2).2 withShort := by
    refine ⟨(persisted_of_write hok).1, ?_⟩
    rw [hid, hrevises.longOrderLinkId]
    exact hs₂.2
  refine settles_bind (settles_openLeg (settles_submit_short hwith (by rw [hrequest])))
    fun _ _ _ _ => ?_
  split
  · exact settles_throw _
  · exact fun _ => trivial

theorem settles_reconcileProtectiveLong {settings : OptionEntrySettings}
    {policy : OptionEntryPolicy} (hs : Answered w s) :
    SettlesLongs (IfReturned fun _ _ => True) (reconcileProtectiveLong settings s policy) w := by
  unfold reconcileProtectiveLong
  split
  · exact settles_throw _
  refine settles_call (fun _ _ => trivial) fun a found ha _ _ => ?_
  have hs₁ := answered_serve ha hs
  cases found with
  | none => exact settles_throw _
  | some request =>
    refine settles_bind (settles_orNotOpened (orAnswered_of_keep hs₁ (settles_awaitLeg _ hs₁)))
      fun _ _ _ _ => ?_
    split
    · exact settles_throw _
    · exact fun _ => trivial

/-- A new spread, if every row has been denied. -/
theorem settles_openSpread {settings : OptionEntrySettings} {plan : OptionSpreadEntryPlan}
    {policy : OptionEntryPolicy}
    (hdenied : ∀ r ∈ w.options.store.optionSpreads.rows, r.longOrderLinkId ∈ w.denied) :
    SettlesLongs (IfReturned fun _ _ => True)
      (OptionSpreadEntryService.openSpread settings plan policy) w := by
  refine settles_lift fun request hrequest => ?_
  refine settles_call (fun _ _ => trivial) fun a persistedAt ha _ _ => ?_
  refine settles_lift fun s hs => ?_
  obtain ⟨hstate, hlink⟩ : s.state = .longProtectionPending ∧
      s.longOrderLinkId = request.orderLinkId := by
    simp only [OptionSpreadExecutionSnapshot.forLongIntent, bind_unit_eq_ok,
      OptionSpreadExecutionSnapshot.create_eq_ok] at hs
    rw [hs.2]
    exact ⟨rfl, rfl⟩
  refine settles_call (fun _ _ => ⟨fun _ => .inl hstate, fun r hr _ => hdenied r hr⟩)
    fun a₁ _ ha₁ _ hok => ?_
  obtain ⟨-, store', hstore⟩ := persisted_of_write hok
  have hrows : (RunnerWorld.serve a₁ (.persistOptionLongIntent request s s.updatedAt)
      (RunnerWorld.serve a .clock w).2).2.options.store = store' := by
    show (OptionWorld.write _ _ _).2.store = _
    rw [hstore]
    rfl
  have hinserted :=
    (KeyedTable.insert_eq_some.mp (OptionSpreadStore.persistOptionLongIntent_eq_ok hstore).2).2
  have hopen : OnlyOpen (RunnerWorld.serve a₁ (.persistOptionLongIntent request s s.updatedAt)
      (RunnerWorld.serve a .clock w).2).2 request.orderLinkId := by
    intro r hr hne
    rw [hrows, hinserted, List.mem_append, List.mem_singleton] at hr
    rcases hr with hr | rfl
    · exact hdenied r hr
    · exact absurd hlink hne
  refine settles_bind (settles_openLeg (settles_submit_long ?_ hlink.symm hopen))
    fun _ _ _ hsettled => ?_
  · rw [hrows, hinserted]
    exact List.mem_append_right _ (List.mem_singleton_self s)
  · split
    · exact settles_throw _
    · exact settles_completeFromProtectiveLong hsettled

/-! ## The tasks of the runner -/

/-- The books are kept and what is settled stays so, at every call of the task. -/
abbrev Upkeeps (post : α → RunnerWorld → Prop) (t : OptionTask α) (w : RunnerWorld) : Prop :=
  Secures RunnerWorld.serve Forthright (fun w => SoundSpreads w.options ∧ SettledLongs w)
    (IfReturned post) t w

variable {settings : OptionEntrySettings} {post : α → RunnerWorld → Prop}

/-- What the service secures of its books, and what it secures of the runner's longs. -/
theorem upkeeps_of {t : OptionTask α} (h : SecuresSpreads (fun _ _ => True) t w.options)
    (h' : SettlesLongs (IfReturned post) t w) : Upkeeps post t w := by
  have hwithin : Secures RunnerWorld.serve Forthright (fun w => SoundSpreads w.options)
      (fun outcome w => IfReturned (fun _ _ => True) outcome w.options) t w :=
    h.within (fun ha => ha.honest) (fun _ _ _ => rfl) fun _ _ _ => rfl
  exact (hwithin.layer h').imp fun _ _ _ hpost => hpost.2

/-- A call that only reads, and what follows it. -/
theorem upkeeps_read {call : OptionCall} {f : call.Result → OptionTask α}
    (hproper : Proper w.options call) (hcareful : Careful w call)
    (hf : ∀ a v, Forthright a call w → SoundSpreads w.options → SettledLongs w →
      (RunnerWorld.serve a call w).1 = .ok v → Upkeeps post (f v) (RunnerWorld.serve a call w).2) :
    Upkeeps post (awaitOption call >>= f) w := by
  refine .call_bind fun hinv a ha => ?_
  obtain ⟨hsound, hsettled⟩ := hinv
  have hsound' : SoundSpreads (RunnerWorld.serve a call w).2.options :=
    sound_serve hsound ha.honest hproper
  exact ⟨⟨hsound', settled_serve hsettled hsound hsound' ha hcareful⟩,
    fun v hv => hf a v ha hsound hsettled hv, fun _ _ => trivial⟩

theorem upkeeps_lift {x : Except Failure β} {f : β → OptionTask α}
    (hf : ∀ v, x = .ok v → Upkeeps post (f v) w) :
    Upkeeps post ((liftM x : OptionTask β) >>= f) w :=
  .lift_bind hf fun _ _ => trivial

theorem upkeeps_bind {post' : β → RunnerWorld → Prop} {t : OptionTask β} {f : β → OptionTask α}
    (h : Upkeeps post' t w) (hf : ∀ v w', post' v w' → Upkeeps post (f v) w') :
    Upkeeps post (t >>= f) w := by
  refine .bind (h.imp fun outcome w' _ hpost => ?_)
  cases outcome with
  | ok v => exact hf v w' hpost
  | error failure => exact trivial

theorem upkeeps_tryCatch {t : OptionTask α} {handler : Failure → OptionTask α}
    (h : Upkeeps post t w) (hhandler : ∀ failure w', Upkeeps post (handler failure) w') :
    Upkeeps post (MonadExcept.tryCatch t handler) w := by
  refine .tryCatch (h.imp fun outcome w' _ hpost => ?_)
  cases outcome with
  | ok v => exact hpost
  | error failure => exact hhandler failure w'

theorem upkeeps_throw (failure : Failure) : Upkeeps post (throw failure : OptionTask α) w :=
  fun _ => trivial

theorem upkeeps_completeProtected {market : OptionMarket} (hs : Answered w s) :
    Upkeeps (fun _ _ => True) (completeProtected settings market s) w := by
  refine upkeeps_lift fun shortLimitPrice _ => ?_
  refine upkeeps_lift fun shortOrderLinkId _ => ?_
  refine upkeeps_lift fun policy _ => ?_
  exact upkeeps_of (secures_completeFromProtectiveLong hs.1) (settles_completeFromProtectiveLong hs)

/-- **A new spread is started only if every long so far has been denied.** -/
theorem upkeeps_openUnlessHeld {market : OptionMarket}
    {snapshots : List OptionSpreadExecutionSnapshot} (hsettled : SettledLongs w)
    (hrows : ∀ r ∈ w.options.store.optionSpreads.rows, r ∈ snapshots)
    (hpersisted : ∀ r ∈ w.options.store.optionSpreads.rows, r ∈ w.options.persisted) :
    Upkeeps (fun _ _ => True) (openUnlessHeld settings market snapshots) w := by
  refine upkeeps_lift fun _ hrefused => ?_
  have hrejected : ∀ s ∈ snapshots, SafelyRejected s := by
    unfold openUnlessHeld.refuseUnless at hrefused
    split at hrefused
    · assumption
    · exact absurd hrefused (by simp)
  refine upkeeps_lift fun plan _ => ?_
  refine upkeeps_lift fun policy _ => ?_
  refine upkeeps_of secures_openSpread (settles_openSpread fun r hr => ?_)
  obtain ⟨hstate, hid, -⟩ := hrejected r (hrows r hr)
  refine (hsettled.told r (hpersisted r hr) hid).resolve_left ?_
  rw [hstate]
  simp

theorem upkeeps_openOrLoadOptionSpread {market : Except Failure OptionMarket} :
    Upkeeps (fun _ _ => True) (openOrLoadOptionSpread settings market) w := by
  refine upkeeps_read trivial trivial fun a snapshots ha hsound hsettled hsnapshots => ?_
  have hsame : snapshots = w.options.store.loadAllOptionSpreadSnapshots :=
    (Except.ok.inj hsnapshots).symm
  have hmem : ∀ s, s ∈ snapshots ↔ s ∈ w.options.store.optionSpreads.rows := by
    intro s
    rw [hsame]
    exact List.mem_insertionSort _
  refine .assuming fun ⟨hsound₁, hsettled₁⟩ => ?_
  split
  · exact fun _ => trivial
  · split
    · refine upkeeps_lift fun market _ => ?_
      exact upkeeps_openUnlessHeld hsettled₁ (fun r hr => (hmem r).mpr hr) hsound₁.rows
    · rename_i snapshot hprotected
      have hsnapshot : snapshot ∈ snapshots.filter fun s => s.state = .longProtectionFilled := by
        rw [hprotected]
        exact List.mem_singleton_self snapshot
      obtain ⟨hlisted, hstate⟩ := List.mem_filter.mp hsnapshot
      rw [decide_eq_true_iff] at hstate
      have hpersisted := hsound₁.rows snapshot ((hmem snapshot).mp hlisted)
      refine upkeeps_lift fun market _ => upkeeps_completeProtected ?_
      refine answered_of_told (hsettled₁.told snapshot hpersisted) hpersisted ?_
      rw [hstate]
      simp
    · exact upkeeps_throw _

theorem upkeeps_reconcileLate (hs : s ∈ w.options.persisted) (hlate : ReconcilesLate s) :
    Upkeeps (fun _ _ => True) (reconcileLate settings s) w := by
  have hanswered : Answered w s := ⟨hs, .inl hlate.2.1⟩
  refine upkeeps_tryCatch ?_ fun failure w' => ?_
  · refine upkeeps_lift fun policy _ => ?_
    exact upkeeps_bind (upkeeps_of (secures_reconcileProtectiveLong hs)
      (settles_reconcileProtectiveLong hanswered)) fun _ _ _ => fun _ => trivial
  · cases failure with
    | optionSpreadNotOpened message =>
      refine upkeeps_read trivial trivial fun a refreshed _ _ _ _ => ?_
      cases refreshed with
      | none => exact fun _ => trivial
      | some refreshed =>
        dsimp only
        split
        · exact upkeeps_throw _
        · exact fun _ => trivial
    | _ => exact upkeeps_throw _

theorem upkeeps_reconcileEach (snapshots : List OptionSpreadExecutionSnapshot)
    (h : ∀ s ∈ snapshots, s ∈ w.options.persisted) :
    Upkeeps (fun _ _ => True) (reconcileEach settings snapshots) w := by
  induction snapshots generalizing w with
  | nil => exact fun _ => trivial
  | cons s snapshots ih =>
    obtain ⟨hs, hrest⟩ := List.forall_mem_cons.mp h
    by_cases hlate : ReconcilesLate s
    · have hkept : Upkeeps (fun _ w' => ∀ s ∈ snapshots, s ∈ w'.options.persisted)
          (reconcileLate settings s) w := by
        have hstep : ∀ {a call} {w : RunnerWorld}, Forthright a call w →
            (∀ s ∈ snapshots, s ∈ w.options.persisted) →
            ∀ s ∈ snapshots, s ∈ (RunnerWorld.serve a call w).2.options.persisted :=
          fun ha hlisted s hs => (onward_serve ha.honest).persisted (hlisted s hs)
        refine ((upkeeps_reconcileLate hs hlate).keep hrest hstep).imp fun outcome w' _ hpost => ?_
        cases outcome with
        | ok v => exact hpost.2
        | error failure => exact trivial
      unfold reconcileEach
      rw [if_pos hlate]
      exact upkeeps_bind hkept fun _ w' hlisted => ih hlisted
    · unfold reconcileEach
      rw [if_neg hlate]
      exact ih hrest

theorem upkeeps_reconcileLateOptionLongs :
    Upkeeps (fun _ _ => True) (reconcileLateOptionLongs settings) w := by
  refine upkeeps_read trivial trivial fun a snapshots ha hsound _ hsnapshots => ?_
  have hsame : w.options.store.loadAllOptionSpreadSnapshots = snapshots :=
    Except.ok.inj hsnapshots
  refine upkeeps_reconcileEach snapshots fun s hs => ?_
  rw [← hsame] at hs
  exact (onward_serve ha.honest).persisted (hsound.rows s ((List.mem_insertionSort _).mp hs))

theorem upkeeps_runnerCall {t : OptionTask Unit} (h : RunnerCall settings t) :
    Upkeeps (fun _ _ => True) t w := by
  cases h with
  | openOrLoad market =>
    exact upkeeps_bind upkeeps_openOrLoadOptionSpread fun _ _ _ => fun _ => trivial
  | reconcileLate => exact upkeeps_reconcileLateOptionLongs

end Settling

/-! ## One protective long -/

theorem settled_of_unopened {w : RunnerWorld} (h : Unopened w.options) : SettledLongs w := by
  have hrequests : w.options.requests = [] := by
    rw [OptionWorld.requests, h.placed]
    rfl
  constructor <;> simp [h.rows, h.orders, h.persisted, h.placed, hrequests]

/-- Of the rows one at most was not denied, and every long of the exchange is such a row's. -/
theorem oneProtectiveLong_of_settled {w : RunnerWorld} (hsound : SoundSpreads w.options)
    (h : SettledLongs w) : OneProtectiveLong w.options where
  started := h.started
  one := by
    have hlink : ∀ o ∈ w.options.orders, o.request.side = .buy →
        ∃ r ∈ w.options.store.optionSpreads.rows, r.longOrderLinkId = o.orderLinkId ∧
          r.longOrderLinkId ∉ w.denied := by
      intro o ho hside
      obtain ⟨r, hr, hlink⟩ := h.bought o.request (hsound.sent o ho) hside
      refine ⟨r, hr, hlink, ?_⟩
      rw [hlink]
      exact h.kept o ho hside
    have hnodup : ((w.options.orders.filter fun o => o.request.side = .buy).map
        OptionOrder.orderLinkId).Nodup :=
      (List.filter_sublist.map _).nodup hsound.links
    match hlongs : w.options.orders.filter fun o => o.request.side = .buy with
    | [] => simp [hlongs]
    | [_] => simp [hlongs]
    | o :: o' :: _ =>
      rw [hlongs] at hnodup
      have hlong : ∀ p ∈ w.options.orders.filter fun o => o.request.side = .buy,
          p ∈ w.options.orders ∧ p.request.side = .buy := fun p hp => by
        simpa using List.mem_filter.mp hp
      obtain ⟨ho, hside⟩ := hlong o (by simp [hlongs])
      obtain ⟨ho', hside'⟩ := hlong o' (by simp [hlongs])
      obtain ⟨r, hr, hlink₁, hnot⟩ := hlink o ho hside
      obtain ⟨r', hr', hlink₂, hnot'⟩ := hlink o' ho' hside'
      have hsame : o'.orderLinkId = o.orderLinkId := by
        by_contra hne
        rw [← hlink₁, ← hlink₂] at hne
        exact hnot' (h.one r hr hnot r' hr' hne)
      exact absurd (by simp [hsame]) (List.nodup_cons.mp hnodup).1

/-- **One protective long**, in any state of any run of the runner against any exchange that keeps
    to what it has denied. -/
theorem one_protective_long (settings : OptionEntrySettings) {w w' : RunnerWorld}
    (h : Unopened w.options)
    (hsession : Coroutine.Session RunnerWorld.serve Forthright (fun _ => RunnerCall settings) w
      w') :
    OneProtectiveLong w'.options := by
  have hkept : SoundSpreads w'.options ∧ SettledLongs w' :=
    session_secured (fun hcall _ => upkeeps_runnerCall hcall)
      ⟨sound_of_unopened h, settled_of_unopened h⟩ hsession
  obtain ⟨hsound, hsettled⟩ := hkept
  exact oneProtectiveLong_of_settled hsound hsettled

/-! ## Two calls of the runner

The first one's long is not acknowledged, and its row is marked as failed; the second one opens a
spread of the next cycle. If the exchange has rejected the first long, this is as it should be. If
it took it on and did not show it yet, it has two. -/

def nextLongId : String := "ECH-A-C0002-L00-OL-A01-00AF"

def nextPlan : OptionSpreadEntryPlan :=
  { spreadPlan with
    cycleId := "D3-C0002"
    longOrderLinkId := nextLongId
    shortOrderLinkId := "ECH-A-C0002-L00-OS-A01-00AF" }

def nextLong : PlaceOrderRequest :=
  ⟨spreadRequest spreadPlan.longSymbol nextLongId .buy 50, by decide +kernel⟩

theorem fees_unfilled : ∀ e ∈ ([] : List ExecutionUpdate), 0 ≤ e.fee := by simp

theorem ids_unfilled : (([] : List ExecutionUpdate).map fun e => e.executionId).Nodup :=
  List.nodup_nil

def nextTaken : OptionOrder where
  request := nextLong
  orderId := "L2"
  fills := []
  orderId_text := by decide +kernel
  own := by decide +kernel
  fees := fees_unfilled
  ids := ids_unfilled
  within := by decide +kernel

def marketFor (plan : OptionSpreadEntryPlan) : OptionMarket where
  shortLimitPrice _ := .ok plan.shortLimitPrice
  shortOrderLinkId _ := .ok plan.shortOrderLinkId
  plan := .ok plan

/-- A call of the runner, as far as these answers take it. -/
def runsFor (plan : OptionSpreadEntryPlan) (answers : List OptionAnswers) (w : RunnerWorld) :
    RunnerWorld :=
  (advances RunnerWorld.serve answers (do
    let _ ← openOrLoadOptionSpread spreadSettings (.ok (marketFor plan))
    pure ()) w).2

def beforeSpreads : RunnerWorld where
  options := unopenedOptions
  denied := []

def rejectedAnswer : OptionAnswers where
  orders := []
  placed := .error (.exchangeError "rejected")

def nextTakenAnswer : OptionAnswers where
  orders := [nextTaken]
  placed := .ok (acknowledgementOf nextTaken)

def afterRejection : RunnerWorld :=
  runsFor spreadPlan (List.replicate 3 nothingYet ++ List.replicate 4 rejectedAnswer) beforeSpreads

def afterNextLong : RunnerWorld :=
  runsFor nextPlan (List.replicate 3 nothingYet ++ List.replicate 3 nextTakenAnswer) afterRejection

theorem one_protective_long_after_rejection :
    (afterNextLong.options.store.optionSpreads.rows.map fun s => s.state) =
        [.error, .longProtectionPending] ∧
      afterNextLong.options.orders = [nextTaken] ∧ OneProtectiveLong afterNextLong.options := by
  have hends : (afterNextLong.options.store.optionSpreads.rows.map fun s => s.state) =
      [.error, .longProtectionPending] ∧ afterNextLong.options.orders = [nextTaken] := by
    decide +kernel
  have hrejected : Coroutine.Session RunnerWorld.serve Forthright
      (fun _ => RunnerCall spreadSettings) beforeSpreads afterRejection :=
    .next (.none _) (.openOrLoad (.ok (marketFor spreadPlan))) (stops_advances (by decide +kernel))
  have hsession : Coroutine.Session RunnerWorld.serve Forthright
      (fun _ => RunnerCall spreadSettings) beforeSpreads afterNextLong :=
    .next hrejected (.openOrLoad (.ok (marketFor nextPlan))) (stops_advances (by decide +kernel))
  exact ⟨hends.1, hends.2, one_protective_long spreadSettings unopened_unopenedOptions hsession⟩

/-- The exchange has the long, says that it does not know, and does not show it yet. -/
def unseenAnswer : OptionAnswers where
  orders := [longTaken]
  placed := .error (.uncertainOrderOutcome "place_order")
  found := .ok none

def secondTakenAnswer : OptionAnswers where
  orders := [longTaken, nextTaken]
  placed := .ok (acknowledgementOf nextTaken)

def afterUncertainty : RunnerWorld :=
  runsFor spreadPlan (List.replicate 3 nothingYet ++ List.replicate 5 unseenAnswer) beforeSpreads

def afterSecondLong : RunnerWorld :=
  runsFor nextPlan (List.replicate 3 unseenAnswer ++ List.replicate 3 secondTakenAnswer)
    afterUncertainty

theorem two_protective_longs : ∃ w', Coroutine.Session RunnerWorld.serve HonestThere
    (fun _ => RunnerCall spreadSettings) beforeSpreads w' ∧ ¬ OneProtectiveLong w'.options := by
  have hopened :
      (afterSecondLong.options.orders.filter fun o => o.request.side = .buy).length = 2 := by
    decide +kernel
  have huncertain : Coroutine.Session RunnerWorld.serve HonestThere
      (fun _ => RunnerCall spreadSettings) beforeSpreads afterUncertainty :=
    .next (.none _) (.openOrLoad (.ok (marketFor spreadPlan))) (stops_advances (by decide +kernel))
  refine ⟨afterSecondLong, .next huncertain (.openOrLoad (.ok (marketFor nextPlan)))
    (stops_advances (by decide +kernel)), fun h => ?_⟩
  have hone := h.one
  rw [hopened] at hone
  exact absurd hone (by decide)

end CreditHedge
