import CreditHedge.Application.OptionBooks

/-!
# No naked short option

Every task of the option service keeps the books of its spreads at each of its calls, so they are
kept however often a task is interrupted and whatever is started after it
(`sound_of_session`). What the books say of the short leg is `no_naked_short`.

The tasks of a session run one after the other, as the runner starts them. The snapshot a task is
given may be any that was ever persisted, old ones included: the compare-and-swap sorts those out.
It would not sort out two tasks at once. An `_await_leg` that finds an execution recorded by
somebody else reads the row again and may then finish the protective long of a row whose short has
been started in between; alone, it has just seen that the execution is not on record, and the branch
is dead (`secures_recordExecutions`).
-/

set_option autoImplicit false

namespace CreditHedge

open Coroutine OptionWorld OptionSpreadEntryService OneLevelLifecycleService

section Tasks

variable {w w' : OptionWorld} {a : OptionAnswers} {s old : OptionSpreadExecutionSnapshot}
  {α β : Type}

/-! ## What every call does -/

theorem onward_write {result : Except Failure OptionSpreadStore} {intents : List PlaceOrderRequest}
    (hwrites : ∀ store', result = .ok store' →
      OptionSpreadStore.OptionWrites w.store store' intents []) :
    Onward w (w.write s result).2 := by
  cases result with
  | ok store' => exact .of_writes (hwrites store' rfl) rfl rfl fun _ h => List.mem_cons_of_mem _ h
  | error failure => exact .refl w

theorem onward_serve {call : OptionCall} (ha : HonestOptions a call w) :
    Onward w (OptionWorld.serve a call w).2 := by
  have hpassed : Onward w ((w.send call).pass a.orders) := ⟨fun _ _ h => h, ha.grows, fun _ h => h⟩
  refine hpassed.trans ?_
  cases call with
  | persistOptionLongIntent request s persistedAt =>
    exact onward_write fun _ h => (OptionSpreadStore.persistOptionLongIntent_eq_ok h).1
  | persistOptionShortIntent version request s persistedAt =>
    exact onward_write fun _ h => (OptionSpreadStore.persistOptionShortIntent_eq_ok h).1
  | transitionOptionSpreadSnapshot version s =>
    exact onward_write fun _ h => (OptionSpreadStore.transitionOptionSpreadSnapshot_eq_ok h).1
  | recordOptionAcknowledgementAndSnapshot version acknowledgement s =>
    exact onward_write fun _ h =>
      (OptionSpreadStore.recordOptionAcknowledgementAndSnapshot_eq_ok h).1
  | recordOptionExecutionAndSnapshot version e receivedAt payloadHash s =>
    show Onward _ (writeIf _ s _).2
    cases hresult : ((w.send (.recordOptionExecutionAndSnapshot version e receivedAt payloadHash
        s)).pass a.orders).store.recordOptionExecutionAndSnapshot version e receivedAt payloadHash
        s with
    | error failure => exact .refl _
    | ok recorded =>
      obtain ⟨inserted, store'⟩ := recorded
      rcases OptionSpreadStore.recordOptionExecutionAndSnapshot_eq_ok hresult with
        ⟨rfl, -, rfl⟩ | ⟨rfl, hwrites, -⟩
      · exact .refl _
      · exact .of_writes hwrites rfl rfl fun _ h => List.mem_cons_of_mem _ h
  | _ => exact .refl _

theorem persisted_of_write {result : Except Failure OptionSpreadStore}
    (h : (w.write s result).1 = .ok ()) :
    s ∈ (w.write s result).2.persisted ∧ ∃ store', result = .ok store' := by
  cases result with
  | ok store' => exact ⟨List.mem_cons_self .., store', rfl⟩
  | error failure => exact absurd h (by simp [OptionWorld.write])

theorem writeIf_answered {result : Except Failure (Bool × OptionSpreadStore)} {inserted : Bool}
    (h : (w.writeIf s result).1 = .ok inserted) :
    (∃ store', result = .ok (inserted, store')) ∧
      (inserted = true → s ∈ (w.writeIf s result).2.persisted) := by
  rcases result with failure | ⟨_ | _, store'⟩
  · exact absurd h (by simp [writeIf])
  · obtain rfl := Except.ok.inj h
    exact ⟨⟨store', rfl⟩, fun h => absurd h (by simp)⟩
  · obtain rfl := Except.ok.inj h
    exact ⟨⟨store', rfl⟩, fun _ => List.mem_cons_self ..⟩

/-! ## The tasks -/

/-- The books are kept at every call of the task, and what it returns satisfies `post`. -/
abbrev SecuresSpreads (post : α → OptionWorld → Prop) (t : OptionTask α) (w : OptionWorld) : Prop :=
  Secures OptionWorld.serve HonestOptions SoundSpreads (IfReturned post) t w

variable {post : α → OptionWorld → Prop}

/-- A proper call, and what follows it. -/
theorem secures_call {call : OptionCall} {f : call.Result → OptionTask α}
    (hproper : SoundSpreads w → Proper w call)
    (hf : ∀ a v, HonestOptions a call w → (OptionWorld.serve a call w).1 = .ok v →
      SoundSpreads (OptionWorld.serve a call w).2 →
        SecuresSpreads post (f v) (OptionWorld.serve a call w).2) :
    SecuresSpreads post (awaitOption call >>= f) w := by
  refine .call_bind fun hsound a ha => ?_
  have hnext := sound_serve hsound ha (hproper hsound)
  exact ⟨hnext, fun v hv => hf a v ha hv hnext, fun _ _ => trivial⟩

theorem secures_lift {x : Except Failure β} {f : β → OptionTask α}
    (hf : ∀ v, x = .ok v → SecuresSpreads post (f v) w) :
    SecuresSpreads post ((liftM x : OptionTask β) >>= f) w :=
  .lift_bind hf fun _ _ => trivial

/-- The rule of sequence, for what is known to go on. -/
theorem secures_bind {post' : β → OptionWorld → Prop} {t : OptionTask β} {f : β → OptionTask α}
    (h : SecuresSpreads post' t w)
    (hf : ∀ v w', SoundSpreads w' → post' v w' → SecuresSpreads post (f v) w') :
    SecuresSpreads post (t >>= f) w := by
  refine .bind (h.imp fun outcome w' hsound hpost => ?_)
  cases outcome with
  | ok v => exact hf v w' hsound hpost
  | error failure => exact trivial

theorem secures_throw (failure : Failure) :
    SecuresSpreads post (throw failure : OptionTask α) w :=
  fun _ => trivial

theorem secures_requiredSnapshot (cycleId : String) :
    SecuresSpreads (fun s w' => s ∈ w'.store.optionSpreads.rows ∧ s.cycleId = cycleId)
      (requiredSnapshot cycleId) w := by
  refine secures_call (fun _ => trivial) fun a found _ hfound _ => ?_
  cases found with
  | none => exact secures_throw _
  | some s => exact fun _ => KeyedTable.find_eq_some.mp (Except.ok.inj hfound)

theorem secures_markError : SecuresSpreads (fun _ _ => True) (markError s) w := by
  refine secures_bind (secures_requiredSnapshot s.cycleId) fun current w₁ hsound₁ hcurrent => ?_
  have hpersisted := hsound₁.rows current hcurrent.1
  refine secures_call (fun _ => trivial) fun a now ha _ _ => ?_
  refine secures_lift fun failed hfailed => ?_
  obtain ⟨hstate, hsame | ⟨-, hrevises, horders⟩⟩ := markOptionExecutionError_eq_ok hfailed
  · rw [if_pos hsame.2]
    exact fun _ => trivial
  · split
    · exact fun _ => trivial
    · refine .perform fun hsound a' ha' => ⟨sound_serve hsound ha' ?_, ?_⟩
      · refine ⟨current, (onward_serve ha).persisted hpersisted, rfl, hrevises, horders,
          fun h => ?_⟩
        rw [hstate] at h
        exact absurd h (by simp)
      · generalize (OptionWorld.serve a' _ _).1 = outcome
        cases outcome <;> exact trivial

/-- A part whose exceptions end the task keeps its postcondition. -/
theorem secures_orNotOpened {settings : OptionEntrySettings} {t : OptionTask α}
    (h : SecuresSpreads post t w) : SecuresSpreads post (orNotOpened settings s t) w := by
  refine .tryCatch (h.imp fun outcome w' _ hpost => ?_)
  cases outcome with
  | ok v => exact hpost
  | error failure => exact secures_bind secures_markError fun _ _ _ _ => secures_throw _

/-- What an acknowledgement says is so. -/
theorem secures_placeOption {request : PlaceOrderRequest}
    (hsend : SoundSpreads w → Sendable w request) (hs : s ∈ w.persisted) :
    SecuresSpreads (fun acknowledgement w' => s ∈ w'.persisted ∧
      HasOrder w'.orders acknowledgement.orderLinkId acknowledgement.orderId)
      (placeOption request) w := by
  refine .tryCatch (.perform fun hsound a ha => ⟨sound_serve hsound ha (hsend hsound), ?_⟩)
  have hs₁ := (onward_serve ha).persisted hs
  have hanswer : (OptionWorld.serve a (.placeOrder request) w).1 = a.placed := rfl
  rw [hanswer]
  cases hplaced : a.placed with
  | ok acknowledgement =>
    have hsaid := ha.acknowledged request rfl acknowledgement (by rw [hplaced]; rfl)
    refine ⟨hs₁, ?_⟩
    rw [hsaid.1]
    exact hsaid.2
  | error failure =>
    cases failure with
    | uncertainOrderOutcome operation =>
      refine secures_call (fun _ => trivial) fun a₁ found ha₁ hfound _ => ?_
      have hs₂ := (onward_serve ha₁).persisted hs₁
      cases found with
      | none => exact secures_throw _
      | some discovered =>
        have hsaid := ha₁.found _ rfl (some discovered)
          (by rw [show a₁.found = .ok (some discovered) from hfound]; rfl) discovered rfl
        refine secures_call (fun _ => trivial) fun a₂ now ha₂ _ _ => ?_
        have honward := onward_serve ha₂
        intro _
        cases hack :
            OrderRequestAck.create .place discovered.orderId discovered.orderLinkId now with
        | error failure => exact trivial
        | ok acknowledgement =>
          obtain ⟨hlink, hid⟩ := OrderRequestAck.create_eq_ok hack
          refine ⟨honward.persisted hs₂, ?_⟩
          rw [hid, hlink, hsaid.1]
          exact honward.hasOrder hsaid.2
    | _ => exact secures_throw _

theorem secures_submit {request : PlaceOrderRequest} (hsend : SoundSpreads w → Sendable w request)
    (hs : s ∈ w.persisted) :
    SecuresSpreads (fun acknowledged w' => acknowledged ∈ w'.persisted ∧
      acknowledged.shortOrderLinkId = s.shortOrderLinkId) (submit s request) w := by
  refine secures_bind (secures_placeOption hsend hs) fun acknowledgement w₁ _ hsaid => ?_
  refine secures_call (fun _ => trivial) fun a now ha _ _ => ?_
  have honward := onward_serve ha
  refine secures_lift fun acknowledged hacknowledged => ?_
  refine secures_call (fun _ => ⟨s, honward.persisted hsaid.1, rfl, ⟨now, hacknowledged⟩,
    honward.hasOrder hsaid.2⟩) fun a₁ _ _ hok _ => ?_
  exact fun _ => ⟨(persisted_of_write hok).1, (acknowledgeOptionOrder_eq_ok hacknowledged).2.2.1⟩

/-- The executions of an order that the history has shown. -/
theorem secures_recordExecutions {settings : OptionEntrySettings} (link : String)
    (es : List ExecutionUpdate) (hes : ∀ e ∈ es, e.orderLinkId = link ∧ HasFill w.orders link e)
    (hs : s ∈ w.persisted) :
    SecuresSpreads (fun s' w' => s' ∈ w'.persisted ∧ s'.shortOrderLinkId = s.shortOrderLinkId)
      (recordExecutions settings es s) w := by
  induction es generalizing s w with
  | nil => exact fun _ => ⟨hs, rfl⟩
  | cons e es ih =>
    obtain ⟨⟨hlink, hfill⟩, hes⟩ := List.forall_mem_cons.mp hes
    have hlater : ∀ {w'}, Onward w w' → ∀ e ∈ es, e.orderLinkId = link ∧ HasFill w'.orders link e :=
      fun h e he => ⟨(hes e he).1, h.hasFill (hes e he).2⟩
    refine secures_call (fun _ => trivial) fun a recorded ha hrecorded _ => ?_
    have hw₁ := onward_serve ha
    cases recorded with
    | true => exact ih (hlater hw₁) (hw₁.persisted hs)
    | false =>
    have hnew : w.store.hasExecution e.executionId = false := Except.ok.inj hrecorded
    refine secures_call (fun _ => trivial) fun a₁ now ha₁ _ _ => ?_
    have hw₂ := hw₁.trans (onward_serve ha₁)
    refine secures_lift fun updated hupdated => ?_
    refine secures_call (fun _ => trivial) fun a₂ receivedAt ha₂ _ _ => ?_
    have hw₃ := hw₂.trans (onward_serve ha₂)
    refine secures_call (fun _ => ⟨s, hw₃.persisted hs, rfl, ⟨now, hupdated⟩,
      hlink ▸ hw₃.hasFill hfill⟩) fun a₃ inserted ha₃ hinserted hsound => ?_
    have hw₄ := hw₃.trans (onward_serve ha₃)
    obtain ⟨⟨store', hresult⟩, hpersisted⟩ := writeIf_answered hinserted
    cases inserted with
    | true =>
      have hlink' := (applyOptionExecution_eq_ok hupdated).2.1
      refine (ih (hlater hw₄) (hpersisted rfl)).imp fun outcome w' _ hpost => ?_
      cases outcome with
      | ok s' => exact ⟨hpost.1, hpost.2.trans hlink'⟩
      | error failure => exact trivial
    | false =>
      -- Nobody else has recorded it since.
      rcases OptionSpreadStore.recordOptionExecutionAndSnapshot_eq_ok hresult with
        ⟨-, hknown, -⟩ | ⟨htrue, -⟩
      · exact absurd (hnew.symm.trans hknown) (by simp)
      · exact absurd htrue (by simp)

theorem secures_finalizeLeg {request : PlaceOrderRequest} {policy : OptionEntryPolicy}
    (hs : s ∈ w.persisted) (hunstarted : request.side = .buy → s.shortOrderLinkId = none) :
    SecuresSpreads (fun s' w' => s' ∈ w'.persisted) (finalizeLeg request policy s) w := by
  refine secures_call (fun _ => trivial) fun a now ha _ _ => ?_
  refine secures_lift fun finalized hfinalized => ?_
  have hrevised : Revises s finalized 0 0 ∧ SameOrders s finalized ∧
      (finalized.state = .longProtectionFilled → finalized.shortOrderLinkId = none) := by
    unfold finalizedLeg at hfinalized
    split at hfinalized
    · rename_i hbuy
      obtain ⟨hrevises, hsame, -⟩ := finalizeProtectiveLong_eq_ok hfinalized
      exact ⟨hrevises, hsame, fun _ => hsame.shortOrderLinkId.trans (hunstarted hbuy)⟩
    · obtain ⟨hrevises, hsame, hstate⟩ := finalizeShortPremium_eq_ok hfinalized
      exact ⟨hrevises, hsame, fun h => absurd h hstate⟩
  obtain ⟨hrevises, hsame, hstate⟩ := hrevised
  refine secures_call (fun _ => ⟨s, (onward_serve ha).persisted hs, rfl, hrevises, hsame, hstate⟩)
    fun a₁ _ _ hok _ => ?_
  exact fun _ => (persisted_of_write hok).1

theorem secures_awaitLeg {settings : OptionEntrySettings} {request : PlaceOrderRequest}
    {policy : OptionEntryPolicy} (attempts : ℕ) (hs : s ∈ w.persisted)
    (hunstarted : request.side = .buy → s.shortOrderLinkId = none) :
    SecuresSpreads (fun s' w' => s' ∈ w'.persisted) (awaitLeg settings request policy attempts s)
      w := by
  induction attempts generalizing s w with
  | zero => exact secures_throw _
  | succ attempts ih =>
    refine secures_call (fun _ => trivial) fun a es ha hes _ => ?_
    have hsaid := ha.history _ rfl es (by rw [show a.executions = .ok es from hes]; rfl)
    have hfills : ∀ e ∈ sortedExecutions es, e.orderLinkId = request.orderLinkId ∧
        HasFill a.orders request.orderLinkId e := by
      intro e he
      have hfill := hsaid e ((List.mem_insertionSort _).mp he)
      obtain ⟨o, ho, hlink, he'⟩ := hfill
      exact ⟨(o.own e he').1.trans hlink, o, ho, hlink, he'⟩
    refine secures_bind (secures_recordExecutions request.orderLinkId _ hfills
      ((onward_serve ha).persisted hs)) fun s₁ w₁ _ hs₁ => ?_
    refine secures_call (fun _ => trivial) fun a₁ order ha₁ _ _ => ?_
    have hs₂ := (onward_serve ha₁).persisted hs₁.1
    refine secures_lift fun settled _ => ?_
    have hunstarted₁ : request.side = .buy → s₁.shortOrderLinkId = none :=
      fun h => hs₁.2.trans (hunstarted h)
    cases settled with
    | true => exact secures_finalizeLeg hs₂ hunstarted₁
    | false => exact ih hs₂ hunstarted₁

theorem secures_openLeg {settings : OptionEntrySettings} {request : PlaceOrderRequest}
    {policy : OptionEntryPolicy} (hsend : SoundSpreads w → Sendable w request)
    (hs : s ∈ w.persisted) (hunstarted : request.side = .buy → s.shortOrderLinkId = none) :
    SecuresSpreads (fun s' w' => s' ∈ w'.persisted) (openLeg settings policy s request) w := by
  refine secures_bind (secures_orNotOpened (secures_submit hsend hs)) fun s₁ w₁ _ hs₁ => ?_
  exact secures_orNotOpened
    (secures_awaitLeg _ hs₁.1 fun h => hs₁.2.trans (hunstarted h))

/-- An intent that has just been persisted has not been sent. -/
theorem sendable_of_writes {w₁ : OptionWorld} {request : PlaceOrderRequest}
    {store' : OptionSpreadStore}
    (hintended : ∀ other ∈ w₁.requests, w₁.store.loadOrderIntent other.orderLinkId = some other)
    (hwrites : OptionSpreadStore.OptionWrites w₁.store store' [request] [])
    (hcovered : request.side = .sell → ∃ r ∈ store'.optionSpreads.rows,
      r.shortOrderLinkId = some request.orderLinkId ∧ request.quantity = r.longFilledQuantity) :
    Sendable (w₁.persist store' s) request where
  intended := by
    show store'.loadOrderIntent _ = _
    rw [hwrites.intents, List.find?_cons_of_pos (by simp)]
    rfl
  fresh := by
    intro other hother hlink
    have hload := hintended other hother
    rw [hlink, hwrites.fresh request (List.mem_singleton_self _)] at hload
    exact absurd hload (by simp)
  covered := hcovered

theorem secures_completeFromProtectiveLong {settings : OptionEntrySettings} {shortLimitPrice : ℚ}
    {shortOrderLinkId : String} {policy : OptionEntryPolicy} (hs : s ∈ w.persisted) :
    SecuresSpreads (fun _ _ => True)
      (completeFromProtectiveLong settings s shortLimitPrice shortOrderLinkId policy) w := by
  unfold completeFromProtectiveLong
  split
  · exact secures_throw _
  refine secures_lift fun request hrequest => ?_
  refine secures_call (fun _ => trivial) fun a now ha _ hsound => ?_
  have hs₁ := (onward_serve ha).persisted hs
  refine secures_lift fun withShort hwithShort => ?_
  refine .assuming fun hsound₁ => ?_
  refine secures_call (fun _ => ⟨s, hs₁, rfl, now, hwithShort⟩) fun a₁ _ ha₁ hok _ => ?_
  obtain ⟨hpersisted, store', hstore⟩ := persisted_of_write hok
  obtain ⟨hrevises, -, -, hlink, -, -, -, hside, hquantity⟩ := startShortPremium_eq_ok hwithShort
  have hmoved : (OptionWorld.serve a₁ (.persistOptionShortIntent s.version request withShort
      withShort.updatedAt) (OptionWorld.serve a .clock w).2).2 =
      (((OptionWorld.serve a .clock w).2).pass a₁.orders).persist store' withShort := by
    show (OptionWorld.write _ _ _).2 = _
    rw [hstore]
    rfl
  have hbuy : request.side = .buy → withShort.shortOrderLinkId = none := fun h => by
    rw [hside] at h
    exact absurd h (by simp)
  refine secures_bind (secures_openLeg (fun hsound₂ => ?_) hpersisted hbuy) fun s₂ w₂ _ _ => ?_
  · obtain ⟨hwrites, hswap⟩ := OptionSpreadStore.persistOptionShortIntent_eq_ok hstore
    rw [hmoved]
    refine sendable_of_writes hsound₁.intended hwrites fun _ => ⟨withShort, ?_, hlink, ?_⟩
    · obtain ⟨⟨r, hr, -⟩, hrows⟩ := KeyedTable.swap_eq_some.mp hswap
      obtain ⟨hmem, hkey⟩ := KeyedTable.find_eq_some.mp hr
      rw [hrows, List.mem_map]
      exact ⟨r, hmem, if_pos hkey⟩
    · rw [hquantity, hrevises.longFilledQuantity, add_zero]
  · split
    · exact secures_throw _
    · exact fun _ => trivial

theorem secures_reconcileProtectiveLong {settings : OptionEntrySettings}
    {policy : OptionEntryPolicy} (hs : s ∈ w.persisted) :
    SecuresSpreads (fun _ _ => True) (reconcileProtectiveLong settings s policy) w := by
  unfold reconcileProtectiveLong
  split
  · exact secures_throw _
  rename_i hstarted
  have hunstarted : s.shortOrderLinkId = none := by
    by_contra hshort
    exact hstarted (.inl hshort)
  refine secures_call (fun _ => trivial) fun a found ha _ _ => ?_
  cases found with
  | none => exact secures_throw _
  | some request =>
    refine secures_bind (secures_orNotOpened (secures_awaitLeg _ ((onward_serve ha).persisted hs)
      fun _ => hunstarted)) fun s₁ w₁ _ _ => ?_
    split
    · exact secures_throw _
    · exact fun _ => trivial

theorem secures_openSpread {settings : OptionEntrySettings} {plan : OptionSpreadEntryPlan}
    {policy : OptionEntryPolicy} :
    SecuresSpreads (fun _ _ => True)
      (OptionSpreadEntryService.openSpread settings plan policy) w := by
  refine secures_lift fun request hrequest => ?_
  rw [PlaceOrderRequest.create_eq_ok] at hrequest
  refine secures_call (fun _ => trivial) fun a persistedAt ha _ _ => ?_
  refine secures_lift fun s hs => ?_
  refine .assuming fun hsound₁ => ?_
  refine secures_call (fun _ => ⟨_, _, _, _, _, hs⟩) fun a₁ _ ha₁ hok _ => ?_
  obtain ⟨hpersisted, store', hstore⟩ := persisted_of_write hok
  have hmoved : (OptionWorld.serve a₁ (.persistOptionLongIntent request s s.updatedAt)
      (OptionWorld.serve a .clock w).2).2 =
      (((OptionWorld.serve a .clock w).2).pass a₁.orders).persist store' s := by
    show (OptionWorld.write _ _ _).2 = _
    rw [hstore]
    rfl
  have hunstarted : s.shortOrderLinkId = none := by
    simp only [OptionSpreadExecutionSnapshot.forLongIntent, bind_unit_eq_ok,
      OptionSpreadExecutionSnapshot.create_eq_ok] at hs
    rw [hs.2]
  refine secures_bind (secures_openLeg (fun _ => ?_) hpersisted fun _ => hunstarted)
    fun s₂ w₂ _ hs₂ => ?_
  · rw [hmoved]
    refine sendable_of_writes hsound₁.intended
      (OptionSpreadStore.persistOptionLongIntent_eq_ok hstore).1 fun hsell => ?_
    rw [hrequest] at hsell
    exact absurd hsell (by simp)
  · split
    · exact secures_throw _
    · exact secures_completeFromProtectiveLong hs₂

end Tasks

/-! ## Sessions -/

/-- A call of the service: a snapshot it is given was persisted at some time. -/
inductive ServiceCall (settings : OptionEntrySettings) (w : OptionWorld) :
    OptionTask OptionSpreadExecutionSnapshot → Prop
  | openSpread (plan : OptionSpreadEntryPlan) (policy : OptionEntryPolicy) :
      ServiceCall settings w (OptionSpreadEntryService.openSpread settings plan policy)
  | reconcileProtectiveLong (snapshot : OptionSpreadExecutionSnapshot)
      (policy : OptionEntryPolicy) : snapshot ∈ w.persisted →
      ServiceCall settings w (reconcileProtectiveLong settings snapshot policy)
  | completeFromProtectiveLong (snapshot : OptionSpreadExecutionSnapshot) (shortLimitPrice : ℚ)
      (shortOrderLinkId : String) (policy : OptionEntryPolicy) : snapshot ∈ w.persisted →
      ServiceCall settings w
        (completeFromProtectiveLong settings snapshot shortLimitPrice shortOrderLinkId policy)

/-- A run of the service against any honest exchange: any number of calls, each completed or
    abandoned at any of its own. -/
abbrev OptionSession (settings : OptionEntrySettings) : OptionWorld → OptionWorld → Prop :=
  Coroutine.Session OptionWorld.serve HonestOptions (ServiceCall settings)

/-- No spread yet, and no order of one. -/
structure Unopened (w : OptionWorld) : Prop where
  rows : w.store.optionSpreads.rows = []
  orders : w.orders = []
  persisted : w.persisted = []
  placed : w.placed = []

theorem sound_of_unopened {w : OptionWorld} (h : Unopened w) : SoundSpreads w := by
  have hrequests : w.requests = [] := by rw [requests, h.placed]; rfl
  constructor <;> simp [h.rows, h.orders, h.persisted, h.placed, hrequests]

theorem sound_of_session {settings : OptionEntrySettings} {w w' : OptionWorld} (h : Unopened w)
    (hsession : OptionSession settings w w') : SoundSpreads w' := by
  have hstart : ∀ {w : OptionWorld} {t : OptionTask OptionSpreadExecutionSnapshot},
      ServiceCall settings w t → SoundSpreads w → SecuresSpreads (fun _ _ => True) t w := by
    intro w t hcall _
    cases hcall with
    | openSpread plan policy => exact secures_openSpread
    | reconcileProtectiveLong snapshot policy hs => exact secures_reconcileProtectiveLong hs
    | completeFromProtectiveLong snapshot shortLimitPrice shortOrderLinkId policy hs =>
      exact secures_completeFromProtectiveLong hs
  exact session_secured hstart (sound_of_unopened h) hsession

/-! ## What the books say of the shorts -/

/-- The cycle whose short order this was, if it was one. -/
def OptionPlacement.shortOf? (p : OptionPlacement) : Option String :=
  if p.request.side = .sell then
    (p.store.optionSpreads.rows.find? fun r =>
      r.shortOrderLinkId = some p.request.orderLinkId).map fun r => r.cycleId
  else none

/-- The short orders that were sent for a cycle. -/
def OptionWorld.shortsOf (w : OptionWorld) (cycleId : String) : List OptionPlacement :=
  w.placed.filter fun p => p.shortOf? = some cycleId

/-- No naked short. A cycle has one short order at most; every order that sells is some cycle's, for
    what the long of that cycle was confirmed to be filled with at the time, and whatever the
    exchange fills of it stays within that; what it fills of the legs is accepted, also by a snapshot
    of the past; and no snapshot that was ever the row of its cycle shows more short than long, or is
    open on anything but two full legs and a credit. -/
structure NoNakedShort (w : OptionWorld) : Prop where
  once : ∀ cycleId, (w.shortsOf cycleId).length ≤ 1
  covered : ∀ p ∈ w.placed, p.request.side = .sell →
    ∃ r, CoveredShort p r ∧ p.shortOf? = some r.cycleId
  «protected» : ∀ o ∈ w.orders, o.request.side = .sell → ∃ r ∈ w.store.optionSpreads.rows,
    r.shortOrderLinkId = some o.orderLinkId ∧ totalQuantity o.fills ≤ r.longFilledQuantity
  accepted : ∀ s ∈ w.persisted, ∀ o ∈ w.orders, ∀ e ∈ o.fills, IsLegOf s o.orderLinkId →
    w.store.hasExecution e.executionId = false →
    ∀ updatedAt, ∃ s', applyOptionExecution s e updatedAt = .ok s'
  bounded : ∀ s ∈ w.persisted, s.shortFilledQuantity ≤ s.longFilledQuantity ∧
    s.longFilledQuantity ≤ s.requestedQuantity
  opened : ∀ s ∈ w.persisted, s.state = .open → s.longFilledQuantity = s.requestedQuantity ∧
    s.shortFilledQuantity = s.requestedQuantity ∧ 0 < s.actualNetCredit

theorem shortOf_of_covered {p : OptionPlacement} {r : OptionSpreadExecutionSnapshot}
    (h : CoveredShort p r) (hside : p.request.side = .sell) : p.shortOf? = some r.cycleId := by
  unfold OptionPlacement.shortOf?
  rw [if_pos hside]
  cases hfind : p.store.optionSpreads.rows.find? fun r =>
      r.shortOrderLinkId = some p.request.orderLinkId with
  | none =>
    have hnone := List.find?_eq_none.mp hfind r h.row
    exact absurd h.short (by simpa using hnone)
  | some r' =>
    have hshort : r'.shortOrderLinkId = some p.request.orderLinkId := by
      simpa using List.find?_some hfind
    rw [leg_unique (List.mem_of_find?_eq_some hfind) h.row (.inr hshort.symm) (.inr h.short.symm)]
    rfl

theorem sell_of_shortOf {p : OptionPlacement} {cycleId : String} (h : p.shortOf? = some cycleId) :
    p.request.side = .sell := by
  by_contra hside
  rw [OptionPlacement.shortOf?, if_neg hside] at h
  exact absurd h (by simp)

/-- **One short a cycle**: the row keeps the client id of its short, and an id is sent once. -/
theorem shortsOf_length {w : OptionWorld} (h : SoundSpreads w) (cycleId : String) :
    (w.shortsOf cycleId).length ≤ 1 := by
  have hrow : ∀ p ∈ w.shortsOf cycleId, ∃ r ∈ w.store.optionSpreads.rows, r.cycleId = cycleId ∧
      r.shortOrderLinkId = some p.request.orderLinkId := by
    intro p hp
    obtain ⟨hplaced, hcycle⟩ := List.mem_filter.mp hp
    rw [decide_eq_true_iff] at hcycle
    have hside := sell_of_shortOf hcycle
    obtain ⟨s, hs, hcovered⟩ := h.covered p hplaced hside
    obtain ⟨r, hr, hbecomes⟩ := h.becomes s hs
    refine ⟨r, hr, hbecomes.cycleId.trans ?_, hbecomes.shortOrderLinkId _ hcovered.short⟩
    rw [shortOf_of_covered hcovered hside] at hcycle
    exact Option.some.inj hcycle
  have hnodup : ((w.shortsOf cycleId).map fun p => p.request.orderLinkId).Nodup := by
    refine List.Sublist.nodup (List.filter_sublist.map _) ?_
    have hsent := h.sentOnce
    rwa [requests, List.map_map] at hsent
  cases hshorts : w.shortsOf cycleId with
  | nil => exact Nat.zero_le 1
  | cons p rest =>
    cases rest with
    | nil => exact le_rfl
    | cons p' rest =>
      rw [hshorts] at hrow hnodup
      obtain ⟨r, hr, hcycle, hshort⟩ := hrow p (by simp)
      obtain ⟨r', hr', hcycle', hshort'⟩ := hrow p' (by simp)
      rw [KeyedTable.eq_of_key hr hr' (hcycle.trans hcycle'.symm), hshort'] at hshort
      have hne := (List.nodup_cons.mp hnodup).1
      exact absurd (by simp [Option.some.inj hshort]) hne

theorem noNakedShort_of_sound {w : OptionWorld} (h : SoundSpreads w) : NoNakedShort w where
  once := shortsOf_length h
  covered := by
    intro p hp hside
    obtain ⟨r, -, hcovered⟩ := h.covered p hp hside
    exact ⟨r, hcovered, shortOf_of_covered hcovered hside⟩
  «protected» := by
    intro o ho hside
    obtain ⟨p, hp, hrequest⟩ := List.mem_map.mp (h.sent o ho)
    rw [← hrequest] at hside
    obtain ⟨s, hs, hcovered⟩ := h.covered p hp hside
    obtain ⟨r, hr, hbecomes⟩ := h.becomes s hs
    refine ⟨r, hr, ?_, ?_⟩
    · rw [OptionOrder.orderLinkId, ← hrequest]
      exact hbecomes.shortOrderLinkId _ hcovered.short
    · calc totalQuantity o.fills ≤ o.request.quantity := o.within
        _ = s.longFilledQuantity := by rw [← hrequest, hcovered.quantity]
        _ ≤ r.longFilledQuantity := hbecomes.longFilledQuantity
  accepted := by
    intro s hs o ho e he hleg hnew updatedAt
    have hlink : e.orderLinkId = o.orderLinkId := (o.own e he).1
    exact accepts_fill h hs (hlink ▸ hleg) ⟨o, ho, hlink.symm, he⟩ hnew updatedAt
  bounded := fun s _ => ⟨s.valid.short_le, s.valid.long_le⟩
  opened := by
    intro s _ hstate
    have hopen := s.valid.open hstate
    exact ⟨hopen.long, hopen.short, hopen.credit⟩

/-- **No naked short option**, in any state of any run of the service against any exchange that
    makes nothing up. -/
theorem no_naked_short (settings : OptionEntrySettings) {w w' : OptionWorld} (h : Unopened w)
    (hsession : OptionSession settings w w') : NoNakedShort w' :=
  noNakedShort_of_sound (sound_of_session h hsession)

/-! ## A spread in three calls

The process dies when the long has been acknowledged; the long is reconciled from two halves, the
later one reported first and the earlier one twice; and then the short is sent. -/

def spreadLongId : String := "ECH-A-C0001-L00-OL-A01-00AF"

def spreadShortId : String := "ECH-A-C0001-L00-OS-A01-00AF"

def spreadPlan : OptionSpreadEntryPlan where
  cycleId := "D3-C0001"
  longSymbol := "ETH-26JUN26-1800-P-USDT"
  shortSymbol := "ETH-26JUN26-2000-P-USDT"
  expiryTimeUtc := 100
  quantity := 2
  longLimitPrice := 50
  shortLimitPrice := 70
  expectedNetCredit := 40
  longOrderLinkId := spreadLongId
  shortOrderLinkId := spreadShortId

theorem isDigest_as : (String.ofList (List.replicate 64 'a')).length = 64 ∧
    (String.ofList (List.replicate 64 'a')).toList.all
      (fun c => c.isDigit || ('a' ≤ c.toLower && c.toLower ≤ 'f')) = true := by
  decide +kernel

def spreadSettings : OptionEntrySettings where
  fillAttempts := 2
  payloadHash _ := { text := String.ofList (List.replicate 64 'a'), isDigest := isDigest_as }
  text _ := "failed"

def spreadPolicy : OptionEntryPolicy where
  maxLegWaitSeconds := 15
  allowPartialSpread := false
  minimumMatchedQuantity := 2
  maximumCreditDeviation := 20
  checked := by decide +kernel

def spreadRequest (symbol orderLinkId : String) (side : OrderSide) (price : ℚ) :
    PlaceOrderFields where
  category := .option
  symbol
  side
  orderType := .limit
  quantity := 2
  orderLinkId
  price := some price
  timeInForce := .ioc

def spreadLong : PlaceOrderRequest :=
  ⟨spreadRequest spreadPlan.longSymbol spreadLongId .buy 50, by decide +kernel⟩

def spreadShort : PlaceOrderRequest :=
  ⟨spreadRequest spreadPlan.shortSymbol spreadShortId .sell 70, by decide +kernel⟩

def fillOf (request : PlaceOrderRequest) (executionId orderId : String) (quantity price : ℚ)
    (executedAt : Time) : ExecutionFields where
  executionId
  orderId
  orderLinkId := request.orderLinkId
  symbol := request.symbol
  side := request.side
  price
  quantity
  fee := 1 / 2
  isMaker := none
  executedAt

def longHalf : ExecutionUpdate := ⟨fillOf spreadLong "long-1" "L1" 1 50 1, by decide +kernel⟩

def longRest : ExecutionUpdate := ⟨fillOf spreadLong "long-2" "L1" 1 49 2, by decide +kernel⟩

def shortWhole : ExecutionUpdate := ⟨fillOf spreadShort "short-1" "S1" 2 70 3, by decide +kernel⟩

def longTaken : OptionOrder where
  request := spreadLong
  orderId := "L1"
  fills := []
  orderId_text := by decide +kernel
  own := by decide +kernel
  fees := by decide +kernel
  ids := by decide +kernel
  within := by decide +kernel

def longFilled : OptionOrder where
  request := spreadLong
  orderId := "L1"
  fills := [longHalf, longRest]
  orderId_text := by decide +kernel
  own := by decide +kernel
  fees := by decide +kernel
  ids := by decide +kernel
  within := by decide +kernel

def shortFilled : OptionOrder where
  request := spreadShort
  orderId := "S1"
  fills := [shortWhole]
  orderId_text := by decide +kernel
  own := by decide +kernel
  fees := by decide +kernel
  ids := by decide +kernel
  within := by decide +kernel

def acknowledgementOf (o : OptionOrder) : OrderRequestAck where
  requestKind := .place
  orderId := o.orderId
  orderLinkId := o.orderLinkId
  acknowledgedAt := 0

/-- The order as a lookup shows it, filled. -/
def shownFilled (o : OptionOrder) : ExchangeOrder where
  category := .option
  orderId := o.orderId
  orderLinkId := o.orderLinkId
  symbol := o.request.symbol
  status := "Filled"
  side := o.request.side
  orderType := .limit
  price := o.request.price
  quantity := o.request.quantity
  cumulativeFilledQuantity := o.request.quantity
  averagePrice := none
  reduceOnly := false
  createdAt := 0
  updatedAt := 0

def nothingYet : OptionAnswers where
  orders := []

def longTakenAnswer : OptionAnswers where
  orders := [longTaken]
  placed := .ok (acknowledgementOf longTaken)

def longFilledAnswer : OptionAnswers where
  orders := [longFilled]
  executions := .ok [longRest, longHalf, longHalf]
  found := .ok (some (shownFilled longFilled))

def shortFilledAnswer : OptionAnswers where
  orders := [shortFilled, longFilled]
  placed := .ok (acknowledgementOf shortFilled)
  executions := .ok [shortWhole]
  found := .ok (some (shownFilled shortFilled))

def unopenedOptions : OptionWorld where
  store := .empty
  orders := []
  persisted := []
  placed := []

def acknowledgedLong : OptionWorld :=
  (advances OptionWorld.serve (List.replicate 2 nothingYet ++ List.replicate 3 longTakenAnswer)
    (OptionSpreadEntryService.openSpread spreadSettings spreadPlan spreadPolicy) unopenedOptions).2

def reconciledLong : OptionWorld :=
  (advances OptionWorld.serve (List.replicate 15 longFilledAnswer)
    (reconcileProtectiveLong spreadSettings (acknowledgedLong.persisted.head (by decide +kernel))
      spreadPolicy) acknowledgedLong).2

def openedSpread : OptionWorld :=
  (advances OptionWorld.serve
    (List.replicate 2 longFilledAnswer ++ List.replicate 11 shortFilledAnswer)
    (completeFromProtectiveLong spreadSettings (reconciledLong.persisted.head (by decide +kernel))
      70 spreadShortId spreadPolicy) reconciledLong).2

theorem unopened_unopenedOptions : Unopened unopenedOptions := ⟨rfl, rfl, rfl, rfl⟩

theorem no_naked_short_three_calls :
    (openedSpread.store.optionSpreads.rows.map fun s => s.state) = [.open] ∧
      (openedSpread.shortsOf "D3-C0001").length = 1 ∧ NoNakedShort openedSpread := by
  have hopened : (openedSpread.store.optionSpreads.rows.map fun s => s.state) = [.open] ∧
      (openedSpread.shortsOf "D3-C0001").length = 1 := by decide +kernel
  have hacknowledged : OptionSession spreadSettings unopenedOptions acknowledgedLong :=
    .next (.none _) (.openSpread spreadPlan spreadPolicy) (stops_advances (by decide +kernel))
  have hreconciled : OptionSession spreadSettings unopenedOptions reconciledLong :=
    .next hacknowledged (.reconcileProtectiveLong _ spreadPolicy (List.head_mem _))
      (stops_advances (by decide +kernel))
  have hsession : OptionSession spreadSettings unopenedOptions openedSpread :=
    .next hreconciled
      (.completeFromProtectiveLong _ 70 spreadShortId spreadPolicy (List.head_mem _))
      (stops_advances (by decide +kernel))
  exact ⟨hopened.1, hopened.2, no_naked_short spreadSettings unopened_unopenedOptions hsession⟩

end CreditHedge
