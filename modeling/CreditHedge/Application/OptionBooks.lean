import CreditHedge.Application.OptionExchange

/-!
# The books of the option spreads

What holds between the rows of the spreads, the executions on record and the orders at the exchange,
whenever one looks (`SoundSpreads`), and why every call of the service keeps it (`sound_serve`).

A row is only ever replaced by compare-and-swap, at the version of a snapshot that was once
persisted. So a swap that goes through finds the row to be that very snapshot, and what was computed
from the snapshot was computed from the row. Everything is therefore said of *every* snapshot that
was ever persisted, and of the rows only what a snapshot cannot know: that their fills are those on
record.

The quantity of a short order is settled by the row its intent is persisted with. From there on the
long fill of the cycle can only grow, which is what bounds the short by the long in every later
snapshot, and in every earlier one that has the short order at all.
-/

set_option autoImplicit false

namespace CreditHedge

/-! ## Legs -/

/-- The order is one of the two legs. -/
def IsLegOf (s : OptionSpreadExecutionSnapshot) (orderLinkId : String) : Prop :=
  orderLinkId = s.longOrderLinkId ∨ some orderLinkId = s.shortOrderLinkId

theorem long_ne_short {s s' : OptionSpreadExecutionSnapshot} :
    some s.longOrderLinkId ≠ s'.shortOrderLinkId := by
  intro h
  exact absurd (s.valid.longRole.unique (s'.valid.shortRole _ h.symm)) (by decide)

/-- **A leg belongs to one row.** -/
theorem leg_unique {store : OptionSpreadStore} {r r' : OptionSpreadExecutionSnapshot}
    {orderLinkId : String} (hr : r ∈ store.optionSpreads.rows)
    (hr' : r' ∈ store.optionSpreads.rows) (h : IsLegOf r orderLinkId)
    (h' : IsLegOf r' orderLinkId) : r = r' := by
  rcases h with rfl | h <;> rcases h' with h' | h'
  · exact List.inj_on_of_nodup_map store.constraints.longIds hr hr' h'
  · exact absurd h' long_ne_short
  · subst h'
    exact absurd h long_ne_short
  · exact KeyedTable.eq_of_nodup_filterMap store.constraints.shortIds hr hr' h.symm h'.symm

/-- The later snapshot is the earlier one, or what has become of it. -/
structure Becomes (s r : OptionSpreadExecutionSnapshot) : Prop where
  cycleId : r.cycleId = s.cycleId
  version : r = s ∨ s.version < r.version
  longOrderLinkId : r.longOrderLinkId = s.longOrderLinkId
  shortOrderLinkId : ∀ id ∈ s.shortOrderLinkId, r.shortOrderLinkId = some id
  longOrderId : s.longOrderId ≠ none → r.longOrderId ≠ none
  longFilledQuantity : s.longFilledQuantity ≤ r.longFilledQuantity
  shortFilledQuantity : s.shortFilledQuantity ≤ r.shortFilledQuantity

theorem Becomes.refl (s : OptionSpreadExecutionSnapshot) : Becomes s s :=
  ⟨rfl, .inl rfl, rfl, fun _ h => h, id, le_rfl, le_rfl⟩

theorem Becomes.trans {s r r' : OptionSpreadExecutionSnapshot} (h : Becomes s r)
    (h' : Becomes r r') : Becomes s r' where
  cycleId := h'.cycleId.trans h.cycleId
  version := by
    rcases h'.version with rfl | hlt
    · exact h.version
    · rcases h.version with rfl | hlt'
      · exact .inr hlt
      · exact .inr (hlt'.trans hlt)
  longOrderLinkId := h'.longOrderLinkId.trans h.longOrderLinkId
  shortOrderLinkId := fun id hid => h'.shortOrderLinkId id (h.shortOrderLinkId id hid)
  longOrderId := fun hid => h'.longOrderId (h.longOrderId hid)
  longFilledQuantity := h.longFilledQuantity.trans h'.longFilledQuantity
  shortFilledQuantity := h.shortFilledQuantity.trans h'.shortFilledQuantity

/-! ## Executions on record -/

namespace OptionSpreadStore

/-- The recorded executions of an order. -/
def executionsOf (store : OptionSpreadStore) (orderLinkId : String) : List ExecutionUpdate :=
  store.recordedExecutions.filter fun e => e.orderLinkId = orderLinkId

variable {store store' : OptionSpreadStore}

/-- An execution refers to an intent. -/
theorem executionsOf_eq_nil {orderLinkId : String}
    (h : store.loadOrderIntent orderLinkId = none) : store.executionsOf orderLinkId = [] := by
  refine List.filter_eq_nil_iff.mpr fun e he => ?_
  obtain ⟨row, hrow, rfl⟩ := List.mem_map.mp he
  rw [decide_eq_true_iff]
  intro hlink
  obtain ⟨intent, hintent, hid⟩ :=
    store.tables.constraints.executionIntents _ (List.mem_map_of_mem hrow)
  have hnone : store.tables.orderIntents.find orderLinkId = none := by
    rw [← Option.map_eq_none_iff]
    exact h
  exact KeyedTable.find_eq_none.mp hnone intent hintent (hid.trans hlink)

theorem executionsOf_writes {intents : List PlaceOrderRequest} {executions : List ExecutionUpdate}
    (h : OptionWrites store store' intents executions) (orderLinkId : String) :
    store'.executionsOf orderLinkId =
      store.executionsOf orderLinkId ++ executions.filter fun e => e.orderLinkId = orderLinkId := by
  unfold executionsOf
  rw [h.executions, List.filter_append]

theorem recordedExecutions_nodup (store : OptionSpreadStore) :
    (store.recordedExecutions.map fun e => e.executionId).Nodup := by
  unfold recordedExecutions
  rw [List.map_map]
  exact store.tables.executions.nodup

theorem hasExecution_eq_false {executionId : String} :
    store.hasExecution executionId = false ↔
      ∀ e ∈ store.recordedExecutions, e.executionId ≠ executionId := by
  unfold hasExecution SqliteExecutionStore.hasExecution recordedExecutions
  rw [Option.isSome_eq_false_iff, Option.isNone_iff_eq_none, KeyedTable.find_eq_none,
    List.forall_mem_map]

end OptionSpreadStore

/-- The fills of the row are those on record. -/
structure BalancedSpread (store : OptionSpreadStore) (r : OptionSpreadExecutionSnapshot) :
    Prop where
  long : r.longFilledQuantity = totalQuantity (store.executionsOf r.longOrderLinkId)
  short : ∀ id ∈ r.shortOrderLinkId, r.shortFilledQuantity = totalQuantity (store.executionsOf id)
  unstarted : r.shortOrderLinkId = none → r.shortFilledQuantity = 0

/-! ## What holds whenever one looks -/

/-- What a snapshot says of its orders is so. -/
structure Backed (w : OptionWorld) (s : OptionSpreadExecutionSnapshot) : Prop where
  long : ∃ request, w.store.loadOrderIntent s.longOrderLinkId = some request ∧
    request.symbol = s.longSymbol ∧ request.side = .buy ∧ request.quantity = s.requestedQuantity
  short : ∀ id ∈ s.shortOrderLinkId, ∃ request, w.store.loadOrderIntent id = some request ∧
    request.symbol = s.shortSymbol ∧ request.side = .sell ∧
    request.quantity ≤ s.longFilledQuantity
  longId : ∀ id ∈ s.longOrderId, HasOrder w.orders s.longOrderLinkId id
  shortId : ∀ id ∈ s.shortOrderId, ∀ link ∈ s.shortOrderLinkId, HasOrder w.orders link id
  unstarted : s.state = .longProtectionFilled → s.shortOrderLinkId = none

/-- When the short order was sent, it was its cycle's, for as much as its long had been filled
    with. -/
structure CoveredShort (p : OptionPlacement) (r : OptionSpreadExecutionSnapshot) : Prop where
  row : r ∈ p.store.optionSpreads.rows
  short : r.shortOrderLinkId = some p.request.orderLinkId
  quantity : p.request.quantity = r.longFilledQuantity
  confirmed : r.longFilledQuantity = totalQuantity (p.store.executionsOf r.longOrderLinkId)

structure SoundSpreads (w : OptionWorld) : Prop where
  rows : ∀ r ∈ w.store.optionSpreads.rows, r ∈ w.persisted
  becomes : ∀ s ∈ w.persisted, ∃ r ∈ w.store.optionSpreads.rows, Becomes s r
  backed : ∀ s ∈ w.persisted, Backed w s
  balanced : ∀ r ∈ w.store.optionSpreads.rows, BalancedSpread w.store r
  recorded : ∀ r ∈ w.store.optionSpreads.rows, ∀ e ∈ w.store.recordedExecutions,
    IsLegOf r e.orderLinkId → HasFill w.orders e.orderLinkId e
  intended : ∀ request ∈ w.requests, w.store.loadOrderIntent request.orderLinkId = some request
  sentOnce : (w.requests.map fun request => request.orderLinkId).Nodup
  sent : ∀ o ∈ w.orders, o.request ∈ w.requests
  links : (w.orders.map OptionOrder.orderLinkId).Nodup
  covered : ∀ p ∈ w.placed, p.request.side = .sell → ∃ r ∈ w.persisted, CoveredShort p r

/-- Intents stay, and orders grow. -/
structure Onward (w w' : OptionWorld) : Prop where
  intents : ∀ id request, w.store.loadOrderIntent id = some request →
    w'.store.loadOrderIntent id = some request
  orders : ∀ o ∈ w.orders, ∃ o' ∈ w'.orders, o.Grows o'
  persisted : w.persisted ⊆ w'.persisted

namespace Onward

variable {w w' w'' : OptionWorld}

theorem refl (w : OptionWorld) : Onward w w :=
  ⟨fun _ _ h => h, fun o ho => ⟨o, ho, .refl o⟩, fun _ h => h⟩

theorem trans (h : Onward w w') (h' : Onward w' w'') : Onward w w'' where
  intents := fun id request hid => h'.intents id request (h.intents id request hid)
  orders := by
    intro o ho
    obtain ⟨o', ho', hgrows⟩ := h.orders o ho
    obtain ⟨o'', ho'', hgrows'⟩ := h'.orders o' ho'
    exact ⟨o'', ho'', hgrows.trans hgrows'⟩
  persisted := fun _ hs => h'.persisted (h.persisted hs)

theorem hasOrder (h : Onward w w') {link id : String} (ho : HasOrder w.orders link id) :
    HasOrder w'.orders link id := by
  obtain ⟨o, ho, hlink, hid⟩ := ho
  obtain ⟨o', ho', hgrows⟩ := h.orders o ho
  refine ⟨o', ho', ?_, hgrows.orderId.trans hid⟩
  unfold OptionOrder.orderLinkId
  rw [hgrows.request]
  exact hlink

theorem hasFill (h : Onward w w') {link : String} {e : ExecutionUpdate}
    (he : HasFill w.orders link e) : HasFill w'.orders link e := by
  obtain ⟨o, ho, hlink, he⟩ := he
  obtain ⟨o', ho', hgrows⟩ := h.orders o ho
  refine ⟨o', ho', ?_, hgrows.fills he⟩
  unfold OptionOrder.orderLinkId
  rw [hgrows.request]
  exact hlink

theorem backed (h : Onward w w') {s : OptionSpreadExecutionSnapshot} (hs : Backed w s) :
    Backed w' s where
  long := by
    obtain ⟨request, hid, hrest⟩ := hs.long
    exact ⟨request, h.intents _ _ hid, hrest⟩
  short := by
    intro id hid
    obtain ⟨request, hload, hrest⟩ := hs.short id hid
    exact ⟨request, h.intents _ _ hload, hrest⟩
  longId := fun id hid => h.hasOrder (hs.longId id hid)
  shortId := fun id hid link hlink => h.hasOrder (hs.shortId id hid link hlink)
  unstarted := hs.unstarted

/-- A transaction leaves the intents it finds. -/
theorem of_writes {store' : OptionSpreadStore} {intents : List PlaceOrderRequest}
    {executions : List ExecutionUpdate}
    (h : OptionSpreadStore.OptionWrites w.store store' intents executions)
    (hstore : w'.store = store') (horders : w'.orders = w.orders)
    (hpersisted : w.persisted ⊆ w'.persisted) : Onward w w' where
  intents := by
    intro id request hid
    rw [hstore, h.intents]
    cases hfind : intents.find? fun request => request.orderLinkId = id with
    | none => exact hid
    | some other =>
      have hlink : other.orderLinkId = id := by simpa using List.find?_some hfind
      have hfresh := h.fresh other (List.mem_of_find?_eq_some hfind)
      rw [hlink, hid] at hfresh
      exact absurd hfresh (by simp)
  orders := by
    intro o ho
    rw [horders]
    exact ⟨o, ho, .refl o⟩
  persisted := hpersisted

end Onward

/-! ## Step by step -/

section Steps

variable {w : OptionWorld}

/-- What the service sends: an order it has persisted and has not sent before, and a short only for
    what its row's long has been filled with. -/
structure Sendable (w : OptionWorld) (request : PlaceOrderRequest) : Prop where
  intended : w.store.loadOrderIntent request.orderLinkId = some request
  fresh : ∀ other ∈ w.requests, other.orderLinkId ≠ request.orderLinkId
  covered : request.side = .sell → ∃ r ∈ w.store.optionSpreads.rows,
    r.shortOrderLinkId = some request.orderLinkId ∧ request.quantity = r.longFilledQuantity

theorem sound_send {call : OptionCall} (h : SoundSpreads w)
    (hsend : ∀ request ∈ call.sends?, Sendable w request) : SoundSpreads (w.send call) := by
  unfold OptionWorld.send
  cases hsends : call.sends? with
  | none => exact h
  | some request =>
    have hsendable := hsend request hsends
    have hrequests : ∀ r, r ∈ (w.send call).requests ↔ r = request ∨ r ∈ w.requests := by
      intro r
      simp [OptionWorld.send, OptionWorld.requests, hsends]
    have hsent : (w.send call).requests = request :: w.requests := by
      simp [OptionWorld.send, OptionWorld.requests, hsends]
    refine ⟨h.rows, h.becomes, fun s hs => ?_, h.balanced, h.recorded, ?_, ?_, ?_, h.links, ?_⟩
    · have hbacked := h.backed s hs
      exact ⟨hbacked.long, hbacked.short, hbacked.longId, hbacked.shortId, hbacked.unstarted⟩
    · intro r hr
      rcases List.mem_cons.mp hr with rfl | hr
      · exact hsendable.intended
      · exact h.intended r hr
    · show (List.map _ (request :: w.requests)).Nodup
      rw [List.map_cons, List.nodup_cons]
      refine ⟨fun hmem => ?_, h.sentOnce⟩
      obtain ⟨other, hother, hlink⟩ := List.mem_map.mp hmem
      exact hsendable.fresh other hother hlink
    · exact fun o ho => List.mem_cons_of_mem _ (h.sent o ho)
    · intro p hp hside
      rcases List.mem_cons.mp hp with rfl | hp
      · obtain ⟨r, hr, hshort, hquantity⟩ := hsendable.covered hside
        exact ⟨r, h.rows r hr, hr, hshort, hquantity, (h.balanced r hr).long⟩
      · exact h.covered p hp hside

theorem onward_pass {orders : List OptionOrder}
    (hgrows : ∀ o ∈ w.orders, ∃ o' ∈ orders, o.Grows o') : Onward w (w.pass orders) :=
  ⟨fun _ _ h => h, hgrows, fun _ h => h⟩

theorem sound_pass {orders : List OptionOrder} (h : SoundSpreads w)
    (hgrows : ∀ o ∈ w.orders, ∃ o' ∈ orders, o.Grows o')
    (hsent : ∀ o ∈ orders, o.request ∈ w.requests)
    (hlinks : (orders.map OptionOrder.orderLinkId).Nodup) : SoundSpreads (w.pass orders) :=
  ⟨h.rows, h.becomes, fun s hs => (onward_pass hgrows).backed (h.backed s hs), h.balanced,
    fun r hr e he hleg => (onward_pass hgrows).hasFill (h.recorded r hr e he hleg), h.intended,
    h.sentOnce, hsent, hlinks, h.covered⟩

variable {store' : OptionSpreadStore} {s : OptionSpreadExecutionSnapshot}
  {intents : List PlaceOrderRequest} {executions : List ExecutionUpdate}

theorem BalancedSpread.of_same {store : OptionSpreadStore} {r : OptionSpreadExecutionSnapshot}
    (h : BalancedSpread store r)
    (hsame : ∀ id, IsLegOf r id → store'.executionsOf id = store.executionsOf id) :
    BalancedSpread store' r where
  long := by
    rw [hsame _ (.inl rfl)]
    exact h.long
  short := by
    intro id hid
    rw [hsame _ (.inr hid.symm)]
    exact h.short id hid
  unstarted := h.unstarted

/-- What is left to show once the rows are known: the new row, and the executions. -/
theorem sound_persist (h : SoundSpreads w)
    (hwrites : OptionSpreadStore.OptionWrites w.store store' intents executions)
    (hrows : ∀ r, r ∈ store'.optionSpreads.rows →
      r = s ∨ r ∈ w.store.optionSpreads.rows ∧ r.cycleId ≠ s.cycleId)
    (hmem : s ∈ store'.optionSpreads.rows)
    (hbecomes : ∀ r ∈ w.store.optionSpreads.rows, r ∉ store'.optionSpreads.rows → Becomes r s)
    (hbacked : Backed (w.persist store' s) s) (hbalanced : BalancedSpread store' s)
    (hlegs : ∀ e ∈ executions, IsLegOf s e.orderLinkId ∧ HasFill w.orders e.orderLinkId e)
    (hold : ∀ e ∈ w.store.recordedExecutions, IsLegOf s e.orderLinkId →
      HasFill w.orders e.orderLinkId e) :
    SoundSpreads (w.persist store' s) := by
  have honward : Onward w (w.persist store' s) :=
    .of_writes hwrites rfl rfl fun _ hs => List.mem_cons_of_mem _ hs
  have hexecutions := hwrites.executions
  refine ⟨fun r hr => ?_, fun s' hs' => ?_, fun s' hs' => ?_, fun r hr => ?_, ?_, ?_, h.sentOnce,
    h.sent, h.links, ?_⟩
  · rcases hrows r hr with rfl | ⟨hr, -⟩
    · exact List.mem_cons_self ..
    · exact List.mem_cons_of_mem _ (h.rows r hr)
  · rcases List.mem_cons.mp hs' with rfl | hs'
    · exact ⟨s', hmem, .refl _⟩
    · obtain ⟨r, hr, hsr⟩ := h.becomes s' hs'
      by_cases hr' : r ∈ store'.optionSpreads.rows
      · exact ⟨r, hr', hsr⟩
      · exact ⟨s, hmem, hsr.trans (hbecomes r hr hr')⟩
  · rcases List.mem_cons.mp hs' with rfl | hs'
    · exact hbacked
    · exact honward.backed (h.backed s' hs')
  · rcases hrows r hr with rfl | ⟨hr₀, hne⟩
    · exact hbalanced
    · refine (h.balanced r hr₀).of_same fun id hid => ?_
      change store'.executionsOf id = _
      rw [OptionSpreadStore.executionsOf_writes hwrites, List.filter_eq_nil_iff.mpr,
        List.append_nil]
      intro e he
      rw [decide_eq_true_iff]
      rintro rfl
      exact hne (by rw [leg_unique hr hmem hid (hlegs e he).1])
  · intro r hr e he hleg
    change e ∈ store'.recordedExecutions at he
    rw [hexecutions, List.mem_append] at he
    rcases he with he | he
    · rcases hrows r hr with rfl | ⟨hr₀, -⟩
      · exact hold e he hleg
      · exact h.recorded r hr₀ e he hleg
    · exact (hlegs e he).2
  · exact fun request hr => honward.intents _ _ (h.intended request hr)
  · intro p hp hside
    obtain ⟨r, hr, hcovered⟩ := h.covered p hp hside
    exact ⟨r, List.mem_cons_of_mem _ hr, hcovered⟩

/-- The first row of a cycle. -/
theorem sound_insert {request : PlaceOrderRequest} (h : SoundSpreads w)
    (hwrites : OptionSpreadStore.OptionWrites w.store store' [request] [])
    (hinsert : w.store.optionSpreads.insert s = some store'.optionSpreads)
    (hlong : s.longOrderLinkId = request.orderLinkId) (hsymbol : request.symbol = s.longSymbol)
    (hside : request.side = .buy) (hquantity : request.quantity = s.requestedQuantity)
    (hunfilled : s.longFilledQuantity = 0 ∧ s.shortFilledQuantity = 0)
    (hunsent : s.longOrderId = none ∧ s.shortOrderId = none ∧ s.shortOrderLinkId = none) :
    SoundSpreads (w.persist store' s) := by
  obtain ⟨hnone, hrows⟩ := KeyedTable.insert_eq_some.mp hinsert
  have hcycles := KeyedTable.find_eq_none.mp hnone
  have hfresh : w.store.loadOrderIntent s.longOrderLinkId = none := by
    rw [hlong]
    exact hwrites.fresh request (List.mem_singleton_self _)
  have hload : store'.loadOrderIntent s.longOrderLinkId = some request := by
    rw [hwrites.intents, hlong, List.find?_cons_of_pos (by simp)]
    rfl
  have hunrecorded := OptionSpreadStore.executionsOf_eq_nil hfresh
  refine sound_persist h hwrites (fun r hr => ?_) ?_ (fun r hr hr' => ?_) ?_ ?_
    (fun e he => absurd he (by simp)) (fun e he hleg => ?_)
  · rw [hrows, List.mem_append, List.mem_singleton] at hr
    rcases hr with hr | rfl
    · exact .inr ⟨hr, hcycles r hr⟩
    · exact .inl rfl
  · rw [hrows]
    exact List.mem_append_right _ (List.mem_singleton_self s)
  · rw [hrows] at hr'
    exact absurd (List.mem_append_left _ hr) hr'
  · refine ⟨⟨request, hload, hsymbol, hside, hquantity⟩, fun id hid => ?_, fun id hid => ?_,
      fun id hid => ?_, fun _ => hunsent.2.2⟩
    · rw [hunsent.2.2] at hid
      exact absurd hid (by simp)
    · rw [hunsent.1] at hid
      exact absurd hid (by simp)
    · rw [hunsent.2.1] at hid
      exact absurd hid (by simp)
  · refine ⟨?_, fun id hid => ?_, fun _ => hunfilled.2⟩
    · rw [hunfilled.1, OptionSpreadStore.executionsOf_writes hwrites, hunrecorded]
      rfl
    · rw [hunsent.2.2] at hid
      exact absurd hid (by simp)
  · rcases hleg with hleg | hleg
    · have hmem : e ∈ w.store.executionsOf s.longOrderLinkId :=
        List.mem_filter.mpr ⟨he, decide_eq_true hleg⟩
      rw [hunrecorded] at hmem
      exact absurd hmem (by simp)
    · rw [hunsent.2.2] at hleg
      exact absurd hleg (by simp)

/-- **A write over a snapshot that was persisted** finds it to be the row. -/
theorem swapped_of_persisted {old : OptionSpreadExecutionSnapshot} (h : SoundSpreads w)
    (hold : old ∈ w.persisted) (hcycle : s.cycleId = old.cycleId)
    (hswap : w.store.optionSpreads.swap (fun s => s.version) old.version s =
      some store'.optionSpreads) :
    old ∈ w.store.optionSpreads.rows ∧ ∀ r, r ∈ store'.optionSpreads.rows ↔
      r = s ∨ r ∈ w.store.optionSpreads.rows ∧ r.cycleId ≠ old.cycleId := by
  obtain ⟨r, hr, hbecomes⟩ := h.becomes old hold
  exact KeyedTable.Seen.swap ⟨r, hr, hbecomes.cycleId, hbecomes.version⟩ hcycle hswap

/-- The next row of a cycle. -/
theorem sound_swap {old : OptionSpreadExecutionSnapshot} (h : SoundSpreads w)
    (hold : old ∈ w.persisted)
    (hwrites : OptionSpreadStore.OptionWrites w.store store' intents executions)
    (hswap : w.store.optionSpreads.swap (fun s => s.version) old.version s =
      some store'.optionSpreads)
    (hbecomes : Becomes old s) (hbacked : Backed (w.persist store' s) s)
    (hbalanced : BalancedSpread w.store old → BalancedSpread store' s)
    (hlegs : ∀ e ∈ executions, IsLegOf s e.orderLinkId ∧ HasFill w.orders e.orderLinkId e)
    (hshort : s.shortOrderLinkId = old.shortOrderLinkId ∨
      ∀ id ∈ s.shortOrderLinkId, w.store.loadOrderIntent id = none) :
    SoundSpreads (w.persist store' s) := by
  obtain ⟨hrow, hmem⟩ := swapped_of_persisted h hold hbecomes.cycleId hswap
  refine sound_persist h hwrites (fun r hr => ?_) ((hmem s).mpr (.inl rfl)) (fun r hr hr' => ?_)
    hbacked (hbalanced (h.balanced old hrow)) hlegs (fun e he hleg => ?_)
  · rw [hbecomes.cycleId]
    exact (hmem r).mp hr
  · -- A row that is gone was the one that was read.
    have hkey : r.cycleId = old.cycleId := by
      by_contra hne
      exact hr' ((hmem r).mpr (.inr ⟨hr, hne⟩))
    rw [KeyedTable.eq_of_key hr hrow hkey]
    exact hbecomes
  · rcases hleg with hleg | hleg
    · exact h.recorded old hrow e he (.inl (hleg.trans hbecomes.longOrderLinkId))
    · rcases hshort with hsame | hnew
      · exact h.recorded old hrow e he (.inr (hleg.trans hsame))
      · have hmem : e ∈ w.store.executionsOf e.orderLinkId :=
          List.mem_filter.mpr ⟨he, decide_eq_true rfl⟩
        rw [OptionSpreadStore.executionsOf_eq_nil (hnew _ hleg.symm)] at hmem
        exact absurd hmem (by simp)

end Steps

/-! ## The reducers, seen from the books -/

section Revisions

variable {w : OptionWorld} {store store' : OptionSpreadStore}
  {old s : OptionSpreadExecutionSnapshot} {longFill shortFill : ℚ}

theorem becomes_of_revises (h : Revises old s longFill shortFill) (hlong : 0 ≤ longFill)
    (hshort : 0 ≤ shortFill)
    (hlink : ∀ id ∈ old.shortOrderLinkId, s.shortOrderLinkId = some id)
    (hid : old.longOrderId ≠ none → s.longOrderId ≠ none) : Becomes old s where
  cycleId := h.cycleId
  version := by
    rw [h.version]
    exact .inr (Nat.lt_succ_self _)
  longOrderLinkId := h.longOrderLinkId
  shortOrderLinkId := hlink
  longOrderId := hid
  longFilledQuantity := by
    rw [h.longFilledQuantity]
    exact le_add_of_nonneg_right hlong
  shortFilledQuantity := by
    rw [h.shortFilledQuantity]
    exact le_add_of_nonneg_right hshort

theorem Backed.revised (hb : Backed w old) (h : Revises old s longFill shortFill)
    (hlong : 0 ≤ longFill) (hlink : s.shortOrderLinkId = old.shortOrderLinkId)
    (hlongId : ∀ id ∈ s.longOrderId, HasOrder w.orders s.longOrderLinkId id)
    (hshortId : ∀ id ∈ s.shortOrderId, ∀ link ∈ s.shortOrderLinkId, HasOrder w.orders link id)
    (hunstarted : s.state = .longProtectionFilled → s.shortOrderLinkId = none) : Backed w s where
  long := by
    rw [h.longOrderLinkId, h.longSymbol, h.requestedQuantity]
    exact hb.long
  short := by
    intro id hid
    rw [hlink] at hid
    obtain ⟨request, hload, hsymbol, hside, hquantity⟩ := hb.short id hid
    refine ⟨request, hload, hsymbol.trans h.shortSymbol.symm, hside, ?_⟩
    rw [h.longFilledQuantity]
    exact hquantity.trans (le_add_of_nonneg_right hlong)
  longId := hlongId
  shortId := hshortId
  unstarted := hunstarted

theorem Backed.sameOrders (hb : Backed w old) (h : Revises old s 0 0) (hsame : SameOrders old s)
    (hunstarted : s.state = .longProtectionFilled → s.shortOrderLinkId = none) : Backed w s := by
  refine hb.revised h le_rfl hsame.shortOrderLinkId (fun id hid => ?_) (fun id hid => ?_) hunstarted
  · rw [hsame.longOrderId] at hid
    rw [h.longOrderLinkId]
    exact hb.longId id hid
  · rw [hsame.shortOrderId] at hid
    rw [hsame.shortOrderLinkId]
    exact hb.shortId id hid

theorem BalancedSpread.revised {executions : List ExecutionUpdate} (hb : BalancedSpread store old)
    (h : Revises old s longFill shortFill) (hlink : s.shortOrderLinkId = old.shortOrderLinkId)
    (hwrites : OptionSpreadStore.OptionWrites store store' [] executions)
    (hlong : totalQuantity (executions.filter fun e => e.orderLinkId = old.longOrderLinkId) =
      longFill)
    (hshort : ∀ id ∈ old.shortOrderLinkId,
      totalQuantity (executions.filter fun e => e.orderLinkId = id) = shortFill)
    (hnone : old.shortOrderLinkId = none → shortFill = 0) : BalancedSpread store' s where
  long := by
    rw [h.longFilledQuantity, h.longOrderLinkId, OptionSpreadStore.executionsOf_writes hwrites,
      totalQuantity_append, hlong, hb.long]
  short := by
    intro id hid
    rw [hlink] at hid
    rw [h.shortFilledQuantity, OptionSpreadStore.executionsOf_writes hwrites,
      totalQuantity_append, hshort id hid, hb.short id hid]
  unstarted := by
    intro hid
    rw [hlink] at hid
    rw [h.shortFilledQuantity, hb.unstarted hid, hnone hid, add_zero]

/-- Nothing was filled. -/
theorem BalancedSpread.unfilled (hb : BalancedSpread store old) (h : Revises old s 0 0)
    (hlink : s.shortOrderLinkId = old.shortOrderLinkId)
    (hwrites : OptionSpreadStore.OptionWrites store store' [] []) : BalancedSpread store' s :=
  hb.revised h hlink hwrites rfl (fun _ _ => rfl) fun _ => rfl

end Revisions

/-! ## Call by call -/

/-- The calls of the service, in a world: what it sends and what it writes. -/
def Proper (w : OptionWorld) : OptionCall → Prop
  | .placeOrder request => Sendable w request
  | .persistOptionLongIntent request s _ =>
    ∃ cycleId shortSymbol expiryTimeUtc expectedNetCredit persistedAt,
      OptionSpreadExecutionSnapshot.forLongIntent request cycleId shortSymbol expiryTimeUtc
        expectedNetCredit persistedAt = .ok s
  | .persistOptionShortIntent version request s _ =>
    ∃ old ∈ w.persisted, old.version = version ∧
      ∃ updatedAt, startShortPremium old request updatedAt = .ok s
  | .transitionOptionSpreadSnapshot version s =>
    ∃ old ∈ w.persisted, old.version = version ∧ Revises old s 0 0 ∧ SameOrders old s ∧
      (s.state = .longProtectionFilled → s.shortOrderLinkId = none)
  | .recordOptionAcknowledgementAndSnapshot version acknowledgement s =>
    ∃ old ∈ w.persisted, old.version = version ∧
      (∃ updatedAt, acknowledgeOptionOrder old acknowledgement updatedAt = .ok s) ∧
      HasOrder w.orders acknowledgement.orderLinkId acknowledgement.orderId
  | .recordOptionExecutionAndSnapshot version e _ _ s =>
    ∃ old ∈ w.persisted, old.version = version ∧
      (∃ updatedAt, applyOptionExecution old e updatedAt = .ok s) ∧
      HasFill w.orders e.orderLinkId e
  | _ => True

section Calls

variable {w : OptionWorld} {store' : OptionSpreadStore} {old s : OptionSpreadExecutionSnapshot}

theorem sound_longIntent {request : PlaceOrderRequest} {cycleId shortSymbol : String}
    {expiryTimeUtc : Time} {expectedNetCredit : ℚ} {persistedAt persistedAt' : Time}
    (h : SoundSpreads w)
    (hs : OptionSpreadExecutionSnapshot.forLongIntent request cycleId shortSymbol expiryTimeUtc
      expectedNetCredit persistedAt = .ok s)
    (hstore : w.store.persistOptionLongIntent request s persistedAt' = .ok store') :
    SoundSpreads (w.persist store' s) := by
  obtain ⟨hwrites, hinsert⟩ := OptionSpreadStore.persistOptionLongIntent_eq_ok hstore
  simp only [OptionSpreadExecutionSnapshot.forLongIntent, bind_unit_eq_ok, refuseIf_eq_ok, not_or,
    not_not, OptionSpreadExecutionSnapshot.create_eq_ok] at hs
  obtain ⟨⟨-, hside, -⟩, hs⟩ := hs
  exact sound_insert h hwrites hinsert (by rw [hs]) (by rw [hs]) hside (by rw [hs])
    ⟨by rw [hs], by rw [hs]⟩ ⟨by rw [hs], by rw [hs], by rw [hs]⟩

theorem sound_shortIntent {request : PlaceOrderRequest} {updatedAt persistedAt : Time}
    (h : SoundSpreads w) (hold : old ∈ w.persisted)
    (hs : startShortPremium old request updatedAt = .ok s)
    (hstore : w.store.persistOptionShortIntent old.version request s persistedAt = .ok store') :
    SoundSpreads (w.persist store' s) := by
  obtain ⟨hwrites, hswap⟩ := OptionSpreadStore.persistOptionShortIntent_eq_ok hstore
  obtain ⟨hrevises, hstate, hstate', hlink, hlongId, hshortId, hsymbol, hside, hquantity⟩ :=
    startShortPremium_eq_ok hs
  have hunstarted := (h.backed old hold).unstarted hstate
  have hfresh := hwrites.fresh request (List.mem_singleton_self _)
  have honward : Onward w (w.persist store' s) :=
    .of_writes hwrites rfl rfl fun _ hs => List.mem_cons_of_mem _ hs
  have hbacked := honward.backed (h.backed old hold)
  have hload : store'.loadOrderIntent request.orderLinkId = some request := by
    rw [hwrites.intents, List.find?_cons_of_pos (by simp)]
    rfl
  have hunrecorded : store'.executionsOf request.orderLinkId = [] := by
    rw [OptionSpreadStore.executionsOf_writes hwrites,
      OptionSpreadStore.executionsOf_eq_nil hfresh]
    rfl
  refine sound_swap h hold hwrites hswap ?_ ?_ (fun hb => ?_) (fun e he => absurd he (by simp))
    (.inr fun id hid => ?_)
  · refine becomes_of_revises hrevises le_rfl le_rfl (fun id hid => ?_) (fun hid => ?_)
    · rw [hunstarted] at hid
      exact absurd hid (by simp)
    · rwa [hlongId]
  · refine ⟨?_, fun id hid => ?_, fun id hid => ?_, fun id hid link hlink' => ?_, fun hs' => ?_⟩
    · rw [hrevises.longOrderLinkId, hrevises.longSymbol, hrevises.requestedQuantity]
      exact hbacked.long
    · rw [hlink] at hid
      obtain rfl := Option.some.inj hid
      refine ⟨request, hload, hsymbol.trans hrevises.shortSymbol.symm, hside, ?_⟩
      rw [hquantity, hrevises.longFilledQuantity, add_zero]
    · rw [hlongId] at hid
      rw [hrevises.longOrderLinkId]
      exact hbacked.longId id hid
    · -- No order of the exchange is known before the order has a client id.
      rw [hshortId] at hid
      exact absurd hunstarted (old.valid.shortOrderId_link (by rw [Option.mem_def.mp hid]; simp))
    · rw [hstate'] at hs'
      exact absurd hs' (by simp)
  · refine ⟨?_, fun id hid => ?_, fun hnone => ?_⟩
    · rw [hrevises.longFilledQuantity, hrevises.longOrderLinkId, hb.long,
        OptionSpreadStore.executionsOf_writes hwrites, totalQuantity_append]
      rfl
    · rw [hlink] at hid
      obtain rfl := Option.some.inj hid
      rw [hrevises.shortFilledQuantity, hb.unstarted hunstarted, hunrecorded, add_zero]
      rfl
    · rw [hlink] at hnone
      exact absurd hnone (by simp)
  · rw [hlink] at hid
    obtain rfl := Option.some.inj hid
    exact hfresh

theorem sound_transition (h : SoundSpreads w) (hold : old ∈ w.persisted)
    (hrevises : Revises old s 0 0) (hsame : SameOrders old s)
    (hunstarted : s.state = .longProtectionFilled → s.shortOrderLinkId = none)
    (hstore : w.store.transitionOptionSpreadSnapshot old.version s = .ok store') :
    SoundSpreads (w.persist store' s) := by
  obtain ⟨hwrites, hswap⟩ := OptionSpreadStore.transitionOptionSpreadSnapshot_eq_ok hstore
  have honward : Onward w (w.persist store' s) :=
    .of_writes hwrites rfl rfl fun _ hs => List.mem_cons_of_mem _ hs
  refine sound_swap h hold hwrites hswap ?_
    ((honward.backed (h.backed old hold)).sameOrders hrevises hsame hunstarted)
    (fun hb => hb.unfilled hrevises hsame.shortOrderLinkId hwrites)
    (fun e he => absurd he (by simp)) (.inl hsame.shortOrderLinkId)
  refine becomes_of_revises hrevises le_rfl le_rfl (fun id hid => ?_) (fun hid => ?_)
  · rw [hsame.shortOrderLinkId]
    exact hid
  · rwa [hsame.longOrderId]

theorem sound_acknowledgement {acknowledgement : OrderRequestAck} {updatedAt : Time}
    (h : SoundSpreads w) (hold : old ∈ w.persisted)
    (hs : acknowledgeOptionOrder old acknowledgement updatedAt = .ok s)
    (horder : HasOrder w.orders acknowledgement.orderLinkId acknowledgement.orderId)
    (hstore : w.store.recordOptionAcknowledgementAndSnapshot old.version acknowledgement s =
      .ok store') : SoundSpreads (w.persist store' s) := by
  obtain ⟨hwrites, hswap⟩ := OptionSpreadStore.recordOptionAcknowledgementAndSnapshot_eq_ok hstore
  obtain ⟨hrevises, hstate, hlink, hleg⟩ := acknowledgeOptionOrder_eq_ok hs
  have honward : Onward w (w.persist store' s) :=
    .of_writes hwrites rfl rfl fun _ hs => List.mem_cons_of_mem _ hs
  have hbacked := honward.backed (h.backed old hold)
  refine sound_swap h hold hwrites hswap ?_ (hbacked.revised hrevises le_rfl hlink ?_ ?_ ?_)
    (fun hb => hb.unfilled hrevises hlink hwrites) (fun e he => absurd he (by simp)) (.inl hlink)
  · refine becomes_of_revises hrevises le_rfl le_rfl (fun id hid => ?_) (fun hid => ?_)
    · rw [hlink]
      exact hid
    · rcases hleg with ⟨-, hid', -⟩ | ⟨-, -, hid'⟩
      · rw [hid']
        simp
      · rwa [hid']
  · intro id hid
    rcases hleg with ⟨hlong, hid', -⟩ | ⟨-, -, hid'⟩
    · rw [hid'] at hid
      obtain rfl := Option.some.inj hid
      rw [hrevises.longOrderLinkId, ← hlong]
      exact horder
    · rw [hid'] at hid
      rw [hrevises.longOrderLinkId]
      exact hbacked.longId id hid
  · intro id hid link hlink'
    rw [hlink] at hlink'
    rcases hleg with ⟨-, -, hid'⟩ | ⟨hshort, hid', -⟩
    · rw [hid'] at hid
      exact hbacked.shortId id hid link hlink'
    · rw [hid'] at hid
      obtain rfl := Option.some.inj hid
      rw [← hshort] at hlink'
      obtain rfl := Option.some.inj hlink'
      exact horder
  · rw [hstate, hlink]
    exact hbacked.unstarted

theorem sound_execution {e : ExecutionUpdate} {updatedAt receivedAt : Time}
    {payloadHash : PayloadHash} {inserted : Bool} (h : SoundSpreads w) (hold : old ∈ w.persisted)
    (hs : applyOptionExecution old e updatedAt = .ok s) (hfill : HasFill w.orders e.orderLinkId e)
    (hstore : w.store.recordOptionExecutionAndSnapshot old.version e receivedAt payloadHash s =
      .ok (inserted, store')) :
    (inserted = false ∧ w.store.hasExecution e.executionId = true ∧ store' = w.store) ∨
      (inserted = true ∧ SoundSpreads (w.persist store' s)) := by
  rcases OptionSpreadStore.recordOptionExecutionAndSnapshot_eq_ok hstore with
    hdup | ⟨hinserted, hwrites, hswap⟩
  · exact .inl hdup
  refine .inr ⟨hinserted, ?_⟩
  obtain ⟨hstate, hlink, hleg⟩ := applyOptionExecution_eq_ok hs
  have honward : Onward w (w.persist store' s) :=
    .of_writes hwrites rfl rfl fun _ hs => List.mem_cons_of_mem _ hs
  have hbacked := honward.backed (h.backed old hold)
  have horder : HasOrder w.orders e.orderLinkId e.orderId := by
    obtain ⟨o, ho, hid, he⟩ := hfill
    exact ⟨o, ho, hid, (o.own e he).2.1.symm⟩
  have hunstarted : s.state = .longProtectionFilled → s.shortOrderLinkId = none := by
    rw [hstate, hlink]
    exact hbacked.unstarted
  have hcons : ∀ id, e.orderLinkId = id →
      totalQuantity ([e].filter fun e => e.orderLinkId = id) = e.quantity := by
    rintro _ rfl
    simp [totalQuantity]
  have hnil : ∀ id, e.orderLinkId ≠ id →
      totalQuantity ([e].filter fun e => e.orderLinkId = id) = 0 := by
    intro id hid
    simp [totalQuantity, hid]
  rcases hleg with ⟨hlong, hrevises, hid, hid'⟩ | ⟨hother, hshort, hrevises, hid, hid'⟩
  · have hnot : ∀ id ∈ old.shortOrderLinkId, e.orderLinkId ≠ id := by
      rintro id hshort rfl
      rw [hlong] at hshort
      exact long_ne_short hshort.symm
    refine sound_swap h hold hwrites hswap ?_
      (hbacked.revised hrevises e.quantity_pos.le hlink ?_ ?_ hunstarted)
      (fun hb => hb.revised hrevises hlink hwrites (hcons _ hlong) (fun id h => hnil _ (hnot id h))
        fun _ => rfl) (fun e' he' => ?_) (.inl hlink)
    · refine becomes_of_revises hrevises e.quantity_pos.le le_rfl (fun id hid => ?_) fun _ => ?_
      · rw [hlink]
        exact hid
      · rw [hid]
        simp
    · intro id hid₁
      rw [hid] at hid₁
      obtain rfl := Option.some.inj hid₁
      rw [hrevises.longOrderLinkId, ← hlong]
      exact horder
    · intro id hid₁ link hlink₁
      rw [hid'] at hid₁
      rw [hlink] at hlink₁
      exact hbacked.shortId id hid₁ link hlink₁
    · rw [List.mem_singleton.mp he']
      exact ⟨.inl (hlong.trans hrevises.longOrderLinkId.symm), hfill⟩
  · refine sound_swap h hold hwrites hswap ?_
      (hbacked.revised hrevises le_rfl hlink ?_ ?_ hunstarted)
      (fun hb => hb.revised hrevises hlink hwrites (hnil _ hother)
        (fun id h => hcons _ (Option.some.inj (hshort.trans h))) fun hnone => ?_)
      (fun e' he' => ?_) (.inl hlink)
    · refine becomes_of_revises hrevises le_rfl e.quantity_pos.le (fun id hid => ?_) fun h => ?_
      · rw [hlink]
        exact hid
      · rwa [hid']
    · intro id hid₁
      rw [hid'] at hid₁
      rw [hrevises.longOrderLinkId]
      exact hbacked.longId id hid₁
    · intro id hid₁ link hlink₁
      rw [hid] at hid₁
      obtain rfl := Option.some.inj hid₁
      rw [hlink, ← hshort] at hlink₁
      obtain rfl := Option.some.inj hlink₁
      exact horder
    · rw [hnone] at hshort
      exact absurd hshort (by simp)
    · rw [List.mem_singleton.mp he']
      exact ⟨.inr (hshort.trans hlink.symm), hfill⟩

theorem sound_write {result : Except Failure OptionSpreadStore} (h : SoundSpreads w)
    (hwrite : ∀ store', result = .ok store' → SoundSpreads (w.persist store' s)) :
    SoundSpreads (w.write s result).2 := by
  cases result with
  | ok store' => exact hwrite store' rfl
  | error failure => exact h

/-- **Every call of the service keeps the books.** -/
theorem sound_serve {a : OptionAnswers} {call : OptionCall} (h : SoundSpreads w)
    (ha : HonestOptions a call w) (hproper : Proper w call) :
    SoundSpreads (OptionWorld.serve a call w).2 := by
  have hsent : SoundSpreads (w.send call) := by
    refine sound_send h fun request hrequest => ?_
    cases call with
    | placeOrder request' =>
      obtain rfl := Option.some.inj hrequest
      exact hproper
    | _ => exact absurd hrequest (by simp [OptionCall.sends?])
  have hpassed : SoundSpreads ((w.send call).pass a.orders) :=
    sound_pass hsent ha.grows ha.sent ha.links
  have honward : Onward w ((w.send call).pass a.orders) := ⟨fun _ _ h => h, ha.grows, fun _ h => h⟩
  cases call with
  | persistOptionLongIntent request s persistedAt =>
    obtain ⟨cycleId, shortSymbol, expiryTimeUtc, expectedNetCredit, persistedAt', hs⟩ := hproper
    exact sound_write hpassed fun store' hstore => sound_longIntent hpassed hs hstore
  | persistOptionShortIntent version request s persistedAt =>
    obtain ⟨old, hold, rfl, updatedAt, hs⟩ := hproper
    exact sound_write hpassed fun store' hstore => sound_shortIntent hpassed hold hs hstore
  | transitionOptionSpreadSnapshot version s =>
    obtain ⟨old, hold, rfl, hrevises, hsame, hunstarted⟩ := hproper
    exact sound_write hpassed fun store' hstore =>
      sound_transition hpassed hold hrevises hsame hunstarted hstore
  | recordOptionAcknowledgementAndSnapshot version acknowledgement s =>
    obtain ⟨old, hold, rfl, ⟨updatedAt, hs⟩, horder⟩ := hproper
    exact sound_write hpassed fun store' hstore =>
      sound_acknowledgement hpassed hold hs (honward.hasOrder horder) hstore
  | recordOptionExecutionAndSnapshot version e receivedAt payloadHash s =>
    obtain ⟨old, hold, rfl, ⟨updatedAt, hs⟩, hfill⟩ := hproper
    show SoundSpreads (OptionWorld.writeIf _ s _).2
    cases hresult : ((w.send (.recordOptionExecutionAndSnapshot old.version e receivedAt payloadHash
        s)).pass a.orders).store.recordOptionExecutionAndSnapshot old.version e receivedAt
        payloadHash s with
    | error failure => exact hpassed
    | ok recorded =>
      obtain ⟨inserted, store'⟩ := recorded
      rcases sound_execution hpassed hold hs (honward.hasFill hfill) hresult with
        ⟨rfl, -, rfl⟩ | ⟨rfl, hsound⟩
      · exact hpassed
      · exact hsound
  | _ => exact hpassed

end Calls

/-! ## Which executions are accepted -/

/-- **No fill of an order of the exchange is refused**, unless it is on record already: not by the
    row of its cycle, and not by any snapshot of the past that has the order. -/
theorem accepts_fill {w : OptionWorld} (h : SoundSpreads w) {s : OptionSpreadExecutionSnapshot}
    (hs : s ∈ w.persisted) {e : ExecutionUpdate} (hleg : IsLegOf s e.orderLinkId)
    (hfill : HasFill w.orders e.orderLinkId e)
    (hnew : w.store.hasExecution e.executionId = false) (updatedAt : Time) :
    ∃ s', applyOptionExecution s e updatedAt = .ok s' := by
  obtain ⟨o, ho, hlink, he⟩ := hfill
  obtain ⟨r, hr, hbecomes⟩ := h.becomes s hs
  have hbacked := h.backed s hs
  have hbalanced := h.balanced r hr
  obtain ⟨-, horderId, hsymbol, hside⟩ := o.own e he
  have hintent : w.store.loadOrderIntent e.orderLinkId = some o.request := by
    rw [← hlink]
    exact h.intended o.request (h.sent o ho)
  have hrleg : IsLegOf r e.orderLinkId := by
    rcases hleg with hleg | hleg
    · exact .inl (hleg.trans hbecomes.longOrderLinkId.symm)
    · exact .inr (hbecomes.shortOrderLinkId _ hleg.symm).symm
  -- The exchange has one order of this client id.
  have hone : ∀ id, HasOrder w.orders e.orderLinkId id → id = e.orderId := by
    rintro id ⟨o', ho', hlink', rfl⟩
    rw [List.inj_on_of_nodup_map h.links ho' ho (hlink'.trans hlink.symm), horderId]
  -- What is on record and this execution are fills of it.
  have hfits : totalQuantity (w.store.executionsOf e.orderLinkId) + e.quantity ≤
      o.request.quantity := by
    have hnodup : (w.store.executionsOf e.orderLinkId ++ [e]).Nodup := by
      rw [List.nodup_append]
      refine ⟨(w.store.recordedExecutions_nodup.of_map _).filter _, List.nodup_singleton e, ?_⟩
      rintro e₁ he₁ e₂ he₂ rfl
      rw [List.mem_singleton] at he₂
      obtain ⟨hrecorded, -⟩ := List.mem_filter.mp he₁
      exact OptionSpreadStore.hasExecution_eq_false.mp hnew e₁ hrecorded (by rw [he₂])
    have hsubset : w.store.executionsOf e.orderLinkId ++ [e] ⊆ o.fills := by
      intro e₁ he₁
      rcases List.mem_append.mp he₁ with he₁ | he₁
      · obtain ⟨hrecorded, hlink₁⟩ := List.mem_filter.mp he₁
        rw [decide_eq_true_iff] at hlink₁
        obtain ⟨o', ho', hlink', he'⟩ := h.recorded r hr e₁ hrecorded (by rwa [hlink₁])
        rw [List.inj_on_of_nodup_map h.links ho ho' (by
          rw [hlink, hlink', hlink₁])]
        exact he'
      · rw [List.mem_singleton.mp he₁]
        exact he
    calc totalQuantity (w.store.executionsOf e.orderLinkId) + e.quantity
        = totalQuantity (w.store.executionsOf e.orderLinkId ++ [e]) := by
          rw [totalQuantity_append]
          simp [totalQuantity]
      _ ≤ totalQuantity o.fills := totalQuantity_le_of_subset hnodup hsubset
      _ ≤ o.request.quantity := o.within
  rcases hleg with hlong | hshort
  · obtain ⟨request, hload, hsym, hbuy, hquantity⟩ := hbacked.long
    rw [← hlong, hintent] at hload
    obtain rfl := Option.some.inj hload
    refine accepts_longExecution hlong (hsymbol.trans hsym) (hside.trans hbuy) (o.fees e he)
      (fun id hid => hone id (hlong ▸ hbacked.longId id hid)) ?_ updatedAt
    have hrecorded := hbalanced.long
    rw [hbecomes.longOrderLinkId, ← hlong] at hrecorded
    calc s.longFilledQuantity + e.quantity ≤ r.longFilledQuantity + e.quantity :=
          add_le_add_left hbecomes.longFilledQuantity _
      _ ≤ s.requestedQuantity := by rw [hrecorded, ← hquantity]; exact hfits
  · obtain ⟨request, hload, hsym, hsell, hquantity⟩ := hbacked.short _ hshort.symm
    rw [hintent] at hload
    obtain rfl := Option.some.inj hload
    refine accepts_shortExecution hshort (fun hlong => ?_) (hsymbol.trans hsym)
      (hside.trans hsell) (o.fees e he)
      (fun id hid => hone id (hbacked.shortId id hid _ hshort.symm)) ?_ updatedAt
    · rw [hlong] at hshort
      exact long_ne_short hshort
    · have hrecorded := hbalanced.short _ (hbecomes.shortOrderLinkId _ hshort.symm)
      calc s.shortFilledQuantity + e.quantity ≤ r.shortFilledQuantity + e.quantity :=
            add_le_add_left hbecomes.shortFilledQuantity _
        _ ≤ o.request.quantity := by rw [hrecorded]; exact hfits
        _ ≤ s.longFilledQuantity := hquantity

end CreditHedge
