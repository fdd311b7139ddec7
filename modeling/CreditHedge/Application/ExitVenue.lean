import CreditHedge.Application.ExitRecording

/-!
# The exits of a level at the exchange

The world of the services with what happens to the exit orders at the exchange in it: which fills
there have been, and with which orders the exchange is done. Between two calls of the services
anything may happen there that an exchange can do (`Honest`), and its list of open orders may
leave out what it has only just taken on.

`Moves` is the relation all services move this world along. It has two halves. `Evolves` is what
time alone shows: a row only ever gets a later version, a closed row stays, an ended order has no
further fill. `SoundVenue` is the invariant: the books of every level are the sums of its recorded
fills, and every exit order ever persisted for a level is either one its row still knows of, or
*gone*. What gone means is a parameter, because it is the question: a replaced stop is forgotten
by its row, and it depends on the exchange whether anything is lost with it.
-/

set_option autoImplicit false

namespace CreditHedge

open Coroutine

/-- The services' world, the fills of exit orders at the exchange, the client ids it is done with
    (filled, cancelled or never taken on), and whose exit each persisted order is. -/
structure Venue where
  world : World
  fills : List ExecutionUpdate
  ended : List String
  exits : List (String × String)

/-- What the outside world does until it answers, and its answers. -/
structure Response where
  answers : Answers := {}
  fills : List ExecutionUpdate := []
  ends : List String := []

instance : Inhabited Response := ⟨{}⟩

/-- The level and the client id of the exit order whose intent this call persists. -/
def Call.exit? : Call → Option (String × String)
  | .persistProtectionIntent request snapshot _ =>
    some (snapshot.entryOrderLinkId, request.orderLinkId)
  | .persistTakeProfitIntent _ request snapshot _ =>
    some (snapshot.entryOrderLinkId, request.orderLinkId)
  | .persistReplacementStopIntent _ request snapshot _ =>
    some (snapshot.entryOrderLinkId, request.orderLinkId)
  | _ => none

namespace Venue

abbrev store (v : Venue) : SqliteExecutionStore := v.world.store

abbrev rows (v : Venue) : List ProtectionSnapshot := v.world.store.protectionSnapshots.rows

def Recorded (v : Venue) (e : ExecutionUpdate) : Prop := v.store.hasExecution e.executionId = true

instance (v : Venue) (e : ExecutionUpdate) : Decidable (v.Recorded e) :=
  inferInstanceAs (Decidable (_ = _))

/-- The exchange has gone on. -/
def after (v : Venue) (r : Response) : Venue :=
  { v with fills := v.fills ++ r.fills, ended := v.ended ++ r.ends }

/-- The services' side of a call. -/
def served (v : Venue) (call : Call) (answered : Except Failure call.Result × World) : Venue :=
  { v with
    world := answered.2
    exits := v.exits ++ if answered.1.isOk then call.exit?.toList else [] }

end Venue

def handleAt (r : Response) (call : Call) (v : Venue) : Except Failure call.Result × Venue :=
  ((handle r.answers call v.world).1,
    (v.after r).served call (handle r.answers call v.world))

/-! ## What an exchange can do -/

/-- The exchange can fill this order: it has taken it on and is not done with it. -/
structure Fillable (orderIdOf : String → String) (v : Venue) (e : ExecutionUpdate) : Prop where
  accepted : v.world.Accepted e.orderLinkId
  live : e.orderLinkId ∉ v.ended
  symbol : e.symbol = "ETHUSDT"
  side : e.side = .buy
  orderId : e.orderId = orderIdOf e.orderLinkId

/-- Fills of live orders only, each reported under an id no other execution has; one order id for
    each client id; and no order is listed as open that was not taken on, or that the exchange is
    done with. -/
structure Honest (orderIdOf : String → String) (r : Response) (v : Venue) : Prop where
  fills : ∀ e ∈ r.fills, Fillable orderIdOf v e
  fresh : ((v.fills ++ r.fills).map fun e => e.executionId).Nodup
  unrecorded : ∀ e ∈ r.fills, ¬ v.Recorded e
  found : ∀ answer ∈ r.answers.found.toOption, ∀ order ∈ answer,
    order.orderId = orderIdOf order.orderLinkId
  listed : ∀ orders ∈ r.answers.openOrders.toOption, ∀ order ∈ orders,
    v.world.Accepted order.orderLinkId ∧ order.orderLinkId ∉ (v.after r).ended

/-! ## Along the time -/

def IsClosed (p : ProtectionSnapshot) : Prop := p.state = .closedTp ∨ p.state = .closedStop

structure Evolves (v v' : Venue) : Prop where
  fills : v.fills ⊆ v'.fills
  quiet : ∀ e ∈ v'.fills, e ∈ v.fills ∨ e.orderLinkId ∉ v.ended
  ended : v.ended ⊆ v'.ended
  recorded : ∀ e, v.Recorded e → v'.Recorded e
  rows : v.store.protectionSnapshots.Advances (fun p => p.version) v'.store.protectionSnapshots
  closed : ∀ p ∈ v.rows, IsClosed p → p ∈ v'.rows
  exits : v.exits ⊆ v'.exits
  exitsOf : ∀ p ∈ v.rows, p ∈ v'.rows → ∀ id, (p.entryOrderLinkId, id) ∈ v'.exits →
    (p.entryOrderLinkId, id) ∈ v.exits

theorem Venue.row_unique {v : Venue} {p q : ProtectionSnapshot} (hp : p ∈ v.rows) (hq : q ∈ v.rows)
    (h : p.entryOrderLinkId = q.entryOrderLinkId) : p = q :=
  KeyedTable.eq_of_key hp hq h

theorem Evolves.refl (v : Venue) : Evolves v v where
  fills := List.Subset.refl _
  quiet := fun _ h => .inl h
  ended := List.Subset.refl _
  recorded := fun _ h => h
  rows := .refl _
  closed := fun _ hp _ => hp
  exits := List.Subset.refl _
  exitsOf := fun _ _ _ _ h => h

/-- A row that is there before and after was there all the time. -/
theorem Evolves.between {v v' v'' : Venue} (h : Evolves v v') (h' : Evolves v' v'')
    {p : ProtectionSnapshot} (hp : p ∈ v.rows) (hp'' : p ∈ v''.rows) : p ∈ v'.rows :=
  (h.rows p hp).mem_of_later h'.rows hp''

theorem Evolves.trans {v v' v'' : Venue} (h : Evolves v v') (h' : Evolves v' v'') :
    Evolves v v'' where
  fills := List.Subset.trans h.fills h'.fills
  quiet := by
    intro e he
    rcases h'.quiet e he with he | hlive
    · exact h.quiet e he
    · exact .inr fun hended => hlive (h.ended hended)
  ended := List.Subset.trans h.ended h'.ended
  recorded := fun e he => h'.recorded e (h.recorded e he)
  rows := h.rows.trans h'.rows
  closed := fun p hp hc => h'.closed p (h.closed p hp hc) hc
  exits := List.Subset.trans h.exits h'.exits
  exitsOf := fun p hp hp'' id hid =>
    h.exitsOf p hp (h.between h' hp hp'') id (h'.exitsOf p (h.between h' hp hp'') hp'' id hid)

/-- The snapshot is the level's row, or was before. -/
abbrev Venue.Seen (v : Venue) (p : ProtectionSnapshot) : Prop :=
  v.store.protectionSnapshots.Seen (fun p => p.version) p

theorem Venue.Seen.of_mem {v : Venue} {p : ProtectionSnapshot} (h : p ∈ v.rows) : v.Seen p :=
  KeyedTable.Seen.of_mem h

theorem Venue.Seen.evolves {v v' : Venue} {p : ProtectionSnapshot} (h : v.Seen p)
    (he : Evolves v v') : v'.Seen p :=
  KeyedTable.Seen.advances h he.rows

/-! ## The invariant -/

instance lawfulExits : LawfulBEq (String × String) := inferInstance

/-- What the recorded fills of a level's exits add up to. -/
def Venue.recordedQuantity (v : Venue) (key : String) : ℚ :=
  (v.store.executions.rows.map fun row =>
    if (key, row.execution.orderLinkId) ∈ v.exits then row.execution.quantity else 0).sum

/-- The confirmed order ids of a row are the exchange's. -/
structure OrderIds (orderIdOf : String → String) (p : ProtectionSnapshot) : Prop where
  stop : ∀ id ∈ p.stopOrderId, id = orderIdOf p.stopOrderLinkId
  tp : ∀ link ∈ p.tpOrderLinkId, ∀ id ∈ p.tpOrderId, id = orderIdOf link

structure SoundVenue (orderIdOf : String → String) (gone : Venue → String → Prop) (v : Venue) :
    Prop where
  known : ∀ key id, (key, id) ∈ v.exits → v.store.Known id
  unique : ∀ key key' id, (key, id) ∈ v.exits → (key', id) ∈ v.exits → key = key'
  owner : ∀ key id, (key, id) ∈ v.exits → ∃ p ∈ v.rows, p.entryOrderLinkId = key
  covers : ∀ p ∈ v.rows, ∀ id, IsExitOf p id → (p.entryOrderLinkId, id) ∈ v.exits
  current : ∀ p ∈ v.rows, ∀ id, (p.entryOrderLinkId, id) ∈ v.exits → IsExitOf p id ∨ gone v id
  books : ∀ p ∈ v.rows, p.openQuantity = p.entryQuantity - v.recordedQuantity p.entryOrderLinkId
  orderIds : ∀ p ∈ v.rows, OrderIds orderIdOf p
  recordedFills : ∀ row ∈ v.store.executions.rows, ∀ key,
    (key, row.execution.orderLinkId) ∈ v.exits → row.execution ∈ v.fills
  executionIds : ∀ row ∈ v.store.executions.rows, ∀ e ∈ v.fills,
    row.execution.executionId = e.executionId → row.execution = e
  fillIds : (v.fills.map fun e => e.executionId).Nodup
  fillOrders : ∀ e ∈ v.fills,
    e.symbol = "ETHUSDT" ∧ e.side = .buy ∧ e.orderId = orderIdOf e.orderLinkId

/-- **How the services move the venue.** -/
structure Moves (orderIdOf : String → String) (gone : Venue → String → Prop) (v v' : Venue) :
    Prop where
  evolves : Evolves v v'
  sound : SoundVenue orderIdOf gone v → SoundVenue orderIdOf gone v'

theorem hasExecution_of_mem {store : SqliteExecutionStore} {row : ExecutionRow} {id : String}
    (h : row ∈ store.executions.rows) (hid : row.execution.executionId = id) :
    store.hasExecution id = true := by
  rw [← hid]
  exact Option.isSome_iff_exists.mpr ⟨row, KeyedTable.find_of_mem h⟩

section Moving

variable {orderIdOf : String → String} {gone : Venue → String → Prop}

theorem Moves.refl (v : Venue) : Moves orderIdOf gone v v := ⟨.refl v, id⟩

theorem Moves.trans {v v' v'' : Venue} (h : Moves orderIdOf gone v v')
    (h' : Moves orderIdOf gone v' v'') : Moves orderIdOf gone v v'' :=
  ⟨h.evolves.trans h'.evolves, fun hs => h'.sound (h.sound hs)⟩

/-- Gone is gone: whatever it means, it must not be undone. -/
def Lasting (gone : Venue → String → Prop) : Prop :=
  ∀ v v' id, Evolves v v' → gone v id → gone v' id

variable (hgone : Lasting gone)

include hgone

/-- The exchange by itself. -/
theorem moves_after {v : Venue} {r : Response} (h : Honest orderIdOf r v) :
    Moves orderIdOf gone v (v.after r) := by
  have hevolves : Evolves v (v.after r) :=
    { fills := List.subset_append_left _ _
      quiet := fun e he => (List.mem_append.mp he).imp_right fun he => (h.fills e he).live
      ended := List.subset_append_left _ _
      recorded := fun _ he => he
      rows := .refl _
      closed := fun _ hp _ => hp
      exits := List.Subset.refl _
      exitsOf := fun _ _ _ _ hid => hid }
  refine ⟨hevolves, fun hs => ?_⟩
  exact
    { known := hs.known, unique := hs.unique, owner := hs.owner, covers := hs.covers
      current := fun p hp id hid => (hs.current p hp id hid).imp_right (hgone _ _ _ hevolves)
      books := hs.books, orderIds := hs.orderIds
      recordedFills := fun row hrow key hid =>
        List.mem_append_left _ (hs.recordedFills row hrow key hid)
      executionIds := fun row hrow e he hid => by
        rcases List.mem_append.mp he with he | he
        · exact hs.executionIds row hrow e he hid
        · exact absurd (hasExecution_of_mem hrow hid) (h.unrecorded e he)
      fillIds := h.fresh
      fillOrders := fun e he => by
        rcases List.mem_append.mp he with he | he
        · exact hs.fillOrders e he
        · exact ⟨(h.fills e he).symbol, (h.fills e he).side, (h.fills e he).orderId⟩ }

/-- A call that writes nothing an exit depends on. -/
theorem moves_of_quiet {v : Venue} {w : World}
    (hrows : w.store.protectionSnapshots = v.store.protectionSnapshots)
    (hexecutions : w.store.executions = v.store.executions)
    (hknown : ∀ id, v.store.Known id → w.store.Known id) :
    Moves orderIdOf gone v { v with world := w } := by
  have hrows' : ({ v with world := w } : Venue).rows = v.rows := congrArg KeyedTable.rows hrows
  have hevolves : Evolves v { v with world := w } :=
    { fills := List.Subset.refl _
      quiet := fun _ he => .inl he
      ended := List.Subset.refl _
      recorded := fun e he => by
        unfold Venue.Recorded SqliteExecutionStore.hasExecution at he ⊢
        rw [show ({ v with world := w } : Venue).store.executions = v.store.executions from
          hexecutions]
        exact he
      rows := by
        rw [show ({ v with world := w } : Venue).store.protectionSnapshots =
          v.store.protectionSnapshots from hrows]
        exact .refl _
      closed := fun p hp _ => by rw [hrows']; exact hp
      exits := List.Subset.refl _
      exitsOf := fun _ _ _ _ hid => hid }
  refine ⟨hevolves, fun hs => ?_⟩
  have hquantity : ∀ key, ({ v with world := w } : Venue).recordedQuantity key =
      v.recordedQuantity key := fun key => by
    unfold Venue.recordedQuantity
    rw [show ({ v with world := w } : Venue).store.executions = v.store.executions from
      hexecutions]
  exact
    { known := fun key id hid => hknown id (hs.known key id hid)
      unique := hs.unique
      owner := by rw [hrows']; exact hs.owner
      covers := by rw [hrows']; exact hs.covers
      current := by
        rw [hrows']
        exact fun p hp id hid => (hs.current p hp id hid).imp_right (hgone _ _ _ hevolves)
      books := by
        rw [hrows']
        intro p hp
        rw [hquantity]
        exact hs.books p hp
      orderIds := by rw [hrows']; exact hs.orderIds
      recordedFills := by
        rw [show ({ v with world := w } : Venue).store.executions = v.store.executions from
          hexecutions]
        exact hs.recordedFills
      executionIds := by
        rw [show ({ v with world := w } : Venue).store.executions = v.store.executions from
          hexecutions]
        exact hs.executionIds
      fillIds := hs.fillIds
      fillOrders := hs.fillOrders }

omit hgone in
/-- A row, `p`, becomes its successor `s`; with it, intents for the exit orders `new`. -/
structure Rewrites (orderIdOf : String → String) (gone : Venue → String → Prop) (v v' : Venue)
    (p s : ProtectionSnapshot) (new : List String) : Prop where
  mem : p ∈ v.rows
  live : ¬ IsClosed p
  entry : s.entryOrderLinkId = p.entryOrderLinkId
  version : s.version = p.version + 1
  rows : v'.rows = v.rows.map fun q =>
    if q.entryOrderLinkId = s.entryOrderLinkId then s else q
  fills : v'.fills = v.fills
  ended : v'.ended = v.ended
  exits : v'.exits = v.exits ++ new.map fun id => (p.entryOrderLinkId, id)
  known : ∀ id, v.store.Known id → v'.store.Known id
  fresh : ∀ id ∈ new, ¬ v.store.Known id ∧ v'.store.Known id ∧ IsExitOf s id
  gained : ∀ id, IsExitOf s id → IsExitOf p id ∨ id ∈ new
  lost : ∀ id, IsExitOf p id → IsExitOf s id ∨ gone v id
  entryQuantity : s.entryQuantity = p.entryQuantity
  orderIds : OrderIds orderIdOf p → OrderIds orderIdOf s
  recorded : ∀ e, v.Recorded e → v'.Recorded e

section Rewriting

variable {v v' : Venue} {p s : ProtectionSnapshot} {new : List String}

omit hgone

theorem Rewrites.mem_rows (h : Rewrites orderIdOf gone v v' p s new) {q : ProtectionSnapshot} :
    q ∈ v'.rows ↔ q = s ∨ q ∈ v.rows ∧ q.entryOrderLinkId ≠ p.entryOrderLinkId := by
  rw [h.rows, List.mem_map]
  constructor
  · rintro ⟨r, hr, rfl⟩
    split
    · exact .inl rfl
    · rename_i hne
      exact .inr ⟨hr, fun hkey => hne (hkey.trans h.entry.symm)⟩
  · rintro (rfl | ⟨hq, hne⟩)
    · exact ⟨p, h.mem, if_pos h.entry.symm⟩
    · exact ⟨q, hq, if_neg fun hkey => hne (hkey.trans h.entry)⟩

theorem Rewrites.mem_exits (h : Rewrites orderIdOf gone v v' p s new) {key id : String} :
    (key, id) ∈ v'.exits ↔ (key, id) ∈ v.exits ∨ key = p.entryOrderLinkId ∧ id ∈ new := by
  rw [h.exits, List.mem_append, List.mem_map]
  refine or_congr_right ⟨?_, ?_⟩
  · rintro ⟨id', hid', heq⟩
    obtain ⟨rfl, rfl⟩ := Prod.mk.inj heq
    exact ⟨rfl, hid'⟩
  · rintro ⟨rfl, hid⟩
    exact ⟨id, hid, rfl⟩

theorem Rewrites.evolves (h : Rewrites orderIdOf gone v v' p s new) : Evolves v v' where
  fills := by rw [h.fills]; exact List.Subset.refl _
  quiet := fun e he => .inl (by rwa [h.fills] at he)
  ended := by rw [h.ended]; exact List.Subset.refl _
  recorded := h.recorded
  rows := by
    intro q hq
    by_cases hkey : q.entryOrderLinkId = p.entryOrderLinkId
    · have hqp : q = p := Venue.row_unique hq h.mem hkey
      subst hqp
      refine ⟨s, h.mem_rows.mpr (.inl rfl), h.entry, .inr ?_⟩
      show q.version < s.version
      rw [h.version]
      omega
    · exact .of_mem (h.mem_rows.mpr (.inr ⟨hq, hkey⟩))
  closed := by
    intro q hq hclosed
    refine h.mem_rows.mpr (.inr ⟨hq, fun hkey => h.live ?_⟩)
    rwa [← Venue.row_unique hq h.mem hkey]
  exits := by rw [h.exits]; exact List.subset_append_left _ _
  exitsOf := by
    intro q hq hq' id hid
    rcases h.mem_exits.mp hid with hid | ⟨hkey, -⟩
    · exact hid
    · -- The row under this key is the successor, and that is a later version.
      have hqp : q = p := Venue.row_unique hq h.mem hkey
      subst hqp
      rcases h.mem_rows.mp hq' with heq | ⟨-, hne⟩
      · exact absurd (congrArg (fun r : ProtectionSnapshot => r.version) heq)
          (by simp only [h.version]; omega)
      · exact absurd rfl hne

include hgone

/-- **The invariant survives a rewritten row**, if its books are those of the recorded fills. -/
theorem Rewrites.moves (h : Rewrites orderIdOf gone v v' p s new)
    (hquantity : SoundVenue orderIdOf gone v → ∀ key, v'.recordedQuantity key =
      v.recordedQuantity key + if key = p.entryOrderLinkId then p.openQuantity - s.openQuantity
        else 0)
    (hrecorded : SoundVenue orderIdOf gone v → ∀ row ∈ v'.store.executions.rows, ∀ key,
      (key, row.execution.orderLinkId) ∈ v'.exits → row.execution ∈ v.fills)
    (hids : SoundVenue orderIdOf gone v → ∀ row ∈ v'.store.executions.rows, ∀ e ∈ v.fills,
      row.execution.executionId = e.executionId → row.execution = e) :
    Moves orderIdOf gone v v' := by
  refine ⟨h.evolves, fun hs => ?_⟩
  have hknownExits : ∀ key id, (key, id) ∈ v.exits → id ∉ new := fun key id hid hnew =>
    (h.fresh id hnew).1 (hs.known key id hid)
  exact
    { known := fun key id hid => by
        rcases h.mem_exits.mp hid with hid | ⟨-, hnew⟩
        · exact h.known id (hs.known key id hid)
        · exact (h.fresh id hnew).2.1
      unique := fun key key' id hid hid' => by
        rcases h.mem_exits.mp hid with hid | ⟨rfl, hnew⟩
        · rcases h.mem_exits.mp hid' with hid' | ⟨-, hnew'⟩
          · exact hs.unique key key' id hid hid'
          · exact absurd hnew' (hknownExits key id hid)
        · rcases h.mem_exits.mp hid' with hid' | ⟨rfl, -⟩
          · exact absurd hnew (hknownExits key' id hid')
          · rfl
      owner := fun key id hid => by
        rcases h.mem_exits.mp hid with hid | ⟨rfl, -⟩
        · obtain ⟨q, hq, rfl⟩ := hs.owner key id hid
          obtain ⟨q', hq', hkey, -⟩ := h.evolves.rows q hq
          exact ⟨q', hq', hkey⟩
        · exact ⟨s, h.mem_rows.mpr (.inl rfl), h.entry⟩
      covers := fun q hq id hid => by
        rcases h.mem_rows.mp hq with rfl | ⟨hq, -⟩
        · rw [h.entry]
          rcases h.gained id hid with hold | hnew
          · exact h.mem_exits.mpr (.inl (hs.covers p h.mem id hold))
          · exact h.mem_exits.mpr (.inr ⟨rfl, hnew⟩)
        · exact h.mem_exits.mpr (.inl (hs.covers q hq id hid))
      current := fun q hq id hid => by
        rcases h.mem_rows.mp hq with rfl | ⟨hq, hne⟩
        · rw [h.entry] at hid
          rcases h.mem_exits.mp hid with hid | ⟨-, hnew⟩
          · rcases hs.current p h.mem id hid with hold | hold
            · exact (h.lost id hold).imp_right (hgone _ _ _ h.evolves)
            · exact .inr (hgone _ _ _ h.evolves hold)
          · exact .inl (h.fresh id hnew).2.2
        · rcases h.mem_exits.mp hid with hid | ⟨hkey, -⟩
          · exact (hs.current q hq id hid).imp_right (hgone _ _ _ h.evolves)
          · exact absurd hkey hne
      books := fun q hq => by
        rw [hquantity hs]
        rcases h.mem_rows.mp hq with rfl | ⟨hq, hne⟩
        · have hbooks := hs.books p h.mem
          rw [if_pos h.entry, h.entry, h.entryQuantity]
          linarith
        · rw [if_neg hne, add_zero]
          exact hs.books q hq
      orderIds := fun q hq => by
        rcases h.mem_rows.mp hq with rfl | ⟨hq, -⟩
        · exact h.orderIds (hs.orderIds p h.mem)
        · exact hs.orderIds q hq
      recordedFills := by rw [h.fills]; exact hrecorded hs
      executionIds := by rw [h.fills]; exact hids hs
      fillIds := by rw [h.fills]; exact hs.fillIds
      fillOrders := by rw [h.fills]; exact hs.fillOrders }

/-- A rewrite that records nothing and leaves the open quantity alone. -/
theorem Rewrites.moves_unfilled (h : Rewrites orderIdOf gone v v' p s new)
    (hopen : s.openQuantity = p.openQuantity)
    (hexecutions : v'.store.executions = v.store.executions) : Moves orderIdOf gone v v' := by
  -- No fill can have been recorded for an order whose intent is only now persisted.
  have hsame : SoundVenue orderIdOf gone v → ∀ row ∈ v.store.executions.rows, ∀ key,
      (key, row.execution.orderLinkId) ∈ v'.exits ↔ (key, row.execution.orderLinkId) ∈ v.exits := by
    intro hs row hrow key
    rw [h.mem_exits]
    refine or_iff_left fun hnew => (h.fresh _ hnew.2).1 ?_
    exact v.store.constraints.executionIntents _ (List.mem_map_of_mem hrow)
  refine h.moves hgone (fun hs key => ?_) (fun hs row hrow key hid => ?_)
    fun hs row hrow => hs.executionIds row (hexecutions ▸ hrow)
  · have hzero : (if key = p.entryOrderLinkId then p.openQuantity - s.openQuantity else 0) = 0 := by
      rw [hopen, sub_self, ite_self]
    rw [hzero, add_zero]
    unfold Venue.recordedQuantity
    rw [hexecutions]
    refine congrArg List.sum (List.map_congr_left fun row hrow => ?_)
    simp only [hsame hs row hrow key]
  · rw [hexecutions] at hrow
    exact hs.recordedFills row hrow key ((hsame hs row hrow key).mp hid)

omit hgone in
theorem hasExecution_append {store store' : SqliteExecutionStore} {row : ExecutionRow}
    (h : store'.executions.rows = store.executions.rows ++ [row]) {id : String}
    (hid : store.hasExecution id = true) : store'.hasExecution id = true := by
  unfold SqliteExecutionStore.hasExecution KeyedTable.find at hid ⊢
  rw [h, List.find?_append]
  exact Option.isSome_or.trans (by rw [hid, Bool.true_or])

/-- A rewrite that records one fill of the row's own exits. -/
theorem Rewrites.moves_filled (h : Rewrites orderIdOf gone v v' p s []) {e : ExecutionUpdate}
    {row : ExecutionRow} (hopen : s.openQuantity = p.openQuantity - e.quantity)
    (hexit : IsExitOf p e.orderLinkId) (he : e ∈ v.fills) (hrow : row.execution = e)
    (hexecutions : v'.store.executions.rows = v.store.executions.rows ++ [row]) :
    Moves orderIdOf gone v v' := by
  have hexits : ∀ key id, (key, id) ∈ v'.exits ↔ (key, id) ∈ v.exits := fun key id => by
    rw [h.mem_exits]
    exact or_iff_left fun hnew => absurd hnew.2 (by simp)
  have howner : SoundVenue orderIdOf gone v → ∀ key,
      (key, e.orderLinkId) ∈ v.exits ↔ key = p.entryOrderLinkId := by
    intro hs key
    have hown := hs.covers p h.mem _ hexit
    exact ⟨fun hid => hs.unique _ _ _ hid hown, fun hkey => hkey ▸ hown⟩
  refine h.moves hgone (fun hs key => ?_) (fun hs x hx key hid => ?_) fun hs x hx e' he' hid => ?_
  · unfold Venue.recordedQuantity
    rw [hexecutions]
    simp only [hexits, List.map_append, List.map_singleton, List.sum_append, List.sum_singleton,
      hrow, howner hs key, hopen, sub_sub_cancel]
  · rw [hexecutions, List.mem_append, List.mem_singleton] at hx
    rcases hx with hx | rfl
    · exact hs.recordedFills x hx key ((hexits _ _).mp hid)
    · rw [hrow]
      exact he
  · rw [hexecutions, List.mem_append, List.mem_singleton] at hx
    rcases hx with hx | rfl
    · exact hs.executionIds x hx e' he' hid
    · rw [hrow] at hid ⊢
      exact List.inj_on_of_nodup_map hs.fillIds he he' hid

/-- A level's first row, with the intent of its stop. -/
theorem moves_of_insert {stopId : String} (hrows : v'.rows = v.rows ++ [s])
    (hnew : ∀ q ∈ v.rows, q.entryOrderLinkId ≠ s.entryOrderLinkId)
    (hfills : v'.fills = v.fills) (hended : v'.ended = v.ended)
    (hexits : v'.exits = v.exits ++ [(s.entryOrderLinkId, stopId)])
    (hunknown : ¬ v.store.Known stopId)
    (hknown : ∀ id, v'.store.Known id ↔ id = stopId ∨ v.store.Known id)
    (hexecutions : v'.store.executions = v.store.executions)
    (hstop : s.stopOrderLinkId = stopId) (htp : s.tpOrderLinkId = none)
    (hstopOrder : s.stopOrderId = none) (hopen : s.openQuantity = s.entryQuantity) :
    Moves orderIdOf gone v v' := by
  have hmem : ∀ key id, (key, id) ∈ v'.exits ↔
      (key, id) ∈ v.exits ∨ key = s.entryOrderLinkId ∧ id = stopId := fun key id => by
    rw [hexits, List.mem_append, List.mem_singleton, Prod.mk.injEq]
  have hmemRows : ∀ q, q ∈ v'.rows ↔ q ∈ v.rows ∨ q = s := fun q => by
    rw [hrows, List.mem_append, List.mem_singleton]
  have hevolves : Evolves v v' :=
    { fills := by rw [hfills]; exact List.Subset.refl _
      quiet := fun e he => .inl (by rwa [hfills] at he)
      ended := by rw [hended]; exact List.Subset.refl _
      recorded := fun e he => by
        unfold Venue.Recorded SqliteExecutionStore.hasExecution at he ⊢
        rwa [hexecutions]
      rows := fun q hq => .of_mem ((hmemRows q).mpr (.inl hq))
      closed := fun q hq _ => (hmemRows q).mpr (.inl hq)
      exits := by rw [hexits]; exact List.subset_append_left _ _
      exitsOf := fun q hq _ id hid =>
        ((hmem _ _).mp hid).resolve_right fun h => hnew q hq h.1 }
  refine ⟨hevolves, fun hs => ?_⟩
  have hnoExits : ∀ id, (s.entryOrderLinkId, id) ∉ v.exits := fun id hid => by
    obtain ⟨q, hq, hkey⟩ := hs.owner _ _ hid
    exact hnew q hq hkey
  have hexitOf : ∀ id, IsExitOf s id ↔ id = stopId := fun id => by
    unfold IsExitOf
    rw [hstop, htp]
    simp
  have hlinks : ∀ row ∈ v.store.executions.rows, row.execution.orderLinkId ≠ stopId := by
    intro row hrow heq
    have := v.store.constraints.executionIntents _ (List.mem_map_of_mem hrow)
    rw [heq] at this
    exact hunknown this
  have hquantity : ∀ key, v'.recordedQuantity key = v.recordedQuantity key := fun key => by
    unfold Venue.recordedQuantity
    rw [hexecutions]
    refine congrArg List.sum (List.map_congr_left fun row hrow => ?_)
    have hiff : (key, row.execution.orderLinkId) ∈ v'.exits ↔
        (key, row.execution.orderLinkId) ∈ v.exits := by
      rw [hmem]
      exact or_iff_left fun h => hlinks row hrow h.2
    simp only [hiff]
  have hzero : v.recordedQuantity s.entryOrderLinkId = 0 := by
    refine List.sum_eq_zero fun x hx => ?_
    obtain ⟨row, -, rfl⟩ := List.mem_map.mp hx
    exact if_neg (hnoExits _)
  exact
    { known := fun key id hid => (hknown id).mpr <| by
        rcases (hmem key id).mp hid with hid | ⟨-, rfl⟩
        · exact .inr (hs.known key id hid)
        · exact .inl rfl
      unique := fun key key' id hid hid' => by
        rcases (hmem key id).mp hid with hid | ⟨rfl, rfl⟩
        · rcases (hmem key' id).mp hid' with hid' | ⟨-, rfl⟩
          · exact hs.unique key key' id hid hid'
          · exact absurd (hs.known key _ hid) hunknown
        · rcases (hmem key' _).mp hid' with hid' | ⟨rfl, -⟩
          · exact absurd (hs.known key' _ hid') hunknown
          · rfl
      owner := fun key id hid => by
        rcases (hmem key id).mp hid with hid | ⟨rfl, -⟩
        · obtain ⟨q, hq, hkey⟩ := hs.owner key id hid
          exact ⟨q, (hmemRows q).mpr (.inl hq), hkey⟩
        · exact ⟨s, (hmemRows s).mpr (.inr rfl), rfl⟩
      covers := fun q hq id hid => (hmem _ _).mpr <| by
        rcases (hmemRows q).mp hq with hq | rfl
        · exact .inl (hs.covers q hq id hid)
        · exact .inr ⟨rfl, (hexitOf id).mp hid⟩
      current := fun q hq id hid => by
        rcases (hmemRows q).mp hq with hq | rfl
        · rcases (hmem _ _).mp hid with hid | ⟨hkey, -⟩
          · exact (hs.current q hq id hid).imp_right (hgone _ _ _ hevolves)
          · exact absurd hkey (hnew q hq)
        · rcases (hmem _ _).mp hid with hid | ⟨-, hid⟩
          · exact absurd hid (hnoExits id)
          · exact .inl ((hexitOf id).mpr hid)
      books := fun q hq => by
        rw [hquantity]
        rcases (hmemRows q).mp hq with hq | rfl
        · exact hs.books q hq
        · rw [hzero, sub_zero]
          exact hopen
      orderIds := fun q hq => by
        rcases (hmemRows q).mp hq with hq | rfl
        · exact hs.orderIds q hq
        · exact ⟨by rw [hstopOrder]; simp, by rw [htp]; simp⟩
      recordedFills := fun row hrow key hid => by
        rw [hexecutions] at hrow
        rw [hfills]
        rcases (hmem _ _).mp hid with hid | ⟨-, hlink⟩
        · exact hs.recordedFills row hrow key hid
        · exact absurd hlink (hlinks row hrow)
      executionIds := by rw [hexecutions, hfills]; exact hs.executionIds
      fillIds := by rw [hfills]; exact hs.fillIds
      fillOrders := by rw [hfills]; exact hs.fillOrders }

end Rewriting

end Moving

end CreditHedge
