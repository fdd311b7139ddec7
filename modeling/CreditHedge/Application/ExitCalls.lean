import CreditHedge.Application.ExitVenue

/-!
# The exit services, call by call

Every call of `install_stop`, `install_take_profit`, `restore_stop`, `apply_exit_execution` and
`reconcile_after_exit` moves the venue along `Moves`, and so does every interleaving of them. What
makes the writes safe is the compare-and-swap: a task that writes over a snapshot it has seen
(`Venue.Seen`) either writes over exactly that row or is refused.

One call needs leave from outside: a replacement stop is persisted only if the stop it replaces is
gone (`Replaces`).
-/

set_option autoImplicit false

namespace CreditHedge

open Coroutine ProtectiveExitService

/-- The level whose stop this call replaces. -/
def Call.replaces? : Call → Option String
  | .persistReplacementStopIntent _ _ snapshot _ => some snapshot.entryOrderLinkId
  | _ => none

/-- A replacement stop replaces a stop that is gone. -/
def Replaces (gone : Venue → String → Prop) (call : Call) (v : Venue) : Prop :=
  ∀ key ∈ call.replaces?, ∀ p ∈ v.rows, p.entryOrderLinkId = key → gone v p.stopOrderLinkId

/-- An honest exchange, and no stop replaced too early. -/
structure Admissible (orderIdOf : String → String) (gone : Venue → String → Prop) (r : Response)
    (call : Call) (v : Venue) : Prop where
  honest : Honest orderIdOf r v
  replaces : Replaces gone call (v.after r)

section Calls

variable {orderIdOf : String → String} {gone : Venue → String → Prop} {v : Venue} {r : Response}
  {p s : ProtectionSnapshot}

/-- A write that was refused leaves the store alone. -/
theorem write_error {w : World} {failure : Failure} :
    w.write (.error failure) = (.error failure, w) := rfl

theorem write_ok {w : World} {store : SqliteExecutionStore} :
    w.write (.ok store) = (.ok (), { w with store }) := rfl

theorem served_of_exit_none {call : Call} (h : call.exit? = none)
    (answered : Except Failure call.Result × World) :
    v.served call answered = { v with world := answered.2 } := by
  unfold Venue.served
  rw [h]
  simp

theorem served_error {call : Call} {failure : Failure} {w : World} :
    v.served call (.error failure, w) = { v with world := w } := by
  unfold Venue.served
  simp [Except.isOk, Except.toBool]

theorem served_ok {call : Call} {result : call.Result} {w : World} {key id : String}
    (h : call.exit? = some (key, id)) :
    v.served call (.ok result, w) = { v with world := w, exits := v.exits ++ [(key, id)] } := by
  unfold Venue.served
  rw [h]
  rfl

/-- The snapshot that replaces `p`: the same level, one version on, in the same books. -/
structure Succession (orderIdOf : String → String) (p s : ProtectionSnapshot) : Prop where
  entry : s.entryOrderLinkId = p.entryOrderLinkId
  version : s.version = p.version + 1
  live : ¬ IsClosed p
  entryQuantity : s.entryQuantity = p.entryQuantity
  openQuantity : s.openQuantity = p.openQuantity
  orderIds : OrderIds orderIdOf p → OrderIds orderIdOf s

variable (hgone : Lasting gone) (hhonest : Honest orderIdOf r v)

include hgone hhonest

/-- Calls that write nothing an exit depends on. -/
theorem moves_quiet {call : Call} (hexit : call.exit? = none)
    (hrows : (handle r.answers call v.world).2.store.protectionSnapshots =
      v.store.protectionSnapshots)
    (hexecutions : (handle r.answers call v.world).2.store.executions = v.store.executions)
    (hknown : ∀ id, v.store.Known id → (handle r.answers call v.world).2.store.Known id) :
    Moves orderIdOf gone v (handleAt r call v).2 := by
  refine (moves_after hgone hhonest).trans ?_
  have hserved : (handleAt r call v).2 =
      { v.after r with world := (handle r.answers call v.world).2 } := served_of_exit_none hexit _
  rw [hserved]
  exact moves_of_quiet hgone hrows hexecutions hknown

/-- Calls that leave the world as it is. -/
theorem moves_reading {call : Call} (hexit : call.exit? = none)
    (h : (handle r.answers call v.world).2 = v.world) :
    Moves orderIdOf gone v (handleAt r call v).2 :=
  moves_quiet hgone hhonest hexit (by rw [h]) (by rw [h]) fun id hid => by rw [h]; exact hid

theorem moves_placeOrder (request : PlaceOrderRequest) :
    Moves orderIdOf gone v (handleAt r (.placeOrder request) v).2 := by
  have hstore : (handle r.answers (.placeOrder request) v.world).2.store = v.store := by
    show (if r.answers.takes then v.world.accept _ else v.world).store = _
    split <;> rfl
  exact moves_quiet hgone hhonest rfl (by rw [hstore]) (by rw [hstore])
    fun id hid => by rw [hstore]; exact hid

theorem moves_getOrderByLinkId (category : Category) (symbol id : String) :
    Moves orderIdOf gone v (handleAt r (.getOrderByLinkId category symbol id) v).2 := by
  have hstore : (handle r.answers (.getOrderByLinkId category symbol id) v.world).2.store =
      v.store := by
    show (if r.answers.shows then v.world.accept _ else v.world).store = _
    split <;> rfl
  exact moves_quiet hgone hhonest rfl (by rw [hstore]) (by rw [hstore])
    fun id hid => by rw [hstore]; exact hid

theorem moves_recordAcknowledgement (acknowledgement : OrderRequestAck) :
    Moves orderIdOf gone v (handleAt r (.recordAcknowledgement acknowledgement) v).2 := by
  have hanswer : handle r.answers (.recordAcknowledgement acknowledgement) v.world =
      v.world.write (v.store.recordAcknowledgement acknowledgement) := rfl
  cases hw : v.store.recordAcknowledgement acknowledgement with
  | error failure =>
    rw [hw, write_error] at hanswer
    exact moves_reading hgone hhonest rfl (by rw [hanswer])
  | ok store' =>
    rw [hw, write_ok] at hanswer
    obtain ⟨hknown, hrows, hexecutions⟩ :=
      SqliteExecutionStore.known_of_recordAcknowledgement hw
    exact moves_quiet hgone hhonest rfl (by rw [hanswer]; exact hrows)
      (by rw [hanswer]; exact hexecutions) fun id hid => by rw [hanswer]; exact (hknown id).mpr hid

/-! The compare-and-swaps. -/

omit hgone hhonest in
/-- Over a snapshot that was seen, a swap of its version is a rewrite of its row. -/
theorem rewrites_of_overwrites {v' : Venue} {new : List String} (hseen : v.Seen p)
    (hs : Succession orderIdOf p s)
    (h : SqliteExecutionStore.Overwrites v.store.toTables v'.store.toTables p.version s)
    (hknown : ∀ id, v.store.Known id → v'.store.Known id)
    (hfresh : ∀ id ∈ new, ¬ v.store.Known id ∧ v'.store.Known id ∧ IsExitOf s id)
    (hgained : ∀ id, IsExitOf s id → IsExitOf p id ∨ id ∈ new)
    (hlost : p ∈ v.rows → ∀ id, IsExitOf p id → IsExitOf s id ∨ gone v id)
    (hfills : v'.fills = v.fills) (hended : v'.ended = v.ended)
    (hexits : v'.exits = v.exits ++ new.map fun id => (p.entryOrderLinkId, id)) :
    Rewrites orderIdOf gone v v' p s new := by
  obtain ⟨q, hq, hkey, hversion⟩ := h.previous
  have hp : p ∈ v.rows := KeyedTable.Seen.mem hseen hq (hkey.trans hs.entry) hversion
  exact
    { mem := hp, live := hs.live, entry := hs.entry, version := hs.version, rows := h.rows
      fills := hfills, ended := hended, exits := hexits, known := hknown, fresh := hfresh
      gained := hgained, lost := hlost hp, entryQuantity := hs.entryQuantity
      orderIds := hs.orderIds
      recorded := fun e he => by
        unfold Venue.Recorded SqliteExecutionStore.hasExecution at he ⊢
        rwa [show v'.store.executions = v.store.executions from h.executions] }

omit hgone hhonest in
/-- What a write over a seen snapshot comes to: refused, or the row rewritten. -/
structure Swapped (orderIdOf : String → String) (gone : Venue → String → Prop) (v : Venue)
    (p s : ProtectionSnapshot) (answered : Except Failure Unit × Venue) : Prop where
  moves : Moves orderIdOf gone v answered.2
  written : answered.1 = .ok () →
    p ∈ v.rows ∧ s ∈ answered.2.rows ∧
      ∀ id, (p.entryOrderLinkId, id) ∈ answered.2.exits →
        (p.entryOrderLinkId, id) ∈ v.exits ∨ IsExitOf s id

/-- A write that is refused. -/
theorem swapped_refused {answered : Except Failure Unit × Venue} {failure : Failure}
    (h : answered = (.error failure, v.after r)) : Swapped orderIdOf gone v p s answered := by
  rw [h]
  exact ⟨moves_after hgone hhonest, fun hok => absurd hok (by simp)⟩

/-- A write that rewrites the row. -/
theorem swapped_rewritten {answered : Except Failure Unit × Venue} {v' : Venue}
    {new : List String} (h : answered = (.ok (), v')) (hs : Succession orderIdOf p s)
    (hoverwrites :
      SqliteExecutionStore.Overwrites v.store.toTables v'.store.toTables p.version s)
    (hrewrites : Rewrites orderIdOf gone (v.after r) v' p s new) :
    Swapped orderIdOf gone v p s answered := by
  have hafter := moves_after hgone hhonest
  rw [h]
  refine ⟨hafter.trans (hrewrites.moves_unfilled hgone hs.openQuantity hoverwrites.executions),
    fun _ => ⟨hrewrites.mem, hrewrites.mem_rows.mpr (.inl rfl), fun id hmem => ?_⟩⟩
  rcases hrewrites.mem_exits.mp hmem with hmem | ⟨-, hnew⟩
  · exact .inl hmem
  · exact .inr (hrewrites.fresh id hnew).2.2

theorem swapped_transition (hseen : v.Seen p) (hs : Succession orderIdOf p s)
    (hstop : s.stopOrderLinkId = p.stopOrderLinkId) (htp : s.tpOrderLinkId = p.tpOrderLinkId) :
    Swapped orderIdOf gone v p s (handleAt r (.transitionProtectionSnapshot p.version s) v) := by
  have hafter := moves_after hgone hhonest
  have hanswer : handle r.answers (.transitionProtectionSnapshot p.version s) v.world =
      v.world.write (v.store.transitionProtectionSnapshot p.version s) := rfl
  cases hw : v.store.transitionProtectionSnapshot p.version s with
  | error failure =>
    rw [hw, write_error] at hanswer
    refine ⟨moves_reading hgone hhonest rfl (by rw [hanswer]), fun hok => ?_⟩
    rw [handleAt, hanswer] at hok
    exact absurd hok (by simp)
  | ok store' =>
    rw [hw, write_ok] at hanswer
    obtain ⟨hoverwrites, hintents⟩ := SqliteExecutionStore.overwrites_of_transition hw
    have hserved : handleAt r (.transitionProtectionSnapshot p.version s) v =
        (.ok (), { v.after r with world := { v.world with store := store' } }) := by
      rw [handleAt, hanswer, served_of_exit_none rfl]
    have hsame : ∀ id, IsExitOf s id ↔ IsExitOf p id := fun id => by
      unfold IsExitOf
      rw [hstop, htp]
    have hrewrites : Rewrites orderIdOf gone (v.after r)
        { v.after r with world := { v.world with store := store' } } p s [] :=
      rewrites_of_overwrites (hseen.evolves hafter.evolves) hs hoverwrites
        (fun id ⟨row, hrow, hid⟩ => ⟨row, hintents ▸ hrow, hid⟩) (fun _ h => absurd h (by simp))
        (fun id h => .inl ((hsame id).mp h)) (fun _ id h => .inl ((hsame id).mpr h)) rfl rfl
        (List.append_nil _).symm
    exact swapped_rewritten hgone hhonest hserved hs hoverwrites hrewrites

theorem swapped_takeProfitIntent {request : PlaceOrderRequest} {persistedAt : Time}
    (hseen : v.Seen p) (hs : Succession orderIdOf p s)
    (hstop : s.stopOrderLinkId = p.stopOrderLinkId) (htp : p.tpOrderLinkId = none) :
    Swapped orderIdOf gone v p s
      (handleAt r (.persistTakeProfitIntent p.version request s persistedAt) v) := by
  have hafter := moves_after hgone hhonest
  have hanswer : handle r.answers (.persistTakeProfitIntent p.version request s persistedAt)
      v.world = v.world.write
        (v.store.persistTakeProfitIntent p.version request s persistedAt) := rfl
  cases hw : v.store.persistTakeProfitIntent p.version request s persistedAt with
  | error failure =>
    rw [hw, write_error] at hanswer
    have hserved : handleAt r (.persistTakeProfitIntent p.version request s persistedAt) v =
        (.error failure, v.after r) := by
      rw [handleAt, hanswer, served_error]
      rfl
    exact swapped_refused hgone hhonest hserved
  | ok store' =>
    rw [hw, write_ok] at hanswer
    obtain ⟨hid, hoverwrites, hintends⟩ :=
      SqliteExecutionStore.overwrites_of_persistTakeProfitIntent hw
    have hserved : handleAt r (.persistTakeProfitIntent p.version request s persistedAt) v =
        (.ok (), { v.after r with
          world := { v.world with store := store' }
          exits := (v.after r).exits ++ [(s.entryOrderLinkId, request.orderLinkId)] }) := by
      rw [handleAt, hanswer, served_ok rfl]
    have hrewrites : Rewrites orderIdOf gone (v.after r)
        { v.after r with
          world := { v.world with store := store' }
          exits := (v.after r).exits ++ [(s.entryOrderLinkId, request.orderLinkId)] }
        p s [request.orderLinkId] := by
      refine rewrites_of_overwrites (hseen.evolves hafter.evolves) hs hoverwrites
        (fun id h => (hintends.known id).mpr (.inr h)) ?_ ?_ ?_ rfl rfl ?_
      · intro id h
        rw [List.mem_singleton.mp h]
        exact ⟨hintends.unknown, (hintends.known _).mpr (.inl rfl), .inr hid⟩
      · rintro id (h | h)
        · exact .inl (.inl (h.trans hstop))
        · rw [← hid] at h
          exact .inr (List.mem_singleton.mpr (Option.some.inj h))
      · rintro - id (h | h)
        · exact .inl (.inl (h.trans hstop.symm))
        · rw [htp] at h
          exact absurd h (by simp)
      · rw [hs.entry]
        rfl
    exact swapped_rewritten hgone hhonest hserved hs hoverwrites hrewrites

theorem swapped_replacement {request : PlaceOrderRequest} {persistedAt : Time}
    (hseen : v.Seen p) (hs : Succession orderIdOf p s) (htp : s.tpOrderLinkId = p.tpOrderLinkId)
    (hreplaces : Replaces gone (.persistReplacementStopIntent p.version request s persistedAt)
      (v.after r)) :
    Swapped orderIdOf gone v p s
      (handleAt r (.persistReplacementStopIntent p.version request s persistedAt) v) := by
  have hafter := moves_after hgone hhonest
  have hanswer : handle r.answers (.persistReplacementStopIntent p.version request s persistedAt)
      v.world = v.world.write
        (v.store.persistReplacementStopIntent p.version request s persistedAt) := rfl
  cases hw : v.store.persistReplacementStopIntent p.version request s persistedAt with
  | error failure =>
    rw [hw, write_error] at hanswer
    have hserved : handleAt r (.persistReplacementStopIntent p.version request s persistedAt) v =
        (.error failure, v.after r) := by
      rw [handleAt, hanswer, served_error]
      rfl
    exact swapped_refused hgone hhonest hserved
  | ok store' =>
    rw [hw, write_ok] at hanswer
    obtain ⟨hid, hoverwrites, hintends⟩ :=
      SqliteExecutionStore.overwrites_of_persistReplacementStopIntent hw
    have hserved : handleAt r (.persistReplacementStopIntent p.version request s persistedAt) v =
        (.ok (), { v.after r with
          world := { v.world with store := store' }
          exits := (v.after r).exits ++ [(s.entryOrderLinkId, request.orderLinkId)] }) := by
      rw [handleAt, hanswer, served_ok rfl]
    have hrewrites : Rewrites orderIdOf gone (v.after r)
        { v.after r with
          world := { v.world with store := store' }
          exits := (v.after r).exits ++ [(s.entryOrderLinkId, request.orderLinkId)] }
        p s [request.orderLinkId] := by
      refine rewrites_of_overwrites (hseen.evolves hafter.evolves) hs hoverwrites
        (fun id h => (hintends.known id).mpr (.inr h)) ?_ ?_ ?_ rfl rfl ?_
      · intro id h
        rw [List.mem_singleton.mp h]
        exact ⟨hintends.unknown, (hintends.known _).mpr (.inl rfl), .inl hid⟩
      · rintro id (h | h)
        · exact .inr (List.mem_singleton.mpr (h.trans hid.symm))
        · exact .inl (.inr (h.trans htp))
      · -- The stop that was replaced is forgotten by the row, but it is gone.
        rintro hp id (rfl | h)
        · exact .inr (hreplaces _ rfl p hp hs.entry.symm)
        · exact .inl (.inr (h.trans htp.symm))
      · rw [hs.entry]
        rfl
    exact swapped_rewritten hgone hhonest hserved hs hoverwrites hrewrites

/-- The first row of a level. -/
theorem moves_protectionIntent {request : PlaceOrderRequest} {persistedAt : Time}
    (htp : s.tpOrderLinkId = none) (hstopOrder : s.stopOrderId = none)
    (hopen : s.openQuantity = s.entryQuantity) :
    Moves orderIdOf gone v (handleAt r (.persistProtectionIntent request s persistedAt) v).2 ∧
      ((handleAt r (.persistProtectionIntent request s persistedAt) v).1 = .ok () →
        (handleAt r (.persistProtectionIntent request s persistedAt) v).2.Seen s) := by
  have hafter := moves_after hgone hhonest
  have hanswer : handle r.answers (.persistProtectionIntent request s persistedAt) v.world =
      v.world.write (v.store.persistProtectionIntent request s persistedAt) := rfl
  cases hw : v.store.persistProtectionIntent request s persistedAt with
  | error failure =>
    rw [hw, write_error] at hanswer
    have hserved : handleAt r (.persistProtectionIntent request s persistedAt) v =
        (.error failure, v.after r) := by
      rw [handleAt, hanswer, served_error]
      rfl
    rw [hserved]
    exact ⟨hafter, fun hok => absurd hok (by simp)⟩
  | ok store' =>
    rw [hw, write_ok] at hanswer
    obtain ⟨hid, hnew, hrows, hintends, hexecutions⟩ :=
      SqliteExecutionStore.intends_of_persistProtectionIntent hw
    have hserved : handleAt r (.persistProtectionIntent request s persistedAt) v =
        (.ok (), { v.after r with
          world := { v.world with store := store' }
          exits := (v.after r).exits ++ [(s.entryOrderLinkId, request.orderLinkId)] }) := by
      rw [handleAt, hanswer, served_ok rfl]
    rw [hserved]
    refine ⟨hafter.trans (moves_of_insert hgone hrows hnew rfl rfl rfl hintends.unknown
      hintends.known hexecutions hid.symm htp hstopOrder hopen), fun _ => ⟨s, ?_, rfl, .inl rfl⟩⟩
    show s ∈ store'.protectionSnapshots.rows
    rw [hrows]
    exact List.mem_append_right _ (List.mem_singleton_self _)

/-- The fill of an exit, recorded over a snapshot that was seen. -/
theorem moves_recordExit {e : ExecutionUpdate} {receivedAt : Time} {payloadHash : PayloadHash}
    (hseen : v.Seen p) (he : e ∈ v.fills) (happly : applyExitExecution p e receivedAt = .ok s) :
    Moves orderIdOf gone v
      (handleAt r (.recordExitExecutionAndSnapshot p.version e receivedAt payloadHash s) v).2 := by
  have hafter := moves_after hgone hhonest
  have hanswer : handle r.answers
      (.recordExitExecutionAndSnapshot p.version e receivedAt payloadHash s) v.world =
        v.world.writeWith
          (v.store.recordExitExecutionAndSnapshot p.version e receivedAt payloadHash s) := rfl
  obtain ⟨hbelongs, hquantity, -, hfields⟩ := applyExitExecution_eq_ok_iff.mp happly
  cases hw : v.store.recordExitExecutionAndSnapshot p.version e receivedAt payloadHash s with
  | error failure =>
    rw [hw] at hanswer
    exact moves_reading hgone hhonest rfl (by rw [hanswer]; rfl)
  | ok result =>
    obtain ⟨inserted, store'⟩ := result
    rw [hw] at hanswer
    have hworld : (handle r.answers
        (.recordExitExecutionAndSnapshot p.version e receivedAt payloadHash s) v.world).2 =
          { v.world with store := store' } := by
      rw [hanswer]
      rfl
    rcases SqliteExecutionStore.overwrites_of_recordExit hw with
      ⟨-, rfl⟩ | ⟨-, hnew, hexecutions, hintents, ⟨q, hq, hkey, hversion⟩, hrows⟩
    · exact moves_reading hgone hhonest rfl (by rw [hworld])
    · have hentry : s.entryOrderLinkId = p.entryOrderLinkId := by rw [hfields]; rfl
      have hstop : s.stopOrderLinkId = p.stopOrderLinkId := by rw [hfields]; rfl
      have htp : s.tpOrderLinkId = p.tpOrderLinkId := by rw [hfields]; rfl
      have hopen : s.openQuantity = p.openQuantity - e.quantity := by rw [hfields]; rfl
      have hp : p ∈ (v.after r).rows :=
        (hseen.evolves hafter.evolves).mem hq (hkey.trans hentry) hversion
      have hsame : ∀ id, IsExitOf s id ↔ IsExitOf p id := fun id => by
        unfold IsExitOf
        rw [hstop, htp]
      have hserved : (handleAt r
          (.recordExitExecutionAndSnapshot p.version e receivedAt payloadHash s) v).2 =
            { v.after r with world := { v.world with store := store' } } := by
        show (v.after r).served _ _ = _
        rw [served_of_exit_none rfl, hworld]
      have hrewrites : Rewrites orderIdOf gone (v.after r)
          { v.after r with world := { v.world with store := store' } } p s [] :=
        { mem := hp
          live := fun hclosed => by
            -- A closed row has nothing open for the fill to take.
            have hzero := (p.valid.closed hclosed).1
            have hpos := e.quantity_pos
            linarith
          entry := hentry, version := by rw [hfields]; rfl, rows := hrows
          fills := rfl, ended := rfl, exits := (List.append_nil _).symm
          known := fun id ⟨row, hrow, hid⟩ => ⟨row, hintents ▸ hrow, hid⟩
          fresh := fun _ h => absurd h (by simp)
          gained := fun id h => .inl ((hsame id).mp h)
          lost := fun id h => .inl ((hsame id).mpr h)
          entryQuantity := by rw [hfields]; rfl
          orderIds := fun h => by
            refine ⟨?_, ?_⟩
            · rw [hstop, show s.stopOrderId = p.stopOrderId by rw [hfields]; rfl]
              exact h.stop
            · rw [htp, show s.tpOrderId = p.tpOrderId by rw [hfields]; rfl]
              exact h.tp
          recorded := fun x hx => hasExecution_append hexecutions hx }
      rw [hserved]
      exact hafter.trans (hrewrites.moves_filled hgone hopen hbelongs.exit
        (List.mem_append_left _ he) rfl hexecutions)

end Calls

end CreditHedge
