import CreditHedge.Application.OneLevelEntry
import Mathlib.Algebra.BigOperators.Group.List.Basic

/-!
# The books of the entries

An entry row carries three running totals of its executions: the quantity filled, the notional and
the fees. The executions themselves are in a table of their own. A recorded execution goes into
that table and into its row in one transaction, but what goes into the row was computed before,
from a row that was read before; and in between submissions, position checks and other recordings
write the same row. Duplicates, in turn, are noticed in the executions alone.

The totals are right all the same (`entry_books_kept`), because every write names the version it
was computed from and rows only get later versions: a write that goes through finds the row that
was read, totals and all.
-/

set_option autoImplicit false

namespace CreditHedge

open Coroutine OneLevelEntryService

/-! ## The books -/

/-- The recorded executions of an order. -/
def SqliteExecutionStore.executionsOf (store : SqliteExecutionStore) (orderLinkId : String) :
    List ExecutionUpdate :=
  (store.executions.rows.map fun row => row.execution).filter
    fun e => e.orderLinkId = orderLinkId

/-- The totals of the row are those of its recorded executions. -/
structure EntryBooks (store : SqliteExecutionStore) (s : EntryExecutionSnapshot) : Prop where
  filledQuantity : s.filledQuantity =
    ((store.executionsOf s.orderLinkId).map fun e => e.quantity).sum
  entryNotional : s.entryNotional =
    ((store.executionsOf s.orderLinkId).map fun e => e.price * e.quantity).sum
  entryFees : s.entryFees = ((store.executionsOf s.orderLinkId).map fun e => e.fee).sum

def BooksBalance (store : SqliteExecutionStore) : Prop :=
  ∀ s ∈ store.entrySnapshots.rows, EntryBooks store s

theorem balanced_of_no_entries {store : SqliteExecutionStore}
    (h : store.entrySnapshots.rows = []) : BooksBalance store := by
  intro s hs
  rw [h] at hs
  exact absurd hs (by simp)

theorem EntryBooks.of_same {store store' : SqliteExecutionStore} {s : EntryExecutionSnapshot}
    (h : EntryBooks store s) (hsame : store'.executionsOf s.orderLinkId =
      store.executionsOf s.orderLinkId) : EntryBooks store' s :=
  ⟨by rw [hsame]; exact h.filledQuantity, by rw [hsame]; exact h.entryNotional,
    by rw [hsame]; exact h.entryFees⟩

/-- **How the services move the store.** Entry rows only get later versions, and books that
    balanced still do. -/
structure EntryMoves (w w' : World) : Prop where
  rows : w.store.entrySnapshots.Advances (fun s => s.version) w'.store.entrySnapshots
  balanced : BooksBalance w.store → BooksBalance w'.store

theorem EntryMoves.refl (w : World) : EntryMoves w w := ⟨.refl _, id⟩

theorem EntryMoves.trans {w w' w'' : World} (h : EntryMoves w w') (h' : EntryMoves w' w'') :
    EntryMoves w w'' :=
  ⟨h.rows.trans h'.rows, fun hb => h'.balanced (h.balanced hb)⟩

/-- The snapshot is the entry's row, or was before. -/
abbrev World.SeenEntry (w : World) (s : EntryExecutionSnapshot) : Prop :=
  w.store.entrySnapshots.Seen (fun s => s.version) s

theorem EntryMoves.seen {w w' : World} {s : EntryExecutionSnapshot} (hm : EntryMoves w w')
    (h : w.SeenEntry s) : w'.SeenEntry s :=
  h.advances hm.rows

/-! ## Call by call -/

section Calls

variable {w : World} {p s : EntryExecutionSnapshot} {store' : SqliteExecutionStore}

theorem moves_of_store_eq {w' : World} (h : w'.store = w.store) : EntryMoves w w' := by
  refine ⟨?_, fun hb => ?_⟩
  · rw [h]
    exact .refl _
  · rw [h]
    exact hb

/-- **A write over a row that was seen**, with the executions that go into its totals. -/
theorem moves_of_writesEntry {new : List ExecutionRow} (hseen : w.SeenEntry p)
    (hfills : Fills p s (new.map fun row => row.execution.quantity).sum
      (new.map fun row => row.execution.price * row.execution.quantity).sum
      (new.map fun row => row.execution.fee).sum)
    (hlinks : ∀ row ∈ new, row.execution.orderLinkId = p.orderLinkId)
    (h : SqliteExecutionStore.WritesEntry w.store.toTables store'.toTables p.version s new) :
    EntryMoves w { w with store := store' } ∧
      World.SeenEntry { w with store := store' } s := by
  obtain ⟨hp, hmem⟩ := hseen.swap hfills.orderLinkId h.swap
  have hadvances : w.store.entrySnapshots.Advances (fun s => s.version) store'.entrySnapshots :=
    KeyedTable.advances_swap (by rw [hfills.version]; omega) h.swap
  have hexecutions : ∀ id, store'.executionsOf id = w.store.executionsOf id ++
      (new.map fun row => row.execution).filter fun e => e.orderLinkId = id := by
    intro id
    unfold SqliteExecutionStore.executionsOf
    rw [h.executions, List.map_append, List.filter_append]
  -- The new executions are all of this entry.
  have hown : (new.map fun row => row.execution).filter (fun e => e.orderLinkId = p.orderLinkId) =
      new.map fun row => row.execution := by
    refine List.filter_eq_self.mpr fun e he => ?_
    obtain ⟨row, hrow, rfl⟩ := List.mem_map.mp he
    exact decide_eq_true (hlinks row hrow)
  have hothers : ∀ id, id ≠ p.orderLinkId →
      (new.map fun row => row.execution).filter (fun e => e.orderLinkId = id) = [] := by
    intro id hne
    refine List.filter_eq_nil_iff.mpr fun e he => ?_
    obtain ⟨row, hrow, rfl⟩ := List.mem_map.mp he
    rw [decide_eq_true_iff, hlinks row hrow]
    exact Ne.symm hne
  refine ⟨⟨hadvances, fun hb x hx => ?_⟩, .of_mem ((hmem s).mpr (.inl rfl))⟩
  rcases (hmem x).mp hx with rfl | ⟨hx, hne⟩
  · have hbooks := hb p hp
    have hall := hexecutions x.orderLinkId
    rw [hfills.orderLinkId, hown] at hall
    constructor
    · rw [hfills.filledQuantity, hbooks.filledQuantity, hfills.orderLinkId, hall, List.map_append,
        List.sum_append, List.map_map]
      rfl
    · rw [hfills.entryNotional, hbooks.entryNotional, hfills.orderLinkId, hall, List.map_append,
        List.sum_append, List.map_map]
      rfl
    · rw [hfills.entryFees, hbooks.entryFees, hfills.orderLinkId, hall, List.map_append,
        List.sum_append, List.map_map]
      rfl
  · exact (hb x hx).of_same (by rw [hexecutions, hothers _ hne, List.append_nil])

/-- What a write of an entry over a seen snapshot comes to. -/
structure EntrySwapped (w : World) (s : EntryExecutionSnapshot)
    (answered : Except Failure Unit × World) : Prop where
  moves : EntryMoves w answered.2
  written : answered.1 = .ok () → answered.2.SeenEntry s

theorem entrySwapped_of_write {result : Except Failure SqliteExecutionStore}
    (hseen : w.SeenEntry p) (hfills : Fills p s 0 0 0)
    (h : ∀ store', result = .ok store' →
      SqliteExecutionStore.WritesEntry w.store.toTables store'.toTables p.version s []) :
    EntrySwapped w s (w.write result) := by
  cases hresult : result with
  | error failure => exact ⟨.refl w, fun hok => absurd hok (by simp [World.write])⟩
  | ok store' =>
    obtain ⟨hmoves, hseen'⟩ := moves_of_writesEntry hseen hfills
      (fun _ h => absurd h (by simp)) (h store' hresult)
    exact ⟨hmoves, fun _ => hseen'⟩

theorem entrySwapped_transition (a : Answers) (hseen : w.SeenEntry p) (hfills : Fills p s 0 0 0) :
    EntrySwapped w s (handle a (.transitionEntrySnapshot p.version s) w) :=
  entrySwapped_of_write hseen hfills fun _ => SqliteExecutionStore.writesEntry_of_transition

theorem entrySwapped_acknowledgement (a : Answers) (acknowledgement : OrderRequestAck)
    (hseen : w.SeenEntry p) (hfills : Fills p s 0 0 0) :
    EntrySwapped w s (handle a (.recordAcknowledgementAndSnapshot p.version acknowledgement s) w) :=
  entrySwapped_of_write hseen hfills fun _ => SqliteExecutionStore.writesEntry_of_acknowledgement

theorem moves_recordExecution (a : Answers) {e : ExecutionUpdate} {receivedAt : Time}
    {payloadHash : PayloadHash} (hseen : w.SeenEntry p)
    (happly : applyEntryExecution p e receivedAt = .ok s) :
    EntryMoves w
      (handle a (.recordExecutionAndSnapshot p.version e receivedAt payloadHash s) w).2 := by
  have hanswer : handle a (.recordExecutionAndSnapshot p.version e receivedAt payloadHash s) w =
      w.writeWith (w.store.recordExecutionAndSnapshot p.version e receivedAt payloadHash s) := rfl
  rw [hanswer]
  cases hresult : w.store.recordExecutionAndSnapshot p.version e receivedAt payloadHash s with
  | error failure => exact .refl w
  | ok recorded =>
    obtain ⟨inserted, store'⟩ := recorded
    rcases SqliteExecutionStore.writesEntry_of_record hresult with ⟨-, rfl⟩ | ⟨-, hwrites⟩
    · exact .refl w
    · obtain ⟨hlink, hfills⟩ := fills_of_applyEntryExecution happly
      refine (moves_of_writesEntry hseen ?_ ?_ hwrites).1
      · simpa [SqliteExecutionStore.executionRow] using hfills
      · intro row hrow
        rw [List.mem_singleton.mp hrow]
        exact hlink

theorem moves_persistEntryIntent (a : Answers) {request : PlaceOrderRequest} {persistedAt : Time}
    (h : EntryExecutionSnapshot.forIntent request persistedAt = .ok s) :
    EntrySwapped w s (handle a (.persistEntryIntent request s persistedAt) w) := by
  have hanswer : handle a (.persistEntryIntent request s persistedAt) w =
      w.write (w.store.persistEntryIntent request s persistedAt) := rfl
  rw [hanswer]
  cases hresult : w.store.persistEntryIntent request s persistedAt with
  | error failure => exact ⟨.refl w, fun hok => absurd hok (by simp [World.write])⟩
  | ok store' =>
    obtain ⟨hunknown, hinsert, hexecutions⟩ :=
      SqliteExecutionStore.persistEntryIntent_writes hresult
    have hsame : ∀ id, store'.executionsOf id = w.store.executionsOf id := fun id => by
      unfold SqliteExecutionStore.executionsOf
      rw [hexecutions]
    have hrows := (KeyedTable.insert_eq_some.mp hinsert).2
    have hmem : ∀ x, x ∈ store'.entrySnapshots.rows ↔ x ∈ w.store.entrySnapshots.rows ∨ x = s :=
      fun x => by rw [hrows, List.mem_append, List.mem_singleton]
    refine ⟨⟨KeyedTable.advances_insert hinsert, fun hb x hx => ?_⟩,
      fun _ => .of_mem ((hmem s).mpr (.inr rfl))⟩
    rcases (hmem x).mp hx with hx | rfl
    · exact (hb x hx).of_same (hsame _)
    · -- An execution refers to an intent, and there was none.
      have hnone : store'.executionsOf x.orderLinkId = [] := by
        rw [hsame]
        refine List.filter_eq_nil_iff.mpr fun e he => ?_
        obtain ⟨row, hrow, rfl⟩ := List.mem_map.mp he
        rw [decide_eq_true_iff]
        intro heq
        refine hunknown ?_
        rw [← heq]
        exact w.store.constraints.executionIntents _ (List.mem_map_of_mem hrow)
      simp only [EntryExecutionSnapshot.forIntent, bind_unit_eq_ok,
        EntryExecutionSnapshot.create_eq_ok] at h
      obtain ⟨-, hfields⟩ := h
      have hbooks : EntryBooks store' x := by
        constructor <;> rw [hnone] <;> simp [hfields]
      exact hbooks

end Calls

/-! ## Service by service -/

section Tasks

variable {w : World} {p s : EntryExecutionSnapshot} {α : Type}

/-- Whatever the exchange answers. -/
def AnyAnswer (_ : Answers) (_ : Call) (_ : World) : Prop := True

/-- The task moves the store along `EntryMoves`, and ends in `post`. -/
abbrev UpholdEntries (post : Except Failure α → World → Prop) (t : Service α) (w : World) : Prop :=
  Upholds handle EntryMoves AnyAnswer post t w

/-- What was returned was seen. -/
def ReturnsSeen : Except Failure EntryExecutionSnapshot → World → Prop
  | .ok s, w => w.SeenEntry s
  | .error _, _ => True

theorem upholds_requiredSnapshot (orderLinkId : String) (w : World) :
    UpholdEntries ReturnsSeen (requiredSnapshot orderLinkId) w := by
  refine .call_bind fun w₁ _ a _ => ⟨.refl w₁, fun found hfound => ?_, fun _ _ _ _ => trivial⟩
  cases found with
  | none => exact fun _ _ => trivial
  | some s =>
    have hs := (KeyedTable.find_eq_some.mp
      (show w₁.store.entrySnapshots.find orderLinkId = some s from Except.ok.inj hfound)).1
    exact fun w₂ hw₂ => hw₂.seen (.of_mem hs)

theorem upholds_persistEntryIntent (request : PlaceOrderRequest) (w : World) :
    UpholdEntries ReturnsSeen (persistEntryIntent request) w := by
  refine .call_bind fun w₁ _ a _ =>
    ⟨.refl w₁, fun now _ => .lift_bind ?_, fun _ _ _ _ => trivial⟩
  split
  · rename_i s hs
    refine .call_bind fun w₂ _ a₂ _ => ?_
    have hswapped := moves_persistEntryIntent (w := w₂) a₂ hs
    exact ⟨hswapped.moves, fun _ hok w₃ hw₃ => hw₃.seen (hswapped.written hok),
      fun _ _ _ _ => trivial⟩
  · exact fun _ _ => trivial

/-- A transition over a snapshot that was seen, and what follows it. -/
theorem upholds_transition {post : Except Failure α → World → Prop} (hseen : w.SeenEntry p)
    (hfills : Fills p s 0 0 0) {f : Unit → Service α}
    (hf : ∀ w', w'.SeenEntry s → UpholdEntries post (f ()) w')
    (hpost : ∀ failure w', post (.error failure) w') :
    UpholdEntries post (awaitCall (.transitionEntrySnapshot p.version s) >>= f) w := by
  refine .call_bind fun w₁ hw₁ a _ => ?_
  have hswapped := entrySwapped_transition a (hw₁.seen hseen) hfills
  exact ⟨hswapped.moves, fun _ hok => hf _ (hswapped.written hok), fun failure _ w₂ _ => hpost _ _⟩

theorem upholds_raiseWithState {post : Except Failure α → World → Prop} (hseen : w.SeenEntry p)
    (state : LiveExecutionState) (failure : Failure)
    (hpost : ∀ failure w', post (.error failure) w') :
    UpholdEntries post (raiseWithState p state failure) w := by
  refine .call_bind fun w₁ hw₁ a _ =>
    ⟨.refl w₁, fun now _ => .lift_bind ?_, fun _ _ _ _ => hpost _ _⟩
  split
  · rename_i moved hmoved
    exact upholds_transition (hw₁.seen hseen) (fills_of_transition hmoved)
      (fun _ _ _ _ => hpost _ _) hpost
  · exact fun _ _ => hpost _ _

theorem upholds_placeEntry (request : PlaceOrderRequest) (hseen : w.SeenEntry p) :
    UpholdEntries (fun _ w' => w'.SeenEntry p) (placeEntry request p) w := by
  have hplace : ∀ (a : Answers) (w : World), EntryMoves w (handle a (.placeOrder request) w).2 := by
    intro a w
    refine moves_of_store_eq ?_
    show (if a.takes then w.accept _ else w).store = _
    split <;> rfl
  have hlookup : ∀ (a : Answers) (w : World), EntryMoves w
      (handle a (.getOrderByLinkId request.category request.symbol request.orderLinkId) w).2 := by
    intro a w
    refine moves_of_store_eq ?_
    show (if a.shows then w.accept _ else w).store = _
    split <;> rfl
  have hkeeps : ∀ {w w' : World}, w.SeenEntry p → EntryMoves w w' → w'.SeenEntry p :=
    fun h hm => hm.seen h
  have hunit : UpholdEntries (fun _ _ => True) (placeEntry request p) w := by
    have hplaced : UpholdEntries (fun _ _ => True) (awaitCall (.placeOrder request)) w :=
      fun w₁ _ a _ => ⟨hplace a w₁, fun _ _ => trivial⟩
    refine .tryCatch .refl ((hplaced.keep hseen hkeeps).imp ?_)
    rintro outcome w₁ ⟨-, hseen₁⟩
    cases outcome with
    | ok acknowledgement => exact fun _ _ => trivial
    | error failure =>
      cases failure with
      | uncertainOrderOutcome operation =>
        refine .call_bind fun w₂ hw₂ a _ =>
          ⟨hlookup a w₂, fun found _ => ?_, fun _ _ _ _ => trivial⟩
        cases found with
        | none =>
          exact upholds_raiseWithState ((hlookup a w₂).seen (hw₂.seen hseen₁)) _ _
            fun _ _ => trivial
        | some discovered =>
          exact .call_bind fun w₃ _ a₃ _ =>
            ⟨.refl w₃, fun now _ _ _ => trivial, fun _ _ _ _ => trivial⟩
      | _ => exact upholds_raiseWithState hseen₁ _ _ fun _ _ => trivial
  exact (hunit.keep hseen hkeeps).imp fun _ _ h => h.2

theorem upholds_submitPersistedEntry (request : PlaceOrderRequest) (hseen : w.SeenEntry p) :
    UpholdEntries (fun _ _ => True) (submitPersistedEntry request p) w := by
  refine .lift_bind ?_
  split
  · refine .lift_bind ?_
    split
    · refine .call_bind fun w₁ hw₁ a _ => ⟨.refl w₁, fun found _ => .lift_bind ?_,
        fun _ _ _ _ => trivial⟩
      split
      · refine .call_bind fun w₂ hw₂ a₂ _ => ⟨.refl w₂, fun now _ => .lift_bind ?_,
          fun _ _ _ _ => trivial⟩
        split
        · rename_i submitted hsubmitted
          refine upholds_transition (hw₂.seen (hw₁.seen hseen)) (fills_of_transition hsubmitted)
            (fun w₃ hseen₃ => .bind .refl ((upholds_placeEntry request hseen₃).imp ?_))
            fun _ _ => trivial
          intro outcome w₄ hseen₄
          cases outcome with
          | error failure => exact fun _ _ => trivial
          | ok acknowledgement =>
            refine .call_bind fun w₅ hw₅ a₅ _ => ⟨.refl w₅, fun now' _ => .lift_bind ?_,
              fun _ _ _ _ => trivial⟩
            split
            · rename_i acknowledged hacknowledged
              refine .call_bind fun w₆ hw₆ a₆ _ => ?_
              have hswapped := entrySwapped_acknowledgement a₆ acknowledgement
                (hw₆.seen (hw₅.seen hseen₄)) (fills_of_transition hacknowledged)
              exact ⟨hswapped.moves, fun _ _ _ _ => trivial, fun _ _ _ _ => trivial⟩
            · exact fun _ _ => trivial
        · exact fun _ _ => trivial
      · exact fun _ _ => trivial
    · exact fun _ _ => trivial
  · exact fun _ _ => trivial

theorem upholds_submitEntry (request : PlaceOrderRequest) (w : World) :
    UpholdEntries (fun _ _ => True) (submitEntry request) w := by
  refine .bind .refl ((upholds_persistEntryIntent request w).imp ?_)
  intro outcome w₁ hreturned
  cases outcome with
  | ok s => exact upholds_submitPersistedEntry request hreturned
  | error failure => exact fun _ _ => trivial

theorem upholds_applyExecution (e : ExecutionUpdate) (receivedAt : Time)
    (payloadHash : PayloadHash) (w : World) :
    UpholdEntries (fun _ _ => True) (applyExecution e receivedAt payloadHash) w := by
  refine .bind .refl ((upholds_requiredSnapshot _ w).imp ?_)
  intro outcome w₁ hreturned
  cases outcome with
  | error failure => exact fun _ _ => trivial
  | ok p =>
    refine .call_bind fun w₂ hw₂ a _ => ⟨.refl w₂, fun known _ => ?_, fun _ _ _ _ => trivial⟩
    split
    · exact fun _ _ => trivial
    · refine .lift_bind ?_
      split
      · rename_i updated happly
        refine .call_bind fun w₃ hw₃ a₃ _ =>
          ⟨moves_recordExecution a₃ (hw₃.seen (hw₂.seen hreturned)) happly, fun inserted _ => ?_,
            fun _ _ _ _ => trivial⟩
        split
        · exact fun _ _ => trivial
        · exact (upholds_requiredSnapshot _ _).imp fun _ _ _ => trivial
      · exact fun _ _ => trivial

theorem upholds_reconcilePosition (activeOrderLinkId : Option String)
    (positions : List ExchangePosition) (w : World) :
    UpholdEntries (fun _ _ => True) (reconcilePosition activeOrderLinkId positions) w := by
  cases activeOrderLinkId with
  | none => exact fun _ _ => trivial
  | some orderLinkId =>
    refine .bind .refl ((upholds_requiredSnapshot orderLinkId w).imp ?_)
    intro outcome w₁ hreturned
    cases outcome with
    | error failure => exact fun _ _ => trivial
    | ok p =>
      dsimp only
      split
      · exact fun _ _ => trivial
      · split
        · exact fun _ _ => trivial
        · refine .call_bind fun w₂ hw₂ a _ => ⟨.refl w₂, fun now _ => .lift_bind ?_,
            fun _ _ _ _ => trivial⟩
          split
          · rename_i reconciling hreconciling
            exact upholds_transition (hw₂.seen hreturned) (fills_of_transition hreconciling)
              (fun _ _ _ _ => trivial) fun _ _ => trivial
          · exact fun _ _ => trivial

theorem upholds_finalizePartialFill (orderLinkId : String) (w : World) :
    UpholdEntries (fun _ _ => True) (finalizePartialFill orderLinkId) w := by
  refine .bind .refl ((upholds_requiredSnapshot orderLinkId w).imp ?_)
  intro outcome w₁ hreturned
  cases outcome with
  | error failure => exact fun _ _ => trivial
  | ok p =>
    refine .call_bind fun w₂ hw₂ a _ => ⟨.refl w₂, fun now _ => .lift_bind ?_,
      fun _ _ _ _ => trivial⟩
    split
    · rename_i finalized hfinalized
      exact upholds_transition (hw₂.seen hreturned) (fills_of_finalize hfinalized)
        (fun _ _ _ _ => trivial) fun _ _ => trivial
    · exact fun _ _ => trivial

end Tasks

/-! ## What raising leaves behind -/

/-- The tables are what they were. -/
def SameTables (w w' : World) : Prop := w'.store = w.store

/-- **A call that raises writes nothing**, whichever it is. -/
theorem sameTables_of_error {a : Answers} {call : Call} {w : World} {failure : Failure}
    (h : (handle a call w).1 = .error failure) : SameTables w (handle a call w).2 := by
  have hwrite : ∀ result : Except Failure SqliteExecutionStore,
      (w.write result).1 = .error failure → (w.write result).2.store = w.store := by
    intro result hresult
    cases result with
    | ok store => exact absurd hresult (by simp [World.write])
    | error e => rfl
  have hwriteWith : ∀ {β : Type} (result : Except Failure (β × SqliteExecutionStore)),
      (w.writeWith result).1 = .error failure → (w.writeWith result).2.store = w.store := by
    intro β result hresult
    cases result with
    | ok result => exact absurd hresult (by simp [World.writeWith])
    | error e => rfl
  cases call with
  | placeOrder request =>
    show (if a.takes then w.accept _ else w).store = _
    split <;> rfl
  | getOrderByLinkId category symbol orderLinkId =>
    show (if a.shows then w.accept _ else w).store = _
    split <;> rfl
  | recordExecutionAndSnapshot => exact hwriteWith _ h
  | recordExitExecutionAndSnapshot => exact hwriteWith _ h
  | recordAcknowledgement => exact hwrite _ h
  | persistEntryIntent => exact hwrite _ h
  | transitionEntrySnapshot => exact hwrite _ h
  | recordAcknowledgementAndSnapshot => exact hwrite _ h
  | persistProtectionIntent => exact hwrite _ h
  | persistTakeProfitIntent => exact hwrite _ h
  | persistReplacementStopIntent => exact hwrite _ h
  | transitionProtectionSnapshot => exact hwrite _ h
  | transitionRecoveryDebtSnapshot => exact hwrite _ h
  | _ => rfl

theorem quiet_requiredSnapshot (orderLinkId : String) :
    Guarantees handle SameTables (requiredSnapshot orderLinkId) := by
  refine .call_bind (fun _ _ => rfl) fun found => ?_
  cases found with
  | none => exact trivial
  | some s => exact trivial

/-- Recording an execution writes once, at its end. -/
theorem writesLast_applyExecution (e : ExecutionUpdate) (receivedAt : Time)
    (payloadHash : PayloadHash) :
    WritesLast handle SameTables (applyExecution e receivedAt payloadHash) := by
  refine .bind (quiet_requiredSnapshot _) fun p => .call_bind fun a w => ⟨.inl rfl, ?_⟩
  split
  · exact trivial
  · refine .lift_bind fun updated _ => .call_bind fun a w => ?_
    have hanswer : handle a
        (.recordExecutionAndSnapshot p.version e receivedAt payloadHash updated) w =
        w.writeWith (w.store.recordExecutionAndSnapshot p.version e receivedAt payloadHash
          updated) := rfl
    rw [hanswer]
    cases hresult : w.store.recordExecutionAndSnapshot p.version e receivedAt payloadHash
        updated with
    | error failure => exact rfl
    | ok recorded =>
      obtain ⟨inserted, store'⟩ := recorded
      cases inserted with
      | true => exact ⟨.inr ⟨updated, rfl⟩, trivial⟩
      | false =>
        -- A duplicate: nothing was written, and the row is read again.
        rcases SqliteExecutionStore.writesEntry_of_record hresult with ⟨-, rfl⟩ | ⟨htrue, -⟩
        · exact ⟨.inl rfl, .of_guarantees (quiet_requiredSnapshot _)⟩
        · exact absurd htrue (by simp)

/-! ## Any interleaving -/

/-- A task for its effects. -/
def forEffect {α : Type} (t : Service α) : Service Unit := do
  let _ ← t
  pure ()

/-- The tasks that write entries. A submission goes on from a row that was read. -/
inductive EntryTask (w : World) : Service Unit → Prop
  | submitEntry (request : PlaceOrderRequest) : EntryTask w (forEffect (submitEntry request))
  | submitPersistedEntry (request : PlaceOrderRequest) {snapshot : EntryExecutionSnapshot} :
      w.SeenEntry snapshot → EntryTask w (forEffect (submitPersistedEntry request snapshot))
  | applyExecution (e : ExecutionUpdate) (receivedAt : Time) (payloadHash : PayloadHash) :
      EntryTask w (forEffect (applyExecution e receivedAt payloadHash))
  | reconcilePosition (activeOrderLinkId : Option String) (positions : List ExchangePosition) :
      EntryTask w (forEffect (reconcilePosition activeOrderLinkId positions))
  | finalizePartialFill (orderLinkId : String) :
      EntryTask w (forEffect (finalizePartialFill orderLinkId))

theorem upholds_forEffect {α : Type} {t : Service α} {w : World}
    (h : UpholdEntries (fun _ _ => True) t w) :
    UpholdEntries (fun _ _ => True) (forEffect t) w := by
  refine .bind .refl (h.imp ?_)
  intro outcome w' _
  cases outcome with
  | ok a => exact fun _ _ => trivial
  | error failure => exact fun _ _ => trivial

theorem EntryTask.upholds {w : World} {t : Service Unit} (h : EntryTask w t) :
    UpholdEntries (fun _ _ => True) t w := by
  cases h with
  | submitEntry request => exact upholds_forEffect (upholds_submitEntry request w)
  | submitPersistedEntry request hseen =>
    exact upholds_forEffect (upholds_submitPersistedEntry request hseen)
  | applyExecution e receivedAt payloadHash =>
    exact upholds_forEffect (upholds_applyExecution e receivedAt payloadHash w)
  | reconcilePosition activeOrderLinkId positions =>
    exact upholds_forEffect (upholds_reconcilePosition activeOrderLinkId positions w)
  | finalizePartialFill orderLinkId =>
    exact upholds_forEffect (upholds_finalizePartialFill orderLinkId w)

abbrev EntryLoop := EventLoop Failure Call Call.Result World EntryExecutionSnapshot Unit

abbrev EntryMove := EventLoop.Move Failure Call Call.Result Answers Unit

/-- An execution on its way into the store. -/
def recording (e : ExecutionUpdate) (receivedAt : Time) (payloadHash : PayloadHash) (w : World) :
    EntryLoop where
  main := applyExecution e receivedAt payloadHash
  others := []
  world := w

/-- **The books of every entry are those of its recorded executions**, in every store that any
    interleaving of recordings, submissions, position checks and finalizations leads to, and no
    entry is filled beyond its target. A call that raises leaves the tables alone; and if a
    recording raises, for whatever reason, none of its calls has touched them. -/
theorem entry_books_kept {w₀ : World} (h₀ : BooksBalance w₀.store) {e : ExecutionUpdate}
    {receivedAt : Time} {payloadHash : PayloadHash} {moves : List EntryMove}
    (hallows : (recording e receivedAt payloadHash w₀).Allows handle AnyAnswer EntryTask moves)
    {loop : EntryLoop}
    (hloop : (recording e receivedAt payloadHash w₀).run handle moves = loop) :
    (∀ s ∈ loop.world.store.entrySnapshots.rows,
        EntryBooks loop.world.store s ∧ s.filledQuantity ≤ s.targetQuantity) ∧
      (∀ a call failure, (handle a call loop.world).1 = .error failure →
        SameTables loop.world (handle a call loop.world).2) ∧
      ∀ failure, loop.main = .done (.error failure) →
        (recording e receivedAt payloadHash w₀).MainQuiet handle SameTables moves := by
  subst hloop
  have hupheld : (recording e receivedAt payloadHash w₀).Upheld handle EntryMoves AnyAnswer
      (fun _ _ => True) fun _ _ => True :=
    ⟨upholds_applyExecution e receivedAt payloadHash w₀,
      fun t ht => absurd ht (by simp [recording])⟩
  obtain ⟨hmoves, -⟩ := EventLoop.upholds_run .refl (fun h h' => h.trans h')
    (fun w t _ ht => ht.upholds) (.refl w₀) hupheld hallows
  refine ⟨fun s hs => ⟨hmoves.balanced h₀ s hs, s.filled_le_target⟩,
    fun a call failure h => sameTables_of_error h, fun failure hraised => ?_⟩
  exact EventLoop.mainQuiet_of_raised (fun w => show SameTables w w from rfl)
    (writesLast_applyExecution e receivedAt payloadHash) hraised

/-! ## Two halves at once -/

def halvesId : String := "ECH-A-C0001-L01-ENTRY-A01-0000"

def halvesRequest : PlaceOrderRequest where
  category := .linear
  symbol := "ETHUSDT"
  side := .sell
  orderType := .market
  quantity := 1
  orderLinkId := halvesId
  timeInForce := .ioc
  checked := by decide +kernel

/-- A half of the entry. -/
def entryHalf (executionId : String) : ExecutionFields where
  executionId
  orderId := "order-1"
  orderLinkId := halvesId
  symbol := "ETHUSDT"
  side := .sell
  price := 2000
  quantity := 1 / 2
  fee := 1 / 10
  isMaker := some false
  executedAt := 1

def halfOne : ExecutionUpdate := ⟨entryHalf "half-1", by decide +kernel⟩

def halfTwo : ExecutionUpdate := ⟨entryHalf "half-2", by decide +kernel⟩

def halvesHash : PayloadHash where
  text := String.ofList (List.replicate 64 'b')
  isDigest := by decide +kernel

def nothingStored : World where
  store := .empty
  accepted := []

def takesEntry : Answers where
  placed := .ok
    { requestKind := .place, orderId := "order-1", orderLinkId := halvesId, acknowledgedAt := 0 }

/-- The entry is submitted. The recording of the first half has read the row when the second half
    is recorded, and writes after that. -/
def crossedHalves : List EntryMove :=
  .start (forEffect (submitEntry halvesRequest)) :: List.replicate 8 (.other 0 takesEntry) ++
    .start (forEffect (applyExecution halfTwo 2 halvesHash)) ::
      [.main {}, .main {}, .other 1 {}, .other 1 {}, .other 1 {}, .main {}]

theorem allows_crossedHalves :
    (recording halfOne 2 halvesHash nothingStored).Allows handle AnyAnswer EntryTask
      crossedHalves := by
  refine EventLoop.allows_of_starts fun t ht w => ?_
  simp only [crossedHalves, List.cons_append, List.mem_cons, List.mem_append, List.mem_replicate,
    EventLoop.Move.start.injEq, reduceCtorEq, and_false, false_or, or_false,
    List.not_mem_nil] at ht
  rcases ht with rfl | rfl
  · exact .submitEntry _
  · exact .applyExecution _ _ _

/-- The first half finds the row moved on and raises, leaving no trace; the row has the second. -/
theorem entry_books_kept_crossedHalves :
    ∃ loop failure, (recording halfOne 2 halvesHash nothingStored).run handle crossedHalves = loop ∧
      loop.main = .done (.error failure) ∧
      loop.world.store.entrySnapshots.rows.map (fun s => s.filledQuantity) = [1 / 2] ∧
      (∀ s ∈ loop.world.store.entrySnapshots.rows,
        EntryBooks loop.world.store s ∧ s.filledQuantity ≤ s.targetQuantity) ∧
      (recording halfOne 2 halvesHash nothingStored).MainQuiet handle SameTables crossedHalves := by
  have hruns : (((recording halfOne 2 halvesHash nothingStored).run handle
        crossedHalves).main.raised?.isSome &&
      decide (((recording halfOne 2 halvesHash nothingStored).run handle
        crossedHalves).world.store.entrySnapshots.rows.map (fun s => s.filledQuantity) =
          [1 / 2])) = true := by decide +kernel
  rw [Bool.and_eq_true, decide_eq_true_iff] at hruns
  obtain ⟨failure, hfailure⟩ := Option.isSome_iff_exists.mp hruns.1
  have hraised := raised?_eq_some.mp hfailure
  obtain ⟨hbooks, -, hquiet⟩ :=
    entry_books_kept (balanced_of_no_entries rfl) allows_crossedHalves rfl
  exact ⟨_, failure, rfl, hraised, hruns.2, hbooks, hquiet failure hraised⟩

end CreditHedge
