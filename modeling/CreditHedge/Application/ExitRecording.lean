import CreditHedge.Application.ProtectiveExits
import Mathlib.Data.List.Infix
import Mathlib.Data.List.Pairwise

/-!
# Recording exit fills

Which sequences of exit fills `apply_exit_execution` takes, for any number of protected levels.

A fill is recorded against the one protection that owns its exit order (`owner_unique`: exit ids
are unique in the store, and a stop id is never a take-profit id). What the recording does is
`Recorded`; whether it goes through depends on that row alone. So a sequence goes through exactly
when, level by level, its fills fit into what is open (`Fits`), and `fits_step` is the one step of
that: a recorded fill uses up its own part and leaves every other level's room as it was.
-/

set_option autoImplicit false

namespace CreditHedge

open Coroutine

/-- A fill as the execution stream hands it over. -/
structure FillReport where
  execution : ExecutionUpdate
  receivedAt : Time
  payloadHash : PayloadHash

/-- The service takes these fills one after the other, raising at none of them. -/
inductive AcceptsAll : World → List FillReport → World → Prop
  | nil (w : World) : AcceptsAll w [] w
  | cons {w w₁ w' : World} {r : FillReport} {rs : List FillReport} {p : ProtectionSnapshot} :
      Coroutine.Runs handle
        (ProtectiveExitService.applyExitExecution r.execution r.receivedAt r.payloadHash)
        w (.ok p) w₁ →
      AcceptsAll w₁ rs w' → AcceptsAll w (r :: rs) w'

/-! ## Ownership of exit orders -/

/-- The order is the stop or the take-profit of this protection. -/
def IsExitOf (p : ProtectionSnapshot) (orderLinkId : String) : Prop :=
  orderLinkId = p.stopOrderLinkId ∨ some orderLinkId = p.tpOrderLinkId

instance (p : ProtectionSnapshot) (orderLinkId : String) : Decidable (IsExitOf p orderLinkId) :=
  inferInstanceAs (Decidable (_ ∨ _))

/-- **An exit order has one owner.** -/
theorem owner_unique {store : SqliteExecutionStore} {p q : ProtectionSnapshot}
    {orderLinkId : String} (hp : p ∈ store.protectionSnapshots.rows)
    (hq : q ∈ store.protectionSnapshots.rows) (hpe : IsExitOf p orderLinkId)
    (hqe : IsExitOf q orderLinkId) : p = q := by
  rcases hpe with rfl | hpe <;> rcases hqe with hqe | hqe
  · exact List.inj_on_of_nodup_map store.constraints.stopIds hp hq hqe
  · have := p.valid.stopRole.unique (q.valid.tpRole _ hqe.symm)
    exact absurd this (by decide)
  · subst hqe
    have := q.valid.stopRole.unique (p.valid.tpRole _ hpe.symm)
    exact absurd this (by decide)
  · exact KeyedTable.eq_of_nodup_filterMap store.constraints.tpIds hp hq hpe.symm hqe.symm

theorem load_by_exit {store : SqliteExecutionStore} {p : ProtectionSnapshot} {orderLinkId : String}
    (hp : p ∈ store.protectionSnapshots.rows) (he : IsExitOf p orderLinkId) :
    store.loadProtectionSnapshotByExitId orderLinkId = some p := by
  unfold SqliteExecutionStore.loadProtectionSnapshotByExitId
  cases hf : store.protectionSnapshots.rows.find? fun p =>
      p.stopOrderLinkId = orderLinkId ∨ p.tpOrderLinkId = some orderLinkId with
  | none =>
    have := List.find?_eq_none.mp hf p hp
    rw [decide_eq_true_iff] at this
    exact absurd (he.imp Eq.symm Eq.symm) this
  | some q =>
    have hq := List.find?_some hf
    rw [decide_eq_true_iff] at hq
    rw [owner_unique (List.mem_of_find?_eq_some hf) hp (hq.imp Eq.symm Eq.symm) he]

theorem known_of_exit {store : SqliteExecutionStore} {p : ProtectionSnapshot} {orderLinkId : String}
    (hp : p ∈ store.protectionSnapshots.rows) (he : IsExitOf p orderLinkId) :
    store.Known orderLinkId := by
  refine SqliteExecutionStore.known_of_references hp ?_
  rcases he with rfl | he
  · simp [Tables.references]
  · simp [Tables.references, ← he]

/-! ## One fill -/

/-- What recording a fill of `p` makes of the world. -/
structure Recorded (p : ProtectionSnapshot) (e : ExecutionUpdate) (w w' : World) : Prop where
  replaced : ∃ p' receivedAt, p'.toProtectionFields = exitFields p e receivedAt ∧
    SqliteExecutionStore.Replaced w.store w'.store p'
  executions : ∀ id,
    w'.store.hasExecution id = (decide (id = e.executionId) || w.store.hasExecution id)

theorem succeeds_of_exitFields {p p' : ProtectionSnapshot} {e : ExecutionUpdate} {receivedAt : Time}
    (h : p'.toProtectionFields = exitFields p e receivedAt) :
    SqliteExecutionStore.Succeeds p p' where
  entry := by rw [h]; rfl
  stop := by rw [h]; rfl
  tp := by rw [h]; rfl
  version := by rw [h]; rfl

section OneFill

variable {w w' : World} {p : ProtectionSnapshot} {e : ExecutionUpdate} {receivedAt : Time}
  {payloadHash : PayloadHash}

/-- A new fill of `p` comes down to the reducer and the write of its result, which succeeds. -/
theorem runs_newFill (hp : p ∈ w.store.protectionSnapshots.rows)
    (hexit : IsExitOf p e.orderLinkId) (hnew : w.store.hasExecution e.executionId = false)
    {p' : ProtectionSnapshot} :
    Coroutine.Runs handle (ProtectiveExitService.applyExitExecution e receivedAt payloadHash)
        w (.ok p') w' ↔
      applyExitExecution p e receivedAt = .ok p' ∧
        ∃ store', w.store.recordExitExecutionAndSnapshot p.version e receivedAt payloadHash p' =
          .ok (true, store') ∧ w' = { w with store := store' } := by
  have hload : ∀ a, handle a (.loadProtectionSnapshotByExitId e.orderLinkId) w =
      (.ok (some p), w) := fun _ => by
    rw [← load_by_exit hp hexit]
    rfl
  have hhas : ∀ a, handle a (.hasExecution e.executionId) w = (.ok false, w) := fun _ => by
    rw [← hnew]
    rfl
  unfold ProtectiveExitService.applyExitExecution
  rw [runs_call_bind hload]
  dsimp only
  rw [runs_call_bind hhas]
  dsimp only
  rw [if_neg Bool.false_ne_true, runs_lift_bind]
  cases happly : applyExitExecution p e receivedAt with
  | error failure => simp
  | ok updated =>
    have hfields := (applyExitExecution_eq_ok_iff.mp happly).2.2.2
    obtain ⟨store', hrecord, -, -⟩ := SqliteExecutionStore.recordExitExecutionAndSnapshot_ok
      receivedAt payloadHash (KeyedTable.find_of_mem hp) (succeeds_of_exitFields hfields) hnew
      (known_of_exit hp hexit)
    have hcall : ∀ a, handle a
        (.recordExitExecutionAndSnapshot p.version e receivedAt payloadHash updated) w =
          (.ok true, { w with store := store' }) := fun _ => by
      show w.writeWith _ = _
      rw [hrecord]
      rfl
    dsimp only
    rw [runs_call_bind hcall]
    dsimp only
    rw [if_pos rfl, runs_pure]
    constructor
    · rintro ⟨hp', rfl⟩
      obtain rfl := Except.ok.inj hp'
      exact ⟨rfl, store', hrecord, rfl⟩
    · rintro ⟨hp', store'', hrecord', rfl⟩
      obtain rfl := Except.ok.inj hp'
      rw [hrecord] at hrecord'
      obtain rfl := (Prod.mk.inj (Except.ok.inj hrecord')).2
      exact ⟨rfl, rfl⟩

/-- **When a fill goes through**, and what it leaves behind. -/
theorem Recorded.of_runs (hp : p ∈ w.store.protectionSnapshots.rows)
    (hexit : IsExitOf p e.orderLinkId) (hnew : w.store.hasExecution e.executionId = false)
    {p' : ProtectionSnapshot}
    (h : Coroutine.Runs handle (ProtectiveExitService.applyExitExecution e receivedAt payloadHash) w
      (.ok p') w') :
    e.quantity ≤ p.openQuantity ∧ 0 ≤ p.exitFees + e.fee ∧ Recorded p e w w' := by
  obtain ⟨happly, store', hrecord, rfl⟩ := (runs_newFill hp hexit hnew).mp h
  obtain ⟨-, hq, hfees, hfields⟩ := applyExitExecution_eq_ok_iff.mp happly
  obtain ⟨store'', hrecord', hreplaced, hexecutions⟩ :=
    SqliteExecutionStore.recordExitExecutionAndSnapshot_ok receivedAt payloadHash
      (KeyedTable.find_of_mem hp) (succeeds_of_exitFields hfields) hnew (known_of_exit hp hexit)
  rw [hrecord] at hrecord'
  obtain rfl := (Prod.mk.inj (Except.ok.inj hrecord')).2
  exact ⟨hq, hfees, ⟨p', receivedAt, hfields, hreplaced⟩, hexecutions⟩

theorem exists_runs (hp : p ∈ w.store.protectionSnapshots.rows)
    (hnew : w.store.hasExecution e.executionId = false) (hb : BelongsTo p e)
    (hq : e.quantity ≤ p.openQuantity) (hfees : 0 ≤ p.exitFees + e.fee) :
    ∃ p' w', Coroutine.Runs handle
      (ProtectiveExitService.applyExitExecution e receivedAt payloadHash) w (.ok p') w' := by
  obtain ⟨p', happly, hfields⟩ := applyExitExecution_ok receivedAt hb hq hfees
  obtain ⟨store', hrecord, -, -⟩ := SqliteExecutionStore.recordExitExecutionAndSnapshot_ok
    receivedAt payloadHash (KeyedTable.find_of_mem hp) (succeeds_of_exitFields hfields) hnew
    (known_of_exit hp hb.exit)
  exact ⟨p', _, (runs_newFill hp hb.exit hnew).mpr ⟨happly, store', hrecord, rfl⟩⟩

end OneFill

/-! ## What fits -/

/-- What the fills take out of this protection. -/
def filledOf (p : ProtectionSnapshot) (es : List ExecutionUpdate) : ℚ :=
  (es.map fun e => if IsExitOf p e.orderLinkId then e.quantity else 0).sum

/-- The fees the fills charge this protection. -/
def feesOf (p : ProtectionSnapshot) (es : List ExecutionUpdate) : ℚ :=
  (es.map fun e => if IsExitOf p e.orderLinkId then e.fee else 0).sum

theorem filledOf_cons (p : ProtectionSnapshot) (e : ExecutionUpdate) (es : List ExecutionUpdate) :
    filledOf p (e :: es) = (if IsExitOf p e.orderLinkId then e.quantity else 0) + filledOf p es :=
  List.sum_cons

theorem feesOf_cons (p : ProtectionSnapshot) (e : ExecutionUpdate) (es : List ExecutionUpdate) :
    feesOf p (e :: es) = (if IsExitOf p e.orderLinkId then e.fee else 0) + feesOf p es :=
  List.sum_cons

theorem filledOf_nonneg (p : ProtectionSnapshot) (es : List ExecutionUpdate) :
    0 ≤ filledOf p es := by
  refine List.sum_nonneg fun x hx => ?_
  obtain ⟨e, -, rfl⟩ := List.mem_map.mp hx
  split
  · exact e.quantity_pos.le
  · exact le_rfl

/-- The fills fit into this protection: into its open quantity, and at no point do they bring its
    fees below zero. -/
def FitsInto (p : ProtectionSnapshot) (es : List ExecutionUpdate) : Prop :=
  filledOf p es ≤ p.openQuantity ∧ ∀ pre, pre <+: es → 0 ≤ p.exitFees + feesOf p pre

/-- They fit into every protection of the store. -/
def Fits (w : World) (es : List ExecutionUpdate) : Prop :=
  ∀ p ∈ w.store.protectionSnapshots.rows, FitsInto p es

/-- Fills as the exchange reports them: each once, each of an exit order it was given. -/
structure Offered (w : World) (es : List ExecutionUpdate) : Prop where
  nodup : (es.map fun e => e.executionId).Nodup
  unrecorded : ∀ e ∈ es, w.store.hasExecution e.executionId = false
  belongs : ∀ e ∈ es, ∃ p ∈ w.store.protectionSnapshots.rows, BelongsTo p e

theorem forall_prefix_cons {α : Type} {P : List α → Prop} {a : α} {l : List α} :
    (∀ pre, pre <+: a :: l → P pre) ↔ P [] ∧ ∀ pre, pre <+: l → P (a :: pre) := by
  constructor
  · intro h
    exact ⟨h _ List.nil_prefix, fun pre hpre => h _ ((List.prefix_cons_inj a).mpr hpre)⟩
  · rintro ⟨hnil, hcons⟩ pre hpre
    rcases List.prefix_cons_iff.mp hpre with rfl | ⟨pre', rfl, hpre'⟩
    · exact hnil
    · exact hcons pre' hpre'

section Step

variable {w w' : World} {p p' : ProtectionSnapshot} {e : ExecutionUpdate}
  {es : List ExecutionUpdate} {receivedAt : Time}

theorem isExitOf_congr (hfields : p'.toProtectionFields = exitFields p e receivedAt)
    (orderLinkId : String) : IsExitOf p' orderLinkId ↔ IsExitOf p orderLinkId := by
  have hstop : p'.stopOrderLinkId = p.stopOrderLinkId := by rw [hfields]; rfl
  have htp : p'.tpOrderLinkId = p.tpOrderLinkId := by rw [hfields]; rfl
  unfold IsExitOf
  rw [hstop, htp]

/-- The owner: its first fill, and then what is left fits the rest. -/
theorem fitsInto_cons_owner (hexit : IsExitOf p e.orderLinkId)
    (hfields : p'.toProtectionFields = exitFields p e receivedAt) :
    FitsInto p (e :: es) ↔ FitsInto p' es := by
  have hopen : p'.openQuantity = p.openQuantity - e.quantity := by rw [hfields]; rfl
  have hexitFees : p'.exitFees = p.exitFees + e.fee := by rw [hfields]; rfl
  have hfilled : filledOf p' es = filledOf p es := by
    unfold filledOf
    simp only [isExitOf_congr hfields]
  have hfees : ∀ pre, feesOf p' pre = feesOf p pre := fun pre => by
    unfold feesOf
    simp only [isExitOf_congr hfields]
  unfold FitsInto
  rw [forall_prefix_cons, filledOf_cons, if_pos hexit, hfilled, hopen, hexitFees,
    le_sub_iff_add_le']
  simp only [hfees, feesOf_cons, if_pos hexit, add_assoc]
  have hnil : 0 ≤ p.exitFees + feesOf p [] := by
    rw [feesOf, List.map_nil, List.sum_nil, add_zero]
    exact p.valid.exitFees_nonneg
  exact ⟨fun h => ⟨h.1, h.2.2⟩, fun h => ⟨h.1, hnil, h.2⟩⟩

/-- Any other protection does not notice. -/
theorem fitsInto_cons_other (hexit : ¬ IsExitOf p e.orderLinkId) :
    FitsInto p (e :: es) ↔ FitsInto p es := by
  unfold FitsInto
  rw [forall_prefix_cons, filledOf_cons, if_neg hexit, zero_add]
  simp only [feesOf_cons, if_neg hexit, zero_add]
  constructor
  · rintro ⟨hq, -, hfees⟩
    exact ⟨hq, hfees⟩
  · rintro ⟨hq, hfees⟩
    exact ⟨hq, hfees _ List.nil_prefix, hfees⟩

/-- The rows after a recording: the owner's successor, and the others as they were. -/
theorem Recorded.rows (h : Recorded p e w w') (hp : p ∈ w.store.protectionSnapshots.rows) :
    ∃ p' receivedAt, p'.toProtectionFields = exitFields p e receivedAt ∧
      p' ∈ w'.store.protectionSnapshots.rows ∧
      (∀ q ∈ w.store.protectionSnapshots.rows, q ≠ p → q ∈ w'.store.protectionSnapshots.rows) ∧
      ∀ q ∈ w'.store.protectionSnapshots.rows,
        q = p' ∨ q ∈ w.store.protectionSnapshots.rows ∧ q ≠ p := by
  obtain ⟨p', receivedAt, hfields, hreplaced⟩ := h.replaced
  have hkey : p'.entryOrderLinkId = p.entryOrderLinkId := by rw [hfields]; rfl
  have hrows := (KeyedTable.swap_eq_some.mp hreplaced.swap).2
  refine ⟨p', receivedAt, hfields, ?_, fun q hq hne => ?_, fun q hq => ?_⟩
  · rw [hrows, List.mem_map]
    exact ⟨p, hp, if_pos hkey.symm⟩
  · rw [hrows, List.mem_map]
    refine ⟨q, hq, if_neg fun hqk => hne ?_⟩
    exact KeyedTable.eq_of_key hq hp (hqk.trans hkey)
  · rw [hrows, List.mem_map] at hq
    obtain ⟨r, hr, rfl⟩ := hq
    split
    · exact .inl rfl
    · rename_i hne
      exact .inr ⟨hr, fun hrp => hne (by rw [hrp, hkey])⟩

/-- **The step.** After a recorded fill, the rest fits exactly if all of it fitted before. -/
theorem fits_step (h : Recorded p e w w') (hp : p ∈ w.store.protectionSnapshots.rows)
    (hexit : IsExitOf p e.orderLinkId) : Fits w (e :: es) ↔ Fits w' es := by
  obtain ⟨p', receivedAt, hfields, hp', hkeep, honly⟩ := h.rows hp
  constructor
  · intro hfits q hq'
    rcases honly q hq' with rfl | ⟨hqw, hne⟩
    · exact (fitsInto_cons_owner hexit hfields).mp (hfits p hp)
    · exact (fitsInto_cons_other fun hqe => hne (owner_unique hqw hp hqe hexit)).mp (hfits q hqw)
  · intro hfits q hqw
    by_cases hqp : q = p
    · rw [hqp]
      exact (fitsInto_cons_owner hexit hfields).mpr (hfits p' hp')
    · exact (fitsInto_cons_other fun hqe => hqp (owner_unique hqw hp hqe hexit)).mpr
        (hfits q (hkeep q hqw hqp))

/-- What fits includes its first fill. -/
theorem Fits.head (hfits : Fits w (e :: es)) (hp : p ∈ w.store.protectionSnapshots.rows)
    (hexit : IsExitOf p e.orderLinkId) : e.quantity ≤ p.openQuantity ∧ 0 ≤ p.exitFees + e.fee := by
  obtain ⟨hq, hfees⟩ := hfits p hp
  have hone := hfees [e] ⟨es, rfl⟩
  rw [filledOf_cons, if_pos hexit] at hq
  rw [feesOf_cons, if_pos hexit, feesOf, List.map_nil, List.sum_nil, add_zero] at hone
  exact ⟨by linarith [filledOf_nonneg p es], hone⟩

/-- The rest is still offered: no exit changed hands, and only this execution was recorded. -/
theorem Offered.step (hoffered : Offered w (e :: es)) (h : Recorded p e w w')
    (hp : p ∈ w.store.protectionSnapshots.rows) : Offered w' es := by
  obtain ⟨p', receivedAt, hfields, hp', hkeep, -⟩ := h.rows hp
  have hnodup := hoffered.nodup
  rw [List.map_cons, List.nodup_cons] at hnodup
  refine ⟨hnodup.2, fun e' he' => ?_, fun e' he' => ?_⟩
  · rw [h.executions, hoffered.unrecorded e' (List.mem_cons_of_mem _ he'), Bool.or_false,
      decide_eq_false_iff_not]
    exact fun hid => hnodup.1 (List.mem_map.mpr ⟨e', he', hid⟩)
  · obtain ⟨q, hq, hb⟩ := hoffered.belongs e' (List.mem_cons_of_mem _ he')
    by_cases hqp : q = p
    · subst hqp
      have hstop : p'.stopOrderLinkId = q.stopOrderLinkId := by rw [hfields]; rfl
      have hstopId : p'.stopOrderId = q.stopOrderId := by rw [hfields]; rfl
      have htpId : p'.tpOrderId = q.tpOrderId := by rw [hfields]; rfl
      refine ⟨p', hp', hb.symbol, hb.side, (isExitOf_congr hfields _).mpr hb.exit, ?_⟩
      rw [hstop, hstopId, htpId]
      exact hb.orderId
    · exact ⟨q, hkeep q hq hqp, hb⟩

end Step

/-! ## Whole sequences -/

/-- **A sequence of fills goes through exactly when it fits.** -/
theorem acceptsAll_iff_fits {w : World} {rs : List FillReport}
    (hoffered : Offered w (rs.map FillReport.execution)) :
    (∃ w', AcceptsAll w rs w') ↔ Fits w (rs.map FillReport.execution) := by
  induction rs generalizing w with
  | nil =>
    refine ⟨fun _ p _ => ⟨p.valid.openQuantity_nonneg, fun pre hpre => ?_⟩,
      fun _ => ⟨w, .nil w⟩⟩
    rw [List.prefix_nil.mp hpre, feesOf, List.map_nil, List.sum_nil, add_zero]
    exact p.valid.exitFees_nonneg
  | cons r rs ih =>
    obtain ⟨p, hp, hb⟩ := hoffered.belongs r.execution (List.mem_cons_self ..)
    have hnew := hoffered.unrecorded r.execution (List.mem_cons_self ..)
    constructor
    · rintro ⟨w', haccepts⟩
      cases haccepts with
      | cons hrun hrest =>
        obtain ⟨-, -, hrecorded⟩ := Recorded.of_runs hp hb.exit hnew hrun
        exact (fits_step hrecorded hp hb.exit).mpr
          ((ih (hoffered.step hrecorded hp)).mp ⟨w', hrest⟩)
    · intro hfits
      obtain ⟨hq, hfees⟩ := hfits.head hp hb.exit
      obtain ⟨p', w₁, hrun⟩ := exists_runs hp hnew hb hq hfees
      obtain ⟨-, -, hrecorded⟩ := Recorded.of_runs hp hb.exit hnew hrun
      obtain ⟨w', hrest⟩ := (ih (hoffered.step hrecorded hp)).mpr
        ((fits_step hrecorded hp hb.exit).mp hfits)
      exact ⟨w', .cons hrun hrest⟩

/-- What the store holds open in all. -/
def totalOpen (w : World) : ℚ :=
  (w.store.protectionSnapshots.rows.map fun p => p.openQuantity).sum

/-- **The books follow the fills.** Each level's open quantity has gone down by its own fills, and
    the total by all of them. -/
theorem AcceptsAll.books {w w' : World} {rs : List FillReport} (h : AcceptsAll w rs w')
    (hoffered : Offered w (rs.map FillReport.execution)) :
    (∀ p ∈ w.store.protectionSnapshots.rows, ∃ p' ∈ w'.store.protectionSnapshots.rows,
        p'.entryOrderLinkId = p.entryOrderLinkId ∧
        p'.openQuantity = p.openQuantity - filledOf p (rs.map FillReport.execution)) ∧
      totalOpen w' = totalOpen w - ((rs.map FillReport.execution).map fun e => e.quantity).sum := by
  induction h with
  | nil w =>
    refine ⟨fun p hp => ⟨p, hp, rfl, ?_⟩, ?_⟩
    · simp [filledOf]
    · simp
  | @cons w w₁ w' r rs p₁ hrun hrest ih =>
    obtain ⟨p, hp, hb⟩ := hoffered.belongs r.execution (List.mem_cons_self ..)
    have hnew := hoffered.unrecorded r.execution (List.mem_cons_self ..)
    obtain ⟨-, -, hrecorded⟩ := Recorded.of_runs hp hb.exit hnew hrun
    obtain ⟨hlevels, htotal⟩ := ih (hoffered.step hrecorded hp)
    obtain ⟨p', receivedAt, hfields, hp', hkeep, -⟩ := hrecorded.rows hp
    have hopen : p'.openQuantity = p.openQuantity - r.execution.quantity := by rw [hfields]; rfl
    have hentry : p'.entryOrderLinkId = p.entryOrderLinkId := by rw [hfields]; rfl
    constructor
    · intro q hq
      rw [List.map_cons, filledOf_cons]
      by_cases hqp : q = p
      · subst hqp
        obtain ⟨q', hq', hkey, hq'open⟩ := hlevels p' hp'
        refine ⟨q', hq', hkey.trans hentry, ?_⟩
        have hfilled : filledOf p' (rs.map FillReport.execution) =
            filledOf q (rs.map FillReport.execution) := by
          unfold filledOf
          simp only [isExitOf_congr hfields]
        have hexit : IsExitOf q r.execution.orderLinkId := hb.exit
        rw [hq'open, hopen, hfilled, if_pos hexit]
        ring
      · obtain ⟨q', hq', hkey, hq'open⟩ := hlevels q (hkeep q hq hqp)
        refine ⟨q', hq', hkey, ?_⟩
        rw [hq'open, if_neg fun hqe => hqp (owner_unique hq hp hqe hb.exit), zero_add]
    · have hsum : totalOpen w₁ = totalOpen w + (p'.openQuantity - p.openQuantity) := by
        obtain ⟨p'', receivedAt', hfields', hreplaced⟩ := hrecorded.replaced
        have hopen'' : p''.openQuantity = p.openQuantity - r.execution.quantity := by
          rw [hfields']; rfl
        have hkey : p''.entryOrderLinkId = p.entryOrderLinkId := by rw [hfields']; rfl
        have := KeyedTable.sum_swap hreplaced.swap
          (hkey ▸ KeyedTable.find_of_mem hp) fun p => p.openQuantity
        unfold totalOpen
        rw [this, hopen'', hopen]
      rw [htotal, hsum, hopen, List.map_cons, List.map_cons, List.sum_cons]
      ring

end CreditHedge
