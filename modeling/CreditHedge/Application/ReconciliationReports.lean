import CreditHedge.Application.ReadOnlyReconciliation

/-!
# The startup report

What a report of the startup comparison says about itself. The checks put together what they find
piece by piece: differences, actions and the severity are three accumulators. Here one check on its
own is a piece of findings, and a comparison is its pieces in a row (`Additive`): what holds of
every piece and of two in a row holds of the report (`Consistent`), and what does not depend on the
order of two pieces does not depend on the order of the lists (`SameFindings`).
-/

set_option autoImplicit false

namespace CreditHedge

/-! ## Findings in a row -/

namespace ReconciliationStatus

theorem moreSevere_assoc (s t u : ReconciliationStatus) :
    (s.moreSevere t).moreSevere u = s.moreSevere (t.moreSevere u) := by
  cases s <;> cases t <;> cases u <;> rfl

theorem moreSevere_comm (s t : ReconciliationStatus) : s.moreSevere t = t.moreSevere s := by
  cases s <;> cases t <;> rfl

end ReconciliationStatus

namespace Findings

instance : Append Findings where
  append f g :=
    { differences := f.differences ++ g.differences
      actions := f.actions ++ g.actions
      severity := f.severity.moreSevere g.severity }

variable (f g h : Findings)

@[simp] theorem append_differences : (f ++ g).differences = f.differences ++ g.differences := rfl

@[simp] theorem append_actions : (f ++ g).actions = f.actions ++ g.actions := rfl

@[simp] theorem append_severity : (f ++ g).severity = f.severity.moreSevere g.severity := rfl

theorem ext_fields {f g : Findings} (hd : f.differences = g.differences)
    (ha : f.actions = g.actions) (hs : f.severity = g.severity) : f = g := by
  cases f
  cases g
  simp_all

theorem append_assoc : f ++ g ++ h = f ++ (g ++ h) :=
  ext_fields (List.append_assoc ..) (List.append_assoc ..) (ReconciliationStatus.moreSevere_assoc ..)

@[simp] theorem append_empty : f ++ ({} : Findings) = f := by
  refine ext_fields (List.append_nil _) (List.append_nil _) ?_
  cases h : f.severity <;> simp [h] <;> rfl

@[simp] theorem empty_append : ({} : Findings) ++ f = f := by
  refine ext_fields (List.nil_append _) (List.nil_append _) ?_
  cases h : f.severity <;> simp [h] <;> rfl

theorem report_eq (severity : ReconciliationStatus) (difference : StateDifference)
    (action : Option RepairAction) :
    f.report severity difference action =
      f ++ ({} : Findings).report severity difference action := by
  refine ext_fields rfl ?_ ?_
  · simp [report]
  · cases severity <;> cases h : f.severity <;> simp [report, h] <;> rfl

end Findings

/-- The check adds its findings to those there are, and does not look at them. -/
def Additive {α : Type} (check : Findings → α → Findings) : Prop :=
  ∀ f x, check f x = f ++ check {} x

theorem Additive.foldl {α : Type} {check : Findings → α → Findings} (h : Additive check)
    (xs : List α) (f : Findings) : xs.foldl check f = f ++ xs.foldl check {} := by
  induction xs generalizing f with
  | nil => exact (Findings.append_empty f).symm
  | cons x xs ih =>
    rw [List.foldl_cons, List.foldl_cons, ih, ih (check {} x), h f x, Findings.append_assoc]

/-! ## Consistent findings -/

/-- The most severe of these, and `MATCHED` if there is none. -/
structure IsWorst (status : ReconciliationStatus) (severities : List ReconciliationStatus) :
    Prop where
  bound : ∀ s ∈ severities, s.severity ≤ status.severity
  attained : status ∈ severities ∨ severities = [] ∧ status = .matched

/-- Every difference is of some severity, the findings are as severe as the worst of them, and every
    action comes with a difference on the same order. -/
structure Consistent (severityOf : StateDifference → ReconciliationStatus) (f : Findings) :
    Prop where
  severe : ∀ d ∈ f.differences, severityOf d ≠ .matched
  worst : IsWorst f.severity (f.differences.map severityOf)
  actions : ∀ action ∈ f.actions, ∃ d ∈ f.differences, d.orderLinkId = action.orderLinkId

section Consistent

variable {severityOf : StateDifference → ReconciliationStatus} {f g : Findings}

theorem IsWorst.append {s t : ReconciliationStatus} {ss ts : List ReconciliationStatus}
    (hs : IsWorst s ss) (ht : IsWorst t ts) : IsWorst (s.moreSevere t) (ss ++ ts) := by
  have hle : s.severity ≤ (s.moreSevere t).severity ∧ t.severity ≤ (s.moreSevere t).severity := by
    cases s <;> cases t <;> decide
  refine ⟨fun u hu => ?_, ?_⟩
  · rcases List.mem_append.mp hu with hu | hu
    · exact (hs.bound u hu).trans hle.1
    · exact (ht.bound u hu).trans hle.2
  · rcases hs.attained with hmem | ⟨rfl, rfl⟩
    · rcases ht.attained with hmem' | ⟨rfl, rfl⟩
      · unfold ReconciliationStatus.moreSevere
        split
        · exact .inl (List.mem_append_right _ hmem')
        · exact .inl (List.mem_append_left _ hmem)
      · have hsame : s.moreSevere .matched = s := by cases s <;> rfl
        rw [hsame]
        exact .inl (List.mem_append_left _ hmem)
    · have hsame : ReconciliationStatus.matched.moreSevere t = t := by cases t <;> rfl
      rw [hsame]
      exact ht.attained

theorem Consistent.empty : Consistent severityOf {} where
  severe d hd := absurd hd (by simp)
  worst := ⟨fun s hs => absurd hs (by simp), .inr ⟨rfl, rfl⟩⟩
  actions action ha := absurd ha (by simp)

theorem Consistent.append (hf : Consistent severityOf f) (hg : Consistent severityOf g) :
    Consistent severityOf (f ++ g) where
  severe d hd := (List.mem_append.mp hd).elim (hf.severe d) (hg.severe d)
  worst := by
    rw [Findings.append_differences, List.map_append]
    exact hf.worst.append hg.worst
  actions action ha := by
    rcases List.mem_append.mp ha with ha | ha
    · obtain ⟨d, hd, hid⟩ := hf.actions action ha
      exact ⟨d, List.mem_append_left _ hd, hid⟩
    · obtain ⟨d, hd, hid⟩ := hg.actions action ha
      exact ⟨d, List.mem_append_right _ hd, hid⟩

/-- A single report, of the severity its difference has. -/
theorem Consistent.report {severity : ReconciliationStatus} {difference : StateDifference}
    {action : Option RepairAction} (hseverity : severityOf difference = severity)
    (hsevere : severity ≠ .matched)
    (haction : ∀ a ∈ action, difference.orderLinkId = a.orderLinkId) :
    Consistent severityOf (({} : Findings).report severity difference action) where
  severe d hd := by
    obtain rfl := List.mem_singleton.mp hd
    exact hseverity ▸ hsevere
  worst := by
    have hsame : ReconciliationStatus.matched.moreSevere severity = severity := by
      cases severity <;> rfl
    have hworst : IsWorst severity [severity] :=
      ⟨fun s hs => (List.mem_singleton.mp hs) ▸ le_rfl, .inl (List.mem_singleton_self _)⟩
    show IsWorst (ReconciliationStatus.matched.moreSevere severity) [severityOf difference]
    rw [hsame, hseverity]
    exact hworst
  actions a ha := ⟨difference, List.mem_singleton_self _, haction a (Option.mem_toList.mp ha)⟩

/-- One that asks for nothing. -/
theorem Consistent.report_none {severity : ReconciliationStatus} {difference : StateDifference}
    (hseverity : severityOf difference = severity) (hsevere : severity ≠ .matched) :
    Consistent severityOf (({} : Findings).report severity difference none) :=
  .report hseverity hsevere fun action ha => by cases ha

/-- One that asks for something about its own order. -/
theorem Consistent.report_some {severity : ReconciliationStatus} {difference : StateDifference}
    {action : RepairAction} (hseverity : severityOf difference = severity)
    (hsevere : severity ≠ .matched) (haction : difference.orderLinkId = action.orderLinkId) :
    Consistent severityOf (({} : Findings).report severity difference (some action)) :=
  .report hseverity hsevere fun _ ha => Option.some.inj ha ▸ haction

/-- A loop of consistent checks. -/
theorem Consistent.foldl {α : Type} {check : Findings → α → Findings} (hadd : Additive check)
    (h : ∀ x, Consistent severityOf (check {} x)) (xs : List α) :
    Consistent severityOf (xs.foldl check {}) := by
  induction xs with
  | nil => exact .empty
  | cons x xs ih =>
    rw [List.foldl_cons, hadd.foldl]
    exact (h x).append ih

/-- Consistent findings match exactly if nothing was found and nothing is to be done. -/
theorem Consistent.matched_iff (h : Consistent severityOf f) :
    f.severity = .matched ↔ f.differences = [] ∧ f.actions = [] := by
  constructor
  · intro hmatched
    have hnone : f.differences = [] := by
      refine List.eq_nil_iff_forall_not_mem.mpr fun d hd => ?_
      have hbound := h.worst.bound _ (List.mem_map_of_mem hd)
      have hsevere := h.severe d hd
      rw [hmatched] at hbound
      cases hseverity : severityOf d with
      | matched => exact hsevere hseverity
      | repairable => exact absurd hbound (by rw [hseverity]; decide)
      | ambiguous => exact absurd hbound (by rw [hseverity]; decide)
      | dangerous => exact absurd hbound (by rw [hseverity]; decide)
    refine ⟨hnone, List.eq_nil_iff_forall_not_mem.mpr fun action ha => ?_⟩
    obtain ⟨d, hd, -⟩ := h.actions action ha
    rw [hnone] at hd
    cases hd
  · rintro ⟨hnone, -⟩
    rcases h.worst.attained with hmem | ⟨-, hmatched⟩
    · rw [hnone] at hmem
      cases hmem
    · exact hmatched

end Consistent

/-! ## The checks -/

/-- The severity a difference is reported with. -/
def differenceSeverity (strategyInstance : String) (cycleNumber : ℕ) (d : StateDifference) :
    ReconciliationStatus :=
  match d.kind with
  | .unknownExchangeOrder =>
    if d.orderLinkId.any (isOwnedOrderLinkId strategyInstance cycleNumber) then .repairable
    else .ambiguous
  | .missingExchangeOrder | .unknownExchangeExecution => .ambiguous
  | .missingProtection | .missingTakeProfit | .missingLocalExecution => .repairable
  | .protectionMismatch | .positionMismatch | .unknownExchangePosition
  | .unknownOptionPosition => .dangerous

section Checks

variable (strategyInstance : String) (cycleNumber : ℕ)
  (localState : LocalExecutionRecoveryState) (exchange : PrivateAccountSnapshot)

theorem additive_checkOpenOrder :
    Additive (checkOpenOrder strategyInstance cycleNumber localState) := by
  intro f order
  unfold checkOpenOrder
  split
  · simp
  · dsimp only
    split <;> exact Findings.report_eq ..

theorem consistent_checkOpenOrder (order : ExchangeOrder) :
    Consistent (differenceSeverity strategyInstance cycleNumber)
      (checkOpenOrder strategyInstance cycleNumber localState {} order) := by
  unfold checkOpenOrder
  split
  · exact .empty
  · dsimp only
    split
    · rename_i howned
      refine .report_some ?_ (by simp) rfl
      unfold differenceSeverity
      simp [howned]
    · rename_i howned
      refine .report_none ?_ (by simp)
      unfold differenceSeverity
      simp [howned]

theorem additive_checkExecution :
    Additive (checkExecution strategyInstance cycleNumber localState) := by
  intro f execution
  unfold checkExecution
  split
  · simp
  · dsimp only
    split <;> exact Findings.report_eq ..

theorem consistent_checkExecution (execution : ExecutionUpdate) :
    Consistent (differenceSeverity strategyInstance cycleNumber)
      (checkExecution strategyInstance cycleNumber localState {} execution) := by
  unfold checkExecution
  split
  · exact .empty
  · dsimp only
    split
    · exact .report_some rfl (by simp) rfl
    · exact .report_none rfl (by simp)

theorem additive_checkEntryOrder : Additive (checkEntryOrder exchange) := by
  intro f entry
  unfold checkEntryOrder
  split
  · simp
  · split
    · exact Findings.report_eq ..
    · simp

theorem consistent_checkEntryOrder (entry : EntryExecutionSnapshot) :
    Consistent (differenceSeverity strategyInstance cycleNumber)
      (checkEntryOrder exchange {} entry) := by
  unfold checkEntryOrder
  split
  · exact .empty
  · split
    · exact .report_none rfl (by simp)
    · exact .empty

theorem additive_checkStop : Additive (checkStop localState exchange) := by
  intro f p
  unfold checkStop
  dsimp only
  cases orderOf exchange.openOrders p.stopOrderLinkId with
  | none => exact Findings.report_eq ..
  | some stop =>
    dsimp only
    split
    · simp
    · exact Findings.report_eq ..

theorem consistent_checkStop (p : ProtectionSnapshot) :
    Consistent (differenceSeverity strategyInstance cycleNumber)
      (checkStop localState exchange {} p) := by
  unfold checkStop
  dsimp only
  cases orderOf exchange.openOrders p.stopOrderLinkId with
  | none =>
    exact .report_some rfl (by simp) rfl
  | some stop =>
    dsimp only
    split
    · exact .empty
    · exact .report_none rfl (by simp)

theorem additive_checkTakeProfit : Additive (checkTakeProfit localState exchange) := by
  intro f p
  unfold checkTakeProfit
  cases p.tpOrderLinkId with
  | none => simp
  | some tpId =>
    dsimp only
    cases orderOf exchange.openOrders tpId with
    | none => exact Findings.report_eq ..
    | some tp =>
      dsimp only
      split
      · simp
      · exact Findings.report_eq ..

theorem consistent_checkTakeProfit (p : ProtectionSnapshot) :
    Consistent (differenceSeverity strategyInstance cycleNumber)
      (checkTakeProfit localState exchange {} p) := by
  unfold checkTakeProfit
  cases p.tpOrderLinkId with
  | none => exact .empty
  | some tpId =>
    dsimp only
    cases orderOf exchange.openOrders tpId with
    | none =>
      exact .report_some rfl (by simp) rfl
    | some tp =>
      dsimp only
      split
      · exact .empty
      · exact .report_none rfl (by simp)

theorem additive_checkProtection : Additive (checkProtection localState exchange) := by
  intro f p
  unfold checkProtection
  split
  · simp
  · rw [additive_checkTakeProfit, additive_checkStop, Findings.append_assoc,
      ← additive_checkTakeProfit localState exchange (checkStop localState exchange {} p) p]

theorem consistent_checkProtection (p : ProtectionSnapshot) :
    Consistent (differenceSeverity strategyInstance cycleNumber)
      (checkProtection localState exchange {} p) := by
  unfold checkProtection
  split
  · exact .empty
  · rw [additive_checkTakeProfit]
    exact (consistent_checkStop strategyInstance cycleNumber localState exchange p).append
      (consistent_checkTakeProfit strategyInstance cycleNumber localState exchange p)

theorem additive_checkProtected : Additive (checkProtected localState) := by
  intro f entry
  unfold checkProtected
  split
  · exact Findings.report_eq ..
  · simp

theorem consistent_checkProtected (entry : EntryExecutionSnapshot) :
    Consistent (differenceSeverity strategyInstance cycleNumber)
      (checkProtected localState {} entry) := by
  unfold checkProtected
  split
  · exact .report_some rfl (by simp) rfl
  · exact .empty

theorem checkPerp_eq (f : Findings) :
    checkPerp localState exchange f = f ++ checkPerp localState exchange {} := by
  unfold checkPerp
  dsimp only
  split
  · simp
  · exact Findings.report_eq ..

theorem consistent_checkPerp :
    Consistent (differenceSeverity strategyInstance cycleNumber)
      (checkPerp localState exchange {}) := by
  unfold checkPerp
  dsimp only
  split
  · exact .empty
  · refine .report ?_ (by simp) fun action ha => ?_
    · by_cases hunknown :
          expectedPerpQuantity localState = 0 ∧ nonzeroPerps exchange.positions ≠ []
      · simp only [differenceSeverity, if_pos hunknown]
      · simp only [differenceSeverity, if_neg hunknown]
    · cases ha

theorem checkOptions_eq (f : Findings) :
    checkOptions localState exchange f = f ++ checkOptions localState exchange {} := by
  unfold checkOptions
  split
  · simp
  · exact Findings.report_eq ..

theorem consistent_checkOptions :
    Consistent (differenceSeverity strategyInstance cycleNumber)
      (checkOptions localState exchange {}) := by
  unfold checkOptions
  split
  · exact .empty
  · exact .report_none rfl (by simp)

/-- The comparison, as its pieces in a row. -/
theorem findings_eq : findings strategyInstance cycleNumber localState exchange =
    exchange.openOrders.foldl (checkOpenOrder strategyInstance cycleNumber localState) {} ++
      exchange.executions.foldl (checkExecution strategyInstance cycleNumber localState) {} ++
      localState.entrySnapshots.rows.foldl (checkEntryOrder exchange) {} ++
      localState.protectionSnapshots.rows.foldl (checkProtection localState exchange) {} ++
      localState.entrySnapshots.rows.foldl (checkProtected localState) {} ++
      checkPerp localState exchange {} ++ checkOptions localState exchange {} := by
  unfold findings
  dsimp only
  rw [checkOptions_eq, checkPerp_eq, (additive_checkProtected localState).foldl,
    (additive_checkProtection localState exchange).foldl,
    (additive_checkEntryOrder exchange).foldl,
    (additive_checkExecution strategyInstance cycleNumber localState).foldl]

/-- **The findings of a comparison are consistent.** -/
theorem consistent_findings :
    Consistent (differenceSeverity strategyInstance cycleNumber)
      (findings strategyInstance cycleNumber localState exchange) := by
  rw [findings_eq]
  have horders := Consistent.foldl
    (additive_checkOpenOrder strategyInstance cycleNumber localState)
    (consistent_checkOpenOrder strategyInstance cycleNumber localState) exchange.openOrders
  have hexecutions := Consistent.foldl
    (additive_checkExecution strategyInstance cycleNumber localState)
    (consistent_checkExecution strategyInstance cycleNumber localState) exchange.executions
  have hentries := Consistent.foldl (additive_checkEntryOrder exchange)
    (consistent_checkEntryOrder strategyInstance cycleNumber exchange)
    localState.entrySnapshots.rows
  have hexits := Consistent.foldl (additive_checkProtection localState exchange)
    (consistent_checkProtection strategyInstance cycleNumber localState exchange)
    localState.protectionSnapshots.rows
  have hfills := Consistent.foldl (additive_checkProtected localState)
    (consistent_checkProtected strategyInstance cycleNumber localState)
    localState.entrySnapshots.rows
  exact (((((horders.append hexecutions).append hentries).append hexits).append hfills).append
    (consistent_checkPerp strategyInstance cycleNumber localState exchange)).append
    (consistent_checkOptions strategyInstance cycleNumber localState exchange)

/-- The report of consistent findings is never refused. -/
theorem evaluateStartupReconciliation_eq :
    evaluateStartupReconciliation strategyInstance cycleNumber localState exchange =
      .ok
        { status := (findings strategyInstance cycleNumber localState exchange).severity
          differences := (findings strategyInstance cycleNumber localState exchange).differences
          repairActions := (findings strategyInstance cycleNumber localState exchange).actions
          tradingAllowed :=
            (findings strategyInstance cycleNumber localState exchange).severity = .matched } := by
  have hmatched :=
    (consistent_findings strategyInstance cycleNumber localState exchange).matched_iff
  simp only [evaluateStartupReconciliation, ReconciliationReport.create, bind_unit_eq_ok,
    refuseIf_eq_ok, not_not, not_and, not_or]
  refine ⟨trivial, fun h => ?_, rfl⟩
  exact hmatched.mp h

end Checks

/-! ## The order of the lists -/

/-- The same findings, in whatever order they come and whatever their details print. -/
structure SameFindings (f g : Findings) : Prop where
  differences : (f.differences.map fun d => (d.kind, d.orderLinkId)).Perm
    (g.differences.map fun d => (d.kind, d.orderLinkId))
  actions : f.actions.Perm g.actions
  severity : f.severity = g.severity

section SameFindings

variable {f f' g g' h : Findings}

theorem SameFindings.refl (f : Findings) : SameFindings f f := ⟨.refl _, .refl _, rfl⟩

theorem SameFindings.trans (hfg : SameFindings f g) (hgh : SameFindings g h) : SameFindings f h :=
  ⟨hfg.differences.trans hgh.differences, hfg.actions.trans hgh.actions,
    hfg.severity.trans hgh.severity⟩

theorem SameFindings.append (hf : SameFindings f f') (hg : SameFindings g g') :
    SameFindings (f ++ g) (f' ++ g') where
  differences := by
    rw [Findings.append_differences, Findings.append_differences, List.map_append,
      List.map_append]
    exact hf.differences.append hg.differences
  actions := hf.actions.append hg.actions
  severity := by
    rw [Findings.append_severity, Findings.append_severity, hf.severity, hg.severity]

theorem SameFindings.comm (f g : Findings) : SameFindings (f ++ g) (g ++ f) where
  differences := by
    rw [Findings.append_differences, Findings.append_differences]
    exact List.perm_append_comm.map _
  actions := List.perm_append_comm
  severity := ReconciliationStatus.moreSevere_comm f.severity g.severity

/-- A loop finds the same in every order. -/
theorem SameFindings.foldl {α : Type} {check : Findings → α → Findings} (hadd : Additive check)
    {xs ys : List α} (h : xs.Perm ys) :
    SameFindings (xs.foldl check {}) (ys.foldl check {}) := by
  induction h with
  | nil => exact .refl _
  | cons x _ ih =>
    rw [List.foldl_cons, List.foldl_cons, hadd.foldl, hadd.foldl _ (check {} x)]
    exact (SameFindings.refl _).append ih
  | swap x y zs =>
    rw [List.foldl_cons, List.foldl_cons, List.foldl_cons, List.foldl_cons,
      hadd.foldl zs (check (check {} y) x), hadd.foldl zs (check (check {} x) y),
      hadd (check {} y) x, hadd (check {} x) y]
    exact (SameFindings.comm _ _).append (.refl _)
  | trans _ _ ih ih' => exact ih.trans ih'

end SameFindings

/-- The two sides of a comparison, with every list in another order. -/
structure Reordered (localState localState' : LocalExecutionRecoveryState)
    (exchange exchange' : PrivateAccountSnapshot) : Prop where
  orderIntents : localState.orderIntents.rows.Perm localState'.orderIntents.rows
  entrySnapshots : localState.entrySnapshots.rows.Perm localState'.entrySnapshots.rows
  protectionSnapshots :
    localState.protectionSnapshots.rows.Perm localState'.protectionSnapshots.rows
  expectedOptionPositions :
    localState.expectedOptionPositions.Perm localState'.expectedOptionPositions
  localExecutions : localState.executions.rows.Perm localState'.executions.rows
  openOrders : exchange.openOrders.Perm exchange'.openOrders
  recentOrders : exchange.recentOrders.Perm exchange'.recentOrders
  executions : exchange.executions.Perm exchange'.executions
  positions : exchange.positions.Perm exchange'.positions

/-- No open order and no option position stands twice in a list. The other keys are the tables'. -/
structure DistinctKeys (localState : LocalExecutionRecoveryState)
    (exchange : PrivateAccountSnapshot) : Prop where
  openOrders : (exchange.openOrders.map ExchangeOrder.orderLinkId).Nodup
  expected : ((expectedPairs localState.expectedOptionPositions).map Prod.fst).Nodup
  held : ((heldPairs exchange.positions).map Prod.fst).Nodup

theorem orderOf_eq_of_perm {orders orders' : List ExchangeOrder} (h : orders.Perm orders')
    (hnodup : (orders.map ExchangeOrder.orderLinkId).Nodup) (orderLinkId : String) :
    orderOf orders orderLinkId = orderOf orders' orderLinkId := by
  have hreverse : ∀ {os : List ExchangeOrder}, (os.map ExchangeOrder.orderLinkId).Nodup →
      (os.reverse.map ExchangeOrder.orderLinkId).Nodup := by
    intro os hos
    rwa [List.map_reverse, List.nodup_reverse]
  let table : KeyedTable ExchangeOrder.orderLinkId := ⟨orders.reverse, hreverse hnodup⟩
  let table' : KeyedTable ExchangeOrder.orderLinkId :=
    ⟨orders'.reverse, hreverse ((h.map _).nodup_iff.mp hnodup)⟩
  have hperm : table.rows.Perm table'.rows :=
    (List.reverse_perm orders).trans (h.trans (List.reverse_perm orders').symm)
  exact KeyedTable.find_eq_of_perm hperm orderLinkId

/-- Whether there is an order of an id does not even need distinct ids. -/
theorem orderOf_isNone_of_perm {orders orders' : List ExchangeOrder} (h : orders.Perm orders')
    (orderLinkId : String) :
    (orderOf orders orderLinkId).isNone = (orderOf orders' orderLinkId).isNone := by
  rw [Bool.eq_iff_iff]
  unfold orderOf
  simp [h.mem_iff]

theorem isShortOf_of_perm {positions positions' : List ExchangePosition}
    (h : positions.Perm positions') (quantity : ℚ) :
    isShortOf quantity positions = isShortOf quantity positions' := by
  unfold isShortOf
  split
  · exact h.isEmpty_eq
  · match positions, positions', h with
    | [], positions', h => rw [List.nil_perm.mp h]
    | [p], positions', h => rw [List.singleton_perm.mp h]
    | p :: q :: rest, [], h => exact absurd h.length_eq (by simp)
    | p :: q :: rest, [r], h => exact absurd h.length_eq (by simp)
    | p :: q :: rest, r :: s :: rest', h => rfl

section Reordered

variable {localState localState' : LocalExecutionRecoveryState}
  {exchange exchange' : PrivateAccountSnapshot}

variable (h : Reordered localState localState' exchange exchange')

include h

theorem Reordered.isProtected (entry : EntryExecutionSnapshot) :
    IsProtected localState entry ↔ IsProtected localState' entry := by
  unfold IsProtected
  simp only [h.protectionSnapshots.mem_iff]

theorem Reordered.isPersisted (order : ExchangeOrder) (orderLinkId : String) :
    isPersisted localState order orderLinkId = isPersisted localState' order orderLinkId := by
  unfold CreditHedge.isPersisted
  rw [KeyedTable.find_eq_of_perm h.orderIntents]

theorem Reordered.checkOpenOrder (strategyInstance : String) (cycleNumber : ℕ) :
    checkOpenOrder strategyInstance cycleNumber localState =
      checkOpenOrder strategyInstance cycleNumber localState' := by
  funext f order
  unfold CreditHedge.checkOpenOrder
  rw [KeyedTable.find_eq_of_perm h.orderIntents]

theorem Reordered.checkExecution (strategyInstance : String) (cycleNumber : ℕ) :
    checkExecution strategyInstance cycleNumber localState =
      checkExecution strategyInstance cycleNumber localState' := by
  funext f execution
  unfold CreditHedge.checkExecution
  rw [KeyedTable.find_eq_of_perm h.orderIntents, KeyedTable.find_eq_of_perm h.localExecutions]

theorem Reordered.checkEntryOrder : checkEntryOrder exchange = checkEntryOrder exchange' := by
  funext f entry
  unfold CreditHedge.checkEntryOrder
  rw [orderOf_isNone_of_perm h.openOrders, orderOf_isNone_of_perm h.recentOrders]

theorem Reordered.checkProtection
    (hnodup : (exchange.openOrders.map ExchangeOrder.orderLinkId).Nodup) :
    checkProtection localState exchange = checkProtection localState' exchange' := by
  funext f p
  unfold CreditHedge.checkProtection checkTakeProfit checkStop
  simp only [orderOf_eq_of_perm h.openOrders hnodup, h.isPersisted]

theorem Reordered.checkProtected : checkProtected localState = checkProtected localState' := by
  funext f entry
  unfold CreditHedge.checkProtected
  simp only [h.isProtected]

theorem Reordered.expectedPerpQuantity :
    expectedPerpQuantity localState = expectedPerpQuantity localState' := by
  unfold CreditHedge.expectedPerpQuantity
  simp only [h.isProtected]
  rw [(h.protectionSnapshots.map _).sum_eq, ((h.entrySnapshots.filter _).map _).sum_eq]

/-- The details print the quantities in the order of the positions. -/
theorem Reordered.checkPerp :
    SameFindings (checkPerp localState exchange {}) (checkPerp localState' exchange' {}) := by
  have hperps : (nonzeroPerps exchange.positions).Perm (nonzeroPerps exchange'.positions) :=
    h.positions.filter _
  have hnil : nonzeroPerps exchange.positions = [] ↔ nonzeroPerps exchange'.positions = [] := by
    rw [← List.length_eq_zero_iff, ← List.length_eq_zero_iff, hperps.length_eq]
  unfold CreditHedge.checkPerp
  dsimp only
  rw [h.expectedPerpQuantity, isShortOf_of_perm hperps]
  split
  · exact .refl _
  · refine ⟨?_, .refl _, rfl⟩
    simp [Findings.report, hnil]

theorem Reordered.checkOptions (hdistinct : DistinctKeys localState exchange) (f : Findings) :
    checkOptions localState exchange f = checkOptions localState' exchange' f := by
  have hexpected : (expectedPairs localState.expectedOptionPositions).Perm
      (expectedPairs localState'.expectedOptionPositions) := h.expectedOptionPositions.map _
  have hheld : (heldPairs exchange.positions).Perm (heldPairs exchange'.positions) :=
    (h.positions.filter _).map _
  have hmatch : optionPositionsMatch localState exchange =
      optionPositionsMatch localState' exchange' := by
    rw [Bool.eq_iff_iff, optionPositionsMatch_iff_pairs, optionPositionsMatch_iff_pairs]
    refine forall_congr' fun key => ?_
    rw [Tally.latest_eq_of_perm hexpected hdistinct.expected,
      Tally.latest_eq_of_perm hheld hdistinct.held]
  unfold CreditHedge.checkOptions
  rw [hmatch]

/-- **The lists may come in any order.** -/
theorem Reordered.findings (hdistinct : DistinctKeys localState exchange)
    (strategyInstance : String) (cycleNumber : ℕ) :
    SameFindings (findings strategyInstance cycleNumber localState exchange)
      (findings strategyInstance cycleNumber localState' exchange') := by
  rw [findings_eq, findings_eq, h.checkOpenOrder, h.checkExecution, h.checkEntryOrder,
    h.checkProtection hdistinct.openOrders, h.checkProtected, h.checkOptions hdistinct]
  have horders := SameFindings.foldl
    (additive_checkOpenOrder strategyInstance cycleNumber localState') h.openOrders
  have hexecutions := SameFindings.foldl
    (additive_checkExecution strategyInstance cycleNumber localState') h.executions
  have hentries := SameFindings.foldl (additive_checkEntryOrder exchange') h.entrySnapshots
  have hexits := SameFindings.foldl (additive_checkProtection localState' exchange')
    h.protectionSnapshots
  have hfills := SameFindings.foldl (additive_checkProtected localState') h.entrySnapshots
  exact (((((horders.append hexecutions).append hentries).append hexits).append hfills).append
    h.checkPerp).append (.refl _)

end Reordered

/-- **A startup report says one thing.** It is always returned; trading is allowed exactly if there
    is nothing to report and nothing to do; an action never comes without a difference on the same
    order; the status is the severity of the worst difference. Where nothing stands twice in a
    list, the same is found in every order of the lists. -/
theorem startupReport_consistent (strategyInstance : String) (cycleNumber : ℕ)
    (localState : LocalExecutionRecoveryState) (exchange : PrivateAccountSnapshot) :
    ∃ report, evaluateStartupReconciliation strategyInstance cycleNumber localState exchange =
        .ok report ∧
      (report.tradingAllowed = true ↔ report.differences = [] ∧ report.repairActions = []) ∧
      (∀ action ∈ report.repairActions,
        ∃ d ∈ report.differences, d.orderLinkId = action.orderLinkId) ∧
      IsWorst report.status
        (report.differences.map (differenceSeverity strategyInstance cycleNumber)) ∧
      (DistinctKeys localState exchange → ∀ localState' exchange',
        Reordered localState localState' exchange exchange' →
          ∃ report', evaluateStartupReconciliation strategyInstance cycleNumber localState'
              exchange' = .ok report' ∧
            report'.status = report.status ∧ report'.tradingAllowed = report.tradingAllowed ∧
            (report.differences.map fun d => (d.kind, d.orderLinkId)).Perm
              (report'.differences.map fun d => (d.kind, d.orderLinkId)) ∧
            report.repairActions.Perm report'.repairActions) := by
  have hconsistent := consistent_findings strategyInstance cycleNumber localState exchange
  refine ⟨_, evaluateStartupReconciliation_eq .., ?_, hconsistent.actions, hconsistent.worst,
    fun hdistinct localState' exchange' hreordered => ?_⟩
  · exact decide_eq_true_iff.trans hconsistent.matched_iff
  · have hsame := hreordered.findings hdistinct strategyInstance cycleNumber
    exact ⟨_, evaluateStartupReconciliation_eq .., hsame.severity.symm,
      by rw [hsame.severity], hsame.differences, hsame.actions⟩

/-- An account that holds one of each of these puts. -/
def holdingPuts (symbols : List String) : PrivateAccountSnapshot where
  openOrders := []
  recentOrders := []
  executions := []
  positions := symbols.map fun symbol =>
    { category := .option
      symbol
      side := some .sell
      quantity := 1
      averagePrice := some 50
      markPrice := none
      unrealizedPnl := 0
      updatedAt := 0 }

/-- A put too many is dangerous, whichever comes first. -/
theorem startupReport_consistent_twoPuts :
    ∃ report report', evaluateStartupReconciliation "dev" 1 (expecting 1)
        (holdingPuts ["ETH-27MAR26-1800-P", "ETH-27MAR26-1900-P"]) = .ok report ∧
      evaluateStartupReconciliation "dev" 1 (expecting 1)
        (holdingPuts ["ETH-27MAR26-1900-P", "ETH-27MAR26-1800-P"]) = .ok report' ∧
      report'.status = report.status := by
  obtain ⟨report, hreport, -, -, -, horder⟩ := startupReport_consistent "dev" 1 (expecting 1)
    (holdingPuts ["ETH-27MAR26-1800-P", "ETH-27MAR26-1900-P"])
  have hdistinct : DistinctKeys (expecting 1)
      (holdingPuts ["ETH-27MAR26-1800-P", "ETH-27MAR26-1900-P"]) :=
    ⟨by decide, by decide +kernel, by decide +kernel⟩
  have hreordered : Reordered (expecting 1) (expecting 1)
      (holdingPuts ["ETH-27MAR26-1800-P", "ETH-27MAR26-1900-P"])
      (holdingPuts ["ETH-27MAR26-1900-P", "ETH-27MAR26-1800-P"]) :=
    ⟨.refl _, .refl _, .refl _, .refl _, .refl _, .refl _, .refl _, .refl _, .swap _ _ _⟩
  obtain ⟨report', hreport', hstatus, -⟩ := horder hdistinct _ _ hreordered
  exact ⟨report, report', hreport, hreport', hstatus⟩

end CreditHedge
