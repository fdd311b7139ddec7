import CreditHedge.Domain.ProtectedExecution
import CreditHedge.Lib.Keyed

/-!
# Startup differences

`domain/reconciliation.py`, with the two records the comparison reads: the local state
(`LocalExecutionRecoveryState`) and the private exchange state (`PrivateAccountSnapshot`, without
the wallet and the capture time, which the comparison does not look at).

A comparison accumulates `Findings`. Its verdict is the worst severity reported, and a severity
once reported is never taken back (`moreSevere_eq_matched`).
-/

set_option autoImplicit false

namespace CreditHedge

inductive ReconciliationStatus where
  | matched
  | repairable
  | ambiguous
  | dangerous
  deriving DecidableEq, Repr

inductive StateDifferenceKind where
  | unknownExchangeOrder
  | missingExchangeOrder
  | protectionMismatch
  | missingProtection
  | missingTakeProfit
  | positionMismatch
  | unknownExchangePosition
  | unknownOptionPosition
  | missingLocalExecution
  | unknownExchangeExecution
  deriving DecidableEq, Repr

inductive RepairActionKind where
  | importOrder
  | restoreProtection
  | restoreTakeProfit
  | importExecution
  deriving DecidableEq, Repr

/-- The text of a difference. The one that prints decimals keeps the numbers it prints. -/
inductive DifferenceDetail where
  | text (message : String)
  | perpMismatch (expected : ℚ) (actual : List ℚ)
  deriving DecidableEq, Repr

structure StateDifference where
  kind : StateDifferenceKind
  detail : DifferenceDetail
  orderLinkId : Option String := none
  deriving DecidableEq, Repr

structure RepairAction where
  kind : RepairActionKind
  detail : String
  orderLinkId : Option String := none
  deriving DecidableEq, Repr

structure ReconciliationReport where
  status : ReconciliationStatus
  differences : List StateDifference
  repairActions : List RepairAction
  tradingAllowed : Bool
  deriving DecidableEq, Repr

/-- `ReconciliationReport.__post_init__`. -/
def ReconciliationReport.create (status : ReconciliationStatus)
    (differences : List StateDifference) (repairActions : List RepairAction)
    (tradingAllowed : Bool) : Except Failure ReconciliationReport := do
  refuseIf (tradingAllowed ≠ decide (status = .matched))
    "only MATCHED reconciliation may allow trading"
  refuseIf (status = .matched ∧ (differences ≠ [] ∨ repairActions ≠ []))
    "MATCHED reconciliation cannot contain differences"
  pure { status, differences, repairActions, tradingAllowed }

/-! ## Severity -/

namespace ReconciliationStatus

/-- `_SEVERITY`. -/
def severity : ReconciliationStatus → ℕ
  | .matched => 0
  | .repairable => 1
  | .ambiguous => 2
  | .dangerous => 3

/-- `_more_severe`. -/
def moreSevere (current candidate : ReconciliationStatus) : ReconciliationStatus :=
  if current.severity < candidate.severity then candidate else current

theorem moreSevere_eq_matched {current candidate : ReconciliationStatus} :
    moreSevere current candidate = .matched ↔ current = .matched ∧ candidate = .matched := by
  cases current <;> cases candidate <;> decide

end ReconciliationStatus

structure Findings where
  differences : List StateDifference := []
  actions : List RepairAction := []
  severity : ReconciliationStatus := .matched

/-- `differences.append(…)`, `actions.append(…)` if there is a repair, `severity = …`. -/
def Findings.report (f : Findings) (severity : ReconciliationStatus)
    (difference : StateDifference) (action : Option RepairAction := none) : Findings where
  differences := f.differences ++ [difference]
  actions := f.actions ++ action.toList
  severity := f.severity.moreSevere severity

theorem Findings.report_severity {f : Findings} {severity : ReconciliationStatus}
    {difference : StateDifference} {action : Option RepairAction} :
    (f.report severity difference action).severity = .matched ↔
      f.severity = .matched ∧ severity = .matched :=
  ReconciliationStatus.moreSevere_eq_matched

/-- **A loop of checks finds nothing when each check finds nothing.** `Clean x` is what the check
    of `x` asks for. -/
theorem foldl_severity {α : Type} {check : Findings → α → Findings} {Clean : α → Prop}
    (h : ∀ f x, (check f x).severity = .matched ↔ f.severity = .matched ∧ Clean x)
    (xs : List α) (f : Findings) :
    (xs.foldl check f).severity = .matched ↔ f.severity = .matched ∧ ∀ x ∈ xs, Clean x := by
  induction xs generalizing f with
  | nil => simp
  | cons x xs ih =>
    rw [List.foldl_cons, ih, h, List.forall_mem_cons, and_assoc]

/-! ## The two sides of the comparison -/

structure ExpectedPosition where
  category : Category
  symbol : String
  side : OrderSide
  quantity : ℚ
  deriving DecidableEq, Repr

/-- The local side. Its constructor refuses repeated ids, so each field is a table. -/
structure LocalExecutionRecoveryState where
  orderIntents : KeyedTable fun r : PlaceOrderRequest => r.orderLinkId
  entrySnapshots : KeyedTable fun s : EntryExecutionSnapshot => s.orderLinkId
  protectionSnapshots : KeyedTable fun p : ProtectionSnapshot => p.entryOrderLinkId
  expectedOptionPositions : List ExpectedPosition
  executions : KeyedTable fun e : ExecutionUpdate => e.executionId

/-- The exchange side, as captured: nothing makes its order ids unique. -/
structure PrivateAccountSnapshot where
  openOrders : List ExchangeOrder
  recentOrders : List ExchangeOrder
  executions : List ExecutionUpdate
  positions : List ExchangePosition

/-- `{order.order_link_id: order for order in orders}`: the last order of an id is the one the
    dictionary keeps. -/
def orderOf (orders : List ExchangeOrder) (orderLinkId : String) : Option ExchangeOrder :=
  orders.reverse.find? fun order => order.orderLinkId = orderLinkId

theorem orderOf_eq_some {orders : List ExchangeOrder} {orderLinkId : String}
    {order : ExchangeOrder} (h : orderOf orders orderLinkId = some order) :
    order ∈ orders ∧ order.orderLinkId = orderLinkId :=
  ⟨List.mem_reverse.mp (List.mem_of_find?_eq_some h), by simpa using List.find?_some h⟩

end CreditHedge
