import CreditHedge.Domain.ClientOrderIds
import Mathlib.Algebra.Order.BigOperators.Group.List
import Mathlib.Algebra.Order.Field.Rat
import Mathlib.Data.List.Perm.Subperm

/-!
# Orders, fills and positions

`domain/execution.py`: the exchange-neutral records the live side works with.

The string literals of the source's `Literal` types are enumerations, so the checks that only
compare a string with its list of literals have nothing left to refuse. A `Decimal` is a
rational, always finite. A `datetime` is an integer, the instant in UTC, so it is always
timezone-aware.

`PlaceOrderRequest` and `ExecutionUpdate` carry their constructor's checks. `ExchangeOrder` and
`ExchangePosition` do not: nothing the modelled code does with them depends on more than their
fields, and a statement about every record of fields covers every one the exchange can report.
-/

set_option autoImplicit false

namespace CreditHedge

/-- A `datetime`, as its instant. -/
abbrev Time := ℤ

/-- A natural number the constructor would refuse if it were negative. -/
def natural (message : String) (value : ℤ) : Except Failure ℕ :=
  if value < 0 then .error (.valueError message) else .ok value.toNat

@[simp] theorem natural_natCast (message : String) (n : ℕ) : natural message n = .ok n :=
  if_neg (Int.not_lt.mpr (Int.natCast_nonneg n))

theorem natural_eq_ok {message : String} {value : ℤ} {n : ℕ} (h : natural message value = .ok n) :
    value = n := by
  unfold natural at h
  split at h
  · cases h
  · rename_i hnonneg
    obtain rfl := Except.ok.inj h
    exact (Int.toNat_of_nonneg (not_lt.mp hnonneg)).symm

inductive Category where
  | option
  | linear
  deriving DecidableEq, Repr

inductive OrderSide where
  | buy
  | sell
  deriving DecidableEq, Repr

inductive OrderType where
  | market
  | limit
  deriving DecidableEq, Repr

inductive TimeInForce where
  | gtc
  | ioc
  | fok
  | postOnly
  deriving DecidableEq, Repr

inductive TriggerBy where
  | lastPrice
  | indexPrice
  | markPrice
  deriving DecidableEq, Repr

inductive OrderRequestKind where
  | place
  | amend
  | cancel
  deriving DecidableEq, Repr

inductive LiveExecutionState where
  | ready
  | triggered
  | entryRequestPersisted
  | entrySubmitted
  | entryAcknowledged
  | entryPartiallyFilled
  | activeUnprotected
  | activeProtected
  | exitPartiallyFilled
  | closedTp
  | closedStop
  | cancelPending
  | reconciling
  | locked
  | error
  deriving DecidableEq, Repr

/-! ## Texts -/

/-- The characters `str.strip` removes. -/
def isSpace (c : Char) : Bool :=
  let n := c.toNat
  (9 ≤ n && n ≤ 13) || (28 ≤ n && n ≤ 32) || n = 0x85 || n = 0xa0 || n = 0x1680
    || (0x2000 ≤ n && n ≤ 0x200a) || n = 0x2028 || n = 0x2029 || n = 0x202f || n = 0x205f
    || n = 0x3000

/-- `not value.strip()`. -/
def isBlank (value : String) : Bool := value.toList.all isSpace

theorem text_of_not_blank {value : String} (h : ¬ isBlank value = true) : isBlank value = false :=
  eq_false_of_ne_true h

/-- `_require_text`. -/
def requireText (value fieldName : String) : Except Failure Unit :=
  refuseIf (isBlank value) (fieldName ++ " cannot be empty")

/-- `_own_order_link_id`: the id is one of the strategy's own. -/
def requireOwnOrderLinkId (value : String) : Except Failure Unit := do
  let _ ← ClientOrderId.parse value

/-- One character of `[A-Za-z0-9_-]`. -/
def isLinkChar (c : Char) : Bool := c.isAlphanum || c = '_' || c = '-'

/-- `_exchange_order_link_id`. -/
def requireExchangeOrderLinkId (value : String) : Except Failure Unit :=
  refuseIf (¬ (value.length ≤ 36 ∧ value.toList.all isLinkChar))
    "order link ID must use at most 36 safe characters"

/-- The string is one of the strategy's own ids. -/
def IsOwnOrderLinkId (value : String) : Prop := ∃ id, ClientOrderId.parse value = .ok id

theorem requireOwnOrderLinkId_eq_ok {value : String} {u : Unit} :
    requireOwnOrderLinkId value = .ok u ↔ IsOwnOrderLinkId value := by
  simp only [requireOwnOrderLinkId, bind_eq_ok, IsOwnOrderLinkId]
  exact ⟨fun ⟨id, hid, _⟩ => ⟨id, hid⟩, fun ⟨id, hid⟩ => ⟨id, hid, rfl⟩⟩

theorem HasRole.isOwn {value : String} {role : ClientOrderRole} (h : HasRole value role) :
    IsOwnOrderLinkId value :=
  h.imp fun _ hid => hid.1

/-! ## Placing an order -/

structure PlaceOrderFields where
  category : Category
  symbol : String
  side : OrderSide
  orderType : OrderType
  quantity : ℚ
  orderLinkId : String
  price : Option ℚ := none
  timeInForce : TimeInForce := .gtc
  reduceOnly : Bool := false
  triggerPrice : Option ℚ := none
  triggerDirection : Option ℕ := none
  triggerBy : Option TriggerBy := none
  positionIdx : ℕ := 0
  closeOnTrigger : Bool := false
  deriving DecidableEq, Repr

/-- The trigger checks of `PlaceOrderRequest.__post_init__`. -/
def PlaceOrderFields.checkTrigger (f : PlaceOrderFields) : Except Failure Unit :=
  match f.triggerPrice with
  | none =>
    refuseIf (f.triggerDirection ≠ none ∨ f.triggerBy ≠ none)
      "trigger fields require a trigger price"
  | some triggerPrice => do
    refuseIf (triggerPrice ≤ 0) "trigger price must be positive"
    refuseIf (f.triggerDirection ≠ some 1 ∧ f.triggerDirection ≠ some 2)
      "trigger direction is required and must be 1 or 2"
    refuseIf (f.triggerBy = none) "trigger source is required"

/-- `PlaceOrderRequest.__post_init__`. -/
def PlaceOrderFields.check (f : PlaceOrderFields) : Except Failure Unit := do
  requireText f.symbol "symbol"
  requireOwnOrderLinkId f.orderLinkId
  refuseIf (f.quantity ≤ 0) "quantity must be positive"
  refuseIf (f.orderType = .limit ∧ f.price = none) "limit order requires a price"
  refuseIf (f.orderType = .market ∧ f.price ≠ none) "market order cannot include a price"
  refuseIf (∃ price ∈ f.price, price ≤ 0) "price must be positive"
  f.checkTrigger
  refuseIf (f.closeOnTrigger ∧ (¬ f.reduceOnly ∨ f.triggerPrice = none))
    "close on trigger requires a reduce-only conditional order"
  refuseIf (f.positionIdx ≠ 0 ∧ f.positionIdx ≠ 1 ∧ f.positionIdx ≠ 2)
    "position index must be 0, 1, or 2"

structure PlaceOrderRequest extends PlaceOrderFields where
  checked : toPlaceOrderFields.check = .ok ()
  deriving DecidableEq

def PlaceOrderRequest.create : PlaceOrderFields → Except Failure PlaceOrderRequest :=
  build PlaceOrderFields.check PlaceOrderRequest.mk

theorem PlaceOrderRequest.create_eq_ok {f : PlaceOrderFields} {r : PlaceOrderRequest} :
    create f = .ok r ↔ r.toPlaceOrderFields = f := by
  refine build_eq_ok.trans ⟨?_, ?_⟩
  · rintro ⟨_, rfl⟩
    rfl
  · rintro rfl
    exact ⟨r.checked, rfl⟩

theorem PlaceOrderRequest.quantity_pos (r : PlaceOrderRequest) : 0 < r.quantity := by
  have h := r.checked
  simp only [PlaceOrderFields.check, bind_unit_eq_ok, refuseIf_eq_ok, not_le] at h
  exact h.2.2.1

theorem PlaceOrderRequest.isOwn (r : PlaceOrderRequest) : IsOwnOrderLinkId r.orderLinkId := by
  have h := r.checked
  simp only [PlaceOrderFields.check, bind_unit_eq_ok, requireOwnOrderLinkId_eq_ok] at h
  exact h.2.1

structure CancelOrderFields where
  category : Category
  symbol : String
  orderLinkId : String
  deriving DecidableEq, Repr

/-- `CancelOrderRequest.__post_init__`. -/
def CancelOrderFields.check (f : CancelOrderFields) : Except Failure Unit := do
  requireText f.symbol "symbol"
  requireOwnOrderLinkId f.orderLinkId

structure CancelOrderRequest extends CancelOrderFields where
  checked : toCancelOrderFields.check = .ok ()
  deriving DecidableEq

def CancelOrderRequest.create : CancelOrderFields → Except Failure CancelOrderRequest :=
  build CancelOrderFields.check CancelOrderRequest.mk

/-! ## What the exchange reports -/

/-- Transport acknowledgement; it proves neither visibility nor a fill. -/
structure OrderRequestAck where
  requestKind : OrderRequestKind
  orderId : String
  orderLinkId : String
  acknowledgedAt : Time
  deriving DecidableEq, Repr

/-- `OrderRequestAck.__post_init__`. -/
def OrderRequestAck.create (requestKind : OrderRequestKind) (orderId orderLinkId : String)
    (acknowledgedAt : Time) : Except Failure OrderRequestAck := do
  requireText orderId "order ID"
  requireOwnOrderLinkId orderLinkId
  pure { requestKind, orderId, orderLinkId, acknowledgedAt }

theorem OrderRequestAck.create_ok (requestKind : OrderRequestKind) {orderId orderLinkId : String}
    (acknowledgedAt : Time) (htext : ¬ isBlank orderId = true)
    (hown : IsOwnOrderLinkId orderLinkId) :
    ∃ acknowledgement, create requestKind orderId orderLinkId acknowledgedAt = .ok acknowledgement ∧
      acknowledgement.orderLinkId = orderLinkId ∧ acknowledgement.orderId = orderId := by
  refine ⟨{ requestKind, orderId, orderLinkId, acknowledgedAt }, ?_, rfl, rfl⟩
  simp only [create, bind_unit_eq_ok, requireText, refuseIf_eq_ok, requireOwnOrderLinkId_eq_ok]
  exact ⟨htext, hown, rfl⟩

theorem OrderRequestAck.create_eq_ok {requestKind : OrderRequestKind} {orderId orderLinkId : String}
    {acknowledgedAt : Time} {acknowledgement : OrderRequestAck}
    (h : create requestKind orderId orderLinkId acknowledgedAt = .ok acknowledgement) :
    acknowledgement.orderLinkId = orderLinkId ∧ acknowledgement.orderId = orderId := by
  simp only [create, bind_unit_eq_ok] at h
  obtain ⟨-, -, h⟩ := h
  obtain rfl := Except.ok.inj h
  exact ⟨rfl, rfl⟩

/-- Reported order lifecycle state; executions remain fill-authoritative. -/
structure ExchangeOrder where
  category : Category
  orderId : String
  orderLinkId : String
  symbol : String
  status : String
  side : OrderSide
  orderType : OrderType
  price : Option ℚ
  quantity : ℚ
  cumulativeFilledQuantity : ℚ
  averagePrice : Option ℚ
  reduceOnly : Bool
  createdAt : Time
  updatedAt : Time
  triggerPrice : Option ℚ := none
  triggerBy : Option TriggerBy := none
  triggerDirection : Option ℕ := none
  timeInForce : Option TimeInForce := none
  positionIdx : Option ℕ := none
  closeOnTrigger : Bool := false
  deriving DecidableEq, Repr

/-- Authoritative record of one exchange fill. -/
structure ExecutionFields where
  executionId : String
  orderId : String
  orderLinkId : String
  symbol : String
  side : OrderSide
  price : ℚ
  quantity : ℚ
  fee : ℚ
  isMaker : Option Bool
  executedAt : Time
  deriving DecidableEq, Repr

/-- `ExecutionUpdate.__post_init__`. -/
def ExecutionFields.check (f : ExecutionFields) : Except Failure Unit := do
  requireText f.executionId "execution ID"
  requireText f.orderId "order ID"
  requireText f.symbol "symbol"
  requireExchangeOrderLinkId f.orderLinkId
  refuseIf (f.price ≤ 0) "execution price must be positive"
  refuseIf (f.quantity ≤ 0) "execution quantity must be positive"

structure ExecutionUpdate extends ExecutionFields where
  checked : toExecutionFields.check = .ok ()
  deriving DecidableEq

namespace ExecutionUpdate

variable (e : ExecutionUpdate)

theorem price_pos : 0 < e.price := by
  have h := e.checked
  simp only [ExecutionFields.check, bind_unit_eq_ok, refuseIf_eq_ok, not_le] at h
  exact h.2.2.2.2.1

theorem quantity_pos : 0 < e.quantity := by
  have h := e.checked
  simp only [ExecutionFields.check, bind_unit_eq_ok, refuseIf_eq_ok, not_le] at h
  exact h.2.2.2.2.2

theorem orderId_text : ¬ isBlank e.orderId = true := by
  have h := e.checked
  simp only [ExecutionFields.check, bind_unit_eq_ok, requireText, refuseIf_eq_ok] at h
  exact h.2.1

end ExecutionUpdate

def totalQuantity (es : List ExecutionUpdate) : ℚ := (es.map fun e => e.quantity).sum

theorem totalQuantity_nonneg (es : List ExecutionUpdate) : 0 ≤ totalQuantity es := by
  refine List.sum_nonneg fun q hq => ?_
  obtain ⟨e, -, rfl⟩ := List.mem_map.mp hq
  exact e.quantity_pos.le

theorem totalQuantity_append (es es' : List ExecutionUpdate) :
    totalQuantity (es ++ es') = totalQuantity es + totalQuantity es' := by
  unfold totalQuantity
  rw [List.map_append, List.sum_append]

theorem totalQuantity_le_of_subset {es es' : List ExecutionUpdate} (hnodup : es.Nodup)
    (h : es ⊆ es') : totalQuantity es ≤ totalQuantity es' := by
  obtain ⟨l, hperm, hsub⟩ := List.subperm_of_subset hnodup h
  calc totalQuantity es = totalQuantity l := ((hperm.map _).sum_eq).symm
    _ ≤ totalQuantity es' := by
        refine (hsub.map _).sum_le_sum fun q hq => ?_
        obtain ⟨e, -, rfl⟩ := List.mem_map.mp hq
        exact e.quantity_pos.le

structure ExchangePosition where
  category : Category
  symbol : String
  side : Option OrderSide
  quantity : ℚ
  averagePrice : Option ℚ
  markPrice : Option ℚ
  unrealizedPnl : ℚ
  updatedAt : Time
  positionIdx : ℕ := 0
  liquidationPrice : Option ℚ := none
  deriving DecidableEq, Repr

/-- The nonzero ETHUSDT perpetual positions, as every comparison of the source selects them. -/
def nonzeroPerps (positions : List ExchangePosition) : List ExchangePosition :=
  positions.filter
    (fun p => p.category = .linear ∧ p.symbol = "ETHUSDT" ∧ 0 < p.quantity)

/-- One position, short, of exactly this quantity; no position at all for quantity zero. -/
def isShortOf (quantity : ℚ) (positions : List ExchangePosition) : Bool :=
  if quantity = 0 then positions.isEmpty
  else
    match positions with
    | [p] => p.side = some .sell && p.quantity = quantity
    | _ => false

end CreditHedge
