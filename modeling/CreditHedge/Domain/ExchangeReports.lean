import CreditHedge.Domain.Execution

/-!
# Checked reports of the exchange

The constructors' checks of the records in `domain/execution.py` that report an order or a position.
The code that only reads such records is modelled on the bare fields; what builds them (the parsers,
the simulator's views) has to pass these checks.

An order and an order update share most of their checks, each under its own label.
-/

set_option autoImplicit false

namespace CreditHedge

/-! ## Orders -/

/-- The numbers of a report about an order, checked the same way in all of them. -/
def checkOrderNumbers (price : Option ℚ) (quantity cumulativeFilledQuantity : ℚ)
    (averagePrice : Option ℚ) : Except Failure Unit := do
  refuseIf (∃ p ∈ price, p ≤ 0) "order price must be positive"
  refuseIf (quantity ≤ 0) "order quantity must be positive"
  refuseIf (¬ (0 ≤ cumulativeFilledQuantity ∧ cumulativeFilledQuantity ≤ quantity))
    "cumulative filled quantity must be within order quantity"
  refuseIf (∃ p ∈ averagePrice, p ≤ 0) "average price must be positive"

/-- The trigger checks of `ExchangeOrder.__post_init__`. -/
def ExchangeOrder.checkTrigger (o : ExchangeOrder) : Except Failure Unit :=
  match o.triggerPrice with
  | none =>
    refuseIf (o.triggerBy ≠ none ∨ o.triggerDirection ≠ none)
      "trigger fields require a trigger price"
  | some triggerPrice => do
    refuseIf (triggerPrice ≤ 0) "trigger price must be positive"
    refuseIf (o.triggerBy = none) "trigger price requires a trigger source"
    refuseIf (o.triggerDirection ≠ some 1 ∧ o.triggerDirection ≠ some 2)
      "trigger price requires direction 1 or 2"

/-- `ExchangeOrder.__post_init__`. -/
def ExchangeOrder.check (o : ExchangeOrder) : Except Failure Unit := do
  requireText o.orderId "order ID"
  requireText o.symbol "symbol"
  requireText o.status "order status"
  requireExchangeOrderLinkId o.orderLinkId
  checkOrderNumbers o.price o.quantity o.cumulativeFilledQuantity o.averagePrice
  o.checkTrigger
  refuseIf (∃ i ∈ o.positionIdx, i ≠ 0 ∧ i ≠ 1 ∧ i ≠ 2) "position index must be 0, 1, or 2"
  refuseIf (o.updatedAt < o.createdAt) "order update time cannot precede creation time"

/-- The constructor. -/
def ExchangeOrder.create (o : ExchangeOrder) : Except Failure ExchangeOrder := do
  o.check
  pure o

/-- `OrderUpdate`: order lifecycle notification; never an accounting fill record. -/
structure OrderUpdate where
  orderId : String
  orderLinkId : String
  symbol : String
  status : String
  side : OrderSide
  orderType : OrderType
  price : Option ℚ
  quantity : ℚ
  cumulativeFilledQuantity : ℚ
  averagePrice : Option ℚ
  updatedAt : Time
  deriving DecidableEq, Repr

/-- `OrderUpdate.__post_init__`. -/
def OrderUpdate.check (o : OrderUpdate) : Except Failure Unit := do
  requireText o.orderId "order ID"
  requireText o.symbol "symbol"
  requireText o.status "order status"
  requireExchangeOrderLinkId o.orderLinkId
  checkOrderNumbers o.price o.quantity o.cumulativeFilledQuantity o.averagePrice

/-- The constructor. -/
def OrderUpdate.create (o : OrderUpdate) : Except Failure OrderUpdate := do
  o.check
  pure o

/-! ## Positions -/

/-- `ExchangePosition.__post_init__`. -/
def ExchangePosition.check (p : ExchangePosition) : Except Failure Unit := do
  requireText p.symbol "symbol"
  refuseIf (p.quantity < 0) "position quantity cannot be negative"
  refuseIf (0 < p.quantity ∧ p.side = none) "non-flat position requires a side"
  refuseIf (0 < p.quantity ∧ (p.averagePrice = none ∨ ∃ a ∈ p.averagePrice, a ≤ 0))
    "non-flat position requires a positive average price"
  refuseIf (∃ a ∈ p.averagePrice, a ≤ 0) "average price must be positive"
  refuseIf (∃ m ∈ p.markPrice, m ≤ 0) "mark price must be positive"
  refuseIf (∃ l ∈ p.liquidationPrice, l ≤ 0) "liquidation price must be positive"
  refuseIf (p.positionIdx ≠ 0 ∧ p.positionIdx ≠ 1 ∧ p.positionIdx ≠ 2)
    "position index must be 0, 1, or 2"

/-- The constructor. -/
def ExchangePosition.create (p : ExchangePosition) : Except Failure ExchangePosition := do
  p.check
  pure p

/-! ## The strategy's own ids are safe -/

theorem isLinkChar_of_isAlphanum {c : Char} (h : c.isAlphanum = true) : isLinkChar c = true := by
  simp [isLinkChar, h]

/-- A part `letter[0-9]{width}` is as long as it says, and alphanumeric. -/
theorem taggedNumber_shape {letter : Char} {width n : ℕ} {part : List Char}
    (hletter : letter.isAlphanum = true) (h : taggedNumber letter width part = some n) :
    part.length = width + 1 ∧ part.all Char.isAlphanum = true := by
  cases part with
  | nil => exact absurd h (by simp [taggedNumber])
  | cons c digits =>
    rw [taggedNumber] at h
    split at h
    · rename_i hshape
      obtain ⟨rfl, hlength, hdigits⟩ := hshape
      refine ⟨by rw [List.length_cons, hlength], ?_⟩
      rw [List.all_cons, hletter, Bool.true_and, List.all_eq_true]
      intro c hc
      have hdigit := List.all_eq_true.mp hdigits c hc
      simp [Char.isAlphanum, hdigit]
    · exact absurd h (by simp)

theorem token_shape {token : List Char} {role : ClientOrderRole}
    (h : ClientOrderRole.ofToken token = some role) :
    token.length ≤ 5 ∧ token.all Char.isAlphanum = true := by
  have htoken : role.token.toList = token := by
    simpa using List.find?_some h
  rw [← htoken]
  cases role <;> decide

theorem isAlphanum_of_isUpperHex {c : Char} (h : isUpperHex c = true) : c.isAlphanum = true := by
  simp only [isUpperHex, Bool.or_eq_true, Bool.and_eq_true, decide_eq_true_eq] at h
  rcases h with h | ⟨hlow, hhigh⟩
  · simp [Char.isAlphanum, h]
  · have hupper : c.isUpper = true := by
      have hbound : ('F' : Char).val ≤ ('Z' : Char).val := by decide
      exact decide_eq_true ⟨hlow, UInt32.le_trans (Char.le_def.mp hhigh) hbound⟩
    change ((c.isUpper || c.isLower) || c.isDigit) = true
    rw [hupper]
    rfl

/-- What the seven parts of an own id look like. -/
theorem capture_shape {value : String} (h : (ClientOrderId.capture value).isSome = true) :
    ∃ parts : List (List Char), value.toList.splitOn '-' = parts ∧ parts.length = 7 ∧
      (parts.map List.length).sum ≤ 29 ∧ ∀ part ∈ parts, part.all Char.isAlphanum = true := by
  unfold ClientOrderId.capture at h
  split at h
  · rename_i tag strategyInstance cycle level role attempt nonce hparts
    refine ⟨_, hparts, rfl, ?_⟩
    simp only [Option.isSome_iff_exists, Option.bind_eq_bind, Option.bind_eq_some_iff,
      Option.guard_eq_some'] at h
    obtain ⟨-, -, htag, -, hinstance, cycle', hcycle, level', hlevel, role', hrole, attempt',
      hattempt, -, hnonce, -⟩ := h
    obtain ⟨hcycleLength, hcycle⟩ := taggedNumber_shape (by decide) hcycle
    obtain ⟨hlevelLength, hlevel⟩ := taggedNumber_shape (by decide) hlevel
    obtain ⟨hattemptLength, hattempt⟩ := taggedNumber_shape (by decide) hattempt
    obtain ⟨hroleLength, hrole⟩ := token_shape hrole
    simp only [isComponent, isNonce, Bool.and_eq_true, decide_eq_true_eq] at hinstance hnonce
    obtain ⟨⟨-, hinstanceLength⟩, hinstance⟩ := hinstance
    obtain ⟨⟨-, hnonceLength⟩, hnonce⟩ := hnonce
    have hnonceChars : nonce.all Char.isAlphanum = true := by
      rw [List.all_eq_true] at hnonce ⊢
      exact fun c hc => isAlphanum_of_isUpperHex (hnonce c hc)
    have htagChars : tag.all Char.isAlphanum = true := by
      rw [htag]
      decide
    constructor
    · simp only [List.map_cons, List.map_nil, List.sum_cons, List.sum_nil, htag,
        List.length_cons, List.length_nil]
      omega
    · simp only [List.forall_mem_cons]
      exact ⟨htagChars, hinstance, hcycle, hlevel, hrole, hattempt, hnonceChars,
        fun _ h => absurd h (by simp)⟩
  · exact absurd h (by simp)

theorem length_intercalate_le {α : Type} (x : α) (parts : List (List α)) :
    ([x].intercalate parts).length ≤ (parts.map List.length).sum + parts.length := by
  induction parts with
  | nil => simp
  | cons part parts ih =>
    cases parts with
    | nil => simp
    | cons next rest =>
      rw [List.intercalate_cons_cons]
      simp only [List.length_append, List.length_cons, List.length_nil, List.map_cons,
        List.sum_cons] at ih ⊢
      omega

theorem mem_intercalate {α : Type} {x c : α} {parts : List (List α)}
    (h : c ∈ [x].intercalate parts) : c = x ∨ ∃ part ∈ parts, c ∈ part := by
  induction parts with
  | nil => exact absurd h (by simp)
  | cons part parts ih =>
    cases parts with
    | nil =>
      rw [List.intercalate_singleton] at h
      exact .inr ⟨part, List.mem_cons_self .., h⟩
    | cons next rest =>
      rw [List.intercalate_cons_cons, List.mem_append, List.mem_append, List.mem_singleton] at h
      rcases h with (h | h) | h
      · exact .inr ⟨part, List.mem_cons_self .., h⟩
      · exact .inl h
      · exact (ih h).imp id fun ⟨part, hpart, hc⟩ => ⟨part, List.mem_cons_of_mem _ hpart, hc⟩

/-- **An own id is one the exchange's reports may carry.** -/
theorem requireExchangeOrderLinkId_of_isOwn {value : String} (h : IsOwnOrderLinkId value) :
    requireExchangeOrderLinkId value = .ok () := by
  obtain ⟨id, hid⟩ := h
  have hcaptured : (ClientOrderId.capture value).isSome = true := by
    unfold ClientOrderId.parse at hid
    cases hcapture : ClientOrderId.capture value with
    | none =>
      rw [hcapture] at hid
      exact absurd hid (by simp)
    | some captured => rfl
  obtain ⟨parts, hparts, hseven, hlengths, hchars⟩ := capture_shape hcaptured
  have hjoin : value.toList = ['-'].intercalate parts := by
    rw [← hparts, List.intercalate_splitOn]
  unfold requireExchangeOrderLinkId
  rw [refuseIf_eq_ok, not_not]
  constructor
  · rw [← String.length_toList, hjoin]
    have hlength := length_intercalate_le '-' parts
    omega
  · rw [hjoin, List.all_eq_true]
    intro c hc
    rcases mem_intercalate hc with rfl | ⟨part, hpart, hc⟩
    · decide
    · exact isLinkChar_of_isAlphanum (List.all_eq_true.mp (hchars part hpart) c hc)

end CreditHedge
