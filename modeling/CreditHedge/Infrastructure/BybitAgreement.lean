import CreditHedge.Infrastructure.BybitPayloads

/-!
# Where the two readings agree

What REST accepts of the exchange, the stream should accept too, and read alike. Field by field
they do, with one exception and a handful of defaults. The exception is zero: over REST a price
that is zero is no price, on the stream it is a price of zero, and the domain's constructors refuse
it. So a market order, or a position that is flat, cannot be read from the stream if it is reported
with the price "0". The defaults are those of a position: over REST its category, side and size may
be missing.

Executions have no such field, and agree always (`execution_agrees`).
-/

set_option autoImplicit false

namespace CreditHedge

/-- What an order update shares with an order. -/
def ExchangeOrder.update (o : ExchangeOrder) : OrderUpdate where
  orderId := o.orderId
  orderLinkId := o.orderLinkId
  symbol := o.symbol
  status := o.status
  side := o.side
  orderType := o.orderType
  price := o.price
  quantity := o.quantity
  cumulativeFilledQuantity := o.cumulativeFilledQuantity
  averagePrice := o.averagePrice
  updatedAt := o.updatedAt

theorem ExchangeOrder.create_eq_ok {o o' : ExchangeOrder} :
    ExchangeOrder.create o = .ok o' ↔ o.check = .ok () ∧ o = o' := by
  unfold ExchangeOrder.create
  rw [bind_unit_eq_ok]
  exact and_congr_right fun _ => ⟨Except.ok.inj, congrArg _⟩

theorem OrderUpdate.create_eq_ok {o o' : OrderUpdate} :
    OrderUpdate.create o = .ok o' ↔ o.check = .ok () ∧ o = o' := by
  unfold OrderUpdate.create
  rw [bind_unit_eq_ok]
  exact and_congr_right fun _ => ⟨Except.ok.inj, congrArg _⟩

theorem ExchangePosition.create_eq_ok {p p' : ExchangePosition} :
    ExchangePosition.create p = .ok p' ↔ p.check = .ok () ∧ p = p' := by
  unfold ExchangePosition.create
  rw [bind_unit_eq_ok]
  exact and_congr_right fun _ => ⟨Except.ok.inj, congrArg _⟩

theorem requireText_eq_ok {value fieldName : String} :
    requireText value fieldName = .ok () ↔ isBlank value = false := by
  unfold requireText
  rw [refuseIf_eq_ok, Bool.not_eq_true]

/-! ## Field by field -/

section Fields

variable {readings : Readings} {item : JsonRecord} {value : JsonValue} {key fieldName : String}

theorem text_of_rest {v : String} (h : PrivateRest.text value fieldName = .ok v) :
    value = .text v := by
  cases value with
  | text value => exact congrArg _ (Except.ok.inj h)
  | _ => exact absurd h (by simp [PrivateRest.text])

theorem requiredText_of_rest {v : String} (h : PrivateRest.requiredText item key = .ok v)
    (htext : isBlank v = false) : PrivateParsers.requiredText item key = .ok v := by
  simp only [PrivateRest.requiredText, bind_eq_ok] at h
  obtain ⟨v', hv', -, -, hv⟩ := h
  obtain rfl := Except.ok.inj hv
  unfold PrivateParsers.requiredText
  rw [text_of_rest hv']
  simp [htext]

theorem optionalText_of_rest {v : String} (h : PrivateRest.text value fieldName = .ok v) :
    PrivateParsers.optionalText value = .ok v := by
  obtain rfl := text_of_rest h
  unfold PrivateParsers.optionalText
  by_cases hv : v = ""
  · subst hv
    rfl
  · rw [if_neg (by simp [JsonValue.IsAbsent, hv])]

theorem side_of_rest {s : OrderSide} (h : PrivateRest.orderSide value = .ok s) :
    PrivateParsers.side value = .ok s := by
  unfold PrivateRest.orderSide at h
  split at h
  · exact h
  · exact h
  · exact absurd h (by simp)

theorem orderType_of_rest {t : OrderType} (h : PrivateRest.orderType value = .ok t) :
    PrivateParsers.orderType value = .ok t := by
  unfold PrivateRest.orderType at h
  split at h
  · exact h
  · exact h
  · exact absurd h (by simp)

/-- A decimal that is given. -/
theorem decimal_eq_ok {fallback : Option ℚ} {q : ℚ}
    (h : PrivateRest.decimal readings value fieldName fallback = .ok q) :
    (value.IsAbsent ∧ fallback = some q) ∨
      ¬ value.IsAbsent ∧ readings.decimal value = .finite q := by
  unfold PrivateRest.decimal at h
  split at h
  · rename_i habsent
    refine .inl ⟨habsent, ?_⟩
    split at h
    · rw [Except.ok.inj h]
    · exact absurd h (by simp)
  · rename_i hgiven
    refine .inr ⟨hgiven, ?_⟩
    split at h
    · exact absurd h (by simp)
    · exact absurd h (by simp)
    · rename_i hreading
      rw [hreading, Except.ok.inj h]

theorem optionalDecimal_of_given {q : ℚ} (hgiven : ¬ value.IsAbsent)
    (hreading : readings.decimal value = .finite q) :
    PrivateParsers.optionalDecimal readings value fieldName = .ok (some q) := by
  unfold PrivateParsers.optionalDecimal
  rw [if_neg hgiven, hreading]

theorem requiredDecimal_of_rest {q : ℚ}
    (h : PrivateRest.decimal readings (item.get key) fieldName none = .ok q) :
    PrivateParsers.requiredDecimal readings item key = .ok q := by
  rcases decimal_eq_ok h with ⟨-, hnone⟩ | ⟨hgiven, hreading⟩
  · exact absurd hnone (by simp)
  · unfold PrivateParsers.requiredDecimal
    rw [optionalDecimal_of_given hgiven hreading]
    rfl

theorem decimalOrZero_of_rest {fieldName' : String} {q : ℚ}
    (h : PrivateRest.decimal readings value fieldName (some 0) = .ok q) :
    PrivateParsers.decimalOrZero readings value fieldName' = .ok q := by
  unfold PrivateParsers.decimalOrZero
  rcases decimal_eq_ok h with ⟨habsent, hzero⟩ | ⟨hgiven, hreading⟩
  · obtain rfl := Option.some.inj hzero
    unfold PrivateParsers.optionalDecimal
    rw [if_pos habsent]
    rfl
  · rw [optionalDecimal_of_given hgiven hreading]
    rfl

variable (readings) in
/-- A decimal that is given, as zero. -/
def IsZero (value : JsonValue) : Prop := ¬ value.IsAbsent ∧ readings.decimal value = .finite 0

instance : Decidable (IsZero readings value) := inferInstanceAs (Decidable (_ ∧ _))

/-- What is a positive decimal over REST is any decimal on the stream. -/
theorem optionalDecimal_of_rest (fieldName' : String) {r : Option ℚ}
    (h : PrivateRest.optionalPositiveDecimal readings value fieldName = .ok r) :
    ∃ raw, PrivateParsers.optionalDecimal readings value fieldName' = .ok raw ∧
      (raw = r ↔ ¬ IsZero readings value) ∧ r = if raw = some 0 then none else raw := by
  simp only [PrivateRest.optionalPositiveDecimal, PrivateRest.optionalDecimal, bind_eq_ok] at h
  obtain ⟨raw, hraw, hr⟩ := h
  obtain rfl := Except.ok.inj hr
  split at hraw
  · rename_i habsent
    obtain rfl := Except.ok.inj hraw
    refine ⟨none, ?_, ?_, rfl⟩
    · unfold PrivateParsers.optionalDecimal
      rw [if_pos habsent]
    · simp [IsZero, habsent]
  · rw [bind_eq_ok] at hraw
    obtain ⟨q, hq, hsome⟩ := hraw
    obtain rfl := Except.ok.inj hsome
    rcases decimal_eq_ok hq with ⟨-, hnone⟩ | ⟨hgiven, hreading⟩
    · exact absurd hnone (by simp)
    · refine ⟨some q, optionalDecimal_of_given hgiven hreading, ?_, rfl⟩
      simp [IsZero, hgiven, hreading]

theorem optionalPositiveDecimal_of_rest {fieldName' : String} {r : Option ℚ}
    (h : PrivateRest.optionalPositiveDecimal readings value fieldName = .ok r) :
    PrivateParsers.optionalPositiveDecimal readings value fieldName' = .ok r := by
  obtain ⟨raw, hraw, -, hr⟩ := optionalDecimal_of_rest fieldName' h
  unfold PrivateParsers.optionalPositiveDecimal
  rw [hraw, hr]
  rfl

/-- A time that REST has read. -/
theorem int_of_rest {t : Time} (h : PrivateRest.timestamp readings value fieldName = .ok t) :
    ∃ milliseconds, ¬ value.IsAbsent ∧
      (∀ fieldName', PrivateParsers.int readings value fieldName' = .ok milliseconds) ∧
      ∀ fieldName', PrivateParsers.timestamp readings milliseconds fieldName' = .ok t := by
  unfold PrivateRest.timestamp at h
  split at h
  · exact absurd h (by simp)
  · rename_i hboolean
    split at h
    · exact absurd h (by simp)
    · rename_i milliseconds hint
      refine ⟨milliseconds, fun habsent => ?_, fun fieldName' => ?_, fun fieldName' => ?_⟩
      · exact absurd (hint.symm.trans (readings.int_absent value habsent)) (by simp)
      · unfold PrivateParsers.int
        split
        · exact absurd rfl (hboolean _)
        · rw [hint]
      · unfold PrivateParsers.timestamp
        split at h
        · exact absurd h (by simp)
        · rename_i hnonneg
          rw [if_neg hnonneg]
          exact h

theorem itemTime_of_rest {t : Time} (fallback : Time)
    (h : PrivateRest.timestamp readings (item.get "updatedTime") fieldName = .ok t) :
    PrivateParsers.itemTime readings item fallback = .ok t := by
  obtain ⟨milliseconds, hgiven, hint, htimestamp⟩ := int_of_rest h
  unfold PrivateParsers.itemTime
  rw [if_neg hgiven, hint]
  exact htimestamp _

theorem requiredInt_of_rest {t : Time}
    (h : PrivateRest.timestamp readings (item.get key) fieldName = .ok t) :
    ∃ milliseconds, PrivateParsers.requiredInt readings item key = .ok milliseconds ∧
      ∀ fieldName', PrivateParsers.timestamp readings milliseconds fieldName' = .ok t := by
  obtain ⟨milliseconds, hgiven, hint, htimestamp⟩ := int_of_rest h
  refine ⟨milliseconds, ?_, htimestamp⟩
  unfold PrivateParsers.requiredInt
  unfold JsonRecord.get at hgiven hint
  cases hkey : item key with
  | none =>
    rw [hkey] at hgiven
    exact absurd (.inl rfl) hgiven
  | some value =>
    rw [hkey] at hint
    exact hint key

end Fields

/-! ## Record by record -/

section Records

variable (readings : Readings)

/-- The prices of the order are given as zero nowhere. -/
structure OrderReadable (item : JsonRecord) : Prop where
  price : ¬ IsZero readings (item.get "price")
  averagePrice : ¬ IsZero readings (item.get "avgPrice")

variable {readings} {item : JsonRecord}

theorem order_agrees {category : Category} {order : ExchangeOrder} (receivedAt : Time)
    (h : PrivateRest.parseExchangeOrder readings category item = .ok order) :
    PrivateParsers.parseOrder readings receivedAt item = .ok order.update ↔
      OrderReadable readings item := by
  simp only [PrivateRest.parseExchangeOrder, bind_eq_ok, ExchangeOrder.create_eq_ok] at h
  obtain ⟨_, -, _, -, orderId, horderId, orderLinkId, horderLinkId, symbol, hsymbol, status,
    hstatus, side, hside, orderType, horderType, price, hprice, quantity, hquantity, filled,
    hfilled, averagePrice, haveragePrice, _, -, _, -, updatedAt, hupdatedAt, _, -, _, -, _, -, _, -,
    _, -, _, -, hcheck, rfl⟩ := h
  simp only [ExchangeOrder.check, bind_unit_eq_ok, requireText_eq_ok] at hcheck
  obtain ⟨hidText, hsymbolText, hstatusText, hlink, hnumbers, -⟩ := hcheck
  obtain ⟨rawPrice, hrawPrice, hpriceIff, -⟩ :=
    optionalDecimal_of_rest "price" hprice
  obtain ⟨rawAverage, hrawAverage, haverageIff, -⟩ :=
    optionalDecimal_of_rest "average price" haveragePrice
  simp only [PrivateParsers.parseOrder, requiredText_of_rest horderId hidText,
    optionalText_of_rest horderLinkId, requiredText_of_rest hsymbol hsymbolText,
    requiredText_of_rest hstatus hstatusText, side_of_rest hside, orderType_of_rest horderType,
    hrawPrice, requiredDecimal_of_rest hquantity, decimalOrZero_of_rest hfilled, hrawAverage,
    itemTime_of_rest receivedAt hupdatedAt]
  -- What is left of the stream's reading is the constructor, of the raw prices.
  refine OrderUpdate.create_eq_ok.trans ⟨?_, ?_⟩
  · rintro ⟨-, hsame⟩
    exact ⟨hpriceIff.mp (congrArg OrderUpdate.price hsame),
      haverageIff.mp (congrArg OrderUpdate.averagePrice hsame)⟩
  · rintro ⟨hnotZero, haverageNotZero⟩
    obtain rfl := hpriceIff.mpr hnotZero
    obtain rfl := haverageIff.mpr haverageNotZero
    refine ⟨?_, rfl⟩
    simp only [OrderUpdate.check, bind_unit_eq_ok, requireText_eq_ok]
    exact ⟨hidText, hsymbolText, hstatusText, hlink, hnumbers⟩

theorem isMaker_of_rest {isMaker : Option Bool} (h : PrivateRest.isMaker item = .ok isMaker) :
    PrivateParsers.optionalBool (item.get "isMaker") "isMaker" = .ok isMaker := by
  unfold PrivateRest.isMaker at h
  split at h
  · rename_i hnull
    rw [hnull]
    exact h
  · rename_i value hvalue
    rw [hvalue]
    exact h
  · exact absurd h (by simp)

/-- **An execution is read alike.** -/
theorem execution_agrees {execution : ExecutionUpdate}
    (h : PrivateRest.parseExecution readings item = .ok execution) :
    PrivateParsers.parseExecution readings item = .ok execution := by
  simp only [PrivateRest.parseExecution, bind_eq_ok] at h
  obtain ⟨isMaker, hisMaker, executionId, hexecutionId, orderId, horderId, orderLinkId,
    horderLinkId, symbol, hsymbol, side, hside, price, hprice, quantity, hquantity, fee, hfee,
    executedAt, hexecutedAt, hbuilt⟩ := h
  obtain ⟨hcheck, -⟩ := build_eq_ok.mp hbuilt
  simp only [ExecutionFields.check, bind_unit_eq_ok, requireText_eq_ok] at hcheck
  obtain ⟨hexecutionText, horderText, hsymbolText, -⟩ := hcheck
  obtain ⟨milliseconds, hmilliseconds, htimestamp⟩ := requiredInt_of_rest hexecutedAt
  simp only [PrivateParsers.parseExecution, requiredText_of_rest hexecutionId hexecutionText,
    requiredText_of_rest horderId horderText, optionalText_of_rest horderLinkId,
    requiredText_of_rest hsymbol hsymbolText, side_of_rest hside, requiredDecimal_of_rest hprice,
    requiredDecimal_of_rest hquantity, decimalOrZero_of_rest hfee, isMaker_of_rest hisMaker,
    hmilliseconds]
  refine Eq.trans ?_ hbuilt
  show (do
    let executedAt ← PrivateParsers.timestamp readings milliseconds "execution time"
    build ExecutionFields.check ExecutionUpdate.mk _) = _
  rw [htimestamp]
  rfl

/-! Positions. -/

theorem category_of_rest {category fallbackCategory : Category}
    (h : PrivateRest.category item fallbackCategory = .ok category) :
    PrivateParsers.category (item.get "category") = .ok category ↔
      ¬ (item.get "category").IsAbsent := by
  simp only [PrivateRest.category, PrivateRest.optionalText, bind_eq_ok] at h
  obtain ⟨text, htext, hcategory⟩ := h
  generalize item.get "category" = value at htext ⊢
  split at htext
  · rename_i habsent
    rcases habsent with rfl | rfl <;> simp [PrivateParsers.category, JsonValue.IsAbsent]
  · rename_i hgiven
    simp only [hgiven, not_false_eq_true, iff_true]
    split at htext
    · obtain rfl := Except.ok.inj htext
      split at hcategory
      · rename_i hnone
        exact absurd hnone (by simp)
      · rename_i hlinear
        obtain rfl := Option.some.inj hlinear
        exact hcategory
      · rename_i hoption
        obtain rfl := Option.some.inj hoption
        exact hcategory
      · exact absurd hcategory (by simp [throw, throwThe, MonadExceptOf.throw])
    · exact absurd htext (by simp)

theorem positionSide_of_rest {side : Option OrderSide}
    (h : PrivateRest.positionSide item = .ok side) :
    PrivateParsers.positionSide (item.get "side") = .ok side ↔ item.get "side" ≠ .null := by
  simp only [PrivateRest.positionSide, PrivateRest.optionalText, bind_eq_ok] at h
  obtain ⟨text, htext, hside⟩ := h
  generalize item.get "side" = value at htext ⊢
  split at htext
  · rename_i habsent
    obtain rfl := Except.ok.inj htext
    obtain rfl := Except.ok.inj hside
    rcases habsent with rfl | rfl
    · simp [PrivateParsers.positionSide, PrivateParsers.side]
    · simp [PrivateParsers.positionSide]
  · rename_i hgiven
    split at htext
    · rename_i value
      obtain rfl := Except.ok.inj htext
      have hnotEmpty : JsonValue.text value ≠ .text "" := fun hempty => hgiven (.inr hempty)
      simp only [ne_eq, reduceCtorEq, not_false_eq_true, iff_true]
      unfold PrivateParsers.positionSide
      rw [if_neg hnotEmpty]
      dsimp only at hside
      cases hrest : PrivateRest.orderSide (.text value) with
      | error failure =>
        rw [hrest] at hside
        exact absurd hside (by simp)
      | ok read =>
        rw [hrest] at hside
        rw [side_of_rest hrest]
        exact hside
    · exact absurd htext (by simp)

theorem size_of_rest {quantity : ℚ} {key fieldName : String}
    (h : PrivateRest.decimal readings (item.get key) fieldName (some 0) = .ok quantity) :
    PrivateParsers.requiredDecimal readings item key = .ok quantity ↔
      ¬ (item.get key).IsAbsent := by
  unfold PrivateParsers.requiredDecimal
  rcases decimal_eq_ok h with ⟨habsent, -⟩ | ⟨hgiven, hreading⟩
  · unfold PrivateParsers.optionalDecimal
    rw [if_pos habsent]
    simp only [habsent, not_true_eq_false, iff_false]
    exact fun h => absurd h (by simp [bind, Except.bind, throw, throwThe, MonadExceptOf.throw])
  · rw [optionalDecimal_of_given hgiven hreading]
    exact iff_of_true rfl hgiven

theorem positionTime_of_rest {t observedAt : Time} (receivedAt : Time)
    (h : PrivateRest.positionTime readings item observedAt = .ok t) :
    PrivateParsers.itemTime readings item receivedAt = .ok t ↔
      observedAt = receivedAt ∨ ¬ (item.get "updatedTime").IsAbsent := by
  unfold PrivateRest.positionTime at h
  split at h
  · rename_i habsent
    obtain rfl := Except.ok.inj h
    unfold PrivateParsers.itemTime
    rw [if_pos habsent]
    simp only [Except.ok.injEq, habsent, not_true_eq_false, or_false]
    exact eq_comm
  · rename_i hgiven
    exact iff_of_true (itemTime_of_rest receivedAt h) (.inr hgiven)

/-- An index that the constructor accepts. -/
theorem positionIdx_of_rest {value : JsonValue} {fieldName : String} {n : Option ℤ}
    (h : PrivateRest.optionalInteger readings value fieldName = .ok n)
    (hrange : PrivateRest.indexOf (n.getD 0) = 0 ∨ PrivateRest.indexOf (n.getD 0) = 1 ∨
      PrivateRest.indexOf (n.getD 0) = 2) :
    PrivateParsers.optionalPositionIdx readings value = .ok (n.getD 0) ∧
      (n.getD 0).toNat = PrivateRest.indexOf (n.getD 0) := by
  have hindex : n.getD 0 = 0 ∨ n.getD 0 = 1 ∨ n.getD 0 = 2 := by
    unfold PrivateRest.indexOf at hrange
    split at hrange <;> omega
  constructor
  · unfold PrivateRest.optionalInteger at h
    unfold PrivateParsers.optionalPositionIdx
    split at h
    · rename_i habsent
      obtain rfl := Except.ok.inj h
      rw [if_pos habsent]
      rfl
    · rename_i hgiven
      rw [if_neg hgiven]
      split at h
      · exact absurd h (by simp)
      · rename_i hboolean
        split at h
        · rename_i positionIdx hint
          obtain rfl := Except.ok.inj h
          have hread : PrivateParsers.int readings value "positionIdx" = .ok positionIdx := by
            unfold PrivateParsers.int
            split
            · exact absurd rfl (hboolean _)
            · rw [hint]
          have hinRange : refuseIf (positionIdx ≠ 0 ∧ positionIdx ≠ 1 ∧ positionIdx ≠ 2)
              "Bybit positionIdx must be 0, 1, or 2" = .ok () := by
            rw [refuseIf_eq_ok]
            rintro ⟨hzero, hone, htwo⟩
            rcases hindex with h | h | h
            · exact hzero h
            · exact hone h
            · exact htwo h
          rw [hread, Option.getD_some]
          exact bind_eq_ok.mpr ⟨positionIdx, rfl, bind_eq_ok.mpr ⟨(), hinRange, rfl⟩⟩
        · exact absurd h (by simp)
  · rcases hindex with h | h | h <;> rw [h] <;> rfl

/-- The record as the stream carries it: the average price is the entry price there. -/
def onStream (item : JsonRecord) : JsonRecord := fun key =>
  if key = "entryPrice" then item "avgPrice" else item key

/-- What the stream asks of a position beyond what REST does. -/
structure PositionReadable (readings : Readings) (observedAt receivedAt : Time)
    (item : JsonRecord) : Prop where
  category : ¬ (item.get "category").IsAbsent
  side : item.get "side" ≠ .null
  size : ¬ (item.get "size").IsAbsent
  averagePrice : ¬ IsZero readings (item.get "avgPrice")
  markPrice : ¬ IsZero readings (item.get "markPrice")
  updatedAt : observedAt = receivedAt ∨ ¬ (item.get "updatedTime").IsAbsent

theorem position_agrees {category : Category} {observedAt : Time} {position : ExchangePosition}
    (receivedAt : Time)
    (h : PrivateRest.parsePosition readings category observedAt item = .ok position) :
    PrivateParsers.parsePosition readings receivedAt (onStream item) = .ok position ↔
      PositionReadable readings observedAt receivedAt item := by
  simp only [PrivateRest.parsePosition, bind_eq_ok, ExchangePosition.create_eq_ok] at h
  obtain ⟨side, hside, category, hcategory, symbol, hsymbol, quantity, hquantity, averagePrice,
    haveragePrice, markPrice, hmarkPrice, liquidationPrice, hliquidationPrice, unrealizedPnl,
    hunrealizedPnl, updatedAt, hupdatedAt, positionIdx, hpositionIdx, hcheck, rfl⟩ := h
  have hvalid := hcheck
  simp only [ExchangePosition.check, bind_unit_eq_ok, requireText_eq_ok, refuseIf_eq_ok] at hvalid
  obtain ⟨hsymbolText, -, -, -, -, -, -, hindex⟩ := hvalid
  obtain ⟨hidx, hidxSame⟩ := positionIdx_of_rest hpositionIdx (by omega)
  obtain ⟨rawAverage, hrawAverage, haverageIff, -⟩ :=
    optionalDecimal_of_rest "entry price" haveragePrice
  obtain ⟨rawMark, hrawMark, hmarkIff, -⟩ := optionalDecimal_of_rest "mark price" hmarkPrice
  have hstream : PrivateParsers.parsePosition readings receivedAt (onStream item) = (do
      let category ← PrivateParsers.category (item.get "category")
      let side ← PrivateParsers.positionSide (item.get "side")
      let quantity ← PrivateParsers.requiredDecimal readings item "size"
      let updatedAt ← PrivateParsers.itemTime readings item receivedAt
      ExchangePosition.create
        { category, symbol, side, quantity, averagePrice := rawAverage, markPrice := rawMark,
          unrealizedPnl, updatedAt, positionIdx := PrivateRest.indexOf (positionIdx.getD 0),
          liquidationPrice }) := by
    -- The fields that are read alike in any case; the record differs under one key only.
    have hsymbolStream : PrivateParsers.requiredText (onStream item) "symbol" = .ok symbol :=
      requiredText_of_rest hsymbol hsymbolText
    have hentryStream : PrivateParsers.optionalDecimal readings ((onStream item).get "entryPrice")
        "entry price" = .ok rawAverage := hrawAverage
    have hmarkStream : PrivateParsers.optionalDecimal readings ((onStream item).get "markPrice")
        "mark price" = .ok rawMark := hrawMark
    have hliquidationStream : PrivateParsers.optionalPositiveDecimal readings
        ((onStream item).get "liqPrice") "liquidation price" = .ok liquidationPrice :=
      optionalPositiveDecimal_of_rest hliquidationPrice
    have hpnlStream : PrivateParsers.decimalOrZero readings
        ((onStream item).get "unrealisedPnl") "unrealized P&L" = .ok unrealizedPnl :=
      decimalOrZero_of_rest hunrealizedPnl
    have hidxStream : PrivateParsers.optionalPositionIdx readings
        ((onStream item).get "positionIdx") = .ok (positionIdx.getD 0) := hidx
    simp only [PrivateParsers.parsePosition, hsymbolStream, hentryStream, hmarkStream,
      hliquidationStream, hpnlStream, hidxStream, ← hidxSame]
    rfl
  rw [hstream]
  simp only [bind_eq_ok, ExchangePosition.create_eq_ok]
  constructor
  · rintro ⟨category', hcategory', side', hside', quantity', hquantity', updatedAt', hupdatedAt',
      -, hsame⟩
    obtain rfl : category' = category := congrArg ExchangePosition.category hsame
    obtain rfl : side' = side := congrArg ExchangePosition.side hsame
    obtain rfl : quantity' = quantity := congrArg ExchangePosition.quantity hsame
    obtain rfl : updatedAt' = updatedAt := congrArg ExchangePosition.updatedAt hsame
    exact
      { category := (category_of_rest hcategory).mp hcategory'
        side := (positionSide_of_rest hside).mp hside'
        size := (size_of_rest hquantity).mp hquantity'
        averagePrice := haverageIff.mp (congrArg ExchangePosition.averagePrice hsame)
        markPrice := hmarkIff.mp (congrArg ExchangePosition.markPrice hsame)
        updatedAt := (positionTime_of_rest receivedAt hupdatedAt).mp hupdatedAt' }
  · intro hreadable
    obtain rfl := haverageIff.mpr hreadable.averagePrice
    obtain rfl := hmarkIff.mpr hreadable.markPrice
    exact ⟨category, (category_of_rest hcategory).mpr hreadable.category, side,
      (positionSide_of_rest hside).mpr hreadable.side, quantity,
      (size_of_rest hquantity).mpr hreadable.size, updatedAt,
      (positionTime_of_rest receivedAt hupdatedAt).mpr hreadable.updatedAt, hcheck, rfl⟩

end Records

/-! ## Whole messages -/

/-- Where two readings agree on one item exactly if the item is such, they agree on a list of items
    exactly if all of them are. -/
theorem mapM_agrees {α β γ : Type} {f : α → Except Failure β} {g : α → Except Failure γ}
    {p : α → Prop} (share : β → γ) (hagree : ∀ x y, f x = .ok y → (g x = .ok (share y) ↔ p x))
    {xs : List α} {ys : List β} (hf : xs.mapM f = .ok ys) :
    xs.mapM g = .ok (ys.map share) ↔ ∀ x ∈ xs, p x := by
  rw [mapM_eq_ok] at hf ⊢
  rw [List.forall₂_map_right_iff]
  induction hf with
  | nil => simp
  | cons hxy hrest ih => rw [List.forall₂_cons, List.forall_mem_cons, hagree _ _ hxy, ih]

/-- **Where the stream reads what REST reads.** Of records that REST accepts, the stream makes the
    same orders exactly if none of their prices is given as zero, the same executions in any case,
    and the same positions exactly if their category, side and size are given and their prices are
    not given as zero; a position without an update time takes the time of what carries it. -/
theorem stream_agrees_iff (readings : Readings) {creationTime : Option JsonValue}
    {receivedAt : Time}
    (hreceived : PrivateParsers.messageTime readings ⟨creationTime, []⟩ = .ok receivedAt)
    (category : Category) (items : List JsonRecord) :
    (∀ orders, items.mapM (PrivateRest.parseExchangeOrder readings category) = .ok orders →
      (PrivateParsers.parseOrderMessage readings ⟨creationTime, items⟩ =
          .ok (orders.map ExchangeOrder.update) ↔
        ∀ item ∈ items, OrderReadable readings item)) ∧
    (∀ executions, items.mapM (PrivateRest.parseExecution readings) = .ok executions →
      PrivateParsers.parseExecutionMessage readings ⟨creationTime, items⟩ = .ok executions) ∧
    ∀ observedAt positions,
      items.mapM (PrivateRest.parsePosition readings category observedAt) = .ok positions →
      (PrivateParsers.parsePositionMessage readings ⟨creationTime, items.map onStream⟩ =
          .ok positions ↔
        ∀ item ∈ items, PositionReadable readings observedAt receivedAt item) := by
  have htime : ∀ {γ : Type} (data : List JsonRecord) (rest : Time → Except Failure γ),
      (PrivateParsers.messageTime readings ⟨creationTime, data⟩ >>= rest) = rest receivedAt := by
    intro γ data rest
    have hsame : PrivateParsers.messageTime readings ⟨creationTime, data⟩ =
        PrivateParsers.messageTime readings ⟨creationTime, []⟩ := rfl
    rw [hsame, hreceived]
    rfl
  refine ⟨fun orders horders => ?_, fun executions hexecutions => ?_,
    fun observedAt positions hpositions => ?_⟩
  · rw [PrivateParsers.parseOrderMessage, htime]
    exact mapM_agrees _ (fun item order h => order_agrees receivedAt h) horders
  · rw [PrivateParsers.parseExecutionMessage, htime]
    have hall : items.mapM (PrivateParsers.parseExecution readings) = .ok (executions.map id) ↔
        ∀ item ∈ items, True :=
      mapM_agrees id (fun item execution h => iff_of_true (execution_agrees h) trivial) hexecutions
    rw [List.map_id] at hall
    exact hall.mpr fun _ _ => trivial
  · rw [PrivateParsers.parsePositionMessage, htime, List.mapM_map]
    have hall := mapM_agrees id (fun item position h => position_agrees receivedAt h) hpositions
    rw [List.map_id] at hall
    exact hall

/-! A market order and a flat position. -/

/-- An object with these texts. -/
def textRecord (texts : List (String × String)) : JsonRecord := fun key =>
  (texts.lookup key).map .text

/-- The order, reported with this price. -/
def marketOrderRecord (price : String) : JsonRecord := fun key =>
  if key = "reduceOnly" then some (.boolean false)
  else
    textRecord [("orderId", "order-1"), ("orderLinkId", "ECH-01-C0001-L01-ENTRY-A01-9F3C"),
      ("symbol", "ETHUSDT"), ("side", "Sell"), ("orderType", "Market"), ("orderStatus", "New"),
      ("price", price), ("qty", "1.25"), ("cumExecQty", "0"), ("avgPrice", ""),
      ("createdTime", "1784030399990"), ("updatedTime", "1784030399990")] key

/-- The position, reported with this average price. -/
def flatPositionRecord (averagePrice : String) : JsonRecord :=
  textRecord [("category", "linear"), ("symbol", "ETHUSDT"), ("side", ""), ("size", "0"),
    ("avgPrice", averagePrice), ("markPrice", "3000.20"), ("liqPrice", ""), ("unrealisedPnl", ""),
    ("updatedTime", "1784030399997"), ("positionIdx", "0")]

def creationTime : Option JsonValue := some (.integer 1784030400000)

/-- The order as REST reads it. -/
def marketOrderRead : ExchangeOrder where
  category := .linear
  orderId := "order-1"
  orderLinkId := "ECH-01-C0001-L01-ENTRY-A01-9F3C"
  symbol := "ETHUSDT"
  status := "New"
  side := .sell
  orderType := .market
  price := none
  quantity := 5 / 4
  cumulativeFilledQuantity := 0
  averagePrice := none
  reduceOnly := false
  createdAt := 1784030399990
  updatedAt := 1784030399990

theorem stream_agrees_iff_empty :
    PrivateParsers.parseOrderMessage pythonReadings ⟨creationTime, [marketOrderRecord ""]⟩ =
      .ok [marketOrderRead.update] := by
  have hreceived : PrivateParsers.messageTime pythonReadings ⟨creationTime, []⟩ =
      .ok 1784030400000 := by decide +kernel
  obtain ⟨horders, -⟩ := stream_agrees_iff pythonReadings hreceived .linear [marketOrderRecord ""]
  have hrest : [marketOrderRecord ""].mapM
      (PrivateRest.parseExchangeOrder pythonReadings .linear) = .ok [marketOrderRead] := by
    decide +kernel
  refine (horders _ hrest).mpr fun item hitem => ?_
  rw [List.mem_singleton.mp hitem]
  exact ⟨by decide +kernel, by decide +kernel⟩

/-- Reported with the price "0", neither is read from the stream. -/
theorem zero_price_unreadable :
    ([marketOrderRecord "0"].mapM (PrivateRest.parseExchangeOrder pythonReadings .linear)).isOk =
        true ∧
      PrivateParsers.parseOrderMessage pythonReadings ⟨creationTime, [marketOrderRecord "0"]⟩ =
        .error (.valueError "order price must be positive") ∧
      ([flatPositionRecord "0"].mapM
        (PrivateRest.parsePosition pythonReadings .linear 1784030400000)).isOk = true ∧
      PrivateParsers.parsePositionMessage pythonReadings
          ⟨creationTime, [flatPositionRecord "0"].map onStream⟩ =
        .error (.valueError "average price must be positive") := by
  decide +kernel

end CreditHedge
