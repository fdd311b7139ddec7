import CreditHedge.Domain.LiveOptionExecution
import CreditHedge.Domain.LiveRecovery
import CreditHedge.Domain.ProtectedExecution
import CreditHedge.Infrastructure.Conversions
import CreditHedge.Lib.SqlTables

/-!
# The rows of the execution store

How `infrastructure/persistence/sqlite_execution_store.py` writes a record into the columns of its
table and reads it back. The columns of each table are an enumeration, from its `CREATE TABLE`. The
source lists them again in every statement, with the values in a tuple of their own, and once more
where a row is read; each of these lists stands here as the source has it. A record is read from
any row that holds its values in the inserted columns.
-/

set_option autoImplicit false

namespace CreditHedge

/-- What a row holds under a column. -/
inductive Cell (Text : Type) where
  | null
  | integer (value : ℤ)
  | text (value : Text)
  deriving DecidableEq

variable {Text : Type} (c : Conversions Text)

/-! ## Cells -/

namespace Cell

/-- A value that may be `None`. -/
def ofOption {α : Type} (write : α → Text) : Option α → Cell Text
  | none => .null
  | some a => .text (write a)

/-- `str(row[column])`. -/
def str : Cell Text → Text
  | .null => c.ofString "None"
  | .integer value => c.ofInt value
  | .text value => value

/-- `None if row[column] is None else …`. -/
def optional {α : Type} (read : Cell Text → Except Failure α) :
    Cell Text → Except Failure (Option α)
  | .null => .ok none
  | cell => (read cell).map some

def string (cell : Cell Text) : Except Failure String := .ok (c.string (cell.str c))

def decimal (cell : Cell Text) : Except Failure ℚ := c.decimal (cell.str c)

def time (cell : Cell Text) : Except Failure Time := c.fromisoformat (cell.str c)

def member {α : Type} [TextEnum α] (name : String) (cell : Cell Text) : Except Failure α :=
  c.member name (cell.str c)

/-- `int(row[column])`. -/
def int : Cell Text → Except Failure ℤ
  | .null => .error (.typeError "int() argument must be a string or a real number")
  | .integer value => .ok value
  | .text value => c.int value

/-- `bool(row[column])` of a column that is not `NULL`. -/
def bool : Cell Text → Except Failure Bool
  | .null => .ok false
  | .integer value => .ok (value ≠ 0)
  | .text value => .ok (c.string value ≠ "")

variable {c}

@[simp] theorem string_text (value : String) :
    string c (.text (c.ofString value)) = .ok value := by
  simp [string, str]

@[simp] theorem decimal_text (value : ℚ) : decimal c (.text (c.ofDecimal value)) = .ok value :=
  c.decimal_ofDecimal value

@[simp] theorem time_text (value : Time) : time c (.text (c.isoformat value)) = .ok value :=
  c.fromisoformat_isoformat value

@[simp] theorem member_text {α : Type} [TextEnum α] (name : String) (a : α) :
    member c name (.text (c.ofString (TextEnum.value a))) = .ok a :=
  c.member_value name a

@[simp] theorem int_integer (value : ℤ) : int c (.integer value) = .ok value := rfl

/-- What may be `None` is read back, if what is there is. -/
theorem optional_ofOption {α : Type} {write : α → Text} {read : Cell Text → Except Failure α}
    (h : ∀ a, read (.text (write a)) = .ok a) (a : Option α) :
    optional read (ofOption write a) = .ok a := by
  cases a with
  | none => rfl
  | some a =>
    have hread : optional read (ofOption write (some a)) = (read (.text (write a))).map some := rfl
    rw [hread, h]
    rfl

end Cell

/-! ## Entries -/

inductive EntryColumn where
  | orderLinkId
  | state
  | targetQuantity
  | entryOrderId
  | filledQuantity
  | entryNotional
  | entryFees
  | version
  | updatedAt
  deriving DecidableEq

/-- The columns of `INSERT INTO entry_snapshots`. -/
def entryColumns : List EntryColumn :=
  [.orderLinkId, .state, .targetQuantity, .entryOrderId, .filledQuantity, .entryNotional,
    .entryFees, .version, .updatedAt]

/-- `_snapshot_values`. -/
def snapshotValues (snapshot : EntryExecutionSnapshot) : List (Cell Text) :=
  [.text (c.ofString snapshot.orderLinkId),
    .text (c.ofString (TextEnum.value snapshot.state)),
    .text (c.ofDecimal snapshot.targetQuantity),
    .ofOption c.ofString snapshot.entryOrderId,
    .text (c.ofDecimal snapshot.filledQuantity),
    .text (c.ofDecimal snapshot.entryNotional),
    .text (c.ofDecimal snapshot.entryFees),
    .integer snapshot.version,
    .text (c.isoformat snapshot.updatedAt)]

/-- The columns of `UPDATE entry_snapshots SET`. -/
def entryUpdateColumns : List EntryColumn :=
  [.state, .targetQuantity, .entryOrderId, .filledQuantity, .entryNotional, .entryFees, .version,
    .updatedAt]

/-- The values `_update_snapshot` sets. -/
def snapshotUpdateValues (snapshot : EntryExecutionSnapshot) : List (Cell Text) :=
  [.text (c.ofString (TextEnum.value snapshot.state)),
    .text (c.ofDecimal snapshot.targetQuantity),
    .ofOption c.ofString snapshot.entryOrderId,
    .text (c.ofDecimal snapshot.filledQuantity),
    .text (c.ofDecimal snapshot.entryNotional),
    .text (c.ofDecimal snapshot.entryFees),
    .integer snapshot.version,
    .text (c.isoformat snapshot.updatedAt)]

/-- `_snapshot_from_row`. -/
def snapshotFromRow (row : Sql.Row EntryColumn (Cell Text)) :
    Except Failure EntryExecutionSnapshot := do
  let orderLinkId ← (row .orderLinkId).string c
  let state ← (row .state).member c "LiveExecutionState"
  let targetQuantity ← (row .targetQuantity).decimal c
  let entryOrderId ← (row .entryOrderId).optional (Cell.string c)
  let filledQuantity ← (row .filledQuantity).decimal c
  let entryNotional ← (row .entryNotional).decimal c
  let entryFees ← (row .entryFees).decimal c
  let version ← natural "snapshot version must be positive" (← (row .version).int c)
  let updatedAt ← (row .updatedAt).time c
  EntryExecutionSnapshot.create
    { orderLinkId, state, targetQuantity, entryOrderId, filledQuantity, entryNotional, entryFees
      version, updatedAt }

variable {c}

/-- **An entry is read from its row.** -/
theorem snapshotFromRow_eq {row : Sql.Row EntryColumn (Cell Text)}
    {snapshot : EntryExecutionSnapshot} (h : entryColumns.map row = snapshotValues c snapshot) :
    snapshotFromRow c row = .ok snapshot := by
  simp only [entryColumns, snapshotValues, List.map_cons, List.cons.injEq] at h
  obtain ⟨hid, hstate, htarget, horder, hfilled, hnotional, hfees, hversion, hupdated, -⟩ := h
  unfold snapshotFromRow
  rw [hid, hstate, htarget, horder, hfilled, hnotional, hfees, hversion, hupdated,
    Cell.optional_ofOption Cell.string_text]
  simp only [Cell.string_text, Cell.member_text, Cell.decimal_text, Cell.int_integer,
    Cell.time_text, natural_natCast, ok_bind]
  exact EntryExecutionSnapshot.create_eq_ok.mpr rfl

/-- An inserted row holds the values. -/
theorem entryRow_inserted (snapshot : EntryExecutionSnapshot)
    (row : Sql.Row EntryColumn (Cell Text)) :
    entryColumns.map (Sql.assign entryColumns (snapshotValues c snapshot) row) =
      snapshotValues c snapshot := by
  refine Sql.map_assign ?_ ?_ row
  · decide
  · rfl

/-- So does an updated one, of the same key. -/
theorem entryRow_updated {snapshot : EntryExecutionSnapshot}
    {row : Sql.Row EntryColumn (Cell Text)}
    (h : row .orderLinkId = .text (c.ofString snapshot.orderLinkId)) :
    entryColumns.map (Sql.assign entryUpdateColumns (snapshotUpdateValues c snapshot) row) =
      snapshotValues c snapshot := by
  have hcolumns : entryColumns = .orderLinkId :: entryUpdateColumns := rfl
  rw [hcolumns, Sql.map_assign_cons ?_ ?_ ?_, h]
  · rfl
  · decide
  · decide
  · rfl

/-! ## Protections -/

inductive ProtectionColumn where
  | entryOrderLinkId
  | state
  | entryQuantity
  | openQuantity
  | averageEntryPrice
  | entryFees
  | stopOrderLinkId
  | stopOrderId
  | stopTriggerPrice
  | tpOrderLinkId
  | tpOrderId
  | tpPrice
  | tpFilledQuantity
  | stopFilledQuantity
  | exitNotional
  | exitFees
  | confirmedRecoveryDebt
  | pendingTerminalState
  | version
  | updatedAt
  deriving DecidableEq

/-- The columns of `INSERT INTO protection_snapshots`. -/
def protectionColumns : List ProtectionColumn :=
  [.entryOrderLinkId, .state, .entryQuantity, .openQuantity, .averageEntryPrice, .entryFees,
    .stopOrderLinkId, .stopOrderId, .stopTriggerPrice, .tpOrderLinkId, .tpOrderId, .tpPrice,
    .tpFilledQuantity, .stopFilledQuantity, .exitNotional, .exitFees, .confirmedRecoveryDebt,
    .pendingTerminalState, .version, .updatedAt]

/-- The columns of `UPDATE protection_snapshots SET`. -/
def protectionUpdateColumns : List ProtectionColumn :=
  [.state, .entryQuantity, .openQuantity, .averageEntryPrice, .entryFees, .stopOrderLinkId,
    .stopOrderId, .stopTriggerPrice, .tpOrderLinkId, .tpOrderId, .tpPrice, .tpFilledQuantity,
    .stopFilledQuantity, .exitNotional, .exitFees, .confirmedRecoveryDebt, .pendingTerminalState,
    .version, .updatedAt]

section Protections

variable (c)

/-- `_protection_values`. -/
def protectionValues (snapshot : ProtectionSnapshot) : List (Cell Text) :=
  [.text (c.ofString snapshot.entryOrderLinkId),
    .text (c.ofString (TextEnum.value snapshot.state)),
    .text (c.ofDecimal snapshot.entryQuantity),
    .text (c.ofDecimal snapshot.openQuantity),
    .text (c.ofDecimal snapshot.averageEntryPrice),
    .text (c.ofDecimal snapshot.entryFees),
    .text (c.ofString snapshot.stopOrderLinkId),
    .ofOption c.ofString snapshot.stopOrderId,
    .text (c.ofDecimal snapshot.stopTriggerPrice),
    .ofOption c.ofString snapshot.tpOrderLinkId,
    .ofOption c.ofString snapshot.tpOrderId,
    .ofOption c.ofDecimal snapshot.tpPrice,
    .text (c.ofDecimal snapshot.tpFilledQuantity),
    .text (c.ofDecimal snapshot.stopFilledQuantity),
    .text (c.ofDecimal snapshot.exitNotional),
    .text (c.ofDecimal snapshot.exitFees),
    .text (c.ofDecimal snapshot.confirmedRecoveryDebt),
    .ofOption (fun state => c.ofString (TextEnum.value state)) snapshot.pendingTerminalState,
    .integer snapshot.version,
    .text (c.isoformat snapshot.updatedAt)]

/-- The values `_update_protection_snapshot` sets. -/
def protectionUpdateValues (snapshot : ProtectionSnapshot) : List (Cell Text) :=
  [.text (c.ofString (TextEnum.value snapshot.state)),
    .text (c.ofDecimal snapshot.entryQuantity),
    .text (c.ofDecimal snapshot.openQuantity),
    .text (c.ofDecimal snapshot.averageEntryPrice),
    .text (c.ofDecimal snapshot.entryFees),
    .text (c.ofString snapshot.stopOrderLinkId),
    .ofOption c.ofString snapshot.stopOrderId,
    .text (c.ofDecimal snapshot.stopTriggerPrice),
    .ofOption c.ofString snapshot.tpOrderLinkId,
    .ofOption c.ofString snapshot.tpOrderId,
    .ofOption c.ofDecimal snapshot.tpPrice,
    .text (c.ofDecimal snapshot.tpFilledQuantity),
    .text (c.ofDecimal snapshot.stopFilledQuantity),
    .text (c.ofDecimal snapshot.exitNotional),
    .text (c.ofDecimal snapshot.exitFees),
    .text (c.ofDecimal snapshot.confirmedRecoveryDebt),
    .ofOption (fun state => c.ofString (TextEnum.value state)) snapshot.pendingTerminalState,
    .integer snapshot.version,
    .text (c.isoformat snapshot.updatedAt)]

/-- `_protection_from_row`. -/
def protectionFromRow (row : Sql.Row ProtectionColumn (Cell Text)) :
    Except Failure ProtectionSnapshot := do
  let entryOrderLinkId ← (row .entryOrderLinkId).string c
  let state ← (row .state).member c "LiveExecutionState"
  let entryQuantity ← (row .entryQuantity).decimal c
  let openQuantity ← (row .openQuantity).decimal c
  let averageEntryPrice ← (row .averageEntryPrice).decimal c
  let entryFees ← (row .entryFees).decimal c
  let stopOrderLinkId ← (row .stopOrderLinkId).string c
  let stopOrderId ← (row .stopOrderId).optional (Cell.string c)
  let stopTriggerPrice ← (row .stopTriggerPrice).decimal c
  let tpOrderLinkId ← (row .tpOrderLinkId).optional (Cell.string c)
  let tpOrderId ← (row .tpOrderId).optional (Cell.string c)
  let tpPrice ← (row .tpPrice).optional (Cell.decimal c)
  let tpFilledQuantity ← (row .tpFilledQuantity).decimal c
  let stopFilledQuantity ← (row .stopFilledQuantity).decimal c
  let exitNotional ← (row .exitNotional).decimal c
  let exitFees ← (row .exitFees).decimal c
  let confirmedRecoveryDebt ← (row .confirmedRecoveryDebt).decimal c
  let pendingTerminalState ←
    (row .pendingTerminalState).optional (Cell.member c "LiveExecutionState")
  let version ← natural "snapshot version must be positive" (← (row .version).int c)
  let updatedAt ← (row .updatedAt).time c
  ProtectionSnapshot.create
    { entryOrderLinkId, state, entryQuantity, openQuantity, averageEntryPrice, entryFees
      stopOrderLinkId, stopOrderId, stopTriggerPrice, tpOrderLinkId, tpOrderId, tpPrice
      tpFilledQuantity, stopFilledQuantity, exitNotional, exitFees, confirmedRecoveryDebt
      pendingTerminalState, version, updatedAt }

end Protections

/-- **A protection is read from its row.** -/
theorem protectionFromRow_eq {row : Sql.Row ProtectionColumn (Cell Text)}
    {snapshot : ProtectionSnapshot}
    (h : protectionColumns.map row = protectionValues c snapshot) :
    protectionFromRow c row = .ok snapshot := by
  simp only [protectionColumns, protectionValues, List.map_cons, List.cons.injEq] at h
  obtain ⟨hentry, hstate, hentered, hopen, haverage, hfees, hstop, hstopOrder, htrigger, htp,
    htpOrder, hprice, htpFilled, hstopFilled, hnotional, hexitFees, hdebt, hpending, hversion,
    hupdated, -⟩ := h
  unfold protectionFromRow
  rw [hentry, hstate, hentered, hopen, haverage, hfees, hstop, hstopOrder, htrigger, htp, htpOrder,
    hprice, htpFilled, hstopFilled, hnotional, hexitFees, hdebt, hpending, hversion, hupdated]
  simp only [Cell.string_text, Cell.member_text, Cell.decimal_text, Cell.int_integer,
    Cell.time_text, Cell.optional_ofOption Cell.string_text,
    Cell.optional_ofOption Cell.decimal_text,
    Cell.optional_ofOption (Cell.member_text "LiveExecutionState"), natural_natCast,
    ok_bind]
  exact ProtectionSnapshot.create_eq_ok.mpr rfl

/-- An inserted row holds the values. -/
theorem protectionRow_inserted (snapshot : ProtectionSnapshot)
    (row : Sql.Row ProtectionColumn (Cell Text)) :
    protectionColumns.map (Sql.assign protectionColumns (protectionValues c snapshot) row) =
      protectionValues c snapshot := by
  refine Sql.map_assign ?_ ?_ row
  · decide
  · rfl

/-- So does an updated one, of the same key. -/
theorem protectionRow_updated {snapshot : ProtectionSnapshot}
    {row : Sql.Row ProtectionColumn (Cell Text)}
    (h : row .entryOrderLinkId = .text (c.ofString snapshot.entryOrderLinkId)) :
    protectionColumns.map
        (Sql.assign protectionUpdateColumns (protectionUpdateValues c snapshot) row) =
      protectionValues c snapshot := by
  have hcolumns : protectionColumns = .entryOrderLinkId :: protectionUpdateColumns := rfl
  rw [hcolumns, Sql.map_assign_cons ?_ ?_ ?_, h]
  · rfl
  · decide
  · decide
  · rfl

/-! ## Option spreads -/

inductive OptionSpreadColumn where
  | cycleId
  | state
  | longSymbol
  | shortSymbol
  | expiryTimeUtc
  | requestedQuantity
  | expectedNetCredit
  | longOrderLinkId
  | shortOrderLinkId
  | longOrderId
  | shortOrderId
  | longFilledQuantity
  | shortFilledQuantity
  | longNotional
  | shortNotional
  | longFees
  | shortFees
  | openedTimeUtc
  | version
  | updatedAt
  deriving DecidableEq

/-- The columns of `INSERT INTO option_spread_snapshots`. -/
def optionSpreadColumns : List OptionSpreadColumn :=
  [.cycleId, .state, .longSymbol, .shortSymbol, .expiryTimeUtc, .requestedQuantity,
    .expectedNetCredit, .longOrderLinkId, .shortOrderLinkId, .longOrderId, .shortOrderId,
    .longFilledQuantity, .shortFilledQuantity, .longNotional, .shortNotional, .longFees,
    .shortFees, .openedTimeUtc, .version, .updatedAt]

/-- The columns of `UPDATE option_spread_snapshots SET`, for `values[1:]`. -/
def optionSpreadUpdateColumns : List OptionSpreadColumn :=
  [.state, .longSymbol, .shortSymbol, .expiryTimeUtc, .requestedQuantity, .expectedNetCredit,
    .longOrderLinkId, .shortOrderLinkId, .longOrderId, .shortOrderId, .longFilledQuantity,
    .shortFilledQuantity, .longNotional, .shortNotional, .longFees, .shortFees, .openedTimeUtc,
    .version, .updatedAt]

section OptionSpreads

variable (c)

/-- `_option_spread_values`. -/
def optionSpreadValues (snapshot : OptionSpreadExecutionSnapshot) : List (Cell Text) :=
  [.text (c.ofString snapshot.cycleId),
    .text (c.ofString (TextEnum.value snapshot.state)),
    .text (c.ofString snapshot.longSymbol),
    .text (c.ofString snapshot.shortSymbol),
    .text (c.isoformat snapshot.expiryTimeUtc),
    .text (c.ofDecimal snapshot.requestedQuantity),
    .text (c.ofDecimal snapshot.expectedNetCredit),
    .text (c.ofString snapshot.longOrderLinkId),
    .ofOption c.ofString snapshot.shortOrderLinkId,
    .ofOption c.ofString snapshot.longOrderId,
    .ofOption c.ofString snapshot.shortOrderId,
    .text (c.ofDecimal snapshot.longFilledQuantity),
    .text (c.ofDecimal snapshot.shortFilledQuantity),
    .text (c.ofDecimal snapshot.longNotional),
    .text (c.ofDecimal snapshot.shortNotional),
    .text (c.ofDecimal snapshot.longFees),
    .text (c.ofDecimal snapshot.shortFees),
    .ofOption c.isoformat snapshot.openedTimeUtc,
    .integer snapshot.version,
    .text (c.isoformat snapshot.updatedAt)]

/-- `_option_spread_from_row`. -/
def optionSpreadFromRow (row : Sql.Row OptionSpreadColumn (Cell Text)) :
    Except Failure OptionSpreadExecutionSnapshot := do
  let cycleId ← (row .cycleId).string c
  let state ← (row .state).member c "OptionPositionState"
  let longSymbol ← (row .longSymbol).string c
  let shortSymbol ← (row .shortSymbol).string c
  let expiryTimeUtc ← (row .expiryTimeUtc).time c
  let requestedQuantity ← (row .requestedQuantity).decimal c
  let expectedNetCredit ← (row .expectedNetCredit).decimal c
  let longOrderLinkId ← (row .longOrderLinkId).string c
  let shortOrderLinkId ← (row .shortOrderLinkId).optional (Cell.string c)
  let longOrderId ← (row .longOrderId).optional (Cell.string c)
  let shortOrderId ← (row .shortOrderId).optional (Cell.string c)
  let longFilledQuantity ← (row .longFilledQuantity).decimal c
  let shortFilledQuantity ← (row .shortFilledQuantity).decimal c
  let longNotional ← (row .longNotional).decimal c
  let shortNotional ← (row .shortNotional).decimal c
  let longFees ← (row .longFees).decimal c
  let shortFees ← (row .shortFees).decimal c
  let openedTimeUtc ← (row .openedTimeUtc).optional (Cell.time c)
  let version ← natural "option snapshot version must be positive" (← (row .version).int c)
  let updatedAt ← (row .updatedAt).time c
  OptionSpreadExecutionSnapshot.create
    { cycleId, state, longSymbol, shortSymbol, expiryTimeUtc, requestedQuantity, expectedNetCredit
      longOrderLinkId, shortOrderLinkId, longOrderId, shortOrderId, longFilledQuantity
      shortFilledQuantity, longNotional, shortNotional, longFees, shortFees, openedTimeUtc, version
      updatedAt }

end OptionSpreads

/-- **A spread is read from its row.** -/
theorem optionSpreadFromRow_eq {row : Sql.Row OptionSpreadColumn (Cell Text)}
    {snapshot : OptionSpreadExecutionSnapshot}
    (h : optionSpreadColumns.map row = optionSpreadValues c snapshot) :
    optionSpreadFromRow c row = .ok snapshot := by
  simp only [optionSpreadColumns, optionSpreadValues, List.map_cons, List.cons.injEq] at h
  obtain ⟨hcycle, hstate, hlong, hshort, hexpiry, hrequested, hcredit, hlongLink, hshortLink,
    hlongOrder, hshortOrder, hlongFilled, hshortFilled, hlongNotional, hshortNotional, hlongFees,
    hshortFees, hopened, hversion, hupdated, -⟩ := h
  unfold optionSpreadFromRow
  rw [hcycle, hstate, hlong, hshort, hexpiry, hrequested, hcredit, hlongLink, hshortLink,
    hlongOrder, hshortOrder, hlongFilled, hshortFilled, hlongNotional, hshortNotional, hlongFees,
    hshortFees, hopened, hversion, hupdated]
  simp only [Cell.string_text, Cell.member_text, Cell.decimal_text, Cell.int_integer,
    Cell.time_text, Cell.optional_ofOption Cell.string_text,
    Cell.optional_ofOption Cell.time_text, natural_natCast, ok_bind]
  exact OptionSpreadExecutionSnapshot.create_eq_ok.mpr rfl

/-- An inserted row holds the values. -/
theorem optionSpreadRow_inserted (snapshot : OptionSpreadExecutionSnapshot)
    (row : Sql.Row OptionSpreadColumn (Cell Text)) :
    optionSpreadColumns.map (Sql.assign optionSpreadColumns (optionSpreadValues c snapshot) row) =
      optionSpreadValues c snapshot := by
  refine Sql.map_assign ?_ ?_ row
  · decide
  · rfl

/-- So does an updated one, of the same key. -/
theorem optionSpreadRow_updated {snapshot : OptionSpreadExecutionSnapshot}
    {row : Sql.Row OptionSpreadColumn (Cell Text)}
    (h : row .cycleId = .text (c.ofString snapshot.cycleId)) :
    optionSpreadColumns.map
        (Sql.assign optionSpreadUpdateColumns ((optionSpreadValues c snapshot).drop 1) row) =
      optionSpreadValues c snapshot := by
  have hcolumns : optionSpreadColumns = .cycleId :: optionSpreadUpdateColumns := rfl
  rw [hcolumns, Sql.map_assign_cons ?_ ?_ ?_, h]
  · rfl
  · decide
  · decide
  · rfl

/-! ## Recovery debts -/

/-- `RecoveryDebtState.__post_init__`. -/
def RecoveryDebtState.create (projectedDebt confirmedDebt allocatedDebt remainingDebt : ℚ) :
    Except Failure RecoveryDebtState :=
  if hprojected : projectedDebt < 0 then .error (.valueError "projected debt cannot be negative")
  else if hconfirmed : confirmedDebt < 0 then
    .error (.valueError "confirmed debt cannot be negative")
  else if hallocated : allocatedDebt < 0 then
    .error (.valueError "allocated debt cannot be negative")
  else if hremaining : remainingDebt < 0 then
    .error (.valueError "remaining debt cannot be negative")
  else if hbalanced : confirmedDebt = allocatedDebt + remainingDebt then
    .ok
      { projectedDebt, confirmedDebt, allocatedDebt, remainingDebt
        projectedDebt_nonneg := nonneg_of_not_neg hprojected
        confirmedDebt_nonneg := nonneg_of_not_neg hconfirmed
        allocatedDebt_nonneg := nonneg_of_not_neg hallocated
        remainingDebt_nonneg := nonneg_of_not_neg hremaining
        balanced := hbalanced }
  else .error (.valueError "confirmed debt must equal allocated plus remaining debt")

theorem RecoveryDebtState.create_self (debt : RecoveryDebtState) :
    create debt.projectedDebt debt.confirmedDebt debt.allocatedDebt debt.remainingDebt =
      .ok debt := by
  unfold create
  rw [dif_neg (not_lt.mpr debt.projectedDebt_nonneg),
    dif_neg (not_lt.mpr debt.confirmedDebt_nonneg),
    dif_neg (not_lt.mpr debt.allocatedDebt_nonneg),
    dif_neg (not_lt.mpr debt.remainingDebt_nonneg), dif_pos debt.balanced]

/-- `RecoveryDebtSnapshot.__post_init__`. -/
def RecoveryDebtSnapshot.create (levelId : ℕ) (debt : RecoveryDebtState) (version : ℕ)
    (updatedAt : Time) : Except Failure RecoveryDebtSnapshot :=
  if hlevel : 0 < levelId then
    if hversion : 0 < version then
      .ok { levelId, debt, version, updatedAt, levelId_pos := hlevel, version_pos := hversion }
    else .error (.valueError "debt snapshot version must be positive")
  else .error (.valueError "level ID must be positive")

theorem RecoveryDebtSnapshot.create_self (snapshot : RecoveryDebtSnapshot) :
    create snapshot.levelId snapshot.debt snapshot.version snapshot.updatedAt = .ok snapshot := by
  unfold create
  rw [dif_pos snapshot.levelId_pos, dif_pos snapshot.version_pos]

inductive DebtColumn where
  | levelId
  | projectedDebt
  | confirmedDebt
  | allocatedDebt
  | remainingDebt
  | version
  | updatedAt
  deriving DecidableEq

/-- The columns of `INSERT INTO recovery_debts`. -/
def debtColumns : List DebtColumn :=
  [.levelId, .projectedDebt, .confirmedDebt, .allocatedDebt, .remainingDebt, .version, .updatedAt]

/-- The columns of `UPDATE recovery_debts SET`. -/
def debtUpdateColumns : List DebtColumn :=
  [.projectedDebt, .confirmedDebt, .allocatedDebt, .remainingDebt, .version, .updatedAt]

section Debts

variable (c)

/-- `_recovery_debt_values`. -/
def recoveryDebtValues (snapshot : RecoveryDebtSnapshot) : List (Cell Text) :=
  [.integer snapshot.levelId,
    .text (c.ofDecimal snapshot.debt.projectedDebt),
    .text (c.ofDecimal snapshot.debt.confirmedDebt),
    .text (c.ofDecimal snapshot.debt.allocatedDebt),
    .text (c.ofDecimal snapshot.debt.remainingDebt),
    .integer snapshot.version,
    .text (c.isoformat snapshot.updatedAt)]

/-- The values `_transition_recovery_debt_snapshot` sets. -/
def recoveryDebtUpdateValues (snapshot : RecoveryDebtSnapshot) : List (Cell Text) :=
  [.text (c.ofDecimal snapshot.debt.projectedDebt),
    .text (c.ofDecimal snapshot.debt.confirmedDebt),
    .text (c.ofDecimal snapshot.debt.allocatedDebt),
    .text (c.ofDecimal snapshot.debt.remainingDebt),
    .integer snapshot.version,
    .text (c.isoformat snapshot.updatedAt)]

/-- `_recovery_debt_from_row`. -/
def recoveryDebtFromRow (row : Sql.Row DebtColumn (Cell Text)) :
    Except Failure RecoveryDebtSnapshot := do
  let levelId ← natural "level ID must be positive" (← (row .levelId).int c)
  let projectedDebt ← (row .projectedDebt).decimal c
  let confirmedDebt ← (row .confirmedDebt).decimal c
  let allocatedDebt ← (row .allocatedDebt).decimal c
  let remainingDebt ← (row .remainingDebt).decimal c
  let debt ← RecoveryDebtState.create projectedDebt confirmedDebt allocatedDebt remainingDebt
  let version ← natural "debt snapshot version must be positive" (← (row .version).int c)
  let updatedAt ← (row .updatedAt).time c
  RecoveryDebtSnapshot.create levelId debt version updatedAt

end Debts

/-- **A debt is read from its row.** -/
theorem recoveryDebtFromRow_eq {row : Sql.Row DebtColumn (Cell Text)}
    {snapshot : RecoveryDebtSnapshot} (h : debtColumns.map row = recoveryDebtValues c snapshot) :
    recoveryDebtFromRow c row = .ok snapshot := by
  simp only [debtColumns, recoveryDebtValues, List.map_cons, List.cons.injEq] at h
  obtain ⟨hlevel, hprojected, hconfirmed, hallocated, hremaining, hversion, hupdated, -⟩ := h
  unfold recoveryDebtFromRow
  rw [hlevel, hprojected, hconfirmed, hallocated, hremaining, hversion, hupdated]
  simp only [Cell.decimal_text, Cell.int_integer, Cell.time_text, natural_natCast, ok_bind,
    RecoveryDebtState.create_self]
  exact snapshot.create_self

/-- An inserted row holds the values. -/
theorem debtRow_inserted (snapshot : RecoveryDebtSnapshot)
    (row : Sql.Row DebtColumn (Cell Text)) :
    debtColumns.map (Sql.assign debtColumns (recoveryDebtValues c snapshot) row) =
      recoveryDebtValues c snapshot := by
  refine Sql.map_assign ?_ ?_ row
  · decide
  · rfl

/-- So does an updated one, of the same key. -/
theorem debtRow_updated {snapshot : RecoveryDebtSnapshot}
    {row : Sql.Row DebtColumn (Cell Text)}
    (h : row .levelId = .integer snapshot.levelId) :
    debtColumns.map (Sql.assign debtUpdateColumns (recoveryDebtUpdateValues c snapshot) row) =
      recoveryDebtValues c snapshot := by
  have hcolumns : debtColumns = .levelId :: debtUpdateColumns := rfl
  rw [hcolumns, Sql.map_assign_cons ?_ ?_ ?_, h]
  · rfl
  · decide
  · decide
  · rfl

/-! ## Executions -/

inductive ExecutionColumn where
  | executionId
  | orderId
  | orderLinkId
  | symbol
  | side
  | price
  | quantity
  | fee
  | isMaker
  | executedAt
  | receivedAt
  | payloadHash
  deriving DecidableEq

/-- The columns of `INSERT OR IGNORE INTO executions`. -/
def executionColumns : List ExecutionColumn :=
  [.executionId, .orderId, .orderLinkId, .symbol, .side, .price, .quantity, .fee, .isMaker,
    .executedAt, .receivedAt, .payloadHash]

section Executions

variable (c)

/-- The values `_insert_execution_if_new` inserts. -/
def executionValues (execution : ExecutionUpdate) (receivedAt : Time) (payloadHash : String) :
    List (Cell Text) :=
  [.text (c.ofString execution.executionId),
    .text (c.ofString execution.orderId),
    .text (c.ofString execution.orderLinkId),
    .text (c.ofString execution.symbol),
    .text (c.ofString (TextEnum.value execution.side)),
    .text (c.ofDecimal execution.price),
    .text (c.ofDecimal execution.quantity),
    .text (c.ofDecimal execution.fee),
    match execution.isMaker with
    | none => .null
    | some isMaker => .integer (if isMaker then 1 else 0),
    .text (c.isoformat execution.executedAt),
    .text (c.isoformat receivedAt),
    .text (c.ofString payloadHash)]

/-- `_execution_from_row`. The side is cast, and refused by the constructor. -/
def executionFromRow (row : Sql.Row ExecutionColumn (Cell Text)) :
    Except Failure ExecutionUpdate := do
  let executionId ← (row .executionId).string c
  let orderId ← (row .orderId).string c
  let orderLinkId ← (row .orderLinkId).string c
  let symbol ← (row .symbol).string c
  let sideText ← (row .side).string c
  let price ← (row .price).decimal c
  let quantity ← (row .quantity).decimal c
  let fee ← (row .fee).decimal c
  let isMaker ← (row .isMaker).optional (Cell.bool c)
  let executedAt ← (row .executedAt).time c
  match TextEnum.ofValue sideText with
  | none => .error (.valueError "side must be Buy or Sell")
  | some side =>
    build ExecutionFields.check ExecutionUpdate.mk
      { executionId, orderId, orderLinkId, symbol, side, price, quantity, fee, isMaker
        executedAt }

end Executions

/-- **An execution is read from its row.** -/
theorem executionFromRow_eq {row : Sql.Row ExecutionColumn (Cell Text)}
    {execution : ExecutionUpdate} {receivedAt : Time} {payloadHash : String}
    (h : executionColumns.map row = executionValues c execution receivedAt payloadHash) :
    executionFromRow c row = .ok execution := by
  simp only [executionColumns, executionValues, List.map_cons, List.cons.injEq] at h
  obtain ⟨hid, horder, hlink, hsymbol, hside, hprice, hquantity, hfee, hmaker, hexecuted, -⟩ := h
  have hisMaker : (row .isMaker).optional (Cell.bool c) = .ok execution.isMaker := by
    rw [hmaker]
    rcases execution.isMaker with _ | _ | _ <;> rfl
  unfold executionFromRow
  rw [hid, horder, hlink, hsymbol, hside, hprice, hquantity, hfee, hisMaker, hexecuted]
  simp only [Cell.string_text, Cell.decimal_text, Cell.time_text, ok_bind,
    TextEnum.ofValue_value]
  exact build_eq_ok.mpr ⟨execution.checked, rfl⟩

/-- An inserted row holds the values. -/
theorem executionRow_inserted (execution : ExecutionUpdate) (receivedAt : Time)
    (payloadHash : String) (row : Sql.Row ExecutionColumn (Cell Text)) :
    executionColumns.map (Sql.assign executionColumns
        (executionValues c execution receivedAt payloadHash) row) =
      executionValues c execution receivedAt payloadHash := by
  refine Sql.map_assign ?_ ?_ row
  · decide
  · rfl

/-! ## Order intents -/

inductive OrderIntentColumn where
  | orderLinkId
  | requestJson
  | persistedAt
  | exchangeOrderId
  | acknowledgedAt
  deriving DecidableEq

/-- The columns of `INSERT INTO order_intents`; the other two are `NULL` until the
    acknowledgement. -/
def orderIntentColumns : List OrderIntentColumn := [.orderLinkId, .requestJson, .persistedAt]

section Requests

variable (c)

/-- A value of a request that may be `None`. -/
def jsonOption {α : Type} (write : α → Json Text) : Option α → Json Text
  | none => .null
  | some a => write a

/-- The members of a request's object. -/
def requestFields (request : PlaceOrderRequest) : List (String × Json Text) :=
  [("category", .string (c.ofString (TextEnum.value request.category))),
    ("symbol", .string (c.ofString request.symbol)),
    ("side", .string (c.ofString (TextEnum.value request.side))),
    ("order_type", .string (c.ofString (TextEnum.value request.orderType))),
    ("quantity", .string (c.ofDecimal request.quantity)),
    ("order_link_id", .string (c.ofString request.orderLinkId)),
    ("price", jsonOption (fun price => .string (c.ofDecimal price)) request.price),
    ("time_in_force", .string (c.ofString (TextEnum.value request.timeInForce))),
    ("reduce_only", .boolean request.reduceOnly),
    ("trigger_price",
      jsonOption (fun price => .string (c.ofDecimal price)) request.triggerPrice),
    ("trigger_direction",
      jsonOption (fun direction : ℕ => .integer direction) request.triggerDirection),
    ("trigger_by",
      jsonOption (fun source => .string (c.ofString (TextEnum.value source))) request.triggerBy),
    ("position_idx", .integer request.positionIdx),
    ("close_on_trigger", .boolean request.closeOnTrigger)]

/-- `_serialize_request`. -/
def serializeRequest (request : PlaceOrderRequest) : Text :=
  c.dumps (.ofFields (requestFields c request))

/-- The values `_insert_order_intent` inserts. -/
def orderIntentValues (request : PlaceOrderRequest) (persistedAt : Time) : List (Cell Text) :=
  [.text (c.ofString request.orderLinkId), .text (serializeRequest c request),
    .text (c.isoformat persistedAt)]

variable (data : String → Option (Json Text)) (key : String)

/-- `_required_string`. -/
def requiredString : Except Failure Text :=
  match Json.get data key with
  | .string value => .ok value
  | _ => .error (.valueError s!"persisted {key} must be a string")

/-- `_optional_string`. -/
def optionalString : Json Text → Except Failure (Option Text)
  | .null => .ok none
  | .string value => .ok (some value)
  | _ => .error (.valueError "persisted optional value must be a string")

/-- `_optional_decimal_value`. -/
def optionalDecimalValue (value : Json Text) : Except Failure (Option ℚ) := do
  match ← optionalString value with
  | none => .ok none
  | some text => (c.decimal text).map some

/-- `_bool_value`. -/
def boolValue (value : Json Text) : Except Failure Bool :=
  match value with
  | .boolean value => .ok value
  | _ => .error (.valueError s!"persisted {key} must be a boolean")

/-- `_required_bool`. -/
def requiredBool : Except Failure Bool := boolValue key (Json.get data key)

/-- `_optional_int`. -/
def optionalInt : Json Text → Except Failure (Option ℤ)
  | .null => .ok none
  | .integer value => .ok (some value)
  | _ => .error (.valueError "persisted optional value must be an integer")

/-- `_required_int`. -/
def requiredInt : Except Failure ℤ := do
  match ← optionalInt (Json.get data key) with
  | none => .error (.valueError s!"persisted {key} must be an integer")
  | some value => .ok value

/-- A text that is cast to a literal type, and refused by the constructor. -/
def castLiteral {α : Type} [TextEnum α] (message : String) (text : Text) : Except Failure α :=
  match TextEnum.ofValue (c.string text) with
  | none => .error (.valueError message)
  | some a => .ok a

/-- The same of an optional one. -/
def castOptional {α : Type} [TextEnum α] (message : String) :
    Option Text → Except Failure (Option α)
  | none => .ok none
  | some text => (castLiteral c message text).map some

/-- An optional number the constructor refuses if it is negative. -/
def naturalOption (message : String) : Option ℤ → Except Failure (Option ℕ)
  | none => .ok none
  | some value => (natural message value).map some

/-- `_deserialize_request`: the fields are read in the source's order, then the constructor runs. -/
def deserializeRequest (payload : Text) : Except Failure PlaceOrderRequest := do
  match ← c.loads payload with
  | .object data => do
    let categoryText ← requiredString data "category"
    let symbol ← requiredString data "symbol"
    let sideText ← requiredString data "side"
    let orderTypeText ← requiredString data "order_type"
    let quantity ← c.decimal (← requiredString data "quantity")
    let orderLinkId ← requiredString data "order_link_id"
    let price ← optionalDecimalValue c (Json.get data "price")
    let timeInForceText ← requiredString data "time_in_force"
    let reduceOnly ← requiredBool data "reduce_only"
    let triggerPrice ← optionalDecimalValue c (Json.get data "trigger_price")
    let direction ← optionalInt (Json.get data "trigger_direction")
    let triggerByText ← optionalString (Json.get data "trigger_by")
    let index ← requiredInt data "position_idx"
    let closeOnTrigger ← boolValue "close_on_trigger"
      ((data "close_on_trigger").getD (.boolean false))
    let category ← castLiteral c "category must be option or linear" categoryText
    let side ← castLiteral c "side must be Buy or Sell" sideText
    let orderType ← castLiteral c "order type must be Market or Limit" orderTypeText
    let timeInForce ← castLiteral c "unsupported time in force" timeInForceText
    let triggerBy ← castOptional c "trigger source is required" triggerByText
    let triggerDirection ←
      naturalOption "trigger direction is required and must be 1 or 2" direction
    let positionIdx ← natural "position index must be 0, 1, or 2" index
    PlaceOrderRequest.create
      { category, symbol := c.string symbol, side, orderType, quantity
        orderLinkId := c.string orderLinkId, price, timeInForce, reduceOnly, triggerPrice
        triggerDirection, triggerBy, positionIdx, closeOnTrigger }
  | _ => .error (.valueError "persisted order intent must be a JSON object")

end Requests

/-! ### Reading a request -/

section Reading

variable {data : String → Option (Json Text)} {key : String}

theorem requiredString_eq {value : Text} (h : data key = some (.string value)) :
    requiredString data key = .ok value := by
  unfold requiredString
  rw [Json.get_eq h]

theorem requiredBool_eq {value : Bool} (h : data key = some (.boolean value)) :
    requiredBool data key = .ok value := by
  unfold requiredBool boolValue
  rw [Json.get_eq h]

theorem requiredInt_eq {value : ℤ} (h : data key = some (.integer value)) :
    requiredInt data key = .ok value := by
  unfold requiredInt optionalInt
  rw [Json.get_eq h]
  rfl

theorem optionalDecimalValue_jsonOption (value : Option ℚ) :
    optionalDecimalValue c (jsonOption (fun price => .string (c.ofDecimal price)) value) =
      .ok value := by
  cases value with
  | none => rfl
  | some value =>
    have hread : optionalDecimalValue c (.string (c.ofDecimal value)) =
        (c.decimal (c.ofDecimal value)).map some := rfl
    refine hread.trans ?_
    rw [c.decimal_ofDecimal]
    rfl

theorem castLiteral_value {α : Type} [TextEnum α] (message : String) (a : α) :
    castLiteral c message (c.ofString (TextEnum.value a)) = .ok a := by
  unfold castLiteral
  rw [c.string_ofString, TextEnum.ofValue_value]

theorem optionalString_jsonOption {α : Type} (write : α → Text) (a : Option α) :
    optionalString (jsonOption (fun a => .string (write a)) a) = .ok (a.map write) := by
  cases a <;> rfl

theorem castOptional_map {α : Type} [TextEnum α] (message : String) (a : Option α) :
    castOptional c message (a.map fun a => c.ofString (TextEnum.value a)) = .ok a := by
  cases a with
  | none => rfl
  | some a =>
    have hread : (castOptional c message (some (c.ofString (TextEnum.value a))) :
        Except Failure (Option α)) =
          (castLiteral c message (c.ofString (TextEnum.value a))).map some := rfl
    rw [Option.map_some, hread, castLiteral_value]
    rfl

theorem optionalInt_jsonOption (n : Option ℕ) :
    optionalInt (jsonOption (fun n : ℕ => (.integer n : Json Text)) n) =
      .ok (n.map fun n : ℕ => (n : ℤ)) := by
  cases n <;> rfl

theorem naturalOption_map (message : String) (n : Option ℕ) :
    naturalOption message (n.map fun n : ℕ => (n : ℤ)) = .ok n := by
  cases n with
  | none => rfl
  | some n =>
    have hread : naturalOption message (some (n : ℤ)) = (natural message n).map some := rfl
    rw [Option.map_some, hread, natural_natCast]
    rfl

theorem nodup_requestFields (request : PlaceOrderRequest) :
    ((requestFields c request).map Prod.fst).Nodup := by
  have hnames : (requestFields c request).map Prod.fst =
      ["category", "symbol", "side", "order_type", "quantity", "order_link_id", "price",
        "time_in_force", "reduce_only", "trigger_price", "trigger_direction", "trigger_by",
        "position_idx", "close_on_trigger"] := rfl
  rw [hnames]
  decide

theorem deserializeRequest_eq {request : PlaceOrderRequest} {payload : Text}
    (hpayload : c.loads payload = .ok (.object data))
    (hdata : ∀ field ∈ requestFields c request, data field.1 = some field.2) :
    deserializeRequest c payload = .ok request := by
  simp only [requestFields, List.forall_mem_cons] at hdata
  obtain ⟨hcategory, hsymbol, hside, htype, hquantity, hid, hprice, htif, hreduce, htrigger,
    hdirection, hby, hindex, hclose, -⟩ := hdata
  unfold deserializeRequest
  rw [hpayload]
  simp only [ok_bind, requiredString_eq hcategory, requiredString_eq hsymbol,
    requiredString_eq hside, requiredString_eq htype, requiredString_eq hquantity,
    requiredString_eq hid, Json.get_eq hprice, requiredString_eq htif, requiredBool_eq hreduce,
    Json.get_eq htrigger, Json.get_eq hdirection, Json.get_eq hby, requiredInt_eq hindex, hclose,
    Option.getD_some, boolValue, c.decimal_ofDecimal, optionalDecimalValue_jsonOption,
    optionalInt_jsonOption, optionalString_jsonOption, castLiteral_value, castOptional_map,
    naturalOption_map, natural_natCast, c.string_ofString]
  exact PlaceOrderRequest.create_eq_ok.mpr rfl

/-- **A request is read from its text.** -/
theorem deserializeRequest_serializeRequest (request : PlaceOrderRequest) :
    deserializeRequest c (serializeRequest c request) = .ok request := by
  refine deserializeRequest_eq (c.loads_dumps _) fun field hfield => ?_
  exact lookup_of_mem (nodup_requestFields request) hfield

end Reading

end CreditHedge
