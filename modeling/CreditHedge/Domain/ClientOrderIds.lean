import CreditHedge.Failure
import Mathlib.Logic.Basic
import Mathlib.Data.Nat.Notation

/-!
# Client order ids

`domain/client_order_ids.py`: the compact, parseable id every order of the strategy carries.

The source parses with one regular expression whose seven parts contain no hyphen and are
separated by hyphens. Reading it here is splitting at the hyphens and matching the parts one by
one. A `ClientOrderId` is a structure whose fields are the constructor's checks, so the model has
no malformed id either.
-/

set_option autoImplicit false

namespace CreditHedge

inductive ClientOrderRole where
  | optionLong
  | optionShort
  | hedgeEntry
  | hedgeTp
  | hedgeStop
  | emergencyClose
  deriving DecidableEq, Repr

namespace ClientOrderRole

def value : ClientOrderRole → String
  | .optionLong => "OPTION_LONG"
  | .optionShort => "OPTION_SHORT"
  | .hedgeEntry => "HEDGE_ENTRY"
  | .hedgeTp => "HEDGE_TP"
  | .hedgeStop => "HEDGE_STOP"
  | .emergencyClose => "EMERGENCY_CLOSE"

/-- `_ROLE_TO_TOKEN`. -/
def token : ClientOrderRole → String
  | .optionLong => "OL"
  | .optionShort => "OS"
  | .hedgeEntry => "ENTRY"
  | .hedgeTp => "TP"
  | .hedgeStop => "STOP"
  | .emergencyClose => "EC"

/-- `_TOKEN_TO_ROLE`. -/
def ofToken (token : List Char) : Option ClientOrderRole :=
  [optionLong, optionShort, hedgeEntry, hedgeTp, hedgeStop, emergencyClose].find?
    (fun role => role.token.toList = token)

end ClientOrderRole

/-! ## The patterns -/

/-- `[A-Za-z0-9]{1,4}`. -/
def isComponent (cs : List Char) : Bool :=
  1 ≤ cs.length && cs.length ≤ 4 && cs.all Char.isAlphanum

/-- One character of `[0-9A-F]`. -/
def isUpperHex (c : Char) : Bool := c.isDigit || ('A' ≤ c && c ≤ 'F')

/-- `[0-9A-F]{4,6}`. -/
def isNonce (cs : List Char) : Bool :=
  4 ≤ cs.length && cs.length ≤ 6 && cs.all isUpperHex

/-- `str.upper`, as far as the nonce pattern can see it: besides the letters, the ligature `ﬀ` is
    the one character whose upper case is made of hexadecimal digits. -/
def upperHex (c : Char) : List Char := if c = 'ﬀ' then ['F', 'F'] else [c.toUpper]

/-- `f"{n:0{width}d}"`. -/
def zeroPadded (width n : ℕ) : List Char :=
  List.replicate (width - (Nat.toDigits 10 n).length) '0' ++ Nat.toDigits 10 n

theorem ofDigitChars_zeroPadded (width n : ℕ) : Nat.ofDigitChars 10 (zeroPadded width n) 0 = n := by
  unfold zeroPadded
  rw [Nat.ofDigitChars_append, Nat.ofDigitChars_replicate_zero, Nat.mul_zero,
    Nat.ofDigitChars_ten_toDigits]

/-- `int(digits)`. -/
def ofDigits (digits : List Char) : ℕ :=
  digits.foldl (fun n c => 10 * n + (c.toNat - '0'.toNat)) 0

/-- The part `letter[0-9]{width}`, read as its number. -/
def taggedNumber (letter : Char) (width : ℕ) : List Char → Option ℕ
  | c :: digits =>
    if c = letter ∧ digits.length = width ∧ digits.all Char.isDigit then some (ofDigits digits)
    else none
  | [] => none

/-- `ClientOrderId.__str__`, from the parts. -/
def renderParts (strategyInstance : String) (cycle level : ℕ) (role : ClientOrderRole)
    (attempt : ℕ) (nonce : String) : List Char :=
  ['E', 'C', 'H', '-'] ++ strategyInstance.toList ++ ['-', 'C'] ++ zeroPadded 4 cycle
    ++ ['-', 'L'] ++ zeroPadded 2 level ++ ['-'] ++ role.token.toList
    ++ ['-', 'A'] ++ zeroPadded 2 attempt ++ ['-'] ++ nonce.toList

/-! ## The ids -/

structure ClientOrderId where
  strategyInstance : String
  cycle : ℕ
  level : ℕ
  role : ClientOrderRole
  attempt : ℕ
  nonce : String
  component : isComponent strategyInstance.toList
  cycle_le : cycle ≤ 9999
  level_le : level ≤ 99
  attempt_le : attempt ≤ 99
  isNonce : isNonce nonce.toList
  length_le : (renderParts strategyInstance cycle level role attempt nonce).length ≤ 36
  deriving DecidableEq, Repr

namespace ClientOrderId

/-- `ClientOrderId.__post_init__`. -/
def create (strategyInstance : String) (cycle level : ℕ) (role : ClientOrderRole) (attempt : ℕ)
    (nonce : String) : Except Failure ClientOrderId :=
  let nonce := String.ofList (nonce.toList.flatMap upperHex)
  if hi : isComponent strategyInstance.toList then
    if hc : cycle ≤ 9999 then
      if hl : level ≤ 99 then
        if ha : attempt ≤ 99 then
          if hn : CreditHedge.isNonce nonce.toList then
            if hs : (renderParts strategyInstance cycle level role attempt nonce).length ≤ 36 then
              .ok
                { strategyInstance, cycle, level, role, attempt, nonce
                  component := hi
                  cycle_le := hc
                  level_le := hl
                  attempt_le := ha
                  isNonce := hn
                  length_le := hs }
            else .error (.valueError "client order ID cannot exceed 36 characters")
          else .error (.valueError "nonce must contain 4-6 hexadecimal characters")
        else .error (.valueError "attempt must be between 0 and 99")
      else .error (.valueError "level must be between 0 and 99")
    else .error (.valueError "cycle must be between 0 and 9999")
  else .error (.valueError "strategy instance must be 1-4 alphanumeric characters")

/-- `ClientOrderId.__str__`. -/
def render (id : ClientOrderId) : String :=
  String.ofList
    (renderParts id.strategyInstance id.cycle id.level id.role id.attempt id.nonce)

/-- What `_CLIENT_ID_PATTERN.fullmatch` captures. -/
def capture (value : String) :
    Option (List Char × ℕ × ℕ × ClientOrderRole × ℕ × List Char) :=
  match value.toList.splitOn '-' with
  | [tag, strategyInstance, cycle, level, role, attempt, nonce] => do
    guard (tag = ['E', 'C', 'H'])
    guard (isComponent strategyInstance)
    let cycle ← taggedNumber 'C' 4 cycle
    let level ← taggedNumber 'L' 2 level
    let role ← ClientOrderRole.ofToken role
    let attempt ← taggedNumber 'A' 2 attempt
    guard (CreditHedge.isNonce nonce)
    pure (strategyInstance, cycle, level, role, attempt, nonce)
  | _ => none

/-- `ClientOrderId.parse`. -/
def parse (value : String) : Except Failure ClientOrderId :=
  match capture value with
  | some (strategyInstance, cycle, level, role, attempt, nonce) =>
    create (String.ofList strategyInstance) cycle level role attempt (String.ofList nonce)
  | none => .error (.valueError "invalid client order ID")

example : (parse "ECH-A-C0042-L01-ENTRY-A01-00AF").toOption.map render =
    some "ECH-A-C0042-L01-ENTRY-A01-00AF" := by decide +kernel

end ClientOrderId

/-- `_role`: the id parses and has the role. -/
def requireRole (orderLinkId : String) (expected : ClientOrderRole) : Except Failure Unit := do
  let id ← ClientOrderId.parse orderLinkId
  refuseIf (id.role ≠ expected) ("client order ID must have role " ++ expected.value)

/-- The string is an id of the strategy with this role. -/
def HasRole (orderLinkId : String) (role : ClientOrderRole) : Prop :=
  ∃ id, ClientOrderId.parse orderLinkId = .ok id ∧ id.role = role

instance (orderLinkId : String) (role : ClientOrderRole) : Decidable (HasRole orderLinkId role) :=
  match h : ClientOrderId.parse orderLinkId with
  | .ok id => decidable_of_iff (id.role = role)
      ⟨fun hrole => ⟨id, h, hrole⟩, fun ⟨id', hid', hrole⟩ => by
        rw [h] at hid'
        rwa [Except.ok.inj hid']⟩
  | .error _ => isFalse fun ⟨_, hid, _⟩ => absurd (h.symm.trans hid) (by simp)

theorem requireRole_eq_ok {orderLinkId : String} {role : ClientOrderRole} {u : Unit} :
    requireRole orderLinkId role = .ok u ↔ HasRole orderLinkId role := by
  simp only [requireRole, bind_eq_ok, refuseIf_eq_ok, not_not, HasRole]

theorem HasRole.unique {orderLinkId : String} {role role' : ClientOrderRole}
    (h : HasRole orderLinkId role) (h' : HasRole orderLinkId role') : role = role' := by
  obtain ⟨id, hid, rfl⟩ := h
  obtain ⟨id', hid', rfl⟩ := h'
  rw [hid] at hid'
  rw [Except.ok.inj hid']

end CreditHedge
