import CreditHedge.Domain.ClientOrderIds
import CreditHedge.Lib.TextEnums
import Mathlib.Logic.Function.Basic
import Mathlib.Tactic.Linarith

/-!
# Ids and their texts

`ClientOrderId.parse` and `ClientOrderId.__str__` are inverse to each other: `parse` answers with an
id exactly on the text of that id (`isPartialInv_render`).

Every part has its own lemma: which texts it is read from, and that it holds no hyphen. A number is
read from one text only because its width is fixed, so the zeros in front are determined
(`zeroPadded_ofDigits`).
-/

set_option autoImplicit false

namespace CreditHedge

/-! ## Numbers of fixed width -/

theorem isDigit_bounds {c : Char} (h : c.isDigit = true) : '0'.toNat ≤ c.toNat ∧ c.toNat ≤ 57 :=
  Char.isDigit_iff_toNat.mp h

theorem toNat_sub_lt_ten {c : Char} (h : c.isDigit = true) : c.toNat - '0'.toNat < 10 := by
  obtain ⟨hzero, hnine⟩ := isDigit_bounds h
  have : '0'.toNat = 48 := rfl
  omega

theorem ofDigits_cons (c : Char) (digits : List Char) :
    ofDigits (c :: digits) = 10 ^ digits.length * (c.toNat - '0'.toNat) + ofDigits digits := by
  have h : Nat.ofDigitChars 10 digits (c.toNat - '0'.toNat) = _ :=
    Nat.ofDigitChars_eq_ofDigitChars_zero
  simpa [ofDigits, Nat.ofDigitChars] using h

theorem ofDigits_lt {digits : List Char} (h : ∀ c ∈ digits, c.isDigit = true) :
    ofDigits digits < 10 ^ digits.length := by
  induction digits with
  | nil => simp [ofDigits]
  | cons c digits ih =>
    have hc := toNat_sub_lt_ten (h c List.mem_cons_self)
    have hrest := ih fun c' hc' => h c' (List.mem_cons_of_mem c hc')
    rw [ofDigits_cons, List.length_cons, pow_succ]
    nlinarith [Nat.mul_le_mul_left (10 ^ digits.length) (Nat.le_of_lt_succ hc)]

/-- Of two texts of one width, different ones are different numbers. -/
theorem ofDigits_inj {digits digits' : List Char} (h : ∀ c ∈ digits, c.isDigit = true)
    (h' : ∀ c ∈ digits', c.isDigit = true) (hlength : digits.length = digits'.length)
    (hvalue : ofDigits digits = ofDigits digits') : digits = digits' := by
  induction digits generalizing digits' with
  | nil => exact (List.length_eq_zero_iff.mp hlength.symm).symm
  | cons c digits ih =>
    obtain _ | ⟨c', digits'⟩ := digits'
    · cases hlength
    rw [List.forall_mem_cons] at h h'
    have hwidth : digits.length = digits'.length := Nat.succ.inj hlength
    have hlt := ofDigits_lt h.2
    have hlt' := ofDigits_lt h'.2
    rw [ofDigits_cons, ofDigits_cons, hwidth] at hvalue
    rw [hwidth] at hlt
    -- the first digits are the quotients by the power of ten, the rest are the remainders
    have hdiv := congrArg (· / 10 ^ digits'.length) hvalue
    have hmod := congrArg (· % 10 ^ digits'.length) hvalue
    simp only [Nat.mul_add_div (Nat.pow_pos (Nat.succ_pos 9)), Nat.mul_add_mod,
      Nat.div_eq_of_lt hlt, Nat.div_eq_of_lt hlt', Nat.mod_eq_of_lt hlt, Nat.mod_eq_of_lt hlt',
      Nat.add_zero] at hdiv hmod
    have hc : c = c' := by
      have hd := (isDigit_bounds h.1).1
      have hd' := (isDigit_bounds h'.1).1
      exact Char.toNat_inj.mp (by omega)
    rw [hc, ih h.2 h'.2 hwidth hmod]

theorem ofDigits_zeroPadded (width n : ℕ) : ofDigits (zeroPadded width n) = n :=
  ofDigitChars_zeroPadded width n

theorem isDigit_of_mem_zeroPadded {width n : ℕ} {c : Char} (h : c ∈ zeroPadded width n) :
    c.isDigit = true := by
  rcases List.mem_append.mp h with hzero | hdigit
  · rw [List.eq_of_mem_replicate hzero]
    rfl
  · exact Nat.isDigit_of_mem_toDigits (by decide) (by decide) hdigit

theorem length_zeroPadded {width n : ℕ} (hwidth : 0 < width) (h : n < 10 ^ width) :
    (zeroPadded width n).length = width := by
  have hle := (Nat.length_toDigits_le_iff (by decide) hwidth).mpr h
  rw [zeroPadded, List.length_append, List.length_replicate, Nat.sub_add_cancel hle]

theorem zeroPadded_ofDigits {digits : List Char} (hwidth : 0 < digits.length)
    (h : ∀ c ∈ digits, c.isDigit = true) :
    zeroPadded digits.length (ofDigits digits) = digits :=
  ofDigits_inj (fun _ hc => isDigit_of_mem_zeroPadded hc) h
    (length_zeroPadded hwidth (ofDigits_lt h)) (ofDigits_zeroPadded _ _)

theorem taggedNumber_eq_some {letter : Char} {width n : ℕ} {part : List Char}
    (hwidth : 0 < width) :
    taggedNumber letter width part = some n ↔ n < 10 ^ width ∧ part = letter :: zeroPadded width n := by
  constructor
  · intro h
    unfold taggedNumber at h
    split at h
    · rename_i c digits
      split at h
      · rename_i hread
        obtain ⟨rfl, rfl, hdigits⟩ := hread
        rw [List.all_eq_true] at hdigits
        obtain rfl := Option.some.inj h
        exact ⟨ofDigits_lt hdigits, by rw [zeroPadded_ofDigits hwidth hdigits]⟩
      · cases h
    · cases h
  · rintro ⟨hlt, rfl⟩
    have hdigits : (zeroPadded width n).all Char.isDigit = true :=
      List.all_eq_true.mpr fun c hc => isDigit_of_mem_zeroPadded hc
    rw [taggedNumber, if_pos ⟨rfl, length_zeroPadded hwidth hlt, hdigits⟩, ofDigits_zeroPadded]

/-! ## The parts -/

namespace ClientOrderRole

instance : TextEnum ClientOrderRole where
  members := [.optionLong, .optionShort, .hedgeEntry, .hedgeTp, .hedgeStop, .emergencyClose]
  value := value
  mem_members role := by cases role <;> simp
  nodup_values := by decide

theorem ofToken_eq_some {token : List Char} {role : ClientOrderRole} :
    ofToken token = some role ↔ role.token.toList = token := by
  constructor
  · intro h
    simpa using List.find?_some h
  · rintro rfl
    cases role <;> decide

theorem length_token_le (role : ClientOrderRole) : role.token.toList.length ≤ 5 := by
  cases role <;> decide

theorem hyphen_notMem_token (role : ClientOrderRole) : '-' ∉ role.token.toList := by
  cases role <;> decide

end ClientOrderRole

theorem hyphen_notMem_of_all {p : Char → Bool} (hp : p '-' = false) {part : List Char}
    (h : part.all p = true) : '-' ∉ part := by
  intro hmem
  rw [List.all_eq_true.mp h _ hmem] at hp
  cases hp

theorem hyphen_notMem_tagged {letter : Char} (h : letter ≠ '-') (width n : ℕ) :
    '-' ∉ letter :: zeroPadded width n := by
  intro hmem
  rcases List.mem_cons.mp hmem with hletter | hdigit
  · exact h hletter.symm
  · exact absurd (isDigit_of_mem_zeroPadded hdigit) (by decide)

theorem isComponent_iff {part : List Char} :
    isComponent part = true ↔ 1 ≤ part.length ∧ part.length ≤ 4 ∧ part.all Char.isAlphanum = true := by
  simp [isComponent, and_assoc]

theorem isNonce_iff {part : List Char} :
    isNonce part = true ↔ 4 ≤ part.length ∧ part.length ≤ 6 ∧ part.all isUpperHex = true := by
  simp [isNonce, and_assoc]

/-- Nothing is left to normalise in a nonce that matches. -/
theorem upperHex_of_isUpperHex {c : Char} (h : isUpperHex c = true) : upperHex c = [c] := by
  have hbounds : (48 ≤ c.toNat ∧ c.toNat ≤ 57) ∨ (65 ≤ c.toNat ∧ c.toNat ≤ 70) := by
    simpa [isUpperHex, Char.isDigit_iff_toNat, Char.le_def, UInt32.le_iff_toNat_le] using h
  have hligature : c ≠ 'ﬀ' := by
    rintro rfl
    exact absurd h (by decide)
  have hlower : ¬ (c.val ≥ 'a'.val ∧ c.val ≤ 'z'.val) := by
    rintro ⟨hle, -⟩
    have : 97 ≤ c.toNat := hle
    omega
  have hsame : c.toUpper = c := dif_neg hlower
  rw [upperHex, if_neg hligature, hsame]

theorem flatMap_upperHex {nonce : List Char} (h : isNonce nonce = true) :
    nonce.flatMap upperHex = nonce := by
  have hall := List.all_eq_true.mp (isNonce_iff.mp h).2.2
  calc nonce.flatMap upperHex = nonce.flatMap (fun c => [c]) :=
        List.flatMap_congr fun c hc => upperHex_of_isUpperHex (hall c hc)
    _ = nonce := List.flatMap_singleton' nonce

/-- The parts between the hyphens. -/
def parts (strategyInstance : List Char) (cycle level : ℕ) (role : ClientOrderRole) (attempt : ℕ)
    (nonce : List Char) : List (List Char) :=
  [['E', 'C', 'H'], strategyInstance, 'C' :: zeroPadded 4 cycle, 'L' :: zeroPadded 2 level,
    role.token.toList, 'A' :: zeroPadded 2 attempt, nonce]

theorem intercalate_parts (strategyInstance : String) (cycle level : ℕ) (role : ClientOrderRole)
    (attempt : ℕ) (nonce : String) :
    ['-'].intercalate (parts strategyInstance.toList cycle level role attempt nonce.toList) =
      renderParts strategyInstance cycle level role attempt nonce := by
  simp [parts, renderParts, List.intercalate]

theorem splitOn_parts {strategyInstance nonce : List Char}
    (hinstance : isComponent strategyInstance = true) (hnonce : isNonce nonce = true)
    (cycle level : ℕ) (role : ClientOrderRole) (attempt : ℕ) :
    (['-'].intercalate (parts strategyInstance cycle level role attempt nonce)).splitOn '-' =
      parts strategyInstance cycle level role attempt nonce := by
  refine List.splitOn_intercalate '-' ?_ (by simp [parts])
  simp only [parts, List.forall_mem_cons, List.not_mem_nil, false_implies, implies_true, and_true]
  exact ⟨by decide, hyphen_notMem_of_all (by decide) (isComponent_iff.mp hinstance).2.2,
    hyphen_notMem_tagged (by decide) 4 cycle, hyphen_notMem_tagged (by decide) 2 level,
    role.hyphen_notMem_token, hyphen_notMem_tagged (by decide) 2 attempt,
    hyphen_notMem_of_all (by decide) (isNonce_iff.mp hnonce).2.2⟩

/-- The longest text has a component of four characters, the token `ENTRY` and a nonce of six. -/
theorem length_renderParts_le {strategyInstance nonce : String} {cycle level attempt : ℕ}
    (hinstance : isComponent strategyInstance.toList = true) (hcycle : cycle ≤ 9999)
    (hlevel : level ≤ 99) (hattempt : attempt ≤ 99) (hnonce : isNonce nonce.toList = true)
    (role : ClientOrderRole) :
    (renderParts strategyInstance cycle level role attempt nonce).length ≤ 35 := by
  have hc : (zeroPadded 4 cycle).length = 4 :=
    length_zeroPadded (by decide) (Nat.lt_succ_of_le hcycle)
  have hl : (zeroPadded 2 level).length = 2 :=
    length_zeroPadded (by decide) (Nat.lt_succ_of_le hlevel)
  have ha : (zeroPadded 2 attempt).length = 2 :=
    length_zeroPadded (by decide) (Nat.lt_succ_of_le hattempt)
  have hi := (isComponent_iff.mp hinstance).2.1
  have hn := (isNonce_iff.mp hnonce).2.1
  have hr := role.length_token_le
  simp only [renderParts, List.length_append, List.length_cons, List.length_nil, hc, hl, ha]
  omega

/-! ## Reading and writing -/

namespace ClientOrderId

theorem capture_eq_some {value : String} {strategyInstance nonce : List Char}
    {cycle level attempt : ℕ} {role : ClientOrderRole} :
    capture value = some (strategyInstance, cycle, level, role, attempt, nonce) ↔
      isComponent strategyInstance = true ∧ cycle ≤ 9999 ∧ level ≤ 99 ∧ attempt ≤ 99 ∧
        CreditHedge.isNonce nonce = true ∧
        value.toList = ['-'].intercalate (parts strategyInstance cycle level role attempt nonce) := by
  constructor
  · intro h
    unfold capture at h
    split at h
    · rename_i tag instancePart cyclePart levelPart rolePart attemptPart noncePart hsplit
      simp only [Option.bind_eq_bind, Option.bind_eq_some_iff, Option.guard_eq_some'] at h
      obtain ⟨-, htag, -, hinstance, c, hc, l, hl, r, hr, a, ha, -, hnonce, hall⟩ := h
      cases hall
      obtain ⟨hcycle, rfl⟩ := (taggedNumber_eq_some (by decide)).mp hc
      obtain ⟨hlevel, rfl⟩ := (taggedNumber_eq_some (by decide)).mp hl
      obtain ⟨hattempt, rfl⟩ := (taggedNumber_eq_some (by decide)).mp ha
      obtain rfl := ClientOrderRole.ofToken_eq_some.mp hr
      refine ⟨hinstance, Nat.le_of_lt_succ hcycle, Nat.le_of_lt_succ hlevel,
        Nat.le_of_lt_succ hattempt, hnonce, ?_⟩
      rw [parts, ← htag, ← hsplit, List.intercalate_splitOn]
    · cases h
  · rintro ⟨hinstance, hcycle, hlevel, hattempt, hnonce, hvalue⟩
    have hc : taggedNumber 'C' 4 ('C' :: zeroPadded 4 cycle) = some cycle :=
      (taggedNumber_eq_some (by decide)).mpr ⟨Nat.lt_succ_of_le hcycle, rfl⟩
    have hl : taggedNumber 'L' 2 ('L' :: zeroPadded 2 level) = some level :=
      (taggedNumber_eq_some (by decide)).mpr ⟨Nat.lt_succ_of_le hlevel, rfl⟩
    have ha : taggedNumber 'A' 2 ('A' :: zeroPadded 2 attempt) = some attempt :=
      (taggedNumber_eq_some (by decide)).mpr ⟨Nat.lt_succ_of_le hattempt, rfl⟩
    have hr : ClientOrderRole.ofToken role.token.toList = some role :=
      ClientOrderRole.ofToken_eq_some.mpr rfl
    rw [capture, hvalue, splitOn_parts hinstance hnonce]
    simp only [parts, hc, hl, ha, hr, hinstance, hnonce]
    rfl

theorem create_eq_ok {strategyInstance nonce : String} {cycle level attempt : ℕ}
    {role : ClientOrderRole} {id : ClientOrderId} :
    create strategyInstance cycle level role attempt nonce = .ok id ↔
      id.strategyInstance = strategyInstance ∧ id.cycle = cycle ∧ id.level = level ∧
        id.role = role ∧ id.attempt = attempt ∧
        id.nonce = String.ofList (nonce.toList.flatMap upperHex) := by
  constructor
  · intro h
    simp only [create] at h
    split_ifs at h
    cases h
    simp
  · obtain ⟨i, c, l, r, a, n, hinstance, hcycle, hlevel, hattempt, hnonce, hlength⟩ := id
    rintro ⟨rfl, rfl, rfl, rfl, rfl, hn⟩
    simp only at hn
    subst hn
    rw [create, dif_pos hinstance, dif_pos hcycle, dif_pos hlevel, dif_pos hattempt,
      dif_pos hnonce, dif_pos hlength]

/-- The check of the length refuses nothing that passed the others. -/
theorem create_ne_tooLong (strategyInstance : String) (cycle level : ℕ) (role : ClientOrderRole)
    (attempt : ℕ) (nonce : String) :
    create strategyInstance cycle level role attempt nonce ≠
      .error (.valueError "client order ID cannot exceed 36 characters") := by
  simp only [create]
  split_ifs with hinstance hcycle hlevel hattempt hnonce hlength
  all_goals simp
  exact hlength ((length_renderParts_le hinstance hcycle hlevel hattempt hnonce role).trans
    (by decide))

theorem upper_nonce (id : ClientOrderId) :
    String.ofList (id.nonce.toList.flatMap upperHex) = id.nonce := by
  rw [flatMap_upperHex id.isNonce, String.ofList_toList]

theorem parse_render (id : ClientOrderId) : parse id.render = .ok id := by
  have hcapture : capture id.render =
      some (id.strategyInstance.toList, id.cycle, id.level, id.role, id.attempt,
        id.nonce.toList) := by
    refine capture_eq_some.mpr ⟨id.component, id.cycle_le, id.level_le, id.attempt_le,
      id.isNonce, ?_⟩
    rw [render, String.toList_ofList, intercalate_parts]
  rw [parse, hcapture]
  simp only [String.ofList_toList]
  exact create_eq_ok.mpr ⟨rfl, rfl, rfl, rfl, rfl, id.upper_nonce.symm⟩

theorem render_of_parse {value : String} {id : ClientOrderId} (h : parse value = .ok id) :
    id.render = value := by
  unfold parse at h
  split at h
  · rename_i i c l r a n hcapture
    obtain ⟨-, -, -, -, hnonce, hvalue⟩ := capture_eq_some.mp hcapture
    obtain ⟨hi, rfl, rfl, rfl, rfl, hn⟩ := create_eq_ok.mp h
    rw [String.toList_ofList, flatMap_upperHex hnonce] at hn
    rw [render, hi, hn, ← intercalate_parts, String.toList_ofList, String.toList_ofList, ← hvalue,
      String.ofList_toList]
  · cases h

/-- What `parse` answers with is the id whose text it was given. -/
theorem isPartialInv_render :
    Function.IsPartialInv render fun value => (parse value).toOption := by
  intro id value
  show (parse value).toOption = some id ↔ id.render = value
  constructor
  · intro h
    cases hparse : parse value with
    | ok id' =>
      rw [hparse] at h
      cases h
      exact render_of_parse hparse
    | error failure =>
      rw [hparse] at h
      cases h
  · rintro rfl
    rw [parse_render]
    rfl

theorem render_injective : Function.Injective render :=
  isPartialInv_render.injective

theorem length_render_le (id : ClientOrderId) : id.render.length ≤ 35 := by
  rw [render, String.length_ofList]
  exact length_renderParts_le id.component id.cycle_le id.level_le id.attempt_le id.isNonce id.role

end ClientOrderId

/-! ## The constructor -/

/-- `_bounded_integer`. -/
def boundedInteger (value : ℤ) (maximum : ℕ) (fieldName : String) : Except Failure Unit :=
  refuseIf (¬ (0 ≤ value ∧ value ≤ maximum))
    (fieldName ++ " must be between 0 and " ++ toString maximum)

/-- `ClientOrderId(...)`, on any integers and any text for the role. -/
def ClientOrderId.construct (strategyInstance : String) (cycle level : ℤ) (role : String)
    (attempt : ℤ) (nonce : String) : Except Failure ClientOrderId := do
  refuseIf (¬ isComponent strategyInstance.toList)
    "strategy instance must be 1-4 alphanumeric characters"
  boundedInteger cycle 9999 "cycle"
  boundedInteger level 99 "level"
  boundedInteger attempt 99 "attempt"
  match TextEnum.ofValue role with
  | some role =>
    ClientOrderId.create strategyInstance cycle.toNat level.toNat role attempt.toNat nonce
  | none => .error (.valueError "unknown client order role")

/-- The constructor makes every id: from its own fields. -/
theorem ClientOrderId.construct_fields (id : ClientOrderId) :
    ClientOrderId.construct id.strategyInstance id.cycle id.level id.role.value id.attempt
      id.nonce = .ok id := by
  have hcycle := id.cycle_le
  have hlevel := id.level_le
  have hattempt := id.attempt_le
  have hrole : TextEnum.ofValue id.role.value = some id.role := TextEnum.ofValue_value id.role
  have hcreate : create id.strategyInstance id.cycle id.level id.role id.attempt id.nonce =
      .ok id := create_eq_ok.mpr ⟨rfl, rfl, rfl, rfl, rfl, id.upper_nonce.symm⟩
  unfold construct boundedInteger refuseIf
  rw [if_neg (by simp [id.component]), if_neg (by omega), if_neg (by omega), if_neg (by omega)]
  simp only [ok_bind, hrole, Int.toNat_natCast, hcreate]

theorem refuseIf_bind_ne {α : Type} {condition : Prop} [Decidable condition] {message : String}
    {next : Unit → Except Failure α} {failure : Failure}
    (hmessage : Failure.valueError message ≠ failure) (hnext : next () ≠ .error failure) :
    (refuseIf condition message >>= next) ≠ .error failure := by
  unfold refuseIf
  split
  · exact fun h => hmessage (Except.error.inj h)
  · exact hnext

theorem ClientOrderId.construct_ne_tooLong (strategyInstance : String) (cycle level : ℤ)
    (role : String) (attempt : ℤ) (nonce : String) :
    ClientOrderId.construct strategyInstance cycle level role attempt nonce ≠
      .error (.valueError "client order ID cannot exceed 36 characters") := by
  unfold construct boundedInteger
  refine refuseIf_bind_ne (by decide) ?_
  iterate 3 refine refuseIf_bind_ne (by decide +kernel) ?_
  split
  · exact create_ne_tooLong _ _ _ _ _ _
  · decide

theorem ids_faithful (strategyInstance : String) (cycle level : ℤ) (role : String) (attempt : ℤ)
    (nonce value : String) (id id' : ClientOrderId) :
    (ClientOrderId.construct strategyInstance cycle level role attempt nonce = .ok id →
      ClientOrderId.parse id.render = .ok id ∧ id.render.length ≤ 36) ∧
    ClientOrderId.construct strategyInstance cycle level role attempt nonce ≠
      .error (.valueError "client order ID cannot exceed 36 characters") ∧
    (ClientOrderId.parse value = .ok id → id.render = value) ∧
    (id.strategyInstance ≠ id'.strategyInstance ∨ id.cycle ≠ id'.cycle ∨ id.level ≠ id'.level ∨
      id.role ≠ id'.role ∨ id.attempt ≠ id'.attempt ∨ id.nonce ≠ id'.nonce →
      id.render ≠ id'.render) := by
  refine ⟨fun _ => ⟨id.parse_render, id.length_render_le.trans (by decide)⟩,
    ClientOrderId.construct_ne_tooLong _ _ _ _ _ _, ClientOrderId.render_of_parse, ?_⟩
  intro hdiffer hsame
  obtain rfl := ClientOrderId.render_injective hsame
  simp at hdiffer

end CreditHedge
