import CreditHedge.Core.StopBudget

/-!
# The frontier

A path that starts at or above the short strike arms every level with its first price, and from
then on the levels open strictly in order: everything above a level that has been opened is gone
for good (`Frontier`). So there is one level that matters, the first that is not gone. The levels
above it are paid (or locked), those below it are ready, and at most it itself is open.

With that the books are simple (`Balanced`). The realised P&L is what the paid levels collected
less the debt still owed, the debt is at most the gross losses, and losses and open risk together
stay within the premium. Off a locked level this is enough for the combined P&L never to be
negative (`Frontier.combinedPnl_nonneg`).
-/

set_option autoImplicit false

namespace CreditHedge

structure Frontier (levels : List HedgeLevel) : Prop where
  armed : ∀ x ∈ levels, x.state = .ready → x.entryArmed = true
  above : ∀ x ∈ levels, ∀ y ∈ levels, x.levelId < y.levelId → y.state ≠ .ready → x.Retired

variable {config : StrategyConfig} {spread : CreditSpread} {levels : List HedgeLevel}
  {level : HedgeLevel} {s t : EngineState} {e : CrossingEvent} {tickIndex : ℕ} {p q : ℚ}

namespace Frontier

theorem passes (h : Frontier s.levels) (hp : Passes config spread tickIndex s e t) :
    Frontier t.levels := by
  obtain ⟨g, hlevels, hzone, hother, x₀, hx₀, hid, hturn⟩ := hp.crosses.turns
  have hsame : ∀ x ∈ s.levels, x ≠ x₀ → SameStatus x (g x) := fun x hx hne =>
    hother x hx fun hxid => hne (hp.sound.ladder.eq_of_levelId_eq hx hx₀ (hxid.trans hid.symm))
  -- A level gone for good is not the one that turns.
  have hretired : ∀ x ∈ s.levels, x.Retired → (g x).Retired := by
    intro x hx hr
    have hne : x ≠ x₀ := by
      rintro rfl
      cases hturn with
      | opened ready => exact hr.not_ready ready
      | lockedOut ready => exact hr.not_ready ready
      | paid active => exact hr.not_active active
      | stoppedOut active => exact hr.not_active active
      | brokeEven active => exact hr.not_active active
    unfold HedgeLevel.Retired at hr ⊢
    rw [(hsame x hx hne).state]
    exact hr
  rw [hlevels]
  refine ⟨List.forall_mem_map.mpr fun x hx hready => ?_,
    List.forall_mem_map.mpr fun x hx => List.forall_mem_map.mpr fun y hy hlt hne => ?_⟩
  · by_cases hx0 : x = x₀
    · subst hx0
      cases hturn with
      | opened _ _ state _ => rw [state] at hready; exact absurd hready (by simp)
      | lockedOut _ _ state _ => rw [state] at hready; exact absurd hready (by simp)
      | paid _ state _ => rw [state] at hready; exact absurd hready (by simp)
      | stoppedOut _ _ _ entryArmed => exact entryArmed
      | brokeEven _ _ _ entryArmed => exact entryArmed
    · have hst := hsame x hx hx0
      rw [hst.state] at hready
      rw [hst.entryArmed]
      exact h.armed x hx hready
  · rw [(hzone x hx).levelId, (hzone y hy).levelId] at hlt
    refine hretired x hx ?_
    by_cases hy0 : y = x₀
    · subst hy0
      by_cases hready : y.state = .ready
      · have hentry : e.eventType = .entry := by
          cases hturn with
          | opened => rfl
          | lockedOut => rfl
          | paid active => exact absurd (active.symm.trans hready) (by simp)
          | stoppedOut active => exact absurd (active.symm.trans hready) (by simp)
          | brokeEven active => exact absurd (active.symm.trans hready) (by simp)
        rcases (hp.crosses.entry_spec hp.sound hentry hy hid).2 x hx hlt with hf | hr
        · exact absurd (h.armed x hx hf.1) (by simp [hf.2])
        · exact hr
      · exact h.above x hx y hy hlt hready
    · rw [(hsame y hy hy0).state] at hne
      exact h.above x hx y hy hlt hne

theorem arm (h : Frontier levels) (price : ℚ) :
    Frontier (levels.map (HedgeLevel.armedAt · price)) := by
  refine ⟨List.forall_mem_map.mpr fun x hx hready => ?_,
    List.forall_mem_map.mpr fun x hx => List.forall_mem_map.mpr fun y hy hlt hne => ?_⟩
  · rw [HedgeLevel.armedAt_state] at hready
    exact (HedgeLevel.armedAt_entryArmed x price).mpr (Or.inl (h.armed x hx hready))
  · rw [(SameZone.armedAt price).levelId, (SameZone.armedAt price).levelId] at hlt
    rw [HedgeLevel.armedAt_state] at hne
    unfold HedgeLevel.Retired
    rw [HedgeLevel.armedAt_state]
    exact h.above x hx y hy hlt hne

/-- The first price arms every level. -/
theorem started (h : spread.shortPutStrike ≤ p) :
    Frontier ((initialState config spread).closedAt p).levels := by
  have hladder : Ladder config spread (initialState config spread).levels := Ladder.generated
  refine ⟨List.forall_mem_map.mpr fun x hx _ => ?_,
    List.forall_mem_map.mpr fun x hx => List.forall_mem_map.mpr fun y hy _ hne => ?_⟩
  · refine (HedgeLevel.armedAt_entryArmed x p).mpr (Or.inr ⟨?_, ?_⟩)
    · obtain ⟨index, -, rfl⟩ := List.mem_map.mp hx
      rfl
    · exact (hladder.entryPrice_le_short hx).trans h
  · obtain ⟨index, -, rfl⟩ := List.mem_map.mp hy
    exact absurd (HedgeLevel.armedAt_state _ p) hne

/-- When a ready level is next, no hedge is open, so every entry is covered. -/
theorem covered (h : Frontier s.levels) (hp : Passes config spread tickIndex s e t) :
    Covered config spread s e := by
  intro level hl he hafford
  obtain ⟨hready, habove⟩ := hp.crosses.entry_spec hp.sound (x := level) (by rw [he]; rfl) hl
    (by rw [he]; rfl)
  have hrisk : openRisk s.levels = 0 := by
    unfold openRisk
    refine List.sum_eq_zero fun r hr => ?_
    obtain ⟨x, hx, rfl⟩ := List.mem_map.mp hr
    refine if_neg fun hact => ?_
    rcases lt_trichotomy x.levelId level.levelId with hlt | heq | hgt
    · rcases habove x hx hlt with hf | hret
      · exact absurd (hf.1.symm.trans hact.1) (by simp)
      · exact hret.not_active hact.1
    · obtain rfl := hp.sound.ladder.eq_of_levelId_eq hx hl heq
      exact absurd (hready.symm.trans hact.1) (by simp)
    · exact (h.above level hl x hx hgt (by simp [hact.1])).not_ready hready
  unfold Refused at hafford
  rw [hrisk, add_zero]
  exact not_lt.mp hafford

end Frontier

/-! ## The books on the frontier -/

structure Balanced (spread : CreditSpread) (s : EngineState) : Prop where
  realized_eq : s.ledger.realizedHedgePnl = collected s.levels - Ledger.outstandingDebt s.levels
  debt_le : Ledger.outstandingDebt s.levels ≤ s.ledger.grossStopLosses
  budget : WithinBudget spread s

structure OnFrontier (spread : CreditSpread) (s : EngineState) : Prop where
  frontier : Frontier s.levels
  balanced : Balanced spread s

theorem OnFrontier.passes (h : OnFrontier spread s) (hp : Passes config spread tickIndex s e t) :
    OnFrontier spread t := by
  obtain ⟨paid, repaid, lost, taken, shed, hposts, -⟩ := hp.crosses.posts hp.sound
  have hreal := h.balanced.realized_eq
  have hdebt := h.balanced.debt_le
  have hrepaid := hposts.repaid_nonneg
  refine ⟨h.frontier.passes hp, ?_, ?_, h.balanced.budget.passes (h.frontier.covered hp) hp⟩
  · rw [hposts.realized, hposts.collected, hposts.debt]
    linarith
  · rw [hposts.debt, hposts.gross]
    linarith

theorem OnFrontier.closedAt (h : OnFrontier spread s) (q : ℚ) :
    OnFrontier spread (s.closedAt q) := by
  refine ⟨h.frontier.arm q, ?_, ?_, ?_⟩
  · rw [collected_closedAt, outstandingDebt_closedAt]
    exact h.balanced.realized_eq
  · rw [outstandingDebt_closedAt]
    exact h.balanced.debt_le
  · exact h.balanced.budget.closedAt q

theorem OnFrontier.started (config : StrategyConfig) (h : spread.shortPutStrike ≤ p) :
    OnFrontier spread ((initialState config spread).closedAt p) := by
  refine ⟨Frontier.started h, ?_, ?_, WithinBudget.started⟩
  · rw [collected_closedAt, outstandingDebt_closedAt, totals_initial.1, totals_initial.2.1]
    exact (sub_zero 0).symm
  · rw [outstandingDebt_closedAt, totals_initial.2.1]
    rfl

/-! ## The level at the frontier -/

/-- Off locked levels, either every level is paid, or there is a first level that is not: it is
    ready or open, everything above it is paid and everything below it is ready. -/
theorem Frontier.split (h : Frontier levels) (hunlocked : ∀ x ∈ levels, x.state ≠ .locked) :
    (∀ x ∈ levels, x.state = .paid) ∨
    ∃ m ∈ levels, m.state ≠ .paid ∧ (∀ x ∈ levels, x.levelId < m.levelId → x.state = .paid) ∧
      ∀ x ∈ levels, m.levelId < x.levelId → x.state = .ready := by
  by_cases hall : ∀ x ∈ levels, x.state = .paid
  · exact Or.inl hall
  · push Not at hall
    obtain ⟨x, hx, hne⟩ := hall
    have hex : ∃ k, ∃ m ∈ levels, m.levelId = k ∧ m.state ≠ .paid := ⟨_, x, hx, rfl, hne⟩
    obtain ⟨m, hm, hid, hmne⟩ := Nat.find_spec hex
    refine Or.inr ⟨m, hm, hmne, fun y hy hlt => ?_, fun y hy hlt => ?_⟩
    · by_contra hyne
      exact Nat.find_min hex (hid ▸ hlt) ⟨y, hy, rfl, hyne⟩
    · by_contra hyne
      rcases h.above m hm y hy hlt hyne with hr | hr
      · exact hmne hr
      · exact hunlocked m hm hr

/-- The levels above the frontier have collected what the spread has lost down to its entry. -/
theorem Sound.collected_above (hs : Sound config spread levels) {m : HedgeLevel} (hm : m ∈ levels)
    (hne : m.state ≠ .paid) (habove : ∀ x ∈ levels, x.levelId < m.levelId → x.state = .paid)
    (hbelow : ∀ x ∈ levels, m.levelId < x.levelId → x.state = .ready) :
    collected levels = spread.optionQuantity * (spread.shortPutStrike - m.entryPrice) := by
  have hpos := hs.ladder.levelId_pos hm
  have hlen : m.levelId - 1 ≤ levels.length := by
    have := hs.ladder.numbered.key_le_length hm
    omega
  have hmap : levels.map HedgeLevel.paidBudget = levels.map fun x =>
      if x.levelId ≤ m.levelId - 1 then
        spread.optionQuantity * zoneWidth spread config.levelCount
      else 0 := by
    refine List.map_congr_left fun x hx => ?_
    unfold HedgeLevel.paidBudget
    rcases lt_trichotomy x.levelId m.levelId with hlt | heq | hgt
    · rw [if_pos (habove x hx hlt), if_pos (by omega), hs.ladder.optionBudget_eq x hx]
    · obtain rfl := hs.ladder.eq_of_levelId_eq hx hm heq
      rw [if_neg hne, if_neg (by omega)]
    · rw [if_neg (by rw [hbelow x hx hgt]; simp), if_neg (by omega)]
  unfold collected
  rw [hmap, hs.ladder.numbered.sum_map_before _ hlen, hs.ladder.entryPrice_eq m hm, nsmul_eq_mul,
    Nat.cast_sub hpos]
  push_cast
  ring

/-- With every level paid, they have collected the whole width of the spread. -/
theorem Sound.collected_all (hs : Sound config spread levels)
    (hall : ∀ x ∈ levels, x.state = .paid) :
    collected levels =
      spread.optionQuantity * (spread.shortPutStrike - spread.longPutStrike) := by
  have hmap : levels.map HedgeLevel.paidBudget = levels.map fun x =>
      if x.levelId ≤ levels.length then
        spread.optionQuantity * zoneWidth spread config.levelCount
      else 0 := by
    refine List.map_congr_left fun x hx => ?_
    unfold HedgeLevel.paidBudget
    rw [if_pos (hall x hx), if_pos (hs.ladder.numbered.key_le_length hx),
      hs.ladder.optionBudget_eq x hx]
  have hn : (config.levelCount : ℚ) ≠ 0 := by exact_mod_cast config.levelCount_pos.ne'
  unfold collected
  rw [hmap, hs.ladder.numbered.sum_map_before _ le_rfl, hs.ladder.length_eq, nsmul_eq_mul]
  simp only [zoneWidth]
  field_simp

/-! ## Open P&L -/

theorem openHedgePnl_eq (price : ℚ) : ∀ levels : List HedgeLevel,
    Ledger.openHedgePnl levels price = (levels.map fun x =>
      if x.state = .active then x.activeQuantity * (x.entryPrice - price) else 0).sum
  | [] => rfl
  | x :: levels => by
    have ih := openHedgePnl_eq price levels
    unfold Ledger.openHedgePnl at ih ⊢
    rw [List.map_cons, List.sum_cons, ← ih]
    by_cases hact : x.state = .active
    · rw [List.filter_cons_of_pos (by simp [hact]), List.map_cons, List.sum_cons, if_pos hact]
    · rw [List.filter_cons_of_neg (by simp [hact]), if_neg hact, zero_add]

theorem openHedgePnl_eq_zero {price : ℚ} (h : ∀ x ∈ levels, x.state ≠ .active) :
    Ledger.openHedgePnl levels price = 0 := by
  rw [openHedgePnl_eq]
  refine List.sum_eq_zero fun v hv => ?_
  obtain ⟨x, hx, rfl⟩ := List.mem_map.mp hv
  exact if_neg (h x hx)

theorem Sound.openHedgePnl_eq_single (hs : Sound config spread levels) {m : HedgeLevel}
    (hm : m ∈ levels) (hact : m.state = .active) {price : ℚ}
    (hother : ∀ x ∈ levels, x.levelId ≠ m.levelId → x.state ≠ .active) :
    Ledger.openHedgePnl levels price = m.activeQuantity * (m.entryPrice - price) := by
  rw [openHedgePnl_eq, hs.ladder.numbered.sum_map_eq_single hm
    (fun x hx hne => if_neg (hother x hx hne)), if_pos hact]

/-- An open hedge is at least as large as the option position. -/
theorem Sound.optionQuantity_le (hs : Sound config spread levels) {m : HedgeLevel}
    (hm : m ∈ levels) (hact : m.state = .active) : spread.optionQuantity ≤ m.activeQuantity := by
  have hw := zoneWidth_pos spread config.levelCount_pos
  have hmul := (hs.level m hm).quantity_mul hact
  have halloc := (hs.claims m hm hact).allocated_nonneg hs
  rw [hs.ladder.tpDistance_eq hm, hs.ladder.optionBudget_eq m hm] at hmul
  refine le_of_mul_le_mul_right ?_ hw
  linarith

/-- **The hedge never loses money off a locked level.** Above its entry, the level at the frontier
    risks no more than the premium has left; inside its zone, the hedge covers the option. -/
theorem OnFrontier.combinedPnl_nonneg (h : OnFrontier spread s)
    (hs : Sound config spread s.levels) (hunlocked : ∀ x ∈ s.levels, x.state ≠ .locked)
    {price : ℚ} (hpos : ∀ x ∈ s.levels, Positioned price x) :
    0 ≤ s.ledger.combinedPnl spread s.levels price := by
  have hdebt := h.balanced.debt_le
  have hbudget := h.balanced.budget
  have hrisk := hs.openRisk_nonneg
  unfold WithinBudget at hbudget
  unfold Ledger.combinedPnl
  rw [h.balanced.realized_eq]
  rcases h.frontier.split hunlocked with hall | ⟨m, hm, hne, habove, hbelow⟩
  · have hspread := spread.neg_maxLoss_le_expiryPnl price
    rw [hs.collected_all hall, openHedgePnl_eq_zero fun x hx => by simp [hall x hx]]
    unfold CreditSpread.maxLoss at hspread
    linarith
  · have hother : ∀ x ∈ s.levels, x.levelId ≠ m.levelId → x.state ≠ .active := by
      intro x hx hid
      rcases lt_or_gt_of_ne hid with hlt | hgt
      · simp [habove x hx hlt]
      · simp [hbelow x hx hgt]
    have hentry := hs.ladder.entryPrice_le_short hm
    have hlong : spread.longPutStrike ≤ m.entryPrice :=
      (hs.ladder.long_le_tpPrice hm).trans (hs.ladder.tpPrice_lt_entryPrice hm).le
    rw [hs.collected_above hm hne habove hbelow]
    cases hstate : m.state with
    | paid => exact absurd hstate hne
    | locked => exact absurd hstate (hunlocked m hm)
    | ready =>
      have hle := (hpos m hm).entry_le hstate (h.frontier.armed m hm hstate)
      have hspread := spread.le_expiryPnl hle hlong hentry
      rw [openHedgePnl_eq_zero fun x hx => by
        by_cases hid : x.levelId = m.levelId
        · rw [hs.ladder.eq_of_levelId_eq hx hm hid, hstate]
          simp
        · exact hother x hx hid]
      linarith
    | active =>
      rw [hs.openHedgePnl_eq_single hm hstate hother]
      rcases le_total m.entryPrice price with hle | hle
      · -- Above the entry a fixed hedge loses at most its projected loss; a floor hedge is at it.
        have hspread := spread.le_expiryPnl hle hlong hentry
        cases hfl : m.activeIsFloor with
        | false =>
          have hstop := (hpos m hm).le_stop hstate hfl
          have hfixed : m.fixedRisk = m.stopLoss := if_pos ⟨hstate, hfl⟩
          have hsingle : m.fixedRisk ≤ openRisk s.levels :=
            Table.le_sum_map hm fun x hx => hs.fixedRisk_nonneg hx
          have hloss : m.activeQuantity * (price - m.entryPrice) ≤ m.stopLoss :=
            mul_le_mul_of_nonneg_left (by simp only [HedgeLevel.stopDistance]; linarith)
              ((hs.level m hm).quantity_pos hstate).le
          rw [hfixed] at hsingle
          linarith
        | true =>
          have heq : price = m.entryPrice := le_antisymm ((hpos m hm).le_entry hstate hfl) hle
          rw [heq] at hspread ⊢
          linarith
      · -- Inside the zone the hedge gains at least what the option loses.
        have htp := (hpos m hm).tp_le hstate
        have hspread := spread.le_expiryPnl (le_refl price)
          ((hs.ladder.long_le_tpPrice hm).trans htp) (hle.trans hentry)
        have hcover := mul_le_mul_of_nonneg_right (hs.optionQuantity_le hm hstate)
          (sub_nonneg.mpr hle)
        linarith

end CreditHedge
