import CreditHedge.Core.Crossings

/-!
# Crossings keep the state sound

First what each mutation keeps of the level it is applied to (`LevelSound`), then what each
crossing keeps of the list (`Crosses.sound`), and the same for the arming at the end of a tick and
for the freshly generated levels.
-/

set_option autoImplicit false

namespace CreditHedge

variable {config : StrategyConfig} {spread : CreditSpread} {levels : List HedgeLevel}
  {level : HedgeLevel}

/-! ## What the mutations keep of a level -/

namespace LevelSound

variable {level source : HedgeLevel}

theorem lockedOut (h : LevelSound config level) (ready : level.state = .ready) :
    LevelSound config level.lockedOut where
  quantity_pos := fun hs => absurd hs (by simp [HedgeLevel.lockedOut])
  quantity_mul := fun hs => absurd hs (by simp [HedgeLevel.lockedOut])
  idle := fun _ => h.idle (by simp [ready])
  debt_nonneg := h.debt_nonneg
  tps_nonneg := h.tps_nonneg
  tps_pos_iff := h.tps_pos_iff
  fresh_debt := fun hf => absurd hf.1 (by simp [HedgeLevel.lockedOut])

theorem paidOut (h : LevelSound config level) (profit : ℚ) :
    LevelSound config (level.paidOut profit) where
  quantity_pos := fun hs => absurd hs (by simp [HedgeLevel.paidOut])
  quantity_mul := fun hs => absurd hs (by simp [HedgeLevel.paidOut])
  idle := fun _ => ⟨rfl, rfl, rfl⟩
  debt_nonneg := h.debt_nonneg
  tps_nonneg := h.tps_nonneg
  tps_pos_iff := h.tps_pos_iff
  fresh_debt := fun hf => absurd hf.1 (by simp [HedgeLevel.paidOut])

theorem brokenEven (h : LevelSound config level) : LevelSound config level.brokenEven where
  quantity_pos := fun hs => absurd hs (by simp [HedgeLevel.brokenEven])
  quantity_mul := fun hs => absurd hs (by simp [HedgeLevel.brokenEven])
  idle := fun _ => ⟨rfl, rfl, rfl⟩
  debt_nonneg := h.debt_nonneg
  tps_nonneg := h.tps_nonneg
  tps_pos_iff := h.tps_pos_iff
  fresh_debt := fun hf => absurd hf.2 (by simp [HedgeLevel.brokenEven])

/-- A stop leaves a debt, and with it take-profits to recover it over. -/
theorem stopped (h : LevelSound config level) (fixed : level.activeIsFloor = false) {loss : ℚ}
    (hloss : 0 < loss) : LevelSound config (level.stopped config loss) where
  quantity_pos := fun hs => absurd hs (by simp [HedgeLevel.stopped])
  quantity_mul := fun hs => absurd hs (by simp [HedgeLevel.stopped])
  idle := fun _ => ⟨rfl, rfl, fixed⟩
  debt_nonneg := add_nonneg h.debt_nonneg hloss.le
  tps_nonneg := by
    unfold HedgeLevel.stopped
    have := h.tps_nonneg
    dsimp only
    split <;> omega
  tps_pos_iff := by
    intro hm
    have hdebt : 0 < level.recoveryDebt + loss := add_pos_of_nonneg_of_pos h.debt_nonneg hloss
    have hcount := config.recoveryTpCount_pos
    have htps := h.tps_nonneg
    refine ⟨fun _ => ?_, fun _ => hdebt⟩
    simp only [HedgeLevel.stopped, hm, true_and]
    split <;> omega
  fresh_debt := fun hf => absurd hf.2 (by simp [HedgeLevel.stopped])

/-- Repaying one share keeps debt and remaining take-profits in step: an equal part of the debt
    goes with each of them. -/
theorem repaid (h : LevelSound config source) (hpos : 0 < source.recoveryDebt) :
    LevelSound config (source.repaid config (recoveryShare config source)) where
  quantity_pos := h.quantity_pos
  quantity_mul := h.quantity_mul
  idle := h.idle
  debt_nonneg := sub_nonneg.mpr recoveryShare_le
  tps_nonneg := by
    have htps := h.tps_nonneg
    simp only [HedgeLevel.repaid]
    split
    · rename_i hm
      have := (h.tps_pos_iff hm).mp hpos
      split <;> omega
    · exact htps
  tps_pos_iff := by
    intro hm
    have htps := (h.tps_pos_iff hm).mp hpos
    have hshare := recoveryShare_distributed hm h hpos
    have hsharepos := recoveryShare_pos h hpos
    have hrest : source.recoveryDebt - recoveryShare config source =
        recoveryShare config source * ((source.recoveryTpsRemaining - 1 : ℤ) : ℚ) := by
      rw [← hshare]
      push_cast
      ring
    simp only [HedgeLevel.repaid, hm, if_true]
    split
    · rename_i hzero
      simp [hzero]
    · rename_i hne
      rw [hrest] at hne ⊢
      rw [mul_pos_iff_of_pos_left hsharepos]
      exact_mod_cast Iff.rfl
  fresh_debt := fun hf => absurd (h.fresh_debt hf) hpos.ne'

theorem opening (hs : Sound config spread levels) (hl : level ∈ levels)
    (htarget : 0 ≤ ((HedgeEngine.recoveryAllocationsFor config levels level).map Prod.snd).sum)
    (isFloor : Bool) : LevelSound config (level.opening config levels isFloor) where
  quantity_pos := fun _ => div_pos
    (add_pos_of_pos_of_nonneg (hs.ladder.optionBudget_pos hl) htarget) (hs.ladder.tpDistance_pos hl)
  quantity_mul := fun _ => div_mul_cancel₀ _ (hs.ladder.tpDistance_pos hl).ne'
  idle := fun hne => absurd rfl hne
  debt_nonneg := (hs.level level hl).debt_nonneg
  tps_nonneg := (hs.level level hl).tps_nonneg
  tps_pos_iff := (hs.level level hl).tps_pos_iff
  fresh_debt := fun hf => absurd hf.1 (by simp [HedgeLevel.opening, HedgeLevel.activated])

theorem armedAt (h : LevelSound config level) (price : ℚ) :
    LevelSound config (level.armedAt price) := by
  unfold HedgeLevel.armedAt
  split
  · rename_i hready
    exact
      { quantity_pos := h.quantity_pos
        quantity_mul := h.quantity_mul
        idle := h.idle
        debt_nonneg := h.debt_nonneg
        tps_nonneg := h.tps_nonneg
        tps_pos_iff := h.tps_pos_iff
        fresh_debt := fun hf => absurd hf.2 (by simp) }
  · exact h

end LevelSound

/-! ## What the mutations keep of the list -/

/-- A rewriting that opens no level keeps soundness when it keeps the bookkeeping of each level
    and leaves every source of a still open claim alone. -/
theorem Sound.map (hs : Sound config spread levels) {g : HedgeLevel → HedgeLevel}
    (zone : ∀ x ∈ levels, SameZone x (g x))
    (sound : ∀ x ∈ levels, LevelSound config (g x))
    (active : ∀ x ∈ levels, (g x).state = .active →
      x.state = .active ∧ (g x).activeRecoveryAllocations = x.activeRecoveryAllocations ∧
      (g x).recoveryDebt = x.recoveryDebt)
    (claimed : ∀ x ∈ levels, (g x).state = .active → ∀ source,
      ClaimOn config levels x source → g source = source)
    (retired : ∀ x ∈ levels, x.Retired → (g x).Retired)
    (fresh : ∀ x ∈ levels, ∀ y ∈ levels, x.levelId < y.levelId → (g y).Fresh → (g x).Fresh) :
    Sound config spread (levels.map g) where
  ladder := hs.ladder.map zone
  level := List.forall_mem_map.mpr sound
  claims := by
    refine List.forall_mem_map.mpr fun x hx hact => ?_
    obtain ⟨hxact, halloc, hdebt⟩ := active x hx hact
    rcases hs.claims x hx hxact with ⟨hnil, hzero⟩ | ⟨source, hc⟩
    · exact Or.inl ⟨halloc.trans hnil, fun hm => hdebt.trans (hzero hm)⟩
    · exact Or.inr ⟨source, hc.map zone hx halloc (claimed x hx hact source hc) retired⟩
  distinct := by
    refine List.forall_mem_map.mpr fun x hx => List.forall_mem_map.mpr fun y hy hxact hyact => ?_
    obtain ⟨hx', hxalloc, -⟩ := active x hx hxact
    obtain ⟨hy', hyalloc, -⟩ := active y hy hyact
    rw [hxalloc, hyalloc, (zone x hx).levelId, (zone y hy).levelId]
    exact hs.distinct x hx y hy hx' hy'
  fresh_above := by
    refine List.forall_mem_map.mpr fun x hx => List.forall_mem_map.mpr fun y hy hlt => ?_
    rw [(zone x hx).levelId, (zone y hy).levelId] at hlt
    exact fresh x hx y hy hlt

/-- Rewriting one level in place, without opening it: the form `Sound.map` takes for a lock, a
    stop and a breakeven. -/
theorem Sound.update (hs : Sound config spread levels) (hl : level ∈ levels)
    {f : HedgeLevel → HedgeLevel} (zone : SameZone level (f level))
    (sound : LevelSound config (f level)) (closed : (f level).state ≠ .active)
    (seen : ¬ level.Fresh) (stillSeen : ¬ (f level).Fresh) (live : ¬ level.Retired) :
    Sound config spread (levels.map (HedgeLevel.updating level.levelId f)) := by
  have hcase := fun x hx => hs.ladder.updating_cases (x := x) hl hx f
  have hfresh : ∀ x ∈ levels, (x.updating level.levelId f).Fresh ↔ x.Fresh := by
    intro x hx
    rcases hcase x hx with ⟨rfl, h⟩ | ⟨-, h⟩
    · rw [h]
      exact iff_of_false stillSeen seen
    · rw [h]
  refine hs.map ?_ ?_ ?_ ?_ ?_ ?_
  · intro x hx
    rcases hcase x hx with ⟨rfl, h⟩ | ⟨-, h⟩
    · rw [h]
      exact zone
    · rw [h]
      exact SameZone.refl x
  · intro x hx
    rcases hcase x hx with ⟨rfl, h⟩ | ⟨-, h⟩
    · rw [h]
      exact sound
    · rw [h]
      exact hs.level x hx
  · intro x hx hact
    rcases hcase x hx with ⟨rfl, h⟩ | ⟨-, h⟩
    · exact absurd (h ▸ hact) closed
    · rw [h] at hact ⊢
      exact ⟨hact, rfl, rfl⟩
  · intro x hx hact source hc
    refine HedgeLevel.updating_of_ne fun heq => ?_
    obtain rfl := hs.ladder.eq_of_levelId_eq hc.source_mem hl heq
    rcases hcase x hx with ⟨rfl, h⟩ | ⟨hne, -⟩
    · exact closed (h ▸ hact)
    · exact live (hc.source_retired (Ne.symm hne))
  · intro x hx hret
    rcases hcase x hx with ⟨rfl, -⟩ | ⟨-, h⟩
    · exact absurd hret live
    · rw [h]
      exact hret
  · intro x hx y hy hlt
    rw [hfresh x hx, hfresh y hy]
    exact hs.fresh_above x hx y hy hlt

/-- After a take-profit: the level is paid, and the one source it claimed on is repaid. The source
    is the level itself or gone for good, so no other open level notices. -/
theorem Sound.paid (hs : Sound config spread levels) (hl : level ∈ levels)
    (active : level.state = .active) (profit : ℚ) :
    Sound config spread (levels.map fun x =>
      (x.settled config level.activeRecoveryAllocations).updating level.levelId
        (·.paidOut profit)) := by
  have hlive : ¬ level.Retired := fun h => h.not_active active
  have hseen : ¬ level.Fresh := fun h => absurd h.1 (by simp [active])
  rcases hs.claims level hl active with ⟨hnil, -⟩ | ⟨source, hc⟩
  · simp only [hnil, HedgeLevel.settled_nil]
    exact hs.update hl (SameZone.paidOut profit) ((hs.level level hl).paidOut profit)
      (by simp [HedgeLevel.paidOut]) hseen (fun h => absurd h.1 (by simp [HedgeLevel.paidOut]))
      hlive
  simp only [hc.allocations, HedgeLevel.settled_singleton]
  have hcase : ∀ x ∈ levels,
      (x = level ∧ ∃ y, SameZone level y ∧ LevelSound config y ∧
        (x.updating source.levelId (·.repaid config (recoveryShare config source))).updating
          level.levelId (·.paidOut profit) = y.paidOut profit) ∨
      (x.levelId ≠ level.levelId ∧ x = source ∧ x.Retired ∧
        (x.updating source.levelId (·.repaid config (recoveryShare config source))).updating
          level.levelId (·.paidOut profit) = x.repaid config (recoveryShare config x)) ∨
      (x.levelId ≠ level.levelId ∧ x.levelId ≠ source.levelId ∧
        (x.updating source.levelId (·.repaid config (recoveryShare config source))).updating
          level.levelId (·.paidOut profit) = x) := by
    intro x hx
    rcases hs.ladder.updating_cases hc.source_mem hx
      (·.repaid config (recoveryShare config source)) with ⟨rfl, h⟩ | ⟨hne, h⟩
    · have hrepaid := (hs.level x hx).repaid hc.debt_pos
      rw [h]
      by_cases hid : x.levelId = level.levelId
      · obtain rfl := hs.ladder.eq_of_levelId_eq hx hl hid
        exact Or.inl ⟨rfl, _, SameZone.repaid config _, hrepaid, HedgeLevel.updating_of_eq rfl⟩
      · exact Or.inr (Or.inl ⟨hid, rfl, hc.source_retired hid, HedgeLevel.updating_of_ne hid⟩)
    · rw [h]
      rcases hs.ladder.updating_cases hl hx (·.paidOut profit) with ⟨rfl, h'⟩ | ⟨hne', h'⟩
      · exact Or.inl ⟨rfl, x, SameZone.refl x, hs.level x hx, h'⟩
      · exact Or.inr (Or.inr ⟨hne', hne, h'⟩)
  have hfresh : ∀ x ∈ levels, ((x.updating source.levelId
      (·.repaid config (recoveryShare config source))).updating level.levelId
        (·.paidOut profit)).Fresh ↔ x.Fresh := by
    intro x hx
    rcases hcase x hx with ⟨rfl, y, -, -, h⟩ | ⟨-, -, -, h⟩ | ⟨-, -, h⟩
    · rw [h]
      exact iff_of_false (fun hf => absurd hf.1 (by simp [HedgeLevel.paidOut])) hseen
    · rw [h]
      exact Iff.rfl
    · rw [h]
  refine hs.map ?_ ?_ ?_ ?_ ?_ ?_
  · intro x hx
    rcases hcase x hx with ⟨rfl, y, hy, -, h⟩ | ⟨-, -, -, h⟩ | ⟨-, -, h⟩
    · rw [h]
      exact hy.trans (SameZone.paidOut profit)
    · rw [h]
      exact SameZone.repaid config _
    · rw [h]
      exact SameZone.refl x
  · intro x hx
    rcases hcase x hx with ⟨rfl, y, -, hy, h⟩ | ⟨-, rfl, -, h⟩ | ⟨-, -, h⟩
    · rw [h]
      exact hy.paidOut profit
    · rw [h]
      exact (hs.level x hx).repaid hc.debt_pos
    · rw [h]
      exact hs.level x hx
  · intro x hx hact
    rcases hcase x hx with ⟨rfl, y, -, -, h⟩ | ⟨-, -, hret, h⟩ | ⟨-, -, h⟩
    · rw [h] at hact
      exact absurd hact (by simp [HedgeLevel.paidOut])
    · rw [h] at hact
      exact absurd hact hret.not_active
    · rw [h] at hact ⊢
      exact ⟨hact, rfl, rfl⟩
  · intro x hx hact source' hc'
    rcases hcase x hx with ⟨rfl, y, -, -, h⟩ | ⟨-, -, hret, h⟩ | ⟨hxl, hxs, h⟩
    · rw [h] at hact
      exact absurd hact (by simp [HedgeLevel.paidOut])
    · rw [h] at hact
      exact absurd hact hret.not_active
    · rw [h] at hact
      -- The claims of two open levels are on different sources.
      have hsource : source'.levelId ≠ source.levelId := by
        intro heq
        exact hxl (hs.distinct x hx level hl hact active
          (source'.levelId, recoveryShare config source') (by simp [hc'.allocations])
          (source.levelId, recoveryShare config source) (by simp [hc.allocations]) heq)
      have hother : source'.levelId ≠ level.levelId := by
        intro heq
        obtain rfl := hs.ladder.eq_of_levelId_eq hc'.source_mem hl heq
        exact hlive (hc'.source_retired (Ne.symm hxl))
      rw [HedgeLevel.updating_of_ne hsource, HedgeLevel.updating_of_ne hother]
  · intro x hx hret
    rcases hcase x hx with ⟨rfl, y, -, -, h⟩ | ⟨-, -, -, h⟩ | ⟨-, -, h⟩
    · exact absurd hret hlive
    · rw [h]
      exact hret
    · rw [h]
      exact hret
  · intro x hx y hy hlt
    rw [hfresh x hx, hfresh y hy]
    exact hs.fresh_above x hx y hy hlt

/-- What an opening level claims adds up to a nonnegative amount. -/
theorem Sound.target_nonneg (hs : Sound config spread levels) (hl : level ∈ levels)
    (above : ClearedAbove levels level) :
    0 ≤ ((HedgeEngine.recoveryAllocationsFor config levels level).map Prod.snd).sum := by
  rcases recoveryAllocationsFor_spec hs hl above with ⟨h, -⟩ | ⟨source, hsrc, -, hpos, -, -, h⟩
  · simp [h]
  · rw [h]
    simpa using (recoveryShare_pos (hs.level source hsrc) hpos).le

/-- **Opening keeps claims apart**: an open level below the opening one claims on a source below
    it too, because everything between a source and its claimant is gone for good and the opening
    level is not. -/
theorem Sound.opened (hs : Sound config spread levels) (hl : level ∈ levels)
    (ready : level.state = .ready) (armed : level.entryArmed = true)
    (above : ClearedAbove levels level) (isFloor : Bool) :
    Sound config spread
      (levels.map (HedgeLevel.updating level.levelId
        (HedgeLevel.opening config levels isFloor))) := by
  have hlive : ¬ level.Retired := fun h => h.not_ready ready
  have hcase := fun x hx => hs.ladder.updating_cases (x := x) hl hx
    (HedgeLevel.opening config levels isFloor)
  have hzone : ∀ x ∈ levels, SameZone x
      (x.updating level.levelId (HedgeLevel.opening config levels isFloor)) := fun x _ =>
    HedgeLevel.sameZone_updating (SameZone.activated ..)
  have hretired : ∀ x ∈ levels, x.Retired →
      (x.updating level.levelId (HedgeLevel.opening config levels isFloor)).Retired := by
    intro x hx hret
    rcases hcase x hx with ⟨rfl, -⟩ | ⟨-, h⟩
    · exact absurd hret hlive
    · rw [h]
      exact hret
  -- No open level claims on the opening one.
  have hunclaimed : ∀ x ∈ levels, x.levelId ≠ level.levelId → ∀ source,
      ClaimOn config levels x source → source.levelId ≠ level.levelId := by
    intro x _ hne source hc heq
    obtain rfl := hs.ladder.eq_of_levelId_eq hc.source_mem hl heq
    exact hlive (hc.source_retired (Ne.symm hne))
  -- An open level's claim is on a source below the opening level.
  have hbelow : ∀ x ∈ levels, x.levelId ≠ level.levelId → x.state = .active →
      ∀ p ∈ x.activeRecoveryAllocations, level.levelId < p.1 := by
    intro x hx hne hact p hp
    rcases hs.claims x hx hact with ⟨hnil, -⟩ | ⟨source, hc⟩
    · rw [hnil] at hp
      exact absurd hp (by simp)
    · rw [hc.allocations, List.mem_singleton] at hp
      rw [hp]
      have hxbelow : level.levelId < x.levelId := by
        refine lt_of_le_of_ne (not_lt.mp fun hlt => ?_) (Ne.symm hne)
        rcases above x hx hlt with hf | hr
        · exact absurd hf.1 (by simp [hact])
        · exact hr.not_active hact
      exact not_le.mp fun hle => hlive (hc.retired level hl hle hxbelow)
  have hclaimed : ∀ p ∈ HedgeEngine.recoveryAllocationsFor config levels level,
      p.1 ≤ level.levelId := by
    intro p hp
    rcases recoveryAllocationsFor_spec hs hl above with
      ⟨h, -⟩ | ⟨source, -, hle, -, -, -, h⟩
    · rw [h] at hp
      exact absurd hp (by simp)
    · rw [h, List.mem_singleton] at hp
      exact hp ▸ hle
  constructor
  · exact hs.ladder.map hzone
  · refine List.forall_mem_map.mpr fun x hx => ?_
    rcases hcase x hx with ⟨rfl, h⟩ | ⟨-, h⟩
    · rw [h]
      exact LevelSound.opening hs hl (hs.target_nonneg hl above) isFloor
    · rw [h]
      exact hs.level x hx
  · refine List.forall_mem_map.mpr fun x hx hact => ?_
    rcases hcase x hx with ⟨rfl, h⟩ | ⟨hne, h⟩
    · rw [h]
      rcases recoveryAllocationsFor_spec hs hl above with
        ⟨hnil, hzero⟩ | ⟨source, hsrc, hle, hpos, hown, hret, halloc⟩
      · exact Or.inl ⟨hnil, hzero⟩
      · -- The source may be the opening level itself; its debt is the same before and after.
        have hsame : (source.updating x.levelId
            (HedgeLevel.opening config levels isFloor)).recoveryDebt = source.recoveryDebt ∧
            recoveryShare config (source.updating x.levelId
              (HedgeLevel.opening config levels isFloor)) = recoveryShare config source := by
          rcases hcase source hsrc with ⟨rfl, h'⟩ | ⟨-, h'⟩ <;> rw [h'] <;> exact ⟨rfl, rfl⟩
        exact Or.inr ⟨_,
          { source_mem := List.mem_map_of_mem hsrc
            allocations := by rw [hsame.2, (hzone source hsrc).levelId]; exact halloc
            debt_pos := hsame.1 ▸ hpos
            source_le := by rw [(hzone source hsrc).levelId]; exact hle
            own := by rw [(hzone source hsrc).levelId]; exact hown
            retired := by
              rw [(hzone source hsrc).levelId]
              exact List.forall_mem_map.mpr fun y hy hle' hlt => by
                rw [(hzone y hy).levelId] at hle' hlt
                exact hretired y hy (hret y hy hle' hlt) }⟩
    · rw [h] at hact
      rcases hs.claims x hx hact with ⟨hnil, hzero⟩ | ⟨source, hc⟩
      · rw [h]
        exact Or.inl ⟨hnil, hzero⟩
      · exact Or.inr ⟨source, hc.map hzone hx (by rw [h])
          (HedgeLevel.updating_of_ne (hunclaimed x hx hne source hc)) hretired⟩
  · refine List.forall_mem_map.mpr fun x hx => List.forall_mem_map.mpr fun y hy => ?_
    rw [(hzone x hx).levelId, (hzone y hy).levelId]
    rcases hcase x hx with ⟨rfl, h⟩ | ⟨hne, h⟩ <;> rcases hcase y hy with ⟨rfl, h'⟩ | ⟨hne', h'⟩
    · exact fun _ _ _ _ _ _ _ => rfl
    · rw [h, h']
      intro _ hact p hp p' hp' heq
      exact absurd heq ((hclaimed p hp).trans_lt (hbelow y hy hne' hact p' hp')).ne
    · rw [h, h']
      intro hact _ p hp p' hp' heq
      exact absurd heq.symm ((hclaimed p' hp').trans_lt (hbelow x hx hne hact p hp)).ne
    · rw [h, h']
      exact hs.distinct x hx y hy
  · refine List.forall_mem_map.mpr fun x hx => List.forall_mem_map.mpr fun y hy hlt hf => ?_
    rw [(hzone x hx).levelId, (hzone y hy).levelId] at hlt
    rcases hcase y hy with ⟨rfl, h⟩ | ⟨-, h⟩
    · rw [h] at hf
      exact absurd hf.1 (by simp [HedgeLevel.opening, HedgeLevel.activated])
    · rw [h] at hf
      have hxf := hs.fresh_above x hx y hy hlt hf
      rcases hcase x hx with ⟨rfl, -⟩ | ⟨-, h'⟩
      · exact absurd hxf.2 (by simp [armed])
      · rw [h']
        exact hxf


/-- **Every crossing keeps the state sound.** -/
theorem Crosses.sound {tickIndex : ℕ} {s s' : EngineState} {e : CrossingEvent}
    (h : Crosses config spread tickIndex s e s') (hs : Sound config spread s.levels) :
    Sound config spread s'.levels := by
  cases h with
  | opened hl ready armed above _ => exact hs.opened hl ready armed above false
  | floored hl ready armed above _ _ => exact hs.opened hl ready armed above true
  | lockedOut hl ready armed above _ _ =>
    exact hs.update hl SameZone.lockedOut ((hs.level _ hl).lockedOut ready)
      (by simp [HedgeLevel.lockedOut]) (fun hf => absurd hf.2 (by simp [armed]))
      (fun hf => absurd hf.1 (by simp [HedgeLevel.lockedOut])) (fun hr => hr.not_ready ready)
  | paid hl active => exact hs.paid hl active _
  | stoppedOut hl active fixed =>
    have hloss := mul_pos ((hs.level _ hl).quantity_pos active) (hs.ladder.stopDistance_pos hl)
    exact hs.update hl (SameZone.stopped config _) ((hs.level _ hl).stopped fixed hloss)
      (by simp [HedgeLevel.stopped]) (fun hf => absurd hf.1 (by simp [active]))
      (fun hf => absurd hf.2 (by simp [HedgeLevel.stopped])) (fun hr => hr.not_active active)
  | brokeEven hl active _ =>
    exact hs.update hl SameZone.brokenEven (hs.level _ hl).brokenEven
      (by simp [HedgeLevel.brokenEven]) (fun hf => absurd hf.1 (by simp [active]))
      (fun hf => absurd hf.2 (by simp [HedgeLevel.brokenEven])) (fun hr => hr.not_active active)

/-! ## Arming, and the first state -/

namespace HedgeLevel

variable (level) (price : ℚ)

/-- Arming sets one flag of a ready level and touches nothing else. -/
theorem armedAt_eq : level.armedAt price =
    { level with
      entryArmed := level.entryArmed || decide (level.state = .ready ∧ level.entryPrice ≤ price) } := by
  unfold armedAt
  split
  · rename_i h
    simp [h.1, h.2]
  · rename_i h
    simp [h]

@[simp] theorem armedAt_state : (level.armedAt price).state = level.state := by
  rw [armedAt_eq]

@[simp] theorem armedAt_activeIsFloor :
    (level.armedAt price).activeIsFloor = level.activeIsFloor := by
  rw [armedAt_eq]

@[simp] theorem armedAt_recoveryDebt :
    (level.armedAt price).recoveryDebt = level.recoveryDebt := by
  rw [armedAt_eq]

@[simp] theorem armedAt_activeRecoveryAllocations :
    (level.armedAt price).activeRecoveryAllocations = level.activeRecoveryAllocations := by
  rw [armedAt_eq]

@[simp] theorem armedAt_activeQuantity :
    (level.armedAt price).activeQuantity = level.activeQuantity := by
  rw [armedAt_eq]

@[simp] theorem armedAt_entryArmed : (level.armedAt price).entryArmed = true ↔
    level.entryArmed = true ∨ level.state = .ready ∧ level.entryPrice ≤ price := by
  rw [armedAt_eq]
  simp

variable {level price}

theorem armedAt_of_not_ready (h : level.state ≠ .ready) : level.armedAt price = level :=
  if_neg fun hr => h hr.1

theorem armedAt_of_armed (h : level.entryArmed = true) : level.armedAt price = level := by
  rw [armedAt_eq, h, Bool.true_or, ← h]

theorem armedAt_fresh : (level.armedAt price).Fresh ↔ level.Fresh ∧ price < level.entryPrice := by
  unfold Fresh
  rw [armedAt_state, ← Bool.not_eq_true, ← Bool.not_eq_true, armedAt_entryArmed]
  constructor
  · rintro ⟨hr, hn⟩
    rw [not_or, not_and, not_le] at hn
    exact ⟨⟨hr, hn.1⟩, hn.2 hr⟩
  · rintro ⟨⟨hr, hn⟩, hlt⟩
    exact ⟨hr, fun h => h.elim hn fun h => absurd h.2 (not_le.mpr hlt)⟩

end HedgeLevel

/-- Arming keeps the state sound: a price that leaves a level unarmed is below its entry, and so
    below every higher level's. -/
theorem Sound.arm (hs : Sound config spread levels) (price : ℚ) :
    Sound config spread (levels.map (HedgeLevel.armedAt · price)) := by
  refine hs.map ?_ ?_ ?_ ?_ ?_ ?_
  · exact fun x _ => SameZone.armedAt price
  · exact fun x hx => (hs.level x hx).armedAt price
  · exact fun x _ hact => ⟨by simpa using hact, by simp, by simp⟩
  · intro x hx hact source hc
    refine HedgeLevel.armedAt_of_not_ready fun hready => ?_
    rw [HedgeLevel.armedAt_state] at hact
    by_cases hid : source.levelId = x.levelId
    · rw [hs.ladder.eq_of_levelId_eq hc.source_mem hx hid, hact] at hready
      exact absurd hready (by simp)
    · exact (hc.source_retired hid).not_ready hready
  · intro x _ hret
    rw [HedgeLevel.armedAt_of_not_ready hret.not_ready]
    exact hret
  · intro x hx y hy hlt hf
    rw [HedgeLevel.armedAt_fresh] at hf ⊢
    exact ⟨hs.fresh_above x hx y hy hlt hf.1,
      hf.2.trans (hs.ladder.entryPrice_lt_entryPrice hx hy hlt)⟩

/-- A freshly generated level has never been touched. -/
theorem virtualLevel_fresh {index : ℕ} :
    (virtualLevel spread config.levelCount config.stopRate index).Fresh := ⟨rfl, rfl⟩

theorem Sound.generated :
    Sound config spread
      ((List.range config.levelCount).map
        (virtualLevel spread config.levelCount config.stopRate)) where
  ladder := Ladder.generated
  level := List.forall_mem_map.mpr fun index _ =>
    { quantity_pos := fun h => absurd h (by simp [virtualLevel])
      quantity_mul := fun h => absurd h (by simp [virtualLevel])
      idle := fun _ => ⟨rfl, rfl, rfl⟩
      debt_nonneg := le_rfl
      tps_nonneg := le_rfl
      tps_pos_iff := fun _ => by simp [virtualLevel]
      fresh_debt := fun _ => rfl }
  claims := List.forall_mem_map.mpr fun _ _ h => absurd h (by simp [virtualLevel])
  distinct := List.forall_mem_map.mpr fun _ _ => List.forall_mem_map.mpr fun _ _ h =>
    absurd h (by simp [virtualLevel])
  fresh_above := List.forall_mem_map.mpr fun _ _ => List.forall_mem_map.mpr fun _ _ _ _ =>
    virtualLevel_fresh

end CreditHedge
