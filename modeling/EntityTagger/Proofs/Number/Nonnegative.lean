import EntityTagger.Proofs.Number.Monotone

/-! Numbers that are not negative, the infinite one among them: integers rounded to a format,
exponentials above 1, sums, and quotients, which keep their order as long as they are numbers. -/
namespace EntityTagger.Binary

variable {F : Format} {x y z : Binary F}

/-! ### Integers -/

theorem isNaN_ofInt (n : ℤ) : (ofInt F n).isNaN = false := isNaN_round ..

theorem ofInt_zero : ofInt F 0 = F.zero false := by simp [ofInt, Format.round]

theorem level_ofInt_mono [F.Regular] {a b : ℤ} (h : a ≤ b) :
    (ofInt F a).level ≤ (ofInt F b).level := by
  have hmono := level_round_natAbs_mono (F := F) h 1 Nat.one_pos
  rwa [Nat.mul_one, Nat.mul_one] at hmono

theorem level_ofInt_nonpos [F.Regular] {n : ℤ} (h : n ≤ 0) : (ofInt F n).level ≤ .number 0 := by
  rw [← level_zero (F := F) false, ← ofInt_zero]
  exact level_ofInt_mono h

theorem zero_le_level_ofInt [F.Regular] {n : ℤ} (h : 0 ≤ n) : .number 0 ≤ (ofInt F n).level := by
  rw [← level_zero (F := F) false, ← ofInt_zero]
  exact level_ofInt_mono h

/-! ### What is not negative -/

/-- A number that is not negative, or the greatest infinity. -/
structure IsNonneg (x : Binary F) : Prop where
  isNaN_eq : x.isNaN = false
  zero_le : .number 0 ≤ x.level

theorem isNonneg_zero [F.Regular] : (F.zero false).IsNonneg :=
  ⟨isNaN_of_isFinite (isFinite_zero _), (level_zero _).ge⟩

theorem IsNonneg.cases (h : x.IsNonneg) :
    x = .infinity false ∨ x.isFinite = true ∧ 0 ≤ x.value := by
  obtain ⟨hnan, hzero⟩ := h
  cases x with
  | nan => simp [isNaN] at hnan
  | infinity negative =>
    cases negative with
    | false => exact Or.inl rfl
    | true => exact absurd hzero (not_le.2 (Extended.bot_lt_number 0))
  | finite negative m e k => exact Or.inr ⟨rfl, Extended.number_le_number.1 hzero⟩

theorem units_pos_iff (x : Binary F) : 0 < x.units ↔ 0 < x.value := by
  rw [value_eq_units]
  have hunit : (0 : ℚ) < 2 ^ F.minExponent := by positivity
  rw [mul_pos_iff_of_pos_right hunit, Int.cast_pos]

theorem level_round_one [F.Regular] :
    (F.round false Exponential.one Exponential.one).level = .number 1 := by
  obtain ⟨hfin, hvalue⟩ := value_exp_of_value_zero (isFinite_zero (F := F) false) (value_zero false)
  obtain ⟨hholds, hzero⟩ := zero_eq (F := F) false
  have hexp : (F.zero false).exp = F.round false Exponential.one Exponential.one := by
    simp [hzero, exp, Exponential.bound, Exponential.one_pos.ne', Exponential.fixed_zero]
  rw [← hexp, level_of_isFinite hfin, hvalue]

theorem one_le_level_exp [F.Regular] (h : x.IsNonneg) :
    x.exp.isNaN = false ∧ .number 1 ≤ x.exp.level := by
  have htop : (infinity false : Binary F).isNaN = false ∧
      Extended.number 1 ≤ (infinity false : Binary F).level :=
    ⟨rfl, (Extended.number_lt_top 1).le⟩
  rcases h.cases with rfl | ⟨hfin, hvalue⟩
  · exact htop
  rcases hvalue.eq_or_lt with hzero | hpos
  · obtain ⟨hexp, hone⟩ := value_exp_of_value_zero hfin hzero.symm
    rw [level_of_isFinite hexp, hone]
    exact ⟨isNaN_of_isFinite hexp, le_rfl⟩
  · have hsign := negative_of_units_pos hfin ((units_pos_iff x).2 hpos)
    cases x with
    | finite negative m e k =>
      obtain rfl : negative = false := hsign
      simp only [exp, Bool.false_eq_true, if_false]
      split_ifs
      · exact htop
      · refine ⟨isNaN_round .., ?_⟩
        rw [← level_round_one (F := F)]
        apply level_round_mono Exponential.one_pos Exponential.one_pos
        have hle : (Exponential.one : ℚ) ≤ Exponential.fixed (m * 2 ^ e.toNat * Exponential.one /
          2 ^ (-e).toNat) := by exact_mod_cast Exponential.one_le_fixed _
        gcongr
    | _ => simp [isFinite] at hfin

theorem isNonneg_exp [F.Regular] (hx : x.isNaN = false) : x.exp.IsNonneg := by
  rcases le_total x.level (.number 0) with hle | hge
  · have hshare := isShare_exp hx hle
    refine ⟨isNaN_of_isFinite hshare.isFinite_eq, ?_⟩
    rw [level_of_isFinite hshare.isFinite_eq]
    exact Extended.number_le_number.2 hshare.nonneg
  · obtain ⟨hnan, hone⟩ := one_le_level_exp ⟨hx, hge⟩
    exact ⟨hnan, (Extended.number_le_number.2 zero_le_one).trans hone⟩

theorem IsNonneg.add [F.Regular] (hx : x.IsNonneg) (hy : y.IsNonneg) : (x.add y).IsNonneg := by
  have htop : (infinity false : Binary F).IsNonneg := ⟨rfl, (Extended.number_lt_top 0).le⟩
  rcases hx.cases with rfl | ⟨hxfin, hxv⟩
  · rcases hy.cases with rfl | ⟨hyfin, -⟩
    · exact htop
    · cases y with
      | finite => exact htop
      | _ => simp [isFinite] at hyfin
  · rcases hy.cases with rfl | ⟨hyfin, hyv⟩
    · cases x with
      | finite => exact htop
      | _ => simp [isFinite] at hxfin
    · obtain ⟨hnan, hlevel⟩ := level_add_of_isFinite hxfin hyfin
      have hunits := Int.add_nonneg ((units_nonneg_iff x).2 hxv) ((units_nonneg_iff y).2 hyv)
      have hzero : ofUnits F 0 = F.zero false := by simp [ofUnits, Format.round]
      refine ⟨hnan, ?_⟩
      rw [hlevel, ← level_zero (F := F) false, ← hzero]
      exact level_ofUnits_mono hunits

theorem IsNonneg.foldl [F.Regular] {weights : List (Binary F)}
    (h : ∀ w ∈ weights, w.IsNonneg) (hx : x.IsNonneg) : (weights.foldl Binary.add x).IsNonneg := by
  induction weights generalizing x with
  | nil => exact hx
  | cons w rest ih =>
    exact ih (fun v hv => h v (List.mem_cons_of_mem _ hv)) (hx.add (h w (List.mem_cons_self ..)))

theorem infinity_div_of_isFinite (hz : z.isFinite = true) :
    (infinity false : Binary F).div z = infinity z.negative := by
  cases z with
  | finite => simp [div, negative]
  | _ => simp [isFinite] at hz

theorem div_of_value_zero (hx : x.isFinite = true) (hpos : 0 < x.value) (hz : z.isFinite = true)
    (hzero : z.value = 0) : x.div z = infinity z.negative := by
  have hne : x.units ≠ 0 := ((units_pos_iff x).2 hpos).ne'
  have hsign := negative_of_units_pos hx ((units_pos_iff x).2 hpos)
  have hunits : z.units = 0 := by
    have hnonneg := (units_nonneg_iff z).2 hzero.ge
    have hnot : ¬ 0 < z.units := fun h => ((units_pos_iff z).1 h).ne' hzero
    omega
  cases x <;> cases z <;> simp_all [isFinite, div]

/-- A positive number and what is not below it keep their order when both are divided by what is not
negative, unless the greater quotient is not a number. -/
theorem level_div_mono_of_pos [F.Regular] (hx : x.isFinite = true) (hpos : 0 < x.value)
    (hy : y.isNaN = false) (hle : x.level ≤ y.level) (hz : z.IsNonneg)
    (hnan : (y.div z).isNaN = false) : (x.div z).level ≤ (y.div z).level := by
  have hyge : y.IsNonneg := ⟨hy, by
    refine le_trans ?_ hle
    rw [level_of_isFinite hx]
    exact Extended.number_le_number.2 hpos.le⟩
  rcases hz.cases with rfl | ⟨hzfin, hzv⟩
  · -- only infinity has a quotient by infinity that is no zero, and that is not a number
    rcases hyge.cases with rfl | ⟨hyfin, -⟩
    · simp [div, isNaN] at hnan
    · have hquotient : ∀ {w : Binary F}, w.isFinite = true →
          (w.div (infinity false)).level = .number 0 := by
        intro w hw
        cases w with
        | finite => exact level_zero _
        | _ => simp [isFinite] at hw
      rw [hquotient hx, hquotient hyfin]
  rcases hzv.eq_or_lt with hzero | hzpos
  · -- both quotients are infinite, with the sign of the zero
    rw [div_of_value_zero hx hpos hzfin hzero.symm]
    rcases hyge.cases with rfl | ⟨hyfin, -⟩
    · rw [infinity_div_of_isFinite hzfin]
    · rw [level_of_isFinite hx, level_of_isFinite hyfin] at hle
      have hypos := hpos.trans_le (Extended.number_le_number.1 hle)
      rw [div_of_value_zero hyfin hypos hzfin hzero.symm]
  · rcases hyge.cases with rfl | ⟨hyfin, -⟩
    · rw [infinity_div_of_isFinite hzfin, negative_of_units_pos hzfin ((units_pos_iff z).2 hzpos)]
      exact le_top
    · rw [level_of_isFinite hx, level_of_isFinite hyfin] at hle
      exact level_div_mono hx hyfin hzfin hpos.le (Extended.number_le_number.1 hle) hzpos

end EntityTagger.Binary
