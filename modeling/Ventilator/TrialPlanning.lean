import Ventilator.ElapsedTime
import Ventilator.RpmEncoding

/-! When `trial_make_plan` gives a plan, and the targets it plans, with exact arithmetic. -/
namespace Ventilator
open Double

/-- What a fan must show to be given a target. -/
structure TrialFanState.Ready (fan : TrialFanState) : Prop where
  mode : fan.mode = 3 ∧ fan.modeType = typeUi8 ∧ fan.modeSize = 1
  numbers : fan.actualRpm.isfinite = true ∧ fan.targetRpm.isfinite = true ∧
    fan.minRpm.isfinite = true ∧ fan.maxRpm.isfinite = true
  actual : 0 ≤ fan.actualRpm.value
  target : |fan.targetRpm.value| ≤ 1
  range : 0 ≤ fan.minRpm.value ∧ fan.minRpm.value < fan.maxRpm.value
  type : supportedTargetType fan.targetType fan.targetSize = true
  headroom : max fan.actualRpm.value fan.minRpm.value + 300 ≤ fan.maxRpm.value

/-- What a preflight must show to be given a plan. -/
structure TrialPreflight.Ready (input : TrialPreflight) : Prop where
  model : input.model = some "Mac15,7"
  osVersion : input.osVersion = some "27.0"
  fanCount : input.fanCount = 2
  ftst : input.ftstType = typeUi8 ∧ input.ftstSize = 1 ∧ input.ftst = 0
  temperatures : ∀ sample sensor, (input.temperaturesC sample sensor).isfinite = true ∧
    10 ≤ (input.temperaturesC sample sensor).value ∧
    (input.temperaturesC sample sensor).value < 75
  rise : ∀ sensor ∈ trendSensors,
    (input.temperaturesC 4 sensor).value - (input.temperaturesC 0 sensor).value ≤ 5
  fans : ∀ fan, (input.fans fan).Ready

/-! Exact arithmetic on finite doubles. -/

lemma fabs_of_isfinite {x : Double} (h : x.isfinite = true) :
    (fabs x).isfinite = true ∧ (fabs x).value = |x.value| := by
  cases x with
  | finite q => exact ⟨rfl, rfl⟩
  | negZero => exact ⟨rfl, by simp [fabs]⟩
  | inf negative => cases h
  | nan => cases h

lemma neg_of_isfinite {x : Double} (h : x.isfinite = true) :
    (neg x).isfinite = true ∧ (neg x).value = -x.value := by
  cases x with
  | finite q =>
    by_cases hq : q = 0
    · simp [neg, hq]
    · simp [neg, hq]
  | negZero => exact ⟨rfl, by simp [neg]⟩
  | inf negative => cases h
  | nan => cases h

lemma add_of_isfinite (round : ℚ → Double) {x y : Double} (hx : x.isfinite = true)
    (hy : y.isfinite = true) : add round x y = round (x.value + y.value) := by
  obtain ⟨hfinite, hvalue⟩ := neg_of_isfinite hy
  rw [add, Double.sub_of_isfinite hx hfinite, hvalue, sub_neg_eq_add]

lemma fmax_of_isfinite {x y : Double} (hx : x.isfinite = true) (hy : y.isfinite = true) :
    (fmax x y).isfinite = true ∧ (fmax x y).value = max x.value y.value := by
  have hxnan : x ≠ nan := by rintro rfl; cases hx
  have hynan : y ≠ nan := by rintro rfl; cases hy
  rw [fmax, if_neg hxnan, if_neg hynan, lt_of_isfinite hx hy]
  by_cases hlt : x.value < y.value
  · simp [hlt, hy, max_eq_right hlt.le]
  · simp [hlt, hx, max_eq_left (not_lt.mp hlt)]

/-! The conditions of the source, one by one. -/

lemma exactType_iff {type expected : FourChars} (hzero : ∀ b ∈ expected.toList, b ≠ 0)
    (hself : exactType expected expected = true) : exactType type expected = true ↔ type = expected :=
  ⟨exactType_eq hzero, fun h => h ▸ hself⟩

lemma exactType_ui8 {type : FourChars} : exactType type typeUi8 = true ↔ type = typeUi8 :=
  exactType_iff (writeType_nonzero (by simp)) (by decide)

/-- A temperature the plan refuses. -/
lemma temperature_refused_iff {x : Double} :
    (!x.isfinite || lt x (finite 10) || le trialTemperatureLimitC x) = false ↔
      x.isfinite = true ∧ 10 ≤ x.value ∧ x.value < 75 := by
  by_cases hfinite : x.isfinite = true
  · rw [lt_of_isfinite hfinite rfl, trialTemperatureLimitC, le_of_isfinite rfl hfinite]
    simp only [hfinite, Bool.not_true, Bool.false_or, Bool.or_eq_false_iff,
      decide_eq_false_iff_not, not_lt, not_le, true_and]
    rfl
  · simp [hfinite]

lemma rise_refused_iff {first last : Double} (hfirst : first.isfinite = true)
    (hlast : last.isfinite = true) :
    lt trialTemperatureMaxRiseC (sub finite last first) = false ↔
      last.value - first.value ≤ 5 := by
  rw [Double.sub_of_isfinite hlast hfirst, trialTemperatureMaxRiseC, lt_of_isfinite rfl rfl,
    decide_eq_false_iff_not, not_lt]
  rfl

/-- The numbers a fan must show, as the source checks them. -/
lemma fan_refused_iff {fan : TrialFanState} :
    (!fan.actualRpm.isfinite || !fan.targetRpm.isfinite || !fan.minRpm.isfinite ||
      !fan.maxRpm.isfinite || lt fan.actualRpm (finite 0) || lt (finite 1) (fabs fan.targetRpm) ||
      lt fan.minRpm (finite 0) || le fan.maxRpm fan.minRpm) = false ↔
      (fan.actualRpm.isfinite = true ∧ fan.targetRpm.isfinite = true ∧
        fan.minRpm.isfinite = true ∧ fan.maxRpm.isfinite = true) ∧
      0 ≤ fan.actualRpm.value ∧ |fan.targetRpm.value| ≤ 1 ∧
      0 ≤ fan.minRpm.value ∧ fan.minRpm.value < fan.maxRpm.value := by
  by_cases hall : fan.actualRpm.isfinite = true ∧ fan.targetRpm.isfinite = true ∧
      fan.minRpm.isfinite = true ∧ fan.maxRpm.isfinite = true
  · obtain ⟨hactual, htarget, hmin, hmax⟩ := hall
    obtain ⟨hfabs, hvalue⟩ := fabs_of_isfinite htarget
    rw [lt_of_isfinite hactual rfl, lt_of_isfinite rfl hfabs, lt_of_isfinite hmin rfl,
      le_of_isfinite hmax hmin, hvalue]
    simp only [hactual, htarget, hmin, hmax, Bool.not_true, Bool.false_or, Bool.or_eq_false_iff,
      decide_eq_false_iff_not, not_lt, not_le, true_and, and_assoc]
    rfl
  · simp only [hall, false_and, iff_false, Bool.not_eq_false, Bool.or_eq_true, Bool.not_eq_true']
    grind

/-- The speed a fan is to reach. -/
def TrialFanState.plannedRpm (fan : TrialFanState) : ℚ :=
  max fan.actualRpm.value fan.minRpm.value + 300

/-- A fan gets a target exactly when it is ready, and then the planned one. -/
lemma planFan_iff (fan : TrialFanState) (target : Double) :
    planFan finite fan = .ok target ↔ fan.Ready ∧ target = finite fan.plannedRpm := by
  rw [planFan]
  by_cases hmode : fan.mode ≠ 3 ∨ ¬ exactType fan.modeType typeUi8 ∨ fan.modeSize ≠ 1
  · rw [if_pos hmode]
    refine ⟨nofun, fun h => ?_⟩
    obtain ⟨hvalue, htype, hsize⟩ := h.1.mode
    exact absurd hmode (by simp [hvalue, hsize, exactType_ui8.mpr htype])
  rw [if_neg hmode]
  simp only [ne_eq, not_or, not_not, exactType_ui8] at hmode
  cases hnumbers : (!fan.actualRpm.isfinite || !fan.targetRpm.isfinite || !fan.minRpm.isfinite ||
      !fan.maxRpm.isfinite || lt fan.actualRpm (finite 0) || lt (finite 1) (fabs fan.targetRpm) ||
      lt fan.minRpm (finite 0) || le fan.maxRpm fan.minRpm) with
  | true =>
    rw [if_pos rfl]
    refine ⟨nofun, fun h => ?_⟩
    have hready := fan_refused_iff.mpr ⟨h.1.numbers, h.1.actual, h.1.target, h.1.range⟩
    exact absurd hnumbers (by rw [hready]; nofun)
  | false =>
    obtain ⟨hfinite, hactual, htarget, hrange⟩ := fan_refused_iff.mp hnumbers
    rw [if_neg nofun]
    by_cases htype : supportedTargetType fan.targetType fan.targetSize = true
    · obtain ⟨hbase, hvalue⟩ := fmax_of_isfinite hfinite.1 hfinite.2.2.1
      have hplanned : add finite (fmax fan.actualRpm fan.minRpm) trialTargetDeltaRpm =
          finite fan.plannedRpm := by
        rw [trialTargetDeltaRpm, add_of_isfinite finite hbase rfl, hvalue]
        rfl
      have hlt : lt fan.maxRpm (finite fan.plannedRpm) =
          decide (fan.maxRpm.value < fan.plannedRpm) := lt_of_isfinite hfinite.2.2.2 rfl
      rw [if_neg (by simp [htype]), hplanned]
      dsimp only
      rw [isfinite_finite, hlt, Bool.not_true, Bool.false_or]
      by_cases hroom : fan.maxRpm.value < fan.plannedRpm
      · rw [if_pos (decide_eq_true hroom)]
        exact ⟨nofun, fun h => absurd h.1.headroom (not_le.mpr hroom)⟩
      · rw [if_neg (by simpa using hroom), Except.ok.injEq, eq_comm]
        have hready : fan.Ready :=
          ⟨hmode, hfinite, hactual, htarget, hrange, htype, not_lt.mp hroom⟩
        exact ⟨fun h => ⟨hready, h⟩, fun h => h.2⟩
    · rw [if_pos (by simpa using htype)]
      exact ⟨nofun, fun h => absurd h.1.type htype⟩

/-- The temperatures of the five samples, as the source checks them. -/
lemma temperatures_refused_iff {input : TrialPreflight} :
    ((List.finRange 5).any fun sample => (List.finRange 3).any fun sensor =>
      !(input.temperaturesC sample sensor).isfinite ||
        lt (input.temperaturesC sample sensor) (finite 10) ||
        le trialTemperatureLimitC (input.temperaturesC sample sensor)) = false ↔
      ∀ sample sensor, (input.temperaturesC sample sensor).isfinite = true ∧
        10 ≤ (input.temperaturesC sample sensor).value ∧
        (input.temperaturesC sample sensor).value < 75 := by
  simp only [List.any_eq_false, List.mem_finRange, true_implies, ← temperature_refused_iff,
    Bool.not_eq_true]

/-- The rises of the GPU and SSD sensors, as the source checks them. -/
lemma rises_refused_iff {input : TrialPreflight}
    (hfinite : ∀ sample sensor, (input.temperaturesC sample sensor).isfinite = true) :
    (trendSensors.any fun sensor => lt trialTemperatureMaxRiseC
      (sub finite (input.temperaturesC 4 sensor) (input.temperaturesC 0 sensor))) = false ↔
      ∀ sensor ∈ trendSensors,
        (input.temperaturesC 4 sensor).value - (input.temperaturesC 0 sensor).value ≤ 5 := by
  simp only [List.any_eq_false, Bool.not_eq_true,
    rise_refused_iff (hfinite 0 _) (hfinite 4 _)]

/-- The two fans of a plan. -/
lemma planFans_iff (input : TrialPreflight) (plan : TrialPlan) :
    (do
      let first ← planFan finite (input.fans 0)
      let second ← planFan finite (input.fans 1)
      pure (⟨fun fan => if fan = 0 then first else second⟩ : TrialPlan) : Except String TrialPlan) =
        .ok plan ↔
      ∀ fan, (input.fans fan).Ready ∧ plan.targetRpm fan = finite (input.fans fan).plannedRpm := by
  constructor
  · intro h
    cases hfirst : planFan finite (input.fans 0) with
    | error message => simp [hfirst, bind, Except.bind] at h
    | ok first =>
      cases hsecond : planFan finite (input.fans 1) with
      | error message => simp [hfirst, hsecond, bind, Except.bind] at h
      | ok second =>
        rw [hfirst, hsecond] at h
        cases h
        intro fan
        match fan with
        | 0 => exact (planFan_iff _ _).mp hfirst
        | 1 => exact (planFan_iff _ _).mp hsecond
  · intro h
    rw [(planFan_iff _ _).mpr (h 0), (planFan_iff _ _).mpr (h 1)]
    have htargets : (fun fan : Fin 2 => if fan = 0 then plan.targetRpm 0 else plan.targetRpm 1) =
        plan.targetRpm := by
      funext fan
      match fan with
      | 0 => rfl
      | 1 => rfl
    change Except.ok (⟨fun fan => if fan = 0 then plan.targetRpm 0 else plan.targetRpm 1⟩ :
      TrialPlan) = .ok plan
    rw [htargets]

/-- A plan is made exactly for a ready preflight, and plans the planned speeds. -/
lemma trialMakePlan_iff (input : TrialPreflight) (plan : TrialPlan) :
    trialMakePlan finite input = .ok plan ↔
      input.Ready ∧ ∀ fan, plan.targetRpm fan = finite (input.fans fan).plannedRpm := by
  rw [trialMakePlan]
  by_cases hmodel : input.model ≠ some trialExpectedModel
  · rw [if_pos hmodel]
    exact ⟨nofun, fun h => absurd h.1.model hmodel⟩
  by_cases hversion : input.osVersion ≠ some trialExpectedOsVersion
  · rw [if_neg hmodel, if_pos hversion]
    exact ⟨nofun, fun h => absurd h.1.osVersion hversion⟩
  by_cases hcount : input.fanCount ≠ 2
  · rw [if_neg hmodel, if_neg hversion, if_pos hcount]
    exact ⟨nofun, fun h => absurd h.1.fanCount hcount⟩
  by_cases hftst : ¬ exactType input.ftstType typeUi8 ∨ input.ftstSize ≠ 1 ∨ input.ftst ≠ 0
  · rw [if_neg hmodel, if_neg hversion, if_neg hcount, if_pos hftst]
    refine ⟨nofun, fun h => ?_⟩
    obtain ⟨htype, hsize, hvalue⟩ := h.1.ftst
    exact absurd hftst (by simp [hsize, hvalue, exactType_ui8.mpr htype])
  rw [if_neg hmodel, if_neg hversion, if_neg hcount, if_neg hftst]
  simp only [ne_eq, not_or, not_not, exactType_ui8] at hmodel hversion hcount hftst
  cases htemperatures : (List.finRange 5).any fun sample => (List.finRange 3).any fun sensor =>
      !(input.temperaturesC sample sensor).isfinite ||
        lt (input.temperaturesC sample sensor) (finite 10) ||
        le trialTemperatureLimitC (input.temperaturesC sample sensor) with
  | true =>
    rw [if_pos rfl]
    refine ⟨nofun, fun h => ?_⟩
    have hready := temperatures_refused_iff.mpr h.1.temperatures
    exact absurd htemperatures (by rw [hready]; nofun)
  | false =>
    have hvalid := temperatures_refused_iff.mp htemperatures
    have hrises := @rises_refused_iff input fun sample sensor => (hvalid sample sensor).1
    rw [if_neg nofun]
    cases hrise : trendSensors.any fun sensor => lt trialTemperatureMaxRiseC
        (sub finite (input.temperaturesC 4 sensor) (input.temperaturesC 0 sensor)) with
    | true =>
      rw [if_pos rfl]
      exact ⟨nofun, fun h => absurd hrise (by rw [hrises.mpr h.1.rise]; nofun)⟩
    | false =>
      rw [if_neg nofun, planFans_iff]
      constructor
      · intro h
        exact ⟨⟨hmodel, hversion, hcount, hftst, hvalid, hrises.mp hrise, fun fan => (h fan).1⟩,
          fun fan => (h fan).2⟩
      · exact fun h fan => ⟨h.1.fans fan, h.2 fan⟩

/-- A nonnegative speed up to 16383 has an encoding in every supported type. -/
lemma trialEncodeRpm_isSome {type : FourChars} {size : UInt32} {rpm : ℚ}
    (htype : supportedTargetType type size = true) (h0 : 0 ≤ rpm) (hmax : rpm ≤ 16383) :
    (trialEncodeRpm type size (finite rpm)).isSome = true := by
  let memory : RpmOutput := ⟨Vector.replicate 4 0, 0⟩
  have hsome := trialEncodeRpm_eq type size (finite rpm) memory
  simp only [supportedTargetType, Bool.or_eq_true, Bool.and_eq_true, beq_iff_eq] at htype
  rcases htype with ⟨htype, rfl⟩ | ⟨htype, rfl⟩
  · obtain rfl := exactType_flt htype
    have hinto := (trialEncodeRpmInto_flt (finite rpm) memory).trans (if_pos ⟨rfl, h0⟩)
    rw [hsome, hinto]
    rfl
  · obtain rfl := exactType_fpe2 htype
    have hinto := (trialEncodeRpmInto_fpe2 (finite rpm) memory).trans (if_pos ⟨rfl, h0, hmax⟩)
    rw [hsome, hinto]
    rfl

/-- What a plan gives a fan. -/
structure TrialFanState.Planned (fan : TrialFanState) (target : Double) : Prop where
  planned : target = finite (max fan.actualRpm.value fan.minRpm.value + 300)
  aboveActual : fan.actualRpm.value < target.value
  aboveMin : fan.minRpm.value + 300 ≤ target.value
  withinMax : target.value ≤ fan.maxRpm.value
  encodable : target.value ≤ 16383 →
    (trialEncodeRpm fan.targetType fan.targetSize target).isSome = true

lemma TrialFanState.Ready.planned {fan : TrialFanState} (h : fan.Ready) :
    fan.Planned (finite fan.plannedRpm) where
  planned := rfl
  aboveActual := by
    have hle := le_max_left fan.actualRpm.value fan.minRpm.value
    rw [value_finite, TrialFanState.plannedRpm]
    linarith
  aboveMin := by
    have hle := le_max_right fan.actualRpm.value fan.minRpm.value
    rw [value_finite, TrialFanState.plannedRpm]
    linarith
  withinMax := h.headroom
  encodable hmax := by
    have hle := le_max_left fan.actualRpm.value fan.minRpm.value
    have h0 : 0 ≤ fan.plannedRpm := by
      have hactual := h.actual
      rw [TrialFanState.plannedRpm]
      linarith
    exact trialEncodeRpm_isSome h.type h0 hmax

/-- `trial_make_plan` succeeds exactly on a ready preflight, and plans for each fan a speed 300
above what it turns at, within its own range and encodable in its own type. -/
theorem plan_made_iff_ready (input : TrialPreflight) :
    ((∃ plan, trialMakePlan finite input = .ok plan) ↔ input.Ready) ∧
      ∀ plan, trialMakePlan finite input = .ok plan →
        ∀ fan, (input.fans fan).Planned (plan.targetRpm fan) := by
  constructor
  · constructor
    · rintro ⟨plan, h⟩
      exact ((trialMakePlan_iff input plan).mp h).1
    · intro h
      exact ⟨⟨fun fan => finite (input.fans fan).plannedRpm⟩,
        (trialMakePlan_iff input _).mpr ⟨h, fun _ => rfl⟩⟩
  · intro plan h fan
    obtain ⟨hready, htarget⟩ := (trialMakePlan_iff input plan).mp h
    rw [htarget fan]
    exact (hready.fans fan).planned

end Ventilator
