import Ventilator.StatusReader

/-! The five segments of the menu-bar icon: `Readings.kt` and the `Fan` and `Snapshot` of
`StatusItem.swift`, over exact numbers. -/
namespace Ventilator
open Double

/-- `x == y` as IEEE compares doubles, so that the two zeros are equal. -/
def Double.eq (x y : Double) : Bool := le x y && le y x

/-! `Readings.kt`. -/
namespace KotlinRead

inductive ReadingAvailability
  | available
  | unavailable
  deriving DecidableEq

variable {Instant : Type}

def FanSnapshot.availability (fan : FanSnapshot Instant) : ReadingAvailability :=
  match fan.actualRpm with
  | none => .unavailable
  | some actualRpm =>
    if actualRpm.isfinite && le (finite 0) actualRpm then .available else .unavailable

def TemperatureReading.availability (reading : TemperatureReading Instant) :
    ReadingAvailability :=
  match reading.celsius with
  | none => .unavailable
  | some celsius =>
    if celsius.isfinite && (le (finite 10) celsius && le celsius (finite 115)) then .available
    else .unavailable

/-- `coerceIn` of a number. -/
def coerceIn (x low high : ℚ) : ℚ := if x < low then low else if high < x then high else x

/-- `coerceAtMost` of an integer. -/
def coerceAtMost (x high : ℤ) : ℤ := if high < x then high else x

def FanSnapshot.level (fan : FanSnapshot Instant) : Option ℤ :=
  if fan.availability ≠ .available then none
  else do
    let actual ← fan.actualRpm
    if Double.eq actual (finite 0) then return 0
    let minimum ← fan.minRpm
    let maximum ← fan.maxRpm
    if !minimum.isfinite || !maximum.isfinite || lt minimum (finite 0) || le maximum minimum then
      none
    else
      let fraction := coerceIn
        ((actual.value - minimum.value) / (maximum.value - minimum.value)) 0 1
      return coerceAtMost (1 + ⌊5 * fraction⌋) 5

def StatusSnapshot.trayLevel (snapshot : StatusSnapshot Instant) : Option ℤ := do
  let count ← snapshot.declaredFanCount
  if count = 0 ∨ count ≠ snapshot.fans.length ∨
      (snapshot.fans.map (·.index)).toFinset ≠ ((List.range count.toNat).map Int.ofNat).toFinset then
    none
  else
    let levels := snapshot.fans.map (·.level)
    if levels.any (·.isNone) then none else (levels.filterMap id).max?

end KotlinRead

/-! `StatusItem.swift`. -/
namespace StatusItem

structure Fan where
  index : ℤ
  actualRpm : Option Double
  minRpm : Option Double
  maxRpm : Option Double

def Fan.level (fan : Fan) : Option ℤ := do
  let actualRpm ← fan.actualRpm
  if !(actualRpm.isfinite && le (finite 0) actualRpm) then none
  else if Double.eq actualRpm (finite 0) then some 0
  else
    let minRpm ← fan.minRpm
    let maxRpm ← fan.maxRpm
    if !(minRpm.isfinite && maxRpm.isfinite && le (finite 0) minRpm && lt minRpm maxRpm) then none
    else
      let fraction :=
        min 1 (max 0 ((actualRpm.value - minRpm.value) / (maxRpm.value - minRpm.value)))
      some (min 5 (1 + ⌊5 * fraction⌋))

/-- A `Snapshot`, as far as `combinedLevel` reads it. -/
structure Snapshot where
  fans : List Fan

def Snapshot.combinedLevel (snapshot : Snapshot) : Option ℤ :=
  if snapshot.fans.isEmpty then none
  else
    let levels := snapshot.fans.map (·.level)
    if !levels.all (·.isSome) then none else (levels.filterMap id).max?

/-- The same values, as the Swift decoder holds them. -/
def Fan.ofKotlin {Instant : Type} (fan : KotlinRead.FanSnapshot Instant) : Fan :=
  ⟨fan.index, fan.actualRpm, fan.minRpm, fan.maxRpm⟩

def Snapshot.ofKotlin {Instant : Type} (snapshot : KotlinRead.StatusSnapshot Instant) :
    Snapshot :=
  ⟨snapshot.fans.map Fan.ofKotlin⟩

end StatusItem

/-! The scale both follow. -/

/-- The segments of a speed between the bounds of its range. -/
def segments (minimum maximum actual : ℚ) : ℤ :=
  min 5 (1 + ⌊5 * min 1 (max 0 ((actual - minimum) / (maximum - minimum)))⌋)

lemma segments_pos (minimum maximum actual : ℚ) : 1 ≤ segments minimum maximum actual := by
  refine le_min (by norm_num) ?_
  have hfloor : 0 ≤ ⌊5 * min 1 (max 0 ((actual - minimum) / (maximum - minimum)))⌋ :=
    Int.floor_nonneg.mpr (by positivity)
  omega

lemma segments_le (minimum maximum actual : ℚ) : segments minimum maximum actual ≤ 5 :=
  min_le_left _ _

lemma segments_mono {minimum maximum actual actual' : ℚ} (hrange : minimum < maximum)
    (h : actual ≤ actual') :
    segments minimum maximum actual ≤ segments minimum maximum actual' := by
  have hpos : 0 ≤ maximum - minimum := by linarith
  unfold segments
  gcongr

/-- A speed that counts is finite and not negative. -/
structure Turning (reading : Option Double) (actual : Double) : Prop where
  reading : reading = some actual
  isfinite : actual.isfinite = true
  nonneg : 0 ≤ actual.value

/-- A range that counts is finite, not negative and not empty. -/
structure RunningRange (lower upper : Option Double) (minimum maximum : Double) : Prop where
  lower : lower = some minimum
  upper : upper = some maximum
  minimumFinite : minimum.isfinite = true
  maximumFinite : maximum.isfinite = true
  nonneg : 0 ≤ minimum.value
  nonempty : minimum.value < maximum.value

/-- The level of a reading: none of the segments for a fan that stands still, and otherwise the
segments within its range. -/
inductive LevelOf (reading lower upper : Option Double) : ℤ → Prop
  | stopped {actual : Double} (turning : Turning reading actual) (zero : actual.value = 0) :
    LevelOf reading lower upper 0
  | running {actual minimum maximum : Double} (turning : Turning reading actual)
    (nonzero : actual.value ≠ 0) (range : RunningRange lower upper minimum maximum) :
    LevelOf reading lower upper (segments minimum.value maximum.value actual.value)

lemma turning_iff {actual : Double} :
    (actual.isfinite && le (finite 0) actual) = true ↔
      actual.isfinite = true ∧ 0 ≤ actual.value := by
  rw [Bool.and_eq_true]
  refine and_congr_right fun hfinite => ?_
  rw [le_of_isfinite rfl hfinite, decide_eq_true_eq]
  rfl

lemma eq_zero_iff {actual : Double} (h : actual.isfinite = true) :
    Double.eq actual (finite 0) = true ↔ actual.value = 0 := by
  rw [Double.eq, le_of_isfinite h rfl, le_of_isfinite rfl h, Bool.and_eq_true, decide_eq_true_eq,
    decide_eq_true_eq, value_finite, ← le_antisymm_iff]

lemma coerceIn_eq (x : ℚ) : KotlinRead.coerceIn x 0 1 = min 1 (max 0 x) := by
  unfold KotlinRead.coerceIn
  split
  · rename_i h
    rw [max_eq_left h.le]
    norm_num
  · rename_i h
    rw [max_eq_right (not_lt.mp h)]
    split
    · rename_i h1
      rw [min_eq_left h1.le]
    · rename_i h1
      rw [min_eq_right (not_lt.mp h1)]

lemma coerceAtMost_eq (x : ℤ) : KotlinRead.coerceAtMost x 5 = min 5 x := by
  unfold KotlinRead.coerceAtMost
  split <;> omega

/-- The guard of the Kotlin range. -/
lemma kotlin_range_iff {minimum maximum : Double} :
    (!minimum.isfinite || !maximum.isfinite || lt minimum (finite 0) || le maximum minimum) =
        false ↔
      minimum.isfinite = true ∧ maximum.isfinite = true ∧ 0 ≤ minimum.value ∧
        minimum.value < maximum.value := by
  by_cases hmin : minimum.isfinite = true
  · by_cases hmax : maximum.isfinite = true
    · rw [lt_of_isfinite hmin rfl, le_of_isfinite hmax hmin]
      simp only [hmin, hmax, Bool.not_true, Bool.false_or, Bool.or_eq_false_iff,
        decide_eq_false_iff_not, not_lt, not_le, true_and]
      rfl
    · simp [hmax]
  · simp [hmin]

/-- The guard of the Swift range. -/
lemma swift_range_iff {minimum maximum : Double} :
    (minimum.isfinite && maximum.isfinite && le (finite 0) minimum && lt minimum maximum) =
        true ↔
      minimum.isfinite = true ∧ maximum.isfinite = true ∧ 0 ≤ minimum.value ∧
        minimum.value < maximum.value := by
  by_cases hmin : minimum.isfinite = true
  · by_cases hmax : maximum.isfinite = true
    · rw [le_of_isfinite rfl hmin, lt_of_isfinite hmin hmax]
      simp only [hmin, hmax, Bool.true_and, Bool.and_eq_true, decide_eq_true_eq, true_and]
      rfl
    · simp [hmax]
  · simp [hmin]

namespace KotlinRead.FanSnapshot

variable {Instant : Type} {fan : KotlinRead.FanSnapshot Instant} {actual : Double}

lemma available_iff :
    fan.availability = .available ↔ ∃ actual, Turning fan.actualRpm actual := by
  cases hreading : fan.actualRpm with
  | none =>
    simp only [availability, hreading]
    exact ⟨nofun, fun ⟨_, h⟩ => nomatch h.reading⟩
  | some x =>
    simp only [availability, hreading]
    split
    · rename_i h
      obtain ⟨hfinite, hnonneg⟩ := turning_iff.mp h
      exact ⟨fun _ => ⟨x, rfl, hfinite, hnonneg⟩, fun _ => rfl⟩
    · rename_i h
      refine ⟨nofun, fun ⟨_, hturning⟩ => absurd ?_ h⟩
      obtain rfl := Option.some.inj hturning.reading
      exact turning_iff.mpr ⟨hturning.isfinite, hturning.nonneg⟩

/-- The level of a fan whose speed counts. -/
lemma level_of_turning (h : Turning fan.actualRpm actual) :
    fan.level =
      if actual.value = 0 then some 0
      else fan.minRpm.bind fun minimum => fan.maxRpm.bind fun maximum =>
        if !minimum.isfinite || !maximum.isfinite || lt minimum (finite 0) ||
            le maximum minimum then none
        else some (segments minimum.value maximum.value actual.value) := by
  have havailable : ¬ fan.availability ≠ .available := not_not.mpr (available_iff.mpr ⟨_, h⟩)
  simp only [level, if_neg havailable, h.reading, coerceIn_eq, coerceAtMost_eq]
  by_cases hzero : actual.value = 0
  · rw [if_pos hzero]
    exact if_pos ((eq_zero_iff h.isfinite).mpr hzero)
  · rw [if_neg hzero]
    exact if_neg (mt (eq_zero_iff h.isfinite).mp hzero)

lemma level_iff (fan : KotlinRead.FanSnapshot Instant) (level : ℤ) :
    fan.level = some level ↔ LevelOf fan.actualRpm fan.minRpm fan.maxRpm level := by
  constructor
  · intro h
    have hturning : ∃ actual, Turning fan.actualRpm actual := by
      by_contra hnone
      rw [FanSnapshot.level, if_pos (mt available_iff.mp hnone)] at h
      cases h
    obtain ⟨actual, hturning⟩ := hturning
    rw [level_of_turning hturning] at h
    split at h
    · obtain rfl := Option.some.inj h
      exact .stopped hturning ‹_›
    · rename_i hnonzero
      obtain ⟨minimum, hmin, h⟩ := Option.bind_eq_some_iff.mp h
      obtain ⟨maximum, hmax, h⟩ := Option.bind_eq_some_iff.mp h
      split at h
      · cases h
      · rename_i hrange
        obtain ⟨h1, h2, h3, h4⟩ := kotlin_range_iff.mp (Bool.not_eq_true _ ▸ hrange)
        obtain rfl := Option.some.inj h
        exact .running hturning hnonzero ⟨hmin, hmax, h1, h2, h3, h4⟩
  · intro h
    cases h with
    | stopped hturning hzero => rw [level_of_turning hturning, if_pos hzero]
    | running hturning hnonzero hrange =>
      have hguard := kotlin_range_iff.mpr ⟨hrange.minimumFinite, hrange.maximumFinite,
        hrange.nonneg, hrange.nonempty⟩
      rw [level_of_turning hturning, if_neg hnonzero, hrange.lower, hrange.upper,
        Option.bind_some, Option.bind_some, hguard]
      rfl

end KotlinRead.FanSnapshot

lemma StatusItem.Fan.level_iff (fan : StatusItem.Fan) (level : ℤ) :
    fan.level = some level ↔ LevelOf fan.actualRpm fan.minRpm fan.maxRpm level := by
  unfold StatusItem.Fan.level
  constructor
  · intro h
    obtain ⟨actual, hreading, h⟩ := Option.bind_eq_some_iff.mp h
    split at h
    · cases h
    rename_i hguard
    obtain ⟨hfinite, hnonneg⟩ := turning_iff.mp (by simpa using hguard)
    have hturning : Turning fan.actualRpm actual := ⟨hreading, hfinite, hnonneg⟩
    split at h
    · rename_i hzero
      obtain rfl := Option.some.inj h
      exact .stopped hturning ((eq_zero_iff hfinite).mp hzero)
    · rename_i hzero
      obtain ⟨minimum, hmin, h⟩ := Option.bind_eq_some_iff.mp h
      obtain ⟨maximum, hmax, h⟩ := Option.bind_eq_some_iff.mp h
      split at h
      · cases h
      · rename_i hrange
        obtain ⟨h1, h2, h3, h4⟩ := swift_range_iff.mp (by simpa using hrange)
        obtain rfl := Option.some.inj h
        exact .running hturning (mt (eq_zero_iff hfinite).mpr hzero) ⟨hmin, hmax, h1, h2, h3, h4⟩
  · intro h
    cases h with
    | stopped hturning hzero =>
      have hguard := turning_iff.mpr ⟨hturning.isfinite, hturning.nonneg⟩
      rw [hturning.reading]
      simp only [Option.bind_eq_bind, Option.bind_some, hguard, Bool.not_true, Bool.false_eq_true,
        if_false, (eq_zero_iff hturning.isfinite).mpr hzero, if_true]
    | running hturning hnonzero hrange =>
      have hguard := turning_iff.mpr ⟨hturning.isfinite, hturning.nonneg⟩
      have hnonzero' := mt (eq_zero_iff hturning.isfinite).mp hnonzero
      have hrange' := swift_range_iff.mpr ⟨hrange.minimumFinite, hrange.maximumFinite,
        hrange.nonneg, hrange.nonempty⟩
      rw [hturning.reading, hrange.lower, hrange.upper]
      simp only [Option.bind_eq_bind, Option.bind_some, hguard, Bool.not_true, Bool.false_eq_true,
        if_false, hnonzero', hrange']
      rfl

/-- The two implementations of the scale agree. -/
lemma level_agrees {Instant : Type} (fan : KotlinRead.FanSnapshot Instant) :
    (StatusItem.Fan.ofKotlin fan).level = fan.level :=
  Option.ext fun level => (StatusItem.Fan.level_iff _ level).trans (fan.level_iff level).symm

/-! What a level says. -/

lemma LevelOf.bounds {reading lower upper : Option Double} {level : ℤ}
    (h : LevelOf reading lower upper level) : 0 ≤ level ∧ level ≤ 5 := by
  cases h with
  | stopped => decide
  | running => exact ⟨zero_le_one.trans (segments_pos _ _ _), segments_le _ _ _⟩

/-- Only a fan that stands still has level zero. -/
lemma levelOf_zero_iff {reading lower upper : Option Double} :
    LevelOf reading lower upper 0 ↔ ∃ actual, reading = some actual ∧ actual.value? = some 0 := by
  constructor
  · intro h
    generalize hlevel : (0 : ℤ) = level at h
    cases h with
    | stopped hturning hzero =>
      rename_i actual
      obtain ⟨value, hvalue⟩ := Option.isSome_iff_exists.mp hturning.isfinite
      refine ⟨actual, hturning.reading, ?_⟩
      rw [Double.value, hvalue] at hzero
      rw [hvalue, ← hzero]
      rfl
    | running hturning hnonzero hrange =>
      exact absurd hlevel (zero_lt_one.trans_le (segments_pos _ _ _)).ne
  · rintro ⟨actual, hreading, hvalue⟩
    have hzero : actual.value = 0 := by rw [Double.value, hvalue]; rfl
    have hfinite : actual.isfinite = true := by rw [Double.isfinite, hvalue]; rfl
    exact .stopped ⟨hreading, hfinite, hzero.ge⟩ hzero

/-- In a range that counts, the level follows the speed. -/
lemma levelOf_mono {lower upper : Option Double} {minimum maximum actual actual' : Double}
    (hrange : RunningRange lower upper minimum maximum) (h : Turning (some actual) actual)
    (h' : Turning (some actual') actual') (hle : actual.value ≤ actual'.value) :
    ∃ level level', LevelOf (some actual) lower upper level ∧
      LevelOf (some actual') lower upper level' ∧ level ≤ level' := by
  by_cases hzero : actual.value = 0
  · by_cases hzero' : actual'.value = 0
    · exact ⟨0, 0, .stopped h hzero, .stopped h' hzero', le_rfl⟩
    · refine ⟨0, _, .stopped h hzero, .running h' hzero' hrange, ?_⟩
      have hpos := segments_pos minimum.value maximum.value actual'.value
      omega
  · have hzero' : actual'.value ≠ 0 := by
      intro hcontra
      exact hzero (Rat.le_antisymm (hle.trans hcontra.le) h.nonneg)
    exact ⟨_, _, .running h hzero hrange, .running h' hzero' hrange,
      segments_mono hrange.nonempty hle⟩

/-! The level of all fans. -/

/-- A list with as many entries as a range and the same set of them is that range. -/
lemma indices_perm_iff (indices : List ℤ) (count : ℤ) :
    (count = indices.length ∧
        indices.toFinset = ((List.range count.toNat).map Int.ofNat).toFinset) ↔
      0 ≤ count ∧ indices.Perm ((List.range count.toNat).map Int.ofNat) := by
  have hnodup : ((List.range count.toNat).map Int.ofNat).Nodup :=
    List.nodup_range.map fun a b h => Int.ofNat.inj h
  constructor
  · rintro ⟨hcount, hset⟩
    refine ⟨by omega, List.perm_of_nodup_nodup_toFinset_eq ?_ hnodup hset⟩
    have hcard : indices.toFinset.card = indices.length := by
      rw [hset, List.toFinset_card_of_nodup hnodup, List.length_map, List.length_range]
      omega
    exact Multiset.toFinset_card_eq_card_iff_nodup.mp hcard
  · rintro ⟨h0, hperm⟩
    refine ⟨?_, List.toFinset_eq_of_perm _ _ hperm⟩
    have hlength := hperm.length_eq
    rw [List.length_map, List.length_range] at hlength
    omega

/-- A status whose fans are all there, once each, and all have a level. -/
structure KotlinRead.StatusSnapshot.Complete {Instant : Type}
    (snapshot : KotlinRead.StatusSnapshot Instant) (count : ℤ) : Prop where
  declared : snapshot.declaredFanCount = some count
  positive : 0 < count
  indices : (snapshot.fans.map (·.index)).Perm ((List.range count.toNat).map Int.ofNat)
  levels : ∀ fan ∈ snapshot.fans, fan.level ≠ none

/-- The greatest of the levels, when there are fans and all of them have one. -/
lemma max_levels_iff {levels : List (Option ℤ)} (hne : levels ≠ []) (level : ℤ) :
    (if levels.any (·.isNone) then none else (levels.filterMap id).max?) = some level ↔
      (∀ l ∈ levels, l ≠ none) ∧ some level ∈ levels ∧ ∀ l, some l ∈ levels → l ≤ level := by
  by_cases hmissing : levels.any (·.isNone) = true
  · rw [if_pos hmissing]
    obtain ⟨l, hl, hnone⟩ := List.any_eq_true.mp hmissing
    exact ⟨nofun, fun h => absurd (Option.isNone_iff_eq_none.mp hnone) (h.1 l hl)⟩
  · have hall : ∀ l ∈ levels, l ≠ none := by
      rintro _ hl rfl
      exact hmissing (List.any_eq_true.mpr ⟨none, hl, rfl⟩)
    rw [if_neg hmissing, List.max?_eq_some_iff]
    simp only [List.mem_filterMap, id_eq, exists_eq_right]
    exact ⟨fun h => ⟨hall, h⟩, fun h => h.2⟩

namespace KotlinRead.StatusSnapshot

variable {Instant : Type} {snapshot : KotlinRead.StatusSnapshot Instant}

/-- The levels of the fans, when the indices are those of the declared count. -/
lemma trayLevel_iff (level : ℤ) :
    snapshot.trayLevel = some level ↔
      ∃ count, snapshot.declaredFanCount = some count ∧ 0 < count ∧
        (snapshot.fans.map (·.index)).Perm ((List.range count.toNat).map Int.ofNat) ∧
        (∀ fan ∈ snapshot.fans, fan.level ≠ none) ∧
        (∃ fan ∈ snapshot.fans, fan.level = some level) ∧
        ∀ fan ∈ snapshot.fans, ∀ l, fan.level = some l → l ≤ level := by
  rw [trayLevel]
  cases hcount : snapshot.declaredFanCount with
  | none => exact ⟨nofun, fun ⟨_, h, _⟩ => nomatch h⟩
  | some count =>
    have hindices := indices_perm_iff (snapshot.fans.map (·.index)) count
    rw [List.length_map] at hindices
    simp only [Option.bind_eq_bind, Option.bind_some, Option.some.injEq, exists_eq_left']
    by_cases hguard : count = 0 ∨ count ≠ snapshot.fans.length ∨
        (snapshot.fans.map (·.index)).toFinset ≠
          ((List.range count.toNat).map Int.ofNat).toFinset
    · rw [if_pos hguard]
      refine ⟨nofun, fun ⟨hpos, hperm, _⟩ => ?_⟩
      obtain ⟨hlength, hset⟩ := hindices.mpr ⟨hpos.le, hperm⟩
      exact absurd hguard (by simp [hpos.ne', ← hlength, hset])
    · rw [if_neg hguard]
      simp only [ne_eq, not_or, not_not] at hguard
      obtain ⟨hnonzero, hlength, hset⟩ := hguard
      obtain ⟨hnonneg, hperm⟩ := hindices.mp ⟨hlength, hset⟩
      have hne : snapshot.fans.map (·.level) ≠ [] := by
        intro hnil
        rw [List.map_eq_nil_iff.mp hnil] at hlength
        exact hnonzero hlength
      rw [max_levels_iff hne]
      simp only [List.mem_map, forall_exists_index, and_imp, forall_apply_eq_imp_iff₂]
      exact ⟨fun h => ⟨by omega, hperm, h.1, h.2.1, fun fan hfan l hl => h.2.2 l fan hfan hl⟩,
        fun h => ⟨h.2.2.1, h.2.2.2.1, fun l fan hfan hl => h.2.2.2.2 fan hfan l hl⟩⟩

end KotlinRead.StatusSnapshot

/-- The level of the menu bar's own process is the greatest of the same levels. -/
lemma combinedLevel_iff {Instant : Type} {snapshot : KotlinRead.StatusSnapshot Instant}
    (hne : snapshot.fans ≠ []) (level : ℤ) :
    (StatusItem.Snapshot.ofKotlin snapshot).combinedLevel = some level ↔
      (∀ fan ∈ snapshot.fans, fan.level ≠ none) ∧
        (∃ fan ∈ snapshot.fans, fan.level = some level) ∧
        ∀ fan ∈ snapshot.fans, ∀ l, fan.level = some l → l ≤ level := by
  have hlevels : ((StatusItem.Snapshot.ofKotlin snapshot).fans.map (·.level)) =
      snapshot.fans.map (·.level) := by
    rw [StatusItem.Snapshot.ofKotlin, List.map_map]
    exact List.map_congr_left fun fan _ => level_agrees fan
  have hempty : (StatusItem.Snapshot.ofKotlin snapshot).fans.isEmpty = false := by
    rw [StatusItem.Snapshot.ofKotlin, List.isEmpty_map]
    exact List.isEmpty_eq_false_iff.mpr hne
  have hall : ∀ levels : List (Option ℤ), (!levels.all (·.isSome)) = levels.any (·.isNone) := by
    intro levels
    rw [List.not_all_eq_any_not]
    simp
  rw [StatusItem.Snapshot.combinedLevel, hempty, hlevels]
  simp only [Bool.false_eq_true, if_false, hall]
  rw [max_levels_iff (by simpa using hne)]
  simp only [List.mem_map, forall_exists_index, and_imp, forall_apply_eq_imp_iff₂]
  exact ⟨fun h => ⟨h.1, h.2.1, fun fan hfan l hl => h.2.2 l fan hfan hl⟩,
    fun h => ⟨h.1, h.2.1, fun l fan hfan hl => h.2.2 fan hfan l hl⟩⟩

/-- What the level of one fan says. -/
structure KotlinRead.FanSnapshot.LevelFits {Instant : Type}
    (fan : KotlinRead.FanSnapshot Instant) : Prop where
  bounds : ∀ level, fan.level = some level → 0 ≤ level ∧ level ≤ 5
  zero : fan.level = some 0 ↔ ∃ actual, fan.actualRpm = some actual ∧ actual.value? = some 0
  mono : ∀ (fan' : KotlinRead.FanSnapshot Instant) (minimum maximum actual actual' : Double),
    fan'.minRpm = fan.minRpm → fan'.maxRpm = fan.maxRpm →
    RunningRange fan.minRpm fan.maxRpm minimum maximum → Turning fan.actualRpm actual →
    Turning fan'.actualRpm actual' → actual.value ≤ actual'.value →
    ∃ level level', fan.level = some level ∧ fan'.level = some level' ∧ level ≤ level'
  swift : (StatusItem.Fan.ofKotlin fan).level = fan.level

lemma KotlinRead.FanSnapshot.levelFits {Instant : Type} (fan : KotlinRead.FanSnapshot Instant) :
    fan.LevelFits where
  bounds level h := ((fan.level_iff level).mp h).bounds
  zero := (fan.level_iff 0).trans levelOf_zero_iff
  mono fan' minimum maximum actual actual' hmin hmax hrange h h' hle := by
    obtain ⟨level, level', hlevel, hlevel', hmono⟩ := levelOf_mono hrange
      ⟨rfl, h.isfinite, h.nonneg⟩ ⟨rfl, h'.isfinite, h'.nonneg⟩ hle
    refine ⟨level, level', (fan.level_iff level).mpr ?_, (fan'.level_iff level').mpr ?_, hmono⟩
    · rwa [h.reading]
    · rwa [h'.reading, hmin, hmax]
  swift := level_agrees fan

/-- `level` and `trayLevel` for every reading, the same in the app and in the menu bar's process. -/
theorem tray_levels_match {Instant : Type} (snapshot : KotlinRead.StatusSnapshot Instant) :
    (∀ fan : KotlinRead.FanSnapshot Instant, fan.LevelFits) ∧
      (snapshot.trayLevel ≠ none ↔ ∃ count, snapshot.Complete count) ∧
      ∀ level, snapshot.trayLevel = some level →
        (∃ fan ∈ snapshot.fans, fan.level = some level) ∧
        (∀ fan ∈ snapshot.fans, ∀ l, fan.level = some l → l ≤ level) ∧
        (StatusItem.Snapshot.ofKotlin snapshot).combinedLevel = some level := by
  refine ⟨KotlinRead.FanSnapshot.levelFits, ⟨?known, ?complete⟩, ?greatest⟩
  case known =>
    intro h
    obtain ⟨level, hlevel⟩ := Option.ne_none_iff_exists'.mp h
    obtain ⟨count, hcount, hpos, hperm, hall, -⟩ := (snapshot.trayLevel_iff level).mp hlevel
    exact ⟨count, hcount, hpos, hperm, hall⟩
  case complete =>
    rintro ⟨count, h⟩
    have hne : snapshot.fans ≠ [] := by
      intro hnil
      have hlength := h.indices.length_eq
      rw [hnil, List.map_nil, List.length_nil, List.length_map, List.length_range] at hlength
      have hpos := h.positive
      omega
    obtain ⟨greatest, hgreatest⟩ : ∃ level, level ∈ snapshot.fans.filterMap (·.level) ∧
        ∀ l ∈ snapshot.fans.filterMap (·.level), l ≤ level := by
      obtain ⟨fan, hfan⟩ := List.exists_mem_of_ne_nil _ hne
      obtain ⟨level, hlevel⟩ := Option.ne_none_iff_exists'.mp (h.levels fan hfan)
      have hmem : level ∈ snapshot.fans.filterMap (·.level) :=
        List.mem_filterMap.mpr ⟨fan, hfan, hlevel⟩
      obtain ⟨greatest, hmax⟩ := Option.isSome_iff_exists.mp (List.isSome_max?_of_mem hmem)
      exact ⟨greatest, List.max?_eq_some_iff.mp hmax⟩
    simp only [List.mem_filterMap, forall_exists_index, and_imp] at hgreatest
    have hlevel := (snapshot.trayLevel_iff greatest).mpr ⟨count, h.declared, h.positive, h.indices,
      h.levels, hgreatest.1, fun fan hfan l hl => hgreatest.2 l fan hfan hl⟩
    rw [hlevel]
    exact Option.some_ne_none _
  case greatest =>
    intro level hlevel
    obtain ⟨count, -, hpos, hperm, hall, hmem, hle⟩ := (snapshot.trayLevel_iff level).mp hlevel
    have hne : snapshot.fans ≠ [] := List.ne_nil_of_mem hmem.choose_spec.1
    exact ⟨hmem, hle, (combinedLevel_iff hne level).mpr ⟨hall, hmem, hle⟩⟩

end Ventilator
