import Ventilator.DoubleValue

/-! The fixed read-only snapshot of the helper and its two predicates, from
`SmcBaselineRead`. A null snapshot pointer is `none`. -/
namespace Ventilator
open Double

structure SmcBaselineSnapshot where
  ftst : UInt8
  mode : Fin 2 → UInt8
  targetRpm : Fin 2 → Double
  actualRpm : Fin 2 → Double
  /-- TCMz, Tg0D, TH0a; a NaN means unavailable. -/
  temperaturesC : Fin 3 → Double
  deriving DecidableEq

inductive SmcBaselineResult
  | ok
  | unsupportedEnvironment
  | openFailed
  | readFailed
  | unexpectedFormat
  deriving DecidableEq

def smcBaselineTemperatureValid (celsius : Double) : Bool :=
  celsius.isfinite && le (finite 10) celsius && le celsius (finite 115)

def smcBaselineIsSystem : Option SmcBaselineSnapshot → Bool
  | none => false
  | some snapshot =>
    snapshot.ftst == 0 &&
      (List.finRange 2).all fun fan =>
        snapshot.mode fan == 3 && (snapshot.targetRpm fan).isfinite &&
          !lt (finite 1) (fabs (snapshot.targetRpm fan))

end Ventilator
