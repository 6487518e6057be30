import Ventilator.JournalMarking
import Ventilator.TrialUnlockGuards
import Ventilator.WindowRuns
import Ventilator.RestoreSystem
import Ventilator.RestoreCommands
import Ventilator.RehearsalWrites
import Ventilator.TrialClock
import Ventilator.InterruptedTrials
import Ventilator.OldWorker
import Ventilator.SupervisorClearing
import Ventilator.SupervisorProbeRuns
import Ventilator.BufferLog
import Ventilator.StatusReadings
import Ventilator.TrialPlanning
import Ventilator.DecoderAgreement
import Ventilator.EventPrinting
import Ventilator.TrayLine
import Ventilator.MonitorRefresh
import Ventilator.LoginItem
import Ventilator.MenuBarSend
import Ventilator.TemperatureReadings
import Ventilator.TestSearch
import Ventilator.CoverageResult
import Ventilator.SupervisorMarker
import Ventilator.ProbeAdmission
import Ventilator.SupervisorRequest
import Ventilator.RunnerStaging
import Ventilator.ReportShown
