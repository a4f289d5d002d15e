import Captastic.Analysis.SnapshotBudget
import Captastic.Analysis.ReviewAnswers
import Captastic.Analysis.EventOrder
import Captastic.Analysis.DisplayQueries
import Captastic.Analysis.FrameBuffers
import Captastic.Analysis.PublishedRegions
import Captastic.Analysis.CaptureRecovery
import Captastic.Analysis.SelectionAccounting
import Captastic.Analysis.Hotkeys
import Captastic.Analysis.Bitmaps
import Captastic.Analysis.HistoryRetention
import Captastic.Analysis.SnapGuides
import Captastic.Analysis.ClipboardLoss
import Captastic.Analysis.DetachAccounting
import Captastic.Analysis.RenderSlots
import Captastic.Analysis.UiUpdateOrder
import Captastic.Analysis.Mp4Playback
import Captastic.Analysis.LogRotation
import Captastic.Analysis.PointerDrawing
import Captastic.Analysis.SettingEdits
import Captastic.Analysis.EditorPreview
import Captastic.Analysis.StopPlacement
import Captastic.Analysis.CaptureTimes
import Captastic.Analysis.LabelPlacement
import Captastic.Analysis.RegionTurns
import Captastic.Analysis.RememberedUi
import Captastic.Analysis.CaptureFiles
import Captastic.Analysis.RecordedLength
import Captastic.Analysis.LockedSaves
import Captastic.Analysis.FileJobsKept
import Captastic.Analysis.DraftsAtExit
import Captastic.Analysis.OverviewRenders
import Captastic.Analysis.TrayAtRest
import Captastic.Analysis.RequestsAnswered
