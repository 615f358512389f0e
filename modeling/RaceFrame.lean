import RaceFrame.Archive.RoundTrip
import RaceFrame.Archive.SafeNames
import RaceFrame.Events.Slugs
import RaceFrame.Isolation.Runs
import RaceFrame.Matching.FaceOrders
import RaceFrame.Roster.SheetNumbers
import RaceFrame.Search.BibStrength
import RaceFrame.Search.CommonSubstring
import RaceFrame.Search.Pages
import RaceFrame.Search.Probes
import RaceFrame.Search.Reinforcement
import RaceFrame.Search.SeedLinkage
import RaceFrame.Security.AdminLock
import RaceFrame.Security.Admission
import RaceFrame.Security.BodyLimit
import RaceFrame.Security.RateLimits
import RaceFrame.Security.Retention
import RaceFrame.Storage.Custody
import RaceFrame.Storage.Fencing
import RaceFrame.Storage.Reconcile
import RaceFrame.Text.JsonBounds
import RaceFrame.Upload.AllOrNothing
import RaceFrame.Upload.Budget
import RaceFrame.Worker.AtMostOnce
import RaceFrame.Worker.FaceResults
import RaceFrame.Worker.PhotoRace
import RaceFrame.Worker.Presence
import RaceFrame.Worker.Records
import RaceFrame.Worker.Rejections
import RaceFrame.Worker.Renewal
import RaceFrame.Worker.SearchStatus
import RaceFrame.Worker.VisionWords
