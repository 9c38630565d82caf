import ScopedStore.Database.Workbench
import ScopedStore.Logging.Setup
import ScopedStore.Main
import ScopedStore.Model.Draft
import ScopedStore.Store.Census
import ScopedStore.Store.Session
import ScopedStore.Proofs.UndoneValues
import ScopedStore.Proofs.FreshValues
import ScopedStore.Proofs.WireForm
import ScopedStore.Proofs.LostUpdates
import ScopedStore.Proofs.StoredRecords
import ScopedStore.Proofs.Graph.Plans
import ScopedStore.Proofs.Survivors
import ScopedStore.Proofs.KeptScopes
import ScopedStore.Proofs.Tracking
import ScopedStore.Proofs.Delivery
import ScopedStore.Proofs.VersionLaw
import ScopedStore.Proofs.Representation
import ScopedStore.Proofs.Graph.Turns
import ScopedStore.Proofs.Graph.History
import ScopedStore.Proofs.Graph.Service
import ScopedStore.Proofs.Logs.Requests
import ScopedStore.Proofs.Logs.Steps
import ScopedStore.Proofs.Logs.Stores
import ScopedStore.Proofs.Logs.Openings
import ScopedStore.Proofs.Logs.Secrecy
import ScopedStore.Proofs.Logs.SettingUp
import ScopedStore.Proofs.Graph.FirstData
import ScopedStore.Proofs.TwoReaders
import ScopedStore.Proofs.WaitingTimes
import ScopedStore.Proofs.Graph.Effects
import ScopedStore.Proofs.Graph.Midway
import ScopedStore.Proofs.AtomicWrites
import ScopedStore.Proofs.WireGrammar
import ScopedStore.Proofs.Listings
import ScopedStore.Proofs.Tombstones
import ScopedStore.Proofs.ReusedIds
import ScopedStore.Proofs.Registry
import ScopedStore.Proofs.Sessions
import ScopedStore.Proofs.TombstoneLists
import ScopedStore.Proofs.OpenScopes
