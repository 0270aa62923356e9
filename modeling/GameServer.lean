import GameServer.Lib.Table
import GameServer.Lib.Mailbox
import GameServer.Lib.Counts
import GameServer.Lib.Index
import GameServer.Lib.Run
import GameServer.Lib.ListSet
import GameServer.Lib.Buckets
import GameServer.Lib.SortedList
import GameServer.World.ZoneSector
import GameServer.World.ZoneActor
import GameServer.World.AoiDiff
import GameServer.World.SessionKey
import GameServer.World.SessionRegistry
import GameServer.Lib.Bytes
import GameServer.Lib.Records
import GameServer.Lib.Pool
import GameServer.World.TcpServer
import GameServer.Net.Framing
import GameServer.Net.SlotTable
import GameServer.World.DelayedClose
import GameServer.World.RegistryIndex
import GameServer.World.EnterStage
import GameServer.World.CharacterState
import GameServer.World.ZoneRoute
import GameServer.World.Runtime
import GameServer.World.RegistryEffects
import GameServer.World.HandlerEffects
import GameServer.World.CloseTimers
import GameServer.World.ClosedConnection
import GameServer.World.GraceClose
import GameServer.World.GhostCharacters
import GameServer.World.SlotReuse
import GameServer.World.DqsPool
import GameServer.World.WriteBehind
import GameServer.World.LostUpdate
import GameServer.World.BatchFlush
import GameServer.World.FlushShards
import GameServer.World.PlayerActor
import GameServer.World.Reentry
import GameServer.World.PersistenceKeys
import GameServer.World.AssignTables
import GameServer.World.AssignFrame
import GameServer.World.AssignEffects
import GameServer.World.MapAssign
import GameServer.World.RoutingFrame
import GameServer.World.AssignedServers
import GameServer.World.PortalTransfer
import GameServer.World.EnterTarget
import GameServer.World.EnterRequests
import GameServer.World.EnterAnswers
import GameServer.World.ActorTasks
import GameServer.World.CharacterZones
import GameServer.World.ActorOwnership
import GameServer.World.LootTransactions
import GameServer.World.LatestSerial
import GameServer.Account.AccountLine
import GameServer.Account.Tickets
import GameServer.Account.TicketWorlds
import GameServer.Account.WorldRegistry
import GameServer.Login.LoginLine
import GameServer.Login.LoginIndex
import GameServer.Login.LateResults
import GameServer.Zone.SpatialIndex
import GameServer.Zone.ZoneRuntime
import GameServer.Zone.SpatialExact
import GameServer.Zone.InstanceCounts
import GameServer.Zone.AoiMessages
import GameServer.Zone.Sight
import GameServer.Zone.ClientViews
import GameServer.Net.ActorSystem
import GameServer.Account.AccountDqs
import GameServer.World.ZoneLink
import GameServer.World.AssignedInstances
import GameServer.World.WaitingEnters
import GameServer.World.RecalledEnters
import GameServer.World.AbandonedEnters
import GameServer.Lib.Layout
import GameServer.Net.Batches
import GameServer.Zone.AoiCodec
import GameServer.World.BatchPackets
import GameServer.Lib.Signed
import GameServer.Zone.CheckedSight
import GameServer.World.CheckedCells
import GameServer.World.PendingSends
import GameServer.World.StaleSends
import GameServer.World.MoveCoalescing
import GameServer.World.CellPublish
import GameServer.World.MoveTick
import GameServer.World.MoveAnnouncements
import GameServer.World.FlushReport
import GameServer.World.PositionLink
import GameServer.World.PositionFits
import GameServer.World.SettledPositions
import GameServer.World.MirroredPositions
import GameServer.Lib.RunningBest
import GameServer.World.RouteSelection
import GameServer.World.ActorProjections
import GameServer.World.CombatStats
import GameServer.World.PrivateInstances
import GameServer.World.TicketRefusals
import GameServer.Config.ServerTopology
import GameServer.Lib.Decimal
import GameServer.Config.NumericParse
import GameServer.Data.ZoneData
import GameServer.World.PortalData
import GameServer.Lib.Delimited
import GameServer.Data.ZoneCsv
import GameServer.Data.ZoneBinary
import GameServer.Lib.Gathering
import GameServer.Data.Extraction
import GameServer.Data.ItemTemplates
import GameServer.Data.LevelTable
import GameServer.Lib.FoldedTable
import GameServer.World.ExpectedVersions
import GameServer.Lib.Positional
import GameServer.Lib.JoinedNumbers
import GameServer.Account.WorldTokens
import GameServer.Lib.Loop
import GameServer.Lib.SecureHash
import GameServer.Crypto.Sha256
import GameServer.Account.PasswordCheck
import GameServer.Login.LoginRequests
import GameServer.Login.RequestAccounts
import GameServer.Account.SignIn
import GameServer.Login.RequestSources
import GameServer.Account.SignInTrace
import GameServer.World.SessionIdentities
import GameServer.World.SignedSessions
import GameServer.Net.TcpClient
import GameServer.Net.Reconnect
import GameServer.Net.LineHost
import GameServer.Account.WorldLinks
import GameServer.Account.LinkedWorlds
import GameServer.Account.RouteSurvival
import GameServer.Account.WorldList
import GameServer.Data.ItemSource
import GameServer.Data.ItemImport
