import Skrillax.InventoryLog
import Skrillax.Table
import Skrillax.ItemRows
import Skrillax.Flush
import Skrillax.SkillBook
import Skrillax.InventoryMovement
import Skrillax.InventoryStacks
import Skrillax.Accounting
import Skrillax.InventoryQuantity
import Skrillax.Pickup
import Skrillax.LittleEndian
import Skrillax.RustSlice
import Skrillax.Frame
import Skrillax.FrameDecoder
import Skrillax.Serialization
import Skrillax.ServerPacket
import Skrillax.StreamReader
import Skrillax.MakeItem
import Skrillax.PlayerInput
import Skrillax.Character
import Skrillax.GeneratedCode
import Skrillax.DeriveDeserialize
import Skrillax.DeriveCheck
import Skrillax.FieldNames
import Skrillax.ReadableFields
import Skrillax.DeriveSerialize
import Skrillax.DeriveRoundTrip
import Skrillax.SquareMultiply
import Skrillax.KeyExchange
import Skrillax.SecurityRuns
import Skrillax.SecurityHandshake
import Skrillax.Interference
import Skrillax.LoginQueue
import Skrillax.Capacity
import Skrillax.Reservations
import Skrillax.Authentication
import Skrillax.Sessions
import Skrillax.CharacterSelection
import Skrillax.Join
import Skrillax.SelectionRuns
import Skrillax.NameChecks
import Skrillax.JoinRuns
import Skrillax.Bars
import Skrillax.Masteries
import Skrillax.SkillLearning
import Skrillax.PendingReports
import Skrillax.Reports
import Skrillax.IdLedger
import Skrillax.EntityIds
import Skrillax.Spawner
import Skrillax.AgentStates
import Skrillax.GmCommands
import Skrillax.KeyedReplica
import Skrillax.Visibility
import Skrillax.Combat
import Skrillax.CombatSteps
import Skrillax.CombatRuns
import Skrillax.InventoryMoves
import Skrillax.InventoryRemoval
import Skrillax.InventoryAddition
import Skrillax.EquipmentAnnouncements
import Skrillax.DeriveSize
import Skrillax.CellSearch
import Skrillax.CountByte
import Skrillax.FieldRoundTrip
import Skrillax.RegionGrid
import Skrillax.Experience
import Skrillax.ExperienceRuns
import Skrillax.LevelUps
import Skrillax.LevelCommand
import Skrillax.GoldDrops
import Skrillax.BarChanges
import Skrillax.KillingBlow
import Skrillax.Decryptor
import Skrillax.DiscreteLog
import Skrillax.ExponentSearch
import Skrillax.PackedName
import Skrillax.RowReader
import Skrillax.SkillParams
import Skrillax.TypeValue
import Skrillax.SkillParamRoundTrip
import Skrillax.RustParse
import Skrillax.SkillLine
import Skrillax.SkillColumns
import Skrillax.ObjectStrings
import Skrillax.EnabledRegions
import Skrillax.Heightmap
import Skrillax.CatchUp
import Skrillax.Daylight
import Skrillax.ModularPower
import Skrillax.EarliestMax
import Skrillax.TransitionQueue
import Skrillax.Persistence
import Skrillax.SilkroadTime
import Skrillax.Gateway
import Skrillax.LoginSystem
import Skrillax.LoginProtocol
import Skrillax.LoginCompletion
import Skrillax.Connection
import Skrillax.CharacterStore
import Skrillax.CharacterOwnership
import Skrillax.CharacterLifecycle
import Skrillax.PlayerNames
import Skrillax.ChatDelivery
import Skrillax.MutualSight
import Skrillax.TypeIdCodes
import Skrillax.IdSupply
import Skrillax.LobbyProgress
import Skrillax.KillRewards
