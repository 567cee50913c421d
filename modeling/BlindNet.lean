import BlindNet.Lib.Layout
import BlindNet.Lib.PrefixArray
import BlindNet.Lib.FirstMatch
import BlindNet.Lib.Ring
import BlindNet.Lib.Machine
import BlindNet.Lib.Network
import BlindNet.Lib.CString
import BlindNet.Lib.Decimal
import BlindNet.Lib.BitMask
import BlindNet.Lib.StructPack
import BlindNet.Platform
import BlindNet.AminoAcids
import BlindNet.RnaMembrane
import BlindNet.RibosomeTable
import BlindNet.ActiveSubstance
import BlindNet.ActiveEnzyme
import BlindNet.CapsulePill
import BlindNet.ActionPill
import BlindNet.PillTools
import BlindNet.Membrane
import BlindNet.Stomach
import BlindNet.Broker
import BlindNet.G2g
import BlindNet.Conscience
import BlindNet.ClientImages
import BlindNet.Interop
import BlindNet.Distinguish
import BlindNet.RegistrationOrder
import BlindNet.Reassembly
import BlindNet.Delivery
import BlindNet.Authorisation
import BlindNet.Replay
import BlindNet.Suppression
import BlindNet.SeenCache
import BlindNet.Interleaving
import BlindNet.DigestBounds
import BlindNet.Flooding
import BlindNet.Expiry
import BlindNet.RelayGate
import BlindNet.Lib.KeyedTable
import BlindNet.CleanTables
import BlindNet.Nvs
import BlindNet.TableStores
import BlindNet.AdminForm
import BlindNet.AdminServer
import BlindNet.AdminLock
import BlindNet.Referential
import BlindNet.FormSubmission
import BlindNet.Submission
import BlindNet.FlowTable
import BlindNet.QuarantineManager
import BlindNet.PolicyEngine
import BlindNet.RateLimiter
import BlindNet.DeviceRegistry
import BlindNet.ZoneFirewall
import BlindNet.FirewallVerdict
import BlindNet.QuarantineHold
import BlindNet.PolicyQuarantine
import BlindNet.DnsWorker
import BlindNet.DeviceMembrane
import BlindNet.AdminMode
import BlindNet.BleTransport
import BlindNet.DeviceIdentity
import BlindNet.Fragmenters
import BlindNet.DnsFilter
import BlindNet.Lib.NumberedTable
import BlindNet.RuleIdentity
import BlindNet.Lib.SlotAccount
import BlindNet.TableAccounts
import BlindNet.Commandable
import BlindNet.Lib.LabelName
import BlindNet.DnsName
import BlindNet.DnsAnswer
import BlindNet.Lib.SlotLookup
import BlindNet.QuarantineMap
import BlindNet.QuarantineTtl
import BlindNet.RateMap
import BlindNet.Lib.FixedWindow
import BlindNet.RateWindows
import BlindNet.RatePace
import BlindNet.Housekeeping
import BlindNet.FlowMap
import BlindNet.Eviction
import BlindNet.RuleChoice
import BlindNet.Lib.BoundedMap
import BlindNet.RibosomeMap
import BlindNet.RnaMap
import BlindNet.Lib.Checksum
import BlindNet.StoreCorruption
import BlindNet.CanonicalEncodings
import BlindNet.Coverage
import BlindNet.CpCache
import BlindNet.DecimalPayload
import BlindNet.DigestionContract
import BlindNet.Lib.Mqtt
import BlindNet.LocalPublish
import BlindNet.NotMine
import BlindNet.SendAtomicity
import BlindNet.StaleSlots
import BlindNet.CapsuleBuilder
import BlindNet.FlowHash
import BlindNet.FormEncoding
import BlindNet.Lib.Streak
import BlindNet.Lib.Words
import BlindNet.MembraneSave
import BlindNet.NumericFields
import BlindNet.SetupButton
import BlindNet.Lib.Flood
import BlindNet.FloodReach
import BlindNet.NetworkPublications
import BlindNet.LedDevice
import BlindNet.EndToEnd
import BlindNet.AdminClient
