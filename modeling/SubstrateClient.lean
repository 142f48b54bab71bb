import SubstrateClient.ByteParser
import SubstrateClient.Outcome
import SubstrateClient.LittleEndian
import SubstrateClient.Scale.Stream
import SubstrateClient.Scale.Compact
import SubstrateClient.Scale.Canonical
import SubstrateClient.Chain.GenericExtrinsic
import SubstrateClient.Chain.ExtrinsicJson
import SubstrateClient.CutInput
import SubstrateClient.Scale.PanicFreedom
import SubstrateClient.Scale.Truncation
import SubstrateClient.Types.ExtrinsicRoundTrip
import SubstrateClient.Types.Signing
import SubstrateClient.Types.UnknownTags
import SubstrateClient.Types.Beefy
import SubstrateClient.Types.BitVecDigits
import SubstrateClient.Types.Moment
import SubstrateClient.Types.Address
import SubstrateClient.Types.RawBytes
import SubstrateClient.Types.ChunkedNumbers
import SubstrateClient.Types.ExtrinsicStatusJson
import SubstrateClient.Registry.Traversal
import SubstrateClient.Registry.Direct
import SubstrateClient.Registry.Equivalence
import SubstrateClient.Registry.Overrides
import SubstrateClient.Registry.Recursive
import SubstrateClient.Registry.Reencoding
import SubstrateClient.Registry.Consumption
import SubstrateClient.Registry.Returning
import SubstrateClient.Registry.CompactValues
import SubstrateClient.Registry.NestingDepth
import SubstrateClient.Registry.BitSequenceNames
import SubstrateClient.Registry.EventRecords
import SubstrateClient.Registry.CompactNarrowing
import SubstrateClient.Registry.ErrorIdentity
import SubstrateClient.Retrieval.History
import SubstrateClient.Retrieval.Attempts
import SubstrateClient.MetadataFormat.RegistryView
import SubstrateClient.MetadataFormat.CallIndexView
import SubstrateClient.StorageKey.LegacyMaps
import SubstrateClient.Xcm.Instruction
import SubstrateClient.Xcm.CutLocations
import SubstrateClient.Interleaving
import SubstrateClient.Rpc.Message
import SubstrateClient.Rpc.Subscription
import SubstrateClient.Rpc.Client
import SubstrateClient.HandedLock
import SubstrateClient.Rpc.Routing
import SubstrateClient.Rpc.Delivery
import SubstrateClient.Rpc.LostRequests
import SubstrateClient.Rpc.ServedRequests
import SubstrateClient.Rpc.UnsubscribeRace
import SubstrateClient.Rpc.Http
import SubstrateClient.Rpc.Serving
import SubstrateClient.Xcm.Versioned
import SubstrateClient.StorageKey.HashObjects
import SubstrateClient.JsonPrinter
import SubstrateClient.Types.HeaderJson
import SubstrateClient.Types.ChangeSetJson
import SubstrateClient.StorageKey.KeyIdentity
import SubstrateClient.Rpc.ServerStop
import SubstrateClient.Rpc.StorageReplica
