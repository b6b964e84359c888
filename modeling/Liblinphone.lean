import Liblinphone.PayloadType
import Liblinphone.Text
import Liblinphone.StreamConfiguration
import Liblinphone.StreamDescription
import Liblinphone.MediaDescription
import Liblinphone.Library.Search
import Liblinphone.Library.Run
import Liblinphone.Library.Grouping
import Liblinphone.PayloadMatching
import Liblinphone.PayloadTypeHandler
import Liblinphone.OfferAnswer
import Liblinphone.MediaNegotiation
import Liblinphone.Exchange
import Liblinphone.CapabilityNegotiation
import Liblinphone.EktManager
import Liblinphone.ChatMessage
import Liblinphone.Imdn
import Liblinphone.Address
import Liblinphone.Library.Keyed
import Liblinphone.Participant
import Liblinphone.ConferenceDocument
import Liblinphone.ClientConferenceEventHandler
import Liblinphone.ServerConferenceEventHandler
import Liblinphone.Library.Scan
import Liblinphone.LpConfig
import Liblinphone.ConferenceInvitations
import Liblinphone.ConferenceInfo
import Liblinphone.ConferenceScheduler
import Liblinphone.Proofs.PayloadMatching
import Liblinphone.Proofs.ConfigurationNegotiation
import Liblinphone.Proofs.CryptoAgreement
import Liblinphone.Proofs.StreamNegotiation
import Liblinphone.Proofs.Exchange
import Liblinphone.Proofs.TransportAgreement
import Liblinphone.Proofs.MediaNegotiation
import Liblinphone.Proofs.CodecAgreement
import Liblinphone.Proofs.AnswerShape
import Liblinphone.Proofs.NegotiationFrame
import Liblinphone.Proofs.BundleCoherence
import Liblinphone.Proofs.EktPairing
import Liblinphone.Proofs.ImdnConservation
import Liblinphone.Proofs.GroupMessage
import Liblinphone.Proofs.ImdnOrder
import Liblinphone.Proofs.NotifyRefusal
import Liblinphone.Proofs.ConferenceRoster
import Liblinphone.Proofs.FullState
import Liblinphone.Proofs.DeviceEndpoints
import Liblinphone.Proofs.ParticipantFollowing
import Liblinphone.Proofs.ServerConference
import Liblinphone.Proofs.CatchUp
import Liblinphone.Proofs.ConfigPersistence
import Liblinphone.Proofs.InvitationsReported
import Liblinphone.Proofs.ConferenceParticipants
import Liblinphone.Proofs.SchedulerConference
import Liblinphone.Proofs.OneInvitation
import Liblinphone.Proofs.ConfigurationLines
import Liblinphone.Proofs.FailedTries
import Liblinphone.Proofs.SelectedConfiguration
import Liblinphone.Proofs.PayloadNumbers
import Liblinphone.FriendList
import Liblinphone.Proofs.FriendIndexes
import Liblinphone.Proofs.FriendMembership
import Liblinphone.CardDavContext
import Liblinphone.Proofs.CardDavRevision
import Liblinphone.Proofs.CardDavMembers
import Liblinphone.Proofs.CardDavEdits
import Liblinphone.Proofs.CardDavConvergence
import Liblinphone.ConfigValues
import Liblinphone.NatPolicy
import Liblinphone.Proofs.ConfigValues
import Liblinphone.Proofs.NatPolicies
import Liblinphone.AccountParams
import Liblinphone.Proofs.AccountPersistence
import Liblinphone.MagicSearch
import Liblinphone.Proofs.SearchCache
import Liblinphone.Library.Ordered
import Liblinphone.Library.Xml
import Liblinphone.Presence
import Liblinphone.Proofs.PersonReading
import Liblinphone.Proofs.PresenceRoundTrip
import Liblinphone.Proofs.DynamicNumbers
import Liblinphone.Proofs.ActiveStreams
import Liblinphone.Proofs.OneMatchingCodec
import Liblinphone.CapabilityIndexes
import Liblinphone.Proofs.FreeIndexes
import Liblinphone.TransportCapabilities
import Liblinphone.Proofs.TransportLines
import Liblinphone.RtcpFeedback
import Liblinphone.Proofs.FeedbackRoundTrip
import Liblinphone.AsyncSearch
import Liblinphone.Proofs.LatestRequest
import Liblinphone.Proofs.Alternatives
import Liblinphone.Library.Pattern
import Liblinphone.Proofs.FilterMatching
import Liblinphone.Library.Neighbours
import Liblinphone.Proofs.ResultOrder
import Liblinphone.Proofs.SearchDuplicates
import Liblinphone.Library.Calendar
import Liblinphone.Utils
import Liblinphone.IcsText
import Liblinphone.ParticipantParameters
import Liblinphone.Proofs.ParticipantParameters
import Liblinphone.Ics
import Liblinphone.IcsParser
import Liblinphone.Proofs.IcsTexts
import Liblinphone.Proofs.IcsReception
import Liblinphone.Proofs.IcsDurations
import Liblinphone.Proofs.IcsUids
import Liblinphone.Cpim
import Liblinphone.Proofs.TimeOffsets
import Liblinphone.Proofs.CpimDates
import Liblinphone.CpimGrammar
import Liblinphone.CpimHeaders
import Liblinphone.Proofs.CpimRules
import Liblinphone.Proofs.CpimHeaderValues
import Liblinphone.Proofs.CpimDateValues
import Liblinphone.Proofs.CpimHeaderLines
import Liblinphone.Proofs.CpimKeptHeaders
import Liblinphone.Proofs.CpimRoundTrip
import Liblinphone.Proofs.ConferenceWindow
import Liblinphone.Conference
import Liblinphone.Proofs.ConferenceAdding
import Liblinphone.FriendListPresence
import Liblinphone.Proofs.PresenceNotification
import Liblinphone.ConfigNumbers
import Liblinphone.Proofs.ConfigAccessors
import Liblinphone.Proofs.ConfigMap
import Liblinphone.ConfigFile
import Liblinphone.Proofs.ConfigFile
import Liblinphone.Library.NumberSets
import Liblinphone.DialPlan
import Liblinphone.Proofs.CallingCodes
import Liblinphone.Proofs.PhoneNumbers
import Liblinphone.Library.Recency
import Liblinphone.LruCache
import Liblinphone.Proofs.LruCache
import Liblinphone.ConferenceId
import Liblinphone.Proofs.ConferenceIdCaches
import Liblinphone.AddressText
import Liblinphone.Library.PairOrder
import Liblinphone.Proofs.ConferenceIdKeys
import Liblinphone.IceAttributes
import Liblinphone.Proofs.IceRoundTrip
import Liblinphone.Library.Overlay
import Liblinphone.SessionSdp
import Liblinphone.DescriptionCopies
import Liblinphone.Proofs.DescriptionCopies
import Liblinphone.PushNotificationConfig
import Liblinphone.Proofs.PushTokens
import Liblinphone.ContentType
import Liblinphone.Proofs.ContentTypeText
import Liblinphone.Library.Expression
import Liblinphone.Version
import Liblinphone.Proofs.Versions
import Liblinphone.Proofs.CapabilityDescriptors
import Liblinphone.Proofs.PersonIsolation
import Liblinphone.PresencePersons
import Liblinphone.Proofs.RecentActivity
import Liblinphone.PresenceNotes
import Liblinphone.Proofs.PresenceNotes
import Liblinphone.PresenceCapabilities
import Liblinphone.Proofs.CapabilityQueries
import Liblinphone.ServerChatRoom
import Liblinphone.Proofs.ChatRoomChanges
import Liblinphone.Proofs.ChatRoomSteps
import Liblinphone.Proofs.ChatRoomCalls
import Liblinphone.Proofs.ChatRoomDelivery
import Liblinphone.Proofs.ChatRoomPresence
import Liblinphone.Proofs.ChatRoomAdmins
import Liblinphone.Proofs.MessageAttempts
import Liblinphone.Proofs.MessageRequests
import Liblinphone.Proofs.MessageSecrecy
import Liblinphone.Proofs.MessagePacking
import Liblinphone.EphemeralMessages
import Liblinphone.Proofs.EphemeralCountdown
import Liblinphone.Proofs.EphemeralTasks
import Liblinphone.Proofs.EphemeralOrder
