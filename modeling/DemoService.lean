import DemoService.AccessTokens
import DemoService.AssistedOutcomes
import DemoService.AudioBridge
import DemoService.Base64
import DemoService.BigEndian
import DemoService.BridgeFrames
import DemoService.CallerAudio
import DemoService.ChunkCover
import DemoService.ChunkersAgree
import DemoService.CodePoints
import DemoService.ContactTargets
import DemoService.ContextChunking
import DemoService.DroppedRelationships
import DemoService.ExcerptGrounding
import DemoService.FilteredFolds
import DemoService.FollowUp
import DemoService.FulfillmentRetry
import DemoService.HeadBodySplit
import DemoService.IngestAtomicity
import DemoService.Interleaving
import DemoService.InviteFulfillment
import DemoService.IssuedCodes
import DemoService.JobSearchExtractors
import DemoService.JobSearchIngestion
import DemoService.JobSearchLines
import DemoService.JobSearchViews
import DemoService.MediaForwarding
import DemoService.NearestDouble
import DemoService.OwnerIsolation
import DemoService.PersonaLifecycle
import DemoService.PerspectiveEvidence
import DemoService.PerspectiveStaleness
import DemoService.PhoneNumbers
import DemoService.PortPools
import DemoService.PyGroups
import DemoService.PyJson
import DemoService.PyJsonFuel
import DemoService.PyJsonRoundTrip
import DemoService.RagCitations
import DemoService.RagConversations
import DemoService.RagEmbedding
import DemoService.RagIsolation
import DemoService.RagPersonaSearch
import DemoService.RedemptionLimit
import DemoService.RejectedRequests
import DemoService.RepositoryAgreement
import DemoService.RtpBridge
import DemoService.RtpPlayout
import DemoService.RunBudgets
import DemoService.RunInput
import DemoService.RunLifecycle
import DemoService.RunSessions
import DemoService.SdpMedia
import DemoService.SerdeJson
import DemoService.SessionUpdates
import DemoService.SidecarDocuments
import DemoService.SidecarSpans
import DemoService.SipAcks
import DemoService.SipBookkeeping
import DemoService.SipDialogIdentity
import DemoService.SipFinalAnswers
import DemoService.SipInvites
import DemoService.SipOwnResults
import DemoService.SipPortReturn
import DemoService.SipReplies
import DemoService.SipRequests
import DemoService.SipRetransmissions
import DemoService.SipRoundTrip
import DemoService.SipTeardown
import DemoService.SipTranscript
import DemoService.SmsOptOut
import DemoService.SmsReplyLimit
import DemoService.TextToolsAgreement
import DemoService.ToTags
import DemoService.TokenAuthenticity
import DemoService.TokenFailures
import DemoService.TransferAtomicity
import DemoService.TransferPorts
import DemoService.UniqueTable
import DemoService.UploadAgreement
import DemoService.VoiceBargeIn
import DemoService.VoiceDeltas
import DemoService.VoiceFrames
import DemoService.VoiceHistories
import DemoService.VoiceResponses
import DemoService.VoiceSessions
import DemoService.VoiceStream
import DemoService.VoiceToolCalls
import DemoService.WarmTransfers
import DemoService.WorkflowAudit
import DemoService.WorkflowBriefs
import DemoService.WorkflowDuplicates
import DemoService.WorkflowExtraction
