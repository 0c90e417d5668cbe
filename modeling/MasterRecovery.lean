import MasterRecovery.Lib.Checks
import MasterRecovery.Lib.Transcript
import MasterRecovery.Lib.Quorum
import MasterRecovery.Lib.Machine
import MasterRecovery.Lib.Calls
import MasterRecovery.Lib.WriteOnce
import MasterRecovery.Types
import MasterRecovery.Crypto
import MasterRecovery.Wire
import MasterRecovery.WireBinding
import MasterRecovery.Storage
import MasterRecovery.RotationProtocol
import MasterRecovery.WitnessServer
import MasterRecovery.WitnessSteps
import MasterRecovery.PendingSuccessor
import MasterRecovery.CardQuorum
import MasterRecovery.CapsuleValidation
import MasterRecovery.FreshReads
import MasterRecovery.WitnessInvariant
import MasterRecovery.WitnessRuns
import MasterRecovery.WitnessAcceptance
import MasterRecovery.WitnessNetwork
import MasterRecovery.ForkFreedom
import MasterRecovery.VetoExclusion
import MasterRecovery.RollbackSafety
import MasterRecovery.ReadAvailability
import MasterRecovery.DurableAcks
import MasterRecovery.WitnessCatchUp
import MasterRecovery.SignerTypes
import MasterRecovery.SignerWire
import MasterRecovery.SignerWireBinding
import MasterRecovery.RotationCertificates
import MasterRecovery.CertificateValidation
import MasterRecovery.SignerRuntime
import MasterRecovery.SignerSteps
import MasterRecovery.SignerLocks
import MasterRecovery.SignerVotes
import MasterRecovery.AbortExclusion
import MasterRecovery.ExpiredLock
import MasterRecovery.EpochOrder
import MasterRecovery.DrainingVotes
import MasterRecovery.GuardianTypes
import MasterRecovery.GuardianWire
import MasterRecovery.Lib.Effects
import MasterRecovery.RotationMachine
import MasterRecovery.GuardianStore
import MasterRecovery.GuardianCrypto
import MasterRecovery.GuardianCertificates
import MasterRecovery.GuardianRuntime
import MasterRecovery.GuardianHandlers
import MasterRecovery.GuardianActivation
import MasterRecovery.GuardianRecovery
import MasterRecovery.GuardianSteps
import MasterRecovery.GuardianServed
import MasterRecovery.GuardianRuns
import MasterRecovery.RecoveryExclusion
import MasterRecovery.CustodyDisclosure
import MasterRecovery.RotationHistory
import MasterRecovery.RecoveryTypes
import MasterRecovery.EpochRecovery
import MasterRecovery.GuardianMachine
import MasterRecovery.GuardianMailbox
import MasterRecovery.MailboxServed
import MasterRecovery.HardCancel
import MasterRecovery.MailboxRefinement
import MasterRecovery.DrainingEpochs
import MasterRecovery.ExpiredSlot
import MasterRecovery.StoreInStep
import MasterRecovery.GuardianRefusals
import MasterRecovery.RequestBook
import MasterRecovery.ReleaseDiscipline
import MasterRecovery.RecoveryMachine
import MasterRecovery.EpochRequests
import MasterRecovery.EpochRefusals
import MasterRecovery.EpochRetirement
import MasterRecovery.TerminalStates
import MasterRecovery.StoreRuns
import MasterRecovery.RotationTombstones
import MasterRecovery.SuccessorExclusion
import MasterRecovery.KeyDerivation
import MasterRecovery.Lib.Bitmap
import MasterRecovery.SecretSharing
import MasterRecovery.EpochChains
import MasterRecovery.ErasureCoding
import MasterRecovery.FreshRoutes
import MasterRecovery.GuardianIndices
import MasterRecovery.GuardianWireBinding
import MasterRecovery.RecoveryWireBinding
import MasterRecovery.ReleaseDelay
import MasterRecovery.SessionDelay
import MasterRecovery.ThresholdCertificates
import MasterRecovery.Transcripts
import MasterRecovery.UnsignedReads
import MasterRecovery.WitnessReadHash
import MasterRecovery.Lib.InOrder
import MasterRecovery.DpssMessages
import MasterRecovery.MailboxRouting
import MasterRecovery.Lib.Draws
import MasterRecovery.ObserverTransport
import MasterRecovery.SignerApprovals
import MasterRecovery.CustodyRelease
import MasterRecovery.HandoffAcks
import MasterRecovery.SharingContinuity
import MasterRecovery.PolicyChain
import MasterRecovery.WitnessModel
import MasterRecovery.Lib.Gather
import MasterRecovery.Lib.Mapped
import MasterRecovery.RecoveryClient
import MasterRecovery.RecoveryIntegrity
import MasterRecovery.OwnerSetup
import MasterRecovery.SetupProvisions
import MasterRecovery.PayloadRecovery
import MasterRecovery.SignerAnswers
import MasterRecovery.GuardianAnswers
import MasterRecovery.RecoveryRoundTrip
