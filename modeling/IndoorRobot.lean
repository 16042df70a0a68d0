import IndoorRobot.ChecksumErrors
import IndoorRobot.ClientPacing
import IndoorRobot.ClientTimestamps
import IndoorRobot.CommandGuardSafety
import IndoorRobot.CoordinatorOperations
import IndoorRobot.CoordinatorReplay
import IndoorRobot.CrcBursts
import IndoorRobot.CrsfChannelBits
import IndoorRobot.CrsfStreams
import IndoorRobot.DecoderResynchronization
import IndoorRobot.Dri0041Registers
import IndoorRobot.DriveKinematics
import IndoorRobot.Drv8833Registers
import IndoorRobot.FeedforwardLaw
import IndoorRobot.FrameSender
import IndoorRobot.FrameStream
import IndoorRobot.LinkTrace
import IndoorRobot.ManualControlProbe
import IndoorRobot.ManualDrive
import IndoorRobot.ManualFrames
import IndoorRobot.ManualRearmTrace
import IndoorRobot.MotorDemand
import IndoorRobot.PiMotionCoordinator
import IndoorRobot.ReceiveDelivery
import IndoorRobot.ReceivePath
import IndoorRobot.RunnerCoherence
import IndoorRobot.SerialPorts
import IndoorRobot.SessionAgreement
import IndoorRobot.SessionRetries
import IndoorRobot.StopConfirmation
import IndoorRobot.StopDeadline
import IndoorRobot.StopVerifierHistory
import IndoorRobot.UartProtocolReceiver
import IndoorRobot.UartRxPort
import IndoorRobot.WheelDemand
import IndoorRobot.WheelMachines
import IndoorRobot.WheelReversal
import IndoorRobot.WheelSpeedEstimator
import IndoorRobot.WheelVelocityConverter
import IndoorRobot.WireMeaning
