import PenaltyPayment.Construction.Go
import PenaltyPayment.Construction.ConfigGet
import PenaltyPayment.Construction.GetGoroutines
import PenaltyPayment.Construction.PenaltyConfig
import PenaltyPayment.Construction.ReasonProvider
import PenaltyPayment.Construction.Configuration
import PenaltyPayment.Construction.Main
import PenaltyPayment.Construction.Serve
import PenaltyPayment.Proof.ConfigCache
import PenaltyPayment.Proof.GetLinearizable
import PenaltyPayment.Proof.PenaltyConfigLoad
import PenaltyPayment.Proof.Reason
import PenaltyPayment.Proof.ConfigurationEndpoint
import PenaltyPayment.Proof.Startup
import PenaltyPayment.Proof.GetProgress
import PenaltyPayment.Proof.ServedGet
import PenaltyPayment.Proof.Shutdown
