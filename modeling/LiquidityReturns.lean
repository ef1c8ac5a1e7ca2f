import LiquidityReturns.Codec.Prices
import LiquidityReturns.Inquiry.Concurrent
import LiquidityReturns.Json.Printer
import LiquidityReturns.Main
import LiquidityReturns.Midgard.Client
import LiquidityReturns.Service.Routes
import LiquidityReturns.Source.Fixture
import LiquidityReturns.Proofs.Inquiry.DirectReturns
import LiquidityReturns.Proofs.Returns.Headroom
import LiquidityReturns.Proofs.Returns.Mirror
import LiquidityReturns.Proofs.Returns.OrderIndependence
import LiquidityReturns.Proofs.Returns.ReturnIdentity
import LiquidityReturns.Proofs.Codec.RoundTrip
import LiquidityReturns.Proofs.Midgard.WrittenActions
import LiquidityReturns.Proofs.Returns.Accumulator
import LiquidityReturns.Proofs.Returns.IrrelevantActions
import LiquidityReturns.Proofs.Returns.HistoryAndState
import LiquidityReturns.Proofs.Inquiry.InquiryOutcome
import LiquidityReturns.Proofs.Service.ReturnsStatus
import LiquidityReturns.Proofs.Returns.LargerStakes
import LiquidityReturns.Proofs.Returns.MovedCoins
import LiquidityReturns.Proofs.Returns.SpotFlows
import LiquidityReturns.Proofs.Returns.SpotWorth
import LiquidityReturns.Proofs.Midgard.ActionGrammar
import LiquidityReturns.Proofs.Midgard.WireNumbers
import LiquidityReturns.Proofs.Inquiry.CompletionOrder
import LiquidityReturns.Proofs.Inquiry.PageCover
import LiquidityReturns.Proofs.Inquiry.FromBothSides
import LiquidityReturns.Proofs.Returns.ReportGain
import LiquidityReturns.Proofs.Codec.ReportText
