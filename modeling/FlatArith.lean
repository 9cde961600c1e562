import FlatArith.Reachable
import FlatArith.Session
import FlatArith.Tree
import FlatArith.Proofs.Runs
import FlatArith.Proofs.Frames
import FlatArith.Proofs.Grammar
import FlatArith.Proofs.ZeroDivisors
import FlatArith.Proofs.Positions
import FlatArith.Proofs.MalformedLists
import FlatArith.Proofs.CalculationFailures
import FlatArith.Proofs.PostOrder
import FlatArith.Proofs.LiteralSaturation
import FlatArith.Proofs.Comparisons
import FlatArith.Proofs.PlainArithmetic
import FlatArith.Proofs.SpecialValues
import FlatArith.Proofs.Moves
import FlatArith.Proofs.NotANumber
import FlatArith.Proofs.SignedZeros
import FlatArith.Proofs.ValidationInverse
import FlatArith.Proofs.EqualLists
import FlatArith.Proofs.LogShapes
import FlatArith.Proofs.Digits
import FlatArith.Proofs.NumberTexts
import FlatArith.Proofs.QuotedTexts
import FlatArith.Proofs.CheckOrder
import FlatArith.Proofs.Messages
import FlatArith.Proofs.PrintableMessages
import FlatArith.Proofs.SessionHistory
import FlatArith.Proofs.SlotChecks
import FlatArith.Proofs.StackHeights
