import Calculator.Main
import Calculator.Proofs.CommandLine.Parts
import Calculator.Proofs.CommandLine.SingleLine
import Calculator.Proofs.CommandLine.Verbosity
import Calculator.Proofs.Postfix.Forest
import Calculator.Proofs.Postfix.Growth
import Calculator.Proofs.Power
import Calculator.Proofs.Session.Assignments
import Calculator.Proofs.Session.Echo
import Calculator.Proofs.Session.Juxtaposition
import Calculator.Proofs.Session.Listing
import Calculator.Proofs.Session.Omission
import Calculator.Proofs.Session.Rechecks
import Calculator.Proofs.Session.Respelling
import Calculator.Proofs.Substitution
import Calculator.Proofs.Token.Dump
import Calculator.Proofs.Token.Words
import Calculator.Proofs.Variables.Canonical
import Calculator.Proofs.Yard.Operands
import Calculator.Proofs.Yard.Refusals
